import CaseResolution.Lib.Base64
import CaseResolution.Lib.Json
import CaseResolution.Lib.Timestamps
import CaseResolution.Policies.Impl.Parser

/-!
This module contains the normalisation of a Gmail message: how the JSON of a message becomes a record with
bounded fields, which of its MIME parts its body is taken from, and what it lists as attachments.
-/

namespace CaseResolution

namespace Gmail

open Unicode Guard

/--
The exceptions a normalisation may end with. Only `InboxProviderUnavailable` is raised on purpose.
-/
inductive Failure where
  | inboxProviderUnavailable (message : String)
  | validationError
  | typeError
  | valueError
  | recursionError
  | parserError
deriving DecidableEq

/--
What the standard library makes of texts: `casefold`, `getaddresses`, `isdigit`, `int` and `fromtimestamp` of
so many milliseconds, which give nothing where they raise, and the pieces of text an HTML parser finds.
-/
class TextLibrary where
  casefold : Codes → Codes
  getaddresses : Codes → List (Codes × Codes)
  isdigit : Codes → Bool
  int : Codes → Option Nat
  fromtimestamp : Nat → Option CivilTime
  htmlData : List Char → Option (List (List Char))

/--
`json.dumps` of a document with sorted keys, `str` of a value, and whether a number counts as true. Texts of
documents that are nested too deeply cannot be written.
-/
class ValueLibrary where
  dumps : List (Codes × Json) → Option Codes
  str : Json → Option Codes
  isNonzero : Codes → Bool

/--
A text of 64 hexadecimal digits.
-/
structure HexDigest where
  text : String
  pattern : text.length = 64 ∧ ∀ c ∈ text.toList, ('a' ≤ c ∧ c ≤ 'f') ∨ ('0' ≤ c ∧ c ≤ '9')
deriving DecidableEq

class Sha256 where
  hexdigest : Codes → HexDigest

/--
A field that has to be a text of between `least` and `most` characters.
-/
structure BoundedText (least most : Nat) where
  text : String
  bounds : least ≤ text.length ∧ text.length ≤ most
deriving DecidableEq

/--
Surrogates that stand alone are refused in every text field.
-/
def AreCharacters (value : Codes) : Prop :=
  ∀ code ∈ value, code.isValidChar

instance : DecidablePred AreCharacters := fun value =>
  inferInstanceAs (Decidable (∀ code ∈ value, code.isValidChar))

def Fits (least most : Nat) (value : Codes) : Prop :=
  AreCharacters value ∧ least ≤ value.length ∧ value.length ≤ most

instance (least most : Nat) : DecidablePred (Fits least most) := fun _ =>
  inferInstanceAs (Decidable (_ ∧ _))

def boundedText (least most : Nat) (value : Codes) : Except Failure (BoundedText least most) :=
  if h : Fits least most value then
    .ok {
      text := String.ofList (value.map Char.ofNat)
      bounds := by rw [String.length_ofList, List.length_map]; exact h.2 }
  else
    .error .validationError

def optionally {α β : Type} (check : α → Except Failure β) : Option α → Except Failure (Option β)
  | none => pure none
  | some value => do
    let checked ← check value
    pure (some checked)

structure MessageAddress where
  address : BoundedText 3 320
  name : Option (BoundedText 0 200)
deriving DecidableEq

/--
An attachment of which only its metadata are known.
-/
structure ProviderAttachment where
  providerAttachmentId : BoundedText 1 500
  name : BoundedText 1 500
  mediaType : BoundedText 1 200
  reportedSize : Nat
  reportedSize_le : reportedSize ≤ 100000000
deriving DecidableEq

inductive MessageDirection where
  | inbound
  | outbound
deriving DecidableEq

structure ProviderMessage where
  providerMessageId : BoundedText 1 500
  providerThreadId : BoundedText 1 500
  rfcMessageId : Option (BoundedText 0 1000)
  subject : BoundedText 1 500
  sender : MessageAddress
  recipients : List MessageAddress
  recipients_length : recipients.length ≤ 50
  direction : MessageDirection
  receivedAt : CivilTime
  body : BoundedText 1 100000
  sanitizedContentHash : HexDigest
  rawSourceHash : HexDigest
  parserVersion : BoundedText 1 64
  omissionReason : Option (BoundedText 0 500)
  attachments : List ProviderAttachment
  attachments_length : attachments.length ≤ 25
deriving DecidableEq

abbrev Members := List (Codes × Json)

def textOf : Option Json → Option Codes
  | some (.str text) => some text
  | _ => none

def objectOf : Json → Option Members
  | .object members => some members
  | _ => none

def get (payload : Members) (key : String) : Option Json :=
  Json.get payload (codes key)

def getObject (payload : Members) (key : String) : Option Members :=
  (get payload key).bind objectOf

/--
`_required_text`
-/
def requiredText (payload : Members) (key : String) : Except Failure Codes :=
  match textOf (get payload key) with
  | some text =>
    if text = [] then
      .error (.inboxProviderUnavailable "The inbox message response is incomplete.")
    else
      .ok text
  | none => .error (.inboxProviderUnavailable "The inbox message response is incomplete.")

section Headers

variable [TextLibrary]

def headerRow (row : Json) : Option (Codes × Codes) := do
  let members ← objectOf row
  let name ← textOf (get members "name")
  let value ← textOf (get members "value")
  some (TextLibrary.casefold name, value.take 4000)

/--
`_headers`. Of several headers with one name the last one counts.
-/
def headers (payload : Members) : List (Codes × Codes) :=
  match get payload "headers" with
  | some (.array rows) => (rows.take 100).filterMap headerRow
  | _ => []

def header (payload : Members) (name : String) : Option Codes :=
  ((headers payload).reverse.find? fun row => row.1 = codes name).map Prod.snd

/--
The pairs of a name and an address that count: those whose address has an `@`.
-/
def addressPairs (value : Codes) : List (Codes × Codes) :=
  (TextLibrary.getaddresses value).filter fun pair => pair.2 ≠ [] ∧ '@'.toNat ∈ pair.2

def messageAddress (pair : Codes × Codes) : Except Failure MessageAddress := do
  let address ← boundedText 3 320 (TextLibrary.casefold pair.2)
  let name ← optionally (boundedText 0 200) (if pair.1 = [] then none else some pair.1)
  pure { address, name }

/--
`_addresses`
-/
def addresses (value : Codes) : Except Failure (List MessageAddress) :=
  (addressPairs value).mapM messageAddress

def unknownSender : MessageAddress where
  address := { text := "unknown@example.invalid", bounds := by decide }
  name := some { text := "Unknown sender", bounds := by decide }

/--
`_single_address`
-/
def singleAddress (value : Codes) : Except Failure MessageAddress := do
  let found ← addresses value
  pure (found.head?.getD unknownSender)

end Headers

def maxMimeDepth : Nat := 10

def maxBodyBytes : Nat := 100000

/--
`_decode`: what is no base 64 counts as empty.
-/
def decode (value : Codes) : List Nat × Bool :=
  let letters := value.map Char.ofNat
  let decoded :=
    if value.all (fun code => code < 0x80) then
      Base64.urlsafeB64decode (letters ++ Base64.padding letters)
    else
      none
  match decoded with
  | none => ([], false)
  | some decoded => (decoded.take maxBodyBytes, maxBodyBytes < decoded.length)

/--
`_TextExtractor.text`: the pieces joined by blanks, with every run of white space made one blank.
-/
def collapse : List Char → List Char
  | [] => []
  | c :: rest =>
    if PolicyParser.isSpace c then
      match collapse rest with
      | ' ' :: kept => ' ' :: kept
      | kept => ' ' :: kept
    else
      c :: collapse rest

def extractedText (pieces : List (List Char)) : List Char :=
  PolicyParser.strip (collapse ([' '].intercalate pieces))

inductive TextKind where
  | plain
  | html
deriving DecidableEq

/--
`mime_type in {"text/plain", "text/html"}`. Lists and objects have no hash.
-/
def textKind (mimeType : Option Json) : Except Failure (Option TextKind) :=
  match mimeType with
  | some (.array _) => .error .typeError
  | some (.object _) => .error .typeError
  | some (.str text) =>
    .ok (if text = codes "text/plain" then some .plain
      else if text = codes "text/html" then some .html
      else none)
  | _ => .ok none

/--
A part that holds its text itself.
-/
structure Leaf where
  kind : TextKind
  encoded : Codes
deriving DecidableEq

/--
The text of a part of kind `kind`, if it has any data.
-/
def ownLeaf (payload : Members) (kind : Option TextKind) : Option Leaf := do
  let kind ← kind
  let own ← getObject payload "body"
  let encoded ← textOf (get own "data")
  if encoded = [] then none else some { kind, encoded }

/--
A text, and why it is not the whole one.
-/
abbrev Body := List Char × Option String

def shownText [TextLibrary] (kind : TextKind) (text : List Char) : Except Failure (List Char) :=
  match kind with
  | .plain => pure text
  | .html => do
    let pieces ← orThrow (TextLibrary.htmlData text) .parserError
    pure (extractedText pieces)

def leafText [TextLibrary] (leaf : Leaf) : Except Failure Body := do
  let (decoded, truncated) := decode leaf.encoded
  let text ← shownText leaf.kind (decodeReplacing decoded)
  pure (PolicyParser.strip text, if truncated then some "Message body was truncated." else none)

/--
The parts of a part that are looked at, unless it has something other than a list of parts.
-/
def parts (payload : Members) : Option (List Members) :=
  match get payload "parts" with
  | none => some []
  | some (.array items) => some ((items.take 50).filterMap objectOf)
  | some _ => none

def isPlainPart (part : Members) : Bool :=
  textOf (get part "mimeType") = some (codes "text/plain")

/--
The first text among those of parts of type `text/plain`, or else among the others.
-/
def preferred (found : List (Members × Body)) : Option (Members × Body) :=
  let candidates := found.filter fun candidate => candidate.2.1 ≠ []
  let plain := candidates.filter fun candidate => isPlainPart candidate.1
  let html := candidates.filter fun candidate => ¬ isPlainPart candidate.1
  (if plain ≠ [] then plain else html).head?

def chosenBody (found : List (Members × Body)) : Body :=
  match preferred found with
  | some (_, candidate) => candidate
  | none => ([], some "Message body was unavailable.")

/--
`_body` of a part above which `levels` levels are left.
-/
def bodyAt [TextLibrary] : Nat → Members → Except Failure Body
  | 0, _ => .ok ([], some "MIME structure exceeded the supported depth.")
  | levels + 1, payload => do
    let kind ← textKind (get payload "mimeType")
    match ownLeaf payload kind with
    | some leaf => leafText leaf
    | none =>
      match parts payload with
      | none => pure ([], some "Message body was unavailable.")
      | some parts => do
        let found ← parts.mapM fun part => do
          let candidate ← bodyAt levels part
          pure (part, candidate)
        pure (chosenBody found)

/--
`_body(payload, depth=0)`
-/
def body [TextLibrary] (payload : Members) : Except Failure Body :=
  bodyAt (maxMimeDepth + 1) payload

section Attachments

variable [ValueLibrary]

/--
The value in front of `or`: nothing where it counts as false.
-/
def truthy (value : Option Json) : Option Json :=
  value.filter fun value =>
    match value with
    | .null => false
    | .bool value => value
    | .number literal => ValueLibrary.isNonzero literal
    | .str text => text ≠ []
    | .array items => ¬ items.isEmpty
    | .object members => ¬ members.isEmpty

def digitsValue (digits : Codes) : Option Nat :=
  if digits ≠ [] then ofDecimal digits else none

/--
A JSON number that is read as an `int`, and a truth value, which is one as well.
-/
def intOf : Option Json → Option Int
  | none => some 0
  | some (.bool value) => some value.toNat
  | some (.number literal) =>
    match literal with
    | c :: digits =>
      if c = '-'.toNat then (digitsValue digits).map fun n => -(n : Int)
      else (digitsValue literal).map fun n => (n : Int)
    | [] => none
  | _ => none

/--
What a part says about an attachment: its file name, its id, its size and its own type.
-/
structure AttachmentData where
  filename : Codes
  attachmentId : Codes
  size : Int
  mimeType : Option Json

/--
A part describes an attachment if it has a file name, an id and a size.
-/
def attachmentData (payload : Members) : Option AttachmentData := do
  let filename ← textOf (get payload "filename")
  let own ← getObject payload "body"
  let attachmentId ← textOf (get own "attachmentId")
  let size ← intOf (get own "size")
  if filename = [] then none
  else some { filename, attachmentId, size, mimeType := truthy (get payload "mimeType") }

/--
`str(payload.get("mimeType") or "application/octet-stream")`
-/
def AttachmentData.mediaType (data : AttachmentData) : Option Codes :=
  match data.mimeType with
  | none => some (codes "application/octet-stream")
  | some value => ValueLibrary.str value

def AttachmentData.attachment (data : AttachmentData) : Except Failure ProviderAttachment := do
  let mediaType ← orThrow data.mediaType .recursionError
  let providerAttachmentId ← boundedText 1 500 data.attachmentId
  let name ← boundedText 1 500 (data.filename.take 500)
  let mediaType ← boundedText 1 200 (mediaType.take 200)
  pure {
    providerAttachmentId, name, mediaType
    reportedSize := (max 0 (min data.size 100000000)).toNat
    reportedSize_le := by omega }

/--
`_attachments` of a part above which `levels` levels are left.
-/
def attachmentsAt : Nat → Members → Except Failure (List ProviderAttachment)
  | 0, _ => .ok []
  | levels + 1, payload => do
    let own ← (attachmentData payload).toList.mapM AttachmentData.attachment
    let further ← ((parts payload).getD []).mapM (attachmentsAt levels)
    pure (own ++ further.flatten)

/--
`_attachments(payload, depth=0)`
-/
def attachments (payload : Members) : Except Failure (List ProviderAttachment) :=
  attachmentsAt (maxMimeDepth + 1) payload

end Attachments

variable [TextLibrary]

/--
`_received_at`
-/
def receivedAt (payload : Members) : Except Failure CivilTime :=
  match textOf (get payload "internalDate") with
  | none => .error (.inboxProviderUnavailable "The inbox message timestamp is invalid.")
  | some value =>
    if TextLibrary.isdigit value then do
      let milliseconds ← orThrow (TextLibrary.int value) .valueError
      orThrow (TextLibrary.fromtimestamp milliseconds) .valueError
    else
      .error (.inboxProviderUnavailable "The inbox message timestamp is invalid.")

def placeholder : Codes :=
  codes "[Message body unavailable]"

/--
The fields of the record before they are checked, with all the recipients and attachments there are.
-/
structure Draft where
  messageId : Codes
  threadId : Codes
  rfcMessageId : Option Codes
  subject : Codes
  sender : MessageAddress
  recipients : List MessageAddress
  direction : MessageDirection
  receivedAt : CivilTime
  body : Codes
  omissionReason : Option String
  attachments : List ProviderAttachment

variable [Sha256]

def Draft.record (draft : Draft) (rawSource : Codes) : Except Failure ProviderMessage := do
  let providerMessageId ← boundedText 1 500 draft.messageId
  let providerThreadId ← boundedText 1 500 draft.threadId
  let rfcMessageId ← optionally (boundedText 0 1000) draft.rfcMessageId
  let subject ← boundedText 1 500 draft.subject
  let body ← boundedText 1 100000 draft.body
  let omissionReason ← optionally (fun reason => boundedText 0 500 (codes reason)) draft.omissionReason
  pure {
    providerMessageId, providerThreadId, rfcMessageId, subject, sender := draft.sender
    recipients := draft.recipients.take 50
    recipients_length := List.length_take_le _ _
    direction := draft.direction
    receivedAt := draft.receivedAt
    body
    sanitizedContentHash := Sha256.hexdigest draft.body
    rawSourceHash := Sha256.hexdigest rawSource
    parserVersion := { text := "gmail-mime-v1", bounds := by decide }
    omissionReason
    attachments := draft.attachments.take 25
    attachments_length := List.length_take_le _ _ }

variable [ValueLibrary]

/--
The subject, or a text in its place.
-/
def subjectOf (messagePayload : Members) : Codes :=
  match header messagePayload "subject" with
  | none => codes "(No subject)"
  | some subject => (if subject = [] then codes "(No subject)" else subject).take 500

def normalizeMessage (payload : Members) (accountAddress : Codes) : Except Failure ProviderMessage := do
  let messageId ← requiredText payload "id"
  let threadId ← requiredText payload "threadId"
  let messagePayload ← orThrow (getObject payload "payload")
    (.inboxProviderUnavailable "The inbox message has no MIME payload.")
  let sender ← singleAddress ((header messagePayload "from").getD [])
  let recipients ← addresses ((header messagePayload "to").getD [])
  let (text, omissionReason) ← body messagePayload
  let attachments ← attachments messagePayload
  let receivedAt ← receivedAt payload
  let rawSource ← orThrow (ValueLibrary.dumps payload) .recursionError
  let draft : Draft := {
    messageId, threadId
    rfcMessageId := header messagePayload "message-id"
    subject := subjectOf messagePayload
    sender
    recipients
    direction :=
      if TextLibrary.casefold (codes sender.address.text) = TextLibrary.casefold accountAddress then
        .outbound
      else
        .inbound
    receivedAt
    body := if text = [] then placeholder else text.map Char.toNat
    omissionReason
    attachments }
  draft.record rawSource

end Gmail

end CaseResolution
