import CaseResolution.Domain.Error
import CaseResolution.Lib.Base64
import CaseResolution.Lib.Json
import CaseResolution.Lib.Timestamps

/-!
This module contains the cursors of the action, review, connection and notification lists: how the last
row of a page is written into a text and what is read back from a text.
-/

namespace CaseResolution

open Unicode

/--
The parts of the interpreter that bound how deeply values may be nested: `json.loads` opens at most
`jsonDepth` containers within each other, and `str` gives no text where it raises `RecursionError`.
-/
class Interpreter where
  jsonDepth : Nat
  jsonDepth_pos : 0 < jsonDepth
  str : Json → Option Codes
  str_text : ∀ text, str (.str text) = some text

/--
The exceptions a codec lets out.
-/
inductive CursorFailure where
  | refused (error : Error)
  | recursionError
  | overflowError
deriving DecidableEq

/--
In what the codecs of the repositories differ: the key of the timestamp and the texts of the errors.
-/
structure CursorCodecs where
  timeKey : String
  invalid : Error
  mismatch : Error

namespace CursorCodecs

def payload (codec : CursorCodecs) (utc : CivilTime) (publicId filterFingerprint : String)
    : List (Codes × Codes) := [
  (codes codec.timeKey, utc.isoformat),
  (codes "public_id", codes publicId),
  (codes "filter", codes filterFingerprint)]

/--
`json.dumps(..).encode()` in base 64 without its padding. There is no cursor where the time is out of range
in UTC.
-/
def encodeCursor (codec : CursorCodecs) (time : CivilTime) (offset : UtcOffset)
    (publicId filterFingerprint : String) : Option String := do
  let utc ← time.toUtc offset
  let bytes := Json.dumps (codec.payload utc publicId filterFingerprint)
  some (String.ofList ((Base64.urlsafeB64encode bytes).rdropWhile (· = '=')))

variable [IsoFormat] [Interpreter]

def refuse {α : Type} (error : Error) : Except CursorFailure α :=
  .error (.refused error)

/--
The member of the payload as a text, whatever value it has.
-/
def memberText (codec : CursorCodecs) (members : List (Codes × Json)) (key : String)
    : Except CursorFailure Codes :=
  match Json.get members (codes key) with
  | none => refuse codec.invalid
  | some value =>
    match Interpreter.str value with
    | none => .error .recursionError
    | some text => .ok text

def loadPayload (codec : CursorCodecs) (cursor : String) : Except CursorFailure Json :=
  match Base64.urlsafeB64decode (cursor.toList ++ Base64.padding cursor.toList) with
  | none => refuse codec.invalid
  | some bytes =>
    match Json.loads Interpreter.jsonDepth bytes with
    | .ok payload => .ok payload
    | .error .valueError => refuse codec.invalid
    | .error .recursionError => .error .recursionError

/--
The time under its key. Only the members of an object can be asked for, and only texts are parsed.
-/
def readTime (codec : CursorCodecs) (members : List (Codes × Json)) : Except CursorFailure Timestamp :=
  match Json.get members (codes codec.timeKey) with
  | some (.str text) =>
    match IsoFormat.fromisoformat text with
    | some timestamp => .ok timestamp
    | none => refuse codec.invalid
  | _ => refuse codec.invalid

/--
What follows the guarded block.
-/
def checkFilter (codec : CursorCodecs) (expectedFilter : String) (timestamp : Timestamp)
    (publicId filterFingerprint : Codes) : Except CursorFailure (CivilTime × Codes) :=
  match timestamp.offset with
  | none => refuse codec.mismatch
  | some offset =>
    if filterFingerprint = codes expectedFilter then
      match timestamp.time.toUtc offset with
      | none => .error .overflowError
      | some utc => .ok (utc, publicId)
    else
      refuse codec.mismatch

def decodeCursor (codec : CursorCodecs) (cursor expectedFilter : String)
    : Except CursorFailure (CivilTime × Codes) := do
  match ← codec.loadPayload cursor with
  | .object members =>
    let timestamp ← codec.readTime members
    let publicId ← codec.memberText members "public_id"
    let filterFingerprint ← codec.memberText members "filter"
    codec.checkFilter expectedFilter timestamp publicId filterFingerprint
  | _ => refuse codec.invalid

end CursorCodecs

namespace ActionQueryRepository

def cursorCodec : CursorCodecs where
  timeKey := "updated_at"
  invalid := .invalidActionCursor "The action cursor is invalid."
  mismatch := .invalidActionCursor "The action cursor does not match these filters."

end ActionQueryRepository

namespace ReviewQueryRepository

def cursorCodec : CursorCodecs where
  timeKey := "submitted_at"
  invalid := .invalidReviewCursor "The review cursor is invalid."
  mismatch := .invalidReviewCursor "The review cursor does not match these filters."

end ReviewQueryRepository

namespace ConnectionRepository

def cursorCodec : CursorCodecs where
  timeKey := "updated_at"
  invalid := .invalidConnectionCursor "The connection cursor is invalid."
  mismatch := .invalidConnectionCursor "The connection cursor does not match these filters."

end ConnectionRepository

namespace NotificationRepository

def cursorCodec : CursorCodecs where
  timeKey := "created_at"
  invalid := .invalidNotificationCursor "The notification cursor is invalid."
  mismatch := .invalidNotificationCursor "The notification cursor does not match these filters."

end NotificationRepository

/--
The lists whose pages are linked by these cursors.
-/
inductive CursorList where
  | action
  | review
  | connection
  | notification
deriving DecidableEq

def CursorList.codec : CursorList → CursorCodecs
  | .action => ActionQueryRepository.cursorCodec
  | .review => ReviewQueryRepository.cursorCodec
  | .connection => ConnectionRepository.cursorCodec
  | .notification => NotificationRepository.cursorCodec

end CaseResolution
