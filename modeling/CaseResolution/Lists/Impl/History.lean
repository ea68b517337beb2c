import CaseResolution.Cases.Impl.Queue
import CaseResolution.Lib.Base64
import CaseResolution.Lib.Timestamps

/-!
This module contains the history of a case: its conversation and its activity, read in pages from the newest
entry on, the windows of them a workspace shows, and the cursors that lead to the older pages.
-/

namespace CaseResolution

open Guard

structure CaseHistoryPosition where
  occurredAt : CivilTime
  tieBreaker : String
  tieBreaker_length : 1 ≤ tieBreaker.length ∧ tieBreaker.length ≤ 128
deriving DecidableEq

def CaseHistoryPosition.of (occurredAt : CivilTime) (tieBreaker : String)
    : Except Error CaseHistoryPosition :=
  if tieBreaker_length : 1 ≤ tieBreaker.length ∧ tieBreaker.length ≤ 128 then
    .ok { occurredAt, tieBreaker, tieBreaker_length }
  else
    .error (.valueError "tie_breaker")

/--
The items of a page run from the oldest to the newest. The position is that of the oldest one, if there are
older ones.
-/
structure HistoryRecords (Row : Type) where
  items : List Row
  total : Nat
  nextPosition : Option CaseHistoryPosition

/--
In what the conversation and the activity of a case differ: the times of their entries and the ids that tell
entries of one time apart, as the database compares them and as a position holds them.
-/
structure HistoryList (Row Tie : Type) where
  occurredAt : Row → CivilTime
  tie : Row → Tie
  tieBreaker : Row → String
  ofTieBreaker : String → Option Tie

namespace HistoryList

variable {Row Tie : Type} [LinearOrder Tie] (l : HistoryList Row Tie)

def isBefore (occurredAt : CivilTime) (tie : Tie) (row : Row) : Bool :=
  l.occurredAt row < occurredAt ∨ (l.occurredAt row = occurredAt ∧ l.tie row < tie)

def newestFirst (a b : Row) : Prop :=
  l.occurredAt b < l.occurredAt a ∨ (l.occurredAt a = l.occurredAt b ∧ l.tie b ≤ l.tie a)

instance : DecidableRel l.newestFirst := fun _ _ =>
  inferInstanceAs (Decidable (_ ∨ _))

/--
The entries before a position. A text that is no id of the table is refused.
-/
def found (rows : List Row) (before : Option CaseHistoryPosition) : Except Error (List Row) :=
  match before with
  | none => pure rows
  | some position => do
    let tie ← orThrow (l.ofTieBreaker position.tieBreaker)
      (.valueError "badly formed hexadecimal UUID string")
    pure (rows.filter (l.isBefore position.occurredAt tie))

def page (rows : List Row) (before : Option CaseHistoryPosition) (limit : Nat)
    : Except Error (HistoryRecords Row) := do
  let found ← l.found rows before
  let models := (found.insertionSort l.newestFirst).take (limit + 1)
  let pageModels := models.take limit
  let oldest := if limit < models.length then pageModels.getLast? else none
  let nextPosition ← match oldest with
    | none => pure none
    | some row => do
      let position ← CaseHistoryPosition.of (l.occurredAt row) (l.tieBreaker row)
      pure (some position)
  pure { items := pageModels.reverse, total := rows.length, nextPosition }

end HistoryList

/--
A row of `conversation_messages`.
-/
structure ConversationMessage where
  casePublicId : String
  publicId : String
  authorName : String
  body : String
  createdAt : CivilTime
  publicId_length : 1 ≤ publicId.length ∧ publicId.length ≤ 64
deriving DecidableEq

/--
A UUID: a number of 128 bits.
-/
structure Uuid where
  value : Nat
  lt : value < 2 ^ 128
deriving DecidableEq

/--
How a UUID is written and what is read back. Thirty-two digits are written, and four hyphens.
-/
class UuidText where
  str : Uuid → String
  parse : String → Option Uuid
  parse_str : ∀ id, parse (str id) = some id
  length_str : ∀ id, (str id).length = 36

/--
A row of `audit_events`.
-/
structure AuditEvent where
  id : Uuid
  eventType : String
  actorId : Option String
  subjectType : Option String
  subjectId : Option String
  summary : Option String
  occurredAt : CivilTime
deriving DecidableEq

structure CaseActivity where
  id : Uuid
  eventType : String
  actorId : Option String
  summary : String
  occurredAt : CivilTime
deriving DecidableEq

/--
An event without a summary is summarized by its type.
-/
def AuditEvent.activity (event : AuditEvent) : CaseActivity where
  id := event.id
  eventType := event.eventType
  actorId := event.actorId
  summary := match event.summary with
    | none => event.eventType
    | some summary => if summary = "" then event.eventType else summary
  occurredAt := event.occurredAt

/--
The cases of an organization and what their histories are read from. Messages have distinct public ids, as
`uq_conversation_messages_org_public` demands, and events have distinct ids.
-/
structure CaseHistoryTable where
  cases : List String
  cases_length : ∀ caseId ∈ cases, 1 ≤ caseId.length ∧ caseId.length ≤ 64
  messages : List ConversationMessage
  events : List AuditEvent
  messages_nodup : (messages.map fun message => message.publicId).Nodup
  events_nodup : (events.map fun event => event.id).Nodup

namespace CaseHistoryTable

variable (t : CaseHistoryTable)

def requiredCase (caseId : String) : Except Error PUnit :=
  ensure (caseId ∈ t.cases) (.caseNotFound "The case was not found.")

def caseMessages (caseId : String) : List ConversationMessage :=
  t.messages.filter fun message => message.casePublicId = caseId

def caseEvents (caseId : String) : List AuditEvent :=
  t.events.filter fun event => event.subjectType = some "case" ∧ event.subjectId = some caseId

def conversation [TextCollation] : HistoryList ConversationMessage String where
  occurredAt := ConversationMessage.createdAt
  tie message := TextCollation.sortKey message.publicId
  tieBreaker := ConversationMessage.publicId
  ofTieBreaker text := some (TextCollation.sortKey text)

def activity [UuidText] : HistoryList AuditEvent Nat where
  occurredAt := AuditEvent.occurredAt
  tie event := event.id.value
  tieBreaker event := UuidText.str event.id
  ofTieBreaker text := (UuidText.parse text).map Uuid.value

def conversationPage [TextCollation] (caseId : String) (before : Option CaseHistoryPosition) (limit : Nat)
    : Except Error (HistoryRecords ConversationMessage) :=
  conversation.page (t.caseMessages caseId) before limit

def activityPage [UuidText] (caseId : String) (before : Option CaseHistoryPosition) (limit : Nat)
    : Except Error (HistoryRecords CaseActivity) := do
  let records ← activity.page (t.caseEvents caseId) before limit
  pure {
    items := records.items.map AuditEvent.activity
    total := records.total
    nextPosition := records.nextPosition }

def listConversationMessages [TextCollation] (caseId : String) (before : Option CaseHistoryPosition)
    (limit : Nat) : Except Error (HistoryRecords ConversationMessage) := do
  t.requiredCase caseId
  t.conversationPage caseId before limit

def listCaseActivity [UuidText] (caseId : String) (before : Option CaseHistoryPosition) (limit : Nat)
    : Except Error (HistoryRecords CaseActivity) := do
  t.requiredCase caseId
  t.activityPage caseId before limit

end CaseHistoryTable

/--
What a workspace says about a collection it shows a part of.
-/
structure CaseCollectionWindow where
  returned : Nat
  total : Nat
  hasMore : Bool
  nextPosition : Option CaseHistoryPosition
  returned_le : returned ≤ total
  hasMore_iff : hasMore = true ↔ returned < total
  nextPosition_none : hasMore = false → nextPosition = none

/--
`validate_window`
-/
def CaseCollectionWindow.of (returned total : Nat) (hasMore : Bool)
    (nextPosition : Option CaseHistoryPosition) : Except Error CaseCollectionWindow :=
  if returned_le : returned ≤ total then
    if hasMore_iff : hasMore = true ↔ returned < total then
      if nextPosition_none : hasMore = false → nextPosition = none then
        .ok { returned, total, hasMore, nextPosition, returned_le, hasMore_iff, nextPosition_none }
      else
        .error (.valueError "a continuation position requires more collection items")
    else
      .error (.valueError "has_more must match the returned and total collection counts")
  else
    .error (.valueError "returned collection items cannot exceed the total")

namespace CaseHistoryTable

def caseWorkspaceMessageLimit : Nat := 50

def caseWorkspaceActivityLimit : Nat := 100

/--
The parts of the histories a workspace shows, and what it says about them.
-/
structure WorkspaceHistory where
  messages : List ConversationMessage
  activity : List CaseActivity
  messageWindow : CaseCollectionWindow
  activityWindow : CaseCollectionWindow

/--
`get_workspace`, as far as it reads the histories.
-/
def workspaceHistory [TextCollation] [UuidText] (t : CaseHistoryTable) (caseId : String)
    : Except Error WorkspaceHistory := do
  let messagePage ← t.conversationPage caseId none caseWorkspaceMessageLimit
  let activityPage ← t.activityPage caseId none caseWorkspaceActivityLimit
  let messageWindow ← CaseCollectionWindow.of messagePage.items.length messagePage.total
    messagePage.nextPosition.isSome messagePage.nextPosition
  let activityWindow ← CaseCollectionWindow.of activityPage.items.length activityPage.total
    activityPage.nextPosition.isSome activityPage.nextPosition
  pure { messages := messagePage.items, activity := activityPage.items, messageWindow, activityWindow }

end CaseHistoryTable

inductive CaseHistoryKind where
  | conversation
  | activity
deriving DecidableEq

/--
`_CursorPayload`
-/
structure HistoryCursorPayload where
  kind : CaseHistoryKind
  caseId : String
  occurredAt : CivilTime
  tieBreaker : String
  caseId_length : 1 ≤ caseId.length ∧ caseId.length ≤ 64
  tieBreaker_length : 1 ≤ tieBreaker.length ∧ tieBreaker.length ≤ 128
deriving DecidableEq

/--
How the payload of a cursor is written as JSON and validated from it: what was written is read back.
-/
class HistoryPayloadJson where
  dumps : HistoryCursorPayload → List Nat
  validate : List Nat → Option HistoryCursorPayload
  dumps_lt : ∀ payload, ∀ byte ∈ dumps payload, byte < 256
  validate_dumps : ∀ payload, validate (dumps payload) = some payload

namespace CaseHistoryService

variable [HistoryPayloadJson]

def encodeCaseHistoryCursor (position : Option CaseHistoryPosition) (kind : CaseHistoryKind)
    (caseId : String) : Except Error (Option String) :=
  match position with
  | none => pure none
  | some position =>
    if caseId_length : 1 ≤ caseId.length ∧ caseId.length ≤ 64 then
      let payload : HistoryCursorPayload :=
        { kind, caseId, occurredAt := position.occurredAt, tieBreaker := position.tieBreaker
          caseId_length, tieBreaker_length := position.tieBreaker_length }
      let encoded := Base64.urlsafeB64encode (HistoryPayloadJson.dumps payload)
      pure (some (String.ofList (encoded.rdropWhile (· = '='))))
    else
      throw (.valueError "case_id")

def invalidCursor : Error :=
  .invalidCaseHistoryCursor "The case history cursor is invalid."

def decodeCaseHistoryCursor [UuidText] (cursor : Option String) (kind : CaseHistoryKind) (caseId : String)
    : Except Error (Option CaseHistoryPosition) :=
  match cursor with
  | none => pure none
  | some cursor => do
    let rawPayload ← orThrow
      (Base64.urlsafeB64decodeValid (cursor.toList ++ Base64.padding cursor.toList)) invalidCursor
    let payload ← orThrow (HistoryPayloadJson.validate rawPayload) invalidCursor
    ensure (payload.kind = kind ∧ payload.caseId = caseId)
      (.invalidCaseHistoryCursor "The case history cursor does not match this case and section.")
    ensure (kind = .activity → UuidText.parse payload.tieBreaker ≠ none)
      (.invalidCaseHistoryCursor "The case activity cursor is invalid.")
    pure (some {
      occurredAt := payload.occurredAt
      tieBreaker := payload.tieBreaker
      tieBreaker_length := payload.tieBreaker_length })

/--
`CaseHistoryPage`
-/
structure Page (Row : Type) where
  items : List Row
  nextCursor : Option String
  total : Nat

variable [UuidText]

/--
What both sections do around the list of the store they read.
-/
def historySection {Row : Type} (kind : CaseHistoryKind)
    (list : String → Option CaseHistoryPosition → Nat → Except Error (HistoryRecords Row))
    (actor : ActorContext) (caseId : String) (cursor : Option String) (limit : PageLimit)
    : Except Error (Page Row) := do
  requirePermission actor .caseRead
  let before ← decodeCaseHistoryCursor cursor kind caseId
  let records ← list caseId before limit.value
  let nextCursor ← encodeCaseHistoryCursor records.nextPosition kind caseId
  pure { items := records.items, nextCursor, total := records.total }

def conversation [TextCollation] (t : CaseHistoryTable) (actor : ActorContext) (caseId : String)
    (cursor : Option String) (limit : PageLimit) : Except Error (Page ConversationMessage) :=
  historySection .conversation t.listConversationMessages actor caseId cursor limit

def activity (t : CaseHistoryTable) (actor : ActorContext) (caseId : String) (cursor : Option String)
    (limit : PageLimit) : Except Error (Page CaseActivity) :=
  historySection .activity t.listCaseActivity actor caseId cursor limit

end CaseHistoryService

end CaseResolution
