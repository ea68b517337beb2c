import CaseResolution.Domain.Analysis
import CaseResolution.Domain.Cases
import CaseResolution.Domain.Error
import CaseResolution.Lib.Machine
import CaseResolution.Policies.Impl.Parser
import Mathlib.Data.List.Sort
import Mathlib.Data.String.Basic

/-!
This module contains the case queue: its filters and orders, the query for one page and the cursors that
lead to the pages next to it.
-/

namespace CaseResolution

open Guard

/--
A row of `cases` with its customer and its owner, as far as the queue reads them.
-/
structure QueueCase where
  publicId : String
  externalReference : String
  issue : String
  customerName : String
  status : CaseStatus
  category : CaseCategory
  risk : CaseRisk
  dueAt : Instant
  updatedAt : Instant
  owner : Option Membership
deriving DecidableEq

/--
The cases of an organization. Their public ids are unique, as `uq_cases_org_public` demands.
-/
structure CaseTable where
  rows : List QueueCase
  publicIds_nodup : (rows.map fun c => c.publicId).Nodup

/--
How the database compares texts: the order of its collation and the search for a term.
-/
class TextCollation where
  sortKey : String → String
  sortKey_injective : Function.Injective sortKey
  contains : String → String → Bool

inductive CaseQueueView where
  | mine
  | all
  | unassigned
  | review
  | atRisk
deriving DecidableEq

def CaseQueueView.value : CaseQueueView → String
  | .mine => "mine"
  | .all => "all"
  | .unassigned => "unassigned"
  | .review => "review"
  | .atRisk => "at_risk"

inductive CaseQueueSort where
  | priority
  | sla
  | updated
deriving DecidableEq

def CaseQueueSort.value : CaseQueueSort → String
  | .priority => "priority"
  | .sla => "sla"
  | .updated => "updated"

structure CaseQueueFilters where
  status : Option CaseStatus
  category : Option CaseCategory
  query : Option String
  view : CaseQueueView
deriving DecidableEq

inductive CaseQueueCursorDirection where
  | forward
  | backward
deriving DecidableEq

structure CaseQueuePosition where
  orderedAt : Instant
  publicId : String
  riskRank : Option Nat
deriving DecidableEq

structure CaseQueueCursor where
  direction : CaseQueueCursorDirection
  offset : Nat
  snapshotAt : Instant
  position : CaseQueuePosition
deriving DecidableEq

structure CaseQueueSummary where
  total : Nat
  attention : Nat
  review : Nat
  slaAtRisk : Nat
  unassigned : Nat
deriving DecidableEq

structure CaseListPage where
  items : List QueueCase
  nextCursor : Option CaseQueueCursor
  previousCursor : Option CaseQueueCursor
  total : Nat
  offset : Nat
  limit : Nat
  summary : CaseQueueSummary
deriving DecidableEq

/--
The size a request asks its page to have.
-/
structure PageLimit where
  value : Nat
  pos : 1 ≤ value
deriving DecidableEq

namespace QueueCase

def riskRank (c : QueueCase) : Nat :=
  match c.risk with
  | .high => 0
  | .medium => 1
  | .low => 2

def position (c : QueueCase) (sort : CaseQueueSort) : CaseQueuePosition where
  orderedAt := if sort = .updated then c.updatedAt else c.dueAt
  publicId := c.publicId
  riskRank := if sort = .priority then some c.riskRank else none

def slaAtRisk (c : QueueCase) (snapshotAt : Instant) : Bool :=
  c.dueAt < snapshotAt + minutes 30

variable [TextCollation]

def idBefore (a b : String) : Bool :=
  TextCollation.sortKey a < TextCollation.sortKey b

/--
The case comes after the position in the order of `sort`.
-/
def isAfter (c : QueueCase) (sort : CaseQueueSort) (position : CaseQueuePosition) : Bool :=
  match sort with
  | .priority => position.riskRank.any fun rank =>
    rank < c.riskRank
      ∨ (c.riskRank = rank ∧ position.orderedAt < c.dueAt)
      ∨ (c.riskRank = rank ∧ c.dueAt = position.orderedAt ∧ idBefore position.publicId c.publicId)
  | .sla =>
    position.orderedAt < c.dueAt
      ∨ (c.dueAt = position.orderedAt ∧ idBefore position.publicId c.publicId)
  | .updated =>
    c.updatedAt < position.orderedAt
      ∨ (c.updatedAt = position.orderedAt ∧ idBefore position.publicId c.publicId)

def isBefore (c : QueueCase) (sort : CaseQueueSort) (position : CaseQueuePosition) : Bool :=
  match sort with
  | .priority => position.riskRank.any fun rank =>
    c.riskRank < rank
      ∨ (c.riskRank = rank ∧ c.dueAt < position.orderedAt)
      ∨ (c.riskRank = rank ∧ c.dueAt = position.orderedAt ∧ idBefore c.publicId position.publicId)
  | .sla =>
    c.dueAt < position.orderedAt
      ∨ (c.dueAt = position.orderedAt ∧ idBefore c.publicId position.publicId)
  | .updated =>
    position.orderedAt < c.updatedAt
      ∨ (c.updatedAt = position.orderedAt ∧ idBefore c.publicId position.publicId)

/--
The columns a page is ordered by. Pages backward are ordered the other way round by all of them.
-/
def orderedBy (sort : CaseQueueSort) (a b : QueueCase) : Prop :=
  let byId := TextCollation.sortKey a.publicId ≤ TextCollation.sortKey b.publicId
  match sort with
  | .priority =>
    a.riskRank < b.riskRank
      ∨ (a.riskRank = b.riskRank ∧ (a.dueAt < b.dueAt ∨ (a.dueAt = b.dueAt ∧ byId)))
  | .sla => a.dueAt < b.dueAt ∨ (a.dueAt = b.dueAt ∧ byId)
  | .updated => b.updatedAt < a.updatedAt ∨ (a.updatedAt = b.updatedAt ∧ byId)

instance (sort : CaseQueueSort) : DecidableRel (orderedBy sort) := fun _ _ =>
  match sort with
  | .priority => inferInstanceAs (Decidable (_ ∨ _))
  | .sla => inferInstanceAs (Decidable (_ ∨ _))
  | .updated => inferInstanceAs (Decidable (_ ∨ _))

end QueueCase

variable [TextCollation]

/--
The filters of a request in the queue as it was at `snapshotAt`.
-/
def CaseQueueFilters.selects (filters : CaseQueueFilters) (actorId : String) (snapshotAt : Instant)
    (c : QueueCase) : Bool :=
  c.updatedAt ≤ snapshotAt
    && (filters.status.all fun status => c.status = status)
    && (filters.category.all fun category => c.category = category)
    && (filters.query.all fun query => query = ""
      || [c.publicId, c.externalReference, c.issue, c.customerName].any (TextCollation.contains query))
    && match filters.view with
      | .mine => c.owner.any fun owner => owner.publicId = actorId ∨ owner.subjectId = actorId
      | .all => true
      | .unassigned => c.owner.isNone
      | .review => c.status = .needsReview
      | .atRisk => c.risk = .high || c.slaAtRisk snapshotAt

namespace CaseTable

def summary (t : CaseTable) (snapshotAt : Instant) : CaseQueueSummary where
  total := t.rows.length
  attention := t.rows.countP fun c => c.risk = .high
  review := t.rows.countP fun c => c.status = .needsReview
  slaAtRisk := t.rows.countP fun c => c.slaAtRisk snapshotAt
  unassigned := t.rows.countP fun c => c.owner.isNone

def listCases (t : CaseTable) (now : Instant) (actorId : String) (filters : CaseQueueFilters)
    (sort : CaseQueueSort) (cursor : Option CaseQueueCursor) (limit : Nat) : CaseListPage :=
  let snapshotAt := (cursor.map fun cursor => cursor.snapshotAt).getD now
  let scope := t.rows.filter (filters.selects actorId snapshotAt)
  let backward := cursor.any fun cursor => cursor.direction = .backward
  let found :=
    match cursor with
    | none => scope
    | some cursor => scope.filter fun c =>
      if backward then c.isBefore sort cursor.position else c.isAfter sort cursor.position
  let ordered :=
    if backward then
      found.insertionSort fun a b => QueueCase.orderedBy sort b a
    else
      found.insertionSort (QueueCase.orderedBy sort)
  let rows := ordered.take (limit + 1)
  let hasExtra := limit < rows.length
  let items := if backward then (rows.take limit).reverse else rows.take limit
  let offset := (cursor.map fun cursor => cursor.offset).getD 0
  let hasPrevious := if backward then hasExtra else cursor.isSome ∧ items ≠ []
  let hasNext := if backward then cursor.isSome ∧ items ≠ [] else hasExtra
  { items
    nextCursor :=
      if hasNext then
        items.getLast?.map fun last =>
          { direction := .forward, offset := offset + items.length, snapshotAt
            position := last.position sort }
      else
        none
    previousCursor :=
      if hasPrevious then
        items.head?.map fun first =>
          { direction := .backward, offset := offset - limit, snapshotAt, position := first.position sort }
      else
        none
    total := scope.length
    offset
    limit
    summary := t.summary snapshotAt }

end CaseTable

structure CaseCursorPayload where
  contextHash : String
  cursor : CaseQueueCursor
deriving DecidableEq

/--
How the payload of a cursor is written as a text, and what is read back from a text.
-/
class CursorCodec (Text : Type) where
  dumps : CaseCursorPayload → Text
  loads : Text → Option CaseCursorPayload
  loads_dumps : ∀ payload, loads (dumps payload) = some payload

/--
What a request asks for besides its cursor and the size of its page.
-/
structure CaseQueueQuery where
  filters : CaseQueueFilters
  sort : CaseQueueSort
deriving DecidableEq

namespace CaseQueueQuery

variable [Digest]

def cursorContextHash (q : CaseQueueQuery) : String :=
  Digest.hash <| .obj [
    ("category", .ofOption (fun category => .str category.value) q.filters.category),
    ("query", .ofOption (fun query => .str (String.ofList (PolicyParser.strip query.toList)))
      q.filters.query),
    ("sort", .str q.sort.value),
    ("status", .ofOption (fun status => .str status.value) q.filters.status),
    ("view", .str q.filters.view.value)]

def validateCursorPosition (q : CaseQueueQuery) (cursor : CaseQueueCursor) : Except Error Unit := do
  ensure (q.sort = .priority → cursor.position.riskRank ≠ none)
    (.valueError "Priority cursors require a risk rank.")
  ensure (q.sort ≠ .priority → cursor.position.riskRank = none)
    (.valueError "Only priority cursors may include a risk rank.")

variable {Text : Type} [CursorCodec Text]

def encodeCursor (q : CaseQueueQuery) (cursor : Option CaseQueueCursor) : Except Error (Option Text) :=
  match cursor with
  | none => pure none
  | some cursor => do
    q.validateCursorPosition cursor
    pure (some (CursorCodec.dumps { contextHash := q.cursorContextHash, cursor }))

def decodeCursor (q : CaseQueueQuery) (cursor : Option Text) : Except Error (Option CaseQueueCursor) :=
  match cursor with
  | none => pure none
  | some text =>
    match CursorCodec.loads text with
    | none => throw (.invalidCaseCursor "The case cursor is invalid.")
    | some payload => do
      ensure (payload.contextHash = q.cursorContextHash)
        (.invalidCaseCursor "The case cursor is invalid.")
      ensure (q.validateCursorPosition payload.cursor).isOk
        (.invalidCaseCursor "The case cursor is invalid.")
      pure (some payload.cursor)

end CaseQueueQuery

/--
The answer to a request: a page with its cursors as texts.
-/
structure CaseListResponse (Text : Type) where
  page : CaseListPage
  nextCursor : Option Text
  previousCursor : Option Text

def CaseListResponse.cursor {Text : Type} (shown : CaseListResponse Text)
    : CaseQueueCursorDirection → Option Text
  | .forward => shown.nextCursor
  | .backward => shown.previousCursor

variable [Digest] {Text : Type} [CursorCodec Text]

def CaseTable.answer (t : CaseTable) (now : Instant) (actor : ActorContext) (q : CaseQueueQuery)
    (cursor : Option Text) (limit : PageLimit) : Except Error (CaseListResponse Text) := do
  requirePermission actor .caseRead
  let decoded ← q.decodeCursor cursor
  let page := t.listCases now actor.actorId q.filters q.sort decoded limit.value
  let nextCursor ← q.encodeCursor page.nextCursor
  let previousCursor ← q.encodeCursor page.previousCursor
  pure { page, nextCursor, previousCursor }

/--
A request for the page after or before the one that is shown.
-/
structure QueueMove where
  direction : CaseQueueCursorDirection
  now : Instant
  limit : PageLimit

/--
A walk through the queue follows the cursors of the page that is shown. The cases stay as they are.
-/
def queueWalk (t : CaseTable) (actor : ActorContext) (q : CaseQueueQuery)
    : Machine (CaseListResponse Text) QueueMove Error PUnit where
  step shown move := do
    let cursor ← orThrow (shown.cursor move.direction) (.valueError "There is no such page.")
    let response ← t.answer move.now actor q (some cursor) move.limit
    pure (response, ⟨⟩)

end CaseResolution
