import CaseResolution.Domain.Reviews
import CaseResolution.Lists.Impl.Base

/-!
This module contains the action list, the review list and the connection list: the rows they read, what
each call reconciles before it reads, and the filters of a request.
-/

namespace CaseResolution

def ActionStatus.value : ActionStatus → String
  | .ready => "ready"
  | .running => "running"
  | .completed => "completed"
  | .failedSafe => "failed_safe"
  | .outcomeUnknown => "outcome_unknown"
  | .recoveryRequired => "recovery_required"

def ReviewStatus.value : ReviewStatus → String
  | .pending => "pending"
  | .reserved => "reserved"
  | .approved => "approved"
  | .changesRequested => "changes_requested"
  | .rejected => "rejected"
  | .escalated => "escalated"

def ReviewPolicyState.value : ReviewPolicyState → String
  | .supported => "supported"
  | .possibleConflict => "possible_conflict"
  | .missing => "missing"

/--
A page is asked for at `now`, with room for `limit` rows.
-/
structure ListRequest where
  now : CivilTime
  limit : PageLimit

/--
A row of `case_actions` with the columns of its case and its connection that the list reads, and the times
its running attempts were started.
-/
structure ActionRow where
  publicId : String
  label : String
  type : String
  target : String
  casePublicId : String
  connectionName : String
  status : ActionStatus
  version : Nat
  updatedAt : CivilTime
  runningSince : List CivilTime
deriving DecidableEq

/--
The actions of an organization. Their public ids are unique, as `uq_case_actions_org_public` demands.
-/
structure ActionTable where
  organization : String
  rows : List ActionRow
  publicIds_nodup : (rows.map fun row => row.publicId).Nodup

structure ActionFilters where
  status : Option String
  recoveryRequired : Option Bool
  query : Option String
deriving DecidableEq

namespace ActionTable

/--
`ABANDONED_ACTION_MINUTES`, by which an attempt has to be older than `now`.
-/
def abandonedActionTime : UtcOffset where
  ticks := minutes 5
  ticks_gt := by decide
  ticks_lt := by decide

def abandon (now cutoff : CivilTime) (row : ActionRow) : ActionRow :=
  if row.runningSince.any (fun startedAt => startedAt ≤ cutoff) then
    let kept := { row with runningSince := row.runningSince.filter fun startedAt => ¬ startedAt ≤ cutoff }
    if row.status = .running then
      { kept with status := .outcomeUnknown, version := row.version + 1, updatedAt := now }
    else
      kept
  else
    row

theorem abandon_publicId (now cutoff : CivilTime) (row : ActionRow)
    : (abandon now cutoff row).publicId = row.publicId := by
  unfold abandon
  split
  . dsimp only
    split <;> rfl
  . rfl

/--
`_reconcile_abandoned` of all actions.
-/
def reconcileAbandoned (t : ActionTable) (now cutoff : CivilTime) : ActionTable where
  organization := t.organization
  rows := t.rows.map (abandon now cutoff)
  publicIds_nodup := by
    rw [List.map_map]
    convert t.publicIds_nodup using 2
    exact funext (abandon_publicId now cutoff)

def list [TextCollation] : KeysetList ActionRow String where
  cursors := .action
  time := ActionRow.updatedAt
  publicId := ActionRow.publicId
  tie := TextCollation.sortKey

variable [TextCollation] [LowerCase] [Digest]

def selects (filters : ActionFilters) (row : ActionRow) : Bool :=
  givenEq filters.status row.status.value
    && (filters.recoveryRequired.all fun required => required = row.status.isRecovery)
    && likeAny (normalizedQuery filters.query) [row.publicId, row.label, row.type, row.target,
      row.casePublicId, row.connectionName]

def filterFingerprint (t : ActionTable) (filters : ActionFilters) : String :=
  Digest.hash <| .obj [
    ("organization", .str t.organization),
    ("query", .ofOption .str (normalizedQuery filters.query)),
    ("recovery_required", .ofOption .bool filters.recoveryRequired),
    ("status", .ofOption .str filters.status)]

variable [IsoFormat] [Interpreter]

/--
`ActionQueryRepository.list`
-/
def listActions (t : ActionTable) (filters : ActionFilters) (cursor : Option String)
    (request : ListRequest) : Except ListFailure (ActionTable × KeysetPage ActionRow) := do
  let cutoff ← Guard.orThrow (request.now.toUtc abandonedActionTime) .overflowError
  let reconciled := t.reconcileAbandoned request.now cutoff
  let page ← list.page (reconciled.rows.filter (selects filters)) (t.filterFingerprint filters) cursor
    request.limit.value
  pure (reconciled, page)

end ActionTable

/--
A row of `case_reviews` with the columns of its case and its proposal version that the list reads, and the
times its active reservations expire.
-/
structure ReviewRow where
  publicId : String
  reviewReason : String
  submittedByName : String
  outcome : String
  casePublicId : String
  status : ReviewStatus
  policyState : ReviewPolicyState
  version : Nat
  submittedAt : CivilTime
  reservedUntil : List CivilTime
deriving DecidableEq

/--
The reviews of an organization. Their public ids are unique, as `uq_case_reviews_org_public` demands.
-/
structure ReviewTable where
  organization : String
  rows : List ReviewRow
  publicIds_nodup : (rows.map fun row => row.publicId).Nodup

structure ReviewFilters where
  status : Option String
  policyState : Option String
  query : Option String
deriving DecidableEq

namespace ReviewTable

def expire (now : CivilTime) (row : ReviewRow) : ReviewRow :=
  if row.reservedUntil.any (fun expiresAt => expiresAt ≤ now) then
    let kept := { row with reservedUntil := row.reservedUntil.filter fun expiresAt => ¬ expiresAt ≤ now }
    if row.status = .reserved then
      { kept with status := .pending, version := row.version + 1 }
    else
      kept
  else
    row

theorem expire_publicId (now : CivilTime) (row : ReviewRow)
    : (expire now row).publicId = row.publicId := by
  unfold expire
  split
  . dsimp only
    split <;> rfl
  . rfl

/--
`_reconcile_expired` of all reviews.
-/
def reconcileExpired (t : ReviewTable) (now : CivilTime) : ReviewTable where
  organization := t.organization
  rows := t.rows.map (expire now)
  publicIds_nodup := by
    rw [List.map_map]
    convert t.publicIds_nodup using 2
    exact funext (expire_publicId now)

def list [TextCollation] : KeysetList ReviewRow String where
  cursors := .review
  time := ReviewRow.submittedAt
  publicId := ReviewRow.publicId
  tie := TextCollation.sortKey

variable [TextCollation] [LowerCase] [Digest]

def selects (filters : ReviewFilters) (row : ReviewRow) : Bool :=
  givenEq filters.status row.status.value
    && givenEq filters.policyState row.policyState.value
    && likeAny (normalizedQuery filters.query) [row.publicId, row.reviewReason, row.submittedByName,
      row.outcome, row.casePublicId]

def filterFingerprint (t : ReviewTable) (filters : ReviewFilters) : String :=
  Digest.hash <| .obj [
    ("organization", .str t.organization),
    ("policy_state", .ofOption .str filters.policyState),
    ("query", .ofOption .str (normalizedQuery filters.query)),
    ("status", .ofOption .str filters.status)]

variable [IsoFormat] [Interpreter]

/--
`ReviewQueryRepository.list`
-/
def listReviews (t : ReviewTable) (filters : ReviewFilters) (cursor : Option String)
    (request : ListRequest) : Except ListFailure (ReviewTable × KeysetPage ReviewRow) := do
  let reconciled := t.reconcileExpired request.now
  let page ← list.page (reconciled.rows.filter (selects filters)) (t.filterFingerprint filters) cursor
    request.limit.value
  pure (reconciled, page)

end ReviewTable

/--
A row of `connections`, as far as the list reads it.
-/
structure ConnectionRow where
  publicId : String
  name : String
  providerType : String
  health : String
  updatedAt : CivilTime
deriving DecidableEq

/--
The connections of an organization. Their public ids are unique.
-/
structure ConnectionTable where
  organization : String
  rows : List ConnectionRow
  publicIds_nodup : (rows.map fun row => row.publicId).Nodup

structure ConnectionFilters where
  health : Option String
  query : Option String
deriving DecidableEq

namespace ConnectionTable

def list [TextCollation] : KeysetList ConnectionRow String where
  cursors := .connection
  time := ConnectionRow.updatedAt
  publicId := ConnectionRow.publicId
  tie := TextCollation.sortKey

variable [TextCollation] [LowerCase] [Digest]

def selects (filters : ConnectionFilters) (row : ConnectionRow) : Bool :=
  givenEq filters.health row.health
    && likeAny (normalizedQuery filters.query) [row.publicId, row.name, row.providerType]

def filterFingerprint (t : ConnectionTable) (filters : ConnectionFilters) : String :=
  Digest.hash <| .obj [
    ("health", .ofOption .str filters.health),
    ("organization", .str t.organization),
    ("query", .ofOption .str (normalizedQuery filters.query))]

variable [IsoFormat] [Interpreter]

/--
`ConnectionRepository.list`
-/
def listConnections (t : ConnectionTable) (filters : ConnectionFilters) (cursor : Option String)
    (limit : PageLimit) : Except ListFailure (KeysetPage ConnectionRow) :=
  list.page (t.rows.filter (selects filters)) (t.filterFingerprint filters) cursor limit.value

end ConnectionTable

end CaseResolution
