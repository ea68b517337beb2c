import CaseResolution.Actions.Impl.Base
import Mathlib.Data.List.Dedup
import Mathlib.Data.List.Sort
import Mathlib.Data.String.Basic

/-!
This module contains the creation of actions: from the proposed actions of an approved review, with
the connection that performs them, and from the records of the legacy product.
-/

namespace CaseResolution

open Guard

variable [Digest]

namespace Connection

def healthOrder : ConnectionHealth → Nat
  | .healthy => 0
  | .degraded => 1
  | .unavailable => 2
  | .notConfigured => 3

def environmentOrder : ConnectionEnvironment → Nat
  | .production => 0
  | .sandbox => 1
  | .demo => 2

/--
`left` is preferred over `right`.
-/
def precedes (left right : Connection) : Bool :=
  healthOrder left.health < healthOrder right.health
    ∨ (healthOrder left.health = healthOrder right.health
      ∧ (environmentOrder left.environment < environmentOrder right.environment
        ∨ (environmentOrder left.environment = environmentOrder right.environment
          ∧ left.publicId < right.publicId)))

end Connection

def providerByAction (actionType : String) : String :=
  match actionType with
  | "reverse_duplicate_charge" => "billing"
  | "issue_refund" => "billing"
  | "start_verified_recovery" => "identity"
  | "apply_service_correction" => "service_operations"
  | _ => "general_operations"

def unconfiguredConnection (organizationPublicId actionType : String) : Connection where
  publicId := stablePublicId "CN"
    [organizationPublicId, providerByAction actionType, "unconfigured"]
  providerType := providerByAction actionType
  adapterKey := "unconfigured"
  environment := .demo
  health := .notConfigured
  lastCheckedAt := none
  credentialStatus := .missing
  actionTypes := [actionType]

namespace Store

/--
The positions and rows of the connections that perform `actionType`, the preferred one first.
-/
def preferredConnection (s : Store) (actionType : String) : Option (Nat × Connection) :=
  let compatible := (s.connections.zipIdx.map Prod.swap).filter fun (_, connection) =>
    actionType ∈ connection.actionTypes
  compatible.foldl
    (fun best candidate =>
      match best with
      | none => some candidate
      | some chosen => if candidate.2.precedes chosen.2 then some candidate else some chosen)
    none

def ensureUnconfiguredConnection (s : Store) (actionType : String) : Store × Nat × Connection :=
  let connection := unconfiguredConnection s.organizationPublicId actionType
  let found := (s.connections.zipIdx.map Prod.swap).find? fun (_, existing) =>
    existing.publicId = connection.publicId
  match found with
  | some (connectionId, existing) =>
    if actionType ∈ existing.actionTypes then
      (s, connectionId, existing)
    else
      let extended := { existing with
        actionTypes := ((actionType :: existing.actionTypes).dedup).insertionSort (· ≤ ·) }
      ({ s with connections := s.connections.set connectionId extended }, connectionId, extended)
  | none =>
    ({ s with connections := s.connections ++ [connection] }, s.connections.length, connection)

/--
The preferred connection that performs `actionType`, or a placeholder that nobody has configured.
-/
def resolveForAction (s : Store) (actionType : String) : Store × Nat × Connection :=
  match s.preferredConnection actionType with
  | some (connectionId, connection) => (s, connectionId, connection)
  | none => s.ensureUnconfiguredConnection actionType

def findAction (s : Store) (caseId proposalVersionId proposedActionId : Nat) : Option Nat :=
  s.actions.findIdx? fun action =>
    action.caseId = caseId ∧ action.proposalVersionId = proposalVersionId
      ∧ action.proposedActionId = proposedActionId

def findApproval (review : CaseReview) : Option Nat :=
  review.decisions.findIdx? fun decision => decision.decision = .approve

end Store

def idempotencyKey (organizationPublicId : String) (proposalVersionId proposedActionId : Nat)
    (snapshotFingerprint : String) : String :=
  Digest.hash <| .obj [
    ("organization", .str organizationPublicId),
    ("proposed_action", .arr [.num proposalVersionId, .num proposedActionId]),
    ("review_snapshot", .str snapshotFingerprint)
  ]

/--
What the creation of an action reads of its approval.
-/
structure ApprovedReview where
  reviewId : Nat
  review : CaseReview
  decisionId : Nat
  decision : CaseReviewDecision
  case : Case
  proposal : CaseProposal
  version : CaseProposalVersion

namespace ApprovedReview

def executionEligible (approved : ApprovedReview) : Bool :=
  approved.review.snapshot.executionEligible
    ∧ approved.version.legacyProposalVersionId = none
    ∧ approved.case.version = approved.review.snapshot.caseVersion
    ∧ approved.proposal.currentVersion = approved.review.snapshot.proposalVersion
    ∧ approved.proposal.state = .approved

def newAction (approved : ApprovedReview) (s : Store) (now : Instant) (proposedActionId : Nat)
    (proposedAction : ProposedActionDraft) (connectionId : Nat) (connection : Connection)
    : CaseAction where
  caseId := approved.review.caseId
  proposalId := approved.review.proposalId
  proposalVersionId := approved.review.proposalVersionId
  proposedActionId := proposedActionId
  reviewId := approved.reviewId
  reviewDecisionId := approved.decisionId
  connectionId := connectionId
  legacyProposalVersionId := approved.version.legacyProposalVersionId
  type := proposedAction.type
  target := actionTarget proposedAction approved.case
  typedParameters := proposedAction.parameters
  observedOutcome := none
  status := .ready
  executionBlocker := materializationBlocker approved.executionEligible connection now
  executionEligible := approved.executionEligible
  idempotencyKey := idempotencyKey s.organizationPublicId approved.review.proposalVersionId
    proposedActionId approved.review.snapshot.snapshotFingerprint
  authorizationExpiresAt := approved.decision.decidedAt + hours actionAuthorizationHours
  ownerId := approved.case.ownerId.filter fun ownerId => ownerId < s.members.length
  attemptCount := 0
  version := 1
  attempts := []
  receipts := []
  reconciliations := []

end ApprovedReview

namespace Store

def approvedReview (s : Store) (reviewId : Nat) : Except Error ApprovedReview := do
  let review ← orThrow s.reviews[reviewId]? (.actionNotFound "The approved review was not found.")
  ensure (review.status = .approved)
    (.actionConflict "Actions can only be created from an approved review.")
  let incomplete : Error :=
    .actionConflict "The approved review lineage is incomplete; no action was created."
  let decisionId ← orThrow (findApproval review) incomplete
  let decision ← orThrow review.decisions[decisionId]? incomplete
  let case ← orThrow s.cases[review.caseId]? incomplete
  let proposal ← orThrow s.proposals[review.proposalId]? incomplete
  let version ← orThrow s.versions[review.proposalVersionId]? incomplete
  ensure (decision.snapshotFingerprint = review.snapshot.snapshotFingerprint)
    (.actionConflict "The approval decision does not match the immutable review snapshot.")
  pure { reviewId, review, decisionId, decision, case, proposal, version }

/--
Create the action of one proposed action, unless it exists already.
-/
def materializeAction (s : Store) (approved : ApprovedReview) (now : Instant)
    (proposedActionId : Nat) (proposedAction : ProposedActionDraft) : Store × Nat :=
  match s.findAction approved.review.caseId approved.review.proposalVersionId proposedActionId with
  | some actionId => (s, actionId)
  | none =>
    let (resolved, connectionId, connection) := s.resolveForAction proposedAction.type
    let action :=
      approved.newAction resolved now proposedActionId proposedAction connectionId connection
    ({ resolved with actions := resolved.actions ++ [action] }, resolved.actions.length)

def materializeActions (approved : ApprovedReview) (now : Instant)
    : List (ProposedActionDraft × Nat) → Store → Store × List Nat
  | [], s => (s, [])
  | (proposedAction, proposedActionId) :: rest, s =>
    let (created, actionId) := s.materializeAction approved now proposedActionId proposedAction
    let (final, actionIds) := materializeActions approved now rest created
    (final, actionId :: actionIds)

def loadBundles (s : Store) : List Nat → Except Error (List ActionBundle)
  | [] => pure []
  | actionId :: rest => do
    let action ← orThrow s.actions[actionId]? (.actionNotFound "The action was not found.")
    let bundle ← s.loadBundle action
    let bundles ← s.loadBundles rest
    pure (bundle :: bundles)

/--
Create the actions of the approved review's proposed actions that require a review.
-/
def materializeApprovedReview (s : Store) (now : Instant) (reviewId : Nat)
    : Except Error (Store × List ActionBundle) := do
  let approved ← s.approvedReview reviewId
  let proposedActions := approved.version.proposedActions.zipIdx.filter fun (proposedAction, _) =>
    proposedAction.reviewRequired
  let (created, actionIds) := materializeActions approved now proposedActions s
  let bundles ← created.loadBundles actionIds
  pure (created, bundles)

/--
The proposed action a historical tool attempt belongs to, by type or because it is the only one.
-/
def matchProposedAction (version : CaseProposalVersion) (actionType : String)
    : Option (Nat × ProposedActionDraft) :=
  let proposedActions := version.proposedActions.zipIdx.map Prod.swap
  match proposedActions.filter fun (_, proposedAction) => proposedAction.type = actionType with
  | [exact] => some exact
  | _ =>
    match proposedActions with
    | [only] => some only
    | _ => none

/--
What the import of a historical tool attempt reads before it writes.
-/
structure LegacyLineage where
  versionId : Nat
  version : CaseProposalVersion
  reviewId : Nat
  review : CaseReview
  decisionId : Nat
  decision : CaseReviewDecision
  proposedActionId : Nat
  proposedAction : ProposedActionDraft

def legacyLineage (s : Store) (command : LegacyActionImport) : Except Error LegacyLineage := do
  let missing : Error :=
    .actionNotFound "The legacy proposal must be imported before its action history."
  let versionId ← orThrow
    (s.versions.findIdx? fun version =>
      version.legacyProposalVersionId = some command.legacyProposalVersionId)
    missing
  let version ← orThrow s.versions[versionId]? missing
  let unimported : Error :=
    .actionNotFound "The generic case, proposal, and review history must be imported first."
  let _ ← orThrow s.cases[version.caseId]? unimported
  let _ ← orThrow s.proposals[version.proposalId]? unimported
  let reviewId ← orThrow
    (s.reviews.findIdx? fun review =>
      review.caseId = version.caseId ∧ review.proposalVersionId = versionId)
    unimported
  let review ← orThrow s.reviews[reviewId]? unimported
  let undecided : Error :=
    .actionConflict "Legacy execution history requires a preserved approval decision."
  let decisionId ← orThrow (findApproval review) undecided
  let decision ← orThrow review.decisions[decisionId]? undecided
  let (proposedActionId, proposedAction) ← orThrow (matchProposedAction version command.actionType)
    (.actionConflict "The legacy tool attempt cannot be matched to one proposed action.")
  pure {
    versionId, version, reviewId, review, decisionId, decision, proposedActionId, proposedAction
  }

end Store

namespace LegacyActionImport

def newAction (command : LegacyActionImport) (lineage : Store.LegacyLineage) (connectionId : Nat)
    : CaseAction where
  caseId := lineage.version.caseId
  proposalId := lineage.version.proposalId
  proposalVersionId := lineage.versionId
  proposedActionId := lineage.proposedActionId
  reviewId := lineage.reviewId
  reviewDecisionId := lineage.decisionId
  connectionId := connectionId
  legacyProposalVersionId := lineage.version.legacyProposalVersionId
  type := lineage.proposedAction.type
  target := command.target
  typedParameters := command.parameters
  observedOutcome := some command.observedOutcome
  status := command.status
  executionBlocker := some .staleProposal
  executionEligible := false
  idempotencyKey := command.idempotencyKey
  authorizationExpiresAt := lineage.decision.decidedAt + hours actionAuthorizationHours
  ownerId := none
  attemptCount := 0
  version := 1
  attempts := []
  receipts := []
  reconciliations := []

def newAttempt (command : LegacyActionImport) (number : Nat) : CaseActionAttempt where
  actorId := none
  legacyToolAttemptId := some command.legacyToolAttemptId
  number := number
  command := .legacyImport
  outcome := command.attemptOutcome
  sideEffectState := command.sideEffectState
  detail := command.observedOutcome
  errorCode := command.errorCode
  requestFingerprint := command.requestFingerprint
  responseFingerprint := command.responseFingerprint
  startedAt := command.startedAt
  finishedAt := some command.finishedAt

def newReceipt (command : LegacyActionImport) (attemptId : Nat) (receipt : LegacyActionReceiptImport)
    : CaseActionReceipt where
  attemptId := attemptId
  legacyExternalReceiptId := some receipt.legacyExternalReceiptId
  provider := receipt.provider
  externalReference := receipt.externalReference
  idempotencyKey := command.idempotencyKey
  status := receipt.status
  dataFingerprint := receipt.dataFingerprint
  recordedAt := receipt.recordedAt

end LegacyActionImport

/--
Append a historical attempt to an action, which thereby loses every authority to execute.
-/
def CaseAction.appendLegacy (action : CaseAction) (command : LegacyActionImport) : CaseAction :=
  let receipts :=
    match command.receipt with
    | some receipt =>
      if action.receipt.isNone then
        action.receipts ++ [command.newReceipt action.attempts.length receipt]
      else
        action.receipts
    | none => action.receipts
  { action with
    attempts := action.attempts ++ [command.newAttempt (action.attemptCount + 1)]
    receipts := receipts
    attemptCount := action.attemptCount + 1
    executionEligible := false
    executionBlocker := some .staleProposal
    observedOutcome := some command.observedOutcome
    status :=
      if action.receipt.isSome ∨ command.receipt.isSome then
        .completed
      else if action.status = .outcomeUnknown ∨ command.status = .outcomeUnknown then
        .outcomeUnknown
      else
        .failedSafe
    version := action.version + 1 }

namespace Store

def findLegacyAttempt (s : Store) (legacyToolAttemptId : Nat) : Option Nat :=
  s.actions.findIdx? fun action =>
    action.attempts.any fun attempt => attempt.legacyToolAttemptId = some legacyToolAttemptId

def holdsReceipt (s : Store) (provider idempotencyKey : String) : Bool :=
  s.actions.any fun action => action.receipts.any fun receipt =>
    receipt.provider = provider ∧ receipt.idempotencyKey = idempotencyKey

def holdsLegacyReceipt (s : Store) (legacyExternalReceiptId : Nat) : Bool :=
  s.actions.any fun action => action.receipts.any fun receipt =>
    receipt.legacyExternalReceiptId = some legacyExternalReceiptId

/--
The receipt an import stores is unique, if it stores one at all.
-/
def requireReceiptUnique (s : Store) (action : CaseAction) (command : LegacyActionImport)
    : Except Error Unit :=
  match command.receipt with
  | some receipt =>
    if action.receipt.isNone then do
      ensure (¬ s.holdsReceipt receipt.provider command.idempotencyKey)
        (.integrityError "uq_case_action_receipts_org_provider_idempotency")
      ensure (¬ s.holdsLegacyReceipt receipt.legacyExternalReceiptId)
        (.integrityError "uq_case_action_receipts_legacy")
    else
      pure ⟨⟩
  | none => pure ⟨⟩

/--
Import a historical tool attempt as evidence. A repeated import changes nothing.
-/
def importLegacyAction (s : Store) (now : Instant) (command : LegacyActionImport)
    : Except Error (Store × ActionQueueItem) := do
  match s.findLegacyAttempt command.legacyToolAttemptId with
  | some actionId =>
    let action ← orThrow s.actions[actionId]?
      (.actionConflict "The imported legacy action lineage is incomplete.")
    let item ← s.queueItem action now
    pure (s, item)
  | none =>
    let lineage ← s.legacyLineage command
    let (resolved, connectionId, _) := s.resolveForAction lineage.proposedAction.type
    let found :=
      resolved.findAction lineage.version.caseId lineage.versionId lineage.proposedActionId
    ensure (found.isSome
        ∨ ∀ action ∈ resolved.actions, action.idempotencyKey ≠ command.idempotencyKey)
      (.integrityError "uq_case_actions_org_idempotency")
    ensure (command.attemptOutcome ≠ .running) (.integrityError "ck_case_action_attempts_finished")
    match found.bind fun actionId => (resolved.actions[actionId]?).map fun a => (actionId, a) with
    | some (actionId, action) =>
      resolved.requireReceiptUnique action command
      let imported := action.appendLegacy command
      let stored := resolved.setAction actionId imported
      let item ← stored.queueItem imported now
      pure (stored, item)
    | none =>
      let created := command.newAction lineage connectionId
      resolved.requireReceiptUnique created command
      let imported := created.appendLegacy command
      let stored := { resolved with actions := resolved.actions ++ [imported] }
      let item ← stored.queueItem imported now
      pure (stored, item)

end Store

end CaseResolution
