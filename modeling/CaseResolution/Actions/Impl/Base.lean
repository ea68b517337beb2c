import CaseResolution.Store
import Mathlib.Data.List.MinMax

/-!
This module contains what the operations of the action repository share: the reads of an action's
attempts, receipt and reconciliations, the recovery of abandoned attempts, the effective execution
blocker and the queue item every operation returns.
-/

namespace CaseResolution

open Guard

def actionAuthorizationHours : Nat := 24

def abandonedActionMinutes : Nat := 5

def connectionHealthMaxAgeMinutes : Nat := 15

namespace CaseAction

def receipt (action : CaseAction) : Option CaseActionReceipt :=
  action.receipts.head?

/--
The attempt with the highest number.
-/
def latestAttempt (action : CaseAction) : Option CaseActionAttempt :=
  action.attempts.argmax fun attempt => attempt.number

def latestAttemptId (action : CaseAction) : Nat :=
  action.attempts.findIdx fun attempt => action.latestAttempt = some attempt

/--
The reconciliation that was checked last, the first stored one of several checked at once.
-/
def latestReconciliation (action : CaseAction) : Option CaseActionReconciliation :=
  action.reconciliations.argmax fun reconciliation => reconciliation.checkedAt

def retryIsSafe (action : CaseAction) : Bool :=
  action.latestReconciliation.any (fun reconciliation => reconciliation.outcome = .confirmedAbsent)
    || action.latestAttempt.any (fun attempt =>
      attempt.outcome = .failedBeforeChange ∧ attempt.sideEffectState.isSafe)

end CaseAction

def abandonedAttemptDetail : String :=
  "The execution process ended before a target outcome was recorded."

namespace CaseActionAttempt

def isAbandoned (attempt : CaseActionAttempt) (now : Instant) : Bool :=
  attempt.outcome = .running ∧ attempt.startedAt ≤ now - minutes abandonedActionMinutes

def abandon [Digest] (attempt : CaseActionAttempt) (now : Instant) : CaseActionAttempt :=
  { attempt with
    outcome := .unknown
    sideEffectState := .possible
    detail := abandonedAttemptDetail
    errorCode := some "execution_lease_abandoned"
    responseFingerprint := some <| Digest.hash <| .obj [
      ("error_code", .str "execution_lease_abandoned"),
      ("side_effect_state", .str ActionSideEffectState.possible.value)
    ]
    finishedAt := some now }

def reconcileAbandoned [Digest] (attempt : CaseActionAttempt) (now : Instant) : CaseActionAttempt :=
  if attempt.isAbandoned now then attempt.abandon now else attempt

end CaseActionAttempt

/--
Record the attempts whose process died as having an unknown outcome, and with the first of them the
action, unless it is not running any more.
-/
def CaseAction.reconcileAbandoned [Digest] (action : CaseAction) (now : Instant) : CaseAction :=
  let attempts := action.attempts.map fun attempt => attempt.reconcileAbandoned now
  if action.status = .running ∧ action.attempts.any (fun attempt => attempt.isAbandoned now) then
    { action with
      attempts := attempts
      status := .outcomeUnknown
      observedOutcome := some abandonedAttemptDetail
      version := action.version + 1 }
  else
    { action with attempts := attempts }

/--
The rows an action descends from.
-/
structure ActionLineage where
  review : CaseReview
  decision : CaseReviewDecision
  case : Case
  proposal : CaseProposal
  version : CaseProposalVersion

namespace ActionLineage

/--
The approval behind an action still speaks about the current case and resolution.
-/
def IsCurrent (lineage : ActionLineage) : Prop :=
  lineage.review.status = .approved
    ∧ lineage.decision.decision = .approve
    ∧ lineage.decision.snapshotFingerprint = lineage.review.snapshot.snapshotFingerprint
    ∧ lineage.review.snapshot.executionEligible = true
    ∧ lineage.case.version = lineage.review.snapshot.caseVersion
    ∧ lineage.proposal.currentVersion = lineage.review.snapshot.proposalVersion
    ∧ lineage.proposal.state = .approved
    ∧ lineage.version.version = lineage.review.snapshot.proposalVersion
    ∧ lineage.version.legacyProposalVersionId = none

instance (lineage : ActionLineage) : Decidable lineage.IsCurrent :=
  inferInstanceAs (Decidable (_ ∧ _))

end ActionLineage

namespace Connection

def isEligible (connection : Connection) (now : Instant) : Bool :=
  connection.health = .healthy
    ∧ connection.credentialStatus ≠ .missing
    ∧ connection.credentialStatus ≠ .expired
    ∧ connection.adapterKey ≠ "unconfigured"
    ∧ connection.lastCheckedAt.any fun checkedAt =>
        now - minutes connectionHealthMaxAgeMinutes < checkedAt

end Connection

def materializationBlocker (executionEligible : Bool) (connection : Connection) (now : Instant)
    : Option ActionExecutionBlocker :=
  if ¬ executionEligible then
    some .staleProposal
  else if ¬ connection.isEligible now then
    some .connectionUnavailable
  else
    none

/--
The first of the known target parameters that is present and not empty.
-/
def actionTarget (proposedAction : ProposedActionDraft) (case : Case) : String :=
  let keys :=
    ["external_reference", "payment_id", "invoice_id", "account_id", "order_id", "case_id"]
  let values := keys.filterMap fun key => proposedAction.parameters.lookup key
  match values.find? (fun value => value ≠ "") with
  | some value => value
  | none =>
    match case.externalReference.filter (fun reference => reference ≠ "") with
    | some reference => reference
    | none => case.publicId

def blockerMessage : ActionExecutionBlocker → String
  | .permission => "Your role does not have permission to execute this action."
  | .duplicate => "This action already has a target receipt and cannot be repeated."
  | .expiredApproval => "The approval expired. Submit the current resolution for review again."
  | .connectionUnavailable =>
    "The target connection is not healthy and configured for this action."
  | .staleProposal => "The approved resolution no longer matches the current case."

structure ActionBundle where
  action : CaseAction
  lineage : ActionLineage
  connection : Connection

structure ActionQueueItem where
  bundle : ActionBundle
  effectiveBlocker : Option ActionExecutionBlocker
  recoveryRequired : Bool

namespace Store

def actionLineage (s : Store) (action : CaseAction) : Option ActionLineage := do
  let review ← s.reviews[action.reviewId]?
  let decision ← review.decisions[action.reviewDecisionId]?
  let case ← s.cases[action.caseId]?
  let proposal ← s.proposals[action.proposalId]?
  let version ← s.versions[action.proposalVersionId]?
  pure { review, decision, case, proposal, version }

def requiredConnection (s : Store) (action : CaseAction) : Except Error Connection :=
  orThrow s.connections[action.connectionId]?
    (.actionConflict "The action target connection is missing.")

def effectiveBlocker (s : Store) (action : CaseAction) (now : Instant)
    : Except Error (Option ActionExecutionBlocker) :=
  if action.status = .completed ∨ action.receipt.isSome then
    pure (some .duplicate)
  else if action.type ∈ retiredActionTypes then
    pure (some .connectionUnavailable)
  else if ¬ action.executionEligible then
    pure (some .staleProposal)
  else if action.authorizationExpiresAt ≤ now then
    pure (some .expiredApproval)
  else if ∃ lineage ∈ s.actionLineage action, lineage.IsCurrent then do
    let connection ← s.requiredConnection action
    if connection.isEligible now ∧ action.type ∈ connection.actionTypes then
      pure none
    else
      pure (some .connectionUnavailable)
  else
    pure (some .staleProposal)

def loadBundle (s : Store) (action : CaseAction) : Except Error ActionBundle := do
  let lineage ← orThrow (s.actionLineage action)
    (.actionConflict "The action lineage is incomplete.")
  let connection ← orThrow s.connections[action.connectionId]?
    (.actionConflict "The action lineage is incomplete.")
  pure { action, lineage, connection }

def queueItem (s : Store) (action : CaseAction) (now : Instant) : Except Error ActionQueueItem := do
  let bundle ← s.loadBundle action
  let effectiveBlocker ← s.effectiveBlocker action now
  pure { bundle, effectiveBlocker, recoveryRequired := action.status.isRecovery }

/--
The action an operation writes. Historical actions of retired types are read-only.
-/
def requiredAction (s : Store) (actionId : Nat) : Except Error CaseAction := do
  let action ← orThrow s.actions[actionId]? (.actionNotFound "The action was not found.")
  ensure (action.type ∉ retiredActionTypes)
    (.actionConflict "This historical action is read-only in the current product.")
  pure action

def actionMember (s : Store) (actorId : String) : Except Error (Nat × Membership) :=
  orThrow (s.activeMember actorId)
    (.actorMembershipNotFound
      "An active organization membership is required for this action.")

/--
Recover the abandoned attempts of every action.
-/
def reconcileAbandonedActions [Digest] (s : Store) (now : Instant) : Store :=
  { s with actions := s.actions.map fun action => action.reconcileAbandoned now }

/--
A completed action moves its case on from the review it waited for.
-/
def advanceCaseAfterCompletion (s : Store) (action : CaseAction) : Except Error Store := do
  let case ← orThrow s.cases[action.caseId]? (.actionConflict "The action case is missing.")
  if case.status = .needsReview then
    pure (s.setCase action.caseId { case with status := .inProgress, version := case.version + 1 })
  else
    pure s

end Store

/--
Bind a target receipt to an action, or find the same receipt already bound.
-/
def CaseAction.recordReceipt [Digest] (action : CaseAction) (attemptId : Nat)
    (receipt : ActionGatewayReceipt) (now : Instant)
    : Except Error (CaseAction × CaseActionReceipt) :=
  match action.receipt with
  | some existing => do
    ensure
      (existing.idempotencyKey = receipt.idempotencyKey
        ∧ existing.externalReference = receipt.externalReference)
      (.actionConflict "A different target receipt is already bound to this action.")
    pure (action, existing)
  | none =>
    let stored : CaseActionReceipt := {
      attemptId
      legacyExternalReceiptId := none
      provider := receipt.provider
      externalReference := receipt.externalReference
      idempotencyKey := receipt.idempotencyKey
      status := receipt.status
      dataFingerprint := Digest.hash (.ofDict receipt.data)
      recordedAt := now
    }
    pure ({ action with receipts := action.receipts ++ [stored] }, stored)

end CaseResolution
