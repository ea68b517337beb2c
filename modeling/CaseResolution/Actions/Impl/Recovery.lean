import CaseResolution.Actions.Impl.Base

/-!
This module contains the recovery of actions whose target outcome is unknown: reconciliation with the
target, the outcome a human records, and escalation.
-/

namespace CaseResolution

open Guard

variable [Digest]

namespace CaseAction

def startReconciliation (action : CaseAction) (memberId : Nat) (now : Instant) : CaseAction :=
  { action with
    version := action.version + 1
    reconciliations := action.reconciliations ++ [{
      actorId := memberId
      outcome := .running
      detail := "The target is being checked without issuing another write."
      externalReference := none
      checkedAt := now
    }] }

/--
Close a running reconciliation with what was found. `status` is the status this leaves the action in.
-/
def closeReconciliation (action : CaseAction) (reconciliationId : Nat)
    (reconciliation : CaseActionReconciliation) (outcome : ReconciliationOutcome)
    (status : ActionStatus) (externalReference : Option String) (detail : String) (now : Instant)
    : CaseAction :=
  { action with
    status := status
    observedOutcome := some detail
    version := action.version + 1
    reconciliations := action.reconciliations.set reconciliationId
      { reconciliation with outcome, detail, externalReference, checkedAt := now } }

def recordManual (action : CaseAction) (memberId : Nat) (outcome : ManualActionOutcome)
    (reason : String) (now : Instant) : CaseAction :=
  { action with
    status := if outcome = .completed then .completed else .outcomeUnknown
    observedOutcome := some reason
    version := action.version + 1
    reconciliations := action.reconciliations ++ [{
      actorId := memberId
      outcome := reconciliationOutcomeForManualRecord outcome
      detail := reason
      externalReference := none
      checkedAt := now
    }] }

def escalateTo (action : CaseAction) (memberId : Nat) (reason : String) : CaseAction :=
  { action with
    status := .recoveryRequired
    observedOutcome := some reason
    ownerId := some memberId
    version := action.version + 1 }

def hasRunningReconciliation (action : CaseAction) : Bool :=
  action.reconciliations.any fun reconciliation => reconciliation.outcome = .running

end CaseAction

namespace Store

def prepareReconciliation (s : Store) (now : Instant) (actionId : Nat) (actorId : String)
    (expectedVersion : Nat) : Except Error (Store × ActionReconciliationLease) := do
  let found ← s.requiredAction actionId
  let action := found.reconcileAbandoned now
  ensure (action.version = expectedVersion)
    (.actionVersionConflict expectedVersion action.version)
  ensure action.status.isRecovery
    (.actionConflict "Reconciliation is available only when the target outcome is unknown.")
  let connection ← s.requiredConnection action
  ensure (connection.adapterKey ≠ "unconfigured")
    (.actionExecutionBlocked .connectionUnavailable
      "Configure this connection before checking the target.")
  ensure (action.latestAttempt.any fun attempt => attempt.outcome = .unknown)
    (.actionConflict "No unknown execution attempt is available to reconcile.")
  ensure (¬ action.hasRunningReconciliation)
    (.actionConflict "A reconciliation check is already running.")
  let (memberId, _) ← s.actionMember actorId
  let started := action.startReconciliation memberId now
  pure (s.setAction actionId started, {
    actionId
    actionVersion := started.version
    reconciliationId := action.reconciliations.length
    actionType := action.type
    target := action.target
    parameters := action.typedParameters
    idempotencyKey := action.idempotencyKey
    externalReference := action.receipt.map fun receipt => receipt.externalReference
    adapterKey := connection.adapterKey
    providerType := connection.providerType
  })

/--
Record what a lookup of the target found. Neither the status of the action nor its version is
checked: the lease only names the reconciliation.
-/
def finishReconciliation (s : Store) (now : Instant) (lease : ActionReconciliationLease)
    (result : ActionLookupResult) : Except Error (Store × ActionQueueItem) := do
  let action ← orThrow s.actions[lease.actionId]?
    (.actionNotFound "The reconciliation lease was not found.")
  let reconciliation ← orThrow action.reconciliations[lease.reconciliationId]?
    (.actionNotFound "The reconciliation lease was not found.")
  if reconciliation.outcome ≠ .running then
    let item ← s.queueItem action now
    pure (s, item)
  else
    ensure action.latestAttempt.isSome (.actionConflict "The action attempt is missing.")
    match reconciliationOutcomeForLookup result.found result.absenceIsTerminal with
    | .confirmedCompleted =>
      let receipt ← orThrow result.receipt
        (.actionConflict "The target reported a change without an attributable receipt.")
      let (bound, stored) ← action.recordReceipt action.latestAttemptId receipt now
      let completed := bound.closeReconciliation lease.reconciliationId reconciliation
        .confirmedCompleted .completed (some stored.externalReference) result.detail now
      let advanced ← (s.setAction lease.actionId completed).advanceCaseAfterCompletion completed
      let item ← advanced.queueItem completed now
      pure (advanced, item)
    | .confirmedAbsent =>
      let failed := action.closeReconciliation lease.reconciliationId reconciliation
        .confirmedAbsent .failedSafe reconciliation.externalReference result.detail now
      let stored := s.setAction lease.actionId failed
      let item ← stored.queueItem failed now
      pure (stored, item)
    | _ =>
      let unknown := action.closeReconciliation lease.reconciliationId reconciliation
        .stillUnknown .outcomeUnknown reconciliation.externalReference result.detail now
      let stored := s.setAction lease.actionId unknown
      let item ← stored.queueItem unknown now
      pure (stored, item)

def recordManualOutcome (s : Store) (now : Instant) (actionId : Nat) (actorId : String)
    (expectedVersion : Nat) (outcome : ManualActionOutcome) (reason : String)
    : Except Error (Store × ActionQueueItem) := do
  let action ← s.requiredAction actionId
  ensure (action.version = expectedVersion)
    (.actionVersionConflict expectedVersion action.version)
  ensure action.status.isRecovery
    (.actionConflict "A manual outcome can only resolve an unknown target result.")
  ensure (action.latestAttempt.any fun attempt => attempt.outcome = .unknown)
    (.actionConflict "This recovery item does not have an unknown target outcome to resolve.")
  let (memberId, _) ← s.actionMember actorId
  let recorded := action.recordManual memberId outcome reason now
  let stored := s.setAction actionId recorded
  let advanced ←
    if outcome = .completed then stored.advanceCaseAfterCompletion recorded else pure stored
  let item ← advanced.queueItem recorded now
  pure (advanced, item)

def escalate (s : Store) (now : Instant) (actionId : Nat) (actorId : String)
    (expectedVersion : Nat) (reason : String) : Except Error (Store × ActionQueueItem) := do
  let action ← s.requiredAction actionId
  ensure (action.version = expectedVersion)
    (.actionVersionConflict expectedVersion action.version)
  ensure (action.status = .failedSafe ∨ action.status = .outcomeUnknown
      ∨ action.status = .recoveryRequired)
    (.actionConflict "Only failed or uncertain actions can be escalated for recovery.")
  let (memberId, _) ← s.actionMember actorId
  let escalated := action.escalateTo memberId reason
  let stored := s.setAction actionId escalated
  let item ← stored.queueItem escalated now
  pure (stored, item)

end Store

end CaseResolution
