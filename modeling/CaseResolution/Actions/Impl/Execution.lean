import CaseResolution.Actions.Impl.Base

/-!
This module contains the execution of actions: the lease that lets the gateway be called, and the
recording of what the gateway answered.
-/

namespace CaseResolution

open Guard

variable [Digest]

namespace CaseAction

def requestFingerprint (action : CaseAction) (actionId : Nat) (command : ActionCommand) : String :=
  Digest.hash <| .obj [
    ("action_id", .num actionId),
    ("type", .str action.type),
    ("target", .str action.target),
    ("parameters", .ofDict action.typedParameters),
    ("idempotency_key", .str action.idempotencyKey),
    ("command", .str command.value)
  ]

def newAttempt (action : CaseAction) (actionId memberId : Nat) (command : ActionCommand)
    (now : Instant) : CaseActionAttempt where
  actorId := some memberId
  legacyToolAttemptId := none
  number := action.attemptCount + 1
  command := if command = .execute then .execute else .retrySafe
  outcome := .running
  sideEffectState := .notAttempted
  detail := "The controlled action is being sent to its target."
  errorCode := none
  requestFingerprint := action.requestFingerprint actionId command
  responseFingerprint := none
  startedAt := now
  finishedAt := none

def start (action : CaseAction) (actionId memberId : Nat) (command : ActionCommand) (now : Instant)
    : CaseAction :=
  { action with
    status := .running
    executionBlocker := none
    ownerId := some memberId
    attemptCount := action.attemptCount + 1
    version := action.version + 1
    attempts := action.attempts ++ [action.newAttempt actionId memberId command now] }

def succeed (action : CaseAction) (attemptId : Nat) (attempt : CaseActionAttempt)
    (receipt : ActionGatewayReceipt) (stored : CaseActionReceipt) (now : Instant) : CaseAction :=
  { action with
    attempts := action.attempts.set attemptId
      { attempt with
        outcome := .succeeded
        sideEffectState := .confirmed
        detail := "The target confirmed the change and returned an attributable receipt."
        responseFingerprint := some (Digest.hash receipt.dump)
        finishedAt := some now }
    status := .completed
    executionBlocker := none
    observedOutcome :=
      some s!"Target confirmed {stored.externalReference} with status {stored.status}."
    version := action.version + 1 }

def failWith (action : CaseAction) (attemptId : Nat) (attempt : CaseActionAttempt)
    (error : ActionGatewayError) (now : Instant) : CaseAction :=
  { action with
    attempts := action.attempts.set attemptId
      { attempt with
        outcome := if error.sideEffectState.isSafe then .failedBeforeChange else .unknown
        sideEffectState := error.sideEffectState
        detail := error.message
        errorCode := some error.code
        responseFingerprint := some <| Digest.hash <| .obj [
          ("code", .str error.code),
          ("detail", .str error.message),
          ("side_effect_state", .str error.sideEffectState.value),
          ("retryable", .bool error.retryable)
        ]
        finishedAt := some now }
    status := if error.sideEffectState.isSafe then .failedSafe else .outcomeUnknown
    observedOutcome := some error.message
    version := action.version + 1 }

end CaseAction

namespace Store

def executionModels (s : Store) (lease : ActionExecutionLease)
    : Except Error (CaseAction × CaseActionAttempt) := do
  let action ← orThrow s.actions[lease.actionId]?
    (.actionNotFound "The action execution lease was not found.")
  let attempt ← orThrow action.attempts[lease.attemptId]?
    (.actionNotFound "The action execution lease was not found.")
  pure (action, attempt)

/--
Check everything that authorizes an execution, store a running attempt and hand out its lease.
-/
def prepareExecution (s : Store) (now : Instant) (actionId : Nat) (actorId : String)
    (expectedVersion : Nat) (command : ActionCommand)
    : Except Error (Store × ActionExecutionLease) := do
  ensure (command = .execute ∨ command = .retrySafe)
    (.actionConflict "This command cannot create an execution attempt.")
  let found ← s.requiredAction actionId
  let action := found.reconcileAbandoned now
  ensure (action.version = expectedVersion)
    (.actionVersionConflict expectedVersion action.version)
  match ← s.effectiveBlocker action now with
  | some blocker => .error (.actionExecutionBlocked blocker (blockerMessage blocker))
  | none =>
    ensure (command = .execute → action.status = .ready)
      (.actionConflict "Only a ready action can be executed.")
    ensure (command = .retrySafe → action.status = .failedSafe)
      (.actionConflict "Only an action proven to have made no change can be retried.")
    ensure (command = .retrySafe → action.retryIsSafe)
      (.actionConflict "A safe retry requires proof that the target was not changed.")
    let (memberId, _) ← s.actionMember actorId
    let connection ← s.requiredConnection action
    let started := action.start actionId memberId command now
    pure (s.setAction actionId started, {
      actionId
      actionVersion := started.version
      attemptId := action.attempts.length
      actionType := action.type
      target := action.target
      parameters := action.typedParameters
      idempotencyKey := action.idempotencyKey
      adapterKey := connection.adapterKey
      providerType := connection.providerType
    })

/--
Record the receipt of a successful execution.
-/
def finishExecutionSuccess (s : Store) (now : Instant) (lease : ActionExecutionLease)
    (receipt : ActionGatewayReceipt) : Except Error (Store × ActionQueueItem) := do
  let (action, attempt) ← s.executionModels lease
  if attempt.outcome ≠ .running then
    ensure (action.status = .completed)
      (.actionConflict "This action attempt already has a final outcome.")
    let item ← s.queueItem action now
    pure (s, item)
  else
    ensure (receipt.idempotencyKey = action.idempotencyKey)
      (.actionConflict "The target receipt does not match this action's idempotency key.")
    let (bound, stored) ← action.recordReceipt lease.attemptId receipt now
    let completed := bound.succeed lease.attemptId attempt receipt stored now
    let advanced ← (s.setAction lease.actionId completed).advanceCaseAfterCompletion completed
    let item ← advanced.queueItem completed now
    pure (advanced, item)

/--
Record a failed execution, as safe when the gateway proves that nothing was changed.
-/
def finishExecutionError (s : Store) (now : Instant) (lease : ActionExecutionLease)
    (error : ActionGatewayError) : Except Error (Store × ActionQueueItem) := do
  let (action, attempt) ← s.executionModels lease
  if attempt.outcome ≠ .running then
    let item ← s.queueItem action now
    pure (s, item)
  else
    let failed := action.failWith lease.attemptId attempt error now
    let stored := s.setAction lease.actionId failed
    let item ← stored.queueItem failed now
    pure (stored, item)

end Store

end CaseResolution
