import CaseResolution.Actions.Impl.Base

/-!
This module contains what the action service shows of an action and the commands it offers on it.
-/

namespace CaseResolution

open Guard

namespace Store

/--
Read one action, after recovering its abandoned attempts.
-/
def getAction [Digest] (s : Store) (now : Instant) (actionId : Nat)
    : Except Error (Store × Option ActionQueueItem) := do
  match s.actions[actionId]? with
  | none => pure (s, none)
  | some found =>
    let action := found.reconcileAbandoned now
    let stored := s.setAction actionId action
    let item ← stored.queueItem action now
    pure (stored, some item)

end Store

def hasUnknownOutcome (action : CaseAction) : Bool :=
  action.status = .outcomeUnknown
    ∨ action.latestAttempt.any fun attempt => attempt.outcome = .unknown

def executionCommands (actor : ActorContext) (item : ActionQueueItem) : List ActionCommand :=
  if actor.can .actionExecute ∧ item.effectiveBlocker = none then
    match item.bundle.action.status with
    | .ready => [.execute]
    | .failedSafe => [.retrySafe]
    | _ => []
  else
    []

def recoveryCommands (actor : ActorContext) (item : ActionQueueItem) : List ActionCommand :=
  if actor.can .actionReconcile then
    let action := item.bundle.action
    if action.status = .outcomeUnknown
        ∨ (action.status = .recoveryRequired ∧ hasUnknownOutcome action) then
      (if item.bundle.connection.adapterKey ≠ "unconfigured" then [.reconcile] else [])
        ++ [.recordManualOutcome]
        ++ (if action.status = .outcomeUnknown then [.escalate] else [])
    else if action.status = .failedSafe then
      [.escalate]
    else
      []
  else
    []

/--
The commands a caller is offered on an action.
-/
def availableActionCommands (actor : ActorContext) (item : ActionQueueItem) : List ActionCommand :=
  if item.bundle.action.type ∈ retiredActionTypes then
    []
  else
    executionCommands actor item ++ recoveryCommands actor item

end CaseResolution
