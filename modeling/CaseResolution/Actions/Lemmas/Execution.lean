import CaseResolution.Actions.Impl.Execution
import CaseResolution.Actions.Lemmas.Base

/-!
This module contains when the operations that execute actions are accepted and what they write.
-/

namespace CaseResolution

open Guard

theorem Store.executionModels_eq_ok {s : Store} {lease : ActionExecutionLease} {a : CaseAction}
    {attempt : CaseActionAttempt}
    : s.executionModels lease = .ok (a, attempt)
        ↔ s.actions[lease.actionId]? = some a ∧ a.attempts[lease.attemptId]? = some attempt := by
  unfold executionModels
  simp only [orThrow_bind_eq_ok, pure_eq_ok, Prod.mk.injEq]
  constructor
  . rintro ⟨_, ha, _, hattempt, rfl, rfl⟩
    exact ⟨ha, hattempt⟩
  . rintro ⟨ha, hattempt⟩
    exact ⟨a, ha, attempt, hattempt, rfl, rfl⟩

variable [Digest]

/--
The command that creates an attempt fits the status of the action.
-/
def ActionCommand.Starts (command : ActionCommand) (a : CaseAction) : Prop :=
  command = .execute ∧ a.status = .ready
    ∨ command = .retrySafe ∧ a.status = .failedSafe ∧ a.retryIsSafe = true

def CaseAction.executionLease (a : CaseAction) (actionId : Nat) (connection : Connection)
    : ActionExecutionLease where
  actionId := actionId
  actionVersion := a.version + 1
  attemptId := a.attempts.length
  actionType := a.type
  target := a.target
  parameters := a.typedParameters
  idempotencyKey := a.idempotencyKey
  adapterKey := connection.adapterKey
  providerType := connection.providerType

namespace Store

variable {s t : Store} {now : Instant} {actionId expectedVersion : Nat} {actorId : String}

theorem prepareExecution_eq_ok {command : ActionCommand} {lease : ActionExecutionLease}
    : s.prepareExecution now actionId actorId expectedVersion command = .ok (t, lease)
        ↔ ∃ found a memberId member connection,
          s.actions[actionId]? = some found
            ∧ a = found.reconcileAbandoned now
            ∧ a.type ∉ retiredActionTypes
            ∧ a.version = expectedVersion
            ∧ s.effectiveBlocker a now = .ok none
            ∧ command.Starts a
            ∧ s.activeMember actorId = some (memberId, member)
            ∧ s.connections[a.connectionId]? = some connection
            ∧ t = s.setAction actionId (a.start actionId memberId command now)
            ∧ lease = a.executionLease actionId connection := by
  unfold prepareExecution ActionCommand.Starts
  simp only [bind_eq_ok, ensure_eq_ok, exists_const, requiredAction_eq_ok]
  constructor
  . rintro ⟨hcommand, found, ⟨hfound, htype⟩, hversion, blocker, hblocker, h⟩
    cases blocker with
    | some blocker => simp at h
    | none =>
      simp only [bind_eq_ok, ensure_eq_ok, exists_const, actionMember_eq_ok,
        requiredConnection_eq_ok, pure_eq_ok, Prod.mk.injEq] at h
      obtain ⟨hready, hfailed, hsafe, ⟨memberId, member⟩, hmember, connection, hconnection, rfl,
        rfl⟩ := h
      refine ⟨found, _, memberId, member, connection, hfound, rfl, by simpa using htype, hversion,
        hblocker, ?_, hmember, hconnection, rfl, rfl⟩
      rcases hcommand with rfl | rfl
      . exact .inl ⟨rfl, hready rfl⟩
      . exact .inr ⟨rfl, hfailed rfl, hsafe rfl⟩
  . rintro ⟨found, _, memberId, member, connection, hfound, rfl, htype, hversion, hblocker, hstarts,
      hmember, hconnection, rfl, rfl⟩
    refine ⟨?_, found, ⟨hfound, by simpa using htype⟩, hversion, none, hblocker, ?_⟩
    . rcases hstarts with ⟨rfl, _⟩ | ⟨rfl, _⟩ <;> simp
    . simp only [bind_eq_ok, ensure_eq_ok, exists_const, actionMember_eq_ok,
        requiredConnection_eq_ok, pure_eq_ok, Prod.mk.injEq]
      refine ⟨?_, ?_, ?_, (memberId, member), hmember, connection, hconnection, rfl, rfl⟩
      . rcases hstarts with ⟨_, hstatus⟩ | ⟨rfl, _⟩ <;> simp_all
      . rcases hstarts with ⟨rfl, _⟩ | ⟨_, hstatus, _⟩ <;> simp_all
      . rcases hstarts with ⟨rfl, _⟩ | ⟨_, _, hsafe⟩ <;> simp_all

/--
A success is recorded once: a finished attempt of a completed action is only read again.
-/
theorem finishExecutionSuccess_eq_ok {lease : ActionExecutionLease} {receipt : ActionGatewayReceipt}
    {item : ActionQueueItem} (h : s.finishExecutionSuccess now lease receipt = .ok (t, item))
    : ∃ a attempt, s.actions[lease.actionId]? = some a
        ∧ a.attempts[lease.attemptId]? = some attempt
        ∧ ((attempt.outcome ≠ .running ∧ a.status = .completed ∧ t = s)
          ∨ ∃ bound stored case, attempt.outcome = .running
            ∧ receipt.idempotencyKey = a.idempotencyKey
            ∧ a.recordReceipt lease.attemptId receipt now = .ok (bound, stored)
            ∧ s.cases[bound.caseId]? = some case
            ∧ t = (s.setAction lease.actionId
                (bound.succeed lease.attemptId attempt receipt stored now)).setCase bound.caseId
                  (completedCase case)) := by
  unfold finishExecutionSuccess at h
  rw [bind_eq_ok] at h
  obtain ⟨⟨a, attempt⟩, hmodels, h⟩ := h
  obtain ⟨ha, hattempt⟩ := executionModels_eq_ok.mp hmodels
  refine ⟨a, attempt, ha, hattempt, ?_⟩
  dsimp only at h
  split at h
  . next hfinished =>
    simp only [bind_eq_ok, ensure_eq_ok, exists_const, pure_eq_ok, Prod.mk.injEq] at h
    obtain ⟨hcompleted, _, _, rfl, _⟩ := h
    exact .inl ⟨hfinished, hcompleted, rfl⟩
  . next hrunning =>
    simp only [bind_eq_ok, ensure_eq_ok, exists_const, advanceCaseAfterCompletion_eq_ok, pure_eq_ok,
      Prod.mk.injEq] at h
    obtain ⟨hkey, ⟨bound, stored⟩, hreceipt, _, ⟨case, hcase, rfl⟩, _, _, rfl, _⟩ := h
    exact .inr ⟨bound, stored, case, not_not.mp hrunning, hkey, hreceipt, hcase, rfl⟩

theorem finishExecutionError_eq_ok {lease : ActionExecutionLease} {error : ActionGatewayError}
    {item : ActionQueueItem} (h : s.finishExecutionError now lease error = .ok (t, item))
    : ∃ a attempt, s.actions[lease.actionId]? = some a
        ∧ a.attempts[lease.attemptId]? = some attempt
        ∧ ((attempt.outcome ≠ .running ∧ t = s)
          ∨ (attempt.outcome = .running
            ∧ t = s.setAction lease.actionId (a.failWith lease.attemptId attempt error now))) := by
  unfold finishExecutionError at h
  rw [bind_eq_ok] at h
  obtain ⟨⟨a, attempt⟩, hmodels, h⟩ := h
  obtain ⟨ha, hattempt⟩ := executionModels_eq_ok.mp hmodels
  refine ⟨a, attempt, ha, hattempt, ?_⟩
  dsimp only at h
  split at h
  . next hfinished =>
    simp only [bind_eq_ok, pure_eq_ok, Prod.mk.injEq] at h
    obtain ⟨_, _, rfl, _⟩ := h
    exact .inl ⟨hfinished, rfl⟩
  . next hrunning =>
    simp only [bind_eq_ok, pure_eq_ok, Prod.mk.injEq] at h
    obtain ⟨_, _, rfl, _⟩ := h
    exact .inr ⟨not_not.mp hrunning, rfl⟩

end Store

end CaseResolution
