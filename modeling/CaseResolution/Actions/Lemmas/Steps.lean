import CaseResolution.Actions.Lemmas.Invariant
import CaseResolution.System.Basic

/-!
This module contains the steps an action can take, whichever command takes them, and that
they keep the invariant of actions.
-/

namespace CaseResolution

open Guard

variable [Digest]

/--
The ways in which a command may write the action at position `i`.
-/
inductive ActionStep (c : Command) (i : Nat) (a : CaseAction) : CaseAction → Prop where
  | abandoned (now : Instant) : ActionStep c i a (a.reconcileAbandoned now)
  | started (now : Instant) (actorId : String) (expectedVersion : Nat) (command : ActionCommand)
      (memberId : Nat) (issued : c = .prepareExecution now i actorId expectedVersion command)
      (eligible : a.executionEligible = true) (unpaid : a.receipts = [])
      (startable : a.status = .ready ∨ a.status = .failedSafe)
      : ActionStep c i a (a.start i memberId command now)
  | succeeded (now : Instant) (lease : ActionExecutionLease) (receipt : ActionGatewayReceipt)
      (attempt : CaseActionAttempt) (bound : CaseAction) (stored : CaseActionReceipt)
      (issued : c = .finishExecutionSuccess now lease receipt) (leased : lease.actionId = i)
      (found : a.attempts[lease.attemptId]? = some attempt) (running : attempt.outcome = .running)
      (recorded : a.recordReceipt lease.attemptId receipt now = .ok (bound, stored))
      : ActionStep c i a (bound.succeed lease.attemptId attempt receipt stored now)
  | failed (now : Instant) (lease : ActionExecutionLease) (error : ActionGatewayError)
      (attempt : CaseActionAttempt) (issued : c = .finishExecutionError now lease error)
      (leased : lease.actionId = i)
      (found : a.attempts[lease.attemptId]? = some attempt) (running : attempt.outcome = .running)
      : ActionStep c i a (a.failWith lease.attemptId attempt error now)
  | checkStarted (now : Instant) (actorId : String) (expectedVersion memberId : Nat)
      (issued : c = .prepareReconciliation now i actorId expectedVersion)
      (recovery : a.status.isRecovery = true) (unknown : a.LatestUnknown)
      (alone : a.hasRunningReconciliation = false)
      : ActionStep c i a (a.startReconciliation memberId now)
  | confirmed (now : Instant) (lease : ActionReconciliationLease) (result : ActionLookupResult)
      (reconciliation : CaseActionReconciliation) (receipt : ActionGatewayReceipt)
      (bound : CaseAction) (stored : CaseActionReceipt)
      (issued : c = .finishReconciliation now lease result) (leased : lease.actionId = i)
      (found : a.reconciliations[lease.reconciliationId]? = some reconciliation)
      (running : reconciliation.outcome = .running)
      (recorded : a.recordReceipt a.latestAttemptId receipt now = .ok (bound, stored))
      : ActionStep c i a (bound.closeReconciliation lease.reconciliationId reconciliation
          .confirmedCompleted .completed (some stored.externalReference) result.detail now)
  | unconfirmed (now : Instant) (lease : ActionReconciliationLease) (result : ActionLookupResult)
      (reconciliation : CaseActionReconciliation) (outcome : ReconciliationOutcome)
      (status : ActionStatus) (issued : c = .finishReconciliation now lease result)
      (leased : lease.actionId = i)
      (found : a.reconciliations[lease.reconciliationId]? = some reconciliation)
      (running : reconciliation.outcome = .running)
      (concluded : LeavesOpen outcome status)
      : ActionStep c i a (a.closeReconciliation lease.reconciliationId reconciliation outcome status
          reconciliation.externalReference result.detail now)
  | recorded (now : Instant) (actorId : String) (expectedVersion memberId : Nat)
      (outcome : ManualActionOutcome) (reason : String)
      (issued : c = .recordManualOutcome now i actorId expectedVersion outcome reason)
      (recovery : a.status.isRecovery = true) (unknown : a.LatestUnknown)
      : ActionStep c i a (a.recordManual memberId outcome reason now)
  | escalated (now : Instant) (actorId : String) (expectedVersion memberId : Nat) (reason : String)
      (issued : c = .escalate now i actorId expectedVersion reason)
      (open_ : a.status = .failedSafe ∨ a.status.isRecovery = true)
      : ActionStep c i a (a.escalateTo memberId reason)
  | imported (now : Instant) (command : LegacyActionImport)
      (issued : c = .importLegacyAction now command) (ineligible : a.executionEligible = false)
      (finished : command.attemptOutcome ≠ .running)
      : ActionStep c i a (a.appendLegacy command)

namespace ActionStep

variable {c : Command} {i : Nat} {a b : CaseAction}

theorem persists (h : ActionStep c i a b) : a.Persists b := by
  cases h with
  | abandoned now => exact abandoned_persists a now
  | started =>
    refine { CaseAction.Persists.refl a with
      grant := rfl
      attempts := .append .refl _ _
      version := Nat.le_succ _
      status := fun _ => Nat.lt_succ_self _ }
  | succeeded now lease receipt attempt bound stored issued leased found running recorded =>
    have hbound := persists_of_recordReceipt recorded
    refine hbound.trans (finish_persists (t := attempt) ?_ running rfl rfl rfl rfl rfl rfl rfl rfl)
    rcases CaseAction.recordReceipt_eq_ok recorded with ⟨rfl, _, _⟩ | ⟨_, rfl, _⟩
    . exact found
    . exact found
  | failed now lease error attempt issued leased found running =>
    exact finish_persists found running rfl rfl rfl rfl rfl rfl rfl rfl
  | checkStarted => exact recover_persists rfl rfl rfl (.append .refl _ _) rfl rfl
  | confirmed now lease result reconciliation receipt bound stored issued leased found running
      recorded =>
    have hbound := persists_of_recordReceipt recorded
    refine hbound.trans (close_persists ?_ running _ _ _ _ _)
    rcases CaseAction.recordReceipt_eq_ok recorded with ⟨rfl, _, _⟩ | ⟨_, rfl, _⟩
    . exact found
    . exact found
  | unconfirmed now lease result reconciliation outcome status issued leased found running =>
    exact close_persists found running _ _ _ _ _
  | recorded => exact recover_persists rfl rfl rfl (.append .refl _ _) rfl rfl
  | escalated => exact recover_persists rfl rfl rfl (.refl .refl _) rfl rfl
  | imported now command => exact import_persists a command

/--
Every step keeps the invariant.
-/
theorem valid (h : ActionStep c i a b) (ha : a.Valid) : b.Valid := by
  cases h with
  | abandoned now => exact ha.abandoned now
  | started now actorId expectedVersion command memberId issued eligible unpaid startable =>
    exact ha.started i memberId command now eligible unpaid startable
  | succeeded now lease receipt attempt bound stored issued leased found running recorded =>
    have hreceipts := (ha.running_unconfirmed (ha.running_last _ _ found running).1).1
    rcases CaseAction.recordReceipt_eq_ok recorded with ⟨_, hbound, _⟩ | ⟨_, rfl, _⟩
    . simp [CaseAction.receipt, hreceipts] at hbound
    . exact ha.of_finish found running rfl rfl rfl (by simp) rfl rfl rfl (.inl ⟨rfl, stored, rfl⟩)
  | failed now lease error attempt issued leased found running =>
    have hreceipts := (ha.running_unconfirmed (ha.running_last _ _ found running).1).1
    refine ha.of_finish found running rfl rfl rfl ?_ rfl rfl rfl (.inr ⟨?_, hreceipts⟩)
    . dsimp only
      split <;> simp
    . unfold CaseAction.failWith
      dsimp only
      split <;> simp
  | checkStarted now actorId expectedVersion memberId issued recovery unknown alone =>
    exact ha.checkStarted memberId now recovery (CaseAction.LatestUnknown.attempts_ne_nil unknown)
      alone
  | confirmed now lease result reconciliation receipt bound stored issued leased found running
      recorded =>
    rcases CaseAction.recordReceipt_eq_ok recorded with ⟨rfl, hbound, _⟩ | ⟨_, rfl, _⟩
    . have hlength : bound.receipts.length = 1 := by
        have hone := ha.receipt_unique
        have hpos := List.length_pos_of_mem (List.mem_of_head? hbound)
        omega
      exact ha.closed found running _ _ _ bound.receipts (.inl ⟨rfl, rfl, hlength⟩)
    . exact ha.closed found running _ _ _ [stored] (.inl ⟨rfl, rfl, rfl⟩)
  | unconfirmed now lease result reconciliation outcome status issued leased found running
      concluded =>
    refine ha.closed found running _ _ _ a.receipts (.inr ?_)
    rcases concluded with ⟨houtcome, hstatus⟩ | ⟨houtcome, hstatus⟩
    . exact .inl ⟨houtcome, hstatus, rfl⟩
    . exact .inr ⟨houtcome, hstatus, rfl⟩
  | recorded now actorId expectedVersion memberId outcome reason issued recovery unknown =>
    exact ha.recorded memberId outcome reason now recovery
      (CaseAction.LatestUnknown.attempts_ne_nil unknown)
  | escalated now actorId expectedVersion memberId reason issued open_ =>
    exact ha.escalated memberId reason open_
  | imported now command issued ineligible finished => exact ha.imported command ineligible finished

end ActionStep

end CaseResolution
