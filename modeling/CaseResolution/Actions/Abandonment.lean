import CaseResolution.System.Reachable

/-!
This module contains what an abandoned reconciliation does to the recovery of its action: attempts are
swept once they are abandoned, reconciliations are not, so a check that never ended refuses every later
one.
-/

namespace CaseResolution

open Guard

/--
How a reconciliation is refused while another one runs.
-/
def checkAlreadyRunning : Error :=
  .actionConflict "A reconciliation check is already running."

/--
The checks that a reconciliation of the action passes before the one for a running reconciliation.
-/
structure Store.AwaitsCheck (s : Store) (a : CaseAction) (expectedVersion : Nat) : Prop where
  unretired : a.type ∉ retiredActionTypes
  current : a.version = expectedVersion
  recovery : a.status.isRecovery = true
  configured : ∃ connection ∈ s.connections[a.connectionId]?, connection.adapterKey ≠ "unconfigured"
  unknown : a.LatestUnknown

section

variable [Digest]

/--
An action that does not run has no attempt to sweep.
-/
theorem CaseAction.Sound.reconcileAbandoned_idle {a : CaseAction} (h : a.Sound)
    (hidle : a.status ≠ .running) (now : Instant) : a.reconcileAbandoned now = a := by
  cases h.reconcileAbandoned_cases now with
  | inl hsame => exact hsame
  | inr hswept =>
    obtain ⟨k, t, hk, hrunning, _⟩ := hswept
    exact absurd (h.running_last k t hk hrunning).1 hidle

namespace Store

variable {s : Store} {now : Instant} {i expectedVersion : Nat} {actorId : String} {a : CaseAction}

/--
The reconciliation of an idle action with a running reconciliation is refused on account of it
exactly if every earlier check passes.
-/
theorem prepareReconciliation_eq_checkAlreadyRunning (actorId : String) (expectedVersion : Nat)
    (hfound : s.actions[i]? = some a)
    (hswept : a.reconcileAbandoned now = a) (hcheck : a.hasRunningReconciliation = true)
    : s.prepareReconciliation now i actorId expectedVersion = .error checkAlreadyRunning
        ↔ s.AwaitsCheck a expectedVersion := by
  have hrequired : s.requiredAction i = .ok a ↔ a.type ∉ retiredActionTypes := by
    rw [requiredAction_eq_ok]
    simp [hfound]
  constructor
  . intro h
    unfold prepareReconciliation checkAlreadyRunning at h
    simp only [bind_eq_error, ensure_eq_error, ensure_eq_ok, requiredAction_eq_ok,
      requiredConnection_eq_ok, exists_const, CaseAction.latestUnknown_iff] at h
    rcases h with h | ⟨found, ⟨hfound', htype⟩, h⟩
    . unfold requiredAction at h
      simp only [bind_eq_error, orThrow_eq_error, orThrow_eq_ok, ensure_eq_error, pure_ne_error] at h
      simp [hfound] at h
    obtain rfl : a = found := Option.some.inj (hfound.symm.trans hfound')
    rw [hswept] at h
    rcases h with ⟨_, h⟩ | ⟨hversion, ⟨_, h⟩ | ⟨hrecovery, h⟩⟩
    . simp at h
    . simp at h
    rcases h with h | ⟨connection, hconnection, ⟨_, h⟩ | ⟨hconfigured, h⟩⟩
    . unfold requiredConnection at h
      simp at h
    . simp at h
    rcases h with ⟨_, h⟩ | ⟨hlatest, _⟩
    . simp at h
    exact ⟨htype, hversion, hrecovery, ⟨connection, hconnection, hconfigured⟩, hlatest⟩
  . rintro ⟨htype, hversion, hrecovery, ⟨connection, hconnection, hconfigured⟩, hlatest⟩
    unfold prepareReconciliation checkAlreadyRunning
    simp only [bind_eq_error, ensure_eq_error, ensure_eq_ok, requiredConnection_eq_ok, exists_const,
      CaseAction.latestUnknown_iff]
    refine .inr ⟨a, hrequired.mpr htype, .inr ⟨by rw [hswept, hversion], .inr ⟨?_, .inr ⟨connection, ?_,
      .inr ⟨hconfigured, .inr ⟨?_, .inl ⟨?_, trivial⟩⟩⟩⟩⟩⟩⟩
    . rw [hswept, hrecovery]
    . rw [hswept]
      exact hconnection
    . rw [hswept]
      exact hlatest
    . rw [hswept]
      simp [hcheck]

end Store

/--
In every reachable store a reconciliation that still runs, however long ago it was begun, refuses the
next one of its action, unless an earlier check refuses it already.
-/
theorem running_check_blocks (init : InitialStore) (commands : List Command) {now : Instant}
    {i expectedVersion : Nat} {actorId : String} {a : CaseAction} {r : CaseActionReconciliation}
    (hfound : (init.after commands).actions[i]? = some a) (hr : r ∈ a.reconciliations)
    (hrunning : r.outcome = .running)
    : (init.after commands).prepareReconciliation now i actorId expectedVersion
          ≠ .error checkAlreadyRunning
        ↔ ¬ (init.after commands).AwaitsCheck a expectedVersion := by
  have hvalid := (init.after_sound commands).actions_valid a (List.mem_of_getElem? hfound)
  have hidle := (hvalid.check_idle hr hrunning).1
  have hcheck : a.hasRunningReconciliation = true := by
    apply List.any_eq_true.mpr
    exact ⟨r, hr, by simp [hrunning]⟩
  have hrefused := Store.prepareReconciliation_eq_checkAlreadyRunning actorId
    expectedVersion hfound (hvalid.reconcileAbandoned_idle hidle now) hcheck
  exact not_congr hrefused

end

namespace Sample

attribute [local instance] Digest.checksum

/--
The worker that checks the refund with its target dies.
-/
def abandonedCheck : List Command :=
  execution ++ [.prepareReconciliation (minutes 10) 0 "MB-2" 3]

theorem check_abandoned : ∃ a ∈ (initial.after abandonedCheck).actions[0]?,
    ∃ r ∈ a.reconciliations, r.outcome = .running
      ∧ r.checkedAt < minutes 60 - minutes abandonedActionMinutes := by
  decide +kernel

/--
An hour later the refund can still not be checked.
-/
theorem abandoned_check_refuses : (∃ a ∈ (initial.after abandonedCheck).actions[0]?,
      ∃ r ∈ a.reconciliations, r.outcome = .running
        ∧ r.checkedAt < minutes 60 - minutes abandonedActionMinutes)
    ∧ (initial.after abandonedCheck).prepareReconciliation (minutes 60) 0 "MB-2" 4
      = .error checkAlreadyRunning := by
  refine ⟨check_abandoned, ?_⟩
  have h : (match (initial.after abandonedCheck).prepareReconciliation (minutes 60) 0 "MB-2" 4 with
    | .error e => decide (e = checkAlreadyRunning)
    | .ok _ => false) = true := by decide +kernel
  split at h
  . next e heq => rw [heq, of_decide_eq_true h]
  . simp at h

theorem running_check_blocks_refund : ∃ a ∈ (initial.after abandonedCheck).actions[0]?,
    (initial.after abandonedCheck).prepareReconciliation (minutes 60) 0 "MB-2" 4
          ≠ .error checkAlreadyRunning
        ↔ ¬ (initial.after abandonedCheck).AwaitsCheck a 4 := by
  obtain ⟨a, hfound, r, hr, hrunning, _⟩ := check_abandoned
  exact ⟨a, hfound, running_check_blocks initial abandonedCheck hfound hr hrunning⟩

end Sample

end CaseResolution
