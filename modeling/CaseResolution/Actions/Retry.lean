import CaseResolution.Actions.Lemmas.History
import CaseResolution.System.Reachable

/-!
This module contains that no action is retried blindly: in every run an attempt is only made once every
earlier attempt of the action is proven to have changed nothing.
-/

namespace CaseResolution

open Guard Store

/--
An approval that authorizes an action is not spent.
-/
theorem Store.PassesApproval.not_spent {s : Store} {a : CaseAction} {now : Instant}
    (h : s.PassesApproval a now) : ¬ s.Spent a := by
  obtain ⟨_, _, _, heligible, _, lineage, hlineage, hcurrent⟩ := h
  rintro (hineligible | ⟨review, case, hreview, hcase, hlt⟩)
  . simp [heligible] at hineligible
  . obtain ⟨hreview', _, hcase', _⟩ := actionLineage_eq_some.mp hlineage
    obtain rfl : lineage.review = review := Option.some.inj (hreview'.symm.trans hreview)
    obtain rfl : lineage.case = case := Option.some.inj (hcase'.symm.trans hcase)
    have hversion := hcurrent.2.2.2.2.1
    omega

section

variable [Digest]

/--
In the run, reconciliation `j` of the action at `i` was begun by a command that found attempt `k`
recorded as finished, or recorded it as abandoned first.
-/
def InitialStore.BegunAfter (init : InitialStore) (commands : List Command) (i j k : Nat) : Prop :=
  ∃ pre now actorId expectedVersion post a s lease,
    commands = pre ++ .prepareReconciliation now i actorId expectedVersion :: post
      ∧ (init.after pre).actions[i]? = some a
      ∧ (init.after pre).prepareReconciliation now i actorId expectedVersion = .ok (s, lease)
      ∧ lease.reconciliationId = j
      ∧ ∃ t, (a.reconcileAbandoned now).attempts[k]? = some t ∧ t.outcome ≠ .running

theorem InitialStore.BegunAfter.append {init : InitialStore} {commands : List Command} {i j k : Nat}
    (h : init.BegunAfter commands i j k) (more : List Command)
    : init.BegunAfter (commands ++ more) i j k := by
  obtain ⟨pre, now, actorId, expectedVersion, post, a, s, lease, rfl, hbegun⟩ := h
  exact ⟨pre, now, actorId, expectedVersion, post ++ more, a, s, lease, by simp, hbegun⟩

namespace Store

/--
The attempts of the action at `i` are accounted for, if it may still be executed.
-/
def Accounts (s : Store) (i : Nat) (Begun : Nat → Nat → Prop) : Prop :=
  ∀ a, s.actions[i]? = some a → a.executionEligible = true → a.Accounted Begun

variable {c : Command} {s t : Store} {i : Nat} {Begun : Nat → Nat → Prop}

theorem Accounts.writes (h : Writes c s t) (hs : s.Sound) (haccounts : s.Accounts i Begun)
    (hother : ∀ now actorId expectedVersion,
      c ≠ .prepareReconciliation now i actorId expectedVersion)
    : t.Accounts i Begun := by
  refine Writes.action_invariant (P := fun a => a.executionEligible = true → a.Accounted Begun) ?_ ?_ h
    hs haccounts
  . intro u a hnew heligible
    have hready := hnew.untouched (hnew.valid.eligible_materialized heligible)
    have huntouched := hnew.valid.ready_untouched hready
    exact .of_untouched huntouched.1 huntouched.2
  . intro a b hstep hvalid haccounted heligible
    exact hstep.accounted hvalid (haccounted (hstep.persists.eligible heligible)) heligible hother

end Store

namespace InitialStore

variable (init : InitialStore) (commands : List Command) (i : Nat)

/--
Beginning a reconciliation keeps the account, as every attempt is finished by then.
-/
theorem accounts_of_prepareReconciliation {now : Instant} {actorId : String}
    {expectedVersion : Nat} {t : Store} {lease : ActionReconciliationLease}
    (haccounts : (init.after commands).Accounts i (init.BegunAfter commands i))
    (h : (init.after commands).prepareReconciliation now i actorId expectedVersion = .ok (t, lease))
    : t.Accounts i (init.BegunAfter
        (commands ++ [.prepareReconciliation now i actorId expectedVersion]) i) := by
  obtain ⟨found, a, memberId, _, _, hfound, rfl, _, _, hrecovery, _, _, _, _, _, rfl, _, hlease⟩ :=
    prepareReconciliation_eq_ok h
  have hvalid := (init.after_sound commands).actions_valid found (List.mem_of_getElem? hfound)
  intro b hb heligible
  obtain rfl : b = (found.reconcileAbandoned now).startReconciliation memberId now := by
    have hlt := (List.getElem?_eq_some_iff.mp hfound).1
    simpa [hlt] using hb.symm
  have heligible : (found.reconcileAbandoned now).executionEligible = true := heligible
  have hstep : ActionStep (.getAction now i) i found (found.reconcileAbandoned now) :=
    .abandoned now
  have habandoned := hstep.accounted hvalid
    (haccounts found hfound (hstep.persists.eligible heligible)) heligible (by simp)
  refine (habandoned.mono fun j k hbegun => hbegun.append _).checkStarted memberId now hrecovery ?_
  intro k hk
  have hidle : (found.reconcileAbandoned now).status ≠ .running := by
    rcases CaseAction.isRecovery_iff.mp hrecovery with hstatus | hstatus <;> simp [hstatus]
  exact ⟨commands, now, actorId, expectedVersion, [], found, _, lease, rfl, hfound, h, hlease, _,
    List.getElem?_eq_getElem hk, (hstep.valid hvalid).attempts_idle hidle _ (List.getElem_mem hk)⟩

/--
After every run the attempts of every action are accounted for.
-/
theorem after_accounts : (init.after commands).Accounts i (init.BegunAfter commands i) := by
  induction commands using List.reverseRecOn with
  | nil =>
    intro a ha
    simp [after, init.actions_empty] at ha
  | append_singleton commands c ih =>
    have hmono : (init.after commands).Accounts i (init.BegunAfter (commands ++ [c]) i) :=
      fun a ha heligible => (ih a ha heligible).mono fun j k hbegun => hbegun.append [c]
    rw [after_concat]
    by_cases hc : ∃ now actorId expectedVersion,
        c = .prepareReconciliation now i actorId expectedVersion
    . obtain ⟨now, actorId, expectedVersion, rfl⟩ := hc
      refine Machine.next_cases (P := fun t : Store => t.Accounts i _) hmono ?_
      intro t output h
      obtain ⟨lease, hprepared, _⟩ := answer_eq_ok.mp h
      exact init.accounts_of_prepareReconciliation commands i ih hprepared
    . push Not at hc
      exact .writes (next_writes (init.after_sound commands) c) (init.after_sound commands) hmono hc

end InitialStore

/--
Whenever a run hands out a new attempt of an action, every earlier attempt is finished and changed
nothing, by its own record or by that of a reconciliation begun after it, and the action was never
completed.
-/
theorem no_blind_retry (init : InitialStore) (commands : List Command) {now : Instant} {i : Nat}
    {actorId : String} {expectedVersion : Nat} {command : ActionCommand} {t : Store}
    {lease : ActionExecutionLease}
    (h : (init.after commands).prepareExecution now i actorId expectedVersion command
      = .ok (t, lease))
    : (∃ b, t.actions[i]? = some b ∧ b.attempts.length = lease.attemptId + 1
          ∧ ∀ k < lease.attemptId, b.Cleared (init.BegunAfter commands i) k)
        ∧ ∀ pre post, commands = pre ++ post → ∀ a, (init.after pre).actions[i]? = some a
          → a.status ≠ .completed := by
  have hsound := init.after_sound commands
  have haccounts := Accounts.writes (prepareExecution_writes rfl h) hsound
    (init.after_accounts commands i) (by simp)
  obtain ⟨found, a, memberId, _, _, hfound, rfl, _, _, hblocker, _, _, _, rfl, rfl⟩ :=
    prepareExecution_eq_ok.mp h
  have hpasses := (effectiveBlocker_eq_none_iff.mp hblocker).1
  constructor
  . have hlt := (List.getElem?_eq_some_iff.mp hfound).1
    refine ⟨_, List.getElem?_set_self hlt, by simp [CaseAction.start, CaseAction.executionLease], ?_⟩
    intro k hk
    refine (haccounts _ (List.getElem?_set_self hlt) ?_).earlier k ?_
    . exact hpasses.2.2.2.1
    . simpa [CaseAction.start, CaseAction.executionLease] using hk
  . rintro pre post rfl a ha hcompleted
    have hspent := (init.after_sound pre).completed_spent a (List.mem_of_getElem? ha) hcompleted
    obtain ⟨found', hfound', hpersists⟩ := (init.after_grows pre post).actions i a ha
    obtain rfl : found = found' := Option.some.inj (hfound.symm.trans hfound')
    refine hpasses.not_spent ?_
    exact (init.after_grows pre post).spent (hpersists.trans (abandoned_persists found now)) hspent

end

namespace Sample

attribute [local instance] Digest.checksum

/--
Find the execution of the refund abandoned and confirm that it changed nothing.
-/
def recovery : List Command :=
  execution ++ [
    .prepareReconciliation (minutes 10) 0 "MB-2" 3,
    .finishReconciliation (minutes 11) reconciliationLease nothingFound]

theorem retried : ∃ result, (initial.after recovery).prepareExecution (minutes 12) 0 "MB-2" 5
    .retrySafe = .ok result := by
  have haccepted : ((initial.after recovery).prepareExecution (minutes 12) 0 "MB-2" 5
    .retrySafe).isOk = true := by decide +kernel
  exact isOk_iff.mp haccepted

/--
The first attempt of the refund is cleared before the second one is handed out.
-/
theorem no_blind_retry_retried : ∃ t lease, (initial.after recovery).prepareExecution (minutes 12) 0
    "MB-2" 5 .retrySafe = .ok (t, lease) ∧ ∃ b, t.actions[0]? = some b
      ∧ b.attempts.length = lease.attemptId + 1
      ∧ ∀ k < lease.attemptId, b.Cleared (initial.BegunAfter recovery 0) k := by
  obtain ⟨⟨t, lease⟩, h⟩ := retried
  exact ⟨t, lease, h, (no_blind_retry initial recovery h).1⟩

end Sample

end CaseResolution
