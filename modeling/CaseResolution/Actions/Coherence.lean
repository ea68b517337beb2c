import CaseResolution.System.Reachable

/-!
This module contains the coherence of the records of an action: its status agrees with its attempts,
its receipts and its reconciliations in every reachable store.
-/

namespace CaseResolution

namespace CaseAction

variable {a b : CaseAction}

/--
Exactly one attempt runs, and no attempt has a higher number.
-/
def HasOneRunningAttempt (a : CaseAction) : Prop :=
  ∃ (k : Nat) (t : CaseActionAttempt), a.attempts[k]? = some t ∧ t.outcome = .running
    ∧ (∀ (j : Nat) (u : CaseActionAttempt), a.attempts[j]? = some u → u.outcome = .running → j = k)
    ∧ ∀ u ∈ a.attempts, u.number ≤ t.number

/--
The records of an action explain each other.
-/
structure RecordsCohere (a : CaseAction) : Prop where
  running : a.status = .running ↔ a.HasOneRunningAttempt
  numbers : (a.attempts.map fun t => t.number) = List.range' 1 a.attemptCount
  receipt_unique : a.receipts.length ≤ 1
  receipt_completed : a.receipts ≠ [] → a.status = .completed
  completed_confirmed : a.status = .completed
    → a.receipts ≠ [] ∨ ∃ r ∈ a.reconciliations, r.outcome = .confirmedCompleted

theorem Sound.hasOneRunningAttempt (h : a.Sound) (hrunning : a.status = .running)
    : a.HasOneRunningAttempt := by
  obtain ⟨k, t, hk, ht⟩ := h.running_attempt hrunning
  have hlast := (h.running_last k t hk ht).2
  refine ⟨k, t, hk, ht, ?_, ?_⟩
  . intro j u hj hu
    have := (h.running_last j u hj hu).2
    omega
  . intro u hu
    obtain ⟨j, hj⟩ := List.mem_iff_getElem?.mp hu
    have hlt := (List.getElem?_eq_some_iff.mp hj).1
    rw [h.numbered k t hk, h.numbered j u hj]
    omega

theorem Sound.numbers_eq (h : a.Sound)
    : (a.attempts.map fun t => t.number) = List.range' 1 a.attemptCount := by
  apply List.ext_getElem
  . simp [h.counted]
  . intro k hk _
    rw [List.length_map] at hk
    rw [List.getElem_map, List.getElem_range', h.numbered k _ (List.getElem?_eq_getElem hk)]
    omega

/--
An action that nothing was imported into has records that explain each other.
-/
theorem Valid.recordsCohere (h : a.Valid) (hmaterialized : ¬ a.IsImported) : a.RecordsCohere where
  running := by
    constructor
    . exact h.toSound.hasOneRunningAttempt
    . rintro ⟨k, t, hk, ht, _⟩
      exact (h.running_last k t hk ht).1
  numbers := h.toSound.numbers_eq
  receipt_unique := h.receipt_unique
  receipt_completed := (h.coherent hmaterialized).receipt_completed
  completed_confirmed := (h.coherent hmaterialized).completed_confirmed

end CaseAction

section

variable [Digest]

/--
In every reachable store the records of an action that nothing was imported into explain each other,
and every command that changes its status increases its version.
-/
theorem records_cohere (init : InitialStore) (commands : List Command) {i : Nat} {a : CaseAction}
    (hfound : (init.after commands).actions[i]? = some a) (hmaterialized : ¬ a.IsImported)
    : a.RecordsCohere
        ∧ ∀ (c : Command) (b : CaseAction), (init.after (commands ++ [c])).actions[i]? = some b
          → b.status ≠ a.status → a.version < b.version := by
  have hsound := init.after_sound commands
  refine ⟨(hsound.actions_valid a (List.mem_of_getElem? hfound)).recordsCohere hmaterialized, ?_⟩
  intro c b hb hchanged
  obtain ⟨b', hb', hpersists⟩ := (init.after_grows commands [c]).actions i a hfound
  obtain rfl : b = b' := Option.some.inj (hb.symm.trans hb')
  exact hpersists.status hchanged.symm

end

namespace Sample

attribute [local instance] Digest.checksum

theorem executed : ∃ a ∈ (initial.after execution).actions[0]?,
    a.status = .running ∧ ¬ a.IsImported := by
  decide +kernel

/--
The records of the refund cohere while it is executed.
-/
theorem records_cohere_executed : ∃ a ∈ (initial.after execution).actions[0]?,
    a.status = .running ∧ a.RecordsCohere := by
  obtain ⟨a, hfound, hrunning, hmaterialized⟩ := executed
  exact ⟨a, hfound, hrunning, (records_cohere initial execution hfound hmaterialized).1⟩

end Sample

end CaseResolution
