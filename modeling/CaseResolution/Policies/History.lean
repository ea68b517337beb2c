import CaseResolution.Policies.Lemmas.Reachable

/-!
This module contains the version history of a policy: its versions are numbered without gaps, the row of
the policy agrees with the row of its current version, and what became immutable stays as it was.
-/

namespace CaseResolution

/--
The row of a policy and the rows of its versions tell one history.
-/
structure Policy.HistoryCoheres (p : Policy) : Prop where
  numbered : p.versions.map (fun v => v.version) = List.range' 1 p.versions.length
  current_eq_zero : p.currentVersion = 0 ↔ p.versions = []
  current_named : p.versions ≠ [] → ∃ v ∈ p.versions, v.version = p.currentVersion
  one_published : p.versions.countP (fun v => v.status = .published) ≤ 1
  status_agrees : ∀ v ∈ p.versions, v.version = p.currentVersion → p.status.agrees v.status
  parsing_failed : p.status = .parsingFailed ↔ p.versions = []

namespace Policy

variable {p : Policy}

theorem Sound.current_named (hp : p.Sound) (hne : p.versions ≠ [])
    : ∃ v ∈ p.versions, v.version = p.currentVersion := by
  have hpos : p.currentVersion ≠ 0 := fun hzero => hne (hp.versions_of_current hzero)
  have hle := hp.current_le
  have hlt : p.currentVersion - 1 < p.versions.length := by omega
  have hget := List.getElem?_eq_getElem hlt
  refine ⟨p.versions[p.currentVersion - 1], List.getElem_mem hlt, ?_⟩
  rw [hp.numbered _ _ hget]
  omega

theorem not_agrees_parsingFailed {status : PolicyVersionStatus}
    : ¬ PolicyLifecycleStatus.parsingFailed.agrees status := by
  cases status <;> simp [PolicyLifecycleStatus.agrees, PolicyVersionStatus.lifecycle]

theorem Sound.historyCoheres (hp : p.Sound) : p.HistoryCoheres where
  numbered := by
    apply List.ext_getElem
    . simp
    . intro k hk _
      rw [List.length_map] at hk
      rw [List.getElem_map, List.getElem_range', hp.numbered k _ (List.getElem?_eq_getElem hk)]
      omega
  current_eq_zero := by
    constructor
    . exact hp.versions_of_current
    . intro hnil
      have := hp.current_le
      simpa [hnil] using this
  current_named := hp.current_named
  one_published := by
    rw [Rows.countP_le_one_iff]
    intro i j v w hi hj hv hw
    simp only [decide_eq_true_eq] at hv hw
    have hvi := hp.numbered i v hi
    have hwj := hp.numbered j w hj
    have := hp.one_published v (List.mem_of_getElem? hi) w (List.mem_of_getElem? hj) hv hw
    omega
  status_agrees := hp.status_agrees
  parsing_failed := by
    constructor
    . intro hfailed
      by_contra hne
      obtain ⟨v, hv, hcurrent⟩ := hp.current_named hne
      have hagrees := hp.status_agrees v hv hcurrent
      rw [hfailed] at hagrees
      exact not_agrees_parsingFailed hagrees
    . exact hp.failed_of_versions

/--
The policy with its versions as some later write leaves them.
-/
def Continues (p q : Policy) : Prop :=
  Rows.Extends PolicyVersion.Persists p.versions q.versions

theorem Continues.refl (p : Policy) : p.Continues p :=
  Rows.Extends.refl PolicyVersion.Persists.refl p.versions

theorem Continues.trans {p q r : Policy} (hpq : p.Continues q) (hqr : q.Continues r)
    : p.Continues r :=
  Rows.Extends.trans (R := PolicyVersion.Persists) (fun huv hvw => huv.trans hvw) hpq hqr

end Policy

section

variable [Digest]

namespace PolicyBook

theorem next_continues {b : PolicyBook} {n i : Nat} (hsound : b.Created n Policy.Sound)
    (hi : n ≤ i) {p : Policy} (hp : b.policies[i]? = some p) (command : PolicyCommand)
    : ∃ q, (policyService.next b command).policies[i]? = some q ∧ p.Continues q := by
  cases next_cases b command with
  | inl hsame =>
    rw [hsame]
    exact ⟨p, hp, .refl p⟩
  | inr h =>
    have hlt := (List.getElem?_eq_some_iff.mp hp).1
    cases h with
    | inl hcreated =>
      obtain ⟨_, _, _, _, heq⟩ := hcreated
      rw [heq]
      exact ⟨p, by rw [List.getElem?_append_left hlt, hp], .refl p⟩
    | inr hwritten =>
      obtain ⟨now, index, p', write, q, hp', hadmitted, hwrite, heq⟩ := hwritten
      rw [heq]
      unfold setPolicy
      by_cases hindex : index = i
      . subst hindex
        rw [hp, Option.some.injEq] at hp'
        subst hp'
        have hps := hsound index p hi hp
        have heffect := Policy.effect_of_write hps hadmitted hwrite
        exact ⟨q, by rw [List.getElem?_set_self hlt], heffect.extends_versions hps⟩
      . exact ⟨p, by rw [List.getElem?_set_ne hindex, hp], .refl p⟩

theorem run_continues {b : PolicyBook} {n i : Nat} (hsound : b.Created n Policy.Sound)
    (hi : n ≤ i) {p : Policy} (hp : b.policies[i]? = some p) (commands : List PolicyCommand)
    : ∃ q, (policyService.run b commands).policies[i]? = some q ∧ p.Continues q := by
  induction commands generalizing b p with
  | nil => exact ⟨p, hp, .refl p⟩
  | cons command commands ih =>
    obtain ⟨q, hq, hpq⟩ := next_continues hsound hi hp command
    obtain ⟨r, hr, hqr⟩ := ih (next_sound hsound command) hq
    exact ⟨r, hr, hpq.trans hqr⟩

end PolicyBook

/--
A policy that was created in a run has a coherent history whenever it is looked at, and nothing that
comes later changes what is immutable in it or gives a retired version back.
-/
theorem version_history (b : PolicyBook) (earlier later : List PolicyCommand) (i : Nat) (p : Policy)
    (hcreated : b.policies.length ≤ i)
    (hp : (policyService.run b earlier).policies[i]? = some p)
    : p.HistoryCoheres
      ∧ ∃ q, (policyService.run b (earlier ++ later)).policies[i]? = some q ∧ p.Continues q := by
  have hsound := PolicyBook.run_sound b earlier
  constructor
  . exact (hsound i p hcreated hp).historyCoheres
  . rw [Machine.run_append]
    exact PolicyBook.run_continues hsound hcreated hp later

end

namespace Sample

attribute [local instance] Digest.checksum

theorem version_history_cancelled
    : ∃ p, (policyService.run newBook (published ++ replacement)).policies[0]? = some p
        ∧ p.currentVersion = 2 ∧ p.HistoryCoheres
        ∧ ∃ q, (policyService.run newBook (published ++ replacement ++ cancellation)).policies[0]?
              = some q
            ∧ q.currentVersion = 1 ∧ p.Continues q := by
  have hp : ((policyService.run newBook (published ++ replacement)).policies[0]?.map
      fun p => p.currentVersion) = some 2 := by
    decide +kernel
  have hq : ((policyService.run newBook (published ++ replacement ++ cancellation)).policies[0]?.map
      fun p => p.currentVersion) = some 1 := by
    decide +kernel
  obtain ⟨p, hp, hcurrent⟩ := Option.map_eq_some_iff.mp hp
  obtain ⟨hcoheres, q, hq', hcontinues⟩ :=
    version_history newBook (published ++ replacement) cancellation 0 p (Nat.zero_le 0) hp
  rw [hq', Option.map_some, Option.some.injEq] at hq
  exact ⟨p, hp, hcurrent, hcoheres, q, hq', hq, hcontinues⟩

end Sample

end CaseResolution
