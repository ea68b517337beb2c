import CaseResolution.Reviews.Decisions

/-!
This module contains the four eyes on every review that was submitted: one decision at most, by
someone else than the submitter, under a reservation of theirs, which nothing changes afterwards.
-/

namespace CaseResolution

open Store

/--
The instants of the commands do not decrease.
-/
def Chronological (commands : List Command) : Prop :=
  (commands.filterMap Command.instant).Pairwise (· ≤ ·)

theorem Chronological.le {pre post : List Command} {c d : Command} {before now : Instant}
    (h : Chronological (pre ++ c :: post)) (hd : d ∈ pre) (hbefore : d.instant = some before)
    (hnow : c.instant = some now) : before ≤ now := by
  unfold Chronological at h
  rw [List.filterMap_append, List.pairwise_append] at h
  refine h.2.2 before (List.mem_filterMap.mpr ⟨d, hd, hbefore⟩) now ?_
  exact List.mem_filterMap.mpr ⟨c, List.mem_cons_self, hnow⟩

namespace CaseReview

variable {r q : CaseReview}

theorem Persists.isImported (h : r.Persists q) (hr : r.IsImported) : q.IsImported := by
  obtain ⟨p, hp, hlegacy⟩ := hr
  obtain ⟨k, hk⟩ := List.mem_iff_getElem?.mp hp
  obtain ⟨p', hp', hpersists⟩ := h.reservations k p hk
  have hgrant := congrArg ReservationGrant.legacyReservationId hpersists.grant
  exact ⟨p', List.mem_of_getElem? hp', by rwa [show p'.legacyReservationId = _ from hgrant]⟩

/--
The reservations of a review after a step are the ones from before it, granted as they were, or the
one the step made.
-/
theorem reservation_of_step {c : Command} {i : Nat} (h : ReviewStep c i r q)
    {p : CaseReviewReservation} (hp : p ∈ q.reservations)
    : (∃ p' ∈ r.reservations, p.grant = p'.grant) ∨ c.instant = some p.reservedAt := by
  cases h with
  | expired now =>
    left
    have hmap : p ∈ r.reservations.map fun p => p.expire now := by
      unfold expire at hp
      dsimp only at hp
      split at hp <;> exact hp
    obtain ⟨p', hp', rfl⟩ := List.mem_map.mp hmap
    exact ⟨p', hp', (p'.expire_persists now).grant⟩
  | held now actorId expectedVersion memberId member issued =>
    rcases List.mem_append.mp hp with hp | hp
    . exact .inl ⟨p, hp, rfl⟩
    . rw [List.mem_singleton.mp hp, issued]
      exact .inr rfl
  | decided now actorId expectedVersion fingerprint decision reason reservationId reservation _ _ _ _
      found =>
    left
    rcases List.mem_or_eq_of_mem_set hp with hp | rfl
    . exact ⟨p, hp, rfl⟩
    . exact ⟨reservation, List.mem_of_getElem? found, rfl⟩

end CaseReview

section

variable [Digest]

/--
Every reservation that was not imported was made at the instant of an earlier command.
-/
theorem InitialStore.reserved_at (init : InitialStore) (commands : List Command) {i : Nat}
    {r : CaseReview} (hr : (init.after commands).reviews[i]? = some r) {p : CaseReviewReservation}
    (hp : p ∈ r.reservations) (hcurrent : p.legacyReservationId = none)
    : ∃ c ∈ commands, c.instant = some p.reservedAt := by
  refine init.review_invariant commands (P := fun commands r => ∀ p ∈ r.reservations,
    p.legacyReservationId = none → ∃ c ∈ commands, c.instant = some p.reservedAt) ?_ ?_ ?_ r hr p hp
    hcurrent
  . intro commands c r h p hp hcurrent
    obtain ⟨d, hd, hinstant⟩ := h p hp hcurrent
    exact ⟨d, List.mem_append_left _ hd, hinstant⟩
  . intro commands u r hnew p hp hcurrent
    exact absurd hcurrent (hnew.unreserved p hp)
  . intro commands c r q hstep _ h p hp hcurrent
    rcases CaseReview.reservation_of_step hstep hp with ⟨p', hp', hgrant⟩ | hinstant
    . have hreserved : p.reservedAt = p'.reservedAt := congrArg ReservationGrant.reservedAt hgrant
      have hlegacy : p.legacyReservationId = p'.legacyReservationId :=
        congrArg ReservationGrant.legacyReservationId hgrant
      rw [hreserved]
      exact h p' hp' (hlegacy ▸ hcurrent)
    . exact ⟨c, List.mem_append_right _ (List.mem_singleton_self _), hinstant⟩

/--
A review that was submitted has no decision that was imported.
-/
theorem InitialStore.decision_current (init : InitialStore) (commands : List Command) {i : Nat}
    {r : CaseReview} (hr : (init.after commands).reviews[i]? = some r) (hsubmitted : ¬ r.IsImported)
    {d : CaseReviewDecision} (hd : d ∈ r.decisions) : d.legacyDecisionId = none := by
  by_contra hlegacy
  refine hsubmitted (init.review_invariant commands (P := fun _ r => ∀ d ∈ r.decisions,
    d.legacyDecisionId ≠ none → r.IsImported) ?_ ?_ ?_ r hr d hd hlegacy)
  . exact fun _ _ _ h => h
  . intro _ u r hnew d hd _
    exact hnew.attributed (List.ne_nil_of_mem hd)
  . intro _ c r q hstep hvalid h d hd hlegacy
    refine (hstep.persists hvalid).isImported ?_
    cases hstep with
    | expired now => exact h d (by simpa using hd) hlegacy
    | held => exact h d hd hlegacy
    | decided =>
      rcases List.mem_append.mp hd with hd | hd
      . exact h d hd hlegacy
      . rw [List.mem_singleton.mp hd] at hlegacy
        exact absurd rfl hlegacy

/--
A submitted review has one decision at most, backed by the consumed reservation of a reviewer who is
not its submitter and has the required role, decided between its beginning and its end; and no later
command changes a decided review's status.
-/
theorem review_four_eyes (init : InitialStore) (commands : List Command) {i : Nat} {r : CaseReview}
    (hr : (init.after commands).reviews[i]? = some r) (hsubmitted : ¬ r.IsImported)
    : r.decisions.length ≤ 1
        ∧ (∀ d ∈ r.decisions, r.Backs d ∧ ∀ p, r.reservations[d.reservationId]? = some p
          → Chronological commands → p.reservedAt ≤ d.decidedAt)
        ∧ (r.status.isTerminal = true → ∀ more, ∃ q,
          (init.after (commands ++ more)).reviews[i]? = some q ∧ q.status = r.status) := by
  have hvalid := (init.after_sound commands).reviews_valid r (List.mem_of_getElem? hr)
  refine ⟨hvalid.decision_unique, ?_, ?_⟩
  . intro d hd
    have hcurrent := init.decision_current commands hr hsubmitted hd
    refine ⟨hvalid.backed d hd hcurrent, ?_⟩
    intro p hp hclock
    obtain ⟨k, hk⟩ := List.mem_iff_getElem?.mp hd
    obtain ⟨pre, now, actorId, _, reason, post, r', p', memberId, _, rfl, hr', _, hmakes⟩ :=
      init.decided commands hr hk hcurrent
    have hvalid' := (init.after_sound pre).reviews_valid r' (List.mem_of_getElem? hr')
    have hp' := List.mem_of_getElem? hmakes.reservation
    have hlegacy := (hvalid'.bound p' hp' (by simp [hmakes.own])).1
    obtain ⟨c, hc, hinstant⟩ := init.reserved_at pre hr' hp' hlegacy
    -- the reservation the decision was made under is still the same one
    obtain ⟨r₂, hr₂, hpersists⟩ := (init.after_grows pre _).reviews i r' hr'
    obtain rfl := Option.some.inj (hr.symm.trans hr₂)
    obtain ⟨p₂, hp₂, hgrant⟩ := hpersists.reservations d.reservationId p' hmakes.reservation
    obtain rfl := Option.some.inj (hp.symm.trans hp₂)
    have hreserved : p.reservedAt = p'.reservedAt := congrArg ReservationGrant.reservedAt hgrant.grant
    rw [hreserved, hmakes.decidedAt]
    exact hclock.le hc hinstant rfl
  . intro hterminal more
    obtain ⟨q, hq, hpersists⟩ := (init.after_grows commands more).reviews i r hr
    exact ⟨q, hq, hpersists.terminal hterminal⟩

end

namespace Sample

attribute [local instance] Digest.checksum

theorem approved : ∃ r ∈ (initial.after approval).reviews[0]?,
    r.status = .approved ∧ ¬ r.IsImported := by
  decide +kernel

/--
The approval of the refund has four eyes.
-/
theorem review_four_eyes_approved : ∃ r ∈ (initial.after approval).reviews[0]?,
    r.status = .approved ∧ r.decisions.length ≤ 1 ∧ ∀ d ∈ r.decisions, r.Backs d := by
  obtain ⟨r, hr, hstatus, hsubmitted⟩ := approved
  obtain ⟨hunique, hbacked, _⟩ := review_four_eyes initial approval hr hsubmitted
  exact ⟨r, hr, hstatus, hunique, fun d hd => (hbacked d hd).1⟩

end Sample

end CaseResolution
