import CaseResolution.Reviews.Lemmas.Workflow

/-!
This module contains what expiring the reservations of some reviews does to the reviews and to the
proposals they are about.
-/

namespace CaseResolution

namespace CaseReview

variable {r : CaseReview} {k : Nat} {p : CaseReviewReservation}

/--
The review after its reservation `p` expired and returned it to the queue.
-/
def returned (r : CaseReview) (k : Nat) (p : CaseReviewReservation) : CaseReview :=
  { r with
    reservations := r.reservations.set k { p with status := .expired }
    status := .pending
    version := r.version + 1 }

/--
The reservation `p` holds the review although its time is up.
-/
structure Overdue (r : CaseReview) (now : Instant) (k : Nat) (p : CaseReviewReservation) : Prop where
  found : r.reservations[k]? = some p
  active : p.status = .active
  late : p.expiresAt ≤ now

theorem Overdue.returns {now : Instant} (h : r.Overdue now k p) (hr : r.Valid)
    : r.holdExpired now = true ∧ r.expire now = r.returned k p := by
  rcases hr.expire_cases now with ⟨hheld, _⟩ | ⟨j, q, hheld, _, hq, hactive, _, heq⟩
  . have hstatus := hr.reserved.mpr ⟨p, List.mem_of_getElem? h.found, h.active⟩
    have hany : r.reservations.any fun p => p.isExpired now := by
      refine List.any_eq_true.mpr ⟨p, List.mem_of_getElem? h.found, ?_⟩
      simp [CaseReviewReservation.isExpired, h.active, h.late]
    simp [holdExpired, hstatus, hany] at hheld
  . obtain rfl := hr.active_unique k j p q h.found hq h.active hactive
    obtain rfl := Option.some.inj (h.found.symm.trans hq)
    exact ⟨hheld, heq⟩

/--
The review waits for expiry and is about the version of the proposal `j` that is in force.
-/
structure Expiring (r : CaseReview) (now : Instant) (j : Nat) (proposal : CaseProposal) : Prop where
  expired : r.holdExpired now = true
  subject : r.proposalId = j
  inForce : proposal.currentVersion = r.snapshot.proposalVersion

theorem expire_subject (r : CaseReview) (now : Instant) : (r.expire now).subject = r.subject := by
  unfold expire
  dsimp only
  split <;> rfl

end CaseReview

namespace Store

variable {s t : Store} {now : Instant}

/--
The store `t` is the store `s` after the reservations of the reviews `due` were expired.
-/
structure Swept (s t : Store) (now : Instant) (due : List Nat) : Prop where
  versions : t.versions = s.versions
  reviews : ∀ i ∈ due, t.reviews[i]? = s.reviews[i]?.map fun r => r.expire now
  others : ∀ i, i ∉ due → t.reviews[i]? = s.reviews[i]?
  proposals : ∀ (j : Nat) (proposal : CaseProposal), s.proposals[j]? = some proposal
    → ∃ moved, t.proposals[j]? = some moved
      ∧ moved.currentVersion = proposal.currentVersion
      ∧ (moved = proposal ∨ ∃ i ∈ due, ∃ r, s.reviews[i]? = some r ∧ r.Expiring now j proposal)
      ∧ ∀ i ∈ due, ∀ r, s.reviews[i]? = some r → r.Expiring now j proposal
        → moved.state = s.openProposalState r

/--
Two reviews of the same version open their proposal alike.
-/
theorem openProposalState_congr (hs : s.Sound) {i j : Nat} {r q : CaseReview}
    (hr : s.reviews[i]? = some r) (hq : s.reviews[j]? = some q)
    (hproposal : r.proposalId = q.proposalId)
    (hversion : r.snapshot.proposalVersion = q.snapshot.proposalVersion)
    : s.openProposalState r = s.openProposalState q := by
  obtain ⟨_, _, v, _, _, hv, _, _, hrproposal, hrversion⟩ :=
    hs.reviews_linked r (List.mem_of_getElem? hr)
  obtain ⟨_, _, w, _, _, hw, _, _, hqproposal, hqversion⟩ :=
    hs.reviews_linked q (List.mem_of_getElem? hq)
  have hsame : r.proposalVersionId = q.proposalVersionId := by
    refine hs.history.version_unique _ _ v w hv hw ?_ ?_
    . rw [hrproposal, hqproposal, hproposal]
    . rw [hrversion, hqversion, hversion]
  unfold openProposalState
  rw [hsame]

section

variable (i : Nat) {r : CaseReview} {j : Nat} {proposal : CaseProposal}

theorem openProposalState_expire (s : Store) (r : CaseReview) (now : Instant)
    : (s.setReview i (r.expire now)).openProposalState (r.expire now) = s.openProposalState r := by
  have hversionId := congrArg ReviewSubject.proposalVersionId (r.expire_subject now)
  unfold openProposalState
  rw [setReview_versions, show (r.expire now).proposalVersionId = _ from hversionId]
  rfl

/--
Expiry opens the proposal of a reserved review again while the reviewed version is in force.
-/
theorem reconcileExpired_of_expiring (h : s.proposals[j]? = some proposal)
    (hexpiring : r.Expiring now j proposal)
    : (s.reconcileExpired now i r).proposals[j]?
        = some { proposal with
            state := s.openProposalState r
            version := proposal.version + 1 } := by
  have hproposalId := congrArg ReviewSubject.proposalId (r.expire_subject now)
  have hsnapshot := congrArg ReviewSubject.snapshot (r.expire_subject now)
  simp only [CaseReview.subject] at hproposalId hsnapshot
  have hlt := (List.getElem?_eq_some_iff.mp h).1
  have hfound : (s.setReview i (r.expire now)).proposals[(r.expire now).proposalId]?
      = some proposal := by
    rw [setReview_proposals, hproposalId, hexpiring.subject, h]
  unfold reconcileExpired
  rw [if_pos hexpiring.expired, openProposalState_expire, setProposalState_of_found hfound,
    if_pos (by rw [hexpiring.inForce, hsnapshot]), setProposal_proposals, setReview_proposals,
    hproposalId, hexpiring.subject, List.getElem?_set_self hlt]

/--
Expiry leaves every other proposal alone.
-/
theorem reconcileExpired_of_not_expiring (h : s.proposals[j]? = some proposal)
    (hexpiring : ¬ r.Expiring now j proposal)
    : (s.reconcileExpired now i r).proposals[j]? = some proposal := by
  have hproposalId := congrArg ReviewSubject.proposalId (r.expire_subject now)
  have hsnapshot := congrArg ReviewSubject.snapshot (r.expire_subject now)
  simp only [CaseReview.subject] at hproposalId hsnapshot
  rw [← h]
  unfold reconcileExpired
  dsimp only
  split
  . next hexpired =>
    rcases (s.setReview i (r.expire now)).setProposalState_cases (r.expire now)
      ((s.setReview i (r.expire now)).openProposalState (r.expire now)) with
        heq | ⟨found, hfound, hforce, heq⟩
    . rw [heq, setReview_proposals]
    . rw [setReview_proposals, hproposalId] at hfound
      have hne : r.proposalId ≠ j := by
        rintro rfl
        obtain rfl := Option.some.inj (h.symm.trans hfound)
        exact hexpiring ⟨hexpired, rfl, by rw [hforce, hsnapshot]⟩
      rw [heq, setProposal_proposals, setReview_proposals, hproposalId, List.getElem?_set_ne hne]
  . rw [setReview_proposals]

end

namespace Swept

theorem refl (s : Store) (now : Instant) : s.Swept s now [] where
  versions := rfl
  reviews := by simp
  others := fun _ _ => rfl
  proposals := fun _ proposal h => ⟨proposal, h, rfl, .inl rfl, by simp⟩

variable {due : List Nat} {i : Nat}

/--
There is nothing to expire where there is no review.
-/
theorem skip (h : s.Swept t now due) (hnone : t.reviews[i]? = none) (hnew : i ∉ due)
    : s.Swept t now (due ++ [i]) := by
  have hbefore : s.reviews[i]? = none := (h.others i hnew).symm.trans hnone
  exact {
    versions := h.versions
    reviews := by
      intro j hj
      rcases List.mem_append.mp hj with hj | hj
      . exact h.reviews j hj
      . rw [List.mem_singleton.mp hj, hnone, hbefore]
        rfl
    others := fun j hj => h.others j fun hmem => hj (List.mem_append_left _ hmem)
    proposals := by
      intro j proposal hproposal
      obtain ⟨moved, hmoved, hcurrent, horigin, hopened⟩ := h.proposals j proposal hproposal
      refine ⟨moved, hmoved, hcurrent, ?_, ?_⟩
      . exact horigin.imp_right fun ⟨k, hk, hrest⟩ => ⟨k, List.mem_append_left _ hk, hrest⟩
      . intro k hk r hr
        rcases List.mem_append.mp hk with hk | hk
        . exact hopened k hk r hr
        . rw [List.mem_singleton.mp hk, hbefore] at hr
          exact absurd hr (by simp)
  }

/--
Expiring the reservations of one more review.
-/
theorem step (h : s.Swept t now due) (hs : s.Sound) {r : CaseReview}
    (hr : t.reviews[i]? = some r) (hnew : i ∉ due)
    : s.Swept (t.reconcileExpired now i r) now (due ++ [i]) := by
  have hbefore : s.reviews[i]? = some r := (h.others i hnew).symm.trans hr
  have hlt := (List.getElem?_eq_some_iff.mp hr).1
  exact {
    versions := by rw [reconcileExpired_versions, h.versions]
    reviews := by
      intro j hj
      rw [reconcileExpired_reviews]
      rcases List.mem_append.mp hj with hj | hj
      . rw [List.getElem?_set_ne (by rintro rfl; exact hnew hj)]
        exact h.reviews j hj
      . rw [List.mem_singleton.mp hj, List.getElem?_set_self hlt, hbefore]
        rfl
    others := by
      intro j hj
      have hne : i ≠ j := by
        rintro rfl
        exact hj (by simp)
      rw [reconcileExpired_reviews, List.getElem?_set_ne hne]
      exact h.others j fun hmem => hj (List.mem_append_left _ hmem)
    proposals := by
      intro j proposal hproposal
      obtain ⟨moved, hmoved, hcurrent, horigin, hopened⟩ := h.proposals j proposal hproposal
      by_cases hexpiring : r.Expiring now j proposal
      . have hmovedExpiring : r.Expiring now j moved :=
          ⟨hexpiring.expired, hexpiring.subject, hcurrent.trans hexpiring.inForce⟩
        refine ⟨_, reconcileExpired_of_expiring i hmoved hmovedExpiring, hcurrent,
          .inr ⟨i, by simp, r, hbefore, hexpiring⟩, ?_⟩
        intro k hk q hq hq'
        have hopen : t.openProposalState r = s.openProposalState r := by
          unfold openProposalState
          rw [h.versions]
        show t.openProposalState r = s.openProposalState q
        rw [hopen]
        exact openProposalState_congr hs hbefore hq (hexpiring.subject.trans hq'.subject.symm)
          (hexpiring.inForce.symm.trans hq'.inForce)
      . have hmovedExpiring : ¬ r.Expiring now j moved := fun hmovedExpiring => hexpiring
          ⟨hmovedExpiring.expired, hmovedExpiring.subject, hcurrent.symm.trans hmovedExpiring.inForce⟩
        refine ⟨moved, reconcileExpired_of_not_expiring i hmoved hmovedExpiring, hcurrent, ?_, ?_⟩
        . exact horigin.imp_right fun ⟨k, hk, hrest⟩ => ⟨k, List.mem_append_left _ hk, hrest⟩
        . intro k hk q hq hq'
          rcases List.mem_append.mp hk with hk | hk
          . exact hopened k hk q hq hq'
          . rw [List.mem_singleton.mp hk] at hq
            rw [Option.some.inj (hbefore.symm.trans hq)] at hexpiring
            exact absurd hq' hexpiring
  }

end Swept

theorem reconcileExpired_swept (hs : s.Sound) {i : Nat} {r : CaseReview}
    (hr : s.reviews[i]? = some r) : s.Swept (s.reconcileExpired now i r) now [i] :=
  (Swept.refl s now).step hs hr (by simp)

theorem reconcileExpiredReviews_swept (hs : s.Sound) (now : Instant)
    : s.Swept (s.reconcileExpiredReviews now) now (List.range s.reviews.length) := by
  unfold reconcileExpiredReviews
  generalize s.reviews.length = n
  induction n with
  | zero => exact Swept.refl s now
  | succ n ih =>
    rw [List.range_succ, List.foldl_append, List.foldl_cons, List.foldl_nil]
    split
    . next r hr => exact ih.step hs hr (by simp)
    . next hnone => exact ih.skip hnone (by simp)

end Store

end CaseResolution
