import CaseResolution.Reviews.Decisions
import CaseResolution.Reviews.Lemmas.Expiry

/-!
This module contains the reservations of reviews over whole runs: at most one is active, exactly the
reserved reviews have one, and one whose time is up gives the review back before anyone decides it.
-/

namespace CaseResolution

open Guard Store

namespace Store

variable {s : Store} {now : Instant} {i : Nat} {r : CaseReview}

/--
The rows of a review can be loaded.
-/
theorem Sound.loadReviewBundle_isOk (hs : s.Sound) (hr : s.reviews[i]? = some r) (now : Instant)
    : ∃ bundle, s.loadReviewBundle r now = .ok bundle := by
  obtain ⟨case, proposal, _, hcase, hproposal, _⟩ :=
    hs.reviews_linked r (List.mem_of_getElem? hr)
  exact ⟨_, by
    unfold loadReviewBundle
    rw [hcase, hproposal]
    rfl⟩

end Store

section

variable [Digest]

/--
What becomes of a review whose reservation is overdue: reading it or the queue returns it to the
queue and opens its proposal again while the reviewed version is in force, reserving it returns it
before it is held again, and nobody can decide it.
-/
structure Store.GivesBack (s : Store) (now : Instant) (i : Nat) (r : CaseReview) (k : Nat)
    (p : CaseReviewReservation) : Prop where
  read : ∀ c, c = .getReview now i ∨ c = .reconcileExpiredReviews now
    → (service.next s c).reviews[i]? = some (r.returned k p)
      ∧ ∃ proposal moved, s.proposals[r.proposalId]? = some proposal
        ∧ (service.next s c).proposals[r.proposalId]? = some moved
        ∧ (proposal.currentVersion = r.snapshot.proposalVersion
          → moved.state = s.openProposalState r)
        ∧ (moved ≠ proposal → ∃ j q, (c = .getReview now i → j = i) ∧ s.reviews[j]? = some q
          ∧ q.Expiring now r.proposalId proposal)
  reserve : ∀ actorId expectedVersion t output,
    service.step s (.reserveReview now i actorId expectedVersion) = .ok (t, output)
      → ∃ memberId member, s.activeMember actorId = some (memberId, member)
        ∧ memberId ≠ r.submittedById
        ∧ t.reviews[i]? = some ((r.returned k p).hold memberId member now)
  refused : ∀ actorId expectedVersion snapshotFingerprint decision reason t output,
    service.step s (.decideReview now i actorId expectedVersion snapshotFingerprint decision reason)
      ≠ .ok (t, output)

theorem getReview_next {s : Store} {now : Instant} {i : Nat} {r : CaseReview} (hs : s.Sound)
    (hr : s.reviews[i]? = some r)
    : service.next s (.getReview now i) = s.reconcileExpired now i r := by
  have hlt := (List.getElem?_eq_some_iff.mp hr).1
  have hstored : (s.reconcileExpired now i r).Sound :=
    (reconcileExpired_writes (c := .getReview now i) rfl hr).sound hs
  have hrow : (s.reconcileExpired now i r).reviews[i]? = some (r.expire now) := by
    rw [reconcileExpired_reviews, List.getElem?_set_self hlt]
  obtain ⟨bundle, hbundle⟩ := hstored.loadReviewBundle_isOk hrow now
  have hget : s.getReview now i = .ok (s.reconcileExpired now i r, some bundle) := by
    unfold getReview
    rw [hr]
    dsimp only
    rw [hbundle]
    rfl
  exact Machine.next_of_ok (answer_eq_ok.mpr ⟨some bundle, hget, rfl⟩)

/--
The sweep of a command reaches the review.
-/
theorem read_swept {s : Store} {now : Instant} {i : Nat} {r : CaseReview} (hs : s.Sound)
    (hr : s.reviews[i]? = some r) {c : Command}
    (hc : c = .getReview now i ∨ c = .reconcileExpiredReviews now)
    : ∃ due, i ∈ due ∧ (c = .getReview now i → due = [i])
        ∧ s.Swept (service.next s c) now due := by
  rcases hc with rfl | rfl
  . refine ⟨[i], by simp, fun _ => rfl, ?_⟩
    rw [getReview_next hs hr]
    exact reconcileExpired_swept hs hr
  . refine ⟨List.range s.reviews.length, ?_, by simp, reconcileExpiredReviews_swept hs now⟩
    exact List.mem_range.mpr (List.getElem?_eq_some_iff.mp hr).1

/--
An overdue reservation gives the review back.
-/
theorem givesBack_of_overdue {s : Store} {now : Instant} {i k : Nat} {r : CaseReview}
    {p : CaseReviewReservation} (hs : s.Sound) (hr : s.reviews[i]? = some r)
    (hoverdue : r.Overdue now k p) : s.GivesBack now i r k p := by
  have hvalid := hs.reviews_valid r (List.mem_of_getElem? hr)
  have hlt := (List.getElem?_eq_some_iff.mp hr).1
  obtain ⟨hexpired, hreturned⟩ := hoverdue.returns hvalid
  refine { read := ?_, reserve := ?_, refused := ?_ }
  . intro c hc
    obtain ⟨due, hdue, hread, hswept⟩ := read_swept hs hr hc
    refine ⟨?_, ?_⟩
    . rw [hswept.reviews i hdue, hr, Option.map_some, hreturned]
    . obtain ⟨_, proposal, _, _, hproposal, _⟩ := hs.reviews_linked r (List.mem_of_getElem? hr)
      obtain ⟨moved, hmoved, _, horigin, hopened⟩ := hswept.proposals _ proposal hproposal
      refine ⟨proposal, moved, hproposal, hmoved, ?_, ?_⟩
      . intro hforce
        exact hopened i hdue r hr ⟨hexpired, rfl, hforce⟩
      . intro hne
        obtain ⟨j, hj, q, hq, hexpiring⟩ := horigin.resolve_left hne
        refine ⟨j, q, ?_, hq, hexpiring⟩
        intro hget
        simpa [hread hget] using hj
  . intro actorId expectedVersion t output hstep
    obtain ⟨bundle, hreserve, _⟩ := answer_eq_ok.mp hstep
    obtain ⟨found, memberId, member, hfound, hmember, hcases⟩ := reserveReview_eq_ok hreserve
    obtain rfl := Option.some.inj (hr.symm.trans hfound)
    rcases hcases with ⟨active, hheld, _⟩ | ⟨_, _, hdistinct, rfl⟩
    . -- nothing is active once the overdue reservation expired
      have hmem := List.mem_of_find?_eq_some hheld
      have hactive := List.find?_some hheld
      simp only [decide_eq_true_eq] at hactive
      have hreserved := (hvalid.expired now).reserved.mpr ⟨active, hmem, hactive.1⟩
      rw [hreturned] at hreserved
      simp [CaseReview.returned] at hreserved
    . rw [hreturned] at hdistinct ⊢
      refine ⟨memberId, member, hmember, Ne.symm hdistinct, ?_⟩
      simp [hlt]
  . intro actorId expectedVersion snapshotFingerprint decision reason t output hstep
    obtain ⟨bundle, hdecide, _⟩ := answer_eq_ok.mp hstep
    obtain ⟨found, reservationId, q, memberId, member, _, _, hfound, hdecides, _⟩ :=
      decideReview_eq_ok hdecide
    obtain rfl := Option.some.inj (hr.symm.trans hfound)
    obtain ⟨q', hq', hactive⟩ := CaseReview.heldReservation_eq_some hdecides.held
    obtain rfl := Option.some.inj (hdecides.reservation.symm.trans hq')
    obtain rfl := hvalid.active_unique k reservationId p q hoverdue.found hq' hoverdue.active hactive
    obtain rfl := Option.some.inj (hoverdue.found.symm.trans hq')
    exact absurd hoverdue.late (not_le.mpr hdecides.unexpired)

/--
A review has one active reservation at most and is reserved exactly while it has one; an overdue one
gives the review back; every decision was made under the unexpired reservation of the reviewer who
made it; and every change of the review counts in its version.
-/
theorem reservation_exclusive (init : InitialStore) (commands : List Command) {i : Nat}
    {r : CaseReview} (hr : (init.after commands).reviews[i]? = some r)
    : (∀ (j k : Nat) (p q : CaseReviewReservation), r.reservations[j]? = some p
          → r.reservations[k]? = some q → p.status = .active → q.status = .active → j = k)
        ∧ (r.status = .reserved ↔ ∃ p ∈ r.reservations, p.status = .active)
        ∧ (∀ now k p, r.Overdue now k p → (init.after commands).GivesBack now i r k p)
        ∧ (∀ d ∈ r.decisions, d.legacyDecisionId = none
          → ∃ pre actorId expectedVersion reason post r' p memberId member,
            commands = pre ++ .decideReview d.decidedAt i actorId expectedVersion
                r'.snapshot.snapshotFingerprint d.decision reason :: post
              ∧ (init.after pre).reviews[i]? = some r'
              ∧ (init.after pre).Makes d.decidedAt actorId r' d p memberId member)
        ∧ (∀ c q, (init.after (commands ++ [c])).reviews[i]? = some q → q ≠ r
          → r.version < q.version) := by
  have hs := init.after_sound commands
  have hvalid := hs.reviews_valid r (List.mem_of_getElem? hr)
  refine ⟨hvalid.active_unique, hvalid.reserved, ?_, ?_, ?_⟩
  . intro now k p hoverdue
    exact givesBack_of_overdue hs hr hoverdue
  . intro d hd hcurrent
    obtain ⟨k, hk⟩ := List.mem_iff_getElem?.mp hd
    obtain ⟨pre, now, actorId, expectedVersion, reason, post, r', p, memberId, member, hcommands,
      hr', _, hmakes⟩ := init.decided commands hr hk hcurrent
    obtain rfl := hmakes.decidedAt
    exact ⟨pre, actorId, expectedVersion, reason, post, r', p, memberId, member, hcommands, hr',
      hmakes⟩
  . intro c q hq hne
    obtain ⟨q', hq', hpersists⟩ := (init.after_grows commands [c]).reviews i r hr
    obtain rfl := Option.some.inj (hq.symm.trans hq')
    exact hpersists.changed hne

end

namespace Sample

attribute [local instance] Digest.checksum

/--
The refund while the supervisor holds its review.
-/
def reservation : List Command :=
  generate "A" "EVD-0" 7 ++ [.submitReview 1 0 "MB-1" submission, .reserveReview 2 0 "MB-2" 1]

theorem overdue : ∃ r ∈ (initial.after reservation).reviews[0]?,
    ∃ p ∈ r.reservations[0]?, p.status = .active ∧ p.expiresAt ≤ hours 1 := by
  decide +kernel

/--
An hour later the queue shows the review as pending again.
-/
theorem reservation_exclusive_overdue : ∃ r ∈ (initial.after reservation).reviews[0]?,
    r.status = .reserved
      ∧ ∃ q ∈ (service.next (initial.after reservation) (.reconcileExpiredReviews (hours 1))).reviews[0]?,
        q.status = .pending ∧ q.version = r.version + 1 := by
  obtain ⟨r, hr, p, hp, hactive, hlate⟩ := overdue
  obtain ⟨_, hreserved, hreturned, _⟩ := reservation_exclusive initial reservation hr
  refine ⟨r, hr, hreserved.mpr ⟨p, List.mem_of_getElem? hp, hactive⟩, ?_⟩
  have hback := (hreturned (hours 1) 0 p ⟨hp, hactive, hlate⟩).read _ (.inr rfl)
  exact ⟨_, hback.1, rfl, rfl⟩

end Sample

end CaseResolution
