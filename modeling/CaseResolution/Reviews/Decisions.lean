import CaseResolution.System.Reachable

/-!
This module contains where the decisions of reviews come from: every decision that was not imported
was made by an active member under a reservation of theirs that had not expired.
-/

namespace CaseResolution

open Guard Store

variable [Digest]

/--
A decision that a command adds is added by deciding the review.
-/
theorem decideReview_of_decision {c : Command} {s t : Store} {i k : Nat} {q : CaseReview}
    {d : CaseReviewDecision} (hs : s.Sound) (h : Writes c s t) (hq : t.reviews[i]? = some q)
    (hd : q.decisions[k]? = some d) (hcurrent : d.legacyDecisionId = none)
    (hnew : ¬ ∃ r, s.reviews[i]? = some r ∧ r.decisions[k]? = some d)
    : ∃ now actorId expectedVersion snapshotFingerprint decision reason,
        c = .decideReview now i actorId expectedVersion snapshotFingerprint decision reason := by
  have hall := Writes.review_invariant (i := i) (P := fun q => ∀ d, q.decisions[k]? = some d
    → d.legacyDecisionId = none → (∃ r, s.reviews[i]? = some r ∧ r.decisions[k]? = some d)
      ∨ ∃ now actorId expectedVersion snapshotFingerprint decision reason,
        c = .decideReview now i actorId expectedVersion snapshotFingerprint decision reason)
    ?_ ?_ h hs (fun r hr d hd _ => .inl ⟨r, hr, hd⟩)
  . exact (hall q hq d hd hcurrent).resolve_left hnew
  . intro u r hadded d hd hcurrent
    exact absurd hcurrent (hadded.historical d (List.mem_of_getElem? hd))
  . intro r q hstep _ ih d hd hcurrent
    cases hstep with
    | expired now =>
      rw [CaseReview.expire_decisions] at hd
      exact ih d hd hcurrent
    | held => exact ih d hd hcurrent
    | decided now actorId expectedVersion snapshotFingerprint decision reason _ _ _ _ issued =>
      exact .inr ⟨now, actorId, expectedVersion, snapshotFingerprint, decision, reason, issued⟩

/--
The decision `d` is made on the review `r` by the active member `memberId`, who has the authority the
snapshot requires, did not submit it and holds it under the reservation `p`, while the snapshot is
current.
-/
structure Store.Makes (s : Store) (now : Instant) (actorId : String) (r : CaseReview)
    (d : CaseReviewDecision) (p : CaseReviewReservation) (memberId : Nat) (member : Membership)
    : Prop where
  active : s.activeMember actorId = some (memberId, member)
  reviewer : d.reviewerId = some memberId
  role : d.reviewerRole = member.role
  decidedAt : d.decidedAt = now
  fingerprint : d.snapshotFingerprint = r.snapshot.snapshotFingerprint
  distinct : memberId ≠ r.submittedById
  authority : roleSatisfies (some member.role) r.snapshot.requiredRole = true
  reservation : r.reservations[d.reservationId]? = some p
  held : p.status = .active
  own : p.reviewerId = some memberId
  bound : p.snapshotFingerprint = r.snapshot.snapshotFingerprint
  unexpired : now < p.expiresAt
  undecided : r.decisions = []
  current : ∃ case proposal, s.cases[r.caseId]? = some case
    ∧ s.proposals[r.proposalId]? = some proposal
    ∧ case.version = r.snapshot.caseVersion
    ∧ proposal.currentVersion = r.snapshot.proposalVersion

theorem decideReview_makes {s t : Store} {now : Instant} {i expectedVersion : Nat}
    {actorId snapshotFingerprint reason : String} {decision : ReviewDecision} {bundle : ReviewBundle}
    (hs : s.Sound)
    (h : s.decideReview now i actorId expectedVersion snapshotFingerprint decision reason
      = .ok (t, bundle))
    : ∃ r p memberId member d q, s.reviews[i]? = some r ∧ t.reviews[i]? = some q
        ∧ snapshotFingerprint = r.snapshot.snapshotFingerprint ∧ d.decision = decision
        ∧ q.decisions = [d] ∧ s.Makes now actorId r d p memberId member := by
  obtain ⟨r, reservationId, p, memberId, member, advanced, published, hr, hdecides, hadvanced,
    ⟨drafts, rfl⟩, rfl⟩ := decideReview_eq_ok h
  have hvalid := hs.reviews_valid r (List.mem_of_getElem? hr)
  have hlt := (List.getElem?_eq_some_iff.mp hr).1
  obtain ⟨p', hp', hactive⟩ := CaseReview.heldReservation_eq_some hdecides.held
  obtain rfl := Option.some.inj (hdecides.reservation.symm.trans hp')
  have hundecided : r.decisions = [] :=
    by_contra fun hne => hdecides.undecided (hvalid.decided.mpr hne)
  have hreviews : advanced.reviews = s.reviews.set i
      (r.recordDecision reservationId p memberId member decision reason now) := by
    rcases advanceCaseAfterDecision_eq_ok hadvanced with rfl | ⟨_, _, rfl⟩ <;> rfl
  let d : CaseReviewDecision := {
    reservationId
    reviewerId := some memberId
    legacyDecisionId := none
    reviewerRole := member.role
    decision
    reason
    snapshotFingerprint := r.snapshot.snapshotFingerprint
    decidedAt := now
  }
  have hadded : (r.recordDecision reservationId p memberId member decision reason now).decisions
      = [d] := by
    show r.decisions ++ [d] = [d]
    rw [hundecided, List.nil_append]
  refine ⟨r, p, memberId, member, d, _, hr, ?_, hdecides.fingerprint.symm, rfl, hadded, ?_⟩
  . rw [setProposalState_reviews, hreviews, List.getElem?_set_self hlt]
  . exact {
      active := hdecides.active
      reviewer := rfl
      role := rfl
      decidedAt := rfl
      fingerprint := rfl
      distinct := fun hsame => hvalid.distinct p (List.mem_of_getElem? hp')
        (by rw [hdecides.reserver, hsame])
      authority := hdecides.authority
      reservation := hp'
      held := hactive
      own := hdecides.reserver
      bound := hdecides.reserved.trans hdecides.fingerprint.symm
      unexpired := hdecides.unexpired
      undecided := hundecided
      current := hdecides.current
    }

/--
Every decision of a run that was not imported was made by a command of it.
-/
theorem InitialStore.decided (init : InitialStore) (commands : List Command) {i k : Nat}
    {q : CaseReview} {d : CaseReviewDecision} (hq : (init.after commands).reviews[i]? = some q)
    (hd : q.decisions[k]? = some d) (hcurrent : d.legacyDecisionId = none)
    : ∃ pre now actorId expectedVersion reason post r p memberId member,
        commands = pre ++ .decideReview now i actorId expectedVersion r.snapshot.snapshotFingerprint
            d.decision reason :: post
          ∧ (init.after pre).reviews[i]? = some r
          ∧ r.subject = q.subject
          ∧ (init.after pre).Makes now actorId r d p memberId member := by
  let decided : Store → Prop := fun s => ∃ r, s.reviews[i]? = some r ∧ r.decisions[k]? = some d
  have hinit : ¬ decided init.store := by
    rintro ⟨r, hr, _⟩
    simp [init.reviews_empty] at hr
  obtain ⟨pre, c, post, rfl, hbefore, hafter⟩ :=
    Machine.exists_switch (P := decided) (m := service) hinit ⟨q, hq, hd⟩
  obtain ⟨q', hq', hd'⟩ := hafter
  have hs := init.after_sound pre
  obtain ⟨now, actorId, expectedVersion, fingerprint, decision, reason, rfl⟩ :=
    decideReview_of_decision hs (next_writes hs c) hq' hd' hcurrent hbefore
  unfold Machine.next at hq'
  split at hq'
  . next t output hstep =>
    obtain ⟨bundle, hdecide, _⟩ := answer_eq_ok.mp hstep
    obtain ⟨r, p, memberId, member, d', r', hr, hr', rfl, rfl, hdecisions, hmakes⟩ :=
      decideReview_makes hs hdecide
    obtain rfl := Option.some.inj (hq'.symm.trans hr')
    have hk : k = 0 ∧ d' = d := by
      rw [hdecisions, List.getElem?_singleton] at hd'
      split at hd' <;> simp_all
    obtain ⟨rfl, rfl⟩ := hk
    refine ⟨pre, now, actorId, expectedVersion, reason, post, r, p, memberId, member, rfl, hr, ?_,
      hmakes⟩
    obtain ⟨q', hq', hpersists⟩ := (init.after_grows pre _).reviews i r hr
    obtain rfl := Option.some.inj (hq.symm.trans hq')
    exact hpersists.subject.symm
  . exact absurd ⟨q', hq', hd'⟩ hbefore

end CaseResolution
