import CaseResolution.Reviews.Impl.Legacy
import CaseResolution.System.Invariant

/-!
This module contains when the operations of the review workflow are accepted and what they write.
-/

namespace CaseResolution

open Guard

namespace Store

variable {s t : Store} {now : Instant} {reviewId expectedVersion : Nat} {actorId : String}

/--
The state of a proposal is moved only while the reviewed version is in force.
-/
theorem setProposalState_cases (s : Store) (r : CaseReview) (state : DecisionProposalState)
    : s.setProposalState r state = s
        ∨ ∃ proposal, s.proposals[r.proposalId]? = some proposal
          ∧ proposal.currentVersion = r.snapshot.proposalVersion
          ∧ s.setProposalState r state
            = s.setProposal r.proposalId { proposal with state, version := proposal.version + 1 } := by
  unfold setProposalState
  split
  . next proposal hproposal =>
    split
    . next hcurrent => exact .inr ⟨proposal, hproposal, hcurrent, rfl⟩
    . exact .inl rfl
  . exact .inl rfl

theorem setProposalState_of_found {r : CaseReview} {state : DecisionProposalState}
    {proposal : CaseProposal} (h : s.proposals[r.proposalId]? = some proposal)
    : s.setProposalState r state
      = if proposal.currentVersion = r.snapshot.proposalVersion then
          s.setProposal r.proposalId { proposal with state, version := proposal.version + 1 }
        else
          s := by
  unfold setProposalState
  rw [h]

@[simp]
theorem setProposalState_versions (s : Store) (r : CaseReview) (state : DecisionProposalState)
    : (s.setProposalState r state).versions = s.versions := by
  rcases s.setProposalState_cases r state with h | ⟨_, _, _, h⟩ <;> rw [h]
  rfl

@[simp]
theorem setProposalState_reviews (s : Store) (r : CaseReview) (state : DecisionProposalState)
    : (s.setProposalState r state).reviews = s.reviews := by
  rcases s.setProposalState_cases r state with h | ⟨_, _, _, h⟩ <;> rw [h]
  rfl

@[simp]
theorem setProposalState_cases_table (s : Store) (r : CaseReview) (state : DecisionProposalState)
    : (s.setProposalState r state).cases = s.cases := by
  rcases s.setProposalState_cases r state with h | ⟨_, _, _, h⟩ <;> rw [h]
  rfl

@[simp]
theorem setProposalState_members (s : Store) (r : CaseReview) (state : DecisionProposalState)
    : (s.setProposalState r state).members = s.members := by
  rcases s.setProposalState_cases r state with h | ⟨_, _, _, h⟩ <;> rw [h]
  rfl

@[simp]
theorem reconcileExpired_reviews (s : Store) (now : Instant) (reviewId : Nat) (r : CaseReview)
    : (s.reconcileExpired now reviewId r).reviews = s.reviews.set reviewId (r.expire now) := by
  unfold reconcileExpired
  dsimp only
  split <;> simp

@[simp]
theorem reconcileExpired_versions (s : Store) (now : Instant) (reviewId : Nat) (r : CaseReview)
    : (s.reconcileExpired now reviewId r).versions = s.versions := by
  unfold reconcileExpired
  dsimp only
  split <;> simp

/--
No reservation is active after expiry unless it can be decided under.
-/
theorem no_active_of_expire {r : CaseReview} (h : (r.expire now).activeReservation now = none)
    : ∀ p ∈ (r.expire now).reservations, p.status ≠ .active := by
  intro p hp hactive
  have hnone := List.find?_eq_none.mp h p hp
  have hmem : p ∈ r.reservations.map fun p => p.expire now := by
    unfold CaseReview.expire at hp
    dsimp only at hp
    split at hp <;> exact hp
  obtain ⟨q, _, rfl⟩ := List.mem_map.mp hmem
  obtain ⟨hsame, hlt⟩ := CaseReviewReservation.expire_active hactive
  rw [hsame] at hnone hactive
  exact hnone (by simp [hactive, hlt])

theorem reviewMember_eq_ok {member : Nat × Membership}
    : s.reviewMember actorId = .ok member ↔ s.activeMember actorId = some member := by
  unfold reviewMember
  simp

theorem submitReview_eq_ok {caseId : Nat} {command : ReviewSubmission} {bundle : ReviewBundle}
    (h : s.submitReview now caseId actorId command = .ok (t, bundle))
    : t = s
        ∨ ∃ case proposalId proposal versionId memberId member,
          s.cases[caseId]? = some case
            ∧ s.findProposal caseId = some proposalId
            ∧ s.proposals[proposalId]? = some proposal
            ∧ s.findVersion caseId proposalId command.proposalVersion = some versionId
            ∧ proposal.currentVersion = command.proposalVersion
            ∧ case.version = command.expectedCaseVersion
            ∧ s.activeMember actorId = some (memberId, member)
            ∧ (∀ r ∈ s.reviews, r.snapshot.snapshotFingerprint ≠ command.snapshotFingerprint)
            ∧ t = { s.setCase caseId
                  { case with status := .needsReview, version := case.version + 1 } with
                reviews := s.reviews ++ [command.newReview caseId proposalId versionId memberId
                  (case.version + 1) now] } := by
  unfold submitReview at h
  simp only [bind_eq_ok, orThrow_eq_ok] at h
  obtain ⟨case, hcase, proposalId, hproposalId, proposal, hproposal, versionId, hversionId, h⟩ := h
  split at h
  . simp only [bind_eq_ok, pure_eq_ok, Prod.mk.injEq] at h
    obtain ⟨_, _, _, _, rfl, _⟩ := h
    exact .inl rfl
  . simp only [bind_eq_ok, ensure_eq_ok, exists_const, reviewMember_eq_ok, pure_eq_ok,
      Prod.mk.injEq] at h
    obtain ⟨_, _, hcurrent, hversion, ⟨memberId, member⟩, hmember, hfingerprint, _, _, rfl, _⟩ := h
    exact .inr ⟨case, proposalId, proposal, versionId, memberId, member, hcase, hproposalId,
      hproposal, hversionId, hcurrent, hversion, hmember, hfingerprint, rfl⟩

theorem reserveReview_eq_ok {bundle : ReviewBundle}
    (h : s.reserveReview now reviewId actorId expectedVersion = .ok (t, bundle))
    : ∃ found memberId member,
        s.reviews[reviewId]? = some found
          ∧ s.activeMember actorId = some (memberId, member)
          ∧ ((∃ active, (found.expire now).activeReservation now = some active
              ∧ t = s.reconcileExpired now reviewId found)
            ∨ ((found.expire now).activeReservation now = none
              ∧ ¬ (found.expire now).status.isTerminal
              ∧ (found.expire now).submittedById ≠ memberId
              ∧ t = ((s.reconcileExpired now reviewId found).setReview reviewId
                  ((found.expire now).hold memberId member now)).setProposalState
                    ((found.expire now).hold memberId member now) .underReview)) := by
  unfold reserveReview requiredReview at h
  simp only [bind_eq_ok, orThrow_eq_ok, reviewMember_eq_ok] at h
  obtain ⟨found, hfound, ⟨memberId, member⟩, hmember, h⟩ := h
  refine ⟨found, memberId, member, hfound, hmember, ?_⟩
  split at h
  . next active hactive =>
    split at h
    . simp only [bind_eq_ok, pure_eq_ok, Prod.mk.injEq] at h
      obtain ⟨_, _, rfl, _⟩ := h
      exact .inl ⟨active, hactive, rfl⟩
    . simp only [bind_eq_ok, reduceCtorEq, and_false, exists_false] at h
  . next hnone =>
    simp only [bind_eq_ok, ensure_eq_ok, exists_const, pure_eq_ok, Prod.mk.injEq] at h
    obtain ⟨_, hopen, hdistinct, _, _, _, _, rfl, _⟩ := h
    exact .inr ⟨hnone, hopen, hdistinct, rfl⟩

theorem publishApprovedResponseDraft_eq_ok {r : CaseReview}
    (h : s.publishApprovedResponseDraft r = .ok t) : ∃ drafts, t = { s with drafts := drafts } := by
  unfold publishApprovedResponseDraft at h
  simp only [bind_eq_ok, orThrow_eq_ok, ensure_eq_ok, exists_const] at h
  obtain ⟨_, _, _, _, _, h⟩ := h
  split at h
  . exact ⟨_, (pure_eq_ok.mp h).symm⟩
  . exact ⟨_, (pure_eq_ok.mp h).symm⟩

theorem advanceCaseAfterDecision_eq_ok {r : CaseReview} {decision : ReviewDecision}
    (h : s.advanceCaseAfterDecision r decision = .ok t)
    : t = s ∨ ∃ case, s.cases[r.caseId]? = some case
        ∧ t = s.setCase r.caseId
            { case with
              status := if decision = .escalate then .needsReview else .investigating
              version := case.version + 1 } := by
  unfold advanceCaseAfterDecision at h
  split at h
  . exact .inl (pure_eq_ok.mp h).symm
  . simp only [orThrow_bind_eq_ok, pure_eq_ok] at h
    obtain ⟨case, hcase, rfl⟩ := h
    exact .inr ⟨case, hcase, rfl⟩

variable [Digest]

/--
What a decision is made under.
-/
structure Decides (s : Store) (now : Instant) (actorId snapshotFingerprint : String) (r : CaseReview)
    (reservationId : Nat) (p : CaseReviewReservation) (memberId : Nat) (member : Membership)
    : Prop where
  undecided : ¬ r.status.isTerminal
  fingerprint : r.snapshot.snapshotFingerprint = snapshotFingerprint
  current : ∃ case proposal, s.cases[r.caseId]? = some case
    ∧ s.proposals[r.proposalId]? = some proposal
    ∧ case.version = r.snapshot.caseVersion
    ∧ proposal.currentVersion = r.snapshot.proposalVersion
  held : r.heldReservation = some reservationId
  reservation : r.reservations[reservationId]? = some p
  unexpired : now < p.expiresAt
  active : s.activeMember actorId = some (memberId, member)
  reserver : p.reviewerId = some memberId
  reserved : p.snapshotFingerprint = snapshotFingerprint
  authority : roleSatisfies (some member.role) r.snapshot.requiredRole = true
  fresh : (s.freshness r now).status = .current

theorem decideReview_eq_ok {snapshotFingerprint reason : String} {decision : ReviewDecision}
    {bundle : ReviewBundle}
    (h : s.decideReview now reviewId actorId expectedVersion snapshotFingerprint decision reason
      = .ok (t, bundle))
    : ∃ r reservationId p memberId member advanced published,
        s.reviews[reviewId]? = some r
          ∧ s.Decides now actorId snapshotFingerprint r reservationId p memberId member
          ∧ (s.setReview reviewId (r.recordDecision reservationId p memberId member decision reason
              now)).advanceCaseAfterDecision
                (r.recordDecision reservationId p memberId member decision reason now) decision
              = .ok advanced
          ∧ (∃ drafts, published = { advanced with drafts := drafts })
          ∧ t = published.setProposalState
              (r.recordDecision reservationId p memberId member decision reason now)
              (proposalState decision) := by
  unfold decideReview requiredReview at h
  simp only [bind_eq_ok, orThrow_eq_ok, ensure_eq_ok, exists_const, reviewMember_eq_ok] at h
  obtain ⟨r, hr, hversion, hopen, hfingerprint, _, _, case, hcase, proposal, hproposal, hcurrent,
    reservationId, hheld, p, hp, hunexpired, ⟨memberId, member⟩, hmember, hreserver, hreserved,
    hauthority, hfresh, advanced, hadvanced, h⟩ := h
  refine ⟨r, reservationId, p, memberId, member, advanced, ?_⟩
  have hdecides : s.Decides now actorId snapshotFingerprint r reservationId p memberId member := {
    undecided := hopen
    fingerprint := hfingerprint
    current := ⟨case, proposal, hcase, hproposal, hcurrent.1, hcurrent.2⟩
    held := hheld
    reservation := hp
    unexpired := hunexpired
    active := hmember
    reserver := hreserver
    reserved := hreserved
    authority := hauthority
    fresh := hfresh
  }
  split at h
  . simp only [bind_eq_ok, pure_eq_ok, Prod.mk.injEq] at h
    obtain ⟨published, hpublished, _, _, rfl, _⟩ := h
    exact ⟨published, hr, hdecides, hadvanced, publishApprovedResponseDraft_eq_ok hpublished, rfl⟩
  . simp only [bind_eq_ok, pure_eq_ok, Prod.mk.injEq] at h
    obtain ⟨published, rfl, _, _, rfl, _⟩ := h
    exact ⟨_, hr, hdecides, hadvanced, ⟨advanced.drafts, rfl⟩, rfl⟩

theorem importLegacyReview_eq_ok {importerActorId : String} {command : LegacyReviewImport}
    {bundle : ReviewBundle} (h : s.importLegacyReview now importerActorId command = .ok (t, bundle))
    : t = s
        ∨ ∃ versionId version case proposal importerId,
          s.versions[versionId]? = some version
            ∧ s.cases[version.caseId]? = some case
            ∧ s.proposals[version.proposalId]? = some proposal
            ∧ (∀ r ∈ s.reviews, r.snapshot.snapshotFingerprint ≠ command.snapshotFingerprint)
            ∧ t = { s with
                reviews := s.reviews ++ [command.newReview versionId version case.version importerId]
              } := by
  unfold importLegacyReview at h
  simp only [bind_eq_ok, orThrow_eq_ok] at h
  obtain ⟨versionId, _, version, hversion, _, _, _, _, h⟩ := h
  split at h
  . simp only [bind_eq_ok, pure_eq_ok, Prod.mk.injEq] at h
    obtain ⟨_, _, _, _, rfl, _⟩ := h
    exact .inl rfl
  . simp only [bind_eq_ok, orThrow_eq_ok, ensure_eq_ok, exists_const, pure_eq_ok,
      Prod.mk.injEq] at h
    obtain ⟨case, hcase, proposal, hproposal, ⟨importerId, _⟩, _, hfingerprint, _, _, rfl, _⟩ := h
    exact .inr ⟨versionId, version, case, proposal, importerId, hversion, hcase, hproposal,
      hfingerprint, rfl⟩

end Store

end CaseResolution
