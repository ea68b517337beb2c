import CaseResolution.Reviews.Impl.Base

/-!
This module contains the review workflow: the submission of a resolution, its reservation by a
reviewer and the decision.
-/

namespace CaseResolution

open Guard

variable [Digest]

namespace ReviewSubmission

def snapshot (command : ReviewSubmission) (caseVersion : Nat) : CaseReviewSnapshot where
  caseVersion := caseVersion
  proposalVersion := command.proposalVersion
  proposalFingerprint := command.proposalFingerprint
  contextFingerprint := command.contextFingerprint
  evidenceFingerprint := command.evidenceFingerprint
  riskFingerprint := command.riskFingerprint
  riskRuleVersion := command.riskRuleVersion
  snapshotFingerprint := command.snapshotFingerprint
  approvalRuleId := command.approvalRule.publicId
  requiredRole := command.approvalRule.requiredRole
  approvalRuleVersion := command.approvalRule.version
  executionEligible := command.executionEligible

def newReview (command : ReviewSubmission) (caseId proposalId proposalVersionId memberId : Nat)
    (caseVersion : Nat) (now : Instant) : CaseReview where
  caseId := caseId
  proposalId := proposalId
  proposalVersionId := proposalVersionId
  status := .pending
  policyState := command.policyState
  submittedById := memberId
  submittedAt := now
  version := 1
  snapshot := command.snapshot caseVersion
  reservations := []
  decisions := []

end ReviewSubmission

namespace CaseReview

def hold (review : CaseReview) (memberId : Nat) (member : Membership) (now : Instant)
    : CaseReview :=
  { review with
    reservations := review.reservations ++ [{
      reviewerId := some memberId
      legacyReservationId := none
      reviewerRole := member.role
      snapshotFingerprint := review.snapshot.snapshotFingerprint
      status := .active
      reservedAt := now
      expiresAt := now + minutes reviewHoldMinutes
      consumedAt := none
    }]
    status := .reserved
    version := review.version + 1 }

def recordDecision (review : CaseReview) (reservationId : Nat)
    (reservation : CaseReviewReservation) (memberId : Nat) (member : Membership)
    (decision : ReviewDecision) (reason : String) (now : Instant) : CaseReview :=
  { review with
    decisions := review.decisions ++ [{
      reservationId := reservationId
      reviewerId := some memberId
      legacyDecisionId := none
      reviewerRole := member.role
      decision := decision
      reason := reason
      snapshotFingerprint := review.snapshot.snapshotFingerprint
      decidedAt := now
    }]
    reservations := review.reservations.set reservationId
      { reservation with status := .consumed, consumedAt := some now }
    status := reviewStatus decision
    version := review.version + 1 }

end CaseReview

namespace Store

def findReview (s : Store) (caseId proposalVersionId : Nat) : Option Nat :=
  s.reviews.findIdx? fun review =>
    review.caseId = caseId ∧ review.proposalVersionId = proposalVersionId

def findVersion (s : Store) (caseId proposalId proposalVersion : Nat) : Option Nat :=
  s.versions.findIdx? fun version =>
    version.caseId = caseId ∧ version.proposalId = proposalId
      ∧ version.version = proposalVersion

def submitReview (s : Store) (now : Instant) (caseId : Nat) (actorId : String)
    (command : ReviewSubmission) : Except Error (Store × ReviewBundle) := do
  let case ← orThrow s.cases[caseId]? (.reviewNotFound "The case was not found.")
  let proposalId ← orThrow (s.findProposal caseId)
    (.reviewNotFound "The proposal was not found.")
  let proposal ← orThrow s.proposals[proposalId]? (.reviewNotFound "The proposal was not found.")
  let versionId ← orThrow (s.findVersion caseId proposalId command.proposalVersion)
    (.reviewNotFound "The proposal version was not found.")
  match s.findReview caseId versionId with
  | some existingId =>
    let existing ← s.requiredReview existingId
    let bundle ← s.loadReviewBundle existing now
    pure (s, bundle)
  | none =>
    s.requireApprovalRuleVersion command.approvalRule.version
    ensure (proposal.currentVersion = command.proposalVersion)
      (.reviewConflict
        "A newer resolution exists. Open the current version before submitting a review.")
    ensure (case.version = command.expectedCaseVersion)
      (.caseConcurrencyConflict command.expectedCaseVersion case.version)
    let (memberId, _) ← s.reviewMember actorId
    ensure (∀ review ∈ s.reviews,
        review.snapshot.snapshotFingerprint ≠ command.snapshotFingerprint)
      (.integrityError "uq_case_review_snapshots_org_fingerprint")
    let newCaseVersion := case.version + 1
    let review :=
      command.newReview caseId proposalId versionId memberId newCaseVersion now
    let moved := s.setCase caseId { case with status := .needsReview, version := newCaseVersion }
    let stored := { moved with reviews := moved.reviews ++ [review] }
    let bundle ← stored.loadReviewBundle review now
    pure (stored, bundle)

def reserveReview (s : Store) (now : Instant) (reviewId : Nat) (actorId : String)
    (expectedVersion : Nat) : Except Error (Store × ReviewBundle) := do
  let found ← s.requiredReview reviewId
  let reconciled := s.reconcileExpired now reviewId found
  let review := found.expire now
  let (memberId, member) ← s.reviewMember actorId
  match review.activeReservation now with
  | some active =>
    if active.reviewerId = some memberId then
      let bundle ← reconciled.loadReviewBundle review now
      pure (reconciled, bundle)
    else
      ensure (review.version = expectedVersion)
        (.reviewVersionConflict expectedVersion review.version)
      ensure (¬ review.status.isTerminal)
        (.reviewConflict "This review already has a final decision.")
      .error (.reviewConflict "This review is currently reserved by another reviewer.")
  | none =>
    ensure (review.version = expectedVersion)
      (.reviewVersionConflict expectedVersion review.version)
    ensure (¬ review.status.isTerminal)
      (.reviewConflict "This review already has a final decision.")
    ensure (review.submittedById ≠ memberId)
      (.reviewConflict "A resolution must be reviewed by a different person.")
    s.requireApprovalRuleVersion review.snapshot.approvalRuleVersion
    let held := review.hold memberId member now
    let stored := (reconciled.setReview reviewId held).setProposalState held .underReview
    let bundle ← stored.loadReviewBundle held now
    pure (stored, bundle)

/--
Copy the approved reply to the draft of the case.
-/
def publishApprovedResponseDraft (s : Store) (review : CaseReview) : Except Error Store := do
  let unready : Error :=
    .reviewSnapshotStale "The reviewed resolution does not contain a ready response draft."
  let version ← orThrow s.versions[review.proposalVersionId]? unready
  let approved ← orThrow version.responseDraft unready
  ensure (approved.status = .ready) unready
  match s.drafts.findIdx? fun draft => draft.caseId = review.caseId with
  | none =>
    pure { s with
      drafts := s.drafts ++ [{
        caseId := review.caseId
        subject := approved.subject
        body := approved.body
        status := .ready
        version := 1
      }] }
  | some draftId =>
    pure { s with
      drafts := s.drafts.modify draftId fun draft =>
        { draft with
          subject := approved.subject
          body := approved.body
          status := .ready
          version := draft.version + 1 } }

def advanceCaseAfterDecision (s : Store) (review : CaseReview) (decision : ReviewDecision)
    : Except Error Store := do
  if decision = .approve then
    pure s
  else
    let case ← orThrow s.cases[review.caseId]?
      (.reviewConflict "The reviewed case is no longer available.")
    pure <| s.setCase review.caseId
      { case with
        status := if decision = .escalate then .needsReview else .investigating
        version := case.version + 1 }

def decideReview (s : Store) (now : Instant) (reviewId : Nat) (actorId : String)
    (expectedVersion : Nat) (snapshotFingerprint : String) (decision : ReviewDecision)
    (reason : String) : Except Error (Store × ReviewBundle) := do
  let review ← s.requiredReview reviewId
  ensure (review.version = expectedVersion)
    (.reviewVersionConflict expectedVersion review.version)
  ensure (¬ review.status.isTerminal)
    (.reviewConflict "This review already has a final decision.")
  ensure (review.snapshot.snapshotFingerprint = snapshotFingerprint)
    (.reviewConflict "The submitted review snapshot does not match this review.")
  s.requireApprovalRuleVersion review.snapshot.approvalRuleVersion
  let case ← orThrow s.cases[review.caseId]?
    (.reviewConflict "The reviewed case or resolution is no longer available.")
  let proposal ← orThrow s.proposals[review.proposalId]?
    (.reviewConflict "The reviewed case or resolution is no longer available.")
  ensure (case.version = review.snapshot.caseVersion
      ∧ proposal.currentVersion = review.snapshot.proposalVersion)
    (.reviewSnapshotStale "The case or resolution changed after this review was submitted.")
  let reservationId ← orThrow review.heldReservation
    (.reviewConflict "Reserve this review before recording a decision.")
  let reservation ← orThrow review.reservations[reservationId]?
    (.reviewConflict "Reserve this review before recording a decision.")
  ensure (now < reservation.expiresAt)
    (.reviewReservationExpired
      "The review reservation expired. Reserve the review again before deciding.")
  let (memberId, member) ← s.reviewMember actorId
  ensure (reservation.reviewerId = some memberId)
    (.reviewConflict "The review is reserved by another reviewer.")
  ensure (reservation.snapshotFingerprint = snapshotFingerprint)
    (.reviewConflict "The reserved snapshot no longer matches this review.")
  ensure (roleSatisfies (some member.role) review.snapshot.requiredRole)
    (.reviewAuthorityDenied "Your current role does not have authority to decide this review.")
  let freshness := s.freshness review now
  ensure (freshness.status = .current)
    (.reviewSnapshotStale <| freshness.reason.getD
      "The review snapshot is stale and cannot be decided.")
  let decided := review.recordDecision reservationId reservation memberId member decision reason now
  let stored := s.setReview reviewId decided
  let advanced ← stored.advanceCaseAfterDecision decided decision
  let published ←
    if decision = .approve then advanced.publishApprovedResponseDraft decided else pure advanced
  let final := published.setProposalState decided (proposalState decision)
  let bundle ← final.loadReviewBundle decided now
  pure (final, bundle)

end Store

end CaseResolution
