import CaseResolution.Domain.DecisionBriefs
import CaseResolution.Domain.Identity

/-!
This module contains governed reviews: the immutable snapshot a review is about, the reservations
that hold it and the decisions that end it.
-/

namespace CaseResolution

inductive ReviewStatus where
  | pending
  | reserved
  | approved
  | changesRequested
  | rejected
  | escalated
deriving DecidableEq

inductive ReviewDecision where
  | approve
  | requestChanges
  | reject
  | escalate
deriving DecidableEq

inductive ReviewPolicyState where
  | supported
  | possibleConflict
  | missing
deriving DecidableEq

inductive ReviewFreshness where
  | current
  | stale
deriving DecidableEq

inductive ReviewReservationStatus where
  | active
  | consumed
  | expired
deriving DecidableEq

structure ApprovalRuleSnapshot where
  publicId : String
  requiredRole : MemberRole
  version : Nat
deriving DecidableEq

/--
What is submitted for review.
-/
structure ReviewSubmission where
  expectedCaseVersion : Nat
  proposalVersion : Nat
  policyState : ReviewPolicyState
  proposalFingerprint : String
  contextFingerprint : String
  evidenceFingerprint : String
  riskFingerprint : String
  riskRuleVersion : String
  snapshotFingerprint : String
  approvalRule : ApprovalRuleSnapshot
  executionEligible : Bool
deriving DecidableEq

/--
A row of `case_review_snapshots`.
-/
structure CaseReviewSnapshot where
  caseVersion : Nat
  proposalVersion : Nat
  proposalFingerprint : String
  contextFingerprint : String
  evidenceFingerprint : String
  riskFingerprint : String
  riskRuleVersion : String
  snapshotFingerprint : String
  approvalRuleId : String
  requiredRole : MemberRole
  approvalRuleVersion : Nat
  executionEligible : Bool
deriving DecidableEq

/--
A row of `case_review_reservations`.
-/
structure CaseReviewReservation where
  reviewerId : Option Nat
  legacyReservationId : Option Nat
  reviewerRole : MemberRole
  snapshotFingerprint : String
  status : ReviewReservationStatus
  reservedAt : Instant
  expiresAt : Instant
  consumedAt : Option Instant
deriving DecidableEq

/--
A row of `case_review_decisions`. `reservationId` is the position of its reservation in the review.
-/
structure CaseReviewDecision where
  reservationId : Nat
  reviewerId : Option Nat
  legacyDecisionId : Option Nat
  reviewerRole : MemberRole
  decision : ReviewDecision
  reason : String
  snapshotFingerprint : String
  decidedAt : Instant
deriving DecidableEq

/--
A row of `case_reviews` with its snapshot, its reservations and its decisions.
-/
structure CaseReview where
  caseId : Nat
  proposalId : Nat
  proposalVersionId : Nat
  status : ReviewStatus
  policyState : ReviewPolicyState
  submittedById : Nat
  submittedAt : Instant
  version : Nat
  snapshot : CaseReviewSnapshot
  reservations : List CaseReviewReservation
  decisions : List CaseReviewDecision
deriving DecidableEq

structure ReviewFreshnessRecord where
  status : ReviewFreshness
  checkedAt : Instant
  reason : Option String
deriving DecidableEq

/--
A historical review. Its decision comes with the identity and the time of the decision it preserves.
-/
structure LegacyReviewImport where
  legacyReservationId : Nat
  legacyProposalVersionId : Nat
  reviewerName : String
  reviewerRole : MemberRole
  sourceProposalVersion : Nat
  sourceEvidenceFingerprint : String
  decision : Option (ReviewDecision × Nat × Instant)
  reason : String
  reservedAt : Instant
  expiresAt : Instant
  expires_after : reservedAt < expiresAt
deriving DecidableEq

/--
A row of `reviewer_reservations`, the table reviews are imported from.
-/
structure ReviewerReservation where
  id : Nat
  proposalId : Nat
  proposalVersion : Nat
  evidenceFingerprint : String
  reviewerId : String
  reviewerRole : String
deriving DecidableEq

/--
A row of `approval_decisions`, the table decisions are imported from.
-/
structure ApprovalDecision where
  id : Nat
  proposalId : Nat
  reservationId : Nat
  proposalVersion : Nat
  evidenceFingerprint : String
  reviewerId : String
  reviewerRole : String
  outcome : String
  decidedAt : Instant
deriving DecidableEq

/--
What a deliverable reply was approved under.
-/
structure ReviewDraftAuthorization where
  reviewId : Nat
  snapshotFingerprint : String
  evidenceFingerprint : String
  policyFingerprint : String
  responseContentFingerprint : String
deriving DecidableEq

end CaseResolution
