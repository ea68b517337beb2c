import CaseResolution.Reviews.Impl.Base
import Mathlib.Data.List.MinMax

/-!
This module contains the authorization of a reply: the approval under which the reply of a case may
be delivered now.
-/

namespace CaseResolution

open Guard

variable [Digest]

def responseContentFingerprint (subject body : String) : String :=
  Digest.hash <| .obj [("subject", .str subject), ("body", .str body)]

def policyFingerprint (snapshot : CaseReviewSnapshot) : String :=
  Digest.text <| "\x00".intercalate
    [snapshot.evidenceFingerprint, snapshot.riskFingerprint, snapshot.riskRuleVersion]

namespace Store

/--
The approved review of a case that was submitted last.
-/
def newestApprovedReview (s : Store) (caseId : Nat) : Option (CaseReview × Nat) :=
  (s.reviews.zipIdx.filter fun (review, _) =>
    review.caseId = caseId ∧ review.status = .approved).argmax fun (review, _) =>
      review.submittedAt

def approvesSnapshot (review : CaseReview) : Bool :=
  review.decisions.any fun decision =>
    decision.decision = .approve
      ∧ decision.snapshotFingerprint = review.snapshot.snapshotFingerprint

def currentApproval (s : Store) (now : Instant) (caseId : Nat)
    : Except Error ReviewDraftAuthorization := do
  let (review, reviewId) ← orThrow (s.newestApprovedReview caseId)
    (.reviewSnapshotStale "Complete the required review before creating a draft.")
  let freshness := s.freshness review now
  ensure (approvesSnapshot review ∧ freshness.status ≠ .stale
      ∧ review.snapshot.executionEligible)
    (.reviewSnapshotStale <| freshness.reason.getD
      "The approved review no longer matches the current case.")
  let unready : Error :=
    .reviewSnapshotStale "The approved review does not contain a ready response draft."
  let version ← orThrow s.versions[review.proposalVersionId]? unready
  let approvedDraft ← orThrow version.responseDraft unready
  ensure (approvedDraft.status = .ready) unready
  pure {
    reviewId
    snapshotFingerprint := review.snapshot.snapshotFingerprint
    evidenceFingerprint := review.snapshot.evidenceFingerprint
    policyFingerprint := policyFingerprint review.snapshot
    responseContentFingerprint :=
      responseContentFingerprint approvedDraft.subject approvedDraft.body
  }

end Store

end CaseResolution
