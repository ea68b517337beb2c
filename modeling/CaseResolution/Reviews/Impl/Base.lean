import CaseResolution.Briefs.Impl.Fingerprints

/-!
This module contains what the operations of the review repository share: reservations and their
expiry, the state of the reviewed proposal, and the freshness of the reviewed snapshot.
-/

namespace CaseResolution

open Guard

def reviewHoldMinutes : Nat := 30

/--
The members of `TERMINAL_REVIEW_STATUSES`.
-/
def ReviewStatus.isTerminal : ReviewStatus → Bool
  | .approved | .changesRequested | .rejected | .escalated => true
  | .pending | .reserved => false

def reviewStatus : ReviewDecision → ReviewStatus
  | .approve => .approved
  | .requestChanges => .changesRequested
  | .reject => .rejected
  | .escalate => .escalated

def proposalState : ReviewDecision → DecisionProposalState
  | .approve => .approved
  | .requestChanges => .informationNeeded
  | .reject => .rejected
  | .escalate => .underReview

namespace CaseReviewReservation

def isExpired (reservation : CaseReviewReservation) (now : Instant) : Bool :=
  reservation.status = .active ∧ reservation.expiresAt ≤ now

def expire (reservation : CaseReviewReservation) (now : Instant) : CaseReviewReservation :=
  if reservation.isExpired now then { reservation with status := .expired } else reservation

end CaseReviewReservation

namespace CaseReview

/--
Some reservation expired while it held the review.
-/
def holdExpired (review : CaseReview) (now : Instant) : Bool :=
  review.status = .reserved
    ∧ review.reservations.any fun reservation => reservation.isExpired now

/--
Expire the reservations whose time is up and return a review that was held to the queue.
-/
def expire (review : CaseReview) (now : Instant) : CaseReview :=
  let reservations := review.reservations.map fun reservation => reservation.expire now
  if review.holdExpired now then
    { review with
      reservations := reservations
      status := .pending
      version := review.version + 1 }
  else
    { review with reservations := reservations }

/--
The reservation that is active and not expired.
-/
def activeReservation (review : CaseReview) (now : Instant) : Option CaseReviewReservation :=
  review.reservations.find? fun reservation =>
    reservation.status = .active ∧ now < reservation.expiresAt

/--
The position of the reservation that is marked active, expired or not.
-/
def heldReservation (review : CaseReview) : Option Nat :=
  review.reservations.findIdx? fun reservation => reservation.status = .active

end CaseReview

structure ReviewBundle where
  review : CaseReview
  reservation : Option CaseReviewReservation

namespace Store

def requiredReview (s : Store) (reviewId : Nat) : Except Error CaseReview :=
  orThrow s.reviews[reviewId]? (.reviewNotFound "The review was not found.")

def loadReviewBundle (s : Store) (review : CaseReview) (now : Instant)
    : Except Error ReviewBundle := do
  let _ ← orThrow s.cases[review.caseId]?
    (.reviewConflict "The reviewed case or resolution is missing.")
  let _ ← orThrow s.proposals[review.proposalId]?
    (.reviewConflict "The reviewed case or resolution is missing.")
  pure { review, reservation := review.activeReservation now }

def reviewMember (s : Store) (actorId : String) : Except Error (Nat × Membership) :=
  orThrow (s.activeMember actorId)
    (.actorMembershipNotFound "An active organization membership is required for this review.")

def requireApprovalRuleVersion (s : Store) (expectedVersion : Nat) : Except Error PUnit :=
  ensure (s.approvalRuleVersion = expectedVersion)
    (.reviewSnapshotStale
      "Approval rules changed after this review was submitted. Prepare a new resolution review.")

/--
Move the reviewed proposal to `state`, unless a newer version is in force.
-/
def setProposalState (s : Store) (review : CaseReview) (state : DecisionProposalState) : Store :=
  match s.proposals[review.proposalId]? with
  | some proposal =>
    if proposal.currentVersion = review.snapshot.proposalVersion then
      s.setProposal review.proposalId { proposal with state, version := proposal.version + 1 }
    else
      s
  | none => s

def openProposalState (s : Store) (review : CaseReview) : DecisionProposalState :=
  match s.versions[review.proposalVersionId]? with
  | some version =>
    if version.state = .readyForReview ∨ version.state = .informationNeeded then
      version.state
    else
      .informationNeeded
  | none => .informationNeeded

def reconcileExpired (s : Store) (now : Instant) (reviewId : Nat) (review : CaseReview) : Store :=
  let expired := review.expire now
  let stored := s.setReview reviewId expired
  if review.holdExpired now then
    stored.setProposalState expired (stored.openProposalState expired)
  else
    stored

/--
Expire the reservations of every review.
-/
def reconcileExpiredReviews (s : Store) (now : Instant) : Store :=
  (List.range s.reviews.length).foldl
    (fun s reviewId =>
      match s.reviews[reviewId]? with
      | some review => s.reconcileExpired now reviewId review
      | none => s)
    s

/--
Read one review, after expiring its reservations.
-/
def getReview (s : Store) (now : Instant) (reviewId : Nat)
    : Except Error (Store × Option ReviewBundle) := do
  match s.reviews[reviewId]? with
  | none => pure (s, none)
  | some review =>
    let stored := s.reconcileExpired now reviewId review
    let bundle ← stored.loadReviewBundle (review.expire now) now
    pure (stored, some bundle)

section Freshness

variable [Digest]

/--
The business objects a version was bound to, as they are now.
-/
def boundContexts (s : Store) (version : CaseProposalVersion)
    : List (ProposalContextBinding × BusinessObjectSnapshot) :=
  version.contextBindings.filterMap fun binding =>
    match s.contexts[binding.contextId]? with
    | some context => if context.caseId = version.caseId then some (binding, context) else none
    | none => none

def contextStaleReason (s : Store) (snapshot : CaseReviewSnapshot) (version : CaseProposalVersion)
    : Option String :=
  let rows := s.boundContexts version
  if rows = [] then
    some "The reviewed business context is unavailable."
  else if rows.any fun (binding, context) =>
      context.version ≠ binding.snapshotVersion
        ∨ contextSnapshotFingerprint context ≠ binding.contextFingerprint then
    some "Business context changed after this review was submitted."
  else if contextMaterialFingerprint
      (rows.map fun (_, context) => (context.publicId, contextSnapshotFingerprint context))
        ≠ snapshot.contextFingerprint then
    some "The reviewed business context binding changed."
  else
    none

structure BoundEvidence where
  binding : ProposalEvidenceBinding
  evidence : CasePolicyEvidence
  policy : GovernedPolicyVersion
  clause : GovernedPolicyClause
deriving DecidableEq

def boundEvidence (s : Store) (version : CaseProposalVersion) : List BoundEvidence :=
  version.evidenceBindings.filterMap fun binding => do
    let evidence ← s.policyEvidence[binding.evidenceId]?
    let policy ← s.policyVersions[evidence.policyVersionId]?
    let clause ← s.policyClauses[evidence.clauseId]?
    if evidence.caseId = version.caseId then
      some { binding, evidence, policy, clause }
    else
      none

def BoundEvidence.staleReason (row : BoundEvidence) (now : Instant) : Option String :=
  if row.binding.evidenceFingerprint ≠ row.evidence.fingerprint
      ∨ row.evidence.freshness ≠ .current
      ∨ row.evidence.conflictState ≠ .none
      ∨ row.evidence.policyContentHash ≠ row.policy.contentHash
      ∨ row.evidence.clauseContentHash ≠ row.clause.contentHash then
    some "The reviewed policy evidence binding changed."
  else if row.policy.status ≠ .published
      ∨ ¬ row.policy.effectiveFrom.any (fun effectiveFrom => effectiveFrom ≤ now)
      ∨ row.policy.effectiveTo.any (fun effectiveTo => effectiveTo ≤ now) then
    some "Policy authority changed after this review was submitted."
  else
    none

def evidenceStaleReason (s : Store) (snapshot : CaseReviewSnapshot) (version : CaseProposalVersion)
    (now : Instant) : Option String :=
  let rows := s.boundEvidence version
  if rows = [] then
    some "The reviewed policy evidence is unavailable."
  else
    match rows.findSome? fun row => row.staleReason now with
    | some reason => some reason
    | none =>
      if evidenceSetFingerprint .relevant (rows.map fun row => row.evidence.fingerprint)
          ≠ snapshot.evidenceFingerprint then
        some "The reviewed policy evidence set changed."
      else
        none

/--
Why the snapshot of a review does not describe the present, if it does not.
-/
def staleReason (s : Store) (review : CaseReview) (now : Instant) : Option String :=
  let snapshot := review.snapshot
  if snapshot.approvalRuleId = "APR-LEGACY" then
    some "Historical approvals require a new governed review."
  else
    match s.cases[review.caseId]?, s.proposals[review.proposalId]?,
        s.versions[review.proposalVersionId]? with
    | some case, some proposal, some version =>
      if case.version ≠ snapshot.caseVersion then
        some "The case changed after this review was submitted."
      else if proposal.currentVersion ≠ snapshot.proposalVersion then
        some "A newer resolution version is available."
      else if version.contextFingerprint ≠ snapshot.contextFingerprint
          ∨ version.evidenceFingerprint ≠ snapshot.evidenceFingerprint
          ∨ version.riskFingerprint ≠ snapshot.riskFingerprint
          ∨ version.riskRuleVersion ≠ snapshot.riskRuleVersion then
        some "The reviewed resolution bindings no longer match."
      else
        match s.contextStaleReason snapshot version with
        | some reason => some reason
        | none =>
          if review.policyState = .supported then
            s.evidenceStaleReason snapshot version now
          else
            none
    | _, _, _ => some "The reviewed case or resolution snapshot is unavailable."

def freshness (s : Store) (review : CaseReview) (now : Instant) : ReviewFreshnessRecord :=
  match s.staleReason review now with
  | some reason => { status := .stale, checkedAt := now, reason := some reason }
  | none => { status := .current, checkedAt := now, reason := none }

end Freshness

end Store

end CaseResolution
