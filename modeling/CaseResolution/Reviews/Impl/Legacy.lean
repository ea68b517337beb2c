import CaseResolution.Reviews.Impl.Workflow

/-!
This module contains the import of historical reviews, which never authorize a current action.
-/

namespace CaseResolution

open Guard

variable [Digest]

def legacyRole (value : String) : Option MemberRole :=
  match value with
  | "operator" => some .specialist
  | "supervisor" => some .supervisor
  | "administrator" => some .administrator
  | "auditor" => some .auditor
  | _ => none

def legacyDecision (value : String) : Option ReviewDecision :=
  match value with
  | "approved" => some .approve
  | "rejected" => some .reject
  | "needs_information" => some .requestChanges
  | _ => none

namespace LegacyReviewImport

def snapshotFingerprint (command : LegacyReviewImport) : String :=
  Digest.hash <| .obj [
    ("legacy_reservation_id", .num command.legacyReservationId),
    ("legacy_decision_id",
      .ofOption (fun (_, legacyDecisionId, _) => .num legacyDecisionId) command.decision),
    ("legacy_proposal_version_id", .num command.legacyProposalVersionId),
    ("source_evidence_fingerprint", .str command.sourceEvidenceFingerprint)
  ]

def reservation (command : LegacyReviewImport) : CaseReviewReservation where
  reviewerId := none
  legacyReservationId := some command.legacyReservationId
  reviewerRole := command.reviewerRole
  snapshotFingerprint := command.snapshotFingerprint
  status := if command.decision.isSome then .consumed else .expired
  reservedAt := command.reservedAt
  expiresAt := command.expiresAt
  consumedAt := command.decision.map fun (_, _, decidedAt) => decidedAt

def decisions (command : LegacyReviewImport) : List CaseReviewDecision :=
  match command.decision with
  | none => []
  | some (decision, legacyDecisionId, decidedAt) =>
    [{
      reservationId := 0
      reviewerId := none
      legacyDecisionId := some legacyDecisionId
      reviewerRole := command.reviewerRole
      decision := decision
      reason := command.reason
      snapshotFingerprint := command.snapshotFingerprint
      decidedAt := decidedAt
    }]

def newReview (command : LegacyReviewImport) (versionId : Nat) (version : CaseProposalVersion)
    (caseVersion importerId : Nat) : CaseReview where
  caseId := version.caseId
  proposalId := version.proposalId
  proposalVersionId := versionId
  status :=
    match command.decision with
    | some (decision, _, _) => reviewStatus decision
    | none => .pending
  policyState := .missing
  submittedById := importerId
  submittedAt := command.reservedAt
  version := 1
  snapshot := {
    caseVersion := caseVersion
    proposalVersion := version.version
    proposalFingerprint := Digest.hash (.obj [("legacy_proposal", .num versionId)])
    contextFingerprint := version.contextFingerprint
    evidenceFingerprint := version.evidenceFingerprint
    riskFingerprint := version.riskFingerprint
    riskRuleVersion := version.riskRuleVersion
    snapshotFingerprint := command.snapshotFingerprint
    approvalRuleId := "APR-LEGACY"
    requiredRole := .administrator
    approvalRuleVersion := 1
    executionEligible := false
  }
  reservations := [command.reservation]
  decisions := command.decisions

end LegacyReviewImport

namespace Store

/--
The imported review agrees with the historical reservation and decision it names.
-/
def verifyLegacyLineage (s : Store) (command : LegacyReviewImport) : Except Error PUnit := do
  ensure
    (∃ reservation ∈ s.legacyReservations,
      reservation.id = command.legacyReservationId
        ∧ reservation.proposalId = command.legacyProposalVersionId
        ∧ reservation.proposalVersion = command.sourceProposalVersion
        ∧ reservation.evidenceFingerprint = command.sourceEvidenceFingerprint
        ∧ reservation.reviewerId = command.reviewerName
        ∧ legacyRole reservation.reviewerRole = some command.reviewerRole)
    (.reviewConflict "The legacy reservation does not match the imported review lineage.")
  ensure
    (∀ preserved ∈ command.decision,
      ∃ decision ∈ s.legacyDecisions,
        decision.id = preserved.2.1
          ∧ decision.proposalId = command.legacyProposalVersionId
          ∧ decision.reservationId = command.legacyReservationId
          ∧ decision.proposalVersion = command.sourceProposalVersion
          ∧ decision.evidenceFingerprint = command.sourceEvidenceFingerprint
          ∧ decision.reviewerId = command.reviewerName
          ∧ legacyRole decision.reviewerRole = some command.reviewerRole
          ∧ legacyDecision decision.outcome = some preserved.1
          ∧ decision.decidedAt = preserved.2.2)
    (.reviewConflict "The legacy decision does not match the imported review lineage.")

def importLegacyReview (s : Store) (now : Instant) (importerActorId : String)
    (command : LegacyReviewImport) : Except Error (Store × ReviewBundle) := do
  let missing : Error :=
    .reviewNotFound "The legacy proposal must be imported before its review history."
  let versionId ← orThrow
    (s.versions.findIdx? fun version =>
      version.legacyProposalVersionId = some command.legacyProposalVersionId)
    missing
  let version ← orThrow s.versions[versionId]? missing
  ensure (version.version = command.sourceProposalVersion)
    (.reviewConflict "The legacy review proposal version does not match its imported proposal.")
  s.verifyLegacyLineage command
  match s.findReview version.caseId versionId with
  | some existingId =>
    let existing ← s.requiredReview existingId
    let bundle ← s.loadReviewBundle existing now
    pure (s, bundle)
  | none =>
    let case ← orThrow s.cases[version.caseId]?
      (.reviewNotFound "The imported generic proposal lineage is incomplete.")
    let _ ← orThrow s.proposals[version.proposalId]?
      (.reviewNotFound "The imported generic proposal lineage is incomplete.")
    let (importerId, _) ← s.reviewMember importerActorId
    ensure (∀ review ∈ s.reviews,
        review.snapshot.snapshotFingerprint ≠ command.snapshotFingerprint)
      (.integrityError "uq_case_review_snapshots_org_fingerprint")
    let review := command.newReview versionId version case.version importerId
    let stored := { s with reviews := s.reviews ++ [review] }
    let bundle ← stored.loadReviewBundle review now
    pure (stored, bundle)

end Store

end CaseResolution
