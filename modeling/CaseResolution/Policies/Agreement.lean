import CaseResolution.Policies.Lemmas.Reachable
import CaseResolution.Policies.Lemmas.Retrieval
import CaseResolution.System.Reachable

/-!
This module contains when retrieval and review agree on the authority of a policy: retrieval cites what is
published or scheduled, the freshness of a review accepts only what is published.
-/

namespace CaseResolution

variable {v : PolicyVersion} {context : CaseRetrievalContext} {t : Instant}

namespace Store

/--
The row holds the evidence that was recorded when the version was retrieved, and the version, its clause
and the binding of the proposal are as they were then.
-/
structure BoundEvidence.RecordedFrom (row : BoundEvidence) (v : PolicyVersion) : Prop where
  cites : row.policy = v.toGovernedPolicyVersion
  bound : row.binding.evidenceFingerprint = row.evidence.fingerprint
  recorded : ∃ (s : Store) (binding : PolicyEvidenceBinding),
    row.evidence = s.newEvidence row.evidence.caseId binding
      ∧ binding.versionContentHash = v.contentHash
      ∧ binding.clauseContentHash = row.clause.contentHash

/--
Evidence of a version that is retrieved at `t` is current at `t` exactly when the version is published and
has a first day.
-/
theorem BoundEvidence.RecordedFrom.staleReason_eq_none_iff {row : BoundEvidence}
    (h : row.RecordedFrom v) (hretrieved : v.isRetrievable context t = true)
    : row.staleReason t = none
        ↔ row.policy.status = .published ∧ row.policy.effectiveFrom.isSome = true := by
  obtain ⟨hpolicy, hbinding, s, binding, hevidence, hversion, hclause⟩ := h
  obtain ⟨_, _, hstart, hstop⟩ := PolicyVersion.isRetrievable_iff.mp hretrieved
  have hunchanged : ¬ (row.binding.evidenceFingerprint ≠ row.evidence.fingerprint
      ∨ row.evidence.freshness ≠ .current ∨ row.evidence.conflictState ≠ .none
      ∨ row.evidence.policyContentHash ≠ row.policy.contentHash
      ∨ row.evidence.clauseContentHash ≠ row.clause.contentHash) := by
    rw [hbinding, hevidence, hpolicy]
    simp [Store.newEvidence, hversion, hclause]
  unfold BoundEvidence.staleReason
  rw [if_neg hunchanged, hpolicy]
  constructor
  . intro hnone
    split at hnone
    . cases hnone
    . next hauthority =>
      push Not at hauthority
      refine ⟨hauthority.1, ?_⟩
      have hfrom := hauthority.2.1
      cases heq : v.effectiveFrom with
      | none => simp [heq] at hfrom
      | some start => rfl
  . intro ⟨hpublished, hdated⟩
    obtain ⟨start, heq⟩ := Option.isSome_iff_exists.mp hdated
    have hbegun : start ≤ t := hstart start heq
    have hopen : ¬ v.effectiveTo.any (fun stop => stop ≤ t) = true := by
      rw [Option.any_eq_true]
      intro ⟨stop, hmem, hle⟩
      exact absurd (of_decide_eq_true hle) (Int.not_le.mpr (hstop stop hmem))
    rw [if_neg]
    simp [hpublished, heq, hbegun, hopen]

/--
What `bindEvidenceRow` stores for a binding that was not stored before is recorded from the version it
cites.
-/
theorem newEvidence_recordedFrom {s : Store} {caseId : Nat} {binding : PolicyEvidenceBinding}
    {clause : GovernedPolicyClause} {evidenceId : Nat}
    (hversion : binding.versionContentHash = v.contentHash)
    (hclause : binding.clauseContentHash = clause.contentHash)
    : BoundEvidence.RecordedFrom {
        binding := { evidenceId, evidenceFingerprint := binding.fingerprint }
        evidence := s.newEvidence caseId binding
        policy := v.toGovernedPolicyVersion
        clause } v where
  cites := rfl
  bound := rfl
  recorded := ⟨s, binding, rfl, hversion, hclause⟩

variable [Digest]

/--
Nothing about the case, its resolution and its business context has changed since the review was
submitted.
-/
structure SourcesUnchanged (s : Store) (review : CaseReview) (version : CaseProposalVersion) : Prop where
  governed : review.snapshot.approvalRuleId ≠ "APR-LEGACY"
  supported : review.policyState = .supported
  caseUnchanged : ∃ case ∈ s.cases[review.caseId]?, case.version = review.snapshot.caseVersion
  proposalUnchanged : ∃ proposal ∈ s.proposals[review.proposalId]?,
    proposal.currentVersion = review.snapshot.proposalVersion
  stored : s.versions[review.proposalVersionId]? = some version
  contextFingerprint : version.contextFingerprint = review.snapshot.contextFingerprint
  evidenceFingerprint : version.evidenceFingerprint = review.snapshot.evidenceFingerprint
  riskFingerprint : version.riskFingerprint = review.snapshot.riskFingerprint
  riskRuleVersion : version.riskRuleVersion = review.snapshot.riskRuleVersion
  contextUnchanged : s.contextStaleReason review.snapshot version = none
  evidenceBound : s.boundEvidence version ≠ []
  evidenceSet : evidenceSetFingerprint .relevant
      ((s.boundEvidence version).map fun row => row.evidence.fingerprint)
    = review.snapshot.evidenceFingerprint

instance (s : Store) (review : CaseReview) (version : CaseProposalVersion)
    : Decidable (s.SourcesUnchanged review version) :=
  decidable_of_iff
    (review.snapshot.approvalRuleId ≠ "APR-LEGACY" ∧ review.policyState = .supported
      ∧ (∃ case ∈ s.cases[review.caseId]?, case.version = review.snapshot.caseVersion)
      ∧ (∃ proposal ∈ s.proposals[review.proposalId]?,
        proposal.currentVersion = review.snapshot.proposalVersion)
      ∧ s.versions[review.proposalVersionId]? = some version
      ∧ version.contextFingerprint = review.snapshot.contextFingerprint
      ∧ version.evidenceFingerprint = review.snapshot.evidenceFingerprint
      ∧ version.riskFingerprint = review.snapshot.riskFingerprint
      ∧ version.riskRuleVersion = review.snapshot.riskRuleVersion
      ∧ s.contextStaleReason review.snapshot version = none ∧ s.boundEvidence version ≠ []
      ∧ evidenceSetFingerprint .relevant
          ((s.boundEvidence version).map fun row => row.evidence.fingerprint)
        = review.snapshot.evidenceFingerprint)
    ⟨fun ⟨h₁, h₂, h₃, h₄, h₅, h₆, h₇, h₈, h₉, h₁₀, h₁₁, h₁₂⟩ =>
      ⟨h₁, h₂, h₃, h₄, h₅, h₆, h₇, h₈, h₉, h₁₀, h₁₁, h₁₂⟩,
    fun ⟨h₁, h₂, h₃, h₄, h₅, h₆, h₇, h₈, h₉, h₁₀, h₁₁, h₁₂⟩ =>
      ⟨h₁, h₂, h₃, h₄, h₅, h₆, h₇, h₈, h₉, h₁₀, h₁₁, h₁₂⟩⟩

variable {s : Store} {review : CaseReview} {version : CaseProposalVersion}

/--
With all other sources unchanged only a row of policy evidence can make a review stale.
-/
theorem SourcesUnchanged.current_iff (h : s.SourcesUnchanged review version)
    : (s.freshness review t).status = .current
        ↔ ∀ row ∈ s.boundEvidence version, row.staleReason t = none := by
  obtain ⟨case, hcase, hcaseVersion⟩ := h.caseUnchanged
  obtain ⟨proposal, hproposal, hproposalVersion⟩ := h.proposalUnchanged
  rw [Option.mem_def] at hcase hproposal
  have hreason : s.staleReason review t = s.evidenceStaleReason review.snapshot version t := by
    unfold staleReason
    simp [h.governed, hcase, hproposal, h.stored, hcaseVersion, hproposalVersion,
      h.contextFingerprint, h.evidenceFingerprint, h.riskFingerprint, h.riskRuleVersion, h.contextUnchanged,
      h.supported]
  have hevidence : s.evidenceStaleReason review.snapshot version t = none
      ↔ ∀ row ∈ s.boundEvidence version, row.staleReason t = none := by
    unfold evidenceStaleReason
    rw [← List.findSome?_eq_none_iff]
    dsimp only
    rw [if_neg h.evidenceBound]
    cases (s.boundEvidence version).findSome? fun row => row.staleReason t with
    | none => simp [h.evidenceSet]
    | some reason => simp
  rw [← hevidence, ← hreason]
  unfold freshness
  split
  . next heq => simp [heq]
  . next heq => simp [heq]

end Store

namespace Sample

attribute [local instance] Digest.checksum

/--
The refund policy as one that was scheduled for instant 1.
-/
def scheduledVersion : PolicyVersion where
  toGovernedPolicyVersion := { policy with status := .scheduled, effectiveFrom := some 1 }
  version := 1
  sourceText := refundTerms.sourceText
  applicability := refunds
  clauses := []
  createdBy := "MB-9"
  submittedAt := some 0
  publishedAt := none
  retiredAt := none

def publishedVersion : PolicyVersion :=
  { scheduledVersion with toGovernedPolicyVersion := policy }

/--
The tables of the organization with one policy version in them.
-/
def offering (v : PolicyVersion) : OrganizationTables where
  members := store.members
  approvalRuleVersion := store.approvalRuleVersion
  connections := store.connections
  policyVersions := [v.toGovernedPolicyVersion]
  policyClauses := store.policyClauses
  policyEvidence := store.policyEvidence
  contexts := store.contexts
  legacyReservations := store.legacyReservations
  legacyDecisions := store.legacyDecisions

/--
A review of the refund that cites the policy version.
-/
def reviewCiting (v : PolicyVersion) : Store :=
  initial.after <| .maintainOrganization (offering v) :: generate "A" "EVD-0" 7 ++
    [.submitReview 1 0 "MB-1" submission]

/--
The evidence for the policy version as the review binds it.
-/
def citedRow (v : PolicyVersion) : Store.BoundEvidence where
  binding := { evidenceId := 0, evidenceFingerprint := "A" }
  evidence := store.newEvidence 0 (binding "A")
  policy := v.toGovernedPolicyVersion
  clause := { contentHash := "clause" }

theorem citedRow_recordedFrom {v : PolicyVersion} (hcontent : v.contentHash = "policy")
    : (citedRow v).RecordedFrom v := by
  exact @Store.newEvidence_recordedFrom v store 0 (binding "A") { contentHash := "clause" } 0
    hcontent.symm rfl

end Sample

end CaseResolution
