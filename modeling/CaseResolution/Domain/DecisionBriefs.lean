import CaseResolution.Domain.Basic

/-!
This module contains decision briefs: analysis runs, the generation leases that fence them, proposals
and their immutable versions, and the policy evidence they bind.
-/

namespace CaseResolution

inductive AnalysisStatus where
  | completed
  | abstained
deriving DecidableEq

inductive DecisionGenerationStatus where
  | running
  | completed
  | failed
deriving DecidableEq

inductive DecisionProposalState where
  | draft
  | informationNeeded
  | readyForReview
  | underReview
  | approved
  | rejected
deriving DecidableEq

inductive ResponseSuggestionStatus where
  | draft
  | ready
  | blocked
deriving DecidableEq

inductive EvidenceRetrievalStatus where
  | relevant
  | missing
  | stale
  | conflicting
  | inapplicable
deriving DecidableEq

def EvidenceRetrievalStatus.value : EvidenceRetrievalStatus → String
  | .relevant => "relevant"
  | .missing => "missing"
  | .stale => "stale"
  | .conflicting => "conflicting"
  | .inapplicable => "inapplicable"

inductive PolicyVersionStatus where
  | draft
  | inReview
  | published
  | scheduled
  | retired
deriving DecidableEq

/--
A row of `governed_policy_versions`.
-/
structure GovernedPolicyVersion where
  recordVersion : Nat
  immutable : Bool
  contentHash : String
  status : PolicyVersionStatus
  effectiveFrom : Option Instant
  effectiveTo : Option Instant
deriving DecidableEq

structure GovernedPolicyClause where
  contentHash : String
deriving DecidableEq

inductive EvidenceFreshness where
  | current
  | stale
deriving DecidableEq

inductive EvidenceConflictState where
  | none
  | possible
  | confirmed
deriving DecidableEq

/--
A row of `case_policy_evidence`.
-/
structure CasePolicyEvidence where
  caseId : Nat
  publicId : String
  fingerprint : String
  freshness : EvidenceFreshness
  conflictState : EvidenceConflictState
  policyVersionId : Nat
  clauseId : Nat
  policyContentHash : String
  clauseContentHash : String
deriving DecidableEq

structure EvidenceSnapshotReference where
  publicId : String
  fingerprint : String
deriving DecidableEq

structure ContextSnapshotReference where
  publicId : String
  version : Nat
  fingerprint : String
deriving DecidableEq

/--
A clause that retrieval found applicable to a case.
-/
structure PolicyEvidenceBinding where
  policyVersionId : Nat
  recordVersion : Nat
  versionContentHash : String
  clauseId : Nat
  clauseContentHash : String
  fingerprint : String
deriving DecidableEq

/--
What retrieval resolves for a case.
-/
structure PolicyResolution where
  status : EvidenceRetrievalStatus
  bindings : List PolicyEvidenceBinding
deriving DecidableEq

/--
A stored piece of policy evidence with the binding it was returned for.
-/
structure PolicyEvidenceBundle where
  publicId : String
  fingerprint : String
  binding : PolicyEvidenceBinding
deriving DecidableEq

structure EvidenceRetrievalResult where
  status : EvidenceRetrievalStatus
  evidence : List PolicyEvidenceBundle
deriving DecidableEq

structure DecisionRiskCheck where
  id : String
  label : String
  outcome : String
  explanation : String
deriving DecidableEq

structure ProposedActionDraft where
  type : String
  parameters : Dict
  reviewRequired : Bool
deriving DecidableEq

structure SuggestedResponseDraft where
  subject : String
  body : String
  status : ResponseSuggestionStatus
deriving DecidableEq

/--
What a decision engine makes of a case, as far as it is read again.
-/
structure DecisionAnalysis where
  status : AnalysisStatus
  policyStatus : EvidenceRetrievalStatus
  risks : List DecisionRiskCheck
  state : DecisionProposalState
  proposedActions : List ProposedActionDraft
  responseDraft : SuggestedResponseDraft
  modelVersion : String
  promptVersion : String
  graphVersion : String
  riskRuleVersion : String
deriving DecidableEq

structure DecisionBriefCreate where
  expectedCaseVersion : Nat
  inputFingerprint : String
  contextFingerprint : String
  evidenceFingerprint : String
  analysis : DecisionAnalysis
  evidence : List EvidenceSnapshotReference
  contexts : List ContextSnapshotReference
deriving DecidableEq

/--
A row of `case_analysis_generations` without its key, the case and the input fingerprint.
-/
structure CaseAnalysisGeneration where
  ownerToken : Nat
  fenceToken : Nat
  attemptCount : Nat
  status : DecisionGenerationStatus
  expiresAt : Instant
  analysisRunId : Option Nat
  lastErrorCode : Option String
  completedAt : Option Instant
deriving DecidableEq

structure DecisionGenerationLease where
  inputFingerprint : String
  ownerToken : Nat
  fenceToken : Nat
  attempt : Nat
  expiresAt : Instant
deriving DecidableEq

/--
A row of `case_analysis_runs`.
-/
structure CaseAnalysisRun where
  caseId : Nat
  status : AnalysisStatus
  policyStatus : EvidenceRetrievalStatus
  caseVersion : Nat
  inputFingerprint : String
  contextFingerprint : String
  evidenceFingerprint : String
  modelVersion : String
  promptVersion : String
  graphVersion : String
  riskRuleVersion : String
deriving DecidableEq

/--
A row of `case_proposals`. `currentVersion` names the version in force, `version` counts the writes.
-/
structure CaseProposal where
  caseId : Nat
  currentVersion : Nat
  state : DecisionProposalState
  version : Nat
deriving DecidableEq

/--
A row of `proposal_evidence_bindings`.
-/
structure ProposalEvidenceBinding where
  evidenceId : Nat
  evidenceFingerprint : String
deriving DecidableEq

/--
A row of `proposal_context_bindings`.
-/
structure ProposalContextBinding where
  contextId : Nat
  snapshotVersion : Nat
  contextFingerprint : String
deriving DecidableEq

/--
A row of `case_proposal_versions` with the rows that are written with it and, like it, never change:
its bindings, its proposed actions and its response draft.
-/
structure CaseProposalVersion where
  caseId : Nat
  proposalId : Nat
  analysisRunId : Nat
  legacyProposalVersionId : Option Nat
  version : Nat
  state : DecisionProposalState
  contextFingerprint : String
  evidenceFingerprint : String
  riskFingerprint : String
  riskRuleVersion : String
  evidenceBindings : List ProposalEvidenceBinding
  contextBindings : List ProposalContextBinding
  proposedActions : List ProposedActionDraft
  responseDraft : Option SuggestedResponseDraft
deriving DecidableEq

/--
A decision brief as it is read: a version with the run that produced it and its proposal.
-/
structure DecisionBrief where
  runId : Nat
  run : CaseAnalysisRun
  proposal : CaseProposal
  version : CaseProposalVersion
  responseDraft : SuggestedResponseDraft
deriving DecidableEq

end CaseResolution
