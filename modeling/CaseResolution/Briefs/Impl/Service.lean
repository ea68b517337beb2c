import CaseResolution.Briefs.Impl.Evidence
import CaseResolution.Briefs.Impl.Generation
import CaseResolution.Briefs.Impl.Writer

/-!
This module contains the decision brief service: it reuses a stored brief of the same snapshot or
leases the generation of a new one, and persists what was generated under the lease.
-/

namespace CaseResolution

open Guard

variable [Digest]

def decisionGenerationLeaseSeconds : Nat := 60

def maxDecisionGenerationAttempts : Nat := 3

def maxInputFingerprintRetries : Nat := 3

def caseWorkspaceBusinessContextLimit : Nat := 100

/--
What a brief is generated from: the case and its newest business objects, by public id.
-/
structure CaseWorkspace where
  case : Case
  businessContexts : List BusinessObjectSnapshot

def newerContext (left right : BusinessObjectSnapshot) : Prop :=
  right.capturedAt < left.capturedAt
    ∨ (left.capturedAt = right.capturedAt ∧ right.publicId ≤ left.publicId)

instance : DecidableRel newerContext := fun _ _ => inferInstanceAs (Decidable (_ ∨ _))

def Store.getWorkspace (s : Store) (caseId : Nat) : Option CaseWorkspace := do
  let case ← s.cases[caseId]?
  let contexts := s.contexts.filter fun context => context.caseId = caseId
  let newest := (contexts.insertionSort newerContext).take caseWorkspaceBusinessContextLimit
  pure {
    case
    businessContexts := newest.insertionSort fun left right => left.publicId ≤ right.publicId
  }

/--
The lease to generate a brief, with the material it is generated from.
-/
structure DecisionBriefGenerationPlan where
  workspace : CaseWorkspace
  evidence : EvidenceRetrievalResult
  expectedCaseVersion : Nat
  inputFingerprint : String
  contextFingerprint : String
  evidenceFingerprint : String
  lease : DecisionGenerationLease
  lease_inputFingerprint : lease.inputFingerprint = inputFingerprint

inductive GenerationPreparation where
  | reused (brief : DecisionBrief)
  | plan (plan : DecisionBriefGenerationPlan)

def canReuse (brief : DecisionBrief) (modelVersion : String) : Bool :=
  brief.run.status = .abstained ∨ brief.run.modelVersion = modelVersion

def retryInputFingerprint (baseInputFingerprint : String) (retryNumber : Nat) : String :=
  Digest.text s!"{baseInputFingerprint}:ai-retry:{retryNumber}"

namespace Store

/--
A reusable brief stored under one of the input fingerprints of the snapshot, or the first input
fingerprint nothing is stored under.
-/
def searchBrief (s : Store) (caseId : Nat) (modelVersion baseInputFingerprint : String)
    : List Nat → String → Except Error (DecisionBrief ⊕ String)
  | [], _ =>
    .error (.decisionFingerprintRetryExhausted
      "Decision brief retry fingerprints are exhausted for this snapshot.")
  | retryNumber :: rest, inputFingerprint => do
    match ← s.loadByInputFingerprint caseId inputFingerprint with
    | none => pure (.inr inputFingerprint)
    | some existing =>
      if canReuse existing modelVersion then
        pure (.inl existing)
      else
        s.searchBrief caseId modelVersion baseInputFingerprint rest
          (retryInputFingerprint baseInputFingerprint (retryNumber + 1))

/--
Lease the generation of the brief of `inputFingerprint`, or read what another worker completed.
-/
def reserveGeneration (s : Store) (now : Instant) (ownerToken : Nat) (caseId : Nat)
    (workspace : CaseWorkspace) (evidence : EvidenceRetrievalResult) (expectedCaseVersion : Nat)
    (contextFingerprint evidenceFingerprint inputFingerprint : String)
    : Except Error (Store × GenerationPreparation) := do
  let (acquired, reservation) ← s.acquireGeneration now ownerToken caseId inputFingerprint
    decisionGenerationLeaseSeconds maxDecisionGenerationAttempts
  match reservation with
  | .completed analysisRunId =>
    let found ← acquired.loadByInputFingerprint caseId inputFingerprint
    let missing : Error :=
      .proposalSnapshotMismatch
        "The completed generation is missing its immutable decision brief."
    let completed ← orThrow found missing
    ensure (completed.runId = analysisRunId) missing
    pure (acquired, .reused completed)
  | .leased lease lease_inputFingerprint =>
    pure (acquired, .plan {
      workspace, evidence, expectedCaseVersion, inputFingerprint, contextFingerprint
      evidenceFingerprint, lease, lease_inputFingerprint
    })

def prepareGeneration (s : Store) (now : Instant) (ownerToken : Nat) (actor : ActorContext)
    (engine : EngineVersions) (caseId : Nat) (expectedCaseVersion : Nat)
    (resolution : PolicyResolution) : Except Error (Store × GenerationPreparation) := do
  requirePermission actor .caseManage
  requirePermission actor .policyRead
  let workspace ← orThrow (s.getWorkspace caseId) (.proposalNotFound "The case was not found.")
  ensure (workspace.case.version = expectedCaseVersion)
    (.caseConcurrencyConflict expectedCaseVersion workspace.case.version)
  ensure (workspace.case.status ≠ .completed)
    (.proposalGenerationNotAllowed
      "A completed case must be reopened before its decision brief can be revised.")
  let (refreshed, evidence) ← s.refreshForCase caseId resolution
  let contextFingerprint := combinedContextFingerprint workspace.businessContexts
  let evidenceFingerprint := combinedEvidenceFingerprint evidence
  let baseInputFingerprint := decisionInputFingerprint workspace.case evidence contextFingerprint
    evidenceFingerprint engine
  match ← refreshed.searchBrief caseId engine.modelVersion baseInputFingerprint
      (List.range (maxInputFingerprintRetries + 1)) baseInputFingerprint with
  | .inl existing => pure (refreshed, .reused existing)
  | .inr inputFingerprint =>
    refreshed.reserveGeneration now ownerToken caseId workspace evidence expectedCaseVersion
      contextFingerprint evidenceFingerprint inputFingerprint

end Store

namespace DecisionBriefGenerationPlan

def command (plan : DecisionBriefGenerationPlan) (analysis : DecisionAnalysis)
    : DecisionBriefCreate where
  expectedCaseVersion := plan.expectedCaseVersion
  inputFingerprint := plan.inputFingerprint
  contextFingerprint := plan.contextFingerprint
  evidenceFingerprint := plan.evidenceFingerprint
  analysis := analysis
  evidence := plan.evidence.evidence.map fun bundle =>
    { publicId := bundle.publicId, fingerprint := bundle.fingerprint }
  contexts := plan.workspace.businessContexts.map fun context => {
    publicId := context.publicId
    version := context.version
    fingerprint := contextSnapshotFingerprint context
  }

end DecisionBriefGenerationPlan

namespace Store

/--
Store the generated brief and complete its lease, or do neither.
-/
def persistGeneration (s : Store) (now : Instant) (actor : ActorContext) (caseId : Nat)
    (plan : DecisionBriefGenerationPlan) (analysis : DecisionAnalysis)
    (resolution : PolicyResolution) : Except Error (Store × DecisionBrief) := do
  requirePermission actor .caseManage
  requirePermission actor .policyRead
  ensure (isCurrentForCase resolution plan.evidence)
    (.proposalSnapshotMismatch
      "Applicable policy evidence changed while the decision brief was generated.")
  let (stored, brief) ← s.createOrGetBrief caseId (plan.command analysis)
  let completed ← stored.completeGeneration now caseId plan.lease brief.runId
  pure (completed, brief)

def releaseGeneration (s : Store) (now : Instant) (caseId : Nat)
    (plan : DecisionBriefGenerationPlan) (errorCode : String) : Except Error (Store × Bool) :=
  s.failGeneration now caseId plan.lease errorCode

/--
Reuse a brief or generate a new one in one go. `analyze` is the decision engine.
-/
def generateBrief (s : Store) (now : Instant) (ownerToken : Nat) (actor : ActorContext)
    (engine : EngineVersions) (analyze : DecisionBriefGenerationPlan → Except Error DecisionAnalysis)
    (caseId : Nat) (expectedCaseVersion : Nat) (resolution currentResolution : PolicyResolution)
    : Except Error (Store × DecisionBrief) := do
  let (prepared, preparation) ←
    s.prepareGeneration now ownerToken actor engine caseId expectedCaseVersion resolution
  match preparation with
  | .reused brief => pure (prepared, brief)
  | .plan plan =>
    let analysis ← analyze plan
    prepared.persistGeneration now actor caseId plan analysis currentResolution

end Store

end CaseResolution
