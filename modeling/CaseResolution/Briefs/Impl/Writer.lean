import CaseResolution.Briefs.Impl.Fingerprints

/-!
This module contains the reads of decision briefs and the writer that stores a new brief, or finds
the one already stored under the same input fingerprint.
-/

namespace CaseResolution

open Guard

namespace Store

/--
The brief of one version of a proposal.
-/
def loadBrief (s : Store) (proposalId : Nat) (proposal : CaseProposal) (versionNumber : Nat)
    : Except Error DecisionBrief := do
  let version ← orThrow
    (s.versions.find? fun version =>
      version.caseId = proposal.caseId ∧ version.proposalId = proposalId
        ∧ version.version = versionNumber)
    (.proposalSnapshotMismatch "The proposal version snapshot is missing.")
  let incomplete : Error :=
    .proposalSnapshotMismatch "The decision brief snapshot is incomplete."
  let run ← orThrow s.runs[version.analysisRunId]? incomplete
  let responseDraft ← orThrow version.responseDraft incomplete
  pure { runId := version.analysisRunId, run, proposal, version, responseDraft }

def findRun (s : Store) (caseId : Nat) (inputFingerprint : String) : Option Nat :=
  s.runs.findIdx? fun run => run.caseId = caseId ∧ run.inputFingerprint = inputFingerprint

def loadByInputFingerprint (s : Store) (caseId : Nat) (inputFingerprint : String)
    : Except Error (Option DecisionBrief) := do
  match s.findRun caseId inputFingerprint with
  | none => pure none
  | some runId =>
    let existing ← orThrow
      (s.versions.find? fun version => version.caseId = caseId ∧ version.analysisRunId = runId)
      (.proposalSnapshotMismatch
        "The analysis run exists without its immutable proposal snapshot.")
    let proposal ← orThrow s.proposals[existing.proposalId]?
      (.proposalSnapshotMismatch "The proposal root for this analysis is missing.")
    let brief ← s.loadBrief existing.proposalId proposal existing.version
    pure (some brief)

def bindProposalEvidence (s : Store) (caseId : Nat)
    : List EvidenceSnapshotReference → Except Error (List ProposalEvidenceBinding)
  | [] => pure []
  | reference :: rest => do
    let evidenceId ← orThrow
      (s.policyEvidence.findIdx? fun evidence =>
        evidence.caseId = caseId ∧ evidence.publicId = reference.publicId
          ∧ evidence.fingerprint = reference.fingerprint)
      (.proposalSnapshotMismatch
        s!"Policy evidence {reference.publicId} changed before proposal persistence.")
    let bindings ← s.bindProposalEvidence caseId rest
    pure ({ evidenceId, evidenceFingerprint := reference.fingerprint } :: bindings)

def bindProposalContext (s : Store) (caseId : Nat)
    : List ContextSnapshotReference → Except Error (List ProposalContextBinding)
  | [] => pure []
  | reference :: rest => do
    let contextId ← orThrow
      (s.contexts.findIdx? fun context =>
        context.caseId = caseId ∧ context.publicId = reference.publicId
          ∧ context.version = reference.version)
      (.proposalSnapshotMismatch
        s!"Business context {reference.publicId} changed before proposal persistence.")
    let bindings ← s.bindProposalContext caseId rest
    pure ({
      contextId
      snapshotVersion := reference.version
      contextFingerprint := reference.fingerprint
    } :: bindings)

/--
The highest version number stored for a proposal, zero if there is none.
-/
def latestVersion (s : Store) (caseId proposalId : Nat) : Nat :=
  s.versions.foldl
    (fun latest version =>
      if version.caseId = caseId ∧ version.proposalId = proposalId then
        max latest version.version
      else
        latest)
    0

end Store

namespace DecisionBriefCreate

def newRun (command : DecisionBriefCreate) (caseId : Nat) : CaseAnalysisRun where
  caseId := caseId
  status := command.analysis.status
  policyStatus := command.analysis.policyStatus
  caseVersion := command.expectedCaseVersion
  inputFingerprint := command.inputFingerprint
  contextFingerprint := command.contextFingerprint
  evidenceFingerprint := command.evidenceFingerprint
  modelVersion := command.analysis.modelVersion
  promptVersion := command.analysis.promptVersion
  graphVersion := command.analysis.graphVersion
  riskRuleVersion := command.analysis.riskRuleVersion

def newVersion [Digest] (command : DecisionBriefCreate) (caseId proposalId analysisRunId : Nat)
    (version : Nat) (evidenceBindings : List ProposalEvidenceBinding)
    (contextBindings : List ProposalContextBinding) : CaseProposalVersion where
  caseId := caseId
  proposalId := proposalId
  analysisRunId := analysisRunId
  legacyProposalVersionId := none
  version := version
  state := command.analysis.state
  contextFingerprint := command.contextFingerprint
  evidenceFingerprint := command.evidenceFingerprint
  riskFingerprint := riskFingerprint command.analysis.risks
  riskRuleVersion := command.analysis.riskRuleVersion
  evidenceBindings := evidenceBindings
  contextBindings := contextBindings
  proposedActions := command.analysis.proposedActions
  responseDraft := some command.analysis.responseDraft

end DecisionBriefCreate

namespace Store

/--
Put a new version of the case's proposal in force, creating the proposal with its first version.
-/
def advanceProposal (s : Store) (caseId : Nat) (state : DecisionProposalState)
    : Except Error (Store × Nat × CaseProposal) := do
  match s.findProposal caseId with
  | none =>
    let proposal : CaseProposal := { caseId, currentVersion := 1, state, version := 1 }
    pure ({ s with proposals := s.proposals ++ [proposal] }, s.proposals.length, proposal)
  | some proposalId =>
    let proposal ← orThrow s.proposals[proposalId]?
      (.proposalSnapshotMismatch "The proposal root for this analysis is missing.")
    let advanced := { proposal with
      currentVersion := s.latestVersion caseId proposalId + 1
      state := state
      version := proposal.version + 1 }
    pure (s.setProposal proposalId advanced, proposalId, advanced)

def createOrGetBrief [Digest] (s : Store) (caseId : Nat) (command : DecisionBriefCreate)
    : Except Error (Store × DecisionBrief) := do
  let case ← orThrow s.cases[caseId]? (.proposalNotFound "The case was not found.")
  ensure (case.version = command.expectedCaseVersion)
    (.caseConcurrencyConflict command.expectedCaseVersion case.version)
  match ← s.loadByInputFingerprint caseId command.inputFingerprint with
  | some existing => pure (s, existing)
  | none =>
    let runId := s.runs.length
    let recorded := { s with runs := s.runs ++ [command.newRun caseId] }
    let (advanced, proposalId, proposal) ←
      recorded.advanceProposal caseId command.analysis.state
    let evidenceBindings ← advanced.bindProposalEvidence caseId command.evidence
    let contextBindings ← advanced.bindProposalContext caseId command.contexts
    let version := command.newVersion caseId proposalId runId proposal.currentVersion
      evidenceBindings contextBindings
    let stored := { advanced with versions := advanced.versions ++ [version] }
    let brief ← stored.loadBrief proposalId proposal proposal.currentVersion
    pure (stored, brief)

end Store

end CaseResolution
