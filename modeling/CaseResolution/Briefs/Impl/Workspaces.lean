import CaseResolution.Briefs.Impl.Engine
import CaseResolution.Domain.Intake
import CaseResolution.System.Basic
import Mathlib.Logic.Function.Basic

/-!
This module contains the service together with what a decision engine reads beside the tables of the
service: the risk, the impact and the source of a case, and its customer.
-/

namespace CaseResolution

open Guard

/--
The columns of a case and of its customer that only a decision engine reads.
-/
structure CaseDetails where
  risk : CaseRisk
  impactAmount : Option Rat
  impactCurrency : Option String
  sourceFreshness : SourceFreshness
  customerName : String
  customerTier : CustomerTier
deriving DecidableEq

structure DetailedStore where
  store : Store
  details : Nat → CaseDetails

/--
The commands that write none of the details and open no case.
-/
def Command.KeepsDetails : Command → Prop
  | .maintainOrganization _ | .openCase _ | .appendMessage _ => False
  | _ => True

/--
The commands of the service. A case is opened by a source with its details and its business objects, a
message of the inbox tells about the source of its case, and the tables that other parts of the product
maintain do not include the business objects.
-/
inductive DetailedCommand where
  | openCase (case : Case) (details : CaseDetails) (contexts : List BusinessObjectCreate)
  | appendMessage (caseId : Nat)
  | maintainOrganization (tables : OrganizationTables)
  | perform (command : Command) (kept : command.KeepsDetails)

namespace DetailedStore

def openCase (s : DetailedStore) (case : Case) (details : CaseDetails)
    (contexts : List BusinessObjectCreate) : DetailedStore :=
  let caseId := s.store.cases.length
  {
    store := { s.store.openCase case with
      contexts := s.store.contexts ++ contexts.map fun context => context.snapshot caseId }
    details := Function.update s.details caseId details
  }

def appendMessage (s : DetailedStore) (caseId : Nat) : Except Error DetailedStore := do
  let store ← s.store.appendMessage caseId
  let details := { s.details caseId with sourceFreshness := .current }
  pure { store, details := Function.update s.details caseId details }

def maintainOrganization (s : DetailedStore) (tables : OrganizationTables)
    : Except Error DetailedStore := do
  let store ← s.store.maintainOrganization { tables with contexts := s.store.contexts }
  pure { s with store }

end DetailedStore

/--
Whether a case has more business objects than its workspace returns.
-/
def Store.hasMoreContexts (s : Store) (caseId : Nat) : Bool :=
  caseWorkspaceBusinessContextLimit < (s.contexts.filter fun context => context.caseId = caseId).length

/--
`workspace` is what the engine is given of a case whose rows are read as `case`.
-/
structure DecisionWorkspace.ReadFrom (workspace : DecisionWorkspace) (s : DetailedStore) (caseId : Nat)
    (found : CaseWorkspace) : Prop where
  read : s.store.getWorkspace caseId = some found
  casePublicId : workspace.casePublicId = found.case.publicId
  externalReference : some workspace.externalReference = found.case.externalReference
  category : workspace.category = found.case.category
  businessContexts : workspace.businessContexts = found.businessContexts
  hasMore : workspace.hasMore = s.store.hasMoreContexts caseId
  risk : workspace.risk = (s.details caseId).risk
  impactAmount : workspace.impactAmount = (s.details caseId).impactAmount
  impactCurrency : workspace.impactCurrency = (s.details caseId).impactCurrency
  sourceFreshness : workspace.sourceFreshness = (s.details caseId).sourceFreshness
  customerName : workspace.customerName = (s.details caseId).customerName
  customerTier : workspace.customerTier = (s.details caseId).customerTier

variable [Digest]

def detailedService : Machine DetailedStore DetailedCommand Error Output where
  step s command :=
    match command with
    | .openCase case details contexts => pure (s.openCase case details contexts, .done)
    | .appendMessage caseId => do
      let s ← s.appendMessage caseId
      pure (s, .done)
    | .maintainOrganization tables => do
      let s ← s.maintainOrganization tables
      pure (s, .done)
    | .perform command _ => do
      let (store, output) ← s.store.perform command
      pure ({ s with store }, output)

/--
The document whose digest is the input fingerprint of the deterministic engine.
-/
def CaseWorkspace.decisionInput (workspace : CaseWorkspace) (evidence : EvidenceRetrievalResult)
    : Value :=
  .obj [
    ("case_id", .str workspace.case.publicId),
    ("case_version", .num workspace.case.version),
    ("category", .str workspace.case.category.value),
    ("request", .str workspace.case.requestSummary),
    ("context_fingerprint", .str (combinedContextFingerprint workspace.businessContexts)),
    ("evidence_fingerprint", .str (combinedEvidenceFingerprint evidence)),
    ("policy_status", .str evidence.status.value),
    ("model_version", .str deterministicDecisionEngine.modelVersion),
    ("prompt_version", .str deterministicDecisionEngine.promptVersion),
    ("graph_version", .str deterministicDecisionEngine.graphVersion),
    ("risk_rule_version", .str deterministicDecisionEngine.riskRuleVersion)
  ]

def CaseWorkspace.inputFingerprint (workspace : CaseWorkspace) (evidence : EvidenceRetrievalResult)
    : String :=
  decisionInputFingerprint workspace.case evidence
    (combinedContextFingerprint workspace.businessContexts) (combinedEvidenceFingerprint evidence)
    deterministicDecisionEngine

theorem CaseWorkspace.inputFingerprint_eq (workspace : CaseWorkspace)
    (evidence : EvidenceRetrievalResult)
    : workspace.inputFingerprint evidence = Digest.hash (workspace.decisionInput evidence) := by
  rfl

end CaseResolution
