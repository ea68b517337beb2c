import CaseResolution.Domain.Error
import CaseResolution.Domain.Policies
import Mathlib.Data.Rat.Defs

/-!
This module contains what a decision engine reads of a case and what it makes of it, with the bounds
that every value of an analysis is checked against when it is built.
-/

namespace CaseResolution

open Guard

inductive CaseRisk where
  | low
  | medium
  | high
deriving DecidableEq

def CaseRisk.value : CaseRisk → String
  | .low => "low"
  | .medium => "medium"
  | .high => "high"

def isCurrencyCode (code : String) : Bool :=
  code.length = 3 ∧ code.toList.all fun c => 'A' ≤ c ∧ c ≤ 'Z'

/--
An amount of at least zero and a currency code, or neither.
-/
def ImpactComplete (amount : Option Rat) (currency : Option String) : Prop :=
  (∀ a ∈ amount, 0 ≤ a) ∧ (∀ code ∈ currency, isCurrencyCode code = true)
    ∧ amount.isNone = currency.isNone

instance (amount : Option Rat) (currency : Option String) : Decidable (ImpactComplete amount currency) :=
  inferInstanceAs (Decidable (_ ∧ _))

/--
The bounds of the texts a business object is created with.
-/
structure BusinessObjectSnapshot.Bounded (context : BusinessObjectSnapshot) : Prop where
  publicId : 1 ≤ context.publicId.length ∧ context.publicId.length ≤ 64
  label : 1 ≤ context.label.length ∧ context.label.length ≤ 300
  source : 1 ≤ context.source.length ∧ context.source.length ≤ 100
  sourceReference : 1 ≤ context.sourceReference.length ∧ context.sourceReference.length ≤ 200
  status : 1 ≤ context.status.length ∧ context.status.length ≤ 100

/--
A case with its customer and its newest business objects, within the bounds they are created with.
`hasMore` says that there are further business objects. No list holds 2 ^ 63 elements.
-/
structure DecisionWorkspace where
  casePublicId : String
  externalReference : String
  category : CaseCategory
  risk : CaseRisk
  impactAmount : Option Rat
  impactCurrency : Option String
  sourceFreshness : SourceFreshness
  customerName : String
  customerTier : CustomerTier
  businessContexts : List BusinessObjectSnapshot
  hasMore : Bool
  casePublicId_length : casePublicId.length ≤ 64
  externalReference_length : 1 ≤ externalReference.length ∧ externalReference.length ≤ 200
  impact_complete : ImpactComplete impactAmount impactCurrency
  customerName_length : 1 ≤ customerName.length ∧ customerName.length ≤ 200
  contexts_bounded : ∀ context ∈ businessContexts, context.Bounded
  contexts_length : businessContexts.length < 2 ^ 63

/--
What retrieval found, with the reason it gives.
-/
structure PolicyEvidence extends EvidenceRetrievalResult where
  reason : String

/--
The check of a text against the bounds of a model's field.
-/
def bounded (field : String) (least most : Nat) (text : String) : Except Error Unit :=
  ensure (least ≤ text.length ∧ text.length ≤ most) (.valueError field)

inductive CheckpointStatus where
  | completed
  | abstained
deriving DecidableEq

inductive ProposalConfidence where
  | high
  | medium
  | low
deriving DecidableEq

inductive RiskOutcome where
  | passed
  | requiresReview
  | informationNeeded
  | blocked
deriving DecidableEq

def RiskOutcome.value : RiskOutcome → String
  | .passed => "passed"
  | .requiresReview => "requires_review"
  | .informationNeeded => "information_needed"
  | .blocked => "blocked"

structure VerifiedFact where
  id : String
  statement : String
  source : String
  verifiedAt : Instant
deriving DecidableEq

def VerifiedFact.validate (fact : VerifiedFact) : Except Error VerifiedFact := do
  bounded "VerifiedFact.id" 1 64 fact.id
  bounded "VerifiedFact.statement" 1 1000 fact.statement
  bounded "VerifiedFact.source" 1 300 fact.source
  pure fact

structure InformationGap where
  id : String
  label : String
  description : String
  blocking : Bool
deriving DecidableEq

def InformationGap.validate (gap : InformationGap) : Except Error InformationGap := do
  bounded "InformationGap.id" 1 64 gap.id
  bounded "InformationGap.label" 1 300 gap.label
  bounded "InformationGap.description" 1 1000 gap.description
  pure gap

def DecisionRiskCheck.validate (risk : DecisionRiskCheck) : Except Error DecisionRiskCheck := do
  bounded "DecisionRiskCheck.id" 1 64 risk.id
  bounded "DecisionRiskCheck.label" 1 300 risk.label
  bounded "DecisionRiskCheck.explanation" 1 1000 risk.explanation
  pure risk

/--
A proposed action with what it means to the reader of a brief.
-/
structure DescribedAction extends ProposedActionDraft where
  label : String
  impactAmount : Option Rat
  impactCurrency : Option String
  expectedOutcome : String
deriving DecidableEq

def DescribedAction.validate (action : DescribedAction) : Except Error DescribedAction := do
  bounded "ProposedActionDraft.type" 1 100 action.type
  bounded "ProposedActionDraft.label" 1 300 action.label
  ensure (ImpactComplete action.impactAmount action.impactCurrency)
    (.valueError "impact_amount and impact_currency must be supplied together")
  bounded "ProposedActionDraft.expected_outcome" 1 1000 action.expectedOutcome
  pure action

def SuggestedResponseDraft.validate (draft : SuggestedResponseDraft)
    : Except Error SuggestedResponseDraft := do
  bounded "SuggestedResponseDraft.subject" 1 300 draft.subject
  bounded "SuggestedResponseDraft.body" 1 10000 draft.body
  pure draft

structure AnalysisCheckpointDraft where
  sequence : Nat
  step : String
  status : CheckpointStatus
  summary : String
  inputFingerprint : String
  outputFingerprint : String
deriving DecidableEq

def AnalysisCheckpointDraft.validate (checkpoint : AnalysisCheckpointDraft)
    : Except Error AnalysisCheckpointDraft := do
  ensure (1 ≤ checkpoint.sequence) (.valueError "AnalysisCheckpointDraft.sequence")
  bounded "AnalysisCheckpointDraft.step" 1 64 checkpoint.step
  bounded "AnalysisCheckpointDraft.summary" 1 1000 checkpoint.summary
  bounded "AnalysisCheckpointDraft.input_fingerprint" 64 64 checkpoint.inputFingerprint
  bounded "AnalysisCheckpointDraft.output_fingerprint" 64 64 checkpoint.outputFingerprint
  pure checkpoint

/--
A decision analysis with all of its parts.
-/
structure EngineAnalysis where
  status : AnalysisStatus
  policyStatus : EvidenceRetrievalStatus
  facts : List VerifiedFact
  missingInformation : List InformationGap
  risks : List DecisionRiskCheck
  outcome : String
  impactAmount : Option Rat
  impactCurrency : Option String
  confidence : ProposalConfidence
  uncertainty : String
  rationale : String
  state : DecisionProposalState
  proposedActions : List DescribedAction
  responseDraft : SuggestedResponseDraft
  checkpoints : List AnalysisCheckpointDraft
  riskRuleVersion : String
  modelVersion : String
  promptVersion : String
  graphVersion : String
deriving DecidableEq

def EngineAnalysis.validate (analysis : EngineAnalysis) : Except Error EngineAnalysis := do
  bounded "DecisionAnalysis.outcome" 1 500 analysis.outcome
  ensure (ImpactComplete analysis.impactAmount analysis.impactCurrency)
    (.valueError "impact_amount and impact_currency must be supplied together")
  bounded "DecisionAnalysis.uncertainty" 1 1000 analysis.uncertainty
  bounded "DecisionAnalysis.rationale" 1 2000 analysis.rationale
  ensure (analysis.checkpoints ≠ []) (.valueError "DecisionAnalysis.checkpoints")
  bounded "DecisionAnalysis.risk_rule_version" 1 100 analysis.riskRuleVersion
  bounded "DecisionAnalysis.model_version" 1 100 analysis.modelVersion
  bounded "DecisionAnalysis.prompt_version" 1 100 analysis.promptVersion
  bounded "DecisionAnalysis.graph_version" 1 100 analysis.graphVersion
  pure analysis

/--
What is read again of an analysis once its brief is stored.
-/
def EngineAnalysis.toDecisionAnalysis (analysis : EngineAnalysis) : DecisionAnalysis where
  status := analysis.status
  policyStatus := analysis.policyStatus
  risks := analysis.risks
  state := analysis.state
  proposedActions := analysis.proposedActions.map fun action => action.toProposedActionDraft
  responseDraft := analysis.responseDraft
  modelVersion := analysis.modelVersion
  promptVersion := analysis.promptVersion
  graphVersion := analysis.graphVersion
  riskRuleVersion := analysis.riskRuleVersion

/--
`approval_is_safe` on the brief of an analysis.
-/
def DecisionAnalysis.approvalIsSafe (analysis : DecisionAnalysis) : Bool :=
  analysis.policyStatus = .relevant
    ∧ analysis.state = .readyForReview
    ∧ analysis.responseDraft.status ≠ .blocked
    ∧ analysis.risks.all fun risk =>
      risk.outcome = RiskOutcome.passed.value ∨ risk.outcome = RiskOutcome.requiresReview.value

end CaseResolution
