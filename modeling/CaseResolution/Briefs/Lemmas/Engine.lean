import CaseResolution.Briefs.Impl.Engine

/-!
This module contains what the decision engine gives for a case when no text it builds exceeds the bound
of its field, and that it gives nothing otherwise.
-/

namespace CaseResolution

open Guard

/--
The text has a length a model's field allows.
-/
def Fits (least most : Nat) (text : String) : Prop :=
  least ≤ text.length ∧ text.length ≤ most

instance (least most : Nat) (text : String) : Decidable (Fits least most text) :=
  inferInstanceAs (Decidable (_ ∧ _))

theorem fits_literal {least most : Nat} {characters : List Char}
    (h : least ≤ characters.length ∧ characters.length ≤ most)
    : Fits least most (String.ofList characters) := by
  unfold Fits
  rw [String.length_ofList]
  exact h

theorem fits_literals {least most : Nat} {first second : List Char}
    (h : least ≤ first.length + second.length ∧ first.length + second.length ≤ most)
    : Fits least most (String.ofList first ++ String.ofList second) := by
  unfold Fits
  rw [String.length_append, String.length_ofList, String.length_ofList]
  exact h

theorem bounded_bind_eq_ok {α : Type} {field text : String} {least most : Nat}
    {f : Unit → Except Error α} {a : α}
    : (bounded field least most text >>= f) = .ok a ↔ Fits least most text ∧ f () = .ok a :=
  ensure_bind_eq_ok

/-!
The bounds of the parts of an analysis.
-/

structure VerifiedFact.Bounded (fact : VerifiedFact) : Prop where
  id : Fits 1 64 fact.id
  statement : Fits 1 1000 fact.statement
  source : Fits 1 300 fact.source

theorem VerifiedFact.validate_eq_ok (fact fact' : VerifiedFact)
    : fact.validate = .ok fact' ↔ fact.Bounded ∧ fact = fact' := by
  simp only [validate, bounded_bind_eq_ok, pure_eq_ok]
  constructor
  . rintro ⟨hid, hstatement, hsource, heq⟩
    exact ⟨⟨hid, hstatement, hsource⟩, heq⟩
  . rintro ⟨h, heq⟩
    exact ⟨h.id, h.statement, h.source, heq⟩

structure InformationGap.Bounded (gap : InformationGap) : Prop where
  id : Fits 1 64 gap.id
  label : Fits 1 300 gap.label
  description : Fits 1 1000 gap.description

theorem InformationGap.validate_eq_ok (gap gap' : InformationGap)
    : gap.validate = .ok gap' ↔ gap.Bounded ∧ gap = gap' := by
  simp only [validate, bounded_bind_eq_ok, pure_eq_ok]
  constructor
  . rintro ⟨hid, hlabel, hdescription, heq⟩
    exact ⟨⟨hid, hlabel, hdescription⟩, heq⟩
  . rintro ⟨h, heq⟩
    exact ⟨h.id, h.label, h.description, heq⟩

structure DecisionRiskCheck.Bounded (risk : DecisionRiskCheck) : Prop where
  id : Fits 1 64 risk.id
  label : Fits 1 300 risk.label
  explanation : Fits 1 1000 risk.explanation

theorem DecisionRiskCheck.validate_eq_ok (risk risk' : DecisionRiskCheck)
    : risk.validate = .ok risk' ↔ risk.Bounded ∧ risk = risk' := by
  simp only [validate, bounded_bind_eq_ok, pure_eq_ok]
  constructor
  . rintro ⟨hid, hlabel, hexplanation, heq⟩
    exact ⟨⟨hid, hlabel, hexplanation⟩, heq⟩
  . rintro ⟨h, heq⟩
    exact ⟨h.id, h.label, h.explanation, heq⟩

structure DescribedAction.Bounded (action : DescribedAction) : Prop where
  type : Fits 1 100 action.type
  label : Fits 1 300 action.label
  impact : ImpactComplete action.impactAmount action.impactCurrency
  expectedOutcome : Fits 1 1000 action.expectedOutcome

theorem DescribedAction.validate_eq_ok (action action' : DescribedAction)
    : action.validate = .ok action' ↔ action.Bounded ∧ action = action' := by
  simp only [validate, bounded_bind_eq_ok, ensure_bind_eq_ok, pure_eq_ok]
  constructor
  . rintro ⟨htype, hlabel, himpact, houtcome, heq⟩
    exact ⟨⟨htype, hlabel, himpact, houtcome⟩, heq⟩
  . rintro ⟨h, heq⟩
    exact ⟨h.type, h.label, h.impact, h.expectedOutcome, heq⟩

structure SuggestedResponseDraft.Bounded (draft : SuggestedResponseDraft) : Prop where
  subject : Fits 1 300 draft.subject
  body : Fits 1 10000 draft.body

theorem SuggestedResponseDraft.validate_eq_ok (draft draft' : SuggestedResponseDraft)
    : draft.validate = .ok draft' ↔ draft.Bounded ∧ draft = draft' := by
  simp only [validate, bounded_bind_eq_ok, pure_eq_ok]
  constructor
  . rintro ⟨hsubject, hbody, heq⟩
    exact ⟨⟨hsubject, hbody⟩, heq⟩
  . rintro ⟨h, heq⟩
    exact ⟨h.subject, h.body, heq⟩

structure AnalysisCheckpointDraft.Bounded (checkpoint : AnalysisCheckpointDraft) : Prop where
  sequence : 1 ≤ checkpoint.sequence
  step : Fits 1 64 checkpoint.step
  summary : Fits 1 1000 checkpoint.summary
  inputFingerprint : Fits 64 64 checkpoint.inputFingerprint
  outputFingerprint : Fits 64 64 checkpoint.outputFingerprint

theorem AnalysisCheckpointDraft.validate_eq_ok (checkpoint checkpoint' : AnalysisCheckpointDraft)
    : checkpoint.validate = .ok checkpoint' ↔ checkpoint.Bounded ∧ checkpoint = checkpoint' := by
  simp only [validate, bounded_bind_eq_ok, ensure_bind_eq_ok, pure_eq_ok]
  constructor
  . rintro ⟨hsequence, hstep, hsummary, hinput, houtput, heq⟩
    exact ⟨⟨hsequence, hstep, hsummary, hinput, houtput⟩, heq⟩
  . rintro ⟨h, heq⟩
    exact ⟨h.sequence, h.step, h.summary, h.inputFingerprint, h.outputFingerprint, heq⟩

structure EngineAnalysis.Bounded (analysis : EngineAnalysis) : Prop where
  outcome : Fits 1 500 analysis.outcome
  impact : ImpactComplete analysis.impactAmount analysis.impactCurrency
  uncertainty : Fits 1 1000 analysis.uncertainty
  rationale : Fits 1 2000 analysis.rationale
  checkpoints : analysis.checkpoints ≠ []
  riskRuleVersion : Fits 1 100 analysis.riskRuleVersion
  modelVersion : Fits 1 100 analysis.modelVersion
  promptVersion : Fits 1 100 analysis.promptVersion
  graphVersion : Fits 1 100 analysis.graphVersion

theorem EngineAnalysis.validate_eq_ok (analysis analysis' : EngineAnalysis)
    : analysis.validate = .ok analysis' ↔ analysis.Bounded ∧ analysis = analysis' := by
  simp only [validate, bounded_bind_eq_ok, ensure_bind_eq_ok, pure_eq_ok]
  constructor
  . rintro ⟨houtcome, himpact, huncertainty, hrationale, hcheckpoints, hrisk, hmodel, hprompt,
      hgraph, heq⟩
    exact ⟨⟨houtcome, himpact, huncertainty, hrationale, hcheckpoints, hrisk, hmodel, hprompt,
      hgraph⟩, heq⟩
  . rintro ⟨h, heq⟩
    exact ⟨h.outcome, h.impact, h.uncertainty, h.rationale, h.checkpoints, h.riskRuleVersion,
      h.modelVersion, h.promptVersion, h.graphVersion, heq⟩

namespace DecisionWorkspace

variable [Digest] (workspace : DecisionWorkspace)

/-!
What the parts of an analysis are where they are within their bounds.
-/

theorem facts_eq_ok {facts : List VerifiedFact}
    : workspace.facts = .ok facts
      ↔ (∀ fact ∈ workspace.businessContexts.flatMap workspace.contextFacts, fact.Bounded)
        ∧ workspace.businessContexts.flatMap workspace.contextFacts = facts :=
  mapM_check_eq_ok VerifiedFact.validate_eq_ok

def gaps (policyStatus : EvidenceRetrievalStatus) : List InformationGap :=
  Rows.firstBy InformationGap.id (workspace.foundGaps policyStatus)

theorem informationGaps_eq_ok {policyStatus : EvidenceRetrievalStatus}
    {gaps : List InformationGap}
    : workspace.informationGaps policyStatus = .ok gaps
      ↔ (∀ gap ∈ workspace.foundGaps policyStatus, gap.Bounded)
        ∧ workspace.gaps policyStatus = gaps := by
  unfold informationGaps DecisionWorkspace.gaps
  rw [bind_eq_ok]
  constructor
  . intro ⟨found, hfound, hgaps⟩
    obtain ⟨hbounded, rfl⟩ := (mapM_check_eq_ok InformationGap.validate_eq_ok).mp hfound
    exact ⟨hbounded, pure_eq_ok.mp hgaps⟩
  . intro ⟨hbounded, hgaps⟩
    exact ⟨_, (mapM_check_eq_ok InformationGap.validate_eq_ok).mpr ⟨hbounded, rfl⟩,
      pure_eq_ok.mpr hgaps⟩

def risks (policyStatus : EvidenceRetrievalStatus) (blocking : List InformationGap)
    : List DecisionRiskCheck :=
  [workspace.policyRisk policyStatus, workspace.freshnessRisk, workspace.completenessRisk blocking,
    workspace.authorityRisk]

theorem riskChecks_eq_ok {policyStatus : EvidenceRetrievalStatus}
    {blocking : List InformationGap} {risks : List DecisionRiskCheck}
    : workspace.riskChecks policyStatus blocking = .ok risks
      ↔ (∀ risk ∈ workspace.risks policyStatus blocking, risk.Bounded)
        ∧ workspace.risks policyStatus blocking = risks :=
  mapM_check_eq_ok DecisionRiskCheck.validate_eq_ok

omit [Digest] in
def proposedActions (state : DecisionProposalState) (gaps : List InformationGap)
    (impactAmount : Option Rat) (impactCurrency : Option String) : List DescribedAction :=
  if state = .informationNeeded then
    [requestInformation gaps]
  else
    [workspace.resolve impactAmount impactCurrency]

omit [Digest] in
theorem actions_eq_ok {state : DecisionProposalState} {gaps : List InformationGap}
    {impactAmount : Option Rat} {impactCurrency : Option String} {actions : List DescribedAction}
    : workspace.actions state gaps impactAmount impactCurrency = .ok actions
      ↔ (∀ action ∈ workspace.proposedActions state gaps impactAmount impactCurrency,
          action.Bounded)
        ∧ workspace.proposedActions state gaps impactAmount impactCurrency = actions := by
  unfold DecisionWorkspace.actions proposedActions
  split <;> exact mapM_check_eq_ok DescribedAction.validate_eq_ok

omit [Digest] in
def customerResponse (state : DecisionProposalState) (blocking : List InformationGap)
    (actions : List DescribedAction) : SuggestedResponseDraft :=
  if state = .informationNeeded then
    {
      subject := informationNeededSubject workspace.category
      body := workspace.informationNeededBody blocking
      status := .blocked
    }
  else
    {
      subject := reviewSubject workspace.category
      body := workspace.reviewBody actions.head?
      status := .ready
    }

omit [Digest] in
theorem draftCustomerResponse_eq_ok {state : DecisionProposalState}
    {blocking : List InformationGap} {actions : List DescribedAction}
    {response : SuggestedResponseDraft}
    : workspace.draftCustomerResponse state blocking actions = .ok response
      ↔ (workspace.customerResponse state blocking actions).Bounded
        ∧ workspace.customerResponse state blocking actions = response := by
  unfold draftCustomerResponse customerResponse
  split <;> exact SuggestedResponseDraft.validate_eq_ok _ _

end DecisionWorkspace

theorem checkpoints_eq_ok [Digest] {inputFingerprint : String} {evidence : PolicyEvidence}
    {facts : List VerifiedFact} {gaps : List InformationGap} {risks : List DecisionRiskCheck}
    {outcome : String} {status : AnalysisStatus} {drafts : List AnalysisCheckpointDraft}
    : checkpoints inputFingerprint evidence facts gaps risks outcome status = .ok drafts
      ↔ (∀ draft ∈ chainCheckpoints inputFingerprint 1
            (analysisSteps evidence facts gaps risks outcome status), draft.Bounded)
        ∧ chainCheckpoints inputFingerprint 1
            (analysisSteps evidence facts gaps risks outcome status) = drafts :=
  mapM_check_eq_ok AnalysisCheckpointDraft.validate_eq_ok

/--
The keys of the gaps with their labels.
-/
def gapNames : List (String × String) :=
  [
    ("complete-business-context", "Complete business records"),
    ("applicable-policy", "Applicable policy"),
    ("current-source-context", "Current source context"),
    ("second-payment-reference", "Second payment reference"),
    ("delivery-status", "Service delivery status"),
    ("identity-verification-conflict", "Identity verification"),
    ("identity-verification", "Identity verification"),
    ("service-outcome", "Service outcome")
  ]

namespace DecisionWorkspace

variable [Digest] (workspace : DecisionWorkspace)

/--
Every gap that is found has one of the keys, and the label of that key.
-/
theorem foundGaps_named {policyStatus : EvidenceRetrievalStatus} {gap : InformationGap}
    (h : gap ∈ workspace.foundGaps policyStatus)
    : ∃ name ∈ gapNames, ∃ description, gap = workspace.gap name.1 name.2 description := by
  have named (key label description : String) (hname : (key, label) ∈ gapNames)
      (heq : gap = workspace.gap key label description)
      : ∃ name ∈ gapNames, ∃ description, gap = workspace.gap name.1 name.2 description :=
    ⟨(key, label), hname, description, heq⟩
  simp only [foundGaps, completenessGaps, policyGaps, sourceGaps, List.mem_append,
    List.mem_ite_nil_right, List.mem_singleton] at h
  rcases h with ((⟨_, heq⟩ | ⟨_, heq⟩) | ⟨_, heq⟩) | h
  . exact named _ _ _ (by decide) heq
  . exact named _ _ _ (by decide) heq
  . exact named _ _ _ (by decide) heq
  . unfold categoryGaps at h
    split at h
    . rw [List.mem_ite_nil_right, List.mem_singleton] at h
      exact named _ _ _ (by decide) h.2
    . rw [List.mem_ite_nil_right, List.mem_singleton] at h
      exact named _ _ _ (by decide) h.2
    . split at h
      . rw [List.mem_singleton] at h
        exact named _ _ _ (by decide) h
      . rw [List.mem_ite_nil_right, List.mem_singleton] at h
        exact named _ _ _ (by decide) h.2
    . rw [List.mem_ite_nil_right, List.mem_singleton] at h
      exact named _ _ _ (by decide) h.2

theorem filter_blocking_gaps (policyStatus : EvidenceRetrievalStatus)
    : (workspace.gaps policyStatus).filter InformationGap.blocking
      = workspace.gaps policyStatus := by
  rw [List.filter_eq_self]
  intro gap hgap
  obtain ⟨_, _, _, rfl⟩ := workspace.foundGaps_named (Rows.mem_of_mem_firstBy hgap)
  rfl

/--
What the engine gives for a case if every part of it is within its bounds.
-/
def analysis (evidence : PolicyEvidence) (inputFingerprint : String) : EngineAnalysis :=
  let facts := workspace.businessContexts.flatMap workspace.contextFacts
  let gaps := workspace.gaps evidence.status
  let risks := workspace.risks evidence.status gaps
  let state := decisionState evidence.status gaps
  let outcome := workspace.outcome state evidence.status
  let impactAmount := if workspace.claimsImpact state then workspace.impactAmount else none
  let impactCurrency := if workspace.claimsImpact state then workspace.impactCurrency else none
  let actions := workspace.proposedActions state gaps impactAmount impactCurrency
  let status : AnalysisStatus := if evidence.status = .relevant then .completed else .abstained
  {
    status
    policyStatus := evidence.status
    facts
    missingInformation := gaps
    risks
    outcome
    impactAmount
    impactCurrency
    confidence := workspace.confidence evidence.status gaps
    uncertainty := workspace.uncertainty evidence.status gaps
    rationale := rationale evidence.status facts gaps risks
    state
    proposedActions := actions
    responseDraft := workspace.customerResponse state gaps actions
    checkpoints :=
      chainCheckpoints inputFingerprint 1 (analysisSteps evidence facts gaps risks outcome status)
    riskRuleVersion := deterministicDecisionEngine.riskRuleVersion
    modelVersion := deterministicDecisionEngine.modelVersion
    promptVersion := deterministicDecisionEngine.promptVersion
    graphVersion := deterministicDecisionEngine.graphVersion
  }

/--
No part of the analysis of a case exceeds its bounds. The gaps are checked before they are
deduplicated.
-/
structure Accepted (evidence : PolicyEvidence) (inputFingerprint : String) : Prop where
  facts : ∀ fact ∈ (workspace.analysis evidence inputFingerprint).facts, fact.Bounded
  gaps : ∀ gap ∈ workspace.foundGaps evidence.status, gap.Bounded
  risks : ∀ risk ∈ (workspace.analysis evidence inputFingerprint).risks, risk.Bounded
  actions : ∀ action ∈ (workspace.analysis evidence inputFingerprint).proposedActions,
    action.Bounded
  response : (workspace.analysis evidence inputFingerprint).responseDraft.Bounded
  checkpoints : ∀ draft ∈ (workspace.analysis evidence inputFingerprint).checkpoints,
    draft.Bounded
  whole : (workspace.analysis evidence inputFingerprint).Bounded

theorem analyze_eq_ok {evidence : PolicyEvidence} {inputFingerprint : String} {a : EngineAnalysis}
    : workspace.analyze evidence inputFingerprint = .ok a
      ↔ workspace.Accepted evidence inputFingerprint
        ∧ workspace.analysis evidence inputFingerprint = a := by
  unfold analyze
  simp only [bind_eq_ok, facts_eq_ok, informationGaps_eq_ok, riskChecks_eq_ok, actions_eq_ok,
    draftCustomerResponse_eq_ok, checkpoints_eq_ok, EngineAnalysis.validate_eq_ok, and_assoc,
    exists_and_left, exists_eq_left', filter_blocking_gaps]
  constructor
  . rintro ⟨hfacts, hgaps, hrisks, hactions, hresponse, hcheckpoints, hwhole, heq⟩
    exact ⟨⟨hfacts, hgaps, hrisks, hactions, hresponse, hcheckpoints, hwhole⟩, heq⟩
  . rintro ⟨h, heq⟩
    exact ⟨h.facts, h.gaps, h.risks, h.actions, h.response, h.checkpoints, h.whole, heq⟩

end DecisionWorkspace

namespace Sample

def fixedWidth (width : Nat) (text : String) : String :=
  String.ofList ((text.toList.leftpad width '0').take width)

theorem fixedWidth_length (width : Nat) (text : String)
    : (fixedWidth width text).length = width := by
  unfold fixedWidth
  rw [String.length_ofList, List.length_take, List.length_leftpad]
  omega

/--
The checksum with as many digits as the digests it stands for.
-/
@[reducible]
def widthDigest : Digest where
  text := fun text => fixedWidth 64 (Digest.checksum.text text)
  short := fun text => fixedWidth 16 (Digest.checksum.short text)
  hash := fun value => fixedWidth 64 (Digest.checksum.hash value)

def settledPayment (reference : String) (freshness : SourceFreshness) : BusinessObjectSnapshot where
  caseId := 0
  publicId := reference
  objectType := "payment"
  label := "Card payment"
  source := "Billing"
  sourceReference := reference
  status := "settled"
  fields := [("amount", "129.00"), ("currency", "EUR")]
  capturedAt := 0
  sourceFreshness := freshness
  sourceCheckedAt := none
  version := 1

theorem settledPayment_bounded {reference : String} (freshness : SourceFreshness)
    (h : 1 ≤ reference.length ∧ reference.length ≤ 64)
    : (settledPayment reference freshness).Bounded where
  publicId := h
  label := by
    change Fits 1 300 "Card payment"
    decide
  source := by
    change Fits 1 100 "Billing"
    decide
  sourceReference := ⟨h.1, Nat.le_trans h.2 (by decide)⟩
  status := by
    change Fits 1 100 "settled"
    decide

/--
A charge that was settled twice. The second record is as fresh as `freshness` says.
-/
def duplicateCharge (freshness : SourceFreshness) : DecisionWorkspace where
  casePublicId := "CS-1"
  externalReference := "REF-1"
  category := .billingDispute
  risk := .low
  impactAmount := some 129
  impactCurrency := some "EUR"
  sourceFreshness := .current
  customerName := "Ada"
  customerTier := .standard
  businessContexts := [settledPayment "PAY-1" .current, settledPayment "PAY-2" freshness]
  hasMore := false
  casePublicId_length := by decide
  externalReference_length := by decide
  impact_complete := by decide +kernel
  customerName_length := by decide
  contexts_bounded := by
    intro context hcontext
    rw [List.mem_cons, List.mem_singleton] at hcontext
    rcases hcontext with rfl | rfl
    . exact settledPayment_bounded .current (by decide)
    . exact settledPayment_bounded freshness (by decide)
  contexts_length := by simp

def publishedEvidence : PolicyEvidence where
  status := .relevant
  evidence := []
  reason := "Published policy evidence applies to this case."

def inputDigits : String :=
  String.ofList (List.replicate 64 '0')

end Sample

end CaseResolution
