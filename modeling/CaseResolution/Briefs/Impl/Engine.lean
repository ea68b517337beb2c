import CaseResolution.Briefs.Impl.Fingerprints
import CaseResolution.Domain.Analysis
import CaseResolution.Lib.Rows
import CaseResolution.Policies.Impl.Parser
import Mathlib.Data.List.Dedup

/-!
This module contains the deterministic decision engine: the facts, gaps and risks it reads off a case,
what it proposes from them and the reply it drafts to the customer.
-/

namespace CaseResolution

open Guard

def deterministicDecisionEngine : EngineVersions where
  modelVersion := "deterministic-decision-engine-v3"
  promptVersion := "decision-brief-rules-v2"
  graphVersion := "generic-decision-brief-v1"
  riskRuleVersion := "generic-risk-rules-v2"

/--
The words `str.lower` gives for the texts that are compared or built here, which are ASCII where it
matters.
-/
def lower (text : String) : String :=
  String.ofList (text.toList.map Char.toLower)

def confirmedOwnershipMatches : List String :=
  ["exact", "match", "matched", "verified"]

def factFieldLabels : List (String × String) :=
  [
    ("amount", "Amount"),
    ("currency", "Currency"),
    ("delivery_state", "Delivery state"),
    ("attempt_count", "Recorded payment attempts"),
    ("identity_check", "Identity check"),
    ("ownership_match", "Ownership match"),
    ("mfa_state", "Multi-factor authentication")
  ]

namespace BusinessObjectSnapshot

def factSource (context : BusinessObjectSnapshot) : String :=
  context.source ++ " / " ++ context.sourceReference

def statusStatement (context : BusinessObjectSnapshot) : String :=
  context.label ++ " is recorded with status " ++ context.status ++ "."

end BusinessObjectSnapshot

def fieldStatement (label value : String) : String :=
  label ++ ": " ++ value ++ "."

def policyGapDescription : EvidenceRetrievalStatus → String
  | .missing => "No published policy currently covers this case."
  | .inapplicable => "Published policies exist but do not match this case context."
  | .stale => "Matching policy versions are outside their effective dates."
  | .conflicting => "Published policies claim conflicting authority for this decision."
  | .relevant => "Published policy evidence is available."

def refreshDescription (labels : String) : String :=
  "Refresh " ++ labels ++ " before relying on the proposed outcome."

namespace DecisionWorkspace

variable [Digest] (workspace : DecisionWorkspace)

def contextFact (context : BusinessObjectSnapshot) (key statement : String) : VerifiedFact where
  id := stablePublicId "FCT" [workspace.casePublicId, context.publicId, key]
  statement := statement
  source := context.factSource
  verifiedAt := context.sourceCheckedAt.getD context.capturedAt

/--
The facts of one business object: its status, then the fields that have a label.
-/
def contextFacts (context : BusinessObjectSnapshot) : List VerifiedFact :=
  workspace.contextFact context "status" context.statusStatement
    :: factFieldLabels.filterMap fun (key, label) =>
      (context.fields.lookup key).map fun value =>
        workspace.contextFact context key (fieldStatement label value)

def facts : Except Error (List VerifiedFact) :=
  (workspace.businessContexts.flatMap workspace.contextFacts).mapM VerifiedFact.validate

def gap (key label description : String) : InformationGap where
  id := stablePublicId "GAP" [workspace.casePublicId, key]
  label := label
  description := description
  blocking := true

omit [Digest] in
def staleLabels : List String :=
  (workspace.businessContexts.filter fun context => context.sourceFreshness ≠ .current).map
    BusinessObjectSnapshot.label

omit [Digest] in
def settledPaymentReferences : List String :=
  ((workspace.businessContexts.filter fun context =>
    context.objectType = "payment" ∧ context.status = "settled").map
      BusinessObjectSnapshot.sourceReference).dedup

omit [Digest] in
def hasEligibleOrder : Bool :=
  workspace.businessContexts.any fun context =>
    context.objectType = "order" ∧ context.status = "unused"
      ∧ (context.fields.lookup "delivery_state").getD "" = "not_started"

omit [Digest] in
def hasConflictingOwnershipEvidence : Bool :=
  workspace.businessContexts.any fun context =>
    (context.fields.lookup "ownership_match").any fun value =>
      lower (String.ofList (PolicyParser.strip value.toList)) ∉ confirmedOwnershipMatches

omit [Digest] in
def hasVerifiedIdentity : Bool :=
  workspace.businessContexts.any fun context =>
    context.objectType = "account"
      ∧ (context.fields.lookup "identity_check").getD "" = "verified"

omit [Digest] in
def hasFailedService : Bool :=
  workspace.businessContexts.any fun context =>
    context.status ∈ ["failed", "incomplete", "not_delivered"]

def completenessGaps : List InformationGap :=
  if workspace.hasMore then
    [workspace.gap "complete-business-context" "Complete business records"
      ("This case has more business records than the decision workspace can safely evaluate at once. "
        ++ "Narrow or consolidate the relevant records before preparing a final resolution.")]
  else
    []

def policyGaps (policyStatus : EvidenceRetrievalStatus) : List InformationGap :=
  if policyStatus ≠ .relevant then
    [workspace.gap "applicable-policy" "Applicable policy" (policyGapDescription policyStatus)]
  else
    []

def sourceGaps : List InformationGap :=
  let stale := workspace.staleLabels
  if workspace.sourceFreshness ≠ .current ∨ stale ≠ [] then
    let labels := if stale ≠ [] then ", ".intercalate stale else "case source"
    [workspace.gap "current-source-context" "Current source context" (refreshDescription labels)]
  else
    []

def categoryGaps : List InformationGap :=
  match workspace.category with
  | .billingDispute =>
    if workspace.settledPaymentReferences.length < 2 then
      [workspace.gap "second-payment-reference" "Second payment reference"
        "Confirm a second settled payment reference before treating the charge as a duplicate."]
    else
      []
  | .refundRequest =>
    if ¬ workspace.hasEligibleOrder then
      [workspace.gap "delivery-status" "Service delivery status"
        "Confirm that service delivery has not started before proposing a refund."]
    else
      []
  | .accountAccess =>
    if workspace.hasConflictingOwnershipEvidence then
      [workspace.gap "identity-verification-conflict" "Identity verification"
        ("Resolve the conflicting ownership evidence through specialist review before starting "
          ++ "account recovery or changing an authentication setting.")]
    else if ¬ workspace.hasVerifiedIdentity then
      [workspace.gap "identity-verification" "Identity verification"
        "Complete the account ownership check before changing a recovery channel."]
    else
      []
  | .serviceException =>
    if ¬ workspace.hasFailedService then
      [workspace.gap "service-outcome" "Service outcome"
        "Confirm the failed or incomplete service outcome before proposing a correction."]
    else
      []

def foundGaps (policyStatus : EvidenceRetrievalStatus) : List InformationGap :=
  workspace.completenessGaps ++ workspace.policyGaps policyStatus ++ workspace.sourceGaps
    ++ workspace.categoryGaps

def informationGaps (policyStatus : EvidenceRetrievalStatus) : Except Error (List InformationGap) := do
  let gaps ← (workspace.foundGaps policyStatus).mapM InformationGap.validate
  pure (Rows.firstBy InformationGap.id gaps)

def riskCheck (key label : String) (outcome : RiskOutcome) (explanation : String)
    : DecisionRiskCheck where
  id := stablePublicId "RSK" [workspace.casePublicId, key]
  label := label
  outcome := outcome.value
  explanation := explanation

omit [Digest] in
def sourceCurrent : Bool :=
  workspace.sourceFreshness = .current
    ∧ workspace.businessContexts.all fun context => context.sourceFreshness = .current

omit [Digest] in
def requiresReview : Bool :=
  workspace.impactAmount.isSome
    ∨ workspace.customerTier = .vip ∨ workspace.customerTier = .enterprise
    ∨ workspace.category = .accountAccess
    ∨ workspace.risk = .high

def policyRisk (policyStatus : EvidenceRetrievalStatus) : DecisionRiskCheck :=
  if policyStatus = .relevant then
    workspace.riskCheck "policy-authority" "Policy authority" .passed
      "Published policy evidence supports this decision brief."
  else
    workspace.riskCheck "policy-authority" "Policy authority" .blocked
      ("Applicable published policy evidence is not available; no consequential action may "
        ++ "proceed.")

def freshnessRisk : DecisionRiskCheck :=
  if workspace.sourceCurrent then
    workspace.riskCheck "source-freshness" "Source freshness" .passed
      "Case and business context sources are current."
  else
    workspace.riskCheck "source-freshness" "Source freshness" .informationNeeded
      "One or more source snapshots must be refreshed."

def completenessRisk (blocking : List InformationGap) : DecisionRiskCheck :=
  if blocking ≠ [] then
    workspace.riskCheck "information-completeness" "Information completeness" .informationNeeded
      (toString blocking.length ++ " blocking information item(s) remain.")
  else
    workspace.riskCheck "information-completeness" "Information completeness" .passed
      "No blocking information gap was found by deterministic checks."

def authorityRisk : DecisionRiskCheck :=
  if workspace.requiresReview then
    workspace.riskCheck "human-authority" "Human authority" .requiresReview
      "Customer tier, financial impact, case risk, or account sensitivity requires review."
  else
    workspace.riskCheck "human-authority" "Human authority" .passed
      "No deterministic review trigger was found."

def riskChecks (policyStatus : EvidenceRetrievalStatus) (blocking : List InformationGap)
    : Except Error (List DecisionRiskCheck) :=
  [workspace.policyRisk policyStatus, workspace.freshnessRisk, workspace.completenessRisk blocking,
    workspace.authorityRisk].mapM DecisionRiskCheck.validate

omit [Digest] in
/--
How sure the engine is of what it proposes.
-/
def confidence (policyStatus : EvidenceRetrievalStatus) (blocking : List InformationGap)
    : ProposalConfidence :=
  if policyStatus ≠ .relevant ∨ blocking ≠ [] then
    .low
  else if workspace.risk = .low ∧ workspace.customerTier = .standard then
    .high
  else
    .medium

omit [Digest] in
def outcome (state : DecisionProposalState) (policyStatus : EvidenceRetrievalStatus) : String :=
  if policyStatus ≠ .relevant then
    "Pause the resolution until applicable policy is available"
  else if state = .informationNeeded then
    if workspace.category = .accountAccess ∧ workspace.hasConflictingOwnershipEvidence then
      "Escalate conflicting ownership evidence before account recovery"
    else
      match workspace.category with
      | .billingDispute => "Verify the second charge before a billing adjustment"
      | .refundRequest => "Confirm delivery status before a refund decision"
      | .accountAccess => "Complete identity verification before account recovery"
      | .serviceException => "Confirm the service failure before a correction"
  else
    match workspace.category with
    | .billingDispute => "Reverse the verified duplicate charge"
    | .refundRequest => "Approve refund for the unused service order"
    | .accountAccess => "Start verified account recovery"
    | .serviceException => "Approve the documented service correction"

omit [Digest] in
def requestInformation (gaps : List InformationGap) : DescribedAction where
  type := "request_information"
  label := "Request the missing information"
  parameters := [("items", "; ".intercalate (gaps.map InformationGap.label))]
  impactAmount := none
  impactCurrency := none
  expectedOutcome := "Blocking information is recorded before the decision is revised."
  reviewRequired := false

omit [Digest] in
/--
The type, the label and the expected outcome of what resolves a case of the category.
-/
def resolution : String × String × String :=
  match workspace.category with
  | .billingDispute =>
    ("reverse_duplicate_charge", "Reverse the duplicate charge",
      "The verified duplicate charge is reversed with an attributable reference.")
  | .refundRequest =>
    ("issue_refund", "Issue the approved refund",
      "The unused service order is refunded with an attributable reference.")
  | .accountAccess =>
    ("start_verified_recovery", "Start verified account recovery",
      "The verified owner receives a controlled recovery path.")
  | .serviceException =>
    ("apply_service_correction", "Apply the approved service correction",
      "The documented service failure is corrected with an attributable reference.")

omit [Digest] in
def resolve (impactAmount : Option Rat) (impactCurrency : Option String) : DescribedAction where
  type := workspace.resolution.1
  label := workspace.resolution.2.1
  parameters := [
    ("case_id", workspace.casePublicId),
    ("external_reference", workspace.externalReference)
  ]
  impactAmount := impactAmount
  impactCurrency := impactCurrency
  expectedOutcome := workspace.resolution.2.2
  reviewRequired := true

omit [Digest] in
def actions (state : DecisionProposalState) (gaps : List InformationGap)
    (impactAmount : Option Rat) (impactCurrency : Option String)
    : Except Error (List DescribedAction) :=
  if state = .informationNeeded then
    [requestInformation gaps].mapM DescribedAction.validate
  else
    [workspace.resolve impactAmount impactCurrency].mapM DescribedAction.validate

omit [Digest] in
def uncertainty (policyStatus : EvidenceRetrievalStatus) (blocking : List InformationGap)
    : String :=
  if policyStatus ≠ .relevant then
    policyGapDescription policyStatus
  else if blocking ≠ [] then
    "The outcome remains uncertain until: "
      ++ "; ".intercalate (blocking.map fun gap => lower gap.label) ++ "."
  else if workspace.risk = .high then
    "The evidence supports the outcome, but the high-risk case still requires human review."
  else
    "No blocking uncertainty was found; human review still governs the proposed action."

end DecisionWorkspace

def rationale (policyStatus : EvidenceRetrievalStatus) (facts : List VerifiedFact)
    (blocking : List InformationGap) (risks : List DecisionRiskCheck) : String :=
  let reviewCount := risks.countP fun risk => risk.outcome = RiskOutcome.requiresReview.value
  if policyStatus ≠ .relevant then
    "The brief abstains because applicable policy authority is not usable. "
      ++ "It records a safe next step without authorizing a customer-impacting action."
  else if blocking ≠ [] then
    toString facts.length ++ " source-backed fact(s) are recorded, but "
      ++ toString blocking.length
      ++ " blocking information item(s) prevent a final resolution."
  else
    toString facts.length
      ++ " source-backed fact(s) and published policy evidence support the proposed outcome. "
      ++ toString reviewCount ++ " deterministic authority check(s) require human review."

/-!
The reply that is drafted to the customer.
-/

def informationNeededSubject : CaseCategory → String
  | .billingDispute => "Information needed for your billing case"
  | .refundRequest => "Information needed for your refund request"
  | .accountAccess => "Information needed for account recovery"
  | .serviceException => "Information needed for your service case"

def reviewSubject : CaseCategory → String
  | .billingDispute => "Update on your billing case"
  | .refundRequest => "Update on your refund request"
  | .accountAccess => "Update on your account recovery request"
  | .serviceException => "Update on your service case"

def internalCheckNote (labels : List String) : Option String :=
  let notes :=
    (if "Current source context" ∈ labels then ["refreshing the current source records"] else [])
      ++ (if "Applicable policy" ∈ labels then
        ["confirming the rule that applies to this case"] else [])
      ++ (if "Complete business records" ∈ labels then
        ["consolidating the relevant business records"] else [])
  if notes = [] then
    none
  else
    some ("Our team is also " ++ " and ".intercalate notes ++ ".")

def reviewLanguage (action : Option DescribedAction) : String × String × String :=
  match action with
  | none =>
    ("We reviewed the available records for your case.",
      "A proposed resolution has been prepared for review.",
      "No customer-impacting action has been taken yet.")
  | some action =>
    match action.type with
    | "reverse_duplicate_charge" =>
      ("We verified two settled payment records for this case.",
        "A reversal of the duplicate charge has been prepared for review.",
        "No reversal has been made yet.")
    | "issue_refund" =>
      ("The records show that the service order is unused and delivery has not started.",
        "A refund has been prepared for review.",
        "The refund remains pending and has not been issued.")
    | "start_verified_recovery" =>
      ("The account ownership check is complete.",
        "A controlled account recovery path has been prepared for review.",
        "No recovery-channel change has been made yet.")
    | "apply_service_correction" =>
      ("The records confirm the failed or incomplete service outcome.",
        "A service correction has been prepared for review.",
        "No correction has been applied yet.")
    | _ =>
      ("We reviewed the available records for your case.",
        "The proposed next step, " ++ lower action.label ++ ", has been prepared for review.",
        "No customer-impacting action has been taken yet.")

namespace DecisionWorkspace

variable (workspace : DecisionWorkspace)

def billingRecordObservation : String :=
  let paymentStatuses :=
    (workspace.businessContexts.filter fun context => context.objectType = "payment").map
      fun context => lower context.status
  let settledCount := paymentStatuses.count "settled"
  let recordedCount := paymentStatuses.countP fun status => status ∈ ["captured", "settled"]
  if settledCount = 1 then
    "Our records currently show one settled payment, not two settled charges."
  else if recordedCount = 1 then
    "Our records currently show one captured payment record, not two settled charges."
  else if 1 < recordedCount then
    "Our records show multiple payment records, but fewer than two are confirmed as settled charges."
  else
    "Our records do not yet confirm two settled charges."

/--
What is missing, and what the customer is asked for.
-/
def informationRequest (blocking : List InformationGap) : String × String :=
  let labels := blocking.map InformationGap.label
  if workspace.category = .billingDispute ∧ "Second payment reference" ∈ labels then
    (workspace.billingRecordObservation,
      "Please send the second settled payment reference, or an updated statement showing both settled "
        ++ "charges, once it becomes available. We need that record to verify a duplicate before "
        ++ "considering any billing adjustment.")
  else if workspace.category = .refundRequest ∧ "Service delivery status" ∈ labels then
    ("The current records do not confirm whether service delivery has started.",
      "Please confirm the current delivery status and whether any part of the service has been used. "
        ++ "We need that information before considering a refund.")
  else if workspace.category = .accountAccess ∧ "Identity verification" ∈ labels then
    ("The account ownership check is not complete yet.",
      "Please complete the approved identity-verification step. We need that check before considering "
        ++ "any change to the recovery channel.")
  else if workspace.category = .serviceException ∧ "Service outcome" ∈ labels then
    ("The current records do not confirm a failed or incomplete service.",
      "Please provide the latest service outcome or supporting record. We need it before considering a "
        ++ "correction.")
  else
    let needed :=
      if blocking = [] then
        "the remaining records"
      else
        ", ".intercalate (blocking.map fun gap => lower gap.label)
    ("We still need to confirm " ++ needed ++ " before deciding the outcome.",
      "We will contact you if an additional record is needed from you.")

def greeting : String :=
  "Hello " ++ workspace.customerName ++ ","

def informationNeededBody (blocking : List InformationGap) : String :=
  let (detail, request) := workspace.informationRequest blocking
  "\n\n".intercalate
    ([workspace.greeting, detail, request]
      ++ (internalCheckNote (blocking.map InformationGap.label)).toList
      ++ ["We will update you after these checks are complete."])

def reviewBody (action : Option DescribedAction) : String :=
  let (evidence, proposal, notCompleted) := reviewLanguage action
  "\n\n".intercalate [workspace.greeting, evidence, proposal, notCompleted,
    "We will update you after the required review is complete."]

def draftCustomerResponse (state : DecisionProposalState) (blocking : List InformationGap)
    (actions : List DescribedAction) : Except Error SuggestedResponseDraft :=
  if state = .informationNeeded then
    SuggestedResponseDraft.validate {
      subject := informationNeededSubject workspace.category
      body := workspace.informationNeededBody blocking
      status := .blocked
    }
  else
    SuggestedResponseDraft.validate {
      subject := reviewSubject workspace.category
      body := workspace.reviewBody actions.head?
      status := .ready
    }

end DecisionWorkspace

def AnalysisStatus.value : AnalysisStatus → String
  | .completed => "completed"
  | .abstained => "abstained"

/--
Number the steps, each one's input being the output of the one before.
-/
def chainCheckpoints (previous : String)
    : Nat → List (String × CheckpointStatus × String × String) → List AnalysisCheckpointDraft
  | _, [] => []
  | sequence, (step, status, summary, output) :: rest =>
    {
      sequence
      step
      status
      summary
      inputFingerprint := previous
      outputFingerprint := output
    } :: chainCheckpoints output (sequence + 1) rest

section

variable [Digest]

def analysisSteps (evidence : PolicyEvidence) (facts : List VerifiedFact)
    (gaps : List InformationGap) (risks : List DecisionRiskCheck) (outcome : String)
    (status : AnalysisStatus) : List (String × CheckpointStatus × String × String) :=
  [
    ("case_context", .completed, "Persisted case and business context snapshots were read.",
      Digest.hash (.obj [("facts", .num facts.length), ("gaps", .num gaps.length)])),
    ("policy_evidence", if evidence.status = .relevant then .completed else .abstained,
      evidence.reason,
      Digest.hash (.obj [
        ("status", .str evidence.status.value),
        ("fingerprints", sortedTexts (evidence.evidence.map fun bundle => bundle.fingerprint))
      ])),
    ("risk_evaluation", .completed, "Deterministic risk and authority checks were evaluated.",
      riskFingerprint risks),
    ("decision_brief", if status = .completed then .completed else .abstained,
      "A business-readable decision brief was recorded.",
      Digest.hash (.obj [("outcome", .str outcome), ("analysis_status", .str status.value)]))
  ]

def checkpoints (inputFingerprint : String) (evidence : PolicyEvidence) (facts : List VerifiedFact)
    (gaps : List InformationGap) (risks : List DecisionRiskCheck) (outcome : String)
    (status : AnalysisStatus) : Except Error (List AnalysisCheckpointDraft) :=
  (chainCheckpoints inputFingerprint 1
    (analysisSteps evidence facts gaps risks outcome status)).mapM AnalysisCheckpointDraft.validate

def decisionState (policyStatus : EvidenceRetrievalStatus) (blocking : List InformationGap)
    : DecisionProposalState :=
  if policyStatus ≠ .relevant ∨ blocking ≠ [] then .informationNeeded else .readyForReview

namespace DecisionWorkspace

variable (workspace : DecisionWorkspace)

/--
The impact is claimed only of what is ready for review and concerns a payment.
-/
def claimsImpact (state : DecisionProposalState) : Bool :=
  state = .readyForReview
    ∧ (workspace.category = .billingDispute ∨ workspace.category = .refundRequest)

def analyze (evidence : PolicyEvidence) (inputFingerprint : String)
    : Except Error EngineAnalysis := do
  let facts ← workspace.facts
  let gaps ← workspace.informationGaps evidence.status
  let blocking := gaps.filter InformationGap.blocking
  let risks ← workspace.riskChecks evidence.status blocking
  let state := decisionState evidence.status blocking
  let outcome := workspace.outcome state evidence.status
  let impactAmount := if workspace.claimsImpact state then workspace.impactAmount else none
  let impactCurrency := if workspace.claimsImpact state then workspace.impactCurrency else none
  let actions ← workspace.actions state blocking impactAmount impactCurrency
  let response ← workspace.draftCustomerResponse state blocking actions
  let status : AnalysisStatus := if evidence.status = .relevant then .completed else .abstained
  let checkpoints ← checkpoints inputFingerprint evidence facts gaps risks outcome status
  EngineAnalysis.validate {
    status
    policyStatus := evidence.status
    facts
    missingInformation := gaps
    risks
    outcome
    impactAmount
    impactCurrency
    confidence := workspace.confidence evidence.status blocking
    uncertainty := workspace.uncertainty evidence.status blocking
    rationale := rationale evidence.status facts blocking risks
    state
    proposedActions := actions
    responseDraft := response
    checkpoints
    riskRuleVersion := deterministicDecisionEngine.riskRuleVersion
    modelVersion := deterministicDecisionEngine.modelVersion
    promptVersion := deterministicDecisionEngine.promptVersion
    graphVersion := deterministicDecisionEngine.graphVersion
  }

end DecisionWorkspace

end

end CaseResolution
