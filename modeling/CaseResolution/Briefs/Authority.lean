import CaseResolution.Briefs.Lemmas.Engine

/-!
This module contains the coherence of the decision engine with the authority of a reviewer: what the
engine calls ready for review is what a supervisor may approve, and everything else asks for information.
-/

namespace CaseResolution

/--
The analysis lists a gap with the label.
-/
def EngineAnalysis.lists (a : EngineAnalysis) (label : String) : Bool :=
  a.missingInformation.any fun gap => gap.label = label

def EngineAnalysis.riskOutcome (a : EngineAnalysis) (label : String) : Option String :=
  (a.risks.find? fun risk => risk.label = label).map DecisionRiskCheck.outcome

/--
The analysis asks for information and authorizes nothing.
-/
structure EngineAnalysis.RequestsInformation (a : EngineAnalysis) : Prop where
  actions : ∃ action, a.proposedActions = [action] ∧ action.type = "request_information"
    ∧ action.reviewRequired = false ∧ action.impactAmount = none ∧ action.impactCurrency = none
  impact : a.impactAmount = none ∧ a.impactCurrency = none
  response : a.responseDraft.status = .blocked
  confidence : a.confidence = .low

namespace DecisionWorkspace

variable [Digest] (workspace : DecisionWorkspace)

/--
No two keys of gaps have one public id in the case.
-/
def GapIdsDistinct : Prop :=
  (gapNames.map fun name => stablePublicId "GAP" [workspace.casePublicId, name.1]).Nodup

variable {workspace} {policyStatus : EvidenceRetrievalStatus}

theorem gaps_eq_nil : workspace.gaps policyStatus = [] ↔ workspace.foundGaps policyStatus = [] := by
  unfold gaps
  constructor
  . intro hnil
    rw [List.eq_nil_iff_forall_not_mem]
    intro gap hgap
    have hlisted : ∃ listed ∈ workspace.gaps policyStatus, listed.id = gap.id :=
      Rows.exists_mem_firstBy hgap
    rw [gaps, hnil] at hlisted
    obtain ⟨_, hmem, _⟩ := hlisted
    cases hmem
  . intro hnil
    rw [hnil]
    rfl

omit [Digest] in
theorem decisionState_eq_ready {blocking : List InformationGap}
    : decisionState policyStatus blocking = .readyForReview
      ↔ policyStatus = .relevant ∧ blocking = [] := by
  unfold decisionState
  split
  . next hor =>
    simp only [reduceCtorEq, false_iff]
    intro ⟨hrelevant, hnil⟩
    exact hor.elim (absurd hrelevant) (absurd hnil)
  . next hor =>
    rw [not_or, not_not, not_not] at hor
    simp [hor]

theorem sourceGaps_eq_nil : workspace.sourceGaps = [] ↔ workspace.sourceCurrent = true := by
  unfold sourceGaps sourceCurrent staleLabels
  simp

/--
Where the policy applies and nothing is missing, no risk stands in the way of an approval.
-/
theorem risks_clear (hgaps : workspace.gaps .relevant = [])
    : ∀ risk ∈ workspace.risks .relevant [], risk.outcome = RiskOutcome.passed.value
      ∨ risk.outcome = RiskOutcome.requiresReview.value := by
  have hsource : workspace.sourceGaps = [] := by
    have hfound := gaps_eq_nil.mp hgaps
    simp only [foundGaps, List.append_eq_nil_iff] at hfound
    exact hfound.1.2
  have hcurrent := sourceGaps_eq_nil.mp hsource
  intro risk hrisk
  simp only [risks, List.mem_cons, List.not_mem_nil, or_false] at hrisk
  rcases hrisk with rfl | rfl | rfl | rfl
  . left
    rfl
  . left
    unfold freshnessRisk
    rw [if_pos hcurrent]
    rfl
  . left
    rfl
  . unfold authorityRisk
    split
    . right
      rfl
    . left
      rfl

theorem analysis_ready_iff {evidence : PolicyEvidence} {inputFingerprint : String}
    : (workspace.analysis evidence inputFingerprint).state = .readyForReview
      ↔ evidence.status = .relevant
        ∧ (workspace.analysis evidence inputFingerprint).missingInformation = [] :=
  decisionState_eq_ready

theorem analysis_approvalIsSafe_iff {evidence : PolicyEvidence} {inputFingerprint : String}
    : (workspace.analysis evidence inputFingerprint).state = .readyForReview
      ↔ (workspace.analysis evidence inputFingerprint).toDecisionAnalysis.approvalIsSafe
        = true := by
  unfold DecisionAnalysis.approvalIsSafe
  rw [decide_eq_true_iff]
  constructor
  . intro hready
    obtain ⟨hrelevant, hgaps⟩ := analysis_ready_iff.mp hready
    have hgaps : workspace.gaps evidence.status = [] := hgaps
    apply And.intro hrelevant
    apply And.intro hready
    constructor
    . have hstate : decisionState evidence.status (workspace.gaps evidence.status)
          = .readyForReview := hready
      simp [EngineAnalysis.toDecisionAnalysis, analysis, customerResponse, hstate]
    . rw [List.all_eq_true]
      intro risk hrisk
      rw [decide_eq_true_iff]
      have hrisk : risk ∈ workspace.risks evidence.status (workspace.gaps evidence.status) := hrisk
      rw [hgaps, hrelevant] at hrisk
      exact risks_clear (hrelevant ▸ hgaps) risk hrisk
  . intro hsafe
    exact hsafe.2.1

/--
What is not ready for review asks for information.
-/
theorem analysis_requestsInformation {evidence : PolicyEvidence} {inputFingerprint : String}
    (h : (workspace.analysis evidence inputFingerprint).state ≠ .readyForReview)
    : (workspace.analysis evidence inputFingerprint).RequestsInformation := by
  have hnot : evidence.status ≠ .relevant ∨ workspace.gaps evidence.status ≠ [] := by
    by_contra hneither
    rw [not_or, not_not, not_not] at hneither
    exact h (analysis_ready_iff.mpr hneither)
  have hstate : decisionState evidence.status (workspace.gaps evidence.status)
      = .informationNeeded := by
    unfold decisionState
    rw [if_pos hnot]
  constructor
  . simp [analysis, proposedActions, hstate, requestInformation]
  . simp [analysis, claimsImpact, hstate]
  . simp [analysis, customerResponse, hstate]
  . simp [analysis, confidence, hnot]

/--
Where the ids of the gaps are distinct, what is found is listed.
-/
theorem lists_eq {evidence : PolicyEvidence} {inputFingerprint : String}
    (hids : workspace.GapIdsDistinct) (label : String)
    : (workspace.analysis evidence inputFingerprint).lists label
      = (workspace.foundGaps evidence.status).any fun gap => gap.label = label := by
  rw [Bool.eq_iff_iff]
  unfold EngineAnalysis.lists
  rw [List.any_eq_true, List.any_eq_true]
  constructor
  . intro ⟨gap, hgap, hlabel⟩
    exact ⟨gap, Rows.mem_of_mem_firstBy hgap, hlabel⟩
  . intro ⟨gap, hgap, hlabel⟩
    obtain ⟨listed, hlisted, hid⟩ :
        ∃ listed ∈ workspace.gaps evidence.status, listed.id = gap.id :=
      Rows.exists_mem_firstBy hgap
    have hfound := Rows.mem_of_mem_firstBy hlisted
    obtain ⟨name, hname, _, rfl⟩ := workspace.foundGaps_named hgap
    obtain ⟨name', hname', _, rfl⟩ := workspace.foundGaps_named hfound
    have heq : name' = name := List.inj_on_of_nodup_map hids hname' hname hid
    exact ⟨_, hlisted, heq ▸ hlabel⟩

/--
No gap of the category has the label of another kind of gap.
-/
theorem categoryGaps_labels {label : String}
    (h : label = "Applicable policy" ∨ label = "Current source context")
    : (workspace.categoryGaps.any fun gap => gap.label = label) = false := by
  unfold categoryGaps
  rcases h with rfl | rfl <;> repeat' split
  all_goals simp [gap]

theorem foundGaps_lists_policy
    : ((workspace.foundGaps policyStatus).any fun gap => gap.label = "Applicable policy")
      = decide (policyStatus ≠ .relevant) := by
  simp only [foundGaps, List.any_append, categoryGaps_labels (.inl rfl), Bool.or_false]
  unfold completenessGaps policyGaps sourceGaps
  simp only
  split <;> split <;> split <;> simp_all [gap]

theorem foundGaps_lists_source
    : ((workspace.foundGaps policyStatus).any fun gap => gap.label = "Current source context")
      = !workspace.sourceCurrent := by
  have hsource : (workspace.sourceGaps.any fun gap => gap.label = "Current source context")
      = !workspace.sourceCurrent := by
    cases hcurrent : workspace.sourceCurrent with
    | true =>
      rw [sourceGaps_eq_nil.mpr hcurrent]
      rfl
    | false =>
      have hne : workspace.sourceGaps ≠ [] := by
        rw [ne_eq, sourceGaps_eq_nil, hcurrent]
        decide
      unfold sourceGaps at hne ⊢
      simp only at hne ⊢
      split at hne
      . next hstale => simp [hstale, gap]
      . exact absurd rfl hne
  simp only [foundGaps, List.any_append, categoryGaps_labels (.inr rfl), hsource]
  unfold completenessGaps policyGaps
  split <;> split <;> simp [gap]

theorem policyRisk_label : (workspace.policyRisk policyStatus).label = "Policy authority" := by
  unfold policyRisk
  split <;> rfl

theorem freshnessRisk_label : workspace.freshnessRisk.label = "Source freshness" := by
  unfold freshnessRisk
  split <;> rfl

variable {evidence : PolicyEvidence} {inputFingerprint : String}

theorem analysis_policyRisk
    : (workspace.analysis evidence inputFingerprint).riskOutcome "Policy authority"
      = some (workspace.policyRisk evidence.status).outcome := by
  unfold EngineAnalysis.riskOutcome
  simp only [analysis, risks]
  rw [List.find?_cons_of_pos (by simp [policyRisk_label]), Option.map_some]

theorem analysis_freshnessRisk
    : (workspace.analysis evidence inputFingerprint).riskOutcome "Source freshness"
      = some workspace.freshnessRisk.outcome := by
  unfold EngineAnalysis.riskOutcome
  simp only [analysis, risks]
  rw [List.find?_cons_of_neg (by simp [policyRisk_label]),
    List.find?_cons_of_pos (by simp [freshnessRisk_label]), Option.map_some]

end DecisionWorkspace

open DecisionWorkspace in
/--
The engine and the authority to approve agree: the resolution is ready for review where the policy
applies and nothing is missing, which is where it may be approved; otherwise the analysis asks for
information. The policy risk and the freshness risk say what the gaps say, unless two keys of gaps
share a public id.
-/
theorem analysis_authority_coheres [Digest] (workspace : DecisionWorkspace)
    (evidence : PolicyEvidence) (inputFingerprint : String) (a : EngineAnalysis)
    (h : workspace.analyze evidence inputFingerprint = .ok a)
    : (a.state = .readyForReview ↔ evidence.status = .relevant ∧ a.missingInformation = [])
      ∧ (a.state = .readyForReview ↔ a.toDecisionAnalysis.approvalIsSafe = true)
      ∧ (a.state ≠ .readyForReview → a.RequestsInformation)
      ∧ (workspace.GapIdsDistinct →
        a.riskOutcome "Policy authority"
            = some (if a.lists "Applicable policy" then RiskOutcome.blocked.value
              else RiskOutcome.passed.value)
          ∧ a.riskOutcome "Source freshness"
            = some (if a.lists "Current source context" then RiskOutcome.informationNeeded.value
              else RiskOutcome.passed.value)) := by
  rw [analyze_eq_ok] at h
  obtain ⟨_, rfl⟩ := h
  apply And.intro analysis_ready_iff
  apply And.intro analysis_approvalIsSafe_iff
  apply And.intro analysis_requestsInformation
  intro hids
  constructor
  . rw [analysis_policyRisk]
    simp only [lists_eq hids, foundGaps_lists_policy]
    unfold policyRisk
    split <;> simp_all [riskCheck]
  . rw [analysis_freshnessRisk]
    simp only [lists_eq hids, foundGaps_lists_source]
    unfold freshnessRisk
    split <;> simp_all [riskCheck]

namespace Sample

attribute [local instance] widthDigest

open DecisionWorkspace

theorem analysis_authority_coheres_stale
    : ∃ a, (duplicateCharge .stale).analyze publishedEvidence inputDigits = .ok a
      ∧ a.state ≠ .readyForReview
      ∧ a.RequestsInformation
      ∧ a.riskOutcome "Policy authority" = some "passed"
      ∧ a.riskOutcome "Source freshness" = some "information_needed" := by
  have hrun : (((duplicateCharge .stale).analyze publishedEvidence inputDigits).toOption.any fun a =>
      a.state ≠ .readyForReview ∧ ¬ a.lists "Applicable policy" ∧ a.lists "Current source context")
        = true := by
    decide +kernel
  rw [Option.any_eq_true] at hrun
  obtain ⟨a, ha, hlisted⟩ := hrun
  obtain ⟨hstate, hpolicy, hsource⟩ := of_decide_eq_true hlisted
  have ha := Guard.toOption_eq_some.mp ha
  obtain ⟨_, _, hrequests, hrisks⟩ :=
    analysis_authority_coheres (duplicateCharge .stale) publishedEvidence inputDigits a ha
  obtain ⟨hpolicyRisk, hfreshnessRisk⟩ := hrisks (by unfold GapIdsDistinct; decide +kernel)
  rw [if_neg hpolicy] at hpolicyRisk
  rw [if_pos hsource] at hfreshnessRisk
  exact ⟨a, ha, hstate, hrequests hstate, hpolicyRisk, hfreshnessRisk⟩

end Sample

end CaseResolution
