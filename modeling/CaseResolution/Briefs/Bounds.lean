import CaseResolution.Briefs.Lemmas.Engine
import CaseResolution.Lib.Texts

/-!
This module contains when the decision engine returns an analysis: which texts of a case it may put
together without exceeding the bound of a field.
-/

namespace CaseResolution

open Guard

/--
The texts of the case that the engine puts together stay below the bounds of its own fields, and the
reason of the evidence can be a summary.
-/
structure DecisionWorkspace.WithinBounds (workspace : DecisionWorkspace) (evidence : PolicyEvidence)
    : Prop where
  sources : ∀ context ∈ workspace.businessContexts,
    context.source.length + context.sourceReference.length ≤ 297
  values : ∀ context ∈ workspace.businessContexts, ∀ name ∈ factFieldLabels,
    ∀ value ∈ context.fields.lookup name.1, name.2.length + value.length ≤ 997
  labels : (workspace.staleLabels.map String.length).sum + 2 * (workspace.staleLabels.length - 1)
    ≤ 952
  reason : 1 ≤ evidence.reason.length ∧ evidence.reason.length ≤ 1000

theorem stablePublicId_fits [Digest] (hshort : ∀ text, (Digest.short text).length = 16)
    {kind : String} (hkind : kind.length ≤ 40) (parts : List String)
    : Fits 1 64 (stablePublicId kind parts) := by
  have hdash : "-".length = 1 := Texts.length_literal rfl
  unfold Fits stablePublicId
  rw [String.length_append, String.length_append, hshort, hdash]
  omega

namespace DecisionWorkspace

variable [Digest] {workspace : DecisionWorkspace} {context : BusinessObjectSnapshot}

/-!
The facts: a fact's source joins two texts, its statement repeats a field.
-/

omit [Digest] in
theorem factSource_fits (h : context.Bounded)
    : Fits 1 300 context.factSource
      ↔ context.source.length + context.sourceReference.length ≤ 297 := by
  have hslash : " / ".length = 3 := Texts.length_literal rfl
  have hsource := h.source
  unfold Fits BusinessObjectSnapshot.factSource
  rw [String.length_append, String.length_append, hslash]
  omega

omit [Digest] in
theorem statusStatement_fits (h : context.Bounded) : Fits 1 1000 context.statusStatement := by
  have hmiddle : " is recorded with status ".length = 25 := Texts.length_literal rfl
  have hend : ".".length = 1 := Texts.length_literal rfl
  have hlabel := h.label
  have hstatus := h.status
  unfold Fits BusinessObjectSnapshot.statusStatement
  rw [String.length_append, String.length_append, String.length_append, hmiddle, hend]
  omega

omit [Digest] in
theorem fieldStatement_fits {label value : String}
    : Fits 1 1000 (fieldStatement label value) ↔ label.length + value.length ≤ 997 := by
  have hmiddle : ": ".length = 2 := Texts.length_literal rfl
  have hend : ".".length = 1 := Texts.length_literal rfl
  unfold Fits fieldStatement
  rw [String.length_append, String.length_append, String.length_append, hmiddle, hend]
  omega

theorem contextFact_bounded (hshort : ∀ text, (Digest.short text).length = 16)
    {key statement : String}
    : (workspace.contextFact context key statement).Bounded
      ↔ Fits 1 1000 statement ∧ Fits 1 300 context.factSource := by
  constructor
  . intro h
    exact ⟨h.statement, h.source⟩
  . intro ⟨hstatement, hsource⟩
    exact ⟨stablePublicId_fits hshort (by decide) _, hstatement, hsource⟩

theorem contextFacts_bounded (workspace : DecisionWorkspace)
    (hshort : ∀ text, (Digest.short text).length = 16)
    (h : context.Bounded)
    : (∀ fact ∈ workspace.contextFacts context, fact.Bounded)
      ↔ context.source.length + context.sourceReference.length ≤ 297
        ∧ ∀ name ∈ factFieldLabels, ∀ value ∈ context.fields.lookup name.1,
          name.2.length + value.length ≤ 997 := by
  unfold contextFacts
  rw [List.forall_mem_cons, contextFact_bounded hshort, factSource_fits h]
  simp only [statusStatement_fits h, true_and]
  apply and_congr_right
  intro hsource
  have hsource := (factSource_fits h).mpr hsource
  constructor
  . intro hall name hname value hvalue
    have hfact := hall (workspace.contextFact context name.1 (fieldStatement name.2 value))
      (List.mem_filterMap.mpr ⟨name, hname, Option.map_eq_some_iff.mpr ⟨value, hvalue, rfl⟩⟩)
    have hbounded := (contextFact_bounded hshort).mp hfact
    exact fieldStatement_fits.mp hbounded.1
  . intro hall fact hfact
    rw [List.mem_filterMap] at hfact
    obtain ⟨name, hname, hfact⟩ := hfact
    obtain ⟨value, hvalue, rfl⟩ := Option.map_eq_some_iff.mp hfact
    rw [contextFact_bounded hshort]
    exact ⟨fieldStatement_fits.mpr (hall name hname value hvalue), hsource⟩

theorem facts_bounded (hshort : ∀ text, (Digest.short text).length = 16)
    : (∀ fact ∈ workspace.businessContexts.flatMap workspace.contextFacts, fact.Bounded)
      ↔ (∀ context ∈ workspace.businessContexts,
          context.source.length + context.sourceReference.length ≤ 297)
        ∧ ∀ context ∈ workspace.businessContexts, ∀ name ∈ factFieldLabels,
          ∀ value ∈ context.fields.lookup name.1, name.2.length + value.length ≤ 997 := by
  have heach := fun context hcontext =>
    workspace.contextFacts_bounded hshort (workspace.contexts_bounded context hcontext)
  constructor
  . intro hall
    have hboth := fun context hcontext => (heach context hcontext).mp fun fact hfact =>
      hall fact (List.mem_flatMap.mpr ⟨context, hcontext, hfact⟩)
    exact ⟨fun context hcontext => (hboth context hcontext).1,
      fun context hcontext => (hboth context hcontext).2⟩
  . intro ⟨hsources, hvalues⟩ fact hfact
    obtain ⟨context, hcontext, hfact⟩ := List.mem_flatMap.mp hfact
    exact (heach context hcontext).mpr ⟨hsources context hcontext, hvalues context hcontext⟩
      fact hfact

/-!
The gaps: only the one that names the records to refresh depends on the case.
-/

theorem gap_bounded (hshort : ∀ text, (Digest.short text).length = 16)
    {key label description : String} (hname : (key, label) ∈ gapNames)
    : (workspace.gap key label description).Bounded ↔ Fits 1 1000 description := by
  have hlabel : Fits 1 300 label := by
    simp only [gapNames, List.mem_cons, List.not_mem_nil, or_false, Prod.mk.injEq] at hname
    rcases hname with ⟨_, rfl⟩ | ⟨_, rfl⟩ | ⟨_, rfl⟩ | ⟨_, rfl⟩ | ⟨_, rfl⟩ | ⟨_, rfl⟩ | ⟨_, rfl⟩
      | ⟨_, rfl⟩ <;> exact fits_literal (by decide)
  constructor
  . intro h
    exact h.description
  . intro hdescription
    exact ⟨stablePublicId_fits hshort (by decide) _, hlabel, hdescription⟩

omit [Digest] in
theorem refreshDescription_fits {labels : String}
    : Fits 1 1000 (refreshDescription labels) ↔ labels.length ≤ 952 := by
  have hbefore : "Refresh ".length = 8 := Texts.length_literal rfl
  have hafter : " before relying on the proposed outcome.".length = 40 := Texts.length_literal rfl
  unfold Fits refreshDescription
  rw [String.length_append, String.length_append, hbefore, hafter]
  omega

theorem sourceGaps_bounded (hshort : ∀ text, (Digest.short text).length = 16)
    : (∀ gap ∈ workspace.sourceGaps, gap.Bounded)
      ↔ (workspace.staleLabels.map String.length).sum + 2 * (workspace.staleLabels.length - 1)
        ≤ 952 := by
  have hcomma : ", ".length = 2 := Texts.length_literal rfl
  unfold sourceGaps
  simp only
  by_cases hstale : workspace.staleLabels = []
  . simp only [hstale, List.map_nil, List.sum_nil, List.length_nil]
    constructor
    . intro _
      decide
    . intro _ gap hgap
      rw [List.mem_ite_nil_right, List.mem_singleton] at hgap
      rw [hgap.2, gap_bounded hshort (by decide), refreshDescription_fits,
        if_neg (not_not.mpr rfl)]
      exact Texts.length_literal_le (by decide)
  . rw [if_pos (.inr hstale), if_pos hstale, List.forall_mem_singleton,
      gap_bounded hshort (by decide), refreshDescription_fits, Texts.length_intercalate, hcomma]

/--
The other gaps describe themselves with fixed texts.
-/
theorem fixedGaps_bounded (workspace : DecisionWorkspace)
    (hshort : ∀ text, (Digest.short text).length = 16) (policyStatus : EvidenceRetrievalStatus)
    : ∀ gap ∈ workspace.completenessGaps ++ workspace.policyGaps policyStatus
        ++ workspace.categoryGaps, gap.Bounded := by
  have hpolicy : Fits 1 1000 (policyGapDescription policyStatus) := by
    cases policyStatus <;> exact fits_literal (by decide)
  intro found hfound
  simp only [completenessGaps, policyGaps, List.mem_append, List.mem_ite_nil_right,
    List.mem_singleton] at hfound
  rcases hfound with (⟨_, rfl⟩ | ⟨_, rfl⟩) | hfound
  . rw [gap_bounded hshort (by decide)]
    exact fits_literals (by decide)
  . rw [gap_bounded hshort (by decide)]
    exact hpolicy
  . unfold categoryGaps at hfound
    split at hfound
    . rw [List.mem_ite_nil_right, List.mem_singleton] at hfound
      rw [hfound.2, gap_bounded hshort (by decide)]
      exact fits_literal (by decide)
    . rw [List.mem_ite_nil_right, List.mem_singleton] at hfound
      rw [hfound.2, gap_bounded hshort (by decide)]
      exact fits_literal (by decide)
    . split at hfound
      . rw [List.mem_singleton] at hfound
        rw [hfound, gap_bounded hshort (by decide)]
        exact fits_literals (by decide)
      . rw [List.mem_ite_nil_right, List.mem_singleton] at hfound
        rw [hfound.2, gap_bounded hshort (by decide)]
        exact fits_literal (by decide)
    . rw [List.mem_ite_nil_right, List.mem_singleton] at hfound
      rw [hfound.2, gap_bounded hshort (by decide)]
      exact fits_literal (by decide)

theorem foundGaps_bounded (hshort : ∀ text, (Digest.short text).length = 16)
    {policyStatus : EvidenceRetrievalStatus}
    : (∀ gap ∈ workspace.foundGaps policyStatus, gap.Bounded)
      ↔ (workspace.staleLabels.map String.length).sum + 2 * (workspace.staleLabels.length - 1)
        ≤ 952 := by
  have hfixed := workspace.fixedGaps_bounded hshort policyStatus
  rw [← sourceGaps_bounded hshort]
  unfold foundGaps
  simp only [List.mem_append, or_imp, forall_and] at hfixed ⊢
  constructor
  . intro hall
    exact hall.1.2
  . intro hsource
    exact ⟨⟨hfixed.1, hsource⟩, hfixed.2⟩

theorem completenessGaps_length : workspace.completenessGaps.length ≤ 1 := by
  unfold completenessGaps
  split <;> simp

theorem foundGaps_length {policyStatus : EvidenceRetrievalStatus}
    : (workspace.foundGaps policyStatus).length ≤ 4 := by
  have hpolicy : (workspace.policyGaps policyStatus).length ≤ 1 := by
    unfold policyGaps
    split <;> simp
  have hsource : workspace.sourceGaps.length ≤ 1 := by
    unfold sourceGaps
    simp only
    split <;> simp
  have hcategory : workspace.categoryGaps.length ≤ 1 := by
    unfold categoryGaps
    split
    . split <;> simp
    . split <;> simp
    . split
      . simp
      . split <;> simp
    . split <;> simp
  have hcompleteness := workspace.completenessGaps_length
  unfold foundGaps
  rw [List.length_append, List.length_append, List.length_append]
  omega

theorem gaps_length {policyStatus : EvidenceRetrievalStatus}
    : (workspace.gaps policyStatus).length ≤ 4 :=
  Nat.le_trans (Rows.firstBy_length_le _ _) foundGaps_length

/-!
The risks and the proposed actions.
-/

theorem riskCheck_bounded (hshort : ∀ text, (Digest.short text).length = 16)
    {key label explanation : String} {outcome : RiskOutcome} (hlabel : Fits 1 300 label)
    (hexplanation : Fits 1 1000 explanation)
    : (workspace.riskCheck key label outcome explanation).Bounded :=
  ⟨stablePublicId_fits hshort (by decide) _, hlabel, hexplanation⟩

theorem completenessRisk_bounded (hshort : ∀ text, (Digest.short text).length = 16)
    {blocking : List InformationGap} (hblocking : blocking.length ≤ 4)
    : (workspace.completenessRisk blocking).Bounded := by
  unfold completenessRisk
  split
  . have hcount : (toString blocking.length).length ≤ 1 :=
      Texts.length_toString_le _ (by decide) (by omega)
    have hend : " blocking information item(s) remain.".length = 37 := Texts.length_literal rfl
    apply riskCheck_bounded hshort (fits_literal (by decide))
    unfold Fits
    rw [String.length_append, hend]
    omega
  . exact riskCheck_bounded hshort (fits_literal (by decide)) (fits_literal (by decide))

theorem risks_bounded (hshort : ∀ text, (Digest.short text).length = 16)
    {policyStatus : EvidenceRetrievalStatus} {blocking : List InformationGap}
    (hblocking : blocking.length ≤ 4)
    : ∀ risk ∈ workspace.risks policyStatus blocking, risk.Bounded := by
  intro risk hrisk
  simp only [risks, List.mem_cons, List.not_mem_nil, or_false] at hrisk
  rcases hrisk with rfl | rfl | rfl | rfl
  . unfold policyRisk
    split
    . exact riskCheck_bounded hshort (fits_literal (by decide)) (fits_literal (by decide))
    . exact riskCheck_bounded hshort (fits_literal (by decide)) (fits_literals (by decide))
  . unfold freshnessRisk
    split <;> exact riskCheck_bounded hshort (fits_literal (by decide)) (fits_literal (by decide))
  . exact completenessRisk_bounded hshort hblocking
  . unfold authorityRisk
    split <;> exact riskCheck_bounded hshort (fits_literal (by decide)) (fits_literal (by decide))

omit [Digest] in
/--
An impact is claimed as the case has it, or not at all.
-/
theorem claimedImpact_complete (workspace : DecisionWorkspace) (claims : Bool)
    : ImpactComplete (if claims then workspace.impactAmount else none)
      (if claims then workspace.impactCurrency else none) := by
  cases claims with
  | true => exact workspace.impact_complete
  | false => exact ⟨nofun, nofun, rfl⟩

omit [Digest] in
theorem proposedActions_bounded {state : DecisionProposalState} {gaps : List InformationGap}
    {impactAmount : Option Rat} {impactCurrency : Option String}
    (himpact : ImpactComplete impactAmount impactCurrency)
    : ∀ action ∈ workspace.proposedActions state gaps impactAmount impactCurrency,
      action.Bounded := by
  have hresolution : Fits 1 100 workspace.resolution.1 ∧ Fits 1 300 workspace.resolution.2.1
      ∧ Fits 1 1000 workspace.resolution.2.2 := by
    unfold resolution
    split <;> dsimp only <;>
      exact ⟨fits_literal (by decide), fits_literal (by decide), fits_literal (by decide)⟩
  unfold proposedActions
  intro action haction
  split at haction
  . rw [List.mem_singleton.mp haction]
    constructor
    . exact (fits_literal (by decide) : Fits 1 100 "request_information")
    . exact (fits_literal (by decide) : Fits 1 300 "Request the missing information")
    . exact ⟨nofun, nofun, rfl⟩
    . exact (fits_literal (by decide)
        : Fits 1 1000 "Blocking information is recorded before the decision is revised.")
  . rw [List.mem_singleton.mp haction]
    exact ⟨hresolution.1, hresolution.2.1, himpact, hresolution.2.2⟩

/-!
The reply: it names the customer and the gaps.
-/

omit [Digest] in
theorem length_lower (text : String) : (lower text).length = text.length := by
  unfold lower
  rw [String.length_ofList, List.length_map, String.length_toList]

omit [Digest] in
/--
The labels of a few gaps, joined.
-/
theorem joinedLabels_length (separator : String) {blocking : List InformationGap}
    (hseparator : separator.length = 2) (hblocking : blocking.length ≤ 4)
    (hlabels : ∀ gap ∈ blocking, gap.label.length ≤ 30)
    : (separator.intercalate (blocking.map fun gap => lower gap.label)).length ≤ 128 := by
  have hlower : ∀ text ∈ blocking.map fun gap => lower gap.label, text.length ≤ 30 := by
    intro text htext
    obtain ⟨gap, hgap, rfl⟩ := List.mem_map.mp htext
    rw [length_lower]
    exact hlabels gap hgap
  have hle := Texts.length_intercalate_le separator 30 hlower
  rw [List.length_map, hseparator] at hle
  omega

omit [Digest] in
theorem informationRequest_length {blocking : List InformationGap}
    (hblocking : blocking.length ≤ 4) (hlabels : ∀ gap ∈ blocking, gap.label.length ≤ 30)
    : (workspace.informationRequest blocking).1.length ≤ 300
      ∧ (workspace.informationRequest blocking).2.length ≤ 300 := by
  have hobservation : workspace.billingRecordObservation.length ≤ 300 := by
    unfold billingRecordObservation
    simp only
    split
    . exact Texts.length_literal_le (by decide)
    . split
      . exact Texts.length_literal_le (by decide)
      . split <;> exact Texts.length_literal_le (by decide)
  have halves {first second : String} (hfirst : first.length ≤ 200) (hsecond : second.length ≤ 100)
      : (first ++ second).length ≤ 300 :=
    Texts.length_append_le hfirst hsecond (by decide)
  unfold informationRequest
  simp only
  split
  . apply And.intro hobservation
    apply halves _ (Texts.length_literal_le (by decide))
    exact Texts.length_append_le (Texts.length_literal_le (by decide : _ ≤ 100))
      (Texts.length_literal_le (by decide)) (by decide)
  . split
    . exact ⟨Texts.length_literal_le (by decide), halves (Texts.length_literal_le (by decide))
        (Texts.length_literal_le (by decide))⟩
    . split
      . exact ⟨Texts.length_literal_le (by decide), halves (Texts.length_literal_le (by decide))
          (Texts.length_literal_le (by decide))⟩
      . split
        . exact ⟨Texts.length_literal_le (by decide), halves (Texts.length_literal_le (by decide))
            (Texts.length_literal_le (by decide))⟩
        . have hneeded : (if blocking = [] then "the remaining records"
              else ", ".intercalate (blocking.map fun gap => lower gap.label)).length ≤ 128 := by
            split
            . exact Texts.length_literal_le (by decide)
            . exact joinedLabels_length ", " (Texts.length_literal rfl) hblocking hlabels
          apply And.intro _ (Texts.length_literal_le (by decide))
          apply halves _ (Texts.length_literal_le (by decide))
          exact Texts.length_append_le (Texts.length_literal_le (by decide : _ ≤ 50))
            (Nat.le_trans hneeded (by decide)) (by decide)

omit [Digest] in
theorem internalCheckNote_length (labels : List String)
    : ∀ note ∈ internalCheckNote labels, note.length ≤ 300 := by
  have hjoin (notes : List String) (hcount : notes.length ≤ 3)
      (hnotes : ∀ note ∈ notes, note.length ≤ 60)
      : ("Our team is also " ++ " and ".intercalate notes ++ ".").length ≤ 300 := by
    have hbefore : "Our team is also ".length = 17 := Texts.length_literal rfl
    have hbetween : " and ".length = 5 := Texts.length_literal rfl
    have hafter : ".".length = 1 := Texts.length_literal rfl
    have hmost := Texts.length_intercalate_le " and " 60 hnotes
    rw [hbetween] at hmost
    rw [String.length_append, String.length_append, hbefore, hafter]
    omega
  unfold internalCheckNote
  simp only
  intro note hnote
  rw [Option.mem_def, Option.ite_none_left_eq_some, Option.some.injEq] at hnote
  rw [← hnote.2]
  apply hjoin
  . rw [List.length_append, List.length_append]
    split_ifs <;> decide
  . simp only [List.mem_append, List.mem_ite_nil_right, List.mem_singleton]
    rintro text ((⟨_, rfl⟩ | ⟨_, rfl⟩) | ⟨_, rfl⟩) <;> exact Texts.length_literal_le (by decide)

omit [Digest] in
theorem greeting_length : 1 ≤ workspace.greeting.length ∧ workspace.greeting.length ≤ 300 := by
  have hbefore : "Hello ".length = 6 := Texts.length_literal rfl
  have hafter : ",".length = 1 := Texts.length_literal rfl
  have hname := workspace.customerName_length
  unfold greeting
  rw [String.length_append, String.length_append, hbefore, hafter]
  omega

omit [Digest] in
/--
A few paragraphs that open with the greeting.
-/
theorem paragraphs_fit {paragraphs : List String} (hcount : paragraphs.length ≤ 5)
    (hgreeting : workspace.greeting ∈ paragraphs)
    (hlength : ∀ paragraph ∈ paragraphs, paragraph.length ≤ 300)
    : Fits 1 10000 ("\n\n".intercalate paragraphs) := by
  have hbreak : "\n\n".length = 2 := Texts.length_literal rfl
  have hmost := Texts.length_intercalate_le "\n\n" 300 hlength
  have hleast := Texts.le_length_intercalate "\n\n" hgreeting
  have hgreeted := workspace.greeting_length
  rw [hbreak] at hmost
  unfold Fits
  omega

omit [Digest] in
theorem reviewLanguage_length (impactAmount : Option Rat) (impactCurrency : Option String)
    : (reviewLanguage (workspace.resolve impactAmount impactCurrency)).1.length ≤ 300
      ∧ (reviewLanguage (workspace.resolve impactAmount impactCurrency)).2.1.length ≤ 300
      ∧ (reviewLanguage (workspace.resolve impactAmount impactCurrency)).2.2.length ≤ 300 := by
  cases hcategory : workspace.category
  all_goals
    simp only [reviewLanguage, resolve, resolution, hcategory]
    exact ⟨Texts.length_literal_le (by decide), Texts.length_literal_le (by decide),
      Texts.length_literal_le (by decide)⟩

omit [Digest] in
theorem customerResponse_bounded {state : DecisionProposalState} {blocking : List InformationGap}
    {impactAmount : Option Rat} {impactCurrency : Option String}
    (hblocking : blocking.length ≤ 4) (hlabels : ∀ gap ∈ blocking, gap.label.length ≤ 30)
    : (workspace.customerResponse state blocking
        (workspace.proposedActions state blocking impactAmount impactCurrency)).Bounded := by
  have hneeded : Fits 1 300 (informationNeededSubject workspace.category) := by
    unfold informationNeededSubject
    split <;> exact fits_literal (by decide)
  have hreview : Fits 1 300 (reviewSubject workspace.category) := by
    unfold reviewSubject
    split <;> exact fits_literal (by decide)
  have hgreeting := workspace.greeting_length.2
  unfold customerResponse proposedActions
  split
  . apply SuggestedResponseDraft.Bounded.mk hneeded
    obtain ⟨hdetail, hrequest⟩ := workspace.informationRequest_length hblocking hlabels
    have hnote := internalCheckNote_length (blocking.map InformationGap.label)
    apply workspace.paragraphs_fit
    . have hcount (note : Option String) : note.toList.length ≤ 1 := by
        cases note <;> exact Nat.le_of_ble_eq_true rfl
      have := hcount (internalCheckNote (blocking.map InformationGap.label))
      simp only [List.length_append, List.length_cons, List.length_nil]
      omega
    . exact List.mem_append_left _ (List.mem_append_left _ List.mem_cons_self)
    . intro paragraph hparagraph
      simp only [List.mem_append, List.mem_cons, List.not_mem_nil, or_false,
        Option.mem_toList] at hparagraph
      rcases hparagraph with ((rfl | rfl | rfl) | hmem) | rfl
      . exact hgreeting
      . exact hdetail
      . exact hrequest
      . exact hnote paragraph hmem
      . exact Texts.length_literal_le (by decide)
  . apply SuggestedResponseDraft.Bounded.mk hreview
    obtain ⟨hevidence, hproposal, hnotCompleted⟩ :=
      workspace.reviewLanguage_length impactAmount impactCurrency
    apply workspace.paragraphs_fit
    . exact Nat.le_refl 5
    . exact List.mem_cons_self
    intro paragraph hparagraph
    simp only [List.mem_cons, List.not_mem_nil, or_false] at hparagraph
    rcases hparagraph with rfl | rfl | rfl | rfl | rfl
    . exact hgreeting
    . exact hevidence
    . exact hproposal
    . exact hnotCompleted
    . exact Texts.length_literal_le (by decide)

theorem gaps_labels {policyStatus : EvidenceRetrievalStatus}
    : ∀ gap ∈ workspace.gaps policyStatus, gap.label.length ≤ 30 := by
  intro gap hgap
  obtain ⟨name, hname, _, rfl⟩ := workspace.foundGaps_named (Rows.mem_of_mem_firstBy hgap)
  change name.2.length ≤ 30
  simp only [gapNames, List.mem_cons, List.not_mem_nil, or_false] at hname
  rcases hname with rfl | rfl | rfl | rfl | rfl | rfl | rfl | rfl <;>
    exact Texts.length_literal_le (by decide)

end DecisionWorkspace

/-!
The checkpoints: one of them is summarized by the reason of the evidence.
-/

theorem checkpoints_bounded [Digest] (hhash : ∀ value, (Digest.hash value).length = 64)
    {inputFingerprint : String} (hinput : inputFingerprint.length = 64) {evidence : PolicyEvidence}
    {facts : List VerifiedFact} {gaps : List InformationGap} {risks : List DecisionRiskCheck}
    {outcome : String} {status : AnalysisStatus}
    : (∀ draft ∈ chainCheckpoints inputFingerprint 1
          (analysisSteps evidence facts gaps risks outcome status), draft.Bounded)
      ↔ 1 ≤ evidence.reason.length ∧ evidence.reason.length ≤ 1000 := by
  have digits {value : Value} : Fits 64 64 (Digest.hash value) := by
    unfold Fits
    rw [hhash]
    decide
  have hinput : Fits 64 64 inputFingerprint := by
    unfold Fits
    rw [hinput]
    decide
  simp only [analysisSteps, chainCheckpoints, List.forall_mem_cons]
  constructor
  . intro hall
    exact hall.2.1.summary
  . intro hreason
    refine ⟨?_, ?_, ?_, ?_, nofun⟩
    . exact ⟨Nat.succ_le_succ (Nat.zero_le _), fits_literal (by decide),
        fits_literal (by decide), hinput, digits⟩
    . exact ⟨Nat.succ_le_succ (Nat.zero_le _), fits_literal (by decide), hreason, digits, digits⟩
    . exact ⟨Nat.succ_le_succ (Nat.zero_le _), fits_literal (by decide),
        fits_literal (by decide), digits, digits⟩
    . exact ⟨Nat.succ_le_succ (Nat.zero_le _), fits_literal (by decide),
        fits_literal (by decide), digits, digits⟩

namespace DecisionWorkspace

variable [Digest] {workspace : DecisionWorkspace}

/-!
The summary texts of the whole analysis.
-/

theorem facts_length
    : (workspace.businessContexts.flatMap workspace.contextFacts).length < 10 ^ 20 := by
  have hper : ∀ context ∈ workspace.businessContexts,
      (workspace.contextFacts context).length ≤ 8 := by
    intro context _
    have hle := List.length_filterMap_le (fun name : String × String =>
      (context.fields.lookup name.1).map fun value =>
        workspace.contextFact context name.1 (fieldStatement name.2 value)) factFieldLabels
    unfold contextFacts
    rw [List.length_cons]
    exact Nat.succ_le_succ hle
  have hsum := Texts.sum_le_length_mul (fun context => (workspace.contextFacts context).length) 8 hper
  have hcontexts := workspace.contexts_length
  rw [List.length_flatMap]
  omega

omit [Digest] in
theorem outcome_fits {state : DecisionProposalState} {policyStatus : EvidenceRetrievalStatus}
    : Fits 1 500 (workspace.outcome state policyStatus) := by
  unfold outcome
  split
  . exact fits_literal (by decide)
  . split
    . split
      . exact fits_literal (by decide)
      . split <;> exact fits_literal (by decide)
    . split <;> exact fits_literal (by decide)

omit [Digest] in
theorem uncertainty_fits {policyStatus : EvidenceRetrievalStatus} {blocking : List InformationGap}
    (hblocking : blocking.length ≤ 4) (hlabels : ∀ gap ∈ blocking, gap.label.length ≤ 30)
    : Fits 1 1000 (workspace.uncertainty policyStatus blocking) := by
  unfold uncertainty
  split
  . cases policyStatus <;> exact fits_literal (by decide)
  . split
    . have hbefore : "The outcome remains uncertain until: ".length = 37 := Texts.length_literal rfl
      have hafter : ".".length = 1 := Texts.length_literal rfl
      have hjoined := joinedLabels_length "; " (Texts.length_literal rfl) hblocking
        hlabels
      unfold Fits
      rw [String.length_append, String.length_append, hbefore, hafter]
      omega
    . split <;> exact fits_literal (by decide)

omit [Digest] in
theorem rationale_fits {policyStatus : EvidenceRetrievalStatus} {facts : List VerifiedFact}
    {blocking : List InformationGap} {risks : List DecisionRiskCheck}
    (hfacts : facts.length < 10 ^ 20) (hblocking : blocking.length ≤ 4) (hrisks : risks.length ≤ 4)
    : Fits 1 2000 (rationale policyStatus facts blocking risks) := by
  have hfactDigits : (toString facts.length).length ≤ 20 :=
    Texts.length_toString_le _ (by decide) hfacts
  unfold rationale
  simp only
  split
  . exact fits_literals (by decide)
  . split
    . have hgapDigits : (toString blocking.length).length ≤ 1 :=
        Texts.length_toString_le _ (by decide) (by omega)
      have hmiddle : " source-backed fact(s) are recorded, but ".length = 41 :=
        Texts.length_literal rfl
      have hafter : " blocking information item(s) prevent a final resolution.".length = 57 :=
        Texts.length_literal rfl
      unfold Fits
      rw [String.length_append, String.length_append, String.length_append, hmiddle, hafter]
      omega
    . have hreviews := List.countP_le_length
        (p := fun risk : DecisionRiskCheck => risk.outcome = RiskOutcome.requiresReview.value)
        (l := risks)
      have hreviewDigits := Texts.length_toString_le 1 (by decide)
        (Nat.lt_of_le_of_lt (Nat.le_trans hreviews hrisks) (by decide))
      have hmiddle :
          " source-backed fact(s) and published policy evidence support the proposed outcome. ".length
            = 83 := Texts.length_literal rfl
      have hafter : " deterministic authority check(s) require human review.".length = 55 :=
        Texts.length_literal rfl
      unfold Fits
      rw [String.length_append, String.length_append, String.length_append, hmiddle, hafter]
      omega

theorem analysis_bounded (workspace : DecisionWorkspace) (evidence : PolicyEvidence)
    (inputFingerprint : String) : (workspace.analysis evidence inputFingerprint).Bounded where
  outcome := outcome_fits
  impact := claimedImpact_complete workspace _
  uncertainty := uncertainty_fits gaps_length gaps_labels
  rationale := rationale_fits facts_length gaps_length (Nat.le_refl 4)
  checkpoints := List.cons_ne_nil _ _
  riskRuleVersion := fits_literal (by decide)
  modelVersion := fits_literal (by decide)
  promptVersion := fits_literal (by decide)
  graphVersion := fits_literal (by decide)

theorem accepted_iff (hshort : ∀ text, (Digest.short text).length = 16)
    (hhash : ∀ value, (Digest.hash value).length = 64) {evidence : PolicyEvidence}
    {inputFingerprint : String} (hinput : inputFingerprint.length = 64)
    : workspace.Accepted evidence inputFingerprint ↔ workspace.WithinBounds evidence := by
  constructor
  . intro h
    obtain ⟨hsources, hvalues⟩ := (facts_bounded hshort).mp h.facts
    have hlabels := (foundGaps_bounded hshort).mp h.gaps
    have hreason := (checkpoints_bounded hhash hinput).mp h.checkpoints
    exact ⟨hsources, hvalues, hlabels, hreason⟩
  . intro h
    constructor
    . exact (facts_bounded hshort).mpr ⟨h.sources, h.values⟩
    . exact (foundGaps_bounded hshort).mpr h.labels
    . exact risks_bounded hshort gaps_length
    . exact proposedActions_bounded (claimedImpact_complete workspace _)
    . exact customerResponse_bounded gaps_length gaps_labels
    . exact (checkpoints_bounded hhash hinput).mpr h.reason
    . exact analysis_bounded workspace evidence inputFingerprint

end DecisionWorkspace

/--
The engine returns an analysis exactly for the cases whose texts stay within the bounds of its fields.
-/
theorem analyze_isOk_iff [Digest] (hshort : ∀ text, (Digest.short text).length = 16)
    (hhash : ∀ value, (Digest.hash value).length = 64) (workspace : DecisionWorkspace)
    (evidence : PolicyEvidence) (inputFingerprint : String) (hinput : inputFingerprint.length = 64)
    : (workspace.analyze evidence inputFingerprint).isOk = true
      ↔ workspace.WithinBounds evidence := by
  rw [isOk_iff, ← DecisionWorkspace.accepted_iff hshort hhash hinput]
  constructor
  . intro ⟨a, ha⟩
    exact (workspace.analyze_eq_ok.mp ha).1
  . intro h
    exact ⟨_, workspace.analyze_eq_ok.mpr ⟨h, rfl⟩⟩

namespace Sample

attribute [local instance] widthDigest

theorem widthDigest_short (text : String) : (widthDigest.short text).length = 16 :=
  fixedWidth_length 16 _

theorem widthDigest_hash (value : Value) : (widthDigest.hash value).length = 64 :=
  fixedWidth_length 64 _

theorem duplicateCharge_withinBounds
    : (duplicateCharge .stale).WithinBounds publishedEvidence where
  sources := by decide +kernel
  values := by decide +kernel
  labels := by decide +kernel
  reason := by decide +kernel

theorem analyze_isOk_iff_duplicate
    : ((duplicateCharge .stale).analyze publishedEvidence inputDigits).isOk = true :=
  (analyze_isOk_iff widthDigest_short widthDigest_hash (duplicateCharge .stale) publishedEvidence
    inputDigits (by decide)).mpr duplicateCharge_withinBounds

/--
A payment with a source and a reference as long as a business object may have them.
-/
def longReference : BusinessObjectSnapshot :=
  {
    settledPayment "PAY-1" .current with
    source := String.ofList (List.replicate 100 'S')
    sourceReference := String.ofList (List.replicate 200 'R')
  }

theorem longReference_source : longReference.source.length = 100 := by
  unfold longReference
  rw [String.length_ofList, List.length_replicate]

theorem longReference_sourceReference : longReference.sourceReference.length = 200 := by
  unfold longReference
  rw [String.length_ofList, List.length_replicate]

theorem longReference_bounded : longReference.Bounded where
  publicId := by decide
  label := by decide
  source := by
    rw [longReference_source]
    decide
  sourceReference := by
    rw [longReference_sourceReference]
    decide
  status := by decide

def longReferenceCharge : DecisionWorkspace :=
  {
    duplicateCharge .current with
    businessContexts := [longReference]
    contexts_bounded := by
      intro context hcontext
      rw [List.mem_singleton.mp hcontext]
      exact longReference_bounded
    contexts_length := by simp
  }

/--
The source of its facts would have 303 characters.
-/
theorem analyze_fails_long_reference
    : inputDigits.length = 64 ∧ Fits 1 1000 publishedEvidence.reason
      ∧ (longReferenceCharge.analyze publishedEvidence inputDigits).isOk = false := by
  apply And.intro (by decide)
  apply And.intro (fits_literal (by decide))
  rw [Bool.eq_false_iff]
  intro hrun
  obtain ⟨a, ha⟩ := isOk_iff.mp hrun
  have haccepted := (longReferenceCharge.analyze_eq_ok.mp ha).1
  have hwithin := (DecisionWorkspace.accepted_iff widthDigest_short widthDigest_hash
    (by decide)).mp haccepted
  have hsource := hwithin.sources longReference List.mem_cons_self
  rw [longReference_source, longReference_sourceReference] at hsource
  exact absurd hsource (by decide)

end Sample

end CaseResolution
