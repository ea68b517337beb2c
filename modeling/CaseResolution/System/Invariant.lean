import CaseResolution.System.Steps

/-!
This module contains the invariant of the service: what every store satisfies that commands can
produce from a store without reviews and actions.
-/

namespace CaseResolution

namespace Store

/--
The invariant of the service.
-/
structure Sound (s : Store) : Prop where
  history : s.BriefHistory
  generations : ∀ caseId inputFingerprint row, s.generations caseId inputFingerprint = some row
    → row.status = .completed
    → row.analysisRunId = s.findRun caseId inputFingerprint ∧ row.analysisRunId.isSome
  reviews_linked : ∀ r ∈ s.reviews, s.ReviewLinked r
  reviews_valid : ∀ r ∈ s.reviews, r.Valid
  reviews_taken : ∀ r ∈ s.reviews, s.SnapshotTaken r
  fingerprint_unique : ∀ (i j : Nat) (r q : CaseReview), s.reviews[i]? = some r
    → s.reviews[j]? = some q
    → r.snapshot.snapshotFingerprint = q.snapshot.snapshotFingerprint → i = j
  actions_linked : ∀ a ∈ s.actions, s.ActionLinked a
  actions_valid : ∀ a ∈ s.actions, a.Valid
  completed_spent : ∀ a ∈ s.actions, a.status = .completed → s.Spent a

namespace Grows

variable {s t u : Store}

theorem caseGrows_refl (c : Case) : CaseGrows c c :=
  ⟨le_refl _, fun _ => rfl⟩

theorem caseGrows_trans {c d e : Case} (hcd : CaseGrows c d) (hde : CaseGrows d e)
    : CaseGrows c e := by
  refine ⟨le_trans hcd.1 hde.1, ?_⟩
  intro h
  have h₁ := hcd.1
  have h₂ := hde.1
  rw [hde.2 (by omega), hcd.2 (by omega)]

theorem proposalGrows_refl (p : CaseProposal) : ProposalGrows p p :=
  ⟨rfl, le_refl _⟩

theorem proposalGrows_trans {p q r : CaseProposal} (hpq : ProposalGrows p q)
    (hqr : ProposalGrows q r) : ProposalGrows p r :=
  ⟨by rw [hqr.1, hpq.1], le_trans hpq.2 hqr.2⟩

theorem refl (s : Store) : s.Grows s where
  cases := .refl caseGrows_refl _
  proposals := .refl proposalGrows_refl _
  runs := .refl (fun _ => rfl) _
  versions := .refl (fun _ => rfl) _
  reviews := .refl .refl _
  actions := .refl .refl _
  connections := le_refl _

theorem trans (hst : s.Grows t) (htu : t.Grows u) : s.Grows u where
  cases := .trans (R := CaseGrows) caseGrows_trans hst.cases htu.cases
  proposals := .trans (R := ProposalGrows) proposalGrows_trans hst.proposals htu.proposals
  runs := .trans (fun h₁ h₂ => h₁.trans h₂) hst.runs htu.runs
  versions := .trans (fun h₁ h₂ => h₁.trans h₂) hst.versions htu.versions
  reviews := .trans .trans hst.reviews htu.reviews
  actions := .trans .trans hst.actions htu.actions
  connections := le_trans hst.connections htu.connections

theorem reviewLinked (h : s.Grows t) {r q : CaseReview} (hsubject : q.subject = r.subject)
    (hr : s.ReviewLinked r) : t.ReviewLinked q := by
  obtain ⟨case, proposal, version, hcase, hproposal, hversion, hlinks⟩ := hr
  obtain ⟨case', hcase', _⟩ := h.cases _ _ hcase
  obtain ⟨proposal', hproposal', hgrows⟩ := h.proposals _ _ hproposal
  have hversion' := Rows.Extends.get _ _ h.versions hversion
  simp only [CaseReview.subject, ReviewSubject.mk.injEq] at hsubject
  obtain ⟨hcaseId, hproposalId, hversionId, _, _, _, hsnapshot⟩ := hsubject
  refine ⟨case', proposal', version, ?_, ?_, ?_, ?_, ?_, ?_, ?_⟩
  . rw [hcaseId, hcase']
  . rw [hproposalId, hproposal']
  . rw [hversionId, hversion']
  . rw [hgrows.1, hlinks.1, hcaseId]
  . rw [hlinks.2.1, hcaseId]
  . rw [hlinks.2.2.1, hproposalId]
  . rw [hlinks.2.2.2, hsnapshot]

/--
A case that waits for a review does so until its version passes the reviewed one.
-/
theorem waiting (h : s.Grows t) {r q : CaseReview} (hsubject : q.subject = r.subject)
    (hr : ∃ case, s.cases[r.caseId]? = some case ∧ r.snapshot.caseVersion ≤ case.version
      ∧ (r.snapshot.caseVersion = case.version → case.status = .needsReview))
    : ∃ case, t.cases[q.caseId]? = some case ∧ q.snapshot.caseVersion ≤ case.version
        ∧ (q.snapshot.caseVersion = case.version → case.status = .needsReview) := by
  simp only [CaseReview.subject, ReviewSubject.mk.injEq] at hsubject
  obtain ⟨hcaseId, _, _, _, _, _, hsnapshot⟩ := hsubject
  obtain ⟨case, hcase, hle, hstatus⟩ := hr
  obtain ⟨case', hcase', hle', hsame⟩ := h.cases _ _ hcase
  refine ⟨case', by rw [hcaseId, hcase'], by rw [hsnapshot]; exact le_trans hle hle', ?_⟩
  rw [hsnapshot]
  intro heq
  have hcaseVersion : case.version = case'.version := by omega
  rw [hsame hcaseVersion]
  exact hstatus (by omega)

theorem snapshotTaken (h : s.Grows t) {r q : CaseReview} (hsubject : q.subject = r.subject)
    (hr : s.SnapshotTaken r) : t.SnapshotTaken q := by
  have hsnapshot := congrArg ReviewSubject.snapshot hsubject
  simp only [CaseReview.subject] at hsnapshot
  intro heligible
  rw [hsnapshot] at heligible
  exact h.waiting hsubject (hr heligible)

theorem waitsFor (h : s.Grows t) {r q : CaseReview} (hsubject : q.subject = r.subject)
    (hr : s.WaitsFor r) : t.WaitsFor q := by
  have hsnapshot := congrArg ReviewSubject.snapshot hsubject
  simp only [CaseReview.subject] at hsnapshot
  intro hgoverned
  rw [hsnapshot] at hgoverned
  exact h.waiting hsubject (hr hgoverned)

theorem actionLinked (h : s.Grows t) {a b : CaseAction} (hgrant : b.grant = a.grant)
    (heligible : b.executionEligible = true → a.executionEligible = true) (ha : s.ActionLinked a)
    : t.ActionLinked b := by
  obtain ⟨review, decision, version, proposedAction, hreview, hdecision, happrove, hversion,
    hproposed, hcase, hproposal, hversionId, htype, hconnection, hgoverned⟩ := ha
  obtain ⟨review', hreview', hpersists⟩ := h.reviews _ _ hreview
  have hversion' := Rows.Extends.get _ _ h.versions hversion
  have hdecision' := Rows.Extends.get _ _ hpersists.decisions hdecision
  have hsubject := hpersists.subject
  simp only [CaseReview.subject, ReviewSubject.mk.injEq] at hsubject
  obtain ⟨hrcase, hrproposal, hrversion, _, _, _, hsnapshot⟩ := hsubject
  simp only [CaseAction.grant, ActionGrant.mk.injEq] at hgrant
  obtain ⟨gcase, gproposal, gversion, gproposed, greview, gdecision, gconnection, _, gtype, _,
    gparameters, _⟩ := hgrant
  refine ⟨review', decision, version, proposedAction, ?_, ?_, happrove, ?_, ?_, ?_, ?_, ?_, ?_, ?_,
    ?_⟩
  . rw [greview, hreview']
  . rw [gdecision, hdecision']
  . rw [gversion, hversion']
  . rw [gproposed, hproposed]
  . rw [gcase, hcase, hrcase]
  . rw [gproposal, hproposal, hrproposal]
  . rw [gversion, hversionId, hrversion]
  . rw [gtype, htype]
  . rw [gconnection]
    exact lt_of_lt_of_le hconnection h.connections
  . intro hb
    rw [gparameters, hsnapshot]
    exact hgoverned (heligible hb)

theorem spent (h : s.Grows t) {a b : CaseAction} (hpersists : a.Persists b) (ha : s.Spent a)
    : t.Spent b := by
  rcases ha with hineligible | ⟨review, case, hreview, hcase, hlt⟩
  . left
    by_contra hb
    rw [Bool.not_eq_false] at hb
    simp [hpersists.eligible hb] at hineligible
  . right
    obtain ⟨review', hreview', hreviewPersists⟩ := h.reviews _ _ hreview
    obtain ⟨case', hcase', hle, _⟩ := h.cases _ _ hcase
    have hgrant := hpersists.grant
    simp only [CaseAction.grant, ActionGrant.mk.injEq] at hgrant
    obtain ⟨gcase, _, _, _, greview, _⟩ := hgrant
    refine ⟨review', case', by rw [greview, hreview'], by rw [gcase, hcase'], ?_⟩
    have hsubject := hreviewPersists.subject
    simp only [CaseReview.subject, ReviewSubject.mk.injEq] at hsubject
    rw [hsubject.2.2.2.2.2.2]
    exact lt_of_lt_of_le hlt hle

/--
The run of an input fingerprint stays its run.
-/
theorem findRun (hs : s.Grows t) (ht : t.BriefHistory) {caseId runId : Nat}
    {inputFingerprint : String} (h : s.findRun caseId inputFingerprint = some runId)
    : t.findRun caseId inputFingerprint = some runId := by
  obtain ⟨run, hrun, hcase, hfingerprint⟩ := findRun_eq_some h
  have hrun' := Rows.Extends.get _ _ hs.runs hrun
  cases hfound : t.findRun caseId inputFingerprint with
  | none =>
    exact absurd hfingerprint (findRun_eq_none.mp hfound run (List.mem_of_getElem? hrun') hcase)
  | some runId' =>
    obtain ⟨run', hfound', hcase', hfingerprint'⟩ := findRun_eq_some hfound
    rw [ht.run_unique runId runId' run run' hrun' hfound' (hcase.trans hcase'.symm)
      (hfingerprint.trans hfingerprint'.symm)]

end Grows

/--
The rows an action descends from are there.
-/
theorem Sound.queueItem_isOk {s : Store} (hs : s.Sound) {a : CaseAction} (ha : a ∈ s.actions)
    (now : Instant) : ∃ item, s.queueItem a now = .ok item := by
  obtain ⟨review, decision, version, _, hreview, hdecision, _, hversion, _, hcaseId, hproposalId, _,
    _, hconnection, _⟩ := hs.actions_linked a ha
  obtain ⟨case, proposal, _, hcase, hproposal, _⟩ :=
    hs.reviews_linked review (List.mem_of_getElem? hreview)
  have hlineage : s.actionLineage a = some { review, decision, case, proposal, version } := by
    refine actionLineage_eq_some.mpr ⟨hreview, hdecision, ?_, ?_, hversion⟩
    . rw [hcaseId, hcase]
    . rw [hproposalId, hproposal]
  exact Store.queueItem_isOk hlineage (List.getElem?_eq_getElem hconnection)

theorem completedCase_grows (case : Case) : CaseGrows case (completedCase case) := by
  unfold completedCase
  split
  . exact ⟨Nat.le_succ _, fun h => absurd h (Nat.succ_ne_self _).symm⟩
  . exact ⟨le_refl _, fun _ => rfl⟩

end Store

variable [Digest]

namespace Write

open Store

variable {c : Command} {s t : Store}

/--
Every write grows the store.
-/
theorem grows (h : Write c s t) (hs : s.Sound) : s.Grows t := by
  cases h with
  | maintained maintains =>
    obtain ⟨hcases, hruns, hproposals, hversions, hreviews, hactions, _, hconnections⟩ := maintains
    exact {
      cases := by rw [hcases]; exact (Grows.refl s).cases
      proposals := by rw [hproposals]; exact (Grows.refl s).proposals
      runs := by rw [hruns]; exact (Grows.refl s).runs
      versions := by rw [hversions]; exact (Grows.refl s).versions
      reviews := by rw [hreviews]; exact (Grows.refl s).reviews
      actions := by rw [hactions]; exact (Grows.refl s).actions
      connections := hconnections
    }
  | caseOpened case =>
    exact { Grows.refl s with cases := .append Grows.caseGrows_refl _ _ }
  | caseMoved caseId case moved found counted =>
    have hgrows : CaseGrows case moved := ⟨by omega, by omega⟩
    exact { Grows.refl s with cases := .set Grows.caseGrows_refl found hgrows }
  | generationStepped => exact { Grows.refl s with }
  | briefRecorded run v p records =>
    exact {
      cases := by rw [records.cases]; exact (Grows.refl s).cases
      proposals := by
        intro j q hj
        by_cases hsame : j = v.proposalId
        . subst hsame
          obtain ⟨hcase, hlt⟩ := records.advanced q hj
          exact ⟨p, records.proposal, by rw [records.proposal_case, hcase], hlt.le⟩
        . exact ⟨q, by rw [records.others j hsame, hj], Grows.proposalGrows_refl q⟩
      runs := by rw [records.runs]; exact .append (fun _ => rfl) _ _
      versions := by rw [records.versions]; exact .append (fun _ => rfl) _ _
      reviews := by rw [records.reviews]; exact (Grows.refl s).reviews
      actions := by rw [records.actions]; exact (Grows.refl s).actions
      connections := by rw [records.connections]
    }
  | proposalMoved proposalId proposal state found =>
    exact { Grows.refl s with
      proposals := .set Grows.proposalGrows_refl found ⟨rfl, le_refl _⟩ }
  | reviewAdded r added => exact { Grows.refl s with reviews := .append .refl _ _ }
  | reviewStepped i r q found step =>
    have hpersists := step.persists (hs.reviews_valid r (List.mem_of_getElem? found))
    exact { Grows.refl s with reviews := .set .refl found hpersists }
  | actionAdded a added => exact { Grows.refl s with actions := .append .refl _ _ }
  | actionStepped i a b found step =>
    exact { Grows.refl s with actions := .set .refl found step.persists }
  | actionCompleted i a b case found step hcase =>
    exact { Grows.refl s with
      actions := .set .refl found step.persists
      cases := .set Grows.caseGrows_refl hcase (completedCase_grows case) }

/--
A review after a write is a review from before it or the one that was added.
-/
theorem review_origin (h : Write c s t) (hs : s.Sound) {i : Nat} {q : CaseReview}
    (hq : t.reviews[i]? = some q)
    : (∃ r, s.reviews[i]? = some r ∧ r.Persists q ∧ q.Valid ∧ (q = r ∨ ReviewStep c i r q))
        ∨ (i = s.reviews.length ∧ s.NewReview q) := by
  have hkept : ∀ r, s.reviews[i]? = some r
      → ∃ r', s.reviews[i]? = some r' ∧ r'.Persists r ∧ r.Valid ∧ (r = r' ∨ ReviewStep c i r' r) :=
    fun r hr => ⟨r, hr, .refl r, hs.reviews_valid r (List.mem_of_getElem? hr), .inl rfl⟩
  cases h with
  | reviewAdded r added =>
    rcases Rows.getElem?_concat_cases hq with hq | ⟨rfl, rfl⟩
    . exact .inl (hkept q hq)
    . exact .inr ⟨rfl, added⟩
  | reviewStepped j r r' found step =>
    rcases Rows.getElem?_set_cases hq with ⟨rfl, rfl, _⟩ | ⟨_, hq⟩
    . have hvalid := hs.reviews_valid r (List.mem_of_getElem? found)
      exact .inl ⟨r, found, step.persists hvalid, step.valid hvalid, .inr step⟩
    . exact .inl (hkept q hq)
  | maintained maintains =>
    rw [maintains.reviews] at hq
    exact .inl (hkept q hq)
  | briefRecorded run v p records =>
    rw [records.reviews] at hq
    exact .inl (hkept q hq)
  | _ => exact .inl (hkept q hq)

/--
Completing an action moves its case past the snapshot its approval was about.
-/
theorem spent_of_completed (hs : s.Sound) {i : Nat} {a b : CaseAction} {case : Case}
    (found : s.actions[i]? = some a) (step : ActionStep c i a b)
    (hcase : s.cases[a.caseId]? = some case)
    : ((s.setAction i b).setCase a.caseId (completedCase case)).Spent b := by
  have hgrant := step.persists.grant
  simp only [CaseAction.grant, ActionGrant.mk.injEq] at hgrant
  obtain ⟨gcase, _, _, _, greview, _⟩ := hgrant
  by_cases heligible : b.executionEligible = true
  . obtain ⟨review, decision, version, proposedAction, hreview, _, _, _, _, hcaseId, _, _, _, _,
      hgoverned⟩ := hs.actions_linked a (List.mem_of_getElem? found)
    have hsnapshot := (hgoverned (step.persists.eligible heligible)).2.1
    obtain ⟨case', hcase', hle, hstatus⟩ :=
      hs.reviews_taken review (List.mem_of_getElem? hreview) hsnapshot
    obtain rfl : case = case' := by
      rw [← hcaseId, hcase] at hcase'
      exact Option.some.inj hcase'
    have hlt := (List.getElem?_eq_some_iff.mp hcase).1
    refine .inr ⟨review, completedCase case, by rw [greview]; exact hreview, ?_, ?_⟩
    . simp [gcase, hlt]
    . unfold completedCase
      split
      . exact Nat.lt_succ_of_le hle
      . next hmoved =>
        have hne : review.snapshot.caseVersion ≠ case.version := fun heq => hmoved (hstatus heq)
        omega
  . exact .inl (by simpa using heligible)

/--
An action after a write is an action from before it or the one that was added.
-/
theorem action_origin (h : Write c s t) (hs : s.Sound) {i : Nat} {b : CaseAction}
    (hb : t.actions[i]? = some b)
    : (∃ a, s.actions[i]? = some a ∧ a.Persists b ∧ b.Valid ∧ (b = a ∨ ActionStep c i a b)
          ∧ (b.status = .completed → a.status = .completed ∨ t.Spent b))
        ∨ (i = s.actions.length ∧ s.NewAction b) := by
  have hkept : ∀ a, s.actions[i]? = some a
      → ∃ a', s.actions[i]? = some a' ∧ a'.Persists a ∧ a.Valid ∧ (a = a' ∨ ActionStep c i a' a)
        ∧ (a.status = .completed → a'.status = .completed ∨ t.Spent a) :=
    fun a ha => ⟨a, ha, .refl a, hs.actions_valid a (List.mem_of_getElem? ha), .inl rfl, .inl⟩
  cases h with
  | actionAdded a added =>
    rcases Rows.getElem?_concat_cases hb with hb | ⟨rfl, rfl⟩
    . exact .inl (hkept b hb)
    . exact .inr ⟨rfl, added⟩
  | actionStepped j a a' found step uncompleted =>
    rcases Rows.getElem?_set_cases hb with ⟨rfl, rfl, _⟩ | ⟨_, hb⟩
    . refine .inl ⟨a, found, step.persists,
        step.valid (hs.actions_valid a (List.mem_of_getElem? found)), .inr step, ?_⟩
      intro hcompleted
      exact (uncompleted hcompleted).imp_right .inl
    . exact .inl (hkept b hb)
  | actionCompleted j a a' case found step hcase =>
    rcases Rows.getElem?_set_cases hb with ⟨rfl, rfl, _⟩ | ⟨_, hb⟩
    . exact .inl ⟨a, found, step.persists,
        step.valid (hs.actions_valid a (List.mem_of_getElem? found)), .inr step,
        fun _ => .inr (spent_of_completed hs found step hcase)⟩
    . exact .inl (hkept b hb)
  | maintained maintains =>
    rw [maintains.actions] at hb
    exact .inl (hkept b hb)
  | briefRecorded run v p records =>
    rw [records.actions] at hb
    exact .inl (hkept b hb)
  | _ => exact .inl (hkept b hb)

theorem history (h : Write c s t) (hs : s.Sound) : t.BriefHistory := by
  cases h with
  | briefRecorded run v p records => exact hs.history.of_recorded records
  | maintained maintains =>
    obtain ⟨hcases, hruns, hproposals, hversions, _⟩ := maintains
    exact hs.history.of_same hruns hversions (by simp [hproposals]) (by rw [hcases])
  | caseOpened case => exact hs.history.of_same rfl rfl (fun _ => rfl) (by simp [openCase])
  | caseMoved => exact hs.history.of_same rfl rfl (fun _ => rfl) (by simp)
  | proposalMoved proposalId proposal state found =>
    refine hs.history.of_same rfl rfl ?_ (le_refl _)
    intro j
    rw [setProposal_proposals, List.getElem?_set]
    split
    . next heq =>
      subst heq
      rw [if_pos (List.getElem?_eq_some_iff.mp found).1, found]
      rfl
    . rfl
  | actionCompleted => exact hs.history.of_same rfl rfl (fun _ => rfl) (by simp)
  | _ => exact hs.history.of_same rfl rfl (fun _ => rfl) (le_refl _)

/--
A generation after a write is the one from before it or the result of a step.
-/
theorem generation_origin (h : Write c s t) (caseId : Nat) (inputFingerprint : String)
    : t.generations caseId inputFingerprint = s.generations caseId inputFingerprint
        ∨ ∃ row, t.generations caseId inputFingerprint = some row
          ∧ GenerationStep c (s.findRun caseId inputFingerprint)
            (s.generations caseId inputFingerprint) row := by
  cases h with
  | generationStepped caseId' inputFingerprint' row step =>
    by_cases hkey : caseId = caseId' ∧ inputFingerprint = inputFingerprint'
    . obtain ⟨rfl, rfl⟩ := hkey
      exact .inr ⟨row, by simp [setGeneration], step⟩
    . exact .inl (by simp [setGeneration, hkey])
  | maintained maintains => exact .inl (by rw [maintains.generations])
  | briefRecorded run v p records => exact .inl (by rw [records.generations])
  | _ => exact .inl rfl

theorem generations (h : Write c s t) (hs : s.Sound) (caseId : Nat) (inputFingerprint : String)
    (row : CaseAnalysisGeneration) (hrow : t.generations caseId inputFingerprint = some row)
    (hcompleted : row.status = .completed)
    : row.analysisRunId = t.findRun caseId inputFingerprint ∧ row.analysisRunId.isSome := by
  have hbefore : row.analysisRunId = s.findRun caseId inputFingerprint
      ∧ row.analysisRunId.isSome := by
    rcases h.generation_origin caseId inputFingerprint with
      hsame | ⟨row', hrow', hstep⟩
    . exact hs.generations caseId inputFingerprint row (hsame.symm.trans hrow) hcompleted
    . obtain rfl : row = row' := Option.some.inj (hrow.symm.trans hrow')
      obtain ⟨hrun, hsome⟩ := hstep.completed_run hcompleted
      exact ⟨hrun, by rwa [hrun]⟩
  obtain ⟨hrun, hsome⟩ := hbefore
  refine ⟨?_, hsome⟩
  obtain ⟨runId, hrunId⟩ := Option.isSome_iff_exists.mp hsome
  rw [hrunId] at hrun ⊢
  exact ((h.grows hs).findRun (h.history hs) hrun.symm).symm

/--
Every write keeps the invariant.
-/
theorem sound (h : Write c s t) (hs : s.Sound) : t.Sound := by
  have hgrows := h.grows hs
  have hhistory := h.history hs
  exact {
    history := hhistory
    generations := h.generations hs
    reviews_linked := by
      intro q hq
      obtain ⟨i, hi⟩ := List.mem_iff_getElem?.mp hq
      rcases h.review_origin hs hi with ⟨r, hr, hpersists, _⟩ | ⟨_, hnew⟩
      . exact hgrows.reviewLinked hpersists.subject (hs.reviews_linked r (List.mem_of_getElem? hr))
      . exact hgrows.reviewLinked rfl hnew.linked
    reviews_valid := by
      intro q hq
      obtain ⟨i, hi⟩ := List.mem_iff_getElem?.mp hq
      rcases h.review_origin hs hi with ⟨_, _, _, hvalid, _⟩ | ⟨_, hnew⟩
      . exact hvalid
      . exact hnew.valid
    reviews_taken := by
      intro q hq
      obtain ⟨i, hi⟩ := List.mem_iff_getElem?.mp hq
      rcases h.review_origin hs hi with ⟨r, hr, hpersists, _⟩ | ⟨_, hnew⟩
      . exact hgrows.snapshotTaken hpersists.subject (hs.reviews_taken r (List.mem_of_getElem? hr))
      . exact hgrows.snapshotTaken rfl hnew.taken
    fingerprint_unique := by
      intro i j q q' hi hj hsame
      rcases h.review_origin hs hi with ⟨r, hr, hrq, _⟩ | ⟨rfl, hnew⟩
      . have hr' := congrArg (fun subject => subject.snapshot.snapshotFingerprint) hrq.subject
        rcases h.review_origin hs hj with ⟨p, hp, hpq, _⟩ | ⟨rfl, hnew⟩
        . have hp' := congrArg (fun subject => subject.snapshot.snapshotFingerprint) hpq.subject
          exact hs.fingerprint_unique i j r p hr hp (hr'.symm.trans (hsame.trans hp'))
        . exact absurd (hr'.symm.trans hsame) (hnew.fingerprint r (List.mem_of_getElem? hr))
      . rcases h.review_origin hs hj with ⟨p, hp, hpq, _⟩ | ⟨rfl, _⟩
        . have hp' := congrArg (fun subject => subject.snapshot.snapshotFingerprint) hpq.subject
          exact absurd (hp'.symm.trans hsame.symm) (hnew.fingerprint p (List.mem_of_getElem? hp))
        . rfl
    actions_linked := by
      intro b hb
      obtain ⟨i, hi⟩ := List.mem_iff_getElem?.mp hb
      rcases h.action_origin hs hi with ⟨a, ha, hpersists, _⟩ | ⟨_, hnew⟩
      . exact hgrows.actionLinked hpersists.grant hpersists.eligible
          (hs.actions_linked a (List.mem_of_getElem? ha))
      . exact hgrows.actionLinked rfl id hnew.linked
    actions_valid := by
      intro b hb
      obtain ⟨i, hi⟩ := List.mem_iff_getElem?.mp hb
      rcases h.action_origin hs hi with ⟨_, _, _, hvalid, _⟩ | ⟨_, hnew⟩
      . exact hvalid
      . exact hnew.valid
    completed_spent := by
      intro b hb hcompleted
      obtain ⟨i, hi⟩ := List.mem_iff_getElem?.mp hb
      rcases h.action_origin hs hi with ⟨a, ha, hpersists, _, _, hspent⟩ | ⟨_, hnew⟩
      . rcases hspent hcompleted with hbefore | hspent
        . exact hgrows.spent hpersists (hs.completed_spent a (List.mem_of_getElem? ha) hbefore)
        . exact hspent
      . exact .inl (hnew.uncompleted hcompleted)
  }

end Write

/--
What every write of a command keeps is kept by the command.
-/
theorem Writes.sound {c : Command} {s t : Store} (h : Writes c s t) (hs : s.Sound)
    : t.Sound := by
  induction h with
  | refl => exact hs
  | tail _ hwrite ih => exact hwrite.sound ih

theorem Writes.grows {c : Command} {s t : Store} (h : Writes c s t) (hs : s.Sound)
    : s.Grows t := by
  induction h with
  | refl => exact .refl s
  | tail hwrites hwrite ih => exact ih.trans (hwrite.grows (Writes.sound hwrites hs))

/--
What a new action satisfies and every step of an action preserves holds of every action after the
writes of a command.
-/
theorem Writes.action_invariant {c : Command} {s t : Store} {i : Nat} {P : CaseAction → Prop}
    (hnew : ∀ (u : Store) (a : CaseAction), u.NewAction a → P a)
    (hstep : ∀ a b, ActionStep c i a b → a.Valid → P a → P b) (h : Writes c s t) (hs : s.Sound)
    (hP : ∀ a, s.actions[i]? = some a → P a) : ∀ b, t.actions[i]? = some b → P b := by
  induction h with
  | refl => exact hP
  | tail hwrites hwrite ih =>
    intro b hb
    have hs' := Writes.sound hwrites hs
    rcases hwrite.action_origin hs' hb with ⟨a, ha, _, _, rfl | hmoved, _⟩ | ⟨_, hadded⟩
    . exact ih b ha
    . exact hstep a b hmoved (hs'.actions_valid a (List.mem_of_getElem? ha)) (ih a ha)
    . exact hnew _ b hadded

/--
What a new review satisfies and every step of a review preserves holds of every review after the
writes of a command.
-/
theorem Writes.review_invariant {c : Command} {s t : Store} {i : Nat} {P : CaseReview → Prop}
    (hnew : ∀ (u : Store) (r : CaseReview), u.NewReview r → P r)
    (hstep : ∀ r q, ReviewStep c i r q → r.Valid → P r → P q) (h : Writes c s t) (hs : s.Sound)
    (hP : ∀ r, s.reviews[i]? = some r → P r) : ∀ q, t.reviews[i]? = some q → P q := by
  induction h with
  | refl => exact hP
  | tail hwrites hwrite ih =>
    intro q hq
    have hs' := Writes.sound hwrites hs
    rcases hwrite.review_origin hs' hq with ⟨r, hr, _, _, rfl | hmoved⟩ | ⟨_, hadded⟩
    . exact ih q hr
    . exact hstep r q hmoved (hs'.reviews_valid r (List.mem_of_getElem? hr)) (ih r hr)
    . exact hnew _ q hadded

end CaseResolution
