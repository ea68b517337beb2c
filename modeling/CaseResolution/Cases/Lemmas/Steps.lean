import CaseResolution.System.Refinement

/-!
This module contains what the commands of the service do to the cases: most keep the table, and the
others move the row of one case.
-/

namespace CaseResolution

open Guard Store

/--
How a command moves the case at `caseId`.
-/
inductive CaseStep (s : Store) (c : Command) (caseId : Nat) (case : Case) : Case → Prop where
  | touched (moved : Case) (status : moved.status = case.status)
      (counted : moved.version = case.version + 1) : CaseStep s c caseId case moved
  | changed (expectedVersion : Nat) (target : CaseStatus)
      (issued : c = .changeStatus caseId expectedVersion target)
      (current : case.version = expectedVersion)
      : CaseStep s c caseId case { case with status := target, version := case.version + 1 }
  | submitted (now : Instant) (actorId : String) (command : ReviewSubmission)
      (issued : c = .submitReview now caseId actorId command)
      (current : case.version = command.expectedCaseVersion)
      : CaseStep s c caseId case
          { case with status := .needsReview, version := case.version + 1 }
  | decided (review : CaseReview) (decision : ReviewDecision) (found : review ∈ s.reviews)
      (about : review.caseId = caseId) (governed : review.snapshot.approvalRuleId ≠ "APR-LEGACY")
      (current : case.version = review.snapshot.caseVersion)
      : CaseStep s c caseId case
          { case with
            status := if decision = .escalate then .needsReview else .investigating
            version := case.version + 1 }
  | completed : CaseStep s c caseId case (completedCase case)

/--
What a command does to the cases.
-/
inductive CaseEffect (s : Store) (c : Command) (t : Store) : Prop where
  | kept (same : t.cases = s.cases)
  | opened (case : Case) (added : t.cases = s.cases ++ [case])
  | moved (caseId : Nat) (case after : Case) (found : s.cases[caseId]? = some case)
      (written : t.cases = s.cases.set caseId after) (step : CaseStep s c caseId case after)

section Cases

variable {c : Command} {s t : Store} {caseId expectedVersion : Nat}

theorem updateCase_cases {values : Case → Case}
    (h : s.updateCase caseId expectedVersion values = .ok t)
    : ∃ case, s.cases[caseId]? = some case ∧ case.version = expectedVersion
        ∧ t.cases = s.cases.set caseId { values case with version := case.version + 1 } := by
  unfold updateCase at h
  simp only [bind_eq_ok, orThrow_eq_ok, ensure_eq_ok, exists_const, pure_eq_ok] at h
  obtain ⟨case, hcase, hversion, rfl⟩ := h
  exact ⟨case, hcase, hversion, rfl⟩

/--
An update that leaves the status alone only counts the write.
-/
theorem updateCase_effect {values : Case → Case}
    (hstatus : ∀ case, (values case).status = case.status)
    (h : s.updateCase caseId expectedVersion values = .ok t) : CaseEffect s c t := by
  obtain ⟨case, hcase, _, hcases⟩ := updateCase_cases h
  exact .moved caseId case _ hcase hcases (.touched _ (hstatus case) rfl)

theorem assignToActor_effect {actorId : String}
    (h : s.assignToActor caseId actorId expectedVersion = .ok t) : CaseEffect s c t := by
  unfold assignToActor at h
  simp only [bind_eq_ok, orThrow_eq_ok] at h
  obtain ⟨_, _, _, _, h⟩ := h
  apply updateCase_effect _ h
  intro case
  rfl

theorem changeStatus_effect {target : CaseStatus}
    (h : s.changeStatus caseId expectedVersion target = .ok t)
    : CaseEffect s (.changeStatus caseId expectedVersion target) t := by
  obtain ⟨case, hcase, hversion, hcases⟩ := updateCase_cases h
  exact .moved caseId case _ hcase hcases (.changed expectedVersion target rfl hversion)

theorem addBusinessEvidence_effect [Digest] {now : Instant} {evidence : BusinessEvidenceCreate}
    (h : s.addBusinessEvidence now caseId expectedVersion evidence = .ok t) : CaseEffect s c t := by
  unfold addBusinessEvidence at h
  simp only [bind_eq_ok, orThrow_eq_ok] at h
  obtain ⟨_, _, h⟩ := h
  split at h
  . simp only [bind_eq_ok, ensure_eq_ok, exists_const, pure_eq_ok] at h
    exact .kept (by rw [h.2])
  . simp only [bind_eq_ok, pure_eq_ok] at h
    obtain ⟨updated, hupdated, rfl⟩ := h
    obtain ⟨case, hcase, _, hcases⟩ := updateCase_cases hupdated
    exact .moved caseId case _ hcase hcases (.touched _ rfl rfl)

theorem appendMessage_effect (h : s.appendMessage caseId = .ok t) : CaseEffect s c t := by
  unfold appendMessage at h
  simp only [bind_eq_ok, orThrow_eq_ok, pure_eq_ok] at h
  obtain ⟨case, hcase, rfl⟩ := h
  exact .moved caseId case _ hcase rfl (.touched _ rfl rfl)

theorem saveDraft_cases {subject body : String}
    (h : s.saveDraft caseId expectedVersion subject body = .ok t) : t.cases = s.cases := by
  unfold saveDraft at h
  simp only [bind_eq_ok, orThrow_eq_ok] at h
  obtain ⟨_, _, h⟩ := h
  split at h
  . simp only [bind_eq_ok, ensure_eq_ok, exists_const, pure_eq_ok] at h
    obtain ⟨_, rfl⟩ := h
    rfl
  . simp only [bind_eq_ok, orThrow_eq_ok, ensure_eq_ok, exists_const, pure_eq_ok] at h
    obtain ⟨_, _, _, rfl⟩ := h
    rfl

theorem maintainOrganization_cases {tables : OrganizationTables}
    (h : s.maintainOrganization tables = .ok t) : t.cases = s.cases := by
  unfold maintainOrganization at h
  simp only [bind_eq_ok, ensure_eq_ok, exists_const, pure_eq_ok] at h
  obtain ⟨_, _, rfl⟩ := h
  rfl

end Cases

section Briefs

variable {s t : Store} {now : Instant} {caseId : Nat}

theorem acquireGeneration_cases {ownerToken leaseSeconds maxAttempts : Nat}
    {inputFingerprint : String} {reservation : GenerationReservation inputFingerprint}
    (h : s.acquireGeneration now ownerToken caseId inputFingerprint leaseSeconds maxAttempts
      = .ok (t, reservation)) : t.cases = s.cases := by
  rcases acquireGeneration_eq_ok h with ⟨_, _, _, _, _, rfl, _⟩ | ⟨_, rfl, _⟩
  . rfl
  . rfl

theorem releaseGeneration_cases {plan : DecisionBriefGenerationPlan} {errorCode : String}
    {released : Bool} (h : s.releaseGeneration now caseId plan errorCode = .ok (t, released))
    : t.cases = s.cases := by
  rcases failGeneration_eq_ok h with ⟨_, rfl, _⟩ | ⟨_, _, rfl, _⟩
  . rfl
  . rfl

variable [Digest]

theorem prepareGeneration_cases {ownerToken expectedCaseVersion : Nat} {actor : ActorContext}
    {engine : EngineVersions} {resolution : PolicyResolution} {preparation : GenerationPreparation}
    (h : s.prepareGeneration now ownerToken actor engine caseId expectedCaseVersion resolution
      = .ok (t, preparation)) : t.cases = s.cases := by
  obtain ⟨policyEvidence, _, _, _, _, _, _, _, _, _, _, _, hfound⟩ := prepareGeneration_eq_ok h
  rcases hfound with ⟨_, _, _, rfl⟩ | ⟨_, _, hreserved⟩
  . rfl
  . rcases reserveGeneration_eq_ok hreserved with ⟨_, rfl, _⟩ | ⟨_, _, _, hacquired⟩
    . rfl
    . exact (acquireGeneration_cases hacquired).trans rfl

theorem persistGeneration_cases (hs : s.Sound) {actor : ActorContext}
    {plan : DecisionBriefGenerationPlan} {analysis : DecisionAnalysis}
    {resolution : PolicyResolution} {brief : DecisionBrief}
    (h : s.persistGeneration now actor caseId plan analysis resolution = .ok (t, brief))
    : t.cases = s.cases := by
  obtain ⟨stored, hstored, hcompleted⟩ := persistGeneration_eq_ok h
  obtain ⟨_, _, rfl⟩ := completeGeneration_eq_ok hcompleted
  rcases createOrGetBrief_eq_ok hs.history hstored with ⟨rfl, _⟩ | ⟨_, _, _, hrecords⟩
  . rfl
  . exact hrecords.cases

end Briefs

section Reviews

variable {s t : Store} {now : Instant} {reviewId expectedVersion : Nat} {actorId : String}

@[simp]
theorem reconcileExpired_cases (s : Store) (r : CaseReview)
    : (s.reconcileExpired now reviewId r).cases = s.cases := by
  unfold reconcileExpired
  dsimp only
  split <;> simp

theorem reconcileExpiredReviews_cases : (s.reconcileExpiredReviews now).cases = s.cases := by
  unfold reconcileExpiredReviews
  generalize List.range s.reviews.length = reviewIds
  induction reviewIds generalizing s with
  | nil => rfl
  | cons reviewId rest ih =>
    rw [List.foldl_cons, ih]
    split
    . exact reconcileExpired_cases s _
    . rfl

theorem getReview_cases {bundle : Option ReviewBundle}
    (h : s.getReview now reviewId = .ok (t, bundle)) : t.cases = s.cases := by
  unfold getReview at h
  split at h
  . simp only [pure_eq_ok, Prod.mk.injEq] at h
    rw [← h.1]
  . next r _ =>
    simp only [bind_eq_ok, pure_eq_ok, Prod.mk.injEq] at h
    obtain ⟨_, _, rfl, _⟩ := h
    exact reconcileExpired_cases s r

theorem submitReview_effect {caseId : Nat} {command : ReviewSubmission} {bundle : ReviewBundle}
    (h : s.submitReview now caseId actorId command = .ok (t, bundle))
    : CaseEffect s (.submitReview now caseId actorId command) t := by
  rcases submitReview_eq_ok h with
    rfl | ⟨case, _, _, _, _, _, hcase, _, _, _, _, hversion, _, _, hwritten⟩
  . exact .kept rfl
  . exact .moved caseId case _ hcase (by rw [hwritten]; rfl)
      (.submitted now actorId command rfl hversion)

theorem reserveReview_cases {bundle : ReviewBundle}
    (h : s.reserveReview now reviewId actorId expectedVersion = .ok (t, bundle))
    : t.cases = s.cases := by
  obtain ⟨found, _, _, _, _, hcases⟩ := reserveReview_eq_ok h
  rcases hcases with ⟨_, _, rfl⟩ | ⟨_, _, _, rfl⟩
  . exact reconcileExpired_cases s found
  . simp

variable [Digest]

/--
The snapshot of an imported review is never current.
-/
theorem freshness_governed {r : CaseReview} (h : (s.freshness r now).status = .current)
    : r.snapshot.approvalRuleId ≠ "APR-LEGACY" := by
  intro hlegacy
  unfold freshness staleReason at h
  simp [hlegacy] at h

theorem decideReview_effect {c : Command} {snapshotFingerprint reason : String}
    {decision : ReviewDecision} {bundle : ReviewBundle}
    (h : s.decideReview now reviewId actorId expectedVersion snapshotFingerprint decision reason
      = .ok (t, bundle)) : CaseEffect s c t := by
  obtain ⟨r, reservationId, p, memberId, member, advanced, published, hr, hdecides, hadvanced,
    ⟨drafts, rfl⟩, rfl⟩ := decideReview_eq_ok h
  obtain ⟨case, _, hcase, _, hcurrent, _⟩ := hdecides.current
  rcases advanceCaseAfterDecision_eq_ok hadvanced with rfl | ⟨found, hfound, rfl⟩
  . exact .kept (by simp)
  . obtain rfl : case = found := Option.some.inj (hcase.symm.trans hfound)
    exact .moved r.caseId case _ hcase (by simp [CaseReview.recordDecision])
      (.decided r decision (List.mem_of_getElem? hr) rfl (freshness_governed hdecides.fresh) hcurrent)

theorem importLegacyReview_cases {importerActorId : String} {command : LegacyReviewImport}
    {bundle : ReviewBundle} (h : s.importLegacyReview now importerActorId command = .ok (t, bundle))
    : t.cases = s.cases := by
  rcases importLegacyReview_eq_ok h with rfl | ⟨_, _, _, _, _, _, _, _, _, rfl⟩
  . rfl
  . rfl

end Reviews

section Actions

variable {s t : Store} {now : Instant} {actionId expectedVersion : Nat} {actorId : String}

/--
The completion of an action moves the case of the action.
-/
theorem completed_effect {c : Command} {b : CaseAction} {case : Case} {i : Nat}
    (hcase : s.cases[b.caseId]? = some case)
    (h : t = (s.setAction i b).setCase b.caseId (completedCase case)) : CaseEffect s c t :=
  .moved b.caseId case _ hcase (by rw [h]; rfl) .completed

theorem recordManualOutcome_effect {c : Command} {outcome : ManualActionOutcome} {reason : String}
    {item : ActionQueueItem}
    (h : s.recordManualOutcome now actionId actorId expectedVersion outcome reason = .ok (t, item))
    : CaseEffect s c t := by
  obtain ⟨a, memberId, _, _, _, _, _, _, _, hwritten, _⟩ := recordManualOutcome_eq_ok.mp h
  split at hwritten
  . obtain ⟨case, hcase, hwritten⟩ := hwritten
    exact completed_effect (b := a.recordManual memberId outcome reason now) hcase hwritten
  . rw [hwritten]
    exact .kept rfl

variable [Digest]

theorem resolveForAction_cases (s : Store) (actionType : String)
    : (s.resolveForAction actionType).1.cases = s.cases := by
  obtain ⟨_, _, _, heq, _⟩ := s.resolveForAction_eq actionType
  rw [heq]

theorem materializeActions_cases (approved : ApprovedReview) (rows : List (ProposedActionDraft × Nat))
    : (materializeActions approved now rows s).1.cases = s.cases := by
  induction rows generalizing s with
  | nil => rfl
  | cons row rest ih =>
    obtain ⟨proposedAction, proposedActionId⟩ := row
    have hfirst : (s.materializeAction approved now proposedActionId proposedAction).1.cases
        = s.cases := by
      unfold materializeAction
      split
      . rfl
      . exact resolveForAction_cases s _
    unfold materializeActions
    dsimp only
    rw [ih, hfirst]

theorem materializeApprovedReview_cases {reviewId : Nat} {bundles : List ActionBundle}
    (h : s.materializeApprovedReview now reviewId = .ok (t, bundles)) : t.cases = s.cases := by
  unfold materializeApprovedReview at h
  simp only [bind_eq_ok, pure_eq_ok, Prod.mk.injEq] at h
  obtain ⟨approved, _, _, _, rfl, _⟩ := h
  exact materializeActions_cases approved _

theorem importLegacyAction_cases {command : LegacyActionImport} {item : ActionQueueItem}
    (h : s.importLegacyAction now command = .ok (t, item)) : t.cases = s.cases := by
  rcases importLegacyAction_eq_ok h with ⟨rfl, _⟩ | ⟨_, _, _, _, _, _, _, _, ⟨_, _, _, _, rfl⟩ | rfl⟩
  . rfl
  . rfl
  . rfl

theorem getAction_cases {item : Option ActionQueueItem}
    (h : s.getAction now actionId = .ok (t, item)) : t.cases = s.cases := by
  unfold getAction at h
  split at h
  . simp only [pure_eq_ok, Prod.mk.injEq] at h
    rw [← h.1]
  . simp only [bind_eq_ok, pure_eq_ok, Prod.mk.injEq] at h
    obtain ⟨_, _, rfl, _⟩ := h
    rfl

theorem finishExecutionSuccess_effect {c : Command} {lease : ActionExecutionLease}
    {receipt : ActionGatewayReceipt} {item : ActionQueueItem}
    (h : s.finishExecutionSuccess now lease receipt = .ok (t, item)) : CaseEffect s c t := by
  obtain ⟨_, attempt, _, _, ⟨_, _, rfl⟩ | ⟨bound, stored, case, _, _, _, hcase, hwritten⟩⟩ :=
    finishExecutionSuccess_eq_ok h
  . exact .kept rfl
  . exact completed_effect (b := bound.succeed lease.attemptId attempt receipt stored now) hcase
      hwritten

theorem finishReconciliation_effect {c : Command} {lease : ActionReconciliationLease}
    {result : ActionLookupResult} {item : ActionQueueItem}
    (h : s.finishReconciliation now lease result = .ok (t, item)) : CaseEffect s c t := by
  obtain ⟨_, _, _, _, ⟨_, rfl⟩ | ⟨b, completed, _, _, _, hwritten⟩⟩ := finishReconciliation_eq_ok h
  . exact .kept rfl
  cases completed with
  | true =>
    obtain ⟨case, hcase, hwritten⟩ := hwritten
    exact completed_effect hcase hwritten
  | false =>
    obtain rfl : t = _ := hwritten
    exact .kept rfl

end Actions

variable [Digest]

/--
What an accepted command does to the cases.
-/
theorem perform_effect {s t : Store} {c : Command} {output : Output} (hs : s.Sound)
    (h : s.perform c = .ok (t, output)) : CaseEffect s c t := by
  cases c <;> simp only [perform, silently_eq_ok, answer_eq_ok, pure_eq_ok, Prod.mk.injEq] at h
  case maintainOrganization => exact .kept (maintainOrganization_cases h.1)
  case openCase case => exact .opened case (by rw [← h.1]; rfl)
  case assignToActor => exact assignToActor_effect h.1
  case changeStatus => exact changeStatus_effect h.1
  case addMessage => exact updateCase_effect (fun _ => rfl) h.1
  case addBusinessEvidence => exact addBusinessEvidence_effect h.1
  case appendMessage => exact appendMessage_effect h.1
  case saveDraft => exact .kept (saveDraft_cases h.1)
  case acquireGeneration => exact .kept (acquireGeneration_cases h.choose_spec.1)
  case prepareGeneration => exact .kept (prepareGeneration_cases h.choose_spec.1)
  case persistGeneration => exact .kept (persistGeneration_cases hs h.choose_spec.1)
  case releaseGeneration => exact .kept (releaseGeneration_cases h.choose_spec.1)
  case getReview => exact .kept (getReview_cases h.choose_spec.1)
  case reconcileExpiredReviews => exact .kept (by rw [← h.1]; exact reconcileExpiredReviews_cases)
  case submitReview => exact submitReview_effect h.choose_spec.1
  case reserveReview => exact .kept (reserveReview_cases h.choose_spec.1)
  case decideReview => exact decideReview_effect h.choose_spec.1
  case importLegacyReview => exact .kept (importLegacyReview_cases h.choose_spec.1)
  case materializeApprovedReview => exact .kept (materializeApprovedReview_cases h.choose_spec.1)
  case importLegacyAction => exact .kept (importLegacyAction_cases h.choose_spec.1)
  case getAction => exact .kept (getAction_cases h.choose_spec.1)
  case reconcileAbandonedActions => exact .kept (by rw [← h.1]; rfl)
  case prepareExecution =>
    obtain ⟨_, _, _, _, _, _, _, _, _, _, _, _, _, hwritten, _⟩ :=
      prepareExecution_eq_ok.mp h.choose_spec.1
    exact .kept (by rw [hwritten]; rfl)
  case finishExecutionSuccess => exact finishExecutionSuccess_effect h.choose_spec.1
  case finishExecutionError =>
    obtain ⟨_, _, _, _, ⟨_, hwritten⟩ | ⟨_, hwritten⟩⟩ := finishExecutionError_eq_ok h.choose_spec.1
    . exact .kept (by rw [hwritten])
    . exact .kept (by rw [hwritten]; rfl)
  case prepareReconciliation =>
    obtain ⟨_, _, _, _, _, _, _, _, _, _, _, _, _, _, _, hwritten, _⟩ :=
      prepareReconciliation_eq_ok h.choose_spec.1
    exact .kept (by rw [hwritten]; rfl)
  case finishReconciliation => exact finishReconciliation_effect h.choose_spec.1
  case recordManualOutcome => exact recordManualOutcome_effect h.choose_spec.1
  case escalate =>
    obtain ⟨_, _, _, _, _, _, _, _, hwritten, _⟩ := escalate_eq_ok.mp h.choose_spec.1
    exact .kept (by rw [hwritten]; rfl)

end CaseResolution
