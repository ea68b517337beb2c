import CaseResolution.Actions.Lemmas.Execution
import CaseResolution.Actions.Lemmas.Materialization
import CaseResolution.Actions.Lemmas.Recovery
import CaseResolution.Briefs.Lemmas.Service
import CaseResolution.Reviews.Lemmas.Workflow

/-!
This module contains the refinement of the service by its elementary writes: every accepted command
is a sequence of writes, so a run of the service keeps the invariant and what writes keep.
-/

namespace CaseResolution

open Guard Store

variable [Digest]

section Cases

variable {c : Command} {s t : Store} {caseId expectedVersion : Nat}

theorem maintained_of_eq (h : t = { s with
    contexts := t.contexts, drafts := t.drafts, policyEvidence := t.policyEvidence })
    : Write c s t := by
  refine .maintained ?_
  rw [h]
  exact ⟨rfl, rfl, rfl, rfl, rfl, rfl, rfl, le_refl _⟩

theorem updateCase_writes {values : Case → Case}
    (h : s.updateCase caseId expectedVersion values = .ok t) : Writes c s t := by
  unfold updateCase at h
  simp only [bind_eq_ok, orThrow_eq_ok, ensure_eq_ok, exists_const, pure_eq_ok] at h
  obtain ⟨case, hcase, _, rfl⟩ := h
  exact .single (.caseMoved caseId case _ hcase rfl)

theorem assignToActor_writes {actorId : String}
    (h : s.assignToActor caseId actorId expectedVersion = .ok t) : Writes c s t := by
  unfold assignToActor at h
  simp only [bind_eq_ok, orThrow_eq_ok] at h
  obtain ⟨_, _, _, _, h⟩ := h
  exact updateCase_writes h

theorem addBusinessEvidence_writes {now : Instant} {evidence : BusinessEvidenceCreate}
    (h : s.addBusinessEvidence now caseId expectedVersion evidence = .ok t) : Writes c s t := by
  unfold addBusinessEvidence at h
  simp only [bind_eq_ok, orThrow_eq_ok] at h
  obtain ⟨case, _, h⟩ := h
  split at h
  . simp only [bind_eq_ok, ensure_eq_ok, exists_const, pure_eq_ok] at h
    obtain ⟨_, rfl⟩ := h
    exact .refl
  . simp only [bind_eq_ok, pure_eq_ok] at h
    obtain ⟨updated, hupdated, rfl⟩ := h
    exact (updateCase_writes hupdated).tail (maintained_of_eq rfl)

theorem appendMessage_writes (h : s.appendMessage caseId = .ok t) : Writes c s t := by
  unfold appendMessage at h
  simp only [bind_eq_ok, orThrow_eq_ok, pure_eq_ok] at h
  obtain ⟨case, hcase, rfl⟩ := h
  exact .single (.caseMoved caseId case _ hcase rfl)

theorem saveDraft_writes {subject body : String}
    (h : s.saveDraft caseId expectedVersion subject body = .ok t) : Writes c s t := by
  unfold saveDraft at h
  simp only [bind_eq_ok, orThrow_eq_ok] at h
  obtain ⟨_, _, h⟩ := h
  split at h
  . simp only [bind_eq_ok, ensure_eq_ok, exists_const, pure_eq_ok] at h
    obtain ⟨_, rfl⟩ := h
    exact .single (maintained_of_eq rfl)
  . simp only [bind_eq_ok, orThrow_eq_ok, ensure_eq_ok, exists_const, pure_eq_ok] at h
    obtain ⟨_, _, _, rfl⟩ := h
    exact .single (maintained_of_eq rfl)

theorem maintainOrganization_writes {tables : OrganizationTables}
    (h : s.maintainOrganization tables = .ok t) : Writes c s t := by
  unfold maintainOrganization at h
  simp only [bind_eq_ok, ensure_eq_ok, exists_const, pure_eq_ok] at h
  obtain ⟨_, hconnections, rfl⟩ := h
  exact .single (.maintained ⟨rfl, rfl, rfl, rfl, rfl, rfl, rfl, hconnections⟩)

end Cases

section Briefs

variable {c : Command} {s t : Store} {now : Instant} {caseId : Nat}

theorem acquireGeneration_writes {ownerToken leaseSeconds maxAttempts : Nat}
    {inputFingerprint : String} {reservation : GenerationReservation inputFingerprint}
    (hlimit : c.maxAttempts = maxAttempts)
    (h : s.acquireGeneration now ownerToken caseId inputFingerprint leaseSeconds maxAttempts
      = .ok (t, reservation)) : Writes c s t := by
  rcases acquireGeneration_eq_ok h with ⟨_, _, _, _, _, rfl, _⟩ | ⟨_, rfl, _, hstep⟩
  . exact .refl
  . refine .single (.generationStepped caseId inputFingerprint _ ?_)
    rcases hstep with ⟨hnone, hpositive, rfl⟩ | ⟨existing, hexisting, hopen, hattempt, rfl⟩
    . exact .first ownerToken _ hnone (by omega)
    . exact .takenOver existing ownerToken _ hexisting hopen (by omega)

theorem prepareGeneration_writes {ownerToken expectedCaseVersion : Nat} {actor : ActorContext}
    {engine : EngineVersions} {resolution : PolicyResolution} {preparation : GenerationPreparation}
    (hlimit : c.maxAttempts = maxDecisionGenerationAttempts)
    (h : s.prepareGeneration now ownerToken actor engine caseId expectedCaseVersion resolution
      = .ok (t, preparation)) : Writes c s t := by
  obtain ⟨policyEvidence, _, _, _, _, _, _, _, _, _, _, _, hfound⟩ := prepareGeneration_eq_ok h
  have hrefreshed : Writes c s { s with policyEvidence := policyEvidence } :=
    .single (maintained_of_eq rfl)
  rcases hfound with ⟨_, _, _, rfl⟩ | ⟨_, _, hreserved⟩
  . exact hrefreshed
  . rcases reserveGeneration_eq_ok hreserved with ⟨_, rfl, _⟩ | ⟨_, _, _, hacquired⟩
    . exact hrefreshed
    . exact hrefreshed.trans (acquireGeneration_writes hlimit hacquired)

theorem createOrGetBrief_writes (hs : s.Sound) {command : DecisionBriefCreate}
    {brief : DecisionBrief} (h : s.createOrGetBrief caseId command = .ok (t, brief))
    : Writes c s t ∧ t.findRun caseId command.inputFingerprint = some brief.runId := by
  rcases createOrGetBrief_eq_ok hs.history h with ⟨rfl, hload⟩ | ⟨_, rfl, hrunId, hrec⟩
  . exact ⟨.refl, (hs.history.loaded hload).1⟩
  . refine ⟨.single (.briefRecorded _ _ _ hrec), ?_⟩
    rw [hrunId]
    have hrun : t.runs[s.runs.length]? = some (command.newRun brief.version.caseId) := by
      simp [hrec.runs]
    cases hfound : t.findRun brief.version.caseId command.inputFingerprint with
    | none =>
      have hmem := List.mem_of_getElem? hrun
      exact absurd rfl (findRun_eq_none.mp hfound _ hmem rfl)
    | some runId =>
      obtain ⟨run, hrun', hcase, hfingerprint⟩ := findRun_eq_some hfound
      rw [(hs.history.of_recorded hrec).run_unique runId _ run _ hrun' hrun hcase hfingerprint]

theorem persistGeneration_writes (hs : s.Sound) {actor : ActorContext}
    {plan : DecisionBriefGenerationPlan} {analysis : DecisionAnalysis}
    {resolution : PolicyResolution} {brief : DecisionBrief}
    (h : s.persistGeneration now actor caseId plan analysis resolution = .ok (t, brief))
    : Writes c s t := by
  obtain ⟨stored, hstored, hcompleted⟩ := persistGeneration_eq_ok h
  obtain ⟨hwrites, hrun⟩ := createOrGetBrief_writes (c := c) hs hstored
  obtain ⟨row, hheld, rfl⟩ := completeGeneration_eq_ok hcompleted
  obtain ⟨hrow, _, _, hrunning⟩ := heldGeneration_eq_some.mp hheld
  refine hwrites.tail (.generationStepped caseId _ _ (.completed row brief.runId now hrow hrunning ?_))
  rw [plan.lease_inputFingerprint]
  exact hrun

theorem releaseGeneration_writes {plan : DecisionBriefGenerationPlan} {errorCode : String}
    {released : Bool} (h : s.releaseGeneration now caseId plan errorCode = .ok (t, released))
    : Writes c s t := by
  rcases failGeneration_eq_ok h with ⟨_, rfl, _⟩ | ⟨row, hheld, rfl, _⟩
  . exact .refl
  . obtain ⟨hrow, _, _, hrunning⟩ := heldGeneration_eq_some.mp hheld
    exact .single (.generationStepped caseId _ _ (.failed row now _ hrow hrunning))

end Briefs

section Reviews

variable {c : Command} {s t : Store} {now : Instant} {reviewId expectedVersion : Nat}
  {actorId : String}

theorem setProposalState_writes (s : Store) (r : CaseReview) (state : DecisionProposalState)
    : Writes c s (s.setProposalState r state) := by
  rcases s.setProposalState_cases r state with h | ⟨proposal, hproposal, _, h⟩
  . rw [h]
  . rw [h]
    exact .single (.proposalMoved _ proposal state hproposal)

theorem reconcileExpired_writes (hnow : c.instant = some now) {r : CaseReview}
    (hr : s.reviews[reviewId]? = some r) : Writes c s (s.reconcileExpired now reviewId r) := by
  have hexpired : Writes c s (s.setReview reviewId (r.expire now)) :=
    .single (.reviewStepped reviewId r _ hr (.expired now hnow))
  unfold reconcileExpired
  dsimp only
  split
  . exact hexpired.trans (setProposalState_writes _ _ _)
  . exact hexpired

theorem reconcileExpiredReviews_writes (hnow : c.instant = some now)
    : Writes c s (s.reconcileExpiredReviews now) := by
  unfold reconcileExpiredReviews
  generalize List.range s.reviews.length = reviewIds
  induction reviewIds generalizing s with
  | nil => exact .refl
  | cons reviewId rest ih =>
    rw [List.foldl_cons]
    refine Relation.ReflTransGen.trans ?_ ih
    split
    . next r hr => exact reconcileExpired_writes hnow hr
    . exact .refl

theorem getReview_writes (hnow : c.instant = some now) {bundle : Option ReviewBundle}
    (h : s.getReview now reviewId = .ok (t, bundle)) : Writes c s t := by
  unfold getReview at h
  split at h
  . simp only [pure_eq_ok, Prod.mk.injEq] at h
    obtain ⟨rfl, _⟩ := h
    exact .refl
  . next r hr =>
    simp only [bind_eq_ok, pure_eq_ok, Prod.mk.injEq] at h
    obtain ⟨_, _, rfl, _⟩ := h
    exact reconcileExpired_writes hnow hr

theorem submitReview_writes (hs : s.Sound) {caseId : Nat} {command : ReviewSubmission}
    {bundle : ReviewBundle} (h : s.submitReview now caseId actorId command = .ok (t, bundle))
    : Writes c s t := by
  rcases submitReview_eq_ok h with rfl | ⟨case, proposalId, proposal, versionId, memberId, member,
    hcase, hproposalId, hproposal, hversionId, hcurrent, _, _, hfingerprint, rfl⟩
  . exact .refl
  obtain ⟨found, hfound, hproposalCase⟩ := findProposal_eq_some hproposalId
  obtain rfl : proposal = found := Option.some.inj (hproposal.symm.trans hfound)
  obtain ⟨version, hversion, hkey⟩ := Rows.exists_of_findIdx? hversionId
  simp only [decide_eq_true_eq] at hkey
  have hlt := (List.getElem?_eq_some_iff.mp hcase).1
  refine .tail (.single (.caseMoved caseId case
    { case with status := .needsReview, version := case.version + 1 } hcase rfl)) ?_
  refine .reviewAdded (s := s.setCase caseId _) _ {
    linked := ⟨_, proposal, version, List.getElem?_set_self hlt, hproposal, hversion, hproposalCase,
      hkey.1, hkey.2.1, hkey.2.2⟩
    valid := .of_submitted rfl rfl rfl
    taken := fun _ => ⟨_, List.getElem?_set_self hlt, le_refl _, fun _ => rfl⟩
    waits := fun _ => ⟨_, List.getElem?_set_self hlt, le_refl _, fun _ => rfl⟩
    fingerprint := hfingerprint
    historical := by simp [ReviewSubmission.newReview]
    unreserved := by simp [ReviewSubmission.newReview]
    attributed := by simp [ReviewSubmission.newReview]
  }

theorem reserveReview_writes {bundle : ReviewBundle}
    (hc : c = .reserveReview now reviewId actorId expectedVersion)
    (h : s.reserveReview now reviewId actorId expectedVersion = .ok (t, bundle))
    : Writes c s t := by
  obtain ⟨found, memberId, member, hfound, _, hcases⟩ := reserveReview_eq_ok h
  have hnow : c.instant = some now := by rw [hc]; rfl
  have hexpired := reconcileExpired_writes hnow hfound
  rcases hcases with ⟨_, _, rfl⟩ | ⟨hnone, hopen, hdistinct, rfl⟩
  . exact hexpired
  . have hlt := (List.getElem?_eq_some_iff.mp hfound).1
    have hrow : (s.reconcileExpired now reviewId found).reviews[reviewId]?
        = some (found.expire now) := by
      rw [reconcileExpired_reviews, List.getElem?_set_self hlt]
    refine (hexpired.tail (.reviewStepped reviewId _ _ hrow ?_)).trans (setProposalState_writes _ _ _)
    exact .held now actorId expectedVersion memberId member hc (no_active_of_expire hnone) hopen
      hdistinct

theorem decideReview_writes {snapshotFingerprint reason : String} {decision : ReviewDecision}
    {bundle : ReviewBundle}
    (hc : c = .decideReview now reviewId actorId expectedVersion snapshotFingerprint decision reason)
    (h : s.decideReview now reviewId actorId expectedVersion snapshotFingerprint decision reason
      = .ok (t, bundle)) : Writes c s t := by
  obtain ⟨r, reservationId, p, memberId, member, advanced, published, hr, hdecides, hadvanced,
    ⟨drafts, rfl⟩, rfl⟩ := decideReview_eq_ok h
  obtain ⟨q, hq, hactive⟩ := CaseReview.heldReservation_eq_some hdecides.held
  obtain rfl : p = q := Option.some.inj (hdecides.reservation.symm.trans hq)
  refine .trans ?_ (setProposalState_writes _ _ _)
  refine .tail (b := advanced) ?_ (maintained_of_eq rfl)
  refine .head (.reviewStepped reviewId r _ hr (.decided now actorId expectedVersion
    snapshotFingerprint decision reason reservationId p memberId member hc hdecides.undecided hq
    hactive hdecides.unexpired hdecides.reserver hdecides.authority)) ?_
  rcases advanceCaseAfterDecision_eq_ok hadvanced with rfl | ⟨case, hcase, rfl⟩
  . exact .refl
  . exact .single (.caseMoved _ case _ hcase rfl)

theorem importLegacyReview_writes (hs : s.Sound) {importerActorId : String}
    {command : LegacyReviewImport} {bundle : ReviewBundle}
    (h : s.importLegacyReview now importerActorId command = .ok (t, bundle)) : Writes c s t := by
  rcases importLegacyReview_eq_ok h with rfl | ⟨versionId, version, case, proposal, importerId,
    hversion, hcase, hproposal, hfingerprint, rfl⟩
  . exact .refl
  obtain ⟨found, hfound, hproposalCase, _⟩ :=
    hs.history.version_proposal version (List.mem_of_getElem? hversion)
  obtain rfl : proposal = found := Option.some.inj (hproposal.symm.trans hfound)
  refine .single (.reviewAdded _ {
    linked := ⟨case, proposal, version, hcase, hproposal, hversion, hproposalCase, rfl, rfl, rfl⟩
    valid := .of_imported command versionId version case.version importerId
    taken := by simp [SnapshotTaken, LegacyReviewImport.newReview]
    waits := by simp [WaitsFor, LegacyReviewImport.newReview]
    fingerprint := hfingerprint
    historical := ?_
    unreserved := ?_
    attributed := fun _ => ⟨_, List.mem_singleton_self _, by simp [LegacyReviewImport.reservation]⟩
  })
  . simp only [LegacyReviewImport.newReview, LegacyReviewImport.decisions]
    cases command.decision <;> simp
  . simp [LegacyReviewImport.newReview, LegacyReviewImport.reservation]

end Reviews

section Actions

variable {c : Command} {s t : Store} {now : Instant} {actionId expectedVersion : Nat}
  {actorId : String}

theorem abandoned_writes {a : CaseAction} (ha : s.actions[actionId]? = some a)
    : Writes c s (s.setAction actionId (a.reconcileAbandoned now)) :=
  .single (.actionStepped actionId a _ ha (.abandoned now)
    fun h => .inl (CaseAction.status_of_reconcileAbandoned (by simp) h))

theorem getAction_writes {item : Option ActionQueueItem}
    (h : s.getAction now actionId = .ok (t, item)) : Writes c s t := by
  unfold getAction at h
  split at h
  . simp only [pure_eq_ok, Prod.mk.injEq] at h
    obtain ⟨rfl, _⟩ := h
    exact .refl
  . next a ha =>
    simp only [bind_eq_ok, pure_eq_ok, Prod.mk.injEq] at h
    obtain ⟨_, _, rfl, _⟩ := h
    exact abandoned_writes ha

theorem reconcileAbandonedActions_writes : Writes c s (s.reconcileAbandonedActions now) := by
  refine Rows.map_of_set (P := fun actions => Writes c s { s with actions := actions }) .refl ?_
  intro actions i a hwrites ha
  exact hwrites.trans (abandoned_writes (s := { s with actions := actions }) ha)

theorem prepareExecution_writes {command : ActionCommand} {lease : ActionExecutionLease}
    (hc : c = .prepareExecution now actionId actorId expectedVersion command)
    (h : s.prepareExecution now actionId actorId expectedVersion command = .ok (t, lease))
    : Writes c s t := by
  obtain ⟨found, a, memberId, _, _, hfound, rfl, _, _, hblocker, hstarts, _, _, rfl, _⟩ :=
    prepareExecution_eq_ok.mp h
  obtain ⟨_, hreceipt, _, heligible, _⟩ := (effectiveBlocker_eq_none_iff.mp hblocker).1
  have hlt := (List.getElem?_eq_some_iff.mp hfound).1
  rw [← setAction_setAction s actionId (found.reconcileAbandoned now)]
  refine (abandoned_writes hfound).tail (.actionStepped actionId _ _ ?_ (.started now actorId
    expectedVersion command memberId hc heligible (CaseAction.receipt_eq_none.mp hreceipt) ?_) ?_)
  . simp [hlt]
  . rcases hstarts with ⟨_, hstatus⟩ | ⟨_, hstatus, _⟩
    . exact .inl hstatus
    . exact .inr hstatus
  . simp [CaseAction.start]

theorem recordReceipt_caseId {a bound : CaseAction} {attemptId : Nat}
    {receipt : ActionGatewayReceipt} {stored : CaseActionReceipt}
    (h : a.recordReceipt attemptId receipt now = .ok (bound, stored)) : bound.caseId = a.caseId :=
  congrArg ActionGrant.caseId (persists_of_recordReceipt h).grant

theorem finishExecutionSuccess_writes {lease : ActionExecutionLease} {receipt : ActionGatewayReceipt}
    {item : ActionQueueItem} (hc : c = .finishExecutionSuccess now lease receipt)
    (h : s.finishExecutionSuccess now lease receipt = .ok (t, item)) : Writes c s t := by
  obtain ⟨a, attempt, ha, hattempt, ⟨_, _, rfl⟩ | ⟨bound, stored, case, hrunning, _, hrecorded, hcase,
    rfl⟩⟩ := finishExecutionSuccess_eq_ok h
  . exact .refl
  . rw [recordReceipt_caseId hrecorded] at hcase ⊢
    exact .single (.actionCompleted lease.actionId a _ case ha (.succeeded now lease receipt attempt
      bound stored hc rfl hattempt hrunning hrecorded) hcase)

theorem finishExecutionError_writes {lease : ActionExecutionLease} {error : ActionGatewayError}
    {item : ActionQueueItem} (hc : c = .finishExecutionError now lease error)
    (h : s.finishExecutionError now lease error = .ok (t, item)) : Writes c s t := by
  obtain ⟨a, attempt, ha, hattempt, ⟨_, rfl⟩ | ⟨hrunning, rfl⟩⟩ := finishExecutionError_eq_ok h
  . exact .refl
  . refine .single (.actionStepped lease.actionId a _ ha
      (.failed now lease error attempt hc rfl hattempt hrunning) ?_)
    unfold CaseAction.failWith
    dsimp only
    split <;> simp

theorem prepareReconciliation_writes {lease : ActionReconciliationLease}
    (hc : c = .prepareReconciliation now actionId actorId expectedVersion)
    (h : s.prepareReconciliation now actionId actorId expectedVersion = .ok (t, lease))
    : Writes c s t := by
  obtain ⟨found, a, memberId, _, _, hfound, rfl, _, _, hrecovery, _, _, hlatest, halone, _, rfl, _⟩ :=
    prepareReconciliation_eq_ok h
  have hlt := (List.getElem?_eq_some_iff.mp hfound).1
  rw [← setAction_setAction s actionId (found.reconcileAbandoned now)]
  refine (abandoned_writes hfound).tail (.actionStepped actionId _ _ ?_ (.checkStarted now actorId
    expectedVersion memberId hc hrecovery hlatest halone) .inl)
  simp [hlt]

theorem finishReconciliation_writes {lease : ActionReconciliationLease} {result : ActionLookupResult}
    {item : ActionQueueItem} (hc : c = .finishReconciliation now lease result)
    (h : s.finishReconciliation now lease result = .ok (t, item)) : Writes c s t := by
  obtain ⟨a, r, ha, hr, ⟨_, rfl⟩ | ⟨b, completed, hrunning, _, hconcludes, hwritten⟩⟩ :=
    finishReconciliation_eq_ok h
  . exact .refl
  cases hconcludes with
  | completed receipt bound stored present returned recorded =>
    obtain ⟨case, hcase, rfl⟩ := hwritten
    have hcaseId : (bound.closeReconciliation lease.reconciliationId r .confirmedCompleted .completed
        (some stored.externalReference) result.detail now).caseId = a.caseId :=
      show bound.caseId = a.caseId from recordReceipt_caseId recorded
    rw [hcaseId] at hcase ⊢
    exact .single (.actionCompleted lease.actionId a _ case ha (.confirmed now lease result r receipt
      bound stored hc rfl hr hrunning recorded) hcase)
  | absent missing terminal =>
    obtain rfl : t = _ := hwritten
    exact .single (.actionStepped lease.actionId a _ ha (.unconfirmed now lease result r _ _ hc rfl hr
      hrunning (.inl ⟨rfl, rfl⟩)) (by simp [CaseAction.closeReconciliation]))
  | unknown inconclusive =>
    obtain rfl : t = _ := hwritten
    exact .single (.actionStepped lease.actionId a _ ha (.unconfirmed now lease result r _ _ hc rfl hr
      hrunning (.inr ⟨rfl, rfl⟩)) (by simp [CaseAction.closeReconciliation]))

theorem recordManualOutcome_writes {outcome : ManualActionOutcome} {reason : String}
    {item : ActionQueueItem}
    (hc : c = .recordManualOutcome now actionId actorId expectedVersion outcome reason)
    (h : s.recordManualOutcome now actionId actorId expectedVersion outcome reason = .ok (t, item))
    : Writes c s t := by
  obtain ⟨a, memberId, _, ha, _, _, hrecovery, hlatest, _, hwritten, _⟩ :=
    recordManualOutcome_eq_ok.mp h
  have hstep : ActionStep c actionId a (a.recordManual memberId outcome reason now) :=
    .recorded now actorId expectedVersion memberId outcome reason hc hrecovery hlatest
  split at hwritten
  . obtain ⟨case, hcase, rfl⟩ := hwritten
    exact .single (.actionCompleted actionId a _ case ha hstep hcase)
  . next hopen =>
    rw [hwritten]
    exact .single (.actionStepped actionId a _ ha hstep (by simp [CaseAction.recordManual, hopen]))

theorem escalate_writes {reason : String} {item : ActionQueueItem}
    (hc : c = .escalate now actionId actorId expectedVersion reason)
    (h : s.escalate now actionId actorId expectedVersion reason = .ok (t, item))
    : Writes c s t := by
  obtain ⟨a, memberId, _, ha, _, _, hopen, _, rfl, _⟩ := escalate_eq_ok.mp h
  exact .single (.actionStepped actionId a _ ha
    (.escalated now actorId expectedVersion memberId reason hc hopen)
    (by simp [CaseAction.escalateTo]))

end Actions

/--
Every accepted command is a sequence of its elementary writes.
-/
theorem perform_writes {s t : Store} {c : Command} {output : Output} (hs : s.Sound)
    (h : s.perform c = .ok (t, output)) : Writes c s t := by
  cases c <;> simp only [perform, silently_eq_ok, answer_eq_ok, pure_eq_ok, Prod.mk.injEq] at h
  case maintainOrganization => exact maintainOrganization_writes h.1
  case openCase case =>
    rw [← h.1]
    exact .single (.caseOpened case)
  case assignToActor => exact assignToActor_writes h.1
  case changeStatus => exact updateCase_writes h.1
  case addMessage => exact updateCase_writes h.1
  case addBusinessEvidence => exact addBusinessEvidence_writes h.1
  case appendMessage => exact appendMessage_writes h.1
  case saveDraft => exact saveDraft_writes h.1
  case acquireGeneration => exact acquireGeneration_writes rfl h.choose_spec.1
  case prepareGeneration => exact prepareGeneration_writes rfl h.choose_spec.1
  case persistGeneration => exact persistGeneration_writes hs h.choose_spec.1
  case releaseGeneration => exact releaseGeneration_writes h.choose_spec.1
  case getReview => exact getReview_writes rfl h.choose_spec.1
  case reconcileExpiredReviews =>
    rw [← h.1]
    exact reconcileExpiredReviews_writes rfl
  case submitReview => exact submitReview_writes hs h.choose_spec.1
  case reserveReview => exact reserveReview_writes rfl h.choose_spec.1
  case decideReview => exact decideReview_writes rfl h.choose_spec.1
  case importLegacyReview => exact importLegacyReview_writes hs h.choose_spec.1
  case materializeApprovedReview => exact materializeApprovedReview_writes h.choose_spec.1
  case importLegacyAction => exact importLegacyAction_writes hs h.choose_spec.1
  case getAction => exact getAction_writes h.choose_spec.1
  case reconcileAbandonedActions =>
    rw [← h.1]
    exact reconcileAbandonedActions_writes
  case prepareExecution => exact prepareExecution_writes rfl h.choose_spec.1
  case finishExecutionSuccess => exact finishExecutionSuccess_writes rfl h.choose_spec.1
  case finishExecutionError => exact finishExecutionError_writes rfl h.choose_spec.1
  case prepareReconciliation => exact prepareReconciliation_writes rfl h.choose_spec.1
  case finishReconciliation => exact finishReconciliation_writes rfl h.choose_spec.1
  case recordManualOutcome => exact recordManualOutcome_writes rfl h.choose_spec.1
  case escalate => exact escalate_writes rfl h.choose_spec.1

/--
Whether it is accepted or refused, a command is a sequence of its elementary writes.
-/
theorem next_writes {s : Store} (hs : s.Sound) (c : Command) : Writes c s (service.next s c) :=
  Machine.next_cases .refl fun _ _ h => perform_writes hs h

theorem next_sound {s : Store} (hs : s.Sound) (c : Command) : (service.next s c).Sound :=
  Writes.sound (next_writes hs c) hs

/--
Every run keeps the invariant.
-/
theorem run_sound {s : Store} (hs : s.Sound) (commands : List Command)
    : (service.run s commands).Sound :=
  Machine.run_invariant hs (fun _ c ht => next_sound ht c) commands

/--
No run takes anything back from a store.
-/
theorem run_grows {s : Store} (hs : s.Sound) (commands : List Command)
    : s.Grows (service.run s commands) :=
  Machine.run_related Grows.refl Grows.trans (fun _ c ht => next_sound ht c)
    (fun _ c ht => Writes.grows (next_writes ht c) ht) hs commands

end CaseResolution
