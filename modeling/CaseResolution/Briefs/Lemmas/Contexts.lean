import CaseResolution.System.Refinement

/-!
This module contains what the commands of the service do to the business objects: new evidence is added
to one case, which counts it, and every other command of the case, brief, review and action repositories
keeps the table.
-/

namespace CaseResolution

open Guard Store

section Cases

variable {s t : Store} {caseId expectedVersion : Nat}

theorem updateCase_contexts {values : Case → Case}
    (h : s.updateCase caseId expectedVersion values = .ok t) : t.contexts = s.contexts := by
  unfold updateCase at h
  simp only [bind_eq_ok, orThrow_eq_ok, ensure_eq_ok, exists_const, pure_eq_ok] at h
  obtain ⟨_, _, _, rfl⟩ := h
  rfl

theorem assignToActor_contexts {actorId : String}
    (h : s.assignToActor caseId actorId expectedVersion = .ok t) : t.contexts = s.contexts := by
  unfold assignToActor at h
  simp only [bind_eq_ok, orThrow_eq_ok] at h
  obtain ⟨_, _, _, _, h⟩ := h
  exact updateCase_contexts h

theorem appendMessage_contexts (h : s.appendMessage caseId = .ok t) : t.contexts = s.contexts := by
  unfold appendMessage at h
  simp only [bind_eq_ok, orThrow_eq_ok, pure_eq_ok] at h
  obtain ⟨_, _, rfl⟩ := h
  rfl

theorem saveDraft_contexts {subject body : String}
    (h : s.saveDraft caseId expectedVersion subject body = .ok t) : t.contexts = s.contexts := by
  unfold saveDraft at h
  simp only [bind_eq_ok, orThrow_eq_ok] at h
  obtain ⟨_, _, h⟩ := h
  split at h
  . simp only [bind_eq_ok, ensure_eq_ok, exists_const, pure_eq_ok] at h
    obtain ⟨_, rfl⟩ := h
    rfl
  . simp only [bind_eq_ok, orThrow_eq_ok, ensure_eq_ok, exists_const, pure_eq_ok] at h
    obtain ⟨_, _, _, rfl⟩ := h
    rfl

/--
New evidence is added together with the version of its case.
-/
theorem addBusinessEvidence_contexts [Digest] {now : Instant} {evidence : BusinessEvidenceCreate}
    (h : s.addBusinessEvidence now caseId expectedVersion evidence = .ok t)
    : t = s ∨ ∃ case, s.cases[caseId]? = some case
        ∧ t = { s.setCase caseId { case with version := case.version + 1 } with
          contexts := s.contexts ++ [newContext case caseId evidence now] } := by
  unfold addBusinessEvidence at h
  simp only [bind_eq_ok, orThrow_eq_ok] at h
  obtain ⟨case, hcase, h⟩ := h
  split at h
  . simp only [bind_eq_ok, ensure_eq_ok, exists_const, pure_eq_ok] at h
    exact .inl h.2.symm
  . simp only [updateCase, bind_eq_ok, orThrow_eq_ok, ensure_eq_ok, exists_const, pure_eq_ok] at h
    obtain ⟨_, ⟨same, hsame, _, rfl⟩, rfl⟩ := h
    obtain rfl : case = same := Option.some.inj (hcase.symm.trans hsame)
    exact .inr ⟨case, hcase, rfl⟩

end Cases

section Briefs

variable {s t : Store} {now : Instant} {caseId : Nat}

theorem acquireGeneration_contexts {ownerToken leaseSeconds maxAttempts : Nat}
    {inputFingerprint : String} {reservation : GenerationReservation inputFingerprint}
    (h : s.acquireGeneration now ownerToken caseId inputFingerprint leaseSeconds maxAttempts
      = .ok (t, reservation)) : t.contexts = s.contexts := by
  rcases acquireGeneration_eq_ok h with ⟨_, _, _, _, _, rfl, _⟩ | ⟨_, rfl, _⟩
  . rfl
  . rfl

theorem releaseGeneration_contexts {plan : DecisionBriefGenerationPlan} {errorCode : String}
    {released : Bool} (h : s.releaseGeneration now caseId plan errorCode = .ok (t, released))
    : t.contexts = s.contexts := by
  rcases failGeneration_eq_ok h with ⟨_, rfl, _⟩ | ⟨_, _, rfl, _⟩
  . rfl
  . rfl

theorem advanceProposal_contexts {proposalId : Nat} {state : DecisionProposalState}
    {proposal : CaseProposal} (h : s.advanceProposal caseId state = .ok (t, proposalId, proposal))
    : t.contexts = s.contexts := by
  rcases advanceProposal_eq_ok h with ⟨_, _, _, rfl⟩ | ⟨_, _, _, _, rfl⟩
  . rfl
  . rfl

variable [Digest]

theorem prepareGeneration_contexts {ownerToken expectedCaseVersion : Nat} {actor : ActorContext}
    {engine : EngineVersions} {resolution : PolicyResolution} {preparation : GenerationPreparation}
    (h : s.prepareGeneration now ownerToken actor engine caseId expectedCaseVersion resolution
      = .ok (t, preparation)) : t.contexts = s.contexts := by
  obtain ⟨policyEvidence, _, _, _, _, _, _, _, _, _, _, _, hfound⟩ := prepareGeneration_eq_ok h
  rcases hfound with ⟨_, _, _, rfl⟩ | ⟨_, _, hreserved⟩
  . rfl
  . rcases reserveGeneration_eq_ok hreserved with ⟨_, rfl, _⟩ | ⟨_, _, _, hacquired⟩
    . rfl
    . exact (acquireGeneration_contexts hacquired).trans rfl

theorem createOrGetBrief_contexts {command : DecisionBriefCreate} {brief : DecisionBrief}
    (h : s.createOrGetBrief caseId command = .ok (t, brief)) : t.contexts = s.contexts := by
  unfold createOrGetBrief at h
  rw [orThrow_bind_eq_ok] at h
  obtain ⟨_, _, h⟩ := h
  rw [ensure_bind_eq_ok, bind_eq_ok] at h
  obtain ⟨_, existing, _, h⟩ := h
  cases existing with
  | some existing =>
    simp only [pure_eq_ok, Prod.mk.injEq] at h
    rw [← h.1]
  | none =>
    simp only [bind_eq_ok, pure_eq_ok, Prod.mk.injEq] at h
    obtain ⟨⟨advanced, _, _⟩, hadvance, _, _, _, _, _, _, rfl, _⟩ := h
    exact (advanceProposal_contexts hadvance).trans rfl

theorem persistGeneration_contexts {actor : ActorContext} {plan : DecisionBriefGenerationPlan}
    {analysis : DecisionAnalysis} {resolution : PolicyResolution} {brief : DecisionBrief}
    (h : s.persistGeneration now actor caseId plan analysis resolution = .ok (t, brief))
    : t.contexts = s.contexts := by
  obtain ⟨stored, hstored, hcompleted⟩ := persistGeneration_eq_ok h
  obtain ⟨_, _, rfl⟩ := completeGeneration_eq_ok hcompleted
  exact (createOrGetBrief_contexts hstored).trans rfl

end Briefs

section Reviews

variable {s t : Store} {now : Instant} {reviewId expectedVersion : Nat} {actorId : String}

@[simp]
theorem setProposalState_contexts (s : Store) (r : CaseReview) (state : DecisionProposalState)
    : (s.setProposalState r state).contexts = s.contexts := by
  rcases s.setProposalState_cases r state with h | ⟨_, _, _, h⟩ <;> rw [h]
  rfl

@[simp]
theorem reconcileExpired_contexts (s : Store) (r : CaseReview)
    : (s.reconcileExpired now reviewId r).contexts = s.contexts := by
  unfold reconcileExpired
  dsimp only
  split
  . exact setProposalState_contexts _ _ _
  . rfl

theorem reconcileExpiredReviews_contexts
    : (s.reconcileExpiredReviews now).contexts = s.contexts := by
  unfold reconcileExpiredReviews
  generalize List.range s.reviews.length = reviewIds
  induction reviewIds generalizing s with
  | nil => rfl
  | cons reviewId rest ih =>
    rw [List.foldl_cons, ih]
    split
    . exact reconcileExpired_contexts s _
    . rfl

theorem getReview_contexts {bundle : Option ReviewBundle}
    (h : s.getReview now reviewId = .ok (t, bundle)) : t.contexts = s.contexts := by
  unfold getReview at h
  split at h
  . simp only [pure_eq_ok, Prod.mk.injEq] at h
    rw [← h.1]
  . next r _ =>
    simp only [bind_eq_ok, pure_eq_ok, Prod.mk.injEq] at h
    obtain ⟨_, _, rfl, _⟩ := h
    exact reconcileExpired_contexts s r

theorem submitReview_contexts {caseId : Nat} {command : ReviewSubmission} {bundle : ReviewBundle}
    (h : s.submitReview now caseId actorId command = .ok (t, bundle)) : t.contexts = s.contexts := by
  rcases submitReview_eq_ok h with rfl | ⟨_, _, _, _, _, _, _, _, _, _, _, _, _, _, hwritten⟩
  . rfl
  . rw [hwritten]
    rfl

theorem reserveReview_contexts {bundle : ReviewBundle}
    (h : s.reserveReview now reviewId actorId expectedVersion = .ok (t, bundle))
    : t.contexts = s.contexts := by
  obtain ⟨found, _, _, _, _, hcases⟩ := reserveReview_eq_ok h
  rcases hcases with ⟨_, _, rfl⟩ | ⟨_, _, _, rfl⟩
  . exact reconcileExpired_contexts s found
  . exact (setProposalState_contexts _ _ _).trans (reconcileExpired_contexts s found)

variable [Digest]

theorem decideReview_contexts {snapshotFingerprint reason : String} {decision : ReviewDecision}
    {bundle : ReviewBundle}
    (h : s.decideReview now reviewId actorId expectedVersion snapshotFingerprint decision reason
      = .ok (t, bundle)) : t.contexts = s.contexts := by
  obtain ⟨r, _, _, _, _, advanced, published, _, _, hadvanced, ⟨drafts, rfl⟩, rfl⟩ :=
    decideReview_eq_ok h
  rcases advanceCaseAfterDecision_eq_ok hadvanced with rfl | ⟨_, _, rfl⟩
  . exact (setProposalState_contexts _ _ _).trans rfl
  . exact (setProposalState_contexts _ _ _).trans rfl

theorem importLegacyReview_contexts {importerActorId : String} {command : LegacyReviewImport}
    {bundle : ReviewBundle} (h : s.importLegacyReview now importerActorId command = .ok (t, bundle))
    : t.contexts = s.contexts := by
  rcases importLegacyReview_eq_ok h with rfl | ⟨_, _, _, _, _, _, _, _, _, rfl⟩
  . rfl
  . rfl

end Reviews

section Actions

variable {s t : Store} {now : Instant} {actionId expectedVersion : Nat} {actorId : String}

theorem recordManualOutcome_contexts {outcome : ManualActionOutcome} {reason : String}
    {item : ActionQueueItem}
    (h : s.recordManualOutcome now actionId actorId expectedVersion outcome reason = .ok (t, item))
    : t.contexts = s.contexts := by
  obtain ⟨_, _, _, _, _, _, _, _, _, hwritten, _⟩ := recordManualOutcome_eq_ok.mp h
  split at hwritten
  . obtain ⟨_, _, hwritten⟩ := hwritten
    rw [hwritten]
    rfl
  . rw [hwritten]
    rfl

variable [Digest]

theorem materializeActions_contexts (approved : ApprovedReview)
    (rows : List (ProposedActionDraft × Nat))
    : (materializeActions approved now rows s).1.contexts = s.contexts := by
  induction rows generalizing s with
  | nil => rfl
  | cons row rest ih =>
    obtain ⟨proposedAction, proposedActionId⟩ := row
    have hfirst : (s.materializeAction approved now proposedActionId proposedAction).1.contexts
        = s.contexts := by
      unfold materializeAction
      split
      . rfl
      . obtain ⟨_, _, _, heq, _⟩ := s.resolveForAction_eq proposedAction.type
        dsimp only
        rw [heq]
    unfold materializeActions
    dsimp only
    rw [ih, hfirst]

theorem materializeApprovedReview_contexts {reviewId : Nat} {bundles : List ActionBundle}
    (h : s.materializeApprovedReview now reviewId = .ok (t, bundles)) : t.contexts = s.contexts := by
  unfold materializeApprovedReview at h
  simp only [bind_eq_ok, pure_eq_ok, Prod.mk.injEq] at h
  obtain ⟨approved, _, _, _, rfl, _⟩ := h
  exact materializeActions_contexts approved _

theorem importLegacyAction_contexts {command : LegacyActionImport} {item : ActionQueueItem}
    (h : s.importLegacyAction now command = .ok (t, item)) : t.contexts = s.contexts := by
  rcases importLegacyAction_eq_ok h with ⟨rfl, _⟩ | ⟨_, _, _, _, _, _, _, _, ⟨_, _, _, _, rfl⟩ | rfl⟩
  . rfl
  . rfl
  . rfl

theorem getAction_contexts {item : Option ActionQueueItem}
    (h : s.getAction now actionId = .ok (t, item)) : t.contexts = s.contexts := by
  unfold getAction at h
  split at h
  . simp only [pure_eq_ok, Prod.mk.injEq] at h
    rw [← h.1]
  . simp only [bind_eq_ok, pure_eq_ok, Prod.mk.injEq] at h
    obtain ⟨_, _, rfl, _⟩ := h
    rfl

theorem finishExecutionSuccess_contexts {lease : ActionExecutionLease}
    {receipt : ActionGatewayReceipt} {item : ActionQueueItem}
    (h : s.finishExecutionSuccess now lease receipt = .ok (t, item)) : t.contexts = s.contexts := by
  obtain ⟨_, _, _, _, ⟨_, _, rfl⟩ | ⟨_, _, _, _, _, _, _, hwritten⟩⟩ := finishExecutionSuccess_eq_ok h
  . rfl
  . rw [hwritten]
    rfl

theorem finishReconciliation_contexts {lease : ActionReconciliationLease}
    {result : ActionLookupResult} {item : ActionQueueItem}
    (h : s.finishReconciliation now lease result = .ok (t, item)) : t.contexts = s.contexts := by
  obtain ⟨_, _, _, _, ⟨_, rfl⟩ | ⟨_, completed, _, _, _, hwritten⟩⟩ := finishReconciliation_eq_ok h
  . rfl
  cases completed with
  | true =>
    obtain ⟨_, _, hwritten⟩ := hwritten
    rw [hwritten]
    rfl
  | false =>
    obtain rfl : t = _ := hwritten
    rfl

end Actions

variable [Digest]

/--
The commands that keep the business objects.
-/
def Command.KeepsContexts : Command → Prop
  | .maintainOrganization _ | .addBusinessEvidence .. => False
  | _ => True

theorem perform_contexts {s t : Store} {c : Command} {output : Output} (hkeeps : c.KeepsContexts)
    (h : s.perform c = .ok (t, output)) : t.contexts = s.contexts := by
  cases c <;> simp only [perform, silently_eq_ok, answer_eq_ok, pure_eq_ok, Prod.mk.injEq] at h
  case maintainOrganization => exact hkeeps.elim
  case openCase => rw [← h.1]; rfl
  case assignToActor => exact assignToActor_contexts h.1
  case changeStatus => exact updateCase_contexts h.1
  case addMessage => exact updateCase_contexts h.1
  case addBusinessEvidence => exact hkeeps.elim
  case appendMessage => exact appendMessage_contexts h.1
  case saveDraft => exact saveDraft_contexts h.1
  case acquireGeneration => exact acquireGeneration_contexts h.choose_spec.1
  case prepareGeneration => exact prepareGeneration_contexts h.choose_spec.1
  case persistGeneration => exact persistGeneration_contexts h.choose_spec.1
  case releaseGeneration => exact releaseGeneration_contexts h.choose_spec.1
  case getReview => exact getReview_contexts h.choose_spec.1
  case reconcileExpiredReviews => rw [← h.1]; exact reconcileExpiredReviews_contexts
  case submitReview => exact submitReview_contexts h.choose_spec.1
  case reserveReview => exact reserveReview_contexts h.choose_spec.1
  case decideReview => exact decideReview_contexts h.choose_spec.1
  case importLegacyReview => exact importLegacyReview_contexts h.choose_spec.1
  case materializeApprovedReview => exact materializeApprovedReview_contexts h.choose_spec.1
  case importLegacyAction => exact importLegacyAction_contexts h.choose_spec.1
  case getAction => exact getAction_contexts h.choose_spec.1
  case reconcileAbandonedActions => rw [← h.1]; rfl
  case prepareExecution =>
    obtain ⟨_, _, _, _, _, _, _, _, _, _, _, _, _, hwritten, _⟩ :=
      prepareExecution_eq_ok.mp h.choose_spec.1
    rw [hwritten]
    rfl
  case finishExecutionSuccess => exact finishExecutionSuccess_contexts h.choose_spec.1
  case finishExecutionError =>
    obtain ⟨_, _, _, _, ⟨_, hwritten⟩ | ⟨_, hwritten⟩⟩ := finishExecutionError_eq_ok h.choose_spec.1
    . rw [hwritten]
    . rw [hwritten]
      rfl
  case prepareReconciliation =>
    obtain ⟨_, _, _, _, _, _, _, _, _, _, _, _, _, _, _, hwritten, _⟩ :=
      prepareReconciliation_eq_ok h.choose_spec.1
    rw [hwritten]
    rfl
  case finishReconciliation => exact finishReconciliation_contexts h.choose_spec.1
  case recordManualOutcome => exact recordManualOutcome_contexts h.choose_spec.1
  case escalate =>
    obtain ⟨_, _, _, _, _, _, _, _, hwritten, _⟩ := escalate_eq_ok.mp h.choose_spec.1
    rw [hwritten]
    rfl

end CaseResolution
