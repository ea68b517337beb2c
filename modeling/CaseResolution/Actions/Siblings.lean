import CaseResolution.Actions.Retry
import CaseResolution.Reviews.Impl.DraftAuthorization

/-!
This module contains what the completion of one action does to the rest of its approval: the other
actions of the review and its reply stay authorized exactly if the case has moved on already or they
were not authorized before.
-/

namespace CaseResolution

open Guard Store

/--
The commands that can complete the action at `i`.
-/
inductive Command.Settles (i : Nat) : Command → Prop where
  | receipt (now : Instant) (lease : ActionExecutionLease) (receipt : ActionGatewayReceipt)
      (leased : lease.actionId = i) : Settles i (.finishExecutionSuccess now lease receipt)
  | reconciliation (now : Instant) (lease : ActionReconciliationLease) (result : ActionLookupResult)
      (leased : lease.actionId = i) : Settles i (.finishReconciliation now lease result)
  | manual (now : Instant) (actorId : String) (expectedVersion : Nat) (outcome : ManualActionOutcome)
      (reason : String) : Settles i (.recordManualOutcome now i actorId expectedVersion outcome reason)

namespace Store

variable {s t : Store} {a b d : CaseAction} {now : Instant} {i caseId : Nat} {case : Case}

/--
While an approval authorizes nothing the connections do not matter.
-/
theorem effectiveBlocker_of_unauthorized (hs : ¬ s.PassesApproval d now)
    (ht : ¬ t.PassesApproval d now) : t.effectiveBlocker d now = s.effectiveBlocker d now := by
  unfold effectiveBlocker
  by_cases hfinal : d.status = .completed ∨ d.receipt.isSome = true
  . simp only [if_pos hfinal]
  by_cases htype : d.type ∈ retiredActionTypes
  . simp only [if_neg hfinal, if_pos htype]
  by_cases heligible : ¬ d.executionEligible = true
  . simp only [if_neg hfinal, if_neg htype, if_pos heligible]
  by_cases hexpired : d.authorizationExpiresAt ≤ now
  . simp only [if_neg hfinal, if_neg htype, if_neg heligible, if_pos hexpired]
  -- only the lineage is left to refuse the action
  have hstale : ∀ u : Store, ¬ u.PassesApproval d now
      → ¬ ∃ lineage ∈ u.actionLineage d, lineage.IsCurrent := by
    intro u hu hcurrent
    simp only [not_or, Option.not_isSome_iff_eq_none] at hfinal
    exact hu ⟨hfinal.1, hfinal.2, htype, not_not.mp heligible, not_le.mp hexpired, hcurrent⟩
  simp only [if_neg hfinal, if_neg htype, if_neg heligible, if_neg hexpired, if_neg (hstale s hs),
    if_neg (hstale t ht)]

theorem effectiveBlocker_stale_of_moved (hs : s.PassesApproval d now) (ht : ¬ t.PassesApproval d now)
    : t.effectiveBlocker d now = .ok (some .staleProposal) := by
  obtain ⟨hstatus, hreceipt, htype, heligible, hexpires, _⟩ := hs
  unfold effectiveBlocker
  rw [if_neg (by simp [hstatus, hreceipt]), if_neg htype, if_neg (by simp [heligible]),
    if_neg (not_le.mpr hexpires), if_neg]
  . rfl
  . exact fun hcurrent => ht ⟨hstatus, hreceipt, htype, heligible, hexpires, hcurrent⟩

/--
The actions of a review are about one case.
-/
theorem Sound.caseId_of_reviewId (hs : s.Sound) (hd : d ∈ s.actions) (ha : a ∈ s.actions)
    (hreview : d.reviewId = a.reviewId) : d.caseId = a.caseId := by
  obtain ⟨r, _, _, _, hr, _, _, _, _, hdcase, _⟩ := hs.actions_linked d hd
  obtain ⟨q, _, _, _, hq, _, _, _, _, hacase, _⟩ := hs.actions_linked a ha
  rw [hreview, hq] at hr
  obtain rfl := Option.some.inj hr
  rw [hdcase, hacase]

/--
An approval that passes is not blocked by the case.
-/
theorem effectiveBlocker_ne_stale (h : s.PassesApproval d now)
    : s.effectiveBlocker d now ≠ .ok (some .staleProposal) := by
  rw [effectiveBlocker_of_passes h]
  intro hstale
  obtain ⟨connection, _, hblocker⟩ := bind_eq_ok.mp hstale
  split at hblocker <;> simp at hblocker

theorem not_passesApproval_of_moved (hs : s.Sound) {moved : Case} (hd : d ∈ s.actions)
    (hcaseId : d.caseId = caseId) (hcase : s.cases[caseId]? = some case)
    (hmoved : case.version < moved.version)
    : ¬ ((s.setAction i b).setCase caseId moved).PassesApproval d now := by
  have hlt := (List.getElem?_eq_some_iff.mp hcase).1
  intro hpasses
  refine hpasses.not_spent ?_
  obtain ⟨review, _, _, _, hreview, _, _, _, _, hreviewCase, _, _, _, _, hgoverned⟩ :=
    hs.actions_linked d hd
  have hsnapshot := (hgoverned hpasses.2.2.2.1).2.1
  obtain ⟨case', hcase', hle, _⟩ := hs.reviews_taken review (List.mem_of_getElem? hreview) hsnapshot
  rw [← hreviewCase, hcaseId, hcase] at hcase'
  obtain rfl := Option.some.inj hcase'
  refine .inr ⟨review, moved, hreview, ?_, by omega⟩
  rw [hcaseId]
  exact List.getElem?_set_self hlt

end Store

section

variable [Digest]

namespace Store

variable {s t : Store} {a b d : CaseAction} {now : Instant} {i caseId : Nat} {case : Case}

/--
The newest approval of the case is current and contains a reply that is ready.
-/
def AuthorizesReply (s : Store) (now : Instant) (caseId : Nat) : Prop :=
  ∃ review reviewId version draft, s.newestApprovedReview caseId = some (review, reviewId)
    ∧ approvesSnapshot review = true
    ∧ s.staleReason review now = none
    ∧ review.snapshot.executionEligible = true
    ∧ s.versions[review.proposalVersionId]? = some version
    ∧ version.responseDraft = some draft
    ∧ draft.status = .ready

theorem freshness_status_ne_stale {review : CaseReview}
    : (s.freshness review now).status ≠ .stale ↔ s.staleReason review now = none := by
  unfold freshness
  cases s.staleReason review now <;> simp

theorem currentApproval_isOk_iff
    : (∃ authorization, s.currentApproval now caseId = .ok authorization)
        ↔ s.AuthorizesReply now caseId := by
  unfold currentApproval AuthorizesReply
  simp only [orThrow_bind_eq_ok, ensure_bind_eq_ok, pure_eq_ok, freshness_status_ne_stale]
  constructor
  . rintro ⟨_, ⟨review, reviewId⟩, hnewest, ⟨happroves, hfresh, heligible⟩, version, hversion, draft,
      hdraft, hready, _⟩
    exact ⟨review, reviewId, version, draft, hnewest, happroves, hfresh, heligible, hversion, hdraft,
      hready⟩
  . rintro ⟨review, reviewId, version, draft, hnewest, happroves, hfresh, heligible, hversion, hdraft,
      hready⟩
    exact ⟨_, ⟨review, reviewId⟩, hnewest, ⟨happroves, hfresh, heligible⟩, version, hversion, draft,
      hdraft, hready, rfl⟩

theorem case_version_of_fresh {review : CaseReview} (h : s.staleReason review now = none)
    : ∃ case, s.cases[review.caseId]? = some case ∧ case.version = review.snapshot.caseVersion := by
  unfold staleReason at h
  dsimp only at h
  split at h
  . simp at h
  split at h
  . next case _ _ hcase _ _ =>
    refine ⟨case, hcase, ?_⟩
    by_contra hversion
    rw [if_pos hversion] at h
    simp at h
  . simp at h

/--
Once the case has moved on, no snapshot taken of it before is current.
-/
theorem not_authorizesReply_of_moved (hs : s.Sound) {moved : Case}
    (hcase : s.cases[caseId]? = some case) (hmoved : case.version < moved.version)
    : ¬ (s.setCase caseId moved).AuthorizesReply now caseId := by
  rintro ⟨review, reviewId, _, _, hnewest, _, hfresh, heligible, _⟩
  have hmem := List.mem_filter.mp (List.argmax_mem hnewest)
  have hreview : review ∈ s.reviews := List.fst_mem_of_mem_zipIdx hmem.1
  have hcaseId : review.caseId = caseId := (of_decide_eq_true hmem.2).1
  obtain ⟨case', hcase', hle, _⟩ := hs.reviews_taken review hreview heligible
  rw [hcaseId, hcase] at hcase'
  obtain rfl := Option.some.inj hcase'
  have hlt := (List.getElem?_eq_some_iff.mp hcase).1
  obtain ⟨current, hcurrent, hversion⟩ := case_version_of_fresh hfresh
  rw [hcaseId, setCase_cases, List.getElem?_set_self hlt] at hcurrent
  obtain rfl := Option.some.inj hcurrent
  omega

/--
A command that completes an action writes the action and moves its case on, and nothing else.
-/
theorem settled_eq {c : Command} {output : Output} (hsettles : c.Settles i)
    (ha : s.actions[i]? = some a) (hopen : a.status ≠ .completed)
    (h : s.perform c = .ok (t, output)) (hb : t.actions[i]? = some b)
    (hcompleted : b.status = .completed)
    : ∃ case, s.cases[a.caseId]? = some case
        ∧ t = (s.setAction i b).setCase a.caseId (completedCase case) := by
  have hlt := (List.getElem?_eq_some_iff.mp ha).1
  have hunchanged : t ≠ s := by
    rintro rfl
    obtain rfl := Option.some.inj (ha.symm.trans hb)
    exact hopen hcompleted
  cases hsettles with
  | receipt now lease receipt leased =>
    subst leased
    obtain ⟨_, h, _⟩ := answer_eq_ok.mp h
    obtain ⟨a', attempt, ha', _, ⟨_, _, rfl⟩ | ⟨bound, stored, case, _, _, hrecorded, hcase, rfl⟩⟩ :=
      finishExecutionSuccess_eq_ok h
    . exact absurd rfl hunchanged
    . obtain rfl := Option.some.inj (ha.symm.trans ha')
      rw [recordReceipt_caseId hrecorded] at hcase hb ⊢
      rw [setCase_actions, setAction_actions, List.getElem?_set_self hlt] at hb
      obtain rfl := Option.some.inj hb
      exact ⟨case, hcase, rfl⟩
  | reconciliation now lease result leased =>
    subst leased
    obtain ⟨_, h, _⟩ := answer_eq_ok.mp h
    obtain ⟨a', r, ha', hr, ⟨_, rfl⟩ | ⟨b', completed, _, _, hconcludes, hwritten⟩⟩ :=
      finishReconciliation_eq_ok h
    . exact absurd rfl hunchanged
    . obtain rfl := Option.some.inj (ha.symm.trans ha')
      cases hconcludes with
      | completed receipt bound stored present returned recorded =>
        obtain ⟨case, hcase, rfl⟩ := hwritten
        rw [setCase_actions, setAction_actions, List.getElem?_set_self hlt] at hb
        obtain rfl := Option.some.inj hb
        have hcaseId : bound.caseId = a.caseId := recordReceipt_caseId recorded
        simp only [CaseAction.closeReconciliation, hcaseId] at hcase ⊢
        exact ⟨case, hcase, rfl⟩
      | absent =>
        obtain rfl : t = _ := hwritten
        rw [setAction_actions, List.getElem?_set_self hlt] at hb
        obtain rfl := Option.some.inj hb
        simp [CaseAction.closeReconciliation] at hcompleted
      | unknown =>
        obtain rfl : t = _ := hwritten
        rw [setAction_actions, List.getElem?_set_self hlt] at hb
        obtain rfl := Option.some.inj hb
        simp [CaseAction.closeReconciliation] at hcompleted
  | manual now actorId expectedVersion outcome reason =>
    obtain ⟨_, h, _⟩ := answer_eq_ok.mp h
    obtain ⟨a', memberId, _, ha', _, _, _, _, _, hwritten, _⟩ := recordManualOutcome_eq_ok.mp h
    obtain rfl := Option.some.inj (ha.symm.trans ha')
    split at hwritten
    . obtain ⟨case, hcase, rfl⟩ := hwritten
      rw [setCase_actions, setAction_actions, List.getElem?_set_self hlt] at hb
      obtain rfl := Option.some.inj hb
      exact ⟨case, hcase, rfl⟩
    . next hpartial =>
      rw [hwritten, setAction_actions, List.getElem?_set_self hlt] at hb
      obtain rfl := Option.some.inj hb
      simp [CaseAction.recordManual, hpartial] at hcompleted

end Store

/--
The completion of an action leaves the other actions of its review and its reply as authorized as they
were exactly if the case does not wait for the review any more, or nothing of it was authorized.
-/
theorem completion_keeps_approval_iff (init : InitialStore) (commands : List Command) {c : Command}
    {t : Store} {output : Output} {i : Nat} {a b : CaseAction} (hsettles : c.Settles i)
    (ha : (init.after commands).actions[i]? = some a) (hopen : a.status ≠ .completed)
    (h : (init.after commands).perform c = .ok (t, output)) (hb : t.actions[i]? = some b)
    (hcompleted : b.status = .completed) (now : Instant)
    : ((∀ (j : Nat) (d : CaseAction), j ≠ i → t.actions[j]? = some d → d.reviewId = a.reviewId
            → t.effectiveBlocker d now = (init.after commands).effectiveBlocker d now)
          ∧ ∀ authorization, t.currentApproval now a.caseId = .ok authorization
            ↔ (init.after commands).currentApproval now a.caseId = .ok authorization)
        ↔ (∃ case, (init.after commands).cases[a.caseId]? = some case ∧ case.status ≠ .needsReview)
          ∨ (∀ (j : Nat) (d : CaseAction), j ≠ i → (init.after commands).actions[j]? = some d
              → d.reviewId = a.reviewId → ¬ (init.after commands).PassesApproval d now)
            ∧ ¬ (init.after commands).AuthorizesReply now a.caseId := by
  have hs := init.after_sound commands
  obtain ⟨case, hcase, rfl⟩ := settled_eq hsettles ha hopen h hb hcompleted
  generalize init.after commands = s at *
  have hothers : ∀ j, j ≠ i
      → ((s.setAction i b).setCase a.caseId (completedCase case)).actions[j]? = s.actions[j]? := by
    intro j hj
    rw [setCase_actions, setAction_actions, List.getElem?_set_ne (Ne.symm hj)]
  by_cases hneeds : case.status = .needsReview
  . -- the case moves on, so nothing of the approval is authorized any more
    have hmoved : case.version < (completedCase case).version := by
      simp [completedCase, hneeds]
    have hunpassed : ∀ (j : Nat) (d : CaseAction), s.actions[j]? = some d → d.reviewId = a.reviewId
        → ¬ ((s.setAction i b).setCase a.caseId (completedCase case)).PassesApproval d now := by
      intro j d hd hreview
      exact not_passesApproval_of_moved hs (List.mem_of_getElem? hd)
        (hs.caseId_of_reviewId (List.mem_of_getElem? hd) (List.mem_of_getElem? ha) hreview) hcase hmoved
    have hunready : ¬ ((s.setAction i b).setCase a.caseId (completedCase case)).AuthorizesReply now
        a.caseId := not_authorizesReply_of_moved hs hcase hmoved
    constructor
    . rintro ⟨hblockers, hreply⟩
      refine .inr ⟨?_, ?_⟩
      . intro j d hj hd hreview hpasses
        have hsame := hblockers j d hj (by rw [hothers j hj, hd]) hreview
        have hstale := effectiveBlocker_stale_of_moved hpasses (hunpassed j d hd hreview)
        exact effectiveBlocker_ne_stale hpasses (hsame ▸ hstale)
      . intro hauthorized
        obtain ⟨authorization, hauthorization⟩ := currentApproval_isOk_iff.mpr hauthorized
        exact hunready (currentApproval_isOk_iff.mp ⟨_, (hreply authorization).mpr hauthorization⟩)
    . rintro (⟨case', hcase', hleft⟩ | ⟨hblocked, hunauthorized⟩)
      . obtain rfl := Option.some.inj (hcase.symm.trans hcase')
        exact absurd hneeds hleft
      . constructor
        . intro j d hj hd hreview
          rw [hothers j hj] at hd
          exact effectiveBlocker_of_unauthorized (hblocked j d hj hd hreview) (hunpassed j d hd hreview)
        . intro authorization
          exact ⟨fun hok => absurd (currentApproval_isOk_iff.mp ⟨_, hok⟩) hunready,
            fun hok => absurd (currentApproval_isOk_iff.mp ⟨_, hok⟩) hunauthorized⟩
  . -- the case stays as it is, and neither check looks at the actions
    have hsame : (s.setAction i b).setCase a.caseId (completedCase case) = s.setAction i b := by
      simp only [completedCase, if_neg hneeds, setCase, setAction, Rows.set_self hcase]
    rw [hsame]
    constructor
    . exact fun _ => .inl ⟨case, hcase, hneeds⟩
    . exact fun _ => ⟨fun j d _ _ _ => rfl, fun _ => Iff.rfl⟩

end

namespace Sample

attribute [local instance] Digest.checksum

def refundReceipt : ActionGatewayReceipt where
  provider := "billing"
  externalReference := "RF-1"
  idempotencyKey := ((initial.after execution).actions[0]?.map fun a => a.idempotencyKey).getD ""
  status := "succeeded"
  data := []
  duplicate := false

/--
The target confirms the refund.
-/
def confirmation : Command :=
  .finishExecutionSuccess 6 executionLease refundReceipt

/--
The refund completes, which strands the reversal of the same approval and its reply.
-/
theorem completion_strands
    : (∃ a ∈ (initial.after (execution ++ [confirmation])).actions[0]?, a.status = .completed)
      ∧ (∃ d ∈ (initial.after execution).actions[1]?,
        ((initial.after execution).effectiveBlocker d 6).toOption = some none
          ∧ ((initial.after (execution ++ [confirmation])).effectiveBlocker d 6).toOption
            = some (some .staleProposal))
      ∧ ((initial.after execution).currentApproval 6 0).isOk = true
      ∧ ((initial.after (execution ++ [confirmation])).currentApproval 6 0).isOk = false := by
  decide +kernel

theorem confirmed : ∃ result ∈ ((initial.after execution).perform confirmation).toOption,
    ∃ a ∈ (initial.after execution).actions[0]?, ∃ b ∈ result.1.actions[0]?,
      a.status ≠ .completed ∧ b.status = .completed := by
  decide +kernel

/--
Nothing of the approval is lost exactly if nothing of it was authorized.
-/
theorem completion_keeps_approval_confirmed : ∃ (t : Store) (a : CaseAction),
    (initial.after execution).actions[0]? = some a
      ∧ (((∀ (j : Nat) (d : CaseAction), j ≠ 0 → t.actions[j]? = some d → d.reviewId = a.reviewId
            → t.effectiveBlocker d 6 = (initial.after execution).effectiveBlocker d 6)
          ∧ ∀ authorization, t.currentApproval 6 a.caseId = .ok authorization
            ↔ (initial.after execution).currentApproval 6 a.caseId = .ok authorization)
        ↔ (∃ case, (initial.after execution).cases[a.caseId]? = some case
            ∧ case.status ≠ .needsReview)
          ∨ (∀ (j : Nat) (d : CaseAction), j ≠ 0 → (initial.after execution).actions[j]? = some d
              → d.reviewId = a.reviewId → ¬ (initial.after execution).PassesApproval d 6)
            ∧ ¬ (initial.after execution).AuthorizesReply 6 a.caseId) := by
  obtain ⟨⟨t, output⟩, h, a, ha, b, hb, hopen, hcompleted⟩ := confirmed
  exact ⟨t, a, ha, completion_keeps_approval_iff initial execution (.receipt 6 executionLease
    refundReceipt rfl) ha hopen (toOption_eq_some.mp h) hb hcompleted 6⟩

end Sample

end CaseResolution
