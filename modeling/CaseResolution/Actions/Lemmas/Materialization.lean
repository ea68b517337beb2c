import CaseResolution.Actions.Impl.Materialization
import CaseResolution.System.Invariant

/-!
This module contains what the creation of actions writes: the connection an action is bound to
exists, a created action descends from its approval, and a historical attempt is only ever added to an
action that may not execute.
-/

namespace CaseResolution

open Guard

/--
An import completes an action exactly if there is a receipt.
-/
theorem CaseAction.appendLegacy_completed_iff {a : CaseAction} {command : LegacyActionImport}
    : (a.appendLegacy command).status = .completed ↔ a.receipts ≠ [] ∨ command.receipt ≠ none := by
  have hreceipt : a.receipt.isSome = true ↔ a.receipts ≠ [] := by
    rw [Option.isSome_iff_ne_none, ne_eq, receipt_eq_none]
  rw [← hreceipt, ← Option.isSome_iff_ne_none]
  unfold appendLegacy
  dsimp only
  split
  . next h => simp [h]
  . next h =>
    simp only [h, iff_false]
    split <;> simp

/--
What was read of an approval is what the store contains of it.
-/
structure ApprovedReview.IsStored (approved : ApprovedReview) (s : Store) : Prop where
  review : s.reviews[approved.reviewId]? = some approved.review
  decision : approved.review.decisions[approved.decisionId]? = some approved.decision
  approves : approved.decision.decision = .approve
  version : s.versions[approved.review.proposalVersionId]? = some approved.version
  fingerprint :
    approved.decision.snapshotFingerprint = approved.review.snapshot.snapshotFingerprint

namespace Store

variable {s t : Store}

theorem preferredConnection_lt {actionType : String} {connectionId : Nat} {connection : Connection}
    (h : s.preferredConnection actionType = some (connectionId, connection))
    : connectionId < s.connections.length := by
  unfold preferredConnection at h
  -- Each step keeps the connection chosen so far, or takes the candidate.
  have hfold : ∀ (choose : Option (Nat × Connection) → Nat × Connection → Option (Nat × Connection)),
      (∀ best candidate, choose best candidate = some candidate ∨ choose best candidate = best) →
      ∀ (candidates : List (Nat × Connection)) (best : Option (Nat × Connection)),
        (∀ candidate ∈ candidates, candidate.1 < s.connections.length)
          → (∀ chosen ∈ best, chosen.1 < s.connections.length)
          → ∀ chosen ∈ candidates.foldl choose best, chosen.1 < s.connections.length := by
    intro choose hchoose candidates
    induction candidates with
    | nil => exact fun best _ hbest => hbest
    | cons candidate rest ih =>
      intro best hcandidates hbest
      refine ih _ (fun other hother => hcandidates other (List.mem_cons_of_mem _ hother)) ?_
      have hhead := hcandidates candidate List.mem_cons_self
      obtain htaken | hkept := hchoose best candidate
      . rw [htaken]
        intro chosen hchosen
        cases hchosen
        exact hhead
      . rw [hkept]
        exact hbest
  refine hfold _ ?_ _ none ?_ (by simp) (connectionId, connection) h
  . intro best candidate
    cases best with
    | none => exact .inl rfl
    | some chosen =>
      dsimp only
      split
      . exact .inl rfl
      . exact .inr rfl
  . intro candidate hcandidate
    simp only [List.mem_filter, List.mem_map, Prod.exists] at hcandidate
    obtain ⟨⟨row, i, hzip, rfl⟩, _⟩ := hcandidate
    exact (List.getElem?_eq_some_iff.mp (List.mem_zipIdx_iff_getElem?.mp hzip)).1

theorem findApproval_eq_some {review : CaseReview} {decisionId : Nat}
    {decision : CaseReviewDecision} (h : findApproval review = some decisionId)
    (hdecision : review.decisions[decisionId]? = some decision)
    : decision.decision = .approve := by
  obtain ⟨found, hfound, happrove⟩ := Rows.exists_of_findIdx? h
  obtain rfl : decision = found := Option.some.inj (hdecision.symm.trans hfound)
  simpa using happrove

theorem approvedReview_eq_ok {reviewId : Nat} {approved : ApprovedReview}
    (h : s.approvedReview reviewId = .ok approved) : approved.IsStored s := by
  unfold approvedReview at h
  simp only [bind_eq_ok, orThrow_eq_ok, ensure_eq_ok, exists_const, pure_eq_ok] at h
  obtain ⟨review, hreview, _, decisionId, hfound, decision, hdecision, _, _, _, _, version, hversion,
    hfingerprint, rfl⟩ := h
  exact {
    review := hreview
    decision := hdecision
    approves := findApproval_eq_some hfound hdecision
    version := hversion
    fingerprint := hfingerprint
  }

theorem maintains_connections {connections : List Connection}
    (h : s.connections.length ≤ connections.length)
    : s.Maintains { s with connections := connections } where
  cases := rfl
  runs := rfl
  proposals := rfl
  versions := rfl
  reviews := rfl
  actions := rfl
  generations := rfl
  connections := h

theorem matchProposedAction_eq_some {version : CaseProposalVersion} {actionType : String}
    {proposedActionId : Nat} {proposedAction : ProposedActionDraft}
    (h : matchProposedAction version actionType = some (proposedActionId, proposedAction))
    : version.proposedActions[proposedActionId]? = some proposedAction := by
  have hrow : ∀ row ∈ version.proposedActions.zipIdx.map Prod.swap,
      version.proposedActions[row.1]? = some row.2 := by
    simp only [List.mem_map, Prod.exists, forall_exists_index, and_imp]
    rintro _ row i hzip rfl
    exact List.mem_zipIdx_iff_getElem?.mp hzip
  unfold matchProposedAction at h
  dsimp only at h
  split at h
  . next exact hexact =>
    refine hrow (proposedActionId, proposedAction) ?_
    refine List.mem_of_mem_filter (p := fun row => row.2.type = actionType) ?_
    rw [hexact, Option.some.inj h]
    exact List.mem_singleton_self _
  . split at h
    . next only honly =>
      refine hrow (proposedActionId, proposedAction) ?_
      rw [honly, Option.some.inj h]
      exact List.mem_singleton_self _
    . simp at h

/--
What was read of the history of an attempt is what the store contains of it.
-/
structure LegacyLineage.IsStored (lineage : LegacyLineage) (s : Store) : Prop where
  version : s.versions[lineage.versionId]? = some lineage.version
  legacy : lineage.version.legacyProposalVersionId ≠ none
  review : s.reviews[lineage.reviewId]? = some lineage.review
  review_case : lineage.review.caseId = lineage.version.caseId
  review_version : lineage.review.proposalVersionId = lineage.versionId
  decision : lineage.review.decisions[lineage.decisionId]? = some lineage.decision
  approves : lineage.decision.decision = .approve
  proposed : lineage.version.proposedActions[lineage.proposedActionId]? = some lineage.proposedAction

theorem legacyLineage_eq_ok {command : LegacyActionImport} {lineage : LegacyLineage}
    (h : s.legacyLineage command = .ok lineage) : lineage.IsStored s := by
  unfold legacyLineage at h
  simp only [bind_eq_ok, orThrow_eq_ok, pure_eq_ok] at h
  obtain ⟨versionId, hfound, version, hversion, _, _, _, _, reviewId, hreviewFound, review, hreview,
    decisionId, hdecisionFound, decision, hdecision, ⟨proposedActionId, proposedAction⟩, hproposed,
    rfl⟩ := h
  obtain ⟨version', hversion', hlegacy⟩ := Rows.exists_of_findIdx? hfound
  obtain rfl : version = version' := Option.some.inj (hversion.symm.trans hversion')
  obtain ⟨review', hreview', hkey⟩ := Rows.exists_of_findIdx? hreviewFound
  obtain rfl : review = review' := Option.some.inj (hreview.symm.trans hreview')
  simp only [decide_eq_true_eq] at hlegacy hkey
  exact {
    version := hversion
    legacy := by simp [hlegacy]
    review := hreview
    review_case := hkey.1
    review_version := hkey.2
    decision := hdecision
    approves := findApproval_eq_some hdecisionFound hdecision
    proposed := matchProposedAction_eq_some hproposed
  }

theorem newAction_of_legacy (hs : s.Sound) {lineage : LegacyLineage} (h : lineage.IsStored s)
    {command : LegacyActionImport} (hfinished : command.attemptOutcome ≠ .running)
    {connectionId : Nat} (hconnection : connectionId < s.connections.length)
    : s.NewAction ((command.newAction lineage connectionId).appendLegacy command) where
  linked := by
    obtain ⟨_, _, version, _, _, hversion, _, _, hproposal, _⟩ :=
      hs.reviews_linked lineage.review (List.mem_of_getElem? h.review)
    obtain rfl : lineage.version = version := by
      rw [h.review_version, h.version] at hversion
      exact Option.some.inj hversion
    exact ⟨lineage.review, lineage.decision, lineage.version, lineage.proposedAction, h.review,
      h.decision, h.approves, h.version, h.proposed, h.review_case.symm, hproposal,
      h.review_version.symm, rfl, hconnection, by simp [CaseAction.appendLegacy]⟩
  valid := by
    refine .of_import command hfinished ?_ ?_ ?_ ?_ ?_
    all_goals simp [LegacyActionImport.newAction]
  uncompleted := fun _ => rfl
  untouched := fun himported =>
    absurd ⟨_, List.mem_append_right _ (List.mem_singleton_self _), rfl⟩ himported
  receipts_imported := by
    intro r hr
    cases hreceipt : command.receipt with
    | none => simp [CaseAction.appendLegacy, hreceipt, LegacyActionImport.newAction] at hr
    | some receipt =>
      simp only [CaseAction.appendLegacy, hreceipt, LegacyActionImport.newAction,
        CaseAction.receipt, List.head?_nil, Option.isNone_none, if_true, List.nil_append,
        List.mem_singleton] at hr
      simp [hr, LegacyActionImport.newReceipt]

/--
The action a historical attempt belongs to, if it exists already.
-/
def LegacyLineage.action (s : Store) (lineage : LegacyLineage) : Option Nat :=
  s.findAction lineage.version.caseId lineage.versionId lineage.proposedActionId

/--
An action that a historical attempt belongs to may not execute.
-/
theorem legacy_ineligible (hs : s.Sound) {command : LegacyActionImport} {lineage : LegacyLineage}
    (hlineage : s.legacyLineage command = .ok lineage) {i : Nat} {a : CaseAction}
    (hfound : lineage.action s = some i) (ha : s.actions[i]? = some a)
    : a.executionEligible = false := by
  have hstored := legacyLineage_eq_ok hlineage
  obtain ⟨a', ha', hkey⟩ := Rows.exists_of_findIdx? hfound
  obtain rfl : a = a' := Option.some.inj (ha.symm.trans ha')
  simp only [decide_eq_true_eq] at hkey
  by_contra heligible
  rw [Bool.not_eq_false] at heligible
  obtain ⟨_, _, version, _, _, _, _, hversion, _, _, _, _, _, _, hgoverned⟩ :=
    hs.actions_linked a (List.mem_of_getElem? ha)
  rw [hkey.2.1, hstored.version] at hversion
  obtain rfl := Option.some.inj hversion
  exact hstored.legacy (hgoverned heligible).2.2.1

/--
No action holds the receipt that the import brings.
-/
def ReceiptIsFree (s : Store) (command : LegacyActionImport) : Prop :=
  ∀ receipt ∈ command.receipt, s.holdsReceipt receipt.provider command.idempotencyKey = false
    ∧ s.holdsLegacyReceipt receipt.legacyExternalReceiptId = false

theorem ReceiptIsFree.requireReceiptUnique {command : LegacyActionImport}
    (h : s.ReceiptIsFree command) (a : CaseAction)
    : s.requireReceiptUnique a command = .ok ⟨⟩ := by
  unfold Store.requireReceiptUnique
  split
  . next receipt hreceipt =>
    obtain ⟨hkey, hlegacy⟩ := h receipt hreceipt
    split
    . simp [hkey, hlegacy]
    . rfl
  . rfl

theorem requireReceiptUnique_of_receipt {a : CaseAction} (ha : a.receipts ≠ [])
    (command : LegacyActionImport) : s.requireReceiptUnique a command = .ok ⟨⟩ := by
  have hreceipt : a.receipt.isNone = false := by
    cases hhead : a.receipt with
    | none => exact absurd (CaseAction.receipt_eq_none.mp hhead) ha
    | some receipt => rfl
  unfold Store.requireReceiptUnique
  split
  . simp [hreceipt]
  . rfl

end Store

variable [Digest]

namespace Store

/--
The connection of an action is one that is there already or a placeholder that is added for it.
-/
theorem resolveForAction_eq (s : Store) (actionType : String)
    : ∃ connections connectionId connection,
        s.resolveForAction actionType
            = ({ s with connections := connections }, connectionId, connection)
          ∧ s.connections.length ≤ connections.length
          ∧ connectionId < connections.length := by
  unfold resolveForAction
  split
  . next connectionId connection hpreferred =>
    exact ⟨s.connections, connectionId, connection, rfl, le_refl _,
      preferredConnection_lt hpreferred⟩
  . unfold ensureUnconfiguredConnection
    dsimp only
    split
    . next connectionId existing hfound =>
      have hmem := List.mem_of_find?_eq_some hfound
      simp only [List.mem_map, Prod.exists, Prod.swap_prod_mk, Prod.mk.injEq] at hmem
      obtain ⟨row, i, hzip, rfl, rfl⟩ := hmem
      have hlt := (List.getElem?_eq_some_iff.mp (List.mem_zipIdx_iff_getElem?.mp hzip)).1
      split
      . exact ⟨s.connections, i, row, rfl, le_refl _, hlt⟩
      . exact ⟨_, i, _, rfl, by simp, by simpa using hlt⟩
    . exact ⟨_, s.connections.length, _, rfl, by simp, by simp⟩

end Store

namespace Store

variable {s t : Store} {c : Command} {now : Instant}

variable (now) in
/--
A created action descends from the approved review.
-/
theorem newAction_of_approved {approved : ApprovedReview} (h : approved.IsStored s)
    {proposedActionId : Nat} {proposedAction : ProposedActionDraft}
    (hproposed : approved.version.proposedActions[proposedActionId]? = some proposedAction)
    {connectionId : Nat} (hconnection : connectionId < s.connections.length)
    (connection : Connection)
    : s.NewAction
        (approved.newAction s now proposedActionId proposedAction connectionId connection) where
  linked := by
    refine ⟨approved.review, approved.decision, approved.version, proposedAction, h.review,
      h.decision, h.approves, h.version, hproposed, rfl, rfl, rfl, rfl, hconnection, ?_⟩
    intro heligible
    simp only [ApprovedReview.newAction, ApprovedReview.executionEligible, decide_eq_true_eq]
      at heligible
    exact ⟨rfl, heligible.1, heligible.2.1, h.fingerprint⟩
  valid := .of_untouched rfl rfl rfl rfl rfl
  uncompleted := by simp [ApprovedReview.newAction]
  untouched := fun _ => rfl
  receipts_imported := by simp [ApprovedReview.newAction]

variable (now) in
theorem materializeAction_writes {approved : ApprovedReview} (h : approved.IsStored s)
    {proposedActionId : Nat} {proposedAction : ProposedActionDraft}
    (hproposed : approved.version.proposedActions[proposedActionId]? = some proposedAction)
    : Writes c s (s.materializeAction approved now proposedActionId proposedAction).1
        ∧ approved.IsStored (s.materializeAction approved now proposedActionId proposedAction).1 := by
  unfold materializeAction
  split
  . exact ⟨.refl, h⟩
  . obtain ⟨connections, connectionId, connection, heq, hle, hlt⟩ :=
      s.resolveForAction_eq proposedAction.type
    rw [heq]
    have hstored : approved.IsStored { s with connections := connections } :=
      ⟨h.review, h.decision, h.approves, h.version, h.fingerprint⟩
    have hnew := newAction_of_approved now hstored hproposed hlt connection
    refine ⟨?_, h.review, h.decision, h.approves, h.version, h.fingerprint⟩
    exact .tail (.single (.maintained (maintains_connections hle))) (.actionAdded _ hnew)

theorem materializeActions_writes {approved : ApprovedReview}
    (proposedActions : List (ProposedActionDraft × Nat)) (h : approved.IsStored s)
    (hproposed : ∀ row ∈ proposedActions, approved.version.proposedActions[row.2]? = some row.1)
    : Writes c s (materializeActions approved now proposedActions s).1 := by
  induction proposedActions generalizing s with
  | nil => exact .refl
  | cons row rest ih =>
    obtain ⟨hwrites, hstored⟩ :=
      materializeAction_writes (c := c) now h (hproposed row List.mem_cons_self)
    exact hwrites.trans (ih hstored fun other hother => hproposed other (List.mem_cons_of_mem _ hother))

theorem materializeApprovedReview_writes {reviewId : Nat} {bundles : List ActionBundle}
    (h : s.materializeApprovedReview now reviewId = .ok (t, bundles)) : Writes c s t := by
  unfold materializeApprovedReview at h
  simp only [bind_eq_ok, pure_eq_ok, Prod.mk.injEq] at h
  obtain ⟨approved, happroved, _, _, rfl, _⟩ := h
  refine materializeActions_writes _ (approvedReview_eq_ok happroved) ?_
  intro row hrow
  exact List.mem_zipIdx_iff_getElem?.mp (List.mem_filter.mp hrow).1

/--
A historical attempt is imported into the action it belongs to or into a new one.
-/
theorem importLegacyAction_eq_ok {command : LegacyActionImport} {item : ActionQueueItem}
    (h : s.importLegacyAction now command = .ok (t, item))
    : (t = s ∧ s.findLegacyAttempt command.legacyToolAttemptId ≠ none)
        ∨ ∃ lineage connections connectionId,
          s.findLegacyAttempt command.legacyToolAttemptId = none
            ∧ s.legacyLineage command = .ok lineage
            ∧ command.attemptOutcome ≠ .running
            ∧ s.connections.length ≤ connections.length
            ∧ connectionId < connections.length
            ∧ ((∃ (i : Nat) (a : CaseAction), lineage.action s = some i ∧ s.actions[i]? = some a
                ∧ t = ({ s with connections := connections }.setAction i (a.appendLegacy command)))
              ∨ t = { s with
                  connections := connections
                  actions := s.actions
                    ++ [(command.newAction lineage connectionId).appendLegacy command] }) := by
  unfold importLegacyAction at h
  split at h
  . next found hfound =>
    simp only [bind_eq_ok, pure_eq_ok, Prod.mk.injEq] at h
    obtain ⟨_, _, _, _, rfl, _⟩ := h
    exact .inl ⟨rfl, by simp [hfound]⟩
  . next hnone =>
    rw [bind_eq_ok] at h
    obtain ⟨lineage, hlineage, h⟩ := h
    obtain ⟨connections, connectionId, connection, heq, hle, hlt⟩ :=
      s.resolveForAction_eq lineage.proposedAction.type
    rw [heq] at h
    dsimp only at h
    rw [ensure_bind_eq_ok, ensure_bind_eq_ok] at h
    obtain ⟨_, hfinished, h⟩ := h
    refine .inr ⟨lineage, connections, connectionId, hnone, hlineage, hfinished, hle, hlt, ?_⟩
    split at h
    . next i a hfound =>
      simp only [bind_eq_ok, pure_eq_ok, Prod.mk.injEq] at h
      obtain ⟨_, _, _, _, rfl, _⟩ := h
      simp only [Option.bind_eq_some_iff, Option.map_eq_some_iff, Prod.mk.injEq] at hfound
      obtain ⟨j, hj, b, hb, rfl, rfl⟩ := hfound
      exact .inl ⟨j, b, hj, hb, rfl⟩
    . simp only [bind_eq_ok, pure_eq_ok, Prod.mk.injEq] at h
      obtain ⟨_, _, _, _, rfl, _⟩ := h
      exact .inr rfl

theorem importLegacyAction_writes (hs : s.Sound) {command : LegacyActionImport}
    {item : ActionQueueItem} (h : s.importLegacyAction now command = .ok (t, item))
    : Writes (.importLegacyAction now command) s t := by
  rcases importLegacyAction_eq_ok h with ⟨rfl, _⟩ | ⟨lineage, connections, connectionId, _, hlineage,
    hfinished, hle, hlt, ⟨i, a, hfound, ha, rfl⟩ | rfl⟩
  . exact .refl
  . refine .tail (.single (.maintained (maintains_connections hle))) ?_
    exact .actionStepped i a _ ha
      (.imported now command rfl (legacy_ineligible hs hlineage hfound ha) hfinished) fun _ => .inr rfl
  . have hmaintained : Write (.importLegacyAction now command) s
        { s with connections := connections } := .maintained (maintains_connections hle)
    have hstored := legacyLineage_eq_ok hlineage
    refine .tail (.single hmaintained) (.actionAdded _ ?_)
    exact newAction_of_legacy (hmaintained.sound hs)
      ⟨hstored.version, hstored.legacy, hstored.review, hstored.review_case, hstored.review_version,
        hstored.decision, hstored.approves, hstored.proposed⟩ hfinished hlt

variable (now)

/--
A repeated import only reads the action again.
-/
theorem importLegacyAction_repeated (hs : s.Sound) {command : LegacyActionImport} {i : Nat}
    {a : CaseAction} (hfound : s.findLegacyAttempt command.legacyToolAttemptId = some i)
    (ha : s.actions[i]? = some a) : ∃ item, s.importLegacyAction now command = .ok (s, item) := by
  obtain ⟨item, hitem⟩ := hs.queueItem_isOk (List.mem_of_getElem? ha) now
  refine ⟨item, ?_⟩
  unfold importLegacyAction
  simp [hfound, ha, hitem, bind_eq_ok]

/--
A historical attempt of an action that exists already is appended to it.
-/
theorem importLegacyAction_found (hs : s.Sound) {command : LegacyActionImport}
    {lineage : LegacyLineage} {i : Nat} {a : CaseAction}
    (hnew : s.findLegacyAttempt command.legacyToolAttemptId = none)
    (hlineage : s.legacyLineage command = .ok lineage) (hfinished : command.attemptOutcome ≠ .running)
    (hfound : lineage.action s = some i) (ha : s.actions[i]? = some a)
    (hunique : s.requireReceiptUnique a command = .ok ⟨⟩)
    : ∃ connections item, s.importLegacyAction now command
        = .ok ({ s with connections := connections }.setAction i (a.appendLegacy command), item) := by
  obtain ⟨connections, connectionId, connection, heq, hle, _⟩ :=
    s.resolveForAction_eq lineage.proposedAction.type
  have hmaintained : Write (.importLegacyAction now command) s { s with connections := connections } :=
    .maintained (maintains_connections hle)
  have hwrite : Write (.importLegacyAction now command) _
      ({ s with connections := connections }.setAction i (a.appendLegacy command)) :=
    .actionStepped i a _ ha
      (.imported now command rfl (legacy_ineligible hs hlineage hfound ha) hfinished) fun _ => .inr rfl
  have hlt := (List.getElem?_eq_some_iff.mp ha).1
  obtain ⟨item, hitem⟩ := (hwrite.sound (hmaintained.sound hs)).queueItem_isOk
    (List.mem_of_getElem? (List.getElem?_set_self hlt)) now
  have hresolved : { s with connections := connections }.findAction lineage.version.caseId
      lineage.versionId lineage.proposedActionId = some i := hfound
  have hreceipt : { s with connections := connections }.requireReceiptUnique a command = .ok ⟨⟩ :=
    hunique
  refine ⟨connections, item, ?_⟩
  unfold importLegacyAction
  simp [hnew, hlineage, heq, hresolved, ha, hfinished, hreceipt, hitem, bind_eq_ok]

/--
The first historical attempt of a proposed action creates its action.
-/
theorem importLegacyAction_new (hs : s.Sound) {command : LegacyActionImport}
    {lineage : LegacyLineage} (hnew : s.findLegacyAttempt command.legacyToolAttemptId = none)
    (hlineage : s.legacyLineage command = .ok lineage) (hfinished : command.attemptOutcome ≠ .running)
    (hunmade : lineage.action s = none)
    (hunused : ∀ a ∈ s.actions, a.idempotencyKey ≠ command.idempotencyKey)
    (hfree : s.ReceiptIsFree command)
    : ∃ connections connectionId item, s.importLegacyAction now command
        = .ok ({ s with
            connections := connections
            actions := s.actions ++ [(command.newAction lineage connectionId).appendLegacy command] },
          item) := by
  obtain ⟨connections, connectionId, connection, heq, hle, hlt⟩ :=
    s.resolveForAction_eq lineage.proposedAction.type
  have hmaintained : Write (.importLegacyAction now command) s { s with connections := connections } :=
    .maintained (maintains_connections hle)
  have hstored := legacyLineage_eq_ok hlineage
  have hadded := newAction_of_legacy (hmaintained.sound hs)
    ⟨hstored.version, hstored.legacy, hstored.review, hstored.review_case, hstored.review_version,
      hstored.decision, hstored.approves, hstored.proposed⟩ hfinished hlt
  have hwrite : Write (.importLegacyAction now command) _ _ := .actionAdded _ hadded
  obtain ⟨item, hitem⟩ := (hwrite.sound (hmaintained.sound hs)).queueItem_isOk
    (List.mem_append_right _ (List.mem_singleton_self _)) now
  have hresolved : { s with connections := connections }.findAction lineage.version.caseId
      lineage.versionId lineage.proposedActionId = none := hunmade
  have hreceipt : { s with connections := connections }.requireReceiptUnique
      (command.newAction lineage connectionId) command = .ok ⟨⟩ :=
    hfree.requireReceiptUnique (s := { s with connections := connections }) _
  refine ⟨connections, connectionId, item, ?_⟩
  unfold importLegacyAction
  simp [hnew, hlineage, heq, hresolved, hfinished, hreceipt, hitem, bind_eq_ok]
  exact hunused

end Store

end CaseResolution
