import CaseResolution.Inbox.Impl.Drafts

/-!
This module contains what the transactions of a draft delivery write: they never change what a delivery
was authorized as.
-/

namespace CaseResolution

open Guard

/--
Later writes never change what a delivery was prepared for.
-/
def InboxDraftDelivery.SameAuthorization (a b : InboxDraftDelivery) : Prop :=
  a.responseDraftId = b.responseDraftId ∧ a.responseDraftVersion = b.responseDraftVersion
    ∧ a.decisionFingerprint = b.decisionFingerprint ∧ a.idempotencyKey = b.idempotencyKey

theorem InboxDraftDelivery.SameAuthorization.refl (a : InboxDraftDelivery) : a.SameAuthorization a :=
  ⟨rfl, rfl, rfl, rfl⟩

namespace InboxStore

variable {s s' : InboxStore} {now : Instant} {deliveryId : Nat}

/--
Only the deliveries are written, and none of them is authorized anew.
-/
structure DeliveriesWritten (s s' : InboxStore) : Prop where
  framed : s' = { s with deliveries := s'.deliveries }
  length : s'.deliveries.length = s.deliveries.length
  kept : Rows.Extends InboxDraftDelivery.SameAuthorization s.deliveries s'.deliveries

theorem DeliveriesWritten.refl (s : InboxStore) : s.DeliveriesWritten s where
  framed := rfl
  length := rfl
  kept := Rows.Extends.refl InboxDraftDelivery.SameAuthorization.refl _

theorem setDelivery_written {delivery delivery' : InboxDraftDelivery}
    (hi : s.deliveries[deliveryId]? = some delivery)
    (hsame : delivery.SameAuthorization delivery')
    : s.DeliveriesWritten (s.setDelivery deliveryId delivery') where
  framed := rfl
  length := List.length_set
  kept := Rows.Extends.set InboxDraftDelivery.SameAuthorization.refl hi hsame

theorem requiredDelivery_eq_ok {delivery : InboxDraftDelivery}
    : s.requiredDelivery deliveryId = .ok delivery ↔ s.deliveries[deliveryId]? = some delivery := by
  unfold requiredDelivery
  rw [orThrow_eq_ok]

/--
A started delivery is the stored one, completed before or running now.
-/
theorem startDelivery_eq_ok {workerId : String} {delivery : InboxDraftDelivery}
    (h : s.startDelivery now deliveryId workerId = .ok (s', delivery))
    : s.DeliveriesWritten s' ∧ s'.deliveries[deliveryId]? = some delivery
      ∧ ∃ stored, s.deliveries[deliveryId]? = some stored ∧ stored.SameAuthorization delivery := by
  unfold startDelivery at h
  rw [bind_eq_ok] at h
  obtain ⟨stored, hstored, h⟩ := h
  rw [requiredDelivery_eq_ok] at hstored
  split at h
  . rw [pure_eq_ok, Prod.mk.injEq] at h
    rw [← h.1, ← h.2]
    exact ⟨DeliveriesWritten.refl s, hstored, stored, hstored, .refl stored⟩
  . rw [ensure_bind_eq_ok, pure_eq_ok, Prod.mk.injEq] at h
    rw [← h.2.1, ← h.2.2]
    refine ⟨setDelivery_written hstored ⟨rfl, rfl, rfl, rfl⟩, ?_, stored, hstored, rfl, rfl, rfl, rfl⟩
    have hlt := (List.getElem?_eq_some_iff.mp hstored).1
    simp [setDelivery, hlt]

/--
A delivery is started where it is new or known to have failed, unless its draft exists already.
-/
theorem startDelivery_claims {workerId : String} {delivery : InboxDraftDelivery}
    (h : s.startDelivery now deliveryId workerId = .ok (s', delivery))
    : (delivery.status = .completed ∧ s' = s)
      ∨ delivery.status = .running ∧ s' = s.setDelivery deliveryId delivery
        ∧ ∀ stored, s.deliveries[deliveryId]? = some stored →
          stored.status = .ready ∨ stored.status = .failedSafe := by
  unfold startDelivery at h
  rw [bind_eq_ok] at h
  obtain ⟨stored, hstored, h⟩ := h
  rw [requiredDelivery_eq_ok] at hstored
  split at h
  . next hcompleted =>
    rw [pure_eq_ok, Prod.mk.injEq] at h
    exact .inl ⟨h.2 ▸ hcompleted, h.1.symm⟩
  . rw [ensure_bind_eq_ok, pure_eq_ok, Prod.mk.injEq] at h
    obtain ⟨hstart, hs, hdelivery⟩ := h
    rw [← hs, ← hdelivery]
    refine .inr ⟨rfl, rfl, ?_⟩
    intro other hother
    rw [hstored, Option.some.injEq] at hother
    exact hother ▸ hstart

theorem completeDelivery_eq_ok {receipt : DraftReceipt} {expectedWorkerId : Option String}
    (h : s.completeDelivery now deliveryId receipt expectedWorkerId = .ok s')
    : s' = s ∨ ∃ stored delivery, s.deliveries[deliveryId]? = some stored
      ∧ s' = s.setDelivery deliveryId delivery ∧ stored.SameAuthorization delivery
      ∧ delivery.status = .completed := by
  unfold completeDelivery at h
  rw [bind_eq_ok] at h
  obtain ⟨stored, hstored, h⟩ := h
  rw [requiredDelivery_eq_ok] at hstored
  split at h
  . rw [pure_eq_ok] at h
    exact .inl h.symm
  . rw [bind_eq_ok] at h
    obtain ⟨_, _, h⟩ := h
    rw [pure_eq_ok] at h
    exact .inr ⟨stored, _, hstored, h.symm, ⟨rfl, rfl, rfl, rfl⟩, rfl⟩

theorem recordDeliveryFailure_eq_ok {status : DraftDeliveryStatus} {errorCode : String}
    {expectedWorkerId : Option String}
    (h : s.recordDeliveryFailure now deliveryId status errorCode expectedWorkerId = .ok s')
    : ∃ stored delivery, s.deliveries[deliveryId]? = some stored
      ∧ stored.requireTransitionOwner now expectedWorkerId = .ok ()
      ∧ s' = s.setDelivery deliveryId delivery ∧ stored.SameAuthorization delivery
      ∧ delivery.status = status := by
  unfold recordDeliveryFailure at h
  rw [bind_eq_ok] at h
  obtain ⟨stored, hstored, h⟩ := h
  rw [requiredDelivery_eq_ok] at hstored
  rw [bind_eq_ok] at h
  obtain ⟨_, howner, h⟩ := h
  rw [pure_eq_ok] at h
  exact ⟨stored, _, hstored, howner, h.symm, ⟨rfl, rfl, rfl, rfl⟩, rfl⟩

theorem completeDelivery_written {receipt : DraftReceipt} {expectedWorkerId : Option String}
    (h : s.completeDelivery now deliveryId receipt expectedWorkerId = .ok s')
    : s.DeliveriesWritten s' := by
  cases completeDelivery_eq_ok h with
  | inl heq => exact heq ▸ DeliveriesWritten.refl s
  | inr hset =>
    obtain ⟨stored, delivery, hstored, heq, hsame, _⟩ := hset
    exact heq ▸ setDelivery_written hstored hsame

theorem recordDeliveryFailure_written {status : DraftDeliveryStatus} {errorCode : String}
    {expectedWorkerId : Option String}
    (h : s.recordDeliveryFailure now deliveryId status errorCode expectedWorkerId = .ok s')
    : s.DeliveriesWritten s' := by
  obtain ⟨stored, delivery, hstored, _, heq, hsame, _⟩ := recordDeliveryFailure_eq_ok h
  exact heq ▸ setDelivery_written hstored hsame

theorem failDelivery_written {workerId : String} {accessGranted : Bool}
    (h : s.failDelivery now deliveryId workerId accessGranted = .ok s') : s.DeliveriesWritten s' := by
  unfold failDelivery at h
  split at h
  . exact recordDeliveryFailure_written h
  . exact recordDeliveryFailure_written h

theorem reconcileDelivery_written {lookup : Option DraftLookupResult}
    (h : s.reconcileDelivery now deliveryId lookup = .ok s') : s.DeliveriesWritten s' := by
  unfold reconcileDelivery at h
  split at h
  . exact recordDeliveryFailure_written h
  . split at h
    . exact completeDelivery_written h
    . exact recordDeliveryFailure_written h

variable [Digest]

/--
The delivery of a key is the stored one or a new one under the unique constraint.
-/
theorem prepareDelivery_eq_ok {case : CaseDraftContext} {reply : InboxReplyContext}
    {review : ReviewDraftAuthorization}
    (h : s.prepareDelivery now case reply review = .ok (s', deliveryId))
    : (s' = s ∧ ∃ delivery, s.deliveries[deliveryId]? = some delivery
        ∧ delivery.idempotencyKey = draftDeliveryKey s.organizationPublicId case reply review)
      ∨ (deliveryId = s.deliveries.length
        ∧ (∀ delivery ∈ s.deliveries, ¬ (delivery.responseDraftId = case.responseDraftId
          ∧ delivery.responseDraftVersion = case.responseDraftVersion
          ∧ delivery.decisionFingerprint = review.snapshotFingerprint))
        ∧ (∀ delivery ∈ s.deliveries,
          delivery.idempotencyKey ≠ draftDeliveryKey s.organizationPublicId case reply review)
        ∧ s' = { s with
            deliveries := s.deliveries ++ [newDelivery now case reply review
              (draftDeliveryKey s.organizationPublicId case reply review)] }) := by
  unfold prepareDelivery at h
  dsimp only at h
  split at h
  . next found hfound =>
    rw [pure_eq_ok, Prod.mk.injEq] at h
    obtain ⟨delivery, hdelivery, hkey⟩ := Rows.exists_of_findIdx? hfound
    rw [← h.1, ← h.2]
    exact .inl ⟨rfl, delivery, hdelivery, of_decide_eq_true hkey⟩
  . next hnone =>
    rw [ensure_bind_eq_ok, pure_eq_ok, Prod.mk.injEq] at h
    rw [List.findIdx?_eq_none_iff] at hnone
    refine .inr ⟨h.2.2.symm, h.1, ?_, h.2.1.symm⟩
    intro delivery hdelivery heq
    exact absurd (decide_eq_true heq) (by simpa using hnone delivery hdelivery)

/--
The parts of the transaction a delivery starts with.
-/
theorem deliver_eq_ok {actor : ActorContext} {caseId expectedDraftVersion : Nat} {workerId : String}
    {request : Option CreateDraftRequest}
    (h : s.deliver now actor caseId expectedDraftVersion workerId = .ok (s', deliveryId, request))
    : ∃ case review reply prepared delivery,
        s.currentDraft caseId expectedDraftVersion = .ok case
          ∧ s.currentApproval now caseId = .ok review
          ∧ case.responseContentFingerprint = review.responseContentFingerprint
          ∧ s.replyContext caseId = .ok reply
          ∧ s.prepareDelivery now case reply review = .ok (prepared, deliveryId)
          ∧ prepared.startDelivery now deliveryId workerId = .ok (s', delivery)
          ∧ request = if delivery.status = .completed then none
            else some (draftRequest case reply delivery) := by
  unfold deliver at h
  rw [bind_eq_ok] at h
  obtain ⟨_, _, h⟩ := h
  rw [bind_eq_ok] at h
  obtain ⟨case, hcase, h⟩ := h
  rw [bind_eq_ok] at h
  obtain ⟨review, hreview, h⟩ := h
  rw [ensure_bind_eq_ok] at h
  obtain ⟨hcontent, h⟩ := h
  rw [bind_eq_ok] at h
  obtain ⟨reply, hreply, h⟩ := h
  rw [bind_eq_ok] at h
  obtain ⟨⟨prepared, i⟩, hprepared, h⟩ := h
  rw [bind_eq_ok] at h
  obtain ⟨⟨started, delivery⟩, hstarted, h⟩ := h
  refine ⟨case, review, reply, prepared, delivery, hcase, hreview, hcontent, hreply, ?_⟩
  dsimp only at h
  split at h
  . next hcompleted =>
    rw [pure_eq_ok, Prod.mk.injEq, Prod.mk.injEq] at h
    obtain ⟨hs, hi, hrequest⟩ := h
    subst hs hi hrequest
    exact ⟨hprepared, hstarted, (if_pos hcompleted).symm⟩
  . next hrunning =>
    rw [pure_eq_ok, Prod.mk.injEq, Prod.mk.injEq] at h
    obtain ⟨hs, hi, hrequest⟩ := h
    subst hs hi hrequest
    exact ⟨hprepared, hstarted, (if_neg hrunning).symm⟩

theorem deliver_framed {actor : ActorContext} {caseId expectedDraftVersion : Nat} {workerId : String}
    {request : Option CreateDraftRequest}
    (h : s.deliver now actor caseId expectedDraftVersion workerId = .ok (s', deliveryId, request))
    : s' = { s with deliveries := s'.deliveries } := by
  obtain ⟨case, review, reply, prepared, delivery, _, _, _, _, hprepared, hstarted, _⟩ :=
    deliver_eq_ok h
  have hframed := (startDelivery_eq_ok hstarted).1.framed
  cases prepareDelivery_eq_ok hprepared with
  | inl hold => rwa [hold.1] at hframed
  | inr hnew =>
    rw [hnew.2.2.2] at hframed
    exact hframed

/--
A delivery that was started runs, and it was new or known to have failed. The others are left alone.
-/
structure DeliveryStarted (s : InboxStore) (deliveryId : Nat) (s' : InboxStore) : Prop where
  stored : deliveryId < s'.deliveries.length
  running : ∀ delivery, s'.deliveries[deliveryId]? = some delivery → delivery.status = .running
  free : ∀ delivery, s.deliveries[deliveryId]? = some delivery →
    delivery.status = .ready ∨ delivery.status = .failedSafe
  others : ∀ i : Nat, i ≠ deliveryId → s'.deliveries[i]? = s.deliveries[i]?

theorem deliver_started {actor : ActorContext} {caseId expectedDraftVersion : Nat} {workerId : String}
    {request : Option CreateDraftRequest}
    (h : s.deliver now actor caseId expectedDraftVersion workerId = .ok (s', deliveryId, request))
    : (request = none ∧ s'.deliveries = s.deliveries)
      ∨ (∃ asked, request = some asked) ∧ s.DeliveryStarted deliveryId s' := by
  obtain ⟨case, review, reply, prepared, delivery, _, _, _, _, hprepared, hstarted, hrequest⟩ :=
    deliver_eq_ok h
  have hrows : (prepared = s ∧ ∀ i : Nat, prepared.deliveries[i]? = s.deliveries[i]?)
      ∨ deliveryId = s.deliveries.length ∧ ∃ added : InboxDraftDelivery, added.status = .ready
        ∧ prepared.deliveries = s.deliveries ++ [added] := by
    cases prepareDelivery_eq_ok hprepared with
    | inl hold => exact .inl ⟨hold.1, fun i => by rw [hold.1]⟩
    | inr hnew => exact .inr ⟨hnew.1, _, rfl, by rw [hnew.2.2.2]⟩
  obtain ⟨_, hstored', stored, hstored, _⟩ := startDelivery_eq_ok hstarted
  have hlt := (List.getElem?_eq_some_iff.mp hstored).1
  rcases startDelivery_claims hstarted with ⟨hcompleted, heq⟩ | ⟨hrunning, heq, hfree⟩
  . -- only a stored delivery is completed
    rw [if_pos hcompleted] at hrequest
    refine .inl ⟨hrequest, ?_⟩
    rcases hrows with ⟨hsame, _⟩ | ⟨hid, added, hready, hadded⟩
    . rw [heq, hsame]
    . rw [heq, hadded, hid, List.getElem?_concat_length, Option.some.injEq] at hstored'
      rw [← hstored', hready] at hcompleted
      cases hcompleted
  . rw [if_neg (by simp [hrunning])] at hrequest
    refine .inr ⟨⟨_, hrequest⟩, ?_, ?_, ?_, ?_⟩
    . exact (List.getElem?_eq_some_iff.mp hstored').1
    . intro other hother
      rw [hstored', Option.some.injEq] at hother
      exact hother ▸ hrunning
    . intro other hother
      rcases hrows with ⟨_, hsame⟩ | ⟨hid, _⟩
      . exact hfree other (by rw [hsame, hother])
      . have := (List.getElem?_eq_some_iff.mp hother).1
        omega
    . intro i hne
      rw [heq]
      unfold setDelivery
      dsimp only
      rw [List.getElem?_set_ne (Ne.symm hne)]
      rcases hrows with ⟨_, hsame⟩ | ⟨hid, added, _, hadded⟩
      . exact hsame i
      . rw [hadded]
        by_cases hold : i < s.deliveries.length
        . exact List.getElem?_append_left hold
        . rw [List.getElem?_eq_none (by simp; omega), List.getElem?_eq_none (by omega)]

end InboxStore

end CaseResolution
