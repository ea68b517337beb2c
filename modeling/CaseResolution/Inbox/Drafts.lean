import CaseResolution.Inbox.Lemmas.Drafts

/-!
This module contains when a draft is created again: the result of a lookup or of a lost worker is recorded
without asking which start of the delivery it belongs to.
-/

namespace CaseResolution

open Guard

namespace DraftWorld

/--
Nothing is done before the inbox is connected.
-/
def new (store : Store) : DraftWorld where
  desk := .new store
  creates := []
  lookups := []
  ended := []

/--
Every call for the delivery is known to have made no draft.
-/
def NoDraft (w : DraftWorld) (deliveryId : Nat) : Prop :=
  ∀ create ∈ w.creates, create.deliveryId = deliveryId → create.produced = some false

/--
What keeps deliveries apart from each other's calls: only the last start of a delivery may have a call whose
draft is not ruled out, and no delivery may be started again while it has.
-/
structure Safe (w : DraftWorld) : Prop where
  created : ∀ create ∈ w.creates, ∃ pending, w.desk.deliveries[create.task]? = some pending
    ∧ pending.deliveryId = create.deliveryId
  once : (w.creates.map DraftCreate.task).Nodup
  stored : ∀ pending ∈ w.desk.deliveries, pending.deliveryId < w.desk.inbox.deliveries.length
  ready : ∀ (i : Nat) (delivery : InboxDraftDelivery), w.desk.inbox.deliveries[i]? = some delivery →
    delivery.status = .ready → ∀ pending ∈ w.desk.deliveries, pending.deliveryId ≠ i
  failedSafe : ∀ (i : Nat) (delivery : InboxDraftDelivery),
    w.desk.inbox.deliveries[i]? = some delivery → delivery.status = .failedSafe → w.NoDraft i
  superseded : ∀ create ∈ w.creates, ¬ w.Last create.task create.deliveryId →
    create.produced = some false
  looked : ∀ lookup ∈ w.lookups, ∀ result creates,
    lookup.state = .answered (some result) creates → result.absenceIsTerminal = true →
    creates ≤ w.creates.length ∧ ∀ create ∈ w.creates.take creates,
      create.deliveryId = lookup.deliveryId → create.produced = some false

variable {w : DraftWorld}

theorem new_safe (store : Store) : (DraftWorld.new store).Safe where
  created := nofun
  once := List.nodup_nil
  stored := nofun
  ready := by simp [DraftWorld.new, InboxDesk.new]
  failedSafe := by simp [DraftWorld.new, InboxDesk.new]
  superseded := nofun
  looked := nofun

/--
Two tasks of a delivery are not both the last.
-/
theorem Last.unique {task other deliveryId : Nat} {pending otherPending : PendingDelivery}
    (h : w.Last task deliveryId) (hother : w.Last other deliveryId)
    (hpending : w.desk.deliveries[task]? = some pending) (hof : pending.deliveryId = deliveryId)
    (hotherPending : w.desk.deliveries[other]? = some otherPending)
    (hotherOf : otherPending.deliveryId = deliveryId) : task = other := by
  rcases Nat.lt_trichotomy task other with hlt | heq | hlt
  . exact absurd hotherOf (h other otherPending hlt hotherPending)
  . exact heq
  . exact absurd hof (hother task pending hlt hpending)

/--
As long as the last worker of a delivery has made no call, none of its calls can make a draft.
-/
theorem Safe.noDraft_of_last (h : w.Safe) {task : Nat} {pending : PendingDelivery}
    (hpending : w.desk.deliveries[task]? = some pending) (hlast : w.Last task pending.deliveryId)
    (hcreated : ¬ w.hasCreated task = true) : w.NoDraft pending.deliveryId := by
  intro create hcreate hof
  apply h.superseded create hcreate
  intro hlast'
  obtain ⟨other, hother, hotherOf⟩ := h.created create hcreate
  rw [hof] at hlast' hotherOf
  have htask := hlast.unique hlast' hpending rfl hother hotherOf
  apply hcreated
  unfold hasCreated
  rw [List.any_eq_true]
  exact ⟨create, hcreate, decide_eq_true htask.symm⟩

/--
The writes to the deliveries that keep the world safe: a row that changes is not made ready, and it is only
made to have failed where no call of it can make a draft.
-/
theorem Safe.written (h : w.Safe) {desk : InboxDesk} {ended : List Nat}
    (htasks : desk.deliveries = w.desk.deliveries)
    (hlength : desk.inbox.deliveries.length = w.desk.inbox.deliveries.length)
    (hrows : ∀ (i : Nat) (delivery : InboxDraftDelivery), desk.inbox.deliveries[i]? = some delivery →
      w.desk.inbox.deliveries[i]? = some delivery
        ∨ delivery.status ≠ .ready ∧ (delivery.status = .failedSafe → w.NoDraft i))
    : ({ w with desk := desk, ended := ended } : DraftWorld).Safe where
  created := by
    dsimp only
    rw [htasks]
    exact h.created
  once := h.once
  stored := by
    dsimp only
    rw [htasks, hlength]
    exact h.stored
  ready := by
    dsimp only
    rw [htasks]
    intro i delivery hdelivery hstatus
    cases hrows i delivery hdelivery with
    | inl hold => exact h.ready i delivery hold hstatus
    | inr hnew => exact absurd hstatus hnew.1
  failedSafe := by
    intro i delivery hdelivery hstatus
    cases hrows i delivery hdelivery with
    | inl hold => exact h.failedSafe i delivery hold hstatus
    | inr hnew => exact hnew.2 hstatus
  superseded := by
    unfold Last
    dsimp only
    rw [htasks]
    exact h.superseded
  looked := h.looked

/--
A delivery is started again only where none of its calls can make a draft.
-/
theorem Safe.started (h : w.Safe) {desk : InboxDesk} {pending : PendingDelivery}
    (htasks : desk.deliveries = w.desk.deliveries ++ [pending])
    (hlength : w.desk.inbox.deliveries.length ≤ desk.inbox.deliveries.length)
    (hstarted : w.desk.inbox.DeliveryStarted pending.deliveryId desk.inbox)
    : ({ w with desk := desk } : DraftWorld).Safe := by
  have hnone : w.NoDraft pending.deliveryId := by
    intro create hcreate hof
    obtain ⟨claimed, hclaimed, hclaimedOf⟩ := h.created create hcreate
    have hmem := List.mem_of_getElem? hclaimed
    have hstored : w.desk.inbox.deliveries[pending.deliveryId]? = some _ :=
      List.getElem?_eq_getElem (by rw [← hof, ← hclaimedOf]; exact h.stored claimed hmem)
    cases hstarted.free _ hstored with
    | inl hready => exact absurd (hclaimedOf.trans hof) (h.ready _ _ hstored hready claimed hmem)
    | inr hfailed => exact h.failedSafe _ _ hstored hfailed create hcreate hof
  constructor
  . intro create hcreate
    obtain ⟨claimed, hclaimed, hof⟩ := h.created create hcreate
    refine ⟨claimed, ?_, hof⟩
    dsimp only
    rw [htasks]
    exact (List.getElem?_append_left (List.getElem?_eq_some_iff.mp hclaimed).1).trans hclaimed
  . exact h.once
  . dsimp only
    rw [htasks]
    intro other hother
    cases List.mem_append.mp hother with
    | inl hold => exact Nat.lt_of_lt_of_le (h.stored other hold) hlength
    | inr hnew => exact List.mem_singleton.mp hnew ▸ hstarted.stored
  . intro i delivery hdelivery hstatus
    dsimp only at hdelivery ⊢
    rw [htasks]
    by_cases hi : i = pending.deliveryId
    . subst hi
      rw [hstarted.running delivery hdelivery] at hstatus
      cases hstatus
    . rw [hstarted.others i hi] at hdelivery
      intro other hother
      cases List.mem_append.mp hother with
      | inl hold => exact h.ready i delivery hdelivery hstatus other hold
      | inr hnew => exact List.mem_singleton.mp hnew ▸ Ne.symm hi
  . intro i delivery hdelivery hstatus
    dsimp only at hdelivery
    by_cases hi : i = pending.deliveryId
    . subst hi
      rw [hstarted.running delivery hdelivery] at hstatus
      cases hstatus
    . rw [hstarted.others i hi] at hdelivery
      exact h.failedSafe i delivery hdelivery hstatus
  . intro create hcreate hsuperseded
    by_cases hof : create.deliveryId = pending.deliveryId
    . exact hnone create hcreate hof
    . -- the new task is one of another delivery
      apply h.superseded create hcreate
      intro hlast
      apply hsuperseded
      intro later other hlater hother
      dsimp only at hother
      rw [htasks] at hother
      cases Rows.getElem?_concat_cases hother with
      | inl hold => exact hlast later other hlater hold
      | inr hnew => exact hnew.2 ▸ Ne.symm hof
  . exact h.looked

theorem Safe.called (h : w.Safe) {task : Nat} {pending : PendingDelivery}
    {delivery : InboxDraftDelivery} (hpending : w.desk.deliveries[task]? = some pending)
    (hdelivery : w.desk.inbox.deliveries[pending.deliveryId]? = some delivery)
    (hcreated : ¬ w.hasCreated task = true) (hlast : w.Last task pending.deliveryId)
    (hstatus : delivery.status ≠ .failedSafe)
    : ({ w with creates := w.creates ++ [⟨task, pending.deliveryId, none⟩] } : DraftWorld).Safe := by
  constructor
  . intro create hcreate
    cases List.mem_append.mp hcreate with
    | inl hold => exact h.created create hold
    | inr hnew =>
      rw [List.mem_singleton.mp hnew]
      exact ⟨pending, hpending, rfl⟩
  . dsimp only
    rw [List.map_append, List.map_singleton, List.nodup_append_comm, List.singleton_append,
      List.nodup_cons]
    refine ⟨?_, h.once⟩
    intro hmem
    obtain ⟨create, hcreate, heq⟩ := List.mem_map.mp hmem
    apply hcreated
    unfold hasCreated
    rw [List.any_eq_true]
    exact ⟨create, hcreate, decide_eq_true heq⟩
  . exact h.stored
  . exact h.ready
  . intro i other hother hfailed create hcreate hof
    cases List.mem_append.mp hcreate with
    | inl hold => exact h.failedSafe i other hother hfailed create hold hof
    | inr hnew =>
      rw [List.mem_singleton.mp hnew] at hof
      dsimp only at hof hother
      rw [← hof, hdelivery, Option.some.injEq] at hother
      exact absurd (hother ▸ hfailed) hstatus
  . intro create hcreate hsuperseded
    cases List.mem_append.mp hcreate with
    | inl hold => exact h.superseded create hold hsuperseded
    | inr hnew =>
      rw [List.mem_singleton.mp hnew] at hsuperseded
      exact absurd hlast hsuperseded
  . intro lookup hlookup result creates hstate hterminal
    obtain ⟨hle, habsent⟩ := h.looked lookup hlookup result creates hstate hterminal
    dsimp only
    rw [List.take_append_of_le_length hle]
    refine ⟨?_, habsent⟩
    rw [List.length_append]
    omega

/--
The calls that are known to have made no draft are settled, so settling another one changes nothing for them.
-/
theorem Safe.settled (h : w.Safe) {call : Nat} {create : DraftCreate} {produced : Bool}
    (hcreate : w.creates[call]? = some create) (hopen : create.produced = none)
    : ({ w with creates := w.creates.set call { create with produced := some produced } }
        : DraftWorld).Safe := by
  have hmem := List.mem_of_getElem? hcreate
  have hcases : ∀ other ∈ w.creates.set call { create with produced := some produced },
      other ∈ w.creates ∨ other = { create with produced := some produced } :=
    fun _ hother => List.mem_or_eq_of_mem_set hother
  constructor
  . intro other hother
    cases hcases other hother with
    | inl hold => exact h.created other hold
    | inr hnew =>
      rw [hnew]
      exact h.created create hmem
  . dsimp only
    rw [List.map_set, Rows.set_self]
    . exact h.once
    . rw [List.getElem?_map, hcreate]
      rfl
  . exact h.stored
  . exact h.ready
  . intro i delivery hdelivery hfailed other hother hof
    cases hcases other hother with
    | inl hold => exact h.failedSafe i delivery hdelivery hfailed other hold hof
    | inr hnew =>
      rw [hnew] at hof
      have hsettled := h.failedSafe i delivery hdelivery hfailed create hmem hof
      rw [hopen] at hsettled
      cases hsettled
  . intro other hother hsuperseded
    cases hcases other hother with
    | inl hold => exact h.superseded other hold hsuperseded
    | inr hnew =>
      rw [hnew] at hsuperseded
      have hsettled := h.superseded create hmem hsuperseded
      rw [hopen] at hsettled
      cases hsettled
  . intro lookup hlookup result creates hstate hterminal
    obtain ⟨hle, habsent⟩ := h.looked lookup hlookup result creates hstate hterminal
    dsimp only
    rw [List.length_set, List.take_set]
    refine ⟨hle, ?_⟩
    intro other hother hof
    obtain ⟨j, hj⟩ := List.mem_iff_getElem?.mp hother
    cases Rows.getElem?_set_cases hj with
    | inl hnew =>
      obtain ⟨hj, heq, hlt⟩ := hnew
      rw [List.length_take] at hlt
      have hseen : create ∈ w.creates.take creates := by
        apply List.mem_of_getElem? (i := j)
        rw [List.getElem?_take_of_lt (by omega), ← hj, hcreate]
      rw [heq] at hof
      have hsettled := habsent create hseen hof
      rw [hopen] at hsettled
      cases hsettled
    | inr hold => exact habsent other (List.mem_of_getElem? hold.2) hof

theorem Safe.withLookups (h : w.Safe) {lookups : List PendingLookup}
    (hlookups : ∀ lookup ∈ lookups, lookup ∈ w.lookups ∨ ∀ result creates,
      lookup.state = .answered (some result) creates → result.absenceIsTerminal = true →
      creates ≤ w.creates.length ∧ ∀ create ∈ w.creates.take creates,
        create.deliveryId = lookup.deliveryId → create.produced = some false)
    : ({ w with lookups := lookups } : DraftWorld).Safe where
  created := h.created
  once := h.once
  stored := h.stored
  ready := h.ready
  failedSafe := h.failedSafe
  superseded := h.superseded
  looked := by
    intro lookup hlookup
    cases hlookups lookup hlookup with
    | inl hold => exact h.looked lookup hold
    | inr hnew => exact hnew

/--
A row that is written over keeps the world safe.
-/
theorem Safe.setDelivery (h : w.Safe) {deliveryId : Nat} {delivery : InboxDraftDelivery}
    {ended : List Nat} (hready : delivery.status ≠ .ready)
    (hfailed : delivery.status = .failedSafe → w.NoDraft deliveryId)
    : ({ w with
        desk := { w.desk with inbox := w.desk.inbox.setDelivery deliveryId delivery }
        ended := ended } : DraftWorld).Safe := by
  refine h.written ?_ ?_ ?_
  . rfl
  . exact List.length_set
  . intro i other hother
    cases Rows.getElem?_set_cases hother with
    | inl hnew =>
      obtain ⟨hi, heq, _⟩ := hnew
      rw [heq, ← hi]
      exact .inr ⟨hready, hfailed⟩
    | inr hold => exact .inl hold.2

theorem Safe.completed (h : w.Safe) {now : Instant} {deliveryId : Nat} {receipt : DraftReceipt}
    {owner : Option String} {inbox : InboxStore} {ended : List Nat}
    (hcompleted : w.desk.inbox.completeDelivery now deliveryId receipt owner = .ok inbox)
    : ({ w with desk := { w.desk with inbox := inbox }, ended := ended } : DraftWorld).Safe := by
  rcases InboxStore.completeDelivery_eq_ok hcompleted with heq | ⟨_, delivery, _, heq, _, hstatus⟩
  . rw [heq]
    exact h.written rfl rfl fun _ _ hold => .inl hold
  . rw [heq]
    exact h.setDelivery (by simp [hstatus]) (by simp [hstatus])

theorem Safe.failed (h : w.Safe) {now : Instant} {deliveryId : Nat} {status : DraftDeliveryStatus}
    {errorCode : String} {owner : Option String} {inbox : InboxStore} {ended : List Nat}
    (hfailed : w.desk.inbox.recordDeliveryFailure now deliveryId status errorCode owner = .ok inbox)
    (hready : status ≠ .ready)
    (hnone : status = .failedSafe → ∀ stored, w.desk.inbox.deliveries[deliveryId]? = some stored →
      stored.requireTransitionOwner now owner = .ok () → w.NoDraft deliveryId)
    : ({ w with desk := { w.desk with inbox := inbox }, ended := ended } : DraftWorld).Safe := by
  obtain ⟨stored, delivery, hstored, howner, heq, _, hstatus⟩ :=
    InboxStore.recordDeliveryFailure_eq_ok hfailed
  rw [heq]
  apply h.setDelivery
  . rwa [hstatus]
  . rw [hstatus]
    exact fun hfailedSafe => hnone hfailedSafe stored hstored howner

/--
The delivery of a task that has a draft request is stored.
-/
theorem Safe.stored_delivery (h : w.Safe) {task : Nat} {pending : PendingDelivery}
    (hpending : w.desk.deliveries[task]? = some pending)
    : ∃ delivery, w.desk.inbox.deliveries[pending.deliveryId]? = some delivery :=
  ⟨_, List.getElem?_eq_getElem (h.stored pending (List.mem_of_getElem? hpending))⟩

/--
Of the calls for a delivery, at most one has made a draft.
-/
theorem Safe.one_draft (h : w.Safe) (deliveryId : Nat)
    : w.creates.countP (fun create => create.deliveryId = deliveryId ∧ create.produced = some true)
      ≤ 1 := by
  rw [Rows.countP_le_one_iff]
  intro i j a b ha hb hdraft hdraft'
  obtain ⟨hof, hproduced⟩ := of_decide_eq_true hdraft
  obtain ⟨hof', hproduced'⟩ := of_decide_eq_true hdraft'
  have hlast : ∀ create ∈ w.creates, create.produced = some true →
      w.Last create.task create.deliveryId := by
    intro create hcreate hmade
    by_contra hsuperseded
    rw [h.superseded create hcreate hsuperseded] at hmade
    cases hmade
  have hamem := List.mem_of_getElem? ha
  have hbmem := List.mem_of_getElem? hb
  obtain ⟨pending, hpending, hpendingOf⟩ := h.created a hamem
  obtain ⟨other, hother, hotherOf⟩ := h.created b hbmem
  have htask : a.task = b.task := by
    apply (hlast a hamem hproduced).unique _ hpending hpendingOf hother
    . rw [hotherOf, hof, hof']
    . rw [hof, ← hof']
      exact hlast b hbmem hproduced'
  have hlt : i < (w.creates.map DraftCreate.task).length := by
    rw [List.length_map]
    exact (List.getElem?_eq_some_iff.mp ha).1
  apply (List.getElem?_inj hlt h.once).mp
  rw [List.getElem?_map, List.getElem?_map, ha, hb, Option.map_some, Option.map_some, htask]

variable [Digest]

/--
What is recorded for the worker of a task, as far as a safe failure is one.
-/
theorem Safe.finished (h : w.Safe) {now : Instant} {task : Nat} {command : InboxCommand}
    {ended : List Nat}
    (hcommand : (∃ receipt, command = .completeDelivery now task receipt)
      ∨ ∃ accessGranted, command = .failDelivery now task accessGranted
        ∧ (accessGranted = false → ∀ pending, w.desk.deliveries[task]? = some pending →
          ∀ stored, w.desk.inbox.deliveries[pending.deliveryId]? = some stored →
          stored.requireTransitionOwner now (some pending.workerId) = .ok () →
          w.NoDraft pending.deliveryId))
    : ({ w with desk := inboxService.next w.desk command, ended := ended } : DraftWorld).Safe := by
  apply Machine.next_cases (P := fun desk => ({ w with desk := desk, ended := ended } : DraftWorld).Safe)
  . exact h.written rfl rfl fun _ _ hold => .inl hold
  intro desk output haccepted
  have heffect := InboxDesk.step_effect haccepted
  rcases hcommand with ⟨receipt, heq⟩ | ⟨accessGranted, heq, hnone⟩
  . subst heq
    cases heffect with
    | deliveryCompleted _ hcompleted => exact h.completed hcompleted
  . subst heq
    cases heffect with
    | deliveryFailed hpending hfailed =>
      unfold InboxStore.failDelivery at hfailed
      split at hfailed
      . exact h.failed hfailed nofun nofun
      . next hdenied =>
        apply h.failed hfailed nofun
        intro _
        exact hnone (by simpa using hdenied) _ hpending

/--
What a reconciliation records, as far as an absence is one.
-/
theorem Safe.reconciled (h : w.Safe) {now : Instant} {actor : ActorContext} {deliveryId : Nat}
    {lookup : Option DraftLookupResult}
    (hnone : ∀ result ∈ lookup, result.absenceIsTerminal = true →
      ∀ stored, w.desk.inbox.deliveries[deliveryId]? = some stored →
      stored.requireTransitionOwner now none = .ok () → w.NoDraft deliveryId)
    : ({ w with desk := inboxService.next w.desk (.reconcileDelivery now actor deliveryId lookup) }
        : DraftWorld).Safe := by
  apply Machine.next_cases (P := fun desk => ({ w with desk := desk } : DraftWorld).Safe)
  . exact h
  intro desk output haccepted
  cases InboxDesk.step_effect haccepted with
  | deliveryReconciled hreconciled =>
    unfold InboxStore.reconcileDelivery at hreconciled
    split at hreconciled
    . exact h.failed hreconciled nofun nofun
    . split at hreconciled
      . exact h.completed hreconciled
      . apply h.failed hreconciled
        . split <;> nofun
        . split
          . next habsent => exact fun _ => hnone _ rfl (by simpa using habsent.2)
          . nofun

theorem Safe.commanded (h : w.Safe) {command : InboxCommand} {desk : InboxDesk} {output : InboxOutput}
    (hdrives : command.drivesDelivery = false)
    (haccepted : inboxService.step w.desk command = .ok (desk, output))
    : ({ w with desk := desk } : DraftWorld).Safe := by
  have heffect := InboxDesk.step_effect haccepted
  by_cases hdeliver : ∃ now actor caseId expectedDraftVersion workerId,
      command = .deliver now actor caseId expectedDraftVersion workerId
  . obtain ⟨_, _, _, _, _, heq⟩ := hdeliver
    subst heq
    cases heffect with
    | @delivered now actor caseId _ workerId inbox deliveryId request hdelivered =>
      rcases InboxStore.deliver_started hdelivered with ⟨hnone, hsame⟩ | ⟨⟨asked, hsome⟩, hstarted⟩
      . rw [hnone]
        refine h.written ?_ ?_ ?_
        . simp
        . exact congrArg List.length hsame
        . intro i delivery hdelivery
          exact .inl (hsame ▸ hdelivery)
      . rw [hsome]
        have hlength : w.desk.inbox.deliveries.length ≤ inbox.deliveries.length := by
          by_contra hlt
          have hstored := hstarted.stored
          have hsame := hstarted.others inbox.deliveries.length (by omega)
          rw [List.getElem?_eq_none (Nat.le_refl _), List.getElem?_eq_getElem (by omega)] at hsame
          cases hsame
        exact h.started rfl hlength hstarted
  . simp only [not_exists] at hdeliver
    obtain ⟨hrows, htasks⟩ := heffect.deliveries_kept hdrives hdeliver
    refine h.written htasks (congrArg List.length hrows) ?_
    intro i delivery hdelivery
    exact .inl (hrows ▸ hdelivery)

theorem Safe.event (h : w.Safe) {event : DraftEvent} (htruthful : w.Truthful event)
    (htimely : w.Timely event) : (draftService.next w event).Safe := by
  apply Machine.next_cases h
  intro w' output hstep
  unfold draftService step at hstep
  dsimp only at hstep
  cases event with
  | command command =>
    dsimp only at hstep
    rw [ensure_bind_eq_ok, bind_eq_ok] at hstep
    obtain ⟨hdrives, ⟨desk, answer⟩, haccepted, heq⟩ := hstep
    rw [pure_eq_ok, Prod.mk.injEq] at heq
    rw [← heq.1]
    exact h.commanded hdrives haccepted
  | denyAccess now task =>
    dsimp only at hstep
    rw [ensure_bind_eq_ok] at hstep
    obtain ⟨hcreated, hfinish⟩ := hstep
    rw [finish_eq_ok hfinish]
    apply h.finished (.inr ⟨false, rfl, ?_⟩)
    intro _ pending hpending stored hstored howner
    exact h.noDraft_of_last hpending (htimely pending stored hpending hstored howner) hcreated
  | create task =>
    obtain ⟨hcreated, pending, hpending, heq⟩ := create_eq_ok hstep
    obtain ⟨delivery, hdelivery⟩ := h.stored_delivery hpending
    obtain ⟨hlast, hstatus⟩ := htimely pending delivery hpending hdelivery
    rw [heq]
    exact h.called hpending hdelivery hcreated hlast hstatus
  | settle call produced =>
    dsimp only at hstep
    unfold settle at hstep
    rw [orThrow_bind_eq_ok] at hstep
    obtain ⟨create, hcreate, hstep⟩ := hstep
    rw [ensure_bind_eq_ok, pure_eq_ok, Prod.mk.injEq] at hstep
    rw [← hstep.2.1]
    exact h.settled hcreate hstep.1
  | recordReceipt now task receipt =>
    dsimp only at hstep
    rw [ensure_bind_eq_ok] at hstep
    rw [finish_eq_ok hstep.2]
    exact h.finished (.inl ⟨receipt, rfl⟩)
  | recordFailure now task =>
    dsimp only at hstep
    rw [ensure_bind_eq_ok] at hstep
    rw [finish_eq_ok hstep.2]
    exact h.finished (.inr ⟨true, rfl, nofun⟩)
  | reconcile now actor deliveryId =>
    rcases reconcile_eq_ok hstep with heq | ⟨caseId, heq⟩
    . exact heq ▸ h
    . rw [heq]
      apply h.withLookups
      intro lookup hlookup
      cases List.mem_append.mp hlookup with
      | inl hold => exact .inl hold
      | inr hnew =>
        rw [List.mem_singleton.mp hnew]
        exact .inr nofun
  | lookup reconciliation result =>
    obtain ⟨lookup, hlookup, heq⟩ := lookup_eq_ok hstep
    rw [heq]
    apply h.withLookups
    intro other hother
    cases List.mem_or_eq_of_mem_set hother with
    | inl hold => exact .inl hold
    | inr hnew =>
      rw [hnew]
      refine .inr ?_
      intro answer creates hstate hterminal
      rw [LookupState.answered.injEq] at hstate
      obtain ⟨hresult, hcreates⟩ := hstate
      rw [hresult] at htruthful
      rw [← hcreates, List.take_length]
      exact ⟨Nat.le_refl _, htruthful hterminal lookup hlookup⟩
  | recordLookup now reconciliation =>
    obtain ⟨lookup, result, creates, hlookup, hstate, heq⟩ := recordLookup_eq_ok hstep
    have hrecorded : ({ w with
        desk := inboxService.next w.desk
          (.reconcileDelivery now lookup.actor lookup.deliveryId result) } : DraftWorld).Safe := by
      apply h.reconciled
      intro answer hanswer hterminal stored hstored howner create hcreate hof
      rw [Option.mem_def] at hanswer
      rw [hanswer] at hstate
      -- what began before the lookup was seen by it, the rest is what must be timely
      rw [← List.take_append_drop creates w.creates] at hcreate
      cases List.mem_append.mp hcreate with
      | inl hseen =>
        exact (h.looked lookup (List.mem_of_getElem? hlookup) answer creates hstate hterminal).2 create
          hseen hof
      | inr hlater =>
        exact htimely lookup answer creates stored hlookup hstate hterminal hstored howner create hlater
          hof
    rw [heq]
    apply hrecorded.withLookups
    intro other hother
    cases List.mem_or_eq_of_mem_set hother with
    | inl hold => exact .inl hold
    | inr hnew =>
      rw [hnew]
      exact .inr nofun

/--
A worker may only make its call where no earlier one can make a draft.
-/
theorem Safe.noDraft_of_create (h : w.Safe) {task : Nat} {pending : PendingDelivery} {w' : DraftWorld}
    {output : InboxOutput} (htimely : w.Timely (.create task))
    (hpending : w.desk.deliveries[task]? = some pending)
    (hcreate : draftService.step w (.create task) = .ok (w', output))
    : w.NoDraft pending.deliveryId := by
  obtain ⟨hcreated, _⟩ := create_eq_ok hcreate
  obtain ⟨delivery, hdelivery⟩ := h.stored_delivery hpending
  exact h.noDraft_of_last hpending (htimely pending delivery hpending hdelivery).1 hcreated

end DraftWorld

/--
Let lookups report a terminal absence only when no draft exists and no call can still make one. If workers
call the provider for the last start of their delivery only, and the absence that is recorded has not been
overtaken by a call, then a draft is created again only where every earlier call is known to have made none,
and no delivery ever has two drafts.
-/
theorem draft_not_recreated [Digest] (store : Store) (events : List DraftEvent)
    (htruthful : draftService.Along DraftWorld.Truthful (.new store) events)
    (htimely : draftService.Along DraftWorld.Timely (.new store) events)
    : (∀ pre task post, events = pre ++ .create task :: post →
        ∀ w, w = draftService.run (.new store) pre → ∀ w' output,
          draftService.step w (.create task) = .ok (w', output) →
          ∀ pending, w.desk.deliveries[task]? = some pending → w.NoDraft pending.deliveryId)
      ∧ ∀ pre post, events = pre ++ post → ∀ deliveryId,
        (draftService.run (.new store) pre).creates.countP
          (fun create => create.deliveryId = deliveryId ∧ create.produced = some true) ≤ 1 := by
  have hsafe : ∀ pre post, events = pre ++ post → (draftService.run (.new store) pre).Safe := by
    intro pre post heq
    rw [heq, Machine.along_append] at htruthful htimely
    apply Machine.run_invariant_along _ (DraftWorld.new_safe store)
      (Machine.along_and htruthful.1 htimely.1)
    intro w event hw hevent
    exact hw.event hevent.1 hevent.2
  constructor
  . intro pre task post heq w hw w' output hcreate pending hpending
    subst hw
    exact (hsafe pre _ heq).noDraft_of_create (Machine.along_iff.mp htimely pre _ post heq) hpending
      hcreate
  . intro pre post heq deliveryId
    exact (hsafe pre post heq).one_draft deliveryId

namespace Sample

attribute [local instance] Digest.checksum

def absent : DraftLookupResult where
  status := .absent
  receipt := none
  absenceIsTerminal := true
  receipt_iff_found := by simp
  absent_of_terminal := by simp

/--
The first call makes no draft, and two reconciliations look it up. After the first has recorded the absence,
the delivery is started again, and the second records it once more while the new call is under way.
-/
def recreated : List DraftEvent :=
  [.command (.deliver 4 manager 2 1 "w-1"), .create 0, .settle 0 false, .recordFailure 5 0,
    .reconcile 6 manager 0, .reconcile 6 manager 0, .lookup 0 (some absent), .lookup 1 (some absent),
    .recordLookup 7 0, .command (.deliver 8 manager 2 1 "w-2"), .create 1, .recordFailure 9 1,
    .recordLookup 10 1, .command (.deliver 11 manager 2 1 "w-3"), .create 2, .settle 1 true,
    .settle 2 true]

/--
Nothing is looked up while a call is open or has made a draft.
-/
def looksUpNothing (w : DraftWorld) : DraftEvent → Bool
  | .lookup .. => w.creates.all fun create => create.produced = some false
  | _ => true

theorem truthful_of_looksUpNothing {w : DraftWorld} {event : DraftEvent}
    (h : looksUpNothing w event = true) : w.Truthful event := by
  cases event with
  | lookup reconciliation result =>
    cases result with
    | none => trivial
    | some result =>
      intro _ lookup _ create hcreate _
      exact of_decide_eq_true (List.all_eq_true.mp h create hcreate)
  | _ => trivial

theorem recreated_truthful
    : draftService.Along DraftWorld.Truthful (.new store) (replyApproved.map .command ++ recreated) := by
  apply Machine.along_mono (Q := fun w event => looksUpNothing w event = true)
  . intro w event
    exact truthful_of_looksUpNothing
  . decide +kernel

/--
A lookup that was overtaken lets a delivery have two drafts.
-/
theorem two_drafts
    : ¬ ∀ (store : Store) (events : List DraftEvent),
        draftService.Along DraftWorld.Truthful (.new store) events → ∀ deliveryId,
        (draftService.run (.new store) events).creates.countP
          (fun create => create.deliveryId = deliveryId ∧ create.produced = some true) ≤ 1 := by
  intro h
  have hone := h store _ recreated_truthful 0
  have htwo : (draftService.run (.new store) (replyApproved.map .command ++ recreated)).creates.countP
      (fun create => create.deliveryId = 0 ∧ create.produced = some true) = 2 := by
    decide +kernel
  rw [htwo] at hone
  exact absurd hone (by decide)

/--
Calls are made for the newest task only and while no delivery has failed, and an absence is recorded while
there is still no draft.
-/
def actsInTime (w : DraftWorld) : DraftEvent → Bool
  | .create task => w.desk.deliveries.length ≤ task + 1
    ∧ w.desk.inbox.deliveries.all fun delivery => delivery.status ≠ .failedSafe
  | .denyAccess .. => false
  | .recordLookup .. => w.creates.all fun create => create.produced = some false
  | _ => true

theorem timely_of_actsInTime {w : DraftWorld} {event : DraftEvent} (h : actsInTime w event = true)
    : w.Timely event := by
  cases event with
  | create task =>
    obtain ⟨hlength, hstatus⟩ := of_decide_eq_true h
    intro pending delivery _ hdelivery
    constructor
    . intro later other hlater hother
      have := (List.getElem?_eq_some_iff.mp hother).1
      omega
    . exact of_decide_eq_true (List.all_eq_true.mp hstatus delivery (List.mem_of_getElem? hdelivery))
  | denyAccess now task => cases h
  | recordLookup now reconciliation =>
    intro _ _ _ _ _ _ _ _ _ create hcreate _
    exact of_decide_eq_true (List.all_eq_true.mp h create (List.mem_of_mem_drop hcreate))
  | _ => trivial

/--
The first call makes no draft. Once that was looked up, the delivery is started again.
-/
def createdAgain : List DraftEvent :=
  [.command (.deliver 4 manager 2 1 "w-1"), .create 0, .settle 0 false, .recordFailure 5 0,
    .reconcile 6 manager 0, .lookup 0 (some absent), .recordLookup 7 0,
    .command (.deliver 8 manager 2 1 "w-2"), .create 1, .settle 1 true,
    .recordReceipt 9 1 { providerDraftId := "D", providerMessageId := "M" }]

theorem draft_not_recreated_retried
    : (draftService.run (.new store) (replyApproved.map .command ++ createdAgain)).creates.countP
      (fun create => create.deliveryId = 0 ∧ create.produced = some true) ≤ 1 := by
  have hmeets : draftService.Along (fun w event => looksUpNothing w event = true ∧ actsInTime w event = true)
      (.new store) (replyApproved.map .command ++ createdAgain) := by
    decide +kernel
  have htruthful : draftService.Along DraftWorld.Truthful (.new store)
      (replyApproved.map .command ++ createdAgain) := by
    apply Machine.along_mono _ hmeets
    intro w event h
    exact truthful_of_looksUpNothing h.1
  have htimely : draftService.Along DraftWorld.Timely (.new store)
      (replyApproved.map .command ++ createdAgain) := by
    apply Machine.along_mono _ hmeets
    intro w event h
    exact timely_of_actsInTime h.2
  exact (draft_not_recreated store _ htruthful htimely).2 _ [] (List.append_nil _).symm 0

end Sample

end CaseResolution
