import CaseResolution.Cases.Lemmas.Queue

/-!
This module contains what a walk through the case queue shows: which cases stand on a page, which pages
its cursors lead to and when the reported offset is the rank of the first case of a page.
-/

namespace CaseResolution

open Guard Keyset

namespace CaseQueueQuery

variable [Digest] {Text : Type} [CursorCodec Text] {q : CaseQueueQuery}

def encoded (q : CaseQueueQuery) (cursor : CaseQueueCursor) : Text :=
  CursorCodec.dumps { contextHash := q.cursorContextHash, cursor }

omit [Digest] in
theorem validateCursorPosition_position {cursor : CaseQueueCursor} {c : QueueCase}
    (h : cursor.position = c.position q.sort) : q.validateCursorPosition cursor = .ok () := by
  unfold validateCursorPosition
  rw [h]
  unfold QueueCase.position
  rw [ensure_bind_eq_ok, ensure_eq_ok]
  constructor
  . intro hpriority
    simp [hpriority]
  . intro hother
    simp [hother]

/--
The cursor stands at a case of the queue, if there is one.
-/
def AtCase (q : CaseQueueQuery) (cursor : Option CaseQueueCursor) : Prop :=
  ∀ found ∈ cursor, ∃ c : QueueCase, found.position = c.position q.sort

theorem encodeCursor_of_atCase {cursor : Option CaseQueueCursor} (h : q.AtCase cursor)
    : (q.encodeCursor cursor : Except Error (Option Text)) = .ok (cursor.map q.encoded) := by
  cases cursor with
  | none => rfl
  | some cursor =>
    obtain ⟨c, hc⟩ := h cursor rfl
    unfold encodeCursor
    dsimp only
    rw [validateCursorPosition_position hc]
    rfl

/--
A cursor that was encoded for the same query is read back as it was.
-/
theorem decodeCursor_encoded {cursor : CaseQueueCursor} {c : QueueCase}
    (h : cursor.position = c.position q.sort)
    : q.decodeCursor (some (q.encoded cursor : Text)) = .ok (some cursor) := by
  unfold decodeCursor encoded
  dsimp only
  rw [CursorCodec.loads_dumps]
  dsimp only
  rw [ensure_bind_eq_ok, ensure_bind_eq_ok, validateCursorPosition_position h]
  exact ⟨rfl, rfl, rfl⟩

end CaseQueueQuery

section Walk

variable [Digest] {Text : Type} [CursorCodec Text]

/--
The response shows the cases of the sorted queue from `start` on and before `stop`.
-/
structure CaseListResponse.Shows (shown : CaseListResponse Text) (queue : List QueueCase)
    (q : CaseQueueQuery) (snapshotAt : Instant) (start stop : Nat) : Prop where
  spans : shown.page.Spans queue q.sort snapshotAt start stop
  nextText : shown.nextCursor = shown.page.nextCursor.map q.encoded
  previousText : shown.previousCursor = shown.page.previousCursor.map q.encoded

omit [Digest] in
theorem CaseListPage.Spans.atCase {page : CaseListPage} {queue : List QueueCase} {q : CaseQueueQuery}
    {snapshotAt : Instant} {start stop : Nat} (h : page.Spans queue q.sort snapshotAt start stop)
    : q.AtCase page.nextCursor ∧ q.AtCase page.previousCursor := by
  constructor
  . intro cursor hcursor
    rw [h.next] at hcursor
    split at hcursor
    . obtain ⟨c, _, rfl⟩ := Option.map_eq_some_iff.mp hcursor
      exact ⟨c, rfl⟩
    . cases hcursor
  . intro cursor hcursor
    rw [h.previous] at hcursor
    split at hcursor
    . obtain ⟨c, _, rfl⟩ := Option.map_eq_some_iff.mp hcursor
      exact ⟨c, rfl⟩
    . cases hcursor

variable [TextCollation] {t : CaseTable} {actor : ActorContext} {q : CaseQueueQuery}
  {now snapshotAt : Instant} {limit : PageLimit} {shown next : CaseListResponse Text} {start stop : Nat}

/--
An answer is the page that was found, with its cursors as texts.
-/
theorem CaseTable.answer_eq_ok {cursor : Option Text} {decoded : Option CaseQueueCursor}
    {queue : List QueueCase} (hdecoded : q.decodeCursor cursor = .ok decoded)
    (hspans : (t.listCases now actor.actorId q.filters q.sort decoded limit.value).Spans queue q.sort
      snapshotAt start stop)
    : t.answer now actor q cursor limit = .ok next
        ↔ actor.can .caseRead = true
          ∧ next = {
            page := t.listCases now actor.actorId q.filters q.sort decoded limit.value
            nextCursor :=
              (t.listCases now actor.actorId q.filters q.sort decoded limit.value).nextCursor.map q.encoded
            previousCursor :=
              (t.listCases now actor.actorId q.filters q.sort decoded limit.value).previousCursor.map
                q.encoded } := by
  unfold answer requirePermission
  rw [ensure_bind_eq_ok, hdecoded]
  simp only [bind_eq_ok, Except.ok.injEq, exists_eq_left',
    CaseQueueQuery.encodeCursor_of_atCase hspans.atCase.1,
    CaseQueueQuery.encodeCursor_of_atCase hspans.atCase.2, pure_eq_ok]
  rw [eq_comm (a := next)]

theorem CaseTable.answer_shows {cursor : Option Text} {decoded : Option CaseQueueCursor}
    {queue : List QueueCase} (hdecoded : q.decodeCursor cursor = .ok decoded)
    (hspans : (t.listCases now actor.actorId q.filters q.sort decoded limit.value).Spans queue q.sort
      snapshotAt start stop)
    (h : t.answer now actor q cursor limit = .ok next)
    : next.Shows queue q snapshotAt start stop
        ∧ next.page = t.listCases now actor.actorId q.filters q.sort decoded limit.value := by
  obtain ⟨_, rfl⟩ := (CaseTable.answer_eq_ok hdecoded hspans).mp h
  exact ⟨⟨hspans, rfl, rfl⟩, rfl⟩

theorem CaseTable.answer_first (h : t.answer now actor q (none : Option Text) limit = .ok next)
    : actor.can .caseRead = true
        ∧ next.Shows (t.sortedQueue actor.actorId q now) q now 0
          (min limit.value (t.sortedQueue actor.actorId q now).length)
        ∧ next.page.offset = 0 ∧ next.page.limit = limit.value := by
  have hspans := CaseTable.listCases_first t now actor.actorId q limit.pos
  obtain ⟨hshows, hpage⟩ := CaseTable.answer_shows rfl hspans h
  refine ⟨((CaseTable.answer_eq_ok rfl hspans).mp h).1, hshows, ?_, ?_⟩
  . rw [hpage]
    rfl
  . rw [hpage]
    rfl

/--
A move answers the cursor of its direction.
-/
theorem queueWalk_eq_ok {move : QueueMove}
    : (queueWalk t actor q).step shown move = .ok (next, ⟨⟩)
        ↔ ∃ cursor, shown.cursor move.direction = some cursor
          ∧ t.answer move.now actor q (some cursor) move.limit = .ok next := by
  unfold queueWalk
  dsimp only
  rw [orThrow_bind_eq_ok]
  simp only [bind_eq_ok, pure_eq_ok, Prod.mk.injEq, and_true, exists_eq_right]

/--
The page after the shown one starts where that one stops.
-/
theorem queueWalk_forward
    (hshown : shown.Shows (t.sortedQueue actor.actorId q snapshotAt) q snapshotAt start stop)
    (h : (queueWalk t actor q).step shown { direction := .forward, now, limit } = .ok (next, ⟨⟩))
    : stop < (t.sortedQueue actor.actorId q snapshotAt).length
        ∧ next.Shows (t.sortedQueue actor.actorId q snapshotAt) q snapshotAt stop
          (min (stop + limit.value) (t.sortedQueue actor.actorId q snapshotAt).length)
        ∧ next.page.offset = shown.page.offset + (stop - start) ∧ next.page.limit = limit.value := by
  obtain ⟨text, hcursor, hanswer⟩ := queueWalk_eq_ok.mp h
  dsimp only [CaseListResponse.cursor] at hcursor hanswer
  rw [hshown.nextText, hshown.spans.next] at hcursor
  split at hcursor
  . next hmore =>
    have hpos := hshown.spans.nonempty (List.length_pos_iff.mp (Nat.zero_lt_of_lt hmore))
    obtain ⟨cursor, hcase, rfl⟩ := Option.map_eq_some_iff.mp hcursor
    obtain ⟨last, hlast, rfl⟩ := Option.map_eq_some_iff.mp hcase
    have hspans := CaseTable.listCases_forward now (shown.page.offset + (stop - start))
      limit.pos hlast (by omega)
    rw [Nat.sub_add_cancel (Nat.one_le_of_lt hpos)] at hspans
    obtain ⟨hshows, hpage⟩ :=
      CaseTable.answer_shows (CaseQueueQuery.decodeCursor_encoded rfl) hspans hanswer
    refine ⟨hmore, hshows, ?_, ?_⟩
    . rw [hpage]
      rfl
    . rw [hpage]
      rfl
  . cases hcursor

/--
The page before the shown one stops where that one starts.
-/
theorem queueWalk_backward
    (hshown : shown.Shows (t.sortedQueue actor.actorId q snapshotAt) q snapshotAt start stop)
    (h : (queueWalk t actor q).step shown { direction := .backward, now, limit } = .ok (next, ⟨⟩))
    : 0 < start
        ∧ next.Shows (t.sortedQueue actor.actorId q snapshotAt) q snapshotAt (start - limit.value) start
        ∧ next.page.offset = shown.page.offset - shown.page.limit ∧ next.page.limit = limit.value := by
  obtain ⟨text, hcursor, hanswer⟩ := queueWalk_eq_ok.mp h
  dsimp only [CaseListResponse.cursor] at hcursor hanswer
  rw [hshown.previousText, hshown.spans.previous] at hcursor
  split at hcursor
  . next hpos =>
    obtain ⟨cursor, hcase, rfl⟩ := Option.map_eq_some_iff.mp hcursor
    obtain ⟨first, hfirst, rfl⟩ := Option.map_eq_some_iff.mp hcase
    have hspans := CaseTable.listCases_backward now (shown.page.offset - shown.page.limit)
      limit.pos hfirst hpos
    obtain ⟨hshows, hpage⟩ :=
      CaseTable.answer_shows (CaseQueueQuery.decodeCursor_encoded rfl) hspans hanswer
    refine ⟨hpos, hshows, ?_, ?_⟩
    . rw [hpage]
      rfl
    . rw [hpage]
      rfl
  . cases hcursor

/--
Where a page follows in the direction of a move, the move is accepted.
-/
theorem queueWalk_accepts (hcan : actor.can .caseRead = true) (direction : CaseQueueCursorDirection)
    (now : Instant) (limit : PageLimit)
    (hshown : shown.Shows (t.sortedQueue actor.actorId q snapshotAt) q snapshotAt start stop)
    (hthere : match direction with
      | .forward => stop < (t.sortedQueue actor.actorId q snapshotAt).length
      | .backward => 0 < start)
    : ∃ next, (queueWalk t actor q).step shown { direction, now, limit } = .ok (next, ⟨⟩) := by
  cases direction with
  | forward =>
    have hpos := hshown.spans.nonempty (List.length_pos_iff.mp (Nat.zero_lt_of_lt hthere))
    have hlast : stop - 1 < (t.sortedQueue actor.actorId q snapshotAt).length := by
      omega
    have hspans := CaseTable.listCases_forward now (shown.page.offset + (stop - start))
      limit.pos (List.getElem?_eq_getElem hlast) (by omega)
    refine ⟨_, queueWalk_eq_ok.mpr ⟨_, ?_,
      (CaseTable.answer_eq_ok (CaseQueueQuery.decodeCursor_encoded rfl) hspans).mpr ⟨hcan, rfl⟩⟩⟩
    dsimp only [CaseListResponse.cursor]
    rw [hshown.nextText, hshown.spans.next, if_pos hthere, List.getElem?_eq_getElem hlast]
    rfl
  | backward =>
    have hfirst : start < (t.sortedQueue actor.actorId q snapshotAt).length := by
      have hstop := hshown.spans.stop_le
      have hle := hshown.spans.le
      have hne : t.sortedQueue actor.actorId q snapshotAt ≠ [] := by
        intro hnil
        rw [hnil, List.length_nil] at hstop
        dsimp only at hthere
        omega
      have := hshown.spans.nonempty hne
      omega
    have hspans := CaseTable.listCases_backward now (shown.page.offset - shown.page.limit)
      limit.pos (List.getElem?_eq_getElem hfirst) hthere
    refine ⟨_, queueWalk_eq_ok.mpr ⟨_, ?_,
      (CaseTable.answer_eq_ok (CaseQueueQuery.decodeCursor_encoded rfl) hspans).mpr ⟨hcan, rfl⟩⟩⟩
    dsimp only [CaseListResponse.cursor]
    rw [hshown.previousText, hshown.spans.previous, if_pos hthere, List.getElem?_eq_getElem hfirst]
    rfl

/--
A page of the sorted queue stays one under every move.
-/
theorem queueWalk_next (move : QueueMove)
    (hshown : ∃ start stop,
      shown.Shows (t.sortedQueue actor.actorId q snapshotAt) q snapshotAt start stop)
    : ∃ start stop, ((queueWalk t actor q).next shown move).Shows
        (t.sortedQueue actor.actorId q snapshotAt) q snapshotAt start stop := by
  apply Machine.next_cases (P := fun r : CaseListResponse Text =>
    ∃ start stop, r.Shows (t.sortedQueue actor.actorId q snapshotAt) q snapshotAt start stop) hshown
  intro next _ hstep
  obtain ⟨start, stop, hshown⟩ := hshown
  obtain ⟨direction, now, limit⟩ := move
  cases direction with
  | forward => exact ⟨_, _, (queueWalk_forward hshown hstep).2.1⟩
  | backward => exact ⟨_, _, (queueWalk_backward hshown hstep).2.1⟩

theorem queueWalk_run (moves : List QueueMove)
    (hfirst : t.answer now actor q (none : Option Text) limit = .ok shown)
    : ∃ start stop, ((queueWalk t actor q).run shown moves).Shows
        (t.sortedQueue actor.actorId q now) q now start stop := by
  apply Machine.run_invariant (P := fun r : CaseListResponse Text =>
    ∃ start stop, r.Shows (t.sortedQueue actor.actorId q now) q now start stop)
  . exact ⟨_, _, (CaseTable.answer_first hfirst).2.1⟩
  . intro r move hr
    exact queueWalk_next move hr

/--
The cases a forward walk shows, page after page, until there is no further page or no further request.
-/
def CaseTable.itemsFrom (t : CaseTable) (actor : ActorContext) (q : CaseQueueQuery)
    : List (Instant × PageLimit) → CaseListResponse Text → List QueueCase
  | [], shown => shown.page.items
  | (now, limit) :: requests, shown =>
    match (queueWalk t actor q).step shown { direction := .forward, now, limit } with
    | .ok (next, _) => shown.page.items ++ t.itemsFrom actor q requests next
    | .error _ => shown.page.items

/--
A forward walk of enough requests shows everything from its first page on.
-/
theorem CaseTable.itemsFrom_eq (hcan : actor.can .caseRead = true) (requests : List (Instant × PageLimit))
    (hshown : shown.Shows (t.sortedQueue actor.actorId q snapshotAt) q snapshotAt start stop)
    (hrequests : (t.sortedQueue actor.actorId q snapshotAt).length ≤ stop + requests.length)
    : t.itemsFrom actor q requests shown
        = slice (t.sortedQueue actor.actorId q snapshotAt) start
            (t.sortedQueue actor.actorId q snapshotAt).length := by
  induction requests generalizing shown start stop with
  | nil =>
    have hstop := hshown.spans.stop_le
    rw [List.length_nil] at hrequests
    have heq : stop = (t.sortedQueue actor.actorId q snapshotAt).length := by omega
    unfold itemsFrom
    rw [hshown.spans.items, heq]
  | cons request requests ih =>
    obtain ⟨now, limit⟩ := request
    have hstop := hshown.spans.stop_le
    unfold itemsFrom
    split
    . next next _ hstep =>
      obtain ⟨hmore, hnext, _⟩ := queueWalk_forward hshown hstep
      have hlimit := limit.pos
      rw [List.length_cons] at hrequests
      rw [hshown.spans.items, ih hnext (by omega), slice_append_slice hshown.spans.le hstop]
    . next hstep =>
      -- the last page
      have hlast : ¬ stop < (t.sortedQueue actor.actorId q snapshotAt).length := by
        intro hmore
        obtain ⟨next, hnext⟩ := queueWalk_accepts hcan .forward now limit hshown hmore
        rw [hnext] at hstep
        cases hstep
      have heq : stop = (t.sortedQueue actor.actorId q snapshotAt).length := by omega
      rw [hshown.spans.items, heq]

/--
How many cases of the queue precede the first one of the page.
-/
def CaseListPage.preceding (page : CaseListPage) (queue : List QueueCase) : Nat :=
  match page.items with
  | [] => 0
  | first :: _ => queue.idxOf first

/--
A move backward asks for pages of the size the shown page has, or of a size that reaches the first case,
as does the size of the shown page.
-/
def QueueMove.KeepsOffset (queue : List QueueCase) (shown : CaseListResponse Text) (move : QueueMove)
    : Prop :=
  move.direction = .backward → move.limit.value = shown.page.limit
    ∨ (shown.page.preceding queue ≤ move.limit.value ∧ shown.page.preceding queue ≤ shown.page.limit)

instance (queue : List QueueCase) (shown : CaseListResponse Text) (move : QueueMove)
    : Decidable (move.KeepsOffset queue shown) :=
  inferInstanceAs (Decidable (_ → _))

theorem CaseListResponse.Shows.preceding
    (hshown : shown.Shows (t.sortedQueue actor.actorId q snapshotAt) q snapshotAt start stop)
    : shown.page.preceding (t.sortedQueue actor.actorId q snapshotAt) = start := by
  have hle := hshown.spans.le
  have hstop := hshown.spans.stop_le
  have hhead : shown.page.items.head? = if start < stop then
      (t.sortedQueue actor.actorId q snapshotAt)[start]? else none := by
    rw [hshown.spans.items]
    split
    . next hlt => exact slice_head? hlt
    . unfold slice
      rw [List.head?_drop, List.getElem?_take]
      split
      . omega
      . rfl
  unfold CaseListPage.preceding
  split
  . next hnil =>
    rw [hnil, List.head?_nil] at hhead
    split at hhead
    . rw [List.getElem?_eq_getElem (by omega)] at hhead
      cases hhead
    . next hge =>
      have hempty : ¬ t.sortedQueue actor.actorId q snapshotAt ≠ [] := fun hne =>
        hge (hshown.spans.nonempty hne)
      rw [not_not] at hempty
      rw [hempty, List.length_nil] at hstop
      omega
  . next first rest hcons =>
    rw [hcons, List.head?_cons] at hhead
    split at hhead
    . obtain ⟨hlt, hget⟩ := List.getElem?_eq_some_iff.mp hhead.symm
      have hnodup : (t.sortedQueue actor.actorId q snapshotAt).Nodup :=
        CaseTable.sortedQueue_increasing.imp fun hkeys heq => by
          rw [heq] at hkeys
          exact lt_irrefl _ hkeys
      rw [← hget]
      exact hnodup.idxOf_getElem start hlt
    . cases hhead

/--
From a page with the right offset a move leads to one exactly when it keeps the offset.
-/
theorem queueWalk_offset_iff (hcan : actor.can .caseRead = true) (move : QueueMove)
    (hshown : shown.Shows (t.sortedQueue actor.actorId q snapshotAt) q snapshotAt start stop)
    (hoffset : shown.page.offset = start)
    : ((queueWalk t actor q).next shown move).page.offset
          = ((queueWalk t actor q).next shown move).page.preceding (t.sortedQueue actor.actorId q snapshotAt)
        ↔ move.KeepsOffset (t.sortedQueue actor.actorId q snapshotAt) shown := by
  have hprecedes := hshown.preceding
  unfold QueueMove.KeepsOffset
  rw [hprecedes]
  cases hstep : (queueWalk t actor q).step shown move with
  | error e =>
    rw [Machine.next_of_error hstep, hprecedes, hoffset]
    simp only [true_iff]
    intro hbackward
    -- a refused move backward starts at the first case
    have hzero : ¬ 0 < start := by
      intro hpos
      obtain ⟨direction, now, limit⟩ := move
      dsimp only at hbackward
      subst hbackward
      obtain ⟨next, hnext⟩ := queueWalk_accepts hcan .backward now limit hshown hpos
      rw [hnext] at hstep
      cases hstep
    omega
  | ok result =>
    obtain ⟨next, _⟩ := result
    rw [Machine.next_of_ok hstep]
    obtain ⟨direction, now, limit⟩ := move
    cases direction with
    | forward =>
      obtain ⟨_, hnext, hmoved, _⟩ := queueWalk_forward hshown hstep
      have hle := hshown.spans.le
      rw [hnext.preceding, hmoved, hoffset]
      simp only [reduceCtorEq, false_implies, iff_true]
      omega
    | backward =>
      obtain ⟨hpos, hnext, hmoved, _⟩ := queueWalk_backward hshown hstep
      rw [hnext.preceding, hmoved, hoffset]
      simp only [true_implies]
      omega

/--
All pages of a walk report the rank of their first case as offset exactly when every move backward keeps
it.
-/
theorem offset_is_rank_iff (t : CaseTable) (actor : ActorContext) (q : CaseQueueQuery) (now : Instant)
    (limit : PageLimit) (first : CaseListResponse Text) (moves : List QueueMove)
    (hfirst : t.answer now actor q none limit = .ok first)
    : (∀ pre post, moves = pre ++ post →
          ((queueWalk t actor q).run first pre).page.offset
            = ((queueWalk t actor q).run first pre).page.preceding (t.sortedQueue actor.actorId q now))
        ↔ (queueWalk t actor q).Along
            (fun shown move => move.KeepsOffset (t.sortedQueue actor.actorId q now) shown) first moves := by
  obtain ⟨hcan, hshown, hoffset, -⟩ := CaseTable.answer_first hfirst
  rw [← hshown.preceding] at hoffset
  generalize min limit.value (t.sortedQueue actor.actorId q now).length = stop at hshown
  generalize hstart : 0 = start at hshown
  clear hfirst hstart
  induction moves generalizing first start stop with
  | nil =>
    constructor
    . intro _
      trivial
    . intro _ pre post hsplit
      obtain ⟨rfl, _⟩ := List.append_eq_nil_iff.mp hsplit.symm
      exact hoffset
  | cons move moves ih =>
    have hmove := queueWalk_offset_iff hcan move hshown (hoffset.trans hshown.preceding)
    obtain ⟨start', stop', hnext⟩ := queueWalk_next move ⟨start, stop, hshown⟩
    constructor
    . intro hall
      have hmoved := hall [move] moves rfl
      refine ⟨hmove.mp hmoved, (ih ((queueWalk t actor q).next first move) hmoved _ _ hnext).mp ?_⟩
      intro pre post hsplit
      exact hall (move :: pre) post (by rw [hsplit, List.cons_append])
    . intro ⟨hkeeps, halong⟩ pre post hsplit
      have hmoved := hmove.mpr hkeeps
      cases pre with
      | nil => exact hoffset
      | cons head pre =>
        rw [List.cons_append, List.cons.injEq] at hsplit
        obtain ⟨rfl, hrest⟩ := hsplit
        exact (ih ((queueWalk t actor q).next first move) hmoved _ _ hnext).mpr halong pre post hrest

end Walk

/-!
A queue of four cases that are due one after the other.
-/

namespace Sample

attribute [local instance] Digest.checksum

@[reducible]
def codepoints : TextCollation where
  sortKey := id
  sortKey_injective := Function.injective_id
  contains := fun query text => query = text

/--
A cursor that stands for itself.
-/
@[reducible]
def plainCursor : CursorCodec CaseCursorPayload where
  dumps := id
  loads := some
  loads_dumps := fun _ => rfl

attribute [local instance] codepoints plainCursor

def queueCase (publicId : String) (dueAt : Instant) : QueueCase where
  publicId := publicId
  externalReference := "REF"
  issue := "Refund"
  customerName := "Customer"
  status := .new
  category := .refundRequest
  risk := .low
  dueAt := dueAt
  updatedAt := 0
  owner := none

def fourCases : CaseTable where
  rows := [queueCase "C-3" 30, queueCase "C-1" 10, queueCase "C-4" 40, queueCase "C-2" 20]
  publicIds_nodup := by decide

def reader : ActorContext where
  actorId := "MB-1"
  role := some .administrator
  permissions := fun _ => true

def byDueDate : CaseQueueQuery where
  filters := { status := none, category := none, query := none, view := .all }
  sort := .sla

def oneCase : PageLimit :=
  { value := 1, pos := by decide }

def twoCases : PageLimit :=
  { value := 2, pos := by decide }

def firstPage : Except Error (CaseListResponse CaseCursorPayload) :=
  fourCases.answer 100 reader byDueDate none twoCases

theorem firstPage_accepted : ∃ first, firstPage = .ok first := by
  rw [← isOk_iff]
  decide +kernel

/--
On to the second page, of one case, and back to a page of two.
-/
def forthAndBack : List QueueMove :=
  [{ direction := .forward, now := 100, limit := oneCase },
    { direction := .backward, now := 100, limit := twoCases }]

theorem offset_is_rank_iff_four
    : ∃ first, firstPage = .ok first
        ∧ ((∀ pre post, forthAndBack = pre ++ post →
            ((queueWalk fourCases reader byDueDate).run first pre).page.offset
              = ((queueWalk fourCases reader byDueDate).run first pre).page.preceding
                (fourCases.sortedQueue reader.actorId byDueDate 100))
          ↔ (queueWalk fourCases reader byDueDate).Along
            (fun shown move => move.KeepsOffset (fourCases.sortedQueue reader.actorId byDueDate 100) shown)
            first forthAndBack) := by
  obtain ⟨first, hfirst⟩ := firstPage_accepted
  exact ⟨first, hfirst,
    offset_is_rank_iff fourCases reader byDueDate 100 twoCases first forthAndBack hfirst⟩

/--
Back on the first page, whose first case is the first of all, the reported offset is 1.
-/
theorem offset_drifts
    : ∃ first, firstPage = .ok first
        ∧ ((queueWalk fourCases reader byDueDate).run first forthAndBack).page.offset = 1
        ∧ ((queueWalk fourCases reader byDueDate).run first forthAndBack).page.preceding
          (fourCases.sortedQueue reader.actorId byDueDate 100) = 0 := by
  have hdrift : (firstPage.toOption.any fun first =>
      ((queueWalk fourCases reader byDueDate).run first forthAndBack).page.offset = 1
        ∧ ((queueWalk fourCases reader byDueDate).run first forthAndBack).page.preceding
          (fourCases.sortedQueue reader.actorId byDueDate 100) = 0) = true := by
    decide +kernel
  rw [Option.any_eq_true] at hdrift
  obtain ⟨first, hfirst, hfacts⟩ := hdrift
  exact ⟨first, toOption_eq_some.mp hfirst, of_decide_eq_true hfacts⟩

end Sample

end CaseResolution
