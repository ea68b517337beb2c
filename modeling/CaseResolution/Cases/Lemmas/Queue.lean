import CaseResolution.Cases.Impl.Queue
import CaseResolution.Lib.Keyset
import Mathlib.Data.Prod.Lex

/-!
This module contains the order of the case queue and the pages of the sorted queue that its query
returns.
-/

namespace CaseResolution

open Guard Keyset

namespace QueueCase

variable [TextCollation] {sort : CaseQueueSort} {c d : QueueCase}

/--
What the queue is sorted by, the first component first. Later updates come first.
-/
def key (sort : CaseQueueSort) (c : QueueCase) : Nat ×ₗ Int ×ₗ String :=
  match sort with
  | .priority => toLex (c.riskRank, toLex (c.dueAt, TextCollation.sortKey c.publicId))
  | .sla => toLex (0, toLex (c.dueAt, TextCollation.sortKey c.publicId))
  | .updated => toLex (0, toLex (-c.updatedAt, TextCollation.sortKey c.publicId))

theorem publicId_of_key (h : key sort c = key sort d) : c.publicId = d.publicId := by
  cases sort with
  | priority =>
    simp only [key, EmbeddingLike.apply_eq_iff_eq, Prod.mk.injEq] at h
    exact TextCollation.sortKey_injective h.2.2
  | sla =>
    simp only [key, EmbeddingLike.apply_eq_iff_eq, Prod.mk.injEq] at h
    exact TextCollation.sortKey_injective h.2.2
  | updated =>
    simp only [key, EmbeddingLike.apply_eq_iff_eq, Prod.mk.injEq] at h
    exact TextCollation.sortKey_injective h.2.2

theorem orderedBy_iff : orderedBy sort c d ↔ key sort c ≤ key sort d := by
  cases sort with
  | priority => simp only [orderedBy, key, Prod.Lex.toLex_le_toLex]
  | sla => simp only [orderedBy, key, Prod.Lex.toLex_le_toLex, lt_self_iff_false, true_and, false_or]
  | updated =>
    simp only [orderedBy, key, Prod.Lex.toLex_le_toLex, lt_self_iff_false, Int.neg_lt_neg_iff, Int.neg_inj,
      true_and, false_or]

theorem isAfter_iff : d.isAfter sort (c.position sort) = true ↔ key sort c < key sort d := by
  cases sort with
  | priority =>
    simp only [isAfter, position, idBefore, key, Prod.Lex.toLex_lt_toLex, reduceCtorEq, if_true, if_false,
      Option.any_some, decide_eq_true_eq]
    grind
  | sla =>
    simp only [isAfter, position, idBefore, key, Prod.Lex.toLex_lt_toLex, reduceCtorEq, if_false,
      decide_eq_true_eq, lt_self_iff_false, true_and, false_or]
    grind
  | updated =>
    simp only [isAfter, position, idBefore, key, Prod.Lex.toLex_lt_toLex, if_true, decide_eq_true_eq,
      lt_self_iff_false, true_and, false_or, Int.neg_lt_neg_iff, Int.neg_inj]
    grind

theorem isBefore_iff : d.isBefore sort (c.position sort) = true ↔ key sort d < key sort c := by
  cases sort with
  | priority =>
    simp only [isBefore, position, idBefore, key, Prod.Lex.toLex_lt_toLex, reduceCtorEq, if_true, if_false,
      Option.any_some, decide_eq_true_eq]
    grind
  | sla =>
    simp only [isBefore, position, idBefore, key, Prod.Lex.toLex_lt_toLex, reduceCtorEq, if_false,
      decide_eq_true_eq, lt_self_iff_false, true_and, false_or]
  | updated =>
    simp only [isBefore, position, idBefore, key, Prod.Lex.toLex_lt_toLex, if_true, decide_eq_true_eq,
      lt_self_iff_false, true_and, false_or, Int.neg_lt_neg_iff, Int.neg_inj]

end QueueCase

/--
Sorting does not depend on how an order is decided.
-/
theorem insertionSort_congr {α : Type} {r s : α → α → Prop} [DecidableRel r] [DecidableRel s]
    (h : ∀ a b, r a b ↔ s a b) (l : List α) : l.insertionSort r = l.insertionSort s := by
  have heq : r = s := funext fun a => funext fun b => propext (h a b)
  subst heq
  congr

namespace CaseTable

variable [TextCollation]

/--
All cases the filters select, in the order of the queue.
-/
def sortedQueue (t : CaseTable) (actorId : String) (q : CaseQueueQuery) (snapshotAt : Instant)
    : List QueueCase :=
  (t.rows.filter (q.filters.selects actorId snapshotAt)).insertionSort (QueueCase.orderedBy q.sort)

variable {t : CaseTable} {now snapshotAt : Instant} {actorId : String} {q : CaseQueueQuery}

theorem keys_nodup (p : QueueCase → Bool)
    : ((t.rows.filter p).map (QueueCase.key q.sort)).Nodup := by
  have hids : ((t.rows.filter p).map fun c => c.publicId).Nodup :=
    t.publicIds_nodup.sublist (List.filter_sublist.map _)
  rw [List.Nodup, List.pairwise_map] at hids ⊢
  exact hids.imp fun hne heq => hne (QueueCase.publicId_of_key heq)

theorem insertionSort_eq_ascending (l : List QueueCase)
    : l.insertionSort (QueueCase.orderedBy q.sort) = ascending (QueueCase.key q.sort) l :=
  insertionSort_congr (fun _ _ => QueueCase.orderedBy_iff) l

theorem sortedQueue_increasing
    : Increasing (QueueCase.key q.sort) (t.sortedQueue actorId q snapshotAt) := by
  unfold sortedQueue
  rw [insertionSort_eq_ascending]
  exact ascending_increasing (keys_nodup _)

theorem sortedQueue_perm
    : (t.sortedQueue actorId q snapshotAt).Perm (t.rows.filter (q.filters.selects actorId snapshotAt)) :=
  List.perm_insertionSort _ _

variable {i : Nat} {a : QueueCase}

/--
What a forward cursor at the `i`-th case finds, in the order it is read.
-/
theorem ordered_after (ha : (t.sortedQueue actorId q snapshotAt)[i]? = some a)
    : ((t.rows.filter (q.filters.selects actorId snapshotAt)).filter
          fun c => c.isAfter q.sort (a.position q.sort)).insertionSort (QueueCase.orderedBy q.sort)
        = (t.sortedQueue actorId q snapshotAt).drop (i + 1) := by
  rw [insertionSort_eq_ascending, ascending_filter (keys_nodup _), ← insertionSort_eq_ascending,
    ← sortedQueue_increasing.filter_gt ha]
  apply List.filter_congr
  intro c _
  rw [Bool.eq_iff_iff, QueueCase.isAfter_iff, decide_eq_true_eq]

/--
What a backward cursor at the `i`-th case finds, in the order it is read.
-/
theorem ordered_before (ha : (t.sortedQueue actorId q snapshotAt)[i]? = some a)
    : ((t.rows.filter (q.filters.selects actorId snapshotAt)).filter
          fun c => c.isBefore q.sort (a.position q.sort)).insertionSort
            (fun b c => QueueCase.orderedBy q.sort c b)
        = ((t.sortedQueue actorId q snapshotAt).take i).reverse := by
  have hfound : ((t.rows.filter (q.filters.selects actorId snapshotAt)).filter
      fun c => c.isBefore q.sort (a.position q.sort)).map (QueueCase.key q.sort) |>.Nodup :=
    (keys_nodup _).sublist (List.filter_sublist.map _)
  rw [insertionSort_congr (s := fun b c => QueueCase.key q.sort c ≤ QueueCase.key q.sort b)
    (fun _ _ => QueueCase.orderedBy_iff)]
  change descending (QueueCase.key q.sort) _ = _
  rw [descending_eq hfound, ascending_filter (keys_nodup _), ← insertionSort_eq_ascending,
    ← sortedQueue_increasing.filter_lt ha]
  congr 1
  apply List.filter_congr
  intro c _
  rw [Bool.eq_iff_iff, QueueCase.isBefore_iff, decide_eq_true_eq]

end CaseTable

/--
The page shows the cases of the sorted queue from `start` on and before `stop`, and its cursors stand at
its two ends.
-/
structure CaseListPage.Spans (page : CaseListPage) (queue : List QueueCase) (sort : CaseQueueSort)
    (snapshotAt : Instant) (start stop : Nat) : Prop where
  le : start ≤ stop
  stop_le : stop ≤ queue.length
  nonempty : queue ≠ [] → start < stop
  items : page.items = slice queue start stop
  next : page.nextCursor = if stop < queue.length then
      queue[stop - 1]?.map fun last =>
        { direction := .forward, offset := page.offset + (stop - start), snapshotAt
          position := last.position sort }
    else none
  previous : page.previousCursor = if 0 < start then
      queue[start]?.map fun first =>
        { direction := .backward, offset := page.offset - page.limit, snapshotAt
          position := first.position sort }
    else none

namespace CaseTable

variable [TextCollation] {t : CaseTable} {snapshotAt : Instant} {actorId : String}
  {q : CaseQueueQuery} {limit : Nat}

/--
The first page starts at the first case.
-/
theorem listCases_first (t : CaseTable) (now : Instant) (actorId : String) (q : CaseQueueQuery)
    (hlimit : 1 ≤ limit)
    : (t.listCases now actorId q.filters q.sort none limit).Spans (t.sortedQueue actorId q now) q.sort now 0
        (min limit (t.sortedQueue actorId q now).length) := by
  have hitems : (t.listCases now actorId q.filters q.sort none limit).items
      = slice (t.sortedQueue actorId q now) 0 (min limit (t.sortedQueue actorId q now).length) := by
    rw [slice_min]
    exact lookAhead_page
  have hnext : (t.listCases now actorId q.filters q.sort none limit).nextCursor
      = if limit < ((t.sortedQueue actorId q now).take (limit + 1)).length then
          (t.listCases now actorId q.filters q.sort none limit).items.getLast?.map fun last =>
            { direction := .forward
              offset := 0 + (t.listCases now actorId q.filters q.sort none limit).items.length
              snapshotAt := now
              position := last.position q.sort }
        else none := by
    rfl
  constructor
  . exact Nat.zero_le _
  . exact Nat.min_le_right _ _
  . intro hne
    have := List.length_pos_iff.mpr hne
    omega
  . exact hitems
  . rw [hnext, hitems, slice_length, Nat.min_eq_left (Nat.min_le_right _ _)]
    simp only [lookAhead_more]
    by_cases hmore : limit < (t.sortedQueue actorId q now).length
    . rw [if_pos hmore, if_pos (by omega), slice_getLast? (by omega) (by omega)]
      rfl
    . rw [if_neg hmore, if_neg (by omega)]
  . rfl

/--
A forward cursor at the `i`-th case leads to the page that starts after it.
-/
theorem listCases_forward (now : Instant) (offset : Nat) {i : Nat} {a : QueueCase} (hlimit : 1 ≤ limit)
    (ha : (t.sortedQueue actorId q snapshotAt)[i]? = some a)
    (hi : i + 1 < (t.sortedQueue actorId q snapshotAt).length)
    : (t.listCases now actorId q.filters q.sort
          (some { direction := .forward, offset, snapshotAt, position := a.position q.sort }) limit).Spans
        (t.sortedQueue actorId q snapshotAt) q.sort snapshotAt (i + 1)
        (min (i + 1 + limit) (t.sortedQueue actorId q snapshotAt).length) := by
  generalize hpage : t.listCases now actorId q.filters q.sort
    (some { direction := .forward, offset, snapshotAt, position := a.position q.sort }) limit = page
  have hordered := ordered_after ha
  have hitems : page.items = slice (t.sortedQueue actorId q snapshotAt) (i + 1)
      (min (i + 1 + limit) (t.sortedQueue actorId q snapshotAt).length) := by
    rw [slice_min, ← take_drop_eq_slice, ← hordered, ← hpage]
    exact lookAhead_page
  have hne : page.items ≠ [] := by
    rw [hitems]
    exact slice_ne_nil (by omega) (by omega)
  have hnext : page.nextCursor
      = if limit < (((t.sortedQueue actorId q snapshotAt).drop (i + 1)).take (limit + 1)).length then
          page.items.getLast?.map fun last =>
            { direction := .forward, offset := offset + page.items.length, snapshotAt
              position := last.position q.sort }
        else none := by
    rw [← hordered, ← hpage]
    rfl
  have hprevious : page.previousCursor
      = if true = true ∧ page.items ≠ [] then
          page.items.head?.map fun first =>
            { direction := .backward, offset := offset - limit, snapshotAt
              position := first.position q.sort }
        else none := by
    rw [← hpage]
    rfl
  have hoffset : page.offset = offset ∧ page.limit = limit := by
    rw [← hpage]
    exact ⟨rfl, rfl⟩
  constructor
  . omega
  . exact Nat.min_le_right _ _
  . intro _
    omega
  . exact hitems
  . rw [hnext, hitems, slice_length, Nat.min_eq_left (Nat.min_le_right _ _), hoffset.1]
    simp only [lookAhead_more, List.length_drop]
    by_cases hmore : limit < (t.sortedQueue actorId q snapshotAt).length - (i + 1)
    . rw [if_pos hmore, if_pos (by omega), slice_getLast? (by omega) (by omega)]
    . rw [if_neg hmore, if_neg (by omega)]
  . rw [hprevious, if_pos ⟨rfl, hne⟩, hitems, slice_head? (by omega), hoffset.1, hoffset.2,
      if_pos (Nat.succ_pos i)]

/--
A backward cursor at the `i`-th case leads to the page that ends before it.
-/
theorem listCases_backward (now : Instant) (offset : Nat) {i : Nat} {a : QueueCase} (hlimit : 1 ≤ limit)
    (ha : (t.sortedQueue actorId q snapshotAt)[i]? = some a) (hi : 0 < i)
    : (t.listCases now actorId q.filters q.sort
          (some { direction := .backward, offset, snapshotAt, position := a.position q.sort }) limit).Spans
        (t.sortedQueue actorId q snapshotAt) q.sort snapshotAt (i - limit) i := by
  generalize hpage : t.listCases now actorId q.filters q.sort
    (some { direction := .backward, offset, snapshotAt, position := a.position q.sort }) limit = page
  have hlt : i < (t.sortedQueue actorId q snapshotAt).length := (List.getElem?_eq_some_iff.mp ha).1
  have hordered := ordered_before ha
  have hitems : page.items = slice (t.sortedQueue actorId q snapshotAt) (i - limit) i := by
    rw [← reverse_take_reverse_eq_slice (Nat.le_of_lt hlt), ← hordered, ← hpage]
    exact congrArg List.reverse lookAhead_page
  have hne : page.items ≠ [] := by
    rw [hitems]
    exact slice_ne_nil (by omega) (by omega)
  have hnext : page.nextCursor
      = if true = true ∧ page.items ≠ [] then
          page.items.getLast?.map fun last =>
            { direction := .forward, offset := offset + page.items.length, snapshotAt
              position := last.position q.sort }
        else none := by
    rw [← hpage]
    rfl
  have hprevious : page.previousCursor
      = if limit < (((t.sortedQueue actorId q snapshotAt).take i).reverse.take (limit + 1)).length then
          page.items.head?.map fun first =>
            { direction := .backward, offset := offset - limit, snapshotAt
              position := first.position q.sort }
        else none := by
    rw [← hordered, ← hpage]
    rfl
  have hoffset : page.offset = offset ∧ page.limit = limit := by
    rw [← hpage]
    exact ⟨rfl, rfl⟩
  constructor
  . omega
  . omega
  . intro _
    omega
  . exact hitems
  . rw [hnext, if_pos ⟨rfl, hne⟩, hitems, slice_length, Nat.min_eq_left (Nat.le_of_lt hlt),
      slice_getLast? (by omega) (by omega), hoffset.1, if_pos hlt]
  . rw [hprevious, hitems, hoffset.1, hoffset.2]
    simp only [lookAhead_more]
    rw [List.length_reverse, List.length_take, Nat.min_eq_left (Nat.le_of_lt hlt)]
    by_cases hmore : limit < i
    . rw [if_pos hmore, if_pos (by omega), slice_head? (by omega)]
    . rw [if_neg hmore, if_neg (by omega)]

end CaseTable

end CaseResolution
