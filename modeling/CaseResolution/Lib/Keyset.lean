import Mathlib.Data.List.Sort
import Mathlib.Order.Defs.LinearOrder
import Mathlib.Tactic.Common

/-!
This module contains lists that are read in pages by a key: what lies after and before a key in the
order of the keys, forward and backward, and how a page tells that more items follow it.
-/

universe u v

namespace Keyset

variable {α : Type u} {κ : Type v} [LinearOrder κ]

/--
The items in the order of their keys.
-/
def ascending (key : α → κ) (l : List α) : List α :=
  l.insertionSort fun a b => key a ≤ key b

/--
The items in the reverse order of their keys.
-/
def descending (key : α → κ) (l : List α) : List α :=
  l.insertionSort fun a b => key b ≤ key a

/--
The keys increase along the list.
-/
def Increasing (key : α → κ) (l : List α) : Prop :=
  l.Pairwise fun a b => key a < key b

/--
The items from `start` on and before `stop`.
-/
def slice (l : List α) (start stop : Nat) : List α :=
  (l.take stop).drop start

variable {key : α → κ} {l s : List α}

theorem ascending_perm : (ascending key l).Perm l :=
  List.perm_insertionSort _ l

theorem descending_perm : (descending key l).Perm l :=
  List.perm_insertionSort _ l

/--
A list of distinct keys has one order in which its keys increase.
-/
theorem eq_of_increasing {l₁ l₂ : List α} (h₁ : Increasing key l₁) (h₂ : Increasing key l₂)
    (hperm : l₁.Perm l₂) : l₁ = l₂ := by
  apply hperm.eq_of_pairwise _ h₁ h₂
  intro a b _ _ hab hba
  exact absurd hba (lt_asymm hab)

theorem ascending_increasing (h : (l.map key).Nodup) : Increasing key (ascending key l) := by
  have hsorted : (ascending key l).Pairwise fun a b => key a ≤ key b := by
    have : IsTrans α fun a b => key a ≤ key b := ⟨fun _ _ _ hab hbc => le_trans hab hbc⟩
    have : Std.Total fun a b => key a ≤ key b := ⟨fun a b => le_total (key a) (key b)⟩
    exact List.pairwise_insertionSort _ l
  have hnodup : ((ascending key l).map key).Nodup := (ascending_perm.map key).nodup_iff.mpr h
  have hne : (ascending key l).Pairwise fun a b => key a ≠ key b := List.pairwise_map.mp hnodup
  exact hsorted.imp₂ (fun a b hle hneab => lt_of_le_of_ne hle hneab) hne

theorem descending_eq (h : (l.map key).Nodup) : descending key l = (ascending key l).reverse := by
  have hnodup : (l.map fun a => OrderDual.toDual (key a)).Nodup := by
    have heq : (l.map fun a => OrderDual.toDual (key a)) = (l.map key).map OrderDual.toDual := by
      rw [List.map_map]
      rfl
    rw [heq]
    exact h.map (fun _ _ heq => heq)
  have hback : Increasing (fun a => OrderDual.toDual (key a)) (descending key l) :=
    ascending_increasing hnodup
  have hforth : Increasing (fun a => OrderDual.toDual (key a)) (ascending key l).reverse :=
    List.pairwise_reverse.mpr (ascending_increasing h)
  apply eq_of_increasing hback hforth
  exact (List.perm_insertionSort _ l).trans (ascending_perm.symm.trans (List.reverse_perm _).symm)

/--
Choosing items and sorting them can be done in either order.
-/
theorem ascending_filter (h : (l.map key).Nodup) (p : α → Bool)
    : ascending key (l.filter p) = (ascending key l).filter p := by
  have hfilter : ((l.filter p).map key).Nodup := h.sublist (List.filter_sublist.map key)
  apply eq_of_increasing (ascending_increasing hfilter) ((ascending_increasing h).filter p)
  exact ascending_perm.trans (ascending_perm.symm.filter p)

section Position

variable {i : Nat} {a : α}

/--
An item comes before the `i`-th one exactly when its key does.
-/
theorem Increasing.lt_iff (hs : Increasing key s) {j : Nat} {b : α} (ha : s[i]? = some a)
    (hb : s[j]? = some b) : key b < key a ↔ j < i := by
  have hlt : ∀ (m n : Nat) (c d : α), s[m]? = some c → s[n]? = some d → m < n → key c < key d := by
    intro m n c d hc hd hmn
    obtain ⟨hm, rfl⟩ := List.getElem?_eq_some_iff.mp hc
    obtain ⟨hn, rfl⟩ := List.getElem?_eq_some_iff.mp hd
    exact List.pairwise_iff_getElem.mp hs m n hm hn hmn
  constructor
  . intro hkey
    rcases Nat.lt_trichotomy j i with hji | heq | hij
    . exact hji
    . subst heq
      rw [ha, Option.some.injEq] at hb
      rw [hb] at hkey
      exact absurd hkey (lt_irrefl _)
    . exact absurd hkey (lt_asymm (hlt i j a b ha hb hij))
  . exact hlt j i b a hb ha

/--
The items with a key before that of the `i`-th item are the ones in front of it.
-/
theorem Increasing.filter_lt (hs : Increasing key s) (ha : s[i]? = some a)
    : (s.filter fun b => key b < key a) = s.take i := by
  have hi : i < s.length := (List.getElem?_eq_some_iff.mp ha).1
  have hfront : ∀ b ∈ s.take i, key b < key a := by
    intro b hb
    obtain ⟨j, hj⟩ := List.mem_iff_getElem?.mp hb
    rw [List.getElem?_take] at hj
    split at hj
    . next hji => exact (hs.lt_iff ha hj).mpr hji
    . cases hj
  have hback : ∀ b ∈ s.drop i, ¬ key b < key a := by
    intro b hb
    obtain ⟨j, hj⟩ := List.mem_iff_getElem?.mp hb
    rw [List.getElem?_drop] at hj
    rw [hs.lt_iff ha hj]
    omega
  calc s.filter (fun b => key b < key a)
    _ = (s.take i ++ s.drop i).filter fun b => key b < key a := by rw [List.take_append_drop]
    _ = s.take i := by
      rw [List.filter_append, List.filter_eq_self.mpr (by simpa using hfront),
        List.filter_eq_nil_iff.mpr (by simpa using hback), List.append_nil]

/--
The items with a key after that of the `i`-th item are the ones behind it.
-/
theorem Increasing.filter_gt (hs : Increasing key s) (ha : s[i]? = some a)
    : (s.filter fun b => key a < key b) = s.drop (i + 1) := by
  have hfront : ∀ b ∈ s.take (i + 1), ¬ key a < key b := by
    intro b hb
    obtain ⟨j, hj⟩ := List.mem_iff_getElem?.mp hb
    rw [List.getElem?_take] at hj
    split at hj
    . next hji =>
      rw [hs.lt_iff hj ha]
      omega
    . cases hj
  have hback : ∀ b ∈ s.drop (i + 1), key a < key b := by
    intro b hb
    obtain ⟨j, hj⟩ := List.mem_iff_getElem?.mp hb
    rw [List.getElem?_drop] at hj
    rw [hs.lt_iff hj ha]
    omega
  calc s.filter (fun b => key a < key b)
    _ = (s.take (i + 1) ++ s.drop (i + 1)).filter fun b => key a < key b := by
      rw [List.take_append_drop]
    _ = s.drop (i + 1) := by
      rw [List.filter_append, List.filter_eq_nil_iff.mpr (by simpa using hfront),
        List.filter_eq_self.mpr (by simpa using hback), List.nil_append]

end Position

section Newest

variable {n : Nat} {a b : α}

/--
The first `n` items in the reverse order of the keys are those with fewer than `n` keys after theirs.
-/
theorem mem_take_descending (h : (l.map key).Nodup)
    : a ∈ (descending key l).take n ↔ a ∈ l ∧ (l.filter fun b => key a < key b).length < n := by
  have hperm : (descending key l).Perm l := descending_perm
  have hback : Increasing (fun b => OrderDual.toDual (key b)) (descending key l) := by
    rw [descending_eq h]
    exact List.pairwise_reverse.mpr (ascending_increasing h)
  have hrank : ∀ i, (descending key l)[i]? = some a →
      (l.filter fun b => key a < key b).length = i := by
    intro i hi
    have hlt : i < (descending key l).length := (List.getElem?_eq_some_iff.mp hi).1
    have hfilter := congrArg List.length (hback.filter_lt hi)
    rw [List.length_take, Nat.min_eq_left hlt.le] at hfilter
    rw [← (hperm.filter _).length_eq]
    exact hfilter
  rw [List.mem_iff_getElem?]
  constructor
  . rintro ⟨i, hi⟩
    rw [List.getElem?_take] at hi
    split at hi
    . next hin =>
      refine ⟨hperm.mem_iff.mp (List.mem_of_getElem? hi), ?_⟩
      rw [hrank i hi]
      exact hin
    . cases hi
  . rintro ⟨hmem, hn⟩
    obtain ⟨i, hi⟩ := List.mem_iff_getElem?.mp (hperm.mem_iff.mpr hmem)
    rw [hrank i hi] at hn
    exact ⟨i, by rw [List.getElem?_take_of_lt hn, hi]⟩

/--
An item with `n` keys after its own does not come among the first `n` and displaces none of them.
-/
theorem mem_take_descending_append (h : ((l ++ [a]).map key).Nodup)
    (hfull : n ≤ (l.filter fun c => key a < key c).length)
    : b ∈ (descending key (l ++ [a])).take n ↔ b ∈ (descending key l).take n := by
  have hl : (l.map key).Nodup := h.sublist ((List.sublist_append_left l [a]).map key)
  rw [mem_take_descending h, mem_take_descending hl, List.filter_append, List.length_append,
    List.mem_append, List.mem_singleton]
  constructor
  . rintro ⟨hmem | rfl, hn⟩
    . exact ⟨hmem, by omega⟩
    . omega
  . rintro ⟨hmem, hn⟩
    refine ⟨.inl hmem, ?_⟩
    have hab : ¬ key b < key a := by
      intro hlt
      -- Every key after that of `a` would also be one after that of `b`.
      have hle : (l.filter fun c => key a < key c).length ≤ (l.filter fun c => key b < key c).length := by
        apply List.Sublist.length_le
        apply List.monotone_filter_right
        intro c hc
        simp only [decide_eq_true_eq] at hc ⊢
        exact lt_trans hlt hc
      omega
    simpa [hab] using hn

end Newest

section LookAhead

variable {limit : Nat}

/--
One item more than the page is fetched, which tells whether the page is the last one.
-/
theorem lookAhead_page : (s.take (limit + 1)).take limit = s.take limit := by
  rw [List.take_take]
  congr 1
  omega

theorem lookAhead_more : limit < (s.take (limit + 1)).length ↔ limit < s.length := by
  rw [List.length_take]
  omega

end LookAhead

section Slice

variable {start stop : Nat}

theorem slice_length : (slice s start stop).length = min stop s.length - start := by
  unfold slice
  rw [List.length_drop, List.length_take]

theorem take_drop_eq_slice {n : Nat} : (s.drop start).take n = slice s start (start + n) := by
  unfold slice
  rw [List.drop_take]
  congr 1
  omega

/--
The page before `stop`: the last items in front of it, fetched in reverse order and turned round.
-/
theorem reverse_take_reverse_eq_slice {n : Nat} (h : stop ≤ s.length)
    : (((s.take stop).reverse).take n).reverse = slice s (stop - n) stop := by
  unfold slice
  rw [List.take_reverse, List.reverse_reverse, List.length_take, Nat.min_eq_left h]

theorem slice_min : slice s start (min stop s.length) = slice s start stop := by
  unfold slice
  rw [← List.take_take, List.take_length]

theorem slice_ne_nil (hstart : start < stop) (hstop : stop ≤ s.length) : slice s start stop ≠ [] := by
  rw [← List.length_pos_iff, slice_length]
  omega

theorem slice_head? (h : start < stop) : (slice s start stop).head? = s[start]? := by
  unfold slice
  rw [List.head?_drop, List.getElem?_take_of_lt h]

theorem slice_getLast? (hstart : start < stop) (hstop : stop ≤ s.length)
    : (slice s start stop).getLast? = s[stop - 1]? := by
  rw [List.getLast?_eq_getElem?, slice_length]
  unfold slice
  rw [List.getElem?_drop, Nat.min_eq_left hstop, List.getElem?_take_of_lt (by omega)]
  congr 1
  omega

theorem slice_append_slice {mid : Nat} (hstart : start ≤ mid) (hmid : mid ≤ stop)
    : slice s start mid ++ slice s mid stop = slice s start stop := by
  unfold slice
  have htake : s.take mid = (s.take stop).take mid := by
    rw [List.take_take]
    congr 1
    omega
  rw [htake]
  have hsplit : (s.take stop).drop start
      = ((s.take stop).drop start).take (mid - start) ++ ((s.take stop).drop start).drop (mid - start) :=
    (List.take_append_drop _ _).symm
  rw [hsplit, List.drop_take, List.drop_drop]
  congr 2
  omega

end Slice

end Keyset
