import Mathlib.Data.List.Induction
import Mathlib.Data.List.Nodup
import Mathlib.Data.List.Sort
import Mathlib.Tactic.Common

/-!
This module contains dictionaries that are built from the items of a list, and when two lists build the
same dictionary.
-/

universe u v

namespace Entries

variable {α : Type u} {κ : Type v} [DecidableEq κ] {key : α → κ} {l r : List α} {a : α} {k : κ}

/--
The item under a key. A later item of the list replaces an earlier one with its key.
-/
def lookup (key : α → κ) (l : List α) (k : κ) : Option α :=
  l.reverse.find? fun a => key a = k

theorem lookup_eq_some (h : lookup key l k = some a) : a ∈ l ∧ key a = k := by
  unfold lookup at h
  have hmem := List.mem_of_find?_eq_some h
  have hkey := List.find?_some h
  exact ⟨List.mem_reverse.mp hmem, of_decide_eq_true hkey⟩

theorem lookup_isSome_iff : (lookup key l k).isSome ↔ k ∈ l.map key := by
  unfold lookup
  rw [List.find?_isSome, List.mem_map]
  simp

/--
Under distinct keys every item is found under its own.
-/
theorem lookup_eq_some_iff (h : (l.map key).Nodup) : lookup key l k = some a ↔ a ∈ l ∧ key a = k := by
  constructor
  . exact lookup_eq_some
  . rintro ⟨hmem, rfl⟩
    have hfound : (lookup key l (key a)).isSome := by
      rw [lookup_isSome_iff]
      exact List.mem_map_of_mem hmem
    obtain ⟨b, hb⟩ := Option.isSome_iff_exists.mp hfound
    obtain ⟨hbmem, hkey⟩ := lookup_eq_some hb
    rw [hb, List.inj_on_of_nodup_map h hbmem hmem hkey]

theorem lookup_map {β : Type*} {f : β → α} {l : List β}
    : lookup key (l.map f) k = (lookup (fun b => key (f b)) l k).map f := by
  unfold lookup
  rw [← List.map_reverse, List.find?_map]
  rfl

/--
The two lists build the same dictionary.
-/
def Same (key : α → κ) (l r : List α) : Prop :=
  ∀ a ∈ l ++ r, lookup key l (key a) = lookup key r (key a)

instance [DecidableEq α] : Decidable (Same key l r) :=
  inferInstanceAs (Decidable (∀ a ∈ l ++ r, lookup key l (key a) = lookup key r (key a)))

theorem same_iff : Same key l r ↔ ∀ k, lookup key l k = lookup key r k := by
  constructor
  . intro h k
    by_cases hk : k ∈ (l ++ r).map key
    . obtain ⟨a, hmem, rfl⟩ := List.mem_map.mp hk
      exact h a hmem
    . rw [List.map_append, List.mem_append, not_or] at hk
      have hl : lookup key l k = none := by
        rw [← Option.not_isSome_iff_eq_none, lookup_isSome_iff]
        exact hk.1
      have hr : lookup key r k = none := by
        rw [← Option.not_isSome_iff_eq_none, lookup_isSome_iff]
        exact hk.2
      rw [hl, hr]
  . intro h a _
    exact h (key a)

theorem Same.refl (key : α → κ) (l : List α) : Same key l l :=
  same_iff.mpr fun _ => rfl

theorem Same.symm (h : Same key l r) : Same key r l :=
  same_iff.mpr fun k => (same_iff.mp h k).symm

theorem Same.trans {t : List α} (hlr : Same key l r) (hrt : Same key r t) : Same key l t :=
  same_iff.mpr fun k => (same_iff.mp hlr k).trans (same_iff.mp hrt k)

theorem Same.mem_keys_iff (h : Same key l r) : k ∈ l.map key ↔ k ∈ r.map key := by
  rw [← lookup_isSome_iff, ← lookup_isSome_iff, same_iff.mp h k]

/--
Lists with the same items under distinct keys build the same dictionary.
-/
theorem same_of_mem_iff (hl : (l.map key).Nodup) (hr : (r.map key).Nodup) (h : ∀ a, a ∈ l ↔ a ∈ r)
    : Same key l r := by
  rw [same_iff]
  intro k
  apply Option.ext
  intro a
  rw [lookup_eq_some_iff hl, lookup_eq_some_iff hr, h a]

end Entries

/--
A dictionary in the order in which its keys were added.
-/
structure Dictionary (κ : Type v) (α : Type u) where
  entries : List (κ × α)
  keys_nodup : (entries.map Prod.fst).Nodup

namespace Dictionary

variable {α : Type u} {κ : Type v}

instance [DecidableEq α] [DecidableEq κ] : DecidableEq (Dictionary κ α) := fun d d' =>
  decidable_of_iff (d.entries = d'.entries) (by cases d; cases d'; simp)

theorem eq_of_entries {d d' : Dictionary κ α} (h : d.entries = d'.entries) : d = d' := by
  cases d
  cases d'
  congr

section Set

variable [DecidableEq κ]

def empty : Dictionary κ α where
  entries := []
  keys_nodup := List.nodup_nil

/--
An entry under a new key comes last, another one replaces the entry of its key.
-/
def set (d : Dictionary κ α) (k : κ) (a : α) : Dictionary κ α where
  entries :=
    if k ∈ d.entries.map Prod.fst then
      d.entries.map fun entry => if entry.1 = k then (k, a) else entry
    else
      d.entries ++ [(k, a)]
  keys_nodup := by
    split
    . have hkeys : (d.entries.map fun entry => if entry.1 = k then (k, a) else entry).map Prod.fst
          = d.entries.map Prod.fst := by
        rw [List.map_map]
        apply List.map_congr_left
        intro entry _
        simp only [Function.comp_apply]
        split
        . next h => exact h.symm
        . rfl
      rw [hkeys]
      exact d.keys_nodup
    . next hnew =>
      rw [List.map_append, List.map_singleton, List.nodup_append]
      refine ⟨d.keys_nodup, List.nodup_singleton k, ?_⟩
      intro k' hk' other hother heq
      rw [List.mem_singleton] at hother
      have hsame : k' = k := heq.trans hother
      exact hnew (hsame ▸ hk')

def ofEntries (l : List (κ × α)) : Dictionary κ α :=
  l.foldl (fun d entry => d.set entry.1 entry.2) empty

theorem ofEntries_append_singleton (l : List (κ × α)) (entry : κ × α)
    : ofEntries (l ++ [entry]) = (ofEntries l).set entry.1 entry.2 := by
  unfold ofEntries
  rw [List.foldl_append, List.foldl_cons, List.foldl_nil]

theorem mem_set_iff {d : Dictionary κ α} {k : κ} {a : α} {entry : κ × α}
    : entry ∈ (d.set k a).entries ↔ entry = (k, a) ∨ (entry ∈ d.entries ∧ entry.1 ≠ k) := by
  unfold set
  dsimp only
  split
  . next hk =>
    rw [List.mem_map]
    constructor
    . rintro ⟨other, hother, rfl⟩
      split
      . exact .inl rfl
      . next hne => exact .inr ⟨hother, hne⟩
    . rintro (rfl | ⟨hmem, hne⟩)
      . obtain ⟨other, hother, rfl⟩ := List.mem_map.mp hk
        exact ⟨other, hother, if_pos rfl⟩
      . exact ⟨entry, hmem, if_neg hne⟩
  . next hk =>
    rw [List.mem_append, List.mem_singleton]
    constructor
    . rintro (hmem | heq)
      . refine .inr ⟨hmem, ?_⟩
        rintro rfl
        exact hk (List.mem_map_of_mem hmem)
      . exact .inl heq
    . rintro (heq | ⟨hmem, _⟩)
      . exact .inr heq
      . exact .inl hmem

/--
The dictionary of a list holds the last entry of every key.
-/
theorem mem_ofEntries_iff {l : List (κ × α)} {entry : κ × α}
    : entry ∈ (ofEntries l).entries ↔ Entries.lookup Prod.fst l entry.1 = some entry := by
  induction l using List.reverseRecOn with
  | nil => simp [ofEntries, empty, Entries.lookup]
  | append_singleton l last ih =>
    rw [ofEntries_append_singleton, mem_set_iff, ih]
    unfold Entries.lookup
    rw [List.reverse_append, List.reverse_singleton, List.singleton_append, List.find?_cons]
    by_cases h : last.1 = entry.1
    . have heq : entry = (entry.1, last.2) ↔ last = entry := by
        rw [← h]
        exact eq_comm
      simp [h, ← heq]
    . have hne : entry ≠ last := fun heq => h (heq ▸ rfl)
      have hne' : entry.1 ≠ last.1 := fun heq => h heq.symm
      simp [h, hne, hne']

theorem length_ofEntries_le (l : List (κ × α)) : (ofEntries l).entries.length ≤ l.length := by
  induction l using List.reverseRecOn with
  | nil => exact le_rfl
  | append_singleton l last ih =>
    rw [ofEntries_append_singleton, set, List.length_append, List.length_singleton]
    dsimp only
    split
    . rw [List.length_map]
      omega
    . rw [List.length_append, List.length_singleton]
      omega

theorem ofEntries_ne_nil {l : List (κ × α)} (h : l ≠ []) : (ofEntries l).entries ≠ [] := by
  obtain ⟨entry, hentry⟩ := List.exists_mem_of_ne_nil l h
  have hfound : (Entries.lookup Prod.fst l entry.1).isSome := by
    rw [Entries.lookup_isSome_iff]
    exact List.mem_map_of_mem hentry
  obtain ⟨last, hlast⟩ := Option.isSome_iff_exists.mp hfound
  have hkey : last.1 = entry.1 := (Entries.lookup_eq_some hlast).2
  apply List.ne_nil_of_mem (a := last)
  rw [mem_ofEntries_iff, hkey]
  exact hlast

/--
The dictionary of a list of distinct keys holds the list as it is.
-/
theorem entries_ofEntries {l : List (κ × α)} (h : (l.map Prod.fst).Nodup)
    : (ofEntries l).entries = l := by
  induction l using List.reverseRecOn with
  | nil => rfl
  | append_singleton l last ih =>
    rw [List.map_append, List.nodup_append] at h
    specialize ih h.1
    have hnew : last.1 ∉ l.map Prod.fst := by
      intro hmem
      exact h.2.2 _ hmem _ (List.mem_singleton_self _) rfl
    rw [ofEntries_append_singleton, set]
    dsimp only
    rw [ih, if_neg hnew]

end Set

section Sorted

variable [LinearOrder κ]

/--
The dictionary in the order of its keys.
-/
def sorted (d : Dictionary κ α) : Dictionary κ α where
  entries := d.entries.insertionSort fun a b => a.1 ≤ b.1
  keys_nodup := by
    have hperm := (List.perm_insertionSort (fun a b : κ × α => a.1 ≤ b.1) d.entries).map Prod.fst
    exact hperm.nodup_iff.mpr d.keys_nodup

theorem mem_sorted_iff {d : Dictionary κ α} {entry : κ × α} : entry ∈ d.sorted.entries ↔ entry ∈ d.entries :=
  List.mem_insertionSort _

theorem length_sorted (d : Dictionary κ α) : d.sorted.entries.length = d.entries.length :=
  List.length_insertionSort _ _

theorem sorted_sorted (d : Dictionary κ α) : d.sorted.sorted = d.sorted := by
  have : Std.Total fun a b : κ × α => a.1 ≤ b.1 := ⟨fun a b => le_total a.1 b.1⟩
  have : IsTrans (κ × α) fun a b => a.1 ≤ b.1 := ⟨fun _ _ _ hab hbc => le_trans hab hbc⟩
  apply eq_of_entries
  apply List.Pairwise.insertionSort_eq
  exact List.pairwise_insertionSort _ d.entries

end Sorted

end Dictionary
