import Mathlib.Data.List.Induction
import Mathlib.Data.List.Sort
import Mathlib.Tactic.Common

/-!
This module contains rankings: the rank of an item in a list, and the choice of the first items of a
list under a cap on the items of one group.
-/

universe u v w

namespace Rankings

variable {α : Type u} {γ : Type v}

/--
The rank of the first item that meets `p`, where ranks are counted from `start`.
-/
def rank (p : α → Bool) (start : Nat) (l : List α) : Option Nat :=
  (l.findIdx? p).map fun i => i + start

section Rank

variable {p : α → Bool} {start : Nat} {a : α} {l : List α}

theorem rank_cons : rank p start (a :: l) = if p a then some start else rank p (start + 1) l := by
  unfold rank
  rw [List.findIdx?_cons]
  split
  . simp
  . rw [Option.map_map]
    congr 1
    funext i
    simp only [Function.comp_apply]
    omega

theorem rank_eq_none_iff : rank p start l = none ↔ ∀ a ∈ l, p a = false := by
  unfold rank
  rw [Option.map_eq_none_iff, List.findIdx?_eq_none_iff]

end Rank

/--
Sorting lists of the same items gives the same list where the order tells all of them apart.
-/
theorem insertionSort_eq_of_perm {r : α → α → Prop} [DecidableRel r] {l m : List α}
    (htotal : ∀ a b, r a b ∨ r b a) (htrans : ∀ a b c, r a b → r b c → r a c) (hperm : l.Perm m)
    (hanti : ∀ a ∈ l, ∀ b ∈ l, r a b → r b a → a = b)
    : l.insertionSort r = m.insertionSort r := by
  have : Std.Total r := ⟨htotal⟩
  have : IsTrans α r := ⟨htrans⟩
  have hl := List.pairwise_insertionSort r l
  have hm := List.pairwise_insertionSort r m
  have hlm : (l.insertionSort r).Perm (m.insertionSort r) :=
    (List.perm_insertionSort r l).trans (hperm.trans (List.perm_insertionSort r m).symm)
  apply hlm.eq_of_pairwise _ hl hm
  intro a b ha hb
  apply hanti
  . exact (List.mem_insertionSort r).mp ha
  . exact hperm.mem_iff.mpr ((List.mem_insertionSort r).mp hb)

section Capped

variable [DecidableEq γ] (group : α → γ)

/--
How many items of the list belong to the group.
-/
def members (g : γ) (l : List α) : Nat :=
  l.countP fun a => group a = g

/--
Add the items of the list to `selected` until there are `limit` of them, but no more than `cap` of one
group.
-/
def selectCapped (limit cap : Nat) : List α → List α → List α
  | [], selected => selected
  | a :: l, selected =>
    if cap ≤ members group (group a) selected then
      selectCapped limit cap l selected
    else if (selected ++ [a]).length = limit then
      selected ++ [a]
    else
      selectCapped limit cap l (selected ++ [a])

variable {group} {limit cap : Nat} {l selected : List α} {g : γ}

theorem members_append {m : List α} : members group g (l ++ m) = members group g l + members group g m :=
  List.countP_append

theorem members_cons {a : α}
    : members group g (a :: l) = members group g l + if group a = g then 1 else 0 := by
  unfold members
  rw [List.countP_cons]
  simp

theorem members_pos_iff : 0 < members group g l ↔ ∃ a ∈ l, group a = g := by
  unfold members
  rw [List.countP_pos_iff]
  simp

theorem members_le_length : members group g l ≤ l.length :=
  List.countP_le_length

variable (group l) in
/--
Two groups do not share items.
-/
theorem members_add_le {g' : γ} (h : g ≠ g') : members group g l + members group g' l ≤ l.length := by
  induction l with
  | nil => simp [members]
  | cons a l ih =>
    rw [members_cons, members_cons, List.length_cons]
    by_cases ha : group a = g
    . rw [if_pos ha, if_neg (fun hg' => h (ha.symm.trans hg'))]
      omega
    . rw [if_neg ha]
      split <;> omega

variable (group limit cap l selected) in
/--
The first items of the list are taken, in its order, as long as nothing is selected twice.
-/
theorem selectCapped_extends
    : ∃ taken, selectCapped group limit cap l selected = selected ++ taken ∧ taken.Sublist l := by
  induction l generalizing selected with
  | nil => exact ⟨[], by simp [selectCapped], .refl []⟩
  | cons a l ih =>
    unfold selectCapped
    split
    . obtain ⟨taken, heq, hsub⟩ := ih selected
      exact ⟨taken, heq, hsub.cons a⟩
    . split
      . refine ⟨[a], rfl, ?_⟩
        exact List.singleton_sublist.mpr List.mem_cons_self
      . obtain ⟨taken, heq, hsub⟩ := ih (selected ++ [a])
        refine ⟨a :: taken, ?_, hsub.cons_cons a⟩
        rw [heq]
        simp

variable (group cap l) in
theorem selectCapped_length_le (h : selected.length < limit)
    : (selectCapped group limit cap l selected).length ≤ limit := by
  induction l generalizing selected with
  | nil => exact h.le
  | cons a l ih =>
    unfold selectCapped
    split
    . exact ih h
    . split
      . next hlimit => exact hlimit.le
      . next hlimit =>
        apply ih
        rw [List.length_append, List.length_singleton] at hlimit ⊢
        omega

variable (limit l) in
theorem members_selectCapped_le (h : members group g selected ≤ cap)
    : members group g (selectCapped group limit cap l selected) ≤ cap := by
  induction l generalizing selected with
  | nil => exact h
  | cons a l ih =>
    have hsnoc (hcap : ¬ cap ≤ members group (group a) selected)
        : members group g (selected ++ [a]) ≤ cap := by
      rw [members_append, members_cons]
      split
      . next ha =>
        subst ha
        simp only [members, List.countP_nil] at hcap ⊢
        omega
      . simpa [members] using h
    unfold selectCapped
    split
    . exact ih h
    . next hcap =>
      split
      . exact hsnoc hcap
      . exact ih (hsnoc hcap)

/--
A selection that stays short of its limit has taken as many items of each group as the cap allows.
-/
theorem members_selectCapped (hselected : members group g selected ≤ cap)
    (hshort : (selectCapped group limit cap l selected).length < limit)
    : members group g (selectCapped group limit cap l selected)
        = min cap (members group g selected + members group g l) := by
  induction l generalizing selected with
  | nil =>
    unfold selectCapped
    simp only [members, List.countP_nil] at hselected ⊢
    omega
  | cons a l ih =>
    unfold selectCapped at hshort ⊢
    rw [members_cons]
    split at hshort
    . next hcap =>
      rw [if_pos hcap, ih hselected hshort]
      split
      . next ha =>
        -- The group is full, so that neither side counts the item.
        subst ha
        omega
      . rfl
    . next hcap =>
      rw [if_neg hcap]
      split at hshort
      . next hlimit => omega
      . next hlimit =>
        rw [if_neg hlimit]
        have hsnoc : members group g (selected ++ [a])
            = members group g selected + if group a = g then 1 else 0 := by
          rw [members_append, members_cons]
          simp [members]
        have hle : members group g (selected ++ [a]) ≤ cap := by
          rw [hsnoc]
          split
          . next ha =>
            subst ha
            omega
          . exact hselected
        rw [ih hle hshort, hsnoc]
        congr 1
        omega

/--
Where no group exceeds the cap, a selection that stays short of its limit has taken everything.
-/
theorem selectCapped_eq_append (hcap : ∀ g, members group g (selected ++ l) ≤ cap)
    (hshort : (selectCapped group limit cap l selected).length < limit)
    : selectCapped group limit cap l selected = selected ++ l := by
  induction l generalizing selected with
  | nil => simp [selectCapped]
  | cons a l ih =>
    have hroom : ¬ cap ≤ members group (group a) selected := by
      have hgroup := hcap (group a)
      rw [members_append, members_cons, if_pos rfl] at hgroup
      omega
    unfold selectCapped at hshort ⊢
    rw [if_neg hroom] at hshort ⊢
    split at hshort
    . next hlimit => omega
    . next hlimit =>
      rw [if_neg hlimit]
      have happend : selected ++ [a] ++ l = selected ++ a :: l := by simp
      rw [ih (happend ▸ hcap) hshort, happend]

variable (group limit l) in
/--
The first item of the list is selected first.
-/
theorem selectCapped_head? (hcap : 0 < cap) : (selectCapped group limit cap l []).head? = l.head? := by
  cases l with
  | nil => rfl
  | cons a l =>
    have hfree : ¬ cap ≤ members group (group a) [] := by
      simp only [members, List.countP_nil]
      omega
    unfold selectCapped
    rw [if_neg hfree]
    split
    . rfl
    . obtain ⟨taken, heq, _⟩ := selectCapped_extends group limit cap l ([] ++ [a])
      rw [heq]
      rfl

variable (group limit cap l) in
theorem selectCapped_sublist : (selectCapped group limit cap l []).Sublist l := by
  obtain ⟨taken, heq, hsub⟩ := selectCapped_extends group limit cap l []
  rw [heq, List.nil_append]
  exact hsub

/--
Under a cap below the limit the selection has items of two groups if the list has.
-/
theorem selectCapped_two_groups (hpos : 0 < cap) (hcap : cap < limit) {a b : α} (ha : a ∈ l)
    (hb : b ∈ l) (hne : group a ≠ group b)
    : ∃ c ∈ selectCapped group limit cap l [], ∃ d ∈ selectCapped group limit cap l [],
        group c ≠ group d := by
  by_contra hall
  simp only [not_exists, not_and, not_not] at hall
  have hlist : l ≠ [] := List.ne_nil_of_mem ha
  have hhead := selectCapped_head? group limit l hpos
  obtain ⟨c, tail, htail⟩ := List.exists_cons_of_ne_nil hlist
  have hc : c ∈ selectCapped group limit cap l [] := by
    apply List.mem_of_mem_head?
    rw [hhead, htail]
    rfl
  -- All selected items are of the group of `c`, which leaves the selection short of its limit.
  have hgroup : members group (group c) (selectCapped group limit cap l [])
      = (selectCapped group limit cap l []).length := by
    unfold members
    rw [List.countP_eq_length]
    intro d hd
    simpa using hall d hd c hc
  have hzero (g : γ) : members group g ([] : List α) ≤ cap := by
    simp [members]
  have hle := members_selectCapped_le limit l (hzero (group c))
  have hshort : (selectCapped group limit cap l []).length < limit := by omega
  have hother : ∃ e ∈ l, group e ≠ group c := by
    by_cases hac : group a = group c
    . exact ⟨b, hb, fun hbc => hne (hac.trans hbc.symm)⟩
    . exact ⟨a, ha, hac⟩
  obtain ⟨e, he, hec⟩ := hother
  have hmembers := members_selectCapped (hzero (group e)) hshort
  have hpos' : 0 < members group (group e) l := members_pos_iff.mpr ⟨e, he, rfl⟩
  have hselected : 0 < members group (group e) (selectCapped group limit cap l []) := by
    rw [hmembers]
    omega
  obtain ⟨d, hd, hde⟩ := members_pos_iff.mp hselected
  exact hec (hde.symm.trans (hall d hd c hc))

/--
Where only a full selection leaves groups above the cap, as many items are selected as the limit allows.
-/
theorem selectCapped_length (hlimit : 0 < limit)
    (hcap : (selectCapped group limit cap l []).length < limit → ∀ g, members group g l ≤ cap)
    : (selectCapped group limit cap l []).length = min limit l.length := by
  have hsub := (selectCapped_sublist group limit cap l).length_le
  have hle : (selectCapped group limit cap l []).length ≤ limit :=
    selectCapped_length_le group cap l hlimit
  by_cases hshort : (selectCapped group limit cap l []).length < limit
  . have heq : selectCapped group limit cap l [] = [] ++ l :=
      selectCapped_eq_append (hcap hshort) hshort
    rw [heq, List.nil_append] at hshort ⊢
    omega
  . omega

/--
Items of one group are selected up to the limit if the cap is as high.
-/
theorem selectCapped_length_one_group (hlimit : 0 < limit) (h : ∀ a ∈ l, ∀ b ∈ l, group a = group b)
    : (selectCapped group limit limit l []).length = min limit l.length := by
  apply selectCapped_length hlimit
  intro hshort g
  by_cases hg : 0 < members group g l
  . obtain ⟨a, ha, rfl⟩ := members_pos_iff.mp hg
    have hmembers := members_selectCapped (g := group a) (by simp [members]) hshort
    have hall : members group (group a) (selectCapped group limit limit l [])
        = (selectCapped group limit limit l []).length := by
      unfold members
      rw [List.countP_eq_length]
      intro b hb
      simpa using h b ((selectCapped_sublist group limit limit l).subset hb) a ha
    simp only [members, List.countP_nil] at hmembers hall ⊢
    omega
  . omega

/--
Items of two groups are selected up to the limit if the cap is at most one below it.
-/
theorem selectCapped_length_two_groups (hpos : 0 < cap) (hlimit : 0 < limit) (hcap : limit ≤ cap + 1)
    {a b : α} (ha : a ∈ l) (hb : b ∈ l) (hne : group a ≠ group b)
    : (selectCapped group limit cap l []).length = min limit l.length := by
  apply selectCapped_length hlimit
  intro hshort g
  have hzero (g : γ) : members group g ([] : List α) ≤ cap := by
    simp [members]
  have hother : ∃ c ∈ l, g ≠ group c := by
    by_cases hag : g = group a
    . exact ⟨b, hb, fun hbg => hne (hag.symm.trans hbg)⟩
    . exact ⟨a, ha, hag⟩
  obtain ⟨c, hc, hgc⟩ := hother
  -- A group above the cap fills the selection together with one item of another group.
  have hmembers := members_selectCapped (hzero g) hshort
  have hmembers' := members_selectCapped (hzero (group c)) hshort
  have hpos' : 0 < members group (group c) l := members_pos_iff.mpr ⟨c, hc, rfl⟩
  have hsum := members_add_le group (selectCapped group limit cap l []) hgc
  simp only [members, List.countP_nil] at hmembers hmembers' hpos' hsum ⊢
  omega

end Capped

section Best

variable {κ : Type w} [DecidableEq γ] [LinearOrder κ] (group : α → γ) (score : α → κ)

/--
Keep an item as the one of its group if there is none yet or its score is higher.
-/
def keepBest (kept : List α) (a : α) : List α :=
  match kept.find? fun b => group b = group a with
  | none => kept ++ [a]
  | some b => if score b < score a then kept.map fun c => if group c = group a then a else c else kept

/--
The first item with the best score of each group.
-/
def best (l : List α) : List α :=
  l.foldl (keepBest group score) []

/--
Every item of `r` is matched by one of `l` in its group with at least its score.
-/
def Covers (l r : List α) : Prop :=
  ∀ a ∈ r, ∃ b ∈ l, group b = group a ∧ score a ≤ score b

variable {group score} {kept l r : List α} {a b : α}

omit [DecidableEq γ] in
theorem eq_of_group (hkept : (kept.map group).Nodup) (ha : a ∈ kept) (hb : b ∈ kept)
    (h : group a = group b) : a = b :=
  List.inj_on_of_nodup_map hkept ha hb h

theorem keepBest_of_covered (hkept : (kept.map group).Nodup) (hb : b ∈ kept) (hgroup : group b = group a)
    (hscore : score a ≤ score b) : keepBest group score kept a = kept := by
  unfold keepBest
  split
  . next hnone =>
    have habsent := List.find?_eq_none.mp hnone b hb
    simp [hgroup] at habsent
  . next c hfind =>
    have hc : group c = group a := by simpa using List.find?_some hfind
    have heq := eq_of_group hkept (List.mem_of_find?_eq_some hfind) hb (hc.trans hgroup.symm)
    rw [heq, if_neg (not_lt_of_ge hscore)]

theorem groups_keepBest (hkept : (kept.map group).Nodup)
    : ((keepBest group score kept a).map group).Nodup := by
  unfold keepBest
  split
  . next hnone =>
    rw [List.map_append, List.nodup_append]
    refine ⟨hkept, List.nodup_singleton _, ?_⟩
    intro g hg g' hg' heq
    obtain ⟨b, hb, rfl⟩ := List.mem_map.mp hg
    rw [List.map_singleton, List.mem_singleton] at hg'
    have habsent := List.find?_eq_none.mp hnone b hb
    simp [heq.trans hg'] at habsent
  . split
    . have hgroups : (kept.map fun c => if group c = group a then a else c).map group
          = kept.map group := by
        rw [List.map_map]
        apply List.map_congr_left
        intro c _
        simp only [Function.comp_apply]
        split
        . next hc => exact hc.symm
        . rfl
      rw [hgroups]
      exact hkept
    . exact hkept

theorem mem_of_mem_keepBest (h : b ∈ keepBest group score kept a) : b ∈ kept ∨ b = a := by
  unfold keepBest at h
  split at h
  . rw [List.mem_append, List.mem_singleton] at h
    exact h
  . split at h
    . obtain ⟨c, hc, heq⟩ := List.mem_map.mp h
      split at heq
      . exact .inr heq.symm
      . exact .inl (heq ▸ hc)
    . exact .inl h

/--
What was covered stays covered, and the new item is.
-/
theorem keepBest_covers (hkept : (kept.map group).Nodup)
    : Covers group score (keepBest group score kept a) (kept ++ [a]) := by
  unfold keepBest
  split
  . intro b hb
    exact ⟨b, hb, rfl, le_rfl⟩
  . next c hfind =>
    have hc : group c = group a := by simpa using List.find?_some hfind
    have hmem := List.mem_of_find?_eq_some hfind
    split
    . next hlt =>
      have ha : a ∈ kept.map fun c => if group c = group a then a else c :=
        List.mem_map.mpr ⟨c, hmem, if_pos hc⟩
      intro b hb
      rw [List.mem_append, List.mem_singleton] at hb
      rcases hb with hb | rfl
      . by_cases hgroup : group b = group a
        . have heq := eq_of_group hkept hb hmem (hgroup.trans hc.symm)
          exact ⟨a, ha, hgroup.symm, heq ▸ hlt.le⟩
        . exact ⟨b, List.mem_map.mpr ⟨b, hb, if_neg hgroup⟩, rfl, le_rfl⟩
      . exact ⟨b, ha, rfl, le_rfl⟩
    . next hle =>
      intro b hb
      rw [List.mem_append, List.mem_singleton] at hb
      rcases hb with hb | rfl
      . exact ⟨b, hb, rfl, le_rfl⟩
      . exact ⟨c, hmem, hc, le_of_not_gt hle⟩

/--
The items of `kept` are the best of those in `l`, one for each group.
-/
structure IsBest (group : α → γ) (score : α → κ) (kept l : List α) : Prop where
  groups : (kept.map group).Nodup
  subset : ∀ a ∈ kept, a ∈ l
  covers : Covers group score kept l

theorem IsBest.keepBest (h : IsBest group score kept l) (a : α)
    : IsBest group score (keepBest group score kept a) (l ++ [a]) where
  groups := groups_keepBest h.groups
  subset b hb := by
    rw [List.mem_append, List.mem_singleton]
    exact (mem_of_mem_keepBest hb).imp_left (h.subset b)
  covers b hb := by
    have hkept : Covers group score (Rankings.keepBest group score kept a) (kept ++ [a]) :=
      keepBest_covers h.groups
    rw [List.mem_append, List.mem_singleton] at hb
    rcases hb with hb | rfl
    . obtain ⟨c, hc, hgroup, hscore⟩ := h.covers b hb
      obtain ⟨d, hd, hgroup', hscore'⟩ := hkept c (List.mem_append_left _ hc)
      exact ⟨d, hd, hgroup'.trans hgroup, hscore.trans hscore'⟩
    . exact hkept b (List.mem_append_right _ (List.mem_singleton_self b))

theorem best_append_singleton : best group score (l ++ [a]) = keepBest group score (best group score l) a := by
  unfold best
  rw [List.foldl_append, List.foldl_cons, List.foldl_nil]

variable (group score) in
theorem isBest_best (l : List α) : IsBest group score (best group score l) l := by
  induction l using List.reverseRecOn with
  | nil => exact ⟨List.nodup_nil, fun a ha => ha, fun a ha => absurd ha List.not_mem_nil⟩
  | append_singleton l a ih =>
    rw [best_append_singleton]
    exact ih.keepBest a

/--
Items that are covered by those in front of them do not matter.
-/
theorem best_append (h : Covers group score l r) : best group score (l ++ r) = best group score l := by
  induction r using List.reverseRecOn with
  | nil => rw [List.append_nil]
  | append_singleton r a ih =>
    specialize ih fun b hb => h b (List.mem_append_left _ hb)
    rw [← List.append_assoc, best_append_singleton, ih]
    obtain ⟨b, hb, hgroup, hscore⟩ := h a (List.mem_append_right _ (List.mem_singleton_self a))
    have hbest := isBest_best group score l
    obtain ⟨c, hc, hgroup', hscore'⟩ := hbest.covers b hb
    exact keepBest_of_covered hbest.groups hc (hgroup'.trans hgroup) (hscore.trans hscore')

/--
An item that is not covered by those in front of it makes one of the later items the best of its group.
-/
theorem exists_mem_best (h : ¬ Covers group score l r)
    : ∃ a ∈ r, a ∈ best group score (l ++ r) := by
  unfold Covers at h
  simp only [not_forall, not_exists, not_and] at h
  obtain ⟨a, ha, huncovered⟩ := h
  have hbest := isBest_best group score (l ++ r)
  obtain ⟨b, hb, hgroup, hscore⟩ := hbest.covers a (List.mem_append_right _ ha)
  rcases List.mem_append.mp (hbest.subset b hb) with hl | hr
  . exact absurd hscore (huncovered b hl hgroup)
  . exact ⟨b, hr, hb⟩

end Best

end Rankings
