import Mathlib.Data.List.Nodup
import Mathlib.Tactic.Common

/-!
This module contains tables as lists of rows that are never deleted, the position of a row being its
identity, and the relation between a table and what later writes make of it.
-/

universe u

namespace Rows

variable {α : Type u} {R : α → α → Prop}

/--
Every row of `l` is still there in `l'`, changed at most as `R` allows.
-/
def Extends (R : α → α → Prop) (l l' : List α) : Prop :=
  ∀ (i : Nat) (a : α), l[i]? = some a → ∃ b, l'[i]? = some b ∧ R a b

namespace Extends

theorem refl (hR : ∀ a, R a a) (l : List α) : Extends R l l := by
  intro i a h
  exact ⟨a, h, hR a⟩

theorem trans (hR : ∀ {a b c}, R a b → R b c → R a c) {l₁ l₂ l₃ : List α}
    (h₁₂ : Extends R l₁ l₂) (h₂₃ : Extends R l₂ l₃) : Extends R l₁ l₃ := by
  intro i a ha
  obtain ⟨b, hb, hab⟩ := h₁₂ i a ha
  obtain ⟨c, hc, hbc⟩ := h₂₃ i b hb
  exact ⟨c, hc, hR hab hbc⟩

theorem append (hR : ∀ a, R a a) (l r : List α) : Extends R l (l ++ r) := by
  intro i a ha
  have hlt := (List.getElem?_eq_some_iff.mp ha).1
  exact ⟨a, by rw [List.getElem?_append_left hlt, ha], hR a⟩

theorem set (hR : ∀ a, R a a) {l : List α} {i : Nat} {a b : α} (ha : l[i]? = some a) (hab : R a b)
    : Extends R l (l.set i b) := by
  intro j c hc
  have hlt := (List.getElem?_eq_some_iff.mp hc).1
  rw [List.getElem?_set]
  split
  . next heq =>
    subst heq
    obtain rfl : a = c := by simpa [ha] using hc
    exact ⟨b, by simp [hlt], hab⟩
  . exact ⟨c, hc, hR c⟩

theorem map {f : α → α} (hf : ∀ a, R a (f a)) (l : List α) : Extends R l (l.map f) := by
  intro i a ha
  exact ⟨f a, by simp [ha], hf a⟩

theorem mono {S : α → α → Prop} (hRS : ∀ a b, R a b → S a b) {l l' : List α} (h : Extends R l l')
    : Extends S l l' := by
  intro i a ha
  obtain ⟨b, hb, hab⟩ := h i a ha
  exact ⟨b, hb, hRS a b hab⟩

theorem length_le {l l' : List α} (h : Extends R l l') : l.length ≤ l'.length := by
  by_contra hlt
  have hlt : l'.length < l.length := by omega
  obtain ⟨b, hb, _⟩ := h l'.length _ (List.getElem?_eq_getElem hlt)
  simp at hb

/--
Rows that never change are found again.
-/
theorem get (l l' : List α) (h : Extends Eq l l') {i : Nat} {a : α} (ha : l[i]? = some a)
    : l'[i]? = some a := by
  obtain ⟨b, hb, rfl⟩ := h i a ha
  exact hb

end Extends

/--
The rows of `l'` are those of `l`, changed at most as `R` allows.
-/
structure Updates (R : α → α → Prop) (l l' : List α) : Prop where
  length : l'.length = l.length
  kept : Extends R l l'

namespace Updates

variable {l₁ l₂ l₃ : List α}

theorem refl (hR : ∀ a, R a a) (l : List α) : Updates R l l where
  length := rfl
  kept := Extends.refl hR l

theorem trans (hR : ∀ {a b c}, R a b → R b c → R a c) (h₁₂ : Updates R l₁ l₂)
    (h₂₃ : Updates R l₂ l₃) : Updates R l₁ l₃ where
  length := h₂₃.length.trans h₁₂.length
  kept := by
    apply Extends.trans _ h₁₂.kept h₂₃.kept
    intro a b c
    exact hR

theorem set (hR : ∀ a, R a a) {i : Nat} {a b : α} (ha : l₁[i]? = some a) (hab : R a b)
    : Updates R l₁ (l₁.set i b) where
  length := List.length_set
  kept := Extends.set hR ha hab

/--
Every row was there before.
-/
theorem back {i : Nat} {b : α} (h : Updates R l₁ l₂) (hb : l₂[i]? = some b)
    : ∃ a, l₁[i]? = some a ∧ R a b := by
  have hlt := (List.getElem?_eq_some_iff.mp hb).1
  rw [h.length] at hlt
  obtain ⟨b', hb', hab⟩ := h.kept i _ (List.getElem?_eq_getElem hlt)
  rw [hb, Option.some.injEq] at hb'
  exact ⟨_, List.getElem?_eq_getElem hlt, hb' ▸ hab⟩

end Updates

/--
The rows of a table with their positions.
-/
def numbered (l : List α) : List (Nat × α) :=
  l.zipIdx.map Prod.swap

@[simp]
theorem mem_numbered {l : List α} {i : Nat} {a : α} : (i, a) ∈ numbered l ↔ l[i]? = some a := by
  unfold numbered
  rw [List.mem_map]
  constructor
  . intro ⟨⟨b, j⟩, hmem, heq⟩
    rw [Prod.swap_prod_mk, Prod.mk.injEq] at heq
    rw [← heq.1, ← heq.2]
    exact List.mem_zipIdx_iff_getElem?.mp hmem
  . intro h
    exact ⟨(a, i), List.mem_zipIdx_iff_getElem?.mpr h, rfl⟩

theorem numbered_ids_nodup (l : List α) : ((numbered l).map Prod.fst).Nodup := by
  have hids : (numbered l).map Prod.fst = List.range l.length := by
    simp [numbered, List.zipIdx_map_snd, Function.comp_def, List.range_eq_range']
  rw [hids]
  exact List.nodup_range

theorem numbered_nodup (l : List α) : (numbered l).Nodup :=
  List.Nodup.of_map Prod.fst (numbered_ids_nodup l)

/--
The rows of a selection are rows of the table, each once.
-/
structure Selects (l : List α) (rows : List (Nat × α)) : Prop where
  stored : ∀ i a, (i, a) ∈ rows → l[i]? = some a
  nodup : rows.Nodup

namespace Selects

variable {l : List α} {rows rows' : List (Nat × α)}

theorem numbered_filter (p : Nat × α → Bool) : Selects l ((numbered l).filter p) where
  stored := by
    intro i a h
    exact mem_numbered.mp (List.mem_filter.mp h).1
  nodup := (numbered_nodup l).filter p

theorem perm (h : Selects l rows) (hperm : rows'.Perm rows) : Selects l rows' where
  stored i a hmem := h.stored i a (hperm.mem_iff.mp hmem)
  nodup := hperm.nodup_iff.mpr h.nodup

theorem sublist (h : Selects l rows) (hsub : rows'.Sublist rows) : Selects l rows' where
  stored i a hmem := h.stored i a (hsub.subset hmem)
  nodup := h.nodup.sublist hsub

theorem of_cons {row : Nat × α} (h : Selects l (row :: rows)) : Selects l rows :=
  h.sublist (List.sublist_cons_self row rows)

/--
No other row of the selection has the position of the first one.
-/
theorem ne_of_cons {i j : Nat} {a b : α} (h : Selects l ((i, a) :: rows)) (hmem : (j, b) ∈ rows)
    : i ≠ j := by
  intro heq
  subst heq
  have ha := h.stored i a List.mem_cons_self
  have hb := h.stored i b (List.mem_cons_of_mem _ hmem)
  rw [ha, Option.some.injEq] at hb
  subst hb
  exact (List.nodup_cons.mp h.nodup).1 hmem

end Selects

/--
Replace the rows of a selection.
-/
def setAll (f : α → α) (rows : List (Nat × α)) (l : List α) : List α :=
  rows.foldl (fun l row => l.set row.1 (f row.2)) l

theorem setAll_length {f : α → α} {rows : List (Nat × α)} {l : List α}
    : (setAll f rows l).length = l.length := by
  induction rows generalizing l with
  | nil => rfl
  | cons row rows ih =>
    unfold setAll at ih ⊢
    rw [List.foldl_cons, ih, List.length_set]

/--
A selected row is replaced and any other row is left alone.
-/
theorem getElem?_setAll {f : α → α} {rows : List (Nat × α)} {l : List α} (h : Selects l rows) {i : Nat}
    {a : α} (ha : l[i]? = some a)
    : ((i, a) ∈ rows → (setAll f rows l)[i]? = some (f a))
      ∧ ((i, a) ∉ rows → (setAll f rows l)[i]? = some a) := by
  -- the rows before position `i` is reached do not touch it, so the table may differ elsewhere
  have hgeneral : ∀ (rows : List (Nat × α)) (l' : List α), Selects l rows → ∀ b, l'[i]? = some b →
      ((i, a) ∈ rows → (setAll f rows l')[i]? = some (f a))
        ∧ ((i, a) ∉ rows → (setAll f rows l')[i]? = some b) := by
    intro rows
    induction rows with
    | nil =>
      intro l' _ b hb
      exact ⟨fun hmem => (by cases hmem), fun _ => hb⟩
    | cons row rows ih =>
      intro l' hrows b hb
      obtain ⟨j, c⟩ := row
      have hstep : setAll f ((j, c) :: rows) l' = setAll f rows (l'.set j (f c)) := rfl
      rw [hstep]
      by_cases hij : j = i
      . subst hij
        have hc := hrows.stored j c List.mem_cons_self
        rw [ha, Option.some.injEq] at hc
        subst hc
        have hlt := (List.getElem?_eq_some_iff.mp hb).1
        have hnot : (j, a) ∉ rows := (List.nodup_cons.mp hrows.nodup).1
        have hrest := ih (l'.set j (f a)) hrows.of_cons (f a) (by simp [hlt])
        exact ⟨fun _ => hrest.2 hnot, fun hmem => absurd List.mem_cons_self hmem⟩
      . have hkept : (l'.set j (f c))[i]? = some b := by rw [List.getElem?_set_ne hij, hb]
        have hrest := ih (l'.set j (f c)) hrows.of_cons b hkept
        constructor
        . intro hmem
          cases List.mem_cons.mp hmem with
          | inl heq => exact absurd (congrArg Prod.fst heq).symm hij
          | inr hin => exact hrest.1 hin
        . intro hmem
          exact hrest.2 fun hin => hmem (List.mem_cons_of_mem _ hin)
  exact hgeneral rows l h a ha

section FirstBy

variable {β : Type u} [DecidableEq β]

/--
The first row of every key.
-/
def firstBy (key : α → β) : List α → List α
  | [] => []
  | a :: l => a :: (firstBy key l).filter fun b => key b ≠ key a

theorem mem_of_mem_firstBy {key : α → β} {l : List α} {a : α} (h : a ∈ firstBy key l) : a ∈ l := by
  induction l with
  | nil => exact h
  | cons b l ih =>
    rw [firstBy, List.mem_cons] at h
    cases h with
    | inl heq => exact heq ▸ List.mem_cons_self
    | inr hmem => exact List.mem_cons_of_mem b (ih (List.mem_filter.mp hmem).1)

theorem firstBy_keys_nodup (key : α → β) (l : List α) : ((firstBy key l).map key).Nodup := by
  induction l with
  | nil => simp [firstBy]
  | cons a l ih =>
    rw [firstBy, List.map_cons, List.nodup_cons]
    constructor
    . intro hmem
      obtain ⟨b, hb, hkey⟩ := List.mem_map.mp hmem
      exact absurd hkey (by simpa using (List.mem_filter.mp hb).2)
    . exact ih.sublist (List.filter_sublist.map key)

/--
Every key of the list is still there.
-/
theorem exists_mem_firstBy {key : α → β} {l : List α} {a : α} (h : a ∈ l)
    : ∃ b ∈ firstBy key l, key b = key a := by
  induction l with
  | nil => cases h
  | cons c l ih =>
    rw [firstBy]
    by_cases hkey : key a = key c
    . exact ⟨c, List.mem_cons_self, hkey.symm⟩
    . cases List.mem_cons.mp h with
      | inl heq => exact absurd (heq ▸ rfl) hkey
      | inr hmem =>
        obtain ⟨b, hb, hba⟩ := ih hmem
        refine ⟨b, List.mem_cons_of_mem c (List.mem_filter.mpr ⟨hb, ?_⟩), hba⟩
        simpa [hba] using hkey

/--
Where all entries have one key, the first one is left.
-/
theorem firstBy_same {key : α → β} {l : List α} {k : β} (h : ∀ a ∈ l, key a = k)
    : firstBy key l = l.head?.toList := by
  cases l with
  | nil => rfl
  | cons a l =>
    have hnone : (firstBy key l).filter (fun b => key b ≠ key a) = [] := by
      rw [List.filter_eq_nil_iff]
      intro b hb
      have hmem := mem_of_mem_firstBy hb
      simp [h b (List.mem_cons_of_mem _ hmem), h a List.mem_cons_self]
    rw [firstBy, hnone]
    rfl

theorem firstBy_length_le (key : α → β) (l : List α) : (firstBy key l).length ≤ l.length := by
  induction l with
  | nil => exact Nat.le_refl 0
  | cons a l ih =>
    rw [firstBy, List.length_cons, List.length_cons]
    exact Nat.succ_le_succ (Nat.le_trans (List.length_filter_le _ _) ih)

theorem mem_firstBy_id {l : List β} {b : β} : b ∈ firstBy id l ↔ b ∈ l := by
  constructor
  . exact mem_of_mem_firstBy
  . intro h
    have hkey : ∃ c ∈ firstBy id l, id c = id b := exists_mem_firstBy h
    obtain ⟨c, hc, heq⟩ := hkey
    rw [id_eq, id_eq] at heq
    exact heq ▸ hc

end FirstBy

/--
A row is found by a key that no other row has.
-/
theorem filter_key_eq {β : Type u} [DecidableEq β] {key : α → β} {l : List α}
    (hnodup : (l.map key).Nodup) {a : α} (ha : a ∈ l) : l.filter (fun b => key b = key a) = [a] := by
  induction l with
  | nil => cases ha
  | cons c l ih =>
    rw [List.map_cons, List.nodup_cons] at hnodup
    cases List.mem_cons.mp ha with
    | inl heq =>
      subst heq
      rw [List.filter_cons_of_pos (by simp), List.filter_eq_nil_iff.mpr]
      intro b hb
      rw [decide_eq_true_iff]
      intro hkey
      exact hnodup.1 (hkey ▸ List.mem_map_of_mem hb)
    | inr hmem =>
      have hne : key c ≠ key a := fun hkey => hnodup.1 (hkey ▸ List.mem_map_of_mem hmem)
      rw [List.filter_cons_of_neg (by simpa using hne)]
      exact ih hnodup.2 hmem

theorem set_self {l : List α} {i : Nat} {a : α} (h : l[i]? = some a) : l.set i a = l := by
  obtain ⟨hlt, rfl⟩ := List.getElem?_eq_some_iff.mp h
  exact List.set_getElem_self hlt

/--
A row that is looked up by what it contains.
-/
theorem exists_of_findIdx? {l : List α} {p : α → Bool} {i : Nat} (h : l.findIdx? p = some i)
    : ∃ a, l[i]? = some a ∧ p a = true := by
  obtain ⟨hlt, hp, _⟩ := List.findIdx?_eq_some_iff_getElem.mp h
  exact ⟨l[i], List.getElem?_eq_getElem hlt, hp⟩

/--
The row that is found first may be replaced by another one that is found.
-/
theorem findIdx?_set {l : List α} {p : α → Bool} {i : Nat} {b : α} (h : l.findIdx? p = some i)
    (hb : p b = true) : (l.set i b).findIdx? p = some i := by
  rw [List.findIdx?_eq_some_iff_getElem] at h ⊢
  obtain ⟨hlt, _, hfirst⟩ := h
  refine ⟨by rwa [List.length_set], ?_, ?_⟩
  . rwa [List.getElem_set_self]
  . intro j hj
    rw [List.getElem_set_ne (by omega)]
    exact hfirst j hj

theorem findIdx?_key_eq_some_iff {β : Type u} [DecidableEq β] {key : α → β} {l : List α}
    (hnodup : (l.map key).Nodup) {k : β} {i : Nat}
    : l.findIdx? (fun a => key a = k) = some i ↔ ∃ a, l[i]? = some a ∧ key a = k := by
  constructor
  . intro h
    obtain ⟨a, ha, hkey⟩ := exists_of_findIdx? h
    exact ⟨a, ha, of_decide_eq_true hkey⟩
  . rintro ⟨a, ha, hkey⟩
    obtain ⟨hlt, rfl⟩ := List.getElem?_eq_some_iff.mp ha
    rw [List.findIdx?_eq_some_iff_getElem]
    refine ⟨hlt, by simpa using hkey, ?_⟩
    intro j hji
    have hne : key l[j] ≠ key l[i] := by
      intro heq
      have hj : j < (l.map key).length := by rw [List.length_map]; omega
      have hi : i < (l.map key).length := by rw [List.length_map]; exact hlt
      have hinj : (l.map key)[j] = (l.map key)[i] ↔ j = i := hnodup.getElem_inj_iff
      have hij : j = i := hinj.mp (by simpa using heq)
      omega
    rw [← hkey]
    simpa using hne

theorem map_self {f : α → α} {l : List α} (h : ∀ a ∈ l, f a = a) : l.map f = l := by
  rw [List.map_congr_left h, List.map_id'']
  simp

/--
A write to all rows that leaves every row but one alone is a write to that row.
-/
theorem map_eq_set {f : α → α} {l : List α} {i : Nat} {a : α} (ha : l[i]? = some a)
    (h : ∀ (j : Nat) (b : α), j ≠ i → l[j]? = some b → f b = b) : l.map f = l.set i (f a) := by
  apply List.ext_getElem?
  intro j
  rw [List.getElem?_map, List.getElem?_set]
  split
  . next heq =>
    subst heq
    rw [if_pos (List.getElem?_eq_some_iff.mp ha).1, ha, Option.map_some]
  . next hne =>
    cases hj : l[j]? with
    | none => rfl
    | some b => rw [Option.map_some, h j b (Ne.symm hne) hj]

/--
A write to all rows is a write to one row after the other.
-/
theorem map_of_set {f : α → α} {P : List α → Prop} {l : List α} (h : P l)
    (hset : ∀ (l' : List α) (i : Nat) (a : α), P l' → l'[i]? = some a → P (l'.set i (f a)))
    : P (l.map f) := by
  have hrest : ∀ rest done : List α, P (done ++ rest) → P (done ++ rest.map f) := by
    intro rest
    induction rest with
    | nil => exact fun done hdone => hdone
    | cons a rest ih =>
      intro done hdone
      have hhead := hset _ done.length a hdone (by simp)
      rw [List.set_append_right _ _ (Nat.le_refl _), Nat.sub_self, List.set_cons_zero] at hhead
      simpa using ih (done ++ [f a]) (by simpa using hhead)
  simpa using hrest l [] h

/--
A row of the table with the row at `i` replaced is the new row or an old one.
-/
theorem getElem?_set_cases {l : List α} {i j : Nat} {b c : α} (h : (l.set i b)[j]? = some c)
    : (i = j ∧ c = b ∧ j < l.length) ∨ (i ≠ j ∧ l[j]? = some c) := by
  rw [List.getElem?_set] at h
  grind

/--
A row of the table with a row added is an old row or the added one.
-/
theorem getElem?_concat_cases {l : List α} {j : Nat} {b c : α} (h : (l ++ [b])[j]? = some c)
    : l[j]? = some c ∨ (j = l.length ∧ c = b) := by
  rw [List.getElem?_append] at h
  grind

/--
At most one row meets `P` exactly when no two of them do.
-/
theorem countP_le_one_iff {P : α → Bool} {l : List α}
    : l.countP P ≤ 1 ↔ ∀ (i j : Nat) (a b : α), l[i]? = some a → l[j]? = some b → P a = true →
        P b = true → i = j := by
  induction l with
  | nil => simp
  | cons x xs ih =>
    constructor
    . intro hcount i j a b hi hj ha hb
      by_cases hx : P x = true
      . rw [List.countP_cons_of_pos hx] at hcount
        have hnone : ∀ y ∈ xs, ¬ P y = true := List.countP_eq_zero.mp (by omega)
        cases i with
        | zero =>
          cases j with
          | zero => rfl
          | succ j => exact absurd hb (hnone b (List.mem_of_getElem? hj))
        | succ i => exact absurd ha (hnone a (List.mem_of_getElem? hi))
      . rw [List.countP_cons_of_neg hx] at hcount
        cases i with
        | zero =>
          simp only [List.getElem?_cons_zero, Option.some.injEq] at hi
          exact absurd (hi ▸ ha) hx
        | succ i =>
          cases j with
          | zero =>
            simp only [List.getElem?_cons_zero, Option.some.injEq] at hj
            exact absurd (hj ▸ hb) hx
          | succ j =>
            have := ih.mp hcount i j a b hi hj ha hb
            omega
    . intro h
      have hrest : xs.countP P ≤ 1 := by
        apply ih.mpr
        intro i j a b hi hj ha hb
        have := h (i + 1) (j + 1) a b hi hj ha hb
        omega
      by_cases hx : P x = true
      . rw [List.countP_cons_of_pos hx]
        have hnone : xs.countP P = 0 := by
          rw [List.countP_eq_zero]
          intro y hy hPy
          obtain ⟨j, hj⟩ := List.mem_iff_getElem?.mp hy
          have := h 0 (j + 1) x y rfl hj hx hPy
          omega
        omega
      . rwa [List.countP_cons_of_neg hx]

/--
If some row meets `p`, there is a last one.
-/
theorem exists_last {l : List α} {p : α → Prop} {a : α} (ha : a ∈ l) (hp : p a)
    : ∃ (i : Nat) (b : α), l[i]? = some b ∧ p b
      ∧ ∀ (j : Nat) (c : α), i < j → l[j]? = some c → ¬ p c := by
  induction l generalizing a with
  | nil => cases ha
  | cons x xs ih =>
    by_cases hrest : ∃ b ∈ xs, p b
    . obtain ⟨b, hb, hpb⟩ := hrest
      obtain ⟨i, c, hi, hc, hlast⟩ := ih hb hpb
      refine ⟨i + 1, c, hi, hc, ?_⟩
      intro j e hlt hj
      cases j with
      | zero => omega
      | succ j => exact hlast j e (by omega) hj
    . have hx : p x := by
        cases List.mem_cons.mp ha with
        | inl heq => exact heq ▸ hp
        | inr hmem => exact absurd ⟨a, hmem, hp⟩ hrest
      refine ⟨0, x, rfl, hx, ?_⟩
      intro j e hlt hj hpe
      cases j with
      | zero => omega
      | succ j => exact hrest ⟨e, List.mem_of_getElem? hj, hpe⟩

/--
Where each row has exactly one of three properties, the rows of each make up the table.
-/
theorem countP_of_one {p q r : α → Bool} {l : List α}
    (h : ∀ a ∈ l, (p a).toNat + (q a).toNat + (r a).toNat = 1)
    : l.countP p + l.countP q + l.countP r = l.length := by
  induction l with
  | nil => rfl
  | cons a l ih =>
    obtain ⟨ha, hl⟩ := List.forall_mem_cons.mp h
    have hone (b : Bool) : (if b = true then 1 else 0) = b.toNat := by cases b <;> rfl
    rw [List.countP_cons, List.countP_cons, List.countP_cons, List.length_cons, hone, hone, hone,
      ← ih hl]
    omega

end Rows
