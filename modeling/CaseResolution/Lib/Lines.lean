import Mathlib.Data.List.DropRight
import Mathlib.Data.List.Induction
import Mathlib.Tactic.Common

/-!
This module contains texts that are cut into lines: the white space at the ends of a text, and how the
lines of a text change when white space is taken off its ends.
-/

universe u

namespace Lines

variable {α : Type u}

/--
A list without the white space at its ends.
-/
def trim (space : α → Bool) (l : List α) : List α :=
  (l.dropWhile space).rdropWhile space

section Trim

variable {space : α → Bool} {x : α} {l : List α}

@[simp]
theorem trim_nil : trim space [] = [] := rfl

theorem trim_cons_of_space (h : space x = true) : trim space (x :: l) = trim space l := by
  unfold trim
  rw [List.dropWhile_cons_of_pos h]

theorem trim_concat_of_space (h : space x = true) : trim space (l ++ [x]) = trim space l := by
  unfold trim
  rw [List.dropWhile_append]
  split
  . next hempty =>
    rw [List.isEmpty_iff.mp hempty, List.dropWhile_cons_of_pos h]
    rfl
  . rw [List.rdropWhile_concat_pos _ _ _ h]

theorem mem_of_mem_trim (h : x ∈ trim space l) : x ∈ l := by
  apply (List.dropWhile_sublist space).mem
  exact (List.rdropWhile_prefix space _).mem h

theorem head?_trim (h : (trim space l).head? = some x) : space x = false := by
  obtain ⟨back, hback⟩ := List.rdropWhile_prefix space (l.dropWhile space)
  have hfront := List.head?_dropWhile_not space l
  rw [← hback, List.head?_append] at hfront
  unfold trim at h
  rw [h] at hfront
  exact hfront

theorem getLast?_trim (h : (trim space l).getLast? = some x) : space x = false := by
  have hne : trim space l ≠ [] := by
    intro hnil
    simp [hnil] at h
  have hlast := List.rdropWhile_last_not space (l.dropWhile space) hne
  rw [List.getLast?_eq_some_getLast hne, Option.some.injEq] at h
  rw [← h]
  exact Bool.eq_false_iff.mpr hlast

theorem trim_eq_self (hhead : ∀ x ∈ l.head?, space x = false)
    (hlast : ∀ x ∈ l.getLast?, space x = false)
    : trim space l = l := by
  have hfront : l.dropWhile space = l := by
    cases l with
    | nil => rfl
    | cons x l => exact List.dropWhile_cons_of_neg (by simp [hhead x rfl])
  unfold trim
  rw [hfront, List.rdropWhile_eq_self_iff]
  intro hne
  simp [hlast _ (List.getLast?_eq_some_getLast hne)]

@[simp]
theorem trim_trim : trim space (trim space l) = trim space l := by
  apply trim_eq_self
  . exact fun x => head?_trim
  . exact fun x => getLast?_trim

/--
A property of texts that white space at either end does not change is a property of the trimmed text.
-/
theorem of_trim {β : Type*} {f : List α → β} (l : List α)
    (hcons : ∀ x l, space x = true → f (x :: l) = f l)
    (hconcat : ∀ l x, space x = true → f (l ++ [x]) = f l)
    : f (trim space l) = f l := by
  have hfront : ∀ l : List α, f (l.dropWhile space) = f l := by
    intro l
    induction l with
    | nil => rfl
    | cons x l ih =>
      rw [List.dropWhile_cons]
      split
      . next h => rw [ih, hcons x l h]
      . rfl
  have hback : ∀ l : List α, f (l.rdropWhile space) = f l := by
    intro l
    induction l using List.reverseRecOn with
    | nil => rfl
    | append_singleton l x ih =>
      by_cases h : space x = true
      . rw [List.rdropWhile_concat_pos _ _ _ h, ih, hconcat l x h]
      . rw [List.rdropWhile_concat_neg _ _ _ h]
  unfold trim
  rw [hback, hfront]

end Trim

section Cut

variable [DecidableEq α] {space : α → Bool} {sep x : α} {l : List α}

theorem splitOn_cons_of_eq : (sep :: l).splitOn sep = [] :: l.splitOn sep := by
  rw [List.splitOn_cons_eq_if_modifyHead]
  simp

theorem splitOn_cons_of_ne (h : x ≠ sep) : (x :: l).splitOn sep = (l.splitOn sep).modifyHead (x :: ·) := by
  rw [List.splitOn_cons_eq_if_modifyHead]
  simp [h]

theorem splitOn_concat_of_eq : (l ++ [sep]).splitOn sep = l.splitOn sep ++ [[]] := by
  rw [List.splitOn_append_cons_self, List.splitOn_nil]

theorem splitOn_concat_of_ne (h : x ≠ sep)
    : ∃ pieces last, l.splitOn sep = pieces ++ [last]
      ∧ (l ++ [x]).splitOn sep = pieces ++ [last ++ [x]] := by
  induction l with
  | nil => exact ⟨[], [], rfl, by simp [splitOn_cons_of_ne h]⟩
  | cons y l ih =>
    obtain ⟨pieces, last, hl, hlx⟩ := ih
    by_cases hy : y = sep
    . subst hy
      refine ⟨[] :: pieces, last, ?_, ?_⟩
      . rw [splitOn_cons_of_eq, hl, List.cons_append]
      . rw [List.cons_append, splitOn_cons_of_eq, hlx, List.cons_append]
    . rw [List.cons_append, splitOn_cons_of_ne hy, splitOn_cons_of_ne hy, hl, hlx]
      cases pieces with
      | nil => exact ⟨[], y :: last, rfl, rfl⟩
      | cons piece pieces => exact ⟨(y :: piece) :: pieces, last, rfl, rfl⟩

theorem not_mem_of_mem_splitOn {piece : List α} (h : piece ∈ l.splitOn sep) : sep ∉ piece := by
  induction l generalizing piece with
  | nil =>
    rw [List.splitOn_nil, List.mem_singleton] at h
    simp [h]
  | cons y l ih =>
    by_cases hy : y = sep
    . subst hy
      rw [splitOn_cons_of_eq, List.mem_cons] at h
      cases h with
      | inl h => simp [h]
      | inr h => exact ih h
    . rw [splitOn_cons_of_ne hy] at h
      cases hl : l.splitOn sep with
      | nil => exact absurd hl (List.splitOn_ne_nil sep l)
      | cons first rest =>
        rw [hl, List.modifyHead_cons, List.mem_cons] at h
        cases h with
        | inl h =>
          have hfirst : sep ∉ first := ih (by simp [hl])
          rw [h, List.mem_cons, not_or]
          exact ⟨Ne.symm hy, hfirst⟩
        | inr h => exact ih (by simp [hl, h])

/--
White space before a text is either one blank line more or not seen in the trimmed lines at all.
-/
theorem map_trim_splitOn_cons (h : space x = true)
    : ((x :: l).splitOn sep).map (trim space)
      = (if x = sep then [[]] else []) ++ (l.splitOn sep).map (trim space) := by
  split
  . next hx =>
    subst hx
    rw [splitOn_cons_of_eq]
    rfl
  . next hx =>
    rw [splitOn_cons_of_ne hx]
    cases l.splitOn sep with
    | nil => rfl
    | cons first rest => simp [trim_cons_of_space h]

theorem map_trim_splitOn_concat (h : space x = true)
    : ((l ++ [x]).splitOn sep).map (trim space)
      = (l.splitOn sep).map (trim space) ++ if x = sep then [[]] else [] := by
  split
  . next hx =>
    subst hx
    rw [splitOn_concat_of_eq, List.map_append]
    rfl
  . next hx =>
    obtain ⟨pieces, last, hl, hlx⟩ := splitOn_concat_of_ne (l := l) hx
    rw [hl, hlx]
    simp [trim_concat_of_space h]

end Cut

theorem intercalate_concat {pieces : List (List α)} {sep last : List α} (h : pieces ≠ [])
    : sep.intercalate (pieces ++ [last]) = sep.intercalate pieces ++ sep ++ last := by
  induction pieces with
  | nil => exact absurd rfl h
  | cons piece pieces ih =>
    by_cases hpieces : pieces = []
    . subst hpieces
      simp
    . rw [List.cons_append, List.intercalate_cons_of_ne_nil (by simp), ih hpieces,
        List.intercalate_cons_of_ne_nil hpieces]
      simp only [List.append_assoc]

/--
Lines of a text: trimmed, unbroken, and the first of them is not blank.
-/
structure Block (space : α → Bool) (sep : α) (body : List (List α)) : Prop where
  head : body.head? ≠ some []
  trimmed : ∀ line ∈ body, trim space line = line
  unbroken : ∀ line ∈ body, sep ∉ line

namespace Block

variable {space : α → Bool} {sep : α} {body : List (List α)}

theorem nil : Block space sep [] where
  head := by simp
  trimmed := by simp
  unbroken := by simp

theorem concat {line : List α} (h : Block space sep body) (hhead : line = [] → body ≠ [])
    (htrim : trim space line = line) (hline : sep ∉ line)
    : Block space sep (body ++ [line]) where
  head := by
    cases body with
    | nil => simpa using hhead
    | cons first rest => exact h.head
  trimmed := by
    intro l hl
    cases List.mem_append.mp hl with
    | inl hl => exact h.trimmed l hl
    | inr hl => rw [List.mem_singleton.mp hl, htrim]
  unbroken := by
    intro l hl
    cases List.mem_append.mp hl with
    | inl hl => exact h.unbroken l hl
    | inr hl => rwa [List.mem_singleton.mp hl]

theorem of_concat {line : List α} (h : Block space sep (body ++ [line])) : Block space sep body where
  head := by
    cases body with
    | nil => simp
    | cons first rest => exact h.head
  trimmed line hline := h.trimmed line (List.mem_append_left _ hline)
  unbroken line hline := h.unbroken line (List.mem_append_left _ hline)

theorem head_not_space (h : Block space sep body) {x : α}
    (hx : ([sep].intercalate body).head? = some x)
    : space x = false := by
  cases body with
  | nil => simp at hx
  | cons first rest =>
    have hfirst : first ≠ [] := by simpa using h.head
    have htrim := h.trimmed first List.mem_cons_self
    have hhead : first.head? = some x := by
      cases rest with
      | nil => simpa using hx
      | cons _ _ =>
        rw [List.intercalate_cons_cons, List.append_assoc, List.head?_append] at hx
        cases first with
        | nil => exact absurd rfl hfirst
        | cons y first => exact hx
    rw [← htrim] at hhead
    exact head?_trim hhead

/--
Trimming a block only takes the blank lines off its end.
-/
theorem trim_intercalate (h : Block space sep body) (hsep : space sep = true)
    : trim space ([sep].intercalate body) = [sep].intercalate (body.rdropWhile (· = [])) := by
  induction body using List.reverseRecOn with
  | nil => rfl
  | append_singleton body line ih =>
    by_cases hline : line = []
    . subst hline
      have hbody : body ≠ [] := by
        intro hnil
        exact h.head (by simp [hnil])
      rw [intercalate_concat hbody, List.append_nil, trim_concat_of_space hsep, ih h.of_concat,
        List.rdropWhile_concat_pos _ _ _ (by simp)]
    . rw [List.rdropWhile_concat_neg _ _ _ (by simpa using hline)]
      apply trim_eq_self
      . intro x hx
        exact h.head_not_space hx
      . intro x hx
        have htrim := h.trimmed line (by simp)
        have hlast : line.getLast? = some x := by
          by_cases hbody : body = []
          . subst hbody
            simpa using hx
          . rw [intercalate_concat hbody, List.getLast?_append_of_ne_nil _ hline] at hx
            exact hx
        rw [← htrim] at hlast
        exact getLast?_trim hlast

theorem filter_rdropWhile [DecidableEq α] (body : List (List α))
    : (body.rdropWhile (· = [])).filter (· ≠ []) = body.filter (· ≠ []) := by
  induction body using List.reverseRecOn with
  | nil => rfl
  | append_singleton body line ih =>
    by_cases hline : line = []
    . rw [List.rdropWhile_concat_pos _ _ _ (by simpa using hline), ih, List.filter_append]
      simp [hline]
    . rw [List.rdropWhile_concat_neg _ _ _ (by simpa using hline)]

variable [DecidableEq α]

/--
The lines of a trimmed block are the lines it was put together from.
-/
theorem splitOn_trim (h : Block space sep body) (hsep : space sep = true)
    : ((trim space ([sep].intercalate body)).splitOn sep).filter (· ≠ [])
      = body.filter (· ≠ []) := by
  rw [h.trim_intercalate hsep, ← filter_rdropWhile body]
  by_cases hcore : body.rdropWhile (· = []) = []
  . rw [hcore]
    rfl
  . rw [List.splitOn_intercalate sep _ hcore]
    intro line hline
    exact h.unbroken line ((List.rdropWhile_prefix _ body).mem hline)

end Block

end Lines
