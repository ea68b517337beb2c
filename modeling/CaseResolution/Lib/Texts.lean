import Mathlib

/-!
This module contains the lengths of texts that are put together from others.
-/

namespace Texts

/--
A literal counts as its characters do, without being decoded.
-/
theorem length_literal {characters : List Char} {length : Nat} (h : characters.length = length)
    : (String.ofList characters).length = length := by
  rw [String.length_ofList, h]

theorem length_literal_le {characters : List Char} {most : Nat} (h : characters.length ≤ most)
    : (String.ofList characters).length ≤ most := by
  rw [String.length_ofList]
  exact h

theorem length_append_le {first second : String} {most least : Nat} (hfirst : first.length ≤ least)
    (hsecond : second.length ≤ most - least) (hle : least ≤ most)
    : (first ++ second).length ≤ most := by
  rw [String.length_append]
  omega

theorem length_intercalate (separator : String) (texts : List String)
    : (separator.intercalate texts).length
      = (texts.map String.length).sum + separator.length * (texts.length - 1) := by
  induction texts with
  | nil => simp
  | cons text rest ih =>
    cases rest with
    | nil => simp
    | cons next rest =>
      simp only [List.map_cons, List.sum_cons, List.length_cons, Nat.add_sub_cancel] at ih ⊢
      rw [String.intercalate_cons_cons, String.length_append, String.length_append, ih,
        Nat.mul_add, Nat.mul_one]
      omega

theorem sum_le_length_mul {α : Type} (f : α → Nat) (most : Nat) {l : List α}
    (h : ∀ a ∈ l, f a ≤ most) : (l.map f).sum ≤ l.length * most := by
  induction l with
  | nil => simp
  | cons a rest ih =>
    obtain ⟨ha, hrest⟩ := List.forall_mem_cons.mp h
    have := ih hrest
    rw [List.map_cons, List.sum_cons, List.length_cons, Nat.succ_mul]
    omega

/--
Texts that are no longer than `most`, joined.
-/
theorem length_intercalate_le (separator : String) (most : Nat) {texts : List String}
    (h : ∀ text ∈ texts, text.length ≤ most)
    : (separator.intercalate texts).length ≤ texts.length * (most + separator.length) := by
  have hsum := sum_le_length_mul String.length most h
  have hseparators : (texts.length - 1) * separator.length ≤ texts.length * separator.length :=
    Nat.mul_le_mul_right _ (Nat.sub_le _ _)
  rw [length_intercalate, Nat.mul_add, Nat.mul_comm separator.length]
  omega

/--
A text is no longer than what it is joined into.
-/
theorem le_length_intercalate (separator : String) {text : String} {texts : List String}
    (h : text ∈ texts) : text.length ≤ (separator.intercalate texts).length := by
  have hle : text.length ≤ (texts.map String.length).sum :=
    List.le_sum_of_mem (List.mem_map_of_mem h)
  rw [length_intercalate]
  omega

/--
The digits of a number below `10 ^ digits`.
-/
theorem length_toString_le (digits : Nat) {n : Nat} (hpos : 0 < digits) (h : n < 10 ^ digits)
    : (toString n).length ≤ digits :=
  (Nat.length_repr_le_iff hpos).mpr h

end Texts
