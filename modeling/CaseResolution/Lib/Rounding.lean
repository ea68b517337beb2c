import Mathlib.Algebra.Order.Floor.Ring
import Mathlib.Algebra.Order.Field.Basic
import Mathlib.Data.Int.Basic
import Mathlib.Algebra.Group.Int.Even
import Mathlib.Tactic.Linarith
import Mathlib.Tactic.NormNum

/-!
This module contains rounding to the nearest integer, where a number in the middle of two integers is
rounded to the even one.
-/

universe u

namespace Rounding

variable {R : Type u} [Field R] [LinearOrder R] [IsStrictOrderedRing R] [FloorRing R]

def halfEven (x : R) : Int :=
  if Int.fract x < 1 / 2 then
    ⌊x⌋
  else if 1 / 2 < Int.fract x then
    ⌊x⌋ + 1
  else if Even ⌊x⌋ then
    ⌊x⌋
  else
    ⌊x⌋ + 1

theorem halfEven_intCast (n : Int) : halfEven (n : R) = n := by
  unfold halfEven
  rw [Int.fract_intCast, Int.floor_intCast, if_pos (by norm_num)]

/--
A number is rounded to the integer below or above it.
-/
theorem halfEven_eq_or (x : R) : halfEven x = ⌊x⌋ ∨ (halfEven x = ⌊x⌋ + 1 ∧ 0 < Int.fract x) := by
  have hhalf : (0 : R) < 1 / 2 := by norm_num
  unfold halfEven
  split
  . exact .inl rfl
  . next hlow =>
    have hpos : 0 < Int.fract x := hhalf.trans_le (not_lt.mp hlow)
    split
    . exact .inr ⟨rfl, hpos⟩
    . split
      . exact .inl rfl
      . exact .inr ⟨rfl, hpos⟩

theorem halfEven_le {x : R} {n : Int} (h : x ≤ n) : halfEven x ≤ n := by
  have hfloor : ⌊x⌋ ≤ n := by
    have hle := Int.floor_mono h
    rwa [Int.floor_intCast] at hle
  rcases halfEven_eq_or x with heq | ⟨heq, hfract⟩
  . rw [heq]
    exact hfloor
  . rw [heq]
    have hlt : (⌊x⌋ : R) < n := by
      have hsum := Int.floor_add_fract x
      linarith
    have := Int.cast_lt.mp hlt
    omega

/--
What is rounded to a positive integer is more than a half, since a half is rounded to zero.
-/
theorem halfEven_pos_iff {x : R} : 0 < halfEven x ↔ 1 / 2 < x := by
  have hsum := Int.floor_add_fract x
  have hlt := Int.fract_lt_one x
  have hnonneg := Int.fract_nonneg x
  have hcases : ⌊x⌋ ≤ -1 ∨ ⌊x⌋ = 0 ∨ 1 ≤ ⌊x⌋ := by omega
  rcases hcases with hneg | hzero | hpos
  . -- Both sides are false below zero.
    have hcast : (⌊x⌋ : R) ≤ -1 := by exact_mod_cast hneg
    constructor
    . intro h
      rcases halfEven_eq_or x with heq | ⟨heq, _⟩ <;> omega
    . intro h
      linarith
  . -- Between zero and one the fraction decides, and zero is even.
    have hcast : (⌊x⌋ : R) = 0 := by exact_mod_cast hzero
    have hfract : Int.fract x = x := by linarith
    unfold halfEven
    rw [hzero, hfract]
    split
    . next h =>
      constructor
      . intro h0
        exact absurd h0 (lt_irrefl _)
      . intro h0
        exact absurd h (not_lt_of_gt h0)
    . split
      . next h => exact ⟨fun _ => h, fun _ => by norm_num⟩
      . next h =>
        rw [if_pos Even.zero]
        exact ⟨fun h0 => absurd h0 (lt_irrefl _), fun h0 => absurd h0 h⟩
  . have hcast : (1 : R) ≤ ⌊x⌋ := by exact_mod_cast hpos
    constructor
    . intro _
      linarith
    . intro _
      rcases halfEven_eq_or x with heq | ⟨heq, _⟩ <;> omega

end Rounding
