import Mathlib

/-!
This module contains numerals of a fixed width: the digits of a number in a base, the most significant
one first, and the number some digits stand for.
-/

namespace Numerals

/--
The last `width` digits of a number.
-/
def digits (base : Nat) : Nat → Nat → List Nat
  | 0, _ => []
  | width + 1, n => digits base width (n / base) ++ [n % base]

def value (base : Nat) (ds : List Nat) : Nat :=
  ds.foldl (fun n d => n * base + d) 0

variable {base width n : Nat}

@[simp]
theorem length_digits : (digits base width n).length = width := by
  induction width generalizing n with
  | zero => rfl
  | succ width ih =>
    unfold digits
    rw [List.length_append, ih, List.length_singleton]

theorem lt_of_mem_digits {d : Nat} (hbase : 0 < base) (h : d ∈ digits base width n) : d < base := by
  induction width generalizing n with
  | zero => cases h
  | succ width ih =>
    unfold digits at h
    cases List.mem_append.mp h with
    | inl h => exact ih h
    | inr h =>
      rw [List.mem_singleton.mp h]
      exact Nat.mod_lt _ hbase

theorem value_concat {ds : List Nat} {d : Nat} : value base (ds ++ [d]) = value base ds * base + d := by
  unfold value
  rw [List.foldl_append]
  rfl

/--
The digits of a number that fits the width stand for that number.
-/
theorem value_digits {base width n : Nat} (h : n < base ^ width) : value base (digits base width n) = n := by
  induction width generalizing n with
  | zero =>
    have : n = 0 := by simpa using h
    rw [this]
    rfl
  | succ width ih =>
    have hhigh : n / base < base ^ width := by
      apply Nat.div_lt_of_lt_mul
      rwa [Nat.pow_succ, Nat.mul_comm] at h
    unfold digits
    rw [value_concat, ih hhigh, Nat.mul_comm]
    exact Nat.div_add_mod n base

end Numerals
