import Mathlib.Order.Lattice
import Mathlib.Order.Max
import Mathlib.Order.MinMax
import Mathlib.Tactic.Common

/-!
This module contains half-open windows of a linear order, either end of which may be missing, and when
two of them share a point.
-/

universe u

structure Window (α : Type u) where
  start : Option α
  stop : Option α
deriving DecidableEq

namespace Window

variable {α : Type u} [LinearOrder α]

def Contains (w : Window α) (t : α) : Prop :=
  (∀ a ∈ w.start, a ≤ t) ∧ ∀ b ∈ w.stop, t < b

instance (w : Window α) (t : α) : Decidable (w.Contains t) :=
  inferInstanceAs (Decidable (_ ∧ _))

/--
The window ends after it begins.
-/
def Ordered (w : Window α) : Prop :=
  ∀ a ∈ w.start, ∀ b ∈ w.stop, a < b

/--
Each window begins before the other one ends.
-/
def Meets (v w : Window α) : Prop :=
  (∀ a ∈ v.start, ∀ b ∈ w.stop, a < b) ∧ ∀ a ∈ w.start, ∀ b ∈ v.stop, a < b

instance (v w : Window α) : Decidable (v.Meets w) :=
  inferInstanceAs (Decidable (_ ∧ _))

theorem Contains.ordered {w : Window α} {t : α} (h : w.Contains t) : w.Ordered := by
  intro a ha b hb
  exact lt_of_le_of_lt (h.1 a ha) (h.2 b hb)

theorem Contains.meets {v w : Window α} {t : α} (hv : v.Contains t) (hw : w.Contains t)
    : v.Meets w := by
  constructor
  . intro a ha b hb
    exact lt_of_le_of_lt (hv.1 a ha) (hw.2 b hb)
  . intro a ha b hb
    exact lt_of_le_of_lt (hw.1 a ha) (hv.2 b hb)

theorem Meets.symm {v w : Window α} (h : v.Meets w) : w.Meets v :=
  ⟨h.2, h.1⟩

theorem meets_self {w : Window α} (h : w.Ordered) : w.Meets w :=
  ⟨h, h⟩

/--
Below every point two windows end at there is another point.
-/
theorem exists_lt_stops [NoMinOrder α] [Nonempty α] (s s' : Option α)
    : ∃ t, (∀ b ∈ s, t < b) ∧ ∀ b ∈ s', t < b := by
  cases s with
  | none =>
    cases s' with
    | none =>
      obtain ⟨t⟩ := ‹Nonempty α›
      exact ⟨t, by simp, by simp⟩
    | some b =>
      obtain ⟨t, ht⟩ := exists_lt b
      exact ⟨t, by simp, by simpa using ht⟩
  | some a =>
    cases s' with
    | none =>
      obtain ⟨t, ht⟩ := exists_lt a
      exact ⟨t, by simpa using ht, by simp⟩
    | some b =>
      obtain ⟨t, ht⟩ := exists_lt (min a b)
      rw [lt_min_iff] at ht
      exact ⟨t, by simpa using ht.1, by simpa using ht.2⟩

/--
Two windows share a point exactly when each begins before the other one ends.
-/
theorem exists_contains_iff [NoMinOrder α] [Nonempty α] {v w : Window α} (hv : v.Ordered)
    (hw : w.Ordered) : (∃ t, v.Contains t ∧ w.Contains t) ↔ v.Meets w := by
  constructor
  . intro ⟨t, htv, htw⟩
    exact htv.meets htw
  . intro ⟨hvw, hwv⟩
    unfold Contains
    cases hvs : v.start with
    | none =>
      cases hws : w.start with
      | none =>
        obtain ⟨t, htv, htw⟩ := exists_lt_stops v.stop w.stop
        exact ⟨t, ⟨by simp, htv⟩, by simp, htw⟩
      | some b => exact ⟨b, ⟨by simp, hwv b hws⟩, by simp, hw b hws⟩
    | some a =>
      cases hws : w.start with
      | none => exact ⟨a, ⟨by simp, hv a hvs⟩, by simp, hvw a hvs⟩
      | some b =>
        -- the later of the two beginnings is in both windows
        cases le_total a b with
        | inl hab => exact ⟨b, ⟨by simpa using hab, hwv b hws⟩, by simp, hw b hws⟩
        | inr hba => exact ⟨a, ⟨by simp, hv a hvs⟩, by simpa using hba, hvw a hvs⟩

end Window
