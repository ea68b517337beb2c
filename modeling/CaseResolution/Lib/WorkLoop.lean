import Mathlib.Tactic.Common

/-!
This module contains loops that take one item of work after the other, where the failure of an item is
recorded before the next item is taken, and what it takes for such a loop to reach every item.
-/

universe u

/--
A loop over the state `σ`, with a turn of `τ` for each item of `ω`. Processing an item gives a `ρ` or fails
with an `ε`. An `η` ends the loop.
-/
structure WorkLoop (σ τ ω ρ ε η : Type u) where
  next : τ → σ → σ × Except η (Option ω)
  process : τ → ω → σ → σ × Except ε ρ
  record : τ → ω → ε → σ → σ × Except η Unit

namespace WorkLoop

variable {σ τ ω ρ ε η : Type u} (loop : WorkLoop σ τ ω ρ ε η)

/--
The state the loop leaves, and the outcome of every item it took unless it was ended.
-/
def run : List τ → σ → σ × Except η (List (ω × Except ε ρ))
  | [], s => (s, .ok [])
  | turn :: turns, s =>
    match loop.next turn s with
    | (left, .error e) => (left, .error e)
    | (taken, .ok none) => (taken, .ok [])
    | (taken, .ok (some item)) =>
      match loop.process turn item taken with
      | (processed, .ok result) =>
        let (final, outcomes) := run turns processed
        (final, outcomes.map fun rest => (item, .ok result) :: rest)
      | (failed, .error error) =>
        match loop.record turn item error failed with
        | (left, .error e) => (left, .error e)
        | (recorded, .ok ()) =>
          let (final, outcomes) := run turns recorded
          (final, outcomes.map fun rest => (item, .error error) :: rest)

/--
Every turn is `claimable` when it is taken, and every failure `recordable` when it is to be recorded.
-/
def Meets (claimable : τ → σ → Prop) (recordable : τ → ω → ε → σ → Prop) : List τ → σ → Prop
  | [], _ => True
  | turn :: turns, s =>
    claimable turn s ∧ ∀ taken item, loop.next turn s = (taken, .ok (some item)) →
      match loop.process turn item taken with
      | (processed, .ok _) => Meets claimable recordable turns processed
      | (failed, .error error) =>
        recordable turn item error failed
          ∧ ∀ recorded, loop.record turn item error failed = (recorded, .ok ())
            → Meets claimable recordable turns recorded

/--
The turns of a loop that is not ended: each one takes an item, whose failure is recorded if it fails, until
there is nothing to take.
-/
inductive Trace : List τ → σ → List (ω × Except ε ρ) → σ → Prop where
  | done {s : σ} : Trace [] s [] s
  | idle {turn : τ} {turns : List τ} {s taken : σ} (next : loop.next turn s = (taken, .ok none))
      : Trace (turn :: turns) s [] taken
  | processed {turn : τ} {turns : List τ} {s taken t u : σ} {item : ω} {result : ρ}
      {outcomes : List (ω × Except ε ρ)} (next : loop.next turn s = (taken, .ok (some item)))
      (process : loop.process turn item taken = (t, .ok result)) (rest : Trace turns t outcomes u)
      : Trace (turn :: turns) s ((item, .ok result) :: outcomes) u
  | failed {turn : τ} {turns : List τ} {s taken t recorded u : σ} {item : ω} {error : ε}
      {outcomes : List (ω × Except ε ρ)} (next : loop.next turn s = (taken, .ok (some item)))
      (process : loop.process turn item taken = (t, .error error))
      (record : loop.record turn item error t = (recorded, .ok ())) (rest : Trace turns recorded outcomes u)
      : Trace (turn :: turns) s ((item, .error error) :: outcomes) u

variable {loop} {turns : List τ} {s t : σ} {outcomes : List (ω × Except ε ρ)}

theorem run_of_trace (h : loop.Trace turns s outcomes t) : loop.run turns s = (t, .ok outcomes) := by
  induction h with
  | done => rfl
  | idle next => simp only [run, next]
  | processed next process _ ih =>
    simp only [run, next, process, ih]
    rfl
  | failed next process record _ ih =>
    simp only [run, next, process, record, ih]
    rfl

/--
A single turn meets the conditions if its item can be taken and its failure recorded.
-/
theorem meets_singleton {claimable : τ → σ → Prop} {recordable : τ → ω → ε → σ → Prop} {turn : τ}
    (hclaimable : claimable turn s)
    (hrecordable : ∀ taken item failed error, loop.next turn s = (taken, .ok (some item))
      → loop.process turn item taken = (failed, .error error) → recordable turn item error failed)
    : loop.Meets claimable recordable [turn] s := by
  apply And.intro hclaimable
  intro taken item hnext
  split
  . exact ⟨⟩
  . next failed error hprocess =>
    exact ⟨hrecordable taken item failed error hnext hprocess, fun _ _ => ⟨⟩⟩

/--
A loop that meets the conditions of its operations is not ended before its time.
-/
theorem trace_of_meets {claimable : τ → σ → Prop} {recordable : τ → ω → ε → σ → Prop}
    (hclaim : ∀ turn s, claimable turn s → ∃ taken item, loop.next turn s = (taken, .ok item))
    (hrecord : ∀ turn item error s, recordable turn item error s
      → ∃ recorded, loop.record turn item error s = (recorded, .ok ()))
    (h : loop.Meets claimable recordable turns s) : ∃ outcomes t, loop.Trace turns s outcomes t := by
  induction turns generalizing s with
  | nil => exact ⟨[], s, .done⟩
  | cons turn turns ih =>
    obtain ⟨hclaimable, hrest⟩ := h
    obtain ⟨taken, item, hnext⟩ := hclaim turn s hclaimable
    cases item with
    | none => exact ⟨[], taken, .idle hnext⟩
    | some item =>
      have hrest := hrest taken item hnext
      cases hprocess : loop.process turn item taken with
      | mk processed result =>
        rw [hprocess] at hrest
        cases result with
        | ok result =>
          obtain ⟨outcomes, t, htrace⟩ := ih hrest
          exact ⟨_, t, .processed hnext hprocess htrace⟩
        | error error =>
          obtain ⟨hrecordable, hrest⟩ := hrest
          obtain ⟨recorded, hrecorded⟩ := hrecord turn item error processed hrecordable
          obtain ⟨outcomes, t, htrace⟩ := ih (hrest recorded hrecorded)
          exact ⟨_, t, .failed hnext hprocess hrecorded htrace⟩

/--
Either every turn took an item, or at last there was nothing to take.
-/
theorem Trace.complete (h : loop.Trace turns s outcomes t)
    : outcomes.length = turns.length
      ∨ ∃ turn ∈ turns, ∃ u, loop.next turn u = (t, .ok none) := by
  induction h with
  | done => exact .inl rfl
  | @idle turn _ s taken next => exact .inr ⟨turn, List.mem_cons_self, s, next⟩
  | processed _ _ _ ih =>
    cases ih with
    | inl hlength => exact .inl (congrArg Nat.succ hlength)
    | inr hidle =>
      obtain ⟨turn, hturn, hidle⟩ := hidle
      exact .inr ⟨turn, List.mem_cons_of_mem _ hturn, hidle⟩
  | failed _ _ _ _ ih =>
    cases ih with
    | inl hlength => exact .inl (congrArg Nat.succ hlength)
    | inr hidle =>
      obtain ⟨turn, hturn, hidle⟩ := hidle
      exact .inr ⟨turn, List.mem_cons_of_mem _ hturn, hidle⟩

/--
An item with a result was processed in one of the turns.
-/
theorem Trace.processed_mem (h : loop.Trace turns s outcomes t) {item : ω} {result : ρ}
    (hmem : (item, .ok result) ∈ outcomes)
    : ∃ turn ∈ turns, ∃ u v, loop.process turn item u = (v, .ok result) := by
  induction h with
  | done => cases hmem
  | idle => cases hmem
  | processed _ process _ ih =>
    cases hmem with
    | head => exact ⟨_, List.mem_cons_self, _, _, process⟩
    | tail _ hmem =>
      obtain ⟨turn, hturn, hprocess⟩ := ih hmem
      exact ⟨turn, List.mem_cons_of_mem _ hturn, hprocess⟩
  | failed _ _ _ _ ih =>
    cases hmem with
    | tail _ hmem =>
      obtain ⟨turn, hturn, hprocess⟩ := ih hmem
      exact ⟨turn, List.mem_cons_of_mem _ hturn, hprocess⟩

end WorkLoop
