import Mathlib.Data.List.Induction
import Mathlib.Order.Defs.PartialOrder
import Mathlib.Tactic.Common

/-!
This module contains machines whose operations either commit a new state or are refused and leave
the state alone, their runs over lists of inputs, and the rules to reason about such runs.
-/

universe u

/--
A machine with states `σ`, inputs `ι`, refusals `ε` and results `ω`.
-/
structure Machine (σ ι ε ω : Type u) where
  step : σ → ι → Except ε (σ × ω)

namespace Machine

variable {σ ι ε ω : Type u} (m : Machine σ ι ε ω)

/--
The state after an input, a refused one is rolled back.
-/
def next (s : σ) (i : ι) : σ :=
  match m.step s i with
  | .ok (s', _) => s'
  | .error _ => s

/--
The state after a list of inputs.
-/
def run (s : σ) (is : List ι) : σ :=
  is.foldl m.next s

@[simp]
theorem run_nil (s : σ) : m.run s [] = s := by
  rfl

@[simp]
theorem run_cons (s : σ) (i : ι) (is : List ι) : m.run s (i :: is) = m.run (m.next s i) is := by
  rfl

theorem run_append (s : σ) (is js : List ι) : m.run s (is ++ js) = m.run (m.run s is) js := by
  simp [run]

theorem run_concat (s : σ) (is : List ι) (i : ι)
    : m.run s (is ++ [i]) = m.next (m.run s is) i := by
  simp [run_append]

variable {m}

theorem next_of_ok {s s' : σ} {i : ι} {w : ω} (h : m.step s i = .ok (s', w)) : m.next s i = s' := by
  simp [next, h]

theorem next_of_error {s : σ} {i : ι} {e : ε} (h : m.step s i = .error e) : m.next s i = s := by
  simp [next, h]

/--
What holds of the old state and of the state an accepted input commits holds of the next one.
-/
theorem next_cases {P : σ → Prop} {s : σ} {i : ι} (hrefused : P s)
    (haccepted : ∀ s' w, m.step s i = .ok (s', w) → P s') : P (m.next s i) := by
  unfold next
  split
  . next heq => exact haccepted _ _ heq
  . exact hrefused

/--
What the start satisfies and every input preserves holds after every run.
-/
theorem run_invariant {P : σ → Prop} {s : σ} (hinit : P s) (hnext : ∀ t i, P t → P (m.next t i))
    (is : List ι) : P (m.run s is) := by
  induction is generalizing s with
  | nil => exact hinit
  | cons i is ih => exact ih (hnext s i hinit)

/--
A reflexive and transitive relation that every input respects relates the two ends of every run.
-/
theorem run_related {R : σ → σ → Prop} (hrefl : ∀ s, R s s)
    (htrans : ∀ {s t u}, R s t → R t u → R s u) {P : σ → Prop} (hP : ∀ t i, P t → P (m.next t i))
    (hnext : ∀ t i, P t → R t (m.next t i)) {s : σ} (hs : P s) (is : List ι)
    : R s (m.run s is) := by
  induction is generalizing s with
  | nil => exact hrefl s
  | cons i is ih => exact htrans (hnext s i hs) (ih (hP s i hs))

/--
If `P` fails at the start of a run and holds at its end, some input of the run made it hold.
-/
theorem exists_switch {P : σ → Prop} {s : σ} {is : List ι} (hinit : ¬ P s) (hend : P (m.run s is))
    : ∃ pre i post, is = pre ++ i :: post ∧ ¬ P (m.run s pre) ∧ P (m.next (m.run s pre) i) := by
  induction is using List.reverseRecOn with
  | nil => exact absurd hend hinit
  | append_singleton is i ih =>
    by_cases hmid : P (m.run s is)
    . obtain ⟨pre, j, post, heq, hpre, hpost⟩ := ih hmid
      exact ⟨pre, j, post ++ [i], by simp [heq], hpre, hpost⟩
    . exact ⟨is, i, [], rfl, hmid, by rwa [run_concat] at hend⟩

variable (m)

/--
Every input of the run meets `Q` in the state it arrives in.
-/
def Along (Q : σ → ι → Prop) : σ → List ι → Prop
  | _, [] => True
  | s, i :: is => Q s i ∧ Along Q (m.next s i) is

variable {m}

theorem along_append {Q : σ → ι → Prop} {s : σ} {is js : List ι}
    : m.Along Q s (is ++ js) ↔ m.Along Q s is ∧ m.Along Q (m.run s is) js := by
  induction is generalizing s with
  | nil => simp [Along]
  | cons i is ih => simp [Along, ih, and_assoc]

theorem along_mono {Q R : σ → ι → Prop} (h : ∀ t i, Q t i → R t i) {s : σ} {is : List ι}
    (hQ : m.Along Q s is) : m.Along R s is := by
  induction is generalizing s with
  | nil => trivial
  | cons i is ih => exact ⟨h s i hQ.1, ih hQ.2⟩

/--
Whether all inputs of a run meet `Q` can be computed if it can for one input.
-/
instance decidableAlong {Q : σ → ι → Prop} [∀ s i, Decidable (Q s i)]
    : (s : σ) → (is : List ι) → Decidable (m.Along Q s is)
  | _, [] => .isTrue trivial
  | s, i :: is =>
    match decidableAlong (m.next s i) is with
    | .isTrue hrest => if h : Q s i then .isTrue ⟨h, hrest⟩ else .isFalse fun halong => h halong.1
    | .isFalse hrest => .isFalse fun halong => hrest halong.2

theorem along_and {Q R : σ → ι → Prop} {s : σ} {is : List ι} (hQ : m.Along Q s is)
    (hR : m.Along R s is) : m.Along (fun t i => Q t i ∧ R t i) s is := by
  induction is generalizing s with
  | nil => trivial
  | cons i is ih => exact ⟨⟨hQ.1, hR.1⟩, ih hQ.2 hR.2⟩

theorem along_iff {Q : σ → ι → Prop} {s : σ} {is : List ι}
    : m.Along Q s is ↔ ∀ pre i post, is = pre ++ i :: post → Q (m.run s pre) i := by
  induction is generalizing s with
  | nil => simp [Along]
  | cons i is ih =>
    constructor
    . intro h pre j post heq
      cases pre with
      | nil =>
        obtain ⟨hij, _⟩ : i = j ∧ is = post := by simpa using heq
        subst hij
        exact h.1
      | cons k pre =>
        obtain ⟨hik, htail⟩ : i = k ∧ is = pre ++ j :: post := by simpa using heq
        subst hik
        exact ih.mp h.2 pre j post htail
    . intro h
      refine ⟨h [] i is rfl, ih.mpr ?_⟩
      intro pre j post heq
      exact h (i :: pre) j post (by simp [heq])

/--
What the start satisfies and every input that meets `Q` preserves holds after every run whose inputs do.
-/
theorem run_invariant_along {P : σ → Prop} {Q : σ → ι → Prop}
    (hnext : ∀ t i, P t → Q t i → P (m.next t i)) {s : σ} {is : List ι} (hinit : P s)
    (halong : m.Along Q s is) : P (m.run s is) := by
  induction is generalizing s with
  | nil => exact hinit
  | cons i is ih => exact ih (hnext s i hinit halong.1) halong.2

/--
If `P` survives an input exactly when the input meets `Q`, then `P` survives a run exactly when all of
its inputs meet `Q`.
-/
theorem stays_iff_along {I P : σ → Prop} {Q : σ → ι → Prop} (hI : ∀ t i, I t → I (m.next t i))
    (hstep : ∀ t i, I t → P t → (P (m.next t i) ↔ Q t i)) {s : σ} (hs : I s) (hP : P s)
    (is : List ι) : (∀ pre post, is = pre ++ post → P (m.run s pre)) ↔ m.Along Q s is := by
  induction is generalizing s with
  | nil => simp [Along, hP]
  | cons i is ih =>
    constructor
    . intro h
      have hnext : P (m.next s i) := h [i] is rfl
      refine ⟨(hstep s i hs hP).mp hnext, (ih (hI s i hs) hnext).mp ?_⟩
      intro pre post heq
      exact h (i :: pre) post (by simp [heq])
    . rintro ⟨hQ, halong⟩ pre post heq
      have hnext := (hstep s i hs hP).mpr hQ
      cases pre with
      | nil => exact hP
      | cons j pre =>
        obtain ⟨hij, htail⟩ : i = j ∧ is = pre ++ post := by simpa using heq
        subst hij
        exact (ih (hI s i hs) hnext).mpr halong pre post htail

/--
If an input that arrives at `now` takes what holds at any earlier time to what holds at `now`, then a run
whose times do not decrease ends with what holds at its last time. Inputs without a time arrive at the
time before them.
-/
theorem run_clocked {τ : Type} [Preorder τ] {clock : ι → Option τ} {P : τ → σ → Prop}
    {Q : σ → ι → Prop} (hmono : ∀ {a b : τ} {s : σ}, a ≤ b → P a s → P b s)
    (hstep : ∀ (a : τ) (s : σ) (i : ι), P a s → Q s i → (∀ now ∈ clock i, a ≤ now) →
      P ((clock i).getD a) (m.next s i))
    {a t : τ} {s : σ} {is : List ι} (hs : P a s) (halong : m.Along Q s is)
    (hsorted : (a :: (is.filterMap clock ++ [t])).Pairwise (· ≤ ·)) : P t (m.run s is) := by
  induction is generalizing a s with
  | nil =>
    rw [List.filterMap_nil, List.nil_append, List.pairwise_pair] at hsorted
    exact hmono hsorted hs
  | cons i is ih =>
    obtain ⟨hQ, hrest⟩ := halong
    have hnext := hstep a s i hs hQ
    cases hclock : clock i with
    | none =>
      rw [List.filterMap_cons_none hclock] at hsorted
      rw [hclock] at hnext
      exact ih (hnext (by simp)) hrest hsorted
    | some now =>
      rw [List.filterMap_cons_some hclock, List.cons_append, List.pairwise_cons] at hsorted
      rw [hclock] at hnext
      have hle : a ≤ now := hsorted.1 now List.mem_cons_self
      exact ih (hnext (by simpa using hle)) hrest hsorted.2

/--
The same for a start that satisfies `P` at any time.
-/
theorem run_clocked_of_start {τ : Type} [Preorder τ] {clock : ι → Option τ} {P : τ → σ → Prop}
    {Q : σ → ι → Prop} (hmono : ∀ {a b : τ} {s : σ}, a ≤ b → P a s → P b s)
    (hstep : ∀ (a : τ) (s : σ) (i : ι), P a s → Q s i → (∀ now ∈ clock i, a ≤ now) →
      P ((clock i).getD a) (m.next s i))
    {t : τ} {s : σ} {is : List ι} (hs : ∀ a, P a s) (halong : m.Along Q s is)
    (hsorted : (is.filterMap clock ++ [t]).Pairwise (· ≤ ·)) : P t (m.run s is) := by
  have hend : ∀ a, (a :: (is.filterMap clock ++ [t])).Pairwise (· ≤ ·) → P t (m.run s is) := by
    intro a ha
    exact run_clocked (P := P) hmono hstep (hs a) halong ha
  cases htimes : is.filterMap clock ++ [t] with
  | nil => simp at htimes
  | cons a rest =>
    rw [htimes] at hsorted hend
    apply hend a
    rw [List.pairwise_cons]
    refine ⟨?_, hsorted⟩
    intro u hu
    cases List.mem_cons.mp hu with
    | inl heq => exact le_of_eq heq.symm
    | inr hrest => exact (List.pairwise_cons.mp hsorted).1 u hrest

end Machine
