import Mathlib

/-!
This module contains guarded computations: the checks an atomic operation makes before it writes,
together with the lemmas that take an accepted operation apart into the checks it passed.
-/

universe u v

namespace Guard

variable {ε : Type u} {α β : Type v}

/--
Continue if `p` holds, otherwise refuse with `e`.
-/
def ensure (p : Prop) [Decidable p] (e : ε) : Except ε PUnit.{v + 1} :=
  if p then .ok ⟨⟩ else .error e

/--
The value in `o`, or a refusal with `e` if there is none.
-/
def orThrow (o : Option α) (e : ε) : Except ε α :=
  match o with
  | some a => .ok a
  | none => .error e

@[simp]
theorem ensure_eq_ok {p : Prop} [Decidable p] {e : ε} {u : PUnit.{v + 1}}
    : ensure p e = .ok u ↔ p := by
  unfold ensure
  split <;> simp_all

theorem ensure_of {p : Prop} [Decidable p] {e : ε} (h : p)
    : (ensure p e : Except ε PUnit.{v + 1}) = .ok ⟨⟩ := by
  simp [h]

@[simp]
theorem orThrow_eq_ok {o : Option α} {e : ε} {a : α} : orThrow o e = .ok a ↔ o = some a := by
  unfold orThrow
  split <;> simp

theorem bind_eq_ok {x : Except ε α} {f : α → Except ε β} {b : β}
    : (x >>= f) = .ok b ↔ ∃ a, x = .ok a ∧ f a = .ok b := by
  cases x <;> simp [bind, Except.bind]

@[simp]
theorem ensure_bind_eq_ok {p : Prop} [Decidable p] {e : ε} {f : PUnit.{v + 1} → Except ε β} {b : β}
    : (ensure p e >>= f) = .ok b ↔ p ∧ f ⟨⟩ = .ok b := by
  rw [bind_eq_ok]
  constructor
  . rintro ⟨⟨⟩, hp, hf⟩
    exact ⟨ensure_eq_ok.mp hp, hf⟩
  . rintro ⟨hp, hf⟩
    exact ⟨⟨⟩, ensure_of hp, hf⟩

@[simp]
theorem orThrow_bind_eq_ok {o : Option α} {e : ε} {f : α → Except ε β} {b : β}
    : (orThrow o e >>= f) = .ok b ↔ ∃ a, o = some a ∧ f a = .ok b := by
  rw [bind_eq_ok]
  simp

@[simp]
theorem pure_eq_ok {a b : α} : (pure a : Except ε α) = .ok b ↔ a = b := by
  simp [pure, Except.pure]

theorem bind_eq_error {x : Except ε α} {f : α → Except ε β} {e : ε}
    : (x >>= f) = .error e ↔ x = .error e ∨ ∃ a, x = .ok a ∧ f a = .error e := by
  cases x <;> simp [bind, Except.bind]

@[simp]
theorem ensure_eq_error {p : Prop} [Decidable p] {e e' : ε}
    : (ensure p e : Except ε PUnit.{v + 1}) = .error e' ↔ ¬ p ∧ e = e' := by
  unfold ensure
  split <;> simp_all

@[simp]
theorem orThrow_eq_error {o : Option α} {e e' : ε}
    : orThrow o e = .error e' ↔ o = none ∧ e = e' := by
  unfold orThrow
  split <;> simp

@[simp]
theorem pure_ne_error {a : α} {e : ε} : (pure a : Except ε α) ≠ .error e := by
  simp [pure, Except.pure]

/--
A computation over a list that was accepted was accepted for one element after the other.
-/
theorem mapM_eq_ok {f : α → Except ε β} {l : List α} {bs : List β} (h : l.mapM f = .ok bs)
    : List.Forall₂ (fun a b => f a = .ok b) l bs := by
  induction l generalizing bs with
  | nil =>
    rw [List.mapM_nil, pure_eq_ok] at h
    exact h ▸ .nil
  | cons a l ih =>
    rw [List.mapM_cons, bind_eq_ok] at h
    obtain ⟨b, hb, h⟩ := h
    rw [bind_eq_ok] at h
    obtain ⟨rest, hrest, h⟩ := h
    rw [pure_eq_ok] at h
    exact h ▸ .cons hb (ih hrest)

theorem exists_of_mapM_eq_ok {f : α → Except ε β} {l : List α} {bs : List β} (h : l.mapM f = .ok bs)
    {a : α} (ha : a ∈ l) : ∃ b ∈ bs, f a = .ok b := by
  have hall := mapM_eq_ok h
  clear h
  induction hall with
  | nil => cases ha
  | @cons c b l bs hb _ ih =>
    cases List.mem_cons.mp ha with
    | inl heq => exact ⟨b, List.mem_cons_self, heq ▸ hb⟩
    | inr hmem =>
      obtain ⟨d, hd, hof⟩ := ih hmem
      exact ⟨d, List.mem_cons_of_mem b hd, hof⟩

theorem mem_of_mapM_eq_ok {f : α → Except ε β} {l : List α} {bs : List β} (h : l.mapM f = .ok bs)
    {b : β} (hb : b ∈ bs) : ∃ a ∈ l, f a = .ok b := by
  have hall := mapM_eq_ok h
  clear h
  induction hall with
  | nil => cases hb
  | @cons a c l bs hc _ ih =>
    cases List.mem_cons.mp hb with
    | inl heq => exact ⟨a, List.mem_cons_self, heq ▸ hc⟩
    | inr hmem =>
      obtain ⟨d, hd, hof⟩ := ih hmem
      exact ⟨d, List.mem_cons_of_mem a hd, hof⟩

/--
Checking and changing the elements of a list accepts the list where every element passes.
-/
theorem mapM_guard_eq_ok {f : α → Except ε β} {p : α → Prop} {g : α → β}
    (hf : ∀ a b, f a = .ok b ↔ p a ∧ g a = b) {l : List α} {bs : List β}
    : l.mapM f = .ok bs ↔ (∀ a ∈ l, p a) ∧ l.map g = bs := by
  induction l generalizing bs with
  | nil => simp
  | cons a l ih =>
    rw [List.mapM_cons, bind_eq_ok]
    constructor
    . intro ⟨b, hb, hrest⟩
      obtain ⟨hp, rfl⟩ := (hf a b).mp hb
      obtain ⟨rest, hl, heq⟩ := bind_eq_ok.mp hrest
      obtain ⟨hall, rfl⟩ := ih.mp hl
      exact ⟨List.forall_mem_cons.mpr ⟨hp, hall⟩, pure_eq_ok.mp heq⟩
    . intro ⟨hall, heq⟩
      have hall := List.forall_mem_cons.mp hall
      apply Exists.intro (g a)
      apply And.intro ((hf a (g a)).mpr ⟨hall.1, rfl⟩)
      rw [bind_eq_ok]
      exact ⟨l.map g, ih.mpr ⟨hall.2, rfl⟩, pure_eq_ok.mpr heq⟩

theorem mapM_check_eq_ok {f : α → Except ε α} {p : α → Prop}
    (hf : ∀ a b, f a = .ok b ↔ p a ∧ a = b) {l l' : List α}
    : l.mapM f = .ok l' ↔ (∀ a ∈ l, p a) ∧ l = l' := by
  have hguard : l.mapM f = .ok l' ↔ (∀ a ∈ l, p a) ∧ l.map id = l' := mapM_guard_eq_ok hf
  rwa [List.map_id] at hguard

theorem toOption_eq_some {x : Except ε α} {a : α} : x.toOption = some a ↔ x = .ok a := by
  cases x <;> simp [Except.toOption]

theorem isOk_iff {x : Except ε α} : x.isOk = true ↔ ∃ a, x = .ok a := by
  cases x <;> simp [Except.isOk, Except.toBool]

/--
A computation ends in a value with one property or in an error with another.
-/
def Ends (returns : α → Prop) (raises : ε → Prop) : Except ε α → Prop
  | .ok a => returns a
  | .error e => raises e

section Ends

variable {raises : ε → Prop} {returns : α → Prop}

theorem ends_pure {a : α} (h : returns a) : Ends returns raises (pure a : Except ε α) := h

theorem ends_ensure {p : Prop} [Decidable p] {e : ε} (h : ¬ p → raises e)
    : Ends (fun _ => p) raises (ensure p e) := by
  unfold ensure
  split
  . next hp => exact hp
  . next hp => exact h hp

theorem Ends.bind {returns' : β → Prop} {x : Except ε α} {f : α → Except ε β}
    (hx : Ends returns raises x) (hf : ∀ a, returns a → Ends returns' raises (f a))
    : Ends returns' raises (x >>= f) := by
  cases x with
  | ok a => exact hf a hx
  | error e => exact hx

/--
What a loop knows of the items it has read is known of all of them at its end.
-/
theorem ends_foldlM {known : List β → α → Prop} {f : α → β → Except ε α} {read l : List β} {a : α}
    (hread : known read a)
    (hstep : ∀ items a, ∀ item ∈ l, known items a
      → Ends (known (items ++ [item])) raises (f a item))
    : Ends (known (read ++ l)) raises (l.foldlM f a) := by
  induction l generalizing read a with
  | nil => simpa using ends_pure hread
  | cons item l ih =>
    rw [List.foldlM_cons, List.append_cons]
    apply (hstep read a item List.mem_cons_self hread).bind
    intro b hb
    apply ih hb
    intro items c other hother
    exact hstep items c other (List.mem_cons_of_mem item hother)

end Ends

theorem pure_isOk {a : α} : (∃ b, (pure a : Except ε α) = .ok b) ↔ True :=
  iff_true_intro ⟨a, rfl⟩

theorem bind_isOk {x : Except ε α} {f : α → Except ε β}
    : (∃ b, x >>= f = .ok b) ↔ ∃ a, x = .ok a ∧ ∃ b, f a = .ok b := by
  simp only [bind_eq_ok]
  constructor
  . rintro ⟨b, a, ha, hb⟩
    exact ⟨a, ha, b, hb⟩
  . rintro ⟨a, ha, b, hb⟩
    exact ⟨b, a, ha, hb⟩

/--
A computation over a list is accepted if every element is.
-/
theorem mapM_isOk {f : α → Except ε β} {l : List α}
    : (∃ bs, l.mapM f = .ok bs) ↔ ∀ a ∈ l, ∃ b, f a = .ok b := by
  constructor
  . rintro ⟨bs, h⟩ a ha
    obtain ⟨b, _, hb⟩ := exists_of_mapM_eq_ok h ha
    exact ⟨b, hb⟩
  . intro h
    induction l with
    | nil => exact ⟨[], rfl⟩
    | cons a l ih =>
      rw [List.forall_mem_cons] at h
      obtain ⟨b, hb⟩ := h.1
      obtain ⟨bs, hbs⟩ := ih h.2
      refine ⟨b :: bs, ?_⟩
      rw [List.mapM_cons, hb, hbs]
      rfl

/--
A computation that ends in a value or in a declared error.
-/
def Answers (declared : ε → Prop) (x : Except ε α) : Prop :=
  Ends (fun _ => True) declared x

/--
A computation that never ends in a declared error.
-/
def Avoids (declared : ε → Prop) (x : Except ε α) : Prop :=
  Ends (fun _ => True) (fun e => ¬ declared e) x

section Answers

variable {declared : ε → Prop}

theorem answers_iff {x : Except ε α}
    : Answers declared x ↔ (∃ a, x = .ok a) ∨ ∃ e, declared e ∧ x = .error e := by
  cases x with
  | ok a => simp [Answers, Ends]
  | error e => simp [Answers, Ends]

theorem avoids_pure (a : α) : Avoids declared (pure a : Except ε α) :=
  ends_pure trivial

theorem Avoids.bind {x : Except ε α} {f : α → Except ε β} (hx : Avoids declared x)
    (hf : ∀ a, Avoids declared (f a)) : Avoids declared (x >>= f) :=
  Ends.bind hx fun a _ => hf a

theorem avoids_orThrow {o : Option α} {e : ε} (h : ¬ declared e) : Avoids declared (orThrow o e) := by
  cases o with
  | some a => exact trivial
  | none => exact h

theorem avoids_mapM {f : α → Except ε β} {l : List α} (h : ∀ a ∈ l, Avoids declared (f a))
    : Avoids declared (l.mapM f) := by
  induction l with
  | nil => exact avoids_pure []
  | cons a l ih =>
    rw [List.forall_mem_cons] at h
    rw [List.mapM_cons]
    exact h.1.bind fun b => (ih h.2).bind fun bs => avoids_pure (b :: bs)

/--
What avoids the declared errors answers only with a value.
-/
theorem answers_of_avoids {x : Except ε α} (hx : Avoids declared x)
    : Answers declared x ↔ ∃ a, x = .ok a := by
  cases x with
  | ok a => simp [Answers, Ends]
  | error e => exact iff_of_false hx (by simp)

theorem answers_bind {x : Except ε α} {f : α → Except ε β} (hx : Avoids declared x)
    : Answers declared (x >>= f) ↔ ∃ a, x = .ok a ∧ Answers declared (f a) := by
  cases x with
  | ok a => simp [bind, Except.bind]
  | error e => exact iff_of_false hx (by simp)

end Answers

end Guard
