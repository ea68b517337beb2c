import CaseResolution.Lib.Guard
import CaseResolution.Lib.Keyset

/-!
This module contains lists that are answered in pages: what it means for an operation to serve a list, and
what is shown by a walk that follows the cursor of every page.
-/

universe u v

open Guard Keyset

/--
An operation that answers a request with the page behind a cursor.
-/
structure Pager (ε : Type u) (ρ κ π α : Type v) where
  serve : Option κ → ρ → Except ε π
  size : ρ → Nat
  items : π → List α
  next : π → Option κ

namespace Pager

variable {ε : Type u} {ρ κ π α : Type v}

/--
The pages of one request after the other, each behind the cursor of the page before, up to the first page
without a cursor.
-/
def walk (p : Pager ε ρ κ π α) : List ρ → Option κ → Except ε (List π)
  | [], _ => .ok []
  | r :: requests, cursor => do
    let page ← p.serve cursor r
    match p.next page with
    | none => pure [page]
    | some found => do
      let rest ← p.walk requests (some found)
      pure (page :: rest)

/--
The cursor of the page that starts with the item at `start`. The first page needs none.
-/
def cursorAt (cursor : Nat → κ) : Nat → Option κ
  | 0 => none
  | start + 1 => some (cursor (start + 1))

/--
Wherever a page of the list may start, a request is answered with the items from there on and with the
cursor of the first item that is left. Every page satisfies `V`.
-/
structure Serves (p : Pager ε ρ κ π α) (s : List α) (cursor : Nat → κ) (R : ρ → Prop) (V : π → Prop)
    : Prop where
  answers : ∀ start r, start = 0 ∨ start < s.length → R r → ∃ page,
    p.serve (cursorAt cursor start) r = .ok page
      ∧ p.items page = slice s start (start + p.size r)
      ∧ p.next page = (if start + p.size r < s.length then some (cursor (start + p.size r)) else none)
      ∧ V page

variable {p : Pager ε ρ κ π α} {s : List α} {cursor : Nat → κ} {R : ρ → Prop} {V : π → Prop}
variable {requests : List ρ}

theorem walk_last {c : Option κ} {r : ρ} {page : π} (hserve : p.serve c r = .ok page)
    (hnext : p.next page = none) : p.walk (r :: requests) c = .ok [page] := by
  unfold walk
  rw [hserve]
  dsimp only [bind, Except.bind]
  rw [hnext]
  rfl

theorem walk_more {c : Option κ} {r : ρ} {page : π} {found : κ} {pages : List π}
    (hserve : p.serve c r = .ok page) (hnext : p.next page = some found)
    (hwalk : p.walk requests (some found) = .ok pages)
    : p.walk (r :: requests) c = .ok (page :: pages) := by
  unfold walk
  rw [hserve]
  dsimp only [bind, Except.bind]
  rw [hnext]
  dsimp only
  rw [hwalk]
  rfl

theorem cursorAt_of_pos {start : Nat} (h : 0 < start)
    : cursorAt cursor start = some (cursor start) := by
  obtain ⟨n, rfl⟩ := Nat.exists_eq_succ_of_ne_zero (by omega : start ≠ 0)
  rfl

/--
The pages of a walk show the list from where it starts, item for item, as far as the requests reach.
-/
theorem Serves.walk_from (h : p.Serves s cursor R V) (hrequests : ∀ r ∈ requests, R r ∧ 1 ≤ p.size r)
    {start : Nat} (hstart : start = 0 ∨ start < s.length)
    : ∃ pages, p.walk requests (cursorAt cursor start) = .ok pages
      ∧ pages.flatMap p.items <+: s.drop start
      ∧ (∀ page ∈ pages, V page)
      ∧ (requests ≠ [] → s.length ≤ start + requests.length →
        pages.flatMap p.items = s.drop start
          ∧ ∃ last, pages.getLast? = some last ∧ p.next last = none) := by
  induction requests generalizing start with
  | nil => exact ⟨[], rfl, by simp, by simp, fun hne => absurd rfl hne⟩
  | cons r requests ih =>
    have ⟨hr, hsize⟩ := hrequests r List.mem_cons_self
    obtain ⟨page, hserve, hitems, hnext, hvalid⟩ := h.answers start r hstart hr
    split at hnext
    . next hmore =>
      -- The walk goes on behind the items that the page shows.
      obtain ⟨pages, hwalk, hprefix, hall, hcomplete⟩ :=
        ih (fun r hr => hrequests r (List.mem_cons_of_mem _ hr)) (.inr hmore)
      rw [cursorAt_of_pos (by omega)] at hwalk
      have hsplit : s.drop start
          = slice s start (start + p.size r) ++ s.drop (start + p.size r) := by
        rw [← take_drop_eq_slice, ← List.drop_drop, List.take_append_drop]
      refine ⟨page :: pages, walk_more hserve hnext hwalk, ?_, ?_, ?_⟩
      . rw [List.flatMap_cons, hitems, hsplit]
        exact (List.prefix_append_right_inj _).mpr hprefix
      . intro shown hmem
        cases List.mem_cons.mp hmem with
        | inl heq => exact heq ▸ hvalid
        | inr hmem => exact hall shown hmem
      . intro _ hlength
        rw [List.length_cons] at hlength
        have hne : requests ≠ [] := by
          intro hnil
          rw [hnil, List.length_nil] at hlength
          omega
        obtain ⟨hflat, last, hlast, hend⟩ := hcomplete hne (by omega)
        refine ⟨?_, last, ?_, hend⟩
        . rw [List.flatMap_cons, hitems, hflat, ← hsplit]
        . rw [List.getLast?_cons, hlast]
          rfl
    . next hlast =>
      have hitems : p.items page = s.drop start := by
        rw [hitems, ← take_drop_eq_slice]
        apply List.take_of_length_le
        rw [List.length_drop]
        omega
      refine ⟨[page], walk_last hserve hnext, ?_, ?_, ?_⟩
      . rw [List.flatMap_singleton, hitems]
      . intro shown hmem
        rw [List.mem_singleton.mp hmem]
        exact hvalid
      . intro _ _
        exact ⟨by rw [List.flatMap_singleton, hitems], page, rfl, hnext⟩

/--
A walk with a request for every item shows the whole list and ends with a page that has no cursor.
-/
theorem Serves.walk_exact (h : p.Serves s cursor R V) (hrequests : ∀ r ∈ requests, R r ∧ 1 ≤ p.size r)
    (hne : requests ≠ []) (hlength : s.length ≤ requests.length)
    : ∃ pages, p.walk requests none = .ok pages
      ∧ pages.flatMap p.items = s
      ∧ (∃ last, pages.getLast? = some last ∧ p.next last = none)
      ∧ ∀ page ∈ pages, V page := by
  obtain ⟨pages, hwalk, _, hvalid, hcomplete⟩ := h.walk_from hrequests (.inl rfl)
  obtain ⟨hflat, hlast⟩ := hcomplete hne (by omega)
  exact ⟨pages, hwalk, by rw [hflat, List.drop_zero], hlast, hvalid⟩

end Pager

namespace Keyset

variable {α κ : Type v} [LinearOrder κ] {key : α → κ} {l : List α} {a : α}

/--
What a page of one item more than it shows says about the items behind it.
-/
theorem slice_lookAhead (s : List α) (start limit : Nat)
    : (slice s start (start + (limit + 1))).take limit = slice s start (start + limit)
      ∧ (limit < (slice s start (start + (limit + 1))).length ↔ start + limit < s.length) := by
  constructor
  . rw [← take_drop_eq_slice, ← take_drop_eq_slice]
    exact lookAhead_page
  . rw [slice_length]
    omega

end Keyset
