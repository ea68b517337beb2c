import CaseResolution.Cases.Lemmas.Queue
import CaseResolution.Cursors.Codec
import CaseResolution.Lib.Pages
import CaseResolution.Lists.Impl.Base

/-!
This module contains what a keyset page shows: the rows behind its cursor in the order of the list, so that
following the cursors serves the whole list.
-/

namespace CaseResolution

open Guard Keyset Unicode

theorem sendText_codes (text : String) : sendText (codes text) = .ok text := by
  unfold sendText codes
  rw [if_pos]
  . rw [List.map_map]
    congr 1
    convert String.ofList_toList using 2
    apply List.map_id''
    intro c
    exact Char.ofNat_toNat c
  . rw [List.all_eq_true]
    intro code hcode
    obtain ⟨c, _, rfl⟩ := List.mem_map.mp hcode
    rw [decide_eq_true_eq]
    exact c.valid

namespace KeysetList

variable {Row Tie : Type} {l : KeysetList Row Tie} {a b : Row} {rows : List Row}

/--
Where a row stands in the order of the list.
-/
def key (l : KeysetList Row Tie) (row : Row) : CivilTimeᵒᵈ ×ₗ Tie :=
  toLex (OrderDual.toDual (l.time row), l.tie (l.publicId row))

theorem keys_nodup (hids : (rows.map l.publicId).Nodup) (htie : Function.Injective l.tie)
    : (rows.map l.key).Nodup := by
  rw [List.Nodup, List.pairwise_map] at hids ⊢
  refine hids.imp fun hne heq => hne (htie ?_)
  exact (Prod.mk.injEq _ _ _ _ ▸ toLex_inj.mp heq : _ ∧ _).2

section Cursor

variable {filterFingerprint cursor : String}

variable (filterFingerprint) in
theorem encodeCursor_isSome (row : Row) : ∃ cursor, l.encodeCursor filterFingerprint row = some cursor := by
  unfold encodeCursor CursorCodecs.encodeCursor
  rw [CivilTime.toUtc_zero]
  exact ⟨_, rfl⟩

variable [IsoFormat] [Interpreter]

/--
A cursor is read back as the time and the id of the row it was written for.
-/
theorem cursorValues_encode (h : l.encodeCursor filterFingerprint a = some cursor)
    : l.cursorValues filterFingerprint (some cursor) = .ok (some (l.time a, l.publicId a)) := by
  have hdecode := CursorList.decode_encode (CivilTime.toUtc_zero _) h
  unfold cursorValues
  dsimp only
  rw [if_neg, hdecode]
  . change (sendText _ >>= _) = _
    rw [sendText_codes]
    rfl
  . rintro rfl
    cases hdecode

end Cursor

variable [LinearOrder Tie]

theorem isBehind_iff : l.isBehind (l.time a) (l.publicId a) b = true ↔ l.key a < l.key b := by
  unfold isBehind key
  rw [decide_eq_true_eq, Prod.Lex.toLex_lt_toLex, OrderDual.toDual_lt_toDual, OrderDual.toDual_inj]
  grind

theorem orderedBy_iff : l.orderedBy a b ↔ l.key a ≤ l.key b := by
  unfold orderedBy key
  rw [Prod.Lex.toLex_le_toLex, OrderDual.toDual_lt_toDual, OrderDual.toDual_inj]

/--
The rows in the order of the list.
-/
def ordered (l : KeysetList Row Tie) (rows : List Row) : List Row :=
  rows.insertionSort l.orderedBy

theorem ordered_eq : l.ordered rows = ascending l.key rows :=
  insertionSort_congr (fun _ _ => orderedBy_iff) rows

theorem length_ordered : (l.ordered rows).length = rows.length :=
  List.length_insertionSort _ rows

theorem ordered_perm : (l.ordered rows).Perm rows :=
  List.perm_insertionSort _ rows

theorem ordered_behind (h : (rows.map l.key).Nodup) {i : Nat} (ha : (l.ordered rows)[i]? = some a)
    : l.ordered (rows.filter (l.isBehind (l.time a) (l.publicId a))) = (l.ordered rows).drop (i + 1) := by
  rw [ordered_eq] at ha
  rw [ordered_eq, ordered_eq, ← (ascending_increasing h).filter_gt ha, ← ascending_filter h]
  congr 1
  apply List.filter_congr
  intro b _
  rw [Bool.eq_iff_iff, isBehind_iff, decide_eq_true_eq]

variable {filterFingerprint : String}

/--
The cursor of the page that starts with the row at `start`: it is that of the row in front of it.
-/
def cursor (l : KeysetList Row Tie) (filterFingerprint : String) (rows : List Row) (start : Nat) : String :=
  (((l.ordered rows)[start - 1]?).bind (l.encodeCursor filterFingerprint)).getD ""

variable (filterFingerprint) in
theorem encodeCursor_eq_cursor {start : Nat} (ha : (l.ordered rows)[start]? = some a)
    : l.encodeCursor filterFingerprint a = some (l.cursor filterFingerprint rows (start + 1)) := by
  obtain ⟨text, htext⟩ := l.encodeCursor_isSome filterFingerprint a
  unfold cursor
  rw [Nat.add_sub_cancel, ha, Option.bind_some, htext]
  rfl

theorem found_behind (h : (rows.map l.key).Nodup) {i : Nat} (ha : (l.ordered rows)[i]? = some a)
    : l.ordered (l.found rows (some (l.time a, l.publicId a))) = (l.ordered rows).drop (i + 1) :=
  ordered_behind h ha

variable [IsoFormat] [Interpreter]

/--
The page of a list that starts with the row at `start`.
-/
def pageAt (l : KeysetList Row Tie) (filterFingerprint : String) (rows : List Row) (start limit : Nat)
    : KeysetPage Row where
  items := slice (l.ordered rows) start (start + limit)
  nextCursor :=
    if start + limit < (l.ordered rows).length then
      some (l.cursor filterFingerprint rows (start + limit))
    else
      none
  total := rows.length

theorem page_of_found {values : Option (CivilTime × String)} {cursor? : Option String} {start limit : Nat}
    (hvalues : l.cursorValues filterFingerprint cursor? = .ok values)
    (hfound : l.ordered (l.found rows values) = (l.ordered rows).drop start) (hlimit : 1 ≤ limit)
    : l.page rows filterFingerprint cursor? limit = .ok (l.pageAt filterFingerprint rows start limit) := by
  have hfetched : ((l.found rows values).insertionSort l.orderedBy).take (limit + 1)
      = slice (l.ordered rows) start (start + (limit + 1)) := by
    rw [← take_drop_eq_slice, ← hfound]
    rfl
  have ⟨hvisible, hmore⟩ := slice_lookAhead (l.ordered rows) start limit
  unfold page
  rw [hvalues]
  change Except.ok _ = _
  rw [hfetched, hvisible]
  congr 2
  by_cases h : start + limit < (l.ordered rows).length
  . have hlast : (slice (l.ordered rows) start (start + limit)).getLast?
        = (l.ordered rows)[start + limit - 1]? := slice_getLast? (by omega) h.le
    obtain ⟨last, hrow⟩ : ∃ last, (l.ordered rows)[start + limit - 1]? = some last :=
      ⟨_, List.getElem?_eq_getElem (by omega)⟩
    have hcursor := encodeCursor_eq_cursor filterFingerprint hrow
    rw [Nat.sub_add_cancel (by omega)] at hcursor
    rw [if_pos (hmore.mpr h), if_pos h, hlast, hrow, Option.bind_some, hcursor]
  . rw [if_neg (fun hfull => h (hmore.mp hfull)), if_neg h]

/--
A page list answers every cursor of its pages, and the first request without one.
-/
theorem page_cursorAt (h : (rows.map l.key).Nodup) {start limit : Nat}
    (hstart : start = 0 ∨ start < (l.ordered rows).length) (hlimit : 1 ≤ limit)
    : l.page rows filterFingerprint (Pager.cursorAt (l.cursor filterFingerprint rows) start) limit
      = .ok (l.pageAt filterFingerprint rows start limit) := by
  cases start with
  | zero => exact page_of_found rfl rfl hlimit
  | succ i =>
    have hi : i < (l.ordered rows).length := by omega
    have ha := List.getElem?_eq_getElem hi
    have hvalues := cursorValues_encode (encodeCursor_eq_cursor filterFingerprint ha)
    exact page_of_found hvalues (found_behind h ha) hlimit

/--
Where every request is answered with a page of the rows, the list is served, and every page counts its rows.
-/
theorem serves {ρ : Type} {p : Pager ListFailure ρ String (KeysetPage Row) Row} {R : ρ → Prop}
    (h : (rows.map l.key).Nodup) (hitems : p.items = KeysetPage.items)
    (hnext : p.next = KeysetPage.nextCursor) (hsize : ∀ r, R r → 1 ≤ p.size r)
    (hserve : ∀ cursor r, R r → p.serve cursor r = l.page rows filterFingerprint cursor (p.size r))
    : p.Serves (l.ordered rows) (l.cursor filterFingerprint rows) R
        fun page => page.total = rows.length where
  answers start r hstart hr := by
    refine ⟨l.pageAt filterFingerprint rows start (p.size r), ?_, ?_, ?_, rfl⟩
    . rw [hserve _ r hr]
      exact page_cursorAt h hstart (hsize r hr)
    . rw [hitems]
      rfl
    . rw [hnext]
      rfl

end KeysetList

end CaseResolution
