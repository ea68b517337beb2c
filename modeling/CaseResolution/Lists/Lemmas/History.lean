import CaseResolution.Cases.Lemmas.Queue
import CaseResolution.Lib.Pages
import CaseResolution.Lists.Impl.History

/-!
This module contains what the pages of a history show: the entries before their cursor, the newest ones
first, so that following the cursors leads back to the oldest entry.
-/

namespace CaseResolution

open Guard Keyset

namespace HistoryList

variable {Row Tie : Type} {l : HistoryList Row Tie} {a b : Row} {rows : List Row}

/--
Where an entry stands when the newest ones come first.
-/
def key (l : HistoryList Row Tie) (row : Row) : CivilTimeᵒᵈ ×ₗ Tieᵒᵈ :=
  toLex (OrderDual.toDual (l.occurredAt row), OrderDual.toDual (l.tie row))

theorem keys_nodup (h : (rows.map l.tie).Nodup) : (rows.map l.key).Nodup := by
  rw [List.Nodup, List.pairwise_map] at h ⊢
  refine h.imp fun hne heq => hne ?_
  exact OrderDual.toDual_inj.mp (Prod.mk.injEq _ _ _ _ ▸ toLex_inj.mp heq : _ ∧ _).2

/--
A position holds what the database compares, and there is one for every entry.
-/
structure Positions (l : HistoryList Row Tie) : Prop where
  read : ∀ row, l.ofTieBreaker (l.tieBreaker row) = some (l.tie row)
  length : ∀ row, 1 ≤ (l.tieBreaker row).length ∧ (l.tieBreaker row).length ≤ 128

def Positions.position (h : l.Positions) (row : Row) : CaseHistoryPosition where
  occurredAt := l.occurredAt row
  tieBreaker := l.tieBreaker row
  tieBreaker_length := h.length row

theorem Positions.of_eq (h : l.Positions) (row : Row)
    : CaseHistoryPosition.of (l.occurredAt row) (l.tieBreaker row) = .ok (h.position row) :=
  dif_pos (h.length row)

variable [LinearOrder Tie]

theorem isBefore_iff : l.isBefore (l.occurredAt a) (l.tie a) b = true ↔ l.key a < l.key b := by
  unfold isBefore key
  rw [decide_eq_true_eq, Prod.Lex.toLex_lt_toLex, OrderDual.toDual_lt_toDual, OrderDual.toDual_inj,
    OrderDual.toDual_lt_toDual]
  grind

theorem older_of_key (h : l.key a < l.key b)
    : l.occurredAt b < l.occurredAt a ∨ (l.occurredAt b = l.occurredAt a ∧ l.tie b < l.tie a) := by
  unfold key at h
  rw [Prod.Lex.toLex_lt_toLex, OrderDual.toDual_lt_toDual, OrderDual.toDual_inj, OrderDual.toDual_lt_toDual]
    at h
  exact h.imp_right fun ⟨heq, htie⟩ => ⟨heq.symm, htie⟩

theorem newestFirst_iff : l.newestFirst a b ↔ l.key a ≤ l.key b := by
  unfold newestFirst key
  rw [Prod.Lex.toLex_le_toLex, OrderDual.toDual_lt_toDual, OrderDual.toDual_inj,
    OrderDual.toDual_le_toDual]

/--
The entries, the newest first.
-/
def backward (l : HistoryList Row Tie) (rows : List Row) : List Row :=
  rows.insertionSort l.newestFirst

theorem backward_eq : l.backward rows = ascending l.key rows :=
  insertionSort_congr (fun _ _ => newestFirst_iff) rows

theorem length_backward : (l.backward rows).length = rows.length :=
  List.length_insertionSort _ rows

theorem backward_before (h : (rows.map l.key).Nodup) {i : Nat} (ha : (l.backward rows)[i]? = some a)
    : l.backward (rows.filter (l.isBefore (l.occurredAt a) (l.tie a)))
      = (l.backward rows).drop (i + 1) := by
  rw [backward_eq] at ha
  rw [backward_eq, backward_eq, ← (ascending_increasing h).filter_gt ha, ← ascending_filter h]
  congr 1
  apply List.filter_congr
  intro b _
  rw [Bool.eq_iff_iff, isBefore_iff, decide_eq_true_eq]

/--
The position of the entry in front of `start`, from which the page that starts there is asked for.
-/
def Positions.at (h : l.Positions) (rows : List Row) (start : Nat) : Option CaseHistoryPosition :=
  if start = 0 then none else (l.backward rows)[start - 1]?.map h.position

/--
The page that starts with the entry at `start`, the newest first.
-/
def Positions.pageAt (h : l.Positions) (rows : List Row) (start limit : Nat) : HistoryRecords Row where
  items := (slice (l.backward rows) start (start + limit)).reverse
  total := rows.length
  nextPosition := if start + limit < (l.backward rows).length then h.at rows (start + limit) else none

theorem page_of_found {before : Option CaseHistoryPosition} {found : List Row} {start limit : Nat}
    (h : l.Positions) (hbefore : l.found rows before = .ok found)
    (hfound : l.backward found = (l.backward rows).drop start) (hlimit : 1 ≤ limit)
    : l.page rows before limit = .ok (h.pageAt rows start limit) := by
  have hfetched : (found.insertionSort l.newestFirst).take (limit + 1)
      = slice (l.backward rows) start (start + (limit + 1)) := by
    rw [← take_drop_eq_slice, ← hfound]
    rfl
  have ⟨hvisible, hmore⟩ := slice_lookAhead (l.backward rows) start limit
  unfold page
  rw [hbefore]
  dsimp only [bind, Except.bind]
  rw [hfetched, hvisible]
  unfold Positions.pageAt
  by_cases hnext : start + limit < (l.backward rows).length
  . have hlast : (slice (l.backward rows) start (start + limit)).getLast?
        = (l.backward rows)[start + limit - 1]? := slice_getLast? (by omega) hnext.le
    obtain ⟨last, hrow⟩ : ∃ last, (l.backward rows)[start + limit - 1]? = some last :=
      ⟨_, List.getElem?_eq_getElem (by omega)⟩
    have hat : h.at rows (start + limit) = some (h.position last) := by
      unfold Positions.at
      rw [if_neg (by omega), hrow]
      rfl
    rw [if_pos (hmore.mpr hnext), if_pos hnext, hlast, hrow, hat]
    dsimp only
    rw [h.of_eq]
    rfl
  . rw [if_neg (fun hfull => hnext (hmore.mp hfull)), if_neg hnext]
    rfl

/--
A history answers every position of its pages, and the first request without one.
-/
theorem page_at (h : l.Positions) (hkeys : (rows.map l.key).Nodup) {start limit : Nat}
    (hstart : start = 0 ∨ start < (l.backward rows).length) (hlimit : 1 ≤ limit)
    : l.page rows (h.at rows start) limit = .ok (h.pageAt rows start limit) := by
  cases start with
  | zero => exact page_of_found h rfl rfl hlimit
  | succ i =>
    have hi : i < (l.backward rows).length := by omega
    have ha := List.getElem?_eq_getElem hi
    have hat : h.at rows (i + 1) = some (h.position (l.backward rows)[i]) := by
      unfold Positions.at
      rw [if_neg (by omega), Nat.add_sub_cancel, ha]
      rfl
    rw [hat]
    refine page_of_found h ?_ (backward_before hkeys ha) hlimit
    unfold found
    dsimp only [Positions.position]
    rw [h.read]
    rfl

variable (rows) in
theorem Positions.length_pageAt (h : l.Positions) (limit : Nat)
    : (h.pageAt rows 0 limit).items.length = min limit rows.length := by
  unfold Positions.pageAt
  rw [List.length_reverse, slice_length, length_backward, Nat.zero_add, Nat.sub_zero]

variable (rows) in
theorem Positions.nextPosition_isSome (h : l.Positions) {limit : Nat} (hlimit : 1 ≤ limit)
    : (h.pageAt rows 0 limit).nextPosition.isSome = true ↔ limit < rows.length := by
  unfold Positions.pageAt
  rw [Nat.zero_add, length_backward]
  split
  . next hlt =>
    unfold Positions.at
    rw [if_neg (by omega), List.getElem?_eq_getElem (by rw [length_backward]; omega)]
    simpa using hlt
  . next hlt => simpa using hlt

variable (rows) in
/--
The first page of a history makes up a window, which counts its entries and all there are.
-/
theorem Positions.window_of (h : l.Positions) {limit : Nat} (hlimit : 1 ≤ limit)
    : ∃ window, CaseCollectionWindow.of (h.pageAt rows 0 limit).items.length
          (h.pageAt rows 0 limit).total (h.pageAt rows 0 limit).nextPosition.isSome
          (h.pageAt rows 0 limit).nextPosition = .ok window
        ∧ window.returned = (h.pageAt rows 0 limit).items.length
        ∧ window.total = rows.length := by
  have hlength := h.length_pageAt rows limit
  have htotal : (h.pageAt rows 0 limit).total = rows.length := rfl
  have hmore := h.nextPosition_isSome rows hlimit
  unfold CaseCollectionWindow.of
  rw [dif_pos (by omega), dif_pos (by rw [hmore]; omega), dif_pos (by simp)]
  exact ⟨_, rfl, rfl, htotal⟩

end HistoryList

namespace CaseHistoryTable

theorem conversation_positions [TextCollation] : conversation.Positions where
  read _ := rfl
  length message := ⟨message.publicId_length.1, message.publicId_length.2.trans (by decide)⟩

theorem activity_tieBreaker_read [UuidText] (event : AuditEvent)
    : UuidText.parse (activity.tieBreaker event) = some event.id :=
  UuidText.parse_str event.id

theorem activity_positions [UuidText] : activity.Positions where
  read event := by
    dsimp only [activity]
    rw [UuidText.parse_str]
    rfl
  length event := by
    dsimp only [activity]
    rw [UuidText.length_str]
    decide

variable (t : CaseHistoryTable) (caseId : String)

theorem conversation_keys [TextCollation] : ((t.caseMessages caseId).map conversation.key).Nodup := by
  apply HistoryList.keys_nodup
  have hids : ((t.caseMessages caseId).map fun message => message.publicId).Nodup :=
    t.messages_nodup.sublist (List.filter_sublist.map _)
  rw [List.Nodup, List.pairwise_map] at hids ⊢
  exact hids.imp fun hne heq => hne (TextCollation.sortKey_injective heq)

theorem activity_keys [UuidText] : ((t.caseEvents caseId).map activity.key).Nodup := by
  apply HistoryList.keys_nodup
  have hids : ((t.caseEvents caseId).map fun event => event.id).Nodup :=
    t.events_nodup.sublist (List.filter_sublist.map _)
  rw [List.Nodup, List.pairwise_map] at hids ⊢
  refine hids.imp fun hne heq => hne ?_
  exact Uuid.mk.injEq .. ▸ heq

end CaseHistoryTable

namespace CaseHistoryService

variable [HistoryPayloadJson] {kind : CaseHistoryKind} {caseId : String}

/--
A cursor exists for every position in a case of the table.
-/
theorem encodeCaseHistoryCursor_eq_ok (position : CaseHistoryPosition) (kind : CaseHistoryKind)
    (h : 1 ≤ caseId.length ∧ caseId.length ≤ 64)
    : ∃ cursor, encodeCaseHistoryCursor (some position) kind caseId = .ok (some cursor) := by
  unfold encodeCaseHistoryCursor
  dsimp only
  rw [dif_pos h]
  exact ⟨_, rfl⟩

/--
A cursor is read back as the position it was written for.
-/
theorem decodeCaseHistoryCursor_encoded [UuidText] {position : CaseHistoryPosition} {cursor : String}
    (hcursor : encodeCaseHistoryCursor (some position) kind caseId = .ok (some cursor))
    (hid : kind = .activity → UuidText.parse position.tieBreaker ≠ none)
    : decodeCaseHistoryCursor (some cursor) kind caseId = .ok (some position) := by
  unfold encodeCaseHistoryCursor at hcursor
  dsimp only at hcursor
  split at hcursor
  . next hlength =>
    obtain rfl := Option.some.inj (Except.ok.inj hcursor)
    unfold decodeCaseHistoryCursor
    dsimp only
    rw [String.toList_ofList, Base64.decodeValid_encode (HistoryPayloadJson.dumps_lt _)]
    change (orThrow (HistoryPayloadJson.validate _) _ >>= _) = _
    rw [HistoryPayloadJson.validate_dumps]
    change (ensure _ _ >>= _) = _
    rw [ensure_bind_eq_ok, ensure_bind_eq_ok]
    exact ⟨⟨rfl, rfl⟩, hid, rfl⟩
  . cases hcursor

/--
The pages of a section, each turned round so that the newest entry comes first.
-/
def historyPager {Row : Type} (serve : Option String → PageLimit → Except Error (Page Row))
    : Pager Error PageLimit String (Page Row) Row where
  serve := serve
  size := PageLimit.value
  items page := page.items.reverse
  next := Page.nextCursor

/--
The cursor that is written for a position.
-/
def cursorText (kind : CaseHistoryKind) (caseId : String) (position : Option CaseHistoryPosition) : String :=
  ((encodeCaseHistoryCursor position kind caseId).toOption.bind id).getD ""

/--
The store answers the positions of a history with its pages: `s` are the entries, the newest first.
-/
structure ListsHistory {Row : Type} (kind : CaseHistoryKind) [UuidText]
    (list : Option CaseHistoryPosition → Nat → Except Error (HistoryRecords Row)) (s : List Row)
    (positions : Nat → Option CaseHistoryPosition) : Prop where
  first : positions 0 = none
  further : ∀ start, 0 < start → start < s.length → ∃ position, positions start = some position
    ∧ (kind = .activity → UuidText.parse position.tieBreaker ≠ none)
  lists : ∀ start limit, start = 0 ∨ start < s.length → 1 ≤ limit → list (positions start) limit = .ok {
    items := (slice s start (start + limit)).reverse
    total := s.length
    nextPosition := if start + limit < s.length then positions (start + limit) else none }

omit [HistoryPayloadJson] in
/--
A store that answers with the pages of a list lists its entries.
-/
theorem listsHistory [UuidText] {Row Item Tie : Type} [LinearOrder Tie] {l : HistoryList Row Tie}
    {rows : List Row} (kind : CaseHistoryKind)
    (list : Option CaseHistoryPosition → Nat → Except Error (HistoryRecords Item)) (h : l.Positions) (hkeys : (rows.map l.key).Nodup) (item : Row → Item)
    (hlist : ∀ before limit, list before limit = (l.page rows before limit).map fun records =>
      { items := records.items.map item, total := records.total, nextPosition := records.nextPosition })
    (hid : kind = .activity → ∀ row, UuidText.parse (l.tieBreaker row) ≠ none)
    : ListsHistory kind list ((l.backward rows).map item) (h.at rows) where
  first := rfl
  further start hpos hlt := by
    rw [List.length_map] at hlt
    obtain ⟨row, hrow⟩ : ∃ row, (l.backward rows)[start - 1]? = some row :=
      ⟨_, List.getElem?_eq_getElem (by omega)⟩
    refine ⟨h.position row, ?_, fun hkind => hid hkind row⟩
    unfold HistoryList.Positions.at
    rw [if_neg (by omega), hrow]
    rfl
  lists start limit hstart hlimit := by
    rw [List.length_map] at hstart ⊢
    rw [hlist, HistoryList.page_at h hkeys hstart hlimit]
    have hslice : slice ((l.backward rows).map item) start (start + limit)
        = (slice (l.backward rows) start (start + limit)).map item := by
      unfold slice
      rw [List.map_drop, List.map_take]
    rw [hslice, ← List.map_reverse, HistoryList.length_backward]
    unfold HistoryList.Positions.pageAt
    rw [HistoryList.length_backward]
    rfl

/--
A section whose store lists a history serves it.
-/
theorem historySection_serves [UuidText] {Row : Type}
    {list : String → Option CaseHistoryPosition → Nat → Except Error (HistoryRecords Row)} {s : List Row}
    {positions : Nat → Option CaseHistoryPosition} {actor : ActorContext}
    (h : ListsHistory kind (list caseId) s positions) (hactor : actor.can .caseRead = true)
    (hcase : 1 ≤ caseId.length ∧ caseId.length ≤ 64)
    : (historyPager (historySection kind list actor caseId)).Serves s
        (fun start => cursorText kind caseId (positions start)) (fun _ => True)
        fun page => page.total = s.length where
  answers start limit hstart _ := by
    have hfurther : ∀ start, 0 < start → start < s.length →
        ∃ position, positions start = some position
          ∧ encodeCaseHistoryCursor (some position) kind caseId
            = .ok (some (cursorText kind caseId (positions start)))
          ∧ decodeCaseHistoryCursor (some (cursorText kind caseId (positions start))) kind caseId
            = .ok (some position) := by
      intro start hpos hlt
      obtain ⟨position, hposition, hid⟩ := h.further start hpos hlt
      obtain ⟨cursor, hcursor⟩ := encodeCaseHistoryCursor_eq_ok position kind hcase
      have htext : cursorText kind caseId (positions start) = cursor := by
        unfold cursorText
        rw [hposition, hcursor]
        rfl
      rw [htext]
      exact ⟨position, hposition, hcursor, decodeCaseHistoryCursor_encoded hcursor hid⟩
    have hdecode : decodeCaseHistoryCursor
        (Pager.cursorAt (fun start => cursorText kind caseId (positions start)) start) kind caseId
          = .ok (positions start) := by
      cases start with
      | zero =>
        rw [h.first]
        rfl
      | succ n =>
        obtain ⟨position, hposition, _, hread⟩ := hfurther (n + 1) (by omega) (by omega)
        rw [Pager.cursorAt_of_pos (by omega), hread, hposition]
    refine ⟨{
      items := (slice s start (start + limit.value)).reverse
      nextCursor := if start + limit.value < s.length then
          some (cursorText kind caseId (positions (start + limit.value)))
        else
          none
      total := s.length }, ?_, List.reverse_reverse _, rfl, rfl⟩
    change historySection kind list actor caseId _ limit = _
    unfold historySection
    unfold requirePermission
    rw [ensure_bind_eq_ok]
    refine ⟨hactor, ?_⟩
    rw [hdecode]
    change (list caseId (positions start) limit.value >>= _) = _
    rw [h.lists start limit.value hstart limit.pos]
    dsimp only [bind, Except.bind]
    by_cases hnext : start + limit.value < s.length
    . obtain ⟨position, hposition, hencode, _⟩ := hfurther (start + limit.value) (by have := limit.pos; omega) hnext
      rw [if_pos hnext, if_pos hnext, hposition, hencode, hposition]
      rfl
    . rw [if_neg hnext, if_neg hnext]
      rfl

end CaseHistoryService

end CaseResolution
