import CaseResolution.Cursors.Codec
import CaseResolution.Lists.Impl.History
import CaseResolution.Lists.Lemmas.Keyset

/-!
This module contains one way to write what the cursors of a history hold: UUIDs in hexadecimal digits, and
payloads as JSON objects of texts with times in UTC. What is written is read back.
-/

namespace CaseResolution

open Unicode

namespace HexadecimalUuid

/--
Thirty-two digits in groups of 8, 4, 4, 4 and 12.
-/
def grouped (digits : List Char) : List Char :=
  digits.take 8 ++ '-' :: ((digits.drop 8).take 4 ++ '-' :: ((digits.drop 12).take 4
    ++ '-' :: ((digits.drop 16).take 4 ++ '-' :: digits.drop 20)))

def str (id : Uuid) : String :=
  String.ofList (grouped ((Numerals.digits 16 32 id.value).map Nat.digitChar))

def digitValue (c : Char) : Option Nat :=
  if '0' ≤ c ∧ c ≤ '9' then some (c.toNat - '0'.toNat)
  else if 'a' ≤ c ∧ c ≤ 'f' then some (c.toNat - 'a'.toNat + 10)
  else none

/--
Hyphens are left out, wherever they stand.
-/
def parse (text : String) : Option Uuid := do
  let digits ← (text.toList.filter (· ≠ '-')).mapM digitValue
  if lt : digits.length = 32 ∧ Numerals.value 16 digits < 2 ^ 128 then
    some { value := Numerals.value 16 digits, lt := lt.2 }
  else
    none

theorem digitValue_digitChar : ∀ n < 16, digitValue (Nat.digitChar n) = some n := by
  decide

theorem digitChar_ne_hyphen : ∀ n < 16, Nat.digitChar n ≠ '-' := by
  decide

theorem mapM_digitValue {digits : List Nat} (h : ∀ d ∈ digits, d < 16)
    : (digits.map Nat.digitChar).mapM digitValue = some digits := by
  induction digits with
  | nil => rfl
  | cons d digits ih =>
    rw [List.map_cons, List.mapM_cons, digitValue_digitChar d (h d List.mem_cons_self),
      ih fun d hd => h d (List.mem_cons_of_mem _ hd)]
    rfl

theorem filter_grouped {digits : List Char} (h : ∀ c ∈ digits, c ≠ '-')
    : (grouped digits).filter (· ≠ '-') = digits := by
  have hself : ∀ {l : List Char}, (∀ c ∈ l, c ∈ digits) → l.filter (· ≠ '-') = l := by
    intro l hl
    exact List.filter_eq_self.mpr fun c hc => by simpa using h c (hl c hc)
  have hjoin : ∀ m n, (digits.drop m).take n ++ digits.drop (m + n) = digits.drop m := by
    intro m n
    rw [← List.drop_drop, List.take_append_drop]
  have hskip : ∀ l : List Char, ('-' :: l).filter (· ≠ '-') = l.filter (· ≠ '-') := fun _ => rfl
  unfold grouped
  rw [List.filter_append, hskip, List.filter_append, hskip, List.filter_append, hskip, List.filter_append,
    hskip, hself fun c => List.mem_of_mem_take,
    hself fun c hc => List.mem_of_mem_drop (List.mem_of_mem_take hc),
    hself fun c hc => List.mem_of_mem_drop (List.mem_of_mem_take hc),
    hself fun c hc => List.mem_of_mem_drop (List.mem_of_mem_take hc),
    hself fun c => List.mem_of_mem_drop, hjoin 16 4, hjoin 12 4, hjoin 8 4, List.take_append_drop]

theorem parse_str (id : Uuid) : parse (str id) = some id := by
  have hvalue : Numerals.value 16 (Numerals.digits 16 32 id.value) = id.value :=
    Numerals.value_digits (id.lt.trans_eq (by norm_num))
  have hlength : (Numerals.digits 16 32 id.value).length = 32 := Numerals.length_digits
  have hdigit : ∀ d ∈ Numerals.digits 16 32 id.value, d < 16 :=
    fun d hd => Numerals.lt_of_mem_digits (by decide) hd
  unfold parse str
  generalize Numerals.digits 16 32 id.value = digits at *
  have hchars : ∀ c ∈ digits.map Nat.digitChar, c ≠ '-' := by
    intro c hc
    obtain ⟨d, hd, rfl⟩ := List.mem_map.mp hc
    exact digitChar_ne_hyphen d (hdigit d hd)
  rw [String.toList_ofList, filter_grouped hchars, mapM_digitValue hdigit, Option.bind_eq_bind,
    Option.bind_some, dif_pos ⟨hlength, hvalue ▸ id.lt⟩]
  obtain ⟨value, lt⟩ := id
  exact congrArg some ((Uuid.mk.injEq ..).mpr hvalue)

theorem length_str (id : Uuid) : (str id).length = 36 := by
  have hlength : (Numerals.digits 16 32 id.value).length = 32 := Numerals.length_digits
  unfold str grouped
  generalize Numerals.digits 16 32 id.value = digits at *
  rw [String.length_ofList]
  simp only [List.length_append, List.length_cons, List.length_take, List.length_drop, List.length_map]
  omega

end HexadecimalUuid

@[reducible]
def hexadecimalUuid : UuidText where
  str := HexadecimalUuid.str
  parse := HexadecimalUuid.parse
  parse_str := HexadecimalUuid.parse_str
  length_str := HexadecimalUuid.length_str

namespace JsonPayload

def kindText : CaseHistoryKind → String
  | .conversation => "conversation"
  | .activity => "activity"

def kindOf (text : Codes) : Option CaseHistoryKind :=
  if text = codes "conversation" then some .conversation
  else if text = codes "activity" then some .activity
  else none

theorem kindOf_kindText (kind : CaseHistoryKind) : kindOf (codes (kindText kind)) = some kind := by
  cases kind with
  | conversation => rfl
  | activity => rfl

def members (payload : HistoryCursorPayload) : List (Codes × Codes) := [
  (codes "kind", codes (kindText payload.kind)),
  (codes "case_id", codes payload.caseId),
  (codes "occurred_at", payload.occurredAt.isoformat),
  (codes "tie_breaker", codes payload.tieBreaker)]

def dumps (payload : HistoryCursorPayload) : List Nat :=
  Json.dumps (members payload)

def memberText (members : List (Codes × Json)) (key : String) : Option Codes :=
  (Json.get members (codes key)).bind fun value =>
    match value with
    | .str text => some text
    | _ => none

/--
The members of an object, checked field by field. There may be no others.
-/
def ofMembers (members : List (Codes × Json)) : Option HistoryCursorPayload := do
  let kind ← (memberText members "kind").bind kindOf
  let caseId ← (memberText members "case_id").bind fun text => (sendText text).toOption
  let timestamp ← (memberText members "occurred_at").bind ExtendedFormat.parse
  let tieBreaker ← (memberText members "tie_breaker").bind fun text => (sendText text).toOption
  if h : members.length = 4 ∧ timestamp.offset = some UtcOffset.zero
      ∧ (1 ≤ caseId.length ∧ caseId.length ≤ 64)
      ∧ (1 ≤ tieBreaker.length ∧ tieBreaker.length ≤ 128) then
    some { kind, caseId, occurredAt := timestamp.time, tieBreaker
           caseId_length := h.2.2.1, tieBreaker_length := h.2.2.2 }
  else
    none

def validate (bytes : List Nat) : Option HistoryCursorPayload :=
  match Json.loads 10 bytes with
  | .ok (.object members) => ofMembers members
  | _ => none

theorem members_areScalar (payload : HistoryCursorPayload) : Json.AreScalar (members payload) := by
  simp only [members, Json.AreScalar, List.forall_mem_cons]
  refine ⟨⟨fun c => Json.codes_isScalar, fun c => Json.codes_isScalar⟩, ?_⟩
  refine ⟨⟨fun c => Json.codes_isScalar, fun c => Json.codes_isScalar⟩, ?_⟩
  refine ⟨⟨fun c => Json.codes_isScalar, fun c hc => isScalar_of_ascii (isoformat_ascii hc)⟩, ?_⟩
  exact ⟨⟨fun c => Json.codes_isScalar, fun c => Json.codes_isScalar⟩, by simp⟩

theorem memberText_members (payload : HistoryCursorPayload)
    : memberText (Json.asTexts (members payload)) "kind" = some (codes (kindText payload.kind))
      ∧ memberText (Json.asTexts (members payload)) "case_id" = some (codes payload.caseId)
      ∧ memberText (Json.asTexts (members payload)) "occurred_at" = some payload.occurredAt.isoformat
      ∧ memberText (Json.asTexts (members payload)) "tie_breaker" = some (codes payload.tieBreaker) := by
  have hkind : codes "tie_breaker" ≠ codes "kind" ∧ codes "occurred_at" ≠ codes "kind"
      ∧ codes "case_id" ≠ codes "kind" := by decide
  have hcase : codes "tie_breaker" ≠ codes "case_id" ∧ codes "occurred_at" ≠ codes "case_id" := by decide
  have htime : codes "tie_breaker" ≠ codes "occurred_at" := by decide
  refine ⟨?_, ?_, ?_, ?_⟩
  . simp [memberText, Json.get, Json.asTexts, members, hkind]
  . simp [memberText, Json.get, Json.asTexts, members, hcase]
  . simp [memberText, Json.get, Json.asTexts, members, htime]
  . simp [memberText, Json.get, Json.asTexts, members]

theorem validate_dumps (payload : HistoryCursorPayload) : validate (dumps payload) = some payload := by
  obtain ⟨hkind, hcase, htime, htie⟩ := memberText_members payload
  unfold validate dumps
  rw [Json.loads_dumps (members_areScalar payload) (by decide)]
  dsimp only
  unfold ofMembers
  rw [hkind, hcase, htime, htie]
  simp only [Option.bind_eq_bind, Option.bind_some, kindOf_kindText, sendText_codes,
    ExtendedFormat.parse_isoformat, Except.toOption]
  rw [dif_pos ⟨rfl, trivial, payload.caseId_length, payload.tieBreaker_length⟩]

end JsonPayload

@[reducible]
def jsonPayload : HistoryPayloadJson where
  dumps := JsonPayload.dumps
  validate := JsonPayload.validate
  dumps_lt _ _ hc := Nat.lt_trans (Json.dumps_ascii hc).2 (by decide)
  validate_dumps := JsonPayload.validate_dumps

end CaseResolution
