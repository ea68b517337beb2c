import CaseResolution.Cursors.Impl.Codec

/-!
This module proves when the cursor codecs answer: every cursor they write is read back, and a text that is
not one of theirs is refused unless it nests too deeply or names a time that UTC does not have.
-/

namespace CaseResolution

open Unicode

namespace CursorCodecs

/--
The bytes a cursor was written for.
-/
def payloadBytes (cursor : String) : Option (List Nat) :=
  Base64.urlsafeB64decode (cursor.toList ++ Base64.padding cursor.toList)

variable [IsoFormat] [Interpreter]

/--
The cursor carries an object with a time under the key of the repository.
-/
structure Carries (codec : CursorCodecs) (cursor : String) (members : List (Codes × Json))
    (timestamp : Timestamp) : Prop where
  payload : ∃ bytes, payloadBytes cursor = some bytes
    ∧ Json.loads Interpreter.jsonDepth bytes = .ok (.object members)
  time : ∃ text, Json.get members (codes codec.timeKey) = some (.str text)
    ∧ IsoFormat.fromisoformat text = some timestamp

/--
The payload is not nested more deeply than the interpreter allows, and a time that comes with the expected
filter is one in UTC as well.
-/
structure Benign (codec : CursorCodecs) (cursor expectedFilter : String) : Prop where
  payload_nesting : ∀ bytes, payloadBytes cursor = some bytes
    → Json.loads Interpreter.jsonDepth bytes ≠ .error .recursionError
  id_nesting : ∀ members timestamp publicId, codec.Carries cursor members timestamp
    → Json.get members (codes "public_id") = some publicId → Interpreter.str publicId ≠ none
  filter_nesting : ∀ members timestamp publicId filter, codec.Carries cursor members timestamp
    → Json.get members (codes "public_id") = some publicId
    → Json.get members (codes "filter") = some filter → Interpreter.str filter ≠ none
  time_range : ∀ members timestamp publicId filter offset, codec.Carries cursor members timestamp
    → Json.get members (codes "public_id") = some publicId
    → Json.get members (codes "filter") = some filter
    → Interpreter.str filter = some (codes expectedFilter) → timestamp.offset = some offset
    → ¬ timestamp.time.OutOfRange offset

/--
The codec returns a cursor or raises the error of its repository.
-/
def Answers {α : Type} (codec : CursorCodecs) : Except CursorFailure α → Prop
  | .ok _ => True
  | .error failure => failure = .refused codec.invalid ∨ failure = .refused codec.mismatch

variable {codec : CursorCodecs} {cursor expectedFilter : String} {members : List (Codes × Json)}
  {timestamp : Timestamp}

theorem Carries.unique {members' : List (Codes × Json)} {timestamp' : Timestamp}
    (h : codec.Carries cursor members timestamp) (h' : codec.Carries cursor members' timestamp')
    : members' = members ∧ timestamp' = timestamp := by
  obtain ⟨bytes, hbytes, hloads⟩ := h.payload
  obtain ⟨bytes', hbytes', hloads'⟩ := h'.payload
  obtain ⟨text, hget, htext⟩ := h.time
  obtain ⟨text', hget', htext'⟩ := h'.time
  rw [hbytes] at hbytes'
  cases hbytes'
  rw [hloads] at hloads'
  cases hloads'
  rw [hget] at hget'
  cases hget'
  rw [htext] at htext'
  cases htext'
  exact ⟨rfl, rfl⟩

variable (codec expectedFilter) in
/--
A payload that is not nested too deeply carries a time or is refused.
-/
theorem carries_or_refused
    (hpayload : ∀ bytes, payloadBytes cursor = some bytes
      → Json.loads Interpreter.jsonDepth bytes ≠ .error .recursionError)
    : (∃ members timestamp, codec.Carries cursor members timestamp)
      ∨ codec.decodeCursor cursor expectedFilter = refuse codec.invalid := by
  unfold decodeCursor loadPayload
  rw [← payloadBytes]
  cases hbytes : payloadBytes cursor with
  | none => exact .inr rfl
  | some bytes =>
    cases hloads : Json.loads Interpreter.jsonDepth bytes with
    | error failure =>
      cases failure with
      | valueError =>
        right
        simp only [hloads]
        rfl
      | recursionError => exact absurd hloads (hpayload bytes hbytes)
    | ok payload =>
      cases payload with
      | object members =>
        have htime : (∃ text timestamp, Json.get members (codes codec.timeKey) = some (.str text)
            ∧ IsoFormat.fromisoformat text = some timestamp)
            ∨ codec.readTime members = refuse codec.invalid := by
          unfold readTime
          split
          . next text htext =>
            cases hiso : IsoFormat.fromisoformat text with
            | none => exact .inr rfl
            | some timestamp => exact .inl ⟨text, timestamp, htext, hiso⟩
          . exact .inr rfl
        rcases htime with ⟨text, timestamp, htext, hiso⟩ | hrefused
        . exact .inl ⟨members, timestamp, ⟨bytes, hbytes, hloads⟩, ⟨text, htext, hiso⟩⟩
        . right
          simp only [hloads]
          change (codec.readTime members >>= _) = _
          rw [hrefused]
          rfl
      | _ =>
        right
        simp only [hloads]
        rfl

theorem decodeCursor_of_carries (h : codec.Carries cursor members timestamp)
    : codec.decodeCursor cursor expectedFilter
      = (codec.memberText members "public_id" >>= fun publicId =>
          codec.memberText members "filter" >>= fun filterFingerprint =>
            codec.checkFilter expectedFilter timestamp publicId filterFingerprint) := by
  obtain ⟨bytes, hbytes, hloads⟩ := h.payload
  obtain ⟨text, hget, htext⟩ := h.time
  unfold decodeCursor loadPayload
  rw [← payloadBytes, hbytes]
  simp only [hloads]
  change (codec.readTime members >>= _) = _
  unfold readTime
  rw [hget]
  simp only [htext]
  rfl

omit [IsoFormat] in
variable (codec members) in
/--
A member is missing, has no text or is given as a text.
-/
theorem memberText_cases (key : String)
    : (Json.get members (codes key) = none ∧ codec.memberText members key = refuse codec.invalid)
      ∨ (∃ value, Json.get members (codes key) = some value ∧ Interpreter.str value = none
        ∧ codec.memberText members key = .error .recursionError)
      ∨ ∃ value text, Json.get members (codes key) = some value
        ∧ Interpreter.str value = some text ∧ codec.memberText members key = .ok text := by
  unfold memberText
  cases hget : Json.get members (codes key) with
  | none => exact .inl ⟨rfl, rfl⟩
  | some value =>
    cases hstr : Interpreter.str value with
    | none => exact .inr (.inl ⟨value, rfl, hstr, by simp only [hstr]⟩)
    | some text => exact .inr (.inr ⟨value, text, rfl, hstr, by simp only [hstr]⟩)

omit [IsoFormat] [Interpreter] in
theorem answers_checkFilter {publicId filterFingerprint : Codes}
    : codec.Answers (codec.checkFilter expectedFilter timestamp publicId filterFingerprint)
      ↔ ∀ offset, filterFingerprint = codes expectedFilter → timestamp.offset = some offset
        → ¬ timestamp.time.OutOfRange offset := by
  unfold checkFilter
  cases timestamp.offset with
  | none =>
    simp only [reduceCtorEq, false_implies, implies_true, iff_true]
    exact .inr rfl
  | some offset =>
    simp only [Option.some.injEq]
    split
    . next hfilter =>
      simp only [← CivilTime.toUtc_eq_none]
      cases hutc : timestamp.time.toUtc offset with
      | none =>
        constructor
        . rintro (h | h)
          . cases h
          . cases h
        . intro h
          exact absurd hutc (h offset hfilter rfl)
      | some utc =>
        constructor
        . intro _ other _ hother
          rw [← hother, hutc]
          exact Option.some_ne_none utc
        . exact fun _ => trivial
    . next hfilter =>
      constructor
      . exact fun _ _ heq => absurd heq hfilter
      . exact fun _ => .inr rfl

theorem decodeCursor_of_nesting {bytes : List Nat} (hbytes : payloadBytes cursor = some bytes)
    (hloads : Json.loads Interpreter.jsonDepth bytes = .error .recursionError)
    : codec.decodeCursor cursor expectedFilter = .error .recursionError := by
  unfold decodeCursor loadPayload
  rw [← payloadBytes, hbytes]
  simp only [hloads]
  rfl

/--
Behind a time the codec answers unless a member has no text or the filter lets a bad time through.
-/
theorem answers_of_carries (h : codec.Carries cursor members timestamp)
    : codec.Answers (codec.decodeCursor cursor expectedFilter)
      ↔ ∀ publicId, Json.get members (codes "public_id") = some publicId
        → Interpreter.str publicId ≠ none
          ∧ ∀ filter, Json.get members (codes "filter") = some filter
            → Interpreter.str filter ≠ none
              ∧ ∀ offset, Interpreter.str filter = some (codes expectedFilter)
                → timestamp.offset = some offset → ¬ timestamp.time.OutOfRange offset := by
  have hrecursion : ¬ codec.Answers
      (.error .recursionError : Except CursorFailure (CivilTime × Codes)) := by
    rintro (hfailure | hfailure)
    . cases hfailure
    . cases hfailure
  rw [decodeCursor_of_carries h]
  rcases codec.memberText_cases members "public_id" with
    ⟨hget, hid⟩ | ⟨value, hget, hstr, hid⟩ | ⟨value, publicId, hget, hstr, hid⟩
  . rw [hid, hget]
    simp only [reduceCtorEq, false_implies, implies_true, iff_true]
    exact .inl rfl
  . rw [hid, hget]
    simp only [Option.some.injEq, forall_eq', hstr, ne_eq, not_true_eq_false, false_and, iff_false]
    exact hrecursion
  . rw [hid, hget]
    simp only [Option.some.injEq, forall_eq', hstr, ne_eq, reduceCtorEq, not_false_eq_true, true_and]
    rcases codec.memberText_cases members "filter" with
      ⟨hget, hfilter⟩ | ⟨value, hget, hstr, hfilter⟩ | ⟨value, filter, hget, hstr, hfilter⟩
    . change codec.Answers (codec.memberText members "filter" >>= _) ↔ _
      rw [hfilter, hget]
      simp only [reduceCtorEq, false_implies, implies_true, iff_true]
      exact .inl rfl
    . change codec.Answers (codec.memberText members "filter" >>= _) ↔ _
      rw [hfilter, hget]
      simp only [Option.some.injEq, forall_eq', hstr, not_true_eq_false, false_and, iff_false]
      exact hrecursion
    . change codec.Answers (codec.memberText members "filter" >>= _) ↔ _
      rw [hfilter, hget]
      simp only [Option.some.injEq, forall_eq', hstr, reduceCtorEq, not_false_eq_true, true_and]
      exact answers_checkFilter

/--
The codec answers exactly where the payload is benign.
-/
theorem answers_iff
    : codec.Answers (codec.decodeCursor cursor expectedFilter) ↔ codec.Benign cursor expectedFilter := by
  constructor
  . intro hanswers
    have hcarries : ∀ members timestamp, codec.Carries cursor members timestamp → _ :=
      fun members timestamp h => (answers_of_carries h).mp hanswers
    exact {
      payload_nesting := by
        intro bytes hbytes hloads
        rw [decodeCursor_of_nesting hbytes hloads] at hanswers
        cases hanswers with
        | inl h => cases h
        | inr h => cases h
      id_nesting := fun members timestamp publicId h hid => (hcarries _ _ h publicId hid).1
      filter_nesting := fun members timestamp publicId filter h hid hfilter =>
        ((hcarries _ _ h publicId hid).2 filter hfilter).1
      time_range := fun members timestamp publicId filter offset h hid hfilter =>
        ((hcarries _ _ h publicId hid).2 filter hfilter).2 offset }
  . intro h
    cases codec.carries_or_refused expectedFilter h.payload_nesting with
    | inr hrefused =>
      rw [hrefused]
      exact .inl rfl
    | inl hcarries =>
      obtain ⟨members, timestamp, hcarries⟩ := hcarries
      rw [answers_of_carries hcarries]
      intro publicId hid
      refine ⟨h.id_nesting _ _ _ hcarries hid, fun filter hfilter => ?_⟩
      refine ⟨h.filter_nesting _ _ _ _ hcarries hid hfilter, fun offset htext hoffset => ?_⟩
      exact h.time_range _ _ _ _ _ hcarries hid hfilter htext hoffset

omit [IsoFormat] in
theorem memberText_of_get {key : String} {text : Codes}
    (h : Json.get members (codes key) = some (.str text)) : codec.memberText members key = .ok text := by
  unfold memberText
  rw [h]
  simp only [Interpreter.str_text]

theorem decodeCursor_eq_ok {publicId : Codes} {offset : UtcOffset} {utc : CivilTime}
    (h : codec.Carries cursor members timestamp)
    (hid : Json.get members (codes "public_id") = some (.str publicId))
    (hfilter : Json.get members (codes "filter") = some (.str (codes expectedFilter)))
    (hoffset : timestamp.offset = some offset) (hutc : timestamp.time.toUtc offset = some utc)
    : codec.decodeCursor cursor expectedFilter = .ok (utc, publicId) := by
  have hcheck : codec.checkFilter expectedFilter timestamp publicId (codes expectedFilter)
      = .ok (utc, publicId) := by
    unfold checkFilter
    rw [hoffset]
    simp only [if_pos, hutc]
  rw [decodeCursor_of_carries h, memberText_of_get hid]
  change (codec.memberText members "filter" >>= _) = _
  rw [memberText_of_get hfilter]
  exact hcheck

end CursorCodecs

section RoundTrip

theorem isScalar_of_ascii {c : Nat} (h : c < 0x80) : Json.IsScalar c := by
  unfold Json.IsScalar isHighSurrogate isLowSurrogate
  simp only [decide_eq_false_iff_not]
  omega

theorem decimal_ascii {width n c : Nat} (h : c ∈ decimal width n) : c < 0x80 := by
  obtain ⟨digit, hdigit, rfl⟩ := List.mem_map.mp h
  have hlt : digit < 10 := Numerals.lt_of_mem_digits (by decide) hdigit
  have hzero : '0'.toNat = 48 := rfl
  omega

theorem isoformat_ascii {t : CivilTime} {c : Nat} (h : c ∈ t.isoformat) : c < 0x80 := by
  have hfraction : ∀ ticks, ∀ c ∈ (if ticks = 0 then [] else ['.'.toNat] ++ decimal 6 ticks), c < 0x80 := by
    intro ticks c hc
    split at hc
    . cases hc
    . cases List.mem_append.mp hc with
      | inl hc => rw [List.mem_singleton.mp hc]; decide
      | inr hc => exact decimal_ascii hc
  have hzone : ∀ c ∈ codes "+00:00", c < 0x80 := by decide
  have hmarks : '-'.toNat < 0x80 ∧ 'T'.toNat < 0x80 ∧ ':'.toNat < 0x80 := by decide
  unfold CivilTime.isoformat at h
  simp only [List.mem_append, List.mem_singleton] at h
  rcases h with ((((((((((((h | rfl) | h) | rfl) | h) | rfl) | h) | rfl) | h) | rfl) | h) | h) | h)
  . exact decimal_ascii h
  . exact hmarks.1
  . exact decimal_ascii h
  . exact hmarks.1
  . exact decimal_ascii h
  . exact hmarks.2.1
  . exact decimal_ascii h
  . exact hmarks.2.2
  . exact decimal_ascii h
  . exact hmarks.2.2
  . exact decimal_ascii h
  . exact hfraction _ c h
  . exact hzone c h

theorem CursorCodecs.payload_areScalar {codec : CursorCodecs} {utc : CivilTime}
    {publicId filterFingerprint : String}
    : Json.AreScalar (codec.payload utc publicId filterFingerprint) := by
  simp only [payload, Json.AreScalar, List.forall_mem_cons]
  refine ⟨⟨fun c => Json.codes_isScalar, fun c hc => isScalar_of_ascii (isoformat_ascii hc)⟩, ?_⟩
  refine ⟨⟨fun c => Json.codes_isScalar, fun c => Json.codes_isScalar⟩, ?_⟩
  exact ⟨⟨fun c => Json.codes_isScalar, fun c => Json.codes_isScalar⟩, by simp⟩

variable [IsoFormat] [Interpreter] {list : CursorList} {time utc : CivilTime} {offset : UtcOffset}
  {publicId filterFingerprint cursor : String}

omit [IsoFormat] [Interpreter] in
variable (list) in
theorem CursorList.timeKey_ne
    : codes "filter" ≠ codes list.codec.timeKey ∧ codes "public_id" ≠ codes list.codec.timeKey := by
  cases list with
  | action => decide
  | review => decide
  | connection => decide
  | notification => decide

omit [IsoFormat] [Interpreter] in
/--
The members of a written payload under the three keys.
-/
theorem CursorList.get_payload
    : Json.get (Json.asTexts (list.codec.payload utc publicId filterFingerprint))
          (codes list.codec.timeKey) = some (.str utc.isoformat)
        ∧ Json.get (Json.asTexts (list.codec.payload utc publicId filterFingerprint))
          (codes "public_id") = some (.str (codes publicId))
        ∧ Json.get (Json.asTexts (list.codec.payload utc publicId filterFingerprint))
          (codes "filter") = some (.str (codes filterFingerprint)) := by
  have hkeys : codes "filter" ≠ codes "public_id" := by decide
  obtain ⟨hfilter, hid⟩ := CursorList.timeKey_ne list
  refine ⟨?_, ?_, ?_⟩
  . simp [Json.get, Json.asTexts, CursorCodecs.payload, hfilter, hid]
  . simp [Json.get, Json.asTexts, CursorCodecs.payload, hkeys]
  . simp [Json.get, Json.asTexts, CursorCodecs.payload]

/--
A written cursor carries the payload it was written for.
-/
theorem CursorList.carries_encode
    (hcursor : String.ofList ((Base64.urlsafeB64encode
      (Json.dumps (list.codec.payload utc publicId filterFingerprint))).rdropWhile (· = '=')) = cursor)
    : list.codec.Carries cursor (Json.asTexts (list.codec.payload utc publicId filterFingerprint))
        { time := utc, offset := some UtcOffset.zero } where
  payload := by
    refine ⟨_, ?_, Json.loads_dumps CursorCodecs.payload_areScalar Interpreter.jsonDepth_pos⟩
    unfold CursorCodecs.payloadBytes
    rw [← hcursor, String.toList_ofList]
    apply Base64.decode_encode
    intro c hc
    exact Nat.lt_trans (Json.dumps_ascii hc).2 (by decide)
  time := ⟨utc.isoformat, CursorList.get_payload.1, IsoFormat.fromisoformat_isoformat utc⟩

/--
A cursor is read back as the time in UTC and the id it was written for.
-/
theorem CursorList.decode_encode (hutc : time.toUtc offset = some utc)
    (hcursor : list.codec.encodeCursor time offset publicId filterFingerprint = some cursor)
    : list.codec.decodeCursor cursor filterFingerprint = .ok (utc, codes publicId) := by
  unfold CursorCodecs.encodeCursor at hcursor
  rw [hutc] at hcursor
  apply CursorCodecs.decodeCursor_eq_ok (carries_encode (Option.some.inj hcursor))
    CursorList.get_payload.2.1 CursorList.get_payload.2.2 rfl
  exact CivilTime.toUtc_zero utc

end RoundTrip

/--
Cursors are read back under their own filter as the values they were written for, and a text is answered
with a cursor or the error of the repository exactly where its payload is benign.
-/
theorem CursorList.codec_answers_iff_benign [IsoFormat] [Interpreter] (list : CursorList)
    : (∀ time offset publicId filterFingerprint cursor,
          list.codec.encodeCursor time offset publicId filterFingerprint = some cursor →
          ∃ utc, time.toUtc offset = some utc
            ∧ list.codec.decodeCursor cursor filterFingerprint = .ok (utc, codes publicId))
        ∧ ∀ cursor expectedFilter,
          list.codec.Answers (list.codec.decodeCursor cursor expectedFilter)
            ↔ list.codec.Benign cursor expectedFilter := by
  constructor
  . intro time offset publicId filterFingerprint cursor hcursor
    cases hutc : time.toUtc offset with
    | none =>
      unfold CursorCodecs.encodeCursor at hcursor
      rw [hutc] at hcursor
      cases hcursor
    | some utc => exact ⟨utc, rfl, decode_encode hutc hcursor⟩
  . intro cursor expectedFilter
    exact CursorCodecs.answers_iff

namespace Sample

/--
An interpreter that opens ten containers and gives texts for texts only.
-/
@[reducible]
def interpreter : Interpreter where
  jsonDepth := 10
  jsonDepth_pos := by decide
  str
    | .str text => some text
    | _ => none
  str_text _ := rfl

/--
The payload `{"created_at":"0001-01-01T00:00:00+01:00","public_id":"x","filter":"unread:false"}`.
-/
def firstDayCursor : String :=
  "eyJjcmVhdGVkX2F0IjoiMDAwMS0wMS0wMVQwMDowMDowMCswMTowMCIsInB1YmxpY19pZCI6IngiLCJmaWx0ZXIiOiJ1bnJlYWQ6ZmFsc2UifQ"

attribute [local instance] interpreter extendedFormat

/--
Half past noon, two hours ahead of UTC.
-/
def noon : CivilTime where
  date := {
    year := 2026
    month := 3
    day := 9
    year_range := by decide
    month_range := by decide
    day_range := by decide }
  ticks := 45000000000
  ticks_lt := by decide

def twoHours : UtcOffset where
  ticks := 7200000000
  ticks_gt := by decide
  ticks_lt := by decide

/--
The cursor of a notification that was created then.
-/
theorem codec_answers_iff_benign_notification
    : ∃ utc, noon.toUtc twoHours = some utc
        ∧ CursorList.notification.codec.decodeCursor
            "eyJjcmVhdGVkX2F0IjoiMjAyNi0wMy0wOVQxMDozMDowMCswMDowMCIsInB1YmxpY19pZCI6Ik5PVC0xIiwiZmlsdGVyIjoidW5yZWFkOmZhbHNlIn0"
            "unread:false"
          = .ok (utc, codes "NOT-1") := by
  apply (CursorList.codec_answers_iff_benign .notification).1
  decide +kernel

/--
The unread filter of the notifications is known to their readers, and midnight of the first day of the
calendar is not a time in UTC where it is an hour ahead.
-/
theorem first_day_is_not_answered
    : ¬ CursorList.notification.codec.Answers
        (CursorList.notification.codec.decodeCursor firstDayCursor "unread:false") := by
  have hdecode : CursorList.notification.codec.decodeCursor firstDayCursor "unread:false"
      = .error .overflowError := by
    decide +kernel
  rw [hdecode]
  rintro (h | h)
  . cases h
  . cases h

end Sample

end CaseResolution
