import CaseResolution.Lib.Numerals
import CaseResolution.Lib.Unicode

/-!
This module contains JSON documents: their values, the reader that goes through a text character by
character with the containers that are still open, and the writer for objects of texts.
-/

open Unicode

inductive Json where
  | null
  | bool (value : Bool)
  | number (literal : Codes)
  | str (text : Codes)
  | array (items : List Json)
  | object (members : List (Codes × Json))

namespace Json

/--
Why a text is not read: it is not a document, or its containers are nested too deeply.
-/
inductive Failure where
  | valueError
  | recursionError
deriving DecidableEq

/--
A container that is still open, with what was read of it.
-/
inductive Frame where
  | array (items : List Json)
  | object (members : List (Codes × Json)) (key : Codes)

/--
Where the reader stands in an escape sequence. After the first of two surrogates the second may follow.
-/
inductive Escape where
  | plain
  | started
  | hex (digits : List Nat)
  | high (unit : Nat)
  | highStarted (unit : Nat)
  | highHex (unit : Nat) (digits : List Nat)

/--
Where the reader stands in a number.
-/
inductive NumberPhase where
  | sign
  | zero
  | integer
  | point
  | fraction
  | exponent
  | exponentSign
  | exponentDigits

/--
What the reader expects next.
-/
inductive Mode where
  | value
  | firstItem
  | firstKey
  | key
  | colon
  | after
  | done (value : Json)
  | text (isKey : Bool) (read : Codes) (escape : Escape)
  | number (read : Codes) (phase : NumberPhase)
  | word (rest : Codes) (value : Json)

structure State where
  stack : List Frame
  mode : Mode

def State.start : State where
  stack := []
  mode := .value

def isSpace (c : Nat) : Bool :=
  c = ' '.toNat ∨ c = '\t'.toNat ∨ c = '\n'.toNat ∨ c = '\r'.toNat

def isDigit (c : Nat) : Bool :=
  '0'.toNat ≤ c ∧ c ≤ '9'.toNat

def hexValue (c : Nat) : Option Nat :=
  if '0'.toNat ≤ c ∧ c ≤ '9'.toNat then some (c - '0'.toNat)
  else if 'a'.toNat ≤ c ∧ c ≤ 'f'.toNat then some (c - 'a'.toNat + 10)
  else if 'A'.toNat ≤ c ∧ c ≤ 'F'.toNat then some (c - 'A'.toNat + 10)
  else none

/--
A value is complete: it is the document, or it goes into the innermost container.
-/
def deliver (stack : List Frame) (value : Json) : State :=
  match stack with
  | [] => { stack, mode := .done value }
  | .array items :: rest => { stack := .array (items ++ [value]) :: rest, mode := .after }
  | .object members key :: rest =>
    { stack := .object (members ++ [(key, value)]) key :: rest, mode := .after }

/--
A container may only be opened while fewer than `depth` are open.
-/
def openContainer (depth : Nat) (stack : List Frame) (frame : Frame) (mode : Mode)
    : Except Failure State :=
  if stack.length < depth then
    .ok { stack := frame :: stack, mode }
  else
    .error .recursionError

def startValue (depth : Nat) (stack : List Frame) (c : Nat) : Except Failure State :=
  if isSpace c then .ok { stack, mode := .value }
  else if c = '"'.toNat then .ok { stack, mode := .text false [] .plain }
  else if c = '{'.toNat then openContainer depth stack (.object [] []) .firstKey
  else if c = '['.toNat then openContainer depth stack (.array []) .firstItem
  else if c = 'n'.toNat then .ok { stack, mode := .word (codes "ull") .null }
  else if c = 't'.toNat then .ok { stack, mode := .word (codes "rue") (.bool true) }
  else if c = 'f'.toNat then .ok { stack, mode := .word (codes "alse") (.bool false) }
  else if c = 'N'.toNat then .ok { stack, mode := .word (codes "aN") (.number (codes "NaN")) }
  else if c = 'I'.toNat then
    .ok { stack, mode := .word (codes "nfinity") (.number (codes "Infinity")) }
  else if c = '-'.toNat then .ok { stack, mode := .number [c] .sign }
  else if c = '0'.toNat then .ok { stack, mode := .number [c] .zero }
  else if isDigit c then .ok { stack, mode := .number [c] .integer }
  else .error .valueError

def startKey (stack : List Frame) (mode : Mode) (c : Nat) : Except Failure State :=
  if isSpace c then .ok { stack, mode }
  else if c = '"'.toNat then .ok { stack, mode := .text true [] .plain }
  else .error .valueError

/--
Behind a value stands the next one, the end of its container, or white space.
-/
def afterValue (stack : List Frame) (c : Nat) : Except Failure State :=
  if isSpace c then
    .ok { stack, mode := .after }
  else
    match stack with
    | .array items :: rest =>
      if c = ','.toNat then .ok { stack, mode := .value }
      else if c = ']'.toNat then .ok (deliver rest (.array items))
      else .error .valueError
    | .object members _ :: rest =>
      if c = ','.toNat then .ok { stack, mode := .key }
      else if c = '}'.toNat then .ok (deliver rest (.object members))
      else .error .valueError
    | [] => .error .valueError

/--
The text is complete: it is a value or the key of the next member.
-/
def endText (stack : List Frame) (isKey : Bool) (read : Codes) : Except Failure State :=
  if isKey then
    match stack with
    | .object members _ :: rest => .ok { stack := .object members read :: rest, mode := .colon }
    | _ => .error .valueError
  else
    .ok (deliver stack (.str read))

def plainChar (stack : List Frame) (isKey : Bool) (read : Codes) (c : Nat) : Except Failure State :=
  if c = '"'.toNat then endText stack isKey read
  else if c = '\\'.toNat then .ok { stack, mode := .text isKey read .started }
  else if c < 0x20 then .error .valueError
  else .ok { stack, mode := .text isKey (read ++ [c]) .plain }

/--
The character an escape sequence of two characters stands for.
-/
def escaped (c : Nat) : Option Nat :=
  if c = '"'.toNat ∨ c = '\\'.toNat ∨ c = '/'.toNat then some c
  else if c = 'b'.toNat then some 0x08
  else if c = 'f'.toNat then some 0x0C
  else if c = 'n'.toNat then some 0x0A
  else if c = 'r'.toNat then some 0x0D
  else if c = 't'.toNat then some 0x09
  else none

def endHex (stack : List Frame) (isKey : Bool) (read : Codes) (unit : Nat) : State :=
  if isHighSurrogate unit then
    { stack, mode := .text isKey read (.high unit) }
  else
    { stack, mode := .text isKey (read ++ [unit]) .plain }

def textChar (stack : List Frame) (isKey : Bool) (read : Codes) (escape : Escape) (c : Nat)
    : Except Failure State :=
  match escape with
  | .plain => plainChar stack isKey read c
  | .started =>
    if c = 'u'.toNat then
      .ok { stack, mode := .text isKey read (.hex []) }
    else
      match escaped c with
      | some char => .ok { stack, mode := .text isKey (read ++ [char]) .plain }
      | none => .error .valueError
  | .hex digits =>
    match hexValue c with
    | some digit =>
      if digits.length = 3 then
        .ok (endHex stack isKey read (Numerals.value 16 (digits ++ [digit])))
      else
        .ok { stack, mode := .text isKey read (.hex (digits ++ [digit])) }
    | none => .error .valueError
  | .high unit =>
    if c = '\\'.toNat then
      .ok { stack, mode := .text isKey read (.highStarted unit) }
    else
      plainChar stack isKey (read ++ [unit]) c
  | .highStarted unit =>
    if c = 'u'.toNat then
      .ok { stack, mode := .text isKey read (.highHex unit []) }
    else
      match escaped c with
      | some char => .ok { stack, mode := .text isKey (read ++ [unit, char]) .plain }
      | none => .error .valueError
  | .highHex unit digits =>
    match hexValue c with
    | some digit =>
      if digits.length = 3 then
        let low := Numerals.value 16 (digits ++ [digit])
        if isLowSurrogate low then
          .ok { stack, mode := .text isKey (read ++ [joinSurrogates unit low]) .plain }
        else
          .ok (endHex stack isKey (read ++ [unit]) low)
      else
        .ok { stack, mode := .text isKey read (.highHex unit (digits ++ [digit])) }
    | none => .error .valueError

def NumberPhase.next (phase : NumberPhase) (c : Nat) : Option NumberPhase :=
  match phase with
  | .sign => if c = '0'.toNat then some .zero else if isDigit c then some .integer else none
  | .zero =>
    if c = '.'.toNat then some .point
    else if c = 'e'.toNat ∨ c = 'E'.toNat then some .exponent
    else none
  | .integer =>
    if isDigit c then some .integer
    else if c = '.'.toNat then some .point
    else if c = 'e'.toNat ∨ c = 'E'.toNat then some .exponent
    else none
  | .point => if isDigit c then some .fraction else none
  | .fraction =>
    if isDigit c then some .fraction
    else if c = 'e'.toNat ∨ c = 'E'.toNat then some .exponent
    else none
  | .exponent =>
    if isDigit c then some .exponentDigits
    else if c = '+'.toNat ∨ c = '-'.toNat then some .exponentSign
    else none
  | .exponentSign => if isDigit c then some .exponentDigits else none
  | .exponentDigits => if isDigit c then some .exponentDigits else none

/--
A number may end here. Integers of more than 4300 digits are refused.
-/
def NumberPhase.ends (phase : NumberPhase) (read : Codes) : Bool :=
  match phase with
  | .zero | .integer => (read.filter isDigit).length ≤ 4300
  | .fraction | .exponentDigits => true
  | _ => false

def numberChar (stack : List Frame) (read : Codes) (phase : NumberPhase) (c : Nat)
    : Except Failure State :=
  match phase.next c with
  | some next => .ok { stack, mode := .number (read ++ [c]) next }
  | none =>
    if phase.ends read then
      let delivered := deliver stack (.number read)
      match delivered.mode with
      | .done _ => if isSpace c then .ok delivered else .error .valueError
      | _ => afterValue delivered.stack c
    else
      match phase with
      | .sign =>
        if c = 'I'.toNat then
          .ok { stack, mode := .word (codes "nfinity") (.number (codes "-Infinity")) }
        else
          .error .valueError
      | _ => .error .valueError

def step (depth : Nat) (state : State) (c : Nat) : Except Failure State :=
  let stack := state.stack
  match state.mode with
  | .value => startValue depth stack c
  | .firstItem =>
    if isSpace c then
      .ok state
    else if c = ']'.toNat then
      match stack with
      | .array items :: rest => .ok (deliver rest (.array items))
      | _ => .error .valueError
    else
      startValue depth stack c
  | .firstKey =>
    if c = '}'.toNat then
      match stack with
      | .object members _ :: rest => .ok (deliver rest (.object members))
      | _ => .error .valueError
    else
      startKey stack .firstKey c
  | .key => startKey stack .key c
  | .colon =>
    if isSpace c then .ok state
    else if c = ':'.toNat then .ok { stack, mode := .value }
    else .error .valueError
  | .after => afterValue stack c
  | .done _ => if isSpace c then .ok state else .error .valueError
  | .text isKey read escape => textChar stack isKey read escape c
  | .number read phase => numberChar stack read phase c
  | .word rest value =>
    match rest with
    | [] => .error .valueError
    | [last] => if c = last then .ok (deliver stack value) else .error .valueError
    | next :: rest =>
      if c = next then .ok { stack, mode := .word rest value } else .error .valueError

/--
The value of a document that was read to its end.
-/
def State.finish (state : State) : Except Failure Json :=
  match state.mode with
  | .done value => .ok value
  | .number read phase =>
    if state.stack.isEmpty ∧ phase.ends read then .ok (.number read) else .error .valueError
  | _ => .error .valueError

/--
The value of a text that opens at most `depth` containers within each other.
-/
def loadsText (depth : Nat) (text : Codes) : Except Failure Json := do
  let state ← text.foldlM (step depth) State.start
  state.finish

/--
`json.loads` of bytes.
-/
def loads (depth : Nat) (bytes : List Nat) : Except Failure Json :=
  match decode bytes with
  | some text => loadsText depth text
  | none => .error .valueError

/--
The member of an object. Of equal keys the last one counts.
-/
def get (members : List (Codes × Json)) (key : Codes) : Option Json :=
  (members.reverse.find? fun member => member.1 = key).map Prod.snd

def hexDigit (n : Nat) : Nat :=
  if n < 10 then '0'.toNat + n else 'a'.toNat + (n - 10)

def hex4 (unit : Nat) : Codes :=
  (Numerals.digits 16 4 unit).map hexDigit

/--
How `json.dumps` writes a character: printable ASCII as it is, anything else as an escape sequence.
-/
def escapeChar (c : Nat) : Codes :=
  if c = '"'.toNat ∨ c = '\\'.toNat then ['\\'.toNat, c]
  else if ' '.toNat ≤ c ∧ c ≤ '~'.toNat then [c]
  else if c = 0x08 then codes "\\b"
  else if c = 0x0C then codes "\\f"
  else if c = 0x0A then codes "\\n"
  else if c = 0x0D then codes "\\r"
  else if c = 0x09 then codes "\\t"
  else if c < 0x10000 then codes "\\u" ++ hex4 c
  else
    codes "\\u" ++ hex4 (0xD800 + (c - 0x10000) / 0x400)
      ++ codes "\\u" ++ hex4 (0xDC00 + (c - 0x10000) % 0x400)

def dumpsText (text : Codes) : Codes :=
  ['"'.toNat] ++ text.flatMap escapeChar ++ ['"'.toNat]

/--
`json.dumps` of an object of texts without blanks between its tokens.
-/
def dumps (members : List (Codes × Codes)) : Codes :=
  ['{'.toNat]
    ++ [','.toNat].intercalate (members.map fun (key, text) =>
      dumpsText key ++ [':'.toNat] ++ dumpsText text)
    ++ ['}'.toNat]

section RoundTrip

variable {depth : Nat} {stack : List Frame} {isKey : Bool} {read : Codes}

theorem hexValue_hexDigit : ∀ n < 16, hexValue (hexDigit n) = some n := by
  decide

/--
The characters of a text that Python can hold and a text of the database does hold.
-/
def IsScalar (c : Nat) : Prop :=
  c < 0x110000 ∧ isHighSurrogate c = false ∧ isLowSurrogate c = false

theorem digits_four (n : Nat)
    : Numerals.digits 16 4 n = [n / 16 / 16 / 16 % 16, n / 16 / 16 % 16, n / 16 % 16, n % 16] := rfl

theorem run_hex {unit : Nat} (h : unit < 0x10000)
    : (hex4 unit).foldlM (step depth) { stack, mode := .text isKey read (.hex []) }
      = .ok (endHex stack isKey read unit) := by
  have hvalue : Numerals.value 16 (Numerals.digits 16 4 unit) = unit := Numerals.value_digits (by omega)
  have hlt : ∀ n, hexValue (hexDigit (n % 16)) = some (n % 16) :=
    fun n => hexValue_hexDigit _ (Nat.mod_lt n (by decide))
  unfold hex4
  rw [digits_four] at hvalue ⊢
  simp [List.foldlM_cons, step, textChar, hlt, bind, Except.bind, pure, Except.pure, hvalue]

theorem run_highHex {high low : Nat} (h : low < 0x10000) (hlow : isLowSurrogate low = true)
    : (hex4 low).foldlM (step depth) { stack, mode := .text isKey read (.highHex high []) }
      = .ok { stack, mode := .text isKey (read ++ [joinSurrogates high low]) .plain } := by
  have hvalue : Numerals.value 16 (Numerals.digits 16 4 low) = low := Numerals.value_digits (by omega)
  have hlt : ∀ n, hexValue (hexDigit (n % 16)) = some (n % 16) :=
    fun n => hexValue_hexDigit _ (Nat.mod_lt n (by decide))
  unfold hex4
  rw [digits_four] at hvalue ⊢
  simp [List.foldlM_cons, step, textChar, hlt, bind, Except.bind, pure, Except.pure, hvalue, hlow]

/--
Running the reader over one text and then over another.
-/
theorem run_append {first second : Codes} {s t : State} (h : first.foldlM (step depth) s = .ok t)
    : (first ++ second).foldlM (step depth) s = second.foldlM (step depth) t := by
  rw [List.foldlM_append, h]
  rfl

theorem run_unicode
    : (codes "\\u").foldlM (step depth) { stack, mode := .text isKey read .plain }
      = .ok { stack, mode := .text isKey read (.hex []) } := rfl

theorem run_highUnicode {high : Nat}
    : (codes "\\u").foldlM (step depth) { stack, mode := .text isKey read (.high high) }
      = .ok { stack, mode := .text isKey read (.highHex high []) } := rfl

/--
What is written for a character is read as that character.
-/
theorem run_escapeChar {c : Nat} (h : IsScalar c)
    : (escapeChar c).foldlM (step depth) { stack, mode := .text isKey read .plain }
      = .ok { stack, mode := .text isKey (read ++ [c]) .plain } := by
  obtain ⟨hbound, hhigh, hlow⟩ := h
  unfold escapeChar
  split
  . next hquote =>
    rcases hquote with rfl | rfl
    . rfl
    . rfl
  . next hquote =>
    split
    . next hprintable =>
      simp only [not_or] at hquote
      have hcontrol : ¬ c < 0x20 := Nat.not_lt.mpr hprintable.1
      simp only [List.foldlM_cons, List.foldlM_nil, step, textChar, plainChar, if_neg hquote.1,
        if_neg hquote.2, if_neg hcontrol]
      rfl
    . split
      . next hc => rw [hc]; rfl
      . split
        . next hc => rw [hc]; rfl
        . split
          . next hc => rw [hc]; rfl
          . split
            . next hc => rw [hc]; rfl
            . split
              . next hc => rw [hc]; rfl
              . split
                . next hbasic =>
                  rw [run_append run_unicode, run_hex hbasic]
                  unfold endHex
                  rw [hhigh]
                  rfl
                . next hbasic =>
                  -- a pair of surrogates
                  have hfirst : isHighSurrogate (0xD800 + (c - 0x10000) / 0x400) = true := by
                    unfold isHighSurrogate
                    simp only [decide_eq_true_eq]
                    omega
                  have hsecond : isLowSurrogate (0xDC00 + (c - 0x10000) % 0x400) = true := by
                    unfold isLowSurrogate
                    simp only [decide_eq_true_eq]
                    omega
                  have hjoin : joinSurrogates (0xD800 + (c - 0x10000) / 0x400)
                      (0xDC00 + (c - 0x10000) % 0x400) = c := by
                    unfold joinSurrogates
                    omega
                  rw [List.append_assoc, List.append_assoc, run_append run_unicode,
                    run_append (run_hex (by omega))]
                  unfold endHex
                  rw [if_pos hfirst, run_append run_highUnicode, run_highHex (by omega) hsecond, hjoin]

theorem run_flatMap {text : Codes} (h : ∀ c ∈ text, IsScalar c)
    : (text.flatMap escapeChar).foldlM (step depth) { stack, mode := .text isKey read .plain }
      = .ok { stack, mode := .text isKey (read ++ text) .plain } := by
  induction text generalizing read with
  | nil =>
    rw [List.append_nil]
    rfl
  | cons c text ih =>
    rw [List.forall_mem_cons] at h
    rw [List.flatMap_cons, run_append (run_escapeChar h.1), ih h.2, List.append_assoc]
    rfl

/--
A text in quotes is read as the value it was written for, or as a key.
-/
theorem run_dumpsText {text : Codes} (h : ∀ c ∈ text, IsScalar c)
    : (dumpsText text).foldlM (step depth) { stack, mode := .value }
      = .ok (deliver stack (.str text)) := by
  unfold dumpsText
  have hopen : (['"'.toNat] : Codes).foldlM (step depth) { stack, mode := .value }
      = .ok { stack, mode := .text false [] .plain } := rfl
  rw [List.append_assoc, run_append hopen, run_append (run_flatMap h)]
  rfl

variable {members : List (Codes × Json)} {old : Codes} {mode : Mode}

theorem run_key {key : Codes} (h : ∀ c ∈ key, IsScalar c) (hmode : mode = .firstKey ∨ mode = .key)
    : (dumpsText key).foldlM (step depth) { stack := .object members old :: stack, mode }
      = .ok { stack := .object members key :: stack, mode := .colon } := by
  unfold dumpsText
  have hopen : (['"'.toNat] : Codes).foldlM (step depth) { stack := .object members old :: stack, mode }
      = .ok { stack := .object members old :: stack, mode := .text true [] .plain } := by
    cases hmode with
    | inl hmode => subst hmode; rfl
    | inr hmode => subst hmode; rfl
  rw [List.append_assoc, run_append hopen, run_append (run_flatMap h)]
  rfl

theorem run_member {key text : Codes} (hkey : ∀ c ∈ key, IsScalar c) (htext : ∀ c ∈ text, IsScalar c)
    (hmode : mode = .firstKey ∨ mode = .key)
    : (dumpsText key ++ [':'.toNat] ++ dumpsText text).foldlM (step depth)
        { stack := .object members old :: stack, mode }
      = .ok { stack := .object (members ++ [(key, .str text)]) key :: stack, mode := .after } := by
  have hcolon : ([':'.toNat] : Codes).foldlM (step depth)
      { stack := .object members key :: stack, mode := .colon }
      = .ok { stack := .object members key :: stack, mode := .value } := rfl
  rw [List.append_assoc, run_append (run_key hkey hmode), run_append hcolon, run_dumpsText htext]
  rfl

/--
Texts that the database holds under texts that it holds.
-/
def AreScalar (entries : List (Codes × Codes)) : Prop :=
  ∀ entry ∈ entries, (∀ c ∈ entry.1, IsScalar c) ∧ ∀ c ∈ entry.2, IsScalar c

def asTexts (entries : List (Codes × Codes)) : List (Codes × Json) :=
  entries.map fun (key, text) => (key, .str text)

theorem run_members {entries : List (Codes × Codes)} (h : AreScalar entries) (hne : entries ≠ [])
    (hmode : mode = .firstKey ∨ mode = .key)
    : ([','.toNat].intercalate (entries.map fun (key, text) =>
          dumpsText key ++ [':'.toNat] ++ dumpsText text)
        ++ ['}'.toNat]).foldlM (step depth) { stack := .object members old :: stack, mode }
      = .ok (deliver stack (.object (members ++ asTexts entries))) := by
  induction entries generalizing members old mode with
  | nil => exact absurd rfl hne
  | cons entry entries ih =>
    obtain ⟨key, text⟩ := entry
    have hentry := h (key, text) List.mem_cons_self
    have hfirst : (dumpsText key ++ [':'.toNat] ++ dumpsText text).foldlM (step depth)
        { stack := .object members old :: stack, mode }
        = .ok { stack := .object (members ++ [(key, .str text)]) key :: stack, mode := .after } :=
      run_member hentry.1 hentry.2 hmode
    by_cases hnil : entries = []
    . subst hnil
      rw [List.map_singleton, List.intercalate_singleton, run_append hfirst]
      rfl
    . have hentries : AreScalar entries := fun other hother => h other (List.mem_cons_of_mem _ hother)
      have hcomma : ([','.toNat] : Codes).foldlM (step depth)
          { stack := .object (members ++ [(key, .str text)]) key :: stack, mode := .after }
          = .ok { stack := .object (members ++ [(key, .str text)]) key :: stack, mode := .key } := rfl
      rw [List.map_cons, List.intercalate_cons_of_ne_nil (by simpa using hnil), List.append_assoc,
        List.append_assoc, run_append hfirst, run_append hcomma, ih hentries hnil (.inr rfl), List.append_assoc]
      rfl

/--
An object of texts is read back as it was written.
-/
theorem loadsText_dumps {entries : List (Codes × Codes)} (h : AreScalar entries) (hdepth : 0 < depth)
    : loadsText depth (dumps entries) = .ok (.object (asTexts entries)) := by
  have hopen : (['{'.toNat] : Codes).foldlM (step depth) State.start
      = .ok { stack := [.object [] []], mode := .firstKey } := by
    have hspace : isSpace '{'.toNat = false := rfl
    have hquote : ¬ '{'.toNat = '"'.toNat := by decide
    simp only [List.foldlM_cons, List.foldlM_nil, step, State.start, startValue, hspace, if_neg hquote,
      openContainer, List.length_nil, if_pos hdepth]
    rfl
  unfold loadsText dumps
  rw [List.append_assoc, run_append hopen]
  by_cases hne : entries = []
  . subst hne
    rfl
  . rw [run_members h hne (.inl rfl)]
    rfl

def IsAscii (c : Nat) : Prop :=
  0 < c ∧ c < 0x80

theorem hexDigit_ascii : ∀ n < 16, 0 < hexDigit n ∧ hexDigit n < 0x80 := by
  decide

theorem hex4_ascii {unit c : Nat} (h : c ∈ hex4 unit) : IsAscii c := by
  obtain ⟨digit, hdigit, rfl⟩ := List.mem_map.mp h
  exact hexDigit_ascii digit (Numerals.lt_of_mem_digits (by decide) hdigit)

theorem escapeChar_ascii {char c : Nat} (h : c ∈ escapeChar char) : IsAscii c := by
  have hshort : ∀ text ∈ ["\\b", "\\f", "\\n", "\\r", "\\t", "\\u"], ∀ c ∈ codes text,
      0 < c ∧ c < 0x80 := by
    decide
  unfold escapeChar at h
  split at h
  . next hquote =>
    rw [List.mem_cons, List.mem_singleton] at h
    rcases h with rfl | rfl
    . exact ⟨by decide, by decide⟩
    . rcases hquote with rfl | rfl
      . exact ⟨by decide, by decide⟩
      . exact ⟨by decide, by decide⟩
  . split at h
    . next hprintable =>
      rw [List.mem_singleton.mp h]
      exact ⟨Nat.lt_of_lt_of_le (by decide) hprintable.1, Nat.lt_of_le_of_lt hprintable.2 (by decide)⟩
    . split at h
      . exact hshort _ (by simp) c h
      . split at h
        . exact hshort _ (by simp) c h
        . split at h
          . exact hshort _ (by simp) c h
          . split at h
            . exact hshort _ (by simp) c h
            . split at h
              . exact hshort _ (by simp) c h
              . split at h
                . cases List.mem_append.mp h with
                  | inl h => exact hshort "\\u" (by simp) c h
                  | inr h => exact hex4_ascii h
                . simp only [List.mem_append] at h
                  rcases h with ((h | h) | h) | h
                  . exact hshort "\\u" (by simp) c h
                  . exact hex4_ascii h
                  . exact hshort "\\u" (by simp) c h
                  . exact hex4_ascii h

theorem dumpsText_ascii {text : Codes} {c : Nat} (h : c ∈ dumpsText text) : IsAscii c := by
  unfold dumpsText at h
  rw [List.mem_append, List.mem_append, List.mem_singleton, List.mem_flatMap] at h
  rcases h with (rfl | ⟨char, _, hchar⟩) | rfl
  . exact ⟨by decide, by decide⟩
  . exact escapeChar_ascii hchar
  . exact ⟨by decide, by decide⟩

theorem members_ascii {entries : List (Codes × Codes)} {c : Nat}
    (h : c ∈ [','.toNat].intercalate (entries.map fun (key, text) =>
      dumpsText key ++ [':'.toNat] ++ dumpsText text))
    : IsAscii c := by
  induction entries with
  | nil => cases h
  | cons entry entries ih =>
    have hentry : ∀ c ∈ dumpsText entry.1 ++ [':'.toNat] ++ dumpsText entry.2, IsAscii c := by
      intro c hc
      rw [List.mem_append, List.mem_append, List.mem_singleton] at hc
      rcases hc with (hc | rfl) | hc
      . exact dumpsText_ascii hc
      . exact ⟨by decide, by decide⟩
      . exact dumpsText_ascii hc
    by_cases hnil : entries = []
    . subst hnil
      rw [List.map_singleton, List.intercalate_singleton] at h
      exact hentry c h
    . rw [List.map_cons, List.intercalate_cons_of_ne_nil (by simpa using hnil), List.mem_append,
        List.mem_append, List.mem_singleton] at h
      rcases h with (h | rfl) | h
      . exact hentry c h
      . exact ⟨by decide, by decide⟩
      . exact ih h

/--
A written document is ASCII, so its bytes are its characters.
-/
theorem dumps_ascii {entries : List (Codes × Codes)} {c : Nat} (h : c ∈ dumps entries) : IsAscii c := by
  unfold dumps at h
  rw [List.mem_append, List.mem_append, List.mem_singleton, List.mem_singleton] at h
  rcases h with (rfl | h) | rfl
  . exact ⟨by decide, by decide⟩
  . exact members_ascii h
  . exact ⟨by decide, by decide⟩

theorem loads_dumps {entries : List (Codes × Codes)} (h : AreScalar entries) (hdepth : 0 < depth)
    : loads depth (dumps entries) = .ok (.object (asTexts entries)) := by
  unfold loads
  rw [decode_ascii fun c hc => dumps_ascii hc]
  exact loadsText_dumps h hdepth

theorem codes_isScalar {text : String} {c : Nat} (h : c ∈ codes text) : IsScalar c := by
  obtain ⟨char, _, rfl⟩ := List.mem_map.mp h
  have hvalid := char.valid
  unfold IsScalar isHighSurrogate isLowSurrogate
  have : char.toNat < 0xD800 ∨ (0xDFFF < char.toNat ∧ char.toNat < 0x110000) := hvalid
  simp only [decide_eq_false_iff_not]
  omega

end RoundTrip

end Json
