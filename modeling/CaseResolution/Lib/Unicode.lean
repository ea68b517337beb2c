import Mathlib.Tactic.Common

/-!
This module contains texts as lists of code points, where surrogates may stand alone, and how bytes are
decoded into them: as UTF-8, UTF-16 or UTF-32, whichever the first bytes of a JSON document point to.
-/

namespace Unicode

/--
The code points of a text.
-/
abbrev Codes := List Nat

def codes (text : String) : Codes :=
  text.toList.map Char.toNat

def isHighSurrogate (code : Nat) : Bool :=
  0xD800 ≤ code ∧ code < 0xDC00

def isLowSurrogate (code : Nat) : Bool :=
  0xDC00 ≤ code ∧ code < 0xE000

/--
The code point a pair of surrogates stands for.
-/
def joinSurrogates (high low : Nat) : Nat :=
  0x10000 + (high - 0xD800) * 0x400 + (low - 0xDC00)

def isContinuation (byte : Nat) : Bool :=
  0x80 ≤ byte ∧ byte < 0xC0

/--
The code points of bytes in UTF-8. Surrogates are let through.
-/
def decodeUtf8 : List Nat → Option Codes
  | [] => some []
  | a :: rest =>
    if a < 0x80 then
      (decodeUtf8 rest).map (List.cons a)
    else
      match rest with
      | [] => none
      | b :: rest =>
        if 0xC2 ≤ a ∧ a < 0xE0 ∧ isContinuation b then
          (decodeUtf8 rest).map (List.cons (a % 0x20 * 0x40 + b % 0x40))
        else
          match rest with
          | [] => none
          | c :: rest =>
            if 0xE0 ≤ a ∧ a < 0xF0 ∧ isContinuation b ∧ isContinuation c
                ∧ 0x800 ≤ a % 0x10 * 0x1000 + b % 0x40 * 0x40 + c % 0x40 then
              (decodeUtf8 rest).map (List.cons (a % 0x10 * 0x1000 + b % 0x40 * 0x40 + c % 0x40))
            else
              match rest with
              | [] => none
              | d :: rest =>
                let code := a % 0x8 * 0x40000 + b % 0x40 * 0x1000 + c % 0x40 * 0x40 + d % 0x40
                if 0xF0 ≤ a ∧ a < 0xF8 ∧ isContinuation b ∧ isContinuation c ∧ isContinuation d
                    ∧ 0x10000 ≤ code ∧ code < 0x110000 then
                  (decodeUtf8 rest).map (List.cons code)
                else
                  none

inductive ByteOrder where
  | bigEndian
  | littleEndian

/--
The numbers that groups of two bytes stand for.
-/
def units16 (order : ByteOrder) : List Nat → Option (List Nat)
  | [] => some []
  | [_] => none
  | a :: b :: rest =>
    let unit := match order with
      | .bigEndian => a * 0x100 + b
      | .littleEndian => b * 0x100 + a
    (units16 order rest).map (List.cons unit)

def joinUnits : List Nat → Codes
  | [] => []
  | [unit] => [unit]
  | high :: low :: rest =>
    if isHighSurrogate high ∧ isLowSurrogate low then
      joinSurrogates high low :: joinUnits rest
    else
      high :: joinUnits (low :: rest)

def decodeUtf16 (order : ByteOrder) (bytes : List Nat) : Option Codes :=
  (units16 order bytes).map joinUnits

def decodeUtf32 (order : ByteOrder) : List Nat → Option Codes
  | [] => some []
  | a :: b :: c :: d :: rest =>
    let code := match order with
      | .bigEndian => ((a * 0x100 + b) * 0x100 + c) * 0x100 + d
      | .littleEndian => ((d * 0x100 + c) * 0x100 + b) * 0x100 + a
    if code < 0x110000 then (decodeUtf32 order rest).map (List.cons code) else none
  | _ => none

/--
The encoding of a document without a byte order mark shows in which of its first bytes are zero.
-/
def decodeUnmarked (bytes : List Nat) : Option Codes :=
  match bytes with
  | a :: b :: c :: d :: _ =>
    if a = 0 then
      if b = 0 then decodeUtf32 .bigEndian bytes else decodeUtf16 .bigEndian bytes
    else if b = 0 then
      if c = 0 ∧ d = 0 then decodeUtf32 .littleEndian bytes else decodeUtf16 .littleEndian bytes
    else
      decodeUtf8 bytes
  | [a, b] =>
    if a = 0 then decodeUtf16 .bigEndian bytes
    else if b = 0 then decodeUtf16 .littleEndian bytes
    else decodeUtf8 bytes
  | _ => decodeUtf8 bytes

/--
The text of a JSON document: `bytes.decode(json.detect_encoding(bytes), "surrogatepass")`.
-/
def decode : List Nat → Option Codes
  | 0x00 :: 0x00 :: 0xFE :: 0xFF :: rest => decodeUtf32 .bigEndian rest
  | 0xFF :: 0xFE :: 0x00 :: 0x00 :: rest => decodeUtf32 .littleEndian rest
  | 0xFE :: 0xFF :: rest => decodeUtf16 .bigEndian rest
  | 0xFF :: 0xFE :: rest => decodeUtf16 .littleEndian rest
  | 0xEF :: 0xBB :: 0xBF :: rest => decodeUtf8 rest
  | bytes => decodeUnmarked bytes

section Ascii

variable {bytes : List Nat}

theorem decodeUtf8_ascii (h : ∀ byte ∈ bytes, 0 < byte ∧ byte < 0x80)
    : decodeUtf8 bytes = some bytes := by
  induction bytes with
  | nil => rfl
  | cons a rest ih =>
    rw [List.forall_mem_cons] at h
    unfold decodeUtf8
    rw [if_pos h.1.2, ih h.2]
    rfl

theorem decodeUnmarked_ascii (h : ∀ byte ∈ bytes, 0 < byte ∧ byte < 0x80)
    : decodeUnmarked bytes = some bytes := by
  unfold decodeUnmarked
  split
  . next a b c d rest =>
    have ha := (h a (by simp)).1
    have hb := (h b (by simp)).1
    rw [if_neg (by omega), if_neg (by omega), decodeUtf8_ascii h]
  . next a b =>
    have ha := (h a (by simp)).1
    have hb := (h b (by simp)).1
    rw [if_neg (by omega), if_neg (by omega), decodeUtf8_ascii h]
  . exact decodeUtf8_ascii h

/--
Bytes that are ASCII characters are their own code points.
-/
theorem decode_ascii (h : ∀ byte ∈ bytes, 0 < byte ∧ byte < 0x80) : decode bytes = some bytes := by
  unfold decode
  split
  . exact absurd (h 0x00 (by simp)).1 (by decide)
  . exact absurd (h 0xFF (by simp)).2 (by decide)
  . exact absurd (h 0xFE (by simp)).2 (by decide)
  . exact absurd (h 0xFF (by simp)).2 (by decide)
  . exact absurd (h 0xEF (by simp)).2 (by decide)
  . exact decodeUnmarked_ascii h

end Ascii

/--
The character that stands for bytes that are no UTF-8.
-/
def replacement : Char :=
  Char.ofNat 0xFFFD

/--
The second byte of a sequence of three bytes: surrogates and longer forms of shorter sequences are left out.
-/
def isSecondOfThree (first second : Nat) : Bool :=
  isContinuation second ∧ (first = 0xE0 → 0xA0 ≤ second) ∧ (first = 0xED → second < 0xA0)

def isSecondOfFour (first second : Nat) : Bool :=
  isContinuation second ∧ (first = 0xF0 → 0x90 ≤ second) ∧ (first = 0xF4 → second < 0x90)

/--
Bytes in UTF-8, where what cannot be continued is replaced.
-/
def decodeReplacing : List Nat → List Char
  | [] => []
  | a :: rest =>
    if a < 0x80 then
      Char.ofNat a :: decodeReplacing rest
    else
      match rest with
      | [] => [replacement]
      | b :: rest₂ =>
        if 0xC2 ≤ a ∧ a < 0xE0 ∧ isContinuation b then
          Char.ofNat (a % 0x20 * 0x40 + b % 0x40) :: decodeReplacing rest₂
        else if 0xE0 ≤ a ∧ a < 0xF0 ∧ isSecondOfThree a b then
          match rest₂ with
          | [] => [replacement]
          | c :: rest₃ =>
            if isContinuation c then
              Char.ofNat (a % 0x10 * 0x1000 + b % 0x40 * 0x40 + c % 0x40) :: decodeReplacing rest₃
            else
              replacement :: decodeReplacing (c :: rest₃)
        else if 0xF0 ≤ a ∧ a < 0xF5 ∧ isSecondOfFour a b then
          match rest₂ with
          | [] => [replacement]
          | c :: rest₃ =>
            if isContinuation c then
              match rest₃ with
              | [] => [replacement]
              | d :: rest₄ =>
                if isContinuation d then
                  Char.ofNat (a % 0x8 * 0x40000 + b % 0x40 * 0x1000 + c % 0x40 * 0x40 + d % 0x40)
                    :: decodeReplacing rest₄
                else
                  replacement :: decodeReplacing (d :: rest₄)
            else
              replacement :: decodeReplacing (c :: rest₃)
        else
          replacement :: decodeReplacing (b :: rest₂)

/--
No byte makes more than one character.
-/
theorem length_decodeReplacing (bytes : List Nat) : (decodeReplacing bytes).length ≤ bytes.length := by
  fun_induction decodeReplacing bytes <;> simp_all <;> omega

end Unicode
