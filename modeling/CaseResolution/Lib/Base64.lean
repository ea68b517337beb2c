import Mathlib

/-!
This module contains the base 64 encoding of bytes in the alphabet for URLs, the decoder that skips what is
not in the alphabet, and that texts whose padding was taken off are read back.
-/

namespace Base64

/--
The character of six bits.
-/
def letter (n : Nat) : Char :=
  if n < 26 then Char.ofNat ('A'.toNat + n)
  else if n < 52 then Char.ofNat ('a'.toNat + (n - 26))
  else if n < 62 then Char.ofNat ('0'.toNat + (n - 52))
  else if n = 62 then '-'
  else '_'

/--
The six bits of a character. The two letters of the standard alphabet are read like those for URLs.
-/
def sextet (c : Char) : Option Nat :=
  if 'A' ≤ c ∧ c ≤ 'Z' then some (c.toNat - 'A'.toNat)
  else if 'a' ≤ c ∧ c ≤ 'z' then some (c.toNat - 'a'.toNat + 26)
  else if '0' ≤ c ∧ c ≤ '9' then some (c.toNat - '0'.toNat + 52)
  else if c = '-' ∨ c = '+' then some 62
  else if c = '_' ∨ c = '/' then some 63
  else none

/--
`base64.urlsafe_b64encode`.
-/
def urlsafeB64encode : List Nat → List Char
  | [] => []
  | [a] => [letter (a / 4), letter (a % 4 * 16), '=', '=']
  | [a, b] => [letter (a / 4), letter (a % 4 * 16 + b / 16), letter (b % 16 * 4), '=']
  | a :: b :: c :: rest =>
    [letter (a / 4), letter (a % 4 * 16 + b / 16), letter (b % 16 * 4 + c / 64), letter (c % 64)]
      ++ urlsafeB64encode rest

/--
The decoder of `binascii.a2b_base64` with `quad` characters read of a group of four, the bits `left` over
from them and `pads` padding characters after them. Characters that are not in the alphabet are skipped.
-/
def a2b (quad left pads : Nat) : List Char → Option (List Nat)
  | [] => if quad = 0 then some [] else none
  | c :: rest =>
    if c = '=' then
      if 2 ≤ quad then
        if 4 ≤ quad + (pads + 1) then some [] else a2b quad left (pads + 1) rest
      else
        a2b quad left pads rest
    else
      match sextet c with
      | none => a2b quad left pads rest
      | some bits =>
        match quad with
        | 0 => a2b 1 bits 0 rest
        | 1 => (a2b 2 (bits % 16) 0 rest).map (List.cons (left * 4 + bits / 16))
        | 2 => (a2b 3 (bits % 4) 0 rest).map (List.cons (left * 16 + bits / 4))
        | _ => (a2b 0 0 0 rest).map (List.cons (left * 64 + bits))

/--
`base64.urlsafe_b64decode`, which takes ASCII texts only.
-/
def urlsafeB64decode (text : List Char) : Option (List Nat) :=
  if text.all (fun c => c.toNat < 128) then a2b 0 0 0 text else none

/--
`b64decode` with the same alphabet and with `validate`: only letters are read, and at most two pads behind
them.
-/
def urlsafeB64decodeValid (text : List Char) : Option (List Nat) :=
  let pads := text.dropWhile fun c => (sextet c).isSome
  if pads.length ≤ 2 ∧ ∀ c ∈ pads, c = '=' then
    urlsafeB64decode text
  else
    none

/--
The padding that was taken off a text of this length.
-/
def padding (text : List Char) : List Char :=
  List.replicate ((4 - text.length % 4) % 4) '='

theorem sextet_letter : ∀ n < 64, sextet (letter n) = some n := by
  decide

theorem letter_ne_pad : ∀ n < 64, letter n ≠ '=' := by
  decide

theorem letter_ascii : ∀ n < 64, (letter n).toNat < 128 := by
  decide

section RoundTrip

variable {a b c n left : Nat} {bytes : List Nat} {rest : List Char}

theorem a2b_first (h : n < 64) : a2b 0 left 0 (letter n :: rest) = a2b 1 n 0 rest := by
  conv => lhs; unfold a2b
  rw [if_neg (letter_ne_pad n h), sextet_letter n h]
  rfl

theorem a2b_second (h : n < 64)
    : a2b 1 left 0 (letter n :: rest)
      = (a2b 2 (n % 16) 0 rest).map (List.cons (left * 4 + n / 16)) := by
  conv => lhs; unfold a2b
  rw [if_neg (letter_ne_pad n h), sextet_letter n h]
  rfl

theorem a2b_third (h : n < 64)
    : a2b 2 left 0 (letter n :: rest)
      = (a2b 3 (n % 4) 0 rest).map (List.cons (left * 16 + n / 4)) := by
  conv => lhs; unfold a2b
  rw [if_neg (letter_ne_pad n h), sextet_letter n h]
  rfl

theorem a2b_fourth (h : n < 64)
    : a2b 3 left 0 (letter n :: rest) = (a2b 0 0 0 rest).map (List.cons (left * 64 + n)) := by
  conv => lhs; unfold a2b
  rw [if_neg (letter_ne_pad n h), sextet_letter n h]
  rfl

/--
The letters of a text with its padding are read as the bytes they were written for.
-/
theorem a2b_encode (h : ∀ byte ∈ bytes, byte < 256) : a2b 0 0 0 (urlsafeB64encode bytes) = some bytes := by
  induction bytes using urlsafeB64encode.induct with
  | case1 => rfl
  | case2 a =>
    have ha : a < 256 := h a (by simp)
    have hfirst : a / 4 * 4 + a % 4 * 16 / 16 = a := by omega
    unfold urlsafeB64encode
    rw [a2b_first (by omega), a2b_second (by omega), hfirst]
    rfl
  | case3 a b =>
    have ha : a < 256 := h a (by simp)
    have hb : b < 256 := h b (by simp)
    have hfirst : a / 4 * 4 + (a % 4 * 16 + b / 16) / 16 = a := by omega
    have hsecond : (a % 4 * 16 + b / 16) % 16 * 16 + b % 16 * 4 / 4 = b := by omega
    unfold urlsafeB64encode
    rw [a2b_first (by omega), a2b_second (by omega), a2b_third (by omega), hfirst, hsecond]
    rfl
  | case4 a b c bytes ih =>
    have ha : a < 256 := h a (by simp)
    have hb : b < 256 := h b (by simp)
    have hc : c < 256 := h c (by simp)
    have hrest : ∀ byte ∈ bytes, byte < 256 := fun byte hmem => h byte (by simp [hmem])
    have hfirst : a / 4 * 4 + (a % 4 * 16 + b / 16) / 16 = a := by omega
    have hsecond : (a % 4 * 16 + b / 16) % 16 * 16 + (b % 16 * 4 + c / 64) / 4 = b := by omega
    have hthird : (b % 16 * 4 + c / 64) % 4 * 64 + c % 64 = c := by omega
    unfold urlsafeB64encode
    simp only [List.cons_append, List.nil_append]
    rw [a2b_first (by omega), a2b_second (by omega), a2b_third (by omega), a2b_fourth (by omega),
      hfirst, hsecond, hthird, ih hrest]
    rfl

/--
A text is its letters with the padding of a text of their length.
-/
theorem encode_eq (h : ∀ byte ∈ bytes, byte < 256)
    : ∃ letters, urlsafeB64encode bytes = letters ++ padding letters
      ∧ ∀ c ∈ letters, c ≠ '=' ∧ c.toNat < 128 := by
  have hletter : ∀ n < 64, letter n ≠ '=' ∧ (letter n).toNat < 128 :=
    fun n hn => ⟨letter_ne_pad n hn, letter_ascii n hn⟩
  induction bytes using urlsafeB64encode.induct with
  | case1 => exact ⟨[], rfl, by simp⟩
  | case2 a =>
    have ha : a < 256 := h a (by simp)
    refine ⟨[letter (a / 4), letter (a % 4 * 16)], rfl, ?_⟩
    simp only [List.forall_mem_cons]
    exact ⟨hletter _ (by omega), hletter _ (by omega), by simp⟩
  | case3 a b =>
    have ha : a < 256 := h a (by simp)
    have hb : b < 256 := h b (by simp)
    refine ⟨[letter (a / 4), letter (a % 4 * 16 + b / 16), letter (b % 16 * 4)], rfl, ?_⟩
    simp only [List.forall_mem_cons]
    exact ⟨hletter _ (by omega), hletter _ (by omega), hletter _ (by omega), by simp⟩
  | case4 a b c bytes ih =>
    have ha : a < 256 := h a (by simp)
    have hb : b < 256 := h b (by simp)
    have hc : c < 256 := h c (by simp)
    obtain ⟨letters, hencode, hletters⟩ := ih fun byte hmem => h byte (by simp [hmem])
    refine ⟨[letter (a / 4), letter (a % 4 * 16 + b / 16), letter (b % 16 * 4 + c / 64),
      letter (c % 64)] ++ letters, ?_, ?_⟩
    . unfold urlsafeB64encode
      rw [hencode, List.append_assoc]
      congr 2
      unfold padding
      congr 1
      rw [List.length_append]
      simp only [List.length_cons, List.length_nil]
      omega
    . simp only [List.cons_append, List.nil_append, List.forall_mem_cons]
      exact ⟨hletter _ (by omega), hletter _ (by omega), hletter _ (by omega), hletter _ (by omega),
        hletters⟩

/--
What is encoded are letters, and the padding is short.
-/
theorem encode_chars (h : ∀ byte ∈ bytes, byte < 256)
    : (∀ c ∈ urlsafeB64encode bytes, c ≠ '=' → (sextet c).isSome)
      ∧ (urlsafeB64encode bytes).count '=' ≤ 2 := by
  have hletter : ∀ n < 64, letter n ≠ '=' → (sextet (letter n)).isSome := by
    intro n hn _
    rw [sextet_letter n hn]
    rfl
  have hcount : ∀ n < 64, ∀ l : List Char, (letter n :: l).count '=' = l.count '=' :=
    fun n hn l => List.count_cons_of_ne (letter_ne_pad n hn)
  induction bytes using urlsafeB64encode.induct with
  | case1 => exact ⟨by simp [urlsafeB64encode], by simp [urlsafeB64encode]⟩
  | case2 a =>
    have ha : a < 256 := h a (by simp)
    unfold urlsafeB64encode
    rw [hcount _ (by omega), hcount _ (by omega)]
    simp only [List.forall_mem_cons]
    exact ⟨⟨hletter _ (by omega), hletter _ (by omega), by simp, by simp, by simp⟩, by decide⟩
  | case3 a b =>
    have ha : a < 256 := h a (by simp)
    have hb : b < 256 := h b (by simp)
    unfold urlsafeB64encode
    rw [hcount _ (by omega), hcount _ (by omega), hcount _ (by omega)]
    simp only [List.forall_mem_cons]
    exact ⟨⟨hletter _ (by omega), hletter _ (by omega), hletter _ (by omega), by simp, by simp⟩,
      by decide⟩
  | case4 a b c bytes ih =>
    have ha : a < 256 := h a (by simp)
    have hb : b < 256 := h b (by simp)
    have hc : c < 256 := h c (by simp)
    have hrest := ih fun byte hmem => h byte (by simp [hmem])
    unfold urlsafeB64encode
    simp only [List.cons_append, List.nil_append]
    rw [hcount _ (by omega), hcount _ (by omega), hcount _ (by omega), hcount _ (by omega)]
    simp only [List.forall_mem_cons]
    exact ⟨⟨hletter _ (by omega), hletter _ (by omega), hletter _ (by omega), hletter _ (by omega),
      hrest.1⟩, hrest.2⟩

theorem rdropWhile_padding {letters : List Char} (h : ∀ c ∈ letters, c ≠ '=') (n : Nat)
    : (letters ++ List.replicate n '=').rdropWhile (· = '=') = letters := by
  induction n with
  | zero =>
    rw [List.replicate_zero, List.append_nil, List.rdropWhile_eq_self_iff]
    intro hne
    simpa using h _ (List.getLast_mem hne)
  | succ n ih => rw [List.replicate_succ', ← List.append_assoc, List.rdropWhile_concat_pos _ _ _ rfl, ih]

/--
A text whose padding was taken off is read back once the padding of its length is put on again.
-/
theorem decode_encode (h : ∀ byte ∈ bytes, byte < 256)
    : urlsafeB64decode ((urlsafeB64encode bytes).rdropWhile (· = '=')
        ++ padding ((urlsafeB64encode bytes).rdropWhile (· = '='))) = some bytes := by
  obtain ⟨letters, hencode, hletters⟩ := encode_eq h
  have hstrip : (urlsafeB64encode bytes).rdropWhile (· = '=') = letters := by
    rw [hencode]
    exact rdropWhile_padding (fun c hc => (hletters c hc).1) _
  have hascii : (letters ++ padding letters).all (fun c => c.toNat < 128) = true := by
    rw [List.all_append, Bool.and_eq_true, List.all_eq_true, List.all_eq_true]
    constructor
    . intro c hc
      simpa using (hletters c hc).2
    . intro c hc
      rw [List.eq_of_mem_replicate hc]
      rfl
  rw [hstrip]
  unfold urlsafeB64decode
  rw [if_pos hascii, ← hencode, a2b_encode h]

theorem decodeValid_encode (h : ∀ byte ∈ bytes, byte < 256)
    : urlsafeB64decodeValid ((urlsafeB64encode bytes).rdropWhile (· = '=')
        ++ padding ((urlsafeB64encode bytes).rdropWhile (· = '='))) = some bytes := by
  obtain ⟨letters, hencode, hletters⟩ := encode_eq h
  obtain ⟨hchars, hcount⟩ := encode_chars h
  have hstrip : (urlsafeB64encode bytes).rdropWhile (· = '=') = letters := by
    rw [hencode]
    exact rdropWhile_padding (fun c hc => (hletters c hc).1) _
  have hread : ∀ c ∈ letters, (sextet c).isSome = true := by
    intro c hc
    exact hchars c (hencode ▸ List.mem_append_left _ hc) (hletters c hc).1
  have hpads : (letters ++ padding letters).dropWhile (fun c => (sextet c).isSome) = padding letters := by
    rw [List.dropWhile_append_of_pos hread]
    apply List.dropWhile_eq_self_iff.mpr
    intro hlt
    rw [List.eq_of_mem_replicate (List.getElem_mem hlt)]
    decide
  have hshort : (padding letters).length ≤ 2 := by
    rw [hencode, List.count_append, List.count_eq_zero.mpr (fun hmem => (hletters _ hmem).1 rfl)] at hcount
    unfold padding at hcount ⊢
    rw [List.length_replicate]
    rwa [List.count_replicate_self, Nat.zero_add] at hcount
  have hdecode := decode_encode h
  rw [hstrip] at hdecode ⊢
  unfold urlsafeB64decodeValid
  dsimp only
  rw [hpads, if_pos ⟨hshort, fun c hc => List.eq_of_mem_replicate hc⟩, hdecode]

end RoundTrip

end Base64
