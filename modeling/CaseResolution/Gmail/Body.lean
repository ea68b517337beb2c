import CaseResolution.Gmail.Lemmas.Body

/-!
This module contains when the body of a message is plain text: the preference for it holds among the parts of
one container, not across containers.
-/

namespace CaseResolution

namespace Gmail

variable [TextLibrary]

def hasSomeText (levels : Nat) (payload : Members) : Bool :=
  (leavesAt levels payload).any Leaf.hasText

def hasPlainText (levels : Nat) (payload : Members) : Bool :=
  (leavesAt levels payload).any fun leaf => decide (leaf.kind = .plain) && leaf.hasText

/--
If a part of type `text/plain` with text is reached, the body is the text of such a part, and HTML is taken
only where none is reached.
-/
structure PrefersPlain (payload : Members) : Prop where
  plain : ∀ leaf ∈ leavesAt (maxMimeDepth + 1) payload, leaf.kind = .plain → leaf.hasText = true →
    ∃ taken ∈ leavesAt (maxMimeDepth + 1) payload, taken.kind = .plain ∧ taken.hasText = true
      ∧ takenAt (maxMimeDepth + 1) payload = some taken
      ∧ ∃ text, leafText taken = .ok text ∧ body payload = .ok text
  html : ∀ taken, takenAt (maxMimeDepth + 1) payload = some taken → taken.kind = .html →
    ∀ leaf ∈ leavesAt (maxMimeDepth + 1) payload, leaf.kind = .plain → leaf.hasText = false

/--
On the way down from `payload` along the parts that are preferred, no part without plain text is preferred to
one that has any.
-/
def PlainFirst : Nat → Members → Prop
  | 0, _ => True
  | levels + 1, payload =>
    ownLeaf payload (mimeKind payload) = none →
      ∀ part, preferredPart (hasSomeText levels) ((parts payload).getD []) = some part →
        ((∃ other ∈ (parts payload).getD [], hasPlainText levels other = true) →
          hasPlainText levels part = true)
        ∧ PlainFirst levels part

variable {levels : Nat} {payload : Members}

theorem hasPlainText_iff
    : hasPlainText levels payload = true
      ↔ ∃ leaf ∈ leavesAt levels payload, leaf.kind = .plain ∧ leaf.hasText = true := by
  simp [hasPlainText]

theorem hasSomeText_of_hasPlainText (h : hasPlainText levels payload = true)
    : hasSomeText levels payload = true := by
  obtain ⟨leaf, hmem, _, htext⟩ := hasPlainText_iff.mp h
  exact List.any_eq_true.mpr ⟨leaf, hmem, htext⟩

theorem hasPlainText_of_parts (hleaf : ownLeaf payload (mimeKind payload) = none)
    : hasPlainText (levels + 1) payload = true
      ↔ ∃ part ∈ (parts payload).getD [], hasPlainText levels part = true := by
  unfold hasPlainText
  rw [leavesAt_of_parts hleaf, List.any_flatMap, List.any_eq_true]

theorem hasPlainText_of_takenAt {leaf : Leaf} (h : takenAt levels payload = some leaf)
    (hkind : leaf.kind = .plain) : hasPlainText levels payload = true :=
  hasPlainText_iff.mpr ⟨leaf, (takenAt_mem h).1, hkind, (takenAt_mem h).2⟩

/--
Where plain text is reached, it is taken exactly if it comes first on the way down.
-/
theorem takenAt_plain_iff (h : hasPlainText levels payload = true)
    : (∃ leaf, takenAt levels payload = some leaf ∧ leaf.kind = .plain) ↔ PlainFirst levels payload := by
  induction levels generalizing payload with
  | zero => cases h
  | succ levels ih =>
    cases hleaf : ownLeaf payload (mimeKind payload) with
    | some own =>
      have hfirst : PlainFirst (levels + 1) payload := by
        intro hnone
        rw [hleaf] at hnone
        cases hnone
      obtain ⟨leaf, hmem, hkind, htext⟩ := hasPlainText_iff.mp h
      rw [leavesAt_of_ownLeaf hleaf, List.mem_singleton] at hmem
      subst hmem
      have htaken : takenAt (levels + 1) payload = some leaf := by
        rw [takenAt_of_ownLeaf hleaf, if_pos htext]
      exact iff_of_true ⟨leaf, htaken, hkind⟩ hfirst
    | none =>
      have hfound : (fun part => (takenAt levels part).isSome) = hasSomeText levels :=
        funext fun part => takenAt_isSome
      have hplain := (hasPlainText_of_parts hleaf).mp h
      rw [takenAt_of_parts hleaf, hfound]
      cases hpart : preferredPart (hasSomeText levels) ((parts payload).getD []) with
      | none =>
        obtain ⟨part, hmem, hplain⟩ := hplain
        have hnone := preferredPart_eq_none.mp hpart part hmem
        rw [hasSomeText_of_hasPlainText hplain] at hnone
        cases hnone
      | some part =>
        rw [Option.bind_some]
        constructor
        . rintro ⟨leaf, htaken, hkind⟩ _ chosen hchosen
          rw [hpart] at hchosen
          obtain rfl := Option.some.inj hchosen
          have hpartPlain := hasPlainText_of_takenAt htaken hkind
          exact ⟨fun _ => hpartPlain, (ih hpartPlain).mp ⟨leaf, htaken, hkind⟩⟩
        . intro hfirst
          obtain ⟨hpartPlain, hbelow⟩ := hfirst hleaf part hpart
          exact (ih (hpartPlain hplain)).mpr hbelow

end Gmail

open Gmail

/--
The body prefers plain text exactly where there is no plain text, or the message can be read and plain text
comes first at every container on the way down.
-/
theorem body_prefersPlain_iff [TextLibrary] (payload : Members)
    : PrefersPlain payload ↔ (hasPlainText (maxMimeDepth + 1) payload = true →
      ReadsAt (maxMimeDepth + 1) payload ∧ PlainFirst (maxMimeDepth + 1) payload) := by
  constructor
  . intro hprefers hplain
    obtain ⟨leaf, hmem, hkind, htext⟩ := hasPlainText_iff.mp hplain
    obtain ⟨taken, _, htakenKind, _, htaken, text, _, hbody⟩ := hprefers.plain leaf hmem hkind htext
    exact ⟨bodyAt_isOk.mp ⟨text, hbody⟩, (takenAt_plain_iff hplain).mp ⟨taken, htaken, htakenKind⟩⟩
  . intro h
    have hplainTaken : ∀ leaf ∈ leavesAt (maxMimeDepth + 1) payload, leaf.kind = .plain →
        leaf.hasText = true → ReadsAt (maxMimeDepth + 1) payload
          ∧ ∃ taken, takenAt (maxMimeDepth + 1) payload = some taken ∧ taken.kind = .plain := by
      intro leaf hmem hkind htext
      have hplain := hasPlainText_iff.mpr ⟨leaf, hmem, hkind, htext⟩
      obtain ⟨hreads, hfirst⟩ := h hplain
      exact ⟨hreads, (takenAt_plain_iff hplain).mpr hfirst⟩
    constructor
    . intro leaf hmem hkind htext
      obtain ⟨hreads, taken, htaken, htakenKind⟩ := hplainTaken leaf hmem hkind htext
      obtain ⟨text, hbody⟩ := bodyAt_isOk.mpr hreads
      obtain ⟨htakenMem, htakenText⟩ := takenAt_mem htaken
      exact ⟨taken, htakenMem, htakenKind, htakenText, htaken, text, (bodyAt_takenAt hbody).2 taken htaken,
        hbody⟩
    . intro taken htaken htakenKind leaf hmem hkind
      cases htext : leaf.hasText with
      | false => rfl
      | true =>
        obtain ⟨_, other, hother, hotherKind⟩ := hplainTaken leaf hmem hkind htext
        rw [htaken] at hother
        obtain rfl := Option.some.inj hother
        rw [htakenKind] at hotherKind
        cases hotherKind

namespace Sample

open Unicode

/--
The text between tags.
-/
def betweenTags (text : List Char) : List (List Char) :=
  match text.splitOn '<' with
  | [] => []
  | first :: rest => (first :: rest.map fun piece => (piece.dropWhile (· ≠ '>')).drop 1).filter (· ≠ [])

/--
Texts of lower-case ASCII letters, with one address in a header.
-/
@[reducible]
def simpleTexts : TextLibrary where
  casefold := fun text => text.map fun code => if 65 ≤ code ∧ code ≤ 90 then code + 32 else code
  getaddresses := fun value => [([], value)]
  isdigit := fun value => value ≠ [] ∧ value.all Json.isDigit
  int := ofDecimal
  fromtimestamp := fun _ => none
  htmlData := fun text => some (betweenTags text)

def textPart (kind data : String) : Json :=
  .object [(codes "mimeType", .str (codes kind)), (codes "body", .object [(codes "data", .str (codes data))])]

/--
An HTML part in front of a container that has plain text.
-/
def alternativeLast : Members :=
  [(codes "mimeType", .str (codes "multipart/mixed")),
    (codes "parts", .array [textPart "text/html" "PHA-SFRNTDwvcD4",
      .object [(codes "mimeType", .str (codes "multipart/alternative")),
        (codes "parts", .array [textPart "text/plain" "UGxhaW4"])]])]

attribute [local instance] simpleTexts

theorem html_before_plain
    : ¬ PrefersPlain alternativeLast ∧ body alternativeLast = .ok ("HTML".toList, none)
      ∧ leavesAt (maxMimeDepth + 1) alternativeLast = [{ kind := .html, encoded := codes "PHA-SFRNTDwvcD4" },
        { kind := .plain, encoded := codes "UGxhaW4" }] := by
  refine ⟨fun h => ?_, by decide +kernel, by decide +kernel⟩
  obtain ⟨taken, _, hkind, _, htaken, _⟩ := h.plain { kind := .plain, encoded := codes "UGxhaW4" }
    (by decide +kernel) rfl (by decide +kernel)
  have hhtml : takenAt (maxMimeDepth + 1) alternativeLast
      = some { kind := .html, encoded := codes "PHA-SFRNTDwvcD4" } := by decide +kernel
  rw [hhtml] at htaken
  obtain rfl := Option.some.inj htaken
  cases hkind

end Sample

end CaseResolution
