import CaseResolution.Gmail.Impl.Normalization

/-!
This module contains where the body of a message comes from: the leaves of its MIME tree that are reached, and
the one whose text is taken.
-/

namespace CaseResolution

namespace Gmail

open Unicode Guard

/--
The kind of text a part has by its type.
-/
def mimeKind (payload : Members) : Option TextKind :=
  (textKind (get payload "mimeType")).toOption.bind id

/--
The parts with text of their own that are reached, in the order of the tree.
-/
def leavesAt : Nat → Members → List Leaf
  | 0, _ => []
  | levels + 1, payload =>
    match ownLeaf payload (mimeKind payload) with
    | some leaf => [leaf]
    | none => ((parts payload).getD []).flatMap (leavesAt levels)

/--
All parts that are reached.
-/
def nodesAt : Nat → Members → List Members
  | 0, _ => []
  | levels + 1, payload =>
    match ownLeaf payload (mimeKind payload) with
    | some _ => [payload]
    | none => payload :: ((parts payload).getD []).flatMap (nodesAt levels)

/--
The type of a part is no list and no object.
-/
def HashableType (payload : Members) : Prop :=
  ∃ kind, textKind (get payload "mimeType") = .ok kind

variable {levels : Nat} {payload : Members} {leaf : Leaf}

theorem textKind_eq_ok {kind : Option TextKind} (h : textKind (get payload "mimeType") = .ok kind)
    : kind = mimeKind payload := by
  unfold mimeKind
  rw [h]
  rfl

theorem leavesAt_of_parts (hleaf : ownLeaf payload (mimeKind payload) = none)
    : leavesAt (levels + 1) payload = ((parts payload).getD []).flatMap (leavesAt levels) := by
  conv => lhs; unfold leavesAt
  rw [hleaf]

theorem leavesAt_of_ownLeaf (hleaf : ownLeaf payload (mimeKind payload) = some leaf)
    : leavesAt (levels + 1) payload = [leaf] := by
  conv => lhs; unfold leavesAt
  rw [hleaf]

theorem nodesAt_of_parts (hleaf : ownLeaf payload (mimeKind payload) = none)
    : nodesAt (levels + 1) payload = payload :: ((parts payload).getD []).flatMap (nodesAt levels) := by
  conv => lhs; unfold nodesAt
  rw [hleaf]

theorem nodesAt_of_ownLeaf (hleaf : ownLeaf payload (mimeKind payload) = some leaf)
    : nodesAt (levels + 1) payload = [payload] := by
  conv => lhs; unfold nodesAt
  rw [hleaf]

/--
The first part that satisfies `first`, or else the first part at all, as two lists put one after the other.
-/
theorem head?_split {α : Type} (first : α → Bool) (l : List α)
    : (if l.filter first ≠ [] then l.filter first else l.filter fun a => ¬ first a).head?
      = (l.find? first).or l.head? := by
  split
  . next h =>
    rw [List.head?_filter]
    cases hfind : l.find? first with
    | some a => rfl
    | none =>
      exact absurd (List.filter_eq_nil_iff.mpr (List.find?_eq_none.mp hfind)) h
  . next h =>
    have hnone : ∀ a ∈ l, ¬ first a = true := List.filter_eq_nil_iff.mp (not_not.mp h)
    rw [List.find?_eq_none.mpr hnone, List.filter_eq_self.mpr]
    . rfl
    . intro a ha
      simpa using hnone a ha

/--
The part whose text is preferred, if those for which `found` holds have text: the first one of type
`text/plain`, or else the first one.
-/
def preferredPart (found : Members → Bool) (ps : List Members) : Option Members :=
  ((ps.filter found).find? isPlainPart).or (ps.filter found).head?

theorem preferredPart_mem {found : Members → Bool} {ps : List Members} {part : Members}
    (h : preferredPart found ps = some part) : part ∈ ps ∧ found part = true := by
  unfold preferredPart at h
  rcases Option.or_eq_some_iff.mp h with h | ⟨_, h⟩
  . exact List.mem_filter.mp (List.mem_of_find?_eq_some h)
  . exact List.mem_filter.mp (List.mem_of_mem_head? h)

theorem preferredPart_eq_none {found : Members → Bool} {ps : List Members}
    : preferredPart found ps = none ↔ ∀ part ∈ ps, found part = false := by
  unfold preferredPart
  rw [Option.or_eq_none_iff, List.head?_eq_none_iff, List.filter_eq_nil_iff]
  constructor
  . rintro ⟨_, h⟩ part hmem
    simpa using h part hmem
  . intro h
    have hnone : ∀ part ∈ ps, ¬ found part = true := fun part hmem => by simp [h part hmem]
    exact ⟨by rw [List.filter_eq_nil_iff.mpr hnone]; rfl, hnone⟩

variable [TextLibrary]

/--
The HTML parser gets through the text of a leaf.
-/
def Leaf.Readable (leaf : Leaf) : Prop :=
  leaf.kind = .html → TextLibrary.htmlData (decodeReplacing (decode leaf.encoded).1) ≠ none

def Leaf.hasText (leaf : Leaf) : Bool :=
  (leafText leaf).toOption.any fun body => body.1 ≠ []

/--
The leaf whose text the body of a part is: its own, or that of the part with text which is preferred.
-/
def takenAt : Nat → Members → Option Leaf
  | 0, _ => none
  | levels + 1, payload =>
    match ownLeaf payload (mimeKind payload) with
    | some leaf => if leaf.hasText then some leaf else none
    | none =>
      (preferredPart (fun part => (takenAt levels part).isSome) ((parts payload).getD [])).bind
        (takenAt levels)

theorem leafText_isOk_iff : (∃ body, leafText leaf = .ok body) ↔ leaf.Readable := by
  obtain ⟨kind, encoded⟩ := leaf
  unfold leafText Leaf.Readable
  simp only [bind_isOk, pure_isOk, and_true]
  cases kind with
  | plain => simp [shownText]
  | html =>
    simp only [shownText, bind_isOk, pure_isOk, and_true, orThrow_eq_ok, forall_const]
    rw [Option.ne_none_iff_exists']

/--
The result of a part, where it has one.
-/
def valueAt (levels : Nat) (part : Members) : Body :=
  (bodyAt levels part).toOption.getD ([], none)

theorem valueAt_of_ok {body : Body} (h : bodyAt levels payload = .ok body)
    : valueAt levels payload = body := by
  unfold valueAt
  rw [h]
  rfl

/--
Reading the parts one after the other.
-/
theorem mapM_bodyAt_eq_ok {ps : List Members} {found : List (Members × Body)}
    : (ps.mapM fun part => do
        let candidate ← bodyAt levels part
        pure (part, candidate)) = .ok found
      ↔ (∀ part ∈ ps, ∃ body, bodyAt levels part = .ok body)
        ∧ found = ps.map fun part => (part, valueAt levels part) := by
  induction ps generalizing found with
  | nil =>
    rw [List.mapM_nil, pure_eq_ok]
    simp [eq_comm]
  | cons part ps ih =>
    rw [List.mapM_cons]
    simp only [bind_eq_ok, pure_eq_ok, ih, List.forall_mem_cons, List.map_cons]
    constructor
    . rintro ⟨_, ⟨body, hbody, rfl⟩, _, ⟨hall, rfl⟩, rfl⟩
      rw [valueAt_of_ok hbody]
      exact ⟨⟨⟨body, hbody⟩, hall⟩, rfl⟩
    . rintro ⟨⟨⟨body, hbody⟩, hall⟩, rfl⟩
      rw [valueAt_of_ok hbody]
      exact ⟨_, ⟨body, hbody, rfl⟩, _, ⟨hall, rfl⟩, rfl⟩

/--
The body of a part whose parts have been read.
-/
def combine (levels : Nat) (ps : List Members) : Body :=
  chosenBody (ps.map fun part => (part, valueAt levels part))

theorem bodyAt_of_ownLeaf (hleaf : ownLeaf payload (mimeKind payload) = some leaf) {body : Body}
    : bodyAt (levels + 1) payload = .ok body ↔ HashableType payload ∧ leafText leaf = .ok body := by
  simp only [bodyAt, bind_eq_ok]
  constructor
  . rintro ⟨kind, hkind, h⟩
    obtain rfl := textKind_eq_ok hkind
    rw [hleaf] at h
    exact ⟨⟨_, hkind⟩, h⟩
  . rintro ⟨⟨kind, hkind⟩, h⟩
    obtain rfl := textKind_eq_ok hkind
    refine ⟨_, hkind, ?_⟩
    rw [hleaf]
    exact h

theorem combine_nil : combine levels [] = ([], some "Message body was unavailable.") := rfl

theorem bodyAt_of_parts (hleaf : ownLeaf payload (mimeKind payload) = none) {body : Body}
    : bodyAt (levels + 1) payload = .ok body ↔ HashableType payload
      ∧ (∀ part ∈ (parts payload).getD [], ∃ body, bodyAt levels part = .ok body)
      ∧ body = combine levels ((parts payload).getD []) := by
  simp only [bodyAt, bind_eq_ok]
  constructor
  . rintro ⟨kind, hkind, h⟩
    obtain rfl := textKind_eq_ok hkind
    rw [hleaf] at h
    refine ⟨⟨_, hkind⟩, ?_⟩
    cases hparts : parts payload with
    | none =>
      rw [hparts] at h
      simp only [pure_eq_ok] at h
      simp [combine_nil, h]
    | some ps =>
      rw [hparts] at h
      simp only [bind_eq_ok, mapM_bodyAt_eq_ok, pure_eq_ok] at h
      obtain ⟨_, ⟨hall, rfl⟩, rfl⟩ := h
      exact ⟨hall, rfl⟩
  . rintro ⟨⟨kind, hkind⟩, hall, rfl⟩
    obtain rfl := textKind_eq_ok hkind
    refine ⟨_, hkind, ?_⟩
    rw [hleaf]
    cases hparts : parts payload with
    | none => simp [pure_eq_ok, combine_nil]
    | some ps =>
      rw [hparts] at hall
      simp only [bind_eq_ok, mapM_bodyAt_eq_ok, pure_eq_ok]
      exact ⟨_, ⟨hall, rfl⟩, rfl⟩

theorem combine_eq {ps : List Members}
    : combine levels ps
      = ((preferredPart (fun part => decide ((valueAt levels part).1 ≠ [])) ps).map (valueAt levels)).getD
        ([], some "Message body was unavailable.") := by
  have hpreferred : preferred (ps.map fun part => (part, valueAt levels part))
      = (preferredPart (fun part => decide ((valueAt levels part).1 ≠ [])) ps).map
        fun part => (part, valueAt levels part) := by
    unfold preferred preferredPart
    rw [head?_split (fun candidate : Members × Body => isPlainPart candidate.1), List.filter_map,
      List.find?_map, List.head?_map, Option.map_or]
    rfl
  unfold combine chosenBody
  rw [hpreferred]
  cases preferredPart (fun part => decide ((valueAt levels part).1 ≠ [])) ps with
  | none => rfl
  | some part => rfl

theorem takenAt_of_parts (hleaf : ownLeaf payload (mimeKind payload) = none)
    : takenAt (levels + 1) payload
      = (preferredPart (fun part => (takenAt levels part).isSome) ((parts payload).getD [])).bind
        (takenAt levels) := by
  conv => lhs; unfold takenAt
  rw [hleaf]

theorem takenAt_of_ownLeaf (hleaf : ownLeaf payload (mimeKind payload) = some leaf)
    : takenAt (levels + 1) payload = if leaf.hasText then some leaf else none := by
  conv => lhs; unfold takenAt
  rw [hleaf]

theorem hasText_of_leafText {body : Body} (h : leafText leaf = .ok body) : leaf.hasText = decide (body.1 ≠ []) := by
  unfold Leaf.hasText
  rw [h]
  rfl

/--
A leaf that is taken is one of those that are reached, and has text.
-/
theorem takenAt_mem (h : takenAt levels payload = some leaf)
    : leaf ∈ leavesAt levels payload ∧ leaf.hasText = true := by
  induction levels generalizing payload with
  | zero => cases h
  | succ levels ih =>
    cases hleaf : ownLeaf payload (mimeKind payload) with
    | some own =>
      rw [takenAt_of_ownLeaf hleaf] at h
      rw [leavesAt_of_ownLeaf hleaf, List.mem_singleton]
      split at h
      . next htext =>
        obtain rfl := Option.some.inj h
        exact ⟨rfl, htext⟩
      . cases h
    | none =>
      rw [takenAt_of_parts hleaf] at h
      obtain ⟨part, hpart, htaken⟩ := Option.bind_eq_some_iff.mp h
      obtain ⟨hmem, htext⟩ := ih htaken
      rw [leavesAt_of_parts hleaf]
      exact ⟨List.mem_flatMap.mpr ⟨part, (preferredPart_mem hpart).1, hmem⟩, htext⟩

/--
A leaf is taken as soon as one that is reached has text.
-/
theorem takenAt_isSome : (takenAt levels payload).isSome = (leavesAt levels payload).any Leaf.hasText := by
  induction levels generalizing payload with
  | zero => rfl
  | succ levels ih =>
    cases hleaf : ownLeaf payload (mimeKind payload) with
    | some own =>
      rw [takenAt_of_ownLeaf hleaf, leavesAt_of_ownLeaf hleaf]
      cases htext : own.hasText with
      | true => simp [htext]
      | false => simp [htext]
    | none =>
      rw [takenAt_of_parts hleaf, leavesAt_of_parts hleaf, List.any_flatMap]
      cases hpart : preferredPart (fun part => (takenAt levels part).isSome) ((parts payload).getD []) with
      | none =>
        symm
        rw [Option.bind_none, Option.isSome_none, List.any_eq_false]
        intro part hmem
        rw [← ih, preferredPart_eq_none.mp hpart part hmem]
        exact Bool.false_ne_true
      | some part =>
        obtain ⟨hmem, htaken⟩ := preferredPart_mem hpart
        rw [Option.bind_some, htaken]
        symm
        rw [List.any_eq_true]
        exact ⟨part, hmem, by rw [← ih]; exact htaken⟩

/--
Where a body comes from: it is the text of the leaf that is taken, and it is empty if none is.
-/
theorem bodyAt_takenAt {body : Body} (h : bodyAt levels payload = .ok body)
    : (takenAt levels payload).isSome = decide (body.1 ≠ [])
      ∧ ∀ leaf, takenAt levels payload = some leaf → leafText leaf = .ok body := by
  induction levels generalizing payload body with
  | zero =>
    cases h
    refine ⟨rfl, ?_⟩
    rintro leaf ⟨⟩
  | succ levels ih =>
    cases hleaf : ownLeaf payload (mimeKind payload) with
    | some own =>
      have htext := ((bodyAt_of_ownLeaf hleaf).mp h).2
      rw [takenAt_of_ownLeaf hleaf, hasText_of_leafText htext]
      split
      . next hne =>
        refine ⟨by simpa using hne, fun leaf heq => ?_⟩
        obtain rfl := Option.some.inj heq
        exact htext
      . next hne =>
        refine ⟨by simpa using hne, ?_⟩
        rintro leaf ⟨⟩
    | none =>
      obtain ⟨_, hread, rfl⟩ := (bodyAt_of_parts hleaf).mp h
      have hvalue : ∀ part ∈ (parts payload).getD [], bodyAt levels part = .ok (valueAt levels part) := by
        intro part hmem
        obtain ⟨body, hbody⟩ := hread part hmem
        rw [hbody, valueAt_of_ok hbody]
      have hfound : preferredPart (fun part => (takenAt levels part).isSome) ((parts payload).getD [])
          = preferredPart (fun part => decide ((valueAt levels part).1 ≠ [])) ((parts payload).getD []) := by
        unfold preferredPart
        rw [List.filter_congr fun part hmem => (ih (hvalue part hmem)).1]
      rw [takenAt_of_parts hleaf, hfound, combine_eq]
      cases hpart : preferredPart (fun part => decide ((valueAt levels part).1 ≠ [])) ((parts payload).getD []) with
      | none =>
        refine ⟨rfl, ?_⟩
        rintro leaf ⟨⟩
      | some part =>
        exact ih (hvalue part (preferredPart_mem hpart).1)

/--
Every type is one that a set can be asked for, and every HTML text is one the parser gets through.
-/
def ReadsAt (levels : Nat) (payload : Members) : Prop :=
  (∀ node ∈ nodesAt levels payload, HashableType node) ∧ ∀ leaf ∈ leavesAt levels payload, leaf.Readable

/--
The body is read exactly if that holds of all that is reached.
-/
theorem bodyAt_isOk : (∃ body, bodyAt levels payload = .ok body) ↔ ReadsAt levels payload := by
  unfold ReadsAt
  induction levels generalizing payload with
  | zero => simp [bodyAt, nodesAt, leavesAt]
  | succ levels ih =>
    cases hleaf : ownLeaf payload (mimeKind payload) with
    | some own =>
      rw [nodesAt_of_ownLeaf hleaf, leavesAt_of_ownLeaf hleaf]
      simp only [bodyAt_of_ownLeaf hleaf, List.forall_mem_singleton, exists_and_left, leafText_isOk_iff]
    | none =>
      rw [nodesAt_of_parts hleaf, leavesAt_of_parts hleaf]
      simp only [bodyAt_of_parts hleaf, exists_and_left, exists_eq, and_true, ih, List.forall_mem_cons,
        List.forall_mem_flatMap, and_assoc]
      refine and_congr_right fun _ => ?_
      constructor
      . intro h
        exact ⟨fun part hmem => (h part hmem).1, fun part hmem => (h part hmem).2⟩
      . rintro ⟨hnodes, hleaves⟩ part hmem
        exact ⟨hnodes part hmem, hleaves part hmem⟩

end Gmail

end CaseResolution
