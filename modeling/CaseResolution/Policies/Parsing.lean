import CaseResolution.Policies.Impl.Parser

/-!
This module proves that the policy parser keeps the text between the headings: the lines of the clauses
are the lines of the source, each under the heading before it.
-/

namespace CaseResolution

open Guard

namespace PolicyParser

def isHeading (line : Text) : Bool :=
  (strip line).head? = some '#'

def headingOf (line : Text) : Text :=
  (strip ((strip line).dropWhile (· = '#'))).take 300

/--
The heading in force after some lines: the last one among them.
-/
def headingAfter (lines : List Text) : Text :=
  ((lines.filter isHeading).getLast?.map headingOf).getD "Policy clause".toList

def sourceLines (sourceText : String) : List Text :=
  (unifyNewlines sourceText.toList).splitOn '\n'

/--
The lines that are neither blank nor headings, each with the heading before it.
-/
def bodyLines (lines : List Text) : List (Text × Text) :=
  lines.zipIdx.filterMap fun (line, index) =>
    if isHeading line ∨ strip line = [] then
      none
    else
      some (headingAfter (lines.take index), strip line)

/--
The lines of a clause that are not blank, each with the heading of the clause.
-/
def clauseLines (clause : ParsedPolicyClause) : List (Text × Text) :=
  ((clause.text.toList.splitOn '\n').filter (· ≠ [])).map fun line => (clause.heading.toList, line)

section Lines

variable {line : Text} {lines : List Text}

theorem strip_strip : strip (strip line) = strip line :=
  Lines.trim_trim

theorem not_isHeading_nil : isHeading [] = false := rfl

variable (lines line) in
theorem headingAfter_concat
    : headingAfter (lines ++ [line])
      = if isHeading line then headingOf line else headingAfter lines := by
  unfold headingAfter
  rw [List.filter_append]
  by_cases h : isHeading line = true
  . simp [h]
  . simp [h]

variable (lines line) in
theorem bodyLines_concat
    : bodyLines (lines ++ [line])
      = bodyLines lines
        ++ if isHeading line ∨ strip line = [] then [] else [(headingAfter lines, strip line)] := by
  unfold bodyLines
  rw [List.zipIdx_append, List.filterMap_append]
  congr 1
  . apply List.filterMap_congr
    intro (other, index) hmem
    have hindex : index < lines.length := by
      have := List.mem_zipIdx hmem
      omega
    have htake : (lines ++ [line]).take index = lines.take index :=
      List.take_append_of_le_length (by omega)
    simp only [htake]
  . split
    . next h => simp [h]
    . next h => simp [h]

theorem headingAfter_map_strip : headingAfter (lines.map strip) = headingAfter lines := by
  induction lines using List.reverseRecOn with
  | nil => rfl
  | append_singleton lines line ih =>
    rw [List.map_append, List.map_singleton, headingAfter_concat, headingAfter_concat, ih]
    unfold isHeading headingOf
    rw [strip_strip]

variable (lines) in
theorem bodyLines_map_strip : bodyLines (lines.map strip) = bodyLines lines := by
  induction lines using List.reverseRecOn with
  | nil => rfl
  | append_singleton lines line ih =>
    rw [List.map_append, List.map_singleton, bodyLines_concat, bodyLines_concat, ih,
      headingAfter_map_strip]
    unfold isHeading
    rw [strip_strip]

theorem headingAfter_cons_nil : headingAfter ([] :: lines) = headingAfter lines := by
  unfold headingAfter
  rw [List.filter_cons_of_neg (by simp [not_isHeading_nil])]

/--
A blank line before the text or behind it is not seen.
-/
theorem bodyLines_cons_nil : bodyLines ([] :: lines) = bodyLines lines := by
  induction lines using List.reverseRecOn with
  | nil => rfl
  | append_singleton lines line ih =>
    rw [← List.cons_append, bodyLines_concat, bodyLines_concat, ih, headingAfter_cons_nil]

theorem bodyLines_concat_nil : bodyLines (lines ++ [[]]) = bodyLines lines := by
  have hblank : strip [] = [] := rfl
  rw [bodyLines_concat, if_pos (Or.inr hblank), List.append_nil]

/--
The lines under the headings are those of the text without the white space at its ends.
-/
theorem bodyLines_strip (text : Text)
    : bodyLines ((strip text).splitOn '\n') = bodyLines (text.splitOn '\n') := by
  apply Lines.of_trim (f := fun text => bodyLines (text.splitOn '\n'))
  . intro c text hspace
    rw [← bodyLines_map_strip, ← bodyLines_map_strip (text.splitOn '\n')]
    unfold strip
    rw [Lines.map_trim_splitOn_cons hspace]
    split
    . exact bodyLines_cons_nil
    . rfl
  . intro text c hspace
    rw [← bodyLines_map_strip, ← bodyLines_map_strip (text.splitOn '\n')]
    unfold strip
    rw [Lines.map_trim_splitOn_concat hspace]
    split
    . exact bodyLines_concat_nil
    . rw [List.append_nil]

end Lines

/--
The only failure the parser lets out.
-/
def Refuses (failure : Failure) : Prop :=
  ∃ message, failure = .policySourceParseError message

/--
What the parser knows after it has read some lines.
-/
structure HasRead (lines : List Text) (state : State) : Prop where
  heading : state.heading = headingAfter lines
  heading_length : 1 ≤ state.heading.length ∧ state.heading.length ≤ 300
  block : Lines.Block isSpace '\n' state.body
  body : state.clauses.flatMap clauseLines ++ (state.body.filter (· ≠ [])).map (state.heading, ·)
    = bodyLines lines
  clauses : ∀ clause ∈ state.clauses, 20 ≤ clause.text.length

theorem hasRead_start : HasRead [] State.start where
  heading := rfl
  heading_length := by decide
  block := Lines.Block.nil
  body := rfl
  clauses := by simp [State.start]

theorem newClause_ends {heading text appliesWhen : String}
    (hheading : 1 ≤ heading.length ∧ heading.length ≤ 300) (htext : 20 ≤ text.length)
    (happlies : 1 ≤ appliesWhen.length)
    : newClause heading text appliesWhen = .ok { heading, text, appliesWhen } := by
  unfold newClause
  rw [ensure_of hheading, ensure_of htext, ensure_of happlies]
  rfl

theorem applicabilityLabel_length (applicability : PolicyApplicability)
    : 1 ≤ (applicabilityLabel applicability).length := by
  unfold applicabilityLabel
  simp only [String.length_append]
  have : "Scope ".length = 6 := rfl
  omega

/--
The block under a heading becomes a clause with its lines, or none where it is empty.
-/
theorem flush_ends {lines : List Text} {state : State} (applicability : PolicyApplicability)
    (h : HasRead lines state)
    : Ends (fun flushed => HasRead lines flushed ∧ flushed.body = []) Refuses
        (state.flush applicability) := by
  have hlines := h.block.splitOn_trim (by rfl)
  have hbody := h.body
  rw [← hlines] at hbody
  unfold State.flush
  simp only
  split
  . next hempty =>
    apply ends_pure
    refine ⟨{ h with block := Lines.Block.nil, body := ?_ }, rfl⟩
    rw [show Lines.trim isSpace _ = [] from hempty] at hbody
    exact hbody
  . apply (ends_ensure fun _ => ⟨_, rfl⟩).bind
    intro _ htext
    rw [newClause_ends (by simpa using h.heading_length) (by simpa using htext)
      (applicabilityLabel_length applicability)]
    apply ends_pure
    refine ⟨{ h with block := Lines.Block.nil, body := ?_, clauses := ?_ }, rfl⟩
    . rw [List.flatMap_append, ← hbody]
      simp [clauseLines, strip]
    . intro clause hclause
      cases List.mem_append.mp hclause with
      | inl hold => exact h.clauses clause hold
      | inr hnew =>
        rw [List.mem_singleton.mp hnew]
        simpa using htext

/--
A line is a heading, which closes the block before it, or a line of the block, or blank.
-/
theorem readLine_ends (applicability : PolicyApplicability) {lines : List Text} {state : State}
    {line : Text} (h : HasRead lines state) (hline : '\n' ∉ line)
    : Ends (HasRead (lines ++ [line])) Refuses (state.readLine applicability line) := by
  have hstripped : '\n' ∉ strip line := fun hmem => hline (Lines.mem_of_mem_trim hmem)
  have hafter := headingAfter_concat line lines
  have hlines := bodyLines_concat line lines
  unfold State.readLine
  simp only
  split
  . next hhead =>
    have hheading : isHeading line = true := by simpa [isHeading] using hhead
    rw [if_pos hheading] at hafter
    rw [if_pos (Or.inl hheading), List.append_nil] at hlines
    apply (flush_ends applicability h).bind
    rintro flushed ⟨hflushed, hempty⟩
    apply (ends_ensure fun _ => ⟨_, rfl⟩).bind
    intro _ hne
    apply ends_pure
    exact {
      heading := hafter.symm
      heading_length := by
        have := List.length_pos_iff.mpr hne
        rw [List.length_take]
        omega
      block := hflushed.block
      body := by
        rw [hlines, ← hflushed.body]
        simp [hempty]
      clauses := hflushed.clauses }
  . next hhead =>
    have hheading : ¬ isHeading line = true := by simpa [isHeading] using hhead
    rw [if_neg hheading] at hafter
    split
    . next hblank =>
      rw [if_pos (Or.inr hblank), List.append_nil] at hlines
      split
      . next hlast =>
        apply ends_pure
        exact {
          heading := h.heading.trans hafter.symm
          heading_length := h.heading_length
          block := h.block.concat (by intro _ hnil; simp [hnil] at hlast) rfl (by simp)
          body := by
            rw [hlines, ← h.body]
            simp
          clauses := h.clauses }
      . apply ends_pure
        exact { h with heading := h.heading.trans hafter.symm, body := h.body.trans hlines.symm }
    . next hblank =>
      rw [if_neg (by simp [hheading, hblank])] at hlines
      apply ends_pure
      exact {
        heading := h.heading.trans hafter.symm
        heading_length := h.heading_length
        block := h.block.concat (fun hnil => absurd hnil hblank) strip_strip hstripped
        body := by
          rw [hlines, ← h.body]
          simp [hblank, h.heading]
        clauses := h.clauses }

/--
The policy parser ends in clauses that hold the text of the source line by line, or in its own refusal.
-/
theorem parse_keeps_body_lines (sourceText : String) (applicability : PolicyApplicability)
    : match parsePolicySource sourceText applicability with
      | .error e => ∃ message, e = .policySourceParseError message
      | .ok clauses => 1 ≤ clauses.length ∧ clauses.length ≤ 100
        ∧ (∀ clause ∈ clauses, 20 ≤ clause.text.length)
        ∧ clauses.flatMap clauseLines = bodyLines (sourceLines sourceText) := by
  have hparse : Ends (fun clauses => 1 ≤ clauses.length ∧ clauses.length ≤ 100
      ∧ (∀ clause ∈ clauses, 20 ≤ clause.text.length)
      ∧ clauses.flatMap clauseLines = bodyLines (sourceLines sourceText)) Refuses
      (parse sourceText applicability) := by
    unfold parse
    simp only
    apply (ends_ensure fun _ => ⟨_, rfl⟩).bind
    intro _ _
    apply (ends_foldlM hasRead_start _).bind
    . intro read hread
      apply (flush_ends applicability hread).bind
      rintro final ⟨hfinal, hempty⟩
      apply (ends_ensure fun _ => ⟨_, rfl⟩).bind
      intro _ hsome
      apply (ends_ensure fun _ => ⟨_, rfl⟩).bind
      intro _ hmany
      apply ends_pure
      refine ⟨List.length_pos_iff.mpr hsome, hmany, hfinal.clauses, ?_⟩
      have hbody := hfinal.body
      rw [hempty] at hbody
      simpa [bodyLines_strip, sourceLines] using hbody
    . intro items state line hline hread
      exact readLine_ends applicability hread (Lines.not_mem_of_mem_splitOn hline)
  unfold parsePolicySource
  cases hresult : parse sourceText applicability with
  | ok clauses =>
    rw [hresult] at hparse
    exact hparse
  | error failure =>
    rw [hresult] at hparse
    obtain ⟨message, rfl⟩ := hparse
    exact ⟨message, rfl⟩

end PolicyParser

end CaseResolution
