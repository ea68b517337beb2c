import CaseResolution.Cases.Impl.Seeding

/-!
This module contains what every operation of the case service writes to the tables a seeded case is
stored in, and when a seed command is recognized there.
-/

namespace CaseResolution

open Guard

/--
A case as it was when it was created, but for the columns its source tells.
-/
def CaseRow.seeded (case : CaseRow) : CaseRow :=
  { case with status := .new, ownerId := none, version := 1 }

namespace IntakeStore

/--
What the constraints of the tables promise: no public id occurs twice, a business object belongs to a
case, and amounts are as the column stores them.
-/
structure Sound (s : IntakeStore) : Prop where
  publicIds_nodup : (s.cases.map fun case => case.publicId).Nodup
  contextIds_nodup : (s.contexts.map fun context => context.publicId).Nodup
  contexts_owned : ∀ context ∈ s.contexts, context.caseId < s.cases.length
  amounts_stored : ∀ case ∈ s.cases, ∀ amount ∈ case.impactAmount, storedAmount amount = amount

theorem sound_empty : empty.Sound where
  publicIds_nodup := List.nodup_nil
  contextIds_nodup := List.nodup_nil
  contexts_owned := by simp [empty]
  amounts_stored := by simp [empty]

/--
What an operation may make of the tables: nothing is changed, a case is added with business objects of
its own, a case is changed in what does not identify it, or a business object is added to a case.
-/
inductive Writes (s : IntakeStore) : IntakeStore → Prop
  | unchanged : Writes s s
  | opens {case : CaseRow} {contexts : List BusinessObjectSnapshot}
      (fresh : ∀ other ∈ s.cases, other.publicId ≠ case.publicId)
      (stored : ∀ amount ∈ case.impactAmount, storedAmount amount = amount)
      (owned : ∀ context ∈ contexts, context.caseId = s.cases.length)
      (nodup : ((s.contexts ++ contexts).map fun context => context.publicId).Nodup)
      : Writes s { cases := s.cases ++ [case], contexts := s.contexts ++ contexts }
  | updates {caseId : Nat} {case case' : CaseRow} (found : s.cases[caseId]? = some case)
      (identity : (case'.publicId, case'.legacyTaskId) = (case.publicId, case.legacyTaskId))
      (amount : case'.impactAmount = case.impactAmount)
      : Writes s { s with cases := s.cases.set caseId case' }
  | records {caseId : Nat} {case case' : CaseRow} {record : BusinessObjectSnapshot}
      (found : s.cases[caseId]? = some case)
      (identity : (case'.publicId, case'.legacyTaskId) = (case.publicId, case.legacyTaskId))
      (amount : case'.impactAmount = case.impactAmount)
      (owned : record.caseId = caseId)
      (fresh : ∀ context ∈ s.contexts, context.publicId ≠ record.publicId)
      : Writes s { cases := s.cases.set caseId case', contexts := s.contexts ++ [record] }

section Sound

variable {s s' : IntakeStore} {caseId : Nat} {case case' : CaseRow}

theorem Sound.updates (h : s.Sound) (hfound : s.cases[caseId]? = some case)
    (hid : case'.publicId = case.publicId) (hamount : case'.impactAmount = case.impactAmount)
    : ({ s with cases := s.cases.set caseId case' } : IntakeStore).Sound where
  publicIds_nodup := by
    rw [List.map_set, hid, Rows.set_self (by rw [List.getElem?_map, hfound]; rfl)]
    exact h.publicIds_nodup
  contextIds_nodup := h.contextIds_nodup
  contexts_owned := by
    rw [List.length_set]
    exact h.contexts_owned
  amounts_stored := by
    intro other hmem
    cases List.mem_or_eq_of_mem_set hmem with
    | inl hold => exact h.amounts_stored other hold
    | inr heq =>
      rw [heq, hamount]
      exact h.amounts_stored case (List.mem_of_getElem? hfound)

theorem Sound.writes (h : s.Sound) (hwrites : Writes s s') : s'.Sound := by
  cases hwrites with
  | unchanged => exact h
  | @opens case contexts fresh stored owned nodup =>
    constructor
    . rw [List.map_append, List.map_singleton, List.nodup_append]
      refine ⟨h.publicIds_nodup, List.nodup_singleton _, ?_⟩
      simpa using fresh
    . exact nodup
    . intro context hmem
      rw [List.length_append]
      cases List.mem_append.mp hmem with
      | inl hold =>
        have hlt := h.contexts_owned context hold
        omega
      | inr hnew =>
        rw [owned context hnew]
        exact Nat.lt_succ_self _
    . intro other hmem
      cases List.mem_append.mp hmem with
      | inl hold => exact h.amounts_stored other hold
      | inr hnew => exact List.mem_singleton.mp hnew ▸ stored
  | updates found identity amount => exact h.updates found (congrArg Prod.fst identity) amount
  | @records caseId case case' record found identity amount owned fresh =>
    have hsound := h.updates found (congrArg Prod.fst identity) amount
    constructor
    . exact hsound.publicIds_nodup
    . rw [List.map_append, List.map_singleton, List.nodup_append]
      refine ⟨h.contextIds_nodup, List.nodup_singleton _, ?_⟩
      simpa using fresh
    . intro context hmem
      cases List.mem_append.mp hmem with
      | inl hold => exact hsound.contexts_owned context hold
      | inr hnew =>
        rw [List.mem_singleton.mp hnew, owned, List.length_set]
        exact (List.getElem?_eq_some_iff.mp found).1
    . exact hsound.amounts_stored

end Sound

/--
A case stays linked to its legacy task.
-/
theorem lineageCaseId_writes {s s' : IntakeStore} {legacyTaskId : Option Nat} {publicId : String}
    (hwrites : Writes s s') (h : s.lineageCaseId legacyTaskId = some publicId)
    : s'.lineageCaseId legacyTaskId = some publicId := by
  cases legacyTaskId with
  | none => simp [lineageCaseId] at h
  | some taskId =>
    -- The lineage reads of every case its identity only.
    have hidentity : ∀ t : IntakeStore, t.lineageCaseId (some taskId)
        = ((t.cases.map fun case => (case.publicId, case.legacyTaskId)).find?
          fun identity => identity.2 = some taskId).map Prod.fst := by
      intro t
      rw [List.find?_map, Option.map_map, Option.map_eq_bind]
      rfl
    have hset : ∀ {caseId : Nat} {case case' : CaseRow}, s.cases[caseId]? = some case →
        (case'.publicId, case'.legacyTaskId) = (case.publicId, case.legacyTaskId) →
        ((s.cases.set caseId case').map fun case => (case.publicId, case.legacyTaskId))
          = s.cases.map fun case => (case.publicId, case.legacyTaskId) := by
      intro caseId case case' hfound hsame
      rw [List.map_set, hsame, Rows.set_self (by rw [List.getElem?_map, hfound]; rfl)]
    rw [hidentity] at h ⊢
    cases hwrites with
    | unchanged => exact h
    | opens =>
      obtain ⟨identity, hfind, hfst⟩ := Option.map_eq_some_iff.mp h
      rw [List.map_append, List.find?_append, hfind, Option.some_or, Option.map_some, hfst]
    | updates found identity =>
      rw [hset found identity]
      exact h
    | records found identity =>
      rw [hset found identity]
      exact h

/--
An amount that is read back is stored as it is.
-/
theorem storedAmount_idem (amount : Rat) : storedAmount (storedAmount amount) = storedAmount amount := by
  unfold storedAmount
  congr 1
  rw [div_mul_cancel₀ _ (by norm_num)]
  norm_num [Int.floor_eq_iff]

section Operations

variable {s s' : IntakeStore} {case : CaseRow} {contexts : List BusinessObjectSnapshot} {caseId : Nat}

/--
A new case as it is read back.
-/
def readBack (case : CaseRow) : CaseRow :=
  { case with impactAmount := case.impactAmount.map storedAmount }

theorem insertCase_eq_ok
    : s.insertCase case contexts = .ok s'
        ↔ ((∀ other ∈ s.cases, other.publicId ≠ case.publicId)
            ∧ (∀ other ∈ s.cases, other.sourceId ≠ case.sourceId)
            ∧ (∀ amount ∈ case.impactAmount, amountFits amount = true)
            ∧ ((s.contexts ++ contexts).map fun context => context.publicId).Nodup)
          ∧ { cases := s.cases ++ [readBack case], contexts := s.contexts ++ contexts } = s' := by
  simp only [insertCase, ensure_bind_eq_ok, pure_eq_ok, and_assoc]
  rfl

theorem insertCase_writes (h : s.insertCase case contexts = .ok s')
    (howned : ∀ context ∈ contexts, context.caseId = s.cases.length) : Writes s s' := by
  obtain ⟨⟨hfresh, _, _, hnodup⟩, rfl⟩ := insertCase_eq_ok.mp h
  apply @Writes.opens s (readBack case) contexts hfresh _ howned hnodup
  intro amount hamount
  obtain ⟨exact, _, rfl⟩ := Option.map_eq_some_iff.mp hamount
  exact storedAmount_idem exact

theorem updateCase_eq_ok {expectedVersion : Nat} {status : CaseStatus} {ownerId : Option Nat}
    : s.updateCase caseId expectedVersion status ownerId = .ok s'
        ↔ ∃ case, s.cases[caseId]? = some case ∧ case.version = expectedVersion
          ∧ { s with
              cases :=
                s.cases.set caseId { case with status, ownerId, version := case.version + 1 } } = s' := by
  simp only [updateCase, orThrow_bind_eq_ok, ensure_bind_eq_ok, pure_eq_ok]

/--
The tables with a message of the inbox for a case.
-/
def withMessage (s : IntakeStore) (caseId : Nat) (receivedAt : Instant) (case : CaseRow) : IntakeStore :=
  { s with
    cases := s.cases.set caseId { case with
      version := case.version + 1
      sourceCheckedAt := some receivedAt
      sourceFreshness := .current } }

theorem appendMessage_eq_ok {receivedAt : Instant}
    : s.appendMessage caseId receivedAt = .ok s'
        ↔ ∃ case, s.cases[caseId]? = some case ∧ s.withMessage caseId receivedAt case = s' := by
  simp only [appendMessage, orThrow_bind_eq_ok, pure_eq_ok]
  rfl

/--
The evidence is a new business object of the case and is accepted.
-/
structure Adds [Digest] (s : IntakeStore) (now : Instant) (caseId expectedCaseVersion : Nat)
    (evidence : BusinessEvidenceCreate) (case : CaseRow) : Prop where
  found : s.cases[caseId]? = some case
  expected : case.version = expectedCaseVersion
  unknown : s.existingEvidence caseId evidence = none
  fresh : ∀ context ∈ s.contexts,
    context.publicId ≠ (Store.newContext case.case caseId evidence now).publicId

/--
The tables with new evidence for a case.
-/
def withEvidence [Digest] (s : IntakeStore) (now : Instant) (caseId : Nat)
    (evidence : BusinessEvidenceCreate) (case : CaseRow) : IntakeStore where
  cases := s.cases.set caseId { case with version := case.version + 1 }
  contexts := s.contexts ++ [Store.newContext case.case caseId evidence now]

theorem addBusinessEvidence_eq_ok [Digest] {now : Instant} {expectedCaseVersion : Nat}
    {evidence : BusinessEvidenceCreate}
    : s.addBusinessEvidence now caseId expectedCaseVersion evidence = .ok s'
        ↔ (∃ case, s.Adds now caseId expectedCaseVersion evidence case
            ∧ s.withEvidence now caseId evidence case = s')
          ∨ ∃ case existing, s.cases[caseId]? = some case
            ∧ s.existingEvidence caseId evidence = some existing
            ∧ Store.matchesBusinessEvidence existing evidence = true ∧ s = s' := by
  unfold addBusinessEvidence
  rw [orThrow_bind_eq_ok]
  cases hexisting : s.existingEvidence caseId evidence with
  | some existing =>
    simp only [ensure_bind_eq_ok, pure_eq_ok]
    constructor
    . rintro ⟨case, hfound, hmatches, heq⟩
      exact .inr ⟨case, existing, hfound, rfl, hmatches, heq⟩
    . rintro (⟨case, hadds, _⟩ | ⟨case, other, hfound, hother, hmatches, heq⟩)
      . exact absurd (hexisting.symm.trans hadds.unknown) (by simp)
      . cases hother
        exact ⟨case, hfound, hmatches, heq⟩
  | none =>
    simp only [bind_eq_ok, updateCase_eq_ok, ensure_eq_ok, pure_eq_ok]
    constructor
    . rintro ⟨case, hfound, updated, ⟨same, hsame, hversion, rfl⟩, _, hfresh, heq⟩
      obtain rfl : case = same := Option.some.inj (hfound.symm.trans hsame)
      exact .inl ⟨case, ⟨hfound, hversion, hexisting, hfresh⟩, heq⟩
    . rintro (⟨case, hadds, heq⟩ | ⟨_, existing, _, hother, _⟩)
      . apply Exists.intro case
        apply And.intro hadds.found
        exact ⟨_, ⟨case, hadds.found, hadds.expected, rfl⟩, ⟨⟩, hadds.fresh, heq⟩
      . cases hother

theorem openInboxCase_writes [Digest] {inboxCase : InboxCase}
    (h : s.openInboxCase inboxCase = .ok s') : Writes s s' := by
  simp only [openInboxCase, ensure_bind_eq_ok] at h
  apply insertCase_writes h.2
  simp

theorem withEvidence_writes [Digest] {now : Instant} {expectedCaseVersion : Nat}
    {evidence : BusinessEvidenceCreate} (h : s.Adds now caseId expectedCaseVersion evidence case)
    : Writes s (s.withEvidence now caseId evidence case) := by
  apply Writes.records h.found
  . rfl
  . rfl
  . rfl
  . exact h.fresh

/--
A seed command either finds its case or stores it with its business objects.
-/
theorem seedCase_cases [TextCollation] {command : CaseCreate} {legacyTaskId : Option Nat}
    {workspace : CaseWorkspaceRecord} {created : Bool}
    (h : s.seedCase command legacyTaskId = .ok (s', workspace, created))
    : (s' = s ∧ created = false)
      ∨ created = true ∧ s.lineageCaseId legacyTaskId = none
        ∧ s.insertCase (newCase command legacyTaskId)
          (command.businessContexts.map fun context => context.snapshot s.cases.length) = .ok s' := by
  unfold seedCase at h
  split at h
  . simp only [bind_eq_ok, ensure_eq_ok, pure_eq_ok, Prod.mk.injEq] at h
    obtain ⟨_, _, _, _, hs, _, hcreated⟩ := h
    exact .inl ⟨hs.symm, hcreated.symm⟩
  . next hlineage =>
    split at h
    . simp only [ensure_bind_eq_ok, pure_eq_ok, Prod.mk.injEq] at h
      obtain ⟨_, hs, _, hcreated⟩ := h
      exact .inl ⟨hs.symm, hcreated.symm⟩
    . simp only [bind_eq_ok, ensure_eq_ok, pure_eq_ok, Prod.mk.injEq] at h
      obtain ⟨stored, hinsert, _, _, _, _, _, _, rfl, _, hcreated⟩ := h
      exact .inr ⟨hcreated.symm, hlineage, hinsert⟩

theorem seedCase_writes [TextCollation] {command : CaseCreate} {legacyTaskId : Option Nat}
    {workspace : CaseWorkspaceRecord} {created : Bool}
    (h : s.seedCase command legacyTaskId = .ok (s', workspace, created)) : Writes s s' := by
  rcases seedCase_cases h with ⟨rfl, _⟩ | ⟨_, _, hinsert⟩
  . exact .unchanged
  . apply insertCase_writes hinsert
    intro context hmem
    obtain ⟨_, _, rfl⟩ := List.mem_map.mp hmem
    rfl

end Operations

end IntakeStore

section Service

variable [Digest] [TextCollation] {s : IntakeStore}

theorem intake_writes (s : IntakeStore) (command : IntakeCommand)
    : s.Writes (intake.next s command) := by
  apply Machine.next_cases
  . exact .unchanged
  intro s' output h
  cases command with
  | seedCase command legacyTaskId =>
    obtain ⟨⟨_, _, _⟩, hseed, heq⟩ := bind_eq_ok.mp h
    cases heq
    exact IntakeStore.seedCase_writes hseed
  | openInboxCase inboxCase =>
    obtain ⟨_, hopen, heq⟩ := bind_eq_ok.mp h
    cases heq
    exact IntakeStore.openInboxCase_writes hopen
  | updateCase caseId expectedVersion status ownerId =>
    obtain ⟨_, hupdate, heq⟩ := bind_eq_ok.mp h
    cases heq
    obtain ⟨case, hfound, _, rfl⟩ := IntakeStore.updateCase_eq_ok.mp hupdate
    exact .updates hfound rfl rfl
  | addBusinessEvidence now caseId expectedCaseVersion evidence =>
    obtain ⟨_, hadd, heq⟩ := bind_eq_ok.mp h
    cases heq
    rcases IntakeStore.addBusinessEvidence_eq_ok.mp hadd with
      ⟨case, hadds, rfl⟩ | ⟨_, _, _, _, _, rfl⟩
    . exact IntakeStore.withEvidence_writes hadds
    . exact .unchanged
  | appendMessage caseId receivedAt =>
    obtain ⟨_, happend, heq⟩ := bind_eq_ok.mp h
    cases heq
    obtain ⟨case, hfound, rfl⟩ := IntakeStore.appendMessage_eq_ok.mp happend
    exact .updates hfound rfl rfl

theorem intake_sound (h : s.Sound) (command : IntakeCommand) : (intake.next s command).Sound :=
  h.writes (intake_writes s command)

end Service

end CaseResolution
