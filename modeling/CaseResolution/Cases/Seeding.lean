import CaseResolution.Cases.Lemmas.Seeding
import CaseResolution.Cases.Queue
import Mathlib.Data.List.Dedup

/-!
This module contains the proof of when a seed command that was accepted is recognized again in every
later state of its case.
-/

namespace CaseResolution

open Guard IntakeStore

namespace IntakeStore

variable {s : IntakeStore} {command : CaseCreate}

theorem caseContexts_ids_nodup (h : s.Sound) (caseId : Nat)
    : ((s.caseContexts caseId).map fun context => context.publicId).Nodup :=
  h.contextIds_nodup.sublist (List.filter_sublist.map _)

theorem caseId_eq_of_publicId (h : s.Sound) {i j : Nat} {a b : CaseRow} (ha : s.cases[i]? = some a)
    (hb : s.cases[j]? = some b) (hid : a.publicId = b.publicId) : i = j := by
  have hi := (Rows.findIdx?_key_eq_some_iff h.publicIds_nodup).mpr ⟨a, ha, hid⟩
  have hj := (Rows.findIdx?_key_eq_some_iff h.publicIds_nodup).mpr ⟨b, hb, rfl⟩
  rw [hi, Option.some.injEq] at hj
  exact hj

/--
The business objects of a new case are those it was created with.
-/
theorem caseContexts_new (h : s.Sound) {contexts : List BusinessObjectSnapshot} {cases : List CaseRow}
    (howned : ∀ context ∈ contexts, context.caseId = s.cases.length)
    : caseContexts { cases, contexts := s.contexts ++ contexts } s.cases.length = contexts := by
  unfold caseContexts
  rw [List.filter_append, List.filter_eq_nil_iff.mpr, List.filter_eq_self.mpr, List.nil_append]
  . simpa using howned
  . intro context hmem
    have hlt := h.contexts_owned context hmem
    rw [decide_eq_true_eq]
    omega

section Kept

variable {s' : IntakeStore} {caseId otherId : Nat} {case other : CaseRow}

theorem insertCase_kept {contexts : List BusinessObjectSnapshot}
    (hinsert : s.insertCase other contexts = .ok s')
    (howned : ∀ context ∈ contexts, context.caseId = s.cases.length)
    (hfound : s.cases[caseId]? = some case)
    : s'.cases[caseId]? = some case ∧ s'.caseContexts caseId = s.caseContexts caseId := by
  have hlt := (List.getElem?_eq_some_iff.mp hfound).1
  obtain ⟨_, rfl⟩ := insertCase_eq_ok.mp hinsert
  constructor
  . rw [List.getElem?_append_left hlt, hfound]
  . unfold caseContexts
    have hnone : contexts.filter (fun context => context.caseId = caseId) = [] := by
      rw [List.filter_eq_nil_iff]
      intro context hmem
      rw [decide_eq_true_eq, howned context hmem]
      omega
    rw [List.filter_append, hnone, List.append_nil]

/--
A row that is written keeps a case as seeded, if it is another one or seeded as before.
-/
theorem set_kept (written : CaseRow) (hfound : s.cases[caseId]? = some case)
    (hother : s.cases[otherId]? = some other) (hrow : otherId = caseId → written.seeded = other.seeded)
    : ∃ case', (s.cases.set otherId written)[caseId]? = some case' ∧ case'.seeded = case.seeded := by
  by_cases heq : otherId = caseId
  . subst heq
    obtain rfl : case = other := Option.some.inj (hfound.symm.trans hother)
    exact ⟨written, by rw [List.getElem?_set_self (List.getElem?_eq_some_iff.mp hfound).1], hrow rfl⟩
  . exact ⟨case, by rw [List.getElem?_set_ne heq, hfound], rfl⟩

end Kept

theorem matchesSeed_iff {existing : CaseWorkspaceRecord}
    : existing.case.publicId = command.publicId
          ∧ (existing.case.legacyTaskId = none ∧ existing.case.sourceId = command.sourceId
            ∧ matchesSeed existing command = true)
        ↔ existing.case.seeded = (newCase command none).seeded
          ∧ Entries.Same BusinessObjectCreate.publicId
            (existing.businessContexts.map BusinessObjectSnapshot.seed) command.businessContexts := by
  simp only [matchesSeed, CaseRow.seeded, newCase, CaseRow.mk.injEq, decide_eq_true_eq]
  tauto

variable [TextCollation]

/--
Sending the seed command finds the case and changes nothing.
-/
def Recognizes (s : IntakeStore) (command : CaseCreate) (legacyTaskId : Option Nat) : Prop :=
  ∃ workspace, s.seedCase command legacyTaskId = .ok (s, workspace, false)

section Workspace

variable {caseId : Nat} {case : CaseRow}

theorem contextKeys_nodup (h : s.Sound) (caseId : Nat)
    : ((s.caseContexts caseId).map contextKey).Nodup := by
  apply List.Nodup.of_map fun key => (ofLex key).2
  rw [List.map_map]
  have hids := (caseContexts_ids_nodup h caseId).map TextCollation.sortKey_injective
  rw [List.map_map] at hids
  exact hids

theorem newestContexts_ids_nodup (h : s.Sound) (caseId : Nat)
    : ((s.newestContexts caseId).map fun context => context.publicId).Nodup := by
  have hperm : (Keyset.descending contextKey (s.caseContexts caseId)).Perm (s.caseContexts caseId) :=
    Keyset.descending_perm
  have hsorted := (hperm.map fun context => context.publicId).nodup_iff.mpr
    (caseContexts_ids_nodup h caseId)
  exact hsorted.sublist ((List.take_sublist _ _).map _)

theorem newestContexts_length (s : IntakeStore) (caseId : Nat)
    : (s.newestContexts caseId).length ≤ caseWorkspaceBusinessContextLimit :=
  List.length_take_le _ _

/--
The workspace that is read for a public id is the one of the case with that id.
-/
theorem getWorkspace_eq_some_iff (h : s.Sound) {publicId : String} {workspace : CaseWorkspaceRecord}
    : s.getWorkspace publicId = some workspace
        ↔ ∃ caseId case, s.cases[caseId]? = some case ∧ case.publicId = publicId
          ∧ s.workspace caseId case = workspace := by
  have hfind : ∀ caseId, s.findCase publicId = some caseId
      ↔ ∃ case, s.cases[caseId]? = some case ∧ case.publicId = publicId := by
    intro caseId
    exact Rows.findIdx?_key_eq_some_iff h.publicIds_nodup
  simp only [getWorkspace, Option.bind_eq_bind, Option.bind_eq_some_iff, Option.pure_def,
    Option.some.injEq]
  constructor
  . rintro ⟨caseId, hfound, case, hcase, heq⟩
    obtain ⟨same, hsame, hid⟩ := (hfind caseId).mp hfound
    obtain rfl : case = same := Option.some.inj (hcase.symm.trans hsame)
    exact ⟨caseId, case, hcase, hid, heq⟩
  . rintro ⟨caseId, case, hcase, hid, heq⟩
    exact ⟨caseId, (hfind caseId).mpr ⟨case, hcase, hid⟩, case, hcase, heq⟩

/--
The order the business objects of a workspace stand in does not matter.
-/
theorem workspace_same_iff (h : s.Sound) {expected : List BusinessObjectCreate}
    : Entries.Same BusinessObjectCreate.publicId
          ((s.workspace caseId case).businessContexts.map BusinessObjectSnapshot.seed) expected
        ↔ Entries.Same BusinessObjectCreate.publicId
          ((s.newestContexts caseId).map BusinessObjectSnapshot.seed) expected := by
  have hperm : (s.workspace caseId case).businessContexts.Perm (s.newestContexts caseId) :=
    List.perm_insertionSort _ _
  have hids := newestContexts_ids_nodup h caseId
  have hsame : Entries.Same BusinessObjectCreate.publicId
      ((s.workspace caseId case).businessContexts.map BusinessObjectSnapshot.seed)
      ((s.newestContexts caseId).map BusinessObjectSnapshot.seed) := by
    apply Entries.same_of_mem_iff
    . rw [List.map_map]
      exact (hperm.map fun context => context.publicId).nodup_iff.mpr hids
    . rw [List.map_map]
      exact hids
    . intro context
      exact (hperm.map _).mem_iff
  constructor
  . exact hsame.symm.trans
  . exact hsame.trans

end Workspace

section Recognized

variable {caseId : Nat} {case : CaseRow}

/--
The case at `caseId` is as the command seeds it, and so are its newest business objects.
-/
def SeededAt (s : IntakeStore) (command : CaseCreate) (caseId : Nat) (case : CaseRow) : Prop :=
  case.seeded = (newCase command none).seeded
    ∧ Entries.Same BusinessObjectCreate.publicId
      ((s.newestContexts caseId).map BusinessObjectSnapshot.seed) command.businessContexts

theorem recognizes_iff (h : s.Sound)
    : s.Recognizes command none
        ↔ ∃ caseId case, s.cases[caseId]? = some case ∧ s.SeededAt command caseId case := by
  have hlineage : s.lineageCaseId none = none := rfl
  constructor
  . rintro ⟨workspace, hseed⟩
    unfold seedCase at hseed
    rw [hlineage] at hseed
    simp only at hseed
    split at hseed
    . next existing hexisting =>
      rw [ensure_bind_eq_ok] at hseed
      obtain ⟨caseId, case, hcase, hid, rfl⟩ := (getWorkspace_eq_some_iff h).mp hexisting
      obtain ⟨hseeded, hsame⟩ := matchesSeed_iff.mp ⟨hid, hseed.1⟩
      exact ⟨caseId, case, hcase, hseeded, (workspace_same_iff h).mp hsame⟩
    . simp only [bind_eq_ok, pure_eq_ok, Prod.mk.injEq] at hseed
      obtain ⟨_, _, _, _, _, _, _, _, _, _, hcreated⟩ := hseed
      cases hcreated
  . rintro ⟨caseId, case, hcase, hseeded, hsame⟩
    obtain ⟨hid, hmatches⟩ := matchesSeed_iff.mpr
      (⟨hseeded, (workspace_same_iff h).mpr hsame⟩ : (s.workspace caseId case).case.seeded = _ ∧ _)
    have hexisting := (getWorkspace_eq_some_iff h).mpr ⟨caseId, case, hcase, hid, rfl⟩
    apply Exists.intro (s.workspace caseId case)
    unfold seedCase
    rw [hlineage]
    simp only
    rw [hexisting]
    simp only [ensure_bind_eq_ok, pure_eq_ok, and_true]
    exact hmatches

/--
Only the case with the public id of the command counts.
-/
theorem recognizes_iff_of_found (h : s.Sound) (hfound : s.cases[caseId]? = some case)
    (hid : case.publicId = command.publicId)
    : s.Recognizes command none ↔ s.SeededAt command caseId case := by
  rw [recognizes_iff h]
  constructor
  . rintro ⟨otherId, other, hother, hseeded⟩
    have hotherId : other.publicId = command.publicId := congrArg CaseRow.publicId hseeded.1
    obtain rfl := caseId_eq_of_publicId h hother hfound (hotherId.trans hid.symm)
    obtain rfl : case = other := Option.some.inj (hfound.symm.trans hother)
    exact hseeded
  . intro hseeded
    exact ⟨caseId, case, hfound, hseeded⟩

end Recognized

section Created

/--
The page of a case and the columns of its row hold what the command seeds.
-/
def Storable (command : CaseCreate) : Prop :=
  (command.businessContexts.map BusinessObjectCreate.publicId).dedup.length
      ≤ caseWorkspaceBusinessContextLimit
    ∧ ∀ amount ∈ command.impactAmount, storedAmount amount = amount

instance (command : CaseCreate) : Decidable (Storable command) :=
  inferInstanceAs (Decidable (_ ∧ _))

theorem Recognizes.storable (h : s.Sound) (hrecognizes : s.Recognizes command none)
    : Storable command := by
  obtain ⟨caseId, case, hcase, hseeded, hsame⟩ := (recognizes_iff h).mp hrecognizes
  constructor
  . have hsubset : (command.businessContexts.map BusinessObjectCreate.publicId).dedup
        ⊆ ((s.newestContexts caseId).map BusinessObjectSnapshot.seed).map
          BusinessObjectCreate.publicId := by
      intro publicId hmem
      exact hsame.mem_keys_iff.mpr (List.mem_dedup.mp hmem)
    have hle := (List.subperm_of_subset (List.nodup_dedup _) hsubset).length_le
    rw [List.length_map, List.length_map] at hle
    exact hle.trans (newestContexts_length s caseId)
  . have hamount : case.impactAmount = command.impactAmount := congrArg CaseRow.impactAmount hseeded
    rw [← hamount]
    exact h.amounts_stored case (List.mem_of_getElem? hcase)

theorem created_recognizes_iff (h : s.Sound) {s' : IntakeStore}
    (hinsert : s.insertCase (newCase command none)
      (command.businessContexts.map fun context => context.snapshot s.cases.length) = .ok s')
    (hsound : s'.Sound) : s'.Recognizes command none ↔ Storable command := by
  constructor
  . exact Recognizes.storable hsound
  rintro ⟨hcount, hamount⟩
  obtain ⟨_, heq⟩ := insertCase_eq_ok.mp hinsert
  have hcase : s'.cases[s.cases.length]? = some (readBack (newCase command none)) := by
    rw [← heq]
    exact List.getElem?_concat_length
  have hcontexts : s'.caseContexts s.cases.length
      = command.businessContexts.map fun context => context.snapshot s.cases.length := by
    rw [← heq]
    apply caseContexts_new h
    intro context hmem
    obtain ⟨_, _, rfl⟩ := List.mem_map.mp hmem
    rfl
  rw [recognizes_iff_of_found hsound hcase rfl]
  constructor
  . have hkept : (newCase command none).impactAmount.map storedAmount = command.impactAmount :=
      Option.map_congr hamount |>.trans Option.map_id'
    simp only [CaseRow.seeded, readBack, hkept]
    rfl
  . have hnodup := caseContexts_ids_nodup hsound s.cases.length
    rw [hcontexts, List.map_map] at hnodup
    have hids : (command.businessContexts.map BusinessObjectCreate.publicId).Nodup := hnodup
    rw [hids.dedup, List.length_map] at hcount
    -- All of the records fit on the page.
    have hpage : (s'.newestContexts s.cases.length).Perm
        (command.businessContexts.map fun context => context.snapshot s.cases.length) := by
      unfold newestContexts
      rw [hcontexts, List.take_of_length_le]
      . exact Keyset.descending_perm
      . rw [Keyset.descending_perm.length_eq, List.length_map]
        exact hcount
    apply Entries.same_of_mem_iff
    . rw [List.map_map]
      exact newestContexts_ids_nodup hsound s.cases.length
    . exact hids
    . intro context
      rw [(hpage.map BusinessObjectSnapshot.seed).mem_iff, List.map_map]
      simp [Function.comp_def]

end Created

section Kept

variable {s' : IntakeStore} {caseId : Nat} {case case' : CaseRow}

/--
A case whose row and business objects are as before is recognized as before.
-/
theorem recognizes_of_kept (hsound : s'.Sound) (hseeded : s.SeededAt command caseId case)
    (hfound : s'.cases[caseId]? = some case') (hrow : case'.seeded = case.seeded)
    (hcontexts : s'.caseContexts caseId = s.caseContexts caseId)
    : s'.Recognizes command none := by
  rw [recognizes_iff hsound]
  apply Exists.intro caseId
  apply Exists.intro case'
  refine ⟨hfound, hrow.trans hseeded.1, ?_⟩
  unfold newestContexts
  rw [hcontexts]
  exact hseeded.2

end Kept

section Page

/--
New evidence leaves the page of its case alone exactly when the page is full of newer business objects.
-/
theorem newestContexts_append_same_iff {s s' : IntakeStore} {caseId : Nat}
    {record : BusinessObjectSnapshot} (h : s.Sound) (hsound : s'.Sound)
    (happend : s'.caseContexts caseId = s.caseContexts caseId ++ [record])
    (hfresh : ∀ context ∈ s.contexts, context.publicId ≠ record.publicId)
    : Entries.Same BusinessObjectCreate.publicId
          ((s'.newestContexts caseId).map BusinessObjectSnapshot.seed)
          ((s.newestContexts caseId).map BusinessObjectSnapshot.seed)
        ↔ caseWorkspaceBusinessContextLimit
          ≤ ((s.caseContexts caseId).filter fun context =>
            contextKey record < contextKey context).length := by
  have hkeys := contextKeys_nodup hsound caseId
  constructor
  . intro hsame
    by_contra hfew
    -- The record is on the new page, but its public id is not on the old one.
    have hnew : record ∈ s'.newestContexts caseId := by
      unfold newestContexts
      rw [Keyset.mem_take_descending hkeys, happend, List.filter_append, List.length_append]
      constructor
      . exact List.mem_append_right _ List.mem_cons_self
      . simpa using hfew
    have hid : record.publicId ∈ ((s.newestContexts caseId).map BusinessObjectSnapshot.seed).map
        BusinessObjectCreate.publicId := by
      rw [← hsame.mem_keys_iff, List.map_map]
      exact List.mem_map_of_mem hnew
    rw [List.map_map] at hid
    obtain ⟨context, hmem, heq⟩ := List.mem_map.mp hid
    have hold : context ∈ s.caseContexts caseId := by
      have hperm : (Keyset.descending contextKey (s.caseContexts caseId)).Perm (s.caseContexts caseId) :=
        Keyset.descending_perm
      exact hperm.mem_iff.mp (List.mem_of_mem_take hmem)
    exact hfresh context (List.mem_filter.mp hold).1 heq
  . intro hfull
    rw [happend] at hkeys
    apply Entries.same_of_mem_iff
    . rw [List.map_map]
      exact newestContexts_ids_nodup hsound caseId
    . rw [List.map_map]
      exact newestContexts_ids_nodup h caseId
    . intro context
      simp only [List.mem_map, newestContexts, happend]
      simp only [Keyset.mem_take_descending_append hkeys hfull]

end Page

end IntakeStore

section Steps

variable [Digest] [TextCollation] {s : IntakeStore} {command : CaseCreate}

/--
The command adds no evidence to the seeded case that would come onto its page, and no message that
tells something else about its source than the seed does.
-/
def KeepsSeed (command : CaseCreate) (s : IntakeStore) : IntakeCommand → Prop
  | .addBusinessEvidence now caseId expectedCaseVersion evidence =>
    ∀ case, s.Adds now caseId expectedCaseVersion evidence case → case.publicId = command.publicId →
      caseWorkspaceBusinessContextLimit ≤ ((s.caseContexts caseId).filter fun context =>
        contextKey (Store.newContext case.case caseId evidence now) < contextKey context).length
  | .appendMessage caseId receivedAt =>
    ∀ case, s.cases[caseId]? = some case → case.publicId = command.publicId →
      command.sourceCheckedAt = some receivedAt ∧ command.sourceFreshness = .current
  | _ => True

theorem recognizes_withEvidence_iff {now : Instant} {caseId expectedCaseVersion : Nat}
    {evidence : BusinessEvidenceCreate} {case : CaseRow} (h : s.Sound)
    (hadds : s.Adds now caseId expectedCaseVersion evidence case)
    (hseeded : s.SeededAt command caseId case)
    : (s.withEvidence now caseId evidence case).Recognizes command none
        ↔ caseWorkspaceBusinessContextLimit ≤ ((s.caseContexts caseId).filter fun context =>
          contextKey (Store.newContext case.case caseId evidence now) < contextKey context).length := by
  have hsound := h.writes (withEvidence_writes hadds)
  have hlt := (List.getElem?_eq_some_iff.mp hadds.found).1
  have hid : case.publicId = command.publicId := congrArg CaseRow.publicId hseeded.1
  have hfound : (s.withEvidence now caseId evidence case).cases[caseId]?
      = some { case with version := case.version + 1 } := List.getElem?_set_self hlt
  have happend : (s.withEvidence now caseId evidence case).caseContexts caseId
      = s.caseContexts caseId ++ [Store.newContext case.case caseId evidence now] := by
    unfold IntakeStore.withEvidence IntakeStore.caseContexts
    simp [Store.newContext]
  rw [recognizes_iff_of_found hsound hfound hid,
    ← newestContexts_append_same_iff h hsound happend hadds.fresh]
  constructor
  . intro hafter
    exact hafter.2.trans hseeded.2.symm
  . intro hsame
    exact ⟨hseeded.1, hsame.trans hseeded.2⟩

omit [Digest] in
theorem recognizes_withMessage_iff {caseId : Nat} {receivedAt : Instant} {case : CaseRow}
    (h : s.Sound) (hfound : s.cases[caseId]? = some case) (hseeded : s.SeededAt command caseId case)
    : (s.withMessage caseId receivedAt case).Recognizes command none
        ↔ command.sourceCheckedAt = some receivedAt ∧ command.sourceFreshness = .current := by
  have hsound : (s.withMessage caseId receivedAt case).Sound := h.updates hfound rfl rfl
  have hlt := (List.getElem?_eq_some_iff.mp hfound).1
  have hid : case.publicId = command.publicId := congrArg CaseRow.publicId hseeded.1
  rw [recognizes_iff_of_found hsound (List.getElem?_set_self hlt) hid]
  obtain ⟨hrow, hcontexts⟩ := hseeded
  constructor
  . intro hafter
    constructor
    . exact (congrArg CaseRow.sourceCheckedAt hafter.1).symm
    . exact (congrArg CaseRow.sourceFreshness hafter.1).symm
  . rintro ⟨hchecked, hfreshness⟩
    refine ⟨?_, hcontexts⟩
    calc
      _ = { case.seeded with sourceCheckedAt := some receivedAt, sourceFreshness := .current } := rfl
      _ = { (newCase command none).seeded with
            sourceCheckedAt := command.sourceCheckedAt
            sourceFreshness := command.sourceFreshness } := by
        rw [hrow, hchecked, hfreshness]
      _ = (newCase command none).seeded := rfl

theorem addBusinessEvidence_next {now : Instant} {caseId expectedCaseVersion : Nat}
    {evidence : BusinessEvidenceCreate} {case : CaseRow}
    (hadds : s.Adds now caseId expectedCaseVersion evidence case)
    : intake.next s (.addBusinessEvidence now caseId expectedCaseVersion evidence)
        = s.withEvidence now caseId evidence case := by
  have hok := addBusinessEvidence_eq_ok.mpr (.inl ⟨case, hadds, rfl⟩)
  have hstep : intake.step s (.addBusinessEvidence now caseId expectedCaseVersion evidence)
      = .ok (s.withEvidence now caseId evidence case, none) := bind_eq_ok.mpr ⟨_, hok, rfl⟩
  exact Machine.next_of_ok hstep

theorem appendMessage_next {caseId : Nat} {receivedAt : Instant} {case : CaseRow}
    (hfound : s.cases[caseId]? = some case)
    : intake.next s (.appendMessage caseId receivedAt) = s.withMessage caseId receivedAt case := by
  have hok := appendMessage_eq_ok.mpr ⟨case, hfound, (rfl : s.withMessage caseId receivedAt case = _)⟩
  have hstep : intake.step s (.appendMessage caseId receivedAt)
      = .ok (s.withMessage caseId receivedAt case, none) := bind_eq_ok.mpr ⟨_, hok, rfl⟩
  exact Machine.next_of_ok hstep

theorem addBusinessEvidence_next_iff {now : Instant} {otherId expectedCaseVersion : Nat}
    {evidence : BusinessEvidenceCreate} {caseId : Nat} {case : CaseRow} (h : s.Sound)
    (hfound : s.cases[caseId]? = some case) (hseeded : s.SeededAt command caseId case)
    : (intake.next s (.addBusinessEvidence now otherId expectedCaseVersion evidence)).Recognizes command none
        ↔ KeepsSeed command s (.addBusinessEvidence now otherId expectedCaseVersion evidence) := by
  have hid : case.publicId = command.publicId := congrArg CaseRow.publicId hseeded.1
  by_cases hadded : ∃ other, s.Adds now otherId expectedCaseVersion evidence other
  . obtain ⟨other, hadds⟩ := hadded
    rw [addBusinessEvidence_next hadds]
    by_cases hsame : otherId = caseId
    . subst hsame
      obtain rfl : case = other := Option.some.inj (hfound.symm.trans hadds.found)
      rw [recognizes_withEvidence_iff h hadds hseeded]
      constructor
      . intro hfull same hagain _
        obtain rfl : case = same := Option.some.inj (hfound.symm.trans hagain.found)
        exact hfull
      . intro hkeeps
        exact hkeeps case hadds hid
    . apply iff_of_true
      . obtain ⟨case', hkept, hrow⟩ :=
          set_kept { other with version := other.version + 1 } hfound hadds.found fun _ => rfl
        apply recognizes_of_kept (h.writes (withEvidence_writes hadds)) hseeded hkept hrow
        unfold IntakeStore.withEvidence IntakeStore.caseContexts
        simp [Store.newContext, hsame]
      . intro same hagain hsameId
        exact absurd (caseId_eq_of_publicId h hagain.found hfound (hsameId.trans hid.symm)) hsame
  . apply iff_of_true
    . have hnext : intake.next s (.addBusinessEvidence now otherId expectedCaseVersion evidence) = s := by
        apply Machine.next_cases (P := fun t => t = s)
        . rfl
        . intro s' output hstep
          obtain ⟨_, hok, heq⟩ := bind_eq_ok.mp hstep
          cases heq
          rcases addBusinessEvidence_eq_ok.mp hok with ⟨other, hadds, _⟩ | ⟨_, _, _, _, _, heq⟩
          . exact absurd ⟨other, hadds⟩ hadded
          . exact heq.symm
      rw [hnext, recognizes_iff_of_found h hfound hid]
      exact hseeded
    . intro other hadds _
      exact absurd ⟨other, hadds⟩ hadded

theorem appendMessage_next_iff {otherId : Nat} {receivedAt : Instant} {caseId : Nat} {case : CaseRow}
    (h : s.Sound) (hfound : s.cases[caseId]? = some case) (hseeded : s.SeededAt command caseId case)
    : (intake.next s (.appendMessage otherId receivedAt)).Recognizes command none
        ↔ KeepsSeed command s (.appendMessage otherId receivedAt) := by
  have hid : case.publicId = command.publicId := congrArg CaseRow.publicId hseeded.1
  have hsound : (intake.next s (.appendMessage otherId receivedAt)).Sound := intake_sound h _
  cases hother : s.cases[otherId]? with
  | none =>
    have hrefused : intake.step s (.appendMessage otherId receivedAt)
        = .error (.caseNotFound "The case was not found.") := by
      simp [intake, IntakeStore.appendMessage, hother, orThrow, bind, Except.bind]
    rw [Machine.next_of_error hrefused, recognizes_iff_of_found h hfound hid]
    apply iff_of_true hseeded
    intro same hagain
    rw [hother] at hagain
    cases hagain
  | some other =>
    rw [appendMessage_next hother] at hsound ⊢
    by_cases hsame : otherId = caseId
    . subst hsame
      obtain rfl : case = other := Option.some.inj (hfound.symm.trans hother)
      rw [recognizes_withMessage_iff h hfound hseeded]
      constructor
      . intro hsource _ _ _
        exact hsource
      . intro hkeeps
        exact hkeeps case hfound hid
    . apply iff_of_true
      . have hkept : (s.withMessage otherId receivedAt other).cases[caseId]? = some case :=
          (List.getElem?_set_ne hsame).trans hfound
        exact recognizes_of_kept hsound hseeded hkept rfl rfl
      . intro same hagain hsameId
        exact absurd (caseId_eq_of_publicId h hagain hfound (hsameId.trans hid.symm)) hsame

/--
A recognized seed command stays recognized through a step exactly when the step keeps it.
-/
theorem recognizes_next_iff (h : s.Sound) (hrecognizes : s.Recognizes command none)
    (i : IntakeCommand) : (intake.next s i).Recognizes command none ↔ KeepsSeed command s i := by
  have hsound : (intake.next s i).Sound := intake_sound h i
  obtain ⟨caseId, case, hfound, hseeded⟩ := (recognizes_iff h).mp hrecognizes
  cases i with
  | seedCase other legacyTaskId =>
    apply iff_of_true _ trivial
    apply Machine.next_cases (P := fun t : IntakeStore => t.Recognizes command none) hrecognizes
    intro s' output hstep
    rw [Machine.next_of_ok hstep] at hsound
    obtain ⟨⟨_, _, _⟩, hseed, heq⟩ := bind_eq_ok.mp hstep
    cases heq
    rcases seedCase_cases hseed with ⟨rfl, _⟩ | ⟨_, _, hinsert⟩
    . exact hrecognizes
    . obtain ⟨hkept, hcontexts⟩ :=
        insertCase_kept hinsert (by simp [BusinessObjectCreate.snapshot]) hfound
      exact recognizes_of_kept hsound hseeded hkept rfl hcontexts
  | openInboxCase inboxCase =>
    apply iff_of_true _ trivial
    apply Machine.next_cases (P := fun t : IntakeStore => t.Recognizes command none) hrecognizes
    intro s' output hstep
    rw [Machine.next_of_ok hstep] at hsound
    obtain ⟨_, hopen, heq⟩ := bind_eq_ok.mp hstep
    cases heq
    simp only [openInboxCase, ensure_bind_eq_ok] at hopen
    obtain ⟨hkept, hcontexts⟩ := insertCase_kept hopen.2 (by simp) hfound
    exact recognizes_of_kept hsound hseeded hkept rfl hcontexts
  | updateCase otherId expectedVersion status ownerId =>
    apply iff_of_true _ trivial
    apply Machine.next_cases (P := fun t : IntakeStore => t.Recognizes command none) hrecognizes
    intro s' output hstep
    rw [Machine.next_of_ok hstep] at hsound
    obtain ⟨_, hupdate, heq⟩ := bind_eq_ok.mp hstep
    cases heq
    obtain ⟨other, hother, _, rfl⟩ := updateCase_eq_ok.mp hupdate
    obtain ⟨case', hkept, hrow⟩ :=
      set_kept { other with status, ownerId, version := other.version + 1 } hfound hother fun _ => rfl
    exact recognizes_of_kept hsound hseeded hkept hrow rfl
  | addBusinessEvidence => exact addBusinessEvidence_next_iff h hfound hseeded
  | appendMessage => exact appendMessage_next_iff h hfound hseeded

end Steps

section Lineage

variable [TextCollation] {s s' : IntakeStore} {command : CaseCreate} {taskId : Nat}

omit [TextCollation] in
theorem lineageCaseId_eq_some_iff {publicId : String}
    : s.lineageCaseId (some taskId) = some publicId
        ↔ ∃ case, s.cases.find? (fun case => case.legacyTaskId = some taskId) = some case
          ∧ case.publicId = publicId := by
  simp [lineageCaseId, Option.bind_eq_some_iff]

/--
An accepted seed command links its case to the legacy task it names.
-/
theorem seedCase_lineage {workspace : CaseWorkspaceRecord} {created : Bool} (h : s.Sound)
    (hseed : s.seedCase command (some taskId) = .ok (s', workspace, created))
    : s'.lineageCaseId (some taskId) = some command.publicId := by
  unfold seedCase at hseed
  cases hlineage : s.lineageCaseId (some taskId) with
  | some publicId =>
    simp only [hlineage, bind_eq_ok, ensure_eq_ok, pure_eq_ok, Prod.mk.injEq] at hseed
    obtain ⟨_, heq, _, _, rfl, _⟩ := hseed
    rw [hlineage, heq]
  | none =>
    have hnone : s.cases.find? (fun case => case.legacyTaskId = some taskId) = none := by
      rw [Option.eq_none_iff_forall_ne_some]
      intro case hfound
      rw [lineageCaseId_eq_some_iff.mpr ⟨case, hfound, rfl⟩] at hlineage
      cases hlineage
    cases hexisting : s.getWorkspace command.publicId with
    | some existing =>
      simp only [hlineage, hexisting, bind_eq_ok, ensure_eq_ok, pure_eq_ok, Prod.mk.injEq] at hseed
      obtain ⟨_, ⟨htask, _⟩, _⟩ := hseed
      obtain ⟨caseId, case, hfound, _, rfl⟩ := (getWorkspace_eq_some_iff h).mp hexisting
      have hother := List.find?_eq_none.mp hnone case (List.mem_of_getElem? hfound)
      exact absurd (decide_eq_true htask) hother
    | none =>
      simp only [hlineage, hexisting, bind_eq_ok, pure_eq_ok, Prod.mk.injEq] at hseed
      obtain ⟨stored, hinsert, _, _, _, _, _, _, rfl, _⟩ := hseed
      obtain ⟨_, rfl⟩ := insertCase_eq_ok.mp hinsert
      rw [lineageCaseId_eq_some_iff]
      apply Exists.intro (readBack (newCase command (some taskId)))
      constructor
      . rw [List.find?_append, hnone]
        simp [readBack, newCase]
      . rfl

theorem recognizes_of_lineage (h : s.Sound)
    (hlineage : s.lineageCaseId (some taskId) = some command.publicId)
    : s.Recognizes command (some taskId) := by
  obtain ⟨case, hfind, hid⟩ := lineageCaseId_eq_some_iff.mp hlineage
  obtain ⟨caseId, hfound⟩ := List.mem_iff_getElem?.mp (List.mem_of_find?_eq_some hfind)
  have hworkspace := (getWorkspace_eq_some_iff h).mpr ⟨caseId, case, hfound, hid, rfl⟩
  apply Exists.intro (s.workspace caseId case)
  unfold seedCase
  simp only [hlineage, requiredWorkspace, hworkspace, ensure_bind_eq_ok, orThrow_bind_eq_ok, pure_eq_ok,
    true_and]
  exact ⟨_, rfl, rfl⟩

end Lineage

section Runs

variable [Digest] [TextCollation]

theorem intake_run_sound (commands : List IntakeCommand) : (intake.run .empty commands).Sound :=
  Machine.run_invariant sound_empty (fun _ i h => intake_sound h i) commands

theorem stays_recognized_iff {s : IntakeStore} {command : CaseCreate} (h : s.Sound)
    (hrecognizes : s.Recognizes command none) (later : List IntakeCommand)
    : (∀ reached rest, later = reached ++ rest → (intake.run s reached).Recognizes command none)
        ↔ intake.Along (KeepsSeed command) s later := by
  apply Machine.stays_iff_along (P := fun t : IntakeStore => t.Recognizes command none) _ _ h hrecognizes
  . intro t i ht
    exact intake_sound ht i
  . intro t i ht hrec
    exact recognizes_next_iff ht hrec i

/--
After a seed command was accepted, the same command finds its case in every later state exactly when it
names a legacy task, or the rows hold what it seeds and every later command keeps it.
-/
theorem reseed_recognized_iff (before later : List IntakeCommand) (command : CaseCreate)
    (legacyTaskId : Option Nat) {s : IntakeStore} {workspace : CaseWorkspaceRecord} {created : Bool}
    (hseed : intake.step (intake.run .empty before) (.seedCase command legacyTaskId)
      = .ok (s, some (workspace, created)))
    : (∀ reached rest, later = reached ++ rest →
          (intake.run s reached).Recognizes command legacyTaskId)
        ↔ legacyTaskId ≠ none ∨ Storable command ∧ intake.Along (KeepsSeed command) s later := by
  have hstart : (intake.run .empty before).Sound := intake_run_sound before
  have hsound : s.Sound := Machine.next_of_ok hseed ▸ intake_sound hstart _
  obtain ⟨⟨_, _, _⟩, hseed, heq⟩ := bind_eq_ok.mp hseed
  cases heq
  cases legacyTaskId with
  | some taskId =>
    apply iff_of_true _ (.inl (Option.some_ne_none taskId))
    intro reached rest _
    have hreached : (intake.run s reached).Sound
        ∧ (intake.run s reached).lineageCaseId (some taskId) = some command.publicId := by
      apply Machine.run_invariant (P := fun t : IntakeStore =>
        t.Sound ∧ t.lineageCaseId (some taskId) = some command.publicId)
      . exact ⟨hsound, seedCase_lineage hstart hseed⟩
      . intro t i ht
        exact ⟨intake_sound ht.1 i, lineageCaseId_writes (intake_writes t i) ht.2⟩
    exact recognizes_of_lineage hreached.1 hreached.2
  | none =>
    have hrecognizes : s.Recognizes command none ↔ Storable command := by
      rcases seedCase_cases hseed with ⟨rfl, rfl⟩ | ⟨_, _, hinsert⟩
      . have hagain : IntakeStore.Recognizes _ command none := ⟨_, hseed⟩
        exact iff_of_true hagain (hagain.storable hsound)
      . exact created_recognizes_iff hstart hinsert hsound
    rw [← hrecognizes]
    constructor
    . intro hall
      have hnow : s.Recognizes command none := hall [] later rfl
      refine .inr ⟨hnow, ?_⟩
      exact (stays_recognized_iff hsound hnow later).mp hall
    . rintro (hnamed | ⟨hnow, hkeeps⟩)
      . exact absurd rfl hnamed
      . exact (stays_recognized_iff hsound hnow later).mpr hkeeps

end Runs

namespace Sample

attribute [local instance] Digest.checksum codepoints

theorem refundSeed_reference : 1 ≤ "REF-1".length ∧ "REF-1".length ≤ 200 := by decide +kernel

/--
A seed command with one order and a source that was last checked at 5.
-/
def refundSeed : CaseCreate where
  publicId := "CS-1"
  sourceId := "crm:1"
  externalReference := "REF-1"
  category := .refundRequest
  issue := "Refund"
  status := .new
  urgency := .low
  risk := .low
  dueAt := 100
  impactAmount := some 25
  impactCurrency := some "EUR"
  sourceFreshness := .current
  sourceCheckedAt := some 5
  request := { channel := .email, customerMessage := "Please", summary := "Refund", receivedAt := 5 }
  customer := {
    customerId := "C-1"
    name := "Ada"
    tier := .vip
    locale := "en"
    contact := "ada@example.com"
  }
  businessContexts := [{
    publicId := "CTX-1"
    type := "order"
    label := "Order"
    source := "shop"
    sourceReference := "O-1"
    status := "paid"
    fields := []
    capturedAt := 4
    freshness := .current
    checkedAt := none
  }]
  publicId_valid := by decide +kernel
  sourceId_length := by decide +kernel
  externalReference_length := refundSeed_reference
  issue_length := by decide +kernel
  impact_complete := by decide +kernel
  request_texts := by decide +kernel
  customer_bounded := ⟨by decide +kernel, by decide +kernel, by decide +kernel, by decide +kernel⟩
  contexts_nonempty := by decide
  contexts_bounded := by
    intro context hmem
    rw [List.mem_singleton.mp hmem]
    constructor <;> decide +kernel

def settledRefund : BusinessEvidenceCreate where
  type := "payment"
  label := "Refund"
  source := "bank"
  sourceReference := "P-1"
  status := "settled"
  fields := []

theorem refundSeed_created
    : ∃ s workspace, intake.step (intake.run .empty []) (.seedCase refundSeed none)
        = .ok (s, some (workspace, true)) := by
  have hcreated : (intake.step (intake.run .empty []) (.seedCase refundSeed none)).toOption.any
      (fun result => result.2.any fun answer => answer.2) = true := by decide +kernel
  obtain ⟨⟨s, output⟩, hstep, hout⟩ := (Option.any_eq_true _ _).mp hcreated
  obtain ⟨⟨workspace, created⟩, houtput, hholds⟩ := (Option.any_eq_true _ _).mp hout
  have houtput : output = some (workspace, true) := by
    rw [← hholds]
    exact houtput
  exact ⟨s, workspace, houtput ▸ toOption_eq_some.mp hstep⟩

/--
The case is assigned, and a message arrives that was received when the source was last checked.
-/
def quietCommands : List IntakeCommand :=
  [.updateCase 0 1 .investigating (some 3), .appendMessage 0 5]

theorem reseed_recognized_iff_quiet
    : ∃ s workspace, intake.step (intake.run .empty []) (.seedCase refundSeed none)
          = .ok (s, some (workspace, true))
        ∧ ∀ reached rest, quietCommands = reached ++ rest →
          (intake.run s reached).Recognizes refundSeed none := by
  obtain ⟨s, workspace, hseed⟩ := refundSeed_created
  refine ⟨s, workspace, hseed, ?_⟩
  apply (reseed_recognized_iff [] quietCommands refundSeed none hseed).mpr
  refine .inr ⟨by decide +kernel, trivial, ?_, trivial⟩
  intro _ _ _
  exact ⟨rfl, rfl⟩

/--
Evidence of a payment makes the seed command a conflict.
-/
theorem reseed_conflicts_after_evidence
    : ¬ ∀ (before later : List IntakeCommand) (command : CaseCreate) (legacyTaskId : Option Nat)
        (s : IntakeStore) (workspace : CaseWorkspaceRecord) (created : Bool),
        intake.step (intake.run .empty before) (.seedCase command legacyTaskId)
          = .ok (s, some (workspace, created)) →
        (intake.run s later).Recognizes command legacyTaskId := by
  intro hclaim
  obtain ⟨s, workspace, hseed⟩ := refundSeed_created
  obtain ⟨again, hagain⟩ :=
    hclaim [] [.addBusinessEvidence 9 0 1 settledRefund] refundSeed none s workspace true hseed
  have hrun : intake.run .empty [.seedCase refundSeed none, .addBusinessEvidence 9 0 1 settledRefund]
      = intake.run s [.addBusinessEvidence 9 0 1 settledRefund] :=
    congrArg (fun t => intake.run t _) (Machine.next_of_ok hseed)
  rw [← hrun] at hagain
  have hrefused : ((intake.run .empty [.seedCase refundSeed none,
      .addBusinessEvidence 9 0 1 settledRefund]).seedCase refundSeed none).toOption.isNone = true := by
    decide +kernel
  rw [hagain] at hrefused
  cases hrefused

end Sample

end CaseResolution
