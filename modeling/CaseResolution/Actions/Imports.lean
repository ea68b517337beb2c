import Mathlib.Data.Finset.Card
import CaseResolution.Actions.Offers
import CaseResolution.Actions.Receipts

/-!
This module contains the import of the historical attempts of one proposed action: in whatever order
and however often they are imported, the action ends up summarizing the same attempts.
-/

namespace CaseResolution

open Guard Store

/--
The status that historical attempts leave their action in.
-/
def importedStatus (legacy : List LegacyActionImport) : ActionStatus :=
  if ∃ command ∈ legacy, command.receipt ≠ none then
    .completed
  else if ∃ command ∈ legacy, command.status = .outcomeUnknown then
    .outcomeUnknown
  else
    .failedSafe

def legacyToolAttemptIds (legacy : List LegacyActionImport) : Finset Nat :=
  (legacy.map fun command => command.legacyToolAttemptId).toFinset

theorem mem_legacyToolAttemptIds {legacy : List LegacyActionImport} {id : Nat}
    : id ∈ legacyToolAttemptIds legacy ↔ ∃ command ∈ legacy, command.legacyToolAttemptId = id := by
  simp [legacyToolAttemptIds]

/--
Only the set of the attempts matters.
-/
theorem importedStatus_congr {legacy others : List LegacyActionImport}
    (h : ∀ command, command ∈ legacy ↔ command ∈ others)
    : importedStatus legacy = importedStatus others := by
  simp only [importedStatus, h]

theorem legacyToolAttemptIds_congr {legacy others : List LegacyActionImport}
    (h : ∀ command, command ∈ legacy ↔ command ∈ others)
    : legacyToolAttemptIds legacy = legacyToolAttemptIds others := by
  ext id
  simp only [mem_legacyToolAttemptIds, h]

/--
The action holds exactly the historical attempts `legacy`, each once.
-/
structure CaseAction.Summarizes (a : CaseAction) (legacy : List LegacyActionImport) : Prop where
  ineligible : a.executionEligible = false
  attempts : ∀ id, (∃ t ∈ a.attempts, t.legacyToolAttemptId = some id) ↔ id ∈ legacyToolAttemptIds legacy
  counted : a.attemptCount = (legacyToolAttemptIds legacy).card
  paid : a.receipts ≠ [] ↔ ∃ command ∈ legacy, command.receipt ≠ none
  status : a.status = importedStatus legacy

namespace CaseAction.Summarizes

variable {a : CaseAction} {legacy : List LegacyActionImport} {command : LegacyActionImport}

theorem congr (h : a.Summarizes legacy) {others : List LegacyActionImport}
    (hsame : ∀ command, command ∈ legacy ↔ command ∈ others) : a.Summarizes others where
  ineligible := h.ineligible
  attempts := by
    rw [← legacyToolAttemptIds_congr hsame]
    exact h.attempts
  counted := by
    rw [← legacyToolAttemptIds_congr hsame]
    exact h.counted
  paid := by simp only [h.paid, hsame]
  status := by
    rw [← importedStatus_congr hsame]
    exact h.status

/--
A repeated command adds nothing.
-/
theorem repeated (h : a.Summarizes legacy) (hmem : command ∈ legacy)
    : a.Summarizes (legacy ++ [command]) := by
  apply h.congr
  intro other
  constructor
  . exact List.mem_append_left _
  . intro hother
    cases List.mem_append.mp hother with
    | inl hbefore => exact hbefore
    | inr hadded =>
      rw [List.mem_singleton.mp hadded]
      exact hmem

theorem appendLegacy_receipts_ne : (a.appendLegacy command).receipts ≠ []
    ↔ a.receipts ≠ [] ∨ command.receipt ≠ none := by
  unfold CaseAction.appendLegacy
  dsimp only
  cases hreceipt : command.receipt with
  | none => simp
  | some receipt =>
    cases hreceipts : a.receipts <;> simp [CaseAction.receipt, hreceipts]

theorem appendLegacy_status (a : CaseAction) (command : LegacyActionImport)
    : (a.appendLegacy command).status =
        if a.receipts ≠ [] ∨ command.receipt ≠ none then .completed
        else if a.status = .outcomeUnknown ∨ command.status = .outcomeUnknown then .outcomeUnknown
        else .failedSafe := by
  have hreceipt : a.receipt.isSome = true ↔ a.receipts ≠ [] := by
    rw [Option.isSome_iff_ne_none, ne_eq, CaseAction.receipt_eq_none]
  unfold CaseAction.appendLegacy
  simp only [hreceipt, Option.isSome_iff_ne_none]

/--
Importing a new command adds it to the summary.
-/
theorem appended (h : a.Summarizes legacy)
    (hnew : command.legacyToolAttemptId ∉ legacyToolAttemptIds legacy)
    : (a.appendLegacy command).Summarizes (legacy ++ [command]) where
  ineligible := rfl
  attempts := by
    intro id
    have hbefore := h.attempts id
    rw [mem_legacyToolAttemptIds] at hbefore ⊢
    simp only [CaseAction.appendLegacy, List.mem_append, List.mem_singleton, or_and_right,
      exists_or, exists_eq_left, hbefore, LegacyActionImport.newAttempt, Option.some.injEq]
  counted := by
    have hids : legacyToolAttemptIds (legacy ++ [command])
        = insert command.legacyToolAttemptId (legacyToolAttemptIds legacy) := by
      ext id
      simp [legacyToolAttemptIds]
    rw [hids, Finset.card_insert_of_notMem hnew, ← h.counted]
    rfl
  paid := by
    rw [appendLegacy_receipts_ne, h.paid]
    simp only [List.mem_append, List.mem_singleton, or_and_right, exists_or, exists_eq_left]
  status := by
    rw [appendLegacy_status]
    simp only [h.paid, h.status]
    unfold importedStatus
    simp only [List.mem_append, List.mem_singleton, or_and_right, exists_or, exists_eq_left]
    by_cases hpaid : ∃ command ∈ legacy, command.receipt ≠ none
    . simp only [hpaid, true_or, if_true]
    . simp only [hpaid, false_or, if_false]
      by_cases hunknown : ∃ command ∈ legacy, command.status = .outcomeUnknown
      . simp only [hunknown, true_or, if_true]
      . simp only [hunknown, false_or, if_false, reduceCtorEq]

/--
The first import creates an action that summarizes it.
-/
theorem created (command : LegacyActionImport) (lineage : LegacyLineage) (connectionId : Nat)
    : ((command.newAction lineage connectionId).appendLegacy command).Summarizes [command] where
  ineligible := rfl
  attempts := by
    intro id
    rw [mem_legacyToolAttemptIds]
    simp [CaseAction.appendLegacy, LegacyActionImport.newAction, LegacyActionImport.newAttempt]
  counted := rfl
  paid := by
    rw [appendLegacy_receipts_ne]
    simp [LegacyActionImport.newAction]
  status := by
    rw [appendLegacy_status]
    simp [LegacyActionImport.newAction, importedStatus]

end CaseAction.Summarizes

/--
The attempt belongs to the proposed action.
-/
def Store.Concerns (s : Store) (versionId proposedActionId : Nat) (command : LegacyActionImport) : Prop :=
  ∃ lineage, s.legacyLineage command = .ok lineage ∧ lineage.versionId = versionId
    ∧ lineage.proposedActionId = proposedActionId

instance (s : Store) (versionId proposedActionId : Nat) (command : LegacyActionImport)
    : Decidable (s.Concerns versionId proposedActionId command) :=
  match h : s.legacyLineage command with
  | .ok lineage =>
    decidable_of_iff (lineage.versionId = versionId ∧ lineage.proposedActionId = proposedActionId)
      (by simp [Store.Concerns, h])
  | .error _ => .isFalse (by simp [Store.Concerns, h])

/--
The attempts `legacy` all belong to one proposed action without an action row, each is finished and
known by its id, and no other action has been given an id, a key or a receipt of them.
-/
structure Store.Importable (s : Store) (versionId proposedActionId : Nat)
    (legacy : List LegacyActionImport) : Prop where
  concern : ∀ command ∈ legacy, s.Concerns versionId proposedActionId command
  unmade : ∀ a ∈ s.actions, a.proposalVersionId = versionId → a.proposedActionId ≠ proposedActionId
  same : ∀ command ∈ legacy, ∀ other ∈ legacy,
    command.legacyToolAttemptId = other.legacyToolAttemptId → command = other
  finished : ∀ command ∈ legacy, command.attemptOutcome ≠ .running
  fresh : ∀ command ∈ legacy, s.findLegacyAttempt command.legacyToolAttemptId = none
  unused : ∀ command ∈ legacy, ∀ a ∈ s.actions, a.idempotencyKey ≠ command.idempotencyKey
  free : ∀ command ∈ legacy, s.ReceiptIsFree command

/--
`t` is `s` with the new action `a`, which summarizes the attempts imported so far.
-/
structure Store.Imported (s t : Store) (versionId proposedActionId : Nat) (a : CaseAction)
    (imported : List LegacyActionImport) : Prop where
  versions : t.versions = s.versions
  cases : t.cases = s.cases
  proposals : t.proposals = s.proposals
  reviews : t.reviews = s.reviews
  actions : t.actions = s.actions ++ [a]
  sound : t.Sound
  proposed : a.proposalVersionId = versionId ∧ a.proposedActionId = proposedActionId
  placed : ∃ version, s.versions[versionId]? = some version ∧ a.caseId = version.caseId
  summarizes : a.Summarizes imported

namespace Store

variable {s t : Store} {versionId proposedActionId caseId : Nat} {a : CaseAction}
  {legacy imported : List LegacyActionImport} {command : LegacyActionImport}

theorem legacyLineage_congr (hversions : t.versions = s.versions) (hcases : t.cases = s.cases)
    (hproposals : t.proposals = s.proposals) (hreviews : t.reviews = s.reviews)
    : t.legacyLineage command = s.legacyLineage command := by
  unfold legacyLineage
  rw [hversions, hcases, hproposals, hreviews]

namespace Imported

theorem lineage (h : s.Imported t versionId proposedActionId a imported)
    : t.legacyLineage command = s.legacyLineage command :=
  legacyLineage_congr h.versions h.cases h.proposals h.reviews

theorem get (h : s.Imported t versionId proposedActionId a imported)
    : t.actions[s.actions.length]? = some a := by
  simp [h.actions]

/--
The attempts of the new action are found, and no others of `legacy`.
-/
theorem findLegacyAttempt (h : s.Imported t versionId proposedActionId a imported)
    (hfresh : s.findLegacyAttempt command.legacyToolAttemptId = none)
    : t.findLegacyAttempt command.legacyToolAttemptId
        = if command.legacyToolAttemptId ∈ legacyToolAttemptIds imported
          then some s.actions.length else none := by
  have hattempts : (a.attempts.any fun attempt =>
      decide (attempt.legacyToolAttemptId = some command.legacyToolAttemptId))
      = decide (command.legacyToolAttemptId ∈ legacyToolAttemptIds imported) := by
    rw [Bool.eq_iff_iff, List.any_eq_true, decide_eq_true_eq]
    simp only [decide_eq_true_eq]
    exact h.summarizes.attempts _
  unfold Store.findLegacyAttempt at hfresh ⊢
  rw [h.actions, List.findIdx?_append, hfresh]
  simp [hattempts, List.findIdx?_cons]

/--
A receipt that no earlier action holds can be stored, unless the new action has one already.
-/
theorem requireReceiptUnique (h : s.Imported t versionId proposedActionId a imported)
    (hfree : s.ReceiptIsFree command) : t.requireReceiptUnique a command = .ok ⟨⟩ := by
  by_cases hpaid : a.receipts = []
  . apply ReceiptIsFree.requireReceiptUnique
    intro receipt hreceipt
    obtain ⟨hkey, hlegacy⟩ := hfree receipt hreceipt
    unfold holdsReceipt at hkey
    unfold holdsLegacyReceipt at hlegacy
    unfold holdsReceipt holdsLegacyReceipt
    rw [h.actions, List.any_append, List.any_append, hkey, hlegacy]
    simp [hpaid]
  . exact requireReceiptUnique_of_receipt hpaid command

theorem findAction (h : s.Imported t versionId proposedActionId a imported)
    (hunmade : ∀ b ∈ s.actions, b.proposalVersionId = versionId
      → b.proposedActionId ≠ proposedActionId) (hcase : a.caseId = caseId)
    : t.findAction caseId versionId proposedActionId = some s.actions.length := by
  have hnone : (s.actions.findIdx? fun b => decide (b.caseId = caseId
      ∧ b.proposalVersionId = versionId ∧ b.proposedActionId = proposedActionId)) = none := by
    rw [List.findIdx?_eq_none_iff]
    intro b hb
    rw [decide_eq_false_iff_not]
    rintro ⟨_, hversion, hproposed⟩
    exact hunmade b hb hversion hproposed
  unfold Store.findAction
  rw [h.actions, List.findIdx?_append, hnone]
  simp [List.findIdx?_cons, hcase, h.proposed]

/--
An attempt that is imported already is not imported again.
-/
theorem same_of_imported (hlegacy : s.Importable versionId proposedActionId legacy)
    (hdone : ∀ other ∈ imported, other ∈ legacy) (hcommand : command ∈ legacy)
    (hid : command.legacyToolAttemptId ∈ legacyToolAttemptIds imported) : command ∈ imported := by
  rw [mem_legacyToolAttemptIds] at hid
  obtain ⟨other, hother, hid⟩ := hid
  rw [hlegacy.same command hcommand other (hdone other hother) hid.symm]
  exact hother

end Imported

end Store

section

variable [Digest]

namespace Store

variable {s t : Store} {versionId proposedActionId : Nat} {a : CaseAction}
  {legacy imported : List LegacyActionImport} {command : LegacyActionImport}

variable (now : Instant)

theorem Importable.first (hs : s.Sound) (hlegacy : s.Importable versionId proposedActionId legacy)
    (hcommand : command ∈ legacy)
    : ∃ t item a, s.importLegacyAction now command = .ok (t, item)
        ∧ s.Imported t versionId proposedActionId a [command] := by
  obtain ⟨lineage, hlineage, rfl, rfl⟩ := hlegacy.concern command hcommand
  have hstored := legacyLineage_eq_ok hlineage
  have hunmade : lineage.action s = none := by
    unfold LegacyLineage.action findAction
    rw [List.findIdx?_eq_none_iff]
    intro b hb
    rw [decide_eq_false_iff_not]
    rintro ⟨_, hversion, hproposed⟩
    exact hlegacy.unmade b hb hversion hproposed
  obtain ⟨connections, connectionId, item, himport⟩ := importLegacyAction_new now hs
    (hlegacy.fresh command hcommand) hlineage (hlegacy.finished command hcommand) hunmade
    (hlegacy.unused command hcommand) (hlegacy.free command hcommand)
  refine ⟨_, item, (command.newAction lineage connectionId).appendLegacy command, himport, ?_⟩
  exact {
    versions := rfl
    cases := rfl
    proposals := rfl
    reviews := rfl
    actions := rfl
    sound := (importLegacyAction_writes hs himport).sound hs
    proposed := ⟨rfl, rfl⟩
    placed := ⟨lineage.version, hstored.version, rfl⟩
    summarizes := .created command lineage connectionId
  }

/--
Importing one more of the attempts adds it to the summary, unless it is there already.
-/
theorem Imported.step (h : s.Imported t versionId proposedActionId a imported)
    (hlegacy : s.Importable versionId proposedActionId legacy)
    (hdone : ∀ other ∈ imported, other ∈ legacy) (hcommand : command ∈ legacy)
    : ∃ u item b, t.importLegacyAction now command = .ok (u, item)
        ∧ s.Imported u versionId proposedActionId b (imported ++ [command]) := by
  have hfound := h.findLegacyAttempt (hlegacy.fresh command hcommand)
  split at hfound
  . next hid =>
    obtain ⟨item, himport⟩ := importLegacyAction_repeated now h.sound hfound h.get
    have hrepeated := same_of_imported hlegacy hdone hcommand hid
    exact ⟨t, item, a, himport, { h with summarizes := h.summarizes.repeated hrepeated }⟩
  . next hid =>
    obtain ⟨lineage, hlineage, hversionId, hproposedActionId⟩ := hlegacy.concern command hcommand
    obtain ⟨version, hversion, hcase⟩ := h.placed
    have hstored := (legacyLineage_eq_ok hlineage).version
    rw [hversionId, hversion] at hstored
    have hmade : lineage.action t = some s.actions.length := by
      unfold LegacyLineage.action
      rw [hversionId, hproposedActionId, ← Option.some.inj hstored]
      exact h.findAction hlegacy.unmade hcase
    obtain ⟨connections, item, himport⟩ := importLegacyAction_found now h.sound hfound
      (h.lineage.trans hlineage) (hlegacy.finished command hcommand) hmade h.get
      (h.requireReceiptUnique (hlegacy.free command hcommand))
    refine ⟨_, item, a.appendLegacy command, himport, ?_⟩
    exact {
      versions := h.versions
      cases := h.cases
      proposals := h.proposals
      reviews := h.reviews
      actions := by simp [setAction, h.actions]
      sound := (importLegacyAction_writes h.sound himport).sound h.sound
      proposed := h.proposed
      placed := h.placed
      summarizes := h.summarizes.appended hid
    }

/--
Import attempts one after the other, each at its own time.
-/
def importLegacyActions (s : Store) : List (Instant × LegacyActionImport) → Except Error Store
  | [] => pure s
  | (now, command) :: rest => do
    let (t, _) ← s.importLegacyAction now command
    t.importLegacyActions rest

theorem Imported.run (imports : List (Instant × LegacyActionImport))
    (h : s.Imported t versionId proposedActionId a imported)
    (hlegacy : s.Importable versionId proposedActionId legacy)
    (hdone : ∀ other ∈ imported, other ∈ legacy)
    (himports : ∀ row ∈ imports, row.2 ∈ legacy)
    : ∃ u b, t.importLegacyActions imports = .ok u
        ∧ s.Imported u versionId proposedActionId b (imported ++ imports.map Prod.snd) := by
  induction imports generalizing t a imported with
  | nil => exact ⟨t, a, rfl, by simpa using h⟩
  | cons row rest ih =>
    obtain ⟨now, command⟩ := row
    have hcommand := himports (now, command) List.mem_cons_self
    obtain ⟨u, item, b, himport, hstep⟩ := h.step now hlegacy hdone hcommand
    have hdone' : ∀ other ∈ imported ++ [command], other ∈ legacy := by
      intro other hother
      cases List.mem_append.mp hother with
      | inl hbefore => exact hdone other hbefore
      | inr hadded =>
        rw [List.mem_singleton.mp hadded]
        exact hcommand
    obtain ⟨v, c, hrest, hrun⟩ :=
      ih hstep hdone' fun other hother => himports other (List.mem_cons_of_mem _ hother)
    refine ⟨v, c, ?_, by simpa using hrun⟩
    unfold importLegacyActions
    rw [himport]
    exact hrest

end Store

/--
In whatever order and however often the attempts of a proposed action without an action row are
imported, they end in the same action.
-/
theorem legacy_imports_agree (init : InitialStore) (commands : List Command)
    {versionId proposedActionId : Nat} {legacy : List LegacyActionImport} (hlegacy : legacy ≠ [])
    (h : (init.after commands).Importable versionId proposedActionId legacy)
    (imports : List (Instant × LegacyActionImport))
    (himports : ∀ command, command ∈ imports.map Prod.snd ↔ command ∈ legacy)
    : ∃ t a, (init.after commands).importLegacyActions imports = .ok t
        ∧ t.actions = (init.after commands).actions ++ [a]
        ∧ a.status = importedStatus legacy
        ∧ a.attemptCount = (legacyToolAttemptIds legacy).card
        ∧ a.executionEligible = false := by
  cases imports with
  | nil =>
    have hempty : legacy = [] := List.eq_nil_iff_forall_not_mem.mpr fun command hcommand =>
      List.not_mem_nil ((himports command).mpr hcommand)
    exact absurd hempty hlegacy
  | cons row rest =>
    obtain ⟨now, command⟩ := row
    have hmem : ∀ row ∈ (now, command) :: rest, row.2 ∈ legacy := fun row hrow =>
      (himports row.2).mp (List.mem_map_of_mem hrow)
    have hcommand := hmem (now, command) List.mem_cons_self
    obtain ⟨t, item, a, hfirst, hsummary⟩ := h.first now (init.after_sound commands) hcommand
    have hdone : ∀ other ∈ [command], other ∈ legacy := by
      intro other hother
      rw [List.mem_singleton.mp hother]
      exact hcommand
    obtain ⟨u, b, hrest, hrun⟩ := hsummary.run rest h hdone fun other hother =>
      hmem other (List.mem_cons_of_mem _ hother)
    have hall := hrun.summarizes.congr himports
    refine ⟨u, b, ?_, hrun.actions, hall.status, hall.counted, hall.ineligible⟩
    unfold Store.importLegacyActions
    rw [hfirst]
    exact hrest

end

namespace Sample

attribute [local instance] Digest.checksum

/--
The store after `commands` in which the history of the legacy case is imported, but none of its
attempts.
-/
def reviewed (commands : List Command) : Store :=
  initial.after (commands ++ [.importLegacyReview 0 "MB-2" legacyReview])

def endsIn (s : Store) (imports : List (Instant × LegacyActionImport)) : Option ActionStatus := do
  let t ← (s.importLegacyActions imports).toOption
  let a ← t.actions[2]?
  pure a.status

/--
It has the id of the attempt with the unknown outcome.
-/
def contradiction : LegacyActionImport :=
  { legacyFailure with legacyToolAttemptId := 1 }

def unfinished : LegacyActionImport :=
  { legacyUnknown with attemptOutcome := .running, consistent := trivial }

/--
It has the key of another action.
-/
def keyed (idempotencyKey : String) : LegacyActionImport :=
  { legacyUnknown with idempotencyKey := idempotencyKey }

theorem paid_started_le_finished : (0 : Instant) ≤ 0 := le_refl _

/--
It has the receipt of another action.
-/
def paid : LegacyActionImport where
  legacyToolAttemptId := 3
  legacyProposalVersionId := 100
  actionType := "start_verified_recovery"
  target := "account"
  parameters := []
  status := .completed
  attemptOutcome := .succeeded
  sideEffectState := .confirmed
  idempotencyKey := "another action"
  observedOutcome := "The account was recovered."
  errorCode := none
  requestFingerprint := "request"
  responseFingerprint := none
  startedAt := 0
  finishedAt := 0
  receipt := some {
    legacyExternalReceiptId := 1, provider := "billing", externalReference := "RF-9"
    status := "settled", dataFingerprint := "data", recordedAt := 0
  }
  started_le_finished := paid_started_le_finished
  consistent := by simp [legacyOutcomeIsConsistent]

/--
The order of two attempts with one id decides on the status. An unfinished attempt is refused, and so
is one with the key or the receipt of another action.
-/
theorem imports_disagree
    : (∀ command ∈ [legacyUnknown, contradiction],
        (reviewed execution).Concerns 0 0 command)
      ∧ (∀ a ∈ (reviewed execution).actions, a.proposalVersionId = 0 → a.proposedActionId ≠ 0)
      ∧ endsIn (reviewed execution) [(1, legacyUnknown), (2, contradiction)] = some .outcomeUnknown
      ∧ endsIn (reviewed execution) [(1, contradiction), (2, legacyUnknown)] = some .failedSafe
      ∧ endsIn (reviewed execution) [(1, unfinished)] = none
      ∧ (∀ a ∈ (reviewed execution).actions,
        endsIn (reviewed execution) [(1, keyed a.idempotencyKey)] = none)
      ∧ endsIn (reviewed execution) [(1, paid)] = some .completed
      ∧ endsIn (reviewed (checkedWith otherRefund)) [(1, paid)] = none := by
  decide +kernel

theorem reviewed_importable
    : (reviewed execution).Importable 0 0 [legacyUnknown, legacyFailure, paid] where
  concern := by decide +kernel
  unmade := by decide +kernel
  same := by simp [legacyUnknown, legacyFailure, paid]
  finished := by decide +kernel
  fresh := by decide +kernel
  unused := by decide +kernel
  free := by
    unfold Store.ReceiptIsFree
    decide +kernel

/--
Whichever way they are imported, a receipt completes the action.
-/
theorem legacy_imports_agree_paid : ∃ t a,
    (reviewed execution).importLegacyActions
        [(1, paid), (2, legacyFailure), (3, paid), (4, legacyUnknown)] = .ok t
      ∧ t.actions = (reviewed execution).actions ++ [a]
      ∧ a.status = .completed ∧ a.attemptCount = 3 ∧ a.executionEligible = false := by
  have hmembers : ∀ command,
      command ∈ [(1, paid), (2, legacyFailure), (3, paid), ((4 : Instant), legacyUnknown)].map Prod.snd
        ↔ command ∈ [legacyUnknown, legacyFailure, paid] := by
    intro command
    simp only [List.map_cons, List.map_nil, List.mem_cons, List.not_mem_nil, or_false]
    tauto
  exact legacy_imports_agree initial _ (List.cons_ne_nil _ _) reviewed_importable _ hmembers

end Sample

end CaseResolution
