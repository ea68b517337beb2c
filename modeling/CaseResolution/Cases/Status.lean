import CaseResolution.Cases.Impl.Service
import CaseResolution.Cases.Lemmas.Steps
import CaseResolution.System.Reachable

/-!
This module contains how the status of a case moves: along the transition table in every run in which no
change of status is asked for under a version its case has not reached when it is validated.
-/

namespace CaseResolution

open Guard Store

/--
The status stays or moves along an edge of the transition table.
-/
def Case.Follows (case after : Case) : Prop :=
  after.status = case.status ∨ after.status ∈ caseTransitions case.status

namespace Store

/--
The case was read at `read`, and its version counts every write since then.
-/
def CaseSince (s : Store) (caseId : Nat) (read : Case) : Prop :=
  ∃ case, s.cases[caseId]? = some case ∧ CaseGrows read case

theorem CaseSince.grows {s t : Store} {caseId : Nat} {read : Case} (h : s.CaseSince caseId read)
    (hgrows : s.Grows t) : t.CaseSince caseId read := by
  obtain ⟨case, hcase, hread⟩ := h
  obtain ⟨after, hafter, hcaseGrows⟩ := hgrows.cases caseId case hcase
  exact ⟨after, hafter, Grows.caseGrows_trans hread hcaseGrows⟩

/--
A case whose version is at most the one that was read is still as it was read.
-/
theorem CaseSince.eq_of_le {s : Store} {caseId : Nat} {read case : Case}
    (h : s.CaseSince caseId read) (hcase : s.cases[caseId]? = some case)
    (hle : case.version ≤ read.version) : case = read := by
  obtain ⟨found, hfound, hread⟩ := h
  obtain rfl : case = found := Option.some.inj (hcase.symm.trans hfound)
  apply hread.2
  exact le_antisymm hread.1 hle

end Store

/--
The commands that write `target` into the status of the case at `caseId` do so from a status that
leads there.
-/
def Command.Permitted (s : Store) (c : Command) : Prop :=
  match c with
  | .changeStatus caseId expectedVersion target => ∀ case, s.cases[caseId]? = some case →
    case.version = expectedVersion → target ∈ caseTransitions case.status
  | .submitReview _ caseId _ command => ∀ case, s.cases[caseId]? = some case →
    case.version = command.expectedCaseVersion → .needsReview ∈ caseTransitions case.status
  | _ => True

theorem completedCase_follows (case : Case) : case.Follows (completedCase case) := by
  unfold completedCase
  split
  . next hwaiting =>
    right
    rw [hwaiting]
    simp [caseTransitions]
  . exact .inl rfl

/--
A permitted command moves every case along the table.
-/
theorem CaseEffect.follows {s t : Store} {c : Command} (h : CaseEffect s c t)
    (hreviews : ∀ r ∈ s.reviews, s.WaitsFor r) (hpermitted : c.Permitted s) {i : Nat}
    {case after : Case} (hcase : s.cases[i]? = some case) (hafter : t.cases[i]? = some after)
    : case.Follows after := by
  cases h with
  | kept same =>
    rw [same, hcase] at hafter
    exact .inl (by rw [Option.some.inj hafter])
  | opened opened added =>
    have hlt := (List.getElem?_eq_some_iff.mp hcase).1
    rw [added, List.getElem?_append_left hlt, hcase] at hafter
    exact .inl (by rw [Option.some.inj hafter])
  | moved caseId found moved hfound written step =>
    rw [written] at hafter
    rcases Rows.getElem?_set_cases hafter with ⟨rfl, rfl, _⟩ | ⟨_, hother⟩
    . obtain rfl : case = found := Option.some.inj (hcase.symm.trans hfound)
      cases step with
      | touched _ status counted => exact .inl status
      | changed expectedVersion target issued current =>
        subst issued
        exact .inr (hpermitted case hcase current)
      | submitted now actorId command issued current =>
        subst issued
        exact .inr (hpermitted case hcase current)
      | decided review decision found about governed current =>
        obtain ⟨waiting, hwaiting, _, hstatus⟩ := hreviews review found governed
        rw [about, hcase, Option.some.injEq] at hwaiting
        have hneeds : case.status = .needsReview := by
          rw [hwaiting] at current ⊢
          exact hstatus current.symm
        unfold Case.Follows
        rw [hneeds]
        dsimp only
        split
        . exact .inl rfl
        . exact .inr (by decide)
      | completed => exact completedCase_follows case
    . rw [hcase] at hother
      exact .inl (by rw [Option.some.inj hother])

namespace CaseDesk

/--
The invariant of the service and of what its workers have checked so far.
-/
structure Sound (d : CaseDesk) : Prop where
  store : d.store.Sound
  reviews : ∀ r ∈ d.store.reviews, d.store.WaitsFor r
  changes : ∀ p ∈ d.changes, p.target ∈ caseTransitions p.read.status
    ∧ d.store.CaseSince p.caseId p.read
  submissions : ∀ p ∈ d.submissions, (p.read.status = .investigating ∨ p.read.status = .inProgress)
    ∧ p.read.version = p.expectedCaseVersion ∧ d.store.CaseSince p.caseId p.read

/--
The command writes a change of status under a version its case had not reached when the change was
validated.
-/
def Premature (d : CaseDesk) : CaseCommand → Prop
  | .changeStatus pending => ∃ p ∈ d.changes[pending]?, p.read.version < p.expectedVersion
  | _ => False

instance (d : CaseDesk) : (c : CaseCommand) → Decidable (d.Premature c)
  | .changeStatus pending =>
    inferInstanceAs (Decidable (∃ p ∈ d.changes[pending]?, p.read.version < p.expectedVersion))
  | .perform _ | .readForStatusChange .. | .readForSubmission .. | .submitReview .. =>
    inferInstanceAs (Decidable False)

variable {d : CaseDesk}

/--
A change of status that is not premature starts from the status it was validated against.
-/
theorem Sound.changeStatus_permitted (hd : d.Sound) {pending : Nat} {change : PendingStatusChange}
    (hchange : d.changes[pending]? = some change) (hready : ¬ d.Premature (.changeStatus pending))
    : (Command.changeStatus change.caseId change.expectedVersion change.target).Permitted d.store := by
  intro case hcase hversion
  obtain ⟨hedge, hsince⟩ := hd.changes change (List.mem_of_getElem? hchange)
  have hle : case.version ≤ change.read.version := by
    by_contra hlt
    apply hready
    refine ⟨change, hchange, ?_⟩
    omega
  rw [hsince.eq_of_le hcase hle]
  exact hedge

theorem Sound.submitReview_permitted (hd : d.Sound) {pending : Nat} {submission : PendingSubmission}
    (hsubmission : d.submissions[pending]? = some submission) (now : Instant) (actorId : String)
    (command : ReviewSubmission)
    : (Command.submitReview now submission.caseId actorId
        { command with expectedCaseVersion := submission.expectedCaseVersion }).Permitted d.store := by
  intro case hcase hversion
  obtain ⟨hstatus, hread, hsince⟩ := hd.submissions submission (List.mem_of_getElem? hsubmission)
  have hle : case.version ≤ submission.read.version := by
    rw [hread]
    exact le_of_eq hversion
  rw [hsince.eq_of_le hcase hle]
  cases hstatus with
  | inl hinvestigating => simp [hinvestigating, caseTransitions]
  | inr hprogress => simp [hprogress, caseTransitions]

theorem new_sound (init : InitialStore) : (CaseDesk.new init.store).Sound where
  store := init.sound
  reviews := by simp [CaseDesk.new, init.reviews_empty]
  changes := by simp [CaseDesk.new]
  submissions := by simp [CaseDesk.new]

end CaseDesk

section

variable [Digest]

/--
The reviews the service submitted keep their cases waiting.
-/
theorem Writes.waitsFor {c : Command} {s t : Store} (h : Writes c s t) (hs : s.Sound)
    (hreviews : ∀ r ∈ s.reviews, s.WaitsFor r) : ∀ q ∈ t.reviews, t.WaitsFor q := by
  induction h with
  | refl => exact hreviews
  | tail hwrites hwrite ih =>
    intro q hq
    have hs' := Writes.sound hwrites hs
    obtain ⟨i, hi⟩ := List.mem_iff_getElem?.mp hq
    rcases hwrite.review_origin hs' hi with ⟨r, hr, hpersists, _⟩ | ⟨_, hnew⟩
    . exact (hwrite.grows hs').waitsFor hpersists.subject (ih r (List.mem_of_getElem? hr))
    . exact (hwrite.grows hs').waitsFor rfl hnew.waits

namespace CaseDesk

variable {d e : CaseDesk} {c : CaseCommand} {output : Output}

/--
A command reads the store, or performs a command on it that is permitted unless it is premature.
-/
theorem step_performs (hd : d.Sound) (h : d.step c = .ok (e, output))
    : e.store = d.store
        ∨ ∃ command answer, d.store.perform command = .ok (e.store, answer)
          ∧ (¬ d.Premature c → command.Permitted d.store) := by
  cases c with
  | perform command =>
    simp only [step, bind_eq_ok, ensure_eq_ok, exists_const, pure_eq_ok, Prod.mk.injEq] at h
    obtain ⟨hdirect, ⟨store, answer⟩, hperformed, rfl, _⟩ := h
    refine .inr ⟨command, answer, hperformed, fun _ => ?_⟩
    cases command <;> trivial
  | readForStatusChange actor caseId expectedVersion target =>
    simp only [step, bind_eq_ok, pure_eq_ok, Prod.mk.injEq] at h
    obtain ⟨_, _, rfl, _⟩ := h
    exact .inl rfl
  | changeStatus pending =>
    simp only [step, bind_eq_ok, orThrow_eq_ok, pure_eq_ok, Prod.mk.injEq] at h
    obtain ⟨change, hchange, ⟨store, answer⟩, hperformed, rfl, _⟩ := h
    exact .inr ⟨_, answer, hperformed, hd.changeStatus_permitted hchange⟩
  | readForSubmission actor caseId expectedCaseVersion =>
    simp only [step, bind_eq_ok, pure_eq_ok, Prod.mk.injEq] at h
    obtain ⟨_, _, rfl, _⟩ := h
    exact .inl rfl
  | submitReview pending now actorId command =>
    simp only [step, bind_eq_ok, orThrow_eq_ok, pure_eq_ok, Prod.mk.injEq] at h
    obtain ⟨submission, hsubmission, ⟨store, answer⟩, hperformed, rfl, _⟩ := h
    exact .inr ⟨_, answer, hperformed, fun _ => hd.submitReview_permitted hsubmission now actorId _⟩

theorem Sound.grows (hd : d.Sound) (h : d.step c = .ok (e, output)) : d.store.Grows e.store := by
  rcases step_performs hd h with hsame | ⟨command, answer, hperformed, _⟩
  . rw [hsame]
    exact .refl _
  . exact Writes.grows (perform_writes hd.store hperformed) hd.store

/--
The changes that are pending after a command were pending before it or have just been validated.
-/
theorem step_changes (h : d.step c = .ok (e, output))
    : ∀ p ∈ e.changes, p ∈ d.changes
        ∨ (p.target ∈ caseTransitions p.read.status ∧ e.store.cases[p.caseId]? = some p.read) := by
  intro p hp
  cases c with
  | readForStatusChange actor caseId expectedVersion target =>
    simp only [step, Store.readForStatusChange, requirePermission, requireCaseTransition,
      bind_eq_ok, orThrow_eq_ok, ensure_eq_ok, exists_const, pure_eq_ok, Prod.mk.injEq] at h
    obtain ⟨change, ⟨_, _, current, hcurrent, hedge, rfl⟩, rfl, _⟩ := h
    cases List.mem_append.mp hp with
    | inl hbefore => exact .inl hbefore
    | inr hadded =>
      rw [List.mem_singleton] at hadded
      rw [hadded]
      exact .inr ⟨hedge, hcurrent⟩
  | perform command =>
    simp only [step, bind_eq_ok, ensure_eq_ok, exists_const, pure_eq_ok, Prod.mk.injEq] at h
    obtain ⟨_, _, _, rfl, _⟩ := h
    exact .inl hp
  | changeStatus pending =>
    simp only [step, bind_eq_ok, orThrow_eq_ok, pure_eq_ok, Prod.mk.injEq] at h
    obtain ⟨_, _, _, _, rfl, _⟩ := h
    exact .inl (List.mem_of_mem_eraseIdx hp)
  | readForSubmission actor caseId expectedCaseVersion =>
    simp only [step, bind_eq_ok, pure_eq_ok, Prod.mk.injEq] at h
    obtain ⟨_, _, rfl, _⟩ := h
    exact .inl hp
  | submitReview pending now actorId command =>
    simp only [step, bind_eq_ok, orThrow_eq_ok, pure_eq_ok, Prod.mk.injEq] at h
    obtain ⟨_, _, _, _, rfl, _⟩ := h
    exact .inl hp

theorem step_submissions (h : d.step c = .ok (e, output))
    : ∀ p ∈ e.submissions, p ∈ d.submissions
        ∨ ((p.read.status = .investigating ∨ p.read.status = .inProgress)
          ∧ p.read.version = p.expectedCaseVersion ∧ e.store.cases[p.caseId]? = some p.read) := by
  intro p hp
  cases c with
  | readForSubmission actor caseId expectedCaseVersion =>
    simp only [step, Store.readForSubmission, requirePermission, bind_eq_ok, orThrow_eq_ok,
      ensure_eq_ok, exists_const, pure_eq_ok, Prod.mk.injEq] at h
    obtain ⟨submission, ⟨_, _, current, hcurrent, hversion, _, hstatus, rfl⟩, rfl, _⟩ := h
    cases List.mem_append.mp hp with
    | inl hbefore => exact .inl hbefore
    | inr hadded =>
      rw [List.mem_singleton] at hadded
      rw [hadded]
      exact .inr ⟨hstatus, hversion, hcurrent⟩
  | perform command =>
    simp only [step, bind_eq_ok, ensure_eq_ok, exists_const, pure_eq_ok, Prod.mk.injEq] at h
    obtain ⟨_, _, _, rfl, _⟩ := h
    exact .inl hp
  | readForStatusChange actor caseId expectedVersion target =>
    simp only [step, bind_eq_ok, pure_eq_ok, Prod.mk.injEq] at h
    obtain ⟨_, _, rfl, _⟩ := h
    exact .inl hp
  | changeStatus pending =>
    simp only [step, bind_eq_ok, orThrow_eq_ok, pure_eq_ok, Prod.mk.injEq] at h
    obtain ⟨_, _, _, _, rfl, _⟩ := h
    exact .inl hp
  | submitReview pending now actorId command =>
    simp only [step, bind_eq_ok, orThrow_eq_ok, pure_eq_ok, Prod.mk.injEq] at h
    obtain ⟨_, _, _, _, rfl, _⟩ := h
    exact .inl (List.mem_of_mem_eraseIdx hp)

/--
Every command keeps the invariant, premature or not.
-/
theorem Sound.step (hd : d.Sound) (h : d.step c = .ok (e, output)) : e.Sound := by
  have hgrows := hd.grows h
  have hstore : e.store.Sound ∧ ∀ r ∈ e.store.reviews, e.store.WaitsFor r := by
    rcases step_performs hd h with hsame | ⟨command, answer, hperformed, _⟩
    . rw [hsame]
      exact ⟨hd.store, hd.reviews⟩
    . have hwrites := perform_writes hd.store hperformed
      exact ⟨Writes.sound hwrites hd.store, Writes.waitsFor hwrites hd.store hd.reviews⟩
  refine ⟨hstore.1, hstore.2, ?_, ?_⟩
  . intro p hp
    rcases step_changes h p hp with hbefore | ⟨hedge, hread⟩
    . exact ⟨(hd.changes p hbefore).1, (hd.changes p hbefore).2.grows hgrows⟩
    . exact ⟨hedge, _, hread, Grows.caseGrows_refl _⟩
  . intro p hp
    rcases step_submissions h p hp with hbefore | ⟨hstatus, hversion, hread⟩
    . obtain ⟨hstatus, hversion, hsince⟩ := hd.submissions p hbefore
      exact ⟨hstatus, hversion, hsince.grows hgrows⟩
    . exact ⟨hstatus, hversion, _, hread, Grows.caseGrows_refl _⟩

/--
A command that is not premature moves every case along the table.
-/
theorem Sound.follows (hd : d.Sound) (h : d.step c = .ok (e, output)) (hready : ¬ d.Premature c)
    {i : Nat} {case after : Case} (hcase : d.store.cases[i]? = some case)
    (hafter : e.store.cases[i]? = some after) : case.Follows after := by
  rcases step_performs hd h with hsame | ⟨command, answer, hperformed, hpermitted⟩
  . rw [hsame, hcase] at hafter
    exact .inl (by rw [Option.some.inj hafter])
  . exact (perform_effect hd.store hperformed).follows hd.reviews (hpermitted hready) hcase hafter

theorem Sound.next (hd : d.Sound) (c : CaseCommand) : (caseService.next d c).Sound :=
  Machine.next_cases (P := fun e : CaseDesk => e.Sound) hd fun _ _ h => hd.step h

end CaseDesk

/--
The service and its workers after a run of commands.
-/
def InitialStore.deskAfter (init : InitialStore) (commands : List CaseCommand) : CaseDesk :=
  caseService.run (.new init.store) commands

theorem InitialStore.deskAfter_sound (init : InitialStore) (commands : List CaseCommand)
    : (init.deskAfter commands).Sound :=
  Machine.run_invariant (P := fun d : CaseDesk => d.Sound) (CaseDesk.new_sound init)
    (fun _ c hd => hd.next c) commands

/--
One command moves a case along the table and counts the move, unless it is premature.
-/
theorem CaseDesk.Sound.moves {d : CaseDesk} (hd : d.Sound) {c : CaseCommand}
    (hready : ¬ d.Premature c) {i : Nat} {case : Case} (hcase : d.store.cases[i]? = some case)
    : ∃ after, (caseService.next d c).store.cases[i]? = some after ∧ case.Follows after
        ∧ CaseGrows case after := by
  refine Machine.next_cases (P := fun e : CaseDesk => ∃ after, e.store.cases[i]? = some after
    ∧ case.Follows after ∧ CaseGrows case after) ?_ ?_
  . exact ⟨case, hcase, .inl rfl, Grows.caseGrows_refl case⟩
  . intro e output h
    obtain ⟨after, hafter, hgrows⟩ := (hd.grows h).cases i case hcase
    exact ⟨after, hafter, hd.follows h hready hcase hafter, hgrows⟩

end

namespace Sample

attribute [local instance] Digest.checksum

/--
Move the refund on and complete it while a change that was validated before is still to be written.
-/
def overtaken : List CaseCommand := [
  .readForStatusChange manager 0 1 .inProgress, .changeStatus 0,
  .readForStatusChange manager 0 3 .needsReview,
  .readForStatusChange manager 0 2 .completed, .changeStatus 1]

theorem overtaken_ready : caseService.Along (fun d c => ¬ d.Premature c) (.new initial.store)
    overtaken := by
  show _ ∧ _ ∧ _ ∧ _ ∧ _ ∧ True
  decide +kernel

end Sample

end CaseResolution
