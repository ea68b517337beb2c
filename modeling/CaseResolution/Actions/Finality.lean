import CaseResolution.Actions.Retry

/-!
This module contains when a completed action stays completed: a reconciliation that was begun before a
human recorded the outcome and the import of a historical attempt can both undo the completion, and
nothing else can.
-/

namespace CaseResolution

open Guard

namespace Store

/--
The action at `i` is completed.
-/
def CompletedAt (s : Store) (i : Nat) : Prop :=
  ∃ a, s.actions[i]? = some a ∧ a.status = .completed

theorem CompletedAt.setAction {s : Store} {i j : Nat} {b : CaseAction} (hcompleted : s.CompletedAt i)
    (hb : i = j → b.status = .completed) : (s.setAction j b).CompletedAt i := by
  obtain ⟨a, ha, hstatus⟩ := hcompleted
  by_cases hij : i = j
  . subst hij
    exact ⟨b, List.getElem?_set_self (List.getElem?_eq_some_iff.mp ha).1, hb rfl⟩
  . exact ⟨a, by rw [setAction_actions, List.getElem?_set_ne (Ne.symm hij), ha], hstatus⟩

end Store

section

variable [Digest]

namespace Store

/--
The commands that undo the completion of the action at `i`.
-/
inductive Undoes (s : Store) (i : Nat) : Command → Prop where
  | finishedLate (now : Instant) (lease : ActionReconciliationLease) (result : ActionLookupResult)
      (a : CaseAction) (r : CaseActionReconciliation) (leased : lease.actionId = i)
      (completed : s.actions[i]? = some a) (found : a.reconciliations[lease.reconciliationId]? = some r)
      (running : r.outcome = .running) (unconfirmed : result.found ≠ some true)
      : Undoes s i (.finishReconciliation now lease result)
  | importedLate (now : Instant) (command : LegacyActionImport) (a : CaseAction)
      (lineage : LegacyLineage) (completed : s.actions[i]? = some a) (unreceipted : a.receipts = [])
      (new : s.findLegacyAttempt command.legacyToolAttemptId = none)
      (descends : s.legacyLineage command = .ok lineage) (addressed : lineage.action s = some i)
      (finished : command.attemptOutcome ≠ .running) (unpaid : command.receipt = none)
      : Undoes s i (.importLegacyAction now command)

end Store

/--
No other step takes a completed action out of its status.
-/
theorem ActionStep.completed {c : Command} {i : Nat} {a b : CaseAction} (h : ActionStep c i a b)
    (hvalid : a.Valid) (hcompleted : a.status = .completed)
    (hlate : ∀ now lease result, c ≠ .finishReconciliation now lease result)
    (himport : ∀ now command, c ≠ .importLegacyAction now command) : b.status = .completed := by
  cases h with
  | abandoned now =>
    by_contra hstatus
    have hwas : ¬ a.wasAbandoned now := fun hwas => by simp [hwas.1] at hcompleted
    rw [CaseAction.reconcileAbandoned_of_not_abandoned hwas] at hstatus
    exact hstatus hcompleted
  | started now actorId expectedVersion command memberId issued eligible unpaid startable =>
    rcases startable with hstatus | hstatus <;> simp [hcompleted] at hstatus
  | succeeded => rfl
  | failed now lease error attempt issued leased found running =>
    have := (hvalid.running_last lease.attemptId attempt found running).1
    simp [hcompleted] at this
  | checkStarted => exact hcompleted
  | confirmed => rfl
  | unconfirmed now lease result reconciliation outcome status issued =>
    exact absurd issued (hlate now lease result)
  | recorded now actorId expectedVersion memberId outcome reason issued recovery unknown =>
    simp [hcompleted, CaseAction.isRecovery_iff] at recovery
  | escalated now actorId expectedVersion memberId reason issued open_ =>
    simp [hcompleted, CaseAction.isRecovery_iff] at open_
  | imported now command issued => exact absurd issued (himport now command)

namespace Store

variable {c : Command} {s t : Store} {i : Nat}

theorem CompletedAt.writes (h : Writes c s t) (hs : s.Sound) (hcompleted : s.CompletedAt i)
    (hlate : ∀ now lease result, c ≠ .finishReconciliation now lease result)
    (himport : ∀ now command, c ≠ .importLegacyAction now command) : t.CompletedAt i := by
  induction h with
  | refl => exact hcompleted
  | tail hwrites hwrite ih =>
    obtain ⟨a, ha, hstatus⟩ := ih
    have hs' := Writes.sound hwrites hs
    have hlt := (List.getElem?_eq_some_iff.mp ha).1
    obtain ⟨b, hb, _⟩ := (hwrite.grows hs').actions i a ha
    refine ⟨b, hb, ?_⟩
    rcases hwrite.action_origin hs' hb with ⟨a', ha', _, _, hmoved, _⟩ | ⟨hnew, _⟩
    . obtain rfl : a = a' := Option.some.inj (ha.symm.trans ha')
      rcases hmoved with rfl | hstep
      . exact hstatus
      . exact hstep.completed (hs'.actions_valid a (List.mem_of_getElem? ha)) hstatus hlate himport
    . omega

/--
A lookup that confirms the change leaves a completed action completed.
-/
theorem CompletedAt.finishReconciliation (hcompleted : s.CompletedAt i) {now : Instant}
    {lease : ActionReconciliationLease} {result : ActionLookupResult} {item : ActionQueueItem}
    (hkept : ¬ s.Undoes i (.finishReconciliation now lease result))
    (h : s.finishReconciliation now lease result = .ok (t, item)) : t.CompletedAt i := by
  obtain ⟨a, r, ha, hr, ⟨_, rfl⟩ | ⟨b, completed, hrunning, _, hconcludes, hwritten⟩⟩ :=
    finishReconciliation_eq_ok h
  . exact hcompleted
  have hfound : i = lease.actionId → result.found = some true := by
    rintro rfl
    by_contra hfound
    exact hkept (.finishedLate now lease result a r rfl ha hr hrunning hfound)
  cases hconcludes with
  | completed =>
    obtain ⟨case, _, rfl⟩ := hwritten
    exact hcompleted.setAction (j := lease.actionId) fun _ => rfl
  | absent missing =>
    obtain rfl : t = _ := hwritten
    refine hcompleted.setAction fun hi => ?_
    simp [hfound hi] at missing
  | unknown inconclusive =>
    obtain rfl : t = _ := hwritten
    refine hcompleted.setAction fun hi => ?_
    simp [reconciliationOutcomeForLookup, hfound hi] at inconclusive

/--
An import leaves a completed action completed if a receipt confirms the completion.
-/
theorem CompletedAt.importLegacyAction (hcompleted : s.CompletedAt i) {now : Instant}
    {command : LegacyActionImport} {item : ActionQueueItem}
    (hkept : ¬ s.Undoes i (.importLegacyAction now command))
    (h : s.importLegacyAction now command = .ok (t, item)) : t.CompletedAt i := by
  rcases importLegacyAction_eq_ok h with ⟨rfl, _⟩ | ⟨lineage, connections, connectionId, hnew, hlineage,
    hfinished, _, _, ⟨j, a, hfound, ha, rfl⟩ | rfl⟩
  . exact hcompleted
  . refine CompletedAt.setAction hcompleted ?_
    rintro rfl
    rw [CaseAction.appendLegacy_completed_iff]
    by_contra hnone
    push Not at hnone
    exact hkept (.importedLate now command a lineage ha hnone.1 hnew hlineage hfound hfinished hnone.2)
  . obtain ⟨a, ha, hstatus⟩ := hcompleted
    have hlt := (List.getElem?_eq_some_iff.mp ha).1
    exact ⟨a, by rw [List.getElem?_append_left hlt, ha], hstatus⟩

/--
A command that does not undo the completion keeps it.
-/
theorem CompletedAt.next (hs : s.Sound) (hcompleted : s.CompletedAt i) (c : Command)
    (hkept : ¬ s.Undoes i c) : (service.next s c).CompletedAt i := by
  refine Machine.next_cases (P := fun t : Store => t.CompletedAt i) hcompleted ?_
  intro t output h
  by_cases hlate : ∃ now lease result, c = .finishReconciliation now lease result
  . obtain ⟨now, lease, result, rfl⟩ := hlate
    obtain ⟨item, hfinished, _⟩ := answer_eq_ok.mp h
    exact hcompleted.finishReconciliation hkept hfinished
  by_cases himport : ∃ now command, c = .importLegacyAction now command
  . obtain ⟨now, command, rfl⟩ := himport
    obtain ⟨item, himported, _⟩ := answer_eq_ok.mp h
    exact hcompleted.importLegacyAction hkept himported
  . push Not at hlate himport
    exact hcompleted.writes (perform_writes hs h) hs hlate himport

/--
A command that undoes the completion is accepted, and the action is not completed after it.
-/
theorem Undoes.not_completed (hs : s.Sound) (hundone : s.Undoes i c)
    : ¬ (service.next s c).CompletedAt i := by
  rintro ⟨d, hd, hstatus⟩
  cases hundone with
  | finishedLate now lease result a r leased completed found running unconfirmed =>
    subst leased
    have hvalid := hs.actions_valid a (List.mem_of_getElem? completed)
    have hlt := (List.getElem?_eq_some_iff.mp completed).1
    obtain ⟨outcome, status, hopen, haccepted⟩ := finishReconciliation_of_unconfirmed now
      completed found running (hvalid.latestAttempt_isSome (List.mem_of_getElem? found)) unconfirmed
    have hne : status ≠ .completed := by
      rcases hopen with ⟨_, rfl⟩ | ⟨_, rfl⟩ <;> simp
    have hwrite : Write (.finishReconciliation now lease result) s (s.setAction lease.actionId
        (a.closeReconciliation lease.reconciliationId r outcome status r.externalReference
          result.detail now)) :=
      .actionStepped _ a _ completed (.unconfirmed now lease result r outcome status rfl rfl found
        running hopen) fun h => absurd h hne
    obtain ⟨item, hitem⟩ := (hwrite.sound hs).queueItem_isOk
      (List.mem_of_getElem? (List.getElem?_set_self hlt)) now
    have hnext := haccepted _ item rfl hitem
    rw [Machine.next_of_ok (answer_eq_ok.mpr ⟨item, hnext, rfl⟩), setAction_actions,
      List.getElem?_set_self hlt] at hd
    obtain rfl := Option.some.inj hd
    exact hne hstatus
  | importedLate now command a lineage completed unreceipted new descends addressed finished unpaid =>
    have hlt := (List.getElem?_eq_some_iff.mp completed).1
    have hunique : s.requireReceiptUnique a command = .ok ⟨⟩ := by simp [requireReceiptUnique, unpaid]
    obtain ⟨connections, item, haccepted⟩ := importLegacyAction_found now hs new descends finished
      addressed completed hunique
    rw [Machine.next_of_ok (answer_eq_ok.mpr ⟨item, haccepted, rfl⟩), setAction_actions,
      List.getElem?_set_self hlt] at hd
    obtain rfl := Option.some.inj hd
    rcases CaseAction.appendLegacy_completed_iff.mp hstatus with hreceipt | hreceipt
    . exact hreceipt unreceipted
    . exact hreceipt unpaid

end Store

/--
Along every continuation of a run a completed action stays completed exactly if no command of it
undoes the completion.
-/
theorem completed_final_iff (init : InitialStore) (commands more : List Command) {i : Nat}
    (hcompleted : (init.after commands).CompletedAt i)
    : (∀ pre post, more = pre ++ post → (init.after (commands ++ pre)).CompletedAt i)
        ↔ service.Along (fun s c => ¬ s.Undoes i c) (init.after commands) more := by
  simp only [InitialStore.after_append]
  refine Machine.stays_iff_along (I := Store.Sound)
    (P := fun s => s.CompletedAt i) (fun t c ht => next_sound ht c) ?_ (init.after_sound commands)
    hcompleted more
  intro t c ht hbefore
  constructor
  . exact fun hnext hundone => hundone.not_completed ht hnext
  . exact hbefore.next ht c

end

namespace Sample

attribute [local instance] Digest.checksum

/--
Record that the refund was made while it is checked with its target.
-/
def settlement : List Command :=
  execution ++ [
    .prepareReconciliation (minutes 10) 0 "MB-2" 3,
    .recordManualOutcome (minutes 11) 0 "MB-2" 4 .completed "The refund is on the statement."]

/--
The check that was already running ends without finding the refund.
-/
def lateFinish : Command :=
  .finishReconciliation (minutes 12) reconciliationLease nothingFound

theorem settled : (initial.after settlement).CompletedAt 0 := by
  have h : ∃ a ∈ (initial.after settlement).actions[0]?, a.status = .completed := by decide +kernel
  exact h

/--
The late finish undoes the completion.
-/
theorem completion_undone : (∃ a ∈ (initial.after settlement).actions[0]?, a.status = .completed)
    ∧ ∃ a ∈ (initial.after (settlement ++ [lateFinish])).actions[0]?, a.status = .failedSafe := by
  decide +kernel

theorem completed_final_settled
    : (∀ pre post, [lateFinish] = pre ++ post
          → (initial.after (settlement ++ pre)).CompletedAt 0)
        ↔ service.Along (fun s c => ¬ s.Undoes 0 c) (initial.after settlement) [lateFinish] :=
  completed_final_iff initial settlement [lateFinish] settled

end Sample

end CaseResolution
