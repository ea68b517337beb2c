import CaseResolution.Actions.Impl.Recovery
import CaseResolution.Actions.Lemmas.Base

/-!
This module contains when the operations that recover actions are accepted and what they write.
-/

namespace CaseResolution

open Guard

namespace Store

variable {s t : Store} {now : Instant} {actionId expectedVersion : Nat} {actorId : String}

theorem recordManualOutcome_eq_ok {outcome : ManualActionOutcome} {reason : String}
    {item : ActionQueueItem}
    : s.recordManualOutcome now actionId actorId expectedVersion outcome reason = .ok (t, item)
        ↔ ∃ a memberId member,
          s.actions[actionId]? = some a
            ∧ a.type ∉ retiredActionTypes
            ∧ a.version = expectedVersion
            ∧ a.status.isRecovery = true
            ∧ a.LatestUnknown
            ∧ s.activeMember actorId = some (memberId, member)
            ∧ (if outcome = .completed then
                ∃ case, s.cases[a.caseId]? = some case
                  ∧ t = (s.setAction actionId (a.recordManual memberId outcome reason now)).setCase
                    a.caseId (completedCase case)
              else
                t = s.setAction actionId (a.recordManual memberId outcome reason now))
            ∧ t.queueItem (a.recordManual memberId outcome reason now) now = .ok item := by
  unfold recordManualOutcome
  by_cases hcompleted : outcome = .completed
  . simp only [hcompleted, if_true, bind_eq_ok, ensure_eq_ok, exists_const, requiredAction_eq_ok,
      actionMember_eq_ok, CaseAction.latestUnknown_iff, advanceCaseAfterCompletion_eq_ok, pure_eq_ok,
      Prod.mk.injEq]
    constructor
    . rintro ⟨a, ⟨ha, htype⟩, hversion, hrecovery, hlatest, ⟨memberId, member⟩, hmember, _,
        hadvanced, _, hitem, rfl, rfl⟩
      exact ⟨a, memberId, member, ha, htype, hversion, hrecovery, hlatest, hmember, hadvanced, hitem⟩
    . rintro ⟨a, memberId, member, ha, htype, hversion, hrecovery, hlatest, hmember, hadvanced,
        hitem⟩
      exact ⟨a, ⟨ha, htype⟩, hversion, hrecovery, hlatest, (memberId, member), hmember, t, hadvanced,
        item, hitem, rfl, rfl⟩
  . simp only [hcompleted, if_false, bind_eq_ok, ensure_eq_ok, exists_const, requiredAction_eq_ok,
      actionMember_eq_ok, CaseAction.latestUnknown_iff, pure_eq_ok, Prod.mk.injEq]
    constructor
    . rintro ⟨a, ⟨ha, htype⟩, hversion, hrecovery, hlatest, ⟨memberId, member⟩, hmember, _, rfl, _,
        hitem, rfl, rfl⟩
      exact ⟨a, memberId, member, ha, htype, hversion, hrecovery, hlatest, hmember, rfl, hitem⟩
    . rintro ⟨a, memberId, member, ha, htype, hversion, hrecovery, hlatest, hmember, rfl, hitem⟩
      exact ⟨a, ⟨ha, htype⟩, hversion, hrecovery, hlatest, (memberId, member), hmember, _, rfl, item,
        hitem, rfl, rfl⟩

theorem escalate_eq_ok {reason : String} {item : ActionQueueItem}
    : s.escalate now actionId actorId expectedVersion reason = .ok (t, item)
        ↔ ∃ a memberId member,
          s.actions[actionId]? = some a
            ∧ a.type ∉ retiredActionTypes
            ∧ a.version = expectedVersion
            ∧ (a.status = .failedSafe ∨ a.status.isRecovery = true)
            ∧ s.activeMember actorId = some (memberId, member)
            ∧ t = s.setAction actionId (a.escalateTo memberId reason)
            ∧ t.queueItem (a.escalateTo memberId reason) now = .ok item := by
  unfold escalate
  simp only [bind_eq_ok, ensure_eq_ok, exists_const, requiredAction_eq_ok, actionMember_eq_ok,
    pure_eq_ok, Prod.mk.injEq]
  constructor
  . rintro ⟨a, ⟨ha, htype⟩, hversion, hopen, ⟨memberId, member⟩, hmember, _, hitem, rfl, rfl⟩
    refine ⟨a, memberId, member, ha, htype, hversion, ?_, hmember, rfl, hitem⟩
    simpa [ActionStatus.isRecovery] using hopen
  . rintro ⟨a, memberId, member, ha, htype, hversion, hopen, hmember, rfl, hitem⟩
    refine ⟨a, ⟨ha, htype⟩, hversion, ?_, (memberId, member), hmember, item, hitem, rfl, rfl⟩
    simpa [ActionStatus.isRecovery] using hopen

variable [Digest]

theorem prepareReconciliation_eq_ok {lease : ActionReconciliationLease}
    (h : s.prepareReconciliation now actionId actorId expectedVersion = .ok (t, lease))
    : ∃ found a memberId member connection,
        s.actions[actionId]? = some found
          ∧ a = found.reconcileAbandoned now
          ∧ a.type ∉ retiredActionTypes
          ∧ a.version = expectedVersion
          ∧ a.status.isRecovery = true
          ∧ s.connections[a.connectionId]? = some connection
          ∧ connection.adapterKey ≠ "unconfigured"
          ∧ a.LatestUnknown
          ∧ a.hasRunningReconciliation = false
          ∧ s.activeMember actorId = some (memberId, member)
          ∧ t = s.setAction actionId (a.startReconciliation memberId now)
          ∧ lease.actionId = actionId
          ∧ lease.reconciliationId = a.reconciliations.length := by
  unfold prepareReconciliation at h
  simp only [bind_eq_ok, ensure_eq_ok, exists_const, requiredAction_eq_ok, actionMember_eq_ok,
    requiredConnection_eq_ok, CaseAction.latestUnknown_iff, pure_eq_ok, Prod.mk.injEq] at h
  obtain ⟨found, ⟨hfound, htype⟩, hversion, hrecovery, connection, hconnection, hconfigured,
    hlatest, halone, ⟨memberId, member⟩, hmember, rfl, rfl⟩ := h
  exact ⟨found, _, memberId, member, connection, hfound, rfl, by simpa using htype, hversion,
    hrecovery, hconnection, hconfigured, hlatest, by simpa using halone, hmember, rfl, rfl, rfl⟩

/--
Nothing but the checks can refuse a reconciliation.
-/
theorem prepareReconciliation_isOk {found : CaseAction} {memberId : Nat} {member : Membership}
    {connection : Connection} (hfound : s.actions[actionId]? = some found)
    (htype : found.type ∉ retiredActionTypes)
    (hversion : (found.reconcileAbandoned now).version = expectedVersion)
    (hrecovery : (found.reconcileAbandoned now).status.isRecovery = true)
    (hconnection : s.connections[found.connectionId]? = some connection)
    (hconfigured : connection.adapterKey ≠ "unconfigured")
    (hlatest : (found.reconcileAbandoned now).LatestUnknown)
    (halone : found.hasRunningReconciliation = false)
    (hmember : s.activeMember actorId = some (memberId, member))
    : ∃ result, s.prepareReconciliation now actionId actorId expectedVersion = .ok result := by
  unfold prepareReconciliation
  simp only [bind_eq_ok, ensure_eq_ok, exists_const, requiredAction_eq_ok, actionMember_eq_ok,
    requiredConnection_eq_ok, CaseAction.latestUnknown_iff, pure_eq_ok]
  refine ⟨_, found, ⟨hfound, htype⟩, hversion, hrecovery, connection, by simpa using hconnection,
    hconfigured, hlatest, ?_, (memberId, member), hmember, rfl⟩
  simpa [CaseAction.hasRunningReconciliation] using halone

/--
How a lookup closes the reconciliation `r` of the action `a`, and whether that completes the action.
-/
inductive Concludes (a : CaseAction) (lease : ActionReconciliationLease)
    (r : CaseActionReconciliation) (result : ActionLookupResult) (now : Instant)
    : CaseAction → Bool → Prop where
  | completed (receipt : ActionGatewayReceipt) (bound : CaseAction) (stored : CaseActionReceipt)
      (present : result.found = some true) (returned : result.receipt = some receipt)
      (recorded : a.recordReceipt a.latestAttemptId receipt now = .ok (bound, stored))
      : Concludes a lease r result now
          (bound.closeReconciliation lease.reconciliationId r .confirmedCompleted .completed
            (some stored.externalReference) result.detail now) true
  | absent (missing : result.found = some false) (terminal : result.absenceIsTerminal = true)
      : Concludes a lease r result now
          (a.closeReconciliation lease.reconciliationId r .confirmedAbsent .failedSafe
            r.externalReference result.detail now) false
  | unknown (inconclusive : reconciliationOutcomeForLookup result.found result.absenceIsTerminal
        = .stillUnknown)
      : Concludes a lease r result now
          (a.closeReconciliation lease.reconciliationId r .stillUnknown .outcomeUnknown
            r.externalReference result.detail now) false

theorem finishReconciliation_eq_ok {lease : ActionReconciliationLease} {result : ActionLookupResult}
    {item : ActionQueueItem} (h : s.finishReconciliation now lease result = .ok (t, item))
    : ∃ a r, s.actions[lease.actionId]? = some a
        ∧ a.reconciliations[lease.reconciliationId]? = some r
        ∧ ((r.outcome ≠ .running ∧ t = s)
          ∨ ∃ b completed, r.outcome = .running
            ∧ a.latestAttempt.isSome
            ∧ Concludes a lease r result now b completed
            ∧ (if completed then
                ∃ case, s.cases[b.caseId]? = some case
                  ∧ t = (s.setAction lease.actionId b).setCase b.caseId (completedCase case)
              else
                t = s.setAction lease.actionId b)) := by
  unfold finishReconciliation at h
  simp only [bind_eq_ok, orThrow_eq_ok] at h
  obtain ⟨a, ha, r, hr, h⟩ := h
  refine ⟨a, r, ha, hr, ?_⟩
  split at h
  . next hclosed =>
    simp only [bind_eq_ok, pure_eq_ok, Prod.mk.injEq] at h
    obtain ⟨_, _, rfl, _⟩ := h
    exact .inl ⟨hclosed, rfl⟩
  . next hrunning =>
    rw [ensure_bind_eq_ok] at h
    obtain ⟨hattempt, h⟩ := h
    refine .inr ?_
    split at h
    . next houtcome =>
      simp only [bind_eq_ok, orThrow_eq_ok, advanceCaseAfterCompletion_eq_ok, pure_eq_ok,
        Prod.mk.injEq] at h
      obtain ⟨receipt, hreceipt, ⟨bound, stored⟩, hrecorded, _, ⟨case, hcase, rfl⟩, _, _, rfl, _⟩ := h
      have hfound : result.found = some true := by
        unfold reconciliationOutcomeForLookup at houtcome
        grind
      exact ⟨_, true, not_not.mp hrunning, hattempt, .completed receipt bound stored hfound hreceipt
        hrecorded, case, hcase, rfl⟩
    . next houtcome =>
      simp only [bind_eq_ok, pure_eq_ok, Prod.mk.injEq] at h
      obtain ⟨_, _, rfl, _⟩ := h
      have hfound : result.found = some false ∧ result.absenceIsTerminal = true := by
        unfold reconciliationOutcomeForLookup at houtcome
        grind
      exact ⟨_, false, not_not.mp hrunning, hattempt, .absent hfound.1 hfound.2, rfl⟩
    . next hcompleted habsent =>
      simp only [bind_eq_ok, pure_eq_ok, Prod.mk.injEq] at h
      obtain ⟨_, _, rfl, _⟩ := h
      have houtcome : reconciliationOutcomeForLookup result.found result.absenceIsTerminal
          = .stillUnknown := by
        unfold reconciliationOutcomeForLookup at hcompleted habsent ⊢
        grind
      exact ⟨_, false, not_not.mp hrunning, hattempt, .unknown houtcome, rfl⟩

variable (now) in
/--
A lookup that does not find the change takes the action out of whatever status it is in.
-/
theorem finishReconciliation_of_unconfirmed {lease : ActionReconciliationLease}
    {result : ActionLookupResult} {a : CaseAction} {r : CaseActionReconciliation}
    (ha : s.actions[lease.actionId]? = some a)
    (hr : a.reconciliations[lease.reconciliationId]? = some r) (hrunning : r.outcome = .running)
    (hattempt : a.latestAttempt.isSome) (hfound : result.found ≠ some true)
    : ∃ outcome status, LeavesOpen outcome status ∧ ∀ b item,
        b = a.closeReconciliation lease.reconciliationId r outcome status r.externalReference
            result.detail now
          → (s.setAction lease.actionId b).queueItem b now = .ok item
          → s.finishReconciliation now lease result = .ok (s.setAction lease.actionId b, item) := by
  cases hlookup : reconciliationOutcomeForLookup result.found result.absenceIsTerminal with
  | running =>
    unfold reconciliationOutcomeForLookup at hlookup
    grind
  | confirmedCompleted =>
    unfold reconciliationOutcomeForLookup at hlookup
    grind
  | confirmedAbsent =>
    refine ⟨.confirmedAbsent, .failedSafe, .inl ⟨rfl, rfl⟩, ?_⟩
    rintro b item rfl hitem
    unfold finishReconciliation
    simp [ha, hr, hrunning, hattempt, hlookup, hitem, bind_eq_ok]
  | stillUnknown =>
    refine ⟨.stillUnknown, .outcomeUnknown, .inr ⟨rfl, rfl⟩, ?_⟩
    rintro b item rfl hitem
    unfold finishReconciliation
    simp [ha, hr, hrunning, hattempt, hlookup, hitem, bind_eq_ok]

end Store

end CaseResolution
