import CaseResolution.Actions.Impl.Base

/-!
This module contains the facts about the shared parts of the action repository that every operation
is verified with: what recovering abandoned attempts changes, when an action has no blocker, and when
the reads an operation starts or ends with are accepted.
-/

namespace CaseResolution

open Guard

/--
How a lookup that did not find the change leaves the reconciliation and the action.
-/
def LeavesOpen (outcome : ReconciliationOutcome) (status : ActionStatus) : Prop :=
  outcome = .confirmedAbsent ∧ status = .failedSafe
    ∨ outcome = .stillUnknown ∧ status = .outcomeUnknown

namespace CaseActionAttempt

theorem isAbandoned_running {attempt : CaseActionAttempt} {now : Instant}
    (h : attempt.isAbandoned now) : attempt.outcome = .running := by
  simp [isAbandoned] at h
  exact h.1

variable [Digest] (attempt : CaseActionAttempt) (now : Instant)

@[simp]
theorem reconcileAbandoned_number : (attempt.reconcileAbandoned now).number = attempt.number := by
  unfold reconcileAbandoned abandon
  split <;> rfl

@[simp]
theorem reconcileAbandoned_command
    : (attempt.reconcileAbandoned now).command = attempt.command := by
  unfold reconcileAbandoned abandon
  split <;> rfl

@[simp]
theorem reconcileAbandoned_legacyToolAttemptId
    : (attempt.reconcileAbandoned now).legacyToolAttemptId = attempt.legacyToolAttemptId := by
  unfold reconcileAbandoned abandon
  split <;> rfl

theorem reconcileAbandoned_of_ne_running {attempt : CaseActionAttempt} {now : Instant}
    (h : attempt.outcome ≠ .running) : attempt.reconcileAbandoned now = attempt := by
  unfold reconcileAbandoned
  split
  . next habandoned => exact absurd (isAbandoned_running habandoned) h
  . rfl

/--
An attempt that is still running after the recovery was left alone by it.
-/
theorem eq_of_reconcileAbandoned_running {attempt : CaseActionAttempt} {now : Instant}
    (h : (attempt.reconcileAbandoned now).outcome = .running)
    : attempt.reconcileAbandoned now = attempt ∧ attempt.isAbandoned now = false := by
  unfold reconcileAbandoned at h ⊢
  split at h
  . simp [abandon] at h
  . simp_all

/--
A recovered attempt is the attempt itself, or it was running and its outcome is now unknown.
-/
theorem reconcileAbandoned_cases (attempt : CaseActionAttempt) (now : Instant)
    : attempt.reconcileAbandoned now = attempt
        ∨ (attempt.outcome = .running ∧ (attempt.reconcileAbandoned now).outcome = .unknown) := by
  unfold reconcileAbandoned
  split
  . next habandoned => exact .inr ⟨isAbandoned_running habandoned, rfl⟩
  . exact .inl rfl

end CaseActionAttempt

namespace CaseAction

section Recovery

variable [Digest] (action : CaseAction) (now : Instant)

/--
Some attempt of a running action was abandoned.
-/
def wasAbandoned (action : CaseAction) (now : Instant) : Prop :=
  action.status = .running ∧ action.attempts.any fun attempt => attempt.isAbandoned now

theorem reconcileAbandoned_of_abandoned {action : CaseAction} {now : Instant}
    (h : action.wasAbandoned now)
    : action.reconcileAbandoned now =
        { action with
          attempts := action.attempts.map fun attempt => attempt.reconcileAbandoned now
          status := .outcomeUnknown
          observedOutcome := some abandonedAttemptDetail
          version := action.version + 1 } := by
  unfold reconcileAbandoned
  exact if_pos h

theorem reconcileAbandoned_of_not_abandoned {action : CaseAction} {now : Instant}
    (h : ¬ action.wasAbandoned now)
    : action.reconcileAbandoned now =
        { action with
          attempts := action.attempts.map fun attempt => attempt.reconcileAbandoned now } := by
  unfold reconcileAbandoned
  exact if_neg h

@[simp]
theorem reconcileAbandoned_attempts : (action.reconcileAbandoned now).attempts
    = action.attempts.map fun attempt => attempt.reconcileAbandoned now := by
  unfold reconcileAbandoned
  dsimp only
  split <;> rfl

/--
What recovering abandoned attempts leaves as it was.
-/
theorem reconcileAbandoned_frame
    : ∃ attempts status observedOutcome version,
        action.reconcileAbandoned now =
          { action with
            attempts := attempts
            status := status
            observedOutcome := observedOutcome
            version := version } := by
  unfold reconcileAbandoned
  dsimp only
  split
  . exact ⟨_, _, _, _, rfl⟩
  . exact ⟨_, _, _, _, rfl⟩

@[simp]
theorem reconcileAbandoned_caseId : (action.reconcileAbandoned now).caseId = action.caseId := by
  obtain ⟨_, _, _, _, h⟩ := reconcileAbandoned_frame action now
  rw [h]

@[simp]
theorem reconcileAbandoned_reviewId
    : (action.reconcileAbandoned now).reviewId = action.reviewId := by
  obtain ⟨_, _, _, _, h⟩ := reconcileAbandoned_frame action now
  rw [h]

@[simp]
theorem reconcileAbandoned_connectionId
    : (action.reconcileAbandoned now).connectionId = action.connectionId := by
  obtain ⟨_, _, _, _, h⟩ := reconcileAbandoned_frame action now
  rw [h]

@[simp]
theorem reconcileAbandoned_type : (action.reconcileAbandoned now).type = action.type := by
  obtain ⟨_, _, _, _, h⟩ := reconcileAbandoned_frame action now
  rw [h]

@[simp]
theorem reconcileAbandoned_executionEligible
    : (action.reconcileAbandoned now).executionEligible = action.executionEligible := by
  obtain ⟨_, _, _, _, h⟩ := reconcileAbandoned_frame action now
  rw [h]

@[simp]
theorem reconcileAbandoned_receipts
    : (action.reconcileAbandoned now).receipts = action.receipts := by
  obtain ⟨_, _, _, _, h⟩ := reconcileAbandoned_frame action now
  rw [h]

@[simp]
theorem reconcileAbandoned_reconciliations
    : (action.reconcileAbandoned now).reconciliations = action.reconciliations := by
  obtain ⟨_, _, _, _, h⟩ := reconcileAbandoned_frame action now
  rw [h]

/--
The recovery changes no status but to an unknown outcome.
-/
theorem status_of_reconcileAbandoned {action : CaseAction} {now : Instant} {status : ActionStatus}
    (hknown : status ≠ .outcomeUnknown) (h : (action.reconcileAbandoned now).status = status)
    : action.status = status := by
  unfold reconcileAbandoned at h
  dsimp only at h
  split at h
  . exact absurd h.symm hknown
  . exact h

/--
Abandoned attempts are recovered once.
-/
theorem reconcileAbandoned_reconcileAbandoned
    : (action.reconcileAbandoned now).reconcileAbandoned now = action.reconcileAbandoned now := by
  have hnone : ∀ attempt ∈ (action.reconcileAbandoned now).attempts,
      attempt.isAbandoned now = false := by
    intro attempt hattempt
    rw [reconcileAbandoned_attempts] at hattempt
    obtain ⟨before, _, rfl⟩ := List.mem_map.mp hattempt
    by_contra habandoned
    rw [Bool.not_eq_false] at habandoned
    have hrunning := CaseActionAttempt.isAbandoned_running habandoned
    obtain ⟨hsame, hbefore⟩ := CaseActionAttempt.eq_of_reconcileAbandoned_running hrunning
    rw [hsame, hbefore] at habandoned
    simp at habandoned
  have hnot : ¬ (action.reconcileAbandoned now).wasAbandoned now := by
    rintro ⟨_, hany⟩
    obtain ⟨attempt, hattempt, habandoned⟩ := List.any_eq_true.mp hany
    simp [hnone attempt hattempt] at habandoned
  rw [reconcileAbandoned_of_not_abandoned hnot, Rows.map_self]
  intro attempt hattempt
  simp [CaseActionAttempt.reconcileAbandoned, hnone attempt hattempt]

end Recovery

/--
Some attempt was made and the outcome of the latest one is unknown.
-/
def LatestUnknown (a : CaseAction) : Prop :=
  ∃ attempt, a.latestAttempt = some attempt ∧ attempt.outcome = .unknown

theorem latestUnknown_iff {a : CaseAction}
    : (a.latestAttempt.any fun attempt => attempt.outcome = .unknown) = true
        ↔ a.LatestUnknown := by
  unfold LatestUnknown
  cases a.latestAttempt <;> simp

theorem LatestUnknown.attempts_ne_nil {a : CaseAction} (h : a.LatestUnknown) : a.attempts ≠ [] := by
  obtain ⟨t, ht, _⟩ := h
  exact List.ne_nil_of_mem (List.argmax_mem ht)

theorem LatestUnknown.of_attempts {a b : CaseAction} (h : a.LatestUnknown)
    (hattempts : b.attempts = a.attempts) : b.LatestUnknown := by
  unfold LatestUnknown latestAttempt at h ⊢
  rwa [hattempts]

theorem receipt_eq_none {action : CaseAction} : action.receipt = none ↔ action.receipts = [] := by
  simp [receipt]

/--
A receipt is bound by storing it or by finding one with the same key and reference.
-/
theorem recordReceipt_eq_ok [Digest] {action bound : CaseAction} {attemptId : Nat}
    {receipt : ActionGatewayReceipt} {now : Instant} {stored : CaseActionReceipt}
    (h : action.recordReceipt attemptId receipt now = .ok (bound, stored))
    : (bound = action ∧ action.receipt = some stored
          ∧ stored.idempotencyKey = receipt.idempotencyKey)
        ∨ (action.receipts = [] ∧ bound = { action with receipts := [stored] }
          ∧ stored.idempotencyKey = receipt.idempotencyKey) := by
  unfold recordReceipt at h
  split at h
  . next existing heq =>
    simp only [ensure_bind_eq_ok, pure_eq_ok, Prod.mk.injEq] at h
    obtain ⟨hsame, rfl, rfl⟩ := h
    exact .inl ⟨rfl, heq, hsame.1⟩
  . next hnone =>
    simp only [pure_eq_ok, Prod.mk.injEq] at h
    obtain ⟨rfl, rfl⟩ := h
    have hempty := receipt_eq_none.mp hnone
    exact .inr ⟨hempty, by simp [hempty], rfl⟩

end CaseAction

namespace Store

variable {s s' : Store} {action : CaseAction} {now : Instant}

theorem requiredAction_eq_ok {actionId : Nat}
    : s.requiredAction actionId = .ok action
        ↔ s.actions[actionId]? = some action ∧ action.type ∉ retiredActionTypes := by
  unfold requiredAction
  simp only [orThrow_bind_eq_ok, ensure_bind_eq_ok, pure_eq_ok]
  constructor
  . rintro ⟨_, hfound, hcurrent, rfl⟩
    exact ⟨hfound, hcurrent⟩
  . rintro ⟨hfound, hcurrent⟩
    exact ⟨action, hfound, hcurrent, rfl⟩

theorem requiredConnection_eq_ok {connection : Connection}
    : s.requiredConnection action = .ok connection
        ↔ s.connections[action.connectionId]? = some connection := by
  unfold requiredConnection
  simp

theorem actionMember_eq_ok {actorId : String} {member : Nat × Membership}
    : s.actionMember actorId = .ok member ↔ s.activeMember actorId = some member := by
  unfold actionMember
  simp

theorem actionLineage_eq_some {lineage : ActionLineage}
    : s.actionLineage action = some lineage
        ↔ s.reviews[action.reviewId]? = some lineage.review
          ∧ lineage.review.decisions[action.reviewDecisionId]? = some lineage.decision
          ∧ s.cases[action.caseId]? = some lineage.case
          ∧ s.proposals[action.proposalId]? = some lineage.proposal
          ∧ s.versions[action.proposalVersionId]? = some lineage.version := by
  unfold actionLineage
  simp only [Option.bind_eq_bind, Option.bind_eq_some_iff, Option.pure_def, Option.some.injEq]
  constructor
  . rintro ⟨review, hreview, decision, hdecision, case, hcase, proposal, hproposal, version, hversion,
      rfl⟩
    exact ⟨hreview, hdecision, hcase, hproposal, hversion⟩
  . rintro ⟨hreview, hdecision, hcase, hproposal, hversion⟩
    exact ⟨_, hreview, _, hdecision, _, hcase, _, hproposal, _, hversion, rfl⟩

/--
The checks before the connection is looked at pass.
-/
def PassesApproval (s : Store) (action : CaseAction) (now : Instant) : Prop :=
  action.status ≠ .completed
    ∧ action.receipt = none
    ∧ action.type ∉ retiredActionTypes
    ∧ action.executionEligible = true
    ∧ now < action.authorizationExpiresAt
    ∧ ∃ lineage ∈ s.actionLineage action, lineage.IsCurrent

theorem effectiveBlocker_of_passes (h : s.PassesApproval action now)
    : s.effectiveBlocker action now =
        (s.requiredConnection action >>= fun connection =>
          if connection.isEligible now ∧ action.type ∈ connection.actionTypes then
            pure none
          else
            pure (some .connectionUnavailable)) := by
  obtain ⟨hstatus, hreceipt, htype, heligible, hexpires, hlineage⟩ := h
  unfold effectiveBlocker
  rw [if_neg (by simp [hstatus, hreceipt]), if_neg htype, if_neg (by simp [heligible]),
    if_neg (not_le.mpr hexpires), if_pos hlineage]

/--
An action that fails a check before the connection has a blocker that no connection decides.
-/
theorem effectiveBlocker_of_not_passes (h : ¬ s.PassesApproval action now)
    : ∃ blocker, s.effectiveBlocker action now = .ok (some blocker) := by
  unfold effectiveBlocker
  split
  . exact ⟨_, rfl⟩
  split
  . exact ⟨_, rfl⟩
  split
  . exact ⟨_, rfl⟩
  split
  . exact ⟨_, rfl⟩
  split
  . next hfinal htype heligible hexpires hlineage =>
    simp only [not_or, Option.not_isSome_iff_eq_none, not_not] at hfinal heligible
    exact absurd ⟨hfinal.1, hfinal.2, htype, heligible, not_le.mp hexpires, hlineage⟩ h
  . exact ⟨_, rfl⟩

theorem effectiveBlocker_eq_none_iff
    : s.effectiveBlocker action now = .ok none
        ↔ s.PassesApproval action now
          ∧ ∃ connection, s.connections[action.connectionId]? = some connection
            ∧ connection.isEligible now ∧ action.type ∈ connection.actionTypes := by
  by_cases hpasses : s.PassesApproval action now
  . rw [effectiveBlocker_of_passes hpasses, bind_eq_ok]
    simp only [requiredConnection_eq_ok, hpasses, true_and]
    constructor
    . rintro ⟨connection, hfound, hif⟩
      split at hif
      . next hok => exact ⟨connection, hfound, hok⟩
      . simp at hif
    . rintro ⟨connection, hfound, hok⟩
      exact ⟨connection, hfound, by rw [if_pos hok]; rfl⟩
  . obtain ⟨blocker, heq⟩ := effectiveBlocker_of_not_passes hpasses
    simp [heq, hpasses]

variable (now) in
theorem effectiveBlocker_isOk {connection : Connection}
    (h : s.connections[action.connectionId]? = some connection)
    : ∃ blocker, s.effectiveBlocker action now = .ok blocker := by
  by_cases hpasses : s.PassesApproval action now
  . rw [effectiveBlocker_of_passes hpasses, requiredConnection_eq_ok.mpr h]
    simp only [bind, Except.bind]
    split <;> exact ⟨_, rfl⟩
  . obtain ⟨blocker, heq⟩ := effectiveBlocker_of_not_passes hpasses
    exact ⟨_, heq⟩

theorem queueItem_eq_ok {item : ActionQueueItem}
    : s.queueItem action now = .ok item
        ↔ ∃ lineage connection blocker,
          s.actionLineage action = some lineage
            ∧ s.connections[action.connectionId]? = some connection
            ∧ s.effectiveBlocker action now = .ok blocker
            ∧ item = {
                bundle := { action, lineage, connection }
                effectiveBlocker := blocker
                recoveryRequired := action.status.isRecovery
              } := by
  unfold queueItem loadBundle
  simp only [bind_eq_ok, orThrow_eq_ok, pure_eq_ok]
  constructor
  . rintro ⟨_, ⟨lineage, hlineage, connection, hconnection, rfl⟩, blocker, hblocker, rfl⟩
    exact ⟨lineage, connection, blocker, hlineage, hconnection, hblocker, rfl⟩
  . rintro ⟨lineage, connection, blocker, hlineage, hconnection, hblocker, rfl⟩
    exact ⟨_, ⟨lineage, hlineage, connection, hconnection, rfl⟩, blocker, hblocker, rfl⟩

theorem queueItem_isOk {lineage : ActionLineage} {connection : Connection}
    (hlineage : s.actionLineage action = some lineage)
    (hconnection : s.connections[action.connectionId]? = some connection)
    : ∃ item, s.queueItem action now = .ok item := by
  obtain ⟨blocker, hblocker⟩ := effectiveBlocker_isOk now hconnection
  exact ⟨_, queueItem_eq_ok.mpr ⟨lineage, connection, blocker, hlineage, hconnection, hblocker, rfl⟩⟩

/--
The case after one of its actions completed.
-/
def completedCase (case : Case) : Case :=
  if case.status = .needsReview then
    { case with status := .inProgress, version := case.version + 1 }
  else
    case

theorem advanceCaseAfterCompletion_eq_ok
    : s.advanceCaseAfterCompletion action = .ok s'
        ↔ ∃ case, s.cases[action.caseId]? = some case
          ∧ s' = s.setCase action.caseId (completedCase case) := by
  unfold advanceCaseAfterCompletion
  rw [orThrow_bind_eq_ok]
  refine exists_congr fun case => and_congr_right fun hcase => ?_
  unfold completedCase
  split
  . rw [pure_eq_ok, eq_comm]
  . have hsame : s.setCase action.caseId case = s := by
      simp only [setCase, Rows.set_self hcase]
    rw [pure_eq_ok, hsame, eq_comm]

end Store

end CaseResolution
