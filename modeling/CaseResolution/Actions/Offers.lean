import CaseResolution.Actions.Impl.Service
import CaseResolution.Actions.Finality

/-!
This module contains when the commands the service offers on an action are accepted by the operations
behind them, and when an action that needs recovery has a way out.
-/

namespace CaseResolution

open Guard Store

/--
What the service looks at before it offers a command.
-/
theorem offered_cases {actor : ActorContext} {item : ActionQueueItem} {command : ActionCommand}
    (h : command ∈ availableActionCommands actor item)
    : item.bundle.action.type ∉ retiredActionTypes
        ∧ (item.effectiveBlocker = none
            ∧ (command = .execute ∧ item.bundle.action.status = .ready
              ∨ command = .retrySafe ∧ item.bundle.action.status = .failedSafe)
          ∨ item.bundle.action.status.isRecovery = true ∧ hasUnknownOutcome item.bundle.action = true
            ∧ (command = .reconcile ∧ item.bundle.connection.adapterKey ≠ "unconfigured"
              ∨ command = .recordManualOutcome)
          ∨ command = .escalate ∧ (item.bundle.action.status = .failedSafe
            ∨ item.bundle.action.status.isRecovery = true)) := by
  unfold availableActionCommands at h
  split at h
  . simp at h
  . next htype =>
    refine ⟨htype, ?_⟩
    rcases List.mem_append.mp h with h | h
    . unfold executionCommands at h
      split at h
      . next hopen =>
        left
        refine ⟨hopen.2, ?_⟩
        split at h <;> simp_all
      . simp at h
    . right
      unfold recoveryCommands at h
      unfold hasUnknownOutcome at h ⊢
      simp only [CaseAction.isRecovery_iff]
      grind

section

variable [Digest]

/--
After every run the unknown outcome of an action that nothing was imported into is that of its latest
attempt.
-/
theorem InitialStore.after_traced (init : InitialStore) (commands : List Command) (i : Nat)
    : ∀ a, (init.after commands).actions[i]? = some a → ¬ a.IsImported → a.UnknownTraced := by
  refine init.action_invariant commands (P := fun a => ¬ a.IsImported → a.UnknownTraced) ?_ ?_
  . intro u a hnew hmaterialized
    have hready := hnew.untouched hmaterialized
    exact ⟨by simp [hready], by simp [(hnew.valid.ready_untouched hready).2]⟩
  . intro c a b hstep hvalid htraced hmaterialized
    refine hstep.traced hvalid (htraced fun himported => ?_) hmaterialized
    exact hmaterialized (hstep.persists.isImported himported)

namespace Store

/--
The operation behind the command accepts it.
-/
def Accepts (s : Store) (now : Instant) (actionId : Nat) (actorId : String) (expectedVersion : Nat)
    : ActionCommand → Prop
  | .execute => ∃ result,
      s.prepareExecution now actionId actorId expectedVersion .execute = .ok result
  | .retrySafe => ∃ result,
      s.prepareExecution now actionId actorId expectedVersion .retrySafe = .ok result
  | .reconcile => ∃ result, s.prepareReconciliation now actionId actorId expectedVersion = .ok result
  | .recordManualOutcome => ∀ outcome reason, ∃ result,
      s.recordManualOutcome now actionId actorId expectedVersion outcome reason = .ok result
  | .escalate => ∀ reason, ∃ result,
      s.escalate now actionId actorId expectedVersion reason = .ok result

/--
The store contains what the item shows.
-/
structure Shows (s : Store) (now : Instant) (actionId : Nat) (item : ActionQueueItem) : Prop where
  sound : s.Sound
  stored : s.actions[actionId]? = some item.bundle.action
  recovered : item.bundle.action.reconcileAbandoned now = item.bundle.action
  read : s.queueItem item.bundle.action now = .ok item

variable {s t : Store} {now : Instant} {actionId : Nat} {item : ActionQueueItem} {actorId : String}
  {memberId : Nat} {member : Membership}

theorem getAction_shows (hs : s.Sound) (h : s.getAction now actionId = .ok (t, some item))
    : t.Shows now actionId item := by
  have ht : t.Sound := Writes.sound (c := .getAction now actionId) (getAction_writes h) hs
  unfold getAction at h
  split at h
  . simp at h
  . next found hfound =>
    simp only [bind_eq_ok, pure_eq_ok, Prod.mk.injEq, Option.some.injEq] at h
    obtain ⟨item, hitem, rfl, rfl⟩ := h
    have haction : item.bundle.action = found.reconcileAbandoned now := by
      obtain ⟨_, _, _, _, _, _, rfl⟩ := queueItem_eq_ok.mp hitem
      rfl
    have hlt := (List.getElem?_eq_some_iff.mp hfound).1
    exact {
      sound := ht
      stored := by rw [haction, setAction_actions, List.getElem?_set_self hlt]
      recovered := by rw [haction, CaseAction.reconcileAbandoned_reconcileAbandoned]
      read := by rw [haction]; exact hitem
    }

namespace Shows

theorem accepts_execution (h : s.Shows now actionId item) {command : ActionCommand}
    (htype : item.bundle.action.type ∉ retiredActionTypes) (hblocker : item.effectiveBlocker = none)
    (hstarts : command.Starts item.bundle.action)
    (hmember : s.activeMember actorId = some (memberId, member))
    : ∃ result, s.prepareExecution now actionId actorId item.bundle.action.version command
        = .ok result := by
  obtain ⟨lineage, connection, blocker, _, hconnection, heffective, heq⟩ :=
    queueItem_eq_ok.mp h.read
  obtain rfl : item.effectiveBlocker = blocker := by rw [heq]
  rw [hblocker] at heffective
  exact ⟨⟨_, _⟩, prepareExecution_eq_ok.mpr ⟨_, _, memberId, member, connection, h.stored,
    h.recovered.symm, htype, rfl, heffective, hstarts, hmember, hconnection, rfl, rfl⟩⟩

theorem accepts_reconcile (h : s.Shows now actionId item)
    (htype : item.bundle.action.type ∉ retiredActionTypes)
    (hrecovery : item.bundle.action.status.isRecovery = true)
    (hconfigured : item.bundle.connection.adapterKey ≠ "unconfigured")
    (hlatest : item.bundle.action.LatestUnknown)
    (halone : item.bundle.action.hasRunningReconciliation = false)
    (hmember : s.activeMember actorId = some (memberId, member))
    : s.Accepts now actionId actorId item.bundle.action.version .reconcile := by
  obtain ⟨lineage, connection, blocker, _, hconnection, _, heq⟩ := queueItem_eq_ok.mp h.read
  obtain rfl : item.bundle.connection = connection := by rw [heq]
  refine prepareReconciliation_isOk h.stored htype ?_ ?_ hconnection hconfigured ?_ halone hmember
  . rw [h.recovered]
  . rwa [h.recovered]
  . rwa [h.recovered]

theorem accepts_manual (h : s.Shows now actionId item)
    (htype : item.bundle.action.type ∉ retiredActionTypes)
    (hrecovery : item.bundle.action.status.isRecovery = true)
    (hlatest : item.bundle.action.LatestUnknown)
    (hmember : s.activeMember actorId = some (memberId, member))
    : s.Accepts now actionId actorId item.bundle.action.version .recordManualOutcome := by
  intro outcome reason
  have hlt := (List.getElem?_eq_some_iff.mp h.stored).1
  have hstep : ActionStep (.recordManualOutcome now actionId actorId item.bundle.action.version
      outcome reason) actionId item.bundle.action
      (item.bundle.action.recordManual memberId outcome reason now) :=
    .recorded now actorId _ memberId outcome reason rfl hrecovery hlatest
  obtain ⟨lineage, _, _, hlineage, _⟩ := queueItem_eq_ok.mp h.read
  obtain ⟨_, _, hcase, _⟩ := actionLineage_eq_some.mp hlineage
  cases outcome with
  | completed =>
    have hwrite := Write.actionCompleted actionId _ _ lineage.case h.stored hstep hcase
    obtain ⟨result, hresult⟩ := (hwrite.sound h.sound).queueItem_isOk
      (List.mem_of_getElem? (List.getElem?_set_self hlt)) now
    exact ⟨⟨_, result⟩, recordManualOutcome_eq_ok.mpr ⟨_, memberId, member, h.stored, htype, rfl,
      hrecovery, hlatest, hmember, ⟨lineage.case, hcase, rfl⟩, hresult⟩⟩
  | notCompleted =>
    have hwrite := Write.actionStepped actionId _ _ h.stored hstep (by simp [CaseAction.recordManual])
    obtain ⟨result, hresult⟩ := (hwrite.sound h.sound).queueItem_isOk
      (List.mem_of_getElem? (List.getElem?_set_self hlt)) now
    exact ⟨⟨_, result⟩, recordManualOutcome_eq_ok.mpr ⟨_, memberId, member, h.stored, htype, rfl,
      hrecovery, hlatest, hmember, rfl, hresult⟩⟩

theorem accepts_escalate (h : s.Shows now actionId item)
    (htype : item.bundle.action.type ∉ retiredActionTypes)
    (hopen : item.bundle.action.status = .failedSafe ∨ item.bundle.action.status.isRecovery = true)
    (hmember : s.activeMember actorId = some (memberId, member))
    : s.Accepts now actionId actorId item.bundle.action.version .escalate := by
  intro reason
  have hlt := (List.getElem?_eq_some_iff.mp h.stored).1
  have hwrite := Write.actionStepped actionId _ _ h.stored
    (.escalated (c := .escalate now actionId actorId item.bundle.action.version reason) now actorId _
      memberId reason rfl hopen) (by simp [CaseAction.escalateTo])
  obtain ⟨result, hresult⟩ := (hwrite.sound h.sound).queueItem_isOk
    (List.mem_of_getElem? (List.getElem?_set_self hlt)) now
  exact ⟨⟨_, result⟩, escalate_eq_ok.mpr ⟨_, memberId, member, h.stored, htype, rfl, hopen, hmember,
    rfl, hresult⟩⟩

/--
An operation that recovers an action was only accepted as the latest outcome is unknown.
-/
theorem latestUnknown_of_accepts (h : s.Shows now actionId item)
    (hrecovery : item.bundle.action.status.isRecovery = true) {command : ActionCommand}
    (hcommand : command = .reconcile ∨ command = .recordManualOutcome ∨ command = .retrySafe)
    (haccepts : s.Accepts now actionId actorId item.bundle.action.version command)
    : item.bundle.action.LatestUnknown := by
  rcases hcommand with rfl | rfl | rfl
  . obtain ⟨⟨_, _⟩, hresult⟩ := haccepts
    obtain ⟨found, _, _, _, _, hfound, rfl, _, _, _, _, _, hlatest, _⟩ :=
      prepareReconciliation_eq_ok hresult
    obtain rfl := Option.some.inj (h.stored.symm.trans hfound)
    rwa [h.recovered] at hlatest
  . obtain ⟨⟨_, _⟩, hresult⟩ := haccepts .completed ""
    obtain ⟨found, _, _, hfound, _, _, _, hlatest, _⟩ := recordManualOutcome_eq_ok.mp hresult
    obtain rfl := Option.some.inj (h.stored.symm.trans hfound)
    exact hlatest
  . obtain ⟨⟨_, _⟩, hresult⟩ := haccepts
    obtain ⟨found, _, _, _, _, hfound, rfl, _, _, _, hstarts, _⟩ := prepareExecution_eq_ok.mp hresult
    obtain rfl := Option.some.inj (h.stored.symm.trans hfound)
    rw [h.recovered] at hstarts
    rcases hstarts with ⟨hcommand, _⟩ | ⟨_, hstatus, _⟩
    . simp at hcommand
    . simp [hstatus, CaseAction.isRecovery_iff] at hrecovery

end Shows

end Store

end

namespace Sample

attribute [local instance] Digest.checksum

def unreachable : ActionGatewayError where
  message := "The target did not accept the connection."
  code := "connection_refused"
  sideEffectState := .notAttempted
  retryable := true

def legacyReview : LegacyReviewImport where
  legacyReservationId := 1
  legacyProposalVersionId := 100
  reviewerName := "reviewer"
  reviewerRole := .supervisor
  sourceProposalVersion := 1
  sourceEvidenceFingerprint := "legacy"
  decision := some (.approve, 1, 0)
  reason := "Approved in the legacy product."
  reservedAt := 0
  expiresAt := 1
  expires_after := by decide

/--
The first historical attempt ended with an unknown outcome.
-/
def legacyUnknown : LegacyActionImport where
  legacyToolAttemptId := 1
  legacyProposalVersionId := 100
  actionType := "start_verified_recovery"
  target := "account"
  parameters := []
  status := .outcomeUnknown
  attemptOutcome := .unknown
  sideEffectState := .possible
  idempotencyKey := "legacy"
  observedOutcome := "The target did not answer."
  errorCode := none
  requestFingerprint := "request"
  responseFingerprint := none
  startedAt := 0
  finishedAt := 0
  receipt := none
  started_le_finished := le_refl _
  consistent := trivial

/--
The second one changed nothing.
-/
def legacyFailure : LegacyActionImport where
  legacyToolAttemptId := 2
  legacyProposalVersionId := 100
  actionType := "start_verified_recovery"
  target := "account"
  parameters := []
  status := .failedSafe
  attemptOutcome := .failedBeforeChange
  sideEffectState := .notAttempted
  idempotencyKey := "legacy"
  observedOutcome := "The target refused the connection."
  errorCode := none
  requestFingerprint := "request"
  responseFingerprint := none
  startedAt := 0
  finishedAt := 0
  receipt := none
  started_le_finished := le_refl _
  consistent := by simp [legacyOutcomeIsConsistent, ActionSideEffectState.isSafe]

/--
The operation behind the command refuses it to the supervisor.
-/
def refuses (s : Store) (now : Instant) (expectedVersion : Nat) : ActionCommand → Bool
  | .reconcile => ! (s.prepareReconciliation now 0 "MB-2" expectedVersion).isOk
  | .recordManualOutcome =>
    ! (s.recordManualOutcome now 0 "MB-2" expectedVersion .completed "").isOk
  | .escalate => ! (s.escalate now 0 "MB-2" expectedVersion "").isOk
  | command => ! (s.prepareExecution now 0 "MB-2" expectedVersion command).isOk

theorem not_accepts_of_refuses {s : Store} {now : Instant} {expectedVersion : Nat}
    {command : ActionCommand} (h : refuses s now expectedVersion command = true)
    : ¬ s.Accepts now 0 "MB-2" expectedVersion command := by
  intro haccepts
  cases command with
  | execute => simp [refuses, isOk_iff.mpr haccepts] at h
  | retrySafe => simp [refuses, isOk_iff.mpr haccepts] at h
  | reconcile => simp [refuses, isOk_iff.mpr haccepts] at h
  | recordManualOutcome => simp [refuses, isOk_iff.mpr (haccepts .completed "")] at h
  | escalate => simp [refuses, isOk_iff.mpr (haccepts "")] at h

/--
A reconciliation is running.
-/
def checking : List Command :=
  execution ++ [.prepareReconciliation (minutes 10) 0 "MB-2" 3]

/--
The latest historical attempt changed nothing, the one before it did not answer.
-/
def imports : List Command :=
  [.importLegacyReview 0 "MB-2" legacyReview, .importLegacyAction 1 legacyUnknown,
    .importLegacyAction 1 legacyFailure]

/--
The refund is confirmed absent by a worker whose clock is behind that of an earlier record.
-/
def skewedRecovery : List Command :=
  execution ++ [
    .getAction (minutes 10) 0,
    .recordManualOutcome (minutes 12) 0 "MB-2" 3 .notCompleted "Not on the statement.",
    .prepareReconciliation (minutes 10) 0 "MB-2" 4,
    .finishReconciliation (minutes 11) { reconciliationLease with reconciliationId := 1 } nothingFound]

/--
The refund failed safely and is escalated.
-/
def escalation : List Command :=
  execution ++ [.finishExecutionError 6 executionLease unreachable, .escalate 7 0 "MB-2" 3 "Ask."]

/--
The command is offered after the run, and refused.
-/
def Misleads (commands : List Command) (now : Instant) (command : ActionCommand) : Prop :=
  ∃ read ∈ ((initial.after commands).getAction now 0).toOption, ∃ item ∈ read.2,
    command ∈ availableActionCommands manager item
      ∧ refuses read.1 now item.bundle.action.version command = true

instance (commands : List Command) (now : Instant) (command : ActionCommand)
    : Decidable (Misleads commands now command) :=
  inferInstanceAs (Decidable (∃ read ∈ _, _))

theorem misleads : Misleads checking (minutes 11) .reconcile
    ∧ Misleads imports 2 .recordManualOutcome
    ∧ Misleads skewedRecovery (minutes 13) .retrySafe
    ∧ ∃ a ∈ (initial.after escalation).actions[0]?, a.status = .recoveryRequired
      ∧ ∀ command ∈ [.reconcile, .recordManualOutcome, .retrySafe],
        refuses (initial.after escalation) 8 a.version command = true := by
  decide +kernel

/--
The retry of the recovered refund is offered to an active member with its proof.
-/
theorem offered_recovered : ∃ read ∈ ((initial.after recovery).getAction (minutes 12) 0).toOption,
    ∃ item ∈ read.2, .retrySafe ∈ availableActionCommands manager item
      ∧ item.bundle.action.retryIsSafe = true
      ∧ ¬ item.bundle.action.IsImported
      ∧ (read.1.activeMember manager.actorId).isSome = true := by
  decide +kernel

end Sample

end CaseResolution
