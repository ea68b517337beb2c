import CaseResolution.Actions.Lemmas.Steps

/-!
This module contains what the records of an action say about its attempts: which of them are proven to
have changed nothing, by themselves or by a reconciliation begun after them, and that an unknown
outcome is the outcome of the latest attempt.
-/

namespace CaseResolution

open Guard

/--
The attempt proves that it changed nothing.
-/
def CaseActionAttempt.ChangedNothing (t : CaseActionAttempt) : Prop :=
  t.outcome = .failedBeforeChange ∧ t.sideEffectState.isSafe = true

namespace CaseAction

variable {a b : CaseAction} {Begun : Nat → Nat → Prop}

/--
The attempt at position `k` is finished, and either it changed nothing or a reconciliation begun after
it confirmed that. `Begun j k` says that reconciliation `j` was begun after attempt `k` was finished.
-/
def Cleared (Begun : Nat → Nat → Prop) (a : CaseAction) (k : Nat) : Prop :=
  ∃ t, a.attempts[k]? = some t ∧ t.outcome ≠ .running
    ∧ (t.ChangedNothing ∨ ∃ (j : Nat) (r : CaseActionReconciliation),
      a.reconciliations[j]? = some r ∧ r.outcome = .confirmedAbsent ∧ Begun j k)

/--
Every attempt before the latest is cleared, the latest is if the action failed safely, and a running
reconciliation was begun after all of them.
-/
structure Accounted (Begun : Nat → Nat → Prop) (a : CaseAction) : Prop where
  checking : ∀ (j : Nat) (r : CaseActionReconciliation), a.reconciliations[j]? = some r
    → r.outcome = .running → ∀ k < a.attempts.length, Begun j k
  earlier : ∀ k, k + 1 < a.attempts.length → a.Cleared Begun k
  latest : a.status = .failedSafe → ∀ k < a.attempts.length, a.Cleared Begun k

/--
What was cleared stays cleared.
-/
theorem Cleared.persists {k : Nat} (h : a.Cleared Begun k) (hpersists : a.Persists b)
    : b.Cleared Begun k := by
  obtain ⟨t, ht, hfinished, hproof⟩ := h
  obtain ⟨u, hu, htu⟩ := hpersists.attempts k t ht
  obtain rfl : u = t := htu.finished hfinished
  refine ⟨u, hu, hfinished, hproof.imp_right ?_⟩
  rintro ⟨j, r, hr, habsent, hbegun⟩
  obtain ⟨q, hq, hrq⟩ := hpersists.reconciliations j r hr
  obtain rfl : q = r := hrq (by simp [habsent])
  exact ⟨j, q, hq, habsent, hbegun⟩

theorem Cleared.mono {Begun' : Nat → Nat → Prop} {k : Nat} (h : a.Cleared Begun k)
    (hmono : ∀ j k, Begun j k → Begun' j k) : a.Cleared Begun' k := by
  obtain ⟨t, ht, hfinished, hproof⟩ := h
  refine ⟨t, ht, hfinished, hproof.imp_right ?_⟩
  rintro ⟨j, r, hr, habsent, hbegun⟩
  exact ⟨j, r, hr, habsent, hmono j k hbegun⟩

theorem Accounted.mono {Begun' : Nat → Nat → Prop} (h : a.Accounted Begun)
    (hmono : ∀ j k, Begun j k → Begun' j k) : a.Accounted Begun' where
  checking := fun j r hr hrunning k hk => hmono j k (h.checking j r hr hrunning k hk)
  earlier := fun k hk => (h.earlier k hk).mono hmono
  latest := fun hstatus k hk => (h.latest hstatus k hk).mono hmono

/--
An action nothing was done with yet has nothing to account for.
-/
theorem Accounted.of_untouched (hattempts : a.attempts = []) (hchecks : a.reconciliations = [])
    : a.Accounted Begun where
  checking := by simp [hchecks]
  earlier := by simp [hattempts]
  latest := by simp [hattempts]

/--
A write that makes no attempt, begins no reconciliation and does not conclude a safe failure keeps
the account.
-/
theorem Accounted.of_persists (h : a.Accounted Begun) (hpersists : a.Persists b)
    (hlength : b.attempts.length = a.attempts.length)
    (hchecks : ∀ (j : Nat) (r : CaseActionReconciliation), b.reconciliations[j]? = some r
      → r.outcome = .running → a.reconciliations[j]? = some r)
    (hsafe : b.status = .failedSafe → ∀ k < a.attempts.length, b.Cleared Begun k)
    : b.Accounted Begun where
  checking := by
    intro j r hr hrunning k hk
    exact h.checking j r (hchecks j r hr hrunning) hrunning k (hlength ▸ hk)
  earlier := fun k hk => (h.earlier k (hlength ▸ hk)).persists hpersists
  latest := fun hstatus k hk => hsafe hstatus k (hlength ▸ hk)

/--
A reconciliation begun after every attempt keeps the account.
-/
theorem Accounted.checkStarted (h : a.Accounted Begun) (memberId : Nat) (now : Instant)
    (hrecovery : a.status.isRecovery = true)
    (hbegun : ∀ k < a.attempts.length, Begun a.reconciliations.length k)
    : (a.startReconciliation memberId now).Accounted Begun where
  checking := by
    intro j r hr hrunning k hk
    rcases Rows.getElem?_concat_cases hr with hr | ⟨rfl, _⟩
    . exact h.checking j r hr hrunning k hk
    . exact hbegun k hk
  earlier := fun k hk => (h.earlier k hk).persists
    (recover_persists rfl rfl rfl (.append .refl _ _) rfl rfl)
  latest := by
    intro hstatus
    have hopen : a.status = .failedSafe := hstatus
    simp [hopen, isRecovery_iff] at hrecovery

/--
An unknown outcome, and one that is being checked, is the outcome of the latest attempt.
-/
structure UnknownTraced (a : CaseAction) : Prop where
  unknown : a.status = .outcomeUnknown → a.LatestUnknown
  checking : ∀ r ∈ a.reconciliations, r.outcome = .running → a.LatestUnknown

theorem Sound.latestUnknown_of_last (h : a.Sound) {k : Nat} {t : CaseActionAttempt}
    (hk : a.attempts[k]? = some t) (hlast : k + 1 = a.attempts.length) (ht : t.outcome = .unknown)
    : a.LatestUnknown := by
  refine ⟨t, ?_, ht⟩
  rw [h.latestAttempt_eq, List.getLast?_eq_getElem?, ← hlast]
  exact hk

end CaseAction

variable [Digest]

namespace CaseAction

variable {a bound : CaseAction} {now : Instant}

/--
Binding a receipt leaves the attempts and the reconciliations alone.
-/
theorem recordReceipt_records {attemptId : Nat} {receipt : ActionGatewayReceipt}
    {stored : CaseActionReceipt} (h : a.recordReceipt attemptId receipt now = .ok (bound, stored))
    : bound.attempts = a.attempts ∧ bound.reconciliations = a.reconciliations := by
  rcases recordReceipt_eq_ok h with ⟨rfl, _⟩ | ⟨_, rfl, _⟩
  . exact ⟨rfl, rfl⟩
  . exact ⟨rfl, rfl⟩

end CaseAction

namespace ActionStep

variable {c : Command} {i : Nat} {a b : CaseAction} {Begun : Nat → Nat → Prop}

/--
Every step but the beginning of a reconciliation keeps the account of an action that may be executed.
-/
theorem accounted (h : ActionStep c i a b) (hvalid : a.Valid) (haccounted : a.Accounted Begun)
    (heligible : b.executionEligible = true)
    (hother : ∀ now actorId expectedVersion,
      c ≠ .prepareReconciliation now i actorId expectedVersion)
    : b.Accounted Begun := by
  have hpersists := h.persists
  have hmaterialized := hvalid.eligible_materialized (hpersists.eligible heligible)
  cases h with
  | abandoned now =>
    refine haccounted.of_persists hpersists (by simp) ?_ ?_
    . intro j r hr _
      rwa [CaseAction.reconcileAbandoned_reconciliations] at hr
    . intro hstatus k hk
      exact (haccounted.latest (CaseAction.status_of_reconcileAbandoned (by simp) hstatus) k hk).persists hpersists
  | started now actorId expectedVersion command memberId issued eligible unpaid startable =>
    -- nothing is being checked, and what was attempted before is cleared
    have hcleared : ∀ k < a.attempts.length, a.Cleared Begun k := by
      intro k hk
      rcases startable with hready | hsafe
      . simp [(hvalid.ready_untouched hready).1] at hk
      . exact haccounted.latest hsafe k hk
    refine {
      checking := ?_
      earlier := ?_
      latest := by simp [CaseAction.start]
    }
    . intro j r hr hrunning
      have hchecked := ((hvalid.coherent hmaterialized).checked r (List.mem_of_getElem? hr) hrunning).2
      rcases startable with hstatus | hstatus <;> simp [hstatus, CaseAction.isRecovery_iff] at hchecked
    . intro k hk
      exact (hcleared k (by simpa [CaseAction.start] using hk)).persists hpersists
  | succeeded now lease receipt attempt bound stored issued leased found running recorded =>
    obtain ⟨hattempts, hchecks⟩ := CaseAction.recordReceipt_records recorded
    refine haccounted.of_persists hpersists ?_ ?_ (by simp [CaseAction.succeed])
    . simp [CaseAction.succeed, hattempts]
    . intro j r hr _
      rw [← hchecks]
      exact hr
  | failed now lease error attempt issued leased found running =>
    refine haccounted.of_persists hpersists ?_ (fun j r hr _ => hr) ?_
    . simp [CaseAction.failWith]
    . intro hstatus k hk
      have hsafe : error.sideEffectState.isSafe = true := by
        by_contra hunsafe
        simp [CaseAction.failWith, hunsafe] at hstatus
      by_cases hlast : k = lease.attemptId
      . subst hlast
        refine ⟨_, List.getElem?_set_self hk, ?_, .inl ⟨?_, hsafe⟩⟩ <;> simp [hsafe]
      . have := (hvalid.running_last lease.attemptId attempt found running).2
        exact (haccounted.earlier k (by omega)).persists hpersists
  | checkStarted now actorId expectedVersion memberId issued =>
    exact absurd issued (hother now actorId expectedVersion)
  | confirmed now lease result reconciliation receipt bound stored issued leased found running
      recorded =>
    obtain ⟨hattempts, hchecks⟩ := CaseAction.recordReceipt_records recorded
    refine haccounted.of_persists hpersists (by simp [CaseAction.closeReconciliation, hattempts]) ?_
      (by simp [CaseAction.closeReconciliation])
    intro j r hr hrunning
    rcases Rows.getElem?_set_cases hr with ⟨_, rfl, _⟩ | ⟨_, hr⟩
    . simp at hrunning
    . rwa [← hchecks]
  | unconfirmed now lease result reconciliation outcome status issued leased found running
      concluded =>
    refine haccounted.of_persists hpersists rfl ?_ ?_
    . intro j r hr hrunning
      rcases Rows.getElem?_set_cases hr with ⟨_, rfl, _⟩ | ⟨_, hr⟩
      . rcases concluded with ⟨rfl, _⟩ | ⟨rfl, _⟩ <;> simp at hrunning
      . exact hr
    . -- only a confirmed absence leaves a safe failure, and it was begun after every attempt
      intro hstatus k hk
      obtain rfl : outcome = .confirmedAbsent := by
        rcases concluded with ⟨houtcome, _⟩ | ⟨_, rfl⟩
        . exact houtcome
        . simp [CaseAction.closeReconciliation] at hstatus
      have hidle := hvalid.attempts_idle (hvalid.check_idle (List.mem_of_getElem? found) running).1
      have hlt := (List.getElem?_eq_some_iff.mp found).1
      exact ⟨a.attempts[k], List.getElem?_eq_getElem hk, hidle _ (List.getElem_mem hk),
        .inr ⟨lease.reconciliationId, _, List.getElem?_set_self hlt, rfl,
          haccounted.checking _ _ found running k hk⟩⟩
  | recorded now actorId expectedVersion memberId outcome reason issued recovery unknown =>
    refine haccounted.of_persists hpersists rfl ?_ ?_
    . intro j r hr hrunning
      rcases Rows.getElem?_concat_cases hr with hr | ⟨_, rfl⟩
      . exact hr
      . cases outcome <;> simp [reconciliationOutcomeForManualRecord] at hrunning
    . cases outcome <;> simp [CaseAction.recordManual]
  | escalated now actorId expectedVersion memberId reason issued open_ =>
    exact haccounted.of_persists hpersists rfl (fun j r hr _ => hr) (by simp [CaseAction.escalateTo])
  | imported now command issued ineligible finished =>
    simp [CaseAction.appendLegacy] at heligible

/--
Every step of an action that nothing is imported into keeps its unknown outcome that of the latest
attempt.
-/
theorem traced (h : ActionStep c i a b) (hvalid : a.Valid) (htraced : a.UnknownTraced)
    (hmaterialized : ¬ b.IsImported) : b.UnknownTraced := by
  have hbefore : ¬ a.IsImported := fun himported => hmaterialized (h.persists.isImported himported)
  have hnext := h.valid hvalid
  cases h with
  | abandoned now =>
    rcases hvalid.reconcileAbandoned_cases now with heq | ⟨k, t, hk, hrunning, heq⟩
    . rwa [heq]
    . have hlast := (hvalid.running_last k t hk hrunning).2
      have hunknown : (a.reconcileAbandoned now).LatestUnknown := by
        refine hnext.latestUnknown_of_last (k := k) (t := t.abandon now) ?_ ?_ rfl
        . rw [heq]
          exact List.getElem?_set_self (by omega)
        . rw [heq]
          simpa using hlast
      exact ⟨fun _ => hunknown, fun _ _ _ => hunknown⟩
  | started now actorId expectedVersion command memberId issued eligible unpaid startable =>
    refine ⟨by simp [CaseAction.start], ?_⟩
    intro r hr hrunning
    have hchecked := ((hvalid.coherent hbefore).checked r hr hrunning).2
    rcases startable with hstatus | hstatus <;> simp [hstatus, CaseAction.isRecovery_iff] at hchecked
  | succeeded now lease receipt attempt bound stored issued leased found running recorded =>
    obtain ⟨_, hchecks⟩ := CaseAction.recordReceipt_records recorded
    have hnone := (hvalid.running_unconfirmed (hvalid.running_last _ _ found running).1).2
    refine ⟨by simp [CaseAction.succeed], ?_⟩
    intro r hr hrunning
    exact absurd hrunning (hnone r (hchecks ▸ hr))
  | failed now lease error attempt issued leased found running =>
    have hlast := (hvalid.running_last lease.attemptId attempt found running).2
    have hnone := (hvalid.running_unconfirmed (hvalid.running_last _ _ found running).1).2
    refine ⟨?_, fun r hr hrunning => absurd hrunning (hnone r hr)⟩
    intro hstatus
    have hunsafe : ¬ error.sideEffectState.isSafe = true := by
      intro hsafe
      simp [CaseAction.failWith, hsafe] at hstatus
    refine hnext.latestUnknown_of_last (List.getElem?_set_self (by omega)) ?_ (if_neg hunsafe)
    simpa [CaseAction.failWith] using hlast
  | checkStarted now actorId expectedVersion memberId issued recovery unknown alone =>
    exact ⟨fun _ => unknown.of_attempts rfl, fun _ _ _ => unknown.of_attempts rfl⟩
  | confirmed now lease result reconciliation receipt bound stored issued leased found running
      recorded =>
    obtain ⟨hattempts, _⟩ := CaseAction.recordReceipt_records recorded
    have hunknown := htraced.checking reconciliation (List.mem_of_getElem? found) running
    exact ⟨fun _ => hunknown.of_attempts hattempts, fun _ _ _ => hunknown.of_attempts hattempts⟩
  | unconfirmed now lease result reconciliation outcome status issued leased found running =>
    have hunknown := htraced.checking reconciliation (List.mem_of_getElem? found) running
    exact ⟨fun _ => hunknown.of_attempts rfl, fun _ _ _ => hunknown.of_attempts rfl⟩
  | recorded now actorId expectedVersion memberId outcome reason issued recovery unknown =>
    exact ⟨fun _ => unknown.of_attempts rfl, fun _ _ _ => unknown.of_attempts rfl⟩
  | escalated now actorId expectedVersion memberId reason issued open_ =>
    refine ⟨by simp [CaseAction.escalateTo], ?_⟩
    intro r hr hrunning
    exact (htraced.checking r hr hrunning).of_attempts rfl
  | imported now command issued ineligible finished =>
    exact absurd ⟨_, List.mem_append_right _ (List.mem_singleton_self _), rfl⟩ hmaterialized

end ActionStep

end CaseResolution
