import CaseResolution.Actions.Lemmas.Persistence

/-!
This module contains what every reachable action satisfies: how its attempts are numbered, which of
them may run, and how its receipts and reconciliations explain its status.
-/

namespace CaseResolution

namespace CaseAction

/--
Some attempt of the action was imported from the legacy product.
-/
def IsImported (a : CaseAction) : Prop :=
  ∃ attempt ∈ a.attempts, attempt.command = .legacyImport

instance (a : CaseAction) : Decidable a.IsImported :=
  inferInstanceAs (Decidable (∃ attempt ∈ a.attempts, _))

/--
What every reachable action satisfies, imported or not.
-/
structure Sound (a : CaseAction) : Prop where
  numbered : ∀ k t, a.attempts[k]? = some t → t.number = k + 1
  counted : a.attemptCount = a.attempts.length
  running_last : ∀ k t, a.attempts[k]? = some t → t.outcome = .running
    → a.status = .running ∧ k + 1 = a.attempts.length
  running_attempt : a.status = .running
    → ∃ (k : Nat) (t : CaseActionAttempt), a.attempts[k]? = some t ∧ t.outcome = .running
  ready_untouched : a.status = .ready → a.attempts = [] ∧ a.reconciliations = []
  receipt_unique : a.receipts.length ≤ 1
  running_eligible : a.status = .running → a.executionEligible = true
  eligible_materialized : a.executionEligible = true → ¬ a.IsImported
  check_unique : ∀ (j k : Nat) (r q : CaseActionReconciliation), a.reconciliations[j]? = some r
    → a.reconciliations[k]? = some q → r.outcome = .running → q.outcome = .running → j = k
  check_attempt : a.reconciliations ≠ [] → a.attempts ≠ []

/--
How the receipts and the reconciliations of an action that was never imported explain its status.
-/
structure Coherent (a : CaseAction) : Prop where
  receipt_completed : a.receipts ≠ [] → a.status = .completed
  completed_confirmed : a.status = .completed
    → a.receipts ≠ [] ∨ ∃ r ∈ a.reconciliations, r.outcome = .confirmedCompleted
  checked : ∀ r ∈ a.reconciliations, r.outcome = .running
    → a.receipts = [] ∧ (a.status.isRecovery = true ∨ a.status = .completed)

/--
The invariant of actions.
-/
structure Valid (a : CaseAction) : Prop extends a.Sound where
  coherent : ¬ a.IsImported → a.Coherent

theorem isRecovery_iff {status : ActionStatus} : status.isRecovery = true
    ↔ status = .outcomeUnknown ∨ status = .recoveryRequired := by
  simp [ActionStatus.isRecovery]

theorem Persists.isImported {a b : CaseAction} (h : a.Persists b) (ha : a.IsImported)
    : b.IsImported := by
  obtain ⟨t, ht, hcommand⟩ := ha
  obtain ⟨k, hk⟩ := List.mem_iff_getElem?.mp ht
  obtain ⟨u, hu, hpersists⟩ := h.attempts k t hk
  exact ⟨u, List.mem_of_getElem? hu, by rw [hpersists.command, hcommand]⟩

namespace Sound

variable {a b : CaseAction}

/--
No attempt runs unless the action does.
-/
theorem attempts_idle (h : a.Sound) (hidle : a.status ≠ .running)
    : ∀ t ∈ a.attempts, t.outcome ≠ .running := by
  intro t ht hrunning
  obtain ⟨k, hk⟩ := List.mem_iff_getElem?.mp ht
  exact hidle (h.running_last k t hk hrunning).1

theorem latestAttempt_eq (h : a.Sound) : a.latestAttempt = a.attempts.getLast? := by
  have hnumbered := h.numbered
  unfold latestAttempt
  generalize a.attempts = attempts at hnumbered
  induction attempts using List.reverseRecOn with
  | nil => rfl
  | append_singleton rest last ih =>
    rw [List.argmax_concat, List.getLast?_concat]
    have hlast : last.number = rest.length + 1 := hnumbered rest.length last (by simp)
    cases hbest : rest.argmax fun attempt => attempt.number with
    | none => rfl
    | some best =>
      obtain ⟨k, hk⟩ := List.mem_iff_getElem?.mp (List.argmax_mem hbest)
      have hlt := (List.getElem?_eq_some_iff.mp hk).1
      have hbestNumber : best.number = k + 1 :=
        hnumbered k best (by rw [List.getElem?_append_left hlt, hk])
      exact if_pos (by omega)

theorem latestAttempt_isSome (h : a.Sound) {r : CaseActionReconciliation}
    (hr : r ∈ a.reconciliations) : a.latestAttempt.isSome := by
  rw [h.latestAttempt_eq, List.getLast?_isSome]
  exact h.check_attempt (List.ne_nil_of_mem hr)

/--
Writes that leave the attempts of an idle action alone keep it sound.
-/
theorem of_idle (h : a.Sound) (hidle : a.status ≠ .running)
    (hattempts : b.attempts = a.attempts) (hcount : b.attemptCount = a.attemptCount)
    (heligible : b.executionEligible = a.executionEligible)
    (hstatus : b.status ≠ .running ∧ b.status ≠ .ready) (hreceipts : b.receipts.length ≤ 1)
    (hchecks : ∀ (j k : Nat) (r q : CaseActionReconciliation), b.reconciliations[j]? = some r
      → b.reconciliations[k]? = some q → r.outcome = .running → q.outcome = .running → j = k)
    (hattempt : b.reconciliations ≠ [] → a.attempts ≠ []) : b.Sound where
  numbered := by
    rw [hattempts]
    exact h.numbered
  counted := by rw [hattempts, hcount, h.counted]
  running_last := by
    rw [hattempts]
    intro k t hk hrunning
    exact absurd hrunning (h.attempts_idle hidle t (List.mem_of_getElem? hk))
  running_attempt := fun hrunning => absurd hrunning hstatus.1
  ready_untouched := fun hready => absurd hready hstatus.2
  receipt_unique := hreceipts
  running_eligible := fun hrunning => absurd hrunning hstatus.1
  eligible_materialized := by
    unfold IsImported
    rw [hattempts, heligible]
    exact h.eligible_materialized
  check_unique := hchecks
  check_attempt := by rwa [hattempts]

/--
Finishing the running attempt of an action keeps it sound.
-/
theorem of_finish (h : a.Sound) {k : Nat} {t u : CaseActionAttempt}
    (hfound : a.attempts[k]? = some t) (hrunning : t.outcome = .running)
    (hattempts : b.attempts = a.attempts.set k u) (hnumber : u.number = t.number)
    (hcommand : u.command = t.command) (hfinished : u.outcome ≠ .running)
    (hcount : b.attemptCount = a.attemptCount)
    (heligible : b.executionEligible = a.executionEligible)
    (hstatus : b.status ≠ .running ∧ b.status ≠ .ready) (hreceipts : b.receipts.length ≤ 1)
    (hchecks : b.reconciliations = a.reconciliations) : b.Sound where
  numbered := by
    rw [hattempts]
    intro j v hj
    rcases Rows.getElem?_set_cases hj with ⟨rfl, rfl, _⟩ | ⟨_, hj⟩
    . rw [hnumber, h.numbered k t hfound]
    . exact h.numbered j v hj
  counted := by rw [hattempts, hcount, h.counted, List.length_set]
  running_last := by
    rw [hattempts]
    intro j v hj hv
    rcases Rows.getElem?_set_cases hj with ⟨_, rfl, _⟩ | ⟨hne, hj⟩
    . exact absurd hv hfinished
    . have hk := (h.running_last k t hfound hrunning).2
      have hj := (h.running_last j v hj hv).2
      omega
  running_attempt := fun hb => absurd hb hstatus.1
  ready_untouched := fun hb => absurd hb hstatus.2
  receipt_unique := hreceipts
  running_eligible := fun hb => absurd hb hstatus.1
  eligible_materialized := by
    rw [heligible]
    rintro helig ⟨v, hv, hlegacy⟩
    rw [hattempts] at hv
    refine h.eligible_materialized helig ?_
    rcases List.mem_or_eq_of_mem_set hv with hv | rfl
    . exact ⟨v, hv, hlegacy⟩
    . exact ⟨t, List.mem_of_getElem? hfound, by rw [← hcommand, hlegacy]⟩
  check_unique := by
    rw [hchecks]
    exact h.check_unique
  check_attempt := by
    rw [hchecks, hattempts]
    intro hne hempty
    exact h.check_attempt hne (by simpa using hempty)

/--
Only the running attempt can be found abandoned, and then the action is not running any more.
-/
theorem reconcileAbandoned_cases [Digest] (h : a.Sound) (now : Instant)
    : a.reconcileAbandoned now = a
        ∨ ∃ (k : Nat) (t : CaseActionAttempt),
          a.attempts[k]? = some t ∧ t.outcome = .running
            ∧ a.reconcileAbandoned now =
              { a with
                attempts := a.attempts.set k (t.abandon now)
                status := .outcomeUnknown
                observedOutcome := some abandonedAttemptDetail
                version := a.version + 1 } := by
  by_cases hwas : a.wasAbandoned now
  . obtain ⟨t, ht, habandoned⟩ := List.any_eq_true.mp hwas.2
    obtain ⟨k, hk⟩ := List.mem_iff_getElem?.mp ht
    have hrunning := CaseActionAttempt.isAbandoned_running habandoned
    have hmap : (a.attempts.map fun u => u.reconcileAbandoned now)
        = a.attempts.set k (t.abandon now) := by
      rw [Rows.map_eq_set hk]
      . simp [CaseActionAttempt.reconcileAbandoned, habandoned]
      . intro j u hne hj
        apply CaseActionAttempt.reconcileAbandoned_of_ne_running
        -- the running attempt is the last one, so there is no other
        intro hu
        have := (h.running_last j u hj hu).2
        have := (h.running_last k t hk hrunning).2
        omega
    refine .inr ⟨k, t, hk, hrunning, ?_⟩
    rw [reconcileAbandoned_of_abandoned hwas, hmap]
  . left
    have hsame : (a.attempts.map fun u => u.reconcileAbandoned now) = a.attempts := by
      apply Rows.map_self
      intro u hu
      by_cases habandoned : u.isAbandoned now
      . obtain ⟨k, hk⟩ := List.mem_iff_getElem?.mp hu
        have hrunning := CaseActionAttempt.isAbandoned_running habandoned
        have hany : a.attempts.any fun u => u.isAbandoned now :=
          List.any_eq_true.mpr ⟨u, hu, habandoned⟩
        exact absurd ⟨(h.running_last k u hk hrunning).1, hany⟩ hwas
      . simp [CaseActionAttempt.reconcileAbandoned, habandoned]
    rw [reconcileAbandoned_of_not_abandoned hwas, hsame]

end Sound

namespace Valid

variable {a b : CaseAction}

theorem coherent_of_running (h : a.Valid) (hrunning : a.status = .running) : a.Coherent :=
  h.coherent (h.eligible_materialized (h.running_eligible hrunning))

/--
While a reconciliation runs the action neither runs nor waits for its first attempt.
-/
theorem check_idle (h : a.Valid) {r : CaseActionReconciliation} (hr : r ∈ a.reconciliations)
    (hrunning : r.outcome = .running) : a.status ≠ .running ∧ a.status ≠ .ready := by
  constructor
  . intro hstatus
    rcases ((h.coherent_of_running hstatus).checked r hr hrunning).2 with hrecovery | hcompleted
    . simp [isRecovery_iff, hstatus] at hrecovery
    . simp [hstatus] at hcompleted
  . intro hready
    rw [(h.ready_untouched hready).2] at hr
    simp at hr

/--
A running action has no receipt, and none of its reconciliations runs.
-/
theorem running_unconfirmed (h : a.Valid) (hrunning : a.status = .running)
    : a.receipts = [] ∧ ∀ r ∈ a.reconciliations, r.outcome ≠ .running := by
  constructor
  . by_contra hne
    have := (h.coherent_of_running hrunning).receipt_completed hne
    simp [hrunning] at this
  . intro r hr hcheck
    exact (h.check_idle hr hcheck).1 hrunning

/--
Finishing the running attempt, with or without a receipt, keeps the invariant.
-/
theorem of_finish (h : a.Valid) {k : Nat} {t u : CaseActionAttempt}
    (hfound : a.attempts[k]? = some t) (hrunning : t.outcome = .running)
    (hattempts : b.attempts = a.attempts.set k u) (hnumber : u.number = t.number)
    (hcommand : u.command = t.command) (hfinished : u.outcome ≠ .running)
    (hcount : b.attemptCount = a.attemptCount)
    (heligible : b.executionEligible = a.executionEligible)
    (hchecks : b.reconciliations = a.reconciliations)
    (hresult : (b.status = .completed ∧ ∃ receipt, b.receipts = [receipt])
      ∨ ((b.status = .failedSafe ∨ b.status = .outcomeUnknown) ∧ b.receipts = [])) : b.Valid where
  toSound := by
    refine h.toSound.of_finish hfound hrunning hattempts hnumber hcommand hfinished hcount heligible
      ?_ ?_ hchecks
    . rcases hresult with ⟨hstatus, _⟩ | ⟨hstatus | hstatus, _⟩ <;> simp [hstatus]
    . rcases hresult with ⟨_, receipt, hreceipts⟩ | ⟨_, hreceipts⟩ <;> simp [hreceipts]
  coherent := by
    intro _
    have hidle := (h.running_unconfirmed (h.running_last k t hfound hrunning).1).2
    rw [← hchecks] at hidle
    rcases hresult with ⟨hstatus, receipt, hreceipts⟩ | ⟨hstatus, hreceipts⟩
    . exact {
        receipt_completed := fun _ => hstatus
        completed_confirmed := fun _ => .inl (by simp [hreceipts])
        checked := fun r hr hcheck => absurd hcheck (hidle r hr)
      }
    . exact {
        receipt_completed := fun hne => absurd hreceipts hne
        completed_confirmed := by rcases hstatus with hstatus | hstatus <;> simp [hstatus]
        checked := fun r hr hcheck => absurd hcheck (hidle r hr)
      }

theorem abandoned [Digest] (h : a.Valid) (now : Instant) : (a.reconcileAbandoned now).Valid := by
  rcases h.reconcileAbandoned_cases now with heq | ⟨k, t, hk, hrunning, heq⟩
  . rwa [heq]
  . rw [heq]
    have hreceipts := (h.running_unconfirmed (h.running_last k t hk hrunning).1).1
    exact h.of_finish hk hrunning rfl rfl rfl (by simp [CaseActionAttempt.abandon]) rfl rfl rfl
      (.inr ⟨.inr rfl, hreceipts⟩)

/--
A new attempt of an action that has none running keeps the invariant.
-/
theorem started [Digest] (h : a.Valid) (i memberId : Nat) (command : ActionCommand) (now : Instant)
    (heligible : a.executionEligible = true) (hreceipts : a.receipts = [])
    (hstatus : a.status = .ready ∨ a.status = .failedSafe)
    : (a.start i memberId command now).Valid where
  numbered := by
    intro k t hk
    rcases Rows.getElem?_concat_cases hk with hk | ⟨rfl, rfl⟩
    . exact h.numbered k t hk
    . simp [newAttempt, h.counted]
  counted := by simp [start, h.counted]
  running_last := by
    intro k t hk hrunning
    rcases Rows.getElem?_concat_cases hk with hk | ⟨rfl, rfl⟩
    . have := (h.running_last k t hk hrunning).1
      simp [this] at hstatus
    . exact ⟨rfl, by simp [start]⟩
  running_attempt := fun _ =>
    ⟨a.attempts.length, a.newAttempt i memberId command now, by simp [start], rfl⟩
  ready_untouched := by simp [start]
  receipt_unique := h.receipt_unique
  running_eligible := fun _ => heligible
  eligible_materialized := by
    rintro _ ⟨t, ht, hlegacy⟩
    simp only [start, List.mem_append, List.mem_singleton] at ht
    rcases ht with ht | rfl
    . exact h.eligible_materialized heligible ⟨t, ht, hlegacy⟩
    . simp only [newAttempt] at hlegacy
      split at hlegacy <;> simp at hlegacy
  check_unique := h.check_unique
  check_attempt := by simp [start]
  coherent := by
    intro _
    exact {
      receipt_completed := fun hne => absurd hreceipts hne
      completed_confirmed := by simp [start]
      checked := by
        intro r hr hcheck
        have hcoherent := h.coherent (h.eligible_materialized heligible)
        have hchecked := (hcoherent.checked r hr hcheck).2
        rcases hstatus with hstatus | hstatus <;> simp [hstatus, isRecovery_iff] at hchecked
    }

/--
Recovery of an action without a running attempt keeps the invariant.
-/
theorem of_recovery (h : a.Valid) (hidle : a.status ≠ .running)
    (hattempts : b.attempts = a.attempts) (hcount : b.attemptCount = a.attemptCount)
    (heligible : b.executionEligible = a.executionEligible)
    (hstatus : b.status ≠ .running ∧ b.status ≠ .ready) (hreceipts : b.receipts.length ≤ 1)
    (hchecks : ∀ (j k : Nat) (r q : CaseActionReconciliation), b.reconciliations[j]? = some r
      → b.reconciliations[k]? = some q → r.outcome = .running → q.outcome = .running → j = k)
    (hattempt : b.reconciliations ≠ [] → a.attempts ≠ []) (hcoherent : a.Coherent → b.Coherent)
    : b.Valid where
  toSound :=
    h.toSound.of_idle hidle hattempts hcount heligible hstatus hreceipts hchecks hattempt
  coherent := by
    intro himported
    refine hcoherent (h.coherent ?_)
    unfold IsImported at himported ⊢
    rwa [hattempts] at himported

theorem checkStarted (h : a.Valid) (memberId : Nat) (now : Instant)
    (hrecovery : a.status.isRecovery = true) (hattempt : a.attempts ≠ []) (halone : a.hasRunningReconciliation = false)
    : (a.startReconciliation memberId now).Valid := by
  have hnone : ∀ r ∈ a.reconciliations, r.outcome ≠ .running := by
    simpa [hasRunningReconciliation] using halone
  have hidle : a.status ≠ .running ∧ a.status ≠ .ready := by
    rcases isRecovery_iff.mp hrecovery with hstatus | hstatus <;> simp [hstatus]
  refine h.of_recovery hidle.1 rfl rfl rfl hidle h.receipt_unique ?_ (fun _ => hattempt) ?_
  . intro j k r q hj hk hr hq
    rcases Rows.getElem?_concat_cases hj with hj | ⟨rfl, _⟩
    . exact absurd hr (hnone r (List.mem_of_getElem? hj))
    . rcases Rows.getElem?_concat_cases hk with hk | ⟨rfl, _⟩
      . exact absurd hq (hnone q (List.mem_of_getElem? hk))
      . rfl
  . intro hcoherent
    have hopen : a.status ≠ .completed := by
      rcases isRecovery_iff.mp hrecovery with hstatus | hstatus <;> simp [hstatus]
    exact {
      receipt_completed := hcoherent.receipt_completed
      completed_confirmed := fun hcompleted => absurd hcompleted hopen
      checked := fun _ _ _ => ⟨by_contra fun hne => hopen (hcoherent.receipt_completed hne),
        .inl hrecovery⟩
    }

/--
Closing the running reconciliation keeps the invariant, whatever it found.
-/
theorem closed (h : a.Valid) {j : Nat} {r : CaseActionReconciliation}
    (hfound : a.reconciliations[j]? = some r) (hrunning : r.outcome = .running)
    (reference : Option String) (detail : String) (now : Instant) (receipts : List CaseActionReceipt)
    {outcome : ReconciliationOutcome} {status : ActionStatus}
    (hconcluded : (outcome = .confirmedCompleted ∧ status = .completed ∧ receipts.length = 1)
      ∨ (outcome = .confirmedAbsent ∧ status = .failedSafe ∧ receipts = a.receipts)
      ∨ (outcome = .stillUnknown ∧ status = .outcomeUnknown ∧ receipts = a.receipts))
    : ({ a with receipts := receipts }.closeReconciliation j r outcome status reference detail
        now).Valid := by
  have hidle := h.check_idle (List.mem_of_getElem? hfound) hrunning
  have hnone : ∀ (k : Nat) (q : CaseActionReconciliation),
      (a.reconciliations.set j
        { r with outcome, detail, externalReference := reference, checkedAt := now })[k]? = some q
      → q.outcome ≠ .running := by
    intro k q hk hq
    rcases Rows.getElem?_set_cases hk with ⟨_, rfl, _⟩ | ⟨hne, hk⟩
    . rcases hconcluded with ⟨rfl, _⟩ | ⟨rfl, _⟩ | ⟨rfl, _⟩ <;> simp at hq
    . exact hne (h.check_unique j k r q hfound hk hrunning hq)
  have hattempt : a.attempts ≠ [] :=
    h.check_attempt (List.ne_nil_of_mem (List.mem_of_getElem? hfound))
  refine h.of_recovery hidle.1 rfl rfl rfl ?_ ?_ ?_ (fun _ => hattempt) ?_
  . rcases hconcluded with ⟨_, rfl, _⟩ | ⟨_, rfl, _⟩ | ⟨_, rfl, _⟩ <;> simp [closeReconciliation]
  . have := h.receipt_unique
    rcases hconcluded with ⟨_, _, hlength⟩ | ⟨_, _, rfl⟩ | ⟨_, _, rfl⟩
    . simp [closeReconciliation, hlength]
    . exact this
    . exact this
  . intro k l q p hk _ hq _
    exact absurd hq (hnone k q hk)
  . intro hcoherent
    have hreceipts := (hcoherent.checked r (List.mem_of_getElem? hfound) hrunning).1
    refine {
      receipt_completed := ?_
      completed_confirmed := ?_
      checked := ?_
    }
    . intro hne
      rcases hconcluded with ⟨_, rfl, _⟩ | ⟨_, _, rfl⟩ | ⟨_, _, rfl⟩
      . rfl
      . exact absurd hreceipts hne
      . exact absurd hreceipts hne
    . intro hcompleted
      rcases hconcluded with ⟨_, _, hlength⟩ | ⟨_, rfl, _⟩ | ⟨_, rfl, _⟩
      . refine .inl fun hempty => ?_
        rw [show receipts = [] from hempty] at hlength
        simp at hlength
      . simp [closeReconciliation] at hcompleted
      . simp [closeReconciliation] at hcompleted
    . intro q hq hcheck
      obtain ⟨k, hk⟩ := List.mem_iff_getElem?.mp hq
      exact absurd hcheck (hnone k q hk)

theorem recorded (h : a.Valid) (memberId : Nat) (outcome : ManualActionOutcome) (reason : String)
    (now : Instant) (hrecovery : a.status.isRecovery = true) (hattempt : a.attempts ≠ [])
    : (a.recordManual memberId outcome reason now).Valid := by
  have hidle : a.status ≠ .running ∧ a.status ≠ .completed := by
    rcases isRecovery_iff.mp hrecovery with hstatus | hstatus <;> simp [hstatus]
  have hmanual : reconciliationOutcomeForManualRecord outcome ≠ .running := by
    cases outcome <;> decide
  refine h.of_recovery hidle.1 rfl rfl rfl ?_ h.receipt_unique ?_ (fun _ => hattempt) ?_
  . cases outcome <;> simp [recordManual]
  . intro j k r q hj hk hr hq
    rcases Rows.getElem?_concat_cases hj with hj | ⟨_, rfl⟩
    . rcases Rows.getElem?_concat_cases hk with hk | ⟨_, rfl⟩
      . exact h.check_unique j k r q hj hk hr hq
      . exact absurd hq hmanual
    . exact absurd hr hmanual
  . intro hcoherent
    have hreceipts : a.receipts = [] :=
      by_contra fun hne => hidle.2 (hcoherent.receipt_completed hne)
    refine {
      receipt_completed := fun hne => absurd hreceipts hne
      completed_confirmed := ?_
      checked := ?_
    }
    . intro hcompleted
      cases outcome with
      | completed => exact .inr ⟨_, List.mem_append_right _ (List.mem_singleton_self _), rfl⟩
      | notCompleted => simp [recordManual] at hcompleted
    . intro r _ _
      cases outcome <;> simp [recordManual, hreceipts, isRecovery_iff]

theorem escalated (h : a.Valid) (memberId : Nat) (reason : String)
    (hopen : a.status = .failedSafe ∨ a.status.isRecovery = true)
    : (a.escalateTo memberId reason).Valid := by
  have hidle : a.status ≠ .running ∧ a.status ≠ .completed := by
    rcases hopen with hstatus | hrecovery
    . simp [hstatus]
    . rcases isRecovery_iff.mp hrecovery with hstatus | hstatus <;> simp [hstatus]
  refine h.of_recovery hidle.1 rfl rfl rfl ?_ h.receipt_unique h.check_unique h.check_attempt ?_
  . simp [escalateTo]
  . intro hcoherent
    have hreceipts : a.receipts = [] :=
      by_contra fun hne => hidle.2 (hcoherent.receipt_completed hne)
    exact {
      receipt_completed := fun hne => absurd hreceipts hne
      completed_confirmed := by simp [escalateTo]
      checked := fun _ _ _ => ⟨hreceipts, .inl rfl⟩
    }

/--
An action with a finished attempt imported into it satisfies the invariant, whatever its status was.
-/
theorem of_import (command : LegacyActionImport) (hfinished : command.attemptOutcome ≠ .running)
    (hnumbered : ∀ k t, a.attempts[k]? = some t → t.number = k + 1)
    (hcounted : a.attemptCount = a.attempts.length)
    (hidle : ∀ t ∈ a.attempts, t.outcome ≠ .running) (hreceipts : a.receipts.length ≤ 1)
    (hchecks : ∀ (j k : Nat) (r q : CaseActionReconciliation), a.reconciliations[j]? = some r
      → a.reconciliations[k]? = some q → r.outcome = .running → q.outcome = .running → j = k)
    : (a.appendLegacy command).Valid := by
  have hstatus : (a.appendLegacy command).status ≠ .running
      ∧ (a.appendLegacy command).status ≠ .ready := by
    unfold appendLegacy
    dsimp only
    split
    . simp
    . split <;> simp
  exact {
    numbered := by
      intro k t hk
      rcases Rows.getElem?_concat_cases hk with hk | ⟨rfl, rfl⟩
      . exact hnumbered k t hk
      . simp [LegacyActionImport.newAttempt, hcounted]
    counted := by simp [appendLegacy, hcounted]
    running_last := by
      intro k t hk hrunning
      rcases Rows.getElem?_concat_cases hk with hk | ⟨_, rfl⟩
      . exact absurd hrunning (hidle t (List.mem_of_getElem? hk))
      . exact absurd hrunning hfinished
    running_attempt := fun hrunning => absurd hrunning hstatus.1
    ready_untouched := fun hready => absurd hready hstatus.2
    receipt_unique := by
      unfold appendLegacy
      dsimp only
      split
      . split
        . next hnone => simp [receipt_eq_none.mp (Option.isNone_iff_eq_none.mp hnone)]
        . exact hreceipts
      . exact hreceipts
    running_eligible := fun hrunning => absurd hrunning hstatus.1
    eligible_materialized := by simp [appendLegacy]
    check_unique := hchecks
    check_attempt := by simp [appendLegacy]
    coherent := by
      intro himported
      exact absurd ⟨_, List.mem_append_right _ (List.mem_singleton_self _), rfl⟩ himported
  }

theorem imported (h : a.Valid) (command : LegacyActionImport)
    (hineligible : a.executionEligible = false) (hfinished : command.attemptOutcome ≠ .running)
    : (a.appendLegacy command).Valid := by
  refine of_import command hfinished h.numbered h.counted (h.attempts_idle ?_) h.receipt_unique
    h.check_unique
  intro hrunning
  have := h.running_eligible hrunning
  simp [hineligible] at this

/--
An action nothing was done with yet satisfies the invariant.
-/
theorem of_untouched (hstatus : a.status = .ready) (hattempts : a.attempts = [])
    (hcount : a.attemptCount = 0) (hreceipts : a.receipts = [])
    (hchecks : a.reconciliations = []) : a.Valid where
  numbered := by simp [hattempts]
  counted := by simp [hattempts, hcount]
  running_last := by simp [hattempts]
  running_attempt := by simp [hstatus]
  ready_untouched := fun _ => ⟨hattempts, hchecks⟩
  receipt_unique := by simp [hreceipts]
  running_eligible := by simp [hstatus]
  eligible_materialized := by simp [IsImported, hattempts]
  check_unique := by simp [hchecks]
  check_attempt := by simp [hchecks]
  coherent := fun _ => {
    receipt_completed := by simp [hreceipts]
    completed_confirmed := by simp [hstatus]
    checked := by simp [hchecks]
  }

end Valid

end CaseAction

end CaseResolution
