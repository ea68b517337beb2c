import CaseResolution.System.Reachable

/-!
This module contains which receipts an action is given: the one of an execution is only taken under the
idempotency key of the action, the one of a reconciliation is taken under any key.
-/

namespace CaseResolution

open Guard

namespace CaseAction

/--
The receipts the gateway returned for an action carry its idempotency key.
-/
def ReceiptsBelong (a : CaseAction) : Prop :=
  ∀ r ∈ a.receipts, r.legacyExternalReceiptId = none → r.idempotencyKey = a.idempotencyKey

/--
A receipt can be bound unless a different one is bound already.
-/
def Binds (a : CaseAction) (receipt : ActionGatewayReceipt) : Prop :=
  ∀ existing ∈ a.receipt, existing.idempotencyKey = receipt.idempotencyKey
    ∧ existing.externalReference = receipt.externalReference

theorem ReceiptsBelong.of_eq {a b : CaseAction} (h : a.ReceiptsBelong)
    (hreceipts : b.receipts = a.receipts) (hkey : b.idempotencyKey = a.idempotencyKey)
    : b.ReceiptsBelong := by
  unfold ReceiptsBelong
  rw [hreceipts, hkey]
  exact h

theorem ReceiptsBelong.appendLegacy {a : CaseAction} (h : a.ReceiptsBelong)
    (command : LegacyActionImport) : (a.appendLegacy command).ReceiptsBelong := by
  intro r hr hlegacy
  unfold CaseAction.appendLegacy at hr
  dsimp only at hr
  split at hr
  . split at hr
    . cases List.mem_append.mp hr with
      | inl hbefore => exact h r hbefore hlegacy
      | inr hadded =>
        rw [List.mem_singleton] at hadded
        simp [hadded, LegacyActionImport.newReceipt] at hlegacy
    . exact h r hr hlegacy
  . exact h r hr hlegacy

variable [Digest] {a bound : CaseAction} {attemptId : Nat} {receipt : ActionGatewayReceipt}
    {now : Instant} {stored : CaseActionReceipt}

theorem binds_of_recordReceipt (h : a.recordReceipt attemptId receipt now = .ok (bound, stored))
    : a.Binds receipt := by
  intro existing hexisting
  unfold recordReceipt at h
  rw [Option.mem_def.mp hexisting] at h
  dsimp only at h
  rw [ensure_bind_eq_ok] at h
  exact h.1

/--
Binding a receipt under the key of the action keeps its receipts its own.
-/
theorem ReceiptsBelong.recordReceipt (ha : a.ReceiptsBelong)
    (hkey : receipt.idempotencyKey = a.idempotencyKey)
    (h : a.recordReceipt attemptId receipt now = .ok (bound, stored)) : bound.ReceiptsBelong := by
  cases recordReceipt_eq_ok h with
  | inl hfound =>
    obtain ⟨rfl, _⟩ := hfound
    exact ha
  | inr hstored =>
    obtain ⟨_, rfl, hstoredKey⟩ := hstored
    intro r hr _
    rw [List.mem_singleton] at hr
    rw [hr, hstoredKey]
    exact hkey

end CaseAction

/--
No step but the two that record a gateway receipt gives an action a receipt that is not imported.
-/
theorem ActionStep.receiptsBelong [Digest] {c : Command} {i : Nat} {a b : CaseAction}
    (h : ActionStep c i a b) (ha : a.ReceiptsBelong)
    (hexecution : ∀ now lease receipt, c ≠ .finishExecutionSuccess now lease receipt)
    (hlookup : ∀ now lease result, c ≠ .finishReconciliation now lease result)
    : b.ReceiptsBelong := by
  cases h with
  | abandoned now =>
    apply ha.of_eq
    . unfold CaseAction.reconcileAbandoned
      dsimp only
      split <;> rfl
    . unfold CaseAction.reconcileAbandoned
      dsimp only
      split <;> rfl
  | succeeded now lease receipt attempt bound stored issued =>
    exact absurd issued (hexecution now lease receipt)
  | confirmed now lease result reconciliation receipt bound stored issued =>
    exact absurd issued (hlookup now lease result)
  | imported now command => exact ha.appendLegacy command
  | started => exact ha.of_eq rfl rfl
  | failed => exact ha.of_eq rfl rfl
  | checkStarted => exact ha.of_eq rfl rfl
  | unconfirmed => exact ha.of_eq rfl rfl
  | recorded => exact ha.of_eq rfl rfl
  | escalated => exact ha.of_eq rfl rfl

namespace Store

/--
The command returns a receipt whose key is not that of the action it is recorded for.
-/
inductive Mismatches (s : Store) : Command → Prop where
  | execution (now : Instant) (lease : ActionExecutionLease) (receipt : ActionGatewayReceipt)
      (a : CaseAction) (found : s.actions[lease.actionId]? = some a)
      (foreign : receipt.idempotencyKey ≠ a.idempotencyKey)
      : Mismatches s (.finishExecutionSuccess now lease receipt)
  | lookup (now : Instant) (lease : ActionReconciliationLease) (result : ActionLookupResult)
      (receipt : ActionGatewayReceipt) (a : CaseAction) (found : s.actions[lease.actionId]? = some a)
      (returned : result.receipt = some receipt) (foreign : receipt.idempotencyKey ≠ a.idempotencyKey)
      : Mismatches s (.finishReconciliation now lease result)

/--
The command ends a running reconciliation with a receipt under a foreign key, and no other receipt is
in its way.
-/
inductive Misattributes (s : Store) : Command → Prop where
  | lookup (now : Instant) (lease : ActionReconciliationLease) (result : ActionLookupResult)
      (receipt : ActionGatewayReceipt) (a : CaseAction) (r : CaseActionReconciliation)
      (found : s.actions[lease.actionId]? = some a)
      (checked : a.reconciliations[lease.reconciliationId]? = some r) (running : r.outcome = .running)
      (returned : result.receipt = some receipt) (foreign : receipt.idempotencyKey ≠ a.idempotencyKey)
      (binds : a.Binds receipt) : Misattributes s (.finishReconciliation now lease result)

/--
The receipts of every action are its own.
-/
def ReceiptsBelong (s : Store) : Prop :=
  ∀ (i : Nat) (a : CaseAction), s.actions[i]? = some a → a.ReceiptsBelong

theorem ReceiptsBelong.setAction {s : Store} (h : s.ReceiptsBelong) {i : Nat} {b : CaseAction}
    (hb : b.ReceiptsBelong) : (s.setAction i b).ReceiptsBelong := by
  intro j a ha
  rcases Rows.getElem?_set_cases ha with ⟨_, rfl, _⟩ | ⟨_, ha⟩
  . exact hb
  . exact h j a ha

variable [Digest] {s t : Store} {now : Instant}

theorem ReceiptsBelong.finishExecutionSuccess (hs : s.ReceiptsBelong) {lease : ActionExecutionLease}
    {receipt : ActionGatewayReceipt} {item : ActionQueueItem}
    (h : s.finishExecutionSuccess now lease receipt = .ok (t, item)) : t.ReceiptsBelong := by
  obtain ⟨a, attempt, ha, _, ⟨_, _, rfl⟩ | ⟨bound, stored, case, _, hkey, hrecorded, _, rfl⟩⟩ :=
    finishExecutionSuccess_eq_ok h
  . exact hs
  . have hbound := (hs _ a ha).recordReceipt hkey hrecorded
    exact hs.setAction (hbound.of_eq rfl rfl)

theorem ReceiptsBelong.finishReconciliation (hs : s.ReceiptsBelong)
    {lease : ActionReconciliationLease} {result : ActionLookupResult} {item : ActionQueueItem}
    (hown : ¬ s.Misattributes (.finishReconciliation now lease result))
    (h : s.finishReconciliation now lease result = .ok (t, item)) : t.ReceiptsBelong := by
  obtain ⟨a, r, ha, hr, ⟨_, rfl⟩ | ⟨b, completed, hrunning, _, hconcludes, hwritten⟩⟩ :=
    finishReconciliation_eq_ok h
  . exact hs
  have hbelong := hs _ a ha
  cases hconcludes with
  | completed receipt bound stored present returned recorded =>
    obtain ⟨case, _, rfl⟩ := hwritten
    have hkey : receipt.idempotencyKey = a.idempotencyKey := by
      by_contra hforeign
      apply hown
      exact .lookup now lease result receipt a r ha hr hrunning returned hforeign
        (CaseAction.binds_of_recordReceipt recorded)
    have hbound := hbelong.recordReceipt hkey recorded
    exact hs.setAction (hbound.of_eq rfl rfl)
  | absent =>
    obtain rfl : t = _ := hwritten
    exact hs.setAction (hbelong.of_eq rfl rfl)
  | unknown =>
    obtain rfl : t = _ := hwritten
    exact hs.setAction (hbelong.of_eq rfl rfl)

/--
A command that does not misattribute a receipt leaves every action with its own receipts.
-/
theorem ReceiptsBelong.next (hs : s.ReceiptsBelong) (hsound : s.Sound) {c : Command}
    (hown : ¬ s.Misattributes c) : (service.next s c).ReceiptsBelong := by
  refine Machine.next_cases (P := fun t : Store => t.ReceiptsBelong) hs ?_
  intro t output h
  by_cases hexecution : ∃ now lease receipt, c = .finishExecutionSuccess now lease receipt
  . obtain ⟨now, lease, receipt, rfl⟩ := hexecution
    obtain ⟨item, hfinished, _⟩ := answer_eq_ok.mp h
    exact hs.finishExecutionSuccess hfinished
  by_cases hlookup : ∃ now lease result, c = .finishReconciliation now lease result
  . obtain ⟨now, lease, result, rfl⟩ := hlookup
    obtain ⟨item, hfinished, _⟩ := answer_eq_ok.mp h
    exact hs.finishReconciliation hown hfinished
  push Not at hexecution hlookup
  intro i b hb
  refine Writes.action_invariant (P := CaseAction.ReceiptsBelong) ?_ ?_ (perform_writes hsound h)
    hsound (hs i) b hb
  . intro u a hnew r hr hlegacy
    exact absurd hlegacy (hnew.receipts_imported r hr)
  . intro a b hstep _ ha
    exact hstep.receiptsBelong ha hexecution hlookup

/--
A mismatching result that is not misattributed is refused, or comes too late to be recorded at all.
-/
theorem Mismatches.next {c : Command} (hmismatch : s.Mismatches c) (hown : ¬ s.Misattributes c)
    : service.next s c = s := by
  refine Machine.next_cases (P := fun t : Store => t = s) rfl ?_
  intro t output h
  cases hmismatch with
  | execution now lease receipt a found foreign =>
    obtain ⟨item, hfinished, _⟩ := answer_eq_ok.mp h
    obtain ⟨a', _, ha', _, ⟨_, _, hsame⟩ | ⟨_, _, _, _, hkey, _⟩⟩ :=
      finishExecutionSuccess_eq_ok hfinished
    . exact hsame
    . obtain rfl : a = a' := Option.some.inj (found.symm.trans ha')
      exact absurd hkey foreign
  | lookup now lease result receipt a found returned foreign =>
    obtain ⟨item, hfinished, _⟩ := answer_eq_ok.mp h
    obtain ⟨a', r, ha', hr, ⟨_, hsame⟩ | ⟨b, completed, hrunning, _, hconcludes, _⟩⟩ :=
      finishReconciliation_eq_ok hfinished
    . exact hsame
    obtain rfl : a = a' := Option.some.inj (found.symm.trans ha')
    have hfound : result.found = some true := result.found_of_receipt (by simp [returned])
    cases hconcludes with
    | completed receipt' bound stored present returned' recorded =>
      obtain rfl : receipt = receipt' := Option.some.inj (returned.symm.trans returned')
      exact absurd (.lookup now lease result receipt a r found hr hrunning returned foreign
        (CaseAction.binds_of_recordReceipt recorded)) hown
    | absent missing => simp [hfound] at missing
    | unknown inconclusive => simp [reconciliationOutcomeForLookup, hfound] at inconclusive

end Store

namespace Sample

attribute [local instance] Digest.checksum

/--
The target returns the refund of another action.
-/
def otherRefund : ActionLookupResult where
  found := some true
  receipt := some {
    provider := "billing", externalReference := "RF-9", idempotencyKey := "another action"
    status := "settled", data := [], duplicate := false
  }
  detail := "A refund was found."
  absenceIsTerminal := false
  receipt_of_found := by simp
  found_of_receipt := by simp
  found_of_absent := by simp

/--
Check an abandoned execution with its target and find `result`.
-/
def checkedWith (result : ActionLookupResult) : List Command :=
  execution ++ [
    .prepareReconciliation (minutes 10) 0 "MB-2" 3,
    .finishReconciliation (minutes 11) reconciliationLease result]

theorem checkedWith_owns {result : ActionLookupResult} (hresult : result.receipt = none)
    : service.Along (fun s c => ¬ s.Misattributes c) initial.store (checkedWith result) := by
  rw [Machine.along_iff]
  rintro pre c post heq ⟨now, lease, found, receipt, a, r, _, _, _, hreturned, _, _⟩
  have hmem : Command.finishReconciliation now lease found ∈ checkedWith result := by simp [heq]
  simp only [checkedWith, execution, approval, generate, List.cons_append, List.nil_append,
    List.mem_cons, List.not_mem_nil, reduceCtorEq, false_or, or_false,
    Command.finishReconciliation.injEq] at hmem
  simp [hmem.2.2, hresult] at hreturned

end Sample

end CaseResolution
