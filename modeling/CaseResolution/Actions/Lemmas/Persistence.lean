import CaseResolution.Actions.Impl.Execution
import CaseResolution.Actions.Impl.Materialization
import CaseResolution.Actions.Impl.Recovery
import CaseResolution.Actions.Lemmas.Base

/-!
This module contains what no write takes back from an action: its grant, its finished attempts, its
closed reconciliations, its receipts and its version.
-/

namespace CaseResolution

open Guard

/--
What an action was granted when it was created.
-/
structure ActionGrant where
  caseId : Nat
  proposalId : Nat
  proposalVersionId : Nat
  proposedActionId : Nat
  reviewId : Nat
  reviewDecisionId : Nat
  connectionId : Nat
  legacyProposalVersionId : Option Nat
  type : String
  target : String
  typedParameters : Dict
  idempotencyKey : String
  authorizationExpiresAt : Instant

def CaseAction.grant (a : CaseAction) : ActionGrant where
  caseId := a.caseId
  proposalId := a.proposalId
  proposalVersionId := a.proposalVersionId
  proposedActionId := a.proposedActionId
  reviewId := a.reviewId
  reviewDecisionId := a.reviewDecisionId
  connectionId := a.connectionId
  legacyProposalVersionId := a.legacyProposalVersionId
  type := a.type
  target := a.target
  typedParameters := a.typedParameters
  idempotencyKey := a.idempotencyKey
  authorizationExpiresAt := a.authorizationExpiresAt

/--
A finished attempt never changes, and no attempt changes its number or its command.
-/
structure CaseActionAttempt.Persists (t u : CaseActionAttempt) : Prop where
  number : u.number = t.number
  command : u.command = t.command
  finished : t.outcome ≠ .running → u = t

theorem CaseActionAttempt.Persists.refl (t : CaseActionAttempt) : t.Persists t :=
  ⟨rfl, rfl, fun _ => rfl⟩

theorem CaseActionAttempt.Persists.trans {t u v : CaseActionAttempt} (htu : t.Persists u)
    (huv : u.Persists v) : t.Persists v where
  number := by rw [huv.number, htu.number]
  command := by rw [huv.command, htu.command]
  finished := by
    intro h
    have hu := htu.finished h
    rw [huv.finished (by rwa [hu]), hu]

/--
A reconciliation that was closed never changes.
-/
def CaseActionReconciliation.Persists (r q : CaseActionReconciliation) : Prop :=
  r.outcome ≠ .running → q = r

theorem CaseActionReconciliation.Persists.refl (r : CaseActionReconciliation) : r.Persists r :=
  fun _ => rfl

theorem CaseActionReconciliation.Persists.trans {r q p : CaseActionReconciliation}
    (hrq : r.Persists q) (hqp : q.Persists p) : r.Persists p := by
  intro h
  have hq := hrq h
  rw [hqp (by rwa [hq]), hq]

/--
What no write takes back from an action.
-/
structure CaseAction.Persists (a b : CaseAction) : Prop where
  grant : b.grant = a.grant
  eligible : b.executionEligible = true → a.executionEligible = true
  attempts : Rows.Extends CaseActionAttempt.Persists a.attempts b.attempts
  reconciliations : Rows.Extends CaseActionReconciliation.Persists a.reconciliations b.reconciliations
  receipts : Rows.Extends Eq a.receipts b.receipts
  version : a.version ≤ b.version
  status : a.status ≠ b.status → a.version < b.version

theorem CaseAction.Persists.refl (a : CaseAction) : a.Persists a where
  grant := rfl
  eligible := id
  attempts := .refl .refl _
  reconciliations := .refl .refl _
  receipts := .refl (fun _ => rfl) _
  version := le_refl _
  status := fun h => absurd rfl h

theorem CaseAction.Persists.trans {a b d : CaseAction} (hab : a.Persists b) (hbd : b.Persists d)
    : a.Persists d where
  grant := by rw [hbd.grant, hab.grant]
  eligible := fun h => hab.eligible (hbd.eligible h)
  attempts := .trans .trans hab.attempts hbd.attempts
  reconciliations := .trans .trans hab.reconciliations hbd.reconciliations
  receipts := .trans (fun h₁ h₂ => h₁.trans h₂) hab.receipts hbd.receipts
  version := le_trans hab.version hbd.version
  status := by
    intro h
    by_cases hstatus : a.status = b.status
    . exact lt_of_le_of_lt hab.version (hbd.status (by rwa [← hstatus]))
    . exact lt_of_lt_of_le (hab.status hstatus) hbd.version

/--
Finishing a running attempt takes nothing back.
-/
theorem finish_persists {a b : CaseAction} {k : Nat} {t u : CaseActionAttempt}
    (hfound : a.attempts[k]? = some t) (hrunning : t.outcome = .running)
    (hattempts : b.attempts = a.attempts.set k u) (hnumber : u.number = t.number)
    (hcommand : u.command = t.command) (hgrant : b.grant = a.grant)
    (heligible : b.executionEligible = a.executionEligible) (hchecks : b.reconciliations = a.reconciliations)
    (hreceipts : b.receipts = a.receipts) (hversion : b.version = a.version + 1)
    : a.Persists b where
  grant := hgrant
  eligible := by simp [heligible]
  attempts := by
    rw [hattempts]
    exact .set .refl hfound ⟨hnumber, hcommand, fun h => absurd hrunning h⟩
  reconciliations := by
    rw [hchecks]
    exact .refl .refl _
  receipts := by
    rw [hreceipts]
    exact .refl (fun _ => rfl) _
  version := by omega
  status := by omega

/--
A write of the status or the reconciliations takes nothing back.
-/
theorem recover_persists {a b : CaseAction} (hgrant : b.grant = a.grant)
    (heligible : b.executionEligible = a.executionEligible) (hattempts : b.attempts = a.attempts)
    (hchecks : Rows.Extends CaseActionReconciliation.Persists a.reconciliations b.reconciliations)
    (hreceipts : b.receipts = a.receipts) (hversion : b.version = a.version + 1)
    : a.Persists b where
  grant := hgrant
  eligible := by simp [heligible]
  attempts := by
    rw [hattempts]
    exact .refl .refl _
  reconciliations := hchecks
  receipts := by
    rw [hreceipts]
    exact .refl (fun _ => rfl) _
  version := by omega
  status := by omega

theorem close_persists {a : CaseAction} {j : Nat} {r : CaseActionReconciliation}
    (hfound : a.reconciliations[j]? = some r) (hrunning : r.outcome = .running)
    (outcome : ReconciliationOutcome) (status : ActionStatus) (reference : Option String)
    (detail : String) (now : Instant)
    : a.Persists (a.closeReconciliation j r outcome status reference detail now) := by
  refine recover_persists rfl rfl rfl ?_ rfl rfl
  exact .set .refl hfound fun h => absurd hrunning h

theorem import_persists (a : CaseAction) (command : LegacyActionImport)
    : a.Persists (a.appendLegacy command) where
  grant := rfl
  eligible := by simp [CaseAction.appendLegacy]
  attempts := .append .refl _ _
  reconciliations := .refl .refl _
  receipts := by
    unfold CaseAction.appendLegacy
    dsimp only
    split
    . split
      . exact .append (fun _ => rfl) _ _
      . exact .refl (fun _ => rfl) _
    . exact .refl (fun _ => rfl) _
  version := Nat.le_succ _
  status := fun _ => Nat.lt_succ_self _

variable [Digest]

theorem reconcileAbandoned_persists (t : CaseActionAttempt) (now : Instant)
    : t.Persists (t.reconcileAbandoned now) where
  number := by simp
  command := by simp
  finished := fun h => CaseActionAttempt.reconcileAbandoned_of_ne_running h

/--
Binding a receipt adds at most that receipt.
-/
theorem persists_of_recordReceipt {a bound : CaseAction} {attemptId : Nat}
    {receipt : ActionGatewayReceipt} {now : Instant} {stored : CaseActionReceipt}
    (h : a.recordReceipt attemptId receipt now = .ok (bound, stored)) : a.Persists bound := by
  rcases CaseAction.recordReceipt_eq_ok h with ⟨rfl, _, _⟩ | ⟨hempty, rfl, _⟩
  . exact .refl _
  . refine { CaseAction.Persists.refl a with receipts := ?_ }
    rw [hempty]
    exact .append (fun _ => rfl) [] _

theorem abandoned_persists (a : CaseAction) (now : Instant)
    : a.Persists (a.reconcileAbandoned now) := by
  have hattempts : Rows.Extends CaseActionAttempt.Persists a.attempts
      (a.attempts.map fun t => t.reconcileAbandoned now) :=
    .map (fun t => reconcileAbandoned_persists t now) _
  by_cases h : a.wasAbandoned now
  . rw [CaseAction.reconcileAbandoned_of_abandoned h]
    exact { CaseAction.Persists.refl a with
      attempts := hattempts
      version := Nat.le_succ _
      status := fun _ => Nat.lt_succ_self _ }
  . rw [CaseAction.reconcileAbandoned_of_not_abandoned h]
    exact { CaseAction.Persists.refl a with attempts := hattempts }

end CaseResolution
