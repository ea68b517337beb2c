import CaseResolution.Inbox.Gateway
import CaseResolution.Inbox.Lemmas.Reachable

/-!
This module contains what the steps of the deliveries and of the provider write.
-/

namespace CaseResolution

open Guard

namespace InboxEffect

variable [Digest] {d d' : InboxDesk} {command : InboxCommand} {output : InboxOutput}

/--
The commands that neither start nor drive a delivery leave the deliveries alone.
-/
theorem deliveries_kept (h : InboxEffect d command d' output) (hdrives : command.drivesDelivery = false)
    (hdeliver : ∀ now actor caseId expectedDraftVersion workerId,
      command ≠ .deliver now actor caseId expectedDraftVersion workerId)
    : d'.inbox.deliveries = d.inbox.deliveries ∧ d'.deliveries = d.deliveries := by
  cases h with
  | established haccepted =>
    obtain ⟨_, _, heq, _⟩ := InboxStore.establish_eq_ok haccepted
    exact ⟨by rw [heq], rfl⟩
  | importModeSet haccepted =>
    exact ⟨by rw [(InboxStore.setImportMode_framed haccepted).1], rfl⟩
  | requestedManual _ haccepted | requestedScheduled _ haccepted =>
    cases InboxStore.enqueue_eq_ok haccepted with
    | inl heq => exact ⟨by rw [heq], rfl⟩
    | inr heq => exact ⟨by rw [heq], rfl⟩
  | claimed haccepted => exact ⟨by rw [(InboxStore.claim_framed haccepted).1], rfl⟩
  | persisted _ _ _ _ haccepted =>
    obtain ⟨t, added, conversations, hpersisted, _, hcompleted⟩ := InboxStore.persist_eq_ok haccepted
    obtain ⟨store, hframed⟩ := hpersisted.framed
    obtain ⟨_, _, _, _, _, _, heq⟩ := InboxStore.complete_eq_ok hcompleted
    exact ⟨by rw [heq, hframed], rfl⟩
  | failed _ haccepted =>
    obtain ⟨_, _, _, _, _, heq⟩ := InboxStore.fail_eq_ok haccepted
    exact ⟨by rw [heq], rfl⟩
  | reprocessed haccepted =>
    rcases InboxStore.reprocess_eq_ok haccepted with heq | ⟨_, _, _, _, _, _, heq⟩
    . exact ⟨by rw [heq], rfl⟩
    . exact ⟨by rw [heq], rfl⟩
  | threadImported _ haccepted =>
    obtain ⟨_, _, himported⟩ := InboxStore.importThread_imported haccepted
    obtain ⟨_, _, hframed⟩ := himported.framed
    exact ⟨by rw [hframed], rfl⟩
  | delivered _ => exact absurd rfl (hdeliver _ _ _ _ _)
  | draftRequested _ | deliveryCompleted _ _ | deliveryFailed _ _ | deliveryReconciled _ =>
    cases hdrives
  | _ => exact ⟨rfl, rfl⟩

end InboxEffect

namespace DraftWorld

variable {w w' : DraftWorld} {output : InboxOutput}

theorem reconcile_eq_ok {now : Instant} {actor : ActorContext} {deliveryId : Nat}
    (h : w.reconcile now actor deliveryId = .ok (w', output))
    : w' = w ∨ ∃ caseId, w' = { w with
        lookups := w.lookups ++ [{ actor, deliveryId, caseId, state := .waiting }] } := by
  unfold reconcile at h
  rw [InboxDesk.requirePermission_bind_eq_ok, bind_eq_ok] at h
  obtain ⟨_, delivery, _, h⟩ := h
  cases delivery with
  | none =>
    rw [pure_eq_ok, Prod.mk.injEq] at h
    exact .inl h.1.symm
  | some delivery =>
    rw [pure_eq_ok, Prod.mk.injEq] at h
    exact .inr ⟨delivery.caseId, h.1.symm⟩

theorem lookup_eq_ok {reconciliation : Nat} {result : Option DraftLookupResult}
    (h : w.lookup reconciliation result = .ok (w', output))
    : ∃ lookup, w.lookups[reconciliation]? = some lookup
      ∧ w' = w.setLookup reconciliation
        { lookup with state := .answered result w.creates.length } := by
  unfold DraftWorld.lookup pendingLookup at h
  rw [orThrow_bind_eq_ok] at h
  obtain ⟨lookup, hlookup, h⟩ := h
  split at h
  . rw [bind_eq_ok] at h
    obtain ⟨_, _, h⟩ := h
    rw [pure_eq_ok, Prod.mk.injEq] at h
    exact ⟨lookup, hlookup, h.1.symm⟩
  . cases h

variable [Digest]

theorem finish_eq_ok {task : Nat} {command : InboxCommand}
    (h : w.finish task command = .ok (w', output))
    : w' = { w with desk := inboxService.next w.desk command, ended := task :: w.ended } := by
  unfold finish at h
  rw [ensure_bind_eq_ok, pure_eq_ok, Prod.mk.injEq] at h
  exact h.2.1.symm

/--
The call of a worker that has made none.
-/
theorem create_eq_ok {task : Nat}
    (h : w.create task = .ok (w', output))
    : ¬ w.hasCreated task = true ∧ ∃ pending, w.desk.deliveries[task]? = some pending
      ∧ w' = { w with creates := w.creates ++ [⟨task, pending.deliveryId, none⟩] } := by
  unfold create at h
  rw [ensure_bind_eq_ok, bind_eq_ok] at h
  obtain ⟨⟨hcreated, _⟩, pending, hpending, h⟩ := h
  unfold InboxDesk.pendingDelivery at hpending
  rw [orThrow_eq_ok] at hpending
  rw [bind_eq_ok] at h
  obtain ⟨⟨desk, asked⟩, hasked, h⟩ := h
  rw [pure_eq_ok, Prod.mk.injEq] at h
  cases InboxDesk.step_effect hasked with
  | draftRequested _ => exact ⟨hcreated, pending, hpending, h.1.symm⟩

theorem recordLookup_eq_ok {now : Instant} {reconciliation : Nat}
    (h : w.recordLookup now reconciliation = .ok (w', output))
    : ∃ lookup result creates, w.lookups[reconciliation]? = some lookup
      ∧ lookup.state = .answered result creates
      ∧ w' = ({ w with
          desk := inboxService.next w.desk
            (.reconcileDelivery now lookup.actor lookup.deliveryId result) } : DraftWorld).setLookup
        reconciliation { lookup with state := .recorded } := by
  unfold recordLookup pendingLookup at h
  rw [orThrow_bind_eq_ok] at h
  obtain ⟨lookup, hlookup, h⟩ := h
  split at h
  . next result creates hstate =>
    rw [pure_eq_ok, Prod.mk.injEq] at h
    exact ⟨lookup, result, creates, hlookup, hstate, h.1.symm⟩
  . cases h

end DraftWorld

/-!
The rest of this module is a thread whose reply is approved.
-/

namespace Sample

attribute [local instance] Digest.checksum

def mailCase : Case :=
  InboxStore.importedCase (InboxStore.sourceDigest "CN-1" "T") .refundRequest (message "1")

def mailEvidence : BusinessEvidenceCreate where
  type := "invoice"
  label := "Invoice"
  source := "billing"
  sourceReference := "INV-2"
  status := "paid"
  fields := [("amount", "10")]

def mailContext : BusinessObjectSnapshot :=
  Store.newContext mailCase 2 mailEvidence 1

def filedCase : Case :=
  { mailCase with version := 2 }

def mailFingerprint : String :=
  decisionInputFingerprint filedCase (evidence "A" "EVD-0") (combinedContextFingerprint [mailContext])
    (combinedEvidenceFingerprint (evidence "A" "EVD-0")) engine

def mailPlan : DecisionBriefGenerationPlan where
  workspace := { case := filedCase, businessContexts := [mailContext] }
  evidence := evidence "A" "EVD-0"
  expectedCaseVersion := 2
  inputFingerprint := mailFingerprint
  contextFingerprint := combinedContextFingerprint [mailContext]
  evidenceFingerprint := combinedEvidenceFingerprint (evidence "A" "EVD-0")
  lease := {
    inputFingerprint := mailFingerprint
    ownerToken := 7
    fenceToken := 1
    attempt := 1
    expiresAt := 1 + seconds 60
  }
  lease_inputFingerprint := rfl

def mailSubmission : ReviewSubmission :=
  { submission with
    expectedCaseVersion := 2
    contextFingerprint := combinedContextFingerprint [mailContext] }

/--
A thread is imported, and the reply its brief suggests is approved.
-/
def replyApproved : List InboxCommand :=
  connected ++ [.readThread manager 0 ⟨"T", [message "1"]⟩, .importThread 0 .refundRequest]
    ++ ([.addBusinessEvidence 1 2 1 mailEvidence,
      .prepareGeneration 1 7 manager engine 2 2 (resolution "A"),
      .persistGeneration 1 manager 2 mailPlan { analysis with proposedActions := [] } (resolution "A"),
      .submitReview 1 2 "MB-1" mailSubmission,
      .reserveReview 2 0 "MB-2" 1,
      .decideReview 3 0 "MB-2" 2 "snapshot" .approve "Within policy."] : List Command).map .perform

end Sample

end CaseResolution
