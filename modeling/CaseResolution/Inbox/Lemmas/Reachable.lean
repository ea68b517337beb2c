import CaseResolution.Inbox.Lemmas.Steps
import CaseResolution.System.Reachable

/-!
This module contains what holds of an inbox in every state it can reach, from an organization that has not
connected one.
-/

namespace CaseResolution

/--
The service before an inbox is connected.
-/
def InboxDesk.new (store : Store) : InboxDesk where
  inbox := {
    toStore := store
    profiles := []
    checkpoints := []
    jobs := []
    conversations := []
    messages := []
    deliveries := [] }
  syncs := []
  imports := []
  deliveries := []

namespace InboxDesk

variable [Digest]

/--
What every accepted command keeps holds in every state that is reached.
-/
theorem run_of_effect {P : InboxDesk → Prop}
    (hstep : ∀ {d d' : InboxDesk} {command : InboxCommand} {output : InboxOutput},
      InboxEffect d command d' output → P d → P d')
    {store : Store} (hnew : P (.new store)) (commands : List InboxCommand)
    : P (inboxService.run (.new store) commands) := by
  apply Machine.run_invariant hnew
  intro d command hd
  apply Machine.next_cases hd
  intro d' output haccepted
  exact hstep (step_effect haccepted) hd

variable (store : Store) (commands : List InboxCommand)

theorem run_tasksStored : (inboxService.run (.new store) commands).TasksStored := by
  apply run_of_effect InboxEffect.tasksStored
  intro sync hsync
  cases hsync

theorem run_messages_nodup
    : ((inboxService.run (.new store) commands).inbox.messages.map ExternalMessage.key).Nodup := by
  apply run_of_effect (P := fun d => (d.inbox.messages.map ExternalMessage.key).Nodup)
    InboxEffect.messages_nodup
  exact List.nodup_nil

theorem run_attempts_le
    : ∀ job ∈ (inboxService.run (.new store) commands).inbox.jobs,
      job.attemptCount ≤ maxSyncAttempts := by
  apply run_of_effect (P := fun d => ∀ job ∈ d.inbox.jobs, job.attemptCount ≤ maxSyncAttempts)
  . intro d d' command output heffect hd
    exact (heffect.queueStep 0).attempts_le hd
  . intro job hjob
    cases hjob

end InboxDesk

/-!
The rest of this module is a small mailbox to evaluate the inbox on.
-/

namespace Sample

/--
The inbox is connected when its mailbox is empty.
-/
def connected : List InboxCommand :=
  [.establish 0 0 ["draft_create"] (some ⟨"0", by decide⟩)]

def message (messageId : String) : ProviderMessage where
  providerMessageId := messageId
  providerThreadId := "T"
  rfcMessageId := none
  subject := "Refund"
  sender := "customer@example.com"
  direction := .inbound
  receivedAt := 1
  sanitizedContentHash := messageId

/--
The provider holds the messages of `messageIds`, all of one thread.
-/
def held (messageIds : List String) (messageId : String) : Except Error ProviderMessage :=
  if messageId ∈ messageIds then
    .ok (message messageId)
  else
    .error (.inboxProviderUnavailable "The inbox message was not found.")

end Sample

end CaseResolution
