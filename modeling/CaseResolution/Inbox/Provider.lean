import CaseResolution.Inbox.System
import Mathlib.Logic.Function.Basic

/-!
This module contains the mailboxes the inbox reads and what it means that the provider tells the truth about
them. Messages arrive between any two steps of the inbox.
-/

namespace CaseResolution

/--
The history of a mailbox: its records in the order they were made, each with the messages it added.
-/
abbrev Mailbox := List (List ProviderMessage)

namespace Mailbox

def messages (mailbox : Mailbox) : List ProviderMessage :=
  mailbox.flatten

def thread (mailbox : Mailbox) (providerThreadId : String) : List ProviderMessage :=
  mailbox.messages.filter fun message => message.providerThreadId = providerThreadId

/--
The messages of the first `position` records.
-/
def upTo (mailbox : Mailbox) (position : Nat) : List ProviderMessage :=
  messages (mailbox.take position)

end Mailbox

/--
The inbox together with the mailbox of every connection.
-/
structure MailWorld where
  desk : InboxDesk
  mailbox : Nat → Mailbox

inductive MailEvent where
  | arrive (connectionId : Nat) (record : List ProviderMessage)
  | command (command : InboxCommand)

namespace MailWorld

variable [Digest]

def step (w : MailWorld) : MailEvent → Except Error (MailWorld × InboxOutput)
  | .arrive connectionId record =>
    pure ({ w with
      mailbox := Function.update w.mailbox connectionId (w.mailbox connectionId ++ [record]) }, .done)
  | .command command => do
    let (desk, output) ← w.desk.step command
    pure ({ w with desk }, output)

end MailWorld

def mailService [Digest] : Machine MailWorld MailEvent Error InboxOutput where
  step := MailWorld.step

/--
What the ids of the provider stand for: how many records there were at a history id, and how many records
the pages before a page token list.
-/
structure Provider where
  position : HistoryId → Nat
  offset : PageToken → Nat

namespace Provider

variable (p : Provider)

/--
Where the next page of a job begins. The history id is the one the reading started from until a page was
read.
-/
def next (fetch : SyncFetch) : Nat :=
  match fetch.pageToken with
  | some pageToken => p.offset pageToken
  | none => p.position fetch.observedHistoryId

/--
The page lists the records from `start` on, all of them if it is the last one.
-/
structure Lists (mailbox : Mailbox) (start : Nat) (payload : HistoryPayload) : Prop where
  history : payload.history
    = ((mailbox.drop start).take payload.history.length).map fun record =>
      record.map ProviderMessage.providerMessageId
  last : payload.nextPageToken = none →
    start + payload.history.length = mailbox.length
      ∧ p.position payload.historyId = mailbox.length
  next : ∀ pageToken ∈ payload.nextPageToken, p.offset pageToken = start + payload.history.length
    ∧ start + payload.history.length ≤ mailbox.length

/--
What the provider answers is what its mailboxes hold, and no message id is given twice.
-/
def Truthful (w : MailWorld) : MailEvent → Prop
  | .arrive connectionId record =>
    (Mailbox.messages (w.mailbox connectionId ++ [record])).map ProviderMessage.providerMessageId |>.Nodup
  | .command (.establish _ connectionId _ historyId) =>
    ∀ id ∈ historyId, p.position id = (w.mailbox connectionId).length
  | .command (.readPage task payload) =>
    ∀ sync fetch, w.desk.syncs[task]? = some sync → sync.fetch = .ok fetch →
      p.Lists (w.mailbox sync.work.job.connectionId) (p.next fetch) payload
  | .command (.persist _ task getMessage) =>
    ∀ sync, w.desk.syncs[task]? = some sync → ∀ messageId message, getMessage messageId = .ok message →
      message ∈ (w.mailbox sync.work.job.connectionId).messages ∧ message.providerMessageId = messageId
  | .command (.readThread _ connectionId payload) =>
    payload.messages = (w.mailbox connectionId).thread payload.providerThreadId
  | _ => True

end Provider

/--
The positions the tables have for a connection: what it has committed to, and where its jobs start.
-/
inductive InboxStore.Mark (p : Provider) (s : InboxStore) (connectionId : Nat) : Nat → Prop where
  | committed {checkpoint : InboxSyncCheckpoint} {historyId : HistoryId}
      (stored : checkpoint ∈ s.checkpoints) (connected : checkpoint.connectionId = connectionId)
      (history : checkpoint.providerHistoryId = some historyId)
      : Mark p s connectionId (p.position historyId)
  | requested {job : InboxSyncJob} {historyId : HistoryId} (stored : job ∈ s.jobs)
      (connected : job.connectionId = connectionId) (history : job.requestedHistoryId = some historyId)
      : Mark p s connectionId (p.position historyId)
  | continued {job : InboxSyncJob} {pageToken : PageToken} (stored : job ∈ s.jobs)
      (connected : job.connectionId = connectionId) (page : job.pageToken = some pageToken)
      : Mark p s connectionId (p.offset pageToken)

/--
The positions up to which some reading of the history leaves it behind: those of the tables, and where the
jobs start that are under way.
-/
inductive InboxDesk.Mark (p : Provider) (d : InboxDesk) (connectionId : Nat) : Nat → Prop where
  | stored {mark : Nat} (stored : d.inbox.Mark p connectionId mark) : Mark p d connectionId mark
  | started {sync : PendingSync} {fetch : SyncFetch} (pending : sync ∈ d.syncs)
      (connected : sync.work.job.connectionId = connectionId)
      (start : SyncFetch.start sync.work = .ok fetch) : Mark p d connectionId (p.next fetch)

namespace MailWorld

/--
Some reading of the history has left the message behind.
-/
def Passed (p : Provider) (w : MailWorld) (connectionId : Nat) (message : ProviderMessage) : Prop :=
  ∃ mark, w.desk.Mark p connectionId mark ∧ message ∈ (w.mailbox connectionId).upTo mark

/--
What an import commits has every message of its thread that the synchronization has passed, and a page has
no more ids than were asked for.
-/
def Covers (p : Provider) (w : MailWorld) : MailEvent → Prop
  | .command (.importThread task _) => ∀ pending, w.desk.imports[task]? = some pending →
    ∀ message, w.Passed p pending.connectionId message →
      message.providerThreadId = pending.thread.providerThreadId →
      message ∈ pending.thread.messages
        ∨ w.desk.inbox.hasMessage pending.connectionId message.providerMessageId = true
  | .command (.readPage task payload) => ∀ sync fetch, w.desk.syncs[task]? = some sync →
    sync.fetch = .ok fetch → ∀ messageId ∈ payload.history.flatten,
      messageId ∈ payload.history.flatten.take (fetch.remaining sync.work.job)
  | _ => True

end MailWorld

end CaseResolution
