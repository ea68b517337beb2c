import CaseResolution.Inbox.Impl.Gmail
import CaseResolution.Inbox.Impl.Messages
import CaseResolution.Inbox.Impl.SyncJobs

/-!
This module contains the work on a claimed sync job: the pages of history are read from the provider, and
then one transaction persists the messages and completes the job.
-/

namespace CaseResolution

open Guard

/--
What has been read for a job so far.
-/
structure SyncFetch where
  pagesLeft : Nat
  pageToken : Option PageToken
  observedHistoryId : HistoryId
  messageIds : List String
  lastPageRead : Bool
deriving DecidableEq

namespace SyncFetch

def start (work : InboxSyncWork) : Except Error SyncFetch := do
  let startHistoryId ← orThrow (work.job.requestedHistoryId.or work.committedHistoryId)
    (.lookupError "The inbox sync history is unavailable.")
  pure {
    pagesLeft := work.job.pageBudget
    pageToken := work.job.pageToken
    observedHistoryId := startHistoryId
    messageIds := []
    lastPageRead := false }

def remaining (fetch : SyncFetch) (job : InboxSyncJob) : Nat :=
  job.itemBudget - fetch.messageIds.length

def wantsPage (fetch : SyncFetch) (job : InboxSyncJob) : Bool :=
  fetch.pagesLeft ≠ 0 ∧ fetch.remaining job ≠ 0 ∧ ¬ fetch.lastPageRead

def readPage (fetch : SyncFetch) (job : InboxSyncJob) (payload : HistoryPayload) : SyncFetch :=
  let page := GmailReadAdapter.listChanges payload (fetch.remaining job)
  { pagesLeft := fetch.pagesLeft - 1
    pageToken := page.nextPageToken
    observedHistoryId := page.historyId
    messageIds := fetch.messageIds ++ page.providerMessageIds
    lastPageRead := page.nextPageToken.isNone }

/--
The messages to get, each once.
-/
def wanted (fetch : SyncFetch) (job : InboxSyncJob) : List String :=
  Rows.firstBy id (fetch.messageIds.take job.itemBudget)

end SyncFetch

/--
What became of a message that was read.
-/
inductive MessageFinding where
  | unlinked
  | duplicate
  | imported
deriving DecidableEq

namespace InboxStore

/--
Persist a message if its thread is linked to a case and it was not persisted before.
-/
def persistMessage (s : InboxStore) (connectionId : Nat) (message : ProviderMessage)
    : Except Error (InboxStore × MessageFinding) := do
  match s.findConversation connectionId message.providerThreadId with
  | none => pure (s, .unlinked)
  | some (conversationId, conversation) =>
    if s.hasMessage connectionId message.providerMessageId then
      pure (s, .duplicate)
    else
      let appended ← s.appendToCase conversation.caseId
      let recorded ← appended.recordMessage connectionId conversationId message
      pure (recorded, .imported)

def persistMessages (connectionId : Nat) (s : InboxStore)
    : List ProviderMessage → Except Error (InboxStore × List (ProviderMessage × MessageFinding))
  | [] => pure (s, [])
  | message :: messages => do
    let (s, finding) ← s.persistMessage connectionId message
    let (s, findings) ← persistMessages connectionId s messages
    pure (s, (message, finding) :: findings)

variable [Digest]

/--
Bring the conversation of the latest imported message up to date.
-/
def finalizeConversations (s : InboxStore) (connectionId : Nat)
    (findings : List (ProviderMessage × MessageFinding)) : Except Error InboxStore :=
  -- the last message of a conversation is the one that remains in `latest_by_conversation`
  let imported := (findings.filter fun (_, finding) => finding = .imported).map Prod.fst
  let latest := Rows.firstBy (fun message => message.providerThreadId) imported.reverse
  latest.foldlM (fun s message => do
    let (conversationId, _) ← orThrow (s.findConversation connectionId message.providerThreadId)
      (.lookupError "The external conversation was not found.")
    s.finalizeConversation conversationId message) s

/--
One transaction persists what was read for a job and completes it.
-/
def persist (s : InboxStore) (now : Instant) (work : InboxSyncWork) (workerId : String)
    (messages : List ProviderMessage) (observedHistoryId : HistoryId) (nextPageToken : Option PageToken)
    : Except Error (InboxStore × List (ProviderMessage × MessageFinding)) := do
  let (persisted, findings) ← persistMessages work.job.connectionId s (inOrder messages)
  let finalized ← persisted.finalizeConversations work.job.connectionId findings
  let completed ← finalized.complete now work.jobId workerId observedHistoryId nextPageToken
  pure (completed, findings)

end InboxStore

end CaseResolution
