import CaseResolution.Inbox.Impl.Gmail
import CaseResolution.Inbox.Impl.Messages

/-!
This module contains the import of one selected thread: the transaction that links the thread to a case
and persists the messages that were read of it before.
-/

namespace CaseResolution

open Guard

namespace InboxStore

/--
Add a message to the case, unless it is the one the case was opened with.
-/
def placeInCase (s : InboxStore) (caseId : Nat) (inCase : Bool) : Except Error InboxStore :=
  if inCase then
    pure s
  else
    s.appendToCase caseId

/--
Persist the messages of a thread. The first message of a new case is already in the case.
-/
def importMessages (connectionId conversationId caseId : Nat) (s : InboxStore) (inCase : Bool)
    : List ProviderMessage → Except Error (InboxStore × Nat)
  | [] => pure (s, 0)
  | message :: messages => do
    if s.hasMessage connectionId message.providerMessageId then
      importMessages connectionId conversationId caseId s false messages
    else
      let appended ← s.placeInCase caseId inCase
      let recorded ← appended.recordMessage connectionId conversationId message
      let (s, imported) ← importMessages connectionId conversationId caseId recorded false messages
      pure (s, imported + 1)

variable [Digest]

/--
The conversation of the thread, which is opened together with its case where there is none.
-/
def linkThread (s : InboxStore) (connectionId : Nat) (category : CaseCategory)
    (thread : ProviderThread) (first : ProviderMessage)
    : Except Error (InboxStore × Nat × Nat × Bool) := do
  match s.findConversation connectionId thread.providerThreadId with
  | some (conversationId, conversation) => pure (s, conversationId, conversation.caseId, false)
  | none =>
    let connection ← orThrow s.connections[connectionId]?
      (.inboxNotFound "The inbox connection was not found.")
    let (opened, caseId) ← s.createCase connection.publicId thread.providerThreadId category first
    pure (opened.createConversation connectionId caseId first, s.conversations.length, caseId, true)

/--
The transaction of `import_selected_thread`.
-/
def importThread (s : InboxStore) (connectionId : Nat) (category : CaseCategory)
    (thread : ProviderThread) : Except Error (InboxStore × Nat) := do
  match inOrder thread.messages with
  | [] => throw (.inboxProviderUnavailable "The inbox thread contains no messages.")
  | first :: rest =>
    let (linked, conversationId, caseId, isNew) ←
      s.linkThread connectionId category thread first
    let (persisted, imported) ←
      importMessages connectionId conversationId caseId linked isNew (first :: rest)
    if imported = 0 then
      pure (persisted, conversationId)
    else
      let finalized ← persisted.finalizeConversation conversationId (rest.getLastD first)
      pure (finalized, conversationId)

end InboxStore

end CaseResolution
