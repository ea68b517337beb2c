import CaseResolution.Inbox.Impl.Imports
import CaseResolution.Inbox.Impl.Sync
import Mathlib.Logic.Function.Basic

/-!
This module contains when the source of a case was last checked, the column that an import and the
synchronization write together with the rows of the inbox.
-/

namespace CaseResolution

open Guard

structure SourcedInbox where
  inbox : InboxStore
  sourceCheckedAt : Nat → Option Instant

namespace SourcedInbox

def checked (s : SourcedInbox) (caseId : Nat) (receivedAt : Instant) : SourcedInbox :=
  { s with sourceCheckedAt := Function.update s.sourceCheckedAt caseId (some receivedAt) }

/--
The case has one message more, and its source was checked when the message was received.
-/
def appendMessage (s : SourcedInbox) (caseId : Nat) (message : ProviderMessage)
    : Except Error SourcedInbox := do
  let inbox ← s.inbox.appendToCase caseId
  pure ({ s with inbox }.checked caseId message.receivedAt)

def recordMessage (s : SourcedInbox) (connectionId conversationId : Nat) (message : ProviderMessage)
    : Except Error SourcedInbox := do
  let inbox ← s.inbox.recordMessage connectionId conversationId message
  pure { s with inbox }

def persistMessage (s : SourcedInbox) (connectionId : Nat) (message : ProviderMessage)
    : Except Error (SourcedInbox × MessageFinding) := do
  match s.inbox.findConversation connectionId message.providerThreadId with
  | none => pure (s, .unlinked)
  | some (conversationId, conversation) =>
    if s.inbox.hasMessage connectionId message.providerMessageId then
      pure (s, .duplicate)
    else
      let appended ← s.appendMessage conversation.caseId message
      let recorded ← appended.recordMessage connectionId conversationId message
      pure (recorded, .imported)

def persistMessages (connectionId : Nat) (s : SourcedInbox)
    : List ProviderMessage → Except Error (SourcedInbox × List (ProviderMessage × MessageFinding))
  | [] => pure (s, [])
  | message :: messages => do
    let (s, finding) ← s.persistMessage connectionId message
    let (s, findings) ← persistMessages connectionId s messages
    pure (s, (message, finding) :: findings)

def placeInCase (s : SourcedInbox) (caseId : Nat) (message : ProviderMessage) (inCase : Bool)
    : Except Error SourcedInbox :=
  if inCase then
    pure s
  else
    s.appendMessage caseId message

def importMessages (connectionId conversationId caseId : Nat) (s : SourcedInbox) (inCase : Bool)
    : List ProviderMessage → Except Error (SourcedInbox × Nat)
  | [] => pure (s, 0)
  | message :: messages => do
    if s.inbox.hasMessage connectionId message.providerMessageId then
      importMessages connectionId conversationId caseId s false messages
    else
      let appended ← s.placeInCase caseId message inCase
      let recorded ← appended.recordMessage connectionId conversationId message
      let (s, imported) ← importMessages connectionId conversationId caseId recorded false messages
      pure (s, imported + 1)

variable [Digest]

/--
The source of a case that is opened was checked when the latest message was received.
-/
def linkThread (s : SourcedInbox) (connectionId : Nat) (category : CaseCategory)
    (thread : ProviderThread) (first latest : ProviderMessage)
    : Except Error (SourcedInbox × Nat × Nat × Bool) := do
  let (inbox, conversationId, caseId, isNew) ←
    s.inbox.linkThread connectionId category thread first
  if isNew then
    pure ({ s with inbox }.checked caseId latest.receivedAt, conversationId, caseId, isNew)
  else
    pure ({ s with inbox }, conversationId, caseId, isNew)

/--
The transaction of a sync job but for the job.
-/
def syncMessages (s : SourcedInbox) (connectionId : Nat) (messages : List ProviderMessage)
    : Except Error SourcedInbox := do
  let (persisted, findings) ← persistMessages connectionId s (inOrder messages)
  let inbox ← persisted.inbox.finalizeConversations connectionId findings
  pure { persisted with inbox }

def importThread (s : SourcedInbox) (connectionId : Nat) (category : CaseCategory)
    (thread : ProviderThread) : Except Error SourcedInbox := do
  match inOrder thread.messages with
  | [] => throw (.inboxProviderUnavailable "The inbox thread contains no messages.")
  | first :: rest =>
    let latest := rest.getLastD first
    let (linked, conversationId, caseId, isNew) ←
      s.linkThread connectionId category thread first latest
    let (persisted, imported) ←
      importMessages connectionId conversationId caseId linked isNew (first :: rest)
    if imported = 0 then
      pure persisted
    else
      let inbox ← persisted.inbox.finalizeConversation conversationId latest
      pure { persisted with inbox }

end SourcedInbox

end CaseResolution
