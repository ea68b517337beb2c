import CaseResolution.Cases.Impl.Commands
import CaseResolution.Inbox.Impl.Base
import Mathlib.Data.List.Sort

/-!
This module contains how messages of the provider become rows of a conversation and of its case.
-/

namespace CaseResolution

open Guard

/--
The order messages are persisted in.
-/
def ProviderMessage.receivedBefore (a b : ProviderMessage) : Prop :=
  a.receivedAt < b.receivedAt
    ∨ (a.receivedAt = b.receivedAt ∧ a.providerMessageId ≤ b.providerMessageId)

instance : DecidableRel ProviderMessage.receivedBefore :=
  fun a b => inferInstanceAs (Decidable (a.receivedAt < b.receivedAt
    ∨ (a.receivedAt = b.receivedAt ∧ a.providerMessageId ≤ b.providerMessageId)))

def inOrder (messages : List ProviderMessage) : List ProviderMessage :=
  messages.insertionSort ProviderMessage.receivedBefore

def ExternalMessage.receivedBefore (a b : ExternalMessage) : Prop :=
  a.providerReceivedAt < b.providerReceivedAt
    ∨ (a.providerReceivedAt = b.providerReceivedAt ∧ a.providerMessageId ≤ b.providerMessageId)

instance : DecidableRel ExternalMessage.receivedBefore :=
  fun a b => inferInstanceAs (Decidable (a.providerReceivedAt < b.providerReceivedAt
    ∨ (a.providerReceivedAt = b.providerReceivedAt ∧ a.providerMessageId ≤ b.providerMessageId)))

namespace InboxStore

/--
The conversation of a thread of the provider, if the thread is linked to a case.
-/
def findConversation (s : InboxStore) (connectionId : Nat) (providerThreadId : String)
    : Option (Nat × ExternalConversation) :=
  (Rows.numbered s.conversations).find? fun (_, conversation) =>
    conversation.connectionId = connectionId
      ∧ conversation.providerThreadId = providerThreadId

def hasMessage (s : InboxStore) (connectionId : Nat) (providerMessageId : String) : Bool :=
  s.messages.any fun message =>
    message.connectionId = connectionId ∧ message.providerMessageId = providerMessageId

def newMessage (connectionId conversationId : Nat) (message : ProviderMessage)
    : ExternalMessage where
  connectionId := connectionId
  conversationId := conversationId
  providerMessageId := message.providerMessageId
  rfcMessageId := message.rfcMessageId
  direction := message.direction
  sender := message.sender
  providerReceivedAt := message.receivedAt
  sanitizedContentHash := message.sanitizedContentHash

def recordMessage (s : InboxStore) (connectionId conversationId : Nat) (message : ProviderMessage)
    : Except Error InboxStore := do
  ensure (¬ s.hasMessage connectionId message.providerMessageId)
    (.integrityError "uq_external_messages_org_provider_message")
  pure { s with messages := s.messages ++ [newMessage connectionId conversationId message] }

/--
The messages of a conversation in the order they were received.
-/
def conversationMessages (s : InboxStore) (conversationId : Nat) : List ExternalMessage :=
  (s.messages.filter fun message => message.conversationId = conversationId).insertionSort
    ExternalMessage.receivedBefore

/--
The case a linked thread adds to now has one message more.
-/
def appendToCase (s : InboxStore) (caseId : Nat) : Except Error InboxStore := do
  let store ← s.toStore.appendMessage caseId
  pure { s with toStore := store }

section

variable [Digest]

def conversationFingerprint (s : InboxStore) (conversationId : Nat) : String :=
  Digest.hash <| .arr <| (s.conversationMessages conversationId).map fun message => .obj [
    ("content_hash", .str message.sanitizedContentHash),
    ("message_id", .str message.providerMessageId),
    ("received_at", .time message.providerReceivedAt)]

def finalizeConversation (s : InboxStore) (conversationId : Nat) (message : ProviderMessage)
    : Except Error InboxStore := do
  let conversation ← orThrow s.conversations[conversationId]?
    (.lookupError "The external conversation was not found.")
  let finalized : ExternalConversation := { conversation with
    subject := message.subject
    latestMessageAt :=
      if conversation.latestMessageAt < message.receivedAt then
        message.receivedAt
      else
        conversation.latestMessageAt
    latestProviderMessageId := message.providerMessageId
    sourceFingerprint := s.conversationFingerprint conversationId
    version := conversation.version + 1 }
  pure { s with conversations := s.conversations.set conversationId finalized }

def emptyConversation : String :=
  Digest.text "empty-conversation"

def createConversation (s : InboxStore) (connectionId caseId : Nat) (first : ProviderMessage)
    : InboxStore :=
  { s with
    conversations := s.conversations ++ [{
      connectionId, caseId
      providerThreadId := first.providerThreadId
      subject := first.subject
      firstMessageAt := first.receivedAt
      latestMessageAt := first.receivedAt
      latestProviderMessageId := first.providerMessageId
      sourceFingerprint := emptyConversation
      version := 1 }] }

/--
The name of the case a thread is imported as.
-/
def sourceDigest (connectionPublicId providerThreadId : String) : String :=
  Digest.text (connectionPublicId ++ "\x00" ++ providerThreadId)

def importedCase (sourceDigest : String) (category : CaseCategory) (first : ProviderMessage)
    : Case where
  publicId := "CS-EMAIL-" ++ (truncate 12 sourceDigest).toUpper
  externalReference := some ("EMAIL-" ++ (truncate 16 sourceDigest).toUpper)
  category := category
  requestSummary := truncate 500 first.subject
  status := .new
  ownerId := none
  version := 1

/--
Open the case of a thread. Its public id stands for its source, which is unique as well.
-/
def createCase (s : InboxStore) (connectionPublicId providerThreadId : String)
    (category : CaseCategory) (first : ProviderMessage) : Except Error (InboxStore × Nat) := do
  let case := importedCase (sourceDigest connectionPublicId providerThreadId) category first
  ensure (∀ other ∈ s.cases, other.publicId ≠ case.publicId)
    (.runtimeError "The selected inbox thread already has a case.")
  pure ({ s with cases := s.cases ++ [case] }, s.cases.length)

end

end InboxStore

end CaseResolution
