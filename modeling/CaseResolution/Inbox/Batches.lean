import CaseResolution.Inbox.Lemmas.Sources

/-!
This module contains the ways of bringing in a thread: its messages reach the inbox in batches, by sync jobs
and by imports.
-/

namespace CaseResolution

/--
The messages of a thread that are brought in together.
-/
inductive MailBatch where
  | synced (messages : List ProviderMessage)
  | selected (category : CaseCategory) (thread : ProviderThread)

namespace MailBatch

def messages : MailBatch → List ProviderMessage
  | .synced messages => messages
  | .selected _ thread => thread.messages

def isSynced : MailBatch → Bool
  | .synced _ => true
  | .selected .. => false

/--
A batch of messages of one thread, each at most once.
-/
structure Holds (batch : MailBatch) (threadId : String) (messages : List ProviderMessage) : Prop where
  messages_subset : batch.messages ⊆ messages
  nodup : batch.messages.Nodup
  thread : ∀ category thread, batch = .selected category thread → thread.providerThreadId = threadId

end MailBatch

/--
The messages of a thread are split into batches. What a sync job reads before the thread is linked has to
come again.
-/
structure Splits (threadId : String) (messages : List ProviderMessage) (batches : List MailBatch)
    : Prop where
  holds : ∀ batch ∈ batches, batch.Holds threadId messages
  complete : ∀ message ∈ messages, ∃ batch ∈ batches.dropWhile MailBatch.isSynced,
    message ∈ batch.messages

/--
What the last batch with a new message leaves: the message that the conversation is brought up to date
with, and the last message that is added to the case.
-/
structure Ending where
  read : ProviderMessage
  newest : ProviderMessage

namespace MailBatch

/--
A sync job looks at the messages that are new, an import at the whole thread it has read.
-/
def ending (batch : MailBatch) (seen : List ProviderMessage) : Option Ending :=
  (fresh seen (inOrder batch.messages)).getLast?.map fun newest =>
    match batch with
    | .synced _ => { read := newest, newest }
    | .selected _ thread => { read := (inOrder thread.messages).getLastD newest, newest }

end MailBatch

/--
The messages that are stored after some batches, in the order they are stored in.
-/
def received (seen : List ProviderMessage) : List MailBatch → List ProviderMessage
  | [] => seen
  | batch :: batches => received (seen ++ fresh seen (inOrder batch.messages)) batches

def ending (seen : List ProviderMessage) : List MailBatch → Option Ending
  | [] => none
  | batch :: batches =>
    (ending (seen ++ fresh seen (inOrder batch.messages)) batches).or (batch.ending seen)

/--
Both ways end with the same message, and their last new messages were received together.
-/
def SameEnding (batches₁ batches₂ : List MailBatch) : Prop :=
  (ending [] (batches₁.dropWhile MailBatch.isSynced)).map (fun e => (e.read, e.newest.receivedAt))
    = (ending [] (batches₂.dropWhile MailBatch.isSynced)).map fun e => (e.read, e.newest.receivedAt)

instance (batches₁ batches₂ : List MailBatch) : Decidable (SameEnding batches₁ batches₂) :=
  inferInstanceAs (Decidable (_ = _))

/--
What an inbox shows of a linked thread.
-/
structure ConversationSummary where
  latestMessageAt : Instant
  latestProviderMessageId : String
  subject : String
  sourceFingerprint : String
  sourceCheckedAt : Option Instant
deriving DecidableEq

namespace SourcedInbox

def summary (s : SourcedInbox) (connectionId : Nat) (threadId : String) : Option ConversationSummary :=
  (s.inbox.findConversation connectionId threadId).map fun (_, conversation) => {
    latestMessageAt := conversation.latestMessageAt
    latestProviderMessageId := conversation.latestProviderMessageId
    subject := conversation.subject
    sourceFingerprint := conversation.sourceFingerprint
    sourceCheckedAt := s.sourceCheckedAt conversation.caseId }

variable [Digest]

def ingest (connectionId : Nat) (s : SourcedInbox) : MailBatch → Except Error SourcedInbox
  | .synced messages => s.syncMessages connectionId messages
  | .selected category thread => s.importThread connectionId category thread

def ingestAll (s : SourcedInbox) (connectionId : Nat) (batches : List MailBatch)
    : Except Error SourcedInbox :=
  batches.foldlM (ingest connectionId) s

end SourcedInbox

end CaseResolution
