import CaseResolution.Domain.Cases

/-!
This module contains the connected inbox: what the provider reports, the conversations and messages that
are imported from it, the jobs that keep them in step and the drafts that are delivered back.
-/

namespace CaseResolution

inductive InboxImportMode where
  | paused
  | manual
  | scheduled
deriving DecidableEq

inductive InboxSyncStatus where
  | current
  | syncing
  | delayed
  | failed
  | reauthorize
deriving DecidableEq

inductive SyncJobStatus where
  | pending
  | running
  | completed
  | failed
  | dead
deriving DecidableEq

inductive SyncTrigger where
  | connect
  | manual
  | schedule
  | push
  | recovery
deriving DecidableEq

inductive MessageDirection where
  | inbound
  | outbound
deriving DecidableEq

/--
An id in the history of a mailbox. Its columns are as wide as what the models of the provider's answers
take.
-/
structure HistoryId where
  text : String
  length : 1 ≤ text.length ∧ text.length ≤ 500
deriving DecidableEq

/--
The token of a page, with a column as wide as what the models of the provider's answers take.
-/
structure PageToken where
  text : String
  length : 1 ≤ text.length ∧ text.length ≤ 2000
deriving DecidableEq

/--
The columns of a connection and its profile that only the inbox reads.
-/
structure InboxConnectionProfile where
  connectionId : Nat
  importMode : InboxImportMode
  writeCapabilities : List String
deriving DecidableEq

/--
A row of `inbox_sync_checkpoints`.
-/
structure InboxSyncCheckpoint where
  connectionId : Nat
  providerHistoryId : Option HistoryId
  lastObservedHistoryId : Option HistoryId
  status : InboxSyncStatus
  consecutiveFailures : Nat
  lastErrorCode : Option String
  lastAttemptAt : Option Instant
  lastSuccessfulSyncAt : Option Instant
  version : Nat
deriving DecidableEq

structure SyncRequest where
  connectionId : Nat
  trigger : SyncTrigger
  triggerKey : String
  requestedHistoryId : Option HistoryId
  pageToken : Option PageToken
  pageBudget : Nat
  itemBudget : Nat
  key_length : 0 < triggerKey.length ∧ triggerKey.length ≤ 200
  page_bounds : 1 ≤ pageBudget ∧ pageBudget ≤ 10
  item_bounds : 1 ≤ itemBudget ∧ itemBudget ≤ 100

/--
A row of `inbox_sync_jobs`.
-/
structure InboxSyncJob where
  connectionId : Nat
  trigger : SyncTrigger
  triggerKey : String
  requestedHistoryId : Option HistoryId
  pageToken : Option PageToken
  status : SyncJobStatus
  pageBudget : Nat
  itemBudget : Nat
  attemptCount : Nat
  availableAt : Instant
  leaseOwner : Option String
  leaseExpiresAt : Option Instant
  lastErrorCode : Option String
  completedAt : Option Instant
  createdAt : Instant
deriving DecidableEq

/--
A claimed job with the history the connection has committed to by then.
-/
structure InboxSyncWork where
  jobId : Nat
  job : InboxSyncJob
  committedHistoryId : Option HistoryId
deriving DecidableEq

/--
A message as the provider reports it.
-/
structure ProviderMessage where
  providerMessageId : String
  providerThreadId : String
  rfcMessageId : Option String
  subject : String
  sender : String
  direction : MessageDirection
  receivedAt : Instant
  sanitizedContentHash : String
deriving DecidableEq

structure ProviderThread where
  providerThreadId : String
  messages : List ProviderMessage
  messages_ne_nil : messages ≠ []
  messages_length : messages.length ≤ 100
deriving DecidableEq

structure ChangePage where
  providerMessageIds : List String
  nextPageToken : Option PageToken
  historyId : HistoryId
deriving DecidableEq

/--
A row of `external_conversations`, the link between a thread of the provider and a case.
-/
structure ExternalConversation where
  connectionId : Nat
  caseId : Nat
  providerThreadId : String
  subject : String
  firstMessageAt : Instant
  latestMessageAt : Instant
  latestProviderMessageId : String
  sourceFingerprint : String
  version : Nat
deriving DecidableEq

/--
A row of `external_messages`.
-/
structure ExternalMessage where
  connectionId : Nat
  conversationId : Nat
  providerMessageId : String
  rfcMessageId : Option String
  direction : MessageDirection
  sender : String
  providerReceivedAt : Instant
  sanitizedContentHash : String
deriving DecidableEq

inductive DraftDeliveryStatus where
  | ready
  | running
  | completed
  | failedSafe
  | outcomeUnknown
  | recoveryRequired
deriving DecidableEq

/--
A row of `inbox_draft_deliveries`.
-/
structure InboxDraftDelivery where
  caseId : Nat
  externalConversationId : Nat
  connectionId : Nat
  responseDraftId : Nat
  responseDraftVersion : Nat
  reviewId : Nat
  decisionFingerprint : String
  evidenceFingerprint : String
  policyFingerprint : String
  conversationFingerprint : String
  responseFingerprint : String
  providerThreadId : String
  recipient : String
  subjectSnapshot : String
  bodyHash : String
  inReplyTo : Option String
  references : List String
  idempotencyKey : String
  status : DraftDeliveryStatus
  providerDraftId : Option String
  providerMessageId : Option String
  attemptCount : Nat
  leaseOwner : Option String
  leaseExpiresAt : Option Instant
  lastErrorCode : Option String
  completedAt : Option Instant
  createdAt : Instant
deriving DecidableEq

/--
What the provider is asked to make a draft of.
-/
structure CreateDraftRequest where
  providerThreadId : String
  recipient : String
  subject : String
  body : String
  inReplyTo : Option String
  references : List String
  correlationKey : String
deriving DecidableEq

structure DraftReceipt where
  providerDraftId : String
  providerMessageId : String
deriving DecidableEq

inductive DraftLookupStatus where
  | found
  | absent
  | ambiguous
  | unavailable
deriving DecidableEq

def DraftLookupStatus.value : DraftLookupStatus → String
  | .found => "found"
  | .absent => "absent"
  | .ambiguous => "ambiguous"
  | .unavailable => "unavailable"

/--
What the provider reports about a draft whose creation has an unknown outcome.
-/
structure DraftLookupResult where
  status : DraftLookupStatus
  receipt : Option DraftReceipt
  absenceIsTerminal : Bool
  receipt_iff_found : receipt.isSome = true ↔ status = .found
  absent_of_terminal : absenceIsTerminal = true → status = .absent

structure CaseDraftContext where
  caseId : Nat
  responseDraftId : Nat
  responseDraftVersion : Nat
  subject : String
  body : String
  responseFingerprint : String
  responseContentFingerprint : String
deriving DecidableEq

structure InboxReplyContext where
  externalConversationId : Nat
  connectionId : Nat
  providerThreadId : String
  recipient : String
  inReplyTo : Option String
  references : List String
  conversationFingerprint : String
deriving DecidableEq

end CaseResolution
