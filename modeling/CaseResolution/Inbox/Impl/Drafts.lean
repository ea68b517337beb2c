import CaseResolution.Inbox.Impl.Messages
import CaseResolution.Reviews.Impl.DraftAuthorization

/-!
This module contains the delivery of the approved reply of a case as a draft of the connected mailbox.
-/

namespace CaseResolution

open Guard

section Fingerprints

variable [Digest]

def responseFingerprint (draftId : Nat) (draft : ResponseDraft) : String :=
  Digest.hash <| .obj [
    ("body", .str draft.body),
    ("draft_id", .num draftId),
    ("subject", .str draft.subject),
    ("version", .num draft.version)]

def draftDeliveryKey (organizationPublicId : String) (case : CaseDraftContext)
    (reply : InboxReplyContext) (review : ReviewDraftAuthorization) : String :=
  Digest.text <| "\x00".intercalate [
    organizationPublicId,
    toString case.responseDraftId,
    toString case.responseDraftVersion,
    review.snapshotFingerprint,
    review.evidenceFingerprint,
    review.policyFingerprint,
    reply.conversationFingerprint,
    case.responseFingerprint]

end Fingerprints

namespace InboxDraftDelivery

/--
A delivery may be written by the worker that holds it, or by a reconciliation once no worker does.
-/
def requireTransitionOwner (delivery : InboxDraftDelivery) (now : Instant)
    (expectedWorkerId : Option String) : Except Error PUnit := do
  match expectedWorkerId with
  | some workerId =>
    ensure (delivery.status = .running ∧ delivery.leaseOwner = some workerId)
      (.inboxConflict "The draft delivery is owned by another worker.")
  | none =>
    ensure (delivery.status = .outcomeUnknown ∨ delivery.status = .recoveryRequired
        ∨ (delivery.status = .running ∧ delivery.leaseExpiresAt.any fun expires => expires ≤ now))
      (.inboxConflict "The draft delivery is not ready for reconciliation.")

end InboxDraftDelivery

namespace InboxStore

def replyContext (s : InboxStore) (caseId : Nat) : Except Error InboxReplyContext := do
  let (conversationId, conversation) ← orThrow
    ((Rows.numbered s.conversations).find? fun (_, conversation) => conversation.caseId = caseId)
    (.inboxNotFound "This case is not linked to a connected inbox thread.")
  let disconnected : Error :=
    .inboxConflict "Connect the inbox with draft access before continuing."
  let connection ← orThrow s.connections[conversation.connectionId]? disconnected
  let profile ← orThrow
    (s.profiles.find? fun profile => profile.connectionId = conversation.connectionId) disconnected
  ensure (connection.credentialStatus = .connected ∧ "draft_create" ∈ profile.writeCapabilities)
    disconnected
  let messages := s.conversationMessages conversationId
  let latest ← orThrow (messages.filter fun message => message.direction = .inbound).getLast?
    (.inboxConflict "The conversation has no customer message to reply to.")
  ensure ('@' ∈ latest.sender.toList)
    (.inboxConflict "The customer reply address is unavailable.")
  let references := messages.filterMap fun message => message.rfcMessageId
  pure {
    externalConversationId := conversationId
    connectionId := conversation.connectionId
    providerThreadId := conversation.providerThreadId
    recipient := latest.sender
    inReplyTo := latest.rfcMessageId
    references := references.drop (references.length - 50)
    conversationFingerprint := conversation.sourceFingerprint }

def setDelivery (s : InboxStore) (deliveryId : Nat) (delivery : InboxDraftDelivery) : InboxStore :=
  { s with deliveries := s.deliveries.set deliveryId delivery }

def requiredDelivery (s : InboxStore) (deliveryId : Nat) : Except Error InboxDraftDelivery :=
  orThrow s.deliveries[deliveryId]? (.inboxNotFound "The draft delivery was not found.")

/--
Hand a delivery to a worker, unless its draft exists already.
-/
def startDelivery (s : InboxStore) (now : Instant) (deliveryId : Nat) (workerId : String)
    : Except Error (InboxStore × InboxDraftDelivery) := do
  let delivery ← s.requiredDelivery deliveryId
  if delivery.status = .completed then
    pure (s, delivery)
  else
    ensure (delivery.status = .ready ∨ delivery.status = .failedSafe)
      (.inboxConflict "Check the existing draft result before trying again.")
    let running : InboxDraftDelivery := { delivery with
      status := .running
      attemptCount := delivery.attemptCount + 1
      leaseOwner := some workerId
      leaseExpiresAt := some (now + seconds 60) }
    pure (s.setDelivery deliveryId running, running)

def completeDelivery (s : InboxStore) (now : Instant) (deliveryId : Nat) (receipt : DraftReceipt)
    (expectedWorkerId : Option String) : Except Error InboxStore := do
  let delivery ← s.requiredDelivery deliveryId
  if delivery.status = .completed then
    pure s
  else
    delivery.requireTransitionOwner now expectedWorkerId
    pure <| s.setDelivery deliveryId { delivery with
      status := .completed
      providerDraftId := some receipt.providerDraftId
      providerMessageId := some receipt.providerMessageId
      leaseOwner := none
      leaseExpiresAt := none
      lastErrorCode := none
      completedAt := some now }

def recordDeliveryFailure (s : InboxStore) (now : Instant) (deliveryId : Nat)
    (status : DraftDeliveryStatus) (errorCode : String) (expectedWorkerId : Option String)
    : Except Error InboxStore := do
  let delivery ← s.requiredDelivery deliveryId
  delivery.requireTransitionOwner now expectedWorkerId
  pure <| s.setDelivery deliveryId { delivery with
    status := status
    leaseOwner := none
    leaseExpiresAt := none
    lastErrorCode := some (truncate 100 errorCode) }

/--
The worker could not create the draft, or does not know whether it did.
-/
def failDelivery (s : InboxStore) (now : Instant) (deliveryId : Nat) (workerId : String)
    (accessGranted : Bool) : Except Error InboxStore :=
  if accessGranted then
    s.recordDeliveryFailure now deliveryId .outcomeUnknown "provider_outcome_unknown" (some workerId)
  else
    s.recordDeliveryFailure now deliveryId .failedSafe "access_unavailable" (some workerId)

/--
The transaction a reconciliation starts with. There is nothing to look up where the draft is known.
-/
def deliveryToReconcile (s : InboxStore) (now : Instant) (deliveryId : Nat)
    : Except Error (Option InboxDraftDelivery) := do
  let delivery ← s.requiredDelivery deliveryId
  if delivery.status = .completed then
    pure none
  else
    ensure (¬ (delivery.status = .running ∧ delivery.leaseExpiresAt.all fun expires => now < expires))
      (.inboxConflict "Draft creation is still in progress.")
    ensure (delivery.status = .running ∨ delivery.status = .outcomeUnknown
        ∨ delivery.status = .recoveryRequired)
      (.inboxConflict "This draft delivery does not need reconciliation.")
    pure (some delivery)

/--
What a reconciliation writes. There is no result where the provider could not be asked.
-/
def reconcileDelivery (s : InboxStore) (now : Instant) (deliveryId : Nat)
    (lookup : Option DraftLookupResult) : Except Error InboxStore :=
  match lookup with
  | none =>
    s.recordDeliveryFailure now deliveryId .recoveryRequired "reconciliation_unavailable" none
  | some result =>
    match result.receipt with
    | some receipt => s.completeDelivery now deliveryId receipt none
    | none =>
      let status : DraftDeliveryStatus :=
        if result.status = .absent ∧ result.absenceIsTerminal then .failedSafe else .recoveryRequired
      s.recordDeliveryFailure now deliveryId status ("reconciliation_" ++ result.status.value) none

section

variable [Digest]

/--
The reply a case is working on, if it is the expected one and ready.
-/
def currentDraft (s : InboxStore) (caseId expectedDraftVersion : Nat)
    : Except Error CaseDraftContext := do
  let missing : Error := .inboxNotFound "The case response draft was not found."
  let _ ← orThrow s.cases[caseId]? missing
  let (draftId, draft) ← orThrow
    ((Rows.numbered s.drafts).find? fun (_, draft) => draft.caseId = caseId) missing
  ensure (draft.version = expectedDraftVersion)
    (.inboxConflict "The response draft changed. Review the latest version first.")
  ensure (draft.status = .ready)
    (.inboxConflict "The response draft is not approved and ready for Gmail.")
  pure {
    caseId
    responseDraftId := draftId
    responseDraftVersion := draft.version
    subject := draft.subject
    body := draft.body
    responseFingerprint := responseFingerprint draftId draft
    responseContentFingerprint := responseContentFingerprint draft.subject draft.body }

def newDelivery (now : Instant) (case : CaseDraftContext) (reply : InboxReplyContext)
    (review : ReviewDraftAuthorization) (idempotencyKey : String) : InboxDraftDelivery where
  caseId := case.caseId
  externalConversationId := reply.externalConversationId
  connectionId := reply.connectionId
  responseDraftId := case.responseDraftId
  responseDraftVersion := case.responseDraftVersion
  reviewId := review.reviewId
  decisionFingerprint := review.snapshotFingerprint
  evidenceFingerprint := review.evidenceFingerprint
  policyFingerprint := review.policyFingerprint
  conversationFingerprint := reply.conversationFingerprint
  responseFingerprint := case.responseFingerprint
  providerThreadId := reply.providerThreadId
  recipient := reply.recipient
  subjectSnapshot := case.subject
  bodyHash := Digest.text case.body
  inReplyTo := reply.inReplyTo
  references := reply.references
  idempotencyKey := idempotencyKey
  status := .ready
  providerDraftId := none
  providerMessageId := none
  attemptCount := 0
  leaseOwner := none
  leaseExpiresAt := none
  lastErrorCode := none
  completedAt := none
  createdAt := now

/--
The delivery of the key, stored if it is the first.
-/
def prepareDelivery (s : InboxStore) (now : Instant) (case : CaseDraftContext)
    (reply : InboxReplyContext) (review : ReviewDraftAuthorization)
    : Except Error (InboxStore × Nat) := do
  let key := draftDeliveryKey s.organizationPublicId case reply review
  match s.deliveries.findIdx? fun delivery => delivery.idempotencyKey = key with
  | some deliveryId => pure (s, deliveryId)
  | none =>
    ensure (∀ delivery ∈ s.deliveries, ¬ (delivery.responseDraftId = case.responseDraftId
        ∧ delivery.responseDraftVersion = case.responseDraftVersion
        ∧ delivery.decisionFingerprint = review.snapshotFingerprint))
      (.integrityError "uq_inbox_draft_deliveries_authorized_snapshot")
    pure ({ s with deliveries := s.deliveries ++ [newDelivery now case reply review key] },
      s.deliveries.length)

/--
What the provider is asked for when a delivery was started.
-/
def draftRequest (case : CaseDraftContext) (reply : InboxReplyContext)
    (delivery : InboxDraftDelivery) : CreateDraftRequest where
  providerThreadId := reply.providerThreadId
  recipient := reply.recipient
  subject := case.subject
  body := case.body
  inReplyTo := reply.inReplyTo
  references := reply.references
  correlationKey := delivery.idempotencyKey

/--
The transaction a delivery starts with. The request is made only where no draft was created before.
-/
def deliver (s : InboxStore) (now : Instant) (actor : ActorContext)
    (caseId expectedDraftVersion : Nat) (workerId : String)
    : Except Error (InboxStore × Nat × Option CreateDraftRequest) := do
  requirePermission actor .caseManage
  let case ← s.currentDraft caseId expectedDraftVersion
  let review ← s.currentApproval now caseId
  ensure (case.responseContentFingerprint = review.responseContentFingerprint)
    (.reviewSnapshotStale <| "The response draft changed after approval. Review it again before "
      ++ "creating a Gmail draft.")
  let reply ← s.replyContext caseId
  let (prepared, deliveryId) ← s.prepareDelivery now case reply review
  let (started, delivery) ← prepared.startDelivery now deliveryId workerId
  if delivery.status = .completed then
    pure (started, deliveryId, none)
  else
    pure (started, deliveryId, some (draftRequest case reply delivery))

end

end InboxStore

end CaseResolution
