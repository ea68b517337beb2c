import CaseResolution.Inbox.Impl.Drafts
import CaseResolution.Inbox.Impl.Imports
import CaseResolution.Inbox.Impl.Sync
import CaseResolution.System.Basic

/-!
This module contains the service with its connected inbox as a machine: every transaction and every answer
of the provider is one command, and what a worker has read but not yet written is part of the state.
-/

namespace CaseResolution

open Guard

/--
A claimed job with the pages that were read for it.
-/
structure PendingSync where
  work : InboxSyncWork
  workerId : String
  pages : List HistoryPayload
deriving DecidableEq

def PendingSync.fetch (task : PendingSync) : Except Error SyncFetch := do
  let fetch ← SyncFetch.start task.work
  pure (task.pages.foldl (fun fetch page => fetch.readPage task.work.job page) fetch)

/--
A selected thread as it was read.
-/
structure PendingImport where
  connectionId : Nat
  thread : ProviderThread
deriving DecidableEq

/--
A delivery that was started, with the request for the provider.
-/
structure PendingDelivery where
  deliveryId : Nat
  workerId : String
  request : CreateDraftRequest
deriving DecidableEq

structure InboxDesk where
  inbox : InboxStore
  syncs : List PendingSync
  imports : List PendingImport
  deliveries : List PendingDelivery

inductive InboxCommand where
  | perform (command : Command)
  | establish (now : Instant) (connectionId : Nat) (writeCapabilities : List String)
      (historyId : Option HistoryId)
  | setImportMode (connectionId : Nat) (importMode : InboxImportMode)
      (writeCapabilities : List String)
  | requestManual (now : Instant) (actor : ActorContext) (connectionId : Nat) (triggerKey : String)
      (itemLimit : Nat)
  | requestScheduled (now : Instant) (connectionId : Nat) (triggerKey : String)
      (pageLimit itemLimit : Nat)
  | claim (now : Instant) (workerId : String) (limit leaseSeconds : Nat)
      (connectionId : Option Nat)
  | readPage (task : Nat) (payload : HistoryPayload)
  | persist (now : Instant) (task : Nat) (getMessage : String → Except Error ProviderMessage)
  | fail (now : Instant) (task : Nat) (errorCode : String) (reauthorize : Bool)
  | reprocess (now : Instant) (jobId : Nat)
  | readThread (actor : ActorContext) (connectionId : Nat) (payload : ThreadPayload)
  | importThread (task : Nat) (category : CaseCategory)
  | deliver (now : Instant) (actor : ActorContext) (caseId expectedDraftVersion : Nat)
      (workerId : String)
  | createReplyDraft (task : Nat)
  | completeDelivery (now : Instant) (task : Nat) (receipt : DraftReceipt)
  | failDelivery (now : Instant) (task : Nat) (accessGranted : Bool)
  | reconcileDelivery (now : Instant) (actor : ActorContext) (deliveryId : Nat)
      (lookup : Option DraftLookupResult)

/--
The instant a command is issued at, where it reads the clock.
-/
def InboxCommand.instant : InboxCommand → Option Instant
  | .perform command => command.instant
  | .establish now .. | .requestManual now .. | .requestScheduled now .. | .claim now ..
  | .persist now .. | .fail now .. | .reprocess now _ | .deliver now .. | .completeDelivery now ..
  | .failDelivery now .. | .reconcileDelivery now .. => some now
  | _ => none

/--
What a command answers.
-/
inductive InboxOutput where
  | done
  | performed (output : Output)
  | job (jobId : Nat)
  | persisted (task : PendingSync) (findings : List (ProviderMessage × MessageFinding))
  | conversation (conversationId : Nat)
  | draftRequest (request : CreateDraftRequest)

/--
The request of a synchronization, as the service builds it.
-/
def SyncRequest.new (connectionId : Nat) (trigger : SyncTrigger) (triggerKey : String)
    (pageBudget itemBudget : Nat) : Except Error SyncRequest :=
  if key_length : 0 < triggerKey.length ∧ triggerKey.length ≤ 200 then
    if page_bounds : 1 ≤ pageBudget ∧ pageBudget ≤ 10 then
      if item_bounds : 1 ≤ itemBudget ∧ itemBudget ≤ 100 then
        pure {
          connectionId, trigger, triggerKey, pageBudget, itemBudget
          requestedHistoryId := none
          pageToken := none
          key_length, page_bounds, item_bounds }
      else
        throw (.valueError "item_budget is out of bounds")
    else
      throw (.valueError "page_budget is out of bounds")
  else
    throw (.valueError "trigger_key is out of bounds")

/--
The lengths the provider's interface takes.
-/
def CreateDraftRequest.wellFormed (request : CreateDraftRequest) : Bool :=
  (1 ≤ request.providerThreadId.length ∧ request.providerThreadId.length ≤ 500)
    ∧ (3 ≤ request.recipient.length ∧ request.recipient.length ≤ 320)
    ∧ (1 ≤ request.subject.length ∧ request.subject.length ≤ 300)
    ∧ (1 ≤ request.body.length ∧ request.body.length ≤ 10000)
    ∧ request.inReplyTo.all fun messageId => messageId.length ≤ 1000

namespace InboxDesk

def withInbox (d : InboxDesk) (result : Except Error InboxStore)
    : Except Error (InboxDesk × InboxOutput) := do
  let inbox ← result
  pure ({ d with inbox }, .done)

def request (d : InboxDesk) (now : Instant) (request : Except Error SyncRequest)
    : Except Error (InboxDesk × InboxOutput) := do
  let request ← request
  let (inbox, jobId) ← d.inbox.enqueue now request
  pure ({ d with inbox }, .job jobId)

def claim (d : InboxDesk) (now : Instant) (workerId : String) (limit leaseSeconds : Nat)
    (connectionId : Option Nat) : Except Error (InboxDesk × InboxOutput) := do
  let (inbox, works) ← d.inbox.claim now limit connectionId workerId leaseSeconds
  pure ({ d with
    inbox
    syncs := d.syncs ++ works.map fun work => { work, workerId, pages := [] } }, .done)

def pendingSync (d : InboxDesk) (task : Nat) : Except Error PendingSync :=
  orThrow d.syncs[task]? (.lookupError "The sync task was not found.")

def readPage (d : InboxDesk) (task : Nat) (payload : HistoryPayload)
    : Except Error (InboxDesk × InboxOutput) := do
  let sync ← d.pendingSync task
  let fetch ← sync.fetch
  ensure (fetch.wantsPage sync.work.job) (.lookupError "The sync task has read its pages.")
  let read : PendingSync := { sync with pages := sync.pages ++ [payload] }
  pure ({ d with syncs := d.syncs.set task read }, .done)

/--
Read the thread that was selected for import.
-/
def readThread (d : InboxDesk) (actor : ActorContext) (connectionId : Nat) (payload : ThreadPayload)
    : Except Error (InboxDesk × InboxOutput) := do
  requirePermission actor .caseManage
  requirePermission actor .connectionRead
  let profile ← orThrow
    (d.inbox.profiles.find? fun profile => profile.connectionId = connectionId)
    (.inboxCredentialUnavailable "The inbox needs to be connected again.")
  ensure (profile.importMode ≠ .paused) (.inboxConflict "Inbox import is paused.")
  let thread ← GmailReadAdapter.getThread payload
  pure ({ d with imports := d.imports ++ [{ connectionId, thread }] }, .done)

section

variable [Digest]

def perform (d : InboxDesk) (command : Command) : Except Error (InboxDesk × InboxOutput) := do
  let (store, output) ← d.inbox.toStore.perform command
  pure ({ d with inbox := { d.inbox with toStore := store } }, .performed output)

def persist (d : InboxDesk) (now : Instant) (task : Nat)
    (getMessage : String → Except Error ProviderMessage) : Except Error (InboxDesk × InboxOutput) := do
  let sync ← d.pendingSync task
  let fetch ← sync.fetch
  ensure (¬ fetch.wantsPage sync.work.job) (.lookupError "The sync task has pages to read.")
  let messages ← (fetch.wanted sync.work.job).mapM getMessage
  let (inbox, findings) ←
    d.inbox.persist now sync.work sync.workerId messages fetch.observedHistoryId fetch.pageToken
  pure ({ d with inbox }, .persisted sync findings)

def importThread (d : InboxDesk) (task : Nat) (category : CaseCategory)
    : Except Error (InboxDesk × InboxOutput) := do
  let read ← orThrow d.imports[task]? (.lookupError "The import was not found.")
  let (inbox, conversationId) ← d.inbox.importThread read.connectionId category read.thread
  pure ({ d with inbox }, .conversation conversationId)

def deliver (d : InboxDesk) (now : Instant) (actor : ActorContext)
    (caseId expectedDraftVersion : Nat) (workerId : String)
    : Except Error (InboxDesk × InboxOutput) := do
  let (inbox, deliveryId, request) ←
    d.inbox.deliver now actor caseId expectedDraftVersion workerId
  match request with
  | none => pure ({ d with inbox }, .done)
  | some request =>
    pure ({ d with
      inbox, deliveries := d.deliveries ++ [{ deliveryId, workerId, request }] }, .done)

end

def pendingDelivery (d : InboxDesk) (task : Nat) : Except Error PendingDelivery :=
  orThrow d.deliveries[task]? (.lookupError "The delivery task was not found.")

/--
The call of the provider. It changes nothing here.
-/
def createReplyDraft (d : InboxDesk) (task : Nat) : Except Error (InboxDesk × InboxOutput) := do
  let delivery ← d.pendingDelivery task
  ensure delivery.request.wellFormed (.valueError "The draft request is out of bounds.")
  pure (d, .draftRequest delivery.request)

variable [Digest]

def step (d : InboxDesk) : InboxCommand → Except Error (InboxDesk × InboxOutput)
  | .perform command => d.perform command
  | .establish now connectionId writeCapabilities historyId =>
    d.withInbox (d.inbox.establish now connectionId writeCapabilities historyId)
  | .setImportMode connectionId importMode writeCapabilities =>
    d.withInbox (d.inbox.setImportMode connectionId importMode writeCapabilities)
  | .requestManual now actor connectionId triggerKey itemLimit => do
    requirePermission actor .connectionManage
    d.request now (SyncRequest.new connectionId .manual triggerKey 1 itemLimit)
  | .requestScheduled now connectionId triggerKey pageLimit itemLimit =>
    d.request now (SyncRequest.new connectionId .schedule triggerKey pageLimit itemLimit)
  | .claim now workerId limit leaseSeconds connectionId =>
    d.claim now workerId limit leaseSeconds connectionId
  | .readPage task payload => d.readPage task payload
  | .persist now task getMessage => d.persist now task getMessage
  | .fail now task errorCode reauthorize => do
    let sync ← d.pendingSync task
    d.withInbox (d.inbox.fail now sync.work.jobId sync.workerId errorCode reauthorize)
  | .reprocess now jobId => d.withInbox (d.inbox.reprocess now jobId)
  | .readThread actor connectionId payload => d.readThread actor connectionId payload
  | .importThread task category => d.importThread task category
  | .deliver now actor caseId expectedDraftVersion workerId =>
    d.deliver now actor caseId expectedDraftVersion workerId
  | .createReplyDraft task => d.createReplyDraft task
  | .completeDelivery now task receipt => do
    let delivery ← d.pendingDelivery task
    d.withInbox (d.inbox.completeDelivery now delivery.deliveryId receipt (some delivery.workerId))
  | .failDelivery now task accessGranted => do
    let delivery ← d.pendingDelivery task
    d.withInbox (d.inbox.failDelivery now delivery.deliveryId delivery.workerId accessGranted)
  | .reconcileDelivery now actor deliveryId lookup => do
    requirePermission actor .caseManage
    d.withInbox (d.inbox.reconcileDelivery now deliveryId lookup)

end InboxDesk

/--
The service with its inbox. A refused command is rolled back.
-/
def inboxService [Digest] : Machine InboxDesk InboxCommand Error InboxOutput where
  step := InboxDesk.step

/--
The step persisted a page, and `p` holds of what it left.
-/
def InboxOutput.persists {σ : Type} (p : σ → PendingSync → List (ProviderMessage × MessageFinding) → Bool)
    : Except Error (σ × InboxOutput) → Bool
  | .ok (after, .persisted sync findings) => p after sync findings
  | _ => false

theorem InboxOutput.exists_of_persists {σ : Type}
    {p : σ → PendingSync → List (ProviderMessage × MessageFinding) → Bool}
    {result : Except Error (σ × InboxOutput)} (h : persists p result = true)
    : ∃ after sync findings, result = .ok (after, .persisted sync findings)
      ∧ p after sync findings = true := by
  unfold persists at h
  split at h
  . next after sync findings => exact ⟨after, sync, findings, rfl, h⟩
  . cases h

end CaseResolution
