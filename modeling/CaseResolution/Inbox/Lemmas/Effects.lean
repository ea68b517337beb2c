import CaseResolution.Inbox.Lemmas.Queue
import CaseResolution.Inbox.System

/-!
This module contains what an accepted command of the inbox can do, once and for all: every later fact about
commands is a case analysis over it.
-/

namespace CaseResolution

open Guard

/--
What an accepted command does, with the transaction it committed.
-/
inductive InboxEffect [Digest] (d : InboxDesk) : InboxCommand → InboxDesk → InboxOutput → Prop where
  | performed {command : Command} {store : Store} {output : Output}
      (accepted : d.inbox.toStore.perform command = .ok (store, output))
      : InboxEffect d (.perform command) { d with inbox := { d.inbox with toStore := store } }
        (.performed output)
  | established {now : Instant} {connectionId : Nat} {writeCapabilities : List String}
      {historyId : Option HistoryId} {inbox : InboxStore}
      (accepted : d.inbox.establish now connectionId writeCapabilities historyId = .ok inbox)
      : InboxEffect d (.establish now connectionId writeCapabilities historyId)
        { d with inbox := inbox } .done
  | importModeSet {connectionId : Nat} {importMode : InboxImportMode}
      {writeCapabilities : List String} {inbox : InboxStore}
      (accepted : d.inbox.setImportMode connectionId importMode writeCapabilities = .ok inbox)
      : InboxEffect d (.setImportMode connectionId importMode writeCapabilities)
        { d with inbox := inbox } .done
  | requestedManual {now : Instant} {actor : ActorContext} {connectionId : Nat}
      {triggerKey : String} {itemLimit : Nat} {request : SyncRequest} {inbox : InboxStore}
      {jobId : Nat}
      (built : SyncRequest.new connectionId .manual triggerKey 1 itemLimit = .ok request)
      (accepted : d.inbox.enqueue now request = .ok (inbox, jobId))
      : InboxEffect d (.requestManual now actor connectionId triggerKey itemLimit)
        { d with inbox := inbox } (.job jobId)
  | requestedScheduled {now : Instant} {connectionId : Nat} {triggerKey : String}
      {pageLimit itemLimit : Nat} {request : SyncRequest} {inbox : InboxStore} {jobId : Nat}
      (built : SyncRequest.new connectionId .schedule triggerKey pageLimit itemLimit = .ok request)
      (accepted : d.inbox.enqueue now request = .ok (inbox, jobId))
      : InboxEffect d (.requestScheduled now connectionId triggerKey pageLimit itemLimit)
        { d with inbox := inbox } (.job jobId)
  | claimed {now : Instant} {workerId : String} {limit leaseSeconds : Nat}
      {connectionId : Option Nat} {inbox : InboxStore} {works : List InboxSyncWork}
      (accepted : d.inbox.claim now limit connectionId workerId leaseSeconds = .ok (inbox, works))
      : InboxEffect d (.claim now workerId limit leaseSeconds connectionId)
        { d with
          inbox := inbox
          syncs := d.syncs ++ works.map fun work => { work, workerId, pages := [] } } .done
  | pageRead {task : Nat} {payload : HistoryPayload} {sync : PendingSync} {fetch : SyncFetch}
      (pending : d.syncs[task]? = some sync) (fetched : sync.fetch = .ok fetch)
      (wants : fetch.wantsPage sync.work.job = true)
      : InboxEffect d (.readPage task payload)
        { d with syncs := d.syncs.set task { sync with pages := sync.pages ++ [payload] } } .done
  | persisted {now : Instant} {task : Nat} {getMessage : String → Except Error ProviderMessage}
      {sync : PendingSync} {fetch : SyncFetch} {messages : List ProviderMessage}
      {inbox : InboxStore} {findings : List (ProviderMessage × MessageFinding)}
      (pending : d.syncs[task]? = some sync) (fetched : sync.fetch = .ok fetch)
      (read : ¬ fetch.wantsPage sync.work.job = true)
      (got : (fetch.wanted sync.work.job).mapM getMessage = .ok messages)
      (accepted : d.inbox.persist now sync.work sync.workerId messages fetch.observedHistoryId
        fetch.pageToken = .ok (inbox, findings))
      : InboxEffect d (.persist now task getMessage) { d with inbox := inbox }
        (.persisted sync findings)
  | failed {now : Instant} {task : Nat} {errorCode : String} {reauthorize : Bool}
      {sync : PendingSync} {inbox : InboxStore} (pending : d.syncs[task]? = some sync)
      (accepted : d.inbox.fail now sync.work.jobId sync.workerId errorCode reauthorize = .ok inbox)
      : InboxEffect d (.fail now task errorCode reauthorize) { d with inbox := inbox } .done
  | reprocessed {now : Instant} {jobId : Nat} {inbox : InboxStore}
      (accepted : d.inbox.reprocess now jobId = .ok inbox)
      : InboxEffect d (.reprocess now jobId) { d with inbox := inbox } .done
  | threadRead {actor : ActorContext} {connectionId : Nat} {payload : ThreadPayload}
      {profile : InboxConnectionProfile} {thread : ProviderThread}
      (connected : d.inbox.profiles.find? (fun profile => profile.connectionId = connectionId)
        = some profile)
      (read : GmailReadAdapter.getThread payload = .ok thread)
      : InboxEffect d (.readThread actor connectionId payload)
        { d with imports := d.imports ++ [{ connectionId, thread }] } .done
  | threadImported {task : Nat} {category : CaseCategory} {pending : PendingImport}
      {inbox : InboxStore} {conversationId : Nat} (read : d.imports[task]? = some pending)
      (accepted : d.inbox.importThread pending.connectionId category pending.thread
        = .ok (inbox, conversationId))
      : InboxEffect d (.importThread task category) { d with inbox := inbox }
        (.conversation conversationId)
  | delivered {now : Instant} {actor : ActorContext} {caseId expectedDraftVersion : Nat}
      {workerId : String} {inbox : InboxStore} {deliveryId : Nat}
      {request : Option CreateDraftRequest}
      (accepted : d.inbox.deliver now actor caseId expectedDraftVersion workerId
        = .ok (inbox, deliveryId, request))
      : InboxEffect d (.deliver now actor caseId expectedDraftVersion workerId)
        { d with
          inbox := inbox
          deliveries := d.deliveries
            ++ (request.map fun request => { deliveryId, workerId, request }).toList } .done
  | draftRequested {task : Nat} {delivery : PendingDelivery}
      (pending : d.deliveries[task]? = some delivery)
      : InboxEffect d (.createReplyDraft task) d (.draftRequest delivery.request)
  | deliveryCompleted {now : Instant} {task : Nat} {receipt : DraftReceipt}
      {delivery : PendingDelivery} {inbox : InboxStore}
      (pending : d.deliveries[task]? = some delivery)
      (accepted : d.inbox.completeDelivery now delivery.deliveryId receipt (some delivery.workerId)
        = .ok inbox)
      : InboxEffect d (.completeDelivery now task receipt) { d with inbox := inbox } .done
  | deliveryFailed {now : Instant} {task : Nat} {accessGranted : Bool}
      {delivery : PendingDelivery} {inbox : InboxStore}
      (pending : d.deliveries[task]? = some delivery)
      (accepted : d.inbox.failDelivery now delivery.deliveryId delivery.workerId accessGranted
        = .ok inbox)
      : InboxEffect d (.failDelivery now task accessGranted) { d with inbox := inbox } .done
  | deliveryReconciled {now : Instant} {actor : ActorContext} {deliveryId : Nat}
      {lookup : Option DraftLookupResult} {inbox : InboxStore}
      (accepted : d.inbox.reconcileDelivery now deliveryId lookup = .ok inbox)
      : InboxEffect d (.reconcileDelivery now actor deliveryId lookup) { d with inbox := inbox } .done

namespace InboxDesk

variable {d d' : InboxDesk} {command : InboxCommand} {output : InboxOutput}

theorem withInbox_eq_ok {result : Except Error InboxStore}
    : d.withInbox result = .ok (d', output)
      ↔ ∃ inbox, result = .ok inbox ∧ { d with inbox := inbox } = d' ∧ .done = output := by
  unfold withInbox
  rw [bind_eq_ok]
  simp only [pure_eq_ok, Prod.mk.injEq]

theorem request_eq_ok {now : Instant} {request : Except Error SyncRequest}
    : d.request now request = .ok (d', output)
      ↔ ∃ built, request = .ok built ∧ ∃ inbox jobId, d.inbox.enqueue now built = .ok (inbox, jobId)
        ∧ { d with inbox := inbox } = d' ∧ .job jobId = output := by
  unfold InboxDesk.request
  simp only [bind_eq_ok, Prod.exists, pure_eq_ok, Prod.mk.injEq]

theorem requirePermission_bind_eq_ok {α : Type} {actor : ActorContext} {permission : Permission}
    {f : PUnit → Except Error α} {a : α}
    : (requirePermission actor permission >>= f) = .ok a
      ↔ actor.can permission = true ∧ f ⟨⟩ = .ok a := by
  unfold requirePermission
  rw [ensure_bind_eq_ok]

variable [Digest]

theorem step_effect (h : inboxService.step d command = .ok (d', output))
    : InboxEffect d command d' output := by
  unfold inboxService step at h
  dsimp only at h
  cases command with
  | perform command =>
    unfold perform at h
    simp only [bind_eq_ok, Prod.exists, pure_eq_ok, Prod.mk.injEq] at h
    obtain ⟨store, answer, haccepted, heq, hout⟩ := h
    subst heq hout
    exact .performed haccepted
  | establish now connectionId writeCapabilities historyId =>
    obtain ⟨inbox, haccepted, heq, hout⟩ := withInbox_eq_ok.mp h
    subst heq hout
    exact .established haccepted
  | setImportMode connectionId importMode writeCapabilities =>
    obtain ⟨inbox, haccepted, heq, hout⟩ := withInbox_eq_ok.mp h
    subst heq hout
    exact .importModeSet haccepted
  | requestManual now actor connectionId triggerKey itemLimit =>
    rw [requirePermission_bind_eq_ok, request_eq_ok] at h
    obtain ⟨_, request, hbuilt, inbox, jobId, haccepted, heq, hout⟩ := h
    subst heq hout
    exact .requestedManual hbuilt haccepted
  | requestScheduled now connectionId triggerKey pageLimit itemLimit =>
    obtain ⟨request, hbuilt, inbox, jobId, haccepted, heq, hout⟩ := request_eq_ok.mp h
    subst heq hout
    exact .requestedScheduled hbuilt haccepted
  | claim now workerId limit leaseSeconds connectionId =>
    unfold claim at h
    simp only [bind_eq_ok, Prod.exists, pure_eq_ok, Prod.mk.injEq] at h
    obtain ⟨inbox, works, haccepted, heq, hout⟩ := h
    subst heq hout
    exact .claimed haccepted
  | readPage task payload =>
    unfold readPage pendingSync at h
    simp only [bind_eq_ok, orThrow_eq_ok, ensure_eq_ok, exists_const, pure_eq_ok, Prod.mk.injEq] at h
    obtain ⟨sync, hpending, fetch, hfetched, hwants, heq, hout⟩ := h
    subst heq hout
    exact .pageRead hpending hfetched hwants
  | persist now task getMessage =>
    unfold persist pendingSync at h
    simp only [bind_eq_ok, orThrow_eq_ok, ensure_eq_ok, exists_const, Prod.exists, pure_eq_ok,
      Prod.mk.injEq] at h
    obtain ⟨sync, hpending, fetch, hfetched, hread, messages, hgot, inbox, findings, haccepted, heq,
      hout⟩ := h
    subst heq hout
    exact .persisted hpending hfetched hread hgot haccepted
  | fail now task errorCode reauthorize =>
    unfold pendingSync at h
    rw [orThrow_bind_eq_ok] at h
    obtain ⟨sync, hpending, h⟩ := h
    obtain ⟨inbox, haccepted, heq, hout⟩ := withInbox_eq_ok.mp h
    subst heq hout
    exact .failed hpending haccepted
  | reprocess now jobId =>
    obtain ⟨inbox, haccepted, heq, hout⟩ := withInbox_eq_ok.mp h
    subst heq hout
    exact .reprocessed haccepted
  | readThread actor connectionId payload =>
    unfold readThread at h
    rw [requirePermission_bind_eq_ok, requirePermission_bind_eq_ok, orThrow_bind_eq_ok] at h
    obtain ⟨_, _, profile, hconnected, h⟩ := h
    rw [ensure_bind_eq_ok, bind_eq_ok] at h
    obtain ⟨_, thread, hread, h⟩ := h
    rw [pure_eq_ok, Prod.mk.injEq] at h
    obtain ⟨heq, hout⟩ := h
    subst heq hout
    exact .threadRead hconnected hread
  | importThread task category =>
    unfold importThread at h
    simp only [bind_eq_ok, orThrow_eq_ok, Prod.exists, pure_eq_ok, Prod.mk.injEq] at h
    obtain ⟨pending, hread, inbox, conversationId, haccepted, heq, hout⟩ := h
    subst heq hout
    exact .threadImported hread haccepted
  | deliver now actor caseId expectedDraftVersion workerId =>
    unfold deliver at h
    simp only [bind_eq_ok, Prod.exists] at h
    obtain ⟨inbox, deliveryId, request, haccepted, h⟩ := h
    have heffect := InboxEffect.delivered haccepted
    cases request with
    | none =>
      rw [pure_eq_ok, Prod.mk.injEq] at h
      obtain ⟨heq, hout⟩ := h
      subst heq hout
      simpa using heffect
    | some request =>
      rw [pure_eq_ok, Prod.mk.injEq] at h
      obtain ⟨heq, hout⟩ := h
      subst heq hout
      exact heffect
  | createReplyDraft task =>
    unfold createReplyDraft pendingDelivery at h
    simp only [orThrow_bind_eq_ok, ensure_bind_eq_ok, pure_eq_ok, Prod.mk.injEq] at h
    obtain ⟨delivery, hpending, _, heq, hout⟩ := h
    subst heq hout
    exact .draftRequested hpending
  | completeDelivery now task receipt =>
    unfold pendingDelivery at h
    rw [orThrow_bind_eq_ok] at h
    obtain ⟨delivery, hpending, h⟩ := h
    obtain ⟨inbox, haccepted, heq, hout⟩ := withInbox_eq_ok.mp h
    subst heq hout
    exact .deliveryCompleted hpending haccepted
  | failDelivery now task accessGranted =>
    unfold pendingDelivery at h
    rw [orThrow_bind_eq_ok] at h
    obtain ⟨delivery, hpending, h⟩ := h
    obtain ⟨inbox, haccepted, heq, hout⟩ := withInbox_eq_ok.mp h
    subst heq hout
    exact .deliveryFailed hpending haccepted
  | reconcileDelivery now actor deliveryId lookup =>
    rw [requirePermission_bind_eq_ok] at h
    obtain ⟨inbox, haccepted, heq, hout⟩ := withInbox_eq_ok.mp h.2
    subst heq hout
    exact .deliveryReconciled haccepted

end InboxDesk

end CaseResolution
