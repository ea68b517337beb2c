import CaseResolution.Inbox.Lemmas.Origins

/-!
This module contains what commands make of the conversations and of the messages: only its import links a
thread, and a message is stored by an import or by a sync job that finds its thread linked.
-/

namespace CaseResolution

open Guard

/--
A connection whose synchronization has a checkpoint.
-/
def InboxStore.Connected (s : InboxStore) (connectionId : Nat) : Prop :=
  ∃ checkpoint ∈ s.checkpoints, checkpoint.connectionId = connectionId

theorem InboxStore.Connected.findCheckpoint_ne {s : InboxStore} {connectionId : Nat}
    (h : s.Connected connectionId) : s.findCheckpoint connectionId ≠ none := by
  obtain ⟨checkpoint, hmem, hconnection⟩ := h
  obtain ⟨i, hi⟩ := List.mem_iff_getElem?.mp hmem
  unfold InboxStore.findCheckpoint
  rw [Ne, List.find?_eq_none]
  intro hnone
  exact hnone (i, checkpoint) (Rows.mem_numbered.mpr hi) (by simpa using hconnection)

namespace InboxEffect

variable [Digest] {d d' : InboxDesk} {command : InboxCommand} {output : InboxOutput}

/--
The commands other than those that persist messages leave the conversations and the messages alone.
-/
theorem threads_kept (h : InboxEffect d command d' output)
    (hpersist : ∀ now task getMessage, command ≠ .persist now task getMessage)
    (himport : ∀ task category, command ≠ .importThread task category)
    : d'.inbox.conversations = d.inbox.conversations ∧ d'.inbox.messages = d.inbox.messages := by
  have hkept := h.mail_kept
  cases h with
  | established haccepted =>
    obtain ⟨_, _, heq, _⟩ := InboxStore.establish_eq_ok haccepted
    rw [heq]
    exact ⟨rfl, rfl⟩
  | requestedManual _ haccepted =>
    cases InboxStore.enqueue_eq_ok haccepted with
    | inl heq => exact ⟨by rw [heq], by rw [heq]⟩
    | inr heq => exact ⟨by rw [heq], by rw [heq]⟩
  | requestedScheduled _ haccepted =>
    cases InboxStore.enqueue_eq_ok haccepted with
    | inl heq => exact ⟨by rw [heq], by rw [heq]⟩
    | inr heq => exact ⟨by rw [heq], by rw [heq]⟩
  | claimed haccepted =>
    rw [(InboxStore.claim_framed haccepted).1]
    exact ⟨rfl, rfl⟩
  | pageRead _ _ _ => exact ⟨rfl, rfl⟩
  | persisted _ _ _ _ _ => exact absurd rfl (hpersist _ _ _)
  | failed _ haccepted =>
    obtain ⟨_, _, _, _, _, heq⟩ := InboxStore.fail_eq_ok haccepted
    rw [heq]
    exact ⟨rfl, rfl⟩
  | reprocessed haccepted =>
    obtain heq | ⟨_, _, _, _, _, _, heq⟩ := InboxStore.reprocess_eq_ok haccepted
    . exact ⟨by rw [heq], by rw [heq]⟩
    . exact ⟨by rw [heq], by rw [heq]⟩
  | threadRead _ _ => exact ⟨rfl, rfl⟩
  | threadImported _ _ => exact absurd rfl (himport _ _)
  | _ => exact ⟨(hkept rfl).conversations, (hkept rfl).messages⟩

/--
The parts of an accepted sync transaction.
-/
theorem persist_parts {now : Instant} {task : Nat} {getMessage : String → Except Error ProviderMessage}
    (h : InboxEffect d (.persist now task getMessage) d' output) (htasks : d.TasksStored)
    : ∃ sync fetch messages findings added checkpointId checkpoint,
        output = .persisted sync findings ∧ d.syncs[task]? = some sync
          ∧ (fetch.wanted sync.work.job).mapM getMessage = .ok messages
          ∧ SyncParts d now sync fetch messages findings d'.inbox added checkpointId checkpoint := by
  cases h with
  | @persisted _ _ _ sync fetch messages inbox findings hpending hfetched _ hgot haccepted =>
    obtain ⟨added, checkpointId, checkpoint, hparts⟩ :=
      InboxDesk.persist_parts htasks (List.mem_of_getElem? hpending) hfetched haccepted
    exact ⟨sync, fetch, messages, findings, added, checkpointId, checkpoint, rfl, hpending, hgot, hparts⟩

/--
The parts of an accepted import.
-/
theorem import_parts {task : Nat} {category : CaseCategory}
    (h : InboxEffect d (.importThread task category) d' output)
    : ∃ pending conversationId opened added, d.imports[task]? = some pending
        ∧ InboxStore.Imported d.inbox pending.connectionId pending.thread d'.inbox conversationId opened
          added := by
  cases h with
  | @threadImported _ _ pending inbox conversationId hread haccepted =>
    obtain ⟨opened, added, himported⟩ := InboxStore.importThread_imported haccepted
    exact ⟨pending, conversationId, opened, added, hread, himported⟩

/--
A linked thread stays linked to its case, and stored messages stay.
-/
theorem threads_extended (h : InboxEffect d command d' output) (htasks : d.TasksStored)
    : Rows.Extends ExternalConversation.SameLink d.inbox.conversations d'.inbox.conversations
      ∧ ∃ added, d'.inbox.messages = d.inbox.messages ++ added := by
  by_cases hpersist : ∃ now task getMessage, command = .persist now task getMessage
  . obtain ⟨now, task, getMessage, heq⟩ := hpersist
    subst heq
    obtain ⟨sync, fetch, messages, findings, added, _, _, _, _, _, hparts⟩ := h.persist_parts htasks
    obtain ⟨t, hpersisted, hmessages⟩ := hparts.persisted
    obtain ⟨store, hframed⟩ := hpersisted.framed
    refine ⟨hparts.conversations.kept, added, ?_⟩
    rw [← hmessages, hframed]
  . by_cases himport : ∃ task category, command = .importThread task category
    . obtain ⟨task, category, heq⟩ := himport
      subst heq
      obtain ⟨pending, conversationId, opened, added, _, himported⟩ := h.import_parts
      obtain ⟨store, conversations, hframed⟩ := himported.framed
      refine ⟨?_, added, by rw [hframed]⟩
      apply Rows.Extends.trans (fun hab hbc => hab.trans hbc) _ himported.refreshed.kept
      exact Rows.Extends.append ExternalConversation.SameLink.refl _ _
    . obtain ⟨hconversations, hmessages⟩ := h.threads_kept
        (fun now task getMessage heq => hpersist ⟨now, task, getMessage, heq⟩)
        (fun task category heq => himport ⟨task, category, heq⟩)
      refine ⟨?_, [], by rw [hmessages, List.append_nil]⟩
      rw [hconversations]
      exact Rows.Extends.refl ExternalConversation.SameLink.refl _

/--
Where a conversation comes from: it was there before, or its thread was just imported.
-/
theorem conversation_origin (h : InboxEffect d command d' output) (htasks : d.TasksStored) {i : Nat}
    {conversation' : ExternalConversation} (hi : d'.inbox.conversations[i]? = some conversation')
    : (∃ conversation, d.inbox.conversations[i]? = some conversation
        ∧ conversation.SameLink conversation')
      ∨ ∃ task category pending, command = .importThread task category
        ∧ d.imports[task]? = some pending ∧ i = d.inbox.conversations.length
        ∧ conversation'.connectionId = pending.connectionId
        ∧ d.inbox.findConversation pending.connectionId pending.thread.providerThreadId = none
        ∧ ∃ message ∈ pending.thread.messages,
          conversation'.providerThreadId = message.providerThreadId := by
  by_cases hpersist : ∃ now task getMessage, command = .persist now task getMessage
  . obtain ⟨now, task, getMessage, heq⟩ := hpersist
    subst heq
    obtain ⟨sync, fetch, messages, findings, added, _, _, _, _, _, hparts⟩ := h.persist_parts htasks
    exact .inl (hparts.conversations.back hi)
  . by_cases himport : ∃ task category, command = .importThread task category
    . obtain ⟨task, category, heq⟩ := himport
      subst heq
      obtain ⟨pending, conversationId, opened, added, hread, himported⟩ := h.import_parts
      obtain ⟨stored, hstored, hlink⟩ := himported.refreshed.back hi
      by_cases hlt : i < d.inbox.conversations.length
      . rw [List.getElem?_append_left hlt] at hstored
        exact .inl ⟨stored, hstored, hlink⟩
      . rw [List.getElem?_append_right (Nat.le_of_not_lt hlt)] at hstored
        obtain ⟨hnone, hopened, hid, message, hmessage, hthread⟩ :=
          himported.opened_from stored (List.mem_of_getElem? hstored)
        have hbound := (List.getElem?_eq_some_iff.mp hstored).1
        rw [hopened, List.length_singleton] at hbound
        have hlength : i = d.inbox.conversations.length := by omega
        obtain ⟨linked, hlinked, hconnection⟩ := himported.linked
        have hsame : linked = stored := by
          rw [hid, List.getElem?_append_right (Nat.le_refl _), Nat.sub_self] at hlinked
          rw [hlength, Nat.sub_self] at hstored
          exact Option.some.inj (hlinked.symm.trans hstored)
        exact .inr ⟨task, category, pending, rfl, hread, hlength,
          hlink.1.symm.trans (hsame ▸ hconnection), hnone, message, hmessage,
          hlink.2.1.symm.trans hthread⟩
    . obtain ⟨hconversations, _⟩ := h.threads_kept
        (fun now task getMessage heq => hpersist ⟨now, task, getMessage, heq⟩)
        (fun task category heq => himport ⟨task, category, heq⟩)
      rw [hconversations] at hi
      exact .inl ⟨conversation', hi, .refl _⟩

/--
Where a stored message comes from: it was there before, or it was read by a sync job or an import and is
filed in the conversation of its thread.
-/
theorem row_origin (h : InboxEffect d command d' output) (htasks : d.TasksStored)
    {row : ExternalMessage} (hrow : row ∈ d'.inbox.messages)
    : row ∈ d.inbox.messages
      ∨ (∃ now task getMessage sync messageId message conversation,
        command = .persist now task getMessage ∧ d.syncs[task]? = some sync
          ∧ getMessage messageId = .ok message
          ∧ d.inbox.conversations[row.conversationId]? = some conversation
          ∧ conversation.connectionId = sync.work.job.connectionId
          ∧ conversation.providerThreadId = message.providerThreadId
          ∧ row.key = (sync.work.job.connectionId, message.providerMessageId))
      ∨ ∃ task category pending message conversation, command = .importThread task category
        ∧ d.imports[task]? = some pending ∧ message ∈ pending.thread.messages
        ∧ d'.inbox.conversations[row.conversationId]? = some conversation
        ∧ conversation.connectionId = pending.connectionId
        ∧ (conversation.providerThreadId = pending.thread.providerThreadId
          ∨ ∃ other ∈ pending.thread.messages,
            conversation.providerThreadId = other.providerThreadId)
        ∧ row.key = (pending.connectionId, message.providerMessageId) := by
  by_cases hpersist : ∃ now task getMessage, command = .persist now task getMessage
  . obtain ⟨now, task, getMessage, heq⟩ := hpersist
    subst heq
    obtain ⟨sync, fetch, messages, findings, added, _, _, _, hpending, hgot, hparts⟩ :=
      h.persist_parts htasks
    obtain ⟨t, hpersisted, hmessages⟩ := hparts.persisted
    obtain ⟨store, hframed⟩ := hpersisted.framed
    rw [← hmessages, hframed] at hrow
    cases List.mem_append.mp hrow with
    | inl hold => exact .inl hold
    | inr hnew =>
      obtain ⟨message, conversationId, conversation, hfinding, hfind, heq⟩ :=
        hpersisted.added_from row hnew
      have hmem : message ∈ messages := by
        rw [← mem_inOrder, ← hpersisted.found]
        exact List.mem_map_of_mem hfinding
      obtain ⟨messageId, _, hof⟩ := mem_of_mapM_eq_ok hgot hmem
      obtain ⟨hconversation, hconnection, hthread⟩ := InboxStore.findConversation_eq_some hfind
      subst heq
      exact .inr (.inl ⟨now, task, getMessage, sync, messageId, message, conversation, rfl, hpending, hof,
        hconversation, hconnection, hthread, rfl⟩)
  . by_cases himport : ∃ task category, command = .importThread task category
    . obtain ⟨task, category, heq⟩ := himport
      subst heq
      obtain ⟨pending, conversationId, opened, added, hread, himported⟩ := h.import_parts
      obtain ⟨store, conversations, hframed⟩ := himported.framed
      rw [hframed] at hrow
      cases List.mem_append.mp hrow with
      | inl hold => exact .inl hold
      | inr hnew =>
        obtain ⟨message, hmessage, heq⟩ := himported.added_from row hnew
        obtain ⟨linked, hlinked, hconnection⟩ := himported.linked
        obtain ⟨conversation, hconversation, hlink⟩ := himported.refreshed.kept _ _ hlinked
        have hthread : linked.providerThreadId = pending.thread.providerThreadId
            ∨ ∃ other ∈ pending.thread.messages,
              linked.providerThreadId = other.providerThreadId := by
          cases hopened : opened with
          | nil =>
            obtain ⟨found, hfind⟩ := himported.existing hopened
            obtain ⟨hfound, _, hthread⟩ := InboxStore.findConversation_eq_some hfind
            rw [hopened, List.append_nil, hfound, Option.some.injEq] at hlinked
            exact .inl (hlinked ▸ hthread)
          | cons first rest =>
            obtain ⟨_, hsingle, hid, other, hother, hthread⟩ :=
              himported.opened_from first (by rw [hopened]; exact List.mem_cons_self)
            rw [hsingle, hid, List.getElem?_append_right (Nat.le_refl _), Nat.sub_self,
              List.getElem?_cons_zero, Option.some.injEq] at hlinked
            exact .inr ⟨other, hother, hlinked ▸ hthread⟩
        rw [hlink.2.1] at hthread
        subst heq
        exact .inr (.inr ⟨task, category, pending, message, conversation, rfl, hread, hmessage,
          hconversation, hlink.1.symm.trans hconnection, hthread, rfl⟩)
    . obtain ⟨_, hmessages⟩ := h.threads_kept
        (fun now task getMessage heq => hpersist ⟨now, task, getMessage, heq⟩)
        (fun task category heq => himport ⟨task, category, heq⟩)
      exact .inl (hmessages ▸ hrow)

/--
Where a thread that was read comes from.
-/
theorem import_origin (h : InboxEffect d command d' output) {pending : PendingImport}
    (hmem : pending ∈ d'.imports)
    : pending ∈ d.imports
      ∨ ∃ actor payload, command = .readThread actor pending.connectionId payload
        ∧ GmailReadAdapter.getThread payload = .ok pending.thread
        ∧ ∃ profile ∈ d.inbox.profiles, profile.connectionId = pending.connectionId := by
  cases h with
  | @threadRead actor connectionId payload profile thread hconnected hread =>
    cases List.mem_append.mp hmem with
    | inl hold => exact .inl hold
    | inr hnew =>
      rw [List.mem_singleton] at hnew
      subst hnew
      have hconnection := List.find?_some hconnected
      exact .inr ⟨actor, payload, rfl, hread, profile, List.mem_of_find?_eq_some hconnected,
        of_decide_eq_true hconnection⟩
  | _ => exact .inl hmem

theorem connected_kept (h : InboxEffect d command d' output) (htasks : d.TasksStored)
    {connectionId : Nat} (hconnected : d.inbox.Connected connectionId)
    : d'.inbox.Connected connectionId := by
  obtain ⟨checkpoint, hmem, hconnection⟩ := hconnected
  obtain ⟨i, hi⟩ := List.mem_iff_getElem?.mp hmem
  have hkept : Rows.Extends (fun a b => a.connectionId = b.connectionId) d.inbox.checkpoints
      d'.inbox.checkpoints := by
    obtain ⟨now, task, getMessage, sync, findings, _, _, _, hcommitted⟩ | ⟨_, huncommitted⟩ :=
      h.committed htasks
    . obtain ⟨fetch, checkpointId, stored, _, hfind, heq⟩ := hcommitted.checkpoint
      rw [heq]
      apply Rows.Extends.set _ (InboxStore.findCheckpoint_eq_some hfind).1
      . rfl
      . intro a
        rfl
    . exact huncommitted.history.mono fun _ _ hsame => hsame.1
  obtain ⟨checkpoint', hi', hsame⟩ := hkept i checkpoint hi
  exact ⟨checkpoint', List.mem_of_getElem? hi', hsame.symm.trans hconnection⟩

/--
A profile belongs to a connection that had one before or gets its checkpoint now.
-/
theorem profile_origin (h : InboxEffect d command d' output) {profile : InboxConnectionProfile}
    (hmem : profile ∈ d'.inbox.profiles)
    : (∃ stored ∈ d.inbox.profiles, stored.connectionId = profile.connectionId)
      ∨ d'.inbox.Connected profile.connectionId := by
  have hold : ∀ profiles, profiles = d.inbox.profiles → profile ∈ profiles →
      ∃ stored ∈ d.inbox.profiles, stored.connectionId = profile.connectionId :=
    fun profiles heq hin => ⟨profile, heq ▸ hin, rfl⟩
  cases h with
  | established haccepted =>
    obtain ⟨profiles, opened, heq, _, hprofiles, hconnected⟩ := InboxStore.establish_eq_ok haccepted
    subst heq
    cases hprofiles profile hmem with
    | inl hnew => exact .inr (hnew ▸ hconnected)
    | inr hin => exact .inl ⟨profile, hin, rfl⟩
  | importModeSet haccepted => exact .inl ((InboxStore.setImportMode_framed haccepted).2 profile hmem)
  | requestedManual _ haccepted =>
    cases InboxStore.enqueue_eq_ok haccepted with
    | inl heq => exact .inl (hold _ (by rw [heq]) hmem)
    | inr heq => exact .inl (hold _ (by rw [heq]) hmem)
  | requestedScheduled _ haccepted =>
    cases InboxStore.enqueue_eq_ok haccepted with
    | inl heq => exact .inl (hold _ (by rw [heq]) hmem)
    | inr heq => exact .inl (hold _ (by rw [heq]) hmem)
  | claimed haccepted => exact .inl (hold _ (by rw [(InboxStore.claim_framed haccepted).1]) hmem)
  | persisted _ _ _ _ haccepted =>
    obtain ⟨t, added, conversations, hpersisted, _, hcompleted⟩ := InboxStore.persist_eq_ok haccepted
    obtain ⟨store, hframed⟩ := hpersisted.framed
    obtain ⟨_, _, _, _, _, _, heq⟩ := InboxStore.complete_eq_ok hcompleted
    exact .inl (hold _ (by rw [heq, hframed]) hmem)
  | failed _ haccepted =>
    obtain ⟨_, _, _, _, _, heq⟩ := InboxStore.fail_eq_ok haccepted
    exact .inl (hold _ (by rw [heq]) hmem)
  | reprocessed haccepted =>
    obtain heq | ⟨_, _, _, _, _, _, heq⟩ := InboxStore.reprocess_eq_ok haccepted
    . exact .inl (hold _ (by rw [heq]) hmem)
    . exact .inl (hold _ (by rw [heq]) hmem)
  | threadImported _ haccepted =>
    obtain ⟨_, _, himported⟩ := InboxStore.importThread_imported haccepted
    obtain ⟨_, _, hframed⟩ := himported.framed
    exact .inl (hold _ (by rw [hframed]) hmem)
  | delivered haccepted => exact .inl (hold _ (by rw [InboxStore.deliver_framed haccepted]) hmem)
  | deliveryCompleted _ haccepted =>
    exact .inl (hold _ (by rw [(InboxStore.completeDelivery_written haccepted).framed]) hmem)
  | deliveryFailed _ haccepted =>
    exact .inl (hold _ (by rw [(InboxStore.failDelivery_written haccepted).framed]) hmem)
  | deliveryReconciled haccepted =>
    exact .inl (hold _ (by rw [(InboxStore.reconcileDelivery_written haccepted).framed]) hmem)
  | _ => exact .inl ⟨profile, hmem, rfl⟩

end InboxEffect

/--
Threads are read and linked for connections only that are synchronized.
-/
structure InboxDesk.AllConnected (d : InboxDesk) : Prop where
  profiles : ∀ profile ∈ d.inbox.profiles, d.inbox.Connected profile.connectionId
  imports : ∀ pending ∈ d.imports, d.inbox.Connected pending.connectionId
  conversations : ∀ conversation ∈ d.inbox.conversations,
    d.inbox.Connected conversation.connectionId

theorem InboxDesk.AllConnected.effect [Digest] {d d' : InboxDesk} {command : InboxCommand}
    {output : InboxOutput} (hall : d.AllConnected) (htasks : d.TasksStored)
    (h : InboxEffect d command d' output) : d'.AllConnected where
  profiles := by
    intro profile hmem
    cases h.profile_origin hmem with
    | inl hold =>
      obtain ⟨stored, hstored, heq⟩ := hold
      exact heq ▸ h.connected_kept htasks (hall.profiles stored hstored)
    | inr hnew => exact hnew
  imports := by
    intro pending hmem
    obtain hold | ⟨_, _, _, _, profile, hprofile, heq⟩ := h.import_origin hmem
    . exact h.connected_kept htasks (hall.imports pending hold)
    . exact heq ▸ h.connected_kept htasks (hall.profiles profile hprofile)
  conversations := by
    intro conversation' hmem
    obtain ⟨i, hi⟩ := List.mem_iff_getElem?.mp hmem
    obtain ⟨conversation, hold, hlink⟩ | ⟨_, _, pending, _, hread, _, hconnection, _⟩ :=
      h.conversation_origin htasks hi
    . exact hlink.1 ▸ h.connected_kept htasks
        (hall.conversations conversation (List.mem_of_getElem? hold))
    . rw [hconnection]
      exact h.connected_kept htasks (hall.imports pending (List.mem_of_getElem? hread))

end CaseResolution
