import CaseResolution.Inbox.Impl.Imports
import CaseResolution.Inbox.Impl.Sync

/-!
This module contains what the transactions that persist messages write: which messages become rows, and
that everything else of the inbox stays as it is.
-/

namespace CaseResolution

open Guard

/--
What names a message of a mailbox.
-/
def ExternalMessage.key (row : ExternalMessage) : Nat × String :=
  (row.connectionId, row.providerMessageId)

/--
Later writes bring a conversation up to date and never link it elsewhere.
-/
def ExternalConversation.SameLink (a b : ExternalConversation) : Prop :=
  a.connectionId = b.connectionId ∧ a.providerThreadId = b.providerThreadId ∧ a.caseId = b.caseId

theorem ExternalConversation.SameLink.refl (a : ExternalConversation) : a.SameLink a :=
  ⟨rfl, rfl, rfl⟩

theorem ExternalConversation.SameLink.trans {a b c : ExternalConversation} (hab : a.SameLink b)
    (hbc : b.SameLink c) : a.SameLink c :=
  ⟨hab.1.trans hbc.1, hab.2.1.trans hbc.2.1, hab.2.2.trans hbc.2.2⟩

theorem mem_inOrder {messages : List ProviderMessage} {message : ProviderMessage}
    : message ∈ inOrder messages ↔ message ∈ messages := by
  unfold inOrder
  rw [List.mem_insertionSort]

namespace InboxStore

variable {s s' : InboxStore} {c conversationId caseId : Nat} {message : ProviderMessage}

theorem hasMessage_iff {messageId : String} : s.hasMessage c messageId = true
    ↔ (c, messageId) ∈ s.messages.map ExternalMessage.key := by
  unfold hasMessage ExternalMessage.key
  rw [List.any_eq_true, List.mem_map]
  simp only [decide_eq_true_iff, Prod.mk.injEq]

theorem findConversation_eq_some {threadId : String} {conversation : ExternalConversation}
    (h : s.findConversation c threadId = some (conversationId, conversation))
    : s.conversations[conversationId]? = some conversation ∧ conversation.connectionId = c
      ∧ conversation.providerThreadId = threadId := by
  have hmem := List.mem_of_find?_eq_some h
  have hfound := List.find?_some h
  rw [Rows.mem_numbered] at hmem
  exact ⟨hmem, of_decide_eq_true hfound⟩

theorem findConversation_eq_none {threadId : String}
    (h : s.findConversation c threadId = none)
    : ∀ conversation ∈ s.conversations, conversation.connectionId = c →
        conversation.providerThreadId ≠ threadId := by
  intro conversation hmem hconnection hthread
  obtain ⟨i, hi⟩ := List.mem_iff_getElem?.mp hmem
  unfold findConversation at h
  rw [List.find?_eq_none] at h
  exact h (i, conversation) (Rows.mem_numbered.mpr hi) (by simp [hconnection, hthread])

theorem appendToCase_eq_ok : s.appendToCase caseId = .ok s'
    ↔ ∃ store, s.toStore.appendMessage caseId = .ok store ∧ { s with toStore := store } = s' := by
  unfold appendToCase
  rw [bind_eq_ok]
  simp only [pure_eq_ok]

theorem recordMessage_eq_ok : s.recordMessage c conversationId message = .ok s'
    ↔ (c, message.providerMessageId) ∉ s.messages.map ExternalMessage.key
      ∧ { s with messages := s.messages ++ [newMessage c conversationId message] } = s' := by
  unfold recordMessage
  rw [ensure_bind_eq_ok, pure_eq_ok, hasMessage_iff]

/--
What persisting one message may do.
-/
inductive MessageEffect (s : InboxStore) (c : Nat) (message : ProviderMessage)
    : InboxStore → MessageFinding → Prop where
  | unlinked (unlinked : s.findConversation c message.providerThreadId = none)
      : MessageEffect s c message s .unlinked
  | duplicate {conversationId : Nat} {conversation : ExternalConversation}
      (linked : s.findConversation c message.providerThreadId = some (conversationId, conversation))
      (stored : (c, message.providerMessageId) ∈ s.messages.map ExternalMessage.key)
      : MessageEffect s c message s .duplicate
  | imported {conversationId : Nat} {conversation : ExternalConversation} {store : Store}
      (linked : s.findConversation c message.providerThreadId = some (conversationId, conversation))
      (fresh : (c, message.providerMessageId) ∉ s.messages.map ExternalMessage.key)
      (appended : s.toStore.appendMessage conversation.caseId = .ok store)
      : MessageEffect s c message
        { s with
          toStore := store, messages := s.messages ++ [newMessage c conversationId message] }
        .imported

theorem persistMessage_effect {finding : MessageFinding}
    (h : s.persistMessage c message = .ok (s', finding)) : MessageEffect s c message s' finding := by
  unfold persistMessage at h
  split at h
  . next hnone =>
    rw [pure_eq_ok, Prod.mk.injEq] at h
    rw [← h.1, ← h.2]
    exact .unlinked hnone
  . next conversationId conversation hsome =>
    split at h
    . next hstored =>
      rw [pure_eq_ok, Prod.mk.injEq] at h
      rw [← h.1, ← h.2]
      exact .duplicate hsome (hasMessage_iff.mp hstored)
    . next hfresh =>
      rw [bind_eq_ok] at h
      obtain ⟨t, ht, h⟩ := h
      rw [bind_eq_ok] at h
      obtain ⟨u, hu, h⟩ := h
      rw [pure_eq_ok, Prod.mk.injEq] at h
      obtain ⟨store, hstore, heq⟩ := appendToCase_eq_ok.mp ht
      obtain ⟨_, hrecorded⟩ := recordMessage_eq_ok.mp hu
      rw [hasMessage_iff] at hfresh
      rw [← h.1, ← h.2, ← hrecorded, ← heq]
      exact .imported hsome hfresh hstore

/--
What a batch of messages leaves of the inbox, with the rows it added.
-/
structure Persisted (s : InboxStore) (c : Nat) (messages : List ProviderMessage)
    (findings : List (ProviderMessage × MessageFinding)) (s' : InboxStore)
    (added : List ExternalMessage) : Prop where
  framed : ∃ store, s' = { s with toStore := store, messages := s.messages ++ added }
  found : findings.map Prod.fst = messages
  added_from : ∀ row ∈ added, ∃ message conversationId conversation,
    (message, .imported) ∈ findings
      ∧ s.findConversation c message.providerThreadId = some (conversationId, conversation)
      ∧ row = newMessage c conversationId message
  added_keys : added.map ExternalMessage.key
    = (findings.filter fun finding => finding.2 = .imported).map fun finding =>
      (c, finding.1.providerMessageId)
  unlinked : ∀ message, (message, .unlinked) ∈ findings →
    s.findConversation c message.providerThreadId = none
  stored : ∀ message finding, (message, finding) ∈ findings → finding ≠ .unlinked →
    (c, message.providerMessageId) ∈ s'.messages.map ExternalMessage.key
  fresh : ∀ message, (message, .imported) ∈ findings →
    (c, message.providerMessageId) ∉ s.messages.map ExternalMessage.key
      ∧ ∃ row ∈ added, row.key = (c, message.providerMessageId)
  unique : (s.messages.map ExternalMessage.key).Nodup → (s'.messages.map ExternalMessage.key).Nodup

theorem newMessage_key : (newMessage c conversationId message).key = (c, message.providerMessageId) :=
  rfl

theorem persistMessages_persisted {messages : List ProviderMessage}
    {findings : List (ProviderMessage × MessageFinding)}
    (h : persistMessages c s messages = .ok (s', findings))
    : ∃ added, Persisted s c messages findings s' added := by
  induction messages generalizing s s' findings with
  | nil =>
    rw [persistMessages, pure_eq_ok, Prod.mk.injEq] at h
    obtain ⟨hs, hfindings⟩ := h
    subst hs hfindings
    exact ⟨[], ⟨s.toStore, by simp⟩, rfl, by simp, rfl, by simp, by simp, by simp, id⟩
  | cons message messages ih =>
    rw [persistMessages, bind_eq_ok] at h
    obtain ⟨⟨t, finding⟩, ht, h⟩ := h
    rw [bind_eq_ok] at h
    obtain ⟨⟨u, rest⟩, hu, h⟩ := h
    rw [pure_eq_ok, Prod.mk.injEq] at h
    obtain ⟨hs, hfindings⟩ := h
    subst hs hfindings
    obtain ⟨added, hrest⟩ := ih hu
    obtain ⟨store, hframed⟩ := hrest.framed
    cases persistMessage_effect ht with
    | unlinked hunlinked =>
      refine ⟨added, ⟨store, hframed⟩, by rw [List.map_cons, hrest.found], ?_,
        by simp [hrest.added_keys], ?_, ?_, ?_, hrest.unique⟩
      . intro row hrow
        obtain ⟨m, i, conversation, hm, hfind, heq⟩ := hrest.added_from row hrow
        exact ⟨m, i, conversation, List.mem_cons_of_mem _ hm, hfind, heq⟩
      . intro m hm
        cases List.mem_cons.mp hm with
        | inl heq => exact (Prod.mk.inj heq).1 ▸ hunlinked
        | inr hmem => exact hrest.unlinked m hmem
      . intro m f hm hne
        cases List.mem_cons.mp hm with
        | inl heq => exact absurd (Prod.mk.inj heq).2 hne
        | inr hmem => exact hrest.stored m f hmem hne
      . intro m hm
        cases List.mem_cons.mp hm with
        | inl heq => cases (Prod.mk.inj heq).2
        | inr hmem => exact hrest.fresh m hmem
    | duplicate hlinked hstored =>
      refine ⟨added, ⟨store, hframed⟩, by rw [List.map_cons, hrest.found], ?_,
        by simp [hrest.added_keys], ?_, ?_, ?_, hrest.unique⟩
      . intro row hrow
        obtain ⟨m, i, conversation, hm, hfind, heq⟩ := hrest.added_from row hrow
        exact ⟨m, i, conversation, List.mem_cons_of_mem _ hm, hfind, heq⟩
      . intro m hm
        cases List.mem_cons.mp hm with
        | inl heq => cases (Prod.mk.inj heq).2
        | inr hmem => exact hrest.unlinked m hmem
      . intro m f hm hne
        cases List.mem_cons.mp hm with
        | inl heq =>
          rw [(Prod.mk.inj heq).1, hframed, List.map_append]
          exact List.mem_append_left _ hstored
        | inr hmem => exact hrest.stored m f hmem hne
      . intro m hm
        cases List.mem_cons.mp hm with
        | inl heq => cases (Prod.mk.inj heq).2
        | inr hmem => exact hrest.fresh m hmem
    | @imported conversationId conversation first hlinked hfresh happended =>
      refine ⟨newMessage c conversationId message :: added,
        ⟨store, by rw [hframed]; simp⟩, by rw [List.map_cons, hrest.found], ?_,
        by simp [hrest.added_keys, newMessage_key], ?_, ?_, ?_, ?_⟩
      . intro row hrow
        cases List.mem_cons.mp hrow with
        | inl heq =>
          exact ⟨message, conversationId, conversation, List.mem_cons_self, hlinked, heq⟩
        | inr hmem =>
          obtain ⟨m, i, other, hm, hfind, heq⟩ := hrest.added_from row hmem
          exact ⟨m, i, other, List.mem_cons_of_mem _ hm, hfind, heq⟩
      . intro m hm
        cases List.mem_cons.mp hm with
        | inl heq => cases (Prod.mk.inj heq).2
        | inr hmem => exact hrest.unlinked m hmem
      . intro m f hm hne
        cases List.mem_cons.mp hm with
        | inl heq =>
          rw [(Prod.mk.inj heq).1, hframed]
          simp [newMessage_key]
        | inr hmem => exact hrest.stored m f hmem hne
      . intro m hm
        cases List.mem_cons.mp hm with
        | inl heq =>
          rw [(Prod.mk.inj heq).1]
          exact ⟨hfresh, _, List.mem_cons_self, newMessage_key⟩
        | inr hmem =>
          obtain ⟨hnot, row, hrow, hkey⟩ := hrest.fresh m hmem
          refine ⟨?_, row, List.mem_cons_of_mem _ hrow, hkey⟩
          intro hmemkey
          apply hnot
          rw [List.map_append]
          exact List.mem_append_left _ hmemkey
      . intro hnodup
        apply hrest.unique
        rw [List.map_append, List.map_singleton, newMessage_key, List.nodup_append]
        refine ⟨hnodup, List.nodup_singleton _, ?_⟩
        intro a ha b hb
        rw [List.mem_singleton] at hb
        intro heq
        exact hfresh (hb ▸ heq ▸ ha)

end InboxStore

end CaseResolution
