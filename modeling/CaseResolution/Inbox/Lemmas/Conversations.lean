import CaseResolution.Inbox.Lemmas.Messages

/-!
This module contains what the sync transaction and the import transaction make of the conversations: the
second may link one thread, and everything else only brings conversations up to date.
-/

namespace CaseResolution

open Guard

namespace InboxStore

/--
The conversations are brought up to date, and none is linked elsewhere.
-/
def Refreshed (conversations conversations' : List ExternalConversation) : Prop :=
  Rows.Updates ExternalConversation.SameLink conversations conversations'

theorem Refreshed.refl (l : List ExternalConversation) : Refreshed l l :=
  Rows.Updates.refl ExternalConversation.SameLink.refl l

theorem Refreshed.trans {l₁ l₂ l₃ : List ExternalConversation} (h₁₂ : Refreshed l₁ l₂)
    (h₂₃ : Refreshed l₂ l₃) : Refreshed l₁ l₃ :=
  Rows.Updates.trans (fun hab hbc => hab.trans hbc) h₁₂ h₂₃

section Finalize

variable [Digest] {s s' : InboxStore} {c : Nat}

theorem finalizeConversation_eq_ok {conversationId : Nat} {message : ProviderMessage}
    (h : s.finalizeConversation conversationId message = .ok s')
    : ∃ conversations, Refreshed s.conversations conversations
        ∧ s' = { s with conversations := conversations } := by
  unfold finalizeConversation at h
  rw [orThrow_bind_eq_ok] at h
  obtain ⟨conversation, hconversation, h⟩ := h
  rw [pure_eq_ok] at h
  refine ⟨_, ?_, h.symm⟩
  apply Rows.Updates.set ExternalConversation.SameLink.refl hconversation
  exact ⟨rfl, rfl, rfl⟩

theorem finalizeConversations_eq_ok {findings : List (ProviderMessage × MessageFinding)}
    (h : s.finalizeConversations c findings = .ok s')
    : ∃ conversations, Refreshed s.conversations conversations
        ∧ s' = { s with conversations := conversations } := by
  unfold finalizeConversations at h
  dsimp only at h
  generalize Rows.firstBy (fun message : ProviderMessage => message.providerThreadId) _ = latest at h
  induction latest generalizing s with
  | nil =>
    rw [List.foldlM_nil, pure_eq_ok] at h
    exact ⟨s.conversations, Refreshed.refl _, h.symm⟩
  | cons message latest ih =>
    rw [List.foldlM_cons, bind_eq_ok] at h
    obtain ⟨t, ht, hrest⟩ := h
    rw [orThrow_bind_eq_ok] at ht
    obtain ⟨_, _, ht⟩ := ht
    obtain ⟨middle, hmiddle, heq⟩ := finalizeConversation_eq_ok ht
    obtain ⟨final, hfinal, heq'⟩ := ih hrest
    subst heq heq'
    exact ⟨final, hmiddle.trans hfinal, rfl⟩

end Finalize

section Import

variable {s s' : InboxStore} {c conversationId caseId : Nat}

/--
Every message of the thread is stored after the import, new rows in its conversation.
-/
theorem importMessages_imported {messages : List ProviderMessage} {inCase : Bool} {imported : Nat}
    (h : importMessages c conversationId caseId s inCase messages = .ok (s', imported))
    : ∃ store added, s' = { s with toStore := store, messages := s.messages ++ added }
        ∧ (∀ row ∈ added, ∃ message ∈ messages, row = newMessage c conversationId message)
        ∧ (∀ message ∈ messages,
          (c, message.providerMessageId) ∈ s'.messages.map ExternalMessage.key)
        ∧ ((s.messages.map ExternalMessage.key).Nodup →
          (s'.messages.map ExternalMessage.key).Nodup) := by
  induction messages generalizing s s' inCase imported with
  | nil =>
    rw [importMessages, pure_eq_ok, Prod.mk.injEq] at h
    obtain ⟨hs, _⟩ := h
    subst hs
    exact ⟨s.toStore, [], by simp, by simp, by simp, id⟩
  | cons message messages ih =>
    unfold importMessages at h
    split at h
    . next hstored =>
      obtain ⟨store, added, hframed, hadded, hall, hunique⟩ := ih h
      refine ⟨store, added, hframed, ?_, ?_, hunique⟩
      . intro row hrow
        obtain ⟨m, hm, heq⟩ := hadded row hrow
        exact ⟨m, List.mem_cons_of_mem _ hm, heq⟩
      . intro m hm
        cases List.mem_cons.mp hm with
        | inl heq =>
          rw [heq, hframed, List.map_append]
          exact List.mem_append_left _ (hasMessage_iff.mp hstored)
        | inr hmem => exact hall m hmem
    . next hfresh =>
      rw [hasMessage_iff] at hfresh
      have happended : ∃ store recorded, recordMessage { s with toStore := store } c conversationId
            message = .ok recorded
          ∧ ∃ count, importMessages c conversationId caseId recorded false messages
            = .ok (s', count) := by
        rw [bind_eq_ok] at h
        obtain ⟨t, ht, h⟩ := h
        rw [bind_eq_ok] at h
        obtain ⟨u, hu, h⟩ := h
        rw [bind_eq_ok] at h
        obtain ⟨⟨v, count⟩, hv, h⟩ := h
        rw [pure_eq_ok, Prod.mk.injEq] at h
        obtain ⟨hs, _⟩ := h
        subst hs
        unfold placeInCase at ht
        split at ht
        . rw [pure_eq_ok] at ht
          subst ht
          exact ⟨s.toStore, u, hu, count, hv⟩
        . obtain ⟨store, _, heq⟩ := appendToCase_eq_ok.mp ht
          subst heq
          exact ⟨store, u, hu, count, hv⟩
      obtain ⟨first, recorded, hrecorded, count, hrest⟩ := happended
      obtain ⟨_, heq⟩ := recordMessage_eq_ok.mp hrecorded
      obtain ⟨store, added, hframed, hadded, hall, hunique⟩ := ih hrest
      subst heq
      refine ⟨store, newMessage c conversationId message :: added, by rw [hframed]; simp, ?_, ?_, ?_⟩
      . intro row hrow
        cases List.mem_cons.mp hrow with
        | inl heq => exact ⟨message, List.mem_cons_self, heq⟩
        | inr hmem =>
          obtain ⟨m, hm, heq⟩ := hadded row hmem
          exact ⟨m, List.mem_cons_of_mem _ hm, heq⟩
      . intro m hm
        cases List.mem_cons.mp hm with
        | inl heq =>
          rw [heq, hframed]
          simp [newMessage_key]
        | inr hmem => exact hall m hmem
      . intro hnodup
        apply hunique
        rw [List.map_append, List.map_singleton, newMessage_key, List.nodup_append]
        refine ⟨hnodup, List.nodup_singleton _, ?_⟩
        intro a ha b hb
        rw [List.mem_singleton] at hb
        intro heq
        exact hfresh (hb ▸ heq ▸ ha)

variable [Digest]

/--
What the import of a thread leaves of the inbox: the thread is linked, and all of its messages that were
read are stored.
-/
structure Imported (s : InboxStore) (c : Nat) (thread : ProviderThread) (s' : InboxStore)
    (conversationId : Nat) (opened : List ExternalConversation) (added : List ExternalMessage)
    : Prop where
  framed : ∃ store conversations, s' =
    { s with toStore := store, conversations := conversations, messages := s.messages ++ added }
  refreshed : Refreshed (s.conversations ++ opened) s'.conversations
  linked : ∃ conversation, (s.conversations ++ opened)[conversationId]? = some conversation
    ∧ conversation.connectionId = c
  existing : opened = [] → ∃ conversation,
    s.findConversation c thread.providerThreadId = some (conversationId, conversation)
  opened_from : ∀ conversation ∈ opened,
    s.findConversation c thread.providerThreadId = none ∧ opened = [conversation]
      ∧ conversationId = s.conversations.length
      ∧ ∃ message ∈ thread.messages, conversation.providerThreadId = message.providerThreadId
  added_from : ∀ row ∈ added, ∃ message ∈ thread.messages,
    row = newMessage c conversationId message
  stored : ∀ message ∈ thread.messages,
    (c, message.providerMessageId) ∈ s'.messages.map ExternalMessage.key
  unique : (s.messages.map ExternalMessage.key).Nodup → (s'.messages.map ExternalMessage.key).Nodup

theorem linkThread_eq_ok {category : CaseCategory} {thread : ProviderThread}
    {first : ProviderMessage} {isNew : Bool}
    (h : s.linkThread c category thread first = .ok (s', conversationId, caseId, isNew))
    : (s' = s ∧ ∃ conversation,
        s.findConversation c thread.providerThreadId = some (conversationId, conversation))
      ∨ (s.findConversation c thread.providerThreadId = none
        ∧ conversationId = s.conversations.length
        ∧ ∃ store conversation, conversation.connectionId = c
          ∧ conversation.providerThreadId = first.providerThreadId
          ∧ s' = { s with
            toStore := store, conversations := s.conversations ++ [conversation] }) := by
  unfold linkThread at h
  split at h
  . next i conversation hfind =>
    rw [pure_eq_ok, Prod.mk.injEq, Prod.mk.injEq] at h
    rw [← h.1, ← h.2.1]
    exact .inl ⟨rfl, conversation, hfind⟩
  . next hnone =>
    rw [orThrow_bind_eq_ok] at h
    obtain ⟨connection, _, h⟩ := h
    rw [bind_eq_ok] at h
    obtain ⟨⟨t, newCaseId⟩, ht, h⟩ := h
    unfold createCase at ht
    rw [ensure_bind_eq_ok, pure_eq_ok, Prod.mk.injEq] at ht
    rw [pure_eq_ok, Prod.mk.injEq, Prod.mk.injEq] at h
    refine .inr ⟨hnone, h.2.1.symm, ?_⟩
    rw [← h.1, ← ht.2.1]
    exact ⟨_, _, rfl, rfl, rfl⟩

theorem importThread_imported {category : CaseCategory} {thread : ProviderThread}
    (h : s.importThread c category thread = .ok (s', conversationId))
    : ∃ opened added, Imported s c thread s' conversationId opened added := by
  unfold importThread at h
  split at h
  . cases h
  . next first rest hmessages =>
    have hmem : ∀ message, message ∈ first :: rest ↔ message ∈ thread.messages := by
      intro message
      rw [← hmessages, mem_inOrder]
    rw [bind_eq_ok] at h
    obtain ⟨⟨linked, i, caseId, isNew⟩, hlink, h⟩ := h
    rw [bind_eq_ok] at h
    obtain ⟨⟨persisted, imported⟩, himport, h⟩ := h
    obtain ⟨store, added, hframed, hadded, hall, hunique⟩ := importMessages_imported himport
    -- finalizing brings the conversations up to date, if anything was imported at all
    have hfinal : i = conversationId ∧ ∃ conversations,
        Refreshed persisted.conversations conversations
          ∧ s' = { persisted with conversations := conversations } := by
      dsimp only at h
      split at h
      . rw [pure_eq_ok, Prod.mk.injEq] at h
        exact ⟨h.2, persisted.conversations, Refreshed.refl _, h.1.symm⟩
      . rw [bind_eq_ok] at h
        obtain ⟨t, ht, h⟩ := h
        rw [pure_eq_ok, Prod.mk.injEq] at h
        rw [← h.1]
        exact ⟨h.2, finalizeConversation_eq_ok ht⟩
    obtain ⟨hi, conversations, hrefreshed, hs'⟩ := hfinal
    subst hi hs'
    have hstored : ∀ message ∈ thread.messages,
        (c, message.providerMessageId) ∈ persisted.messages.map ExternalMessage.key :=
      fun message hmessage => hall message ((hmem message).mpr hmessage)
    have hrows : ∀ row ∈ added, ∃ message ∈ thread.messages, row = newMessage c i message := by
      intro row hrow
      obtain ⟨message, hmessage, heq⟩ := hadded row hrow
      exact ⟨message, (hmem message).mp hmessage, heq⟩
    obtain ⟨hsame, conversation, hfind⟩ | ⟨hnone, hid, opened, conversation, hc, hthread, hopened⟩ :=
      linkThread_eq_ok hlink
    . subst hsame hframed
      obtain ⟨hi, hconnection, _⟩ := findConversation_eq_some hfind
      refine ⟨[], added, ⟨store, conversations, rfl⟩, ?_, ?_, fun _ => ⟨conversation, hfind⟩,
        by simp, hrows, hstored, hunique⟩
      . rwa [List.append_nil]
      . rw [List.append_nil]
        exact ⟨conversation, hi, hconnection⟩
    . subst hopened hframed
      refine ⟨[conversation], added, ⟨store, conversations, rfl⟩, hrefreshed, ?_, by simp, ?_,
        hrows, hstored, hunique⟩
      . rw [hid]
        exact ⟨conversation, by simp, hc⟩
      . intro other hother
        rw [List.mem_singleton] at hother
        subst hother
        exact ⟨hnone, rfl, hid, first, (hmem first).mp List.mem_cons_self, hthread⟩

end Import

end InboxStore

end CaseResolution
