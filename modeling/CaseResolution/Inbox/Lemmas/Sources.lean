import CaseResolution.Inbox.Impl.Sources
import CaseResolution.Inbox.Lemmas.Conversations

/-!
This module contains what a batch of messages writes that reaches a linked thread, and that the column of
the case is written beside the transactions of the inbox, which stay what they are.
-/

namespace CaseResolution

open Guard

namespace SourcedInbox

variable {s : SourcedInbox} {c conversationId caseId : Nat} {message : ProviderMessage}

/--
The inbox after a result that carries something else.
-/
def forget {α : Type} (result : Except Error (SourcedInbox × α)) : Except Error (InboxStore × α) :=
  result.map fun answer => (answer.1.inbox, answer.2)

theorem forget_bind {α β : Type} {result : Except Error (SourcedInbox × α)}
    {f : SourcedInbox × α → Except Error (SourcedInbox × β)}
    {g : InboxStore × α → Except Error (InboxStore × β)}
    (h : ∀ answer, forget (f answer) = g (answer.1.inbox, answer.2))
    : forget (result >>= f) = forget result >>= g := by
  cases result with
  | error e => rfl
  | ok answer => exact h answer

theorem persistMessage_inbox : forget (s.persistMessage c message) = s.inbox.persistMessage c message := by
  unfold persistMessage InboxStore.persistMessage
  cases s.inbox.findConversation c message.providerThreadId with
  | none => rfl
  | some row =>
    dsimp only
    split
    . rfl
    . unfold appendMessage
      cases s.inbox.appendToCase row.2.caseId with
      | error e => rfl
      | ok inbox =>
        unfold recordMessage
        change forget ((inbox.recordMessage c row.1 message >>= _) >>= _)
          = (inbox.recordMessage c row.1 message >>= _)
        cases inbox.recordMessage c row.1 message <;> rfl

theorem persistMessages_inbox {messages : List ProviderMessage}
    : forget (persistMessages c s messages) = InboxStore.persistMessages c s.inbox messages := by
  induction messages generalizing s with
  | nil => rfl
  | cons message messages ih =>
    unfold persistMessages InboxStore.persistMessages
    rw [← persistMessage_inbox]
    apply forget_bind
    rintro ⟨t, finding⟩
    dsimp only
    rw [← ih]
    apply forget_bind
    intro rest
    rfl

theorem importMessages_inbox {inCase : Bool} {messages : List ProviderMessage}
    : forget (importMessages c conversationId caseId s inCase messages)
      = InboxStore.importMessages c conversationId caseId s.inbox inCase messages := by
  induction messages generalizing s inCase with
  | nil => rfl
  | cons message messages ih =>
    unfold importMessages InboxStore.importMessages
    split
    . exact ih
    . have hplaced : (s.placeInCase caseId message inCase).map SourcedInbox.inbox
          = s.inbox.placeInCase caseId inCase := by
        unfold placeInCase InboxStore.placeInCase
        split
        . rfl
        . unfold appendMessage
          cases s.inbox.appendToCase caseId <;> rfl
      rw [← hplaced]
      cases s.placeInCase caseId message inCase with
      | error e => rfl
      | ok placed =>
        unfold recordMessage
        change forget ((placed.inbox.recordMessage c conversationId message >>= _) >>= _)
          = (placed.inbox.recordMessage c conversationId message >>= _)
        cases placed.inbox.recordMessage c conversationId message with
        | error e => rfl
        | ok recorded =>
          change forget (importMessages c conversationId caseId { placed with inbox := recorded } false
            messages >>= _) = (InboxStore.importMessages c conversationId caseId recorded false messages
              >>= _)
          have hrest : forget (importMessages c conversationId caseId { placed with inbox := recorded } false
              messages)
            = InboxStore.importMessages c conversationId caseId recorded false messages := ih
          rw [← hrest]
          apply forget_bind
          intro rest
          rfl

variable [Digest]

theorem syncMessages_inbox {messages : List ProviderMessage}
    : (s.syncMessages c messages).map SourcedInbox.inbox
      = InboxStore.persistMessages c s.inbox (inOrder messages) >>= fun answer =>
        answer.1.finalizeConversations c answer.2 := by
  unfold syncMessages
  rw [← persistMessages_inbox]
  cases persistMessages c s (inOrder messages) with
  | error e => rfl
  | ok answer =>
    change ((answer.1.inbox.finalizeConversations c answer.2) >>= _).map _
      = answer.1.inbox.finalizeConversations c answer.2
    cases answer.1.inbox.finalizeConversations c answer.2 <;> rfl

/--
The end of an import, once the thread is linked.
-/
theorem importLinked_inbox {inCase : Bool} {messages : List ProviderMessage} {latest : ProviderMessage}
    : ((importMessages c conversationId caseId s inCase messages >>= fun answer =>
        if answer.2 = 0 then
          pure answer.1
        else
          answer.1.inbox.finalizeConversation conversationId latest >>= fun inbox =>
            pure { answer.1 with inbox := inbox }).map SourcedInbox.inbox)
      = (InboxStore.importMessages c conversationId caseId s.inbox inCase messages >>= fun answer =>
        if answer.2 = 0 then
          pure (answer.1, conversationId)
        else
          answer.1.finalizeConversation conversationId latest >>= fun finalized =>
            pure (finalized, conversationId)).map Prod.fst := by
  rw [← importMessages_inbox]
  cases importMessages c conversationId caseId s inCase messages with
  | error e => rfl
  | ok answer =>
    change (if answer.2 = 0 then _ else _ : Except Error SourcedInbox).map _
      = (if answer.2 = 0 then _ else _ : Except Error (InboxStore × Nat)).map _
    split
    . rfl
    . cases answer.1.inbox.finalizeConversation conversationId latest <;> rfl

theorem importThread_inbox {category : CaseCategory} {thread : ProviderThread}
    : (s.importThread c category thread).map SourcedInbox.inbox
      = (s.inbox.importThread c category thread).map Prod.fst := by
  unfold importThread InboxStore.importThread
  cases inOrder thread.messages with
  | nil => rfl
  | cons first rest =>
    dsimp only
    unfold linkThread
    cases s.inbox.linkThread c category thread first with
    | error e => rfl
    | ok answer =>
      obtain ⟨linked, conversationId, caseId, isNew⟩ := answer
      cases isNew
      . exact importLinked_inbox (s := { s with inbox := linked })
      . exact importLinked_inbox
          (s := ({ s with inbox := linked } : SourcedInbox).checked caseId (rest.getLastD first).receivedAt)

end SourcedInbox

/--
The messages of a thread, each named by its id, none of which is among the stored ones.
-/
structure ThreadMessages (c : Nat) (threadId : String) (old : List ExternalMessage)
    (messages : List ProviderMessage) : Prop where
  thread : ∀ message ∈ messages, message.providerThreadId = threadId
  ids : ∀ message ∈ messages, ∀ other ∈ messages,
    message.providerMessageId = other.providerMessageId → message = other
  new : ∀ message ∈ messages, (c, message.providerMessageId) ∉ old.map ExternalMessage.key

/--
The messages of a batch that are not stored yet.
-/
def fresh (seen messages : List ProviderMessage) : List ProviderMessage :=
  messages.filter fun message => message ∉ seen

theorem fresh_cons_of_mem {seen messages : List ProviderMessage} {message : ProviderMessage}
    (h : message ∈ seen) : fresh seen (message :: messages) = fresh seen messages := by
  simp [fresh, h]

theorem fresh_cons_of_not_mem {seen messages : List ProviderMessage} {message : ProviderMessage}
    (h : message ∉ seen) (hnodup : (message :: messages).Nodup)
    : fresh seen (message :: messages) = message :: fresh (seen ++ [message]) messages := by
  unfold fresh
  rw [List.filter_cons_of_pos (by simpa using h), List.cons.injEq]
  refine ⟨rfl, ?_⟩
  apply List.filter_congr
  intro other hother
  have hne : other ≠ message := by
    intro heq
    exact (List.nodup_cons.mp hnodup).1 (heq ▸ hother)
  simp [hne]

namespace SourcedInbox

/--
The thread is linked to a case, and the messages that were brought in are stored behind the old ones.
-/
structure Linked (s : SourcedInbox) (c conversationId caseId : Nat) (threadId : String)
    (old : List ExternalMessage) (seen : List ProviderMessage) : Prop where
  stored : ∃ conversation, s.inbox.conversations[conversationId]? = some conversation
    ∧ conversation.connectionId = c ∧ conversation.providerThreadId = threadId
    ∧ conversation.caseId = caseId
  only : ∀ (i : Nat) (other : ExternalConversation), s.inbox.conversations[i]? = some other →
    other.connectionId = c → other.providerThreadId = threadId → i = conversationId
  case : caseId < s.inbox.cases.length
  rows : s.inbox.messages = old ++ seen.map (InboxStore.newMessage c conversationId)

section Linked

variable {s : SourcedInbox} {c conversationId caseId : Nat} {threadId : String}
  {old : List ExternalMessage} {messages seen : List ProviderMessage} {message : ProviderMessage}

theorem Linked.find (h : s.Linked c conversationId caseId threadId old seen)
    : ∃ conversation, s.inbox.findConversation c threadId = some (conversationId, conversation)
      ∧ conversation.caseId = caseId := by
  obtain ⟨conversation, hstored, hconnection, hthread, hcase⟩ := h.stored
  cases hfind : s.inbox.findConversation c threadId with
  | none =>
    exact absurd hthread (InboxStore.findConversation_eq_none hfind conversation
      (List.mem_of_getElem? hstored) hconnection)
  | some row =>
    obtain ⟨i, other⟩ := row
    obtain ⟨hother, hc, ht⟩ := InboxStore.findConversation_eq_some hfind
    have hi := h.only i other hother hc ht
    subst hi
    rw [hstored, Option.some.injEq] at hother
    exact ⟨other, rfl, hother ▸ hcase⟩

theorem Linked.hasMessage_iff (h : s.Linked c conversationId caseId threadId old seen)
    (hmessages : ThreadMessages c threadId old messages) (hseen : seen ⊆ messages)
    (hmem : message ∈ messages)
    : s.inbox.hasMessage c message.providerMessageId = true ↔ message ∈ seen := by
  rw [InboxStore.hasMessage_iff, h.rows, List.map_append, List.mem_append, List.map_map]
  constructor
  . rintro (hold | hnew)
    . exact absurd hold (hmessages.new message hmem)
    . obtain ⟨other, hother, hkey⟩ := List.mem_map.mp hnew
      have hid : other.providerMessageId = message.providerMessageId := (Prod.mk.inj hkey).2
      exact hmessages.ids other (hseen hother) message hmem hid ▸ hother
  . intro hin
    exact .inr (List.mem_map.mpr ⟨message, hin, rfl⟩)

/--
A message that was not seen is recorded.
-/
theorem Linked.record (h : s.Linked c conversationId caseId threadId old seen)
    (hmessages : ThreadMessages c threadId old messages) (hseen : seen ⊆ messages)
    (hmem : message ∈ messages) (hnew : message ∉ seen)
    : ∃ t, s.recordMessage c conversationId message = .ok t
      ∧ t.Linked c conversationId caseId threadId old (seen ++ [message])
      ∧ t.inbox.conversations = s.inbox.conversations ∧ t.sourceCheckedAt = s.sourceCheckedAt := by
  have hfree : ¬ s.inbox.hasMessage c message.providerMessageId = true := by
    rwa [h.hasMessage_iff hmessages hseen hmem]
  refine ⟨{ s with inbox := { s.inbox with
    messages := s.inbox.messages ++ [InboxStore.newMessage c conversationId message] } },
    ?_, ⟨h.stored, h.only, h.case, ?_⟩, rfl, rfl⟩
  . simp only [recordMessage, InboxStore.recordMessage, bind_eq_ok, ensure_eq_ok, pure_eq_ok, hfree]
    simp
  . dsimp only
    rw [h.rows, List.map_append, List.append_assoc]
    rfl

theorem Linked.append (h : s.Linked c conversationId caseId threadId old seen)
    (message : ProviderMessage)
    : ∃ t, s.appendMessage caseId message = .ok t
      ∧ t.Linked c conversationId caseId threadId old seen
      ∧ t.inbox.conversations = s.inbox.conversations
      ∧ t.sourceCheckedAt caseId = some message.receivedAt := by
  obtain ⟨case, hcase⟩ : ∃ case, s.inbox.cases[caseId]? = some case :=
    ⟨_, List.getElem?_eq_getElem h.case⟩
  refine ⟨({ s with inbox := { s.inbox with
    toStore := s.inbox.toStore.setCase caseId { case with version := case.version + 1 } } }
      : SourcedInbox).checked caseId message.receivedAt, ?_, ⟨h.stored, h.only, ?_, h.rows⟩, rfl, ?_⟩
  . simp only [appendMessage, InboxStore.appendToCase, Store.appendMessage, bind_eq_ok, orThrow_eq_ok,
      pure_eq_ok, hcase, Option.some.injEq, exists_eq_left']
  . have hlength : (s.inbox.cases.set caseId { case with version := case.version + 1 }).length
        = s.inbox.cases.length := List.length_set
    exact hlength ▸ h.case
  . exact Function.update_self ..

/--
A message that was not seen is added to the case and recorded.
-/
theorem Linked.import (h : s.Linked c conversationId caseId threadId old seen)
    (hmessages : ThreadMessages c threadId old messages) (hseen : seen ⊆ messages)
    (hmem : message ∈ messages) (hnew : message ∉ seen)
    : ∃ t u, s.appendMessage caseId message = .ok t
      ∧ t.recordMessage c conversationId message = .ok u
      ∧ u.Linked c conversationId caseId threadId old (seen ++ [message])
      ∧ u.inbox.conversations = s.inbox.conversations
      ∧ u.sourceCheckedAt caseId = some message.receivedAt := by
  obtain ⟨t, ht, hlinked, hconversations, hchecked⟩ := h.append message
  obtain ⟨u, hu, hlinked', hconversations', hchecked'⟩ :=
    hlinked.record hmessages hseen hmem hnew
  exact ⟨t, u, ht, hu, hlinked', hconversations'.trans hconversations, by rw [hchecked', hchecked]⟩

/--
When the source of the case was checked after the fresh messages came in.
-/
def lastChecked (checkedAt : Option Instant) (fresh : List ProviderMessage) : Option Instant :=
  (fresh.getLast?.map ProviderMessage.receivedAt).or checkedAt

theorem lastChecked_cons {checkedAt : Option Instant} {fresh : List ProviderMessage}
    : lastChecked (some message.receivedAt) fresh = lastChecked checkedAt (message :: fresh) := by
  cases fresh with
  | nil => rfl
  | cons next fresh =>
    unfold lastChecked
    rw [List.getLast?_cons_cons, List.getLast?_eq_some_getLast (List.cons_ne_nil _ _)]
    rfl

/--
What was imported of a batch.
-/
def imported (findings : List (ProviderMessage × MessageFinding)) : List ProviderMessage :=
  (findings.filter fun finding => finding.2 = .imported).map Prod.fst

theorem persistMessages_linked {batch : List ProviderMessage}
    (h : s.Linked c conversationId caseId threadId old seen)
    (hmessages : ThreadMessages c threadId old messages) (hseen : seen ⊆ messages)
    (hbatch : batch ⊆ messages) (hnodup : batch.Nodup)
    : ∃ t findings, persistMessages c s batch = .ok (t, findings)
      ∧ t.Linked c conversationId caseId threadId old (seen ++ fresh seen batch)
      ∧ imported findings = fresh seen batch
      ∧ t.inbox.conversations = s.inbox.conversations
      ∧ t.sourceCheckedAt caseId = lastChecked (s.sourceCheckedAt caseId) (fresh seen batch) := by
  induction batch generalizing s seen with
  | nil => exact ⟨s, [], rfl, by simpa [fresh] using h, rfl, rfl, rfl⟩
  | cons message batch ih =>
    have hmem := hbatch List.mem_cons_self
    have hrest : batch ⊆ messages := fun _ hother => hbatch (List.mem_cons_of_mem _ hother)
    have hnodup' := (List.nodup_cons.mp hnodup).2
    obtain ⟨conversation, hfind, hcase⟩ := h.find
    have hstored := h.hasMessage_iff hmessages hseen hmem
    by_cases hold : message ∈ seen
    . obtain ⟨t, findings, ht, hlinked, himported, hconversations, hchecked⟩ :=
        ih h hseen hrest hnodup'
      rw [fresh_cons_of_mem hold]
      refine ⟨t, (message, .duplicate) :: findings, ?_, hlinked, himported, hconversations, hchecked⟩
      have hfirst : s.persistMessage c message = .ok (s, .duplicate) := by
        unfold persistMessage
        rw [hmessages.thread message hmem, hfind]
        exact if_pos (hstored.mpr hold)
      simp only [persistMessages, bind_eq_ok, hfirst, Except.ok.injEq, exists_eq_left', ht, pure_eq_ok]
    . obtain ⟨t, u, ht, hu, hlinked, hconversations, hchecked⟩ :=
        h.import hmessages hseen hmem hold
      have hseen' : seen ++ [message] ⊆ messages := by
        intro other hother
        cases List.mem_append.mp hother with
        | inl hin => exact hseen hin
        | inr hin => exact List.mem_singleton.mp hin ▸ hmem
      obtain ⟨v, findings, hv, hlinked', himported, hconversations', hchecked'⟩ :=
        ih hlinked hseen' hrest hnodup'
      rw [fresh_cons_of_not_mem hold hnodup]
      refine ⟨v, (message, .imported) :: findings, ?_, ?_, congrArg (message :: ·) himported,
        hconversations'.trans hconversations, ?_⟩
      . have hfirst : s.persistMessage c message = .ok (u, .imported) := by
          unfold persistMessage
          rw [hmessages.thread message hmem, hfind]
          dsimp only
          rw [if_neg (mt hstored.mp hold), hcase]
          simp only [bind_eq_ok, pure_eq_ok, ht, Except.ok.injEq, exists_eq_left', hu]
        simp only [persistMessages, bind_eq_ok, hfirst, Except.ok.injEq, exists_eq_left', hv, pure_eq_ok]
      . rwa [List.append_assoc] at hlinked'
      . rw [hchecked', hchecked, lastChecked_cons]

theorem importMessages_linked {batch : List ProviderMessage}
    (h : s.Linked c conversationId caseId threadId old seen)
    (hmessages : ThreadMessages c threadId old messages) (hseen : seen ⊆ messages)
    (hbatch : batch ⊆ messages) (hnodup : batch.Nodup)
    : ∃ t, importMessages c conversationId caseId s false batch = .ok (t, (fresh seen batch).length)
      ∧ t.Linked c conversationId caseId threadId old (seen ++ fresh seen batch)
      ∧ t.inbox.conversations = s.inbox.conversations
      ∧ t.sourceCheckedAt caseId = lastChecked (s.sourceCheckedAt caseId) (fresh seen batch) := by
  induction batch generalizing s seen with
  | nil => exact ⟨s, rfl, by simpa [fresh] using h, rfl, rfl⟩
  | cons message batch ih =>
    have hmem := hbatch List.mem_cons_self
    have hrest : batch ⊆ messages := fun _ hother => hbatch (List.mem_cons_of_mem _ hother)
    have hnodup' := (List.nodup_cons.mp hnodup).2
    have hstored := h.hasMessage_iff hmessages hseen hmem
    unfold importMessages
    by_cases hold : message ∈ seen
    . rw [if_pos (hstored.mpr hold), fresh_cons_of_mem hold]
      exact ih h hseen hrest hnodup'
    . obtain ⟨t, u, ht, hu, hlinked, hconversations, hchecked⟩ :=
        h.import hmessages hseen hmem hold
      have hseen' : seen ++ [message] ⊆ messages := by
        intro other hother
        cases List.mem_append.mp hother with
        | inl hin => exact hseen hin
        | inr hin => exact List.mem_singleton.mp hin ▸ hmem
      obtain ⟨v, hv, hlinked', hconversations', hchecked'⟩ := ih hlinked hseen' hrest hnodup'
      rw [if_neg (mt hstored.mp hold), fresh_cons_of_not_mem hold hnodup]
      refine ⟨v, ?_, ?_, hconversations'.trans hconversations, ?_⟩
      . simp only [placeInCase, bind_eq_ok, pure_eq_ok, ht, Except.ok.injEq, exists_eq_left', hu, hv,
          Bool.false_eq_true, if_false, List.length_cons]
      . rwa [List.append_assoc] at hlinked'
      . rw [hchecked', hchecked, lastChecked_cons]

variable [Digest]

/--
A conversation that is brought up to date with a message.
-/
structure UpToDate (s : SourcedInbox) (conversationId : Nat) (message : ProviderMessage)
    (latestMessageAt : Instant) : Prop where
  stored : ∃ conversation, s.inbox.conversations[conversationId]? = some conversation
    ∧ conversation.subject = message.subject
    ∧ conversation.latestProviderMessageId = message.providerMessageId
    ∧ conversation.latestMessageAt = latestMessageAt
    ∧ conversation.sourceFingerprint = s.inbox.conversationFingerprint conversationId

theorem Linked.finalize (h : s.Linked c conversationId caseId threadId old seen)
    (message : ProviderMessage)
    {conversation : ExternalConversation}
    (hstored : s.inbox.conversations[conversationId]? = some conversation)
    : ∃ inbox, s.inbox.finalizeConversation conversationId message = .ok inbox
      ∧ ({ s with inbox := inbox } : SourcedInbox).Linked c conversationId caseId threadId old seen
      ∧ ({ s with inbox := inbox } : SourcedInbox).UpToDate conversationId message
        (if conversation.latestMessageAt < message.receivedAt then message.receivedAt
          else conversation.latestMessageAt) := by
  have hlt := (List.getElem?_eq_some_iff.mp hstored).1
  obtain ⟨other, hother, hconnection, hthread, hcase⟩ := h.stored
  rw [hstored, Option.some.injEq] at hother
  subst hother
  have hfinal : ∃ finalized : ExternalConversation, s.inbox.finalizeConversation conversationId message
        = .ok { s.inbox with conversations := s.inbox.conversations.set conversationId finalized }
      ∧ finalized.SameLink conversation
      ∧ finalized.subject = message.subject
      ∧ finalized.latestProviderMessageId = message.providerMessageId
      ∧ finalized.latestMessageAt = (if conversation.latestMessageAt < message.receivedAt then
          message.receivedAt
        else
          conversation.latestMessageAt)
      ∧ finalized.sourceFingerprint = s.inbox.conversationFingerprint conversationId := by
    unfold InboxStore.finalizeConversation
    rw [hstored]
    exact ⟨_, rfl, ⟨rfl, rfl, rfl⟩, rfl, rfl, rfl, rfl⟩
  obtain ⟨finalized, hok, hlink, hsubject, hlatest, hat, hfingerprint⟩ := hfinal
  refine ⟨_, hok, ⟨⟨finalized, List.getElem?_set_self hlt, ?_, ?_, ?_⟩, ?_, h.case, h.rows⟩,
    ⟨finalized, List.getElem?_set_self hlt, hsubject, hlatest, hat, hfingerprint⟩⟩
  . exact hlink.1.trans hconnection
  . exact hlink.2.1.trans hthread
  . exact hlink.2.2.trans hcase
  . intro i row hrow
    cases Rows.getElem?_set_cases hrow with
    | inl hnew =>
      intro _ _
      exact hnew.1.symm
    | inr hold => exact h.only i row hold.2

end Linked

end SourcedInbox

end CaseResolution
