import CaseResolution.Inbox.Batches
import Mathlib.Data.List.Nodup

/-!
This module contains what a thread looks like after any number of batches, from the import that links it.
-/

namespace CaseResolution

open Guard

/--
The instant the latest message was received at.
-/
structure IsLatest (seen : List ProviderMessage) (latestMessageAt : Instant) : Prop where
  le : ∀ message ∈ seen, message.receivedAt ≤ latestMessageAt
  attained : ∃ message ∈ seen, message.receivedAt = latestMessageAt

namespace IsLatest

variable {seen seen' added : List ProviderMessage} {latestMessageAt latestMessageAt' : Instant}
  {read : ProviderMessage}

theorem unique (h : IsLatest seen latestMessageAt) (h' : IsLatest seen' latestMessageAt')
    (hsame : ∀ message, message ∈ seen ↔ message ∈ seen') : latestMessageAt = latestMessageAt' := by
  obtain ⟨message, hmem, heq⟩ := h.attained
  obtain ⟨message', hmem', heq'⟩ := h'.attained
  apply Int.le_antisymm
  . exact heq ▸ h'.le message ((hsame message).mp hmem)
  . exact heq' ▸ h.le message' ((hsame message').mpr hmem')

/--
The message of a batch that was received last decides, unless there was a later one before.
-/
theorem append (h : IsLatest seen latestMessageAt) (hread : read ∈ seen ++ added)
    (hlast : ∀ message ∈ added, message.receivedAt ≤ read.receivedAt)
    : IsLatest (seen ++ added) (if latestMessageAt < read.receivedAt then
        read.receivedAt
      else
        latestMessageAt) := by
  split
  . next hlt =>
    refine ⟨?_, read, hread, rfl⟩
    intro message hmem
    cases List.mem_append.mp hmem with
    | inl hin => exact Int.le_trans (h.le message hin) (Int.le_of_lt hlt)
    | inr hin => exact hlast message hin
  . next hle =>
    obtain ⟨latest, hlatest, heq⟩ := h.attained
    refine ⟨?_, latest, List.mem_append_left _ hlatest, heq⟩
    intro message hmem
    cases List.mem_append.mp hmem with
    | inl hin => exact h.le message hin
    | inr hin => exact Int.le_trans (hlast message hin) (Int.not_lt.mp hle)

end IsLatest

section Order

/--
The order of the messages of an inbox: by the instant they were received at, and by their ids.
-/
def KeyLE (a b : Instant × String) : Prop :=
  a.1 < b.1 ∨ (a.1 = b.1 ∧ a.2 ≤ b.2)

theorem KeyLE.total (a b : Instant × String) : KeyLE a b ∨ KeyLE b a := by
  obtain hlt | heq | hgt := Int.lt_trichotomy a.1 b.1
  . exact .inl (.inl hlt)
  . cases String.le_total a.2 b.2 with
    | inl hle => exact .inl (.inr ⟨heq, hle⟩)
    | inr hle => exact .inr (.inr ⟨heq.symm, hle⟩)
  . exact .inr (.inl hgt)

theorem KeyLE.trans {a b c : Instant × String} (hab : KeyLE a b) (hbc : KeyLE b c) : KeyLE a c := by
  obtain hlt | ⟨heq, hle⟩ := hab
  . obtain hlt' | ⟨heq', _⟩ := hbc
    . exact .inl (Int.lt_trans hlt hlt')
    . exact .inl (heq' ▸ hlt)
  . obtain hlt' | ⟨heq', hle'⟩ := hbc
    . exact .inl (heq ▸ hlt')
    . exact .inr ⟨heq.trans heq', String.le_trans hle hle'⟩

theorem KeyLE.antisymm {a b : Instant × String} (hab : KeyLE a b) (hba : KeyLE b a) : a = b := by
  obtain hlt | ⟨heq, hle⟩ := hab
  . obtain hlt' | ⟨heq', _⟩ := hba
    . exact absurd hlt' (Int.lt_asymm hlt)
    . exact absurd heq' (Int.ne_of_gt hlt)
  . obtain hlt' | ⟨_, hle'⟩ := hba
    . exact absurd heq (Int.ne_of_gt hlt')
    . exact Prod.ext heq (String.le_antisymm hle hle')

instance : Std.Total ProviderMessage.receivedBefore where
  total a b := KeyLE.total (a.receivedAt, a.providerMessageId) (b.receivedAt, b.providerMessageId)

instance : IsTrans ProviderMessage ProviderMessage.receivedBefore where
  trans a b c := KeyLE.trans (a := (a.receivedAt, a.providerMessageId))
    (b := (b.receivedAt, b.providerMessageId)) (c := (c.receivedAt, c.providerMessageId))

instance : Std.Total ExternalMessage.receivedBefore where
  total a b := KeyLE.total (a.providerReceivedAt, a.providerMessageId)
    (b.providerReceivedAt, b.providerMessageId)

instance : IsTrans ExternalMessage ExternalMessage.receivedBefore where
  trans a b c := KeyLE.trans (a := (a.providerReceivedAt, a.providerMessageId))
    (b := (b.providerReceivedAt, b.providerMessageId))
    (c := (c.providerReceivedAt, c.providerMessageId))

theorem inOrder_perm (messages : List ProviderMessage) : (inOrder messages).Perm messages :=
  List.perm_insertionSort _ messages

theorem inOrder_pairwise (messages : List ProviderMessage)
    : (inOrder messages).Pairwise ProviderMessage.receivedBefore :=
  List.pairwise_insertionSort _ messages

/--
The last message in order was received last.
-/
theorem receivedAt_le_of_getLast? {messages : List ProviderMessage} {last message : ProviderMessage}
    (hsorted : messages.Pairwise ProviderMessage.receivedBefore) (hlast : messages.getLast? = some last)
    (hmem : message ∈ messages) : message.receivedAt ≤ last.receivedAt := by
  obtain ⟨before, heq⟩ := List.getLast?_eq_some_iff.mp hlast
  subst heq
  cases List.mem_append.mp hmem with
  | inl hbefore =>
    have hle := (List.pairwise_append.mp hsorted).2.2 message hbefore last List.mem_cons_self
    cases hle with
    | inl hlt => exact Int.le_of_lt hlt
    | inr heq => exact Int.le_of_eq heq.1
  | inr hin => exact Int.le_of_eq (List.mem_singleton.mp hin ▸ rfl)

end Order

section Fresh

variable {seen messages : List ProviderMessage} {message : ProviderMessage} {batch : MailBatch}

theorem mem_fresh : message ∈ fresh seen messages ↔ message ∈ messages ∧ message ∉ seen := by
  simp [fresh]

theorem fresh_sublist : (fresh seen messages).Sublist messages :=
  List.filter_sublist

theorem mem_append_fresh
    : message ∈ seen ++ fresh seen messages ↔ message ∈ seen ∨ message ∈ messages := by
  rw [List.mem_append, mem_fresh]
  constructor
  . rintro (hold | hnew)
    . exact .inl hold
    . exact .inr hnew.1
  . by_cases hold : message ∈ seen
    . exact fun _ => .inl hold
    . intro h
      exact .inr ⟨h.resolve_left hold, hold⟩

theorem append_fresh_nodup (hseen : seen.Nodup) (hmessages : messages.Nodup)
    : (seen ++ fresh seen messages).Nodup := by
  rw [List.nodup_append]
  refine ⟨hseen, hmessages.sublist fresh_sublist, ?_⟩
  intro a ha b hb heq
  exact (mem_fresh.mp hb).2 (heq ▸ ha)

/--
What a batch ends with is one of its messages, and none of those it brings in was received later.
-/
theorem MailBatch.ending_eq_some {e : Ending} (h : batch.ending seen = some e)
    : (fresh seen (inOrder batch.messages)).getLast? = some e.newest
      ∧ e.read ∈ batch.messages
      ∧ ∀ message ∈ fresh seen (inOrder batch.messages), message.receivedAt ≤ e.read.receivedAt := by
  unfold MailBatch.ending at h
  rw [Option.map_eq_some_iff] at h
  obtain ⟨newest, hnewest, heq⟩ := h
  have hmem : newest ∈ batch.messages :=
    mem_inOrder.mp (mem_fresh.mp (List.mem_of_getLast? hnewest)).1
  have hsorted : (fresh seen (inOrder batch.messages)).Pairwise ProviderMessage.receivedBefore :=
    (inOrder_pairwise batch.messages).sublist fresh_sublist
  cases batch with
  | synced messages =>
    subst heq
    refine ⟨hnewest, hmem, ?_⟩
    intro message hmessage
    exact receivedAt_le_of_getLast? hsorted hnewest hmessage
  | selected category thread =>
    cases hlast : (inOrder thread.messages).getLast? with
    | none =>
      rw [List.getLast?_eq_none_iff] at hlast
      have hin := mem_inOrder.mpr hmem
      change newest ∈ inOrder thread.messages at hin
      rw [hlast] at hin
      cases hin
    | some last =>
      dsimp only at heq
      rw [List.getLastD_eq_getLast?, hlast] at heq
      subst heq
      refine ⟨hnewest, mem_inOrder.mp (List.mem_of_getLast? hlast), ?_⟩
      intro message hmessage
      exact receivedAt_le_of_getLast? (inOrder_pairwise thread.messages) hlast
        (mem_fresh.mp hmessage).1

theorem MailBatch.ending_eq_none : batch.ending seen = none
    ↔ fresh seen (inOrder batch.messages) = [] := by
  unfold MailBatch.ending
  rw [Option.map_eq_none_iff, List.getLast?_eq_none_iff]

end Fresh

namespace SourcedInbox

variable [Digest] {s t : SourcedInbox} {c conversationId caseId : Nat} {threadId : String}
  {old : List ExternalMessage} {messages seen added : List ProviderMessage} {e : Ending}

/--
What the batches have left of the inbox by now.
-/
structure Ingested (s : SourcedInbox) (c conversationId caseId : Nat) (threadId : String)
    (old : List ExternalMessage) (seen : List ProviderMessage) (e : Ending) : Prop where
  linked : s.Linked c conversationId caseId threadId old seen
  nodup : seen.Nodup
  read_mem : e.read ∈ seen
  upToDate : ∃ latestMessageAt, s.UpToDate conversationId e.read latestMessageAt
    ∧ IsLatest seen latestMessageAt
  checked : s.sourceCheckedAt caseId = some e.newest.receivedAt

/--
A batch without new messages leaves everything as it is.
-/
theorem Ingested.unchanged (h : s.Ingested c conversationId caseId threadId old seen e)
    (ht : t.Linked c conversationId caseId threadId old seen)
    (hconversations : t.inbox.conversations = s.inbox.conversations)
    (hchecked : t.sourceCheckedAt caseId = s.sourceCheckedAt caseId)
    : t.Ingested c conversationId caseId threadId old seen e := by
  obtain ⟨latestMessageAt, ⟨conversation, hstored, hsubject, hid, hat, hfingerprint⟩, hlatest⟩ :=
    h.upToDate
  have hsame : t.inbox.conversationFingerprint conversationId
      = s.inbox.conversationFingerprint conversationId := by
    unfold InboxStore.conversationFingerprint InboxStore.conversationMessages
    rw [ht.rows, h.linked.rows]
  refine ⟨ht, h.nodup, h.read_mem, ⟨latestMessageAt, ⟨conversation, ?_, hsubject, hid, hat, ?_⟩, hlatest⟩, ?_⟩
  . rw [hconversations, hstored]
  . rw [hfingerprint, hsame]
  . rw [hchecked, h.checked]

/--
The conversation is brought up to date once the new messages are stored.
-/
theorem Ingested.finalize (h : s.Ingested c conversationId caseId threadId old seen e)
    (ht : t.Linked c conversationId caseId threadId old (seen ++ added))
    (hconversations : t.inbox.conversations = s.inbox.conversations) {e' : Ending}
    (hread : e'.read ∈ seen ++ added)
    (hlast : ∀ message ∈ added, message.receivedAt ≤ e'.read.receivedAt)
    (hnodup : (seen ++ added).Nodup) (hchecked : t.sourceCheckedAt caseId = some e'.newest.receivedAt)
    : ∃ inbox, t.inbox.finalizeConversation conversationId e'.read = .ok inbox
      ∧ ({ t with inbox := inbox } : SourcedInbox).Ingested c conversationId caseId threadId old
        (seen ++ added) e' := by
  obtain ⟨latestMessageAt, ⟨conversation, hstored, _, _, hat, _⟩, hlatest⟩ := h.upToDate
  rw [← hconversations] at hstored
  obtain ⟨inbox, hok, hlinked, hupToDate⟩ := ht.finalize e'.read hstored
  rw [hat] at hupToDate
  exact ⟨inbox, hok, hlinked, hnodup, hread, ⟨_, hupToDate, hlatest.append hread hlast⟩, hchecked⟩

/--
All findings belong to one conversation, which is brought up to date with the last of them.
-/
theorem Linked.finalizeConversations (h : s.Linked c conversationId caseId threadId old seen)
    (findings : List (ProviderMessage × MessageFinding))
    (hthread : ∀ message ∈ imported findings, message.providerThreadId = threadId)
    : s.inbox.finalizeConversations c findings = match (imported findings).getLast? with
      | none => .ok s.inbox
      | some message => s.inbox.finalizeConversation conversationId message := by
  have hfirst : Rows.firstBy (fun message : ProviderMessage => message.providerThreadId)
      (imported findings).reverse = (imported findings).getLast?.toList := by
    rw [Rows.firstBy_same (k := threadId), List.head?_reverse]
    intro message hmem
    exact hthread message (List.mem_reverse.mp hmem)
  unfold InboxStore.finalizeConversations
  dsimp only
  change List.foldlM _ _ (Rows.firstBy _ (imported findings).reverse) = _
  rw [hfirst]
  cases hlast : (imported findings).getLast? with
  | none => rfl
  | some message =>
    obtain ⟨conversation, hfind, _⟩ := h.find
    have hmessage := hthread message (List.mem_of_getLast? hlast)
    rw [Option.toList_some, List.foldlM_cons, hmessage, hfind]
    change (s.inbox.finalizeConversation conversationId message >>= pure) = _
    rw [bind_pure]

/--
What a sync job brings in of a linked thread.
-/
theorem Ingested.synced (h : s.Ingested c conversationId caseId threadId old seen e)
    (hmessages : ThreadMessages c threadId old messages) (hseen : seen ⊆ messages)
    {batch : List ProviderMessage} (hbatch : (MailBatch.synced batch).Holds threadId messages)
    : ∃ t, s.syncMessages c batch = .ok t
      ∧ t.Ingested c conversationId caseId threadId old (seen ++ fresh seen (inOrder batch))
        (((MailBatch.synced batch).ending seen).getD e) := by
  have hsubset : inOrder batch ⊆ messages := fun _ hmem => hbatch.messages_subset (mem_inOrder.mp hmem)
  have hnodup : (inOrder batch).Nodup := (inOrder_perm batch).nodup_iff.mpr hbatch.nodup
  obtain ⟨t, findings, hpersist, hlinked, himported, hconversations, hchecked⟩ :=
    persistMessages_linked h.linked hmessages hseen hsubset hnodup
  have hfinal := hlinked.finalizeConversations findings (by
    intro message hmem
    rw [himported] at hmem
    exact hmessages.thread message (hsubset (mem_fresh.mp hmem).1))
  unfold syncMessages
  rw [hpersist]
  change ∃ u, (t.inbox.finalizeConversations c findings >>= _) = _ ∧ _
  rw [hfinal, himported]
  cases hending : (MailBatch.synced batch).ending seen with
  | none =>
    have hnone := MailBatch.ending_eq_none.mp hending
    change fresh seen (inOrder batch) = [] at hnone
    rw [hnone] at hlinked hchecked ⊢
    rw [List.append_nil] at hlinked ⊢
    exact ⟨t, rfl, h.unchanged hlinked hconversations hchecked⟩
  | some e' =>
    obtain ⟨hnewest, hread, hlast⟩ := MailBatch.ending_eq_some hending
    have hsame : e'.read = e'.newest := by
      unfold MailBatch.ending at hending
      rw [hnewest, Option.map_some, Option.some.injEq] at hending
      exact (congrArg Ending.read hending).symm
    change (fresh seen (inOrder batch)).getLast? = some e'.newest at hnewest
    unfold lastChecked at hchecked
    rw [hnewest] at hchecked ⊢
    obtain ⟨inbox, hok, hingested⟩ := h.finalize hlinked hconversations
      (mem_append_fresh.mpr (.inr (mem_inOrder.mpr hread))) hlast (append_fresh_nodup h.nodup hnodup)
      hchecked
    rw [hsame] at hok
    dsimp only
    rw [hok]
    exact ⟨_, rfl, hingested⟩

/--
What an import brings in of a thread that is linked already.
-/
theorem Ingested.selected (h : s.Ingested c conversationId caseId threadId old seen e)
    (hmessages : ThreadMessages c threadId old messages) (hseen : seen ⊆ messages)
    {category : CaseCategory} {thread : ProviderThread}
    (hbatch : (MailBatch.selected category thread).Holds threadId messages)
    : ∃ t, s.importThread c category thread = .ok t
      ∧ t.Ingested c conversationId caseId threadId old (seen ++ fresh seen (inOrder thread.messages))
        (((MailBatch.selected category thread).ending seen).getD e) := by
  have hsubset : inOrder thread.messages ⊆ messages :=
    fun _ hmem => hbatch.messages_subset (mem_inOrder.mp hmem)
  have hnodup : (inOrder thread.messages).Nodup :=
    (inOrder_perm thread.messages).nodup_iff.mpr hbatch.nodup
  obtain ⟨conversation, hfind, hcase⟩ := h.linked.find
  obtain ⟨t, himport, hlinked, hconversations, hchecked⟩ :=
    importMessages_linked h.linked hmessages hseen hsubset hnodup
  cases hordered : inOrder thread.messages with
  | nil =>
    have hperm := inOrder_perm thread.messages
    rw [hordered] at hperm
    exact absurd hperm.nil_eq.symm thread.messages_ne_nil
  | cons first rest =>
    have hlink : s.linkThread c category thread first (rest.getLastD first)
        = .ok (s, conversationId, caseId, false) := by
      unfold linkThread InboxStore.linkThread
      rw [hbatch.thread category thread rfl, hfind]
      change Except.ok (s, conversationId, conversation.caseId, false) = _
      rw [hcase]
    unfold importThread
    rw [hordered]
    dsimp only
    rw [hlink]
    rw [hordered] at himport hlinked hchecked
    change ∃ u, (importMessages c conversationId caseId s false (first :: rest) >>= _) = _ ∧ _
    rw [himport]
    cases hending : (MailBatch.selected category thread).ending seen with
    | none =>
      have hnone := MailBatch.ending_eq_none.mp hending
      change fresh seen (inOrder thread.messages) = [] at hnone
      rw [hordered] at hnone
      rw [hnone] at hlinked hchecked ⊢
      rw [List.append_nil] at hlinked ⊢
      exact ⟨t, rfl, h.unchanged hlinked hconversations hchecked⟩
    | some e' =>
      obtain ⟨hnewest, hread, hlast⟩ := MailBatch.ending_eq_some hending
      have hsame : e'.read = rest.getLastD first := by
        unfold MailBatch.ending at hending
        rw [hnewest, Option.map_some, Option.some.injEq] at hending
        rw [← hending]
        dsimp only
        rw [hordered, List.getLastD_cons]
      change (fresh seen (inOrder thread.messages)).getLast? = some e'.newest at hnewest
      change ∀ message ∈ fresh seen (inOrder thread.messages), _ at hlast
      rw [hordered] at hnewest hlast hnodup
      unfold lastChecked at hchecked
      rw [hnewest] at hchecked
      obtain ⟨inbox, hok, hingested⟩ := h.finalize hlinked hconversations
        (mem_append_fresh.mpr (.inr (hordered ▸ mem_inOrder.mpr hread))) hlast
        (append_fresh_nodup h.nodup hnodup) hchecked
      have hsome : (fresh seen (first :: rest)).length ≠ 0 := by
        intro hzero
        rw [List.length_eq_zero_iff] at hzero
        rw [hzero] at hnewest
        cases hnewest
      rw [hsame] at hok
      change ∃ u, (if (fresh seen (first :: rest)).length = 0 then _ else
        t.inbox.finalizeConversation conversationId (rest.getLastD first) >>= _) = _ ∧ _
      rw [if_neg hsome, hok]
      exact ⟨_, rfl, hingested⟩

/--
What the provider holds of a thread that is not linked is not imported by a sync job.
-/
theorem syncMessages_unlinked (hnone : s.inbox.findConversation c threadId = none)
    {batch : List ProviderMessage} (hthread : ∀ message ∈ batch, message.providerThreadId = threadId)
    : s.syncMessages c batch = .ok s := by
  have hpersist : ∀ l : List ProviderMessage, (∀ message ∈ l, message.providerThreadId = threadId) →
      persistMessages c s l = .ok (s, l.map fun message => (message, .unlinked)) := by
    intro l hl
    induction l with
    | nil => rfl
    | cons message l ih =>
      have hfirst : s.persistMessage c message = .ok (s, .unlinked) := by
        unfold persistMessage
        rw [hl message List.mem_cons_self, hnone]
        rfl
      unfold persistMessages
      rw [hfirst]
      change (persistMessages c s l >>= _) = _
      rw [ih fun other hother => hl other (List.mem_cons_of_mem _ hother)]
      rfl
  unfold syncMessages
  rw [hpersist (inOrder batch) fun message hmem => hthread message (mem_inOrder.mp hmem)]
  change (s.inbox.finalizeConversations c _ >>= _) = _
  have himported : ∀ l : List ProviderMessage,
      (l.map fun message => (message, MessageFinding.unlinked)).filter
        (fun finding => finding.2 = .imported) = [] := by
    intro l
    rw [List.filter_eq_nil_iff]
    intro finding hmem
    obtain ⟨message, _, heq⟩ := List.mem_map.mp hmem
    subst heq
    rw [decide_eq_true_eq]
    intro h
    cases h
  unfold InboxStore.finalizeConversations
  rw [himported]
  rfl

/--
A case can be opened for the thread.
-/
def Opens (s : SourcedInbox) (c : Nat) (threadId : String) : Prop :=
  ∃ connection, s.inbox.connections[c]? = some connection
    ∧ ∀ category first, ∀ other ∈ s.inbox.cases, other.publicId
      ≠ (InboxStore.importedCase (InboxStore.sourceDigest connection.publicId threadId) category first).publicId

theorem Opens.of_importThread (hnone : s.inbox.findConversation c threadId = none)
    {category : CaseCategory} {thread : ProviderThread} (hthread : thread.providerThreadId = threadId)
    (h : s.importThread c category thread = .ok t) : s.Opens c threadId := by
  unfold importThread at h
  cases hordered : inOrder thread.messages with
  | nil =>
    rw [hordered] at h
    cases h
  | cons first rest =>
    rw [hordered] at h
    dsimp only at h
    rw [bind_eq_ok] at h
    obtain ⟨linked, hlink, _⟩ := h
    unfold linkThread at hlink
    rw [bind_eq_ok] at hlink
    obtain ⟨opened, hopened, _⟩ := hlink
    unfold InboxStore.linkThread at hopened
    rw [hthread, hnone] at hopened
    dsimp only at hopened
    rw [orThrow_bind_eq_ok] at hopened
    obtain ⟨connection, hconnection, hopened⟩ := hopened
    rw [bind_eq_ok] at hopened
    obtain ⟨created, hcreated, _⟩ := hopened
    unfold InboxStore.createCase at hcreated
    rw [ensure_bind_eq_ok] at hcreated
    exact ⟨connection, hconnection, fun _ _ => hcreated.1⟩

/--
The thread is linked to a case that is opened with its first message.
-/
theorem Opens.linkThread (h : s.Opens c threadId)
    (hnone : s.inbox.findConversation c threadId = none) (category : CaseCategory)
    {thread : ProviderThread} (hthread : thread.providerThreadId = threadId)
    {first : ProviderMessage} (hfirst : first.providerThreadId = threadId) (latest : ProviderMessage)
    : ∃ t, s.linkThread c category thread first latest
        = .ok (t, s.inbox.conversations.length, s.inbox.cases.length, true)
      ∧ t.Linked c s.inbox.conversations.length s.inbox.cases.length threadId s.inbox.messages []
      ∧ t.sourceCheckedAt s.inbox.cases.length = some latest.receivedAt
      ∧ ∃ conversation, t.inbox.conversations[s.inbox.conversations.length]? = some conversation
        ∧ conversation.latestMessageAt = first.receivedAt := by
  obtain ⟨connection, hconnection, hfree⟩ := h
  have hlink : ∃ (case : Case) (conversation : ExternalConversation), s.inbox.linkThread c category thread first
        = .ok ({ s.inbox with
          cases := s.inbox.cases ++ [case]
          conversations := s.inbox.conversations ++ [conversation] },
          s.inbox.conversations.length, s.inbox.cases.length, true)
      ∧ conversation.connectionId = c ∧ conversation.providerThreadId = threadId
      ∧ conversation.caseId = s.inbox.cases.length
      ∧ conversation.latestMessageAt = first.receivedAt := by
    unfold InboxStore.linkThread
    rw [hthread, hnone, hconnection]
    change ∃ _ _, (s.inbox.createCase connection.publicId threadId category first >>= _) = _ ∧ _
    unfold InboxStore.createCase
    dsimp only
    rw [ensure_of (hfree category first)]
    exact ⟨_, _, rfl, rfl, hfirst, rfl, rfl⟩
  obtain ⟨case, conversation, hok, hc, ht, hcase, hat⟩ := hlink
  unfold SourcedInbox.linkThread
  rw [hok]
  refine ⟨_, rfl, ⟨⟨conversation, ?_, hc, ht, hcase⟩, ?_, ?_, ?_⟩, Function.update_self ..,
    conversation, ?_, hat⟩
  . exact List.getElem?_concat_length
  . intro i other hother hc' ht'
    cases Rows.getElem?_concat_cases hother with
    | inl hold =>
      have hall := InboxStore.findConversation_eq_none hnone
      exact absurd ht' (hall other (List.mem_of_getElem? hold) hc')
    | inr hnew => exact hnew.1
  . change s.inbox.cases.length < (s.inbox.cases ++ [case]).length
    rw [List.length_append, List.length_singleton]
    exact Nat.lt_succ_self _
  . exact (List.append_nil _).symm
  . exact List.getElem?_concat_length

/--
The import that links the thread brings in all it has read.
-/
theorem Opens.selected (h : s.Opens c threadId) (hnone : s.inbox.findConversation c threadId = none)
    (hmessages : ThreadMessages c threadId s.inbox.messages messages) {category : CaseCategory}
    {thread : ProviderThread} (hbatch : (MailBatch.selected category thread).Holds threadId messages)
    : ∃ t e, s.importThread c category thread = .ok t
      ∧ (MailBatch.selected category thread).ending [] = some e
      ∧ t.Ingested c s.inbox.conversations.length s.inbox.cases.length threadId s.inbox.messages
        (fresh [] (inOrder thread.messages)) e := by
  have hsubset : inOrder thread.messages ⊆ messages :=
    fun _ hmem => hbatch.messages_subset (mem_inOrder.mp hmem)
  have hnodup : (inOrder thread.messages).Nodup :=
    (inOrder_perm thread.messages).nodup_iff.mpr hbatch.nodup
  have hsorted := inOrder_pairwise thread.messages
  have hfresh : ∀ l : List ProviderMessage, fresh [] l = l := by
    intro l
    simp [fresh]
  unfold MailBatch.ending
  change ∃ t e, s.importThread c category thread = .ok t
    ∧ (fresh [] (inOrder thread.messages)).getLast?.map _ = some e ∧ _
  rw [hfresh]
  unfold importThread
  dsimp only
  cases hordered : inOrder thread.messages with
  | nil =>
    have hperm := inOrder_perm thread.messages
    rw [hordered] at hperm
    exact absurd hperm.nil_eq.symm thread.messages_ne_nil
  | cons first rest =>
    rw [hordered] at hsubset hnodup hsorted
    have hfirst := hsubset List.mem_cons_self
    have hrest : rest ⊆ messages := fun _ hmem => hsubset (List.mem_cons_of_mem _ hmem)
    obtain ⟨hnotin, hnodup'⟩ := List.nodup_cons.mp hnodup
    obtain ⟨t, hlink, hlinked, hchecked, conversation, hconversation, hat⟩ :=
      h.linkThread hnone category (hbatch.thread category thread rfl) (hmessages.thread first hfirst)
        (rest.getLastD first)
    -- the first message is in the case already
    obtain ⟨u, hrecord, hlinked', hconversations, hchecked'⟩ :=
      hlinked.record hmessages (List.nil_subset _) hfirst List.not_mem_nil
    obtain ⟨v, himport, hlinked'', hconversations', hchecked''⟩ :=
      importMessages_linked hlinked' hmessages (fun _ hmem => List.mem_singleton.mp hmem ▸ hfirst) hrest
        hnodup'
    have hsame : fresh [first] rest = rest := by
      unfold fresh
      rw [List.filter_eq_self]
      intro message hmem
      have hne : message ≠ first := fun heq => hnotin (heq ▸ hmem)
      simpa using hne
    have hnew : ¬ t.inbox.hasMessage c first.providerMessageId = true := by
      rw [hlinked.hasMessage_iff hmessages (List.nil_subset _) hfirst]
      exact List.not_mem_nil
    have himported : importMessages c s.inbox.conversations.length s.inbox.cases.length t true
        (first :: rest) = .ok (v, rest.length + 1) := by
      unfold importMessages
      rw [if_neg hnew]
      change (t.recordMessage c s.inbox.conversations.length first >>= _) = _
      rw [hrecord]
      change (importMessages c s.inbox.conversations.length s.inbox.cases.length u false rest >>= _) = _
      rw [himport, List.nil_append, hsame]
      rfl
    have hlast : (first :: rest).getLast? = some (rest.getLastD first) := by
      rw [List.getLast?_cons, List.getLastD_eq_getLast?]
    rw [List.nil_append, hsame] at hlinked'' hchecked''
    have hstored : v.inbox.conversations[s.inbox.conversations.length]? = some conversation := by
      rw [hconversations', hconversations, hconversation]
    obtain ⟨inbox, hok, hfinal, hupToDate⟩ := hlinked''.finalize (rest.getLastD first) hstored
    have hat' : v.sourceCheckedAt s.inbox.cases.length = some (rest.getLastD first).receivedAt := by
      rw [hchecked'', hchecked', hchecked]
      unfold lastChecked
      cases hrestLast : rest.getLast? with
      | none => rfl
      | some last => simp [List.getLastD_eq_getLast?, hrestLast]
    have hlatest : IsLatest [first] conversation.latestMessageAt := by
      rw [hat]
      refine ⟨?_, first, List.mem_singleton_self first, rfl⟩
      intro message hmem
      exact Int.le_of_eq (List.mem_singleton.mp hmem ▸ rfl)
    have hread : rest.getLastD first ∈ [first] ++ rest := List.mem_of_getLast? hlast
    have hall := hlatest.append hread fun message hmem =>
      receivedAt_le_of_getLast? hsorted hlast (List.mem_cons_of_mem _ hmem)
    refine ⟨{ v with inbox := inbox }, ⟨rest.getLastD first, rest.getLastD first⟩, ?_, ?_, hfinal, hnodup,
      List.mem_of_getLast? hlast, ⟨_, hupToDate, hall⟩, hat'⟩
    . dsimp only
      rw [hlink]
      change (importMessages c s.inbox.conversations.length s.inbox.cases.length t true (first :: rest)
        >>= _) = _
      rw [himported]
      change (if rest.length + 1 = 0 then pure v else
        v.inbox.finalizeConversation s.inbox.conversations.length (rest.getLastD first) >>= _) = _
      rw [if_neg (Nat.succ_ne_zero _), hok]
      rfl
    . rw [hlast, Option.map_some, List.getLastD_cons]

theorem Ingested.ingest (h : s.Ingested c conversationId caseId threadId old seen e)
    (hmessages : ThreadMessages c threadId old messages) (hseen : seen ⊆ messages) {batch : MailBatch}
    (hbatch : batch.Holds threadId messages)
    : ∃ t, ingest c s batch = .ok t
      ∧ t.Ingested c conversationId caseId threadId old (seen ++ fresh seen (inOrder batch.messages))
        ((batch.ending seen).getD e) := by
  cases batch with
  | synced batch => exact h.synced hmessages hseen hbatch
  | selected category thread => exact h.selected hmessages hseen hbatch

/--
A linked thread takes every batch, and the last one with a new message decides how it ends.
-/
theorem Ingested.ingestAll (h : s.Ingested c conversationId caseId threadId old seen e)
    (hmessages : ThreadMessages c threadId old messages) (hseen : seen ⊆ messages)
    {batches : List MailBatch} (hbatches : ∀ batch ∈ batches, batch.Holds threadId messages)
    : ∃ t, s.ingestAll c batches = .ok t
      ∧ t.Ingested c conversationId caseId threadId old (received seen batches)
        ((ending seen batches).getD e) := by
  induction batches generalizing s seen e with
  | nil => exact ⟨s, rfl, h⟩
  | cons batch batches ih =>
    have hholds := hbatches batch List.mem_cons_self
    obtain ⟨t, ht, hingested⟩ := h.ingest hmessages hseen hholds
    have hseen' : seen ++ fresh seen (inOrder batch.messages) ⊆ messages := by
      intro message hmem
      cases mem_append_fresh.mp hmem with
      | inl hold => exact hseen hold
      | inr hin => exact hholds.messages_subset (mem_inOrder.mp hin)
    obtain ⟨u, hu, hrest⟩ := ih hingested hseen' fun other hother =>
      hbatches other (List.mem_cons_of_mem _ hother)
    refine ⟨u, ?_, ?_⟩
    . unfold SourcedInbox.ingestAll
      rw [List.foldlM_cons, ht]
      exact hu
    . unfold received ending
      rwa [Option.getD_or]

theorem ingestAll_unlinked (hnone : s.inbox.findConversation c threadId = none)
    (hmessages : ThreadMessages c threadId old messages) {batches : List MailBatch}
    (hbatches : ∀ batch ∈ batches, batch.Holds threadId messages)
    : s.ingestAll c batches = s.ingestAll c (batches.dropWhile MailBatch.isSynced) := by
  induction batches with
  | nil => rfl
  | cons batch batches ih =>
    cases batch with
    | selected category thread => rfl
    | synced batch =>
      have hholds := hbatches _ List.mem_cons_self
      have hfirst : s.syncMessages c batch = .ok s :=
        syncMessages_unlinked hnone fun message hmem =>
          hmessages.thread message (hholds.messages_subset hmem)
      rw [List.dropWhile_cons_of_pos rfl, ← ih fun other hother =>
        hbatches other (List.mem_cons_of_mem _ hother)]
      unfold SourcedInbox.ingestAll
      rw [List.foldlM_cons]
      change (s.syncMessages c batch >>= _) = _
      rw [hfirst]
      rfl

end SourcedInbox

theorem mem_received {seen : List ProviderMessage} {batches : List MailBatch}
    {message : ProviderMessage}
    : message ∈ received seen batches ↔ message ∈ seen ∨ ∃ batch ∈ batches, message ∈ batch.messages := by
  induction batches generalizing seen with
  | nil => simp [received]
  | cons batch batches ih =>
    unfold received
    rw [ih, mem_append_fresh, mem_inOrder, List.exists_mem_cons_iff, or_assoc]

namespace SourcedInbox

variable [Digest] {s t : SourcedInbox} {c conversationId caseId : Nat} {threadId : String}
  {old : List ExternalMessage} {messages seen : List ProviderMessage} {e : Ending}
  {batches : List MailBatch}

/--
A way of bringing in the thread either has nothing to bring in or ends with one of its batches.
-/
theorem Opens.ingestAll (h : s.Opens c threadId) (hnone : s.inbox.findConversation c threadId = none)
    (hmessages : ThreadMessages c threadId s.inbox.messages messages)
    (hsplits : Splits threadId messages batches) (hne : messages ≠ [])
    : ∃ t e, s.ingestAll c batches = .ok t
      ∧ ending [] (batches.dropWhile MailBatch.isSynced) = some e
      ∧ t.Ingested c s.inbox.conversations.length s.inbox.cases.length threadId s.inbox.messages
        (received [] (batches.dropWhile MailBatch.isSynced)) e := by
  rw [ingestAll_unlinked hnone hmessages hsplits.holds]
  have hholds : ∀ batch ∈ batches.dropWhile MailBatch.isSynced, batch.Holds threadId messages :=
    fun batch hmem => hsplits.holds batch ((List.dropWhile_sublist _).subset hmem)
  cases hdrop : batches.dropWhile MailBatch.isSynced with
  | nil =>
    obtain ⟨message, hmem⟩ := List.exists_mem_of_ne_nil _ hne
    obtain ⟨batch, hbatch, _⟩ := hsplits.complete message hmem
    rw [hdrop] at hbatch
    cases hbatch
  | cons batch rest =>
    rw [hdrop] at hholds
    have hbatch := hholds batch List.mem_cons_self
    have hrest : ∀ other ∈ rest, other.Holds threadId messages :=
      fun other hother => hholds other (List.mem_cons_of_mem _ hother)
    cases batch with
    | synced batch =>
      have hhead := List.head?_dropWhile_not MailBatch.isSynced batches
      rw [hdrop] at hhead
      cases hhead
    | selected category thread =>
      obtain ⟨t, e, ht, hending, hingested⟩ := h.selected hnone hmessages hbatch
      have hseen : fresh [] (inOrder thread.messages) ⊆ messages :=
        fun message hmem => hbatch.messages_subset (mem_inOrder.mp (mem_fresh.mp hmem).1)
      obtain ⟨u, hu, hfinal⟩ := hingested.ingestAll hmessages hseen hrest
      refine ⟨u, (ending (fresh [] (inOrder thread.messages)) rest).getD e, ?_, ?_, ?_⟩
      . unfold SourcedInbox.ingestAll
        rw [List.foldlM_cons]
        change (s.importThread c category thread >>= _) = _
        rw [ht]
        exact hu
      . rw [CaseResolution.ending, hending, List.nil_append]
        exact Option.or_some
      . exact hfinal

theorem Ingested.summary (h : s.Ingested c conversationId caseId threadId old seen e)
    : ∃ latestMessageAt, IsLatest seen latestMessageAt
      ∧ s.summary c threadId = some {
        latestMessageAt
        latestProviderMessageId := e.read.providerMessageId
        subject := e.read.subject
        sourceFingerprint := s.inbox.conversationFingerprint conversationId
        sourceCheckedAt := some e.newest.receivedAt } := by
  obtain ⟨latestMessageAt, ⟨conversation, hstored, hsubject, hid, hat, hfingerprint⟩, hlatest⟩ :=
    h.upToDate
  obtain ⟨found, hfind, hcase⟩ := h.linked.find
  have hsame : found = conversation := by
    have hfound := (InboxStore.findConversation_eq_some hfind).1
    rw [hstored, Option.some.injEq] at hfound
    exact hfound.symm
  subst hsame
  refine ⟨latestMessageAt, hlatest, ?_⟩
  unfold SourcedInbox.summary
  rw [hfind, Option.map_some]
  dsimp only
  rw [hat, hid, hsubject, hfingerprint, hcase, h.checked]

omit [Digest] in
/--
The rows of the conversation are the messages that were brought in, sorted.
-/
theorem Linked.conversationMessages (h : s.Linked c conversationId caseId threadId old seen)
    (hold : ∀ row ∈ old, row.conversationId < conversationId)
    : s.inbox.conversationMessages conversationId
      = (seen.map (InboxStore.newMessage c conversationId)).insertionSort
        ExternalMessage.receivedBefore := by
  unfold InboxStore.conversationMessages
  rw [h.rows, List.filter_append]
  have hnone : old.filter (fun message => message.conversationId = conversationId) = [] := by
    rw [List.filter_eq_nil_iff]
    intro row hrow
    simpa using Nat.ne_of_lt (hold row hrow)
  have hall : (seen.map (InboxStore.newMessage c conversationId)).filter
      (fun message => message.conversationId = conversationId)
      = seen.map (InboxStore.newMessage c conversationId) := by
    rw [List.filter_eq_self]
    intro row hrow
    obtain ⟨message, _, heq⟩ := List.mem_map.mp hrow
    subst heq
    exact decide_eq_true rfl
  rw [hnone, hall, List.nil_append]

/--
The fingerprint does not depend on the order the messages came in.
-/
theorem Ingested.fingerprint_eq (h : s.Ingested c conversationId caseId threadId old seen e)
    {seen' : List ProviderMessage} {e' : Ending}
    (h' : t.Ingested c conversationId caseId threadId old seen' e')
    (hmessages : ThreadMessages c threadId old messages)
    (hold : ∀ row ∈ old, row.conversationId < conversationId)
    (hseen : ∀ message, message ∈ seen ↔ message ∈ messages)
    (hseen' : ∀ message, message ∈ seen' ↔ message ∈ messages)
    : s.inbox.conversationFingerprint conversationId
      = t.inbox.conversationFingerprint conversationId := by
  have hperm : seen.Perm seen' := by
    rw [List.perm_ext_iff_of_nodup h.nodup h'.nodup]
    intro message
    rw [hseen, hseen']
  have hsame : s.inbox.conversationMessages conversationId
      = t.inbox.conversationMessages conversationId := by
    rw [h.linked.conversationMessages hold, h'.linked.conversationMessages hold]
    apply List.Perm.eq_of_pairwise _ (List.pairwise_insertionSort ExternalMessage.receivedBefore _)
      (List.pairwise_insertionSort ExternalMessage.receivedBefore _)
    . exact (List.perm_insertionSort _ _).trans ((hperm.map _).trans (List.perm_insertionSort _ _).symm)
    . -- rows of one instant and one id are rows of one message
      intro a b ha hb hab hba
      rw [List.mem_insertionSort, List.mem_map] at ha hb
      obtain ⟨message, hmem, heq⟩ := ha
      obtain ⟨message', hmem', heq'⟩ := hb
      subst heq heq'
      have hkey := KeyLE.antisymm (a := (message.receivedAt, message.providerMessageId))
        (b := (message'.receivedAt, message'.providerMessageId)) hab hba
      rw [hmessages.ids message ((hseen message).mp hmem) message' ((hseen' message').mp hmem')
        (congrArg Prod.snd hkey)]
  unfold InboxStore.conversationFingerprint
  rw [hsame]

theorem Opens.of_ingestAll (hnone : s.inbox.findConversation c threadId = none)
    (hmessages : ThreadMessages c threadId s.inbox.messages messages)
    (hsplits : Splits threadId messages batches) (hne : messages ≠ [])
    (h : s.ingestAll c batches = .ok t) : s.Opens c threadId := by
  rw [ingestAll_unlinked hnone hmessages hsplits.holds] at h
  have hhead := List.head?_dropWhile_not MailBatch.isSynced batches
  cases hdrop : batches.dropWhile MailBatch.isSynced with
  | nil =>
    obtain ⟨message, hmem⟩ := List.exists_mem_of_ne_nil _ hne
    obtain ⟨batch, hbatch, _⟩ := hsplits.complete message hmem
    rw [hdrop] at hbatch
    cases hbatch
  | cons batch rest =>
    rw [hdrop] at h hhead
    have hmem : batch ∈ batches :=
      (List.dropWhile_sublist MailBatch.isSynced).subset (hdrop ▸ List.mem_cons_self)
    cases batch with
    | synced batch => cases hhead
    | selected category thread =>
      unfold SourcedInbox.ingestAll at h
      rw [List.foldlM_cons, bind_eq_ok] at h
      obtain ⟨first, hfirst, _⟩ := h
      exact Opens.of_importThread hnone ((hsplits.holds _ hmem).thread category thread rfl) hfirst

end SourcedInbox

/--
Without messages there is nothing to import.
-/
theorem Splits.dropWhile_nil {threadId : String} {batches : List MailBatch}
    (h : Splits threadId [] batches) : batches.dropWhile MailBatch.isSynced = [] := by
  have hhead := List.head?_dropWhile_not MailBatch.isSynced batches
  cases hdrop : batches.dropWhile MailBatch.isSynced with
  | nil => rfl
  | cons batch rest =>
    rw [hdrop] at hhead
    have hmem : batch ∈ batches :=
      (List.dropWhile_sublist MailBatch.isSynced).subset (hdrop ▸ List.mem_cons_self)
    cases batch with
    | synced batch => cases hhead
    | selected category thread =>
      exact absurd (List.subset_nil.mp (h.holds _ hmem).messages_subset) thread.messages_ne_nil

end CaseResolution
