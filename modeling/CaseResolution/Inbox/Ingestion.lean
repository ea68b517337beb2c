import CaseResolution.Inbox.Lemmas.Batches
import CaseResolution.Inbox.Lemmas.Mail
import CaseResolution.Inbox.Lemmas.Reachable

/-!
This module contains what the ways of bringing in a thread agree on: however its messages are split into
batches, the same messages are stored, but the last batch decides what the conversation is called.
-/

namespace CaseResolution

/--
Every stored message belongs to a stored conversation.
-/
theorem InboxDesk.run_filed [Digest] (store : Store) (commands : List InboxCommand)
    : ∀ row ∈ (inboxService.run (.new store) commands).inbox.messages,
      row.conversationId < (inboxService.run (.new store) commands).inbox.conversations.length := by
  suffices h : (inboxService.run (.new store) commands).TasksStored
      ∧ ∀ row ∈ (inboxService.run (.new store) commands).inbox.messages,
        row.conversationId < (inboxService.run (.new store) commands).inbox.conversations.length from h.2
  apply run_of_effect (P := fun d => d.TasksStored ∧ ∀ row ∈ d.inbox.messages,
    row.conversationId < d.inbox.conversations.length)
  . intro d d' command output heffect hd
    refine ⟨heffect.tasksStored hd.1, ?_⟩
    have hlength := (heffect.threads_extended hd.1).1.length_le
    intro row hrow
    obtain hold | ⟨_, _, _, _, _, _, conversation, _, _, _, hconversation, _⟩
        | ⟨_, _, _, _, conversation, _, _, _, hconversation, _⟩ := heffect.row_origin hd.1 hrow
    . exact Nat.lt_of_lt_of_le (hd.2 row hold) hlength
    . exact Nat.lt_of_lt_of_le (List.getElem?_eq_some_iff.mp hconversation).1 hlength
    . exact (List.getElem?_eq_some_iff.mp hconversation).1
  . refine ⟨?_, ?_⟩
    . intro sync hsync
      cases hsync
    . intro row hrow
      cases hrow

/--
Two ways of splitting the messages of a thread into batches store the same messages, received latest at the
same instant. What the thread is called, its latest message and when its source was checked agree exactly if
the ways end alike.
-/
theorem batches_agree [Digest] (store : Store) (commands : List InboxCommand)
    (sourceCheckedAt : Nat → Option Instant) (c : Nat) (threadId : String)
    (messages : List ProviderMessage) {s s₁ : SourcedInbox}
    (hs : s = ⟨(inboxService.run (.new store) commands).inbox, sourceCheckedAt⟩)
    (hmessages : ThreadMessages c threadId s.inbox.messages messages)
    (hunlinked : s.inbox.findConversation c threadId = none) {batches₁ batches₂ : List MailBatch}
    (h₁ : Splits threadId messages batches₁) (h₂ : Splits threadId messages batches₂)
    (haccepted : s.ingestAll c batches₁ = .ok s₁)
    : ∃ s₂, s.ingestAll c batches₂ = .ok s₂
      ∧ (s₁.summary c threadId).map ConversationSummary.latestMessageAt
        = (s₂.summary c threadId).map ConversationSummary.latestMessageAt
      ∧ (s₁.summary c threadId).map ConversationSummary.sourceFingerprint
        = (s₂.summary c threadId).map ConversationSummary.sourceFingerprint
      ∧ (s₁.summary c threadId = s₂.summary c threadId ↔ SameEnding batches₁ batches₂) := by
  by_cases hne : messages = []
  . subst hne
    rw [SourcedInbox.ingestAll_unlinked hunlinked hmessages h₁.holds, h₁.dropWhile_nil] at haccepted
    cases haccepted
    refine ⟨s, ?_, rfl, rfl, ?_⟩
    . rw [SourcedInbox.ingestAll_unlinked hunlinked hmessages h₂.holds, h₂.dropWhile_nil]
      rfl
    . unfold SameEnding
      rw [h₁.dropWhile_nil, h₂.dropWhile_nil]
      exact iff_of_true rfl rfl
  . have hopens := SourcedInbox.Opens.of_ingestAll hunlinked hmessages h₁ hne haccepted
    have hold : ∀ row ∈ s.inbox.messages, row.conversationId < s.inbox.conversations.length := by
      subst hs
      exact InboxDesk.run_filed store commands
    obtain ⟨t₁, e₁, ht₁, hending₁, hingested₁⟩ := hopens.ingestAll hunlinked hmessages h₁ hne
    obtain ⟨t₂, e₂, ht₂, hending₂, hingested₂⟩ := hopens.ingestAll hunlinked hmessages h₂ hne
    rw [haccepted, Except.ok.injEq] at ht₁
    subst ht₁
    have hseen : ∀ batches, Splits threadId messages batches → ∀ message,
        message ∈ received [] (batches.dropWhile MailBatch.isSynced) ↔ message ∈ messages := by
      intro batches hsplits message
      rw [mem_received]
      constructor
      . rintro (hnil | ⟨batch, hbatch, hin⟩)
        . cases hnil
        . exact (hsplits.holds batch ((List.dropWhile_sublist _).subset hbatch)).messages_subset hin
      . intro hin
        exact .inr (hsplits.complete message hin)
    have hfingerprint := hingested₁.fingerprint_eq hingested₂ hmessages hold (hseen _ h₁) (hseen _ h₂)
    obtain ⟨latest₁, hlatest₁, hsummary₁⟩ := hingested₁.summary
    obtain ⟨latest₂, hlatest₂, hsummary₂⟩ := hingested₂.summary
    have hlatest : latest₁ = latest₂ :=
      hlatest₁.unique hlatest₂ fun message => by rw [hseen _ h₁, hseen _ h₂]
    refine ⟨t₂, ht₂, ?_⟩
    unfold SameEnding
    rw [hsummary₁, hsummary₂, hending₁, hending₂, hlatest, hfingerprint]
    refine ⟨rfl, rfl, ?_⟩
    simp only [Option.map_some, Option.some.injEq, ConversationSummary.mk.injEq, Prod.mk.injEq, true_and]
    constructor
    . rintro ⟨hid, _, hchecked⟩
      refine ⟨?_, hchecked⟩
      exact hmessages.ids _ ((hseen _ h₁ _).mp hingested₁.read_mem) _
        ((hseen _ h₂ _).mp hingested₂.read_mem) hid
    . rintro ⟨hread, hchecked⟩
      exact ⟨congrArg _ hread, congrArg _ hread, hchecked⟩

namespace Sample

attribute [local instance] Digest.checksum

/--
An inbox that has nothing of the thread yet.
-/
def unread : SourcedInbox where
  inbox := (inboxService.run (.new store) connected).inbox
  sourceCheckedAt := fun _ => none

def asked : ProviderMessage :=
  message "m1"

def added : ProviderMessage :=
  { message "m2" with subject := "Refund and exchange", receivedAt := 2 }

def askedThread : ProviderThread where
  providerThreadId := "T"
  messages := [asked]
  messages_ne_nil := by decide
  messages_length := by decide

def addedThread : ProviderThread where
  providerThreadId := "T"
  messages := [added]
  messages_ne_nil := by decide
  messages_length := by decide

def wholeThread : ProviderThread where
  providerThreadId := "T"
  messages := [added, asked]
  messages_ne_nil := by decide
  messages_length := by decide

/--
The messages come in as they were received.
-/
def oneByOne : List MailBatch :=
  [.selected .refundRequest askedThread, .synced [added]]

/--
The sync job runs before the thread is linked, and the import reads all of it.
-/
def atOnce : List MailBatch :=
  [.synced [asked], .selected .refundRequest wholeThread]

/--
The sync job brings in a message that the import has not read.
-/
def backwards : List MailBatch :=
  [.selected .refundRequest addedThread, .synced [asked]]

theorem thread_messages : ThreadMessages 0 "T" unread.inbox.messages [asked, added] where
  thread := by decide
  ids := by decide
  new := by decide +kernel

theorem splits_of {batches : List MailBatch} (hsubset : ∀ batch ∈ batches,
      batch.messages ⊆ [asked, added] ∧ batch.messages.Nodup)
    (hthreads : ∀ category thread, .selected category thread ∈ batches → thread.providerThreadId = "T")
    (hcomplete : ∀ message ∈ [asked, added], ∃ batch ∈ batches.dropWhile MailBatch.isSynced,
      message ∈ batch.messages)
    : Splits "T" [asked, added] batches where
  holds batch hmem := by
    refine ⟨(hsubset batch hmem).1, (hsubset batch hmem).2, ?_⟩
    intro category thread heq
    exact hthreads category thread (heq ▸ hmem)
  complete := hcomplete

theorem oneByOne_splits : Splits "T" [asked, added] oneByOne := by
  apply splits_of (by decide) _ (by decide)
  intro category thread hmem
  simp only [oneByOne, List.mem_cons, MailBatch.selected.injEq, List.not_mem_nil, reduceCtorEq, or_false] at hmem
  exact hmem.2 ▸ rfl

theorem atOnce_splits : Splits "T" [asked, added] atOnce := by
  apply splits_of (by decide) _ (by decide)
  intro category thread hmem
  simp only [atOnce, List.mem_cons, MailBatch.selected.injEq, List.not_mem_nil, reduceCtorEq, or_false,
    false_or] at hmem
  exact hmem.2 ▸ rfl

theorem backwards_splits : Splits "T" [asked, added] backwards := by
  apply splits_of (by decide) _ (by decide)
  intro category thread hmem
  simp only [backwards, List.mem_cons, MailBatch.selected.injEq, List.not_mem_nil, reduceCtorEq, or_false]
    at hmem
  exact hmem.2 ▸ rfl

theorem batches_agree_atOnce : ∃ s₁ s₂, unread.ingestAll 0 oneByOne = .ok s₁
    ∧ unread.ingestAll 0 atOnce = .ok s₂ ∧ s₁.summary 0 "T" = s₂.summary 0 "T" := by
  obtain ⟨s₁, haccepted⟩ := Guard.isOk_iff.mp
    (by decide +kernel : (unread.ingestAll 0 oneByOne).isOk = true)
  obtain ⟨s₂, haccepted', _, _, hagree⟩ := batches_agree store connected (fun _ => none) 0 "T"
    [asked, added] (s := unread) rfl thread_messages (by decide +kernel) oneByOne_splits atOnce_splits haccepted
  exact ⟨s₁, s₂, haccepted, haccepted', hagree.mpr (by decide +kernel)⟩

/--
The same two messages in the other order: the conversation is named after the first one, and its source
counts as checked when that one was received.
-/
theorem order_matters : Splits "T" [asked, added] oneByOne ∧ Splits "T" [asked, added] backwards
    ∧ ((unread.ingestAll 0 oneByOne).toOption.bind fun s => s.summary 0 "T").map
      (fun summary => (summary.subject, summary.latestMessageAt, summary.sourceCheckedAt))
      = some ("Refund and exchange", 2, some 2)
    ∧ ((unread.ingestAll 0 backwards).toOption.bind fun s => s.summary 0 "T").map
      (fun summary => (summary.subject, summary.latestMessageAt, summary.sourceCheckedAt))
      = some ("Refund", 2, some 1) :=
  ⟨oneByOne_splits, backwards_splits, by decide +kernel, by decide +kernel⟩

end Sample

end CaseResolution
