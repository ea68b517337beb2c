import CaseResolution.Inbox.Lemmas.Mail
import CaseResolution.Inbox.Lemmas.Marks
import CaseResolution.Inbox.Lemmas.Reachable

/-!
This module contains the invariant of an inbox and the mailboxes it reads: whatever some reading has left
behind in the history of a mailbox is stored if its thread is linked.
-/

namespace CaseResolution

namespace Mailbox

variable {mailbox : Mailbox} {message : ProviderMessage} {n m : Nat}

theorem messages_append {more : Mailbox}
    : messages (mailbox ++ more) = messages mailbox ++ messages more := by
  exact List.flatten_append

theorem upTo_append {more : Mailbox} (h : n ≤ mailbox.length)
    : upTo (mailbox ++ more) n = upTo mailbox n := by
  unfold upTo
  rw [List.take_append_of_le_length h]

theorem mem_messages_of_upTo (h : message ∈ mailbox.upTo n) : message ∈ mailbox.messages := by
  unfold upTo messages at h
  obtain ⟨record, hrecord, hmem⟩ := List.mem_flatten.mp h
  exact List.mem_flatten.mpr ⟨record, List.mem_of_mem_take hrecord, hmem⟩

theorem mem_upTo_mono (hle : n ≤ m) (h : message ∈ mailbox.upTo n) : message ∈ mailbox.upTo m := by
  unfold upTo messages at h ⊢
  obtain ⟨record, hrecord, hmem⟩ := List.mem_flatten.mp h
  exact List.mem_flatten.mpr ⟨record, (List.take_subset_take_left mailbox hle) hrecord, hmem⟩

theorem mem_upTo_of_le (hle : mailbox.length ≤ n) (h : message ∈ mailbox.messages)
    : message ∈ mailbox.upTo n := by
  unfold upTo
  rwa [List.take_of_length_le hle]

/--
The messages of further records are those of the pages that list them.
-/
theorem mem_upTo_add (h : message ∈ mailbox.upTo (n + m))
    : message ∈ mailbox.upTo n ∨ message ∈ messages ((mailbox.drop n).take m) := by
  unfold upTo at h
  rwa [List.take_add, messages_append, List.mem_append] at h

theorem mem_thread {providerThreadId : String}
    : message ∈ mailbox.thread providerThreadId
      ↔ message ∈ mailbox.messages ∧ message.providerThreadId = providerThreadId := by
  unfold thread
  rw [List.mem_filter, decide_eq_true_iff]

/--
A message is known by its id.
-/
theorem eq_of_id_eq {other : ProviderMessage}
    (hids : (mailbox.messages.map ProviderMessage.providerMessageId).Nodup)
    (hmessage : message ∈ mailbox.messages) (hother : other ∈ mailbox.messages)
    (heq : message.providerMessageId = other.providerMessageId) : message = other := by
  exact List.inj_on_of_nodup_map hids hmessage hother heq

end Mailbox

namespace Provider

variable {p : Provider} {mailbox : Mailbox} {payload : HistoryPayload} {job : InboxSyncJob}
  {fetch : SyncFetch}

/--
A page that was read moves the reading on by the records it lists.
-/
theorem Lists.next_readPage (h : p.Lists mailbox (p.next fetch) payload)
    : p.next (fetch.readPage job payload) = p.next fetch + payload.history.length
      ∧ p.next (fetch.readPage job payload) ≤ mailbox.length := by
  have hpage : (fetch.readPage job payload).pageToken = payload.nextPageToken := rfl
  have hobserved : (fetch.readPage job payload).observedHistoryId = payload.historyId := rfl
  cases htoken : payload.nextPageToken with
  | none =>
    obtain ⟨hlength, hposition⟩ := h.last htoken
    have hnext : p.next (fetch.readPage job payload) = mailbox.length := by
      unfold Provider.next
      rw [hpage, hobserved, htoken]
      exact hposition
    omega
  | some pageToken =>
    obtain ⟨hoffset, hle⟩ := h.next pageToken htoken
    have hnext : p.next (fetch.readPage job payload) = p.offset pageToken := by
      unfold Provider.next
      rw [hpage, htoken]
    omega

theorem Lists.mem_history {message : ProviderMessage} {start : Nat} (h : p.Lists mailbox start payload)
    (hmem : message ∈ Mailbox.messages ((mailbox.drop start).take payload.history.length))
    : message.providerMessageId ∈ payload.history.flatten := by
  rw [h.history, ← List.map_flatten]
  exact List.mem_map_of_mem hmem

end Provider

namespace MailWorld

/--
What holds of an inbox whose imports cover what was passed.
-/
structure Sound (p : Provider) (w : MailWorld) : Prop where
  tasks : w.desk.TasksStored
  connected : w.desk.AllConnected
  ids_nodup : ∀ c, ((w.mailbox c).messages.map ProviderMessage.providerMessageId).Nodup
  links_unique : ∀ (i j : Nat) a b, w.desk.inbox.conversations[i]? = some a →
    w.desk.inbox.conversations[j]? = some b → a.connectionId = b.connectionId →
    a.providerThreadId = b.providerThreadId → i = j
  rows_nodup : (w.desk.inbox.messages.map ExternalMessage.key).Nodup
  rows : ∀ row ∈ w.desk.inbox.messages, ∃ conversation,
    w.desk.inbox.conversations[row.conversationId]? = some conversation
      ∧ conversation.connectionId = row.connectionId
      ∧ ∃ message ∈ (w.mailbox row.connectionId).messages,
        message.providerMessageId = row.providerMessageId
          ∧ message.providerThreadId = conversation.providerThreadId
  imports : ∀ pending ∈ w.desk.imports, ∀ message ∈ pending.thread.messages,
    message ∈ (w.mailbox pending.connectionId).messages
      ∧ message.providerThreadId = pending.thread.providerThreadId
  reads : ∀ sync ∈ w.desk.syncs, ∀ started, SyncFetch.start sync.work = .ok started →
    ∀ fetch, sync.fetch = .ok fetch →
      p.next fetch ≤ (w.mailbox sync.work.job.connectionId).length
        ∧ ∀ message ∈ (w.mailbox sync.work.job.connectionId).upTo (p.next fetch),
          message ∈ (w.mailbox sync.work.job.connectionId).upTo (p.next started)
            ∨ message.providerMessageId ∈ fetch.messageIds
  marks : ∀ c mark, w.desk.Mark p c mark → mark ≤ (w.mailbox c).length
  passed : ∀ c message, w.Passed p c message → ∀ conversation ∈ w.desk.inbox.conversations,
    conversation.connectionId = c → conversation.providerThreadId = message.providerThreadId →
    (c, message.providerMessageId) ∈ w.desk.inbox.messages.map ExternalMessage.key

variable {p : Provider} {w : MailWorld}

/--
Arriving messages change nothing of what was read before.
-/
theorem Sound.arrive (h : w.Sound p) {mailbox : Nat → Mailbox}
    (hmore : ∀ c, ∃ more, mailbox c = w.mailbox c ++ more)
    (hids : ∀ c, ((mailbox c).messages.map ProviderMessage.providerMessageId).Nodup)
    : MailWorld.Sound p { w with mailbox := mailbox } := by
  have hmessages : ∀ c message, message ∈ (w.mailbox c).messages → message ∈ (mailbox c).messages := by
    intro c message hmem
    obtain ⟨more, heq⟩ := hmore c
    rw [heq, Mailbox.messages_append]
    exact List.mem_append_left _ hmem
  have hlength : ∀ c, (w.mailbox c).length ≤ (mailbox c).length := by
    intro c
    obtain ⟨more, heq⟩ := hmore c
    rw [heq, List.length_append]
    omega
  have hupTo : ∀ c n, n ≤ (w.mailbox c).length → (mailbox c).upTo n = (w.mailbox c).upTo n := by
    intro c n hle
    obtain ⟨more, heq⟩ := hmore c
    rw [heq]
    exact Mailbox.upTo_append hle
  constructor
  . exact h.tasks
  . exact h.connected
  . exact hids
  . exact h.links_unique
  . exact h.rows_nodup
  . intro row hrow
    obtain ⟨conversation, hconversation, hconnection, message, hmessage, hfacts⟩ := h.rows row hrow
    exact ⟨conversation, hconversation, hconnection, message, hmessages _ _ hmessage, hfacts⟩
  . intro pending hpending message hmessage
    obtain ⟨hmem, hthread⟩ := h.imports pending hpending message hmessage
    exact ⟨hmessages _ _ hmem, hthread⟩
  . intro sync hsync started hstarted fetch hfetch
    obtain ⟨hle, hread⟩ := h.reads sync hsync started hstarted fetch hfetch
    have hstart := h.marks _ _ (.started hsync rfl hstarted)
    dsimp only
    rw [hupTo _ _ hle, hupTo _ _ hstart]
    exact ⟨Nat.le_trans hle (hlength _), hread⟩
  . intro c mark hmark
    exact Nat.le_trans (h.marks c mark hmark) (hlength c)
  . intro c message ⟨mark, hmark, hmem⟩
    dsimp only at hmem
    rw [hupTo _ _ (h.marks c mark hmark)] at hmem
    exact h.passed c message ⟨mark, hmark, hmem⟩

namespace Sound

variable [Digest] {d' : InboxDesk} {command : InboxCommand} {output : InboxOutput}

/--
A thread is linked to one case only.
-/
theorem links_unique_effect (h : w.Sound p) (heffect : InboxEffect w.desk command d' output)
    : ∀ (i j : Nat) a b, d'.inbox.conversations[i]? = some a → d'.inbox.conversations[j]? = some b →
        a.connectionId = b.connectionId → a.providerThreadId = b.providerThreadId → i = j := by
  -- the imported thread was not linked before
  have hnew : ∀ task category pending (j : Nat) (a b stored : ExternalConversation),
      command = .importThread task category → w.desk.imports[task]? = some pending →
      a.connectionId = pending.connectionId →
      w.desk.inbox.findConversation pending.connectionId pending.thread.providerThreadId = none →
      (∃ message ∈ pending.thread.messages, a.providerThreadId = message.providerThreadId) →
      w.desk.inbox.conversations[j]? = some stored → stored.SameLink b →
      a.connectionId = b.connectionId → a.providerThreadId = b.providerThreadId → False := by
    intro task category pending j a b stored _ hread hconnection hnone ⟨message, hmessage, hthread⟩
      hstored hlink hsame hsameThread
    have hof := (h.imports pending (List.mem_of_getElem? hread) message hmessage).2
    have hfree := InboxStore.findConversation_eq_none hnone stored (List.mem_of_getElem? hstored)
      (hlink.1.trans (hsame.symm.trans hconnection))
    exact hfree (hlink.2.1.trans (hsameThread.symm.trans (hthread.trans hof)))
  intro i j a b hi hj hconnection hthread
  obtain ⟨stored, hstored, hlink⟩ | ⟨task, category, pending, hcommand, hread, hlength, hc, hnone,
      hfrom⟩ := heffect.conversation_origin h.tasks hi
  . obtain ⟨stored', hstored', hlink'⟩ | ⟨task, category, pending, hcommand, hread, _, hc, hnone,
        hfrom⟩ := heffect.conversation_origin h.tasks hj
    . apply h.links_unique i j stored stored' hstored hstored'
      . exact hlink.1.trans (hconnection.trans hlink'.1.symm)
      . exact hlink.2.1.trans (hthread.trans hlink'.2.1.symm)
    . exact (hnew task category pending i b a stored hcommand hread hc hnone hfrom hstored hlink
        hconnection.symm hthread.symm).elim
  . obtain ⟨stored', hstored', hlink'⟩ | ⟨_, _, _, _, _, hlength', _⟩ :=
      heffect.conversation_origin h.tasks hj
    . exact (hnew task category pending j a b stored' hcommand hread hc hnone hfrom hstored' hlink'
        hconnection hthread).elim
    . exact hlength.trans hlength'.symm

/--
Messages are filed under the thread they belong to.
-/
theorem rows_effect (h : w.Sound p) (heffect : InboxEffect w.desk command d' output)
    (htruthful : p.Truthful w (.command command))
    : ∀ row ∈ d'.inbox.messages, ∃ conversation,
        d'.inbox.conversations[row.conversationId]? = some conversation
          ∧ conversation.connectionId = row.connectionId
          ∧ ∃ message ∈ (w.mailbox row.connectionId).messages,
            message.providerMessageId = row.providerMessageId
              ∧ message.providerThreadId = conversation.providerThreadId := by
  have hextended := (heffect.threads_extended h.tasks).1
  intro row hrow
  obtain hold | ⟨now, task, getMessage, sync, messageId, message, conversation, hcommand, hpending, hof,
      hconversation, hconnection, hthread, hkey⟩ | ⟨task, category, pending, message, conversation,
      hcommand, hread, hmessage, hconversation, hconnection, hthread, hkey⟩ :=
    heffect.row_origin h.tasks hrow
  . obtain ⟨conversation, hconversation, hconnection, message, hmessage, hid, hthread⟩ := h.rows row hold
    obtain ⟨conversation', hconversation', hlink⟩ := hextended _ _ hconversation
    exact ⟨conversation', hconversation', hlink.1.symm.trans hconnection, message, hmessage, hid,
      hthread.trans hlink.2.1⟩
  . subst hcommand
    obtain ⟨hmailbox, _⟩ := htruthful sync hpending messageId message hof
    obtain ⟨conversation', hconversation', hlink⟩ := hextended _ _ hconversation
    obtain ⟨hc, hid⟩ := Prod.mk.inj hkey
    refine ⟨conversation', hconversation', ?_, message, hc ▸ hmailbox, hid.symm, ?_⟩
    . exact hlink.1.symm.trans (hconnection.trans hc.symm)
    . exact hthread.symm.trans hlink.2.1
  . obtain ⟨hmailbox, hmessageThread⟩ := h.imports pending (List.mem_of_getElem? hread) message hmessage
    obtain ⟨hc, hid⟩ := Prod.mk.inj hkey
    refine ⟨conversation, hconversation, hconnection.trans hc.symm, message, hc ▸ hmailbox, hid.symm, ?_⟩
    cases hthread with
    | inl heq => exact hmessageThread.trans heq.symm
    | inr hother =>
      obtain ⟨other, hmem, heq⟩ := hother
      have hotherThread := (h.imports pending (List.mem_of_getElem? hread) other hmem).2
      exact hmessageThread.trans (hotherThread.symm.trans heq.symm)

/--
What was read of a thread are messages of the mailbox.
-/
theorem imports_effect (h : w.Sound p) (heffect : InboxEffect w.desk command d' output)
    (htruthful : p.Truthful w (.command command))
    : ∀ pending ∈ d'.imports, ∀ message ∈ pending.thread.messages,
        message ∈ (w.mailbox pending.connectionId).messages
          ∧ message.providerThreadId = pending.thread.providerThreadId := by
  intro pending hpending message hmessage
  obtain hold | ⟨actor, payload, hcommand, hread, _⟩ := heffect.import_origin hpending
  . exact h.imports pending hold message hmessage
  . subst hcommand
    unfold GmailReadAdapter.getThread at hread
    split at hread
    . cases hread
    . rw [Guard.pure_eq_ok] at hread
      rw [← hread] at hmessage ⊢
      have hmem := List.mem_of_mem_take hmessage
      rw [show payload.messages = _ from htruthful, Mailbox.mem_thread] at hmem
      exact hmem

/--
What was read for a job are the messages from its start on.
-/
theorem reads_effect (h : w.Sound p) (heffect : InboxEffect w.desk command d' output)
    (htruthful : p.Truthful w (.command command)) (hcovers : w.Covers p (.command command))
    (hmarks : ∀ c mark, d'.Mark p c mark → mark ≤ (w.mailbox c).length)
    : ∀ sync ∈ d'.syncs, ∀ started, SyncFetch.start sync.work = .ok started →
        ∀ fetch, sync.fetch = .ok fetch →
          p.next fetch ≤ (w.mailbox sync.work.job.connectionId).length
            ∧ ∀ message ∈ (w.mailbox sync.work.job.connectionId).upTo (p.next fetch),
              message ∈ (w.mailbox sync.work.job.connectionId).upTo (p.next started)
                ∨ message.providerMessageId ∈ fetch.messageIds := by
  intro sync' hsync' started hstarted fetch' hfetch'
  obtain hold | ⟨task, payload, sync, fetch, hcommand, hpending, hfetched, _, heq⟩ | ⟨hpages, _⟩ :=
    heffect.sync_origin hsync'
  . exact h.reads sync' hold started hstarted fetch' hfetch'
  . subst hcommand heq
    rw [PendingSync.fetch_read payload hfetched, Except.ok.injEq] at hfetch'
    obtain ⟨_, hread⟩ := h.reads sync (List.mem_of_getElem? hpending) started hstarted fetch hfetched
    have hlists := htruthful sync fetch hpending hfetched
    have hmoved : p.next (fetch.readPage sync.work.job payload) = p.next fetch + payload.history.length
        ∧ p.next (fetch.readPage sync.work.job payload)
          ≤ (w.mailbox sync.work.job.connectionId).length := hlists.next_readPage
    obtain ⟨hnext, hle⟩ := hmoved
    subst hfetch'
    refine ⟨hle, ?_⟩
    intro message hmem
    rw [hnext] at hmem
    rw [SyncFetch.mem_readPage]
    cases Mailbox.mem_upTo_add hmem with
    | inl hbefore => exact (hread message hbefore).imp_right .inl
    | inr hpage =>
      exact .inr (.inr (hcovers sync fetch hpending hfetched _ (hlists.mem_history hpage)))
  . -- nothing was read yet
    have hfirst : fetch' = started := by
      obtain ⟨first, hfirst, heq⟩ := PendingSync.fetch_eq_ok.mp hfetch'
      rw [hpages, List.foldl_nil] at heq
      exact heq.symm.trans (Except.ok.inj (hfirst.symm.trans hstarted))
    subst hfirst
    exact ⟨hmarks _ _ (.started hsync' rfl hstarted), fun message hmem => .inl hmem⟩

theorem marks_effect (h : w.Sound p) (heffect : InboxEffect w.desk command d' output)
    (htruthful : p.Truthful w (.command command))
    : ∀ c mark, d'.Mark p c mark → mark ≤ (w.mailbox c).length := by
  intro c mark hmark
  cases heffect.mark_origin h.tasks hmark with
  | kept hbefore => exact h.marks c mark hbefore
  | established hunconnected hcommand =>
    subst hcommand
    exact Nat.le_of_eq (htruthful _ rfl)
  | @read now task getMessage sync findings fetch _ _ hpending hconnected hfetched =>
    obtain ⟨started, hstarted, _⟩ := PendingSync.fetch_eq_ok.mp hfetched
    exact hconnected ▸ (h.reads sync (List.mem_of_getElem? hpending) started hstarted fetch hfetched).1

/--
A sync job that completes stores what it has read of a linked thread.
-/
theorem stored_of_read (h : w.Sound p) {now : Instant} {task : Nat}
    {getMessage : String → Except Error ProviderMessage} {sync : PendingSync} {fetch : SyncFetch}
    (heffect : InboxEffect w.desk (.persist now task getMessage) d' output)
    (htruthful : p.Truthful w (.command (.persist now task getMessage)))
    (hpending : w.desk.syncs[task]? = some sync) (hfetched : sync.fetch = .ok fetch)
    {message : ProviderMessage}
    (hmessage : message ∈ (w.mailbox sync.work.job.connectionId).messages)
    (hread : message.providerMessageId ∈ fetch.messageIds) {conversation : ExternalConversation}
    (hconversation : conversation ∈ w.desk.inbox.conversations)
    (hconnection : conversation.connectionId = sync.work.job.connectionId)
    (hthread : conversation.providerThreadId = message.providerThreadId)
    : (sync.work.job.connectionId, message.providerMessageId)
        ∈ d'.inbox.messages.map ExternalMessage.key := by
  obtain ⟨other, fetch', messages, findings, added, _, _, _, hother, hgot, hparts⟩ :=
    heffect.persist_parts h.tasks
  have hsame : other = sync := Option.some.inj (hother.symm.trans hpending)
  subst hsame
  have hsameFetch : fetch' = fetch := Except.ok.inj (hparts.fetched.symm.trans hfetched)
  subst hsameFetch
  rw [← SyncFetch.mem_wanted (PendingSync.fetch_withinBudget hfetched)] at hread
  obtain ⟨got, hmem, hof⟩ := Guard.exists_of_mapM_eq_ok hgot hread
  obtain ⟨hmailbox, hid⟩ := htruthful other hpending _ got hof
  have hgotIt : got = message :=
    Mailbox.eq_of_id_eq (h.ids_nodup _) hmailbox hmessage hid
  subst hgotIt
  obtain ⟨t, hpersisted, hmessages⟩ := hparts.persisted
  have hfound : got ∈ findings.map Prod.fst := by
    rw [hpersisted.found, mem_inOrder]
    exact hmem
  obtain ⟨⟨found, finding⟩, hfinding, heq⟩ := List.mem_map.mp hfound
  dsimp only at heq
  subst heq
  rw [← hmessages]
  apply hpersisted.stored found finding hfinding
  -- the thread is linked
  intro hunlinked
  subst hunlinked
  exact InboxStore.findConversation_eq_none (hpersisted.unlinked found hfinding) conversation
    hconversation hconnection hthread

/--
What a reading has left behind is stored if its thread is linked: the marks move over messages that were
stored, and a thread is linked with what the marks have left behind of it.
-/
theorem passed_effect (h : w.Sound p) (heffect : InboxEffect w.desk command d' output)
    (htruthful : p.Truthful w (.command command)) (hcovers : w.Covers p (.command command))
    : ∀ c mark message, d'.Mark p c mark → message ∈ (w.mailbox c).upTo mark →
        ∀ conversation ∈ d'.inbox.conversations, conversation.connectionId = c →
        conversation.providerThreadId = message.providerThreadId →
        (c, message.providerMessageId) ∈ d'.inbox.messages.map ExternalMessage.key := by
  intro c mark message hmark hmem conversation' hconversation' hconnection hthread
  obtain ⟨added, hmessages⟩ := (heffect.threads_extended h.tasks).2
  have hkept : ∀ key ∈ w.desk.inbox.messages.map ExternalMessage.key,
      key ∈ d'.inbox.messages.map ExternalMessage.key := by
    intro key hkey
    rw [hmessages, List.map_append]
    exact List.mem_append_left _ hkey
  obtain ⟨i, hi⟩ := List.mem_iff_getElem?.mp hconversation'
  have horigin := heffect.conversation_origin h.tasks hi
  -- what was passed before, with the links of now
  have hpassed : w.Passed p c message →
      (c, message.providerMessageId) ∈ d'.inbox.messages.map ExternalMessage.key := by
    intro hpassed
    obtain ⟨stored, hstored, hlink⟩ | ⟨task, category, pending, hcommand, hread, _, hc, _, first, hfirst,
        hof⟩ := horigin
    . exact hkept _ (h.passed c message hpassed stored (List.mem_of_getElem? hstored)
        (hlink.1.trans hconnection) (hlink.2.1.trans hthread))
    . subst hcommand
      have hsame : pending.connectionId = c := hc.symm.trans hconnection
      subst hsame
      have hfirstThread := (h.imports pending (List.mem_of_getElem? hread) first hfirst).2
      have hmessageThread : message.providerThreadId = pending.thread.providerThreadId :=
        hthread.symm.trans (hof.trans hfirstThread)
      cases hcovers pending hread message hpassed hmessageThread with
      | inl hin =>
        obtain ⟨other, _, _, _, hother, himported⟩ := heffect.import_parts
        have heq : other = pending := Option.some.inj (hother.symm.trans hread)
        subst heq
        exact himported.stored message hin
      | inr hstored => exact hkept _ (InboxStore.hasMessage_iff.mp hstored)
  cases heffect.mark_origin h.tasks hmark with
  | kept hbefore => exact hpassed ⟨mark, hbefore, hmem⟩
  | established hunconnected hcommand =>
    -- no thread of the connection is linked yet
    obtain ⟨stored, hstored, hlink⟩ | ⟨_, _, _, himport, _⟩ := horigin
    . have hconnected := h.connected.conversations stored (List.mem_of_getElem? hstored)
      rw [hlink.1.trans hconnection] at hconnected
      exact absurd hunconnected hconnected.findCheckpoint_ne
    . rw [hcommand] at himport
      cases himport
  | @read now task getMessage sync findings fetch hcommand _ hpending hconnected hfetched =>
    subst hcommand hconnected
    obtain ⟨started, hstarted, _⟩ := PendingSync.fetch_eq_ok.mp hfetched
    obtain ⟨_, hreads⟩ := h.reads sync (List.mem_of_getElem? hpending) started hstarted fetch hfetched
    cases hreads message hmem with
    | inl hbefore =>
      exact hpassed ⟨_, .started (List.mem_of_getElem? hpending) rfl hstarted, hbefore⟩
    | inr hread =>
      obtain ⟨stored, hstored, hlink⟩ | ⟨_, _, _, himport, _⟩ := horigin
      . exact h.stored_of_read heffect htruthful hpending hfetched
          (Mailbox.mem_messages_of_upTo hmem) hread (List.mem_of_getElem? hstored)
          (hlink.1.trans hconnection) (hlink.2.1.trans hthread)
      . cases himport

theorem effect (h : w.Sound p) (heffect : InboxEffect w.desk command d' output)
    (htruthful : p.Truthful w (.command command)) (hcovers : w.Covers p (.command command))
    : MailWorld.Sound p { w with desk := d' } where
  tasks := heffect.tasksStored h.tasks
  connected := h.connected.effect h.tasks heffect
  ids_nodup := h.ids_nodup
  links_unique := h.links_unique_effect heffect
  rows_nodup := heffect.messages_nodup h.rows_nodup
  rows := h.rows_effect heffect htruthful
  imports := h.imports_effect heffect htruthful
  reads := h.reads_effect heffect htruthful hcovers (h.marks_effect heffect htruthful)
  marks := h.marks_effect heffect htruthful
  passed := by
    intro c message ⟨mark, hmark, hmem⟩
    exact h.passed_effect heffect htruthful hcovers c mark message hmark hmem

/--
Every event of a truthful provider that covers what was passed keeps the invariant.
-/
theorem next (h : w.Sound p) {event : MailEvent} (htruthful : p.Truthful w event)
    (hcovers : w.Covers p event) : (mailService.next w event).Sound p := by
  apply Machine.next_cases h
  intro w' output haccepted
  unfold mailService MailWorld.step at haccepted
  cases event with
  | arrive connectionId record =>
    dsimp only at haccepted
    rw [Guard.pure_eq_ok, Prod.mk.injEq] at haccepted
    rw [← haccepted.1]
    apply h.arrive
    . intro c
      rw [Function.update_apply]
      split
      . next heq => exact ⟨[record], by rw [heq]⟩
      . exact ⟨[], (List.append_nil _).symm⟩
    . intro c
      rw [Function.update_apply]
      split
      . exact htruthful
      . exact h.ids_nodup c
  | command command =>
    dsimp only at haccepted
    rw [Guard.bind_eq_ok] at haccepted
    obtain ⟨⟨d', answer⟩, hstep, heq⟩ := haccepted
    rw [Guard.pure_eq_ok, Prod.mk.injEq] at heq
    rw [← heq.1]
    exact h.effect (InboxDesk.step_effect hstep) htruthful hcovers

end Sound

/--
The service before an inbox is connected, and no mailbox has a message.
-/
def new (store : Store) : MailWorld where
  desk := .new store
  mailbox _ := []

theorem new_sound (store : Store) : (MailWorld.new store).Sound p where
  tasks := by
    intro sync hsync
    cases hsync
  connected := by
    constructor
    . intro profile hmem
      cases hmem
    . intro pending hmem
      cases hmem
    . intro conversation hmem
      cases hmem
  ids_nodup _ := List.nodup_nil
  links_unique := by
    intro i j a b hi
    cases hi
  rows_nodup := List.nodup_nil
  rows := by
    intro row hmem
    cases hmem
  imports := by
    intro pending hmem
    cases hmem
  reads := by
    intro sync hmem
    cases hmem
  marks := by
    intro c mark hmark
    cases hmark with
    | stored hstored => cases hstored <;> contradiction
    | started hpending => cases hpending
  passed := by
    intro c message _ conversation hmem
    cases hmem

end MailWorld

end CaseResolution
