import CaseResolution.Inbox.Lemmas.Sound

/-!
This module contains what linking a thread promises: once it is linked, every message the provider holds when
a sync job reads is recorded when the job has completed its last page.
-/

namespace CaseResolution

open Guard

/--
A job that reads a page and completes with its last one, with the events in between.
-/
structure ThreadSync where
  before : List MailEvent
  task : Nat
  payload : HistoryPayload
  between : List MailEvent
  now : Instant
  getMessage : String → Except Error ProviderMessage
  after : MailWorld
  sync : PendingSync
  findings : List (ProviderMessage × MessageFinding)

namespace ThreadSync

variable [Digest] (store : Store) (job : ThreadSync)

/--
The state the page is read in.
-/
def atRead : MailWorld :=
  mailService.run (.new store) job.before

def atCompletion : MailWorld :=
  mailService.run (.new store) (job.before ++ .command (.readPage job.task job.payload) :: job.between)

structure OccursIn (events : List MailEvent) : Prop where
  run : ∃ rest, events = job.before ++ .command (.readPage job.task job.payload) :: job.between
    ++ .command (.persist job.now job.task job.getMessage) :: rest
  read : ∃ answer, mailService.step (job.atRead store) (.command (.readPage job.task job.payload))
    = .ok answer
  completed : mailService.step (job.atCompletion store)
    (.command (.persist job.now job.task job.getMessage))
      = .ok (job.after, .persisted job.sync job.findings)
  last : job.sync.nextPageToken = none

end ThreadSync

namespace MailWorld

variable {p : Provider} {w w' : MailWorld} {c task : Nat}

/--
What holds of a job from the moment it read a page of `w` on: if it stops with a last page, it has read what
the mailbox held then.
-/
structure ReadOn (p : Provider) (w : MailWorld) (c task : Nat) (w' : MailWorld) : Prop where
  mailbox : ∃ more, w'.mailbox c = w.mailbox c ++ more
  links : Rows.Extends ExternalConversation.SameLink w.desk.inbox.conversations
    w'.desk.inbox.conversations
  pending : ∃ sync, w'.desk.syncs[task]? = some sync ∧ sync.connectionId = c
    ∧ ∀ fetch, sync.fetch = .ok fetch → fetch.pageToken = none →
      (w.mailbox c).length ≤ p.next fetch

/--
The page after which nothing is left ends with the records of the mailbox.
-/
theorem length_le_of_last {sync : PendingSync} {fetch fetch' : SyncFetch} {payload : HistoryPayload}
    (hlists : p.Lists (w.mailbox c) (p.next fetch) payload) (hfetched : sync.fetch = .ok fetch)
    (hfetch' : ({ sync with pages := sync.pages ++ [payload] } : PendingSync).fetch = .ok fetch')
    (hlast : fetch'.pageToken = none) : (w.mailbox c).length ≤ p.next fetch' := by
  rw [PendingSync.fetch_read payload hfetched, Except.ok.injEq] at hfetch'
  subst hfetch'
  have htoken : payload.nextPageToken = none := hlast
  rw [hlists.next_readPage.1]
  exact Nat.le_of_eq (hlists.last htoken).1.symm

variable [Digest]

theorem step_command_eq_ok {command : InboxCommand} {output : InboxOutput}
    (h : mailService.step w (.command command) = .ok (w', output))
    : ∃ d', InboxEffect w.desk command d' output ∧ w' = { w with desk := d' } := by
  unfold mailService MailWorld.step at h
  dsimp only at h
  rw [bind_eq_ok] at h
  obtain ⟨⟨d', answer⟩, hstep, heq⟩ := h
  rw [pure_eq_ok, Prod.mk.injEq] at heq
  rw [← heq.1, ← heq.2]
  exact ⟨d', InboxDesk.step_effect hstep, rfl⟩

theorem readOn_start {payload : HistoryPayload} {output : InboxOutput}
    (htruthful : p.Truthful w (.command (.readPage task payload)))
    (h : mailService.step w (.command (.readPage task payload)) = .ok (w', output))
    : ∃ c, w.ReadOn p c task w' := by
  obtain ⟨d', heffect, heq⟩ := step_command_eq_ok h
  subst heq
  cases heffect with
  | @pageRead _ _ sync fetch hpending hfetched _ =>
    refine ⟨sync.connectionId, ⟨[], (List.append_nil _).symm⟩,
      Rows.Extends.refl ExternalConversation.SameLink.refl _,
      { sync with pages := sync.pages ++ [payload] }, ?_, rfl, ?_⟩
    . exact List.getElem?_set_self (List.getElem?_eq_some_iff.mp hpending).1
    . intro fetch' hfetch' hlast
      exact length_le_of_last (htruthful sync fetch hpending hfetched) hfetched hfetch' hlast

theorem ReadOn.next {w₀ : MailWorld} (h : w₀.ReadOn p c task w) (hsound : w.Sound p) {event : MailEvent}
    (htruthful : p.Truthful w event) : w₀.ReadOn p c task (mailService.next w event) := by
  apply Machine.next_cases h
  intro w' output haccepted
  obtain ⟨more, hmailbox⟩ := h.mailbox
  obtain ⟨sync, hpending, hconnection, hread⟩ := h.pending
  cases event with
  | arrive connectionId record =>
    unfold mailService MailWorld.step at haccepted
    dsimp only at haccepted
    rw [pure_eq_ok, Prod.mk.injEq] at haccepted
    rw [← haccepted.1]
    refine ⟨?_, h.links, sync, hpending, hconnection, hread⟩
    dsimp only
    rw [Function.update_apply]
    split
    . next heq => exact ⟨more ++ [record], by rw [← heq, hmailbox, List.append_assoc]⟩
    . exact ⟨more, hmailbox⟩
  | command command =>
    obtain ⟨d', heffect, heq⟩ := step_command_eq_ok haccepted
    subst heq
    refine ⟨⟨more, hmailbox⟩, ?_, ?_⟩
    . exact Rows.Extends.trans (fun hab hbc => hab.trans hbc) h.links
        (heffect.threads_extended hsound.tasks).1
    . cases heffect with
      | claimed _ =>
        refine ⟨sync, ?_, hconnection, hread⟩
        rw [List.getElem?_append_left (List.getElem?_eq_some_iff.mp hpending).1]
        exact hpending
      | @pageRead other payload stored fetch hother hfetched _ =>
        by_cases hsame : other = task
        . subst hsame
          have heq : stored = sync := Option.some.inj (hother.symm.trans hpending)
          subst heq
          refine ⟨{ stored with pages := stored.pages ++ [payload] },
            List.getElem?_set_self (List.getElem?_eq_some_iff.mp hpending).1, hconnection, ?_⟩
          intro fetch' hfetch' hlast
          have hlength := length_le_of_last (htruthful stored fetch hother hfetched) hfetched hfetch' hlast
          have hmore := congrArg List.length hmailbox
          rw [List.length_append] at hmore
          rw [show stored.work.job.connectionId = c from hconnection] at hlength
          omega
        . refine ⟨sync, ?_, hconnection, hread⟩
          rw [List.getElem?_set_ne hsame]
          exact hpending
      | _ => exact ⟨sync, hpending, hconnection, hread⟩

/--
What is asked of the events of a run: the provider is truthful, and imports and pages cover what there is.
-/
def Covered (p : Provider) (w : MailWorld) (event : MailEvent) : Prop :=
  p.Truthful w event ∧ w.Covers p event

theorem run_sound {store : Store} {events : List MailEvent}
    (halong : mailService.Along (Covered p) (.new store) events)
    : (mailService.run (.new store) events).Sound p := by
  apply Machine.run_invariant_along (P := Sound p) _ (new_sound store) halong
  intro w event hsound hcovered
  exact hsound.next hcovered.1 hcovered.2

/--
A completed job has recorded what it read of a linked thread, once and in its conversation.
-/
theorem recorded_of_completed {now : Instant} {getMessage : String → Except Error ProviderMessage}
    {sync : PendingSync} {findings : List (ProviderMessage × MessageFinding)} {fetch : SyncFetch}
    (hsound : w.Sound p) (hsound' : w'.Sound p)
    (h : mailService.step w (.command (.persist now task getMessage))
      = .ok (w', .persisted sync findings))
    (hfetched : sync.fetch = .ok fetch) (hlast : fetch.pageToken = none) {i : Nat}
    {conversation : ExternalConversation}
    (hconversation : w'.desk.inbox.conversations[i]? = some conversation)
    (hconnection : conversation.connectionId = sync.connectionId) {message : ProviderMessage}
    (hmessage : message ∈ (w.mailbox sync.connectionId).upTo (p.next fetch))
    (hthread : conversation.providerThreadId = message.providerThreadId)
    : ∃ row, w'.desk.inbox.messages.filter
          (fun row => row.key = (sync.connectionId, message.providerMessageId)) = [row]
        ∧ row.conversationId = i := by
  obtain ⟨d', heffect, heq⟩ := step_command_eq_ok h
  subst heq
  have hparts := heffect.persist_parts hsound.tasks
  obtain ⟨other, fetch', messages, findings', added, checkpointId, checkpoint, hanswer, _, _, hparts⟩ :=
    hparts
  cases hanswer
  have hsameFetch : fetch' = fetch := Except.ok.inj (hparts.fetched.symm.trans hfetched)
  subst hsameFetch
  -- the connection has committed to what was read
  obtain ⟨hstored, hof⟩ := InboxStore.findCheckpoint_eq_some hparts.found
  have hcommitted : (⟨d', w.mailbox⟩ : MailWorld).desk.Mark p sync.connectionId (p.next fetch') := by
    unfold Provider.next
    rw [hlast]
    have hcheckpoint : { checkpoint.observed now fetch'.observedHistoryId none with
        version := checkpoint.version + 1 } ∈ d'.inbox.checkpoints := by
      rw [hparts.checkpoints, hlast]
      exact List.mem_of_getElem? (List.getElem?_set_self (List.getElem?_eq_some_iff.mp hstored).1)
    exact .stored (.committed hcheckpoint hof rfl)
  have hkey := hsound'.passed sync.connectionId message ⟨_, hcommitted, hmessage⟩ conversation
    (List.mem_of_getElem? hconversation) hconnection hthread
  obtain ⟨row, hrow, hrowKey⟩ := List.mem_map.mp hkey
  refine ⟨row, ?_, ?_⟩
  . rw [← hrowKey]
    exact Rows.filter_key_eq hsound'.rows_nodup hrow
  . -- the conversation the row is filed in is that of the thread
    obtain ⟨hrowConnection, hrowId⟩ := Prod.mk.inj hrowKey
    obtain ⟨filed, hfiled, hfiledConnection, found, hfound, hid, hfoundThread⟩ := hsound'.rows row hrow
    rw [hrowConnection] at hfound hfiledConnection
    have hsame : found = message :=
      Mailbox.eq_of_id_eq (hsound'.ids_nodup _) hfound (Mailbox.mem_messages_of_upTo hmessage)
        (hid.trans hrowId)
    apply hsound'.links_unique row.conversationId i filed conversation hfiled hconversation
    . exact hfiledConnection.trans hconnection.symm
    . exact hfoundThread.symm.trans (hsame ▸ hthread.symm)

end MailWorld

/--
Let the provider be truthful. If no page carries more ids than were asked for, and every import commits what
the synchronization has passed of its thread, then a job that reads once a thread is linked and completes
its last page leaves every message of the thread that the provider held at the read recorded in the
conversation exactly once.
-/
theorem linked_thread_recorded [Digest] (p : Provider) (store : Store) (events : List MailEvent)
    (htruthful : mailService.Along p.Truthful (.new store) events)
    (hcovers : mailService.Along (MailWorld.Covers p) (.new store) events)
    : ∀ job : ThreadSync, job.OccursIn store events →
        ∀ (i : Nat) conversation, (job.atRead store).desk.inbox.conversations[i]? = some conversation →
        conversation.connectionId = job.sync.connectionId →
        ∀ message ∈ ((job.atRead store).mailbox job.sync.connectionId).thread
          conversation.providerThreadId,
          ∃ row, job.after.desk.inbox.messages.filter
              (fun row => row.key = (job.sync.connectionId, message.providerMessageId)) = [row]
            ∧ row.conversationId = i := by
  intro job ⟨⟨rest, hrun⟩, ⟨⟨w₁, answer⟩, hread⟩, hcompleted, hlast⟩ i conversation hconversation
    hconnection message hmessage
  have halong := Machine.along_and htruthful hcovers
  rw [hrun, Machine.along_append, Machine.along_append] at halong
  obtain ⟨⟨hbefore, hreadEvent, hbetween⟩, hpersistEvent, _⟩ := halong
  have hfirst : mailService.next (job.atRead store) (.command (.readPage job.task job.payload)) = w₁ :=
    Machine.next_of_ok hread
  have hsound₀ := MailWorld.run_sound hbefore
  have hsound₁ := hsound₀.next hreadEvent.1 hreadEvent.2
  obtain ⟨c, hreadOn⟩ := MailWorld.readOn_start hreadEvent.1 hread
  -- the job goes on reading until it completes
  have hend : (job.atCompletion store).Sound p ∧ (job.atRead store).ReadOn p c job.task
      (job.atCompletion store) := by
    unfold ThreadSync.atCompletion
    rw [Machine.run_append, Machine.run_cons]
    apply Machine.run_invariant_along
      (P := fun w => w.Sound p ∧ (job.atRead store).ReadOn p c job.task w) _ _ hbetween
    . intro w event ⟨hsound, hon⟩ hcovered
      exact ⟨hsound.next hcovered.1 hcovered.2, hon.next hsound hcovered.1⟩
    . exact ⟨hsound₁, hfirst ▸ hreadOn⟩
  obtain ⟨hsound, hon⟩ := hend
  have hsound' : job.after.Sound p := by
    rw [← Machine.next_of_ok hcompleted]
    exact hsound.next hpersistEvent.1 hpersistEvent.2
  obtain ⟨d', heffect, hafter⟩ := MailWorld.step_command_eq_ok hcompleted
  obtain ⟨_, fetch, _, _, _, _, _, hanswer, hpending, _, hparts⟩ := heffect.persist_parts hsound.tasks
  cases hanswer
  have htoken : fetch.pageToken = none := by
    unfold PendingSync.nextPageToken at hlast
    rw [hparts.fetched] at hlast
    exact hlast
  obtain ⟨sync, hsync, hc, hlength⟩ := hon.pending
  have hsame : sync = job.sync := Option.some.inj (hsync.symm.trans hpending)
  subst hsame hc
  obtain ⟨conversation', hconversation', hlink⟩ :=
    (Rows.Extends.trans (fun hab hbc => hab.trans hbc) hon.links
      (heffect.threads_extended hsound.tasks).1) i conversation hconversation
  rw [Mailbox.mem_thread] at hmessage
  obtain ⟨hheld, hthread⟩ := hmessage
  have hlinked : job.after.desk.inbox.conversations[i]? = some conversation' := by
    rw [hafter]
    exact hconversation'
  apply MailWorld.recorded_of_completed hsound hsound' hcompleted hparts.fetched htoken hlinked
  . exact hlink.1.symm.trans hconnection
  . obtain ⟨more, hmore⟩ := hon.mailbox
    rw [hmore]
    apply Mailbox.mem_upTo_mono (hlength fetch hparts.fetched htoken)
    rw [Mailbox.upTo_append (Nat.le_refl _)]
    exact Mailbox.mem_upTo_of_le (Nat.le_refl _) hheld
  . exact hlink.2.1.symm.trans hthread.symm

namespace Sample

attribute [local instance] Digest.checksum

/--
A provider whose ids are as long as what they stand for.
-/
def provider : Provider where
  position historyId := historyId.text.length
  offset pageToken := pageToken.text.length

section

variable {w : MailWorld} {task : Nat} {payload : HistoryPayload} {mailbox : Mailbox} {start : Nat}

theorem truthful_readPage (h : (w.desk.syncs[task]?.all fun sync => match sync.fetch with
      | .ok fetch => decide (w.mailbox sync.work.job.connectionId = mailbox
        ∧ provider.next fetch = start)
      | .error _ => false) = true)
    (hlists : provider.Lists mailbox start payload)
    : provider.Truthful w (.command (.readPage task payload)) := by
  intro sync fetch hpending hfetched
  rw [Option.all_eq_true] at h
  have hpage := h sync hpending
  rw [hfetched] at hpage
  obtain ⟨hmailbox, hstart⟩ := of_decide_eq_true hpage
  rw [hmailbox, hstart]
  exact hlists

theorem covers_readPage (h : (w.desk.syncs[task]?.all fun sync => match sync.fetch with
      | .ok fetch => decide (payload.history.flatten.length ≤ fetch.remaining sync.work.job)
      | .error _ => false) = true)
    : w.Covers provider (.command (.readPage task payload)) := by
  intro sync fetch hpending hfetched messageId hmem
  rw [Option.all_eq_true] at h
  have hpage := h sync hpending
  rw [hfetched] at hpage
  rw [List.take_of_length_le (of_decide_eq_true hpage)]
  exact hmem

theorem truthful_persist {now : Instant} {messageIds : List String}
    (h : (w.desk.syncs[task]?.all fun sync => messageIds.all fun messageId =>
      decide (message messageId ∈ (w.mailbox sync.work.job.connectionId).messages)) = true)
    : provider.Truthful w (.command (.persist now task (held messageIds))) := by
  intro sync hpending messageId found hof
  rw [Option.all_eq_true] at h
  have hheld := List.all_eq_true.mp (h sync hpending)
  unfold held at hof
  split at hof
  . next hmem =>
    rw [Except.ok.injEq] at hof
    subst hof
    exact ⟨of_decide_eq_true (hheld messageId hmem), rfl⟩
  . cases hof

theorem covers_import {category : CaseCategory} (h : (w.desk.imports[task]?.all fun pending =>
      (w.mailbox pending.connectionId).messages.all fun message =>
        decide (message ∈ pending.thread.messages)) = true)
    : w.Covers provider (.command (.importThread task category)) := by
  intro pending hread message ⟨mark, _, hmem⟩ _
  rw [Option.all_eq_true] at h
  have hall := List.all_eq_true.mp (h pending hread)
  exact .inl (of_decide_eq_true (hall message (Mailbox.mem_messages_of_upTo hmem)))

end

def arrived : List MailEvent :=
  [.arrive 0 [message "1"], .command (.establish 0 0 ["draft_create"] (some ⟨"x", by decide⟩)),
    .command (.readThread manager 0 ⟨"T", [message "1"]⟩)]

/--
A job that reads the second message of the thread.
-/
def passing : List MailEvent :=
  [.arrive 0 [message "2"], .command (.requestScheduled 1 0 "schedule:1" 1 5),
    .command (.claim 2 "A" 1 60 none), .command (.readPage 0 ⟨[["2"]], none, "xx", by decide⟩),
    .command (.persist 3 0 (held ["1", "2"]))]

def importing : MailEvent :=
  .command (.importThread 0 .refundRequest)

/--
A job that starts when the thread is linked.
-/
def following : List MailEvent :=
  [.command (.requestScheduled 4 0 "schedule:2" 1 5), .command (.claim 5 "A" 1 60 none),
    .command (.readPage 1 ⟨[], none, "xx", by decide⟩), .command (.persist 6 1 (held ["1", "2"]))]

/--
The second message arrives after the thread was read, and a job passes it before the thread is linked.
-/
def racing : List MailEvent :=
  arrived ++ passing ++ importing :: following

theorem racing_truthful : mailService.Along provider.Truthful (.new store) racing := by
  have hpage : provider.Lists [[message "1"], [message "2"]] 1 ⟨[["2"]], none, "xx", by decide⟩ :=
    ⟨rfl, fun _ => ⟨rfl, rfl⟩, nofun⟩
  have hrest : provider.Lists [[message "1"], [message "2"]] 2 ⟨[], none, "xx", by decide⟩ :=
    ⟨rfl, fun _ => ⟨rfl, rfl⟩, nofun⟩
  refine ⟨?_, ?_, ?_, ?_, ⟨⟩, ⟨⟩, truthful_readPage ?_ hpage, truthful_persist ?_, ⟨⟩, ⟨⟩, ⟨⟩,
    truthful_readPage ?_ hrest, truthful_persist ?_, ⟨⟩⟩
  . simp only [Provider.Truthful]
    decide +kernel
  . intro historyId hmem
    cases hmem
    decide +kernel
  . simp only [Provider.Truthful]
    decide +kernel
  . simp only [Provider.Truthful]
    decide +kernel
  . decide +kernel
  . decide +kernel
  . decide +kernel
  . decide +kernel

/--
The provider is truthful and holds two messages of the linked thread when the last job reads, and only one
is recorded when it has completed.
-/
theorem thread_loses : mailService.Along provider.Truthful (.new store) racing
    ∧ ∃ job : ThreadSync, job.OccursIn store racing
    ∧ ∃ (i : Nat) (conversation : ExternalConversation),
      (job.atRead store).desk.inbox.conversations[i]? = some conversation
      ∧ conversation.connectionId = job.sync.connectionId
      ∧ ∃ message ∈ ((job.atRead store).mailbox job.sync.connectionId).thread
          conversation.providerThreadId,
        job.after.desk.inbox.messages.filter
          (fun row => row.key = (job.sync.connectionId, message.providerMessageId)) = [] := by
  have hread : (mailService.step (mailService.run (.new store)
      (arrived ++ passing ++ importing :: following.take 2))
      (.command (.readPage 1 ⟨[], none, "xx", by decide⟩))).isOk = true := by
    decide +kernel
  have hanswer : InboxOutput.persists (fun after sync _ => decide (sync.nextPageToken = none
        ∧ sync.connectionId = 0
        ∧ after.desk.inbox.messages.filter (fun row => row.key = (0, "2")) = []))
      (mailService.step (mailService.run (.new store)
        (arrived ++ passing ++ importing :: following.take 3))
        (.command (.persist 6 1 (held ["1", "2"])))) = true := by
    decide +kernel
  have hlinked : ((mailService.run (.new store)
        (arrived ++ passing ++ importing :: following.take 2)).desk.inbox.conversations[0]?.any
      fun conversation => decide (conversation.connectionId = 0
        ∧ message "2" ∈ ((mailService.run (.new store)
          (arrived ++ passing ++ importing :: following.take 2)).mailbox 0).thread
            conversation.providerThreadId)) = true := by
    decide +kernel
  obtain ⟨after, sync, findings, hcompleted, hpage⟩ := InboxOutput.exists_of_persists hanswer
  obtain ⟨hlast, hconnection, hmissing⟩ := of_decide_eq_true hpage
  rw [Option.any_eq_true] at hlinked
  obtain ⟨conversation, hconversation, hfacts⟩ := hlinked
  obtain ⟨hof, hheld⟩ := of_decide_eq_true hfacts
  obtain ⟨answer, hanswered⟩ := Guard.isOk_iff.mp hread
  refine ⟨racing_truthful, ⟨arrived ++ passing ++ importing :: following.take 2, 1, ⟨[], none, "xx", by decide⟩, [], 6,
    held ["1", "2"], after, sync, findings⟩, ⟨⟨[], rfl⟩, ⟨answer, hanswered⟩, hcompleted, hlast⟩, 0,
    conversation, hconversation, hof.trans hconnection.symm, message "2", ?_, ?_⟩
  . rw [hconnection]
    exact hheld
  . rw [hconnection]
    exact hmissing

/--
The thread is linked before the job reads.
-/
def linkedFirst : List MailEvent :=
  arrived ++ importing :: passing

theorem linkedFirst_truthful : mailService.Along provider.Truthful (.new store) linkedFirst := by
  have hpage : provider.Lists [[message "1"], [message "2"]] 1 ⟨[["2"]], none, "xx", by decide⟩ :=
    ⟨rfl, fun _ => ⟨rfl, rfl⟩, nofun⟩
  refine ⟨?_, ?_, ?_, ⟨⟩, ?_, ⟨⟩, ⟨⟩, truthful_readPage ?_ hpage, truthful_persist ?_, ⟨⟩⟩
  . simp only [Provider.Truthful]
    decide +kernel
  . intro historyId hmem
    cases hmem
    decide +kernel
  . simp only [Provider.Truthful]
    decide +kernel
  . simp only [Provider.Truthful]
    decide +kernel
  . decide +kernel
  . decide +kernel

theorem linkedFirst_covers : mailService.Along (MailWorld.Covers provider) (.new store) linkedFirst := by
  refine ⟨⟨⟩, ⟨⟩, ⟨⟩, covers_import ?_, ⟨⟩, ⟨⟩, ⟨⟩, covers_readPage ?_, ⟨⟩, ⟨⟩⟩
  . decide +kernel
  . decide +kernel

theorem linked_thread_recorded_linkedFirst : ∃ job : ThreadSync, job.OccursIn store linkedFirst
    ∧ ∃ row, job.after.desk.inbox.messages.filter (fun row => row.key = (0, "2")) = [row] := by
  have hread : (mailService.step (mailService.run (.new store) (arrived ++ importing :: passing.take 3))
      (.command (.readPage 0 ⟨[["2"]], none, "xx", by decide⟩))).isOk = true := by
    decide +kernel
  have hanswer : InboxOutput.persists
      (fun _ sync _ => decide (sync.nextPageToken = none ∧ sync.connectionId = 0))
      (mailService.step (mailService.run (.new store)
        (arrived ++ importing :: passing.take 4)) (.command (.persist 3 0 (held ["1", "2"]))))
        = true := by
    decide +kernel
  have hlinked : ((mailService.run (.new store)
        (arrived ++ importing :: passing.take 3)).desk.inbox.conversations[0]?.any
      fun conversation => decide (conversation.connectionId = 0
        ∧ message "2" ∈ ((mailService.run (.new store)
          (arrived ++ importing :: passing.take 3)).mailbox 0).thread
            conversation.providerThreadId)) = true := by
    decide +kernel
  obtain ⟨after, sync, findings, hcompleted, hpage⟩ := InboxOutput.exists_of_persists hanswer
  obtain ⟨hlast, hconnection⟩ := of_decide_eq_true hpage
  rw [Option.any_eq_true] at hlinked
  obtain ⟨conversation, hconversation, hfacts⟩ := hlinked
  obtain ⟨hof, hheld⟩ := of_decide_eq_true hfacts
  obtain ⟨answer, hanswered⟩ := Guard.isOk_iff.mp hread
  have hoccurs : ThreadSync.OccursIn store ⟨arrived ++ importing :: passing.take 3, 0,
      ⟨[["2"]], none, "xx", by decide⟩, [], 3, held ["1", "2"], after, sync, findings⟩ linkedFirst :=
    ⟨⟨[], rfl⟩, ⟨answer, hanswered⟩, hcompleted, hlast⟩
  refine ⟨_, hoccurs, ?_⟩
  rw [← hconnection] at hof hheld ⊢
  obtain ⟨row, hrow, _⟩ := linked_thread_recorded provider store linkedFirst linkedFirst_truthful
    linkedFirst_covers _ hoccurs 0 conversation hconversation hof (message "2") hheld
  exact ⟨row, hrow⟩

end Sample

end CaseResolution
