import CaseResolution.Inbox.Lemmas.Origins
import CaseResolution.Inbox.Lemmas.Reachable

/-!
This module contains what becomes of the messages the provider reports: a job that completes has dealt with
every one of them, unless a page carries more than was asked for.
-/

namespace CaseResolution

open Guard

/--
A job that was completed, with the commands before it and the state it left.
-/
structure SyncCompletion where
  before : List InboxCommand
  now : Instant
  task : Nat
  getMessage : String → Except Error ProviderMessage
  after : InboxDesk
  sync : PendingSync
  findings : List (ProviderMessage × MessageFinding)

/--
The provider's history up to which a connection has imported everything.
-/
def InboxStore.committedHistoryId (s : InboxStore) (connectionId : Nat) : Option HistoryId :=
  (s.checkpoints.find? fun checkpoint => checkpoint.connectionId = connectionId).bind
    InboxSyncCheckpoint.providerHistoryId

theorem InboxStore.committedHistoryId_of_updates {s s' : InboxStore} {connectionId : Nat}
    (h : Rows.Updates InboxSyncCheckpoint.SameHistory s.checkpoints s'.checkpoints)
    : s'.committedHistoryId connectionId = s.committedHistoryId connectionId := by
  -- the tables agree in the columns that are looked up
  have hlookup : ∀ t : InboxStore, t.committedHistoryId connectionId
      = ((t.checkpoints.map fun checkpoint => (checkpoint.connectionId, checkpoint.providerHistoryId)).find?
        fun row => row.1 = connectionId).bind Prod.snd := by
    intro t
    rw [List.find?_map, Option.bind_map]
    rfl
  rw [hlookup, hlookup]
  congr 2
  apply List.ext_getElem?
  intro i
  rw [List.getElem?_map, List.getElem?_map]
  cases hi : s.checkpoints[i]? with
  | none =>
    have hnone : s'.checkpoints[i]? = none := by
      rw [List.getElem?_eq_none_iff] at hi ⊢
      rwa [h.length]
    rw [hnone]
  | some checkpoint =>
    obtain ⟨checkpoint', hi', hc, hhistory⟩ := h.kept i checkpoint hi
    rw [hi', Option.map_some, Option.map_some, hc, hhistory]

namespace InboxDesk

/--
A page that is read carries no ids beyond as many as were asked for.
-/
def PageFits (d : InboxDesk) : InboxCommand → Prop
  | .readPage task payload => ∀ sync fetch, d.syncs[task]? = some sync → sync.fetch = .ok fetch →
    ∀ messageId ∈ payload.history.flatten,
      messageId ∈ payload.history.flatten.take (fetch.remaining sync.work.job)
  | _ => True

/--
What was read for the jobs is kept as a whole.
-/
def ReadsKept (d : InboxDesk) : Prop :=
  ∀ sync ∈ d.syncs, ∀ fetch, sync.fetch = .ok fetch →
    ∀ messageId ∈ sync.reported, messageId ∈ fetch.messageIds

variable [Digest] {d d' : InboxDesk} {command : InboxCommand} {output : InboxOutput}

theorem ReadsKept.effect (h : d.ReadsKept) (hfits : d.PageFits command)
    (heffect : InboxEffect d command d' output) : d'.ReadsKept := by
  intro sync' hsync' fetch' hfetch'
  obtain hold | ⟨task, payload, sync, fetch, hcommand, hpending, hfetched, _, heq⟩ | ⟨hpages, _⟩ :=
    heffect.sync_origin hsync'
  . exact h sync' hold fetch' hfetch'
  . subst hcommand heq
    rw [PendingSync.fetch_read payload hfetched, Except.ok.injEq] at hfetch'
    intro messageId hreported
    rw [← hfetch', SyncFetch.mem_readPage]
    unfold PendingSync.reported at hreported
    rw [List.flatMap_append, List.mem_append, List.flatMap_singleton] at hreported
    cases hreported with
    | inl hearlier =>
      exact .inl (h sync (List.mem_of_getElem? hpending) fetch hfetched messageId hearlier)
    | inr hpage => exact .inr (hfits sync fetch hpending hfetched messageId hpage)
  . intro messageId hreported
    unfold PendingSync.reported at hreported
    rw [hpages] at hreported
    cases hreported

theorem run_readsKept {store : Store} {commands : List InboxCommand}
    (hfits : inboxService.Along PageFits (.new store) commands)
    : (inboxService.run (.new store) commands).ReadsKept := by
  apply Machine.run_invariant_along (P := ReadsKept) _ _ hfits
  . intro d command hd hfits
    apply Machine.next_cases hd
    intro d' output haccepted
    exact hd.effect hfits (step_effect haccepted)
  . intro sync hsync
    cases hsync

end InboxDesk

namespace SyncCompletion

variable [Digest] (store : Store) (completion : SyncCompletion)

/--
The state the job was completed in.
-/
def state : InboxDesk :=
  inboxService.run (.new store) completion.before

structure OccursIn (commands : List InboxCommand) : Prop where
  run : ∃ rest, commands
    = completion.before ++ .persist completion.now completion.task completion.getMessage :: rest
  accepted : inboxService.step (completion.state store)
    (.persist completion.now completion.task completion.getMessage)
      = .ok (completion.after, .persisted completion.sync completion.findings)

/--
The message of an id was imported, was imported before, or belongs to a thread that is not linked.
-/
def Accounts (messageId : String) : Prop :=
  ∃ message finding, completion.getMessage messageId = .ok message
    ∧ (message, finding) ∈ completion.findings
    ∧ match finding with
      | .imported => (completion.sync.connectionId, message.providerMessageId)
          ∉ (completion.state store).inbox.messages.map ExternalMessage.key
        ∧ (completion.sync.connectionId, message.providerMessageId)
          ∈ completion.after.inbox.messages.map ExternalMessage.key
      | .duplicate => (completion.sync.connectionId, message.providerMessageId)
          ∈ completion.after.inbox.messages.map ExternalMessage.key
      | .unlinked => (completion.state store).inbox.findConversation completion.sync.connectionId
          message.providerThreadId = none

variable {store completion}

theorem OccursIn.append {commands more : List InboxCommand} (h : completion.OccursIn store commands)
    : completion.OccursIn store (commands ++ more) := by
  obtain ⟨⟨rest, hrun⟩, haccepted⟩ := h
  exact ⟨⟨rest ++ more, by rw [hrun]; simp⟩, haccepted⟩

theorem OccursIn.along {commands : List InboxCommand} {Q : InboxDesk → InboxCommand → Prop}
    (h : completion.OccursIn store commands) (halong : inboxService.Along Q (.new store) commands)
    : inboxService.Along Q (.new store) completion.before := by
  obtain ⟨rest, hrun⟩ := h.run
  rw [hrun, Machine.along_append] at halong
  exact halong.1

/--
What a completion was made of.
-/
theorem OccursIn.parts {commands : List InboxCommand} (h : completion.OccursIn store commands)
    : ∃ fetch messages added checkpointId checkpoint,
        (completion.state store).syncs[completion.task]? = some completion.sync
          ∧ (fetch.wanted completion.sync.work.job).mapM completion.getMessage = .ok messages
          ∧ SyncParts (completion.state store) completion.now completion.sync fetch messages
            completion.findings completion.after.inbox added checkpointId checkpoint := by
  have htasks : (completion.state store).TasksStored := InboxDesk.run_tasksStored _ _
  have heffect := InboxDesk.step_effect h.accepted
  generalize completion.state store = d at heffect htasks ⊢
  obtain ⟨before, now, task, getMessage, after, sync, findings⟩ := completion
  dsimp only at heffect ⊢
  cases heffect with
  | @persisted _ _ _ _ fetch messages inbox _ hpending hfetched _ hgot haccepted =>
    obtain ⟨added, checkpointId, checkpoint, hparts⟩ :=
      InboxDesk.persist_parts htasks (List.mem_of_getElem? hpending) hfetched haccepted
    exact ⟨fetch, messages, added, checkpointId, checkpoint, hpending, hgot, hparts⟩

/--
A job that kept what it read accounts for every message the provider reported to it.
-/
theorem OccursIn.accounts {commands : List InboxCommand} (h : completion.OccursIn store commands)
    (hkept : (completion.state store).ReadsKept)
    : ∀ messageId ∈ completion.sync.reported, completion.Accounts store messageId := by
  intro messageId hreported
  obtain ⟨fetch, messages, added, _, _, hpending, hgot, hparts⟩ := h.parts
  have hread := hkept _ (List.mem_of_getElem? hpending) fetch hparts.fetched messageId hreported
  rw [← SyncFetch.mem_wanted (PendingSync.fetch_withinBudget hparts.fetched)] at hread
  obtain ⟨message, hmessage, hof⟩ := exists_of_mapM_eq_ok hgot hread
  obtain ⟨t, hpersisted, hmessages⟩ := hparts.persisted
  have hmem : message ∈ completion.findings.map Prod.fst := by
    rw [hpersisted.found, mem_inOrder]
    exact hmessage
  obtain ⟨⟨found, finding⟩, hfinding, heq⟩ := List.mem_map.mp hmem
  dsimp only at heq
  subst heq
  refine ⟨found, finding, hof, hfinding, ?_⟩
  cases finding with
  | imported =>
    refine ⟨(hpersisted.fresh found hfinding).1, ?_⟩
    rw [← hmessages]
    exact hpersisted.stored found _ hfinding (by decide)
  | duplicate =>
    rw [← hmessages]
    exact hpersisted.stored found _ hfinding (by decide)
  | unlinked => exact hpersisted.unlinked found hfinding

/--
The committed history moves with the last page only.
-/
theorem OccursIn.last_page {commands : List InboxCommand} (h : completion.OccursIn store commands)
    (hmoved : completion.after.inbox.committedHistoryId completion.sync.connectionId
      ≠ (completion.state store).inbox.committedHistoryId completion.sync.connectionId)
    : completion.sync.nextPageToken = none := by
  obtain ⟨fetch, _, _, checkpointId, checkpoint, _, _, hparts⟩ := h.parts
  unfold PendingSync.nextPageToken
  rw [hparts.fetched]
  cases htoken : fetch.pageToken with
  | none => exact htoken
  | some token =>
    apply absurd _ hmoved
    apply InboxStore.committedHistoryId_of_updates
    rw [hparts.checkpoints, htoken]
    apply Rows.Updates.set InboxSyncCheckpoint.SameHistory.refl
      (InboxStore.findCheckpoint_eq_some hparts.found).1
    exact ⟨rfl, rfl⟩

end SyncCompletion

namespace InboxDesk

variable [Digest]

/--
A job that does not start with the first page reads on where a completed job stopped.
-/
theorem run_continued (store : Store) (commands : List InboxCommand)
    : ∀ job ∈ (inboxService.run (.new store) commands).inbox.jobs, ∀ token ∈ job.pageToken,
      ∃ completion : SyncCompletion, completion.OccursIn store commands
        ∧ completion.sync.connectionId = job.connectionId
        ∧ completion.sync.nextPageToken = some token := by
  induction commands using List.reverseRecOn with
  | nil =>
    intro job hjob
    cases hjob
  | append_singleton commands command ih =>
    have hold : ∀ job ∈ (inboxService.run (.new store) commands).inbox.jobs, ∀ token ∈ job.pageToken,
        ∃ completion : SyncCompletion, completion.OccursIn store (commands ++ [command])
          ∧ completion.sync.connectionId = job.connectionId
          ∧ completion.sync.nextPageToken = some token := by
      intro job hjob token htoken
      obtain ⟨completion, hoccurs, hfacts⟩ := ih job hjob token htoken
      exact ⟨completion, hoccurs.append, hfacts⟩
    rw [Machine.run_concat]
    apply Machine.next_cases (P := fun d : InboxDesk => ∀ job ∈ d.inbox.jobs, ∀ token ∈ job.pageToken,
      ∃ completion : SyncCompletion, completion.OccursIn store (commands ++ [command])
        ∧ completion.sync.connectionId = job.connectionId
        ∧ completion.sync.nextPageToken = some token) hold
    intro d' output haccepted job' hjob' token htoken
    obtain ⟨job, hjob, hrequest⟩ | ⟨_, hfirst⟩ | ⟨now, task, getMessage, sync, findings, fetch, _, _,
        hcommand, houtput, _, hfetched, _, _, hpage, hconnection, _⟩ :=
      (step_effect haccepted).job_origin (run_tasksStored store commands) hjob'
    . obtain ⟨completion, hoccurs, hconnection, hpage⟩ := hold job hjob token (hrequest.2.2.1 ▸ htoken)
      exact ⟨completion, hoccurs, hconnection.trans hrequest.1, hpage⟩
    . rw [hfirst] at htoken
      cases htoken
    . subst hcommand houtput
      refine ⟨⟨commands, now, task, getMessage, d', sync, findings⟩, ⟨⟨[], rfl⟩, haccepted⟩,
        hconnection.symm, ?_⟩
      unfold PendingSync.nextPageToken
      rw [hfetched]
      exact hpage.symm.trans htoken

end InboxDesk

/--
If no page carries more than was asked for, every message the provider reported to a job that completes is
accounted for. The committed history moves when the last page was read, and a job that did not start with
the first page read on where a completed job of the connection stopped, so that no page is left out.
-/
theorem sync_accounts [Digest] (store : Store) (commands : List InboxCommand)
    (hfits : inboxService.Along InboxDesk.PageFits (.new store) commands)
    : ∀ completion : SyncCompletion, completion.OccursIn store commands →
        (∀ messageId ∈ completion.sync.reported, completion.Accounts store messageId)
          ∧ (completion.after.inbox.committedHistoryId completion.sync.connectionId
              ≠ (completion.state store).inbox.committedHistoryId completion.sync.connectionId →
            completion.sync.nextPageToken = none)
          ∧ ∀ token ∈ completion.sync.work.job.pageToken, ∃ earlier : SyncCompletion,
            earlier.OccursIn store completion.before
              ∧ earlier.sync.connectionId = completion.sync.connectionId
              ∧ earlier.sync.nextPageToken = some token := by
  intro completion hoccurs
  refine ⟨?_, hoccurs.last_page, ?_⟩
  . exact hoccurs.accounts (InboxDesk.run_readsKept (hoccurs.along hfits))
  . intro token htoken
    obtain ⟨_, _, _, _, _, hpending, _, _⟩ := hoccurs.parts
    obtain ⟨job, hjob, hrequest⟩ :=
      InboxDesk.run_tasksStored store completion.before completion.sync (List.mem_of_getElem? hpending)
    obtain ⟨earlier, hearlier, hconnection, hpage⟩ :=
      InboxDesk.run_continued store completion.before job (List.mem_of_getElem? hjob) token
        (hrequest.2.2.1 ▸ htoken)
    exact ⟨earlier, hearlier, hconnection.trans hrequest.1, hpage⟩

namespace Sample

attribute [local instance] Digest.checksum

/--
A scheduled job that may read as many messages as `itemLimit`, for a mailbox whose thread is linked.
-/
def scheduled (itemLimit : Nat) : List InboxCommand :=
  connected ++ [.readThread manager 0 ⟨"T", [message "1"]⟩, .importThread 0 .refundRequest,
    .requestScheduled 1 0 "schedule:1" 1 itemLimit, .claim 2 "A" 1 60 none,
    .readPage 0 ⟨[["2", "3"]], none, "3", by decide⟩]

def completing : InboxCommand :=
  .persist 3 0 (held ["1", "2", "3"])

/--
The answer to the completion of the scheduled job.
-/
def persisted (itemLimit : Nat) : Except Error (InboxDesk × InboxOutput) :=
  inboxService.step (inboxService.run (.new store) (scheduled itemLimit)) completing

/--
A history record adds two messages to a linked thread when one is asked for, and the second one is left out.
-/
theorem page_cut : ∃ completion : SyncCompletion, completion.OccursIn store (scheduled 1 ++ [completing])
    ∧ completion.after.inbox.committedHistoryId 0 = some ⟨"3", by decide⟩
    ∧ (completion.state store).inbox.committedHistoryId 0 = some ⟨"0", by decide⟩
    ∧ "3" ∈ completion.sync.reported ∧ ¬ completion.Accounts store "3" := by
  have hanswer : InboxOutput.persists (fun after sync findings => decide (
      after.inbox.committedHistoryId 0 = some ⟨"3", by decide⟩ ∧ "3" ∈ sync.reported
        ∧ ∀ finding ∈ findings, finding.1 = message "2")) (persisted 1) = true := by
    decide +kernel
  have hstate : (inboxService.run (.new store) (scheduled 1)).inbox.committedHistoryId 0 = some ⟨"0", by decide⟩ := by
    decide +kernel
  obtain ⟨after, sync, findings, haccepted, hfacts⟩ := InboxOutput.exists_of_persists hanswer
  obtain ⟨hcommitted, hreported, hfindings⟩ := of_decide_eq_true hfacts
  refine ⟨⟨scheduled 1, 3, 0, held ["1", "2", "3"], after, sync, findings⟩,
    ⟨⟨[], rfl⟩, haccepted⟩, hcommitted, hstate, hreported, ?_⟩
  rintro ⟨found, finding, hof, hfinding, _⟩
  have hsecond := hfindings _ hfinding
  dsimp only at hof hsecond
  subst hsecond
  exact absurd (congrArg ProviderMessage.providerMessageId (Except.ok.inj hof)) (by decide)

theorem scheduled_fits
    : inboxService.Along InboxDesk.PageFits (.new store) (scheduled 5 ++ [completing]) := by
  refine ⟨⟨⟩, ⟨⟩, ⟨⟩, ⟨⟩, ⟨⟩, ?_, ⟨⟩, ⟨⟩⟩
  intro sync fetch hpending hfetched messageId hmem
  have hroom : ∀ sync ∈ (inboxService.run (.new store) ((scheduled 5).take 5)).syncs[0]?,
      (sync.fetch.toOption.any fun fetch => decide (2 ≤ fetch.remaining sync.work.job)) = true := by
    decide +kernel
  have hroom := hroom sync hpending
  rw [hfetched] at hroom
  rw [List.take_of_length_le]
  . exact hmem
  . exact of_decide_eq_true hroom

theorem sync_accounts_scheduled : ∃ completion : SyncCompletion, completion.OccursIn store (scheduled 5 ++ [completing])
    ∧ "3" ∈ completion.sync.reported ∧ completion.Accounts store "3" := by
  have hanswer : InboxOutput.persists (fun _ sync _ => decide ("3" ∈ sync.reported)) (persisted 5)
      = true := by
    decide +kernel
  obtain ⟨after, sync, findings, haccepted, hfacts⟩ := InboxOutput.exists_of_persists hanswer
  have hoccurs : SyncCompletion.OccursIn store
      ⟨scheduled 5, 3, 0, held ["1", "2", "3"], after, sync, findings⟩ (scheduled 5 ++ [completing]) :=
    ⟨⟨[], rfl⟩, haccepted⟩
  have hreported := of_decide_eq_true hfacts
  exact ⟨_, hoccurs, hreported, (sync_accounts store _ scheduled_fits _ hoccurs).1 "3" hreported⟩

end Sample

end CaseResolution
