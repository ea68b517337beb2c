import CaseResolution.Inbox.Lemmas.Origins
import CaseResolution.Inbox.Provider

/-!
This module contains how far the synchronization of a mailbox has come: where the marks of a connection come
from.
-/

namespace CaseResolution

/--
The start of a job that was just taken is a mark of the tables.
-/
theorem InboxSyncWork.Taken.start_mark {p : Provider} {s : InboxStore} {work : InboxSyncWork}
    {fetch : SyncFetch} (h : work.Taken s) (hstart : SyncFetch.start work = .ok fetch)
    : s.Mark p work.job.connectionId (p.next fetch) := by
  have hjob := List.mem_of_getElem? h.job
  obtain ⟨historyId, hfrom, heq⟩ := SyncFetch.start_eq_ok.mp hstart
  subst heq
  unfold Provider.next
  dsimp only
  cases hpage : work.job.pageToken with
  | some token => exact .continued hjob rfl hpage
  | none =>
    cases hrequested : work.job.requestedHistoryId with
    | some requested =>
      rw [hrequested, Option.some_or, Option.mem_some_iff] at hfrom
      exact hfrom ▸ .requested hjob rfl hrequested
    | none =>
      rw [hrequested, Option.none_or, Option.mem_def] at hfrom
      obtain ⟨checkpointId, checkpoint, hfind, hcommitted⟩ := h.committed
      obtain ⟨hcheckpoint, hconnection⟩ := InboxStore.findCheckpoint_eq_some hfind
      exact .committed (List.mem_of_getElem? hcheckpoint) hconnection (hcommitted.symm.trans hfrom)

/--
Where a mark comes from: it was there before, the connection was just established, or a job has read up to
it.
-/
inductive MarkOrigin (p : Provider) (d : InboxDesk) (command : InboxCommand) (output : InboxOutput)
    (connectionId : Nat) : Nat → Prop where
  | kept {mark : Nat} (before : d.Mark p connectionId mark)
      : MarkOrigin p d command output connectionId mark
  | established {now : Instant} {writeCapabilities : List String} {historyId : HistoryId}
      (unconnected : d.inbox.findCheckpoint connectionId = none)
      (established : command = .establish now connectionId writeCapabilities (some historyId))
      : MarkOrigin p d command output connectionId (p.position historyId)
  | read {now : Instant} {task : Nat} {getMessage : String → Except Error ProviderMessage}
      {sync : PendingSync} {findings : List (ProviderMessage × MessageFinding)} {fetch : SyncFetch}
      (completed : command = .persist now task getMessage) (answer : output = .persisted sync findings)
      (pending : d.syncs[task]? = some sync) (connected : sync.work.job.connectionId = connectionId)
      (fetched : sync.fetch = .ok fetch) : MarkOrigin p d command output connectionId (p.next fetch)

namespace InboxEffect

variable [Digest] {d d' : InboxDesk} {command : InboxCommand} {output : InboxOutput} {p : Provider}
  {connectionId mark : Nat}

theorem stored_mark_origin (h : InboxEffect d command d' output) (htasks : d.TasksStored)
    (hmark : d'.inbox.Mark p connectionId mark)
    : MarkOrigin p d command output connectionId mark := by
  cases hmark with
  | committed hstored hconnected hhistory =>
    obtain ⟨checkpoint, hmem, hsame⟩ | ⟨hnone, now, writeCapabilities, hcommand⟩ |
        ⟨now, task, getMessage, sync, findings, fetch, hcommand, houtput, hpending, hfetched, htoken,
          hc, hobserved⟩ := h.checkpoint_origin htasks hstored
    . exact .kept (.stored (.committed hmem (hsame.1.trans hconnected) (hsame.2.trans hhistory)))
    . rw [hconnected] at hnone hcommand
      rw [hhistory] at hcommand
      exact .established hnone hcommand
    . rw [hhistory, Option.some.injEq] at hobserved
      have hread := MarkOrigin.read (p := p) hcommand houtput hpending (hc.symm.trans hconnected)
        hfetched
      unfold Provider.next at hread
      rw [htoken] at hread
      exact hobserved ▸ hread
  | requested hstored hconnected hhistory =>
    obtain ⟨job, hmem, hsame⟩ | ⟨hnone, _⟩ | ⟨now, task, getMessage, sync, findings, fetch,
        checkpointId, checkpoint, hcommand, houtput, hpending, hfetched, hfind, _, _, hc,
        hrequested⟩ := h.job_origin htasks hstored
    . exact .kept (.stored (.requested hmem (hsame.1.trans hconnected) (hsame.2.1.trans hhistory)))
    . rw [hnone] at hhistory
      cases hhistory
    . rw [hhistory] at hrequested
      have hsync : sync.work.job.connectionId = connectionId := hc.symm.trans hconnected
      -- the continuation starts where the job did, or where the connection had committed to
      cases hfirst : sync.work.job.requestedHistoryId with
      | some requested =>
        rw [hfirst, Option.some_or, Option.some.injEq] at hrequested
        obtain ⟨row, hrow, hrequest⟩ := htasks sync (List.mem_of_getElem? hpending)
        rw [hrequested]
        exact .kept (.stored (.requested (List.mem_of_getElem? hrow) (hrequest.1.trans hsync)
          (hrequest.2.1.trans hfirst)))
      | none =>
        rw [hfirst, Option.none_or] at hrequested
        obtain ⟨hcheckpoint, hconnection⟩ := InboxStore.findCheckpoint_eq_some hfind
        exact .kept (.stored (.committed (List.mem_of_getElem? hcheckpoint) (hconnection.trans hsync)
          hrequested.symm))
  | continued hstored hconnected hpage =>
    obtain ⟨job, hmem, hsame⟩ | ⟨_, hnone⟩ | ⟨now, task, getMessage, sync, findings, fetch,
        checkpointId, checkpoint, hcommand, houtput, hpending, hfetched, hfind, _, htoken, hc, _⟩ :=
      h.job_origin htasks hstored
    . exact .kept (.stored (.continued hmem (hsame.1.trans hconnected) (hsame.2.2.1.trans hpage)))
    . rw [hnone] at hpage
      cases hpage
    . have hread := MarkOrigin.read (p := p) hcommand houtput hpending (hc.symm.trans hconnected)
        hfetched
      unfold Provider.next at hread
      rw [← htoken, hpage] at hread
      exact hread

theorem mark_origin (h : InboxEffect d command d' output) (htasks : d.TasksStored)
    (hmark : d'.Mark p connectionId mark) : MarkOrigin p d command output connectionId mark := by
  cases hmark with
  | stored hstored => exact h.stored_mark_origin htasks hstored
  | started hpending hconnected hstart =>
    obtain hold | ⟨task, payload, sync, _, _, hsync, _, _, heq⟩ | ⟨_, htaken⟩ :=
      h.sync_origin hpending
    . exact .kept (.started hold hconnected hstart)
    . subst heq
      exact .kept (.started (List.mem_of_getElem? hsync) hconnected hstart)
    . exact h.stored_mark_origin htasks (hconnected ▸ htaken.start_mark hstart)

end InboxEffect

end CaseResolution
