import CaseResolution.Inbox.Lemmas.Owners

/-!
This module contains what becomes of the answers of a worker whose job was handed out again: they are told
apart from those of the last claim by the name of the worker alone.
-/

namespace CaseResolution

open Guard

/--
The commands by which the worker of a task finishes its job.
-/
inductive InboxCommand.Finishes (now : Instant) (task : Nat) : InboxCommand → Prop where
  | persist (getMessage : String → Except Error ProviderMessage)
      : Finishes now task (.persist now task getMessage)
  | fail (errorCode : String) (reauthorize : Bool)
      : Finishes now task (.fail now task errorCode reauthorize)

namespace InboxDesk

/--
The job of the task was handed out again.
-/
def Stale (d : InboxDesk) (task : Nat) : Prop :=
  ∃ sync later other, d.syncs[task]? = some sync ∧ task < later ∧ d.syncs[later]? = some other
    ∧ other.work.jobId = sync.work.jobId

/--
Whoever holds the job of the task goes by another name.
-/
def Fenced (d : InboxDesk) (now : Instant) (task : Nat) : Prop :=
  ∀ sync, d.syncs[task]? = some sync → ∀ job, d.inbox.jobs[sync.work.jobId]? = some job →
    job.holdsLease now = true → ∀ last holder, d.LastClaim sync.work.jobId last holder →
      holder.workerId ≠ sync.workerId

/--
If no name takes a job twice, a task whose job was handed out again is told from its successor.
-/
theorem Fenced.of_nodup {d : InboxDesk} {now : Instant} {task : Nat} (hstale : d.Stale task)
    (hnodup : (d.syncs.map fun sync => (sync.work.jobId, sync.workerId)).Nodup)
    : d.Fenced now task := by
  obtain ⟨sync, later, other, hsync, hlater, hother, hsame⟩ := hstale
  intro sync' hsync' job _ _ last holder ⟨hholder, hof, hlast⟩ hname
  rw [hsync, Option.some.injEq] at hsync'
  subst hsync'
  have htask : last = task := by
    have hlt : last < (d.syncs.map fun sync => (sync.work.jobId, sync.workerId)).length := by
      rw [List.length_map]
      exact (List.getElem?_eq_some_iff.mp hholder).1
    apply (List.getElem?_inj hlt hnodup).mp
    rw [List.getElem?_map, List.getElem?_map, hholder, hsync, Option.map_some, Option.map_some, hof,
      hname]
  exact hlast later other (htask ▸ hlater) hother hsame

variable [Digest]

/--
The command is rejected and changes nothing.
-/
def Rejects (d : InboxDesk) (command : InboxCommand) : Prop :=
  (∃ e, inboxService.step d command = .error e) ∧ inboxService.next d command = d

theorem Rejects.of_not_ok {d : InboxDesk} {command : InboxCommand}
    (h : ∀ d' output, inboxService.step d command ≠ .ok (d', output)) : d.Rejects command := by
  cases hstep : inboxService.step d command with
  | ok answer => exact absurd hstep (h answer.1 answer.2)
  | error e => exact ⟨⟨e, hstep⟩, Machine.next_of_error hstep⟩

/--
A worker that finishes a job goes by the name of its last claim, and the lease runs.
-/
theorem Owned.finishes {d d' : InboxDesk} {now : Instant} {task : Nat} {command : InboxCommand}
    {output : InboxOutput} (howned : d.Owned) (hfinishes : command.Finishes now task)
    (h : inboxService.step d command = .ok (d', output)) : ¬ d.Fenced now task := by
  have heffect := step_effect h
  have hrunning : ∃ sync job, d.syncs[task]? = some sync
      ∧ d.inbox.runningJob now sync.work.jobId sync.workerId = .ok job := by
    cases hfinishes with
    | persist getMessage =>
      cases heffect with
      | persisted hpending _ _ _ haccepted =>
        obtain ⟨t, added, conversations, hpersisted, _, hcompleted⟩ :=
          InboxStore.persist_eq_ok haccepted
        obtain ⟨store, hframed⟩ := hpersisted.framed
        unfold InboxStore.complete at hcompleted
        rw [bind_eq_ok] at hcompleted
        obtain ⟨job, hjob, _⟩ := hcompleted
        rw [InboxStore.runningJob_eq_ok, hframed] at hjob
        exact ⟨_, job, hpending, InboxStore.runningJob_eq_ok.mpr hjob⟩
    | fail errorCode reauthorize =>
      cases heffect with
      | failed hpending haccepted =>
        unfold InboxStore.fail at haccepted
        rw [bind_eq_ok] at haccepted
        obtain ⟨job, hjob, _⟩ := haccepted
        exact ⟨_, job, hpending, hjob⟩
  obtain ⟨sync, job, hpending, hjob⟩ := hrunning
  obtain ⟨hstored, hheld, howner⟩ := InboxStore.runningJob_eq_ok.mp hjob
  obtain ⟨_, last, holder, hlast, hname⟩ :=
    howned _ job hstored (InboxSyncJob.holdsLease_iff.mp hheld).1
  intro hfenced
  apply hfenced sync hpending job hstored hheld last holder hlast
  rw [howner, Option.some.injEq] at hname
  exact hname.symm

/--
The worker that goes by the name of the last claim lets the job fail while the lease runs.
-/
theorem Owned.fail_accepted {d : InboxDesk} {now : Instant} {task : Nat} (howned : d.Owned)
    (h : ¬ d.Fenced now task) (errorCode : String) (reauthorize : Bool)
    : ∃ d' output, inboxService.step d (.fail now task errorCode reauthorize) = .ok (d', output) := by
  unfold Fenced at h
  simp only [not_forall, Ne, not_not] at h
  obtain ⟨sync, hpending, job, hstored, hheld, last, holder, hlast, hsame⟩ := h
  obtain ⟨hconnected, last', holder', hlast', howner⟩ :=
    howned _ job hstored (InboxSyncJob.holdsLease_iff.mp hheld).1
  have hholder : holder' = holder := hlast.unique hlast'
  rw [hholder, hsame] at howner
  have hrunning := InboxStore.runningJob_eq_ok.mpr ⟨hstored, hheld, howner⟩
  obtain ⟨row, hfind⟩ := Option.ne_none_iff_exists'.mp hconnected.findCheckpoint_ne
  have hfind' : (d.inbox.setJob sync.work.jobId
      (job.failed now errorCode reauthorize)).findCheckpoint job.connectionId = some row := hfind
  obtain ⟨inbox, hfailed⟩ : ∃ inbox,
      d.inbox.fail now sync.work.jobId sync.workerId errorCode reauthorize = .ok inbox := by
    simp only [InboxStore.fail, InboxStore.updateCheckpoint, InboxStore.checkpoint, bind_eq_ok,
      hrunning, hfind', orThrow_eq_ok, pure_eq_ok, Option.some.injEq, Except.ok.injEq,
      exists_eq_left', exists_eq']
  refine ⟨{ d with inbox := inbox }, .done, ?_⟩
  simp only [inboxService, step, pendingSync, bind_eq_ok, orThrow_eq_ok, hpending, withInbox_eq_ok,
    Option.some.injEq, exists_eq_left', hfailed, Except.ok.injEq, and_self]

/--
The task is told from its successor exactly when whoever holds the job goes by another name.
-/
theorem Owned.rejects_iff {d : InboxDesk} (howned : d.Owned) (now : Instant) (task : Nat)
    : (∀ command : InboxCommand, command.Finishes now task → d.Rejects command)
      ↔ d.Fenced now task := by
  constructor
  . intro h
    by_contra hfenced
    obtain ⟨d', output, haccepted⟩ := howned.fail_accepted hfenced "" false
    obtain ⟨e, hrejected⟩ := (h _ (.fail "" false)).1
    rw [haccepted] at hrejected
    cases hrejected
  . intro hfenced command hfinishes
    apply Rejects.of_not_ok
    intro d' output haccepted
    exact howned.finishes hfinishes haccepted hfenced

end InboxDesk

/--
In every run, what the worker of a job that was handed out again persists or lets fail is rejected and
changes nothing, if it arrives when no worker of that name holds the job by the last claim. In every state
that is reached, that condition is exact.
-/
theorem stale_worker_rejected [Digest] (store : Store) (commands : List InboxCommand)
    : (inboxService.Along (fun d command => ∀ now task, command.Finishes now task → d.Stale task →
          d.Fenced now task) (.new store) commands →
        inboxService.Along (fun d command => ∀ now task, command.Finishes now task → d.Stale task →
          d.Rejects command) (.new store) commands)
      ∧ ∀ now task, (inboxService.run (.new store) commands).Stale task →
        ((∀ command : InboxCommand, command.Finishes now task →
            (inboxService.run (.new store) commands).Rejects command)
          ↔ (inboxService.run (.new store) commands).Fenced now task) := by
  constructor
  . rw [Machine.along_iff, Machine.along_iff]
    intro halong pre command post heq now task hfinishes hstale
    have hfenced := halong pre command post heq now task hfinishes hstale
    exact ((InboxDesk.run_owned store pre).rejects_iff now task).mpr hfenced command hfinishes
  . intro now task _
    exact (InboxDesk.run_owned store commands).rejects_iff now task

namespace Sample

attribute [local instance] Digest.checksum

/--
The lease of a task runs out, and the job is handed out again under a name.
-/
def redelivered (workerId : String) : List InboxCommand :=
  connected ++ [
    .requestScheduled 1 0 "nightly" 1 50,
    .claim 2 "celery:1" 1 10 none,
    .claim (seconds 20) workerId 1 60 none]

theorem redelivered_stale {workerId : String}
    (h : (inboxService.run (.new store) (redelivered workerId)).syncs.map
      (fun sync => sync.work.jobId) = [0, 0])
    : (inboxService.run (.new store) (redelivered workerId)).Stale 0 := by
  generalize inboxService.run (.new store) (redelivered workerId) = d at h
  have hlength := congrArg List.length h
  rw [List.length_map] at hlength
  obtain ⟨first, second, hsyncs⟩ := List.length_eq_two.mp hlength
  rw [hsyncs, List.map_cons, List.map_singleton, List.cons.injEq, List.cons.injEq] at h
  exact ⟨first, 1, second, by rw [hsyncs]; rfl, Nat.zero_lt_one, by rw [hsyncs]; rfl,
    h.2.1.trans h.1.symm⟩

theorem stale_worker_rejected_redelivered
    : (inboxService.run (.new store) (redelivered "celery:2")).Rejects
        (.fail (seconds 21) 0 "timeout" false) := by
  have hstale : (inboxService.run (.new store) (redelivered "celery:2")).Stale 0 := by
    apply redelivered_stale
    decide +kernel
  have hfenced : (inboxService.run (.new store) (redelivered "celery:2")).Fenced (seconds 21) 0 := by
    apply InboxDesk.Fenced.of_nodup hstale
    decide +kernel
  exact ((stale_worker_rejected store (redelivered "celery:2")).2 _ 0 hstale).mpr hfenced _
    (.fail "timeout" false)

/--
The first execution lets the job fail that the second one holds, as the task was redelivered under its name.
-/
theorem redelivered_not_rejected
    : ¬ ∀ (store : Store) (commands : List InboxCommand) now task,
        (inboxService.run (.new store) commands).Stale task →
        ∀ command : InboxCommand, command.Finishes now task →
          (inboxService.run (.new store) commands).Rejects command := by
  intro h
  have hstale : (inboxService.run (.new store) (redelivered "celery:1")).Stale 0 := by
    apply redelivered_stale
    decide +kernel
  obtain ⟨e, hrejected⟩ := (h store (redelivered "celery:1") (seconds 21) 0 hstale _
    (.fail "timeout" false)).1
  have haccepted : (inboxService.step (inboxService.run (.new store) (redelivered "celery:1"))
      (.fail (seconds 21) 0 "timeout" false)).isOk = true := by
    decide +kernel
  rw [hrejected] at haccepted
  cases haccepted

end Sample

end CaseResolution
