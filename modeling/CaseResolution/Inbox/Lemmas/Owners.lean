import CaseResolution.Inbox.Lemmas.Mail
import CaseResolution.Inbox.Lemmas.Reachable

/-!
This module contains who a running job belongs to: the last claim of the job, under the name of the worker
that made it.
-/

namespace CaseResolution

open Guard

namespace InboxStore

variable {s s' : InboxStore} {now : Instant} {limit leaseSeconds : Nat} {connectionId : Option Nat}
  {workerId : String} {works : List InboxSyncWork}

/--
There is one work for each job that is handed out, and a checkpoint for its connection.
-/
theorem leaseAll_ids {rows : List (Nat × InboxSyncJob)}
    (h : leaseAll now workerId leaseSeconds s rows = .ok (s', works))
    : works.map InboxSyncWork.jobId = rows.map Prod.fst
      ∧ ∀ row ∈ rows, s.Connected row.2.connectionId := by
  induction rows generalizing s s' works with
  | nil =>
    rw [leaseAll, pure_eq_ok, Prod.mk.injEq] at h
    rw [← h.2]
    exact ⟨rfl, fun _ hrow => absurd hrow List.not_mem_nil⟩
  | cons row rows ih =>
    rw [leaseAll, bind_eq_ok] at h
    obtain ⟨⟨t, work⟩, ht, hrest⟩ := h
    rw [bind_eq_ok] at hrest
    obtain ⟨⟨u, others⟩, hu, heq⟩ := hrest
    rw [pure_eq_ok, Prod.mk.injEq] at heq
    unfold lease checkpoint at ht
    rw [orThrow_bind_eq_ok] at ht
    obtain ⟨⟨checkpointId, checkpoint⟩, hfind, hset⟩ := ht
    rw [pure_eq_ok, Prod.mk.injEq] at hset
    obtain ⟨hstore, hwork⟩ := hset
    obtain ⟨hids, hconnected⟩ := ih hu
    rw [← heq.2]
    subst hstore hwork
    refine ⟨congrArg (row.1 :: ·) hids, ?_⟩
    intro other hother
    cases List.mem_cons.mp hother with
    | inl hfirst =>
      obtain ⟨hstored, hconnection⟩ := findCheckpoint_eq_some hfind
      exact hfirst ▸ ⟨checkpoint, List.mem_of_getElem? hstored, hconnection⟩
    | inr hmem => exact hconnected other hmem

/--
A job that is running after a claim was handed out by it as one of the works, or it was running before and
is none of them.
-/
theorem claim_running
    (h : s.claim now limit connectionId workerId leaseSeconds = .ok (s', works)) {i : Nat}
    {job : InboxSyncJob} (hjob : s'.jobs[i]? = some job) (hrunning : job.status = .running)
    : (i ∈ works.map InboxSyncWork.jobId ∧ job.leaseOwner = some workerId
        ∧ s'.Connected job.connectionId)
      ∨ (i ∉ works.map InboxSyncWork.jobId ∧ s.jobs[i]? = some job) := by
  obtain ⟨checkpoints, _, t, ht, hleased⟩ := claim_eq_ok h
  have hs := (leaseAll_eq_ok hleased).1
  obtain ⟨hids, hconnected⟩ := leaseAll_ids hleased
  have htjobs : t.jobs = Rows.setAll InboxSyncJob.abandoned
      (s.exhaustedLeaseStatement now limit connectionId) s.jobs := by
    rw [ht]
  have hsjobs : s'.jobs = Rows.setAll (fun job => job.leased now workerId leaseSeconds)
      (t.claimStatement now limit connectionId) t.jobs := by
    rw [hs]
  have hlt := (List.getElem?_eq_some_iff.mp hjob).1
  rw [hsjobs, Rows.setAll_length, htjobs, Rows.setAll_length] at hlt
  have hold : s.jobs[i]? = some s.jobs[i] := List.getElem?_eq_getElem hlt
  rcases claim_row htjobs hsjobs hold with ⟨_, hdead⟩ | ⟨hclaimed, hnew⟩ | ⟨hkept, hsame⟩
  . rw [hjob, Option.some.injEq] at hdead
    simp [hdead, InboxSyncJob.abandoned] at hrunning
  . rw [hjob, Option.some.injEq] at hnew
    refine .inl ⟨?_, by rw [hnew]; rfl, ?_⟩
    . rw [hids]
      exact List.mem_map_of_mem hclaimed
    . obtain ⟨checkpoint, hcheckpoint, hconnection⟩ := hconnected _ hclaimed
      rw [hnew, hs]
      exact ⟨checkpoint, hcheckpoint, hconnection⟩
  . rw [hjob, Option.some.injEq] at hsame
    refine .inr ⟨?_, hsame ▸ hold⟩
    rw [hids, List.mem_map]
    rintro ⟨⟨j, other⟩, hclaimed, rfl⟩
    have hstored := (mem_claimStatement hclaimed).1
    have hbefore := (Rows.getElem?_setAll (f := InboxSyncJob.abandoned)
      exhaustedLeaseStatement_selects hold).2 hkept
    rw [← htjobs, hstored, Option.some.injEq] at hbefore
    have hafter := (Rows.getElem?_setAll (f := fun job => job.leased now workerId leaseSeconds)
      claimStatement_selects hstored).1 hclaimed
    rw [← hsjobs, hjob, hsame, ← hbefore, Option.some.injEq] at hafter
    have hcount := congrArg InboxSyncJob.attemptCount hafter
    simp [InboxSyncJob.leased] at hcount

end InboxStore

/--
No job is running that was not running before.
-/
def NoneStarted (jobs jobs' : List InboxSyncJob) : Prop :=
  ∀ (i : Nat) (job : InboxSyncJob), jobs'[i]? = some job → job.status = .running → jobs[i]? = some job

theorem NoneStarted.append {jobs : List InboxSyncJob} {added : InboxSyncJob}
    (h : added.status ≠ .running) : NoneStarted jobs (jobs ++ [added]) := by
  intro i job hjob hrunning
  cases Rows.getElem?_concat_cases hjob with
  | inl hold => exact hold
  | inr hnew => exact absurd (hnew.2 ▸ hrunning) h

theorem NoneStarted.set {jobs : List InboxSyncJob} {j : Nat} {written : InboxSyncJob}
    (h : written.status ≠ .running) : NoneStarted jobs (jobs.set j written) := by
  intro i job hjob hrunning
  cases Rows.getElem?_set_cases hjob with
  | inl hset => exact absurd (hset.2.1 ▸ hrunning) h
  | inr hold => exact hold.2

theorem NoneStarted.trans {jobs₁ jobs₂ jobs₃ : List InboxSyncJob} (h₁₂ : NoneStarted jobs₁ jobs₂)
    (h₂₃ : NoneStarted jobs₂ jobs₃) : NoneStarted jobs₁ jobs₃ := by
  intro i job hjob hrunning
  exact h₁₂ i job (h₂₃ i job hjob hrunning) hrunning

theorem NoneStarted.continuations [Digest] {jobs : List InboxSyncJob} {job : InboxSyncJob}
    {nextPageToken : Option PageToken} {committedHistoryId : Option HistoryId} {now : Instant}
    : NoneStarted jobs
        (jobs ++ InboxStore.continuations job nextPageToken committedHistoryId now) := by
  cases nextPageToken with
  | none =>
    unfold InboxStore.continuations
    rw [Option.map_none, Option.toList_none, List.append_nil]
    exact fun _ _ hjob _ => hjob
  | some pageToken => exact .append (by simp [InboxStore.continuation])

theorem InboxSyncJob.failed_not_running (job : InboxSyncJob) (now : Instant) (errorCode : String)
    (reauthorize : Bool) : (job.failed now errorCode reauthorize).status ≠ .running := by
  unfold failed
  dsimp only
  split <;> simp

/--
What a transaction that is not a claim makes of the queue: it adds the first job of a request, completes a
job and adds the one that reads on, or stops a job.
-/
inductive QueueChange [Digest] (jobs : List InboxSyncJob) : List InboxSyncJob → Prop where
  | kept : QueueChange jobs jobs
  | requested {request : SyncRequest} {now : Instant} (first : request.pageToken = none)
      : QueueChange jobs (jobs ++ [request.job now])
  | completed {jobId : Nat} {job : InboxSyncJob} {nextPageToken : Option PageToken}
      {committedHistoryId : Option HistoryId} {now : Instant} (stored : jobs[jobId]? = some job)
      : QueueChange jobs
        ((jobs ++ InboxStore.continuations job nextPageToken committedHistoryId now).set jobId
          (job.completed now))
  | written {jobId : Nat} {job job' : InboxSyncJob} (stored : jobs[jobId]? = some job)
      (stopped : job'.status ≠ .running) : QueueChange jobs (jobs.set jobId job')

theorem QueueChange.none_started [Digest] {jobs jobs' : List InboxSyncJob}
    (h : QueueChange jobs jobs') : NoneStarted jobs jobs' := by
  cases h with
  | kept => exact fun _ _ hjob _ => hjob
  | requested _ => exact .append (by simp [SyncRequest.job])
  | completed _ => exact .trans .continuations (.set (by simp [InboxSyncJob.completed]))
  | written _ hstopped => exact .set hstopped

theorem SyncRequest.new_pageToken {connectionId : Nat} {trigger : SyncTrigger} {triggerKey : String}
    {pageBudget itemBudget : Nat} {request : SyncRequest}
    (h : SyncRequest.new connectionId trigger triggerKey pageBudget itemBudget = .ok request)
    : request.pageToken = none := by
  unfold SyncRequest.new at h
  split at h
  . split at h
    . split at h
      . rw [pure_eq_ok] at h
        rw [← h]
      . cases h
    . cases h
  . cases h

/--
The last of the claims so far that took the job.
-/
def InboxDesk.LastClaim (d : InboxDesk) (jobId task : Nat) (sync : PendingSync) : Prop :=
  d.syncs[task]? = some sync ∧ sync.work.jobId = jobId
    ∧ ∀ (later : Nat) (other : PendingSync), task < later → d.syncs[later]? = some other
      → other.work.jobId ≠ jobId

/--
A running job is owned by its last claim.
-/
def InboxDesk.Owned (d : InboxDesk) : Prop :=
  ∀ (i : Nat) (job : InboxSyncJob), d.inbox.jobs[i]? = some job → job.status = .running
    → d.inbox.Connected job.connectionId
      ∧ ∃ task sync, d.LastClaim i task sync ∧ job.leaseOwner = some sync.workerId

def PendingSync.SameTask (a b : PendingSync) : Prop :=
  b.work = a.work ∧ b.workerId = a.workerId

theorem InboxDesk.LastClaim.unique {d : InboxDesk} {jobId task task' : Nat} {sync sync' : PendingSync}
    (h : d.LastClaim jobId task sync) (h' : d.LastClaim jobId task' sync') : sync' = sync := by
  have htask : task' = task := by
    rcases Nat.lt_trichotomy task task' with hlt | heq | hlt
    . exact absurd h'.2.1 (h.2.2 task' sync' hlt h'.1)
    . exact heq.symm
    . exact absurd h.2.1 (h'.2.2 task sync hlt h.1)
  rw [htask] at h'
  exact Option.some.inj (h'.1.symm.trans h.1)

theorem InboxDesk.LastClaim.updates {d d' : InboxDesk} {jobId task : Nat} {sync : PendingSync}
    (h : d.LastClaim jobId task sync) (hsyncs : Rows.Updates PendingSync.SameTask d.syncs d'.syncs)
    : ∃ sync', d'.LastClaim jobId task sync' ∧ sync'.workerId = sync.workerId := by
  obtain ⟨hsync, hof, hlast⟩ := h
  obtain ⟨sync', hsync', hwork, hworker⟩ := hsyncs.kept task sync hsync
  refine ⟨sync', ⟨hsync', by rw [hwork, hof], ?_⟩, hworker⟩
  intro later other' hlater hother'
  obtain ⟨other, hother, hsame, _⟩ := hsyncs.back hother'
  rw [hsame]
  exact hlast later other hlater hother

/--
A claim makes the new tasks the last ones of the jobs it hands out.
-/
theorem InboxDesk.Owned.claimed {d : InboxDesk} {now : Instant} {workerId : String} {limit leaseSeconds : Nat}
    {connectionId : Option Nat} {inbox : InboxStore} {works : List InboxSyncWork}
    (howned : d.Owned)
    (h : d.inbox.claim now limit connectionId workerId leaseSeconds = .ok (inbox, works))
    (hconnected : ∀ connectionId, d.inbox.Connected connectionId → inbox.Connected connectionId)
    : ({ d with
        inbox := inbox
        syncs := d.syncs ++ works.map fun work => { work, workerId, pages := [] } }
          : InboxDesk).Owned := by
  intro i job hjob hrunning
  cases InboxStore.claim_running h hjob hrunning with
  | inl hnew =>
    obtain ⟨hmem, howner, hconnection⟩ := hnew
    refine ⟨hconnection, ?_⟩
    obtain ⟨work, hwork, hid⟩ := List.mem_map.mp hmem
    obtain ⟨task, sync, hsync, hof, hlast⟩ := Rows.exists_last (p := fun sync : PendingSync =>
        sync.work.jobId = i) (List.mem_map_of_mem (f := fun work =>
          ({ work, workerId, pages := [] } : PendingSync)) hwork) hid
    refine ⟨d.syncs.length + task, sync, ⟨?_, hof, ?_⟩, ?_⟩
    . rw [List.getElem?_append_right (Nat.le_add_right _ _), Nat.add_sub_cancel_left]
      exact hsync
    . intro later other hlater hother
      rw [List.getElem?_append_right (by omega)] at hother
      exact hlast (later - d.syncs.length) other (by omega) hother
    . obtain ⟨_, _, heq⟩ := List.mem_map.mp (List.mem_of_getElem? hsync)
      rw [← heq]
      exact howner
  | inr hold =>
    obtain ⟨hmem, hbefore⟩ := hold
    obtain ⟨hconnection, task, sync, ⟨hsync, hof, hlast⟩, howner⟩ := howned i job hbefore hrunning
    refine ⟨hconnected _ hconnection, task, sync, ⟨?_, hof, ?_⟩, howner⟩
    . exact (List.getElem?_append_left (List.getElem?_eq_some_iff.mp hsync).1).trans hsync
    . intro later other hlater hother
      rw [List.getElem?_append] at hother
      split at hother
      . exact hlast later other hlater hother
      . intro hid
        obtain ⟨work, hwork, heq⟩ := List.mem_map.mp (List.mem_of_getElem? hother)
        apply hmem
        rw [← hid, ← heq]
        exact List.mem_map_of_mem hwork

namespace InboxEffect

variable [Digest] {d d' : InboxDesk} {command : InboxCommand} {output : InboxOutput}

/--
What a command other than a claim makes of the queue.
-/
theorem queue_change (h : InboxEffect d command d' output)
    (hclaim : ∀ now workerId limit leaseSeconds connectionId,
      command ≠ .claim now workerId limit leaseSeconds connectionId)
    : QueueChange d.inbox.jobs d'.inbox.jobs := by
  have hkept := h.mail_kept
  cases h with
  | established haccepted =>
    obtain ⟨_, _, heq, _⟩ := InboxStore.establish_eq_ok haccepted
    rw [heq]
    exact .kept
  | requestedManual hbuilt haccepted | requestedScheduled hbuilt haccepted =>
    cases InboxStore.enqueue_eq_ok haccepted with
    | inl heq =>
      rw [heq]
      exact .kept
    | inr heq =>
      rw [heq]
      exact .requested (SyncRequest.new_pageToken hbuilt)
  | claimed _ => exact absurd rfl (hclaim _ _ _ _ _)
  | persisted _ _ _ _ haccepted =>
    obtain ⟨t, added, conversations, hpersisted, _, hcompleted⟩ := InboxStore.persist_eq_ok haccepted
    obtain ⟨store, hframed⟩ := hpersisted.framed
    obtain ⟨job, _, checkpoint, hjob, _, _, heq⟩ := InboxStore.complete_eq_ok hcompleted
    rw [hframed] at hjob
    rw [heq, hframed]
    exact .completed hjob
  | failed _ haccepted =>
    obtain ⟨job, _, hjob, _, _, heq⟩ := InboxStore.fail_eq_ok haccepted
    rw [heq]
    exact .written hjob (job.failed_not_running _ _ _)
  | reprocessed haccepted =>
    rcases InboxStore.reprocess_eq_ok haccepted with heq | ⟨_, _, _, hjob, _, _, heq⟩
    . rw [heq]
      exact .kept
    . rw [heq]
      exact .written hjob (by simp [InboxSyncJob.requeued])
  | threadImported _ haccepted =>
    obtain ⟨_, _, himported⟩ := InboxStore.importThread_imported haccepted
    obtain ⟨_, _, hframed⟩ := himported.framed
    rw [hframed]
    exact .kept
  | pageRead _ _ _ => exact .kept
  | threadRead _ _ => exact .kept
  | _ =>
    rw [(hkept rfl).jobs]
    exact .kept

theorem syncs_kept (h : InboxEffect d command d' output)
    (hclaim : ∀ now workerId limit leaseSeconds connectionId,
      command ≠ .claim now workerId limit leaseSeconds connectionId)
    : Rows.Updates PendingSync.SameTask d.syncs d'.syncs := by
  have hrefl : ∀ sync : PendingSync, sync.SameTask sync := fun _ => ⟨rfl, rfl⟩
  cases h with
  | claimed _ => exact absurd rfl (hclaim _ _ _ _ _)
  | pageRead pending _ _ => exact .set hrefl pending ⟨rfl, rfl⟩
  | _ => exact .refl hrefl _

theorem owned (h : InboxEffect d command d' output) (htasks : d.TasksStored) (howned : d.Owned)
    : d'.Owned := by
  have hkept : ∀ connectionId, d.inbox.Connected connectionId → d'.inbox.Connected connectionId :=
    fun _ => h.connected_kept htasks
  by_cases hclaim : ∃ now workerId limit leaseSeconds connectionId,
      command = .claim now workerId limit leaseSeconds connectionId
  . obtain ⟨now, workerId, limit, leaseSeconds, connectionId, heq⟩ := hclaim
    subst heq
    cases h with
    | claimed haccepted => exact howned.claimed haccepted hkept
  . simp only [not_exists] at hclaim
    intro i job hjob hrunning
    obtain ⟨hconnection, task, sync, hlast, howner⟩ :=
      howned i job ((h.queue_change hclaim).none_started i job hjob hrunning) hrunning
    obtain ⟨sync', hlast', hworker⟩ := hlast.updates (h.syncs_kept hclaim)
    exact ⟨hkept _ hconnection, task, sync', hlast', by rw [hworker, howner]⟩

end InboxEffect

theorem InboxDesk.run_owned [Digest] (store : Store) (commands : List InboxCommand)
    : (inboxService.run (.new store) commands).Owned := by
  have hboth : (inboxService.run (.new store) commands).TasksStored
      ∧ (inboxService.run (.new store) commands).Owned := by
    apply run_of_effect (P := fun d => d.TasksStored ∧ d.Owned)
    . intro d d' command output heffect hd
      exact ⟨heffect.tasksStored hd.1, heffect.owned hd.1 hd.2⟩
    . constructor
      . intro sync hsync
        cases hsync
      . intro i job hjob
        cases hjob
  exact hboth.2

end CaseResolution
