import CaseResolution.Inbox.Lemmas.Deliveries
import CaseResolution.Inbox.Lemmas.Effects

/-!
This module contains what every accepted command of the inbox keeps of the queue, the checkpoints, the
messages and the work that was handed out.
-/

namespace CaseResolution

open Guard

namespace InboxStore

variable {s s' : InboxStore} {now : Instant}

theorem setProfile_framed (s : InboxStore) (profile : InboxConnectionProfile)
    : s.setProfile profile = { s with profiles := (s.setProfile profile).profiles } := by
  unfold setProfile
  split <;> rfl

theorem mem_setProfile {profile other : InboxConnectionProfile}
    (h : other ∈ (s.setProfile profile).profiles) : other = profile ∨ other ∈ s.profiles := by
  unfold setProfile at h
  split at h
  . exact (List.mem_or_eq_of_mem_set h).symm
  . cases List.mem_append.mp h with
    | inl hold => exact .inr hold
    | inr hnew => exact .inl (List.mem_singleton.mp hnew)

/--
A connection that is authorized gets a checkpoint if it has none.
-/
theorem establish_eq_ok {connectionId : Nat} {writeCapabilities : List String}
    {historyId : Option HistoryId}
    (h : s.establish now connectionId writeCapabilities historyId = .ok s')
    : ∃ profiles opened, s' = { s with profiles := profiles, checkpoints := s.checkpoints ++ opened }
        ∧ (∀ checkpoint ∈ opened, checkpoint.connectionId = connectionId
          ∧ checkpoint.providerHistoryId = historyId ∧ s.findCheckpoint connectionId = none)
        ∧ (∀ profile ∈ profiles, profile.connectionId = connectionId ∨ profile ∈ s.profiles)
        ∧ ∃ checkpoint ∈ s.checkpoints ++ opened, checkpoint.connectionId = connectionId := by
  unfold establish at h
  rw [ensure_bind_eq_ok] at h
  obtain ⟨_, h⟩ := h
  have hprofile := setProfile_framed s { connectionId, importMode := .manual, writeCapabilities }
  have hprofiles : ∀ profile ∈ (s.setProfile
      { connectionId, importMode := .manual, writeCapabilities }).profiles,
      profile.connectionId = connectionId ∨ profile ∈ s.profiles := by
    intro profile hmem
    cases mem_setProfile hmem with
    | inl heq => exact .inl (by rw [heq])
    | inr hold => exact .inr hold
  dsimp only at h
  generalize s.setProfile _ = connected at h hprofile hprofiles
  split at h
  . next row hfind =>
    rw [pure_eq_ok] at h
    subst h
    obtain ⟨checkpointId, checkpoint⟩ := row
    obtain ⟨hstored, hconnection⟩ := findCheckpoint_eq_some hfind
    refine ⟨connected.profiles, [], ?_, by simp, hprofiles, checkpoint, ?_, hconnection⟩
    . rw [List.append_nil]
      exact hprofile
    . exact List.mem_append_left _ (List.mem_of_getElem? hstored)
  . next hnone =>
    rw [pure_eq_ok] at h
    refine ⟨connected.profiles, _, h.symm.trans (by rw [hprofile]), ?_, hprofiles, _,
      List.mem_append_right _ List.mem_cons_self, rfl⟩
    intro checkpoint hmem
    rw [List.mem_singleton] at hmem
    subst hmem
    exact ⟨rfl, rfl, hnone⟩

theorem setImportMode_framed {connectionId : Nat} {importMode : InboxImportMode}
    {writeCapabilities : List String}
    (h : s.setImportMode connectionId importMode writeCapabilities = .ok s')
    : s' = { s with profiles := s'.profiles }
      ∧ ∀ profile ∈ s'.profiles, ∃ stored ∈ s.profiles, stored.connectionId = profile.connectionId := by
  unfold setImportMode at h
  rw [orThrow_bind_eq_ok] at h
  obtain ⟨stored, hfind, h⟩ := h
  rw [pure_eq_ok] at h
  rw [← h]
  refine ⟨setProfile_framed s _, ?_⟩
  intro profile hmem
  cases mem_setProfile hmem with
  | inl heq =>
    have hconnection := List.find?_some hfind
    rw [heq]
    exact ⟨stored, List.mem_of_find?_eq_some hfind, of_decide_eq_true hconnection⟩
  | inr hold => exact ⟨profile, hold, rfl⟩

/--
What a command that completes no job leaves of the jobs and of what the connections committed to.
-/
structure Uncommitted (s s' : InboxStore) : Prop where
  history : Rows.Extends InboxSyncCheckpoint.SameHistory s.checkpoints s'.checkpoints
  completed : ∀ (i : Nat) job job', s.jobs[i]? = some job → s'.jobs[i]? = some job' →
    job'.status = .completed → job.status = .completed

namespace Uncommitted

theorem of_eq (hcheckpoints : s'.checkpoints = s.checkpoints) (hjobs : s'.jobs = s.jobs)
    : s.Uncommitted s' where
  history := by
    rw [hcheckpoints]
    exact Rows.Extends.refl InboxSyncCheckpoint.SameHistory.refl _
  completed := by
    intro i job job' hi hi' hcompleted
    rw [hjobs, hi, Option.some.injEq] at hi'
    exact hi' ▸ hcompleted

/--
One job is written, and not as completed.
-/
theorem of_set {jobId : Nat} {job : InboxSyncJob} (hjobs : s'.jobs = s.jobs.set jobId job)
    (hstatus : job.status ≠ .completed)
    (hhistory : Rows.Extends InboxSyncCheckpoint.SameHistory s.checkpoints s'.checkpoints)
    : s.Uncommitted s' where
  history := hhistory
  completed := by
    intro i other other' hi hi' hcompleted
    rw [hjobs] at hi'
    cases Rows.getElem?_set_cases hi' with
    | inl hset => exact absurd hcompleted (hset.2.1 ▸ hstatus)
    | inr hold =>
      rw [hold.2, Option.some.injEq] at hi
      exact hi ▸ hcompleted

end Uncommitted

theorem enqueue_uncommitted {request : SyncRequest} {jobId : Nat}
    (h : s.enqueue now request = .ok (s', jobId)) : s.Uncommitted s' := by
  cases enqueue_eq_ok h with
  | inl heq => exact .of_eq (by rw [heq]) (by rw [heq])
  | inr heq =>
    subst heq
    constructor
    . exact Rows.Extends.refl InboxSyncCheckpoint.SameHistory.refl _
    . intro i job job' hi hi' hcompleted
      have hlt := (List.getElem?_eq_some_iff.mp hi).1
      rw [List.getElem?_append_left hlt, hi, Option.some.injEq] at hi'
      exact hi' ▸ hcompleted

theorem claim_uncommitted {limit leaseSeconds : Nat} {connectionId : Option Nat} {workerId : String}
    {works : List InboxSyncWork}
    (h : s.claim now limit connectionId workerId leaseSeconds = .ok (s', works))
    : s.Uncommitted s' := by
  obtain ⟨t, ht, hs⟩ := claim_jobs h
  constructor
  . exact (claim_framed h).2.kept
  . intro i job job' hi hi' hcompleted
    obtain hlost | hleased | hkept := claim_row ht hs hi
    . rw [hlost.2, Option.some.injEq] at hi'
      rw [← hi'] at hcompleted
      cases hcompleted
    . rw [hleased.2, Option.some.injEq] at hi'
      rw [← hi'] at hcompleted
      cases hcompleted
    . rw [hkept.2, Option.some.injEq] at hi'
      exact hi' ▸ hcompleted

theorem fail_uncommitted {jobId : Nat} {workerId errorCode : String} {reauthorize : Bool}
    (h : s.fail now jobId workerId errorCode reauthorize = .ok s') : s.Uncommitted s' := by
  obtain ⟨job, _, _, _, ⟨checkpointId, checkpoint, checkpoint', hfind, hset, hc, hhistory⟩, heq⟩ :=
    fail_eq_ok h
  subst heq hset
  apply Uncommitted.of_set rfl
  . unfold InboxSyncJob.failed
    dsimp only
    split <;> simp
  . apply Rows.Extends.set InboxSyncCheckpoint.SameHistory.refl (findCheckpoint_eq_some hfind).1
    exact ⟨hc.symm, hhistory.symm⟩

theorem reprocess_uncommitted {jobId : Nat} (h : s.reprocess now jobId = .ok s')
    : s.Uncommitted s' := by
  obtain heq | ⟨job, checkpointId, checkpoint, _, _, hfind, heq⟩ := reprocess_eq_ok h
  . exact .of_eq (by rw [heq]) (by rw [heq])
  . subst heq
    apply Uncommitted.of_set rfl
    . simp [InboxSyncJob.requeued]
    . apply Rows.Extends.set InboxSyncCheckpoint.SameHistory.refl (findCheckpoint_eq_some hfind).1
      exact ⟨rfl, rfl⟩

theorem establish_uncommitted {connectionId : Nat} {writeCapabilities : List String}
    {historyId : Option HistoryId}
    (h : s.establish now connectionId writeCapabilities historyId = .ok s') : s.Uncommitted s' := by
  obtain ⟨profiles, opened, heq, _⟩ := establish_eq_ok h
  subst heq
  constructor
  . exact Rows.Extends.append InboxSyncCheckpoint.SameHistory.refl _ _
  . intro i job job' hi hi' hcompleted
    rw [hi, Option.some.injEq] at hi'
    exact hi' ▸ hcompleted

end InboxStore

/--
What the transaction of a sync job commits.
-/
structure SyncCommitted (d : InboxDesk) (now : Instant) (sync : PendingSync)
    (findings : List (ProviderMessage × MessageFinding)) (d' : InboxDesk) : Prop where
  messages : ∃ added, d'.inbox.messages = d.inbox.messages ++ added
    ∧ added.map ExternalMessage.key
      = (findings.filter fun finding => finding.2 = .imported).map fun finding =>
        (sync.work.job.connectionId, finding.1.providerMessageId)
  job : ∃ job, d.inbox.jobs[sync.work.jobId]? = some job ∧ job.holdsLease now = true
    ∧ job.connectionId = sync.work.job.connectionId
    ∧ d'.inbox.jobs[sync.work.jobId]? = some (job.completed now)
  checkpoint : ∃ fetch checkpointId checkpoint, sync.fetch = .ok fetch
    ∧ d.inbox.findCheckpoint sync.work.job.connectionId = some (checkpointId, checkpoint)
    ∧ d'.inbox.checkpoints = d.inbox.checkpoints.set checkpointId
      { checkpoint.observed now fetch.observedHistoryId fetch.pageToken with
        version := checkpoint.version + 1 }

/--
The work that was handed out is that of stored jobs.
-/
def InboxDesk.TasksStored (d : InboxDesk) : Prop :=
  ∀ sync ∈ d.syncs, ∃ job, d.inbox.jobs[sync.work.jobId]? = some job
    ∧ job.SameRequest sync.work.job

/--
The commands that have no part in bringing messages in.
-/
def InboxCommand.leavesMail : InboxCommand → Bool
  | .perform _ | .setImportMode .. | .deliver .. | .createReplyDraft _ | .completeDelivery ..
  | .failDelivery .. | .reconcileDelivery .. => true
  | _ => false

/--
Nothing that has to do with bringing messages in is written.
-/
structure InboxDesk.MailKept (d d' : InboxDesk) : Prop where
  jobs : d'.inbox.jobs = d.inbox.jobs
  checkpoints : d'.inbox.checkpoints = d.inbox.checkpoints
  conversations : d'.inbox.conversations = d.inbox.conversations
  messages : d'.inbox.messages = d.inbox.messages
  syncs : d'.syncs = d.syncs
  imports : d'.imports = d.imports

theorem InboxDesk.MailKept.of_written {d : InboxDesk} {inbox : InboxStore}
    (h : d.inbox.DeliveriesWritten inbox) : d.MailKept { d with inbox := inbox } := by
  constructor <;> rw [h.framed]

namespace InboxEffect

variable [Digest] {d d' : InboxDesk} {command : InboxCommand} {output : InboxOutput}

theorem mail_kept (h : InboxEffect d command d' output) (hleaves : command.leavesMail = true)
    : d.MailKept d' := by
  cases h with
  | importModeSet haccepted => constructor <;> rw [(InboxStore.setImportMode_framed haccepted).1]
  | delivered haccepted => constructor <;> rw [InboxStore.deliver_framed haccepted]
  | deliveryCompleted _ haccepted => exact .of_written (InboxStore.completeDelivery_written haccepted)
  | deliveryFailed _ haccepted => exact .of_written (InboxStore.failDelivery_written haccepted)
  | deliveryReconciled haccepted =>
    exact .of_written (InboxStore.reconcileDelivery_written haccepted)
  | performed _ => exact ⟨rfl, rfl, rfl, rfl, rfl, rfl⟩
  | draftRequested _ => exact ⟨rfl, rfl, rfl, rfl, rfl, rfl⟩
  | _ => cases hleaves

theorem queueStep (h : InboxEffect d command d' output) (a : Instant)
    : QueueStep (command.instant.getD a) d.inbox.jobs d'.inbox.jobs := by
  have hkept := h.mail_kept
  cases h with
  | established haccepted =>
    obtain ⟨_, _, heq, _⟩ := InboxStore.establish_eq_ok haccepted
    rw [heq]
    exact QueueStep.refl
  | requestedManual _ haccepted => exact InboxStore.enqueue_queueStep haccepted
  | requestedScheduled _ haccepted => exact InboxStore.enqueue_queueStep haccepted
  | claimed haccepted => exact InboxStore.claim_queueStep haccepted
  | pageRead _ _ _ => exact QueueStep.refl
  | persisted _ _ _ _ haccepted =>
    obtain ⟨t, added, conversations, hpersisted, _, hcompleted⟩ := InboxStore.persist_eq_ok haccepted
    obtain ⟨store, hframed⟩ := hpersisted.framed
    have hstep := InboxStore.complete_queueStep hcompleted
    rw [hframed] at hstep
    exact hstep
  | failed _ haccepted => exact InboxStore.fail_queueStep haccepted
  | reprocessed haccepted => exact InboxStore.reprocess_queueStep haccepted
  | threadRead _ _ => exact QueueStep.refl
  | threadImported _ haccepted =>
    obtain ⟨_, _, himported⟩ := InboxStore.importThread_imported haccepted
    obtain ⟨_, _, hframed⟩ := himported.framed
    rw [hframed]
    exact QueueStep.refl
  | _ =>
    rw [(hkept rfl).jobs]
    exact QueueStep.refl

/--
No command stores a message of a mailbox twice.
-/
theorem messages_nodup (h : InboxEffect d command d' output)
    (hnodup : (d.inbox.messages.map ExternalMessage.key).Nodup)
    : (d'.inbox.messages.map ExternalMessage.key).Nodup := by
  have hkept := h.mail_kept
  cases h with
  | established haccepted =>
    obtain ⟨_, _, heq, _⟩ := InboxStore.establish_eq_ok haccepted
    rwa [heq]
  | requestedManual _ haccepted =>
    cases InboxStore.enqueue_eq_ok haccepted with
    | inl heq => rwa [heq]
    | inr heq => rwa [heq]
  | requestedScheduled _ haccepted =>
    cases InboxStore.enqueue_eq_ok haccepted with
    | inl heq => rwa [heq]
    | inr heq => rwa [heq]
  | claimed haccepted => rwa [(InboxStore.claim_framed haccepted).1]
  | pageRead _ _ _ => exact hnodup
  | persisted _ _ _ _ haccepted =>
    obtain ⟨t, added, conversations, hpersisted, _, hcompleted⟩ := InboxStore.persist_eq_ok haccepted
    obtain ⟨_, _, _, _, _, _, heq⟩ := InboxStore.complete_eq_ok hcompleted
    rw [heq]
    exact hpersisted.unique hnodup
  | failed _ haccepted =>
    obtain ⟨_, _, _, _, _, heq⟩ := InboxStore.fail_eq_ok haccepted
    rwa [heq]
  | reprocessed haccepted =>
    obtain heq | ⟨_, _, _, _, _, _, heq⟩ := InboxStore.reprocess_eq_ok haccepted
    . rwa [heq]
    . rwa [heq]
  | threadRead _ _ => exact hnodup
  | threadImported _ haccepted =>
    obtain ⟨_, _, himported⟩ := InboxStore.importThread_imported haccepted
    exact himported.unique hnodup
  | _ => rwa [(hkept rfl).messages]

/--
A command either commits a whole sync transaction or completes no job at all.
-/
theorem committed (h : InboxEffect d command d' output) (htasks : d.TasksStored)
    : (∃ now task getMessage sync findings, command = .persist now task getMessage
        ∧ output = .persisted sync findings ∧ d.syncs[task]? = some sync
        ∧ SyncCommitted d now sync findings d')
      ∨ (∀ now task getMessage, command ≠ .persist now task getMessage)
        ∧ d.inbox.Uncommitted d'.inbox := by
  have hkept := h.mail_kept
  cases h with
  | @persisted now task getMessage sync fetch messages inbox findings hpending hfetched _ hgot
      haccepted =>
    obtain ⟨t, added, conversations, hpersisted, _, hcompleted⟩ := InboxStore.persist_eq_ok haccepted
    obtain ⟨store, hframed⟩ := hpersisted.framed
    obtain ⟨job, checkpointId, checkpoint, hjob, hheld, hfind, heq⟩ :=
      InboxStore.complete_eq_ok hcompleted
    obtain ⟨stored, hstored, hrequest⟩ := htasks sync (List.mem_of_getElem? hpending)
    subst hframed
    have hsame : stored = job := Option.some.inj (hstored.symm.trans hjob)
    subst hsame
    refine .inl ⟨now, task, getMessage, sync, findings, rfl, rfl, hpending, ?_, ?_, ?_⟩
    . exact ⟨added, by rw [heq], hpersisted.added_keys⟩
    . refine ⟨stored, hjob, hheld, hrequest.1, ?_⟩
      have hlt := (List.getElem?_eq_some_iff.mp hjob).1
      rw [heq]
      dsimp only at hlt ⊢
      rw [List.set_append_left _ _ hlt,
        List.getElem?_append_left (by rwa [List.length_set]), List.getElem?_set_self hlt]
    . refine ⟨fetch, checkpointId, checkpoint, hfetched, hrequest.1 ▸ hfind, ?_⟩
      rw [heq]
  | established haccepted => exact .inr ⟨nofun, InboxStore.establish_uncommitted haccepted⟩
  | requestedManual _ haccepted => exact .inr ⟨nofun, InboxStore.enqueue_uncommitted haccepted⟩
  | requestedScheduled _ haccepted => exact .inr ⟨nofun, InboxStore.enqueue_uncommitted haccepted⟩
  | claimed haccepted => exact .inr ⟨nofun, InboxStore.claim_uncommitted haccepted⟩
  | pageRead _ _ _ => exact .inr ⟨nofun, .of_eq rfl rfl⟩
  | failed _ haccepted => exact .inr ⟨nofun, InboxStore.fail_uncommitted haccepted⟩
  | reprocessed haccepted => exact .inr ⟨nofun, InboxStore.reprocess_uncommitted haccepted⟩
  | threadRead _ _ => exact .inr ⟨nofun, .of_eq rfl rfl⟩
  | threadImported _ haccepted =>
    obtain ⟨_, _, himported⟩ := InboxStore.importThread_imported haccepted
    obtain ⟨_, _, hframed⟩ := himported.framed
    rw [hframed]
    exact .inr ⟨nofun, .of_eq rfl rfl⟩
  | _ => exact .inr ⟨nofun, .of_eq (hkept rfl).checkpoints (hkept rfl).jobs⟩

/--
Work is handed out for stored jobs only, and what a job was requested for never changes.
-/
theorem tasksStored (h : InboxEffect d command d' output) (htasks : d.TasksStored)
    : d'.TasksStored := by
  have hwritten := (h.queueStep 0).written
  have hstored : ∀ sync ∈ d.syncs, ∃ job, d'.inbox.jobs[sync.work.jobId]? = some job
      ∧ job.SameRequest sync.work.job := by
    intro sync hsync
    obtain ⟨job, hjob, hrequest⟩ := htasks sync hsync
    obtain ⟨job', hjob', hwrite⟩ := hwritten _ _ hjob
    exact ⟨job', hjob', hwrite.sameRequest.symm.trans hrequest⟩
  cases h with
  | claimed haccepted =>
    intro sync hsync
    cases List.mem_append.mp hsync with
    | inl hold => exact hstored sync hold
    | inr hnew =>
      obtain ⟨work, hwork, heq⟩ := List.mem_map.mp hnew
      subst heq
      exact ⟨work.job, (InboxStore.claim_works haccepted work hwork).job, .refl _⟩
  | @pageRead task payload read fetch hpending _ _ =>
    intro sync hsync
    cases List.mem_or_eq_of_mem_set hsync with
    | inl hold => exact hstored sync hold
    | inr heq =>
      subst heq
      exact hstored read (List.mem_of_getElem? hpending)
  | _ => exact hstored

end InboxEffect

end CaseResolution
