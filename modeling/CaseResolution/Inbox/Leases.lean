import CaseResolution.Inbox.Lemmas.Reachable

/-!
This module contains what the queue of sync jobs guarantees its workers: no two of them hold jobs of one
connection, no job is tried too often, and a job is completed together with the messages it imported.
-/

namespace CaseResolution

namespace InboxDesk

variable {d d' : InboxDesk} {command : InboxCommand} {output : InboxOutput}

/--
What an accepted command makes of the sync jobs.
-/
structure SyncStep (d : InboxDesk) (command : InboxCommand) (d' : InboxDesk) (output : InboxOutput)
    : Prop where
  exhausted : ∀ now ∈ command.instant, ∀ (i : Nat) job, d.inbox.jobs[i]? = some job →
    job.isExhausted now = true →
    d'.inbox.jobs[i]? = some job ∨ d'.inbox.jobs[i]? = some job.abandoned
  abandoned : ∀ now workerId limit leaseSeconds connectionId,
    command = .claim now workerId limit leaseSeconds connectionId →
    ∀ (i : Nat) job, d.inbox.jobs[i]? = some job → job.isExhausted now = true →
    (∀ c ∈ connectionId, job.connectionId = c) →
    d'.inbox.jobs[i]? = some job.abandoned
      ∨ ∃ rows : List (Nat × InboxSyncJob), rows.length = limit ∧ Rows.Selects d.inbox.jobs rows
        ∧ ∀ row ∈ rows, row.2.isExhausted now = true
          ∧ row.2.leaseExpiresAt.getD 0 ≤ job.leaseExpiresAt.getD 0
          ∧ d'.inbox.jobs[row.1]? = some row.2.abandoned
  committed : (∃ now task getMessage sync findings, command = .persist now task getMessage
      ∧ output = .persisted sync findings ∧ d.syncs[task]? = some sync
      ∧ SyncCommitted d now sync findings d')
    ∨ (∀ now task getMessage, command ≠ .persist now task getMessage)
      ∧ d.inbox.Uncommitted d'.inbox

variable [Digest]

theorem step_syncStep (htasks : d.TasksStored)
    (h : inboxService.step d command = .ok (d', output)) : d.SyncStep command d' output := by
  have heffect := step_effect h
  constructor
  . intro now hnow i job hi hexhausted
    have hstep := heffect.queueStep now
    rw [hnow, Option.getD_some] at hstep
    obtain ⟨job', hi', hwrite⟩ := hstep.written i job hi
    rw [hi']
    cases hwrite.of_exhausted hexhausted with
    | inl heq => exact .inl (congrArg some heq)
    | inr heq => exact .inr (congrArg some heq)
  . intro now workerId limit leaseSeconds connectionId hcommand i job hi hexhausted hcovers
    subst hcommand
    cases heffect with
    | claimed haccepted => exact InboxStore.claim_abandons haccepted hi hexhausted hcovers
  . exact heffect.committed htasks

theorem run_exclusive (store : Store) (commands : List InboxCommand) (t : Instant)
    (hsorted : (commands.filterMap InboxCommand.instant ++ [t]).Pairwise (· ≤ ·))
    : InboxSyncJob.Exclusive t (inboxService.run (.new store) commands).inbox.jobs := by
  apply Machine.run_clocked_of_start (m := inboxService) (Q := fun _ _ => True)
    (P := fun now (d : InboxDesk) => InboxSyncJob.Exclusive now d.inbox.jobs) _ _ _ _ hsorted
  . intro a b d hle h
    exact h.mono hle
  . intro a d command h _ hclock
    have hnow : InboxSyncJob.Exclusive (command.instant.getD a) d.inbox.jobs := by
      cases hinstant : command.instant with
      | none => exact h
      | some now => exact h.mono (hclock now hinstant)
    apply Machine.next_cases (P := fun (d : InboxDesk) => InboxSyncJob.Exclusive _ d.inbox.jobs) hnow
    intro d' output haccepted
    exact ((step_effect haccepted).queueStep a).exclusive hnow
  . intro a i j job other hi
    cases hi
  . exact Machine.along_iff.mpr fun _ _ _ _ => trivial

end InboxDesk

/--
While time does not run backwards at most one worker holds a job of a connection. No job is tried more
than `maxSyncAttempts` times, and one whose last worker is lost is given up and not handed out. A message
of a mailbox is stored once, and it is imported in the step that completes its job or not at all.
-/
theorem sync_exclusive [Digest] (store : Store) (commands : List InboxCommand)
    : (∀ t, (commands.filterMap InboxCommand.instant ++ [t]).Pairwise (· ≤ ·) →
        InboxSyncJob.Exclusive t (inboxService.run (.new store) commands).inbox.jobs)
      ∧ (∀ job ∈ (inboxService.run (.new store) commands).inbox.jobs,
        job.attemptCount ≤ maxSyncAttempts)
      ∧ ((inboxService.run (.new store) commands).inbox.messages.map ExternalMessage.key).Nodup
      ∧ ∀ command,
        match inboxService.step (inboxService.run (.new store) commands) command with
        | .ok (d', output) =>
          (inboxService.run (.new store) commands).SyncStep command d' output
        | .error _ =>
          inboxService.next (inboxService.run (.new store) commands) command
            = inboxService.run (.new store) commands := by
  refine ⟨InboxDesk.run_exclusive store commands, InboxDesk.run_attempts_le store commands,
    InboxDesk.run_messages_nodup store commands, ?_⟩
  intro command
  split
  . next haccepted => exact InboxDesk.step_syncStep (InboxDesk.run_tasksStored store commands) haccepted
  . next hrefused => exact Machine.next_of_error hrefused

namespace Sample

attribute [local instance] Digest.checksum

/--
Three workers are lost one after the other, and a fourth one asks for the job.
-/
def lostWorkers : List InboxCommand :=
  connected ++ [.requestScheduled 1 0 "schedule:1" 1 5, .claim 2 "A" 1 10 none,
    .claim (seconds 20) "B" 1 10 none, .claim (seconds 40) "C" 1 10 none,
    .claim (seconds 60) "D" 1 10 none]

theorem sync_exclusive_lostWorkers
    : InboxSyncJob.Exclusive (seconds 60) (inboxService.run (.new store) lostWorkers).inbox.jobs
      ∧ ∃ job ∈ (inboxService.run (.new store) lostWorkers).inbox.jobs,
        job.status = .dead ∧ job.attemptCount = maxSyncAttempts :=
  ⟨(sync_exclusive store lostWorkers).1 (seconds 60) (by decide), by decide +kernel⟩

end Sample

end CaseResolution
