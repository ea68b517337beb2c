import CaseResolution.Inbox.Impl.Drain
import CaseResolution.Inbox.Lemmas.Queue
import CaseResolution.Inbox.Lemmas.Reachable
import CaseResolution.PolicyIndexing.Completion
import CaseResolution.PolicyIndexing.Impl.Drain

/-!
This module contains what the drains of the two queues owe to their items: as long as a failure is recorded
while its lease lasts, every item gets its turn, is counted once and answers for itself.
-/

namespace CaseResolution

open Guard

namespace InboxStore

/--
The worker can still record the failure of the job: it holds the lease, and the connection has its
checkpoint.
-/
def Held (s : InboxStore) (now : Instant) (workerId : String) (work : InboxSyncWork) : Prop :=
  ∃ job checkpoint, s.runningJob now work.jobId workerId = .ok job
    ∧ s.findCheckpoint job.connectionId = some checkpoint

variable {workerId : String} {turn : SyncTurn} {work : InboxSyncWork} {error : Error}
  {s t : InboxStore}

theorem recordFailure_of_held (h : (turn.beforeFail s).Held turn.failedAt workerId work)
    : ∃ recorded, recordFailure workerId turn work error s = (recorded, .ok ()) := by
  obtain ⟨job, ⟨checkpointId, checkpoint⟩, hjob, hcheckpoint⟩ := h
  have hfail : ∃ recorded, (turn.beforeFail s).fail turn.failedAt work.jobId workerId
      (syncFailure error).1 (syncFailure error).2 = .ok recorded := by
    apply Exists.intro _
    apply bind_eq_ok.mpr
    exact ⟨job, hjob, updateCheckpoint_eq_ok.mpr ⟨checkpointId, checkpoint, hcheckpoint, rfl⟩⟩
  obtain ⟨recorded, hfail⟩ := hfail
  unfold recordFailure
  simp only [hfail]
  exact ⟨recorded, rfl⟩

/--
The failure of a job is recorded in its own row alone.
-/
theorem recordFailure_own (h : recordFailure workerId turn work error s = (t, .ok ()))
    : ∃ job, (turn.beforeFail s).jobs[work.jobId]? = some job
      ∧ t.jobs = (turn.beforeFail s).jobs.set work.jobId
        (job.failed turn.failedAt (syncFailure error).1 (syncFailure error).2) := by
  unfold recordFailure at h
  dsimp only at h
  split at h
  . next recorded hfail =>
    rw [Prod.mk.injEq] at h
    obtain ⟨job, _, hjob, _, _, heq⟩ := fail_eq_ok hfail
    exact ⟨job, hjob, by rw [← h.1, heq]⟩
  . simp at h

end InboxStore

/--
Every job of a loop over claimed jobs is taken, in their order.
-/
theorem InboxStore.syncTrace_works [Digest] {workerId : String} {turns : InboxSyncWork → SyncTurn}
    {works : List InboxSyncWork} {s t : InboxStore}
    {outcomes : List (InboxSyncWork × Except Error SyncFindings)}
    (h : (syncLoop workerId).Trace (works.map fun work => (work, turns work)) s outcomes t)
    : outcomes.map Prod.fst = works := by
  induction works generalizing s outcomes with
  | nil =>
    cases h
    rfl
  | cons work works ih =>
    cases h with
    | idle next => cases next
    | processed next process rest =>
      cases next
      rw [List.map_cons, ih rest]
    | failed next process record rest =>
      cases next
      rw [List.map_cons, ih rest]

/--
Every claimed job is counted as completed or failed.
-/
theorem InboxSyncDrainResult.of_counts
    (outcomes : List (InboxSyncWork × Except Error SyncFindings))
    : (InboxSyncDrainResult.of outcomes).completedJobs + (InboxSyncDrainResult.of outcomes).failedJobs
      = (InboxSyncDrainResult.of outcomes).claimedJobs := by
  unfold InboxSyncDrainResult.of
  dsimp only
  rw [List.length_eq_countP_add_countP (fun outcome => outcome.2.isOk)]

namespace PolicyIndexingService

variable {service : PolicyIndexingService} {turn : DrainTurn} {work : PolicyIndexWorkItem}
  {errorCode : String} {s t : PolicyIndexStore}

theorem recordFailure_of_leased {job : PolicyIndexJob}
    (h : (turn.beforeFail s).leasedJob turn.failedAt work = .ok job)
    : ∃ recorded, recordFailure turn work errorCode s = (recorded, .ok ()) := by
  unfold recordFailure PolicyIndexStore.fail
  simp only [h, bind, Except.bind, pure, Except.pure]
  exact ⟨_, rfl⟩

/--
The failure of an index job is recorded in its own row alone.
-/
theorem recordFailure_own (h : recordFailure turn work errorCode s = (t, .ok ()))
    : ∃ job, (turn.beforeFail s).jobs[work.jobId]? = some job
      ∧ t.jobs = (turn.beforeFail s).jobs.set work.jobId
        (job.failed turn.failedAt errorCode policyIndexMaxAttempts) := by
  unfold recordFailure at h
  dsimp only at h
  split at h
  . next failed job hfail =>
    unfold PolicyIndexStore.fail at hfail
    simp only [bind_eq_ok, pure_eq_ok, Prod.mk.injEq] at hfail
    obtain ⟨leased, hleased, hstored, _⟩ := hfail
    unfold PolicyIndexStore.leasedJob at hleased
    simp only [orThrow_bind_eq_ok, ensure_bind_eq_ok, pure_eq_ok] at hleased
    obtain ⟨found, hfound, _, rfl⟩ := hleased
    rw [Prod.mk.injEq] at h
    exact ⟨found, hfound, by rw [← h.1, ← hstored]; rfl⟩
  . simp at h

theorem claimNext_of_available {row : Nat × EmbeddingProfile}
    (h : (turn.beforeClaim s).requiredProfile service.profileKey = .ok row)
    : ∃ taken item, service.claimNext turn s = (taken, .ok item) := by
  have hclaim : ∃ claimed, (turn.beforeClaim s).claim turn.claimedAt policyIndexMaxAttempts
      service.profileKey turn.workerId service.leaseSeconds = .ok claimed := by
    unfold PolicyIndexStore.claim
    simp only [h, bind, Except.bind, pure, Except.pure]
    split <;> exact ⟨_, rfl⟩
  obtain ⟨⟨claimed, item⟩, hclaim⟩ := hclaim
  unfold claimNext
  simp only [hclaim]
  exact ⟨claimed, item, rfl⟩

variable [Digest]

/--
A page that is persisted completes its job or puts it back into the queue for the clauses that remain.
-/
theorem indexPage_status {job : PolicyIndexJob} (h : service.indexPage turn work s = (t, .ok job))
    : (job.status = .completed ∧ t.remainingClauseCount job = 0)
      ∨ (job.status = .pending ∧ 0 < t.remainingClauseCount job) := by
  unfold indexPage at h
  dsimp only at h
  split at h
  . next persisted paged hindexed =>
    simp only [Prod.mk.injEq, Except.ok.injEq] at h
    obtain ⟨rfl, rfl⟩ := h
    unfold index at hindexed
    rw [bind_eq_ok] at hindexed
    obtain ⟨vectors, _, hpersisted⟩ := hindexed
    cases hpage : (turn.beforePersist s).persistPage turn.persistedAt work vectors with
    | error e =>
      rw [hpage] at hpersisted
      cases hpersisted
    | ok page =>
      rw [hpage] at hpersisted
      obtain rfl := Except.ok.inj hpersisted
      unfold PolicyIndexStore.persistPage at hpage
      rw [ensure_bind_eq_ok, bind_eq_ok] at hpage
      obtain ⟨_, job, _, hpage⟩ := hpage
      rw [bind_eq_ok] at hpage
      obtain ⟨⟨u, indexed, skipped⟩, _, hfinished⟩ := hpage
      unfold PolicyIndexStore.finishPage at hfinished
      simp only [orThrow_bind_eq_ok, pure_eq_ok, Prod.mk.injEq] at hfinished
      obtain ⟨profile, _, hstored, hpaged⟩ := hfinished
      have hremaining : persisted.remainingClauseCount paged = u.remainingClauseCount job := by
        rw [← hstored, ← hpaged]
        rfl
      rw [hremaining, ← hpaged]
      by_cases hnone : u.remainingClauseCount job = 0
      . left
        simp [PolicyIndexJob.paged, hnone]
      . right
        exact ⟨by simp [PolicyIndexJob.paged, hnone], Nat.pos_of_ne_zero hnone⟩
  . simp at h

end PolicyIndexingService

/--
The jobs whose page was persisted and that wait for their next page.
-/
def PolicyIndexDrainResult.waiting (outcomes : List (PolicyIndexWorkItem × Except String PolicyIndexJob))
    : Nat :=
  outcomes.countP fun (_, outcome) => outcome.toOption.any fun job => job.status = .pending

/--
Every claimed index job is counted as completed or failed, or waits for its next page.
-/
theorem PolicyIndexDrainResult.of_counts
    {outcomes : List (PolicyIndexWorkItem × Except String PolicyIndexJob)}
    (h : ∀ work job, (work, .ok job) ∈ outcomes → job.status = .completed ∨ job.status = .pending)
    : (PolicyIndexDrainResult.of outcomes).completedJobs
        + (PolicyIndexDrainResult.of outcomes).failedJobs + waiting outcomes
      = (PolicyIndexDrainResult.of outcomes).claimedJobs := by
  apply Rows.countP_of_one
  rintro ⟨work, outcome⟩ hmem
  cases outcome with
  | error e => rfl
  | ok job =>
    cases h work job hmem with
    | inl hcompleted => simp [Except.toOption, Except.isOk, Except.toBool, hcompleted]
    | inr hpending => simp [Except.toOption, Except.isOk, Except.toBool, hpending]

/--
What a drain of the sync queue makes of the jobs it claimed.
-/
structure InboxStore.Drained [Digest] (workerId : String) (turns : InboxSyncWork → SyncTurn)
    (works : List InboxSyncWork) (claimed : InboxStore)
    (outcomes : List (InboxSyncWork × Except Error SyncFindings)) (result : InboxSyncDrainResult)
    (t : InboxStore) : Prop where
  trace : (InboxStore.syncLoop workerId).Trace (works.map fun work => (work, turns work)) claimed
    outcomes t
  processed : outcomes.map Prod.fst = works
  claimedJobs : result.claimedJobs = works.length
  completedJobs : result.completedJobs = outcomes.countP fun outcome => outcome.2.isOk
  counted : result.completedJobs + result.failedJobs = result.claimedJobs
  charged : ∀ work error s t, InboxStore.recordFailure workerId (turns work) work error s = (t, .ok ())
    → ∃ job, ((turns work).beforeFail s).jobs[work.jobId]? = some job
      ∧ t.jobs = ((turns work).beforeFail s).jobs.set work.jobId
        (job.failed (turns work).failedAt (syncFailure error).1 (syncFailure error).2)

/--
What a drain of the index queue makes of the jobs it claims.
-/
structure PolicyIndexingService.Drained [Digest] (service : PolicyIndexingService)
    (turns : List DrainTurn) (enqueued : PolicyIndexStore)
    (outcomes : List (PolicyIndexWorkItem × Except String PolicyIndexJob))
    (result : PolicyIndexDrainResult) (t : PolicyIndexStore) : Prop where
  trace : service.indexLoop.Trace turns enqueued outcomes t
  processed : outcomes.length = turns.length
    ∨ ∃ turn ∈ turns, ∃ s, service.claimNext turn s = (t, .ok none)
  claimedJobs : result.claimedJobs = outcomes.length
  counted : result.completedJobs + result.failedJobs + PolicyIndexDrainResult.waiting outcomes
    = result.claimedJobs
  waiting : ∀ work job, (work, .ok job) ∈ outcomes → job.status = .completed
    ∨ ∃ turn ∈ turns, ∃ s t, service.indexPage turn work s = (t, .ok job)
      ∧ job.status = .pending ∧ 0 < t.remainingClauseCount job
  charged : ∀ turn work errorCode s t, recordFailure turn work errorCode s = (t, .ok ())
    → ∃ job, (turn.beforeFail s).jobs[work.jobId]? = some job
      ∧ t.jobs = (turn.beforeFail s).jobs.set work.jobId
        (job.failed turn.failedAt errorCode policyIndexMaxAttempts)

/--
The failures of a drain of the sync queue can be recorded: each job that fails is still held then.
-/
def InboxStore.FailuresHeld [Digest] (workerId : String) (turns : InboxSyncWork → SyncTurn)
    (works : List InboxSyncWork) (claimed : InboxStore) : Prop :=
  (InboxStore.syncLoop workerId).Meets (fun _ _ => True)
    (fun (_, turn) work _ s => (turn.beforeFail s).Held turn.failedAt workerId work)
    (works.map fun work => (work, turns work)) claimed

/--
The failures of a drain of the index queue can be recorded: each job that fails is still held then. The
profile is in use at every claim.
-/
def PolicyIndexingService.FailuresHeld [Digest] (service : PolicyIndexingService)
    (turns : List DrainTurn) (enqueued : PolicyIndexStore) : Prop :=
  service.indexLoop.Meets
    (fun turn s => ∃ row, (turn.beforeClaim s).requiredProfile service.profileKey = .ok row)
    (fun turn work _ s => ∃ job, (turn.beforeFail s).leasedJob turn.failedAt work = .ok job)
    turns enqueued

theorem InboxStore.drain_drained [Digest] {s claimed : InboxStore} {now : Instant}
    {workerId : String} {limit leaseSeconds : Nat} {connectionId : Option Nat}
    {turns : InboxSyncWork → SyncTurn} {works : List InboxSyncWork}
    (hclaim : s.claim now limit connectionId workerId leaseSeconds = .ok (claimed, works))
    (hheld : FailuresHeld workerId turns works claimed)
    : ∃ outcomes result t, s.drain now workerId limit leaseSeconds connectionId turns = (t, .ok result)
      ∧ Drained workerId turns works claimed outcomes result t := by
  obtain ⟨outcomes, t, htrace⟩ := WorkLoop.trace_of_meets
    (fun (work, _) s _ => ⟨s, some work, rfl⟩)
    (fun (_, _) _ _ _ hheld => recordFailure_of_held hheld) hheld
  have hworks := syncTrace_works htrace
  have hdrain : s.drain now workerId limit leaseSeconds connectionId turns
      = (t, .ok (.of outcomes)) := by
    unfold drain
    simp only [hclaim, WorkLoop.run_of_trace htrace]
    rfl
  apply Exists.intro outcomes
  apply Exists.intro (.of outcomes)
  apply Exists.intro t
  apply And.intro hdrain
  constructor
  . exact htrace
  . exact hworks
  . rw [← hworks, List.length_map]
    rfl
  . rfl
  . exact InboxSyncDrainResult.of_counts outcomes
  . intro work error u v hrecord
    exact recordFailure_own hrecord

theorem PolicyIndexingService.drainAmong_drained [Digest] {service : PolicyIndexingService}
    {s enqueued : PolicyIndexStore} {now : Instant} {created : Nat} {turns : List DrainTurn}
    (henqueue : service.enqueue s now = .ok (enqueued, created))
    (hheld : service.FailuresHeld (turns.take service.jobLimit) enqueued)
    : ∃ outcomes result t, service.drainAmong s now turns = (t, .ok result)
      ∧ service.Drained (turns.take service.jobLimit) enqueued outcomes result t := by
  obtain ⟨outcomes, t, htrace⟩ := WorkLoop.trace_of_meets
    (fun _ _ ⟨_, hprofile⟩ => claimNext_of_available hprofile)
    (fun _ _ _ _ ⟨_, hleased⟩ => recordFailure_of_leased hleased) hheld
  have hdrain : service.drainAmong s now turns = (t, .ok (.of outcomes)) := by
    unfold drainAmong
    simp only [henqueue, WorkLoop.run_of_trace htrace]
    rfl
  have hwaiting : ∀ work job, (work, .ok job) ∈ outcomes → job.status = .completed
      ∨ ∃ turn ∈ turns.take service.jobLimit, ∃ s t, service.indexPage turn work s = (t, .ok job)
        ∧ job.status = .pending ∧ 0 < t.remainingClauseCount job := by
    intro work job hmem
    obtain ⟨turn, hturn, u, v, hindexed⟩ := htrace.processed_mem hmem
    cases indexPage_status hindexed with
    | inl hcompleted => exact .inl hcompleted.1
    | inr hpending => exact .inr ⟨turn, hturn, u, v, hindexed, hpending⟩
  apply Exists.intro outcomes
  apply Exists.intro (.of outcomes)
  apply Exists.intro t
  apply And.intro hdrain
  constructor
  . exact htrace
  . exact htrace.complete
  . rfl
  . apply PolicyIndexDrainResult.of_counts
    intro work job hmem
    cases hwaiting work job hmem with
    | inl hcompleted => exact .inl hcompleted
    | inr hpending =>
      obtain ⟨_, _, _, _, _, hpending, _⟩ := hpending
      exact .inr hpending
  . exact hwaiting
  . intro turn work errorCode u v hrecord
    exact recordFailure_own hrecord

namespace Sample

attribute [local instance] Digest.checksum

/--
A turn among which no other transaction falls.
-/
def alone (round : DrainRound) : DrainTurn :=
  { round with
    beforeClaim := id
    beforePersist := id
    beforeFail := id }

def queued : InboxStore :=
  (inboxService.run (.new store) (connected ++ [.requestScheduled 1 0 "schedule:1" 1 5])).inbox

/--
The provider is out of reach.
-/
def outOfReach (_ : InboxSyncWork) : SyncTurn where
  fetched := .error (.inboxProviderUnavailable "The inbox provider is unavailable.")
  beforePersist := id
  persistedAt := seconds 2
  beforeFail := id
  failedAt := seconds 2

theorem queued_claimed
    : ((queued.claim (seconds 1) 5 none "A" 60).toOption.any fun (claimed, works) =>
      works.length = 1 ∧ works.all fun work =>
        (claimed.runningJob (seconds 2) work.jobId "A").toOption.any fun job =>
          (claimed.findCheckpoint job.connectionId).isSome) = true := by
  decide +kernel

/--
The embedding provider answers no request.
-/
def unanswered : PolicyIndexingService :=
  { indexing 1 with embed := fun _ => .error "TimeoutError" }

theorem unanswered_claimed
    : ((unanswered.enqueue (withClauses 4) 0).toOption.any fun (enqueued, _) =>
      (enqueued.requiredProfile "embed-v1").isOk
        ∧ (unanswered.claimNext (alone (turn 1)) enqueued).2.toOption.any fun item =>
          item.all fun work =>
            ((unanswered.claimNext (alone (turn 1)) enqueued).1.leasedJob (seconds 1) work).isOk)
      = true := by
  decide +kernel

theorem queued_held
    : ∃ claimed work, queued.claim (seconds 1) 5 none "A" 60 = .ok (claimed, [work])
      ∧ InboxStore.FailuresHeld "A" outOfReach [work] claimed := by
  have hclaimed := queued_claimed
  rw [Option.any_eq_true] at hclaimed
  obtain ⟨⟨claimed, works⟩, hclaim, hholds⟩ := hclaimed
  obtain ⟨hlength, hholds⟩ := of_decide_eq_true hholds
  obtain ⟨work, rfl⟩ := List.length_eq_one_iff.mp hlength
  refine ⟨claimed, work, toOption_eq_some.mp hclaim, WorkLoop.meets_singleton trivial ?_⟩
  intro taken item failed error hnext hprocess
  obtain ⟨rfl, hitem⟩ := Prod.mk.inj hnext
  obtain rfl : work = item := by simpa using hitem
  obtain ⟨rfl, _⟩ := Prod.mk.inj hprocess
  rw [List.all_cons, Bool.and_eq_true, Option.any_eq_true] at hholds
  obtain ⟨⟨job, hjob, hcheckpoint⟩, _⟩ := hholds
  obtain ⟨checkpoint, hcheckpoint⟩ := Option.isSome_iff_exists.mp hcheckpoint
  exact ⟨job, checkpoint, toOption_eq_some.mp hjob, hcheckpoint⟩

theorem unanswered_held
    : ∃ enqueued created, unanswered.enqueue (withClauses 4) 0 = .ok (enqueued, created)
      ∧ unanswered.FailuresHeld [alone (turn 1)] enqueued := by
  have henqueued := unanswered_claimed
  rw [Option.any_eq_true] at henqueued
  obtain ⟨⟨enqueued, created⟩, henqueue, hholds⟩ := henqueued
  obtain ⟨hprofile, hholds⟩ := of_decide_eq_true hholds
  refine ⟨enqueued, created, toOption_eq_some.mp henqueue, WorkLoop.meets_singleton ?_ ?_⟩
  . exact isOk_iff.mp hprofile
  intro taken item failed error hnext hprocess
  have hnext : unanswered.claimNext (alone (turn 1)) enqueued = (taken, .ok (some item)) := hnext
  rw [hnext] at hholds
  have hfailed : failed = taken := by
    have hprocess : unanswered.indexPage (alone (turn 1)) item taken = (failed, .error error) :=
      hprocess
    unfold PolicyIndexingService.indexPage at hprocess
    dsimp only at hprocess
    split at hprocess
    . simp at hprocess
    . exact (Prod.mk.inj hprocess).1.symm
  rw [hfailed]
  have hleased : (taken.leasedJob (seconds 1) item).isOk = true := by
    simpa [Except.toOption] using hholds
  exact isOk_iff.mp hleased

end Sample

end CaseResolution
