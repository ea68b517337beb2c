import CaseResolution.Inbox.Impl.Base
import Mathlib.Data.List.Sort

/-!
This module contains the queue of sync jobs: how jobs are requested, claimed under a lease, completed,
failed and requeued.
-/

namespace CaseResolution

open Guard

def maxSyncAttempts : Nat := 3

namespace InboxSyncJob

/--
A job that still has to be done, so that no further one is needed.
-/
def isActive (job : InboxSyncJob) : Bool :=
  (job.status = .pending ∨ job.status = .running ∨ job.status = .failed)
    ∧ job.attemptCount < maxSyncAttempts

/--
Some worker holds the job at `now`.
-/
def holdsLease (job : InboxSyncJob) (now : Instant) : Bool :=
  job.status = .running ∧ job.leaseExpiresAt.any fun expiresAt => now < expiresAt

def leaseExpired (job : InboxSyncJob) (now : Instant) : Bool :=
  job.status = .running ∧ job.leaseExpiresAt.any fun expiresAt => expiresAt ≤ now

def isEligible (job : InboxSyncJob) (now : Instant) : Bool :=
  (job.status = .pending ∨ job.status = .failed ∨ job.leaseExpired now)
    ∧ job.availableAt ≤ now ∧ job.attemptCount < maxSyncAttempts

/--
The worker that held the job is lost and the job must not be tried again.
-/
def isExhausted (job : InboxSyncJob) (now : Instant) : Bool :=
  job.leaseExpired now ∧ maxSyncAttempts ≤ job.attemptCount

/--
The worker of the job was lost.
-/
def abandoned (job : InboxSyncJob) : InboxSyncJob :=
  { job with
    status := .dead
    lastErrorCode := some "worker_lost"
    leaseOwner := none
    leaseExpiresAt := none }

/--
A worker tries the job.
-/
def leased (job : InboxSyncJob) (now : Instant) (workerId : String) (leaseSeconds : Nat)
    : InboxSyncJob :=
  { job with
    status := .running
    attemptCount := job.attemptCount + 1
    leaseOwner := some workerId
    leaseExpiresAt := some (now + seconds leaseSeconds) }

def requeued (job : InboxSyncJob) (now : Instant) : InboxSyncJob :=
  { job with
    status := .pending
    attemptCount := 0
    availableAt := now
    leaseOwner := none
    leaseExpiresAt := none
    completedAt := none }

def completed (job : InboxSyncJob) (now : Instant) : InboxSyncJob :=
  { job with
    status := .completed
    completedAt := some now
    leaseOwner := none
    leaseExpiresAt := none }

/--
The job failed for good.
-/
def diesOf (job : InboxSyncJob) (reauthorize : Bool) : Bool :=
  maxSyncAttempts ≤ job.attemptCount ∨ reauthorize

def failed (job : InboxSyncJob) (now : Instant) (errorCode : String) (reauthorize : Bool)
    : InboxSyncJob :=
  { job with
    status := if job.diesOf reauthorize then .dead else .failed
    availableAt := now + seconds (2 ^ job.attemptCount)
    lastErrorCode := some (truncate 100 errorCode)
    leaseOwner := none
    leaseExpiresAt := none }

/--
The order jobs are taken in.
-/
def dueBefore (a b : Nat × InboxSyncJob) : Prop :=
  a.2.availableAt < b.2.availableAt
    ∨ (a.2.availableAt = b.2.availableAt ∧ a.2.createdAt ≤ b.2.createdAt)

instance : DecidableRel dueBefore :=
  fun a b => inferInstanceAs (Decidable (a.2.availableAt < b.2.availableAt
    ∨ (a.2.availableAt = b.2.availableAt ∧ a.2.createdAt ≤ b.2.createdAt)))

/--
The order lost workers are found in.
-/
def expiredBefore (a b : Nat × InboxSyncJob) : Prop :=
  a.2.leaseExpiresAt.getD 0 ≤ b.2.leaseExpiresAt.getD 0

instance : DecidableRel expiredBefore :=
  fun a b => inferInstanceAs (Decidable (a.2.leaseExpiresAt.getD 0 ≤ b.2.leaseExpiresAt.getD 0))

end InboxSyncJob

/--
The checkpoint after a job was completed. It moves once the last page was read.
-/
def InboxSyncCheckpoint.observed (checkpoint : InboxSyncCheckpoint) (now : Instant)
    (observedHistoryId : HistoryId) (nextPageToken : Option PageToken) : InboxSyncCheckpoint :=
  { checkpoint with
    lastObservedHistoryId := some observedHistoryId
    lastAttemptAt := some now
    consecutiveFailures := 0
    lastErrorCode := none
    status := if nextPageToken.isNone then .current else .syncing
    providerHistoryId :=
      if nextPageToken.isNone then some observedHistoryId else checkpoint.providerHistoryId
    lastSuccessfulSyncAt :=
      if nextPageToken.isNone then some now else checkpoint.lastSuccessfulSyncAt }

def SyncRequest.job (request : SyncRequest) (now : Instant) : InboxSyncJob where
  connectionId := request.connectionId
  trigger := request.trigger
  triggerKey := request.triggerKey
  requestedHistoryId := request.requestedHistoryId
  pageToken := request.pageToken
  status := .pending
  pageBudget := request.pageBudget
  itemBudget := request.itemBudget
  attemptCount := 0
  availableAt := now
  leaseOwner := none
  leaseExpiresAt := none
  lastErrorCode := none
  completedAt := none
  createdAt := now

namespace InboxStore

/--
The jobs that meet `p` with their row ids.
-/
def jobRows (s : InboxStore) (p : InboxSyncJob → Bool) : List (Nat × InboxSyncJob) :=
  (Rows.numbered s.jobs).filter fun (_, job) => p job

def enqueue (s : InboxStore) (now : Instant) (request : SyncRequest)
    : Except Error (InboxStore × Nat) := do
  ensure (request.connectionId < s.connections.length)
    (.inboxNotFound "The inbox connection was not found.")
  let existing := s.jobs.findIdx? fun job =>
    job.connectionId = request.connectionId ∧ job.triggerKey = request.triggerKey
  let active := (s.jobRows fun job =>
    job.connectionId = request.connectionId ∧ job.isActive).insertionSort InboxSyncJob.dueBefore
  match existing, active with
  | some jobId, _ => pure (s, jobId)
  | none, (jobId, _) :: _ => pure (s, jobId)
  | none, [] => pure ({ s with jobs := s.jobs ++ [request.job now] }, s.jobs.length)

section Claim

variable (s : InboxStore) (now : Instant) (limit : Nat) (connectionId : Option Nat)

/--
Some job of the connection is held at `now`.
-/
def activeLeaseExists (connection : Nat) : Bool :=
  s.jobs.any fun job => job.connectionId = connection ∧ job.holdsLease now

def claimStatement : List (Nat × InboxSyncJob) :=
  let eligible := s.jobRows fun job =>
    job.isEligible now ∧ ¬ s.activeLeaseExists now job.connectionId
      ∧ connectionId.all (fun connection => job.connectionId = connection)
  let ranked := Rows.firstBy (fun row => row.2.connectionId)
    (eligible.insertionSort InboxSyncJob.dueBefore)
  ranked.take limit

def exhaustedLeaseStatement : List (Nat × InboxSyncJob) :=
  let exhausted := s.jobRows fun job =>
    job.isExhausted now ∧ connectionId.all (fun connection => job.connectionId = connection)
  (exhausted.insertionSort InboxSyncJob.expiredBefore).take limit

/--
Give up a job whose worker was lost.
-/
def abandon (row : Nat × InboxSyncJob) : Except Error InboxStore :=
  (s.setJob row.1 row.2.abandoned).updateCheckpoint row.2.connectionId fun checkpoint =>
    { checkpoint with
      status := .failed
      consecutiveFailures := checkpoint.consecutiveFailures + 1
      lastAttemptAt := some now
      lastErrorCode := some "worker_lost" }

/--
Hand a job to a worker.
-/
def lease (workerId : String) (leaseSeconds : Nat) (row : Nat × InboxSyncJob)
    : Except Error (InboxStore × InboxSyncWork) := do
  let job := row.2.leased now workerId leaseSeconds
  let (_, checkpoint) ← s.checkpoint job.connectionId
  pure (s.setJob row.1 job,
    { jobId := row.1, job, committedHistoryId := checkpoint.providerHistoryId })

def leaseAll (workerId : String) (leaseSeconds : Nat) (s : InboxStore)
    : List (Nat × InboxSyncJob) → Except Error (InboxStore × List InboxSyncWork)
  | [] => pure (s, [])
  | row :: rows => do
    let (s, work) ← s.lease now workerId leaseSeconds row
    let (s, works) ← leaseAll workerId leaseSeconds s rows
    pure (s, work :: works)

def claim (workerId : String) (leaseSeconds : Nat)
    : Except Error (InboxStore × List InboxSyncWork) := do
  ensure (∀ connection ∈ connectionId, connection < s.connections.length)
    (.inboxNotFound "The inbox connection was not found.")
  let reconciled ← (s.exhaustedLeaseStatement now limit connectionId).foldlM
    (fun s row => s.abandon now row) s
  reconciled.leaseAll now workerId leaseSeconds (reconciled.claimStatement now limit connectionId)

end Claim

def reprocess (s : InboxStore) (now : Instant) (jobId : Nat) : Except Error InboxStore := do
  let job ← orThrow s.jobs[jobId]? (.lookupError "The inbox sync job was not found.")
  if job.status ≠ .dead then
    pure s
  else
    (s.setJob jobId (job.requeued now)).updateCheckpoint job.connectionId fun checkpoint =>
      { checkpoint with status := .delayed }

/--
The job if the worker still holds it.
-/
def runningJob (s : InboxStore) (now : Instant) (jobId : Nat) (workerId : String)
    : Except Error InboxSyncJob := do
  let job ← orThrow s.jobs[jobId]? (.lookupError "The inbox sync lease is no longer active.")
  ensure (job.holdsLease now ∧ job.leaseOwner = some workerId)
    (.lookupError "The inbox sync lease is no longer active.")
  pure job

section Complete

variable [Digest]

def continuationKey (job : InboxSyncJob) (pageToken : PageToken) : String :=
  job.triggerKey ++ ":page:" ++ truncate 12 (Digest.text pageToken.text)

/--
The job that reads on from the page token.
-/
def continuation (job : InboxSyncJob) (pageToken : PageToken) (committedHistoryId : Option HistoryId)
    (now : Instant) : InboxSyncJob where
  connectionId := job.connectionId
  trigger := job.trigger
  triggerKey := continuationKey job pageToken
  requestedHistoryId := job.requestedHistoryId.or committedHistoryId
  pageToken := some pageToken
  status := .pending
  pageBudget := job.pageBudget
  itemBudget := job.itemBudget
  attemptCount := 0
  availableAt := now
  leaseOwner := none
  leaseExpiresAt := none
  lastErrorCode := none
  completedAt := none
  createdAt := now

/--
Add a row to `inbox_sync_jobs`.
-/
def insertJob (s : InboxStore) (job : InboxSyncJob) : Except Error InboxStore := do
  ensure (job.triggerKey.length ≤ 200) (.dataError "inbox_sync_jobs.trigger_key")
  ensure (∀ other ∈ s.jobs, ¬ (other.connectionId = job.connectionId
      ∧ other.triggerKey = job.triggerKey))
    (.integrityError "uq_inbox_sync_jobs_org_trigger")
  pure { s with jobs := s.jobs ++ [job] }

/--
Add the job that reads on, if there are further pages.
-/
def addContinuation (s : InboxStore) (now : Instant) (job : InboxSyncJob)
    (committedHistoryId : Option HistoryId) (nextPageToken : Option PageToken) : Except Error InboxStore :=
  match nextPageToken with
  | none => pure s
  | some pageToken => s.insertJob (continuation job pageToken committedHistoryId now)

def complete (s : InboxStore) (now : Instant) (jobId : Nat) (workerId : String)
    (observedHistoryId : HistoryId) (nextPageToken : Option PageToken) : Except Error InboxStore := do
  let job ← s.runningJob now jobId workerId
  let (_, checkpoint) ← s.checkpoint job.connectionId
  let observed ← s.updateCheckpoint job.connectionId fun checkpoint =>
    checkpoint.observed now observedHistoryId nextPageToken
  let continued ← observed.addContinuation now job checkpoint.providerHistoryId nextPageToken
  pure (continued.setJob jobId (job.completed now))

end Complete

def fail (s : InboxStore) (now : Instant) (jobId : Nat) (workerId errorCode : String)
    (reauthorize : Bool) : Except Error InboxStore := do
  let job ← s.runningJob now jobId workerId
  let failed := s.setJob jobId (job.failed now errorCode reauthorize)
  failed.updateCheckpoint job.connectionId fun checkpoint =>
    { checkpoint with
      status :=
        if reauthorize then .reauthorize else if job.diesOf reauthorize then .failed else .delayed
      consecutiveFailures := checkpoint.consecutiveFailures + 1
      lastAttemptAt := some now
      lastErrorCode := some (truncate 100 errorCode) }

end InboxStore

end CaseResolution
