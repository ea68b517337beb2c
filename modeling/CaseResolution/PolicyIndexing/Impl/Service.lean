import CaseResolution.PolicyIndexing.Impl.Jobs

/-!
This module contains the service that drains the queue of index jobs. Claiming a job, persisting its
page and giving it up are transactions of their own.
-/

namespace CaseResolution

open Guard

def policyIndexMaxAttempts : Nat := 3

/--
The service with its embedding provider, which returns a vector or raises an exception of the class it
names.
-/
structure PolicyIndexingService where
  profileKey : String
  jobLimit : Nat
  pageBudget : Nat
  leaseSeconds : Nat
  embed : String → Except String EmbeddingVector

/--
One turn of the loop in `drain`: who takes it, and when it claims a job, persists the page of the job
or gives it up.
-/
structure DrainRound where
  workerId : String
  claimedAt : Instant
  persistedAt : Instant
  failedAt : Instant

namespace PolicyIndexDrainResult

def empty : PolicyIndexDrainResult :=
  { claimedJobs := 0, completedJobs := 0, failedJobs := 0, indexedClauses := 0, skippedClauses := 0 }

def add (a b : PolicyIndexDrainResult) : PolicyIndexDrainResult where
  claimedJobs := a.claimedJobs + b.claimedJobs
  completedJobs := a.completedJobs + b.completedJobs
  failedJobs := a.failedJobs + b.failedJobs
  indexedClauses := a.indexedClauses + b.indexedClauses
  skippedClauses := a.skippedClauses + b.skippedClauses

/--
A page of the job was persisted.
-/
def ofPage (claimed persisted : PolicyIndexJob) : PolicyIndexDrainResult where
  claimedJobs := 1
  completedJobs := if persisted.status = .completed then 1 else 0
  failedJobs := 0
  indexedClauses := persisted.indexedClauseCount - claimed.indexedClauseCount
  skippedClauses := persisted.skippedClauseCount - claimed.skippedClauseCount

end PolicyIndexDrainResult

namespace PolicyIndexingService

variable [Digest] (service : PolicyIndexingService)

def enqueue (s : PolicyIndexStore) (now : Instant) : Except Error (PolicyIndexStore × Nat) :=
  s.enqueueMissing now service.profileKey service.jobLimit service.pageBudget

/--
The class of an exception of `persist_page`.
-/
def errorCode : Error → String
  | .valueError _ => "ValueError"
  | _ => "RuntimeError"

/--
Embed the claimed clauses and persist the page.
-/
def index (s : PolicyIndexStore) (now : Instant) (work : PolicyIndexWorkItem)
    : Except String (PolicyIndexStore × PolicyIndexJob) := do
  let vectors ← work.clauses.mapM fun row => service.embed row.2.text
  (s.persistPage now work vectors).mapError errorCode

/--
One turn of the loop, with nothing to count if no job could be claimed.
-/
def drainRound (s : PolicyIndexStore) (round : DrainRound)
    : PolicyIndexStore × Except Error (Option PolicyIndexDrainResult) :=
  match s.claim round.claimedAt policyIndexMaxAttempts service.profileKey round.workerId
      service.leaseSeconds with
  | .error e => (s, .error e)
  | .ok (claimed, none) => (claimed, .ok none)
  | .ok (claimed, some work) =>
    match service.index claimed round.persistedAt work with
    | .ok (persisted, job) => (persisted, .ok (some (.ofPage work.job job)))
    | .error errorCode =>
      match claimed.fail round.failedAt work errorCode policyIndexMaxAttempts with
      | .ok (failed, _) =>
        (failed, .ok (some { PolicyIndexDrainResult.empty with claimedJobs := 1, failedJobs := 1 }))
      | .error e => (claimed, .error e)

def drainRounds (s : PolicyIndexStore)
    : List DrainRound → PolicyIndexStore × Except Error PolicyIndexDrainResult
  | [] => (s, .ok .empty)
  | round :: rounds =>
    match service.drainRound s round with
    | (t, .error e) => (t, .error e)
    | (t, .ok none) => (t, .ok .empty)
    | (t, .ok (some counts)) =>
      let (u, result) := drainRounds t rounds
      (u, result.map counts.add)

def drain (s : PolicyIndexStore) (now : Instant) (rounds : List DrainRound)
    : PolicyIndexStore × Except Error PolicyIndexDrainResult :=
  match service.enqueue s now with
  | .error e => (s, .error e)
  | .ok (enqueued, _) => service.drainRounds enqueued (rounds.take service.jobLimit)

end PolicyIndexingService

end CaseResolution
