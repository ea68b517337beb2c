import CaseResolution.Lib.WorkLoop
import CaseResolution.PolicyIndexing.Impl.Service

/-!
This module contains the drain of the queue of index jobs among other workers, whose transactions take
effect between those of the drain.
-/

namespace CaseResolution

/--
One turn of the loop in `drain`, with what other transactions do before each of its own.
-/
structure DrainTurn extends DrainRound where
  beforeClaim : PolicyIndexStore → PolicyIndexStore
  beforePersist : PolicyIndexStore → PolicyIndexStore
  beforeFail : PolicyIndexStore → PolicyIndexStore

def PolicyIndexDrainResult.of (outcomes : List (PolicyIndexWorkItem × Except String PolicyIndexJob))
    : PolicyIndexDrainResult where
  claimedJobs := outcomes.length
  completedJobs := outcomes.countP fun (_, outcome) =>
    outcome.toOption.any fun job => job.status = .completed
  failedJobs := outcomes.countP fun (_, outcome) => ¬ outcome.isOk
  indexedClauses := (outcomes.map fun (work, outcome) =>
    outcome.toOption.elim 0 fun job => job.indexedClauseCount - work.job.indexedClauseCount).sum
  skippedClauses := (outcomes.map fun (work, outcome) =>
    outcome.toOption.elim 0 fun job => job.skippedClauseCount - work.job.skippedClauseCount).sum

namespace PolicyIndexingService

variable (service : PolicyIndexingService)

def claimNext (turn : DrainTurn) (s : PolicyIndexStore)
    : PolicyIndexStore × Except Error (Option PolicyIndexWorkItem) :=
  let others := turn.beforeClaim s
  match others.claim turn.claimedAt policyIndexMaxAttempts service.profileKey turn.workerId
      service.leaseSeconds with
  | .ok (claimed, work) => (claimed, .ok work)
  | .error e => (others, .error e)

def recordFailure (turn : DrainTurn) (work : PolicyIndexWorkItem) (errorCode : String)
    (s : PolicyIndexStore) : PolicyIndexStore × Except Error Unit :=
  let others := turn.beforeFail s
  match others.fail turn.failedAt work errorCode policyIndexMaxAttempts with
  | .ok (failed, _) => (failed, .ok ())
  | .error e => (others, .error e)

variable [Digest]

def indexPage (turn : DrainTurn) (work : PolicyIndexWorkItem) (s : PolicyIndexStore)
    : PolicyIndexStore × Except String PolicyIndexJob :=
  let others := turn.beforePersist s
  match service.index others turn.persistedAt work with
  | .ok (persisted, job) => (persisted, .ok job)
  | .error errorCode => (others, .error errorCode)

def indexLoop
    : WorkLoop PolicyIndexStore DrainTurn PolicyIndexWorkItem PolicyIndexJob String Error where
  next := service.claimNext
  process := service.indexPage
  record := recordFailure

def drainAmong (s : PolicyIndexStore) (now : Instant) (turns : List DrainTurn)
    : PolicyIndexStore × Except Error PolicyIndexDrainResult :=
  match service.enqueue s now with
  | .error e => (s, .error e)
  | .ok (enqueued, _) =>
    let (final, outcomes) := service.indexLoop.run (turns.take service.jobLimit) enqueued
    (final, outcomes.map PolicyIndexDrainResult.of)

end PolicyIndexingService

end CaseResolution
