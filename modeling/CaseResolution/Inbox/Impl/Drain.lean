import CaseResolution.Inbox.Impl.Sync
import CaseResolution.Lib.WorkLoop

/-!
This module contains the drain of the sync queue: one worker claims jobs and works on one after the other,
while other transactions take effect in between.
-/

namespace CaseResolution

/--
The exceptions that are caught as a `LookupError`.
-/
def Error.isLookupError : Error → Bool
  | .actorMembershipNotFound _ | .caseNotFound _ | .caseActorNotAssignable _ | .policyNotFound _
  | .policyActorNotAssignable _ | .proposalNotFound _ | .reviewNotFound _ | .actionNotFound _
  | .inboxNotFound _ | .lookupError _ => true
  | _ => false

/--
The error code a failed job is left with, and whether its inbox has to be connected again.
-/
def syncFailure : Error → String × Bool
  | .inboxAuthorizationError _ => ("authorization_expired", true)
  | .inboxCredentialUnavailable _ => ("credential_unavailable", true)
  | .inboxProviderUnavailable _ => ("provider_unavailable", false)
  | error => if error.isLookupError then ("provider_unavailable", false) else ("sync_failed", false)

/--
What `_fetch` read for a job.
-/
structure SyncReading where
  messages : List ProviderMessage
  observedHistoryId : HistoryId
  nextPageToken : Option PageToken

/--
What the work on a job meets: what is read for it or the exception that reading raises, what other
transactions do before the page is persisted and before a failure is recorded, and when.
-/
structure SyncTurn where
  fetched : Except Error SyncReading
  beforePersist : InboxStore → InboxStore
  persistedAt : Instant
  beforeFail : InboxStore → InboxStore
  failedAt : Instant

structure InboxSyncDrainResult where
  claimedJobs : Nat
  completedJobs : Nat
  failedJobs : Nat
  importedMessages : Nat
  duplicateMessages : Nat
deriving DecidableEq

/--
What became of the messages of a job.
-/
abbrev SyncFindings := List (ProviderMessage × MessageFinding)

def InboxSyncDrainResult.of (outcomes : List (InboxSyncWork × Except Error SyncFindings))
    : InboxSyncDrainResult where
  claimedJobs := outcomes.length
  completedJobs := outcomes.countP fun (_, outcome) => outcome.isOk
  failedJobs := outcomes.countP fun (_, outcome) => ¬ outcome.isOk
  importedMessages := (outcomes.map fun (_, outcome) =>
    outcome.toOption.elim 0 (List.countP fun (_, finding) => finding = .imported)).sum
  duplicateMessages := (outcomes.map fun (_, outcome) =>
    outcome.toOption.elim 0 (List.countP fun (_, finding) => finding = .duplicate)).sum

namespace InboxStore

/--
Record the failure of a job.
-/
def recordFailure (workerId : String) (turn : SyncTurn) (work : InboxSyncWork) (error : Error)
    (s : InboxStore) : InboxStore × Except Error Unit :=
  let others := turn.beforeFail s
  let (errorCode, reauthorize) := syncFailure error
  match others.fail turn.failedAt work.jobId workerId errorCode reauthorize with
  | .ok recorded => (recorded, .ok ())
  | .error e => (others, .error e)

variable [Digest]

/--
Read the pages of a job and persist them.
-/
def processWork (workerId : String) (turn : SyncTurn) (work : InboxSyncWork) (s : InboxStore)
    : InboxStore × Except Error SyncFindings :=
  match turn.fetched with
  | .error e => (s, .error e)
  | .ok reading =>
    let others := turn.beforePersist s
    match others.persist turn.persistedAt work workerId reading.messages reading.observedHistoryId
        reading.nextPageToken with
    | .ok (persisted, findings) => (persisted, .ok findings)
    | .error e => (others, .error e)

/--
The loop over the claimed jobs, each with the turn it meets.
-/
def syncLoop (workerId : String)
    : WorkLoop InboxStore (InboxSyncWork × SyncTurn) InboxSyncWork SyncFindings Error Error where
  next := fun (work, _) s => (s, .ok (some work))
  process := fun (_, turn) work s => processWork workerId turn work s
  record := fun (_, turn) work error s => recordFailure workerId turn work error s

def drain (s : InboxStore) (now : Instant) (workerId : String) (limit leaseSeconds : Nat)
    (connectionId : Option Nat) (turns : InboxSyncWork → SyncTurn)
    : InboxStore × Except Error InboxSyncDrainResult :=
  match s.claim now limit connectionId workerId leaseSeconds with
  | .error e => (s, .error e)
  | .ok (claimed, works) =>
    let (final, outcomes) :=
      (syncLoop workerId).run (works.map fun work => (work, turns work)) claimed
    (final, outcomes.map InboxSyncDrainResult.of)

end InboxStore

end CaseResolution
