import CaseResolution.Domain.Error
import CaseResolution.Domain.PolicyIndexing
import CaseResolution.Lib.Rows
import Mathlib.Data.List.Sort

/-!
This module contains the queue of index jobs: how jobs are added for versions that are not indexed yet,
claimed under a lease, and how the page of a claimed job is persisted or given up.
-/

namespace CaseResolution

open Guard

namespace PolicyIndexJob

def leaseExpired (job : PolicyIndexJob) (now : Instant) : Bool :=
  job.status = .running ∧ job.leaseExpiresAt.any fun expiresAt => expiresAt < now

def isExhausted (job : PolicyIndexJob) (profileId : Nat) (now : Instant) (maxAttempts : Nat) : Bool :=
  job.profileId = profileId ∧ job.leaseExpired now ∧ maxAttempts ≤ job.attemptCount

def isEligible (job : PolicyIndexJob) (profileId : Nat) (now : Instant) (maxAttempts : Nat) : Bool :=
  job.profileId = profileId ∧ job.availableAt ≤ now ∧ job.attemptCount < maxAttempts
    ∧ (job.status = .pending ∨ job.status = .failed ∨ job.leaseExpired now)

/--
The worker of the job was lost.
-/
def abandoned (job : PolicyIndexJob) : PolicyIndexJob :=
  { job with
    status := .dead
    lastErrorCode := some "worker_lost"
    leaseOwner := none
    leaseExpiresAt := none }

/--
A worker tries the job.
-/
def leased (job : PolicyIndexJob) (now : Instant) (workerId : String) (leaseSeconds : Nat)
    : PolicyIndexJob :=
  { job with
    status := .running
    attemptCount := job.attemptCount + 1
    leaseOwner := some workerId
    leaseExpiresAt := some (now + seconds leaseSeconds) }

def requeued (job : PolicyIndexJob) (now : Instant) : PolicyIndexJob :=
  { job with
    status := .pending
    attemptCount := 0
    availableAt := now
    leaseOwner := none
    leaseExpiresAt := none
    completedAt := none }

/--
The job after a page. It waits for its next page unless no clause remains.
-/
def paged (job : PolicyIndexJob) (now : Instant) (indexed skipped remaining : Nat) : PolicyIndexJob :=
  { job with
    indexedClauseCount := job.indexedClauseCount + indexed
    skippedClauseCount := job.skippedClauseCount + skipped
    status := if remaining = 0 then .completed else .pending
    completedAt := if remaining = 0 then some now else job.completedAt
    lastErrorCode := if remaining = 0 then none else job.lastErrorCode
    availableAt := if remaining = 0 then job.availableAt else now
    leaseOwner := none
    leaseExpiresAt := none }

def failed (job : PolicyIndexJob) (now : Instant) (errorCode : String) (maxAttempts : Nat)
    : PolicyIndexJob :=
  { job with
    status := if maxAttempts ≤ job.attemptCount then .dead else .failed
    lastErrorCode := some (truncate 100 errorCode)
    availableAt := now + minutes (min (2 ^ job.attemptCount) 60)
    leaseOwner := none
    leaseExpiresAt := none }

/--
The order jobs are taken in.
-/
def dueBefore (a b : Nat × PolicyIndexJob) : Prop :=
  a.2.availableAt < b.2.availableAt
    ∨ (a.2.availableAt = b.2.availableAt ∧ a.2.createdAt ≤ b.2.createdAt)

instance : DecidableRel dueBefore :=
  fun a b => inferInstanceAs (Decidable (a.2.availableAt < b.2.availableAt
    ∨ (a.2.availableAt = b.2.availableAt ∧ a.2.createdAt ≤ b.2.createdAt)))

/--
The order lost workers are found in.
-/
def expiredBefore (a b : Nat × PolicyIndexJob) : Prop :=
  a.2.leaseExpiresAt.getD 0 ≤ b.2.leaseExpiresAt.getD 0

instance : DecidableRel expiredBefore :=
  fun a b => inferInstanceAs (Decidable (a.2.leaseExpiresAt.getD 0 ≤ b.2.leaseExpiresAt.getD 0))

end PolicyIndexJob

/--
A version retrieval may cite, now or later.
-/
def GovernedPolicyVersion.isActive (version : GovernedPolicyVersion) : Bool :=
  (version.status = .published ∨ version.status = .scheduled) ∧ version.immutable

namespace PolicyIndexStore

def setJob (s : PolicyIndexStore) (jobId : Nat) (job : PolicyIndexJob) : PolicyIndexStore :=
  { s with jobs := s.jobs.set jobId job }

def setProfile (s : PolicyIndexStore) (profileId : Nat) (profile : EmbeddingProfile)
    : PolicyIndexStore :=
  { s with profiles := s.profiles.set profileId profile }

/--
The jobs that meet `p` with their row ids.
-/
def jobRows (s : PolicyIndexStore) (p : PolicyIndexJob → Bool) : List (Nat × PolicyIndexJob) :=
  (Rows.numbered s.jobs).filter fun (_, job) => p job

/--
The clause with its present text has an embedding under the profile.
-/
def isIndexed (s : PolicyIndexStore) (profileId : Nat) (row : Nat × PolicyIndexClause) : Bool :=
  (s.embeddings profileId row.1).any fun embedding =>
    embedding.sourceContentHash = row.2.contentHash

/--
The clauses of versions in use.
-/
def activeClauses (s : PolicyIndexStore) : List (Nat × PolicyIndexClause) :=
  (Rows.numbered s.clauses).filter fun (_, clause) =>
    (s.versions[clause.policyVersionId]?).any fun version => version.isActive

def refreshProfileCounts (s : PolicyIndexStore) (now : Instant) (profileId : Nat)
    (profile : EmbeddingProfile) : PolicyIndexStore :=
  let expected := s.activeClauses.length
  let indexed := s.activeClauses.countP (s.isIndexed profileId)
  let counted :=
    { profile with expectedClauseCount := expected, indexedClauseCount := indexed }
  let refreshed :=
    if 0 < expected ∧ indexed = expected then
      if profile.status ≠ .active ∧ profile.status ≠ .retired then
        { counted with
          readyAt := if profile.status ≠ .ready then some now else profile.readyAt
          status := .ready }
      else
        counted
    else if profile.status ≠ .retired ∧ profile.status ≠ .failed then
      { counted with status := .building, readyAt := none }
    else
      counted
  s.setProfile profileId refreshed

def requiredProfile (s : PolicyIndexStore) (profileKey : String)
    : Except Error (Nat × EmbeddingProfile) := do
  let unavailable : Error := .lookupError "The policy embedding profile is not available."
  let profileId ← orThrow
    (s.profiles.findIdx? fun profile =>
      profile.profileKey = profileKey ∧ profile.status ≠ .retired ∧ profile.status ≠ .failed)
    unavailable
  let profile ← orThrow s.profiles[profileId]? unavailable
  pure (profileId, profile)

section Enqueue

variable [Digest]

def jobKey (profileKey : String) (versionId : Nat) (contentHash : String) : String :=
  Digest.text (profileKey ++ "|" ++ toString versionId ++ "|" ++ contentHash)

/--
The job that indexes the version.
-/
def newJob (now : Instant) (profileId : Nat) (profileKey : String) (pageBudget : Nat)
    (row : Nat × GovernedPolicyVersion) : PolicyIndexJob where
  policyVersionId := row.1
  profileId := profileId
  sourceContentFingerprint := row.2.contentHash
  jobKey := jobKey profileKey row.1 row.2.contentHash
  status := .pending
  pageBudget := pageBudget
  attemptCount := 0
  availableAt := now
  leaseOwner := none
  leaseExpiresAt := none
  lastErrorCode := none
  indexedClauseCount := 0
  skippedClauseCount := 0
  completedAt := none
  createdAt := now

/--
Add the job unless its key is taken.
-/
def insertJob (s : PolicyIndexStore) (job : PolicyIndexJob) : PolicyIndexStore :=
  if ∃ other ∈ s.jobs, other.jobKey = job.jobKey then s else { s with jobs := s.jobs ++ [job] }

/--
The versions in use whose text no job of the profile indexes.
-/
def missingVersions (s : PolicyIndexStore) (profileId : Nat) : List (Nat × GovernedPolicyVersion) :=
  (Rows.numbered s.versions).filter fun (versionId, version) =>
    version.isActive ∧ ∀ job ∈ s.jobs, ¬ (job.profileId = profileId
      ∧ job.policyVersionId = versionId ∧ job.sourceContentFingerprint = version.contentHash)

def enqueueMissing (s : PolicyIndexStore) (now : Instant) (profileKey : String)
    (jobLimit pageBudget : Nat) : Except Error (PolicyIndexStore × Nat) := do
  ensure (1 ≤ jobLimit ∧ 1 ≤ pageBudget)
    (.valueError "Policy index job limits must be positive.")
  let (profileId, profile) ← s.requiredProfile profileKey
  let missing := (s.missingVersions profileId).take jobLimit
  let enqueued := missing.foldl
    (fun s row => s.insertJob (newJob now profileId profile.profileKey (min pageBudget 32) row)) s
  pure (enqueued.refreshProfileCounts now profileId profile, enqueued.jobs.length - s.jobs.length)

end Enqueue

section Claim

variable (s : PolicyIndexStore) (now : Instant) (profileId : Nat) (maxAttempts : Nat)

/--
The lost worker whose lease expired first and whose job must not be tried again.
-/
def exhaustedJob : Option (Nat × PolicyIndexJob) :=
  ((s.jobRows fun job => job.isExhausted profileId now maxAttempts).insertionSort
    PolicyIndexJob.expiredBefore).head?

def nextJob : Option (Nat × PolicyIndexJob) :=
  ((s.jobRows fun job => job.isEligible profileId now maxAttempts).insertionSort
    PolicyIndexJob.dueBefore).head?

def sweepExhausted (profile : EmbeddingProfile) : PolicyIndexStore :=
  match s.exhaustedJob now profileId maxAttempts with
  | some (jobId, job) => (s.setJob jobId job.abandoned).refreshProfileCounts now profileId profile
  | none => s

/--
The clauses of the version of the job that are not indexed.
-/
def unindexedClauses (job : PolicyIndexJob) : List (Nat × PolicyIndexClause) :=
  (Rows.numbered s.clauses).filter fun row =>
    row.2.policyVersionId = job.policyVersionId ∧ ¬ s.isIndexed job.profileId row

/--
The next page of the job.
-/
def pendingClauses (job : PolicyIndexJob) : List (Nat × PolicyIndexClause) :=
  ((s.unindexedClauses job).insertionSort fun a b => a.2.sequence ≤ b.2.sequence).take
    job.pageBudget

def remainingClauseCount (job : PolicyIndexJob) : Nat :=
  (s.unindexedClauses job).length

def claim (profileKey workerId : String) (leaseSeconds : Nat)
    : Except Error (PolicyIndexStore × Option PolicyIndexWorkItem) := do
  let (profileId, profile) ← s.requiredProfile profileKey
  let swept := s.sweepExhausted now profileId maxAttempts profile
  match swept.nextJob now profileId maxAttempts with
  | none => pure (swept, none)
  | some (jobId, job) =>
    let leased := job.leased now workerId leaseSeconds
    let stored := swept.setJob jobId leased
    pure (stored, some {
      jobId := jobId
      job := leased
      profileId := profileId
      profile := (stored.profiles[profileId]?).getD profile
      clauses := stored.pendingClauses leased
      leaseExpiresAt := now + seconds leaseSeconds
    })

def reprocess (jobId : Nat) : Except Error (PolicyIndexStore × PolicyIndexJob) := do
  let job ← orThrow s.jobs[jobId]? (.lookupError "The policy index job was not found.")
  if job.status ≠ .dead then
    pure (s, job)
  else
    pure (s.setJob jobId (job.requeued now), job.requeued now)

end Claim

section Results

variable (s : PolicyIndexStore) (now : Instant) (work : PolicyIndexWorkItem)

/--
The job as long as the claim that `work` comes from still holds it.
-/
def leasedJob : Except Error PolicyIndexJob := do
  let lost : Error := .runtimeError "The policy index lease is no longer current."
  let job ← orThrow s.jobs[work.jobId]? lost
  ensure (job.profileId = work.profileId ∧ job.status = .running
      ∧ job.leaseOwner = work.job.leaseOwner ∧ job.attemptCount = work.job.attemptCount
      ∧ job.leaseExpiresAt.any fun expiresAt => now < expiresAt)
    lost
  pure job

def fail (errorCode : String) (maxAttempts : Nat)
    : Except Error (PolicyIndexStore × PolicyIndexJob) := do
  let job ← s.leasedJob now work
  let failed := job.failed now errorCode maxAttempts
  pure (s.setJob work.jobId failed, failed)

variable [Digest]

def upsertEmbedding (clauseId : Nat) (contentHash : String) (vector : EmbeddingVector)
    : PolicyIndexStore :=
  { s with
    embeddings := Function.update s.embeddings work.profileId
      (Function.update (s.embeddings work.profileId) clauseId (some {
        sourceContentHash := contentHash
        embedding := vector
        providerRequestFingerprint := Digest.text (work.profile.profileKey ++ "|" ++ contentHash)
        indexedAt := now
      })) }

/--
The clause is stored as it was when it was claimed.
-/
def hasClause (row : Nat × PolicyIndexClause) : Bool :=
  (s.clauses[row.1]?).any fun clause =>
    clause.policyVersionId = row.2.policyVersionId ∧ clause.contentHash = row.2.contentHash

/--
Store the vectors of a page, and count the clauses indexed and those skipped since they changed.
-/
def persistVectors (s : PolicyIndexStore)
    : List ((Nat × PolicyIndexClause) × EmbeddingVector)
      → Except Error (PolicyIndexStore × Nat × Nat)
  | [] => pure (s, 0, 0)
  | (row, vector) :: rest => do
    ensure (work.profile.accepts vector)
      (.valueError "The embedding provider returned an invalid policy vector.")
    if s.hasClause row then
      let stored := s.upsertEmbedding now work row.1 row.2.contentHash vector
      let (t, indexed, skipped) ← persistVectors stored rest
      pure (t, indexed + 1, skipped)
    else
      let (t, indexed, skipped) ← persistVectors s rest
      pure (t, indexed, skipped + 1)

def finishPage (job : PolicyIndexJob) (indexed skipped : Nat)
    : Except Error (PolicyIndexStore × PolicyIndexJob) := do
  let paged := job.paged now indexed skipped (s.remainingClauseCount job)
  let stored := s.setJob work.jobId paged
  let profile ← orThrow stored.profiles[work.profileId]?
    (.runtimeError "The policy embedding profile was removed.")
  pure (stored.refreshProfileCounts now work.profileId profile, paged)

def persistPage (vectors : List EmbeddingVector)
    : Except Error (PolicyIndexStore × PolicyIndexJob) := do
  ensure (vectors.length = work.clauses.length)
    (.valueError "The embedding response count does not match the clause page.")
  let job ← s.leasedJob now work
  let (t, indexed, skipped) ← persistVectors now work s (work.clauses.zip vectors)
  t.finishPage now work job indexed skipped

end Results

end PolicyIndexStore

end CaseResolution
