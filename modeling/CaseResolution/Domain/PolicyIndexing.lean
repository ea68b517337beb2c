import CaseResolution.Domain.DecisionBriefs

/-!
This module contains the embedding index of governed policies: the profiles clauses are embedded
under, the embeddings and the jobs that compute them page by page.
-/

namespace CaseResolution

inductive EmbeddingProfileStatus where
  | building
  | ready
  | active
  | retired
  | failed
deriving DecidableEq

inductive PolicyIndexJobStatus where
  | pending
  | running
  | completed
  | failed
  | dead
deriving DecidableEq

/--
A row of `policy_embedding_profiles`.
-/
structure EmbeddingProfile where
  profileKey : String
  dimensions : Nat
  status : EmbeddingProfileStatus
  expectedClauseCount : Nat
  indexedClauseCount : Nat
  readyAt : Option Instant
deriving DecidableEq

/--
A row of `governed_policy_clauses` as it is indexed. `policyVersionId` is the position of its version.
-/
structure PolicyIndexClause where
  policyVersionId : Nat
  sequence : Nat
  text : String
  contentHash : String
deriving DecidableEq

/--
A component of a vector, `none` where it is not a finite number.
-/
abbrev Component := Option Rat

abbrev EmbeddingVector := List Component

/--
The vector is one of the profile.
-/
def EmbeddingProfile.accepts (profile : EmbeddingProfile) (vector : EmbeddingVector) : Prop :=
  vector.length = profile.dimensions ∧ ∀ component ∈ vector, component.isSome

instance (profile : EmbeddingProfile) (vector : EmbeddingVector)
    : Decidable (profile.accepts vector) :=
  inferInstanceAs (Decidable (_ ∧ _))

/--
A row of `governed_policy_clause_embeddings_v2`.
-/
structure ClauseEmbedding where
  sourceContentHash : String
  embedding : EmbeddingVector
  providerRequestFingerprint : String
  indexedAt : Instant
deriving DecidableEq

/--
A row of `policy_index_jobs`.
-/
structure PolicyIndexJob where
  policyVersionId : Nat
  profileId : Nat
  sourceContentFingerprint : String
  jobKey : String
  status : PolicyIndexJobStatus
  pageBudget : Nat
  attemptCount : Nat
  availableAt : Instant
  leaseOwner : Option String
  leaseExpiresAt : Option Instant
  lastErrorCode : Option String
  indexedClauseCount : Nat
  skippedClauseCount : Nat
  completedAt : Option Instant
  createdAt : Instant
deriving DecidableEq

/--
A claimed page of clauses with their row ids.
-/
structure PolicyIndexWorkItem where
  jobId : Nat
  job : PolicyIndexJob
  profileId : Nat
  profile : EmbeddingProfile
  clauses : List (Nat × PolicyIndexClause)
  leaseExpiresAt : Instant

structure PolicyIndexDrainResult where
  claimedJobs : Nat
  completedJobs : Nat
  failedJobs : Nat
  indexedClauses : Nat
  skippedClauses : Nat
deriving DecidableEq

/--
The tables policy indexing works on. Versions stand in the order they were created in, and there is at
most one embedding of a clause under a profile.
-/
structure PolicyIndexStore where
  profiles : List EmbeddingProfile
  versions : List GovernedPolicyVersion
  clauses : List PolicyIndexClause
  embeddings : (profileId clauseId : Nat) → Option ClauseEmbedding
  jobs : List PolicyIndexJob

end CaseResolution
