import CaseResolution.Briefs.Impl.Retrieval
import CaseResolution.Cases.Impl.Queue
import CaseResolution.Policies.Impl.Retrieval

/-!
This module contains the first retrieval of policy clauses: the search of the clauses in use by the
distance of their embeddings and the resolution a case gets from the page it returns.
-/

namespace CaseResolution

open Guard

/--
The distance of two vectors as the database computes it, `none` where it is not a number.
-/
class VectorSearch where
  cosineDistance : List Rat → List Rat → Option Rat

/--
A row of `governed_policy_clauses` with the columns a search reads.
-/
structure CatalogClause extends PolicyClause where
  id : Nat
  embedding : List Rat
  embeddingVersion : String
deriving DecidableEq

/--
A row of `governed_policy_versions` with the key of its policy and its clauses.
-/
structure CatalogVersion where
  policyId : Nat
  policyPublicId : String
  versionId : Nat
  row : PolicyVersion
  clauses : List CatalogClause
  clauses_row : row.clauses = clauses.map fun clause => clause.toPolicyClause

/--
The versions of all policies of an organization under the unique constraints of their tables.
-/
structure PolicyCatalog where
  versions : List CatalogVersion
  policies_unique : ∀ v ∈ versions, ∀ w ∈ versions,
    v.policyId = w.policyId ↔ v.policyPublicId = w.policyPublicId
  numbers_unique : (versions.map fun v => (v.policyId, v.row.version)).Nodup
  clauses_unique : (versions.flatMap fun v => v.clauses.map fun clause => clause.id).Nodup
  sequences_unique : ∀ v ∈ versions, (v.clauses.map fun clause => clause.sequence).Nodup

structure PolicyRetrievalCandidatePage where
  categoryMatches : Nat
  applicableMatches : Nat
  activeMatches : Nat
  truncated : Bool
  conflictingScopes : List String
  candidates : List V1PolicyRetrieval.RankedPolicyCandidate

structure RetrievalResolution where
  status : EvidenceRetrievalStatus
  reason : String
  bindings : List PolicyEvidenceBinding
deriving DecidableEq

def CatalogClause.toCandidateClause (clause : CatalogClause) : CandidateClause where
  id := clause.id
  sequence := clause.sequence
  text := clause.text
  contentHash := clause.contentHash

namespace CatalogVersion

def categoryMatch (v : CatalogVersion) (search : PolicySearch) : Bool :=
  v.row.isLive && dimensionMatch v.row.applicability.caseCategories [search.caseCategory]

def applicabilityMatch (v : CatalogVersion) (search : PolicySearch) : Bool :=
  v.categoryMatch search
    && dimensionMatch v.row.applicability.products search.products
    && dimensionMatch v.row.applicability.regions [search.region]
    && dimensionMatch v.row.applicability.channels [search.channel]
    && dimensionMatch v.row.applicability.customerTiers [search.customerTier]

def candidate (v : CatalogVersion) (clause : CatalogClause) : PolicyCandidateRecord where
  policyId := v.policyId
  policyPublicId := v.policyPublicId
  versionId := v.versionId
  version := v.row.version
  recordVersion := v.row.recordVersion
  versionContentHash := v.row.contentHash
  decisionScope := v.row.applicability.decisionScope
  clauses := [clause.toCandidateClause]

end CatalogVersion

/--
A clause in use with the distance of its embedding.
-/
structure ClauseRow where
  version : CatalogVersion
  clause : CatalogClause
  distance : Option Rat

namespace ClauseRow

def candidate (row : ClauseRow) : PolicyCandidateRecord :=
  row.version.candidate row.clause

/--
The score of a distance lies between -1 and 1. One that is not a number passes as 1.
-/
def retrievalScore (row : ClauseRow) : Rat :=
  match row.distance with
  | some distance => max (-1) (min 1 (1 - distance))
  | none => 1

def ranked (row : ClauseRow) : V1PolicyRetrieval.RankedPolicyCandidate where
  candidate := row.candidate
  retrievalScore := row.retrievalScore

/--
Distances that are not numbers come last.
-/
def closer : Option Rat → Option Rat → Bool
  | some a, some b => a < b
  | some _, none => true
  | none, _ => false

def before [TextCollation] (a b : ClauseRow) : Prop :=
  closer a.distance b.distance = true ∨ (a.distance = b.distance
    ∧ (TextCollation.sortKey a.version.policyPublicId < TextCollation.sortKey b.version.policyPublicId
      ∨ (a.version.policyPublicId = b.version.policyPublicId
        ∧ (b.version.row.version < a.version.row.version
          ∨ (a.version.row.version = b.version.row.version ∧ a.clause.sequence ≤ b.clause.sequence)))))

instance [TextCollation] : DecidableRel before := fun _ _ =>
  inferInstanceAs (Decidable (_ ∨ _))

end ClauseRow

namespace PolicyCatalog

def activeVersions (catalog : PolicyCatalog) (search : PolicySearch) : List CatalogVersion :=
  catalog.versions.filter fun v => v.row.isActive search

/--
The number of policies with a version that meets `p`.
-/
def policiesWith (catalog : PolicyCatalog) (p : CatalogVersion → Bool) : Nat :=
  ((catalog.versions.filter p).map fun v => v.policyId).dedup.length

def conflictingScopes [TextCollation] (catalog : PolicyCatalog) (search : PolicySearch) : List String :=
  let active := catalog.activeVersions search
  let scopes := (active.map fun v => v.row.applicability.decisionScope).dedup
  let conflicting := scopes.filter fun scope =>
    1 < ((active.filter fun v => v.row.applicability.decisionScope = scope).map
      fun v => v.policyId).dedup.length
  conflicting.insertionSort fun a b => TextCollation.sortKey a ≤ TextCollation.sortKey b

variable [VectorSearch] [TextCollation]

/--
All clauses in use that are embedded under the version, the closest first.
-/
def clauseRows (catalog : PolicyCatalog) (search : PolicySearch) (queryEmbedding : List Rat)
    (embeddingVersion : String) : List ClauseRow :=
  let rows := (catalog.activeVersions search).flatMap fun version =>
    (version.clauses.filter fun clause => clause.embeddingVersion = embeddingVersion).map fun clause =>
      { version, clause, distance := VectorSearch.cosineDistance clause.embedding queryEmbedding }
  rows.insertionSort ClauseRow.before

def searchRetrievalCandidates (catalog : PolicyCatalog) (search : PolicySearch)
    (queryEmbedding : List Rat) (embeddingVersion : String) (candidateLimit : Nat)
    : Except Error PolicyRetrievalCandidatePage := do
  ensure (1 ≤ candidateLimit ∧ candidateLimit ≤ 256)
    (.valueError "candidate_limit must be between 1 and 256")
  let activeMatches := catalog.policiesWith fun v => v.row.isActive search
  let conflictingScopes := catalog.conflictingScopes search
  let rows := catalog.clauseRows search queryEmbedding embeddingVersion
  pure {
    categoryMatches := catalog.policiesWith fun v => v.categoryMatch search
    applicableMatches := catalog.policiesWith fun v => v.applicabilityMatch search
    activeMatches
    truncated := false
    conflictingScopes
    candidates :=
      if activeMatches = 0 ∨ conflictingScopes ≠ [] then
        []
      else
        (rows.take candidateLimit).map fun row => row.ranked }

end PolicyCatalog

/--
The parts of scoring that are not computed on exact texts and numbers.
-/
class TermScoring where
  lower : String → String
  ratio : (common product : Nat) → Rat

section Scoring

variable [TermScoring]

def stopWords : List String :=
  ["a", "an", "and", "any", "are", "be", "been", "before", "being", "for", "i", "in", "is", "may", "my",
    "of", "on", "or", "that", "the", "this", "to", "was", "were", "with"]

def tokenAliases : List (String × String) :=
  [("charged", "charge"), ("charges", "charge"), ("charging", "charge"), ("credits", "credit"),
    ("duplicated", "duplicate"), ("duplicates", "duplicate")]

def isTokenChar (c : Char) : Bool :=
  ('a' ≤ c ∧ c ≤ 'z') ∨ ('0' ≤ c ∧ c ≤ '9')

def meaningfulTerms (text : String) : List String :=
  let tokens := ((TermScoring.lower text).toList.splitOnP fun c => !isTokenChar c).filter fun token =>
    token ≠ []
  let terms := (tokens.map String.ofList).filter fun token => token ∉ stopWords
  (terms.map fun token => (tokenAliases.lookup token).getD token).dedup

/--
`ratio` divides the number of common terms by the root of the product of both numbers of terms.
-/
def lexicalRelevance (query passage : String) : Rat :=
  let queryTerms := meaningfulTerms query
  let passageTerms := meaningfulTerms passage
  if queryTerms = [] ∨ passageTerms = [] then
    0
  else
    TermScoring.ratio (queryTerms.filter fun term => term ∈ passageTerms).length
      (queryTerms.length * passageTerms.length)

end Scoring

namespace V1PolicyRetrieval

def retrievalCandidateLimit : Nat := 64

def guardSearch (page : PolicyRetrievalCandidatePage) : Option RetrievalResolution :=
  if page.categoryMatches = 0 then
    some ⟨.missing, "No published policy covers this case category.", []⟩
  else if page.applicableMatches = 0 then
    some ⟨.inapplicable, "Published policies exist but do not match this case context.", []⟩
  else if page.activeMatches = 0 then
    some ⟨.stale, "Matching policy versions are outside their effective dates.", []⟩
  else if page.truncated then
    some ⟨.conflicting, "Policy retrieval could not safely rule out a conflict.", []⟩
  else if page.conflictingScopes ≠ [] then
    some ⟨.conflicting, "Multiple published policies claim the same decision scope.", []⟩
  else
    none

variable [Digest]

/--
The resolution for the page. `relevance` scores a clause against the text of the query.
-/
def resolvePage (case : RetrievalCase) (relevance : String → Rat) (page : PolicyRetrievalCandidatePage)
    : RetrievalResolution :=
  match guardSearch page with
  | some guarded => guarded
  | none =>
    match bindings case relevance page.candidates with
    | [] => ⟨.missing, "No policy clause is relevant enough to cite.", []⟩
    | cited => ⟨.relevant, "Recorded policy evidence is available.", cited⟩

variable [TermScoring] [VectorSearch] [TextCollation]

def resolve (catalog : PolicyCatalog) (case : RetrievalCase) (asOf : Instant) (queryText : String)
    (queryEmbedding : List Rat) (embeddingVersion : String) : Except Error RetrievalResolution := do
  let page ← catalog.searchRetrievalCandidates (case.context.search asOf) queryEmbedding
    embeddingVersion retrievalCandidateLimit
  pure (resolvePage case (lexicalRelevance queryText) page)

end V1PolicyRetrieval

end CaseResolution
