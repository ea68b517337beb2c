import CaseResolution.Briefs.Impl.Evidence
import CaseResolution.Domain.Policies
import Mathlib.Data.List.Sort
import Mathlib.Data.Rat.Defs
import Mathlib.Data.String.Basic

/-!
This module contains what the two retrievals make of the candidates they find: which clauses they cite
for a case and the fingerprint each citation is stored under.
-/

namespace CaseResolution

open Guard

/--
A clause as a search returns it.
-/
structure CandidateClause where
  id : Nat
  sequence : Nat
  text : String
  contentHash : String
deriving DecidableEq

/--
A policy version with the clauses of it that a search returns.
-/
structure PolicyCandidateRecord where
  policyId : Nat
  policyPublicId : String
  versionId : Nat
  version : Nat
  recordVersion : Nat
  versionContentHash : String
  decisionScope : String
  clauses : List CandidateClause
deriving DecidableEq

def CaseRetrievalContext.label (context : CaseRetrievalContext) (decisionScope : String) : String :=
  let products := ", ".intercalate (context.products.dedup.insertionSort (· ≤ ·))
  s!"{decisionScope}; category {context.category.value}; products {products}; "
    ++ s!"region {context.region}; channel {context.channel.value}; tier {context.tier.value}"

/--
The case evidence is looked for, as far as its fingerprints name it.
-/
structure RetrievalCase where
  casePublicId : String
  context : CaseRetrievalContext

variable [Digest]

def citation (candidate : PolicyCandidateRecord) (clause : CandidateClause) (material : List String)
    : PolicyEvidenceBinding where
  policyVersionId := candidate.versionId
  recordVersion := candidate.recordVersion
  versionContentHash := candidate.versionContentHash
  clauseId := clause.id
  clauseContentHash := clause.contentHash
  fingerprint := Digest.text ("|".intercalate material)

namespace V1PolicyRetrieval

structure RankedPolicyCandidate where
  candidate : PolicyCandidateRecord
  retrievalScore : Rat

def retrievalScoreThreshold : Rat := 15 / 100

/--
How well a clause answers, as far as clauses of one policy are compared.
-/
structure Preference where
  relevant : Bool
  lexicalScore : Rat
  retrievalScore : Rat
  sequence : Nat

/--
The first field in which two preferences differ decides; an earlier clause is the better one.
-/
def Preference.better (a b : Preference) : Bool :=
  if a.relevant ≠ b.relevant then a.relevant
  else if a.lexicalScore ≠ b.lexicalScore then b.lexicalScore < a.lexicalScore
  else if a.retrievalScore ≠ b.retrievalScore then b.retrievalScore < a.retrievalScore
  else a.sequence < b.sequence

structure RankedBinding where
  policyPublicId : String
  preference : Preference
  score : Rat
  binding : PolicyEvidenceBinding

def material (case : RetrievalCase) (candidate : PolicyCandidateRecord) (clause : CandidateClause)
    : List String :=
  [case.casePublicId, candidate.policyPublicId, toString candidate.version,
    candidate.versionContentHash, clause.contentHash, case.context.label candidate.decisionScope]

/--
Keep a clause as the one its policy is cited with, if there is none yet or it is preferred.
-/
def keep (rankedBindings : List RankedBinding) (ranked : RankedBinding) : List RankedBinding :=
  match rankedBindings.find? fun kept => kept.policyPublicId = ranked.policyPublicId with
  | none => rankedBindings ++ [ranked]
  | some current =>
    if ranked.preference.better current.preference then
      rankedBindings.map fun kept =>
        if kept.policyPublicId = ranked.policyPublicId then ranked else kept
    else
      rankedBindings

def RankedBinding.before (a b : RankedBinding) : Prop :=
  b.score < a.score ∨ (a.score = b.score
    ∧ (a.policyPublicId < b.policyPublicId ∨ (a.policyPublicId = b.policyPublicId
      ∧ a.preference.sequence ≤ b.preference.sequence)))

instance : DecidableRel RankedBinding.before := fun _ _ =>
  inferInstanceAs (Decidable (_ ∨ _))

def scoredClauses (case : RetrievalCase) (lexicalRelevance : String → Rat)
    (ranked : RankedPolicyCandidate) : List RankedBinding :=
  let candidate := ranked.candidate
  candidate.clauses.filterMap fun clause =>
    let lexicalScore := lexicalRelevance clause.text
    let score := if ranked.retrievalScore < lexicalScore then lexicalScore else ranked.retrievalScore
    if score < retrievalScoreThreshold then
      none
    else
      some {
        policyPublicId := candidate.policyPublicId
        preference := {
          relevant := retrievalScoreThreshold ≤ lexicalScore
          lexicalScore
          retrievalScore := ranked.retrievalScore
          sequence := clause.sequence }
        score
        binding := citation candidate clause (material case candidate clause) }

/--
The clause each policy is cited with. `lexicalRelevance` scores a clause against the text of the query.
-/
def bindings (case : RetrievalCase) (lexicalRelevance : String → Rat)
    (candidates : List RankedPolicyCandidate) : List PolicyEvidenceBinding :=
  let kept := (candidates.flatMap (scoredClauses case lexicalRelevance)).foldl keep []
  (kept.insertionSort RankedBinding.before).map fun ranked => ranked.binding

end V1PolicyRetrieval

namespace V2PolicyRetrieval

def rrfAlgorithmVersion : String := "policy-hybrid-rrf-v2"

def rrfConstant : Nat := 60

inductive RankingSource where
  | dense
  | lexical
deriving DecidableEq

structure RankedClause where
  candidate : PolicyCandidateRecord
  clause : CandidateClause
  denseRank : Option Nat
  lexicalRank : Option Nat
  fusedScore : Rat
deriving DecidableEq

def RankedClause.add (item : RankedClause) (source : RankingSource) (rank : Nat) : RankedClause :=
  let fusedScore := item.fusedScore + 1 / ((rrfConstant + rank : Nat) : Rat)
  match source with
  | .dense => { item with fusedScore, denseRank := some rank }
  | .lexical => { item with fusedScore, lexicalRank := some rank }

/--
Add the rank of a candidate to what has been accumulated for its clause.
-/
def accumulateItem (target : List RankedClause) (source : RankingSource) (rank : Nat)
    (candidate : PolicyCandidateRecord) : Except Error (List RankedClause) :=
  match candidate.clauses with
  | [clause] =>
    if target.any fun item => item.clause.id = clause.id then
      pure <| target.map fun item => if item.clause.id = clause.id then item.add source rank else item
    else
      let item : RankedClause :=
        { candidate, clause, denseRank := none, lexicalRank := none, fusedScore := 0 }
      pure (target ++ [item.add source rank])
  | _ => throw (.valueError "Each ranking item must contain exactly one clause.")

def accumulate (source : RankingSource)
    : List PolicyCandidateRecord → Nat → List RankedClause → Except Error (List RankedClause)
  | [], _, target => pure target
  | candidate :: ranking, rank, target => do
    accumulate source ranking (rank + 1) (← accumulateItem target source rank candidate)

def RankedClause.before (a b : RankedClause) : Prop :=
  b.fusedScore < a.fusedScore ∨ (a.fusedScore = b.fusedScore
    ∧ (a.candidate.policyPublicId < b.candidate.policyPublicId
      ∨ (a.candidate.policyPublicId = b.candidate.policyPublicId
        ∧ (b.candidate.version < a.candidate.version ∨ (a.candidate.version = b.candidate.version
          ∧ a.clause.sequence ≤ b.clause.sequence)))))

instance : DecidableRel RankedClause.before := fun _ _ =>
  inferInstanceAs (Decidable (_ ∨ _))

def fuseRankings (dense lexical : List PolicyCandidateRecord) : Except Error (List RankedClause) := do
  let accumulated ← accumulate .lexical lexical 1 (← accumulate .dense dense 1 [])
  pure (accumulated.insertionSort RankedClause.before)

/--
Take clauses until there are `limit` of them, but no more than `policyLimit` of one policy.
-/
def takeDiverse (limit policyLimit : Nat) : List RankedClause → List RankedClause → List RankedClause
  | [], selected => selected
  | item :: ranked, selected =>
    if policyLimit ≤ selected.countP fun other => other.candidate.policyId = item.candidate.policyId then
      takeDiverse limit policyLimit ranked selected
    else if (selected ++ [item]).length = limit then
      selected ++ [item]
    else
      takeDiverse limit policyLimit ranked (selected ++ [item])

def selectDiverse (ranked : List RankedClause) (limit perPolicyLimit : Nat)
    : Except Error (List RankedClause) := do
  ensure (1 ≤ limit ∧ 1 ≤ perPolicyLimit) (.valueError "Retrieval limits must be positive.")
  let policyIds := (ranked.map fun item => item.candidate.policyId).dedup
  pure (takeDiverse limit (if policyIds.length ≤ 1 then limit else perPolicyLimit) ranked [])

def material (case : RetrievalCase) (profileKey queryFingerprint : String) (item : RankedClause)
    : List String :=
  [case.casePublicId, item.candidate.policyPublicId, item.candidate.versionContentHash,
    item.clause.contentHash, case.context.label item.candidate.decisionScope, profileKey,
    rrfAlgorithmVersion, queryFingerprint]

def bindings (case : RetrievalCase) (profileKey queryFingerprint : String)
    (dense lexical : List PolicyCandidateRecord) : Except Error (List PolicyEvidenceBinding) := do
  let ranked ← selectDiverse (← fuseRankings dense lexical) 3 2
  pure <| ranked.map fun item =>
    citation item.candidate item.clause (material case profileKey queryFingerprint item)

end V2PolicyRetrieval

namespace Store

def storedEvidence (s : Store) (caseId : Nat) (fingerprint : String) : Option CasePolicyEvidence :=
  s.policyEvidence.find? fun row => row.caseId = caseId ∧ row.fingerprint = fingerprint

/--
The evidence a binding is returned with. It is stored by `bindEvidenceRow`, unless its fingerprint has
been stored for the case before.
-/
def evidenceFor (s : Store) (caseId : Nat) (binding : PolicyEvidenceBinding) : CasePolicyEvidence :=
  (s.storedEvidence caseId binding.fingerprint).getD (s.newEvidence caseId binding)

/--
`bindEvidence` with the evidence row that each bundle carries.
-/
def bindBundles (caseId : Nat) : List PolicyEvidenceBinding → Store →
    Except Error (Store × List (CasePolicyEvidence × PolicyEvidenceBinding))
  | [], s => pure (s, [])
  | binding :: rest, s => do
    let (bound, _) ← s.bindEvidenceRow caseId binding
    let (final, bundles) ← bindBundles caseId rest bound
    pure (final, (s.evidenceFor caseId binding, binding) :: bundles)

end Store

end CaseResolution
