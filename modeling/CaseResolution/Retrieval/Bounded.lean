import CaseResolution.Briefs.Citations
import CaseResolution.Cases.Queue
import CaseResolution.Retrieval.Lemmas.Fusion
import Mathlib.Data.List.Dedup
import Mathlib.Data.List.Flatten

/-!
This module contains when the first retrieval cites from the closest clauses what it would cite from all
clauses in use.
-/

namespace CaseResolution

open Guard

namespace ClauseRow

def lexicalScore (relevance : String → Rat) (row : ClauseRow) : Rat :=
  relevance row.clause.text

def score (relevance : String → Rat) (row : ClauseRow) : Rat :=
  if row.retrievalScore < row.lexicalScore relevance then row.lexicalScore relevance
  else row.retrievalScore

/--
The clause is close enough to the query or shares enough words with it.
-/
def citable (relevance : String → Rat) (row : ClauseRow) : Bool :=
  ¬ row.score relevance < V1PolicyRetrieval.retrievalScoreThreshold

def preference (relevance : String → Rat) (row : ClauseRow) : V1PolicyRetrieval.Preference where
  relevant := V1PolicyRetrieval.retrievalScoreThreshold ≤ row.lexicalScore relevance
  lexicalScore := row.lexicalScore relevance
  retrievalScore := row.retrievalScore
  sequence := row.clause.sequence

end ClauseRow

namespace V1PolicyRetrieval

section Keep

/--
The key by which preferences are compared.
-/
def Preference.key (preference : Preference) : Bool ×ₗ Rat ×ₗ Rat ×ₗ OrderDual Nat :=
  toLex (preference.relevant, toLex (preference.lexicalScore,
    toLex (preference.retrievalScore, OrderDual.toDual preference.sequence)))

theorem Preference.better_iff {a b : Preference} : a.better b = true ↔ b.key < a.key := by
  unfold better key
  simp only [Prod.Lex.toLex_lt_toLex, OrderDual.toDual_lt_toDual]
  by_cases hrelevant : a.relevant = b.relevant
  . by_cases hlexical : a.lexicalScore = b.lexicalScore
    . by_cases hretrieval : a.retrievalScore = b.retrievalScore <;>
        simp [hrelevant, hlexical, hretrieval, eq_comm]
    . simp [hrelevant, hlexical, eq_comm]
  . cases ha : a.relevant <;> cases hb : b.relevant <;> simp_all

theorem keep_eq_keepBest
    : keep = Rankings.keepBest (fun ranked => ranked.policyPublicId) fun ranked => ranked.preference.key := by
  funext rankedBindings ranked
  unfold keep Rankings.keepBest
  split
  . next hnone =>
    rw [hnone]
  . next current hfind =>
    rw [hfind]
    simp only [Preference.better_iff]

end Keep

/--
Every citable clause of `rest` gives way to a citable clause of its policy on the page.
-/
def Covered (relevance : String → Rat) (page rest : List ClauseRow) : Prop :=
  ∀ row ∈ rest, row.citable relevance = true →
    ∃ other ∈ page, other.citable relevance = true
      ∧ other.version.policyPublicId = row.version.policyPublicId
      ∧ ¬ (row.preference relevance).better (other.preference relevance) = true

instance (relevance : String → Rat) (page rest : List ClauseRow)
    : Decidable (Covered relevance page rest) :=
  inferInstanceAs (Decidable (∀ row ∈ rest, _))

/--
A catalog with at most 64 clauses in use is searched exhaustively.
-/
theorem covered_of_few {relevance : String → Rat} {rows : List ClauseRow} (h : rows.length ≤ 64)
    : Covered relevance (rows.take 64) (rows.drop 64) := by
  rw [List.drop_eq_nil_of_le h]
  intro row hrow
  cases hrow

variable [Digest]

/--
The binding of a citable clause.
-/
def rankedBinding (case : RetrievalCase) (relevance : String → Rat) (row : ClauseRow) : RankedBinding where
  policyPublicId := row.version.policyPublicId
  preference := row.preference relevance
  score := row.score relevance
  binding := citation row.candidate row.clause.toCandidateClause
    (material case row.candidate row.clause.toCandidateClause)

/--
The bindings of the citable clauses of a page.
-/
def rankedBindings (case : RetrievalCase) (relevance : String → Rat) (rows : List ClauseRow)
    : List RankedBinding :=
  (rows.filter fun row => row.citable relevance).map (rankedBinding case relevance)

variable {case : RetrievalCase} {relevance : String → Rat} {rows page rest : List ClauseRow}

theorem scoredClauses_ranked (row : ClauseRow)
    : scoredClauses case relevance row.ranked
        = if row.citable relevance then [rankedBinding case relevance row] else [] := by
  have hscored : scoredClauses case relevance row.ranked
      = [row.clause.toCandidateClause].filterMap fun _ =>
        if row.score relevance < retrievalScoreThreshold then none
        else some (rankedBinding case relevance row) := by
    rfl
  rw [hscored, List.filterMap_cons, List.filterMap_nil]
  unfold ClauseRow.citable
  by_cases hlow : row.score relevance < retrievalScoreThreshold <;> simp [hlow]

theorem scored_map_ranked (rows : List ClauseRow)
    : (rows.map fun row => row.ranked).flatMap (scoredClauses case relevance)
        = rankedBindings case relevance rows := by
  unfold rankedBindings
  induction rows with
  | nil => rfl
  | cons row rows ih =>
    rw [List.map_cons, List.flatMap_cons, scoredClauses_ranked, ih, List.filter_cons]
    split <;> simp

theorem bindings_eq (rows : List ClauseRow)
    : bindings case relevance (rows.map fun row => row.ranked)
        = ((Rankings.best (fun ranked => ranked.policyPublicId) (fun ranked => ranked.preference.key)
            (rankedBindings case relevance rows)).insertionSort RankedBinding.before).map
              fun ranked => ranked.binding := by
  unfold bindings Rankings.best
  rw [scored_map_ranked, keep_eq_keepBest]

variable (case) in
theorem covered_iff
    : Covered relevance page rest
        ↔ Rankings.Covers (fun ranked => ranked.policyPublicId) (fun ranked => ranked.preference.key)
          (rankedBindings case relevance page) (rankedBindings case relevance rest) := by
  constructor
  . intro h ranked hranked
    obtain ⟨row, hrow, rfl⟩ := List.mem_map.mp hranked
    obtain ⟨hmem, hcitable⟩ := List.mem_filter.mp hrow
    obtain ⟨other, hother, hcitable', hpolicy, hbetter⟩ := h row hmem hcitable
    refine ⟨rankedBinding case relevance other, ?_, hpolicy, ?_⟩
    . exact List.mem_map_of_mem (List.mem_filter.mpr ⟨hother, hcitable'⟩)
    . rw [Preference.better_iff, not_lt] at hbetter
      exact hbetter
  . intro h row hmem hcitable
    obtain ⟨ranked, hranked, hpolicy, hkey⟩ :=
      h (rankedBinding case relevance row) (List.mem_map_of_mem (List.mem_filter.mpr ⟨hmem, hcitable⟩))
    obtain ⟨other, hother, rfl⟩ := List.mem_map.mp hranked
    obtain ⟨hmem', hcitable'⟩ := List.mem_filter.mp hother
    refine ⟨other, hmem', hcitable', hpolicy, ?_⟩
    rw [Preference.better_iff, not_lt]
    exact hkey

/--
A page of the first clauses is as good as all clauses exactly when it covers the others.
-/
theorem bindings_take_eq_iff (h : (rows.map fun row => row.clause.id).Nodup) (n : Nat)
    : bindings case relevance ((rows.take n).map fun row => row.ranked)
          = bindings case relevance (rows.map fun row => row.ranked)
        ↔ Covered relevance (rows.take n) (rows.drop n) := by
  have hsplit : rankedBindings case relevance rows
      = rankedBindings case relevance (rows.take n) ++ rankedBindings case relevance (rows.drop n) := by
    unfold rankedBindings
    rw [← List.map_append, ← List.filter_append, List.take_append_drop]
  rw [bindings_eq, bindings_eq, covered_iff case, hsplit]
  constructor
  . intro heq
    by_contra huncovered
    obtain ⟨ranked, hlater, hbest⟩ := Rankings.exists_mem_best huncovered
    have hbinding : ranked.binding ∈ ((Rankings.best (fun ranked => ranked.policyPublicId)
        (fun ranked => ranked.preference.key) (rankedBindings case relevance (rows.take n))).insertionSort
          RankedBinding.before).map fun ranked => ranked.binding := by
      rw [heq]
      exact List.mem_map_of_mem ((List.mem_insertionSort _).mpr hbest)
    obtain ⟨cited, hcited, hsame⟩ := List.mem_map.mp hbinding
    have hfirst := (Rankings.isBest_best _ _ _).subset cited ((List.mem_insertionSort _).mp hcited)
    obtain ⟨row, hrow, rfl⟩ := List.mem_map.mp hlater
    obtain ⟨other, hother, rfl⟩ := List.mem_map.mp hfirst
    -- One clause would be found both on the page and behind it.
    have hclause : other.clause.id = row.clause.id := congrArg (fun b => b.clauseId) hsame
    rw [← List.take_append_drop n rows, List.map_append, List.nodup_append] at h
    exact h.2.2 _ (List.mem_map_of_mem (List.mem_filter.mp hother).1) _
      (List.mem_map_of_mem (List.mem_filter.mp hrow).1) hclause
  . intro hcovers
    rw [Rankings.best_append hcovers]

end V1PolicyRetrieval

namespace PolicyCatalog

variable [VectorSearch] [TextCollation]

theorem clauseRows_nodup (catalog : PolicyCatalog) (search : PolicySearch) (queryEmbedding : List Rat)
    (embeddingVersion : String)
    : ((catalog.clauseRows search queryEmbedding embeddingVersion).map fun row => row.clause.id).Nodup := by
  have hperm := (List.perm_insertionSort ClauseRow.before
    ((catalog.activeVersions search).flatMap fun v =>
      (v.clauses.filter fun clause => clause.embeddingVersion = embeddingVersion).map fun clause => {
        version := v
        clause
        distance := VectorSearch.cosineDistance clause.embedding queryEmbedding })).map
          fun row : ClauseRow => row.clause.id
  unfold clauseRows
  rw [hperm.nodup_iff, List.map_flatMap]
  apply List.Nodup.sublist _ catalog.clauses_unique
  apply (List.Sublist.flatMap_right _ _).trans (List.filter_sublist.flatMap _)
  intro v _
  rw [List.map_map]
  exact List.filter_sublist.map _

/--
Without an active policy there is no clause in use.
-/
theorem clauseRows_eq_nil {catalog : PolicyCatalog} {search : PolicySearch} {queryEmbedding : List Rat}
    {embeddingVersion : String} (h : catalog.policiesWith (fun v => v.row.isActive search) = 0)
    : catalog.clauseRows search queryEmbedding embeddingVersion = [] := by
  have hnone : (catalog.versions.filter fun v => v.row.isActive search) = [] := by
    rw [List.eq_nil_iff_forall_not_mem]
    intro v hv
    have hpolicy := List.mem_dedup.mpr (List.mem_map_of_mem (f := fun v => v.policyId) hv)
    rw [List.length_eq_zero_iff.mp h] at hpolicy
    cases hpolicy
  unfold clauseRows activeVersions
  rw [hnone]
  rfl

/--
A search without conflicts returns the closest clauses in use, and never says that it left some out.
-/
theorem searchRetrievalCandidates_eq_ok {catalog : PolicyCatalog} {search : PolicySearch}
    (queryEmbedding : List Rat) (embeddingVersion : String) (candidateLimit : Nat)
    (hlimit : 1 ≤ candidateLimit ∧ candidateLimit ≤ 256) (hconflicts : catalog.conflictingScopes search = [])
    : ∃ page, catalog.searchRetrievalCandidates search queryEmbedding embeddingVersion candidateLimit
          = .ok page
        ∧ page.truncated = false
        ∧ page.candidates = ((catalog.clauseRows search queryEmbedding embeddingVersion).take
            candidateLimit).map fun row => row.ranked := by
  have hpage := ensure_of (e := Error.valueError "candidate_limit must be between 1 and 256") hlimit
  unfold searchRetrievalCandidates
  rw [hpage]
  refine ⟨_, rfl, rfl, ?_⟩
  by_cases hactive : catalog.policiesWith (fun v => v.row.isActive search) = 0
  . rw [if_pos (.inl hactive), clauseRows_eq_nil hactive, List.take_nil, List.map_nil]
  . rw [if_neg (by simp [hactive, hconflicts])]

end PolicyCatalog

namespace V1PolicyRetrieval

variable [Digest] [TermScoring] [VectorSearch] [TextCollation]

/--
A search of the 64 closest clauses leads to the citations of a search of all clauses in use, or is
reported to be truncated, exactly when the clauses behind them would not be preferred.
-/
theorem bounded_search_agrees_iff (catalog : PolicyCatalog) (case : RetrievalCase) (asOf : Instant)
    (queryText : String) (queryEmbedding : List Rat) (embeddingVersion : String)
    (hconflicts : catalog.conflictingScopes (case.context.search asOf) = [])
    : ∃ page, catalog.searchRetrievalCandidates (case.context.search asOf) queryEmbedding
          embeddingVersion retrievalCandidateLimit = .ok page
        ∧ ((page.truncated = true
              ∨ bindings case (lexicalRelevance queryText) page.candidates
                = bindings case (lexicalRelevance queryText)
                  ((catalog.clauseRows (case.context.search asOf) queryEmbedding embeddingVersion).map
                    fun row => row.ranked))
            ↔ Covered (lexicalRelevance queryText)
              ((catalog.clauseRows (case.context.search asOf) queryEmbedding embeddingVersion).take 64)
              ((catalog.clauseRows (case.context.search asOf) queryEmbedding embeddingVersion).drop 64)) := by
  obtain ⟨page, hpage, htruncated, hcandidates⟩ := catalog.searchRetrievalCandidates_eq_ok queryEmbedding
    embeddingVersion retrievalCandidateLimit (by decide) hconflicts
  refine ⟨page, hpage, ?_⟩
  rw [htruncated, hcandidates]
  simp only [Bool.false_eq_true, false_or]
  exact bindings_take_eq_iff (catalog.clauseRows_nodup _ _ _) 64

end V1PolicyRetrieval

namespace Sample

open V1PolicyRetrieval

attribute [local instance] Digest.checksum codepoints

/--
The distance of vectors of length 1.
-/
@[reducible]
def unitVectors : VectorSearch where
  cosineDistance a b := some (1 - (List.zipWith (· * ·) a b).sum)

/--
Words of plain letters, and numbers of words whose product is a square.
-/
@[reducible]
def plainWords : TermScoring where
  lower := String.toLower
  ratio common product :=
    (common : Rat) / ((List.range (product + 1)).find? fun root => root * root = product).getD 1

attribute [local instance] unitVectors plainWords

/--
The clause on refunds comes after 64 others.
-/
def longClauses : List CatalogClause :=
  (List.range 64).map (fun i => catalogClause i (i + 1) "Terms of delivery." [1, 0])
    ++ [catalogClause 64 65 "A refund is paid." [0, 1]]

def longPolicy : PolicyCatalog where
  versions := [catalogVersion 0 "POL-1" longClauses]
  policies_unique := by decide +kernel
  numbers_unique := by decide +kernel
  clauses_unique := by decide +kernel
  sequences_unique := by decide +kernel

/--
The clause as the query about refunds finds it.
-/
def longRow (clause : CatalogClause) : ClauseRow where
  version := catalogVersion 0 "POL-1" longClauses
  clause := clause
  distance := VectorSearch.cosineDistance clause.embedding [1, 0]

theorem longRow_before {clause clause' : CatalogClause} (hsequence : clause.sequence ≤ clause'.sequence)
    (hdistance : clause.embedding = clause'.embedding
      ∨ (clause.embedding = [1, 0] ∧ clause'.embedding = [0, 1]))
    : (longRow clause).before (longRow clause') := by
  rcases hdistance with heq | ⟨hclose, hfar⟩
  . exact .inr ⟨congrArg (fun embedding => VectorSearch.cosineDistance embedding [1, 0]) heq,
      .inr ⟨rfl, .inr ⟨rfl, hsequence⟩⟩⟩
  . have hcloser : ClauseRow.closer (VectorSearch.cosineDistance [1, 0] [1, 0])
        (VectorSearch.cosineDistance [0, 1] [1, 0]) = true := by
      decide +kernel
    unfold longRow
    rw [hclose, hfar]
    exact .inl hcloser

theorem clauseRows_longPolicy
    : longPolicy.clauseRows (refundRetrieval.context.search 10) [1, 0] "v1" = longClauses.map longRow := by
  have hactive : longPolicy.activeVersions (refundRetrieval.context.search 10)
      = [catalogVersion 0 "POL-1" longClauses] := by
    unfold PolicyCatalog.activeVersions longPolicy
    rw [List.filter_cons_of_pos (by decide +kernel), List.filter_nil]
  have hversion : (longClauses.filter fun clause => clause.embeddingVersion = "v1") = longClauses := by
    decide +kernel
  have hrows : ((longPolicy.activeVersions (refundRetrieval.context.search 10)).flatMap fun version =>
      (version.clauses.filter fun clause => clause.embeddingVersion = "v1").map fun clause => ({
        version
        clause
        distance := VectorSearch.cosineDistance clause.embedding [1, 0] } : ClauseRow))
          = longClauses.map longRow := by
    rw [hactive, List.flatMap_singleton]
    change (longClauses.filter fun clause => clause.embeddingVersion = "v1").map _ = _
    rw [hversion]
    rfl
  unfold PolicyCatalog.clauseRows
  rw [hrows]
  apply List.Pairwise.insertionSort_eq
  rw [List.pairwise_map, longClauses, List.pairwise_append, List.pairwise_map]
  refine ⟨?_, List.pairwise_singleton _ _, ?_⟩
  . apply List.pairwise_lt_range.imp
    intro i j hij
    exact longRow_before (Nat.succ_le_succ hij.le) (.inl rfl)
  . intro clause hclause last hlast
    obtain ⟨i, hi, rfl⟩ := List.mem_map.mp hclause
    rw [List.mem_singleton] at hlast
    subst hlast
    have hlt := List.mem_range.mp hi
    exact longRow_before (by simp only [catalogClause]; omega) (.inr ⟨rfl, rfl⟩)

theorem terms_query : meaningfulTerms "Is a refund paid?" = ["refund", "paid"] := by
  decide +kernel

theorem relevance_delivery : lexicalRelevance "Is a refund paid?" "Terms of delivery." = 0 := by
  have hterms : meaningfulTerms "Terms of delivery." = ["terms", "delivery"] := by decide +kernel
  unfold lexicalRelevance
  rw [terms_query, hterms]
  decide +kernel

theorem relevance_refund : lexicalRelevance "Is a refund paid?" "A refund is paid." = 1 := by
  have hterms : meaningfulTerms "A refund is paid." = ["refund", "paid"] := by decide +kernel
  unfold lexicalRelevance
  rw [terms_query, hterms]
  decide +kernel

/--
The clause on refunds would be preferred to the 64 closest ones.
-/
theorem not_covered_longClauses
    : ¬ Covered (lexicalRelevance "Is a refund paid?") ((longClauses.map longRow).take 64)
        ((longClauses.map longRow).drop 64) := by
  have hpage : (longClauses.map longRow).take 64 = ((List.range 64).map
      fun i => catalogClause i (i + 1) "Terms of delivery." [1, 0]).map longRow := by
    rw [← List.map_take, longClauses, List.take_left' (by simp)]
  have hrest : (longClauses.map longRow).drop 64
      = [longRow (catalogClause 64 65 "A refund is paid." [0, 1])] := by
    rw [← List.map_drop, longClauses, List.drop_left' (by simp)]
    rfl
  rw [hpage, hrest]
  have hcitable : (longRow (catalogClause 64 65 "A refund is paid." [0, 1])).citable
      (lexicalRelevance "Is a refund paid?") = true := by
    unfold ClauseRow.citable ClauseRow.score ClauseRow.lexicalScore longRow catalogClause
    simp only [relevance_refund]
    decide +kernel
  intro hcovered
  obtain ⟨other, hother, _, _, hbetter⟩ := hcovered _ (List.mem_singleton_self _) hcitable
  obtain ⟨clause, hclause, rfl⟩ := List.mem_map.mp hother
  obtain ⟨i, _, rfl⟩ := List.mem_map.mp hclause
  apply hbetter
  -- Only the clause on refunds shares words with the query.
  unfold Preference.better ClauseRow.preference ClauseRow.lexicalScore longRow catalogClause
  simp only [relevance_delivery, relevance_refund]
  rw [if_pos (by decide +kernel)]
  decide +kernel

/--
The 64 closest clauses are cited from, though only the one behind them is about refunds.
-/
theorem bounded_search_misses_clause
    : longPolicy.conflictingScopes (refundRetrieval.context.search 10) = []
        ∧ ∃ page, longPolicy.searchRetrievalCandidates (refundRetrieval.context.search 10) [1, 0] "v1"
            retrievalCandidateLimit = .ok page
          ∧ page.truncated = false
          ∧ bindings refundRetrieval (lexicalRelevance "Is a refund paid?") page.candidates
            ≠ bindings refundRetrieval (lexicalRelevance "Is a refund paid?")
              ((longPolicy.clauseRows (refundRetrieval.context.search 10) [1, 0] "v1").map
                fun row => row.ranked) := by
  have hconflicts : longPolicy.conflictingScopes (refundRetrieval.context.search 10) = [] := by
    decide +kernel
  obtain ⟨page, hpage, htruncated, hcandidates⟩ := longPolicy.searchRetrievalCandidates_eq_ok [1, 0] "v1"
    retrievalCandidateLimit (by decide) hconflicts
  refine ⟨hconflicts, page, hpage, htruncated, ?_⟩
  rw [hcandidates, ne_eq]
  intro heq
  have hcovered := (bindings_take_eq_iff (longPolicy.clauseRows_nodup _ _ _) _).mp heq
  rw [clauseRows_longPolicy] at hcovered
  exact not_covered_longClauses hcovered

theorem bounded_search_agrees_iff_refunds
    : ∃ page, longPolicy.searchRetrievalCandidates (refundRetrieval.context.search 10) [1, 0] "v1"
          retrievalCandidateLimit = .ok page
        ∧ ((page.truncated = true
              ∨ bindings refundRetrieval (lexicalRelevance "Is a refund paid?") page.candidates
                = bindings refundRetrieval (lexicalRelevance "Is a refund paid?")
                  ((longPolicy.clauseRows (refundRetrieval.context.search 10) [1, 0] "v1").map
                    fun row => row.ranked))
            ↔ Covered (lexicalRelevance "Is a refund paid?")
              ((longPolicy.clauseRows (refundRetrieval.context.search 10) [1, 0] "v1").take 64)
              ((longPolicy.clauseRows (refundRetrieval.context.search 10) [1, 0] "v1").drop 64)) :=
  bounded_search_agrees_iff longPolicy refundRetrieval 10 "Is a refund paid?" [1, 0] "v1"
    (by decide +kernel)

end Sample

end CaseResolution
