import CaseResolution.Retrieval.Lemmas.Fusion
import Mathlib.Data.List.Dedup

/-!
This module contains that fusion ranks the clauses of two rankings by their reciprocal ranks, whichever
ranking comes first, and that a diverse selection from it covers more than one policy.
-/

namespace CaseResolution

open Guard

namespace V2PolicyRetrieval

/--
The clauses of both rankings, each once and under the sum of its reciprocal ranks, in order.
-/
structure FusedFrom (dense lexical : List PolicyCandidateRecord) (ranked : List RankedClause)
    : Prop where
  once : (ranked.map fun item => item.clause.id).Nodup
  complete : ∀ clauseId, clauseId ∈ ranked.map (fun item => item.clause.id)
    ↔ ∃ candidate ∈ dense ++ lexical, ∃ clause ∈ candidate.clauses, clause.id = clauseId
  clause : ∀ item ∈ ranked, item.candidate ∈ dense ++ lexical ∧ item.candidate.clauses = [item.clause]
  ranks : ∀ item ∈ ranked, item.denseRank = clauseRank dense item.clause.id
    ∧ item.lexicalRank = clauseRank lexical item.clause.id
  score : ∀ item ∈ ranked, item.fusedScore
    = reciprocalRank (clauseRank dense item.clause.id) + reciprocalRank (clauseRank lexical item.clause.id)
  order : ranked.Pairwise RankedClause.before

/--
Items of two policies are ranked.
-/
def SeveralPolicies (ranked : List RankedClause) : Prop :=
  ∃ a ∈ ranked, ∃ b ∈ ranked, a.candidate.policyId ≠ b.candidate.policyId

/--
The selection is made of the first items, but of no more than two of a policy if there are several.
-/
structure DiverseSelection (ranked selected : List RankedClause) : Prop where
  subsequence : selected.Sublist ranked
  length : selected.length = min 3 ranked.length
  first : selected.head? = ranked.head?
  capped : SeveralPolicies ranked →
    ∀ policyId, (selected.countP fun item => item.candidate.policyId = policyId) ≤ 2
  diverse : SeveralPolicies ranked → SeveralPolicies selected

variable {dense lexical : List PolicyCandidateRecord}

theorem fusedFrom_fuseRankings (hdense : IsRanking dense) (hlexical : IsRanking lexical)
    {ranked : List RankedClause} (h : fuseRankings dense lexical = .ok ranked)
    : FusedFrom dense lexical ranked := by
  rw [fuseRankings_eq hdense hlexical, Except.ok.injEq] at h
  have hperm : ranked.Perm ((union dense lexical).map (fusedClause dense lexical)) := by
    rw [← h]
    exact List.perm_insertionSort _ _
  have hids : (ranked.map fun item => item.clause.id).Perm
      ((union dense lexical).map fun entry => entry.2.id) := by
    have hmap := hperm.map fun item : RankedClause => item.clause.id
    rw [List.map_map] at hmap
    exact hmap
  have hitem (item : RankedClause) (hmem : item ∈ ranked)
      : ∃ entry ∈ union dense lexical, fusedClause dense lexical entry = item :=
    List.mem_map.mp (hperm.mem_iff.mp hmem)
  constructor
  . exact hids.nodup_iff.mpr (nodup_union hdense hlexical)
  . intro clauseId
    rw [hids.mem_iff, mem_ids_union_iff, List.mem_map, List.mem_map]
    constructor
    . rintro (⟨entry, hentry, rfl⟩ | ⟨entry, hentry, rfl⟩)
      . obtain ⟨hcandidate, hclause⟩ := mem_entries_iff.mp hentry
        exact ⟨entry.1, List.mem_append_left _ hcandidate, entry.2, hclause, rfl⟩
      . obtain ⟨hcandidate, hclause⟩ := mem_entries_iff.mp hentry
        exact ⟨entry.1, List.mem_append_right _ hcandidate, entry.2, hclause, rfl⟩
    . rintro ⟨candidate, hcandidate, clause, hclause, rfl⟩
      rcases List.mem_append.mp hcandidate with hmem | hmem
      . exact .inl ⟨(candidate, clause), mem_entries_iff.mpr ⟨hmem, hclause⟩, rfl⟩
      . exact .inr ⟨(candidate, clause), mem_entries_iff.mpr ⟨hmem, hclause⟩, rfl⟩
  . intro item hmem
    obtain ⟨entry, hentry, rfl⟩ := hitem item hmem
    rcases mem_union_of_mem hentry with hlisted | hlisted
    . exact ⟨List.mem_append_left _ (mem_entries_iff.mp hlisted).1, hdense.clauses_entry hlisted⟩
    . exact ⟨List.mem_append_right _ (mem_entries_iff.mp hlisted).1, hlexical.clauses_entry hlisted⟩
  . intro item hmem
    obtain ⟨entry, _, rfl⟩ := hitem item hmem
    exact ⟨rfl, rfl⟩
  . intro item hmem
    obtain ⟨entry, _, rfl⟩ := hitem item hmem
    rfl
  . rw [← h]
    exact ordered _

/--
The policies of the ranking, counted as `selectDiverse` does.
-/
theorem policies_le_one_iff {ranked : List RankedClause}
    : ((ranked.map fun item => item.candidate.policyId).dedup).length ≤ 1 ↔ ¬ SeveralPolicies ranked := by
  have hnodup := List.nodup_dedup (ranked.map fun item => item.candidate.policyId)
  unfold SeveralPolicies
  simp only [not_exists, not_and, not_not]
  constructor
  . intro hle a ha b hb
    have hmem (item : RankedClause) (hitem : item ∈ ranked)
        : item.candidate.policyId ∈ (ranked.map fun item => item.candidate.policyId).dedup :=
      List.mem_dedup.mpr (List.mem_map_of_mem hitem)
    obtain ⟨policyId, hpolicy⟩ := List.length_eq_one_iff.mp
      (le_antisymm hle (List.length_pos_of_mem (hmem a ha)))
    have hA := hmem a ha
    have hB := hmem b hb
    rw [hpolicy, List.mem_singleton] at hA hB
    rw [hA, hB]
  . intro hall
    by_contra hlt
    rw [not_le] at hlt
    -- Two different policies of the list would be ranked by items of one policy.
    have hfirst := List.getElem_mem (Nat.lt_trans Nat.zero_lt_one hlt)
    have hsecond := List.getElem_mem hlt
    obtain ⟨a, ha, hafirst⟩ := List.mem_map.mp (List.mem_dedup.mp hfirst)
    obtain ⟨b, hb, hbsecond⟩ := List.mem_map.mp (List.mem_dedup.mp hsecond)
    have heq := hafirst.symm.trans ((hall a ha b hb).trans hbsecond)
    exact absurd ((hnodup.getElem_inj_iff).mp heq) (by omega)

theorem diverseSelection_selectDiverse (ranked : List RankedClause)
    : ∃ selected, selectDiverse ranked 3 2 = .ok selected ∧ DiverseSelection ranked selected := by
  refine ⟨_, rfl, ?_⟩
  rw [takeDiverse_eq]
  by_cases hseveral : SeveralPolicies ranked
  . rw [if_neg (fun hle => policies_le_one_iff.mp hle hseveral)]
    obtain ⟨a, ha, b, hb, hne⟩ := id hseveral
    constructor
    . exact Rankings.selectCapped_sublist _ _ _ _
    . exact Rankings.selectCapped_length_two_groups (by omega) (by omega) (by omega) ha hb hne
    . exact Rankings.selectCapped_head? _ _ _ (by omega)
    . intro _ policyId
      exact Rankings.members_selectCapped_le _ _ (by simp [Rankings.members])
    . intro _
      exact Rankings.selectCapped_two_groups (by omega) (by omega) ha hb hne
  . rw [if_pos (policies_le_one_iff.mpr hseveral)]
    constructor
    . exact Rankings.selectCapped_sublist _ _ _ _
    . apply Rankings.selectCapped_length_one_group (by omega)
      intro a ha b hb
      by_contra hne
      exact hseveral ⟨a, ha, b, hb, hne⟩
    . exact Rankings.selectCapped_head? _ _ _ (by omega)
    . exact fun h => absurd h hseveral
    . exact fun h => absurd h hseveral

end V2PolicyRetrieval

namespace Sample

open V2PolicyRetrieval

/--
Two policies for refunds with three clauses.
-/
def refundCatalog : PolicyCatalog where
  versions := [
    catalogVersion 0 "POL-1" [catalogClause 0 1 "A refund is paid within thirty days." [],
      catalogClause 1 2 "A refund takes a receipt." []],
    catalogVersion 1 "POL-2" [catalogClause 2 1 "A manager may waive the receipt." []]]
  policies_unique := by decide +kernel
  numbers_unique := by decide +kernel
  clauses_unique := by decide +kernel
  sequences_unique := by decide +kernel

def refundCandidates : List PolicyCandidateRecord :=
  refundCatalog.candidates

theorem isRanking_of_refundCandidates {ranking : List PolicyCandidateRecord}
    (hfound : ∀ candidate ∈ ranking, candidate ∈ refundCandidates)
    (hdistinct : (ranking.flatMap fun candidate => candidate.clauses.map fun clause => clause.id).Nodup)
    : IsRanking ranking where
  single candidate hcandidate := by
    obtain ⟨version, _, hclause⟩ := List.mem_flatMap.mp (hfound candidate hcandidate)
    obtain ⟨clause, _, rfl⟩ := List.mem_map.mp hclause
    exact ⟨clause.toCandidateClause, rfl⟩
  distinct := hdistinct

end Sample

end CaseResolution
