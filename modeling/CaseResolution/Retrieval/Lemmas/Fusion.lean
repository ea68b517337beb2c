import CaseResolution.Lib.Guard
import CaseResolution.Lib.Rankings
import CaseResolution.Policies.Lemmas.Reachable
import CaseResolution.Retrieval.Impl.Search
import Mathlib.Algebra.Order.Ring.Rat
import Mathlib.Data.List.Pairwise
import Mathlib.Data.Prod.Lex

/-!
This module contains what has been accumulated for two rankings of clauses, and the order in which it is
listed.
-/

namespace CaseResolution

open Guard

namespace V2PolicyRetrieval

/--
A ranking lists clauses one by one and none of them twice.
-/
structure IsRanking (ranking : List PolicyCandidateRecord) : Prop where
  single : ∀ candidate ∈ ranking, ∃ clause, candidate.clauses = [clause]
  distinct : (ranking.flatMap fun candidate => candidate.clauses.map fun clause => clause.id).Nodup

/--
The rank of a clause in a ranking, from 1.
-/
def clauseRank (ranking : List PolicyCandidateRecord) (clauseId : Nat) : Option Nat :=
  Rankings.rank (fun candidate => candidate.clauses.any fun clause => clause.id = clauseId) 1 ranking

/--
What a ranking contributes to the score of a clause of that rank.
-/
def reciprocalRank : Option Nat → Rat
  | some rank => 1 / ((rrfConstant + rank : Nat) : Rat)
  | none => 0

/--
The clause of a candidate with its ranks in two rankings.
-/
def fusedClause (dense lexical : List PolicyCandidateRecord)
    (entry : PolicyCandidateRecord × CandidateClause) : RankedClause where
  candidate := entry.1
  clause := entry.2
  denseRank := clauseRank dense entry.2.id
  lexicalRank := clauseRank lexical entry.2.id
  fusedScore := reciprocalRank (clauseRank dense entry.2.id)
    + reciprocalRank (clauseRank lexical entry.2.id)

/--
The clauses of the candidates, each with its candidate.
-/
def entries (ranking : List PolicyCandidateRecord) : List (PolicyCandidateRecord × CandidateClause) :=
  ranking.flatMap fun candidate => candidate.clauses.map fun clause => (candidate, clause)

/--
The clauses of both rankings, those that both list once.
-/
def union (dense lexical : List PolicyCandidateRecord)
    : List (PolicyCandidateRecord × CandidateClause) :=
  entries dense ++ (entries lexical).filter fun entry =>
    entry.2.id ∉ (entries dense).map fun other => other.2.id

section Accumulate

/--
A clause of which nothing has been accumulated.
-/
def blank (entry : PolicyCandidateRecord × CandidateClause) : RankedClause where
  candidate := entry.1
  clause := entry.2
  denseRank := none
  lexicalRank := none
  fusedScore := 0

/--
Add the rank if there is one.
-/
def RankedClause.addRank (source : RankingSource) (item : RankedClause) : Option Nat → RankedClause
  | some rank => item.add source rank
  | none => item

@[simp]
theorem RankedClause.add_clause (item : RankedClause) (source : RankingSource) (rank : Nat)
    : (item.add source rank).clause = item.clause := by
  cases source <;> rfl

@[simp]
theorem RankedClause.addRank_clause (item : RankedClause) (source : RankingSource) (rank : Option Nat)
    : (item.addRank source rank).clause = item.clause := by
  cases rank with
  | none => rfl
  | some rank => exact RankedClause.add_clause item source rank

/--
The rank of a clause, where ranks are counted from `start`.
-/
def rankFrom (start : Nat) (listed : List (PolicyCandidateRecord × CandidateClause)) (clauseId : Nat)
    : Option Nat :=
  Rankings.rank (fun entry => entry.2.id = clauseId) start listed

theorem rankFrom_cons {start clauseId : Nat} {entry : PolicyCandidateRecord × CandidateClause}
    {listed : List (PolicyCandidateRecord × CandidateClause)}
    : rankFrom start (entry :: listed) clauseId
        = if entry.2.id = clauseId then some start else rankFrom (start + 1) listed clauseId := by
  unfold rankFrom
  rw [Rankings.rank_cons]
  simp

theorem rankFrom_eq_none {start clauseId : Nat} {listed : List (PolicyCandidateRecord × CandidateClause)}
    (h : clauseId ∉ listed.map fun entry => entry.2.id) : rankFrom start listed clauseId = none := by
  unfold rankFrom
  rw [Rankings.rank_eq_none_iff]
  intro entry hentry
  rw [decide_eq_false_iff_not]
  rintro rfl
  exact h (List.mem_map_of_mem hentry)

/--
What is accumulated from a ranking: every clause listed before or now, with its rank added.
-/
def accumulated (source : RankingSource) (start : Nat)
    (listed : List (PolicyCandidateRecord × CandidateClause)) (target : List RankedClause)
    : List RankedClause :=
  (target ++ (listed.filter fun entry =>
    entry.2.id ∉ target.map fun item => item.clause.id).map blank).map fun item =>
      item.addRank source (rankFrom start listed item.clause.id)

/--
The items of the target with the rank of one more clause, which is added to them if it is new.
-/
def listedNext (source : RankingSource) (rank : Nat) (entry : PolicyCandidateRecord × CandidateClause)
    (target : List RankedClause) : List RankedClause :=
  if entry.2.id ∈ target.map fun item => item.clause.id then
    target.map fun item => if item.clause.id = entry.2.id then item.add source rank else item
  else
    target ++ [(blank entry).add source rank]

theorem accumulateItem_eq {source : RankingSource} {rank : Nat} {target : List RankedClause}
    {entry : PolicyCandidateRecord × CandidateClause} (h : entry.1.clauses = [entry.2])
    : accumulateItem target source rank entry.1 = .ok (listedNext source rank entry target) := by
  have hlisted : (target.any fun item => item.clause.id = entry.2.id) = true
      ↔ entry.2.id ∈ target.map fun item => item.clause.id := by
    simp [List.any_eq_true]
  unfold accumulateItem listedNext
  rw [h]
  by_cases hmem : entry.2.id ∈ target.map fun item => item.clause.id
  . simp only [hlisted.mpr hmem, if_pos hmem, if_true]
    rfl
  . have hnone := mt hlisted.mp hmem
    simp only [hnone, if_neg hmem]
    rfl

theorem accumulated_cons {source : RankingSource} {start : Nat}
    {entry : PolicyCandidateRecord × CandidateClause}
    {listed : List (PolicyCandidateRecord × CandidateClause)} {target : List RankedClause}
    (hentry : entry.2.id ∉ listed.map fun other => other.2.id)
    : accumulated source start (entry :: listed) target
        = accumulated source (start + 1) listed (listedNext source start entry target) := by
  have hlater (item : RankedClause) (h : entry.2.id ≠ item.clause.id)
      : rankFrom start (entry :: listed) item.clause.id = rankFrom (start + 1) listed item.clause.id := by
    rw [rankFrom_cons, if_neg h]
  have hnow (item : RankedClause) (h : entry.2.id = item.clause.id)
      : rankFrom start (entry :: listed) item.clause.id = some start
        ∧ rankFrom (start + 1) listed item.clause.id = none := by
    rw [rankFrom_cons, if_pos h]
    exact ⟨rfl, rankFrom_eq_none (h ▸ hentry)⟩
  unfold accumulated listedNext
  by_cases hmem : entry.2.id ∈ target.map fun item => item.clause.id
  . have hids : ((target.map fun item =>
        if item.clause.id = entry.2.id then item.add source start else item).map
          fun item => item.clause.id) = target.map fun item => item.clause.id := by
      rw [List.map_map]
      apply List.map_congr_left
      intro item _
      simp only [Function.comp_apply]
      split <;> simp
    rw [if_pos hmem, hids, List.filter_cons_of_neg (by simpa using hmem), List.map_append,
      List.map_append]
    congr 1
    . rw [List.map_map]
      apply List.map_congr_left
      intro item _
      simp only [Function.comp_apply]
      by_cases hitem : item.clause.id = entry.2.id
      . rw [if_pos hitem, RankedClause.add_clause, (hnow item hitem.symm).1, (hnow item hitem.symm).2]
        rfl
      . rw [if_neg hitem, hlater item (fun h => hitem h.symm)]
    . -- Clauses that are new after the target are none of the target's.
      apply List.map_congr_left
      intro item hitem
      obtain ⟨other, hother, rfl⟩ := List.mem_map.mp hitem
      have hnew := of_decide_eq_true (List.mem_filter.mp hother).2
      rw [hlater]
      intro heq
      exact hnew (by rw [show other.2.id = entry.2.id from heq.symm]; exact hmem)
  . have hfilter : (listed.filter fun other => other.2.id ∉
        (target ++ [(blank entry).add source start]).map fun item => item.clause.id)
          = listed.filter fun other => other.2.id ∉ target.map fun item => item.clause.id := by
      apply List.filter_congr
      intro other hother
      have hne : other.2.id ≠ entry.2.id := by
        intro heq
        exact hentry (heq ▸ List.mem_map_of_mem hother)
      simp [blank, hne]
    rw [if_neg hmem, hfilter, List.filter_cons_of_pos (by simpa using hmem), List.map_cons,
      List.map_append, List.map_append, List.map_append, List.append_assoc]
    congr 1
    . apply List.map_congr_left
      intro item hitem
      rw [hlater]
      intro heq
      exact hmem (heq ▸ List.mem_map_of_mem hitem)
    . rw [List.map_cons, List.map_singleton, List.singleton_append]
      congr 1
      . rw [RankedClause.add_clause, (hnow (blank entry) rfl).1, (hnow (blank entry) rfl).2]
        rfl
      . apply List.map_congr_left
        intro item hitem
        obtain ⟨other, hother, rfl⟩ := List.mem_map.mp hitem
        rw [hlater]
        intro heq
        exact hentry (List.mem_map.mpr ⟨other, (List.mem_filter.mp hother).1, heq.symm⟩)

theorem accumulate_eq (source : RankingSource) (start : Nat) (target : List RankedClause)
    {listed : List (PolicyCandidateRecord × CandidateClause)}
    (hsingle : ∀ entry ∈ listed, entry.1.clauses = [entry.2])
    (hdistinct : (listed.map fun entry => entry.2.id).Nodup)
    : accumulate source (listed.map Prod.fst) start target
        = .ok (accumulated source start listed target) := by
  induction listed generalizing start target with
  | nil =>
    have hrank (item : RankedClause) : rankFrom start [] item.clause.id = none := rfl
    simp [accumulate, accumulated, hrank, RankedClause.addRank]
  | cons entry listed ih =>
    rw [List.map_cons, List.nodup_cons] at hdistinct
    rw [List.map_cons, accumulate, accumulateItem_eq (hsingle entry List.mem_cons_self),
      accumulated_cons hdistinct.1]
    exact ih _ _ (fun other hother => hsingle other (List.mem_cons_of_mem _ hother)) hdistinct.2

end Accumulate

section Order

/--
Where an item is listed: by its score, then by its policy, the newest version first, and by its clause.
-/
def RankedClause.place (item : RankedClause)
    : OrderDual Rat ×ₗ String ×ₗ OrderDual Nat ×ₗ Nat :=
  toLex (OrderDual.toDual item.fusedScore, toLex (item.candidate.policyPublicId,
    toLex (OrderDual.toDual item.candidate.version, item.clause.sequence)))

theorem RankedClause.before_iff {a b : RankedClause} : a.before b ↔ a.place ≤ b.place := by
  unfold RankedClause.before RankedClause.place
  simp only [Prod.Lex.toLex_le_toLex, OrderDual.toDual_lt_toDual, EmbeddingLike.apply_eq_iff_eq]

theorem before_total (a b : RankedClause) : a.before b ∨ b.before a := by
  rw [RankedClause.before_iff, RankedClause.before_iff]
  exact le_total _ _

theorem before_trans (a b c : RankedClause) (hab : a.before b) (hbc : b.before c) : a.before c := by
  rw [RankedClause.before_iff] at *
  exact le_trans hab hbc

theorem ordered (l : List RankedClause)
    : (l.insertionSort RankedClause.before).Pairwise RankedClause.before := by
  have : Std.Total RankedClause.before := ⟨before_total⟩
  have : IsTrans RankedClause RankedClause.before := ⟨before_trans⟩
  exact List.pairwise_insertionSort _ l

/--
Items that come before each other are listed at the same place.
-/
theorem before_antisymm {a b : RankedClause} (hab : a.before b) (hba : b.before a)
    : a.candidate.policyPublicId = b.candidate.policyPublicId
        ∧ a.candidate.version = b.candidate.version ∧ a.clause.sequence = b.clause.sequence := by
  rw [RankedClause.before_iff] at hab hba
  have hplace := le_antisymm hab hba
  unfold RankedClause.place at hplace
  simp only [EmbeddingLike.apply_eq_iff_eq, Prod.mk.injEq] at hplace
  exact hplace.2

end Order

section Fuse

variable {dense lexical : List PolicyCandidateRecord}

theorem mem_entries_iff {ranking : List PolicyCandidateRecord}
    {entry : PolicyCandidateRecord × CandidateClause}
    : entry ∈ entries ranking ↔ entry.1 ∈ ranking ∧ entry.2 ∈ entry.1.clauses := by
  unfold entries
  rw [List.mem_flatMap]
  constructor
  . rintro ⟨candidate, hcandidate, hentry⟩
    obtain ⟨clause, hclause, rfl⟩ := List.mem_map.mp hentry
    exact ⟨hcandidate, hclause⟩
  . rintro ⟨hcandidate, hclause⟩
    exact ⟨entry.1, hcandidate, List.mem_map.mpr ⟨entry.2, hclause, rfl⟩⟩

namespace IsRanking

variable {ranking : List PolicyCandidateRecord} (h : IsRanking ranking)

include h

theorem clauses_entry {entry : PolicyCandidateRecord × CandidateClause} (hentry : entry ∈ entries ranking)
    : entry.1.clauses = [entry.2] := by
  obtain ⟨hcandidate, hclause⟩ := mem_entries_iff.mp hentry
  obtain ⟨clause, hsingle⟩ := h.single entry.1 hcandidate
  rw [hsingle, List.mem_singleton] at hclause
  rw [hsingle, hclause]

theorem map_fst_entries : (entries ranking).map Prod.fst = ranking := by
  have hsingle := h.single
  clear h
  induction ranking with
  | nil => rfl
  | cons candidate ranking ih =>
    obtain ⟨clause, hclause⟩ := hsingle candidate List.mem_cons_self
    specialize ih fun other hother => hsingle other (List.mem_cons_of_mem _ hother)
    simp only [entries, List.flatMap_cons, hclause, List.map_cons, List.map_nil, List.cons_append,
      List.nil_append] at ih ⊢
    rw [ih]

theorem nodup_entries : ((entries ranking).map fun entry => entry.2.id).Nodup := by
  have heq : ((entries ranking).map fun entry => entry.2.id)
      = ranking.flatMap fun candidate => candidate.clauses.map fun clause => clause.id := by
    unfold entries
    rw [List.map_flatMap]
    congr 1
    funext candidate
    rw [List.map_map]
    rfl
  rw [heq]
  exact h.distinct

theorem clauseRank_eq (clauseId : Nat)
    : clauseRank ranking clauseId = rankFrom 1 (entries ranking) clauseId := by
  have hsingle := h.single
  clear h
  unfold clauseRank
  generalize 1 = start
  induction ranking generalizing start with
  | nil => rfl
  | cons candidate ranking ih =>
    obtain ⟨clause, hclause⟩ := hsingle candidate List.mem_cons_self
    specialize ih (fun other hother => hsingle other (List.mem_cons_of_mem _ hother)) (start + 1)
    have hentries : entries (candidate :: ranking) = (candidate, clause) :: entries ranking := by
      simp [entries, hclause]
    rw [Rankings.rank_cons, hentries, rankFrom_cons, ih, hclause]
    simp

end IsRanking

/--
What is accumulated for two rankings: the clauses of both with their ranks.
-/
theorem accumulated_eq (hdense : IsRanking dense) (hlexical : IsRanking lexical)
    : accumulated .lexical 1 (entries lexical) (accumulated .dense 1 (entries dense) [])
        = (union dense lexical).map (fusedClause dense lexical) := by
  have hblank (entry : PolicyCandidateRecord × CandidateClause)
      : ((blank entry).addRank .dense (clauseRank dense entry.2.id)).addRank .lexical
          (clauseRank lexical entry.2.id) = fusedClause dense lexical entry := by
    cases hd : clauseRank dense entry.2.id <;> cases hl : clauseRank lexical entry.2.id
      <;> simp [blank, fusedClause, RankedClause.addRank, RankedClause.add, reciprocalRank, hd, hl]
  have hfirst : accumulated .dense 1 (entries dense) []
      = (entries dense).map fun entry => (blank entry).addRank .dense (clauseRank dense entry.2.id) := by
    simp only [accumulated, List.nil_append, List.map_nil, List.not_mem_nil, not_false_eq_true,
      decide_true, List.filter_true, List.map_map, hdense.clauseRank_eq]
    rfl
  have hids : ((accumulated .dense 1 (entries dense) []).map fun item => item.clause.id)
      = (entries dense).map fun entry => entry.2.id := by
    rw [hfirst, List.map_map]
    simp only [Function.comp_def, RankedClause.addRank_clause]
    rfl
  rw [accumulated, hids, hfirst, union, List.map_append, List.map_append, List.map_map, List.map_map]
  congr 1
  . apply List.map_congr_left
    intro entry _
    simp only [Function.comp_apply, RankedClause.addRank_clause]
    rw [← hblank, ← hlexical.clauseRank_eq]
    rfl
  . apply List.map_congr_left
    intro entry hentry
    have hnew := of_decide_eq_true (List.mem_filter.mp hentry).2
    simp only [Function.comp_apply]
    rw [← hblank, ← hlexical.clauseRank_eq, hdense.clauseRank_eq, rankFrom_eq_none hnew]
    rfl

/--
Fusion lists the clauses of both rankings with their ranks, in order.
-/
theorem fuseRankings_eq (hdense : IsRanking dense) (hlexical : IsRanking lexical)
    : fuseRankings dense lexical = .ok
        (((union dense lexical).map (fusedClause dense lexical)).insertionSort RankedClause.before) := by
  have hd := accumulate_eq .dense 1 [] (fun _ hentry => hdense.clauses_entry hentry)
    hdense.nodup_entries
  have hl := accumulate_eq .lexical 1 (accumulated .dense 1 (entries dense) [])
    (fun _ hentry => hlexical.clauses_entry hentry) hlexical.nodup_entries
  rw [hdense.map_fst_entries] at hd
  rw [hlexical.map_fst_entries, accumulated_eq hdense hlexical] at hl
  unfold fuseRankings
  simp only [hd, bind, Except.bind, hl]
  rfl

theorem nodup_union (hdense : IsRanking dense) (hlexical : IsRanking lexical)
    : ((union dense lexical).map fun entry => entry.2.id).Nodup := by
  unfold union
  rw [List.map_append, List.nodup_append]
  refine ⟨hdense.nodup_entries, hlexical.nodup_entries.sublist (List.filter_sublist.map _), ?_⟩
  intro clauseId hclauseId other hother heq
  obtain ⟨entry, hentry, rfl⟩ := List.mem_map.mp hother
  have hnew := of_decide_eq_true (List.mem_filter.mp hentry).2
  exact hnew (heq ▸ hclauseId)

theorem mem_union_of_mem {entry : PolicyCandidateRecord × CandidateClause}
    (h : entry ∈ union dense lexical) : entry ∈ entries dense ∨ entry ∈ entries lexical := by
  unfold union at h
  rcases List.mem_append.mp h with hmem | hmem
  . exact .inl hmem
  . exact .inr (List.mem_filter.mp hmem).1

theorem mem_ids_union_iff {clauseId : Nat}
    : clauseId ∈ (union dense lexical).map (fun entry => entry.2.id)
        ↔ clauseId ∈ (entries dense).map (fun entry => entry.2.id)
          ∨ clauseId ∈ (entries lexical).map fun entry => entry.2.id := by
  unfold union
  rw [List.map_append, List.mem_append]
  constructor
  . rintro (hmem | hmem)
    . exact .inl hmem
    . exact .inr ((List.filter_sublist.map _).subset hmem)
  . rintro (hmem | hmem)
    . exact .inl hmem
    . by_cases hlisted : clauseId ∈ (entries dense).map fun entry => entry.2.id
      . exact .inl hlisted
      . obtain ⟨entry, hentry, rfl⟩ := List.mem_map.mp hmem
        refine .inr (List.mem_map.mpr ⟨entry, List.mem_filter.mpr ⟨hentry, ?_⟩, rfl⟩)
        exact decide_eq_true hlisted

end Fuse

section Exchange

variable {dense lexical : List PolicyCandidateRecord}

/--
The rankings list clauses of one collection: a clause is listed in both with one candidate, and the
place of a clause in the order is its own.
-/
structure Agree (dense lexical : List PolicyCandidateRecord) : Prop where
  clauses : ∀ a ∈ entries dense, ∀ b ∈ entries lexical, a.2.id = b.2.id → a = b
  places : ∀ a ∈ entries dense ++ entries lexical, ∀ b ∈ entries dense ++ entries lexical,
    a.1.policyPublicId = b.1.policyPublicId → a.1.version = b.1.version → a.2.sequence = b.2.sequence →
      a = b

/--
The item with its two ranks exchanged.
-/
def RankedClause.exchanged (item : RankedClause) : RankedClause :=
  { item with denseRank := item.lexicalRank, lexicalRank := item.denseRank }

theorem exchanged_fusedClause (entry : PolicyCandidateRecord × CandidateClause)
    : (fusedClause dense lexical entry).exchanged = fusedClause lexical dense entry := by
  unfold RankedClause.exchanged fusedClause
  simp only [add_comm]

theorem Agree.mem_union_iff (h : Agree dense lexical) {entry : PolicyCandidateRecord × CandidateClause}
    : entry ∈ union dense lexical ↔ entry ∈ entries dense ∨ entry ∈ entries lexical := by
  constructor
  . exact mem_union_of_mem
  . intro hmem
    have hid : entry.2.id ∈ (union dense lexical).map fun other => other.2.id := by
      rw [mem_ids_union_iff]
      exact hmem.imp (fun hmem => List.mem_map_of_mem hmem) fun hmem => List.mem_map_of_mem hmem
    unfold union at hid ⊢
    rw [List.mem_append]
    by_cases hlisted : entry.2.id ∈ (entries dense).map fun other => other.2.id
    . obtain ⟨other, hother, heq⟩ := List.mem_map.mp hlisted
      rcases hmem with hmem | hmem
      . exact .inl hmem
      . rw [← h.clauses other hother entry hmem heq]
        exact .inl hother
    . rcases hmem with hmem | hmem
      . exact .inl hmem
      . exact .inr (List.mem_filter.mpr ⟨hmem, decide_eq_true hlisted⟩)

theorem Agree.symm (h : Agree dense lexical) : Agree lexical dense where
  clauses a ha b hb heq := (h.clauses b hb a ha heq.symm).symm
  places a ha b hb := by
    apply h.places
    . exact List.mem_append.mpr (List.mem_append.mp ha).symm
    . exact List.mem_append.mpr (List.mem_append.mp hb).symm

theorem Agree.perm (h : Agree dense lexical) (hdense : IsRanking dense) (hlexical : IsRanking lexical)
    : (union dense lexical).Perm (union lexical dense) := by
  rw [List.perm_ext_iff_of_nodup (nodup_union hdense hlexical).of_map
    (nodup_union hlexical hdense).of_map]
  intro entry
  rw [h.mem_union_iff, h.symm.mem_union_iff, or_comm]

/--
Exchanging two rankings of one collection exchanges the ranks in the fusion.
-/
theorem fuseRankings_exchange (h : Agree dense lexical) (hdense : IsRanking dense)
    (hlexical : IsRanking lexical) {ranked : List RankedClause}
    (hranked : fuseRankings dense lexical = .ok ranked)
    : fuseRankings lexical dense = .ok (ranked.map RankedClause.exchanged) := by
  rw [fuseRankings_eq hdense hlexical, Except.ok.injEq] at hranked
  rw [fuseRankings_eq hlexical hdense, ← hranked, Except.ok.injEq]
  have hmap : ((union dense lexical).map (fusedClause dense lexical)).map RankedClause.exchanged
      = (union dense lexical).map (fusedClause lexical dense) := by
    rw [List.map_map]
    apply List.map_congr_left
    intro entry _
    exact exchanged_fusedClause entry
  rw [List.map_insertionSort RankedClause.before RankedClause.before RankedClause.exchanged _
    (fun _ _ _ _ => Iff.rfl), hmap]
  apply Rankings.insertionSort_eq_of_perm before_total before_trans
  . exact (h.perm hdense hlexical).symm.map _
  . intro a ha b hb hab hba
    obtain ⟨entry, hentry, rfl⟩ := List.mem_map.mp ha
    obtain ⟨other, hother, rfl⟩ := List.mem_map.mp hb
    obtain ⟨hpolicy, hversion, hsequence⟩ := before_antisymm hab hba
    have hentries := List.mem_append.mpr (mem_union_of_mem hentry).symm
    have hothers := List.mem_append.mpr (mem_union_of_mem hother).symm
    rw [h.places entry hentries other hothers hpolicy hversion hsequence]

end Exchange

theorem takeDiverse_eq {limit policyLimit : Nat} {ranked selected : List RankedClause}
    : takeDiverse limit policyLimit ranked selected
        = Rankings.selectCapped (fun item => item.candidate.policyId) limit policyLimit ranked
          selected := by
  induction ranked generalizing selected with
  | nil => rfl
  | cons item ranked ih =>
    unfold takeDiverse Rankings.selectCapped
    rw [ih, ih]
    rfl

end V2PolicyRetrieval

namespace PolicyCatalog

variable {catalog : PolicyCatalog}

/--
The candidates that a search may find, one for each clause.
-/
def candidates (catalog : PolicyCatalog) : List PolicyCandidateRecord :=
  catalog.versions.flatMap fun version => version.clauses.map version.candidate

theorem eq_of_clause_id {v w : CatalogVersion} {c d : CatalogClause} (hv : v ∈ catalog.versions)
    (hw : w ∈ catalog.versions) (hc : c ∈ v.clauses) (hd : d ∈ w.clauses) (h : c.id = d.id)
    : v = w ∧ c = d := by
  obtain ⟨hwithin, hacross⟩ := List.nodup_flatMap.mp catalog.clauses_unique
  have hversion : v = w := by
    by_contra hne
    have : Std.Symm (Function.onFun List.Disjoint fun v : CatalogVersion =>
        v.clauses.map fun clause => clause.id) := ⟨fun _ _ h _ hx hy => h hy hx⟩
    have hdisjoint := hacross.forall hv hw hne
    exact hdisjoint (List.mem_map_of_mem hc) (h ▸ List.mem_map_of_mem hd)
  subst hversion
  exact ⟨rfl, List.inj_on_of_nodup_map (hwithin v hv) hc hd h⟩

theorem eq_of_place {v w : CatalogVersion} {c d : CatalogClause} (hv : v ∈ catalog.versions)
    (hw : w ∈ catalog.versions) (hc : c ∈ v.clauses) (hd : d ∈ w.clauses)
    (hpolicy : v.policyPublicId = w.policyPublicId) (hnumber : v.row.version = w.row.version)
    (hsequence : c.sequence = d.sequence) : v = w ∧ c = d := by
  have hid : v.policyId = w.policyId := (catalog.policies_unique v hv w hw).mpr hpolicy
  have hversion : v = w := by
    apply List.inj_on_of_nodup_map catalog.numbers_unique hv hw
    rw [hid, hnumber]
  subst hversion
  exact ⟨rfl, List.inj_on_of_nodup_map (catalog.sequences_unique v hv) hc hd hsequence⟩

/--
The unique constraints let the rankings of one search agree on their clauses.
-/
theorem agree_of_found {dense lexical : List PolicyCandidateRecord}
    (h : ∀ candidate ∈ dense ++ lexical, candidate ∈ catalog.candidates)
    : V2PolicyRetrieval.Agree dense lexical := by
  have hrows (entry : PolicyCandidateRecord × CandidateClause)
      (hentry : entry ∈ V2PolicyRetrieval.entries dense ++ V2PolicyRetrieval.entries lexical)
      : ∃ v ∈ catalog.versions, ∃ c ∈ v.clauses, entry = (v.candidate c, c.toCandidateClause) := by
    have hfound : entry.1 ∈ dense ++ lexical ∧ entry.2 ∈ entry.1.clauses := by
      rcases List.mem_append.mp hentry with hmem | hmem
      . obtain ⟨hcandidate, hclause⟩ := V2PolicyRetrieval.mem_entries_iff.mp hmem
        exact ⟨List.mem_append_left _ hcandidate, hclause⟩
      . obtain ⟨hcandidate, hclause⟩ := V2PolicyRetrieval.mem_entries_iff.mp hmem
        exact ⟨List.mem_append_right _ hcandidate, hclause⟩
    obtain ⟨v, hv, hcandidate⟩ := List.mem_flatMap.mp (h entry.1 hfound.1)
    obtain ⟨c, hc, heq⟩ := List.mem_map.mp hcandidate
    have hclause := hfound.2
    rw [← heq] at hclause
    refine ⟨v, hv, c, hc, Prod.ext heq.symm ?_⟩
    exact List.mem_singleton.mp hclause
  constructor
  . intro a ha b hb hid
    obtain ⟨v, hv, c, hc, rfl⟩ := hrows a (List.mem_append_left _ ha)
    obtain ⟨w, hw, d, hd, rfl⟩ := hrows b (List.mem_append_right _ hb)
    obtain ⟨rfl, rfl⟩ := eq_of_clause_id hv hw hc hd hid
    rfl
  . intro a ha b hb hpolicy hversion hsequence
    obtain ⟨v, hv, c, hc, rfl⟩ := hrows a ha
    obtain ⟨w, hw, d, hd, rfl⟩ := hrows b hb
    obtain ⟨rfl, rfl⟩ := eq_of_place hv hw hc hd hpolicy hversion hsequence
    rfl

end PolicyCatalog

namespace Sample

def catalogClause (id sequence : Nat) (text : String) (embedding : List Rat) : CatalogClause where
  id := id
  sequence := sequence
  text := text
  heading := "Policy terms"
  appliesWhen := "Scope refunds"
  contentHash := text
  embedding := embedding
  embeddingVersion := "v1"

/--
A published version of a policy for refunds.
-/
def catalogVersion (policyId : Nat) (publicId : String) (clauses : List CatalogClause) : CatalogVersion where
  policyId := policyId
  policyPublicId := publicId
  versionId := policyId
  row := {
    recordVersion := 1
    immutable := true
    contentHash := "content"
    status := .published
    effectiveFrom := none
    effectiveTo := none
    version := 1
    sourceText := "The terms of a refund."
    applicability := refunds
    clauses := clauses.map fun clause => clause.toPolicyClause
    createdBy := "MB-9"
    submittedAt := some 1
    publishedAt := some 2
    retiredAt := none }
  clauses := clauses
  clauses_row := rfl

end Sample

end CaseResolution
