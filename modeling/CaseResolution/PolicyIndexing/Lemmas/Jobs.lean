import CaseResolution.PolicyIndexing.Impl.Service

/-!
This module contains what the transactions of policy indexing leave alone, and that a claimed page whose
vectors are valid is persisted as a whole.
-/

namespace CaseResolution

open Guard

namespace PolicyIndexStore

variable {s t u : PolicyIndexStore} {profileKey : String} {profileId : Nat}
  {profile : EmbeddingProfile}

theorem requiredProfile_eq_ok
    : s.requiredProfile profileKey = .ok (profileId, profile)
      ↔ s.profiles.findIdx? (fun profile => profile.profileKey = profileKey
          ∧ profile.status ≠ .retired ∧ profile.status ≠ .failed) = some profileId
        ∧ s.profiles[profileId]? = some profile := by
  unfold requiredProfile
  simp only [bind_eq_ok, orThrow_eq_ok, pure_eq_ok, Prod.mk.injEq]
  constructor
  . rintro ⟨_, hfound, _, hstored, rfl, rfl⟩
    exact ⟨hfound, hstored⟩
  . rintro ⟨hfound, hstored⟩
    exact ⟨profileId, hfound, profile, hstored, rfl, rfl⟩

/--
What no transaction changes: the clauses, the versions, and which profile the key names.
-/
structure Keeps (s t : PolicyIndexStore) (profileKey : String) : Prop where
  clauses : t.clauses = s.clauses
  versions : t.versions = s.versions
  profile : ∀ profileId profile, s.requiredProfile profileKey = .ok (profileId, profile)
    → ∃ kept, t.requiredProfile profileKey = .ok (profileId, kept)
      ∧ kept.dimensions = profile.dimensions

namespace Keeps

theorem refl (s : PolicyIndexStore) (profileKey : String) : s.Keeps s profileKey where
  clauses := rfl
  versions := rfl
  profile _ profile h := ⟨profile, h, rfl⟩

theorem trans (hst : s.Keeps t profileKey) (htu : t.Keeps u profileKey) : s.Keeps u profileKey where
  clauses := htu.clauses.trans hst.clauses
  versions := htu.versions.trans hst.versions
  profile := by
    intro profileId profile h
    obtain ⟨kept, hkept, hdimensions⟩ := hst.profile profileId profile h
    obtain ⟨last, hlast, hdimensions'⟩ := htu.profile profileId kept hkept
    exact ⟨last, hlast, hdimensions'.trans hdimensions⟩

/--
Writing jobs and embeddings keeps all of it.
-/
theorem of_eq (hclauses : t.clauses = s.clauses) (hversions : t.versions = s.versions)
    (hprofiles : t.profiles = s.profiles) : s.Keeps t profileKey where
  clauses := hclauses
  versions := hversions
  profile := by
    intro profileId profile h
    refine ⟨profile, ?_, rfl⟩
    rw [requiredProfile_eq_ok] at h ⊢
    rwa [hprofiles]

/--
A profile in use stays in use when its clauses are counted.
-/
theorem refreshProfileCounts (now : Instant)
    (h : s.requiredProfile profileKey = .ok (profileId, profile))
    : s.Keeps (s.refreshProfileCounts now profileId profile) profileKey where
  clauses := rfl
  versions := rfl
  profile := by
    intro profileId' profile' h'
    rw [h, Except.ok.injEq, Prod.mk.injEq] at h'
    obtain ⟨rfl, rfl⟩ := h'
    rw [requiredProfile_eq_ok] at h
    obtain ⟨found, hfound, hinuse⟩ := Rows.exists_of_findIdx? h.1
    obtain rfl : profile = found := Option.some.inj (h.2.symm.trans hfound)
    simp only [decide_eq_true_eq] at hinuse
    have hlt := (List.getElem?_eq_some_iff.mp h.2).1
    unfold PolicyIndexStore.refreshProfileCounts setProfile
    simp only [requiredProfile_eq_ok, List.getElem?_set_self hlt]
    refine ⟨_, ⟨Rows.findIdx?_set h.1 ?_, rfl⟩, ?_⟩
    . simp only [decide_eq_true_eq]
      split
      . split <;> simp [hinuse]
      . split <;> simp [hinuse]
    . split
      . split <;> rfl
      . split <;> rfl

end Keeps

/--
The job is still the one that was added for its version, tried as often as before.
-/
def SameJob (a b : PolicyIndexJob) : Prop :=
  b.policyVersionId = a.policyVersionId ∧ b.profileId = a.profileId ∧ b.attemptCount = a.attemptCount

/--
Giving up lost workers changes none of the jobs that wait.
-/
structure Swept (s t : PolicyIndexStore) (profileKey : String) : Prop extends
    s.Keeps t profileKey where
  embeddings : t.embeddings = s.embeddings
  jobs : Rows.Updates SameJob s.jobs t.jobs
  waiting : ∀ (i : Nat) (job : PolicyIndexJob), s.jobs[i]? = some job → job.status ≠ .running
    → t.jobs[i]? = some job

theorem exhaustedJob_eq_some {now : Instant} {maxAttempts i : Nat} {job : PolicyIndexJob}
    (h : s.exhaustedJob now profileId maxAttempts = some (i, job))
    : s.jobs[i]? = some job ∧ job.isExhausted profileId now maxAttempts = true := by
  have hmem := (List.mem_insertionSort _).mp (List.mem_of_mem_head? h)
  unfold jobRows at hmem
  rw [List.mem_filter] at hmem
  exact ⟨Rows.mem_numbered.mp hmem.1, hmem.2⟩

theorem sweepExhausted_swept (now : Instant) (maxAttempts : Nat)
    (h : s.requiredProfile profileKey = .ok (profileId, profile))
    : s.Swept (s.sweepExhausted now profileId maxAttempts profile) profileKey := by
  have hsame : ∀ a : PolicyIndexJob, SameJob a a := fun _ => ⟨rfl, rfl, rfl⟩
  unfold sweepExhausted
  split
  . next i job hexhausted =>
    obtain ⟨hjob, hlost⟩ := exhaustedJob_eq_some hexhausted
    have hstored : (s.setJob i job.abandoned).requiredProfile profileKey = .ok (profileId, profile) :=
      h
    exact {
      toKeeps := .trans (t := s.setJob i job.abandoned) (.of_eq rfl rfl rfl)
        (.refreshProfileCounts now hstored)
      embeddings := rfl
      jobs := .set hsame hjob ⟨rfl, rfl, rfl⟩
      waiting := by
        intro j other hother hwaits
        have hne : i ≠ j := by
          rintro rfl
          obtain rfl : job = other := Option.some.inj (hjob.symm.trans hother)
          simp only [PolicyIndexJob.isExhausted, PolicyIndexJob.leaseExpired, decide_eq_true_eq,
            Bool.decide_and, Bool.and_eq_true] at hlost
          exact hwaits hlost.2.1.1
        exact (List.getElem?_set_ne hne).trans hother
    }
  . exact {
      toKeeps := .refl s profileKey
      embeddings := rfl
      jobs := .refl hsame _
      waiting := fun _ _ hjob _ => hjob
    }

theorem nextJob_eq_some {now : Instant} {maxAttempts i : Nat} {job : PolicyIndexJob}
    (h : s.nextJob now profileId maxAttempts = some (i, job))
    : s.jobs[i]? = some job ∧ job.isEligible profileId now maxAttempts = true := by
  have hmem := (List.mem_insertionSort _).mp (List.mem_of_mem_head? h)
  unfold jobRows at hmem
  rw [List.mem_filter] at hmem
  exact ⟨Rows.mem_numbered.mp hmem.1, hmem.2⟩

/--
A job is found as long as one can be claimed.
-/
theorem nextJob_ne_none {now : Instant} {maxAttempts i : Nat} {job : PolicyIndexJob}
    (hjob : s.jobs[i]? = some job) (heligible : job.isEligible profileId now maxAttempts = true)
    : s.nextJob now profileId maxAttempts ≠ none := by
  have hmem : (i, job) ∈ s.jobRows fun job => job.isEligible profileId now maxAttempts := by
    unfold jobRows
    rw [List.mem_filter]
    exact ⟨Rows.mem_numbered.mpr hjob, heligible⟩
  unfold nextJob
  rw [ne_eq, List.head?_eq_none_iff]
  intro hempty
  have hsorted := (List.mem_insertionSort PolicyIndexJob.dueBefore).mpr hmem
  rw [hempty] at hsorted
  exact List.not_mem_nil hsorted

theorem mem_unindexedClauses {job : PolicyIndexJob} {row : Nat × PolicyIndexClause}
    : row ∈ s.unindexedClauses job ↔ s.clauses[row.1]? = some row.2
      ∧ row.2.policyVersionId = job.policyVersionId ∧ s.isIndexed job.profileId row = false := by
  unfold unindexedClauses
  rw [List.mem_filter, Rows.mem_numbered]
  simp

theorem isIndexed_congr (h : t.embeddings = s.embeddings) {row : Nat × PolicyIndexClause}
    : t.isIndexed profileId row = s.isIndexed profileId row := by
  unfold isIndexed
  rw [h]

/--
What remains of a job depends on its version and its profile alone.
-/
theorem remainingClauseCount_congr {a b : PolicyIndexJob} (hclauses : t.clauses = s.clauses)
    (hversion : b.policyVersionId = a.policyVersionId) (hprofile : b.profileId = a.profileId)
    (hindexed : ∀ row : Nat × PolicyIndexClause, s.clauses[row.1]? = some row.2
      → row.2.policyVersionId = a.policyVersionId
      → t.isIndexed a.profileId row = s.isIndexed a.profileId row)
    : t.remainingClauseCount b = s.remainingClauseCount a := by
  unfold remainingClauseCount unindexedClauses
  rw [hclauses, hversion, hprofile]
  congr 1
  apply List.filter_congr
  intro row hrow
  by_cases hof : row.2.policyVersionId = a.policyVersionId
  . rw [hindexed row (Rows.mem_numbered.mp hrow) hof]
  . simp [hof]

theorem unindexedClauses_nodup (s : PolicyIndexStore) (job : PolicyIndexJob)
    : (s.unindexedClauses job).Nodup :=
  (Rows.numbered_nodup s.clauses).filter _

theorem mem_pendingClauses {job : PolicyIndexJob} {row : Nat × PolicyIndexClause}
    (h : row ∈ s.pendingClauses job) : row ∈ s.unindexedClauses job :=
  (List.mem_insertionSort _).mp (List.mem_of_mem_take h)

/--
The clauses that remain once those in `page` are indexed.
-/
theorem unindexedClauses_of_indexed {job : PolicyIndexJob} {page : List (Nat × PolicyIndexClause)}
    (hclauses : t.clauses = s.clauses)
    (hindexed : ∀ row : Nat × PolicyIndexClause, s.clauses[row.1]? = some row.2
      → t.isIndexed job.profileId row = (s.isIndexed job.profileId row || decide (row ∈ page)))
    : t.unindexedClauses job = (s.unindexedClauses job).filter fun row => row ∉ page := by
  unfold unindexedClauses
  rw [hclauses, List.filter_filter]
  apply List.filter_congr
  intro row hrow
  rw [hindexed row (Rows.mem_numbered.mp hrow), Bool.eq_iff_iff]
  simp only [Bool.and_eq_true, Bool.or_eq_true, decide_eq_true_eq, not_or]
  tauto

/--
Each page but the last takes as many clauses as the budget allows.
-/
theorem length_unindexedClauses_of_page {job : PolicyIndexJob} (hclauses : t.clauses = s.clauses)
    (hindexed : ∀ row : Nat × PolicyIndexClause, s.clauses[row.1]? = some row.2
      → t.isIndexed job.profileId row
        = (s.isIndexed job.profileId row || decide (row ∈ s.pendingClauses job)))
    : t.remainingClauseCount job = s.remainingClauseCount job - job.pageBudget := by
  unfold remainingClauseCount
  rw [unindexedClauses_of_indexed hclauses hindexed]
  obtain ⟨sorted, hperm, hpage⟩ : ∃ sorted : List (Nat × PolicyIndexClause),
      sorted.Perm (s.unindexedClauses job) ∧ s.pendingClauses job = sorted.take job.pageBudget :=
    ⟨_, List.perm_insertionSort _ _, rfl⟩
  rw [hpage]
  have hnodup : (sorted.take job.pageBudget ++ sorted.drop job.pageBudget).Nodup := by
    rw [List.take_append_drop]
    exact hperm.nodup_iff.mpr (s.unindexedClauses_nodup job)
  have hdisjoint := List.disjoint_of_nodup_append hnodup
  have htaken : (sorted.take job.pageBudget).filter (fun row => row ∉ sorted.take job.pageBudget) = [] := by
    rw [List.filter_eq_nil_iff]
    intro row hrow
    simp [hrow]
  have hdropped : (sorted.drop job.pageBudget).filter (fun row => row ∉ sorted.take job.pageBudget)
      = sorted.drop job.pageBudget := by
    rw [List.filter_eq_self]
    intro row hrow
    simp only [decide_eq_true_eq]
    exact fun htaken => hdisjoint htaken hrow
  have hrest : sorted.filter (fun row => row ∉ sorted.take job.pageBudget)
      = sorted.drop job.pageBudget := by
    conv_lhs => arg 2; rw [← List.take_append_drop job.pageBudget sorted]
    rw [List.filter_append, htaken, hdropped, List.nil_append]
  rw [← (hperm.filter _).length_eq, hrest, List.length_drop, hperm.length_eq]

section Persist

variable [Digest]

/--
A stored clause is indexed by its own embedding and by no other one.
-/
theorem isIndexed_upsertEmbedding {now : Instant} {work : PolicyIndexWorkItem}
    {row other : Nat × PolicyIndexClause} {vector : EmbeddingVector}
    (hrow : s.clauses[row.1]? = some row.2) (hother : s.clauses[other.1]? = some other.2)
    : (s.upsertEmbedding now work row.1 row.2.contentHash vector).isIndexed work.profileId other
      = (s.isIndexed work.profileId other || decide (other = row)) := by
  unfold isIndexed upsertEmbedding
  by_cases hsame : other.1 = row.1
  . have hequal : other = row := by
      rw [hsame, hrow, Option.some.injEq] at hother
      exact Prod.ext hsame hother.symm
    simp [hequal]
  . have hdiffer : other ≠ row := fun hequal => hsame (congrArg Prod.fst hequal)
    simp [hsame, hdiffer]

/--
What was persisted of a page.
-/
structure Persisted (s t : PolicyIndexStore) (profileId : Nat) (page : List (Nat × PolicyIndexClause))
    : Prop where
  clauses : t.clauses = s.clauses
  versions : t.versions = s.versions
  profiles : t.profiles = s.profiles
  jobs : t.jobs = s.jobs
  indexed : ∀ row : Nat × PolicyIndexClause, s.clauses[row.1]? = some row.2
    → t.isIndexed profileId row = (s.isIndexed profileId row || decide (row ∈ page))

theorem persistVectors_persisted (now : Instant) (work : PolicyIndexWorkItem)
    (rows : List ((Nat × PolicyIndexClause) × EmbeddingVector))
    (hstored : ∀ row ∈ rows, s.clauses[row.1.1]? = some row.1.2)
    (hvalid : ∀ row ∈ rows, work.profile.accepts row.2)
    : ∃ t, persistVectors now work s rows = .ok (t, rows.length, 0)
        ∧ s.Persisted t work.profileId (rows.map Prod.fst) := by
  induction rows generalizing s with
  | nil =>
    refine ⟨s, rfl, rfl, rfl, rfl, rfl, ?_⟩
    intro row hrow
    simp
  | cons row rest ih =>
    obtain ⟨row, vector⟩ := row
    have hrow : s.clauses[row.1]? = some row.2 := hstored _ List.mem_cons_self
    have hpresent : s.hasClause row = true := by
      unfold hasClause
      simp [hrow]
    obtain ⟨t, hrest, h⟩ := ih (s := s.upsertEmbedding now work row.1 row.2.contentHash vector)
      (fun other hother => hstored other (List.mem_cons_of_mem _ hother))
      (fun other hother => hvalid other (List.mem_cons_of_mem _ hother))
    refine ⟨t, ?_, h.clauses, h.versions, h.profiles, h.jobs, ?_⟩
    . unfold persistVectors
      rw [ensure_of (hvalid _ List.mem_cons_self), hpresent]
      simp only [if_true]
      rw [hrest]
      rfl
    . intro other hother
      rw [h.indexed other hother, isIndexed_upsertEmbedding hrow hother]
      simp only [List.map_cons, List.mem_cons, Bool.decide_or, Bool.or_assoc]

/--
The page of a job that the claim still holds is persisted as a whole.
-/
theorem persistPage_of_leased (now : Instant) {expiresAt : Instant} {work : PolicyIndexWorkItem}
    {vectors : List EmbeddingVector}
    (hprofile : s.requiredProfile profileKey = .ok (work.profileId, profile))
    (hjob : s.jobs[work.jobId]? = some work.job) (howned : work.job.profileId = work.profileId)
    (hrunning : work.job.status = .running) (hexpires : work.job.leaseExpiresAt = some expiresAt)
    (hlease : now < expiresAt) (hlength : vectors.length = work.clauses.length)
    (hstored : ∀ row ∈ work.clauses, s.clauses[row.1]? = some row.2)
    (hvalid : ∀ vector ∈ vectors, work.profile.accepts vector)
    : ∃ t, s.persistPage now work vectors
          = .ok (t, work.job.paged now work.clauses.length 0 (t.remainingClauseCount work.job))
        ∧ s.Keeps t profileKey
        ∧ t.jobs = s.jobs.set work.jobId
          (work.job.paged now work.clauses.length 0 (t.remainingClauseCount work.job))
        ∧ ∀ row : Nat × PolicyIndexClause, s.clauses[row.1]? = some row.2
          → t.isIndexed work.profileId row
            = (s.isIndexed work.profileId row || decide (row ∈ work.clauses)) := by
  have hleased : s.leasedJob now work = .ok work.job := by
    have hholds : work.job.leaseExpiresAt.any (fun expiresAt => decide (now < expiresAt)) = true := by
      simp [hexpires, hlease]
    unfold leasedJob
    simp only [bind_eq_ok, orThrow_eq_ok, ensure_eq_ok, pure_eq_ok]
    exact ⟨work.job, hjob, ⟨⟩, ⟨howned, hrunning, rfl, rfl, hholds⟩, rfl⟩
  have hmap : (work.clauses.zip vectors).map Prod.fst = work.clauses :=
    List.map_fst_zip (le_of_eq hlength.symm)
  obtain ⟨u, hpersist, h⟩ := persistVectors_persisted (s := s) now work
    (work.clauses.zip vectors) (fun row hrow => hstored row.1 (List.of_mem_zip hrow).1)
    (fun row hrow => hvalid row.2 (List.of_mem_zip hrow).2)
  have hcount : (work.clauses.zip vectors).length = work.clauses.length := by
    rw [List.length_zip, hlength, Nat.min_self]
  rw [hcount] at hpersist
  rw [hmap] at h
  let paged := work.job.paged now work.clauses.length 0 (u.remainingClauseCount work.job)
  have hrequired : (u.setJob work.jobId paged).requiredProfile profileKey
      = .ok (work.profileId, profile) := by
    rw [requiredProfile_eq_ok] at hprofile ⊢
    rw [← h.profiles] at hprofile
    exact hprofile
  have hkeeps : s.Keeps (u.setJob work.jobId paged) profileKey :=
    .of_eq h.clauses h.versions h.profiles
  refine ⟨(u.setJob work.jobId paged).refreshProfileCounts now work.profileId profile, ?_,
    hkeeps.trans (.refreshProfileCounts now hrequired), ?_, ?_⟩
  . unfold persistPage
    rw [ensure_of hlength, hleased]
    simp only [bind, Except.bind, hpersist]
    unfold finishPage
    rw [requiredProfile_eq_ok] at hrequired
    simp only [bind_eq_ok, orThrow_eq_ok, pure_eq_ok]
    exact ⟨profile, hrequired.2, rfl⟩
  . exact congrArg (List.set · work.jobId paged) h.jobs
  . exact h.indexed

end Persist

end PolicyIndexStore

end CaseResolution
