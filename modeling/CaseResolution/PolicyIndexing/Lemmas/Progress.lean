import CaseResolution.PolicyIndexing.Lemmas.Rounds

/-!
This module contains how a job of the index advances: the clauses of its version that are left, and the
attempts it has used up on the others.
-/

namespace CaseResolution

open Guard

namespace PolicyIndexStore

variable {s t : PolicyIndexStore} {profileId : Nat} {profile : EmbeddingProfile}

/--
The attempts that were used up, as far as they count against the limit.
-/
def attemptsUsed (s : PolicyIndexStore) : Nat :=
  (s.jobs.map fun job => min job.attemptCount policyIndexMaxAttempts).sum

theorem attemptsUsed_of_updates (h : Rows.Updates SameJob s.jobs t.jobs)
    : t.attemptsUsed = s.attemptsUsed := by
  unfold attemptsUsed
  congr 1
  apply List.ext_getElem?
  intro i
  rw [List.getElem?_map, List.getElem?_map]
  cases hjob : s.jobs[i]? with
  | none =>
    have hlength := h.length
    rw [List.getElem?_eq_none_iff] at hjob
    rw [List.getElem?_eq_none (by omega)]
  | some job =>
    obtain ⟨kept, hkept, _, _, hattempts⟩ := h.kept i job hjob
    rw [hkept, Option.map_some, Option.map_some, hattempts]

theorem attemptsUsed_le (s : PolicyIndexStore)
    : s.attemptsUsed ≤ policyIndexMaxAttempts * s.jobs.length := by
  unfold attemptsUsed
  induction s.jobs with
  | nil => simp
  | cons job jobs ih =>
    simp only [List.map_cons, List.sum_cons, List.length_cons]
    have hjob : min job.attemptCount policyIndexMaxAttempts ≤ policyIndexMaxAttempts :=
      Nat.min_le_right _ _
    rw [Nat.mul_succ]
    omega

theorem attemptsUsed_set {i : Nat} {job claimed : PolicyIndexJob} (hjob : s.jobs[i]? = some job)
    (hleft : job.attemptCount < policyIndexMaxAttempts)
    (hclaimed : claimed.attemptCount = job.attemptCount + 1)
    (hjobs : t.jobs = s.jobs.set i claimed) : t.attemptsUsed = s.attemptsUsed + 1 := by
  unfold attemptsUsed
  rw [hjobs]
  clear hjobs
  generalize s.jobs = jobs at hjob
  induction jobs generalizing i with
  | nil => simp at hjob
  | cons other jobs ih =>
    cases i with
    | zero =>
      simp only [List.getElem?_cons_zero, Option.some.injEq] at hjob
      subst hjob
      simp only [List.set_cons_zero, List.map_cons, List.sum_cons, hclaimed]
      omega
    | succ i =>
      simp only [List.getElem?_cons_succ] at hjob
      simp only [List.set_cons_succ, List.map_cons, List.sum_cons, ih hjob]
      omega

/--
A job with attempts left leaves room for a further one.
-/
theorem attemptsUsed_lt {i : Nat} {job : PolicyIndexJob} (hjob : s.jobs[i]? = some job)
    (hleft : job.attemptCount < policyIndexMaxAttempts)
    : s.attemptsUsed < policyIndexMaxAttempts * s.jobs.length := by
  let next := s.setJob i { job with attemptCount := job.attemptCount + 1 }
  have hused : next.attemptsUsed = s.attemptsUsed + 1 := attemptsUsed_set hjob hleft rfl rfl
  have hle := next.attemptsUsed_le
  have hlength : next.jobs.length = s.jobs.length := List.length_set
  rw [hlength] at hle
  omega

theorem insertJobs_jobs {f : Nat × GovernedPolicyVersion → PolicyIndexJob}
    (rows : List (Nat × GovernedPolicyVersion)) (s : PolicyIndexStore)
    : ∃ added : List PolicyIndexJob, rows.foldl (fun s row => s.insertJob (f row)) s
          = { s with jobs := s.jobs ++ added }
        ∧ added.Sublist (rows.map f) := by
  induction rows generalizing s with
  | nil => exact ⟨[], by simp, List.Sublist.refl _⟩
  | cons row rest ih =>
    by_cases htaken : ∃ other ∈ s.jobs, other.jobKey = (f row).jobKey
    . obtain ⟨added, hadded, hsub⟩ := ih s
      refine ⟨added, ?_, hsub.cons _⟩
      rw [List.foldl_cons, ← hadded]
      unfold insertJob
      rw [if_pos htaken]
    . obtain ⟨added, hadded, hsub⟩ := ih { s with jobs := s.jobs ++ [f row] }
      refine ⟨f row :: added, ?_, hsub.cons_cons _⟩
      rw [List.foldl_cons]
      unfold insertJob at hadded ⊢
      rw [if_neg htaken, hadded, List.append_assoc]
      rfl

section Enqueue

variable [Digest]

/--
Enqueueing only adds fresh jobs, each for a version that had none.
-/
theorem enqueueMissing_eq_ok {now : Instant} {profileKey : String} {jobLimit pageBudget created : Nat}
    (hprofile : s.requiredProfile profileKey = .ok (profileId, profile))
    (h : s.enqueueMissing now profileKey jobLimit pageBudget = .ok (t, created))
    : 1 ≤ pageBudget ∧ s.Keeps t profileKey ∧ t.embeddings = s.embeddings
        ∧ ∃ added : List PolicyIndexJob, t.jobs = s.jobs ++ added
          ∧ added.Sublist ((s.missingVersions profileId).map
            (newJob now profileId profile.profileKey (min pageBudget 32))) := by
  unfold enqueueMissing at h
  simp only [hprofile, bind_eq_ok, ensure_eq_ok, exists_const, pure_eq_ok, Prod.mk.injEq,
    Except.ok.injEq, Prod.exists] at h
  obtain ⟨hpositive, id, read, ⟨rfl, rfl⟩, hstored, _⟩ := h
  obtain ⟨added, hadded, hsub⟩ := insertJobs_jobs
    (f := newJob now profileId profile.profileKey (min pageBudget 32))
    ((s.missingVersions profileId).take jobLimit) s
  rw [hadded] at hstored
  have hrequired : { s with jobs := s.jobs ++ added }.requiredProfile profileKey
      = .ok (profileId, profile) := hprofile
  have hkeeps : s.Keeps { s with jobs := s.jobs ++ added } profileKey := .of_eq rfl rfl rfl
  subst hstored
  refine ⟨hpositive.2, hkeeps.trans (.refreshProfileCounts now hrequired), rfl, added, rfl, ?_⟩
  exact hsub.trans ((List.take_sublist _ _).map _)

omit [Digest] in
theorem missingVersions_ids_nodup (s : PolicyIndexStore) (profileId : Nat)
    : ((s.missingVersions profileId).map Prod.fst).Nodup :=
  (Rows.numbered_ids_nodup s.versions).sublist ((List.filter_sublist).map _)

end Enqueue

end PolicyIndexStore

end CaseResolution
