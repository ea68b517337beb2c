import CaseResolution.PolicyIndexing.Lemmas.Progress

/-!
This module contains the end of indexing a policy version: the job of the version is completed exactly
if its clauses fit on as many pages as a job may be attempted.
-/

namespace CaseResolution

open Guard

/--
What the workers of the index do: add the jobs that are missing, or take a turn.
-/
inductive IndexingCommand where
  | enqueue (now : Instant)
  | round (round : DrainRound)

/--
The commands arrive one after the other, and no turn outlives its lease.
-/
def InTime (leaseSeconds : Nat) : Instant → List IndexingCommand → Prop
  | _, [] => True
  | clock, .enqueue now :: rest => clock ≤ now ∧ InTime leaseSeconds now rest
  | clock, .round round :: rest =>
    clock ≤ round.claimedAt ∧ round.claimedAt ≤ round.persistedAt
      ∧ round.persistedAt < round.claimedAt + seconds leaseSeconds
      ∧ InTime leaseSeconds round.persistedAt rest

instance InTime.decidable (leaseSeconds : Nat)
    : ∀ clock commands, Decidable (InTime leaseSeconds clock commands)
  | _, [] => .isTrue trivial
  | clock, .enqueue now :: rest =>
    have := InTime.decidable leaseSeconds now rest
    inferInstanceAs (Decidable (clock ≤ now ∧ InTime leaseSeconds now rest))
  | clock, .round round :: rest =>
    have := InTime.decidable leaseSeconds round.persistedAt rest
    inferInstanceAs (Decidable (clock ≤ round.claimedAt ∧ round.claimedAt ≤ round.persistedAt
      ∧ round.persistedAt < round.claimedAt + seconds leaseSeconds
      ∧ InTime leaseSeconds round.persistedAt rest))

def roundCount : List IndexingCommand → Nat
  | [] => 0
  | .enqueue _ :: rest => roundCount rest
  | .round _ :: rest => roundCount rest + 1

namespace PolicyIndexJob

/--
The job has been attempted once for each full page, and there was more to index after each of them.
-/
structure Waits (job : PolicyIndexJob) (n remaining : Nat) (clock : Instant) : Prop where
  pending : job.status = .pending
  due : job.availableAt ≤ clock
  attempts : job.attemptCount ≤ policyIndexMaxAttempts
  left : remaining + job.attemptCount * job.pageBudget = n
  more : job.attemptCount = 0 ∨ 0 < remaining

/--
The job is done, and its pages were enough.
-/
structure Finished (job : PolicyIndexJob) (n remaining : Nat) : Prop where
  completed : job.status = .completed
  indexed : remaining = 0
  fits : n ≤ policyIndexMaxAttempts * job.pageBudget

/--
The next page of the job takes as much as it can.
-/
theorem Waits.paged {job : PolicyIndexJob} {n remaining : Nat} {clock : Instant}
    (h : job.Waits n remaining clock) (hleft : job.attemptCount < policyIndexMaxAttempts)
    (service : PolicyIndexingService) (round : DrainRound) (indexed : Nat)
    : (service.pagedBy round job indexed (remaining - job.pageBudget)).Waits n
          (remaining - job.pageBudget) round.persistedAt
      ∨ (service.pagedBy round job indexed (remaining - job.pageBudget)).Finished n
          (remaining - job.pageBudget) := by
  have hnext : (job.attemptCount + 1) * job.pageBudget
      = job.attemptCount * job.pageBudget + job.pageBudget := Nat.succ_mul _ _
  have hcount := h.left
  by_cases hrest : remaining - job.pageBudget = 0
  . have hbound : (job.attemptCount + 1) * job.pageBudget ≤ policyIndexMaxAttempts * job.pageBudget :=
      Nat.mul_le_mul_right _ hleft
    refine .inr ⟨by simp [PolicyIndexingService.pagedBy, PolicyIndexJob.paged, hrest], hrest, ?_⟩
    show n ≤ policyIndexMaxAttempts * job.pageBudget
    omega
  . refine .inl ⟨by simp [PolicyIndexingService.pagedBy, PolicyIndexJob.paged, hrest], ?_, hleft, ?_, ?_⟩
    . simp [PolicyIndexingService.pagedBy, PolicyIndexJob.paged, hrest]
    . show remaining - job.pageBudget + (job.attemptCount + 1) * job.pageBudget = n
      omega
    . omega

/--
A page of another job leaves it alone.
-/
theorem Waits.later {job : PolicyIndexJob} {n remaining : Nat} {clock now : Instant}
    (h : job.Waits n remaining clock) (hle : clock ≤ now) : job.Waits n remaining now :=
  { h with due := le_trans h.due hle }

end PolicyIndexJob

/--
The job `added` at `jobId` is the only one of its version, and it advances through the `n` clauses that
were not indexed when it was added.
-/
structure PolicyIndexStore.Advances (s : PolicyIndexStore) (service : PolicyIndexingService)
    (added : PolicyIndexJob) (jobId n : Nat) (clock : Instant) : Prop where
  profile : ∃ profile, s.requiredProfile service.profileKey = .ok (added.profileId, profile)
    ∧ service.Embeds profile.dimensions
  version : ∃ version, s.versions[added.policyVersionId]? = some version
    ∧ version.contentHash = added.sourceContentFingerprint
  alone : ∀ (i : Nat) (other : PolicyIndexJob), s.jobs[i]? = some other → i ≠ jobId
    → other.profileId = added.profileId → other.policyVersionId ≠ added.policyVersionId
  job : ∃ job, s.jobs[jobId]? = some job ∧ job.policyVersionId = added.policyVersionId
    ∧ job.profileId = added.profileId
    ∧ job.sourceContentFingerprint = added.sourceContentFingerprint
    ∧ job.pageBudget = added.pageBudget
    ∧ (job.Waits n (s.remainingClauseCount added) clock
      ∨ job.Finished n (s.remainingClauseCount added))

/--
The job can still be claimed.
-/
def PolicyIndexStore.Open (s : PolicyIndexStore) (jobId : Nat) : Prop :=
  ∃ job, s.jobs[jobId]? = some job ∧ job.status = .pending
    ∧ job.attemptCount < policyIndexMaxAttempts

namespace PolicyIndexStore.Advances

variable {service : PolicyIndexingService} {s : PolicyIndexStore} {added : PolicyIndexJob}
  {jobId n : Nat} {clock : Instant}

theorem later {now : Instant} (h : s.Advances service added jobId n clock) (hle : clock ≤ now)
    : s.Advances service added jobId n now := by
  obtain ⟨job, hjob, hversion, hprofile, hfingerprint, hbudget, hstate⟩ := h.job
  refine { h with job := ⟨job, hjob, hversion, hprofile, hfingerprint, hbudget, ?_⟩ }
  exact hstate.imp_left fun hwaits => hwaits.later hle

/--
No other job becomes one of the version.
-/
theorem alone_of_updates {t : PolicyIndexStore} (h : s.Advances service added jobId n clock)
    (hjobs : Rows.Updates SameJob s.jobs t.jobs) (i : Nat) (other : PolicyIndexJob)
    (hother : t.jobs[i]? = some other) (hne : i ≠ jobId) (hprofile : other.profileId = added.profileId)
    : other.policyVersionId ≠ added.policyVersionId := by
  obtain ⟨before, hbefore, hversionId, hprofileId, _⟩ := hjobs.back hother
  rw [hversionId]
  exact h.alone i before hbefore hne (hprofileId.symm.trans hprofile)

end PolicyIndexStore.Advances

section

variable [Digest]

namespace PolicyIndexingService

variable (service : PolicyIndexingService)

def perform (s : PolicyIndexStore) : IndexingCommand → PolicyIndexStore
  | .enqueue now =>
    match service.enqueue s now with
    | .ok (t, _) => t
    | .error _ => s
  | .round round => (service.drainRound s round).1

theorem perform_round (s : PolicyIndexStore) (round : DrainRound)
    : service.perform s (.round round) = (service.drainRound s round).1 := by
  rfl

def run (s : PolicyIndexStore) (commands : List IndexingCommand) : PolicyIndexStore :=
  commands.foldl service.perform s

end PolicyIndexingService

namespace PolicyIndexStore.Advances

variable {service : PolicyIndexingService} {s : PolicyIndexStore} {added : PolicyIndexJob}
  {jobId n : Nat} {clock : Instant}

/--
Jobs that are added later are jobs of other versions.
-/
theorem enqueue (now : Instant) (h : s.Advances service added jobId n clock)
    : (service.perform s (.enqueue now)).Advances service added jobId n clock
      ∧ ((service.perform s (.enqueue now)).Open jobId
        → s.Open jobId ∧ s.attemptsUsed ≤ (service.perform s (.enqueue now)).attemptsUsed) := by
  unfold PolicyIndexingService.perform
  dsimp only
  split
  . next t created henqueue =>
    obtain ⟨profile, hprofile, hembeds⟩ := h.profile
    obtain ⟨version, hversion, hcontent⟩ := h.version
    obtain ⟨job, hjob, hsame⟩ := h.job
    obtain ⟨_, hkeeps, hembeddings, fresh, hjobs, hfresh⟩ :=
      enqueueMissing_eq_ok hprofile henqueue
    obtain ⟨kept, hkept, hdimensions⟩ := hkeeps.profile _ _ hprofile
    have hremaining : t.remainingClauseCount added = s.remainingClauseCount added := by
      apply remainingClauseCount_congr hkeeps.clauses rfl rfl
      intro row _ _
      exact isIndexed_congr hembeddings
    have hstays : ∀ (i : Nat) (other : PolicyIndexJob), s.jobs[i]? = some other
        → t.jobs[i]? = some other := by
      intro i other hother
      rw [hjobs, List.getElem?_append_left (List.getElem?_eq_some_iff.mp hother).1]
      exact hother
    have halone : ∀ (i : Nat) (other : PolicyIndexJob), t.jobs[i]? = some other → i ≠ jobId
        → other.profileId = added.profileId → other.policyVersionId ≠ added.policyVersionId := by
      intro i other hother hne hprofileId hversionId
      by_cases hlt : i < s.jobs.length
      . rw [hjobs, List.getElem?_append_left hlt] at hother
        exact h.alone i other hother hne hprofileId hversionId
      . rw [hjobs, List.getElem?_append_right (by omega)] at hother
        obtain ⟨row, hrow, rfl⟩ := List.mem_map.mp (hfresh.subset (List.mem_of_getElem? hother))
        have hrowId : row.1 = added.policyVersionId := hversionId
        unfold missingVersions at hrow
        rw [List.mem_filter, Rows.mem_numbered, hrowId, hversion, Option.some.injEq] at hrow
        have hmissing := (of_decide_eq_true hrow.2).2 job (List.mem_of_getElem? hjob)
        apply hmissing
        rw [hrowId, ← hrow.1, hcontent]
        exact ⟨hsame.2.1, hsame.1, hsame.2.2.1⟩
    refine ⟨?_, ?_⟩
    . exact {
        profile := ⟨kept, hkept, hdimensions ▸ hembeds⟩
        version := ⟨version, hkeeps.versions ▸ hversion, hcontent⟩
        alone := halone
        job := ⟨job, hstays jobId job hjob, by rwa [hremaining]⟩
      }
    . rintro ⟨job', hjob', hopen⟩
      obtain rfl : job = job' := Option.some.inj ((hstays jobId job hjob).symm.trans hjob')
      refine ⟨⟨job, hjob, hopen⟩, ?_⟩
      unfold attemptsUsed
      rw [hjobs, List.map_append, List.sum_append]
      exact Nat.le_add_right _ _
  . exact ⟨h, fun hopen => ⟨hopen, le_refl _⟩⟩

/--
A turn takes the next page of the job or of another one.
-/
theorem round {round : DrainRound} (h : s.Advances service added jobId n clock)
    (hclaim : clock ≤ round.claimedAt) (hpersist : round.claimedAt ≤ round.persistedAt)
    (hlease : round.persistedAt < round.claimedAt + seconds service.leaseSeconds)
    : (service.perform s (.round round)).Advances service added jobId n round.persistedAt
      ∧ ((service.perform s (.round round)).Open jobId
        → s.Open jobId ∧ s.attemptsUsed + 1 ≤ (service.perform s (.round round)).attemptsUsed) := by
  obtain ⟨profile, hprofile, hembeds⟩ := h.profile
  obtain ⟨version, hversion, hcontent⟩ := h.version
  obtain ⟨job, hjob, hversionId, hprofileId, hfingerprint, hbudget, hstate⟩ := h.job
  have hswept := sweepExhausted_swept round.claimedAt
    policyIndexMaxAttempts hprofile
  have hwaiting : job.status ≠ .running := by
    cases hstate with
    | inl hwaits => simp [hwaits.pending]
    | inr hfinished => simp [hfinished.completed]
  have hkept := hswept.waiting jobId job hjob hwaiting
  cases hnext : (s.sweepExhausted round.claimedAt added.profileId policyIndexMaxAttempts
      profile).nextJob round.claimedAt added.profileId policyIndexMaxAttempts with
  | none =>
    have hround := PolicyIndexingService.drainRound_of_none hprofile hnext
    have hremaining : (s.sweepExhausted round.claimedAt added.profileId policyIndexMaxAttempts
        profile).remainingClauseCount added = s.remainingClauseCount added := by
      apply remainingClauseCount_congr hswept.clauses rfl rfl
      intro row _ _
      exact isIndexed_congr hswept.embeddings
    rw [PolicyIndexingService.perform_round, hround]
    refine ⟨.later ?_ (le_trans hclaim hpersist), ?_⟩
    . obtain ⟨kept, hkeptProfile, hdimensions⟩ := hswept.profile _ _ hprofile
      exact {
        profile := ⟨kept, hkeptProfile, hdimensions ▸ hembeds⟩
        version := ⟨version, hswept.versions ▸ hversion, hcontent⟩
        alone := h.alone_of_updates hswept.jobs
        job := ⟨job, hkept, hversionId, hprofileId, hfingerprint, hbudget, by rwa [hremaining]⟩
      }
    . rintro ⟨job', hjob', hpending, hattempts⟩
      obtain rfl : job = job' := Option.some.inj (hkept.symm.trans hjob')
      have hdue : job.availableAt ≤ round.claimedAt := by
        cases hstate with
        | inl hwaits => exact le_trans hwaits.due hclaim
        | inr hfinished => simp [hfinished.completed] at hpending
      refine absurd hnext (nextJob_ne_none hkept ?_)
      simp [PolicyIndexJob.isEligible, hprofileId, hdue, hattempts, hpending]
  | some claimed =>
    obtain ⟨i, other⟩ := claimed
    obtain ⟨t, indexed, hround, hkeeps, hjobs, hwritten⟩ :=
      PolicyIndexingService.drainRound_of_some hprofile hembeds hlease hnext
    obtain ⟨hother, heligible⟩ := nextJob_eq_some hnext
    simp only [PolicyIndexJob.isEligible, decide_eq_true_eq] at heligible
    obtain ⟨howned, _, hattempts, hstatus⟩ := heligible
    obtain ⟨kept, hkeptProfile, hdimensions⟩ := hkeeps.profile _ _ hprofile
    have hused : t.attemptsUsed = s.attemptsUsed + 1 := by
      rw [attemptsUsed_set hother hattempts rfl hjobs, attemptsUsed_of_updates hswept.jobs]
    have halone : ∀ (j : Nat) (row : PolicyIndexJob), t.jobs[j]? = some row → j ≠ jobId
        → row.profileId = added.profileId → row.policyVersionId ≠ added.policyVersionId := by
      intro j row hrow hne
      rw [hjobs] at hrow
      rcases Rows.getElem?_set_cases hrow with ⟨rfl, rfl, _⟩ | ⟨_, hrow⟩
      . exact h.alone_of_updates hswept.jobs i other hother hne
      . exact h.alone_of_updates hswept.jobs j row hrow hne
    rw [PolicyIndexingService.perform_round, hround]
    by_cases hi : i = jobId
    . subst hi
      obtain rfl : job = other := Option.some.inj (hkept.symm.trans hother)
      have hlt := (List.getElem?_eq_some_iff.mp hother).1
      have hwaits : job.Waits n (s.remainingClauseCount added) clock := by
        cases hstate with
        | inl hwaits => exact hwaits
        | inr hfinished => simp [hfinished.completed, PolicyIndexJob.leaseExpired] at hstatus
      have hremaining : t.remainingClauseCount job
          = s.remainingClauseCount added - job.pageBudget := by
        rw [length_unindexedClauses_of_page hkeeps.clauses (hprofileId ▸ hwritten)]
        congr 1
        exact remainingClauseCount_congr rfl hversionId hprofileId fun _ _ _ => rfl
      have hsame : t.remainingClauseCount added = t.remainingClauseCount job :=
        remainingClauseCount_congr rfl hversionId.symm hprofileId.symm fun _ _ _ => rfl
      have hnow : t.jobs[i]? = some (service.pagedBy round job indexed (t.remainingClauseCount job)) := by
        rw [hjobs]
        exact List.getElem?_set_self hlt
      have hnext := hwaits.paged hattempts service round indexed
      rw [← hremaining, ← hsame] at hnext
      refine ⟨?_, fun _ => ⟨⟨job, hjob, hwaits.pending, hattempts⟩, le_of_eq hused.symm⟩⟩
      exact {
        profile := ⟨kept, hkeptProfile, hdimensions ▸ hembeds⟩
        version := ⟨version, hkeeps.versions ▸ hversion, hcontent⟩
        alone := halone
        job := ⟨_, hnow, hversionId, hprofileId, hfingerprint, hbudget, hsame ▸ hnext⟩
      }
    . have hnow : t.jobs[jobId]? = some job := by
        rw [hjobs, List.getElem?_set_ne hi]
        exact hkept
      have hremaining : t.remainingClauseCount added = s.remainingClauseCount added := by
        apply remainingClauseCount_congr hkeeps.clauses rfl rfl
        intro row hrow hof
        have hforeign : row ∉ s.pendingClauses other := by
          intro hpage
          have hotherVersion := (mem_unindexedClauses.mp (mem_pendingClauses hpage)).2.1
          rw [hof] at hotherVersion
          exact h.alone_of_updates hswept.jobs i other hother hi howned hotherVersion.symm
        rw [hwritten row hrow]
        simp [hforeign]
      refine ⟨.later ?_ (le_trans hclaim hpersist), ?_⟩
      . exact {
          profile := ⟨kept, hkeptProfile, hdimensions ▸ hembeds⟩
          version := ⟨version, hkeeps.versions ▸ hversion, hcontent⟩
          alone := halone
          job := ⟨job, hnow, hversionId, hprofileId, hfingerprint, hbudget, by rwa [hremaining]⟩
        }
      . rintro ⟨job', hjob', hopen⟩
        obtain rfl : job = job' := Option.some.inj (hnow.symm.trans hjob')
        exact ⟨⟨job, hjob, hopen⟩, le_of_eq hused.symm⟩

/--
The turns so far used up attempts as long as the job could have been claimed.
-/
theorem run {commands : List IndexingCommand} (h : s.Advances service added jobId n clock)
    (htimes : InTime service.leaseSeconds clock commands)
    : ∃ now, (service.run s commands).Advances service added jobId n now
        ∧ ((service.run s commands).Open jobId → s.Open jobId
          ∧ s.attemptsUsed + roundCount commands ≤ (service.run s commands).attemptsUsed) := by
  induction commands generalizing s clock with
  | nil => exact ⟨clock, h, fun hopen => ⟨hopen, le_refl _⟩⟩
  | cons command rest ih =>
    cases command with
    | enqueue now =>
      obtain ⟨hle, hrest⟩ := htimes
      obtain ⟨hnext, hused⟩ := (h.later hle).enqueue now
      obtain ⟨last, hlast, hcount⟩ := ih hnext hrest
      refine ⟨last, hlast, ?_⟩
      intro hopen
      obtain ⟨hmiddle, hafter⟩ := hcount hopen
      obtain ⟨hstart, hbefore⟩ := hused hmiddle
      exact ⟨hstart, le_trans (Nat.add_le_add_right hbefore _) hafter⟩
    | round round =>
      obtain ⟨hclaim, hpersist, hlease, hrest⟩ := htimes
      obtain ⟨hnext, hused⟩ := h.round hclaim hpersist hlease
      obtain ⟨last, hlast, hcount⟩ := ih hnext hrest
      refine ⟨last, hlast, ?_⟩
      intro hopen
      obtain ⟨hmiddle, hafter⟩ := hcount hopen
      obtain ⟨hstart, hbefore⟩ := hused hmiddle
      refine ⟨hstart, ?_⟩
      have hsplit : s.attemptsUsed + roundCount (.round round :: rest)
          = s.attemptsUsed + 1 + roundCount rest := by
        simp only [roundCount]
        omega
      rw [hsplit]
      exact le_trans (Nat.add_le_add_right hbefore _) hafter

/--
A job that was just added advances from its first page on.
-/
theorem of_enqueue {t : PolicyIndexStore} {now : Instant} {created : Nat}
    (henqueue : service.enqueue s now = .ok (t, created))
    (hembeds : ∀ profile ∈ s.profiles, profile.profileKey = service.profileKey
      → service.Embeds profile.dimensions)
    (hjob : t.jobs[jobId]? = some added) (hnew : s.jobs.length ≤ jobId)
    (halone : ∀ other ∈ s.jobs, other.profileId = added.profileId
      → other.policyVersionId ≠ added.policyVersionId)
    : t.Advances service added jobId (s.remainingClauseCount added) now
      ∧ added.pageBudget = min service.pageBudget 32 ∧ 1 ≤ service.pageBudget := by
  have hrequired : ∃ profileId profile,
      s.requiredProfile service.profileKey = .ok (profileId, profile) := by
    unfold PolicyIndexingService.enqueue enqueueMissing at henqueue
    rw [ensure_bind_eq_ok, bind_eq_ok] at henqueue
    obtain ⟨_, ⟨profileId, profile⟩, hprofile, _⟩ := henqueue
    exact ⟨profileId, profile, hprofile⟩
  obtain ⟨profileId, profile, hprofile⟩ := hrequired
  obtain ⟨hbudget, hkeeps, hembeddings, fresh, hjobs, hfresh⟩ :=
    enqueueMissing_eq_ok hprofile henqueue
  obtain ⟨kept, hkept, hdimensions⟩ := hkeeps.profile _ _ hprofile
  have hstored := requiredProfile_eq_ok.mp hprofile
  have hkey : profile.profileKey = service.profileKey := by
    obtain ⟨found, hfound, hinuse⟩ := Rows.exists_of_findIdx? hstored.1
    obtain rfl : profile = found := Option.some.inj (hstored.2.symm.trans hfound)
    exact (of_decide_eq_true hinuse).1
  have hadded : fresh[jobId - s.jobs.length]? = some added := by
    rwa [hjobs, List.getElem?_append_right hnew] at hjob
  obtain ⟨row, hrow, hrowJob⟩ := List.mem_map.mp (hfresh.subset (List.mem_of_getElem? hadded))
  have hversion : s.versions[row.1]? = some row.2 := by
    unfold missingVersions at hrow
    rw [List.mem_filter, Rows.mem_numbered] at hrow
    exact hrow.1
  have hids : (fresh.map PolicyIndexJob.policyVersionId).Nodup := by
    have hsub := hfresh.map PolicyIndexJob.policyVersionId
    rw [List.map_map] at hsub
    exact List.Nodup.sublist hsub (s.missingVersions_ids_nodup profileId)
  have hdistinct : ∀ (i : Nat) (other : PolicyIndexJob), t.jobs[i]? = some other → i ≠ jobId
      → other.profileId = added.profileId → other.policyVersionId ≠ added.policyVersionId := by
    intro i other hother hne hprofileId hsame
    by_cases hlt : i < s.jobs.length
    . rw [hjobs, List.getElem?_append_left hlt] at hother
      exact halone other (List.mem_of_getElem? hother) hprofileId hsame
    . rw [hjobs, List.getElem?_append_right (by omega)] at hother
      have hfirst : (fresh.map PolicyIndexJob.policyVersionId)[i - s.jobs.length]?
          = (fresh.map PolicyIndexJob.policyVersionId)[jobId - s.jobs.length]? := by
        rw [List.getElem?_map, List.getElem?_map, hother, hadded, Option.map_some, Option.map_some,
          hsame]
      have hbound := (List.getElem?_eq_some_iff.mp hother).1
      have hposition := (List.getElem?_inj (by rwa [List.length_map]) hids).mp hfirst
      omega
  have hremaining : t.remainingClauseCount added = s.remainingClauseCount added := by
    apply remainingClauseCount_congr hkeeps.clauses rfl rfl
    intro row _ _
    exact isIndexed_congr hembeddings
  subst hrowJob
  refine ⟨?_, rfl, hbudget⟩
  exact {
    profile := ⟨kept, hkept, hdimensions ▸ hembeds profile (List.mem_of_getElem? hstored.2) hkey⟩
    version := ⟨row.2, hkeeps.versions ▸ hversion, rfl⟩
    alone := hdistinct
    job := by
      refine ⟨_, hjob, rfl, rfl, rfl, rfl, .inl ?_⟩
      exact {
        pending := rfl
        due := le_refl _
        attempts := Nat.zero_le _
        left := by
          rw [hremaining]
          exact Nat.zero_mul _ ▸ rfl
        more := .inl rfl
      }
  }

end PolicyIndexStore.Advances

namespace PolicyIndexingService

variable {service : PolicyIndexingService} {s t : PolicyIndexStore} {now : Instant} {created : Nat}
  {jobId : Nat} {job : PolicyIndexJob} {commands : List IndexingCommand}

theorem drainRounds_eq_run (service : PolicyIndexingService) (rounds : List DrainRound)
    (s : PolicyIndexStore)
    : ∃ taken : List DrainRound, taken <+: rounds
      ∧ (service.drainRounds s rounds).1 = service.run s (taken.map IndexingCommand.round) := by
  induction rounds generalizing s with
  | nil => exact ⟨[], List.nil_prefix, rfl⟩
  | cons round rest ih =>
    have hone : [round] <+: round :: rest := List.prefix_append [round] rest
    unfold drainRounds
    split
    . next t e hround => exact ⟨[round], hone, (congrArg Prod.fst hround).symm⟩
    . next t hround => exact ⟨[round], hone, (congrArg Prod.fst hround).symm⟩
    . next t counts hround =>
      obtain ⟨taken, hprefix, hrun⟩ := ih t
      refine ⟨round :: taken, (List.prefix_cons_inj round).mpr hprefix, hrun.trans ?_⟩
      have hnext : service.perform s (.round round) = t := congrArg Prod.fst hround
      show service.run t _ = service.run (service.perform s (.round round)) _
      rw [hnext]

/--
A drain is a run: it adds the jobs that are missing and takes some of its turns.
-/
theorem drain_eq_run (service : PolicyIndexingService) (s : PolicyIndexStore) (now : Instant)
    (rounds : List DrainRound)
    : ∃ taken : List DrainRound, taken <+: rounds
      ∧ (service.drain s now rounds).1
        = service.run s (.enqueue now :: taken.map IndexingCommand.round) := by
  unfold drain
  cases henqueue : service.enqueue s now with
  | error e =>
    have hstays : service.perform s (.enqueue now) = s := by
      simp [perform, henqueue]
    refine ⟨[], List.nil_prefix, ?_⟩
    show s = service.run (service.perform s (.enqueue now)) []
    rw [hstays]
    rfl
  | ok enqueued =>
    obtain ⟨t, created⟩ := enqueued
    have hnext : service.perform s (.enqueue now) = t := by
      simp [perform, henqueue]
    obtain ⟨taken, hprefix, hrun⟩ := service.drainRounds_eq_run (rounds.take service.jobLimit) t
    refine ⟨taken, hprefix.trans (List.take_prefix _ _), hrun.trans ?_⟩
    show service.run t _ = service.run (service.perform s (.enqueue now)) _
    rw [hnext]

/--
Turn after turn, the job of a version is completed exactly if the clauses that were not indexed fit on
the pages of its attempts. Otherwise it is left pending, and nobody can ever claim it.
-/
theorem indexing_completes (henqueue : service.enqueue s now = .ok (t, created))
    (hembeds : ∀ profile ∈ s.profiles, profile.profileKey = service.profileKey
      → service.Embeds profile.dimensions)
    (hjob : t.jobs[jobId]? = some job) (hnew : s.jobs.length ≤ jobId)
    (halone : ∀ other ∈ s.jobs, other.profileId = job.profileId
      → other.policyVersionId ≠ job.policyVersionId)
    (htimes : InTime service.leaseSeconds now commands)
    (hturns : policyIndexMaxAttempts * (service.run t commands).jobs.length ≤ roundCount commands)
    : (((∃ done, (service.run t commands).jobs[jobId]? = some done ∧ done.status = .completed)
          ∧ (service.run t commands).remainingClauseCount job = 0)
        ↔ s.remainingClauseCount job ≤ policyIndexMaxAttempts * min service.pageBudget 32)
      ∧ (policyIndexMaxAttempts * min service.pageBudget 32 < s.remainingClauseCount job
        → ∃ stuck, (service.run t commands).jobs[jobId]? = some stuck ∧ stuck.status = .pending
          ∧ ∀ profileId later, stuck.isEligible profileId later policyIndexMaxAttempts = false) := by
  obtain ⟨hadvances, hbudget, _⟩ :=
    PolicyIndexStore.Advances.of_enqueue henqueue hembeds hjob hnew halone
  obtain ⟨last, hlast, hcount⟩ := hadvances.run htimes
  obtain ⟨after, hafter, _, _, _, hafterBudget, hstate⟩ := hlast.job
  rw [← hbudget, ← hafterBudget]
  cases hstate with
  | inl hwaits =>
    have hexhausted : after.attemptCount = policyIndexMaxAttempts := by
      by_contra hne
      have hleft : after.attemptCount < policyIndexMaxAttempts := lt_of_le_of_ne hwaits.attempts hne
      have hused := PolicyIndexStore.attemptsUsed_lt hafter hleft
      have hcounted := (hcount ⟨after, hafter, hwaits.pending, hleft⟩).2
      omega
    have hmore : 0 < (service.run t commands).remainingClauseCount job := by
      cases hwaits.more with
      | inl hnone => simp [hexhausted, policyIndexMaxAttempts] at hnone
      | inr hmore => exact hmore
    have hleft := hwaits.left
    rw [hexhausted] at hleft
    refine ⟨⟨?_, ?_⟩, fun _ => ⟨after, hafter, hwaits.pending, ?_⟩⟩
    . rintro ⟨_, hnone⟩
      omega
    . intro hfits
      omega
    . intro profileId later
      simp [PolicyIndexJob.isEligible, hexhausted]
  | inr hfinished =>
    have hfits := hfinished.fits
    refine ⟨⟨fun _ => hfits, fun _ => ⟨⟨after, hafter, hfinished.completed⟩, hfinished.indexed⟩⟩, ?_⟩
    intro hover
    omega

end PolicyIndexingService

end

namespace Sample

attribute [local instance] Digest.checksum

def embeddingProfile : EmbeddingProfile where
  profileKey := "embed-v1"
  dimensions := 512
  status := .building
  expectedClauseCount := 0
  indexedClauseCount := 0
  readyAt := none

def policyClause (sequence : Nat) : PolicyIndexClause where
  policyVersionId := 0
  sequence := sequence
  text := "Refund within fourteen days."
  contentHash := "clause"

/--
A published version with `n` clauses.
-/
def withClauses (n : Nat) : PolicyIndexStore where
  profiles := [embeddingProfile]
  versions := [{
    recordVersion := 1, immutable := true, contentHash := "policy", status := .published
    effectiveFrom := none, effectiveTo := none
  }]
  clauses := (List.range n).map fun i => policyClause (i + 1)
  embeddings _ _ := none
  jobs := []

/--
It indexes `pageBudget` clauses at a time.
-/
def indexing (pageBudget : Nat) : PolicyIndexingService where
  profileKey := "embed-v1"
  jobLimit := 8
  pageBudget := pageBudget
  leaseSeconds := 90
  embed _ := .ok (List.replicate 512 (some 0))

theorem indexing_embeds (pageBudget : Nat) : (indexing pageBudget).Embeds 512 := by
  intro text
  refine ⟨List.replicate 512 (some 0), rfl, List.length_replicate, ?_⟩
  intro component hcomponent
  rw [List.eq_of_mem_replicate hcomponent]
  rfl

/--
A turn in the given second.
-/
def turn (second : Nat) : DrainRound where
  workerId := "celery:1"
  claimedAt := seconds second
  persistedAt := seconds second
  failedAt := seconds second

def turns (n : Nat) : List IndexingCommand :=
  (List.range n).map fun i => .round (turn (i + 1))

theorem four_pages : InTime 90 0 (turns 6)
    ∧ ∃ job ∈ ((indexing 1).run (withClauses 4) (.enqueue 0 :: turns 6)).jobs[0]?,
      job.status = .pending ∧ job.attemptCount = policyIndexMaxAttempts
        ∧ ((indexing 1).run (withClauses 4) (.enqueue 0 :: turns 6)).remainingClauseCount job = 1 := by
  decide +kernel

/--
A version of four clauses whose pages hold one clause each is never indexed to its end.
-/
theorem last_clause_left : (indexing 1).Embeds 512 ∧ InTime 90 0 (turns 6)
    ∧ ∃ job ∈ ((indexing 1).run (withClauses 4) (.enqueue 0 :: turns 6)).jobs[0]?,
      job.status = .pending
        ∧ ((indexing 1).run (withClauses 4) (.enqueue 0 :: turns 6)).remainingClauseCount job = 1
        ∧ ∀ later, job.isEligible 0 later policyIndexMaxAttempts = false := by
  obtain ⟨htimes, job, hjob, hpending, hexhausted, hleft⟩ := four_pages
  refine ⟨indexing_embeds 1, htimes, job, hjob, hpending, hleft, ?_⟩
  intro later
  simp [PolicyIndexJob.isEligible, hexhausted]

/--
Six clauses are indexed two at a time.
-/
theorem indexing_completes_six :
    ∃ t job, (indexing 2).enqueue (withClauses 6) 0 = .ok (t, 1) ∧ t.jobs[0]? = some job
      ∧ (∃ done, ((indexing 2).run t (turns 3)).jobs[0]? = some done ∧ done.status = .completed)
      ∧ ((indexing 2).run t (turns 3)).remainingClauseCount job = 0 := by
  have henqueued : ∃ read ∈ ((indexing 2).enqueue (withClauses 6) 0).toOption, read.2 = 1
      ∧ ∃ job ∈ read.1.jobs[0]?, (withClauses 6).remainingClauseCount job ≤ 6
        ∧ 3 * ((indexing 2).run read.1 (turns 3)).jobs.length ≤ roundCount (turns 3) := by
    decide +kernel
  obtain ⟨⟨t, created⟩, hread, rfl, job, hjob, hfits, hturns⟩ := henqueued
  have henqueue := toOption_eq_some.mp hread
  have htimes : InTime (indexing 2).leaseSeconds 0 (turns 3) := by decide +kernel
  have hembeds : ∀ profile ∈ (withClauses 6).profiles, profile.profileKey = (indexing 2).profileKey
      → (indexing 2).Embeds profile.dimensions := by
    intro profile hprofile _
    rw [List.mem_singleton.mp hprofile]
    exact indexing_embeds 2
  refine ⟨t, job, henqueue, hjob, ?_⟩
  exact (PolicyIndexingService.indexing_completes henqueue hembeds hjob (Nat.zero_le _)
    (fun other hother => absurd hother List.not_mem_nil) htimes hturns).1.mpr hfits

end Sample

end CaseResolution
