import CaseResolution.PolicyIndexing.Lemmas.Jobs

/-!
This module contains what one turn of the drain loop does while the embedding provider answers and the
lease lasts: a claimed job gets its next page indexed.
-/

namespace CaseResolution

open Guard

namespace PolicyIndexingService

/--
The provider answers every request with a vector of the given dimension.
-/
def Embeds (service : PolicyIndexingService) (dimensions : Nat) : Prop :=
  ∀ text, ∃ vector, service.embed text = .ok vector ∧ vector.length = dimensions
    ∧ ∀ component ∈ vector, component.isSome

variable {service : PolicyIndexingService} {s : PolicyIndexStore} {profileId : Nat}
  {profile : EmbeddingProfile}

theorem embed_all {dimensions : Nat} (h : service.Embeds dimensions)
    (page : List (Nat × PolicyIndexClause))
    : ∃ vectors, (page.mapM fun row => service.embed row.2.text) = .ok vectors
        ∧ vectors.length = page.length
        ∧ ∀ vector ∈ vectors, vector.length = dimensions ∧ ∀ component ∈ vector, component.isSome := by
  induction page with
  | nil => exact ⟨[], rfl, rfl, by simp⟩
  | cons row rest ih =>
    obtain ⟨vector, hvector, hvalid⟩ := h row.2.text
    obtain ⟨vectors, hvectors, hlength, hall⟩ := ih
    refine ⟨vector :: vectors, ?_, by simp [hlength], ?_⟩
    . simp only [List.mapM_cons, hvector, hvectors]
      rfl
    . intro other hother
      cases List.mem_cons.mp hother with
      | inl hfirst => exact hfirst ▸ hvalid
      | inr hrest => exact hall other hrest

variable [Digest]

theorem drainRound_of_none {round : DrainRound}
    (hprofile : s.requiredProfile service.profileKey = .ok (profileId, profile))
    (hnext : (s.sweepExhausted round.claimedAt profileId policyIndexMaxAttempts profile).nextJob
      round.claimedAt profileId policyIndexMaxAttempts = none)
    : (service.drainRound s round).1
        = s.sweepExhausted round.claimedAt profileId policyIndexMaxAttempts profile := by
  unfold drainRound PolicyIndexStore.claim
  simp only [hprofile, bind, Except.bind, hnext, pure, Except.pure]

/--
The job after its page was persisted.
-/
def pagedBy (service : PolicyIndexingService) (round : DrainRound) (job : PolicyIndexJob)
    (indexed remaining : Nat) : PolicyIndexJob :=
  (job.leased round.claimedAt round.workerId service.leaseSeconds).paged round.persistedAt indexed 0
    remaining

/--
A turn that claims a job indexes the next page of the job.
-/
theorem drainRound_of_some {round : DrainRound} {i : Nat} {job : PolicyIndexJob}
    (hprofile : s.requiredProfile service.profileKey = .ok (profileId, profile))
    (hembeds : service.Embeds profile.dimensions)
    (hlease : round.persistedAt < round.claimedAt + seconds service.leaseSeconds)
    (hnext : (s.sweepExhausted round.claimedAt profileId policyIndexMaxAttempts profile).nextJob
      round.claimedAt profileId policyIndexMaxAttempts = some (i, job))
    : ∃ t indexed, (service.drainRound s round).1 = t
        ∧ s.Keeps t service.profileKey
        ∧ t.jobs = (s.sweepExhausted round.claimedAt profileId policyIndexMaxAttempts profile).jobs.set i
          (service.pagedBy round job indexed (t.remainingClauseCount job))
        ∧ ∀ row : Nat × PolicyIndexClause, s.clauses[row.1]? = some row.2
          → t.isIndexed profileId row
            = (s.isIndexed profileId row || decide (row ∈ s.pendingClauses job)) := by
  have hswept := PolicyIndexStore.sweepExhausted_swept round.claimedAt
    policyIndexMaxAttempts hprofile
  generalize hsweep : s.sweepExhausted round.claimedAt profileId policyIndexMaxAttempts profile = swept
    at hnext hswept ⊢
  obtain ⟨kept, hkept, hdimensions⟩ := hswept.profile profileId profile hprofile
  obtain ⟨hjob, heligible⟩ := PolicyIndexStore.nextJob_eq_some hnext
  simp only [PolicyIndexJob.isEligible, decide_eq_true_eq] at heligible
  let leased := job.leased round.claimedAt round.workerId service.leaseSeconds
  let stored := swept.setJob i leased
  let work : PolicyIndexWorkItem := {
    jobId := i
    job := leased
    profileId := profileId
    profile := kept
    clauses := stored.pendingClauses leased
    leaseExpiresAt := round.claimedAt + seconds service.leaseSeconds
  }
  have hprofiles : stored.profiles[profileId]? = some kept :=
    (PolicyIndexStore.requiredProfile_eq_ok.mp hkept).2
  have hclaim : s.claim round.claimedAt policyIndexMaxAttempts service.profileKey round.workerId
      service.leaseSeconds = .ok (stored, some work) := by
    have hread : (stored.profiles[profileId]?).getD profile = kept := by
      rw [hprofiles, Option.getD_some]
    unfold PolicyIndexStore.claim
    simp only [hprofile, bind, Except.bind, hsweep, hnext, pure, Except.pure]
    exact congrArg (fun read => Except.ok (stored, some { work with profile := read })) hread
  have hrequired : stored.requiredProfile service.profileKey = .ok (work.profileId, kept) := hkept
  have hclauses : stored.clauses = s.clauses := hswept.clauses
  have hindexed : ∀ row, stored.isIndexed profileId row = s.isIndexed profileId row := fun _ =>
    PolicyIndexStore.isIndexed_congr hswept.embeddings
  have hpage : work.clauses = s.pendingClauses job := by
    have hunindexed : stored.unindexedClauses leased = s.unindexedClauses job := by
      unfold PolicyIndexStore.unindexedClauses
      rw [hclauses, show leased.profileId = profileId from heligible.1, heligible.1]
      simp only [hindexed]
      rfl
    show stored.pendingClauses leased = s.pendingClauses job
    unfold PolicyIndexStore.pendingClauses
    rw [hunindexed]
    rfl
  obtain ⟨vectors, hvectors, hlength, hvalid⟩ := embed_all hembeds work.clauses
  have hlt := (List.getElem?_eq_some_iff.mp hjob).1
  obtain ⟨t, hpersist, hkeeps, hjobs, hwritten⟩ := PolicyIndexStore.persistPage_of_leased
    round.persistedAt hrequired (List.getElem?_set_self hlt) heligible.1 rfl rfl hlease
    hlength
    (fun row hrow => (PolicyIndexStore.mem_unindexedClauses.mp
      (PolicyIndexStore.mem_pendingClauses hrow)).1)
    (fun vector hvector => ⟨(hvalid vector hvector).1.trans hdimensions.symm, (hvalid vector hvector).2⟩)
  refine ⟨t, work.clauses.length, ?_, ?_, ?_, ?_⟩
  . unfold drainRound
    rw [hclaim]
    dsimp only
    unfold index
    simp only [hvectors, bind, Except.bind, hpersist, Except.mapError]
  . have hstored : swept.Keeps stored service.profileKey := .of_eq rfl rfl rfl
    exact (hswept.toKeeps.trans hstored).trans hkeeps
  . rw [hjobs]
    exact List.set_set _
  . intro row hrow
    rw [hwritten row (hclauses ▸ hrow), hindexed, hpage]

end PolicyIndexingService

end CaseResolution
