import CaseResolution.Inbox.Lemmas.Jobs

/-!
This module contains what a claim does to the queue: lost workers are given up first, and then at most one
job of every connection is handed out.
-/

namespace CaseResolution

open Guard

/--
The work as the tables have it when it is handed to a worker.
-/
structure InboxSyncWork.Taken (work : InboxSyncWork) (s : InboxStore) : Prop where
  job : s.jobs[work.jobId]? = some work.job
  committed : ∃ checkpointId checkpoint,
    s.findCheckpoint work.job.connectionId = some (checkpointId, checkpoint)
      ∧ work.committedHistoryId = checkpoint.providerHistoryId

/--
Only a completed job moves what a connection has committed to.
-/
def InboxSyncCheckpoint.SameHistory (a b : InboxSyncCheckpoint) : Prop :=
  a.connectionId = b.connectionId ∧ a.providerHistoryId = b.providerHistoryId

theorem InboxSyncCheckpoint.SameHistory.refl (a : InboxSyncCheckpoint) : a.SameHistory a :=
  ⟨rfl, rfl⟩

theorem InboxSyncCheckpoint.SameHistory.trans {a b c : InboxSyncCheckpoint} (hab : a.SameHistory b)
    (hbc : b.SameHistory c) : a.SameHistory c :=
  ⟨hab.1.trans hbc.1, hab.2.trans hbc.2⟩

namespace InboxStore

variable {s s' : InboxStore} {now : Instant} {limit : Nat} {connectionId : Option Nat}

theorem findCheckpoint_eq_some {connection checkpointId : Nat} {checkpoint : InboxSyncCheckpoint}
    (h : s.findCheckpoint connection = some (checkpointId, checkpoint))
    : s.checkpoints[checkpointId]? = some checkpoint ∧ checkpoint.connectionId = connection := by
  have hmem := List.mem_of_find?_eq_some h
  have hfound := List.find?_some h
  rw [Rows.mem_numbered] at hmem
  exact ⟨hmem, of_decide_eq_true hfound⟩

theorem updateCheckpoint_eq_ok {connection : Nat}
    {values : InboxSyncCheckpoint → InboxSyncCheckpoint}
    : s.updateCheckpoint connection values = .ok s'
      ↔ ∃ checkpointId checkpoint, s.findCheckpoint connection = some (checkpointId, checkpoint)
        ∧ { s with
            checkpoints := s.checkpoints.set checkpointId
              { values checkpoint with version := checkpoint.version + 1 } } = s' := by
  unfold updateCheckpoint checkpoint
  rw [orThrow_bind_eq_ok]
  simp only [Prod.exists, pure_eq_ok]

/--
A write to a checkpoint that leaves its history leaves every history.
-/
theorem updateCheckpoint_kept {connection : Nat}
    {values : InboxSyncCheckpoint → InboxSyncCheckpoint}
    (hvalues : ∀ checkpoint : InboxSyncCheckpoint, checkpoint.SameHistory (values checkpoint))
    (h : s.updateCheckpoint connection values = .ok s')
    : ∃ checkpoints, Rows.Updates InboxSyncCheckpoint.SameHistory s.checkpoints checkpoints
        ∧ s' = { s with checkpoints := checkpoints } := by
  obtain ⟨checkpointId, checkpoint, hfind, heq⟩ := updateCheckpoint_eq_ok.mp h
  refine ⟨_, ?_, heq.symm⟩
  apply Rows.Updates.set InboxSyncCheckpoint.SameHistory.refl (findCheckpoint_eq_some hfind).1
  exact hvalues checkpoint

theorem jobRows_selects (p : InboxSyncJob → Bool) : Rows.Selects s.jobs (s.jobRows p) :=
  Rows.Selects.numbered_filter _

theorem mem_jobRows {p : InboxSyncJob → Bool} {i : Nat} {job : InboxSyncJob}
    : (i, job) ∈ s.jobRows p ↔ s.jobs[i]? = some job ∧ p job = true := by
  unfold jobRows
  rw [List.mem_filter, Rows.mem_numbered]

section Selection

variable {i : Nat} {job : InboxSyncJob}

theorem exhaustedLeaseStatement_selects
    : Rows.Selects s.jobs (s.exhaustedLeaseStatement now limit connectionId) := by
  apply Rows.Selects.sublist _ (List.take_sublist _ _)
  apply Rows.Selects.perm _ (List.perm_insertionSort _ _)
  exact jobRows_selects _

theorem exhausted_of_mem (h : (i, job) ∈ s.exhaustedLeaseStatement now limit connectionId)
    : job.isExhausted now = true := by
  have hmem := List.mem_of_mem_take h
  rw [List.mem_insertionSort, mem_jobRows, decide_eq_true_iff] at hmem
  exact hmem.2.1

/--
A lost job that is not among the first `limit` ones leaves that many which were lost no later.
-/
theorem exhausted_of_not_mem (hi : s.jobs[i]? = some job) (hexhausted : job.isExhausted now = true)
    (hcovers : ∀ c ∈ connectionId, job.connectionId = c)
    (hnot : (i, job) ∉ s.exhaustedLeaseStatement now limit connectionId)
    : (s.exhaustedLeaseStatement now limit connectionId).length = limit
      ∧ ∀ row ∈ s.exhaustedLeaseStatement now limit connectionId,
        row.2.leaseExpiresAt.getD 0 ≤ job.leaseExpiresAt.getD 0 := by
  unfold exhaustedLeaseStatement at hnot ⊢
  dsimp only at hnot ⊢
  generalize hrows : (s.jobRows fun job => decide (job.isExhausted now = true
    ∧ connectionId.all (fun connection => decide (job.connectionId = connection)) = true)) = rows
    at hnot ⊢
  have hmem : (i, job) ∈ rows.insertionSort InboxSyncJob.expiredBefore := by
    rw [List.mem_insertionSort, ← hrows, mem_jobRows]
    refine ⟨hi, ?_⟩
    rw [decide_eq_true_iff, Option.all_eq_true]
    exact ⟨hexhausted, fun c hc => decide_eq_true (hcovers c hc)⟩
  have hsorted := List.pairwise_insertionSort InboxSyncJob.expiredBefore rows
  generalize rows.insertionSort InboxSyncJob.expiredBefore = found at hmem hnot hsorted ⊢
  rw [← List.take_append_drop limit found, List.mem_append] at hmem
  have hlate := hmem.resolve_left hnot
  constructor
  . have hlength := List.length_pos_of_mem hlate
    rw [List.length_drop] at hlength
    rw [List.length_take]
    omega
  . intro row hrow
    rw [← List.take_append_drop limit found, List.pairwise_append] at hsorted
    exact hsorted.2.2 row hrow (i, job) hlate

theorem claimStatement_keys_nodup
    : ((s.claimStatement now limit connectionId).map fun row => row.2.connectionId).Nodup := by
  have hkeys := Rows.firstBy_keys_nodup (fun row : Nat × InboxSyncJob => row.2.connectionId)
  exact (hkeys _).sublist ((List.take_sublist _ _).map _)

theorem mem_claimStatement (h : (i, job) ∈ s.claimStatement now limit connectionId)
    : s.jobs[i]? = some job ∧ job.isEligible now = true
      ∧ s.activeLeaseExists now job.connectionId = false := by
  have hmem := Rows.mem_of_mem_firstBy (List.mem_of_mem_take h)
  rw [List.mem_insertionSort, mem_jobRows, decide_eq_true_iff, Bool.not_eq_true] at hmem
  exact ⟨hmem.1, hmem.2.1, hmem.2.2.1⟩

theorem claimStatement_selects
    : Rows.Selects s.jobs (s.claimStatement now limit connectionId) where
  stored _ _ h := (mem_claimStatement h).1
  nodup := claimStatement_keys_nodup.of_map _

/--
A claim hands out at most one job of a connection.
-/
theorem claimStatement_unique {j : Nat} {other : InboxSyncJob}
    (hi : (i, job) ∈ s.claimStatement now limit connectionId)
    (hj : (j, other) ∈ s.claimStatement now limit connectionId)
    (hconnection : job.connectionId = other.connectionId) : i = j := by
  have hkeys : ((s.claimStatement now limit connectionId).map fun row => row.2.connectionId).Nodup :=
    claimStatement_keys_nodup
  have hinj := List.inj_on_of_nodup_map hkeys
  exact congrArg Prod.fst (hinj hi hj hconnection)

theorem activeLeaseExists_eq_false {connection : Nat}
    : s.activeLeaseExists now connection = false
      ↔ ∀ other ∈ s.jobs, other.connectionId = connection → ¬ other.holdsLease now = true := by
  unfold activeLeaseExists
  rw [List.any_eq_false]
  simp only [decide_eq_true_iff, not_and]

end Selection

/--
The lost jobs are given up one after the other.
-/
theorem abandonAll_eq_ok {rows : List (Nat × InboxSyncJob)}
    (h : rows.foldlM (fun s row => s.abandon now row) s = .ok s')
    : ∃ checkpoints, Rows.Updates InboxSyncCheckpoint.SameHistory s.checkpoints checkpoints
        ∧ s' = { s with
            jobs := Rows.setAll InboxSyncJob.abandoned rows s.jobs
            checkpoints := checkpoints } := by
  induction rows generalizing s with
  | nil =>
    rw [List.foldlM_nil, pure_eq_ok] at h
    exact ⟨s.checkpoints, Rows.Updates.refl InboxSyncCheckpoint.SameHistory.refl _, h.symm⟩
  | cons row rows ih =>
    rw [List.foldlM_cons, bind_eq_ok] at h
    obtain ⟨t, ht, hrest⟩ := h
    unfold abandon at ht
    obtain ⟨middle, hmiddle, heq⟩ := updateCheckpoint_kept (by intro _; exact ⟨rfl, rfl⟩) ht
    obtain ⟨checkpoints, hkept, heq'⟩ := ih hrest
    subst heq heq'
    exact ⟨checkpoints, Rows.Updates.trans (fun hab hbc => hab.trans hbc) hmiddle hkept, rfl⟩

theorem leaseAll_eq_ok {workerId : String} {leaseSeconds : Nat} {rows : List (Nat × InboxSyncJob)}
    {works : List InboxSyncWork} (h : leaseAll now workerId leaseSeconds s rows = .ok (s', works))
    : s' = { s with jobs := Rows.setAll (fun job => job.leased now workerId leaseSeconds) rows s.jobs }
      ∧ ∀ work ∈ works, (∃ row ∈ rows, work.jobId = row.1
          ∧ work.job = row.2.leased now workerId leaseSeconds)
        ∧ ∃ checkpointId checkpoint,
          s.findCheckpoint work.job.connectionId = some (checkpointId, checkpoint)
            ∧ work.committedHistoryId = checkpoint.providerHistoryId := by
  induction rows generalizing s s' works with
  | nil =>
    rw [leaseAll, pure_eq_ok, Prod.mk.injEq] at h
    rw [← h.1, ← h.2]
    exact ⟨rfl, by simp⟩
  | cons row rows ih =>
    rw [leaseAll, bind_eq_ok] at h
    obtain ⟨⟨t, work⟩, ht, hrest⟩ := h
    rw [bind_eq_ok] at hrest
    obtain ⟨⟨u, others⟩, hu, heq⟩ := hrest
    rw [pure_eq_ok, Prod.mk.injEq] at heq
    unfold lease checkpoint at ht
    rw [orThrow_bind_eq_ok] at ht
    obtain ⟨⟨checkpointId, checkpoint⟩, hfind, hset⟩ := ht
    rw [pure_eq_ok, Prod.mk.injEq] at hset
    obtain ⟨hstore, hwork⟩ := hset
    obtain ⟨hrows, hworks⟩ := ih hu
    rw [← heq.1, ← heq.2]
    subst hstore hwork
    refine ⟨hrows, ?_⟩
    intro other hother
    cases List.mem_cons.mp hother with
    | inl hfirst =>
      subst hfirst
      exact ⟨⟨row, List.mem_cons_self, rfl, rfl⟩, checkpointId, checkpoint, hfind, rfl⟩
    | inr hmem =>
      obtain ⟨⟨taken, htaken, hid, hjob⟩, hcommitted⟩ := hworks other hmem
      exact ⟨⟨taken, List.mem_cons_of_mem _ htaken, hid, hjob⟩, hcommitted⟩

section Claim

variable {workerId : String} {leaseSeconds : Nat} {works : List InboxSyncWork} {i : Nat}
  {job : InboxSyncJob}

theorem claim_eq_ok (h : s.claim now limit connectionId workerId leaseSeconds = .ok (s', works))
    : ∃ checkpoints, Rows.Updates InboxSyncCheckpoint.SameHistory s.checkpoints checkpoints
        ∧ ∃ t : InboxStore, t = { s with
            jobs := Rows.setAll InboxSyncJob.abandoned
              (s.exhaustedLeaseStatement now limit connectionId) s.jobs
            checkpoints := checkpoints }
          ∧ t.leaseAll now workerId leaseSeconds (t.claimStatement now limit connectionId)
            = .ok (s', works) := by
  unfold claim at h
  rw [ensure_bind_eq_ok, bind_eq_ok] at h
  obtain ⟨_, t, habandoned, hleased⟩ := h
  obtain ⟨checkpoints, hkept, heq⟩ := abandonAll_eq_ok habandoned
  exact ⟨checkpoints, hkept, t, heq, hleased⟩

theorem claim_jobs (h : s.claim now limit connectionId workerId leaseSeconds = .ok (s', works))
    : ∃ t : InboxStore,
        t.jobs = Rows.setAll InboxSyncJob.abandoned
          (s.exhaustedLeaseStatement now limit connectionId) s.jobs
        ∧ s'.jobs = Rows.setAll (fun job => job.leased now workerId leaseSeconds)
          (t.claimStatement now limit connectionId) t.jobs := by
  obtain ⟨checkpoints, _, t, ht, hleased⟩ := claim_eq_ok h
  have hs := (leaseAll_eq_ok hleased).1
  exact ⟨t, by rw [ht], by rw [hs]⟩

/--
A claim leaves everything but the jobs and the state of the checkpoints.
-/
theorem claim_framed (h : s.claim now limit connectionId workerId leaseSeconds = .ok (s', works))
    : s' = { s with jobs := s'.jobs, checkpoints := s'.checkpoints }
      ∧ Rows.Updates InboxSyncCheckpoint.SameHistory s.checkpoints s'.checkpoints := by
  obtain ⟨checkpoints, hkept, t, ht, hleased⟩ := claim_eq_ok h
  have hs := (leaseAll_eq_ok hleased).1
  subst ht
  rw [hs]
  exact ⟨rfl, hkept⟩

theorem claim_works (h : s.claim now limit connectionId workerId leaseSeconds = .ok (s', works))
    : ∀ work ∈ works, work.Taken s' := by
  obtain ⟨_, _, t, _, hleased⟩ := claim_eq_ok h
  obtain ⟨hs, hworks⟩ := leaseAll_eq_ok hleased
  intro work hwork
  obtain ⟨⟨⟨i, job⟩, hrow, hid, hjob⟩, hcommitted⟩ := hworks work hwork
  have hstored := (mem_claimStatement hrow).1
  rw [hs]
  constructor
  . rw [hid, hjob]
    exact (Rows.getElem?_setAll (f := fun job => job.leased now workerId leaseSeconds)
      claimStatement_selects hstored).1 hrow
  . exact hcommitted

/--
What a claim makes of one job: it gives the job up, hands it out, or leaves it alone.
-/
theorem claim_row {t : InboxStore}
    (ht : t.jobs = Rows.setAll InboxSyncJob.abandoned
      (s.exhaustedLeaseStatement now limit connectionId) s.jobs)
    (hs : s'.jobs = Rows.setAll (fun job => job.leased now workerId leaseSeconds)
      (t.claimStatement now limit connectionId) t.jobs)
    (hi : s.jobs[i]? = some job)
    : ((i, job) ∈ s.exhaustedLeaseStatement now limit connectionId
        ∧ s'.jobs[i]? = some job.abandoned)
      ∨ ((i, job) ∈ t.claimStatement now limit connectionId
        ∧ s'.jobs[i]? = some (job.leased now workerId leaseSeconds))
      ∨ ((i, job) ∉ s.exhaustedLeaseStatement now limit connectionId
        ∧ s'.jobs[i]? = some job) := by
  have hexhausted : Rows.Selects s.jobs (s.exhaustedLeaseStatement now limit connectionId) :=
    exhaustedLeaseStatement_selects
  have hclaims : Rows.Selects t.jobs (t.claimStatement now limit connectionId) :=
    claimStatement_selects
  have hfirst := Rows.getElem?_setAll (f := InboxSyncJob.abandoned) hexhausted hi
  have hsecond := fun {other : InboxSyncJob} (hother : t.jobs[i]? = some other) =>
    Rows.getElem?_setAll (f := fun job => job.leased now workerId leaseSeconds) hclaims hother
  rw [← ht] at hfirst
  rw [← hs] at hsecond
  by_cases hlost : (i, job) ∈ s.exhaustedLeaseStatement now limit connectionId
  . have hdead := hfirst.1 hlost
    -- a job that was just given up is dead, so it is not handed out again
    have hnot : (i, job.abandoned) ∉ t.claimStatement now limit connectionId := by
      intro hmem
      have heligible := (mem_claimStatement hmem).2.1
      rw [InboxSyncJob.isEligible_iff, InboxSyncJob.leaseExpired_iff] at heligible
      simp [InboxSyncJob.abandoned] at heligible
    exact .inl ⟨hlost, (hsecond hdead).2 hnot⟩
  . have hkept := hfirst.2 hlost
    by_cases hclaimed : (i, job) ∈ t.claimStatement now limit connectionId
    . exact .inr (.inl ⟨hclaimed, (hsecond hkept).1 hclaimed⟩)
    . exact .inr (.inr ⟨hlost, (hsecond hkept).2 hclaimed⟩)

theorem claim_queueStep
    (h : s.claim now limit connectionId workerId leaseSeconds = .ok (s', works))
    : QueueStep now s.jobs s'.jobs := by
  obtain ⟨t, ht, hs⟩ := claim_jobs h
  have hclaimed : ∀ (i : Nat) job job', s.jobs[i]? = some job → s'.jobs[i]? = some job' →
      InboxSyncJob.LeasedFrom now job job' →
      (i, job) ∈ t.claimStatement now limit connectionId := by
    intro i job job' hi hi' hfrom
    obtain hlost | hleased | hkept := claim_row ht hs hi
    . rw [hlost.2, Option.some.injEq] at hi'
      have hdead : job'.status ≠ .running := by
        rw [← hi']
        simp [InboxSyncJob.abandoned]
      exact absurd hfrom (InboxSyncJob.not_leasedFrom_of_status hdead)
    . exact hleased.1
    . rw [hkept.2, Option.some.injEq] at hi'
      exact absurd hfrom (hi' ▸ InboxSyncJob.not_leasedFrom_self)
  constructor
  . intro i job hi
    obtain hlost | hleased | hkept := claim_row ht hs hi
    . exact ⟨_, hlost.2, .abandoned (exhausted_of_mem hlost.1)⟩
    . exact ⟨_, hleased.2, .leased _ _ (mem_claimStatement hleased.1).2.1⟩
    . exact ⟨_, hkept.2, .kept⟩
  . intro i job hle hi
    have hlt := (List.getElem?_eq_some_iff.mp hi).1
    rw [hs, Rows.setAll_length, ht, Rows.setAll_length] at hlt
    omega
  . intro i job job' hi hi' hfrom other hother hconnection hheld
    have hfree := (mem_claimStatement (hclaimed i job job' hi hi' hfrom)).2.2
    rw [activeLeaseExists_eq_false] at hfree
    obtain ⟨k, hk⟩ := List.mem_iff_getElem?.mp hother
    -- a job that is held was not given up
    have hnot : (k, other) ∉ s.exhaustedLeaseStatement now limit connectionId := by
      intro hmem
      have hlease := (InboxSyncJob.isExhausted_iff.mp (exhausted_of_mem hmem)).1
      rw [InboxSyncJob.leaseExpired_iff] at hlease
      rw [InboxSyncJob.holdsLease_iff] at hheld
      obtain ⟨_, expiresAt, hexpires, hexpired⟩ := hlease
      obtain ⟨_, other, hother, hlt⟩ := hheld
      rw [Option.mem_unique hother hexpires] at hlt
      exact absurd hexpired (Int.not_le.mpr hlt)
    have hstored := (Rows.getElem?_setAll (f := InboxSyncJob.abandoned)
      exhaustedLeaseStatement_selects hk).2 hnot
    rw [← ht] at hstored
    exact hfree other (List.mem_of_getElem? hstored) hconnection hheld
  . intro i j job job' other other' hi hi' hj hj' hfrom hfrom' hconnection
    exact claimStatement_unique (hclaimed i job job' hi hi' hfrom)
      (hclaimed j other other' hj hj' hfrom') hconnection

/--
A claim gives up every lost job it covers, as far as its limit goes, and the ones lost first are first.
-/
theorem claim_abandons
    (h : s.claim now limit connectionId workerId leaseSeconds = .ok (s', works))
    (hi : s.jobs[i]? = some job) (hexhausted : job.isExhausted now = true)
    (hcovers : ∀ c ∈ connectionId, job.connectionId = c)
    : s'.jobs[i]? = some job.abandoned
      ∨ ∃ rows : List (Nat × InboxSyncJob), rows.length = limit ∧ Rows.Selects s.jobs rows
        ∧ ∀ row ∈ rows, row.2.isExhausted now = true
          ∧ row.2.leaseExpiresAt.getD 0 ≤ job.leaseExpiresAt.getD 0
          ∧ s'.jobs[row.1]? = some row.2.abandoned := by
  obtain ⟨t, ht, hs⟩ := claim_jobs h
  obtain hlost | hleased | hkept := claim_row ht hs hi
  . exact .inl hlost.2
  . exact absurd (mem_claimStatement hleased.1).2.1
      (InboxSyncJob.not_eligible_of_exhausted hexhausted)
  . obtain ⟨hlength, hearlier⟩ := exhausted_of_not_mem hi hexhausted hcovers hkept.1
    refine .inr ⟨_, hlength, exhaustedLeaseStatement_selects, ?_⟩
    intro (k, other) hrow
    have hk := exhaustedLeaseStatement_selects.stored k other hrow
    have hother := exhausted_of_mem hrow
    refine ⟨hother, hearlier _ hrow, ?_⟩
    obtain hlost | hleased | hkept := claim_row ht hs hk
    . exact hlost.2
    . exact absurd (mem_claimStatement hleased.1).2.1
        (InboxSyncJob.not_eligible_of_exhausted hother)
    . exact absurd hrow hkept.1

end Claim

end InboxStore

end CaseResolution
