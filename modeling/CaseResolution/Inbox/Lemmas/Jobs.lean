import CaseResolution.Inbox.Impl.SyncJobs

/-!
This module contains what the transactions of the queue write: which rows a claim selects, and what becomes
of every job.
-/

namespace CaseResolution

open Guard

namespace InboxSyncJob

variable {job : InboxSyncJob} {now : Instant}

theorem holdsLease_iff : job.holdsLease now = true
    ↔ job.status = .running ∧ ∃ expiresAt ∈ job.leaseExpiresAt, now < expiresAt := by
  unfold holdsLease
  rw [decide_eq_true_iff, Option.any_eq_true]
  simp only [decide_eq_true_iff, Option.mem_def]

theorem leaseExpired_iff : job.leaseExpired now = true
    ↔ job.status = .running ∧ ∃ expiresAt ∈ job.leaseExpiresAt, expiresAt ≤ now := by
  unfold leaseExpired
  rw [decide_eq_true_iff, Option.any_eq_true]
  simp only [decide_eq_true_iff, Option.mem_def]

theorem isEligible_iff : job.isEligible now = true
    ↔ (job.status = .pending ∨ job.status = .failed ∨ job.leaseExpired now = true)
      ∧ job.availableAt ≤ now ∧ job.attemptCount < maxSyncAttempts := by
  unfold isEligible
  rw [decide_eq_true_iff]

theorem isExhausted_iff : job.isExhausted now = true
    ↔ job.leaseExpired now = true ∧ maxSyncAttempts ≤ job.attemptCount := by
  unfold isExhausted
  rw [decide_eq_true_iff]

/--
A lease that lasts beyond a later instant lasts beyond an earlier one.
-/
theorem holdsLease_mono {t : Instant} (hle : now ≤ t) (h : job.holdsLease t = true)
    : job.holdsLease now = true := by
  rw [holdsLease_iff] at h ⊢
  obtain ⟨hrunning, expiresAt, hexpires, hlt⟩ := h
  exact ⟨hrunning, expiresAt, hexpires, Int.lt_of_le_of_lt hle hlt⟩

instance : Std.Total expiredBefore where
  total a b := Int.le_total (a.2.leaseExpiresAt.getD 0) (b.2.leaseExpiresAt.getD 0)

instance : IsTrans (Nat × InboxSyncJob) expiredBefore where
  trans _ _ _ hab hbc := Int.le_trans hab hbc

theorem not_eligible_of_exhausted (h : job.isExhausted now = true) : ¬ job.isEligible now = true := by
  rw [isExhausted_iff] at h
  rw [isEligible_iff]
  omega

/--
Later writes never change what a job was requested for.
-/
def SameRequest (a b : InboxSyncJob) : Prop :=
  a.connectionId = b.connectionId ∧ a.requestedHistoryId = b.requestedHistoryId
    ∧ a.pageToken = b.pageToken ∧ a.pageBudget = b.pageBudget ∧ a.itemBudget = b.itemBudget

theorem SameRequest.refl (a : InboxSyncJob) : a.SameRequest a :=
  ⟨rfl, rfl, rfl, rfl, rfl⟩

theorem SameRequest.symm {a b : InboxSyncJob} (h : a.SameRequest b) : b.SameRequest a := by
  obtain ⟨hconnection, hhistory, htoken, hpages, hitems⟩ := h
  exact ⟨hconnection.symm, hhistory.symm, htoken.symm, hpages.symm, hitems.symm⟩

theorem SameRequest.trans {a b c : InboxSyncJob} (hab : a.SameRequest b) (hbc : b.SameRequest c)
    : a.SameRequest c := by
  unfold SameRequest at hab hbc ⊢
  grind

/--
What one transaction at `now` may make of a job.
-/
inductive Write (now : Instant) (job : InboxSyncJob) : InboxSyncJob → Prop where
  | kept : Write now job job
  | abandoned (exhausted : job.isExhausted now = true) : Write now job job.abandoned
  | leased (workerId : String) (leaseSeconds : Nat) (eligible : job.isEligible now = true)
      : Write now job (job.leased now workerId leaseSeconds)
  | completed (held : job.holdsLease now = true) : Write now job (job.completed now)
  | failed (errorCode : String) (reauthorize : Bool) (held : job.holdsLease now = true)
      : Write now job (job.failed now errorCode reauthorize)
  | requeued (dead : job.status = .dead) : Write now job (job.requeued now)

/--
The job was handed to a worker at `now`.
-/
def LeasedFrom (now : Instant) (job job' : InboxSyncJob) : Prop :=
  job.isEligible now = true ∧ ∃ workerId leaseSeconds, job' = job.leased now workerId leaseSeconds

namespace Write

variable {job' : InboxSyncJob}

theorem sameRequest (h : Write now job job') : job.SameRequest job' := by
  cases h <;> exact ⟨rfl, rfl, rfl, rfl, rfl⟩

/--
A job that is held after the write was handed out by it or held before.
-/
theorem of_holdsLease {t : Instant} (h : Write now job job') (hheld : job'.holdsLease t = true)
    : job' = job ∨ LeasedFrom now job job' := by
  rw [holdsLease_iff] at hheld
  cases h with
  | kept => exact .inl rfl
  | leased workerId leaseSeconds heligible => exact .inr ⟨heligible, workerId, leaseSeconds, rfl⟩
  | abandoned _ => simp [InboxSyncJob.abandoned] at hheld
  | completed _ => simp [InboxSyncJob.completed] at hheld
  | failed _ _ _ => simp [InboxSyncJob.failed] at hheld
  | requeued _ => simp [InboxSyncJob.requeued] at hheld

theorem attempts_le (h : Write now job job') (hle : job.attemptCount ≤ maxSyncAttempts)
    : job'.attemptCount ≤ maxSyncAttempts := by
  cases h with
  | leased _ _ heligible =>
    rw [isEligible_iff] at heligible
    exact heligible.2.2
  | requeued _ => exact Nat.zero_le _
  | _ => exact hle

/--
A job whose worker is lost and whose attempts are spent is given up or left alone.
-/
theorem of_exhausted (h : Write now job job') (hexhausted : job.isExhausted now = true)
    : job' = job ∨ job' = job.abandoned := by
  have hlease := (isExhausted_iff.mp hexhausted).1
  rw [leaseExpired_iff] at hlease
  obtain ⟨hrunning, expiresAt, hexpires, hle⟩ := hlease
  have hnotheld : ¬ job.holdsLease now = true := by
    rw [holdsLease_iff]
    intro ⟨_, other, hother, hlt⟩
    rw [Option.mem_unique hother hexpires] at hlt
    exact absurd hle (Int.not_le.mpr hlt)
  cases h with
  | kept => exact .inl rfl
  | abandoned _ => exact .inr rfl
  | leased _ _ heligible => exact absurd heligible (not_eligible_of_exhausted hexhausted)
  | completed hheld => exact absurd hheld hnotheld
  | failed _ _ hheld => exact absurd hheld hnotheld
  | requeued hdead => simp [hdead] at hrunning

end Write

end InboxSyncJob

/--
What one transaction at `now` makes of the queue: every job is written as `Write` allows, further jobs are
pending and were never tried, and at most one job of a connection is handed out, where none is held.
-/
structure QueueStep (now : Instant) (jobs jobs' : List InboxSyncJob) : Prop where
  written : Rows.Extends (InboxSyncJob.Write now) jobs jobs'
  added : ∀ (i : Nat) job, jobs.length ≤ i → jobs'[i]? = some job →
    job.status = .pending ∧ job.attemptCount = 0
  leased_free : ∀ (i : Nat) job job', jobs[i]? = some job → jobs'[i]? = some job' →
    InboxSyncJob.LeasedFrom now job job' →
    ∀ other ∈ jobs, other.connectionId = job.connectionId → ¬ other.holdsLease now = true
  leased_once : ∀ (i j : Nat) job job' other other', jobs[i]? = some job → jobs'[i]? = some job' →
    jobs[j]? = some other → jobs'[j]? = some other' → InboxSyncJob.LeasedFrom now job job' →
    InboxSyncJob.LeasedFrom now other other' → job.connectionId = other.connectionId → i = j

namespace InboxSyncJob

variable {now : Instant} {job job' : InboxSyncJob}

theorem not_leasedFrom_self : ¬ LeasedFrom now job job := by
  intro ⟨_, workerId, leaseSeconds, heq⟩
  have hcount := congrArg attemptCount heq
  simp [leased] at hcount

theorem not_leasedFrom_of_status (h : job'.status ≠ .running) : ¬ LeasedFrom now job job' := by
  intro ⟨_, workerId, leaseSeconds, heq⟩
  exact h (by rw [heq]; rfl)

end InboxSyncJob

/--
No two workers hold jobs of one connection.
-/
def InboxSyncJob.Exclusive (now : Instant) (jobs : List InboxSyncJob) : Prop :=
  ∀ (i j : Nat) job other, jobs[i]? = some job → jobs[j]? = some other →
    job.connectionId = other.connectionId → job.holdsLease now = true →
    other.holdsLease now = true → i = j

theorem InboxSyncJob.Exclusive.mono {now t : Instant} {jobs : List InboxSyncJob}
    (h : InboxSyncJob.Exclusive now jobs) (hle : now ≤ t) : InboxSyncJob.Exclusive t jobs := by
  intro i j job other hi hj hconnection hjob hother
  exact h i j job other hi hj hconnection (holdsLease_mono hle hjob) (holdsLease_mono hle hother)

namespace QueueStep

variable {now : Instant} {jobs : List InboxSyncJob}

/--
A transaction that hands out no job.
-/
theorem of_not_leased {jobs' : List InboxSyncJob}
    (hwritten : Rows.Extends (InboxSyncJob.Write now) jobs jobs')
    (hadded : ∀ (i : Nat) job, jobs.length ≤ i → jobs'[i]? = some job →
      job.status = .pending ∧ job.attemptCount = 0)
    (hleased : ∀ (i : Nat) job job', jobs[i]? = some job → jobs'[i]? = some job' →
      ¬ InboxSyncJob.LeasedFrom now job job') : QueueStep now jobs jobs' where
  written := hwritten
  added := hadded
  leased_free := by
    intro i job job' hi hi' hfrom
    exact absurd hfrom (hleased i job job' hi hi')
  leased_once := by
    intro i j job job' other other' hi hi' _ _ hfrom
    exact absurd hfrom (hleased i job job' hi hi')

theorem refl : QueueStep now jobs jobs := by
  apply of_not_leased
  . exact Rows.Extends.refl (fun _ => .kept) jobs
  . intro i job hle hi
    exact absurd (List.getElem?_eq_some_iff.mp hi).1 (by omega)
  . intro i job job' hi hi'
    rw [hi, Option.some.injEq] at hi'
    exact hi' ▸ InboxSyncJob.not_leasedFrom_self

/--
A job after the step was there before or is one that nobody holds.
-/
theorem cases {jobs' : List InboxSyncJob} (h : QueueStep now jobs jobs') {i : Nat}
    {job' : InboxSyncJob} (hi' : jobs'[i]? = some job')
    : (∃ job, jobs[i]? = some job ∧ InboxSyncJob.Write now job job')
      ∨ (job'.status = .pending ∧ job'.attemptCount = 0) := by
  by_cases hlt : i < jobs.length
  . obtain ⟨other, hother, hwrite⟩ := h.written i _ (List.getElem?_eq_getElem hlt)
    rw [hi', Option.some.injEq] at hother
    exact .inl ⟨_, List.getElem?_eq_getElem hlt, hother ▸ hwrite⟩
  . exact .inr (h.added i job' (Nat.le_of_not_lt hlt) hi')

theorem attempts_le {jobs' : List InboxSyncJob} (h : QueueStep now jobs jobs')
    (hjobs : ∀ job ∈ jobs, job.attemptCount ≤ maxSyncAttempts)
    : ∀ job ∈ jobs', job.attemptCount ≤ maxSyncAttempts := by
  intro job' hjob'
  obtain ⟨i, hi'⟩ := List.mem_iff_getElem?.mp hjob'
  cases h.cases hi' with
  | inl hold =>
    obtain ⟨job, hi, hwrite⟩ := hold
    exact hwrite.attempts_le (hjobs job (List.mem_of_getElem? hi))
  | inr hnew =>
    rw [hnew.2]
    exact Nat.zero_le _

/--
A step never makes a connection have two held jobs.
-/
theorem exclusive {jobs' : List InboxSyncJob} (h : QueueStep now jobs jobs')
    (hjobs : InboxSyncJob.Exclusive now jobs) : InboxSyncJob.Exclusive now jobs' := by
  -- a job that is held now was handed out by the step or held before it
  have hheld : ∀ (i : Nat) job', jobs'[i]? = some job' → job'.holdsLease now = true →
      ∃ job, jobs[i]? = some job ∧ job.connectionId = job'.connectionId
        ∧ (job.holdsLease now = true ∨ InboxSyncJob.LeasedFrom now job job') := by
    intro i job' hi' hheld
    cases h.cases hi' with
    | inl hold =>
      obtain ⟨job, hi, hwrite⟩ := hold
      refine ⟨job, hi, hwrite.sameRequest.1, ?_⟩
      cases hwrite.of_holdsLease hheld with
      | inl heq => exact .inl (heq ▸ hheld)
      | inr hleased => exact .inr hleased
    | inr hnew =>
      have hrunning := (InboxSyncJob.holdsLease_iff.mp hheld).1
      rw [hnew.1] at hrunning
      cases hrunning
  intro i j job' other' hi' hj' hconnection hjob hother
  obtain ⟨job, hi, hc, hjob⟩ := hheld i job' hi' hjob
  obtain ⟨other, hj, hc', hother⟩ := hheld j other' hj' hother
  have hsame : job.connectionId = other.connectionId := hc.trans (hconnection.trans hc'.symm)
  cases hjob with
  | inl hold =>
    cases hother with
    | inl hold' => exact hjobs i j job other hi hj hsame hold hold'
    | inr hleased =>
      exact absurd hold (h.leased_free j other other' hj hj' hleased job (List.mem_of_getElem? hi) hsame)
  | inr hleased =>
    cases hother with
    | inl hold' =>
      exact absurd hold'
        (h.leased_free i job job' hi hi' hleased other (List.mem_of_getElem? hj) hsame.symm)
    | inr hleased' => exact h.leased_once i j job job' other other' hi hi' hj hj' hleased hleased' hsame

theorem append {job : InboxSyncJob} (hstatus : job.status = .pending) (hcount : job.attemptCount = 0)
    : QueueStep now jobs (jobs ++ [job]) := by
  apply of_not_leased
  . exact Rows.Extends.append (fun _ => .kept) jobs [job]
  . intro i other hle hi
    cases Rows.getElem?_concat_cases hi with
    | inl hold => exact absurd (List.getElem?_eq_some_iff.mp hold).1 (by omega)
    | inr hnew => exact hnew.2 ▸ ⟨hstatus, hcount⟩
  . intro i old job' hi hi'
    have hlt := (List.getElem?_eq_some_iff.mp hi).1
    rw [List.getElem?_append_left hlt, hi, Option.some.injEq] at hi'
    exact hi' ▸ InboxSyncJob.not_leasedFrom_self

/--
A write to one job that does not hand it out.
-/
theorem set {i : Nat} {job job' : InboxSyncJob} (hi : jobs[i]? = some job)
    (hwrite : InboxSyncJob.Write now job job') (hstatus : job'.status ≠ .running)
    : QueueStep now jobs (jobs.set i job') := by
  apply of_not_leased
  . exact Rows.Extends.set (fun _ => .kept) hi hwrite
  . intro j other hle hj
    have hlt := (List.getElem?_eq_some_iff.mp hj).1
    rw [List.length_set] at hlt
    omega
  . intro j other other' hj hj'
    cases Rows.getElem?_set_cases hj' with
    | inl hset => exact InboxSyncJob.not_leasedFrom_of_status (hset.2.1 ▸ hstatus)
    | inr hold =>
      rw [hold.2, Option.some.injEq] at hj
      exact hj ▸ InboxSyncJob.not_leasedFrom_self

end QueueStep

end CaseResolution
