import CaseResolution.Inbox.Lemmas.Claims
import CaseResolution.Inbox.Lemmas.Conversations

/-!
This module contains what the other transactions of the queue write: requests, completions, failures and
the requeueing of dead jobs.
-/

namespace CaseResolution

open Guard

namespace InboxStore

variable {s s' : InboxStore} {now : Instant} {jobId : Nat} {workerId : String}

theorem enqueue_eq_ok {request : SyncRequest} {i : Nat} (h : s.enqueue now request = .ok (s', i))
    : s' = s ∨ s' = { s with jobs := s.jobs ++ [request.job now] } := by
  unfold enqueue at h
  rw [ensure_bind_eq_ok] at h
  obtain ⟨_, h⟩ := h
  dsimp only at h
  split at h
  . rw [pure_eq_ok, Prod.mk.injEq] at h
    exact .inl h.1.symm
  . rw [pure_eq_ok, Prod.mk.injEq] at h
    exact .inl h.1.symm
  . rw [pure_eq_ok, Prod.mk.injEq] at h
    exact .inr h.1.symm

theorem enqueue_queueStep {request : SyncRequest} {i : Nat}
    (h : s.enqueue now request = .ok (s', i)) : QueueStep now s.jobs s'.jobs := by
  cases enqueue_eq_ok h with
  | inl heq =>
    subst heq
    exact QueueStep.refl
  | inr heq =>
    subst heq
    exact QueueStep.append rfl rfl

/--
A dead job is requeued, any other is left alone.
-/
theorem reprocess_eq_ok (h : s.reprocess now jobId = .ok s')
    : s' = s ∨ ∃ job checkpointId checkpoint, s.jobs[jobId]? = some job ∧ job.status = .dead
      ∧ s.findCheckpoint job.connectionId = some (checkpointId, checkpoint)
      ∧ s' = { s with
          jobs := s.jobs.set jobId (job.requeued now)
          checkpoints := s.checkpoints.set checkpointId
            { checkpoint with status := .delayed, version := checkpoint.version + 1 } } := by
  unfold reprocess at h
  rw [orThrow_bind_eq_ok] at h
  obtain ⟨job, hjob, h⟩ := h
  split at h
  . rw [pure_eq_ok] at h
    exact .inl h.symm
  . next hdead =>
    obtain ⟨checkpointId, checkpoint, hfind, heq⟩ := updateCheckpoint_eq_ok.mp h
    exact .inr ⟨job, checkpointId, checkpoint, hjob, not_not.mp hdead, hfind, heq.symm⟩

theorem reprocess_queueStep (h : s.reprocess now jobId = .ok s') : QueueStep now s.jobs s'.jobs := by
  obtain heq | ⟨job, _, _, hjob, hdead, _, heq⟩ := reprocess_eq_ok h
  . rw [heq]
    exact QueueStep.refl
  . rw [heq]
    exact QueueStep.set hjob (.requeued hdead) (by simp [InboxSyncJob.requeued])

theorem runningJob_eq_ok {job : InboxSyncJob} : s.runningJob now jobId workerId = .ok job
    ↔ s.jobs[jobId]? = some job ∧ job.holdsLease now = true ∧ job.leaseOwner = some workerId := by
  unfold runningJob
  rw [orThrow_bind_eq_ok]
  simp only [ensure_bind_eq_ok, pure_eq_ok]
  constructor
  . rintro ⟨found, hfound, hheld, heq⟩
    subst heq
    exact ⟨hfound, hheld⟩
  . rintro ⟨hfound, hheld⟩
    exact ⟨job, hfound, hheld, rfl⟩

theorem fail_eq_ok {errorCode : String} {reauthorize : Bool}
    (h : s.fail now jobId workerId errorCode reauthorize = .ok s')
    : ∃ job checkpoints, s.jobs[jobId]? = some job ∧ job.holdsLease now = true
      ∧ (∃ checkpointId checkpoint checkpoint',
        s.findCheckpoint job.connectionId = some (checkpointId, checkpoint)
          ∧ checkpoints = s.checkpoints.set checkpointId checkpoint'
          ∧ checkpoint'.connectionId = checkpoint.connectionId
          ∧ checkpoint'.providerHistoryId = checkpoint.providerHistoryId)
      ∧ s' = { s with
          jobs := s.jobs.set jobId (job.failed now errorCode reauthorize)
          checkpoints := checkpoints } := by
  unfold fail at h
  rw [bind_eq_ok] at h
  obtain ⟨job, hjob, h⟩ := h
  obtain ⟨hfound, hheld, _⟩ := runningJob_eq_ok.mp hjob
  obtain ⟨checkpointId, checkpoint, hfind, heq⟩ := updateCheckpoint_eq_ok.mp h
  refine ⟨job, _, hfound, hheld, ?_, heq.symm⟩
  exact ⟨checkpointId, checkpoint, _, hfind, rfl, rfl, rfl⟩

theorem fail_queueStep {errorCode : String} {reauthorize : Bool}
    (h : s.fail now jobId workerId errorCode reauthorize = .ok s')
    : QueueStep now s.jobs s'.jobs := by
  obtain ⟨job, _, hjob, hheld, _, heq⟩ := fail_eq_ok h
  rw [heq]
  apply QueueStep.set hjob (.failed errorCode reauthorize hheld)
  unfold InboxSyncJob.failed
  dsimp only
  split <;> simp

variable [Digest]

/--
The jobs a completion adds: the continuation, if there are further pages.
-/
def continuations (job : InboxSyncJob) (nextPageToken : Option PageToken)
    (committedHistoryId : Option HistoryId) (now : Instant) : List InboxSyncJob :=
  (nextPageToken.map fun pageToken => continuation job pageToken committedHistoryId now).toList

theorem complete_eq_ok {observedHistoryId : HistoryId} {nextPageToken : Option PageToken}
    (h : s.complete now jobId workerId observedHistoryId nextPageToken = .ok s')
    : ∃ job checkpointId checkpoint, s.jobs[jobId]? = some job ∧ job.holdsLease now = true
      ∧ s.findCheckpoint job.connectionId = some (checkpointId, checkpoint)
      ∧ s' = { s with
          jobs := (s.jobs ++ continuations job nextPageToken checkpoint.providerHistoryId now).set
            jobId (job.completed now)
          checkpoints := s.checkpoints.set checkpointId
            { checkpoint.observed now observedHistoryId nextPageToken with
              version := checkpoint.version + 1 } } := by
  unfold complete at h
  rw [bind_eq_ok] at h
  obtain ⟨job, hjob, h⟩ := h
  obtain ⟨hfound, hheld, _⟩ := runningJob_eq_ok.mp hjob
  unfold checkpoint at h
  rw [orThrow_bind_eq_ok] at h
  obtain ⟨⟨_, checkpoint⟩, hfind, h⟩ := h
  rw [bind_eq_ok] at h
  obtain ⟨observed, hobserved, h⟩ := h
  obtain ⟨checkpointId, other, hother, heq⟩ := updateCheckpoint_eq_ok.mp hobserved
  rw [hfind, Option.some.injEq, Prod.mk.injEq] at hother
  obtain ⟨hid, hcheckpoint⟩ := hother
  subst hid hcheckpoint
  rw [bind_eq_ok] at h
  obtain ⟨continued, hcontinued, h⟩ := h
  rw [pure_eq_ok] at h
  refine ⟨job, _, checkpoint, hfound, hheld, hfind, ?_⟩
  rw [← h]
  unfold addContinuation at hcontinued
  cases nextPageToken with
  | none =>
    rw [pure_eq_ok] at hcontinued
    rw [← hcontinued, ← heq]
    simp [setJob, continuations]
  | some pageToken =>
    dsimp only at hcontinued
    unfold insertJob at hcontinued
    simp only [ensure_bind_eq_ok, pure_eq_ok] at hcontinued
    rw [← hcontinued.2.2, ← heq]
    rfl

theorem complete_queueStep {observedHistoryId : HistoryId} {nextPageToken : Option PageToken}
    (h : s.complete now jobId workerId observedHistoryId nextPageToken = .ok s')
    : QueueStep now s.jobs s'.jobs := by
  obtain ⟨job, _, checkpoint, hjob, hheld, _, heq⟩ := complete_eq_ok h
  rw [heq]
  have hlt := (List.getElem?_eq_some_iff.mp hjob).1
  dsimp only
  rw [List.set_append_left _ _ hlt]
  have hset : QueueStep now s.jobs (s.jobs.set jobId (job.completed now)) :=
    QueueStep.set hjob (.completed hheld) (by simp [InboxSyncJob.completed])
  cases nextPageToken with
  | none =>
    unfold continuations
    rw [Option.map_none, Option.toList_none, List.append_nil]
    exact hset
  | some pageToken =>
    apply QueueStep.of_not_leased
    . intro i other hi
      obtain ⟨other', hi', hwrite⟩ := hset.written i other hi
      refine ⟨other', ?_, hwrite⟩
      rw [List.getElem?_append_left (List.getElem?_eq_some_iff.mp hi').1, hi']
    . intro i other hle hi
      cases Rows.getElem?_concat_cases hi with
      | inl hold => exact hset.added i other hle hold
      | inr hnew => exact hnew.2 ▸ ⟨rfl, rfl⟩
    . intro i other other' hi hi'
      have hbound := (List.getElem?_eq_some_iff.mp hi).1
      rw [List.getElem?_append_left (by rwa [List.length_set])] at hi'
      cases Rows.getElem?_set_cases hi' with
      | inl hfrom =>
        apply InboxSyncJob.not_leasedFrom_of_status
        rw [hfrom.2.1]
        simp [InboxSyncJob.completed]
      | inr hold =>
        rw [hold.2, Option.some.injEq] at hi
        exact hi ▸ InboxSyncJob.not_leasedFrom_self

/--
The parts of a sync transaction that was committed.
-/
theorem persist_eq_ok {work : InboxSyncWork} {messages : List ProviderMessage}
    {observedHistoryId : HistoryId} {nextPageToken : Option PageToken}
    {findings : List (ProviderMessage × MessageFinding)}
    (h : s.persist now work workerId messages observedHistoryId nextPageToken = .ok (s', findings))
    : ∃ t added conversations,
        Persisted s work.job.connectionId (inOrder messages) findings t added
          ∧ Refreshed t.conversations conversations
          ∧ ({ t with conversations := conversations } : InboxStore).complete now work.jobId workerId
            observedHistoryId nextPageToken = .ok s' := by
  unfold persist at h
  rw [bind_eq_ok] at h
  obtain ⟨⟨t, found⟩, ht, h⟩ := h
  rw [bind_eq_ok] at h
  obtain ⟨u, hu, h⟩ := h
  rw [bind_eq_ok] at h
  obtain ⟨v, hv, h⟩ := h
  rw [pure_eq_ok, Prod.mk.injEq] at h
  obtain ⟨hs, hfindings⟩ := h
  subst hs hfindings
  obtain ⟨added, hpersisted⟩ := persistMessages_persisted ht
  obtain ⟨conversations, hrefreshed, heq⟩ := finalizeConversations_eq_ok hu
  subst heq
  exact ⟨t, added, conversations, hpersisted, hrefreshed, hv⟩

end InboxStore

end CaseResolution
