import CaseResolution.Inbox.Lemmas.Steps

/-!
This module contains where the rows that steer a synchronization come from: every job, every checkpoint and
every piece of work that was handed out.
-/

namespace CaseResolution

open Guard

namespace PendingSync

def connectionId (task : PendingSync) : Nat :=
  task.work.job.connectionId

/--
Where the next job has to read on, if the pages were not the last ones.
-/
def nextPageToken (task : PendingSync) : Option PageToken :=
  match task.fetch with
  | .ok fetch => fetch.pageToken
  | .error _ => none

/--
The ids the provider reported in the pages that were read.
-/
def reported (task : PendingSync) : List String :=
  task.pages.flatMap fun page => page.history.flatten

theorem fetch_eq_ok {task : PendingSync} {fetch : SyncFetch} : task.fetch = .ok fetch
    ↔ ∃ started, SyncFetch.start task.work = .ok started
      ∧ task.pages.foldl (fun fetch page => fetch.readPage task.work.job page) started = fetch := by
  unfold PendingSync.fetch
  rw [bind_eq_ok]
  simp only [pure_eq_ok]

/--
One page more.
-/
theorem fetch_read {task : PendingSync} {fetch : SyncFetch} (payload : HistoryPayload)
    (h : task.fetch = .ok fetch)
    : { task with pages := task.pages ++ [payload] : PendingSync }.fetch
      = .ok (fetch.readPage task.work.job payload) := by
  rw [fetch_eq_ok] at h ⊢
  obtain ⟨started, hstarted, heq⟩ := h
  refine ⟨started, hstarted, ?_⟩
  rw [List.foldl_append, heq, List.foldl_cons, List.foldl_nil]

end PendingSync

namespace SyncFetch

variable {fetch : SyncFetch} {job : InboxSyncJob} {payload : HistoryPayload}

theorem start_eq_ok {work : InboxSyncWork} : start work = .ok fetch
    ↔ ∃ historyId ∈ work.job.requestedHistoryId.or work.committedHistoryId,
      { pagesLeft := work.job.pageBudget
        pageToken := work.job.pageToken
        observedHistoryId := historyId
        messageIds := []
        lastPageRead := false } = fetch := by
  unfold start
  rw [bind_eq_ok]
  simp only [orThrow_eq_ok, pure_eq_ok, Option.mem_def]

/--
The reads never exceed the budget of the job, so that none of their messages is left out at the end.
-/
def WithinBudget (fetch : SyncFetch) (job : InboxSyncJob) : Prop :=
  fetch.messageIds.length ≤ job.itemBudget

theorem readPage_withinBudget (h : fetch.WithinBudget job)
    : (fetch.readPage job payload).WithinBudget job := by
  unfold WithinBudget readPage GmailReadAdapter.listChanges at *
  dsimp only
  have hfirst := Rows.firstBy_length_le id (payload.history.flatten.take (fetch.remaining job))
  rw [List.length_take] at hfirst
  rw [List.length_append]
  unfold remaining at *
  omega

theorem mem_wanted (h : fetch.WithinBudget job) {messageId : String}
    : messageId ∈ fetch.wanted job ↔ messageId ∈ fetch.messageIds := by
  unfold wanted
  rw [List.take_of_length_le h, Rows.mem_firstBy_id]

theorem mem_readPage {messageId : String} : messageId ∈ (fetch.readPage job payload).messageIds
    ↔ messageId ∈ fetch.messageIds
      ∨ messageId ∈ payload.history.flatten.take (fetch.remaining job) := by
  unfold readPage GmailReadAdapter.listChanges
  dsimp only
  rw [List.mem_append, Rows.mem_firstBy_id]

end SyncFetch

theorem PendingSync.fetch_withinBudget {task : PendingSync} {fetch : SyncFetch}
    (h : task.fetch = .ok fetch) : fetch.WithinBudget task.work.job := by
  obtain ⟨started, hstarted, hpages⟩ := fetch_eq_ok.mp h
  have hfirst : started.WithinBudget task.work.job := by
    obtain ⟨_, _, heq⟩ := SyncFetch.start_eq_ok.mp hstarted
    rw [← heq]
    exact Nat.zero_le _
  clear h hstarted
  generalize task.pages = pages at hpages
  induction pages generalizing started with
  | nil => exact hpages ▸ hfirst
  | cons payload pages ih => exact ih _ (SyncFetch.readPage_withinBudget hfirst) hpages

theorem SyncRequest.new_eq_ok {connectionId : Nat} {trigger : SyncTrigger} {triggerKey : String}
    {pageBudget itemBudget : Nat} {request : SyncRequest}
    (h : SyncRequest.new connectionId trigger triggerKey pageBudget itemBudget = .ok request)
    : request.requestedHistoryId = none ∧ request.pageToken = none := by
  unfold SyncRequest.new at h
  split at h
  . split at h
    . split at h
      . rw [pure_eq_ok] at h
        rw [← h]
        exact ⟨rfl, rfl⟩
      . cases h
    . cases h
  . cases h

/--
What a committed sync transaction was made of.
-/
structure SyncParts [Digest] (d : InboxDesk) (now : Instant) (sync : PendingSync) (fetch : SyncFetch)
    (messages : List ProviderMessage) (findings : List (ProviderMessage × MessageFinding))
    (inbox : InboxStore) (added : List ExternalMessage) (checkpointId : Nat)
    (checkpoint : InboxSyncCheckpoint) : Prop where
  fetched : sync.fetch = .ok fetch
  found : d.inbox.findCheckpoint sync.work.job.connectionId = some (checkpointId, checkpoint)
  persisted : ∃ t : InboxStore,
    InboxStore.Persisted d.inbox sync.work.job.connectionId (inOrder messages) findings t added
      ∧ t.messages = inbox.messages
  conversations : InboxStore.Refreshed d.inbox.conversations inbox.conversations
  checkpoints : inbox.checkpoints = d.inbox.checkpoints.set checkpointId
    { checkpoint.observed now fetch.observedHistoryId fetch.pageToken with
      version := checkpoint.version + 1 }
  job : ∃ job, d.inbox.jobs[sync.work.jobId]? = some job ∧ job.SameRequest sync.work.job
    ∧ inbox.jobs = (d.inbox.jobs
      ++ InboxStore.continuations job fetch.pageToken checkpoint.providerHistoryId now).set
        sync.work.jobId (job.completed now)

variable [Digest] {d d' : InboxDesk} {command : InboxCommand} {output : InboxOutput}

theorem InboxDesk.persist_parts {now : Instant} {sync : PendingSync} {fetch : SyncFetch}
    {messages : List ProviderMessage} {findings : List (ProviderMessage × MessageFinding)}
    {inbox : InboxStore} (htasks : d.TasksStored) (hpending : sync ∈ d.syncs)
    (hfetched : sync.fetch = .ok fetch)
    (haccepted : d.inbox.persist now sync.work sync.workerId messages fetch.observedHistoryId
      fetch.pageToken = .ok (inbox, findings))
    : ∃ added checkpointId checkpoint,
        SyncParts d now sync fetch messages findings inbox added checkpointId checkpoint := by
  obtain ⟨t, added, conversations, hpersisted, hrefreshed, hcompleted⟩ :=
    InboxStore.persist_eq_ok haccepted
  obtain ⟨store, hframed⟩ := hpersisted.framed
  obtain ⟨job, checkpointId, checkpoint, hjob, _, hfind, heq⟩ := InboxStore.complete_eq_ok hcompleted
  obtain ⟨stored, hstored, hrequest⟩ := htasks sync hpending
  subst hframed heq
  have hsame : stored = job := Option.some.inj (hstored.symm.trans hjob)
  subst hsame
  refine ⟨added, checkpointId, checkpoint, hfetched, hrequest.1 ▸ hfind, ⟨_, hpersisted, rfl⟩,
    hrefreshed, rfl, stored, hjob, hrequest, rfl⟩

namespace InboxEffect

/--
Where a job comes from: it was there before, it was requested from the first page on, or it reads on where
a completed job stopped.
-/
theorem job_origin (h : InboxEffect d command d' output) (htasks : d.TasksStored)
    {job' : InboxSyncJob} (hjob' : job' ∈ d'.inbox.jobs)
    : (∃ job ∈ d.inbox.jobs, job.SameRequest job')
      ∨ (job'.requestedHistoryId = none ∧ job'.pageToken = none)
      ∨ ∃ now task getMessage sync findings fetch checkpointId checkpoint,
        command = .persist now task getMessage ∧ output = .persisted sync findings
          ∧ d.syncs[task]? = some sync ∧ sync.fetch = .ok fetch
          ∧ d.inbox.findCheckpoint sync.work.job.connectionId = some (checkpointId, checkpoint)
          ∧ fetch.pageToken.isSome ∧ job'.pageToken = fetch.pageToken
          ∧ job'.connectionId = sync.work.job.connectionId
          ∧ job'.requestedHistoryId
            = sync.work.job.requestedHistoryId.or checkpoint.providerHistoryId := by
  obtain ⟨i, hi'⟩ := List.mem_iff_getElem?.mp hjob'
  have hold : i < d.inbox.jobs.length → ∃ job ∈ d.inbox.jobs, job.SameRequest job' := by
    intro hlt
    obtain ⟨other, hother, hwrite⟩ := (h.queueStep 0).written i _ (List.getElem?_eq_getElem hlt)
    rw [hi', Option.some.injEq] at hother
    exact ⟨_, List.getElem_mem hlt, hother ▸ hwrite.sameRequest⟩
  by_cases hlt : i < d.inbox.jobs.length
  . exact .inl (hold hlt)
  . have hkept := h.mail_kept
    have hrequested : ∀ (now : Instant) (request : SyncRequest) (inbox : InboxStore) (jobId : Nat),
        request.requestedHistoryId = none → request.pageToken = none →
        d.inbox.enqueue now request = .ok (inbox, jobId) → inbox.jobs[i]? = some job' →
        job'.requestedHistoryId = none ∧ job'.pageToken = none := by
      intro now request inbox jobId hhistory htoken haccepted hi
      cases InboxStore.enqueue_eq_ok haccepted with
      | inl heq =>
        rw [heq] at hi
        exact absurd (List.getElem?_eq_some_iff.mp hi).1 hlt
      | inr heq =>
        rw [heq] at hi
        cases Rows.getElem?_concat_cases hi with
        | inl hin => exact absurd (List.getElem?_eq_some_iff.mp hin).1 hlt
        | inr hnew =>
          rw [hnew.2]
          exact ⟨hhistory, htoken⟩
    have hlength : d'.inbox.jobs.length = d.inbox.jobs.length → False := by
      intro heq
      exact hlt (heq ▸ (List.getElem?_eq_some_iff.mp hi').1)
    cases h with
    | established haccepted =>
      obtain ⟨_, _, heq, _⟩ := InboxStore.establish_eq_ok haccepted
      exact absurd (by rw [heq]) hlength
    | requestedManual hbuilt haccepted =>
      have hrequest := SyncRequest.new_eq_ok hbuilt
      exact .inr (.inl (hrequested _ _ _ _ hrequest.1 hrequest.2 haccepted hi'))
    | requestedScheduled hbuilt haccepted =>
      have hrequest := SyncRequest.new_eq_ok hbuilt
      exact .inr (.inl (hrequested _ _ _ _ hrequest.1 hrequest.2 haccepted hi'))
    | claimed haccepted =>
      obtain ⟨t, ht, hs⟩ := InboxStore.claim_jobs haccepted
      exact absurd (by rw [hs, Rows.setAll_length, ht, Rows.setAll_length]) hlength
    | pageRead _ _ _ => exact absurd rfl hlength
    | @persisted now task getMessage sync fetch messages inbox findings hpending hfetched _ _ haccepted =>
      obtain ⟨added, checkpointId, checkpoint, hparts⟩ :=
        InboxDesk.persist_parts htasks (List.mem_of_getElem? hpending) hfetched haccepted
      obtain ⟨job, hjob, hrequest, hjobs⟩ := hparts.job
      rw [hjobs] at hi'
      have hne : sync.work.jobId ≠ i := by
        intro heq
        exact hlt (heq ▸ (List.getElem?_eq_some_iff.mp hjob).1)
      rw [List.getElem?_set_ne hne, List.getElem?_append_right (Nat.le_of_not_lt hlt)] at hi'
      have hmem := List.mem_of_getElem? hi'
      unfold InboxStore.continuations at hmem
      rw [Option.mem_toList, Option.map_eq_some_iff] at hmem
      obtain ⟨token, htoken, heq⟩ := hmem
      subst heq
      exact .inr (.inr ⟨now, task, getMessage, sync, findings, fetch, checkpointId, checkpoint, rfl, rfl,
        hpending, hfetched, hparts.found, by rw [htoken]; rfl, htoken.symm, hrequest.1,
        by rw [← hrequest.2.1]; rfl⟩)
    | failed _ haccepted =>
      obtain ⟨_, _, _, _, _, heq⟩ := InboxStore.fail_eq_ok haccepted
      exact absurd (by rw [heq]; exact List.length_set) hlength
    | reprocessed haccepted =>
      obtain heq | ⟨_, _, _, _, _, _, heq⟩ := InboxStore.reprocess_eq_ok haccepted
      . exact absurd (by rw [heq]) hlength
      . exact absurd (by rw [heq]; exact List.length_set) hlength
    | threadRead _ _ => exact absurd rfl hlength
    | threadImported _ haccepted =>
      obtain ⟨_, _, himported⟩ := InboxStore.importThread_imported haccepted
      obtain ⟨_, _, hframed⟩ := himported.framed
      exact absurd (by rw [hframed]) hlength
    | _ => exact absurd (by rw [(hkept rfl).jobs]) hlength

/--
Where the history of a checkpoint comes from: it was there before, the connection was just established, or a
job has read its last page.
-/
theorem checkpoint_origin (h : InboxEffect d command d' output) (htasks : d.TasksStored)
    {checkpoint' : InboxSyncCheckpoint} (hmem : checkpoint' ∈ d'.inbox.checkpoints)
    : (∃ checkpoint ∈ d.inbox.checkpoints, checkpoint.SameHistory checkpoint')
      ∨ (d.inbox.findCheckpoint checkpoint'.connectionId = none
        ∧ ∃ now writeCapabilities, command = .establish now checkpoint'.connectionId
          writeCapabilities checkpoint'.providerHistoryId)
      ∨ ∃ now task getMessage sync findings fetch,
        command = .persist now task getMessage ∧ output = .persisted sync findings
          ∧ d.syncs[task]? = some sync ∧ sync.fetch = .ok fetch ∧ fetch.pageToken = none
          ∧ checkpoint'.connectionId = sync.work.job.connectionId
          ∧ checkpoint'.providerHistoryId = some fetch.observedHistoryId := by
  have hold : ∀ checkpoints, Rows.Updates InboxSyncCheckpoint.SameHistory d.inbox.checkpoints checkpoints →
      checkpoint' ∈ checkpoints →
      ∃ checkpoint ∈ d.inbox.checkpoints, checkpoint.SameHistory checkpoint' := by
    intro checkpoints hkept hin
    obtain ⟨i, hi⟩ := List.mem_iff_getElem?.mp hin
    obtain ⟨checkpoint, hcheckpoint, hsame⟩ := hkept.back hi
    exact ⟨checkpoint, List.mem_of_getElem? hcheckpoint, hsame⟩
  have hrefl := Rows.Updates.refl InboxSyncCheckpoint.SameHistory.refl d.inbox.checkpoints
  have hkept := h.mail_kept
  cases h with
  | @established now connectionId writeCapabilities historyId inbox haccepted =>
    obtain ⟨_, opened, heq, hopened, _⟩ := InboxStore.establish_eq_ok haccepted
    rw [heq] at hmem
    cases List.mem_append.mp hmem with
    | inl hin => exact .inl (hold _ hrefl hin)
    | inr hin =>
      obtain ⟨hc, hhistory, hnone⟩ := hopened checkpoint' hin
      exact .inr (.inl ⟨hc ▸ hnone, now, writeCapabilities, by rw [hc, hhistory]⟩)
  | requestedManual _ haccepted =>
    cases InboxStore.enqueue_eq_ok haccepted with
    | inl heq => exact .inl (hold _ hrefl (heq ▸ hmem))
    | inr heq =>
      rw [heq] at hmem
      exact .inl (hold _ hrefl hmem)
  | requestedScheduled _ haccepted =>
    cases InboxStore.enqueue_eq_ok haccepted with
    | inl heq => exact .inl (hold _ hrefl (heq ▸ hmem))
    | inr heq =>
      rw [heq] at hmem
      exact .inl (hold _ hrefl hmem)
  | claimed haccepted => exact .inl (hold _ (InboxStore.claim_framed haccepted).2 hmem)
  | pageRead _ _ _ => exact .inl (hold _ hrefl hmem)
  | @persisted now task getMessage sync fetch messages inbox findings hpending hfetched _ _ haccepted =>
    obtain ⟨added, checkpointId, checkpoint, hparts⟩ :=
      InboxDesk.persist_parts htasks (List.mem_of_getElem? hpending) hfetched haccepted
    obtain ⟨hstored, hconnection⟩ := InboxStore.findCheckpoint_eq_some hparts.found
    rw [hparts.checkpoints] at hmem
    cases List.mem_or_eq_of_mem_set hmem with
    | inl hin => exact .inl (hold _ hrefl hin)
    | inr heq =>
      cases htoken : fetch.pageToken with
      | none =>
        refine .inr (.inr ⟨now, task, getMessage, sync, findings, fetch, rfl, rfl, hpending, hfetched,
          htoken, ?_, ?_⟩)
        . rw [heq, ← hconnection]
          rfl
        . rw [heq, htoken]
          rfl
      | some token =>
        refine .inl ⟨checkpoint, List.mem_of_getElem? hstored, ?_⟩
        rw [heq, htoken]
        exact ⟨rfl, rfl⟩
  | failed _ haccepted =>
    obtain ⟨_, _, _, _, ⟨checkpointId, checkpoint, _, hfind, hset, hc, hhistory⟩, heq⟩ :=
      InboxStore.fail_eq_ok haccepted
    rw [heq, hset] at hmem
    refine .inl (hold _ ?_ hmem)
    apply Rows.Updates.set InboxSyncCheckpoint.SameHistory.refl
      (InboxStore.findCheckpoint_eq_some hfind).1
    exact ⟨hc.symm, hhistory.symm⟩
  | reprocessed haccepted =>
    obtain heq | ⟨_, checkpointId, checkpoint, _, _, hfind, heq⟩ :=
      InboxStore.reprocess_eq_ok haccepted
    . exact .inl (hold _ hrefl (heq ▸ hmem))
    . rw [heq] at hmem
      refine .inl (hold _ ?_ hmem)
      apply Rows.Updates.set InboxSyncCheckpoint.SameHistory.refl
        (InboxStore.findCheckpoint_eq_some hfind).1
      exact ⟨rfl, rfl⟩
  | threadRead _ _ => exact .inl (hold _ hrefl hmem)
  | threadImported _ haccepted =>
    obtain ⟨_, _, himported⟩ := InboxStore.importThread_imported haccepted
    obtain ⟨_, _, hframed⟩ := himported.framed
    rw [hframed] at hmem
    exact .inl (hold _ hrefl hmem)
  | _ => exact .inl (hold _ hrefl ((hkept rfl).checkpoints ▸ hmem))

/--
Where a piece of work comes from: it was there before, another page was read for it, or it was just taken.
-/
theorem sync_origin (h : InboxEffect d command d' output) {sync' : PendingSync}
    (hmem : sync' ∈ d'.syncs)
    : sync' ∈ d.syncs
      ∨ (∃ task payload sync fetch, command = .readPage task payload ∧ d.syncs[task]? = some sync
        ∧ sync.fetch = .ok fetch ∧ fetch.wantsPage sync.work.job = true
        ∧ sync' = { sync with pages := sync.pages ++ [payload] })
      ∨ (sync'.pages = [] ∧ sync'.work.Taken d'.inbox) := by
  cases h with
  | claimed haccepted =>
    cases List.mem_append.mp hmem with
    | inl hold => exact .inl hold
    | inr hnew =>
      obtain ⟨work, hwork, heq⟩ := List.mem_map.mp hnew
      subst heq
      exact .inr (.inr ⟨rfl, InboxStore.claim_works haccepted work hwork⟩)
  | @pageRead task payload sync fetch hpending hfetched hwants =>
    cases List.mem_or_eq_of_mem_set hmem with
    | inl hold => exact .inl hold
    | inr heq => exact .inr (.inl ⟨task, payload, sync, fetch, rfl, hpending, hfetched, hwants, heq⟩)
  | _ => exact .inl hmem

end InboxEffect

end CaseResolution
