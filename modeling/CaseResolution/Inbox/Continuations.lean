import CaseResolution.Inbox.Lemmas.Owners

/-!
This module contains when a history that spans many jobs can be continued: the trigger key of every further
job is built from the one before, and its column has a bound.
-/

namespace CaseResolution

open Guard

/--
The trigger key of the job that reads on from the last of the page tokens, after a job with `key`.
-/
def chainKey [Digest] (key : String) (tokens : List PageToken) : String :=
  tokens.foldl (fun key token => key ++ ":page:" ++ truncate 12 (Digest.text token.text)) key

theorem chainKey_concat [Digest] (key : String) (tokens : List PageToken) (token : PageToken)
    : chainKey key (tokens ++ [token])
      = chainKey key tokens ++ ":page:" ++ truncate 12 (Digest.text token.text) := by
  unfold chainKey
  rw [List.foldl_append]
  rfl

/--
Every page makes the key longer by the mark of a page and the short digest of its token.
-/
theorem chainKey_length [Digest] (hdigest : ∀ text, (Digest.text text).length = 64) (key : String)
    (tokens : List PageToken)
    : (chainKey key tokens).length = key.length + 18 * tokens.length := by
  induction tokens using List.reverseRecOn with
  | nil => rfl
  | append_singleton tokens token ih =>
    have hshort : (truncate 12 (Digest.text token.text)).length = 12 := by
      unfold truncate
      rw [String.length_ofList, List.length_take, String.length_toList, hdigest]
      rfl
    have hmark : ":page:".length = 6 := rfl
    rw [chainKey_concat, String.length_append, String.length_append, ih, hshort, hmark,
      List.length_append, List.length_singleton]
    omega

/--
The job reads on, page after page, for a job that was requested with `key`.
-/
inductive InboxSyncJob.Chain [Digest] (jobs : List InboxSyncJob) (key : String)
    : List PageToken → Nat → Prop where
  | requested {i : Nat} {job : InboxSyncJob} (stored : jobs[i]? = some job)
      (first : job.pageToken = none) (named : job.triggerKey = key) : Chain jobs key [] i
  | continued {tokens : List PageToken} {token : PageToken} {i j : Nat} {before job : InboxSyncJob}
      (chain : Chain jobs key tokens i) (completed : jobs[i]? = some before)
      (stored : jobs[j]? = some job) (follows : job.pageToken = some token)
      (named : job.triggerKey = InboxStore.continuationKey before token)
      : Chain jobs key (tokens ++ [token]) j

namespace InboxSyncJob

variable {now : Instant} {job job' : InboxSyncJob}

theorem Write.triggerKey (h : Write now job job') : job'.triggerKey = job.triggerKey := by
  cases h <;> rfl

variable [Digest] {jobs jobs' : List InboxSyncJob} {key : String} {tokens : List PageToken} {i : Nat}

theorem Chain.triggerKey (h : Chain jobs key tokens i) (hjob : jobs[i]? = some job)
    : job.triggerKey = chainKey key tokens := by
  induction h generalizing job with
  | requested hstored _ hnamed =>
    rw [hstored, Option.some.injEq] at hjob
    rw [← hjob, hnamed]
    rfl
  | continued _ hcompleted hstored _ hnamed ih =>
    rw [hstored, Option.some.injEq] at hjob
    rw [← hjob, hnamed, chainKey_concat, ← ih hcompleted]
    rfl

/--
The jobs of a chain stay a chain, whatever becomes of them.
-/
theorem Chain.written (h : Chain jobs key tokens i) (hwritten : Rows.Extends (Write now) jobs jobs')
    : Chain jobs' key tokens i := by
  induction h with
  | requested hstored hfirst hnamed =>
    obtain ⟨job', hstored', hwrite⟩ := hwritten _ _ hstored
    apply Chain.requested hstored'
    . rw [← hwrite.sameRequest.2.2.1, hfirst]
    . rw [hwrite.triggerKey, hnamed]
  | continued _ hcompleted hstored hfollows hnamed ih =>
    obtain ⟨before', hcompleted', hbefore⟩ := hwritten _ _ hcompleted
    obtain ⟨job', hstored', hwrite⟩ := hwritten _ _ hstored
    apply Chain.continued ih hcompleted' hstored'
    . rw [← hwrite.sameRequest.2.2.1, hfollows]
    . unfold InboxStore.continuationKey at hnamed ⊢
      rw [hwrite.triggerKey, hbefore.triggerKey, hnamed]

end InboxSyncJob

/--
A further job was requested or reads on for a stored one.
-/
theorem QueueChange.added [Digest] {jobs jobs' : List InboxSyncJob} (h : QueueChange jobs jobs')
    {i : Nat} {job : InboxSyncJob} (hjob : jobs'[i]? = some job) (hnew : jobs.length ≤ i)
    : job.pageToken = none ∨ ∃ (j : Nat) (before : InboxSyncJob) (token : PageToken),
        jobs[j]? = some before ∧ job.pageToken = some token
          ∧ job.triggerKey = InboxStore.continuationKey before token := by
  have hlt := (List.getElem?_eq_some_iff.mp hjob).1
  cases h with
  | kept => omega
  | requested hfirst =>
    cases Rows.getElem?_concat_cases hjob with
    | inl hold =>
      have := (List.getElem?_eq_some_iff.mp hold).1
      omega
    | inr hadded =>
      rw [hadded.2]
      exact .inl hfirst
  | @completed jobId before nextPageToken _ _ hstored =>
    have hbefore := (List.getElem?_eq_some_iff.mp hstored).1
    rw [List.getElem?_set_ne (by omega), List.getElem?_append_right hnew] at hjob
    have hmem := List.mem_of_getElem? hjob
    unfold InboxStore.continuations at hmem
    rw [Option.mem_toList, Option.map_eq_some_iff] at hmem
    obtain ⟨token, _, heq⟩ := hmem
    rw [← heq]
    exact .inr ⟨jobId, before, token, hstored, rfl, rfl⟩
  | written hstored _ =>
    rw [List.length_set] at hlt
    omega

/--
Every job was requested or continues one that was.
-/
def InboxDesk.Chained [Digest] (d : InboxDesk) : Prop :=
  ∀ i < d.inbox.jobs.length, ∃ key tokens, InboxSyncJob.Chain d.inbox.jobs key tokens i

theorem InboxEffect.chained [Digest] {d d' : InboxDesk} {command : InboxCommand}
    {output : InboxOutput} (h : InboxEffect d command d' output) (hchained : d.Chained)
    : d'.Chained := by
  have hwritten := (h.queueStep 0).written
  intro i hi
  by_cases hold : i < d.inbox.jobs.length
  . obtain ⟨key, tokens, hchain⟩ := hchained i hold
    exact ⟨key, tokens, hchain.written hwritten⟩
  . have hstored : d'.inbox.jobs[i]? = some d'.inbox.jobs[i] := List.getElem?_eq_getElem hi
    have hnew : d.inbox.jobs.length ≤ i := by omega
    by_cases hclaim : ∃ now workerId limit leaseSeconds connectionId,
        command = .claim now workerId limit leaseSeconds connectionId
    . -- a claim adds no job
      obtain ⟨_, _, _, _, _, heq⟩ := hclaim
      subst heq
      cases h with
      | claimed haccepted =>
        obtain ⟨t, ht, hs⟩ := InboxStore.claim_jobs haccepted
        dsimp only at hi
        rw [hs, Rows.setAll_length, ht, Rows.setAll_length] at hi
        omega
    . simp only [not_exists] at hclaim
      cases (h.queue_change hclaim).added hstored hnew with
      | inl hfirst => exact ⟨_, [], .requested hstored hfirst rfl⟩
      | inr hfollows =>
        obtain ⟨j, before, token, hbefore, htoken, hnamed⟩ := hfollows
        obtain ⟨key, tokens, hchain⟩ := hchained j (List.getElem?_eq_some_iff.mp hbefore).1
        obtain ⟨before', hbefore', hwrite⟩ := hwritten _ _ hbefore
        refine ⟨key, tokens ++ [token], .continued (hchain.written hwritten) hbefore' hstored htoken ?_⟩
        rw [hnamed]
        unfold InboxStore.continuationKey
        rw [hwrite.triggerKey]

theorem InboxDesk.run_chained [Digest] (store : Store) (commands : List InboxCommand)
    : (inboxService.run (.new store) commands).Chained := by
  apply run_of_effect InboxEffect.chained
  intro i hi
  cases hi

namespace InboxStore

variable [Digest] {s : InboxStore} {now : Instant} {jobId : Nat} {workerId : String}
  {job : InboxSyncJob} {observedHistoryId : HistoryId}

/--
The worker that holds a job completes it if the job that reads on can be stored.
-/
theorem complete_held (observedHistoryId : HistoryId) (nextPageToken : Option PageToken)
    (hrunning : s.runningJob now jobId workerId = .ok job) (hconnected : s.Connected job.connectionId)
    : (∃ s', s.complete now jobId workerId observedHistoryId nextPageToken = .ok s')
      ↔ ∀ token, nextPageToken = some token →
          (continuationKey job token).length ≤ 200
            ∧ ∀ other ∈ s.jobs, ¬ (other.connectionId = job.connectionId
              ∧ other.triggerKey = continuationKey job token) := by
  obtain ⟨row, hfind⟩ := Option.ne_none_iff_exists'.mp hconnected.findCheckpoint_ne
  cases nextPageToken with
  | none =>
    simp only [complete, updateCheckpoint, checkpoint, addContinuation, bind_eq_ok, hrunning, hfind,
      orThrow_eq_ok, pure_eq_ok, Option.some.injEq, Except.ok.injEq, exists_eq_left', reduceCtorEq]
    simp
  | some token =>
    simp only [complete, updateCheckpoint, checkpoint, addContinuation, insertJob, bind_eq_ok,
      hrunning, hfind, orThrow_eq_ok, ensure_eq_ok, pure_eq_ok, Option.some.injEq, Except.ok.injEq,
      exists_eq_left', forall_eq']
    simp [continuation]

end InboxStore

/--
Let digests have 64 digits. A worker that holds a job in the chain of a requested one completes it if there
are no further pages. If there are, it completes it with the job that reads on exactly when the requested
key leaves room for the marks of all pages so far and no job of the connection has the new key.
-/
theorem long_history_continued [Digest] (hdigest : ∀ text, (Digest.text text).length = 64)
    (store : Store) (commands : List InboxCommand)
    : ∀ s, s = (inboxService.run (.new store) commands).inbox → ∀ now jobId workerId job,
      s.runningJob now jobId workerId = .ok job →
      (∀ observedHistoryId, ∃ s', s.complete now jobId workerId observedHistoryId none = .ok s')
      ∧ (∃ key tokens, InboxSyncJob.Chain s.jobs key tokens jobId)
      ∧ ∀ key tokens, InboxSyncJob.Chain s.jobs key tokens jobId → ∀ observedHistoryId token,
        (∃ s' next, s.complete now jobId workerId observedHistoryId (some token) = .ok s'
            ∧ s'.jobs[s.jobs.length]? = some next ∧ next.status = .pending
            ∧ next.connectionId = job.connectionId ∧ next.pageToken = some token
            ∧ InboxSyncJob.Chain s'.jobs key (tokens ++ [token]) s.jobs.length)
          ↔ key.length + 18 * (tokens.length + 1) ≤ 200
            ∧ ∀ other ∈ s.jobs, ¬ (other.connectionId = job.connectionId
              ∧ other.triggerKey = chainKey key (tokens ++ [token])) := by
  intro s hs now jobId workerId job hrunning
  obtain ⟨hjob, hheld, _⟩ := InboxStore.runningJob_eq_ok.mp hrunning
  have hconnected : s.Connected job.connectionId := by
    subst hs
    exact (InboxDesk.run_owned store commands jobId job hjob
      (InboxSyncJob.holdsLease_iff.mp hheld).1).1
  have hchained : ∃ key tokens, InboxSyncJob.Chain s.jobs key tokens jobId := by
    subst hs
    exact InboxDesk.run_chained store commands jobId (List.getElem?_eq_some_iff.mp hjob).1
  refine ⟨?_, hchained, ?_⟩
  . intro observedHistoryId
    exact (InboxStore.complete_held observedHistoryId none hrunning hconnected).mpr nofun
  intro key tokens hchain observedHistoryId token
  have hkey : InboxStore.continuationKey job token = chainKey key (tokens ++ [token]) := by
    rw [chainKey_concat, ← hchain.triggerKey hjob]
    rfl
  have hlength := chainKey_length hdigest key (tokens ++ [token])
  rw [List.length_append, List.length_singleton] at hlength
  have hheldIff := InboxStore.complete_held observedHistoryId (some token)
    hrunning hconnected
  simp only [Option.some.injEq, forall_eq', hkey, hlength] at hheldIff
  rw [← hheldIff]
  constructor
  . rintro ⟨s', _, hcompleted, _⟩
    exact ⟨s', hcompleted⟩
  . rintro ⟨s', hcompleted⟩
    obtain ⟨before, _, checkpoint, hbefore, _, _, heq⟩ := InboxStore.complete_eq_ok hcompleted
    rw [hjob, Option.some.injEq] at hbefore
    subst hbefore
    have hlt := (List.getElem?_eq_some_iff.mp hjob).1
    have hnext : s'.jobs[s.jobs.length]?
        = some (InboxStore.continuation job token checkpoint.providerHistoryId now) := by
      rw [heq]
      dsimp only
      rw [List.getElem?_set_ne (by omega), List.getElem?_append_right (Nat.le_refl _), Nat.sub_self]
      rfl
    have hwritten := (InboxStore.complete_queueStep hcompleted).written
    obtain ⟨job', hjob', hwrite⟩ := hwritten jobId job hjob
    refine ⟨s', _, hcompleted, hnext, rfl, rfl, rfl, ?_⟩
    apply InboxSyncJob.Chain.continued (hchain.written hwritten) hjob' hnext rfl
    unfold InboxStore.continuationKey
    rw [hwrite.triggerKey]
    rfl

namespace Sample

/--
Digests of the right length, with the one of the token that is read below.
-/
@[reducible]
def wideDigest : Digest where
  text := fun text =>
    if text = "2" then
      "d4735e3a265e16eee03f59718b9b5d03019c07d8b6c51f90da3a666eec13ab35"
    else
      String.ofList (List.replicate 64 '0')
  short := fun text => toString (Digest.mixText 2 text)
  hash := fun value => toString (Digest.mix 3 value)

theorem wideDigest_length : ∀ text, (wideDigest.text text).length = 64 := by
  intro text
  change (if text = "2" then _ else _ : String).length = 64
  split <;> decide

/--
A job requested with a key of so many characters is held by a worker.
-/
def requestedWith (length : Nat) : List InboxCommand :=
  connected ++ [
    .requestScheduled 1 0 (String.ofList (List.replicate length 'k')) 1 50,
    .claim 2 "w" 1 60 none]

attribute [local instance] wideDigest

def secondPage : PageToken :=
  ⟨"2", by decide⟩

theorem long_history_continued_keyed
    : ∃ s' next, (inboxService.run (.new store) (requestedWith 182)).inbox.complete 3 0 "w" ⟨"1", by decide⟩
        (some secondPage) = .ok s'
      ∧ s'.jobs[(inboxService.run (.new store) (requestedWith 182)).inbox.jobs.length]? = some next
      ∧ next.pageToken = some secondPage := by
  have hrunning : (match (inboxService.run (.new store) (requestedWith 182)).inbox.runningJob 3 0 "w" with
      | .error _ => false
      | .ok job => decide (job.pageToken = none
        ∧ job.triggerKey = String.ofList (List.replicate 182 'k')
        ∧ ∀ other ∈ (inboxService.run (.new store) (requestedWith 182)).inbox.jobs,
          ¬ (other.connectionId = job.connectionId
            ∧ other.triggerKey = chainKey (String.ofList (List.replicate 182 'k')) [secondPage])))
      = true := by
    decide +kernel
  split at hrunning
  . cases hrunning
  . next job hjob =>
    obtain ⟨hfirst, hnamed, hfree⟩ := of_decide_eq_true hrunning
    have hchain : InboxSyncJob.Chain (inboxService.run (.new store) (requestedWith 182)).inbox.jobs
        (String.ofList (List.replicate 182 'k')) [] 0 :=
      .requested (InboxStore.runningJob_eq_ok.mp hjob).1 hfirst hnamed
    have hroom : (String.ofList (List.replicate 182 'k')).length + 18 * (([] : List PageToken).length + 1)
        ≤ 200 := by
      decide +kernel
    obtain ⟨s', next, hcompleted, hnext, _, _, htoken, _⟩ :=
      ((long_history_continued wideDigest_length store (requestedWith 182) _ rfl 3 0 "w" job hjob).2.2 _ _ hchain
        ⟨"1", by decide⟩ secondPage).mpr ⟨hroom, hfree⟩
    exact ⟨s', next, hcompleted, hnext, htoken⟩

/--
The key of a request may leave no room for a second page.
-/
theorem key_left_no_room
    : ¬ ∀ (store : Store) (commands : List InboxCommand) now jobId workerId job,
        (inboxService.run (.new store) commands).inbox.runningJob now jobId workerId = .ok job →
        ∀ observedHistoryId nextPageToken,
          ∃ s', (inboxService.run (.new store) commands).inbox.complete now jobId workerId
            observedHistoryId (some nextPageToken) = .ok s' := by
  intro h
  have hrunning : ((inboxService.run (.new store) (requestedWith 190)).inbox.runningJob 3 0 "w").isOk = true := by
    decide +kernel
  obtain ⟨job, hjob⟩ := Guard.isOk_iff.mp hrunning
  obtain ⟨s', hcompleted⟩ := h store (requestedWith 190) 3 0 "w" job hjob ⟨"1", by decide⟩ secondPage
  have hrefused : (match (inboxService.run (.new store) (requestedWith 190)).inbox.complete 3 0 "w"
        ⟨"1", by decide⟩ (some secondPage) with
      | .error e => decide (e = .dataError "inbox_sync_jobs.trigger_key")
      | .ok _ => false) = true := by
    decide +kernel
  rw [hcompleted] at hrefused
  cases hrefused

end Sample

end CaseResolution
