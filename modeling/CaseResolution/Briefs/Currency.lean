import CaseResolution.System.Reachable

/-!
This module contains when a generated brief is the current one: a brief that is reused is the version
in force exactly while no later run of its case was recorded.
-/

namespace CaseResolution

open Guard Store

/--
The fingerprints of the evidence a resolution binds.
-/
def PolicyResolution.evidenceFingerprints (resolution : PolicyResolution) : List String :=
  if resolution.status ≠ .relevant then [] else resolution.bindings.map fun binding =>
    binding.fingerprint

namespace Store

variable {s t : Store} {caseId : Nat} {brief : DecisionBrief}

/--
The brief is the version of its proposal that is in force.
-/
def InForce (s : Store) (brief : DecisionBrief) : Prop :=
  ∃ proposal, s.proposals[brief.version.proposalId]? = some proposal
    ∧ brief.version.version = proposal.currentVersion

/--
A run of the case was recorded after the run `runId`.
-/
def RunReplaced (s : Store) (caseId runId : Nat) : Prop :=
  ∃ (j : Nat) (run : CaseAnalysisRun), runId < j ∧ s.runs[j]? = some run ∧ run.caseId = caseId

/--
The version of a run is in force exactly while the run is the newest of its case.
-/
theorem BriefHistory.inForce_iff (h : s.BriefHistory) (hversion : brief.version ∈ s.versions)
    (hrun : brief.version.analysisRunId = brief.runId) (hcase : brief.version.caseId = caseId)
    : s.InForce brief ↔ ¬ s.RunReplaced caseId brief.runId := by
  obtain ⟨p, hp, hpcase, hle⟩ := h.version_proposal _ hversion
  constructor
  . rintro ⟨p', hp', hforce⟩ ⟨j, run, hlt, hj, hrunCase⟩
    obtain rfl := Option.some.inj (hp.symm.trans hp')
    -- the later run has a version of the same proposal, with a greater number
    obtain ⟨w, hw, rfl⟩ := h.run_version j run hj
    obtain ⟨run', hj', hrunCase'⟩ := h.version_run w hw
    obtain rfl := Option.some.inj (hj.symm.trans hj')
    obtain ⟨q, hq, hqcase, hwle⟩ := h.version_proposal w hw
    have hsame : w.proposalId = brief.version.proposalId := by
      refine h.proposal_unique _ _ q p hq hp ?_
      rw [hqcase, hpcase, ← hrunCase', hrunCase, hcase]
    rw [hsame] at hq
    obtain rfl := Option.some.inj (hp.symm.trans hq)
    have hlater := (h.run_order _ hversion w hw hsame.symm).mpr (by rwa [hrun])
    omega
  . intro hnewest
    refine ⟨p, hp, ?_⟩
    by_contra hne
    obtain ⟨w, hw, hwproposal, hwversion⟩ := h.current _ p hp
    have hlt := (h.run_order _ hversion w hw hwproposal.symm).mp (by omega)
    obtain ⟨run, hj, hrunCase⟩ := h.version_run w hw
    obtain ⟨q, hq, hqcase, _⟩ := h.version_proposal w hw
    rw [hwproposal] at hq
    obtain rfl := Option.some.inj (hp.symm.trans hq)
    refine hnewest ⟨w.analysisRunId, run, by rwa [← hrun], hj, ?_⟩
    rw [hrunCase, ← hqcase, hpcase, hcase]

section

variable [Digest]

/--
The fingerprint a preparation looks for when `n` briefs of the snapshot could not be reused.
-/
def retriedFingerprint (baseInputFingerprint : String) : Nat → String
  | 0 => baseInputFingerprint
  | n + 1 => retryInputFingerprint baseInputFingerprint (n + 1)

/--
The input fingerprint of the case as it is, with the evidence the resolution binds.
-/
def snapshotFingerprint (s : Store) (engine : EngineVersions) (caseId : Nat)
    (resolution : PolicyResolution) : Option String :=
  (s.getWorkspace caseId).map fun workspace =>
    decisionInputFingerprint workspace.case { status := resolution.status, evidence := [] }
      (combinedContextFingerprint workspace.businessContexts)
      (evidenceSetFingerprint resolution.status resolution.evidenceFingerprints) engine

/--
The run stored under the fingerprint after `n` retries can be reused, or it can not.
-/
def Retried (s : Store) (caseId : Nat) (modelVersion baseInputFingerprint : String) (n : Nat)
    (reusable : Bool) (runId : Nat) : Prop :=
  ∃ run, s.findRun caseId (retriedFingerprint baseInputFingerprint n) = some runId
    ∧ s.runs[runId]? = some run
    ∧ reusable = decide (run.status = .abstained ∨ run.modelVersion = modelVersion)

/--
The first reusable run of the snapshot was replaced by a later run of its case.
-/
def SnapshotReplaced (s : Store) (engine : EngineVersions) (caseId : Nat)
    (resolution : PolicyResolution) : Prop :=
  ∃ base ∈ s.snapshotFingerprint engine caseId resolution,
    ∃ n ≤ maxInputFingerprintRetries, ∃ runId, s.Retried caseId engine.modelVersion base n true runId
      ∧ (∀ m < n, ∃ runId', s.Retried caseId engine.modelVersion base m false runId')
      ∧ s.RunReplaced caseId runId

omit [Digest] in
theorem bindEvidence_fingerprints {bindings : List PolicyEvidenceBinding}
    {bundles : List PolicyEvidenceBundle} (h : bindEvidence caseId bindings s = .ok (t, bundles))
    : bundles.map (fun bundle => bundle.fingerprint)
        = bindings.map fun binding => binding.fingerprint := by
  induction bindings generalizing s bundles with
  | nil =>
    simp only [bindEvidence, pure_eq_ok, Prod.mk.injEq] at h
    rw [← h.2]
    rfl
  | cons binding rest ih =>
    simp only [bindEvidence, bind_eq_ok, pure_eq_ok, Prod.mk.injEq] at h
    obtain ⟨⟨bound, bundle⟩, hrow, ⟨final, bundles⟩, hrest, rfl, rfl⟩ := h
    rw [List.map_cons, List.map_cons, ih hrest]
    congr 1
    unfold bindEvidenceRow at hrow
    rw [ensure_bind_eq_ok] at hrow
    obtain ⟨_, hrow⟩ := hrow
    split at hrow
    . next row hfound =>
      simp only [pure_eq_ok, Prod.mk.injEq] at hrow
      have hkey := List.find?_some hfound
      simp only [decide_eq_true_eq] at hkey
      rw [← hrow.2]
      exact hkey.2
    . simp only [pure_eq_ok, Prod.mk.injEq] at hrow
      rw [← hrow.2]
      rfl

/--
Refreshing the evidence of a case does not change which fingerprint its snapshot has.
-/
theorem refreshForCase_fingerprint {resolution : PolicyResolution}
    {evidence : EvidenceRetrievalResult} (engine : EngineVersions) {workspace : CaseWorkspace}
    (hworkspace : s.getWorkspace caseId = some workspace)
    (h : s.refreshForCase caseId resolution = .ok (t, evidence))
    : s.snapshotFingerprint engine caseId resolution
        = some (decisionInputFingerprint workspace.case evidence
            (combinedContextFingerprint workspace.businessContexts)
            (combinedEvidenceFingerprint evidence) engine) := by
  unfold snapshotFingerprint
  rw [hworkspace, Option.map_some]
  unfold refreshForCase at h
  split at h
  . next hstatus =>
    simp only [pure_eq_ok, Prod.mk.injEq] at h
    obtain ⟨_, rfl⟩ := h
    simp [PolicyResolution.evidenceFingerprints, combinedEvidenceFingerprint, hstatus]
  . next hstatus =>
    simp only [bind_eq_ok, pure_eq_ok, Prod.mk.injEq] at h
    obtain ⟨⟨bound, bundles⟩, hbound, _, rfl⟩ := h
    have hrelevant : resolution.status = .relevant := by simpa using hstatus
    unfold PolicyResolution.evidenceFingerprints combinedEvidenceFingerprint
    rw [if_neg hstatus, ← bindEvidence_fingerprints hbound, hrelevant]
    rfl

/--
The search stops at the first reusable brief, or at the first fingerprint nothing is stored under.
-/
theorem searchBrief_eq_ok (h : s.BriefHistory) {modelVersion base : String} {m n : Nat}
    {found : DecisionBrief ⊕ String}
    (hsearch : s.searchBrief caseId modelVersion base (List.range' n m)
      (retriedFingerprint base n) = .ok found)
    : ∃ k, n ≤ k ∧ k < n + m
        ∧ (∀ l, n ≤ l → l < k → ∃ runId, s.Retried caseId modelVersion base l false runId)
        ∧ ((∃ brief, found = .inl brief ∧ s.Retried caseId modelVersion base k true brief.runId
            ∧ s.loadByInputFingerprint caseId (retriedFingerprint base k) = .ok (some brief))
          ∨ (found = .inr (retriedFingerprint base k)
            ∧ s.findRun caseId (retriedFingerprint base k) = none)) := by
  induction m generalizing n with
  | zero => simp [searchBrief] at hsearch
  | succ m ih =>
    rw [List.range'_succ] at hsearch
    unfold searchBrief at hsearch
    rw [bind_eq_ok] at hsearch
    obtain ⟨loaded, hload, hsearch⟩ := hsearch
    cases loaded with
    | none =>
      rw [pure_eq_ok] at hsearch
      refine ⟨n, le_refl _, by omega, by intro l _ _; omega, .inr ⟨hsearch.symm, ?_⟩⟩
      exact loadByInputFingerprint_eq_none hload
    | some existing =>
      obtain ⟨hfound, _, _, _, _, hrun⟩ := h.loaded hload
      dsimp only at hsearch
      split at hsearch
      . next hreuse =>
        rw [pure_eq_ok] at hsearch
        have hretried : s.Retried caseId modelVersion base n true existing.runId :=
          ⟨existing.run, hfound, hrun, hreuse.symm⟩
        exact ⟨n, le_refl _, by omega, by intro l _ _; omega,
          .inl ⟨existing, hsearch.symm, hretried, hload⟩⟩
      . next hreuse =>
        rw [Bool.not_eq_true] at hreuse
        obtain ⟨k, hle, hlt, hbefore, hend⟩ := ih hsearch
        refine ⟨k, by omega, by omega, ?_, hend⟩
        intro l hl hlk
        by_cases hsame : l = n
        . subst hsame
          exact ⟨existing.runId, existing.run, hfound, hrun, hreuse.symm⟩
        . exact hbefore l (by omega) hlk

/--
One run is stored under a fingerprint, reusable or not.
-/
theorem Retried.unique {modelVersion base : String} {n runId runId' : Nat} {reusable reusable' : Bool}
    (h : s.Retried caseId modelVersion base n reusable runId)
    (h' : s.Retried caseId modelVersion base n reusable' runId')
    : runId = runId' ∧ reusable = reusable' := by
  obtain ⟨run, hfound, hrun, hreusable⟩ := h
  obtain ⟨run', hfound', hrun', hreusable'⟩ := h'
  obtain rfl := Option.some.inj (hfound.symm.trans hfound')
  obtain rfl := Option.some.inj (hrun.symm.trans hrun')
  exact ⟨rfl, hreusable.trans hreusable'.symm⟩

/--
What a preparation is about to answer, read off the stored runs.
-/
structure Searched (s : Store) (caseId : Nat) (modelVersion base : String) (k : Nat) : Prop where
  retries : k ≤ maxInputFingerprintRetries
  before : ∀ l < k, ∃ runId, s.Retried caseId modelVersion base l false runId

variable {engine : EngineVersions} {resolution : PolicyResolution} {base : String} {k runId : Nat}

theorem Searched.replaced_iff (h : s.Searched caseId engine.modelVersion base k)
    (hbase : s.snapshotFingerprint engine caseId resolution = some base)
    (hretried : s.Retried caseId engine.modelVersion base k true runId)
    : s.SnapshotReplaced engine caseId resolution ↔ s.RunReplaced caseId runId := by
  constructor
  . rintro ⟨base', hbase', n, hn, runId', hretried', hbefore, hreplaced⟩
    obtain rfl := Option.some.inj (hbase.symm.trans hbase')
    rcases Nat.lt_trichotomy n k with hlt | rfl | hlt
    . obtain ⟨_, hother⟩ := h.before n hlt
      have := (hretried'.unique hother).2
      simp at this
    . obtain ⟨rfl, _⟩ := hretried.unique hretried'
      exact hreplaced
    . obtain ⟨_, hother⟩ := hbefore k hlt
      have := (hretried.unique hother).2
      simp at this
  . intro hreplaced
    exact ⟨base, hbase, k, h.retries, runId, hretried, h.before, hreplaced⟩

theorem Searched.not_replaced (h : s.Searched caseId engine.modelVersion base k)
    (hbase : s.snapshotFingerprint engine caseId resolution = some base)
    (hnone : s.findRun caseId (retriedFingerprint base k) = none)
    : ¬ s.SnapshotReplaced engine caseId resolution := by
  rintro ⟨base', hbase', n, hn, runId', hretried', hbefore, _⟩
  obtain rfl := Option.some.inj (hbase.symm.trans hbase')
  rcases Nat.lt_trichotomy n k with hlt | rfl | hlt
  . obtain ⟨_, hother⟩ := h.before n hlt
    have := (hretried'.unique hother).2
    simp at this
  . obtain ⟨_, hfound, _⟩ := hretried'
    simp [hnone] at hfound
  . obtain ⟨_, _, hfound, _⟩ := hbefore k hlt
    simp [hnone] at hfound

variable {now : Instant} {ownerToken expectedCaseVersion : Nat} {actor : ActorContext}

/--
A preparation reuses the first reusable brief of the snapshot, or leases a fingerprint nothing is
stored under.
-/
theorem prepareGeneration_searched (hs : s.Sound) {preparation : GenerationPreparation}
    (h : s.prepareGeneration now ownerToken actor engine caseId expectedCaseVersion resolution
      = .ok (t, preparation))
    : ∃ base k, s.snapshotFingerprint engine caseId resolution = some base
        ∧ s.Searched caseId engine.modelVersion base k
        ∧ t.runs = s.runs ∧ t.Sound
        ∧ ((∃ brief, preparation = .reused brief
            ∧ s.Retried caseId engine.modelVersion base k true brief.runId
            ∧ t.loadByInputFingerprint caseId (retriedFingerprint base k) = .ok (some brief))
          ∨ ∃ plan, preparation = .plan plan
            ∧ plan.inputFingerprint = retriedFingerprint base k
            ∧ s.findRun caseId (retriedFingerprint base k) = none) := by
  have ht : t.Sound := by
    have hwrites := prepareGeneration_writes (c := .prepareGeneration now ownerToken actor engine
      caseId expectedCaseVersion resolution) rfl h
    exact Writes.sound hwrites hs
  obtain ⟨policyEvidence, workspace, evidence, _, _, base, hrefreshed, hworkspace, _, rfl, rfl,
    rfl, hfound⟩ := prepareGeneration_eq_ok h
  have hbase := refreshForCase_fingerprint engine hworkspace hrefreshed
  have hhistory : ({ s with policyEvidence := policyEvidence } : Store).BriefHistory :=
    hs.history.of_same rfl rfl (fun _ => rfl) (le_refl _)
  rcases hfound with ⟨brief, hsearch, rfl, rfl⟩ | ⟨inputFingerprint, hsearch, hreserved⟩
  all_goals
    rw [List.range_eq_range'] at hsearch
    obtain ⟨k, _, hk, hbefore, hend⟩ := searchBrief_eq_ok hhistory (n := 0) hsearch
    have hsearched : s.Searched caseId engine.modelVersion _ k :=
      ⟨by omega, fun l hl => hbefore l (Nat.zero_le l) hl⟩
    refine ⟨_, k, hbase, hsearched, ?_, ht, ?_⟩
  . rfl
  . rcases hend with ⟨brief', hsame, hretried, hload⟩ | ⟨hsame, _⟩
    . obtain rfl : brief = brief' := by simpa using hsame
      exact .inl ⟨brief, rfl, hretried, hload⟩
    . simp at hsame
  . rcases reserveGeneration_eq_ok hreserved with ⟨_, rfl, _⟩ | ⟨_, _, _, hacquired⟩
    . rfl
    . rcases acquireGeneration_eq_ok hacquired with ⟨_, _, _, _, _, rfl, _⟩ | ⟨_, rfl, _⟩ <;> rfl
  . rcases hend with ⟨brief', hsame, _⟩ | ⟨hsame, hnone⟩
    . simp at hsame
    obtain rfl : inputFingerprint = _ := by simpa using hsame
    rcases reserveGeneration_eq_ok hreserved with ⟨brief, _, _, hload⟩ | ⟨plan, rfl, hplan, _⟩
    . -- what is completed under a fingerprint is stored under it
      have hfound := (hhistory.loaded hload).1
      rw [hnone] at hfound
      simp at hfound
    . exact .inr ⟨plan, rfl, hplan, hnone⟩

/--
A brief that is persisted under a fingerprint nothing was stored under is in force.
-/
theorem persistGeneration_inForce (hs : s.Sound) {plan : DecisionBriefGenerationPlan}
    {analysis : DecisionAnalysis}
    (hfresh : s.findRun caseId plan.inputFingerprint = none)
    (h : s.persistGeneration now actor caseId plan analysis resolution = .ok (t, brief))
    : t.InForce brief := by
  obtain ⟨stored, hstored, hcompleted⟩ := persistGeneration_eq_ok h
  obtain ⟨_, _, rfl⟩ := completeGeneration_eq_ok hcompleted
  rcases createOrGetBrief_eq_ok hs.history hstored with ⟨rfl, hload⟩ | ⟨_, _, _, hrec⟩
  . have hfound := (hs.history.loaded hload).1
    rw [show (plan.command analysis).inputFingerprint = plan.inputFingerprint from rfl, hfresh]
      at hfound
    simp at hfound
  . exact ⟨brief.proposal, hrec.proposal, hrec.in_force⟩

/--
A brief that is prepared or generated in one go is in force exactly if the first reusable run of its
snapshot, if there is one, is the newest of the case.
-/
theorem generated_current_iff (init : InitialStore) (commands : List Command) (now : Instant)
    (ownerToken : Nat) (actor : ActorContext) (engine : EngineVersions) (caseId : Nat)
    (expectedCaseVersion : Nat) (resolution : PolicyResolution)
    : (∀ t brief, (init.after commands).prepareGeneration now ownerToken actor engine caseId
            expectedCaseVersion resolution = .ok (t, .reused brief)
          → (t.InForce brief
            ↔ ¬ (init.after commands).SnapshotReplaced engine caseId resolution))
        ∧ ∀ analyze currentResolution t brief, (init.after commands).generateBrief now ownerToken
            actor engine analyze caseId expectedCaseVersion resolution currentResolution
              = .ok (t, brief)
          → (t.InForce brief
            ↔ ¬ (init.after commands).SnapshotReplaced engine caseId resolution) := by
  have hs := init.after_sound commands
  have hreused : ∀ t brief, (init.after commands).prepareGeneration now ownerToken actor engine caseId
      expectedCaseVersion resolution = .ok (t, .reused brief)
        → (t.InForce brief ↔ ¬ (init.after commands).SnapshotReplaced engine caseId resolution) := by
    intro t brief h
    obtain ⟨base, k, hbase, hsearched, hruns, ht, ⟨brief', hsame, hretried, hload⟩ | ⟨_, hplan, _⟩⟩ :=
      prepareGeneration_searched hs h
    . obtain rfl : brief = brief' := by simpa using hsame
      obtain ⟨_, hversion, hrun, hcase, _⟩ := ht.history.loaded hload
      rw [hsearched.replaced_iff hbase hretried, ht.history.inForce_iff hversion hrun hcase]
      unfold RunReplaced
      rw [hruns]
    . simp at hplan
  refine ⟨hreused, ?_⟩
  intro analyze currentResolution t brief h
  unfold generateBrief at h
  rw [bind_eq_ok] at h
  obtain ⟨⟨prepared, preparation⟩, hprepared, h⟩ := h
  cases preparation with
  | reused found =>
    simp only [pure_eq_ok, Prod.mk.injEq] at h
    obtain ⟨rfl, rfl⟩ := h
    exact hreused prepared found hprepared
  | plan plan =>
    simp only [bind_eq_ok] at h
    obtain ⟨analysis, _, hpersist⟩ := h
    obtain ⟨base, k, hbase, hsearched, hruns, ht, ⟨_, hsame, _⟩ | ⟨plan', hsame, hfingerprint, hnone⟩⟩ :=
      prepareGeneration_searched hs hprepared
    . simp at hsame
    . obtain rfl : plan = plan' := by simpa using hsame
      have hfresh : prepared.findRun caseId plan.inputFingerprint = none := by
        unfold findRun at hnone ⊢
        rw [hruns, hfingerprint, hnone]
      exact iff_of_true (persistGeneration_inForce ht hfresh hpersist)
        (hsearched.not_replaced hbase hnone)

end

end Store

/--
The brief a preparation reuses.
-/
def GenerationPreparation.brief : GenerationPreparation → Option DecisionBrief
  | .reused brief => some brief
  | .plan _ => none

namespace Sample

attribute [local instance] Digest.checksum

/--
The policy evidence of the refund changes once while its brief is generated for both.
-/
def evidenceChange : List Command :=
  generate "A" "EVD-0" 7 ++ generate "B" "EVD-1" 8

/--
When the evidence changes back, the first version is prepared again although the second one is in
force, and it can not be submitted.
-/
theorem generated_replaced : ∃ answered ∈ ((initial.after evidenceChange).prepareGeneration 1 9
      manager engine 0 1 (resolution "A")).toOption,
    ∃ brief ∈ answered.2.brief, brief.version.version = 1
      ∧ (answered.1.proposals[brief.version.proposalId]?.map fun p => p.currentVersion) = some 2
      ∧ (answered.1.submitReview 2 0 "MB-1" submission).toOption.isNone = true := by
  decide +kernel

end Sample

end CaseResolution
