import CaseResolution.Briefs.Impl.Writer

/-!
This module contains what every stored history of decision briefs satisfies, what storing a brief
writes, and that it keeps the history.
-/

namespace CaseResolution

open Guard

namespace Store

/--
The runs, the proposals and the versions of a store fit together: a case has one proposal, a run has
one version, and a proposal's versions are numbered in the order of their runs.
-/
structure BriefHistory (s : Store) : Prop where
  proposal_case : ∀ p ∈ s.proposals, p.caseId < s.cases.length
  proposal_unique : ∀ (i j : Nat) (p q : CaseProposal), s.proposals[i]? = some p
    → s.proposals[j]? = some q → p.caseId = q.caseId → i = j
  version_proposal : ∀ v ∈ s.versions, ∃ p, s.proposals[v.proposalId]? = some p
    ∧ p.caseId = v.caseId ∧ v.version ≤ p.currentVersion
  version_unique : ∀ (i j : Nat) (v w : CaseProposalVersion), s.versions[i]? = some v
    → s.versions[j]? = some w → v.proposalId = w.proposalId → v.version = w.version → i = j
  current : ∀ (i : Nat) (p : CaseProposal), s.proposals[i]? = some p
    → ∃ v ∈ s.versions, v.proposalId = i ∧ v.version = p.currentVersion
  version_run : ∀ v ∈ s.versions, ∃ run, s.runs[v.analysisRunId]? = some run
    ∧ run.caseId = v.caseId
  run_version : ∀ (k : Nat) (run : CaseAnalysisRun), s.runs[k]? = some run
    → ∃ v ∈ s.versions, v.analysisRunId = k
  run_order : ∀ v ∈ s.versions, ∀ w ∈ s.versions, v.proposalId = w.proposalId
    → (v.version < w.version ↔ v.analysisRunId < w.analysisRunId)
  run_unique : ∀ (j k : Nat) (run other : CaseAnalysisRun), s.runs[j]? = some run
    → s.runs[k]? = some other → run.caseId = other.caseId
    → run.inputFingerprint = other.inputFingerprint → j = k

theorem findProposal_eq_some {s : Store} {caseId proposalId : Nat}
    (h : s.findProposal caseId = some proposalId)
    : ∃ p, s.proposals[proposalId]? = some p ∧ p.caseId = caseId := by
  obtain ⟨p, hp, hcase⟩ := Rows.exists_of_findIdx? h
  exact ⟨p, hp, by simpa using hcase⟩

theorem findProposal_eq_none {s : Store} {caseId : Nat} (h : s.findProposal caseId = none)
    : ∀ p ∈ s.proposals, p.caseId ≠ caseId := by
  simpa [findProposal] using h

theorem findRun_eq_some {s : Store} {caseId runId : Nat} {inputFingerprint : String}
    (h : s.findRun caseId inputFingerprint = some runId)
    : ∃ run, s.runs[runId]? = some run ∧ run.caseId = caseId
        ∧ run.inputFingerprint = inputFingerprint := by
  obtain ⟨run, hrun, hkey⟩ := Rows.exists_of_findIdx? h
  exact ⟨run, hrun, by simpa using hkey⟩

theorem findRun_eq_none {s : Store} {caseId : Nat} {inputFingerprint : String}
    : s.findRun caseId inputFingerprint = none
        ↔ ∀ run ∈ s.runs, run.caseId = caseId → run.inputFingerprint ≠ inputFingerprint := by
  simp [findRun]

/--
No version of a proposal has a number above the highest one.
-/
theorem le_latestVersion {s : Store} {v : CaseProposalVersion} (h : v ∈ s.versions)
    : v.version ≤ s.latestVersion v.caseId v.proposalId := by
  unfold latestVersion
  have hfold : ∀ (versions : List CaseProposalVersion) (latest : Nat),
      (latest ≤ versions.foldl (fun latest w =>
          if w.caseId = v.caseId ∧ w.proposalId = v.proposalId then max latest w.version
          else latest) latest)
        ∧ (v ∈ versions → v.version ≤ versions.foldl (fun latest w =>
          if w.caseId = v.caseId ∧ w.proposalId = v.proposalId then max latest w.version
          else latest) latest) := by
    intro versions
    induction versions with
    | nil => simp
    | cons w rest ih =>
      intro latest
      simp only [List.foldl_cons]
      constructor
      . refine le_trans ?_ (ih _).1
        split
        . exact le_max_left _ _
        . exact le_refl _
      . intro hv
        rcases List.mem_cons.mp hv with rfl | hv
        . refine le_trans ?_ (ih _).1
          simp
        . exact (ih _).2 hv
  exact (hfold s.versions 0).2 h

theorem loadBrief_eq_ok {s : Store} {proposalId versionNumber : Nat} {proposal : CaseProposal}
    {brief : DecisionBrief} (h : s.loadBrief proposalId proposal versionNumber = .ok brief)
    : brief.proposal = proposal ∧ brief.version ∈ s.versions
        ∧ brief.version.proposalId = proposalId ∧ brief.version.version = versionNumber
        ∧ brief.runId = brief.version.analysisRunId
        ∧ s.runs[brief.runId]? = some brief.run := by
  unfold loadBrief at h
  simp only [orThrow_bind_eq_ok, pure_eq_ok] at h
  obtain ⟨version, hversion, run, hrun, responseDraft, _, rfl⟩ := h
  have hkey := List.find?_some hversion
  simp only [decide_eq_true_eq] at hkey
  exact ⟨rfl, List.mem_of_find?_eq_some hversion, hkey.2.1, hkey.2.2, rfl, hrun⟩

theorem loadByInputFingerprint_eq_none {s : Store} {caseId : Nat} {inputFingerprint : String}
    (h : s.loadByInputFingerprint caseId inputFingerprint = .ok none)
    : s.findRun caseId inputFingerprint = none := by
  unfold loadByInputFingerprint at h
  split at h
  . next heq => exact heq
  . simp only [bind_eq_ok, pure_eq_ok, reduceCtorEq, and_false, exists_false] at h

theorem loadByInputFingerprint_of_none {s : Store} {caseId : Nat} {inputFingerprint : String}
    (h : s.findRun caseId inputFingerprint = none)
    : s.loadByInputFingerprint caseId inputFingerprint = .ok none := by
  unfold loadByInputFingerprint
  rw [h]
  rfl

theorem advanceProposal_eq_ok {s advanced : Store} {caseId proposalId : Nat}
    {state : DecisionProposalState} {proposal : CaseProposal}
    (h : s.advanceProposal caseId state = .ok (advanced, proposalId, proposal))
    : (s.findProposal caseId = none ∧ proposalId = s.proposals.length
          ∧ proposal = { caseId, currentVersion := 1, state, version := 1 }
          ∧ advanced = { s with proposals := s.proposals ++ [proposal] })
        ∨ ∃ old, s.findProposal caseId = some proposalId ∧ s.proposals[proposalId]? = some old
          ∧ proposal = { old with
              currentVersion := s.latestVersion caseId proposalId + 1
              state := state
              version := old.version + 1 }
          ∧ advanced = s.setProposal proposalId proposal := by
  unfold advanceProposal at h
  split at h
  . next hnone =>
    simp only [pure_eq_ok, Prod.mk.injEq] at h
    obtain ⟨rfl, rfl, rfl⟩ := h
    exact .inl ⟨hnone, rfl, rfl, rfl⟩
  . next found hfound =>
    simp only [orThrow_bind_eq_ok, pure_eq_ok, Prod.mk.injEq] at h
    obtain ⟨old, hold, rfl, rfl, rfl⟩ := h
    exact .inr ⟨old, hfound, hold, rfl, rfl⟩

/--
What `t` has more than `s` after a brief was recorded: a run, its version, and the proposal that puts
this version in force.
-/
structure RecordsBrief (s t : Store) (run : CaseAnalysisRun) (v : CaseProposalVersion)
    (p : CaseProposal) : Prop where
  runs : t.runs = s.runs ++ [run]
  versions : t.versions = s.versions ++ [v]
  proposal : t.proposals[v.proposalId]? = some p
  others : ∀ j, j ≠ v.proposalId → t.proposals[j]? = s.proposals[j]?
  new_case : v.caseId < s.cases.length
  run_case : run.caseId = v.caseId
  proposal_case : p.caseId = v.caseId
  run_id : v.analysisRunId = s.runs.length
  in_force : v.version = p.currentVersion
  fresh : s.findRun v.caseId run.inputFingerprint = none
  newest : ∀ w ∈ s.versions, w.proposalId = v.proposalId → w.version < v.version
  advanced : ∀ old, s.proposals[v.proposalId]? = some old
    → old.caseId = v.caseId ∧ old.currentVersion < p.currentVersion
  only_proposal : ∀ (j : Nat) (old : CaseProposal), s.proposals[j]? = some old
    → old.caseId = v.caseId → j = v.proposalId
  governed : v.legacyProposalVersionId = none
  cases : t.cases = s.cases
  members : t.members = s.members
  connections : t.connections = s.connections
  generations : t.generations = s.generations
  reviews : t.reviews = s.reviews
  actions : t.actions = s.actions

/--
A recorded version is the only one of its proposal with its number.
-/
theorem RecordsBrief.eq_of_mem {s t : Store} {run : CaseAnalysisRun} {v w : CaseProposalVersion}
    {p : CaseProposal} (h : s.RecordsBrief t run v p) (hw : w ∈ t.versions)
    (hproposal : w.proposalId = v.proposalId) (hversion : w.version = v.version) : w = v := by
  rw [h.versions, List.mem_append, List.mem_singleton] at hw
  rcases hw with hw | rfl
  . have := h.newest w hw hproposal
    omega
  . rfl

namespace BriefHistory

variable {s : Store}

theorem proposal_le_latest (h : s.BriefHistory) {i : Nat} {p : CaseProposal}
    (hp : s.proposals[i]? = some p) : p.currentVersion ≤ s.latestVersion p.caseId i := by
  obtain ⟨v, hv, rfl, hversion⟩ := h.current i p hp
  obtain ⟨q, hq, hcase, _⟩ := h.version_proposal v hv
  obtain rfl : p = q := by simpa [hp] using hq
  rw [← hversion, hcase]
  exact le_latestVersion hv

/--
The brief found under an input fingerprint is the version of the run stored under it.
-/
theorem loaded (h : s.BriefHistory) {caseId : Nat} {inputFingerprint : String}
    {brief : DecisionBrief}
    (hload : s.loadByInputFingerprint caseId inputFingerprint = .ok (some brief))
    : s.findRun caseId inputFingerprint = some brief.runId
        ∧ brief.version ∈ s.versions
        ∧ brief.version.analysisRunId = brief.runId
        ∧ brief.version.caseId = caseId
        ∧ s.proposals[brief.version.proposalId]? = some brief.proposal
        ∧ s.runs[brief.runId]? = some brief.run := by
  unfold loadByInputFingerprint at hload
  split at hload
  . simp at hload
  . next runId hfound =>
    simp only [bind_eq_ok, orThrow_eq_ok, pure_eq_ok, Option.some.injEq] at hload
    obtain ⟨existing, hexisting, proposal, hproposal, found, hbrief, rfl⟩ := hload
    obtain ⟨rfl, hmem, hproposalId, hversion, hrunId, hrun⟩ := loadBrief_eq_ok hbrief
    have hkey := List.find?_some hexisting
    simp only [decide_eq_true_eq] at hkey
    obtain ⟨i, hi⟩ := List.mem_iff_getElem?.mp hmem
    obtain ⟨j, hj⟩ := List.mem_iff_getElem?.mp (List.mem_of_find?_eq_some hexisting)
    obtain rfl := h.version_unique i j _ _ hi hj hproposalId hversion
    obtain rfl : found.version = existing := by simpa [hi] using hj
    refine ⟨?_, hmem, hrunId.symm, hkey.1, ?_, hrun⟩
    . rw [hfound, hrunId, hkey.2]
    . exact hproposal

/--
Advancing a case's proposal and storing its new version records a brief.
-/
theorem recordsBrief [Digest] (h : s.BriefHistory) {caseId proposalId : Nat}
    {command : DecisionBriefCreate} {advanced : Store} {proposal : CaseProposal}
    (hcase : caseId < s.cases.length) (hfresh : s.findRun caseId command.inputFingerprint = none)
    (hadvance : { s with runs := s.runs ++ [command.newRun caseId] }.advanceProposal caseId
      command.analysis.state = .ok (advanced, proposalId, proposal))
    (evidenceBindings : List ProposalEvidenceBinding)
    (contextBindings : List ProposalContextBinding)
    : s.RecordsBrief
        { advanced with versions := advanced.versions ++ [command.newVersion caseId proposalId
            s.runs.length proposal.currentVersion evidenceBindings contextBindings] }
        (command.newRun caseId)
        (command.newVersion caseId proposalId s.runs.length proposal.currentVersion evidenceBindings
          contextBindings)
        proposal := by
  rcases advanceProposal_eq_ok hadvance with ⟨hnone, rfl, rfl, rfl⟩ | ⟨old, hsome, hold, rfl, rfl⟩
  . have hother := findProposal_eq_none hnone
    exact {
      runs := rfl
      versions := rfl
      proposal := by simp [DecisionBriefCreate.newVersion]
      others := by
        intro j hj
        dsimp only [DecisionBriefCreate.newVersion] at hj ⊢
        rw [List.getElem?_append]
        split
        . rfl
        . rw [List.getElem?_eq_none (by simp; omega), List.getElem?_eq_none (by omega)]
      new_case := hcase
      run_case := rfl
      proposal_case := rfl
      run_id := rfl
      in_force := rfl
      fresh := hfresh
      newest := by
        intro w hw hsame
        obtain ⟨p, hp, _⟩ := h.version_proposal w hw
        rw [hsame] at hp
        simp [DecisionBriefCreate.newVersion] at hp
      advanced := by simp [DecisionBriefCreate.newVersion]
      only_proposal := by
        intro j old hj hsame
        exact absurd hsame (hother old (List.mem_of_getElem? hj))
      governed := rfl
      cases := rfl
      members := rfl
      connections := rfl
      generations := rfl
      reviews := rfl
      actions := rfl
    }
  . obtain ⟨found, hfound, hfoundCase⟩ := findProposal_eq_some hsome
    obtain rfl : old = found := by simpa [hold] using hfound
    have hlt := (List.getElem?_eq_some_iff.mp hold).1
    exact {
      runs := rfl
      versions := rfl
      proposal := List.getElem?_set_self hlt
      others := by
        intro j hj
        exact List.getElem?_set_ne (Ne.symm hj)
      new_case := hcase
      run_case := rfl
      proposal_case := hfoundCase
      run_id := rfl
      in_force := rfl
      fresh := hfresh
      newest := by
        intro w hw hsame
        obtain ⟨p, hp, hpcase, _⟩ := h.version_proposal w hw
        have hle := le_latestVersion hw
        rw [hsame] at hp hle
        obtain rfl : old = p := by
          dsimp only [DecisionBriefCreate.newVersion] at hp
          simpa [hold] using hp
        rw [← hpcase, hfoundCase] at hle
        exact Nat.lt_succ_of_le hle
      advanced := by
        intro p hp
        obtain rfl : old = p := by
          dsimp only [DecisionBriefCreate.newVersion] at hp
          simpa [hold] using hp
        refine ⟨hfoundCase, ?_⟩
        have hle := h.proposal_le_latest (i := proposalId) hold
        rw [hfoundCase] at hle
        exact Nat.lt_succ_of_le hle
      only_proposal := by
        intro j p hj hsame
        exact h.proposal_unique j proposalId p old hj hold (hsame.trans hfoundCase.symm)
      governed := rfl
      cases := rfl
      members := rfl
      connections := rfl
      generations := rfl
      reviews := rfl
      actions := rfl
    }

/--
Recording a brief keeps the history.
-/
theorem of_recorded (h : s.BriefHistory) {t : Store} {run : CaseAnalysisRun}
    {v : CaseProposalVersion} {p : CaseProposal} (hrec : s.RecordsBrief t run v p)
    : t.BriefHistory where
  proposal_case := by
    intro q hq
    obtain ⟨j, hj⟩ := List.mem_iff_getElem?.mp hq
    rw [hrec.cases]
    by_cases hsame : j = v.proposalId
    . obtain rfl : q = p := by simpa [hsame, hrec.proposal] using hj.symm
      rw [hrec.proposal_case]
      exact hrec.new_case
    . rw [hrec.others j hsame] at hj
      exact h.proposal_case q (List.mem_of_getElem? hj)
  proposal_unique := by
    intro i j q q' hi hj hcase
    by_cases hi' : i = v.proposalId
    . by_cases hj' : j = v.proposalId
      . rw [hi', hj']
      . obtain rfl : q = p := by simpa [hi', hrec.proposal] using hi.symm
        rw [hrec.others j hj'] at hj
        exact absurd (hrec.only_proposal j q' hj (hcase.symm.trans hrec.proposal_case)) hj'
    . rw [hrec.others i hi'] at hi
      by_cases hj' : j = v.proposalId
      . obtain rfl : q' = p := by simpa [hj', hrec.proposal] using hj.symm
        exact absurd (hrec.only_proposal i q hi (hcase.trans hrec.proposal_case)) hi'
      . rw [hrec.others j hj'] at hj
        exact h.proposal_unique i j q q' hi hj hcase
  version_proposal := by
    intro w hw
    rw [hrec.versions, List.mem_append, List.mem_singleton] at hw
    rcases hw with hw | rfl
    . obtain ⟨q, hq, hcase, hle⟩ := h.version_proposal w hw
      by_cases hsame : w.proposalId = v.proposalId
      . rw [hsame] at hq
        obtain ⟨hold, _⟩ := hrec.advanced q hq
        refine ⟨p, by rw [hsame, hrec.proposal], ?_, ?_⟩
        . rw [hrec.proposal_case, ← hcase, hold]
        . rw [← hrec.in_force]
          exact (hrec.newest w hw hsame).le
      . exact ⟨q, by rw [hrec.others _ hsame, hq], hcase, hle⟩
    . exact ⟨p, hrec.proposal, hrec.proposal_case, hrec.in_force.le⟩
  version_unique := by
    intro i j w w' hi hj hproposal hversion
    rw [hrec.versions] at hi hj
    rcases Rows.getElem?_concat_cases hi with hold | ⟨rfl, rfl⟩
    . rcases Rows.getElem?_concat_cases hj with hj | ⟨rfl, rfl⟩
      . exact h.version_unique i j w w' hold hj hproposal hversion
      . have := hrec.newest w (List.mem_of_getElem? hold) hproposal
        omega
    . rcases Rows.getElem?_concat_cases hj with hj | ⟨rfl, rfl⟩
      . have := hrec.newest w' (List.mem_of_getElem? hj) hproposal.symm
        omega
      . rfl
  current := by
    intro i q hi
    rw [hrec.versions]
    by_cases hsame : i = v.proposalId
    . obtain rfl : q = p := by simpa [hsame, hrec.proposal] using hi.symm
      exact ⟨v, by simp, hsame.symm, hrec.in_force⟩
    . rw [hrec.others i hsame] at hi
      obtain ⟨w, hw, hw'⟩ := h.current i q hi
      exact ⟨w, List.mem_append_left _ hw, hw'⟩
  version_run := by
    intro w hw
    rw [hrec.versions, List.mem_append, List.mem_singleton] at hw
    rw [hrec.runs]
    rcases hw with hw | rfl
    . obtain ⟨run', hrun', hcase⟩ := h.version_run w hw
      have hlt := (List.getElem?_eq_some_iff.mp hrun').1
      exact ⟨run', by rw [List.getElem?_append_left hlt, hrun'], hcase⟩
    . exact ⟨run, by simp [hrec.run_id], hrec.run_case⟩
  run_version := by
    intro k run' hk
    rw [hrec.runs] at hk
    rw [hrec.versions]
    rcases Rows.getElem?_concat_cases hk with hk | ⟨rfl, rfl⟩
    . obtain ⟨w, hw, hw'⟩ := h.run_version k run' hk
      exact ⟨w, List.mem_append_left _ hw, hw'⟩
    . exact ⟨v, by simp, hrec.run_id⟩
  run_order := by
    have hold : ∀ w ∈ s.versions, w.analysisRunId < v.analysisRunId := by
      intro w hw
      obtain ⟨run', hrun', _⟩ := h.version_run w hw
      rw [hrec.run_id]
      exact (List.getElem?_eq_some_iff.mp hrun').1
    intro w hw w' hw' hproposal
    rw [hrec.versions, List.mem_append, List.mem_singleton] at hw hw'
    rcases hw with hw | rfl
    . rcases hw' with hw' | rfl
      . exact h.run_order w hw w' hw' hproposal
      . exact iff_of_true (hrec.newest w hw hproposal) (hold w hw)
    . rcases hw' with hw' | rfl
      . have hversion := hrec.newest w' hw' hproposal.symm
        have hrun := hold w' hw'
        exact iff_of_false (by omega) (by omega)
      . simp
  run_unique := by
    intro j k run₁ run₂ hj hk hcase hfingerprint
    rw [hrec.runs] at hj hk
    have hfresh := findRun_eq_none.mp hrec.fresh
    rcases Rows.getElem?_concat_cases hj with hold | ⟨rfl, rfl⟩
    . rcases Rows.getElem?_concat_cases hk with hk | ⟨rfl, rfl⟩
      . exact h.run_unique j k run₁ run₂ hold hk hcase hfingerprint
      . exact absurd hfingerprint
          (hfresh run₁ (List.mem_of_getElem? hold) (hcase.trans hrec.run_case))
    . rcases Rows.getElem?_concat_cases hk with hk | ⟨rfl, rfl⟩
      . exact absurd hfingerprint.symm
          (hfresh run₂ (List.mem_of_getElem? hk) (hcase.symm.trans hrec.run_case))
      . rfl

/--
Writes that leave the runs and the versions alone, and the proposals up to their state, keep the
history.
-/
theorem of_same (h : s.BriefHistory) {t : Store} (hruns : t.runs = s.runs)
    (hversions : t.versions = s.versions)
    (hproposals : ∀ j : Nat, (t.proposals[j]?).map (fun p => (p.caseId, p.currentVersion))
      = (s.proposals[j]?).map fun p => (p.caseId, p.currentVersion))
    (hcases : s.cases.length ≤ t.cases.length) : t.BriefHistory := by
  have hback : ∀ (j : Nat) (q : CaseProposal), t.proposals[j]? = some q
      → ∃ p, s.proposals[j]? = some p ∧ p.caseId = q.caseId
        ∧ p.currentVersion = q.currentVersion := by
    intro j q hj
    have := hproposals j
    rw [hj, Option.map_some, eq_comm, Option.map_eq_some_iff] at this
    obtain ⟨p, hp, heq⟩ := this
    exact ⟨p, hp, congrArg Prod.fst heq, congrArg Prod.snd heq⟩
  have hforth : ∀ (j : Nat) (p : CaseProposal), s.proposals[j]? = some p
      → ∃ q, t.proposals[j]? = some q ∧ q.caseId = p.caseId
        ∧ q.currentVersion = p.currentVersion := by
    intro j p hj
    have := hproposals j
    rw [hj, Option.map_some, Option.map_eq_some_iff] at this
    obtain ⟨q, hq, heq⟩ := this
    exact ⟨q, hq, congrArg Prod.fst heq, congrArg Prod.snd heq⟩
  exact {
    proposal_case := by
      intro q hq
      obtain ⟨j, hj⟩ := List.mem_iff_getElem?.mp hq
      obtain ⟨p, hp, hcase, _⟩ := hback j q hj
      rw [← hcase]
      exact lt_of_lt_of_le (h.proposal_case p (List.mem_of_getElem? hp)) hcases
    proposal_unique := by
      intro i j q q' hi hj hcase
      obtain ⟨p, hp, hpcase, _⟩ := hback i q hi
      obtain ⟨p', hp', hpcase', _⟩ := hback j q' hj
      exact h.proposal_unique i j p p' hp hp' (by rw [hpcase, hcase, hpcase'])
    version_proposal := by
      rw [hversions]
      intro v hv
      obtain ⟨p, hp, hcase, hle⟩ := h.version_proposal v hv
      obtain ⟨q, hq, hqcase, hqversion⟩ := hforth _ p hp
      exact ⟨q, hq, by rw [hqcase, hcase], by rwa [hqversion]⟩
    version_unique := by
      rw [hversions]
      exact h.version_unique
    current := by
      rw [hversions]
      intro i q hi
      obtain ⟨p, hp, _, hversion⟩ := hback i q hi
      rw [← hversion]
      exact h.current i p hp
    version_run := by
      rw [hversions, hruns]
      exact h.version_run
    run_version := by
      rw [hversions, hruns]
      exact h.run_version
    run_order := by
      rw [hversions]
      exact h.run_order
    run_unique := by
      rw [hruns]
      exact h.run_unique
  }

end BriefHistory

/--
A brief is stored by finding the one of the same input fingerprint or by recording a new one.
-/
theorem createOrGetBrief_eq_ok [Digest] {s t : Store} (hhistory : s.BriefHistory) {caseId : Nat}
    {command : DecisionBriefCreate} {brief : DecisionBrief}
    (h : s.createOrGetBrief caseId command = .ok (t, brief))
    : (t = s ∧ s.loadByInputFingerprint caseId command.inputFingerprint = .ok (some brief))
        ∨ (s.findRun caseId command.inputFingerprint = none
          ∧ brief.version.caseId = caseId ∧ brief.runId = s.runs.length
          ∧ s.RecordsBrief t (command.newRun caseId) brief.version brief.proposal) := by
  unfold createOrGetBrief at h
  rw [orThrow_bind_eq_ok] at h
  obtain ⟨case, hcase, h⟩ := h
  rw [ensure_bind_eq_ok, bind_eq_ok] at h
  obtain ⟨_, existing, hexisting, h⟩ := h
  cases existing with
  | some existing =>
    simp only [pure_eq_ok, Prod.mk.injEq] at h
    obtain ⟨rfl, rfl⟩ := h
    exact .inl ⟨rfl, hexisting⟩
  | none =>
    simp only [bind_eq_ok, pure_eq_ok, Prod.mk.injEq] at h
    obtain ⟨⟨advanced, proposalId, proposal⟩, hadvance, evidence, _, contexts, _, found, hload, rfl,
      rfl⟩ := h
    have hfresh := loadByInputFingerprint_eq_none hexisting
    have hrec := hhistory.recordsBrief (List.getElem?_eq_some_iff.mp hcase).1 hfresh hadvance
      evidence contexts
    obtain ⟨rfl, hmem, hproposalId, hversion, hrunId, _⟩ := loadBrief_eq_ok hload
    have hsame := hrec.eq_of_mem hmem hproposalId hversion
    rw [hsame] at hrunId ⊢
    exact .inr ⟨hfresh, rfl, hrunId, hrec⟩

end Store

end CaseResolution
