import CaseResolution.Briefs.Impl.Service
import CaseResolution.Briefs.Lemmas.Writer

/-!
This module contains when the operations that generate decision briefs are accepted and what they
write.
-/

namespace CaseResolution

open Guard

namespace Store

variable {s t : Store} {now : Instant} {caseId : Nat}

theorem bindEvidenceRow_eq_ok {binding : PolicyEvidenceBinding} {bundle : PolicyEvidenceBundle}
    (h : s.bindEvidenceRow caseId binding = .ok (t, bundle))
    : ∃ policyEvidence, t = { s with policyEvidence := policyEvidence } := by
  unfold bindEvidenceRow at h
  rw [ensure_bind_eq_ok] at h
  obtain ⟨_, h⟩ := h
  split at h
  . simp only [pure_eq_ok, Prod.mk.injEq] at h
    exact ⟨s.policyEvidence, h.1.symm⟩
  . simp only [pure_eq_ok, Prod.mk.injEq] at h
    exact ⟨_, h.1.symm⟩

theorem bindEvidence_eq_ok {bindings : List PolicyEvidenceBinding}
    {bundles : List PolicyEvidenceBundle} (h : bindEvidence caseId bindings s = .ok (t, bundles))
    : ∃ policyEvidence, t = { s with policyEvidence := policyEvidence } := by
  induction bindings generalizing s bundles with
  | nil =>
    simp only [bindEvidence, pure_eq_ok, Prod.mk.injEq] at h
    exact ⟨s.policyEvidence, h.1.symm⟩
  | cons binding rest ih =>
    simp only [bindEvidence, bind_eq_ok, pure_eq_ok, Prod.mk.injEq] at h
    obtain ⟨⟨bound, _⟩, hrow, ⟨final, _⟩, hrest, rfl, _⟩ := h
    obtain ⟨_, rfl⟩ := bindEvidenceRow_eq_ok hrow
    obtain ⟨policyEvidence, rfl⟩ := ih hrest
    exact ⟨policyEvidence, rfl⟩

theorem refreshForCase_eq_ok {resolution : PolicyResolution} {evidence : EvidenceRetrievalResult}
    (h : s.refreshForCase caseId resolution = .ok (t, evidence))
    : ∃ policyEvidence, t = { s with policyEvidence := policyEvidence } := by
  unfold refreshForCase at h
  split at h
  . simp only [pure_eq_ok, Prod.mk.injEq] at h
    exact ⟨s.policyEvidence, h.1.symm⟩
  . simp only [bind_eq_ok, pure_eq_ok, Prod.mk.injEq] at h
    obtain ⟨⟨bound, _⟩, hbound, rfl, _⟩ := h
    exact bindEvidence_eq_ok hbound

/--
A generation is acquired for the first time, taken over, or found completed.
-/
theorem acquireGeneration_eq_ok {ownerToken leaseSeconds maxAttempts : Nat}
    {inputFingerprint : String} {reservation : GenerationReservation inputFingerprint}
    (h : s.acquireGeneration now ownerToken caseId inputFingerprint leaseSeconds maxAttempts
      = .ok (t, reservation))
    : (∃ row runId, s.generations caseId inputFingerprint = some row ∧ row.status = .completed
          ∧ row.analysisRunId = some runId ∧ t = s ∧ reservation = .completed runId)
        ∨ ∃ row, t = s.setGeneration caseId inputFingerprint row
          ∧ reservation = .leased (row.lease inputFingerprint) rfl
          ∧ ((s.generations caseId inputFingerprint = none ∧ 1 ≤ maxAttempts
              ∧ row = .first ownerToken (now + seconds leaseSeconds))
            ∨ ∃ existing, s.generations caseId inputFingerprint = some existing
              ∧ existing.status ≠ .completed ∧ existing.attemptCount < maxAttempts
              ∧ row = existing.takeOver ownerToken (now + seconds leaseSeconds)) := by
  unfold acquireGeneration at h
  simp only [bind_eq_ok, ensure_eq_ok, exists_const, orThrow_eq_ok] at h
  obtain ⟨_, hlimit, _, _, h⟩ := h
  split at h
  . next hnone =>
    simp only [pure_eq_ok, Prod.mk.injEq] at h
    obtain ⟨rfl, rfl⟩ := h
    exact .inr ⟨_, rfl, rfl, .inl ⟨hnone, hlimit, rfl⟩⟩
  . next existing hexisting =>
    rw [ensure_bind_eq_ok] at h
    obtain ⟨_, h⟩ := h
    split at h
    . next hcompleted =>
      simp only [bind_eq_ok, orThrow_eq_ok, pure_eq_ok, Prod.mk.injEq] at h
      obtain ⟨runId, hrunId, rfl, rfl⟩ := h
      exact .inl ⟨existing, runId, hexisting, hcompleted, hrunId, rfl, rfl⟩
    . next hopen =>
      simp only [bind_eq_ok, ensure_eq_ok, exists_const, pure_eq_ok, Prod.mk.injEq] at h
      obtain ⟨hattempt, rfl, rfl⟩ := h
      exact .inr ⟨_, rfl, rfl, .inr ⟨existing, hexisting, hopen, hattempt, rfl⟩⟩

theorem heldGeneration_eq_some {lease : DecisionGenerationLease} {row : CaseAnalysisGeneration}
    : s.heldGeneration caseId lease = some row
        ↔ s.generations caseId lease.inputFingerprint = some row
          ∧ row.ownerToken = lease.ownerToken ∧ row.fenceToken = lease.fenceToken
          ∧ row.status = .running := by
  simp [heldGeneration, CaseAnalysisGeneration.isHeldBy, Option.filter_eq_some_iff]

theorem completeGeneration_eq_ok {lease : DecisionGenerationLease} {runId : Nat}
    (h : s.completeGeneration now caseId lease runId = .ok t)
    : ∃ row, s.heldGeneration caseId lease = some row
        ∧ t = s.setGeneration caseId lease.inputFingerprint
          { row with
            status := .completed
            analysisRunId := some runId
            completedAt := some now
            expiresAt := now
            lastErrorCode := none } := by
  unfold completeGeneration at h
  simp only [bind_eq_ok, orThrow_eq_ok, pure_eq_ok] at h
  obtain ⟨_, _, row, hrow, rfl⟩ := h
  exact ⟨row, hrow, rfl⟩

theorem failGeneration_eq_ok {lease : DecisionGenerationLease} {errorCode : String}
    {released : Bool} (h : s.failGeneration now caseId lease errorCode = .ok (t, released))
    : (s.heldGeneration caseId lease = none ∧ t = s ∧ released = false)
        ∨ ∃ row, s.heldGeneration caseId lease = some row
          ∧ t = s.setGeneration caseId lease.inputFingerprint
            { row with
              status := .failed
              expiresAt := now
              lastErrorCode := some (errorCode.take 64).toString }
          ∧ released = true := by
  unfold failGeneration at h
  simp only [bind_eq_ok, orThrow_eq_ok] at h
  obtain ⟨_, _, h⟩ := h
  split at h
  . next hnone =>
    simp only [pure_eq_ok, Prod.mk.injEq] at h
    exact .inl ⟨hnone, h.1.symm, h.2.symm⟩
  . next row hrow =>
    simp only [pure_eq_ok, Prod.mk.injEq] at h
    exact .inr ⟨row, hrow, h.1.symm, h.2.symm⟩

/--
A completed generation leads to the brief of its run, any other one to a lease.
-/
theorem reserveGeneration_eq_ok [Digest] {ownerToken : Nat} {workspace : CaseWorkspace}
    {evidence : EvidenceRetrievalResult} {expectedCaseVersion : Nat}
    {contextFingerprint evidenceFingerprint inputFingerprint : String}
    {preparation : GenerationPreparation}
    (h : s.reserveGeneration now ownerToken caseId workspace evidence expectedCaseVersion
      contextFingerprint evidenceFingerprint inputFingerprint = .ok (t, preparation))
    : (∃ brief, t = s ∧ preparation = .reused brief
          ∧ s.loadByInputFingerprint caseId inputFingerprint = .ok (some brief))
        ∨ ∃ plan, preparation = .plan plan
          ∧ plan.inputFingerprint = inputFingerprint
          ∧ s.acquireGeneration now ownerToken caseId plan.inputFingerprint
              decisionGenerationLeaseSeconds maxDecisionGenerationAttempts
            = .ok (t, .leased plan.lease plan.lease_inputFingerprint) := by
  unfold reserveGeneration at h
  rw [bind_eq_ok] at h
  obtain ⟨⟨acquired, reservation⟩, hacquired, h⟩ := h
  cases reservation with
  | completed runId =>
    simp only [bind_eq_ok, orThrow_eq_ok, ensure_eq_ok, exists_const, pure_eq_ok,
      Prod.mk.injEq] at h
    obtain ⟨_, hload, brief, rfl, _, rfl, rfl⟩ := h
    rcases acquireGeneration_eq_ok hacquired with ⟨_, _, _, _, _, rfl, _⟩ | ⟨_, _, hleased, _⟩
    . exact .inl ⟨brief, rfl, rfl, hload⟩
    . simp at hleased
  | leased lease hlease =>
    simp only [pure_eq_ok, Prod.mk.injEq] at h
    obtain ⟨rfl, rfl⟩ := h
    exact .inr ⟨_, rfl, rfl, hacquired⟩

variable [Digest]

/--
A preparation reuses a stored brief or leases the generation of an input fingerprint under which no
brief is stored.
-/
theorem prepareGeneration_eq_ok {ownerToken expectedCaseVersion : Nat} {actor : ActorContext}
    {engine : EngineVersions} {resolution : PolicyResolution} {preparation : GenerationPreparation}
    (h : s.prepareGeneration now ownerToken actor engine caseId expectedCaseVersion resolution
      = .ok (t, preparation))
    : ∃ policyEvidence workspace evidence contextFingerprint evidenceFingerprint baseInputFingerprint,
        s.refreshForCase caseId resolution
            = .ok ({ s with policyEvidence := policyEvidence }, evidence)
          ∧ s.getWorkspace caseId = some workspace
          ∧ workspace.case.version = expectedCaseVersion
          ∧ contextFingerprint = combinedContextFingerprint workspace.businessContexts
          ∧ evidenceFingerprint = combinedEvidenceFingerprint evidence
          ∧ baseInputFingerprint = decisionInputFingerprint workspace.case evidence
            contextFingerprint evidenceFingerprint engine
          ∧ ((∃ brief, ({ s with policyEvidence := policyEvidence } : Store).searchBrief caseId
                  engine.modelVersion baseInputFingerprint
                  (List.range (maxInputFingerprintRetries + 1)) baseInputFingerprint
                = .ok (.inl brief)
              ∧ preparation = .reused brief ∧ t = { s with policyEvidence := policyEvidence })
            ∨ ∃ inputFingerprint,
              ({ s with policyEvidence := policyEvidence } : Store).searchBrief caseId
                  engine.modelVersion baseInputFingerprint
                  (List.range (maxInputFingerprintRetries + 1)) baseInputFingerprint
                = .ok (.inr inputFingerprint)
              ∧ ({ s with policyEvidence := policyEvidence } : Store).reserveGeneration now
                  ownerToken caseId workspace evidence expectedCaseVersion contextFingerprint
                  evidenceFingerprint inputFingerprint = .ok (t, preparation)) := by
  unfold prepareGeneration requirePermission at h
  simp only [bind_eq_ok, ensure_eq_ok, exists_const, orThrow_eq_ok] at h
  obtain ⟨_, _, workspace, hworkspace, hversion, _, ⟨refreshed, evidence⟩, hrefreshed, found,
    hfound, h⟩ := h
  obtain ⟨policyEvidence, rfl⟩ := refreshForCase_eq_ok hrefreshed
  refine ⟨policyEvidence, workspace, evidence, _, _, _, hrefreshed, hworkspace, hversion, rfl, rfl,
    rfl, ?_⟩
  cases found with
  | inl brief =>
    simp only [pure_eq_ok, Prod.mk.injEq] at h
    exact .inl ⟨brief, hfound, h.2.symm, h.1.symm⟩
  | inr inputFingerprint => exact .inr ⟨inputFingerprint, hfound, h⟩

theorem persistGeneration_eq_ok {actor : ActorContext} {plan : DecisionBriefGenerationPlan}
    {analysis : DecisionAnalysis} {resolution : PolicyResolution} {brief : DecisionBrief}
    (h : s.persistGeneration now actor caseId plan analysis resolution = .ok (t, brief))
    : ∃ stored, s.createOrGetBrief caseId (plan.command analysis) = .ok (stored, brief)
        ∧ stored.completeGeneration now caseId plan.lease brief.runId = .ok t := by
  unfold persistGeneration requirePermission at h
  simp only [bind_eq_ok, ensure_eq_ok, exists_const, pure_eq_ok, Prod.mk.injEq] at h
  obtain ⟨_, _, _, ⟨stored, brief'⟩, hstored, completed, hcompleted, rfl, rfl⟩ := h
  exact ⟨stored, hstored, hcompleted⟩

end Store

end CaseResolution
