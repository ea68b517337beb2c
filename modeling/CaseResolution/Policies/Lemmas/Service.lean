import CaseResolution.Policies.Lemmas.Versions
import CaseResolution.Policies.System

/-!
This module contains what a request has read when it writes, and what a whole run of the policy service
keeps of the policies it creates.
-/

namespace CaseResolution

open Guard

/--
What the service has checked of a policy before it asks for a write.
-/
def PolicyWrite.Admitted (p : Policy) (now : Instant) : PolicyWrite → Prop
  | .createDraft .. => p.status ∉ [.draft, .inReview, .parsingFailed]
  | .retrySource .. => p.status = .parsingFailed ∧ p.currentVersion = 0
  | .submitReview n .. =>
    p.currentVersion = n ∧ ∃ v, p.findVersion n = some v ∧ v.status = .draft
  | .markConflicting n .. =>
    p.currentVersion = n ∧ ∃ v, p.findVersion n = some v ∧ v.status = .inReview
  | .activate n _ _ target effectiveFrom =>
    p.currentVersion = n
      ∧ (∃ v, p.findVersion n = some v ∧ v.status = .inReview
        ∧ ∀ stop ∈ v.effectiveTo, effectiveFrom < stop)
      ∧ ((target = .published ∧ effectiveFrom ≤ now) ∨ (target = .scheduled ∧ now < effectiveFrom))
  | .retire n .. =>
    p.currentVersion = n
      ∧ ∃ v, p.findVersion n = some v ∧ (v.status = .published ∨ v.status = .scheduled)

/--
The writes a request can end with.
-/
inductive PolicyRequest.Asks : PolicyRequest → PolicyWrite → Prop where
  | createDraft (actorId : String) (e : Nat) (content : PolicyDraftContent)
      (clauses : List ParsedPolicyClause)
      : Asks (.createDraft e content) (.createDraft actorId e content clauses)
  | retrySource (actorId : String) (e : Nat) (content : PolicyDraftContent)
      (clauses : List ParsedPolicyClause)
      : Asks (.retrySource e content) (.retrySource actorId e content clauses)
  | submitReview (n e e' : Nat) : Asks (.submitReview n e e') (.submitReview n e e')
  | publish (n e e' : Nat) (requested : Option Instant) (effectiveFrom : Instant)
      : Asks (.publish n e e' requested) (.activate n e e' .published effectiveFrom)
  | publishConflict (n e e' : Nat) (requested : Option Instant)
      : Asks (.publish n e e' requested) (.markConflicting n e e')
  | schedule (n e e' : Nat) (effectiveFrom : Instant)
      : Asks (.schedule n e e' effectiveFrom) (.activate n e e' .scheduled effectiveFrom)
  | scheduleConflict (n e e' : Nat) (effectiveFrom : Instant)
      : Asks (.schedule n e e' effectiveFrom) (.markConflicting n e e')
  | retire (n e e' : Nat) : Asks (.retire n e e') (.retire n e e')

namespace PolicyBook

variable {b c : PolicyBook} {now : Instant} {actor : ActorContext} {policyId : String}

theorem findPolicy_eq_some {index : Nat} {p : Policy} (h : b.findPolicy policyId = some (index, p))
    : b.policies[index]? = some p ∧ p.publicId = policyId := by
  unfold findPolicy at h
  have hmem := List.mem_of_find?_eq_some h
  have hfound := List.find?_some h
  simp only [List.mem_map, Prod.exists, Prod.swap_prod_mk, Prod.mk.injEq] at hmem
  obtain ⟨p', i, hzip, hindex, hp⟩ := hmem
  subst hindex hp
  exact ⟨by simpa using List.mem_zipIdx_iff_getElem?.mp hzip, by simpa using hfound⟩

theorem getPolicy_eq_ok {found : Nat × Policy}
    : b.getPolicy actor policyId = .ok found
        ↔ actor.can .policyRead = true ∧ b.findPolicy policyId = some found := by
  unfold getPolicy requirePermission
  rw [ensure_bind_eq_ok, orThrow_eq_ok]

section Plan

variable {plan : PolicyPlan} {versionNumber expectedPolicyVersion expectedVersion : Nat}

/--
An activation request ends with the activation or with the mark of a conflict.
-/
theorem planActivation_eq_ok {requested : Option Instant} {target : PolicyVersionStatus}
    : b.planActivation now actor policyId versionNumber expectedPolicyVersion expectedVersion
          requested target = .ok plan
        ↔ actor.can .policyManage = true ∧ actor.can .policyRead = true
          ∧ ∃ index p v, b.findPolicy policyId = some (index, p)
            ∧ p.currentVersion = versionNumber ∧ p.findVersion versionNumber = some v
            ∧ v.status = .inReview
            ∧ (target = .published → (requested.or v.effectiveFrom).getD now ≤ now)
            ∧ (target = .scheduled → now < (requested.or v.effectiveFrom).getD now)
            ∧ (∀ stop ∈ v.effectiveTo, (requested.or v.effectiveFrom).getD now < stop)
            ∧ plan = {
              policyId
              write :=
                if findConflicts v p.publicId ((requested.or v.effectiveFrom).getD now)
                    b.listCandidates ≠ [] then
                  .markConflicting versionNumber expectedPolicyVersion expectedVersion
                else
                  .activate versionNumber expectedPolicyVersion expectedVersion target
                    ((requested.or v.effectiveFrom).getD now) } := by
  unfold planActivation requirePermission
  simp only [bind_eq_ok, ensure_eq_ok, exists_const, getPolicy_eq_ok, Policy.requiredCurrentVersion_eq_ok,
    Prod.exists]
  constructor
  . rintro ⟨hmanage, index, p, ⟨hread, hfind⟩, v, ⟨hcurrent, hv⟩, hstatus, hpublish, hschedule, hwindow,
      hplan⟩
    refine ⟨hmanage, hread, index, p, v, hfind, hcurrent, hv, hstatus, hpublish, hschedule, hwindow, ?_⟩
    split at hplan
    . next hconflicts =>
      rw [if_pos hconflicts]
      exact (pure_eq_ok.mp hplan).symm
    . next hconflicts =>
      rw [if_neg hconflicts]
      exact (pure_eq_ok.mp hplan).symm
  . rintro ⟨hmanage, hread, index, p, v, hfind, hcurrent, hv, hstatus, hpublish, hschedule, hwindow,
      hplan⟩
    refine ⟨hmanage, index, p, ⟨hread, hfind⟩, v, ⟨hcurrent, hv⟩, hstatus, hpublish, hschedule, hwindow,
      ?_⟩
    split
    . next hconflicts =>
      rw [if_pos hconflicts] at hplan
      exact pure_eq_ok.mpr hplan.symm
    . next hconflicts =>
      rw [if_neg hconflicts] at hplan
      exact pure_eq_ok.mpr hplan.symm

theorem planRetire_eq_ok
    : b.planRetire actor policyId versionNumber expectedPolicyVersion expectedVersion = .ok plan
        ↔ actor.can .policyManage = true ∧ actor.can .policyRead = true
          ∧ ∃ index p v, b.findPolicy policyId = some (index, p)
            ∧ p.currentVersion = versionNumber ∧ p.findVersion versionNumber = some v
            ∧ (v.status = .published ∨ v.status = .scheduled)
            ∧ plan = {
              policyId
              write := .retire versionNumber expectedPolicyVersion expectedVersion } := by
  unfold planRetire requirePermission
  simp only [bind_eq_ok, ensure_eq_ok, exists_const, getPolicy_eq_ok, Policy.requiredCurrentVersion_eq_ok,
    pure_eq_ok, Prod.exists]
  constructor
  . rintro ⟨hmanage, index, p, ⟨hread, hfind⟩, v, ⟨hcurrent, hv⟩, hstatus, hplan⟩
    exact ⟨hmanage, hread, index, p, v, hfind, hcurrent, hv, hstatus, hplan.symm⟩
  . rintro ⟨hmanage, hread, index, p, v, hfind, hcurrent, hv, hstatus, hplan⟩
    exact ⟨hmanage, index, p, ⟨hread, hfind⟩, v, ⟨hcurrent, hv⟩, hstatus, hplan.symm⟩

/--
Every plan names a policy that met the guards of its write when it was read.
-/
theorem plan_admitted {request : PolicyRequest} (h : b.plan now actor policyId request = .ok plan)
    : plan.policyId = policyId ∧ request.Asks plan.write
      ∧ ∃ index p, b.findPolicy policyId = some (index, p) ∧ plan.write.Admitted p now := by
  cases request with
  | createDraft expectedPolicyVersion content =>
    simp only [PolicyBook.plan, planDraft, requirePermission, bind_eq_ok, ensure_eq_ok, exists_const,
      getPolicy_eq_ok, pure_eq_ok, Prod.exists] at h
    obtain ⟨_, _, _, index, p, ⟨_, hfind⟩, hstatus, heq⟩ := h
    subst heq
    exact ⟨rfl, .createDraft _ _ _ _, index, p, hfind, hstatus⟩
  | retrySource expectedPolicyVersion content =>
    simp only [PolicyBook.plan, planRetrySource, requirePermission, bind_eq_ok, ensure_eq_ok, exists_const,
      getPolicy_eq_ok, pure_eq_ok, Prod.exists] at h
    obtain ⟨_, _, _, index, p, ⟨_, hfind⟩, hfailed, heq⟩ := h
    subst heq
    exact ⟨rfl, .retrySource _ _ _ _, index, p, hfind, hfailed⟩
  | submitReview n expectedPolicyVersion expectedVersion =>
    simp only [PolicyBook.plan, planSubmitReview, requirePermission, bind_eq_ok, ensure_eq_ok, exists_const,
      getPolicy_eq_ok, Policy.requiredCurrentVersion_eq_ok, pure_eq_ok, Prod.exists] at h
    obtain ⟨_, index, p, ⟨_, hfind⟩, v, ⟨hcurrent, hv⟩, hdraft, heq⟩ := h
    subst heq
    exact ⟨rfl, .submitReview _ _ _, index, p, hfind, hcurrent, v, hv, hdraft⟩
  | publish n expectedPolicyVersion expectedVersion effectiveFrom =>
    obtain ⟨_, _, index, p, v, hfind, hcurrent, hv, hstatus, hpublish, _, hwindow, heq⟩ :=
      planActivation_eq_ok.mp h
    subst heq
    dsimp only
    split
    . exact ⟨rfl, .publishConflict _ _ _ _, index, p, hfind, hcurrent, v, hv, hstatus⟩
    . exact ⟨rfl, .publish _ _ _ _ _, index, p, hfind, hcurrent, ⟨v, hv, hstatus, hwindow⟩, .inl ⟨rfl, hpublish rfl⟩⟩
  | schedule n expectedPolicyVersion expectedVersion effectiveFrom =>
    obtain ⟨_, _, index, p, v, hfind, hcurrent, hv, hstatus, _, hschedule, hwindow, heq⟩ :=
      planActivation_eq_ok.mp h
    subst heq
    dsimp only
    split
    . exact ⟨rfl, .scheduleConflict _ _ _ _, index, p, hfind, hcurrent, v, hv, hstatus⟩
    . exact ⟨rfl, .schedule _ _ _ _, index, p, hfind, hcurrent, ⟨v, hv, hstatus, hwindow⟩, .inr ⟨rfl, hschedule rfl⟩⟩
  | retire n expectedPolicyVersion expectedVersion =>
    obtain ⟨_, _, index, p, v, hfind, hcurrent, hv, hstatus, heq⟩ := planRetire_eq_ok.mp h
    subst heq
    exact ⟨rfl, .retire _ _ _, index, p, hfind, hcurrent, v, hv, hstatus⟩

end Plan

variable [Digest]

theorem write_eq_ok {plan : PolicyPlan} {q : Policy}
    : b.write now plan = .ok (c, q)
        ↔ ∃ index p, b.findPolicy plan.policyId = some (index, p)
          ∧ p.write now plan.write = .ok q ∧ c = b.setPolicy index q := by
  unfold write
  simp only [bind_eq_ok, orThrow_eq_ok, pure_eq_ok, Prod.exists, Prod.mk.injEq]
  constructor
  . rintro ⟨index, p, hfind, _, hwrite, hbook, hq⟩
    subst hq hbook
    exact ⟨index, p, hfind, hwrite, rfl⟩
  . rintro ⟨index, p, hfind, hwrite, hbook⟩
    exact ⟨index, p, hfind, q, hwrite, hbook.symm, rfl⟩

/--
An answered request writes the policy it has read.
-/
theorem answerRequest_admitted {request : PolicyRequest} {q : Policy}
    (h : b.answerRequest now actor policyId request = .ok (c, q))
    : ∃ plan index p, b.plan now actor policyId request = .ok plan
        ∧ plan.policyId = policyId ∧ b.findPolicy policyId = some (index, p)
        ∧ plan.write.Admitted p now ∧ p.write now plan.write = .ok q ∧ c = b.setPolicy index q := by
  unfold answerRequest at h
  obtain ⟨plan, hplan, hwrite⟩ := bind_eq_ok.mp h
  obtain ⟨hid, _, index, p, hfind, hadmitted⟩ := plan_admitted hplan
  obtain ⟨index', p', hfind', hwritten, hbook⟩ := write_eq_ok.mp hwrite
  rw [hid, hfind, Option.some.injEq, Prod.mk.injEq] at hfind'
  obtain ⟨hindex, hp⟩ := hfind'
  subst hindex hp
  exact ⟨plan, index, p, hplan, hid, hfind, hadmitted, hwritten, hbook⟩

theorem createPolicy_eq_ok {creation : PolicyCreation} {q : Policy}
    (h : b.createPolicy actor creation = .ok (c, q))
    : c = { b with policies := b.policies ++ [q] }
      ∧ ∃ ownerId, q = newPolicy creation.publicId ownerId actor.actorId (prepareSource creation) := by
  unfold createPolicy requirePermission at h
  simp only [bind_eq_ok, ensure_eq_ok, exists_const, pure_eq_ok, Prod.mk.injEq] at h
  obtain ⟨_, _, ownerId, _, _, hbook, hq⟩ := h
  subst hq
  exact ⟨hbook.symm, ownerId, rfl⟩

/--
What a command makes of a book: nothing, a policy more, or one policy written.
-/
theorem next_cases (b : PolicyBook) (command : PolicyCommand)
    : policyService.next b command = b
      ∨ (∃ publicId ownerId actorId source,
          policyService.next b command
            = { b with policies := b.policies ++ [newPolicy publicId ownerId actorId source] })
      ∨ (∃ now index p write q, b.policies[index]? = some p ∧ write.Admitted p now
          ∧ p.write now write = .ok q ∧ policyService.next b command = b.setPolicy index q) := by
  cases hstep : policyService.step b command with
  | error e => exact .inl (Machine.next_of_error hstep)
  | ok result =>
    obtain ⟨c, q⟩ := result
    rw [Machine.next_of_ok hstep]
    cases command with
    | createPolicy actor creation =>
      obtain ⟨hbook, ownerId, hq⟩ := createPolicy_eq_ok hstep
      rw [hbook, hq]
      exact .inr (.inl ⟨_, _, _, _, rfl⟩)
    | request now actor policyId request =>
      obtain ⟨plan, index, p, _, _, hfind, hadmitted, hwrite, hbook⟩ := answerRequest_admitted hstep
      have hp := (findPolicy_eq_some hfind).1
      exact .inr (.inr ⟨now, index, p, plan.write, q, hp, hadmitted, hwrite, hbook⟩)

end PolicyBook

end CaseResolution
