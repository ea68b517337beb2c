import CaseResolution.Policies.Lemmas.Reachable
import CaseResolution.Policies.Lemmas.Retrieval

/-!
This module contains when at most one version of a policy is effective: a publication takes authority
from every other version, a schedule takes it from none.
-/

namespace CaseResolution

open Guard

namespace Policy

/--
Whatever the case and the instant, retrieval finds at most one version of the policy.
-/
def OneEffective (p : Policy) : Prop :=
  ∀ context t, p.versions.countP (fun v => v.isRetrievable context t) ≤ 1

/--
Version `n`, scheduled for `effectiveFrom`, would share a case and an instant with another version that
keeps its authority.
-/
def ScheduleOverlaps (p : Policy) (n : Nat) (effectiveFrom : Instant) : Prop :=
  ∃ v, p.findVersion n = some v ∧ ∃ w ∈ p.versions, w.version ≠ n ∧ w.isLive = true
    ∧ v.applicability.Shares w.applicability
    ∧ Window.Meets { start := some effectiveFrom, stop := v.effectiveTo } w.window

variable {p q : Policy} {now : Instant}

theorem Sound.oneEffective_iff (hp : p.Sound)
    : p.OneEffective ↔ ∀ v ∈ p.versions, ∀ w ∈ p.versions, v.isLive = true → w.isLive = true →
        v.Overlaps w → v.version = w.version := by
  unfold OneEffective
  simp only [Rows.countP_le_one_iff]
  constructor
  . intro h v hv w hw hvl hwl hoverlaps
    obtain ⟨i, hi⟩ := List.mem_iff_getElem?.mp hv
    obtain ⟨j, hj⟩ := List.mem_iff_getElem?.mp hw
    have hvs := hp.versions_sound v hv
    have hws := hp.versions_sound w hw
    obtain ⟨context, t, hvr, hwr⟩ :=
      (PolicyVersion.exists_retrievable_iff hvs.order hws.order).mpr ⟨hvl, hwl, hoverlaps⟩
    have hij := h context t i j v w hi hj hvr hwr
    rw [hp.numbered i v hi, hp.numbered j w hj, hij]
  . intro h context t i j v w hi hj hvr hwr
    have hv := List.mem_of_getElem? hi
    have hw := List.mem_of_getElem? hj
    have hvs := hp.versions_sound v hv
    have hws := hp.versions_sound w hw
    obtain ⟨hvl, hwl, hoverlaps⟩ :=
      (PolicyVersion.exists_retrievable_iff hvs.order hws.order).mp ⟨context, t, hvr, hwr⟩
    have hvw := h v hv w hw hvl hwl hoverlaps
    rw [hp.numbered i v hi, hp.numbered j w hj] at hvw
    omega

namespace Effect

/--
A version that has authority after a write other than an activation is one the write did not touch.
-/
theorem live_of_live (hp : p.Sound) {write : PolicyWrite} (h : Effect now p q write)
    (hwrite : ∀ n e e' target effectiveFrom, write ≠ .activate n e e' target effectiveFrom)
    {w : PolicyVersion} (hw : w ∈ q.versions) (hlive : w.isLive = true) : w ∈ p.versions := by
  -- what is not live after the revision of `v` is not `w`
  have hrevised : ∀ (v : PolicyVersion) (f : PolicyVersion → PolicyVersion), v ∈ p.versions →
      (q.versions = p.versions.map fun u => if u.version = v.version then f u else u) →
      ¬ (f v).isLive = true → w ∈ p.versions := by
    intro v f hv hversions hdead
    rw [hversions, List.mem_map] at hw
    obtain ⟨u, hu, heq⟩ := hw
    split at heq
    . next hn =>
      rw [hp.eq_of_version hu hv hn] at heq
      rw [heq] at hdead
      exact absurd hlive hdead
    . rwa [← heq]
  cases h with
  | drafted _ v _ _ hdraft _ _ hversions =>
    rw [hversions, List.mem_append, List.mem_singleton] at hw
    cases hw with
    | inl hold => exact hold
    | inr hnew => simp [PolicyVersion.isLive, hnew, hdraft] at hlive
  | submitted _ _ v hv _ _ hversions =>
    exact hrevised v _ hv hversions (by simp [PolicyVersion.isLive, PolicyVersion.submitted])
  | conflicting _ _ v hv _ hreview hversions =>
    exact hrevised v _ hv hversions
      (by simp [PolicyVersion.isLive, PolicyVersion.recounted, hreview])
  | published e e' v effectiveFrom => exact absurd rfl (hwrite v.version e e' .published effectiveFrom)
  | scheduled e e' v effectiveFrom => exact absurd rfl (hwrite v.version e e' .scheduled effectiveFrom)
  | cancelled _ _ v _ hv _ _ _ hversions =>
    exact hrevised v _ hv hversions
      (by simp [PolicyVersion.isLive, PolicyVersion.withdrawn, PolicyVersion.retire])
  | retired _ _ v hv _ _ _ hversions =>
    exact hrevised v _ hv hversions
      (by simp [PolicyVersion.isLive, PolicyVersion.withdrawn, PolicyVersion.retire])

/--
Only a schedule can make a second version effective, and it does exactly when it overlaps.
-/
theorem oneEffective_iff (hp : p.Sound) (hone : p.OneEffective) {write : PolicyWrite}
    (h : Effect now p q write)
    : q.OneEffective ↔ ∀ n e e' effectiveFrom, write = .activate n e e' .scheduled effectiveFrom →
        ¬ p.ScheduleOverlaps n effectiveFrom := by
  have hq := h.sound hp
  rw [hp.oneEffective_iff] at hone
  rw [hq.oneEffective_iff]
  by_cases hactivation : ∃ n e e' target effectiveFrom,
      write = .activate n e e' target effectiveFrom
  . cases h with
    | drafted _ _ hadds =>
      obtain ⟨_, _, _, _, _, heq⟩ := hactivation
      subst heq
      cases hadds
    | submitted | conflicting | cancelled | retired => simp at hactivation
    | published e e' v effectiveFrom _ hv _ _ hversions =>
      -- every other version has lost its authority
      have honly : ∀ w ∈ q.versions, w.isLive = true → w.version = v.version := by
        intro w hw hlive
        rw [hversions, List.mem_map] at hw
        obtain ⟨u, hu, heq⟩ := hw
        subst heq
        split at hlive
        . next hn =>
          rw [if_pos hn]
          exact hn
        . split at hlive
          . simp [PolicyVersion.isLive, PolicyVersion.supersede] at hlive
          . next hdead =>
            have := (PolicyVersion.isLive_iff (hp.versions_sound u hu)).mp hlive
            exact absurd this hdead
      constructor
      . intro _ n d d' from' heq
        simp at heq
      . intro _ w hw w' hw' hlive hlive' _
        rw [honly w hw hlive, honly w' hw' hlive']
    | scheduled e e' v effectiveFrom _ hv hnow hreview hversions horder =>
      have hfind := hp.findVersion_iff.mpr ⟨hv, rfl⟩
      have hunlive : ¬ v.isLive = true := by
        simp [PolicyVersion.isLive, hreview]
      have hmem : v.activated .scheduled effectiveFrom now ∈ q.versions := by
        rw [hversions, List.mem_map]
        exact ⟨v, hv, if_pos rfl⟩
      have hlive : (v.activated .scheduled effectiveFrom now).isLive = true := by
        simp [PolicyVersion.isLive, PolicyVersion.activated, PolicyVersion.activate]
      have hkept : ∀ w ∈ p.versions, w.version ≠ v.version → w ∈ q.versions := by
        intro w hw hne
        rw [hversions, List.mem_map]
        exact ⟨w, hw, if_neg hne⟩
      have hcases : ∀ w ∈ q.versions, w = v.activated .scheduled effectiveFrom now
          ∨ (w ∈ p.versions ∧ w.version ≠ v.version) := by
        intro w hw
        rw [hversions, List.mem_map] at hw
        obtain ⟨u, hu, heq⟩ := hw
        split at heq
        . next hn =>
          rw [hp.eq_of_version hu hv hn] at heq
          exact .inl heq.symm
        . next hn =>
          subst heq
          exact .inr ⟨hu, hn⟩
      constructor
      . rintro hone' n d d' from' heq ⟨u, hu, w, hw, hne, hwl, hshares, hmeets⟩
        simp only [PolicyWrite.activate.injEq, true_and] at heq
        obtain ⟨hn, _, _, hfrom⟩ := heq
        subst hn hfrom
        rw [hfind, Option.some.injEq] at hu
        subst hu
        have heq := hone' _ hmem w (hkept w hw hne) hlive hwl ⟨hshares, hmeets⟩
        exact hne heq.symm
      . intro hclear w hw w' hw' hwl hwl' hoverlaps
        have hno := hclear v.version e e' effectiveFrom rfl
        cases hcases w hw with
        | inl heq =>
          cases hcases w' hw' with
          | inl heq' => rw [heq, heq']
          | inr hold' =>
            subst heq
            exact absurd ⟨v, hfind, w', hold'.1, hold'.2, hwl', hoverlaps⟩ hno
        | inr hold =>
          cases hcases w' hw' with
          | inl heq' =>
            subst heq'
            have hback : (v.activated .scheduled effectiveFrom now).Overlaps w :=
              ⟨hoverlaps.1.symm, hoverlaps.2.symm⟩
            exact absurd ⟨v, hfind, w, hold.1, hold.2, hwl, hback⟩ hno
          | inr hold' => exact hone w hold.1 w' hold'.1 hwl hwl' hoverlaps
  . constructor
    . intro _ n e e' effectiveFrom heq
      exact absurd ⟨n, e, e', _, effectiveFrom, heq⟩ hactivation
    . intro _ w hw w' hw' hlive hlive' hoverlaps
      have hwrite : ∀ n e e' target effectiveFrom,
          write ≠ .activate n e e' target effectiveFrom := by
        intro n e e' target effectiveFrom heq
        exact hactivation ⟨n, e, e', target, effectiveFrom, heq⟩
      exact hone w (h.live_of_live hp hwrite hw hlive) w' (h.live_of_live hp hwrite hw' hlive') hlive
        hlive' hoverlaps

end Effect

end Policy

theorem OneEffective.newPolicy [Digest] (publicId : String) (ownerId : Nat) (actorId : String)
    (source : Except String (PolicyDraftContent × List ParsedPolicyClause))
    : (newPolicy publicId ownerId actorId source).OneEffective := by
  rw [(Policy.newPolicy_sound publicId ownerId actorId source).oneEffective_iff]
  intro v hv w hw hlive
  unfold CaseResolution.newPolicy at hv
  split at hv
  . rw [List.mem_singleton] at hv
    simp [hv, newVersion, PolicyVersion.isLive] at hlive
  . cases hv

namespace PolicyBook

variable [Digest] {b : PolicyBook} {n : Nat}

/--
The command schedules a version of a policy that is not among the first `n`, and the version overlaps
another one that keeps its authority.
-/
def SchedulesOverlapping (b : PolicyBook) (n : Nat) : PolicyCommand → Prop
  | .request now actor policyId (.schedule versionNumber e e' effectiveFrom) =>
    b.plan now actor policyId (.schedule versionNumber e e' effectiveFrom)
        = .ok { policyId, write := .activate versionNumber e e' .scheduled effectiveFrom }
      ∧ (b.answerRequest now actor policyId (.schedule versionNumber e e' effectiveFrom)).isOk = true
      ∧ ∃ index p, b.findPolicy policyId = some (index, p) ∧ n ≤ index
        ∧ p.ScheduleOverlaps versionNumber effectiveFrom
  | _ => False

theorem next_oneEffective (hsound : b.Created n Policy.Sound) (hone : b.Created n Policy.OneEffective)
    (command : PolicyCommand)
    : (policyService.next b command).Created n Policy.OneEffective
        ↔ ¬ SchedulesOverlapping b n command := by
  cases command with
  | createPolicy actor creation =>
    simp only [SchedulesOverlapping, not_false_eq_true, iff_true]
    cases hstep : policyService.step b (.createPolicy actor creation) with
    | error e => rwa [Machine.next_of_error hstep]
    | ok result =>
      obtain ⟨hbook, ownerId, hq⟩ := createPolicy_eq_ok (c := result.1) (q := result.2) hstep
      rw [Machine.next_of_ok hstep, hbook]
      intro i p hi hp
      cases Rows.getElem?_concat_cases hp with
      | inl hold => exact hone i p hi hold
      | inr hnew =>
        rw [hnew.2, hq]
        apply OneEffective.newPolicy
  | request now actor policyId request =>
    cases hstep : policyService.step b (.request now actor policyId request) with
    | error e =>
      rw [Machine.next_of_error hstep]
      constructor
      . intro _ hoverlapping
        unfold SchedulesOverlapping at hoverlapping
        split at hoverlapping
        . next heq =>
          cases heq
          have hstep : b.answerRequest _ _ _ _ = .error e := hstep
          rw [hstep] at hoverlapping
          cases hoverlapping.2.1
        . exact hoverlapping
      . intro _
        exact hone
    | ok result =>
      obtain ⟨plan, index, p, hplan, hid, hfind, hadmitted, hwrite, hbook⟩ :=
        answerRequest_admitted (c := result.1) (q := result.2) hstep
      rw [Machine.next_of_ok hstep, hbook]
      have hp := (findPolicy_eq_some hfind).1
      have hlt := (List.getElem?_eq_some_iff.mp hp).1
      constructor
      . intro hnext hoverlapping
        unfold SchedulesOverlapping at hoverlapping
        split at hoverlapping
        . next heq =>
          cases heq
          obtain ⟨hscheduled, _, index', p', hfind', hn, hoverlaps⟩ := hoverlapping
          rw [hfind, Option.some.injEq, Prod.mk.injEq] at hfind'
          obtain ⟨hindex, hp'⟩ := hfind'
          subst hindex hp'
          rw [hplan, Except.ok.injEq] at hscheduled
          have hps := hsound index p hn hp
          have heffect := Policy.effect_of_write hps hadmitted hwrite
          have hq : result.2.OneEffective :=
            hnext index result.2 hn (List.getElem?_set_self hlt)
          rw [heffect.oneEffective_iff hps (hone index p hn hp)] at hq
          exact hq _ _ _ _ (by rw [hscheduled]) hoverlaps
        . exact hoverlapping
      . intro hclear i r hi hr
        cases Rows.getElem?_set_cases hr with
        | inr hother => exact hone i r hi hother.2
        | inl hset =>
          obtain ⟨hindex, hrq, _⟩ := hset
          subst hindex hrq
          have hps := hsound index p hi hp
          have heffect := Policy.effect_of_write hps hadmitted hwrite
          rw [heffect.oneEffective_iff hps (hone index p hi hp)]
          intro m e e' effectiveFrom hscheduled hoverlaps
          have hasks := (plan_admitted hplan).2.1
          rw [hscheduled] at hasks
          cases hasks
          apply hclear
          refine ⟨?_, ?_, index, p, hfind, hi, hoverlaps⟩
          . rw [hplan, ← hid, ← hscheduled]
          . rw [isOk_iff]
            exact ⟨result, hstep⟩

/--
The policies a run creates have at most one effective version each, now and at every later instant, as
long as no version is scheduled over another one that decides some of its cases at the time. The schedule
leaves the window of that other version open.
-/
theorem one_effective_iff (b : PolicyBook) (commands : List PolicyCommand)
    : (∀ pre post, commands = pre ++ post →
        (policyService.run b pre).Created b.policies.length Policy.OneEffective)
      ↔ policyService.Along (fun c command => ¬ c.SchedulesOverlapping b.policies.length command) b
          commands := by
  apply Machine.stays_iff_along (I := Created b.policies.length Policy.Sound)
  . intro c command hc
    exact next_sound hc command
  . intro c command hc hone
    exact next_oneEffective hc hone command
  . exact initial_created Policy.Sound b
  . exact initial_created Policy.OneEffective b

end PolicyBook

namespace Sample

attribute [local instance] Digest.checksum

/--
From instant 100 on both the published version and its replacement are found.
-/
theorem replacement_doubles
    : ¬ (policyService.run newBook (published ++ replacement)).Created newBook.policies.length
        Policy.OneEffective := by
  intro hone
  have hcount : ((policyService.run newBook (published ++ replacement)).policies[0]?.map fun p =>
      p.versions.countP fun v => v.isRetrievable refundContext 100) = some 2 := by
    decide +kernel
  obtain ⟨p, hp, htwo⟩ := Option.map_eq_some_iff.mp hcount
  have := hone 0 p (Nat.zero_le 0) hp refundContext 100
  omega

end Sample

end CaseResolution
