import CaseResolution.Policies.Effective

/-!
This module contains when a retired policy has lost all authority, and which versions a request to
retire can withdraw.
-/

namespace CaseResolution

open Guard

namespace Policy

/--
No version of a retired policy is effective at `t` or later.
-/
def Unauthorized (p : Policy) (t : Instant) : Prop :=
  p.status = .retired → ∀ v ∈ p.versions, v.isLive = true → ∀ u, t ≤ u → ¬ v.window.Contains u

/--
At `t` every published version has begun, and under a retired policy every window is over.
-/
structure Lapsing (t : Instant) (p : Policy) : Prop where
  begun : ∀ v ∈ p.versions, v.status = .published → ∀ start ∈ v.effectiveFrom, start ≤ t
  ended : p.status = .retired → ∀ v ∈ p.versions, v.isLive = true → ∃ stop ∈ v.effectiveTo, stop ≤ t

/--
Retiring version `n` restores no published version and leaves another one scheduled whose window is not
over.
-/
def RetirementLeavesScheduled (p : Policy) (now : Instant) (n : Nat) : Prop :=
  ∃ v, p.findVersion n = some v ∧ p.previousActive now v = none
    ∧ ∃ w ∈ p.versions, w.version ≠ n ∧ w.status = .scheduled ∧ ∀ stop ∈ w.effectiveTo, now < stop

variable {p q : Policy} {now t u : Instant}

theorem Lapsing.mono (htu : t ≤ u) (h : p.Lapsing t) : p.Lapsing u where
  begun := fun v hv hpublished start hstart => Int.le_trans (h.begun v hv hpublished start hstart) htu
  ended := by
    intro hretired v hv hlive
    obtain ⟨stop, hstop, hle⟩ := h.ended hretired v hv hlive
    exact ⟨stop, hstop, Int.le_trans hle htu⟩

theorem Lapsing.unauthorized (h : p.Lapsing t) : p.Unauthorized t := by
  intro hretired v hv hlive u hu hcontains
  obtain ⟨stop, hstop, hle⟩ := h.ended hretired v hv hlive
  have hlt : u < stop := hcontains.2 stop hstop
  exact absurd hlt (Int.not_lt.mpr (Int.le_trans hle hu))

/--
A version that is published after one version was revised, and not to be published, was published before.
-/
theorem Sound.published_of_revised (hp : p.Sound) {v w : PolicyVersion}
    {f : PolicyVersion → PolicyVersion} (hv : v ∈ p.versions)
    (hversions : q.versions = p.versions.map fun w => if w.version = v.version then f w else w)
    (hunpublished : (f v).status ≠ .published) (hw : w ∈ q.versions) (hpublished : w.status = .published)
    : w ∈ p.versions := by
  rw [hversions, List.mem_map] at hw
  obtain ⟨u, hu, heq⟩ := hw
  split at heq
  . next hn =>
    rw [hp.eq_of_version hu hv hn] at heq
    rw [heq] at hunpublished
    exact absurd hpublished hunpublished
  . rwa [← heq]

theorem Effect.lapsing (hp : p.Sound) (htn : t ≤ now) (h : p.Lapsing t) {write : PolicyWrite}
    (heffect : Effect now p q write)
    (hclear : ∀ n e e', write = .retire n e e' → ¬ p.RetirementLeavesScheduled now n)
    : q.Lapsing now := by
  have hbegun := (h.mono htn).begun
  cases heffect with
  | drafted _ v _ _ hdraft _ _ hversions _ hstatus =>
    constructor
    . intro w hw hpublished
      rw [hversions, List.mem_append, List.mem_singleton] at hw
      cases hw with
      | inl hold => exact hbegun w hold hpublished
      | inr hnew => simp [hnew, hdraft] at hpublished
    . simp [hstatus]
  | submitted _ _ v hv _ _ hversions _ hstatus =>
    constructor
    . intro w hw hpublished
      apply hbegun w _ hpublished
      exact hp.published_of_revised hv hversions (by simp [PolicyVersion.submitted]) hw hpublished
    . simp [hstatus]
  | conflicting _ _ v hv _ hreview hversions _ hstatus =>
    constructor
    . intro w hw hpublished
      apply hbegun w _ hpublished
      exact hp.published_of_revised hv hversions (by simp [PolicyVersion.recounted, hreview]) hw
        hpublished
    . simp [hstatus]
  | published _ _ v effectiveFrom hfrom hv _ _ hversions _ _ hstatus =>
    constructor
    . intro w hw hpublished start hstart
      rw [hversions, List.mem_map] at hw
      obtain ⟨u, hu, heq⟩ := hw
      subst heq
      split at hpublished
      . next hn =>
        rw [if_pos hn] at hstart
        simp only [PolicyVersion.activated, PolicyVersion.activate, Option.mem_def,
          Option.some.injEq] at hstart
        rwa [← hstart]
      . split at hpublished
        . cases hpublished
        . next hdead => exact absurd (.inl hpublished) hdead
    . simp [hstatus]
  | scheduled _ _ v effectiveFrom _ hv _ _ hversions _ _ hstatus =>
    constructor
    . intro w hw hpublished
      apply hbegun w _ hpublished
      exact hp.published_of_revised hv hversions
        (by simp [PolicyVersion.activated, PolicyVersion.activate]) hw hpublished
    . simp [hstatus]
  | cancelled _ _ v previous hv _ _ _ hversions _ _ hstatus =>
    constructor
    . intro w hw hpublished
      apply hbegun w _ hpublished
      exact hp.published_of_revised hv hversions
        (by simp [PolicyVersion.withdrawn, PolicyVersion.retire]) hw hpublished
    . simp [hstatus]
  | retired e e' v hv hnow hlive hprevious hversions horder hcurrent hstatus =>
    have hno := hclear v.version e e' rfl
    have hfind := hp.findVersion_iff.mpr ⟨hv, rfl⟩
    constructor
    . intro w hw hpublished
      apply hbegun w _ hpublished
      exact hp.published_of_revised hv hversions
        (by simp [PolicyVersion.withdrawn, PolicyVersion.retire]) hw hpublished
    . -- what is live besides `v` is a scheduled version, or a published one that is over already
      intro _ w hw hwl
      rw [hversions, List.mem_map] at hw
      obtain ⟨u, hu, heq⟩ := hw
      subst heq
      split at hwl
      . simp [PolicyVersion.isLive, PolicyVersion.withdrawn, PolicyVersion.retire] at hwl
      . next hn =>
        rw [if_neg hn]
        have hus := hp.versions_sound u hu
        cases (PolicyVersion.isLive_iff hus).mp hwl with
        | inr hscheduled =>
          by_contra hopen
          push Not at hopen
          exact hno ⟨v, hfind, hprevious, u, hu, hn, hscheduled, hopen⟩
        | inl hpublished =>
          cases hlive with
          | inl hvp => exact absurd (hp.one_published u hu v hv hpublished hvp) hn
          | inr hvs =>
            have himmutable : u.immutable = true := by
              rw [hus.immutable_iff, hpublished]
              simp
            have hcovers := previousActive_eq_none hprevious hvs hu hn hpublished himmutable
            rw [Ne, PolicyVersion.covers_iff] at hcovers
            by_contra hopen
            push Not at hopen
            exact hcovers ⟨hbegun u hu hpublished, hopen⟩

end Policy

namespace PolicyCommand

/--
The instant a command arrives at, where it reads the clock.
-/
def instant : PolicyCommand → Option Instant
  | .createPolicy .. => none
  | .request now .. => some now

end PolicyCommand

namespace PolicyBook

/--
The policies that are not among the first `n` are sound and lapse.
-/
def Lapsing (n : Nat) (t : Instant) (b : PolicyBook) : Prop :=
  b.Created n Policy.Sound ∧ b.Created n (Policy.Lapsing t)

theorem Lapsing.mono {n : Nat} {t u : Instant} {b : PolicyBook} (htu : t ≤ u) (h : Lapsing n t b)
    : Lapsing n u b :=
  ⟨h.1, fun i p hi hp => (h.2 i p hi hp).mono htu⟩

section

variable [Digest] {b : PolicyBook} {n : Nat} {now : Instant}

/--
The command retires a version of a policy that is not among the first `n`, and no published version is
restored while another one stays scheduled.
-/
def RetiresLeavingScheduled (b : PolicyBook) (n : Nat) : PolicyCommand → Prop
  | .request now actor policyId (.retire versionNumber e e') =>
    (b.answerRequest now actor policyId (.retire versionNumber e e')).isOk = true
      ∧ ∃ index p, b.findPolicy policyId = some (index, p) ∧ n ≤ index
        ∧ p.RetirementLeavesScheduled now versionNumber
  | _ => False

theorem next_lapsing {t : Instant} (hsound : b.Created n Policy.Sound)
    (hlapsing : b.Created n (Policy.Lapsing t)) (command : PolicyCommand)
    (hclear : ¬ b.RetiresLeavingScheduled n command) (hclock : ∀ now ∈ command.instant, t ≤ now)
    : (policyService.next b command).Created n (Policy.Lapsing (command.instant.getD t)) := by
  have hold : b.Created n (Policy.Lapsing (command.instant.getD t)) := by
    intro i p hi hp
    apply (hlapsing i p hi hp).mono
    cases hinstant : command.instant with
    | none => exact Int.le_refl t
    | some now => exact hclock now hinstant
  cases hstep : policyService.step b command with
  | error e => rwa [Machine.next_of_error hstep]
  | ok result =>
    rw [Machine.next_of_ok hstep]
    cases command with
    | createPolicy actor creation =>
      obtain ⟨hbook, ownerId, hq⟩ := createPolicy_eq_ok (c := result.1) (q := result.2) hstep
      rw [hbook]
      intro i p hi hp
      cases Rows.getElem?_concat_cases hp with
      | inl hfirst => exact hold i p hi hfirst
      | inr hnew =>
        rw [hnew.2, hq]
        unfold newPolicy
        split <;> constructor <;> simp [newVersion]
    | request now actor policyId request =>
      obtain ⟨plan, index, p, hplan, _, hfind, hadmitted, hwrite, hbook⟩ :=
        answerRequest_admitted (c := result.1) (q := result.2) hstep
      have hp := (findPolicy_eq_some hfind).1
      rw [hbook]
      intro i r hi hr
      cases Rows.getElem?_set_cases hr with
      | inr hother => exact hold i r hi hother.2
      | inl hset =>
        obtain ⟨hindex, hrq, _⟩ := hset
        subst hindex hrq
        have hps := hsound index p hi hp
        apply (Policy.effect_of_write hps hadmitted hwrite).lapsing hps (hclock now rfl)
          (hlapsing index p hi hp)
        intro m e e' hretire hleaves
        have hasks := (plan_admitted hplan).2.1
        rw [hretire] at hasks
        cases hasks
        apply hclear
        refine ⟨?_, index, p, hfind, hi, hleaves⟩
        rw [isOk_iff]
        exact ⟨result, hstep⟩

/--
A version that has authority can be retired if it is the current one.
-/
theorem retire_of_current {i : Nat} {p : Policy} {v : PolicyVersion} {policyId : String}
    (hps : p.Sound) (hfind : b.findPolicy policyId = some (i, p)) (hv : v ∈ p.versions)
    (hlive : v.isLive = true) (hcurrent : p.currentVersion = v.version) {actor : ActorContext}
    (hmanage : actor.can .policyManage = true) (hread : actor.can .policyRead = true)
    : ∃ c q, b.answerRequest now actor policyId (.retire v.version p.version v.recordVersion)
          = .ok (c, q)
        ∧ q.findVersion v.version = some (v.withdrawn now) := by
  have hvs := hps.versions_sound v hv
  have hfindv := hps.findVersion_iff.mpr ⟨hv, rfl⟩
  have hplan : b.planRetire actor policyId v.version p.version v.recordVersion
      = .ok { policyId, write := .retire v.version p.version v.recordVersion } :=
    planRetire_eq_ok.mpr ⟨hmanage, hread, i, p, v, hfind, hcurrent, hfindv,
      (PolicyVersion.isLive_iff hvs).mp hlive, rfl⟩
  -- the window is cut at `now` only where it has begun before
  have horder : (v.withdrawn now).EffectiveOrder := by
    intro start hstart stop hstop
    have hold := hvs.order start hstart
    simp only [PolicyVersion.withdrawn, PolicyVersion.retire] at hstart hstop
    split at hstop
    . next hcut =>
      simp only [Option.mem_def, Option.some.injEq] at hstop
      simp only [Option.mem_def] at hstart
      rw [hstart] at hcut
      simp only [Option.all_some, decide_eq_true_eq] at hcut
      rw [← hstop]
      exact hcut.1
    . exact hold stop hstop
  let q := (p.afterRetirement now v).setVersion (v.withdrawn now)
  have hwrite : p.write now (.retire v.version p.version v.recordVersion) = .ok q :=
    Policy.retireVersion_eq_ok.mpr ⟨v, hfindv, rfl, rfl, horder, rfl⟩
  have hadmitted : PolicyWrite.Admitted p now (.retire v.version p.version v.recordVersion) :=
    ⟨hcurrent, v, hfindv, (PolicyVersion.isLive_iff hvs).mp hlive⟩
  refine ⟨b.setPolicy i q, q, ?_, ?_⟩
  . unfold answerRequest
    rw [bind_eq_ok]
    exact ⟨_, hplan, write_eq_ok.mpr ⟨i, p, hfind, hwrite, rfl⟩⟩
  . have hqs := (Policy.effect_of_write hps hadmitted hwrite).sound hps
    rw [hqs.findVersion_iff]
    refine ⟨?_, rfl⟩
    have hrows : q.versions = p.versions.map fun w =>
        if w.version = v.version then w.withdrawn now else w := by
      apply hps.setVersion_versions (f := fun w => w.withdrawn now) hfindv rfl rfl
      unfold Policy.afterRetirement
      split <;> rfl
    rw [hrows, List.mem_map]
    exact ⟨v, hv, if_pos rfl⟩

/--
Only the current version can be retired.
-/
theorem current_of_retire {c : PolicyBook} {i : Nat} {p q : Policy} {policyId : String}
    {actor : ActorContext} {m e e' : Nat} (hfind : b.findPolicy policyId = some (i, p))
    (h : b.answerRequest now actor policyId (.retire m e e') = .ok (c, q)) : p.currentVersion = m := by
  unfold answerRequest at h
  obtain ⟨plan, hplan, _⟩ := bind_eq_ok.mp h
  obtain ⟨_, _, index, p', v, hfind', hcurrent, _⟩ := planRetire_eq_ok.mp hplan
  rw [hfind, Option.some.injEq, Prod.mk.injEq] at hfind'
  rwa [hfind'.2]

end

end PolicyBook

namespace Sample

attribute [local instance] Digest.checksum

/--
The first version is only scheduled when the second one is drafted.
-/
def scheduledFirst : List PolicyCommand :=
  [refundPolicy "POL-1", request 1 "POL-1" (.submitReview 1 1 1),
    request 10 "POL-1" (.schedule 1 2 2 50)]

def retirement : List PolicyCommand :=
  published ++ [request 40 "POL-1" (.retire 1 3 3)]

end Sample

end CaseResolution
