import CaseResolution.Policies.Effective

/-!
This module contains when an accepted publication commits: the windows it truncates have to end after
they begin.
-/

namespace CaseResolution

open Guard

namespace PolicyVersion

variable {v : PolicyVersion} {now effectiveFrom : Instant}

/--
Truncating a window at `effectiveFrom` leaves it in order exactly when it begins before.
-/
theorem supersede_order_iff (hv : v.EffectiveOrder)
    : (v.supersede now effectiveFrom).EffectiveOrder ↔ ∀ start ∈ v.effectiveFrom, start < effectiveFrom := by
  unfold EffectiveOrder supersede at *
  dsimp only
  constructor
  . intro horder start hstart
    split at horder
    . exact horder start hstart effectiveFrom rfl
    . next hstop =>
      -- the window is over by `effectiveFrom` already
      cases hto : v.effectiveTo with
      | none =>
        rw [hto] at hstop
        exact absurd rfl hstop
      | some stop =>
        rw [hto] at hstop
        have hle : stop ≤ effectiveFrom := by simpa using hstop
        exact Int.lt_of_lt_of_le (hv start hstart stop hto) hle
  . intro hstarts start hstart stop hstop
    split at hstop
    . rw [Option.mem_some_iff] at hstop
      rw [← hstop]
      exact hstarts start hstart
    . exact hv start hstart stop hstop

/--
A version that a publication has superseded is not cited any more, and its window is over by then.
-/
theorem supersede_ends {t : Instant} (ht : effectiveFrom ≤ t)
    : (v.supersede now effectiveFrom).isLive = false
        ∧ (v.supersede now effectiveFrom).covers t = false := by
  constructor
  . simp [supersede, isLive]
  . cases hcovers : (v.supersede now effectiveFrom).covers t with
    | false => rfl
    | true =>
      have hstop := (covers_iff.mp hcovers).2
      unfold supersede window at hstop
      dsimp only at hstop
      split at hstop
      . have := hstop effectiveFrom rfl
        exact absurd ht (Int.not_le.mpr this)
      . next hover =>
        cases hto : v.effectiveTo with
        | none =>
          rw [hto] at hover
          exact absurd rfl hover
        | some stop =>
          rw [hto] at hover hstop
          have hle : stop ≤ effectiveFrom := by simpa using hover
          exact absurd (Int.le_trans hle ht) (Int.not_le.mpr (hstop stop rfl))

end PolicyVersion

namespace Policy

/--
Every other version with authority begins before the instant version `n` is published from.
-/
def OthersBegin (p : Policy) (n : Nat) (effectiveFrom : Instant) : Prop :=
  ∀ v ∈ p.versions, v.version ≠ n → (v.status = .published ∨ v.status = .scheduled) →
    ∀ start ∈ v.effectiveFrom, start < effectiveFrom

instance (p : Policy) (n : Nat) (effectiveFrom : Instant) : Decidable (p.OthersBegin n effectiveFrom) :=
  inferInstanceAs (Decidable (∀ v ∈ p.versions, v.version ≠ n →
    (v.status = .published ∨ v.status = .scheduled) → ∀ start ∈ v.effectiveFrom, start < effectiveFrom))

/--
The windows of all versions are in order, and from `effectiveFrom` on no version but `n` is effective.
-/
structure Succeeded (p : Policy) (n : Nat) (effectiveFrom : Instant) : Prop where
  order : ∀ v ∈ p.versions, v.EffectiveOrder
  alone : ∀ v ∈ p.versions, v.version ≠ n →
    ∀ context t, effectiveFrom ≤ t → v.isRetrievable context t = false

variable {p q : Policy} {n e e' : Nat} {now effectiveFrom : Instant} {v : PolicyVersion}

theorem Sound.cleared_order_iff (hp : p.Sound) (now : Instant)
    : (∀ w ∈ p.clearedVersions n now effectiveFrom .published, w.EffectiveOrder)
        ↔ p.OthersBegin n effectiveFrom := by
  unfold clearedVersions OthersBegin
  simp only [List.forall_mem_map, true_and]
  apply forall₂_congr
  intro w hw
  have horder := (hp.versions_sound w hw).order
  rw [← and_imp]
  split
  . next hauthority =>
    rw [PolicyVersion.supersede_order_iff horder]
    simp [hauthority]
  . next hauthority =>
    simp [hauthority, horder]

/--
The write of an admitted publication is accepted exactly when no window it truncates would be empty.
-/
theorem Sound.activateVersion_accepted_iff (hp : p.Sound) (now : Instant)
    (hv : p.findVersion n = some v)
    (hwindow : ∀ stop ∈ v.effectiveTo, effectiveFrom < stop) (hversion : p.version = e)
    (hrecord : v.recordVersion = e')
    : (∃ q, p.activateVersion now n e e' .published effectiveFrom = .ok q)
        ↔ p.OthersBegin n effectiveFrom := by
  simp only [activateVersion_eq_ok]
  rw [← hp.cleared_order_iff now]
  constructor
  . intro ⟨_, _, _, hcleared, _⟩
    exact hcleared trivial
  . intro hcleared
    refine ⟨_, v, hv, fun _ => hcleared, hversion, hrecord, ?_, rfl⟩
    intro start hstart stop hstop
    unfold PolicyVersion.activated PolicyVersion.activate at hstart hstop
    dsimp only at hstart hstop
    rw [Option.mem_some_iff] at hstart
    rw [← hstart]
    exact hwindow stop hstop

theorem succeeded_of_activateVersion
    (h : p.activateVersion now n e e' .published effectiveFrom = .ok q) : q.Succeeded n effectiveFrom := by
  obtain ⟨v, hv, hcleared, _, _, horder, heq⟩ := activateVersion_eq_ok.mp h
  have hvn := (findVersion_eq_some hv).2
  have hnumber : (v.activated .published effectiveFrom now).version = n := hvn
  -- every version written is the activated one or one of the cleared ones
  have hwritten : ∀ w ∈ q.versions, w = v.activated .published effectiveFrom now
      ∨ (w ∈ p.clearedVersions n now effectiveFrom .published ∧ w.version ≠ n) := by
    intro w hw
    rw [heq] at hw
    cases mem_setVersion hw with
    | inl hactivated => exact .inl hactivated
    | inr hother =>
      rw [hnumber] at hother
      exact .inr hother
  constructor
  . intro w hw
    cases hwritten w hw with
    | inl hactivated => rwa [hactivated]
    | inr hother => exact hcleared rfl w hother.1
  . intro w hw hwn context t ht
    have hlive : w.isLive = false := by
      cases hwritten w hw with
      | inl hactivated =>
        rw [hactivated] at hwn
        exact absurd hnumber hwn
      | inr hother =>
        unfold clearedVersions at hother
        obtain ⟨⟨u, _, hu⟩, hne⟩ := And.imp_left List.mem_map.mp hother
        split at hu
        . rw [← hu]
          exact (PolicyVersion.supersede_ends ht).1
        . next hkept =>
          subst hu
          simp only [true_and, not_and] at hkept
          simp [PolicyVersion.isLive, hkept hne]
    simp [PolicyVersion.isRetrievable, hlive]

end Policy

namespace PolicyBook

variable [Digest]

/--
An accepted publication of a policy that was created in a run commits, and leaves its version alone
effective, exactly when every other version with authority begins before it.
-/
theorem publication_commits_iff (b : PolicyBook) (commands : List PolicyCommand) (i : Nat) (p : Policy)
    (hcreated : b.policies.length ≤ i) (now : Instant) (actor : ActorContext) (policyId : String)
    (n e e' : Nat) (requested : Option Instant) (effectiveFrom : Instant)
    (hfind : (policyService.run b commands).findPolicy policyId = some (i, p))
    (hplan : (policyService.run b commands).plan now actor policyId (.publish n e e' requested)
      = .ok { policyId, write := .activate n e e' .published effectiveFrom })
    (hversion : p.version = e) (hrecord : ∀ v, p.findVersion n = some v → v.recordVersion = e')
    : (∃ c q, (policyService.run b commands).answerRequest now actor policyId (.publish n e e' requested)
            = .ok (c, q)
          ∧ c.policies[i]? = some q ∧ q.Succeeded n effectiveFrom)
        ↔ p.OthersBegin n effectiveFrom := by
  have hp := (findPolicy_eq_some hfind).1
  have hps := run_sound b commands i p hcreated hp
  obtain ⟨_, _, index, p', hfind', hadmitted⟩ := plan_admitted hplan
  rw [hfind, Option.some.injEq, Prod.mk.injEq] at hfind'
  obtain ⟨rfl, rfl⟩ := hfind'
  obtain ⟨_, ⟨v, hv, _, hwindow⟩, _⟩ := hadmitted
  have hanswer : ∀ c q,
      (policyService.run b commands).answerRequest now actor policyId (.publish n e e' requested) = .ok (c, q)
        ↔ p.activateVersion now n e e' .published effectiveFrom = .ok q
          ∧ c = (policyService.run b commands).setPolicy i q := by
    intro c q
    unfold answerRequest
    rw [bind_eq_ok]
    simp only [hplan, Except.ok.injEq, exists_eq_left', write_eq_ok, hfind, Option.some.injEq,
      Prod.mk.injEq]
    constructor
    . intro ⟨_, _, ⟨hi, hpp⟩, hwrite, hc⟩
      subst hi hpp
      exact ⟨hwrite, hc⟩
    . intro ⟨hwrite, hc⟩
      exact ⟨i, p, ⟨rfl, rfl⟩, hwrite, hc⟩
  rw [← hps.activateVersion_accepted_iff now hv hwindow hversion (hrecord v hv)]
  constructor
  . intro ⟨c, q, hok, _⟩
    exact ⟨q, ((hanswer c q).mp hok).1⟩
  . intro ⟨q, hactivate⟩
    refine ⟨_, q, (hanswer _ q).mpr ⟨hactivate, rfl⟩, ?_, Policy.succeeded_of_activateVersion hactivate⟩
    have hlt := (List.getElem?_eq_some_iff.mp hp).1
    unfold setPolicy
    simp [hlt]

end PolicyBook

namespace Sample

attribute [local instance] Digest.checksum

/--
The second version is in review at instant 12 while the first one is in force since instant 10.
-/
def secondReviewed : List PolicyCommand :=
  published ++
    [request 11 "POL-1" (.createDraft 3 refundTerms), request 12 "POL-1" (.submitReview 2 4 1)]

/--
The request of the second version is accepted with the instant asked for.
-/
def publishesSecond (effectiveFrom : Instant) : Bool :=
  match (policyService.run newBook secondReviewed).plan 20 administrator "POL-1"
      (.publish 2 5 2 (some effectiveFrom)) with
  | .ok { policyId, write := .activate n e e' .published effectiveFrom' } =>
    policyId = "POL-1" ∧ n = 2 ∧ e = 5 ∧ e' = 2 ∧ effectiveFrom' = effectiveFrom
  | _ => false

theorem plan_of_publishesSecond {effectiveFrom : Instant} (h : publishesSecond effectiveFrom = true)
    : (policyService.run newBook secondReviewed).plan 20 administrator "POL-1"
        (.publish 2 5 2 (some effectiveFrom))
        = .ok { policyId := "POL-1", write := .activate 2 5 2 .published effectiveFrom } := by
  unfold publishesSecond at h
  split at h
  . next hplan =>
    obtain ⟨rfl, rfl, rfl, rfl, rfl⟩ := of_decide_eq_true h
    exact hplan
  . cases h

/--
The policy is at the versions that the request of its second version names.
-/
def secondExpected : Bool :=
  match (policyService.run newBook secondReviewed).findPolicy "POL-1" with
  | some (0, p) => p.version = 5 ∧ ∀ v ∈ p.findVersion 2, v.recordVersion = 2
  | _ => false

theorem find_of_secondExpected
    : ∃ p, (policyService.run newBook secondReviewed).findPolicy "POL-1" = some (0, p)
        ∧ p.version = 5 ∧ ∀ v, p.findVersion 2 = some v → v.recordVersion = 2 := by
  have h : secondExpected = true := by
    decide +kernel
  unfold secondExpected at h
  split at h
  . next p hfind =>
    obtain ⟨hversion, hrecord⟩ := of_decide_eq_true h
    exact ⟨p, hfind, hversion, hrecord⟩
  . cases h

/--
Published from instant 15 on, the second version takes over from the first one.
-/
theorem publication_commits_iff_later
    : ∃ p, (policyService.run newBook secondReviewed).findPolicy "POL-1" = some (0, p)
        ∧ ((∃ c q, (policyService.run newBook secondReviewed).answerRequest 20 administrator "POL-1"
                (.publish 2 5 2 (some 15)) = .ok (c, q)
              ∧ c.policies[0]? = some q ∧ q.Succeeded 2 15)
            ↔ p.OthersBegin 2 15) := by
  obtain ⟨p, hfind, hversion, hrecord⟩ := find_of_secondExpected
  exact ⟨p, hfind, PolicyBook.publication_commits_iff newBook secondReviewed 0 p (Nat.zero_le 0) 20
    administrator "POL-1" 2 5 2 (some 15) 15 hfind (plan_of_publishesSecond (by decide +kernel)) hversion
    hrecord⟩

/--
Published from instant 5 on, the second version would leave the first one a window that ends before it
begins.
-/
theorem publication_rolled_back
    : (policyService.run newBook secondReviewed).plan 20 administrator "POL-1"
          (.publish 2 5 2 (some 5))
          = .ok { policyId := "POL-1", write := .activate 2 5 2 .published 5 }
        ∧ (∃ p, (policyService.run newBook secondReviewed).findPolicy "POL-1" = some (0, p)
          ∧ p.version = 5 ∧ ∀ v, p.findVersion 2 = some v → v.recordVersion = 2)
        ∧ (policyService.run newBook secondReviewed).answerRequest 20 administrator "POL-1"
            (.publish 2 5 2 (some 5))
          = .error (.integrityError "ck_governed_policy_versions_effective_order") := by
  refine ⟨plan_of_publishesSecond (by decide +kernel), find_of_secondExpected, ?_⟩
  have hrefused : (match (policyService.run newBook secondReviewed).answerRequest 20 administrator "POL-1"
        (.publish 2 5 2 (some 5)) with
      | .error e => decide (e = .integrityError "ck_governed_policy_versions_effective_order")
      | .ok _ => false) = true := by
    decide +kernel
  split at hrefused
  . next hanswer => rw [hanswer, of_decide_eq_true hrefused]
  . cases hrefused

end Sample

end CaseResolution
