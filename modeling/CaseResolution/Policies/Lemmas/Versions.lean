import CaseResolution.Policies.Impl.Retrieval
import CaseResolution.Policies.Lemmas.Repository

/-!
This module contains what holds of every policy the service writes and how its versions persist from
one write to the next.
-/

namespace CaseResolution

open Guard

namespace PolicyVersion

structure Sound (v : PolicyVersion) : Prop where
  immutable_iff : v.immutable = true ↔ v.status ≠ .draft ∧ v.status ≠ .inReview
  dated : v.immutable = true → v.effectiveFrom.isSome = true
  order : v.EffectiveOrder

/--
What no later write changes of a version.
-/
structure Persists (v w : PolicyVersion) : Prop where
  version : w.version = v.version
  immutable : v.immutable = true → w.immutable = true
  sourceText : v.immutable = true → w.sourceText = v.sourceText
  applicability : v.immutable = true → w.applicability = v.applicability
  clauses : v.immutable = true → w.clauses = v.clauses
  effectiveFrom : v.immutable = true → w.effectiveFrom = v.effectiveFrom
  retired : v.status = .retired → w.status = .retired

namespace Persists

theorem refl (v : PolicyVersion) : v.Persists v := by
  constructor <;> simp

theorem trans {u v w : PolicyVersion} (huv : u.Persists v) (hvw : v.Persists w) : u.Persists w where
  version := by rw [hvw.version, huv.version]
  immutable := fun h => hvw.immutable (huv.immutable h)
  sourceText := fun h => by rw [hvw.sourceText (huv.immutable h), huv.sourceText h]
  applicability := fun h => by rw [hvw.applicability (huv.immutable h), huv.applicability h]
  clauses := fun h => by rw [hvw.clauses (huv.immutable h), huv.clauses h]
  effectiveFrom := fun h => by rw [hvw.effectiveFrom (huv.immutable h), huv.effectiveFrom h]
  retired := fun h => hvw.retired (huv.retired h)

end Persists

variable {v : PolicyVersion} {now effectiveFrom : Instant} {target : PolicyVersionStatus}

theorem isLive_iff (hv : v.Sound) : v.isLive = true ↔ v.status = .published ∨ v.status = .scheduled := by
  unfold isLive
  simp only [decide_eq_true_eq]
  constructor
  . exact And.left
  . intro hstatus
    refine ⟨hstatus, hv.immutable_iff.mpr ?_⟩
    cases hstatus with
    | inl h => simp [h]
    | inr h => simp [h]

theorem submitted_sound (hv : v.Sound) (hstatus : v.status = .draft) : (v.submitted now).Sound where
  immutable_iff := by
    have := hv.immutable_iff
    simp_all [submitted]
  dated := hv.dated
  order := hv.order

theorem recounted_sound (hv : v.Sound) : v.recounted.Sound where
  immutable_iff := hv.immutable_iff
  dated := hv.dated
  order := hv.order

theorem activated_sound (htarget : target = .published ∨ target = .scheduled)
    (horder : (v.activated target effectiveFrom now).EffectiveOrder)
    : (v.activated target effectiveFrom now).Sound where
  immutable_iff := by
    cases htarget with
    | inl h => simp [activated, activate, h]
    | inr h => simp [activated, activate, h]
  dated := by simp [activated, activate]
  order := horder

theorem withdrawn_sound (hv : v.Sound) (hlive : v.isLive = true)
    (horder : (v.withdrawn now).EffectiveOrder) : (v.withdrawn now).Sound where
  immutable_iff := by
    unfold isLive at hlive
    simp_all [withdrawn, retire]
  dated := hv.dated
  order := horder

theorem supersede_sound (hv : v.Sound) (hlive : v.isLive = true)
    (horder : (v.supersede now effectiveFrom).EffectiveOrder)
    : (v.supersede now effectiveFrom).Sound where
  immutable_iff := by
    unfold isLive at hlive
    simp_all [supersede]
  dated := hv.dated
  order := horder

theorem mutable_of_status (hv : v.Sound) (hstatus : v.status = .draft ∨ v.status = .inReview)
    : v.immutable ≠ true := by
  rw [Ne, hv.immutable_iff]
  cases hstatus with
  | inl h => simp [h]
  | inr h => simp [h]

theorem submitted_persists (hv : v.Sound) (hstatus : v.status = .draft)
    : v.Persists (v.submitted now) := by
  have := mutable_of_status hv (.inl hstatus)
  constructor <;> simp_all [submitted]

theorem recounted_persists : v.Persists v.recounted := by
  constructor <;> simp [recounted]

theorem activated_persists (hv : v.Sound) (hstatus : v.status = .inReview)
    : v.Persists (v.activated target effectiveFrom now) := by
  have := mutable_of_status hv (.inr hstatus)
  constructor <;> simp_all [activated, activate]

theorem withdrawn_persists : v.Persists (v.withdrawn now) := by
  constructor <;> simp [withdrawn, retire]

theorem supersede_persists : v.Persists (v.supersede now effectiveFrom) := by
  constructor <;> simp [supersede]

end PolicyVersion

/--
The policy has the status its current version stands for.
-/
def PolicyLifecycleStatus.agrees (status : PolicyLifecycleStatus) (current : PolicyVersionStatus)
    : Prop :=
  status = current.lifecycle ∨ (current = .inReview ∧ status = .conflicting)

namespace Policy

structure Sound (p : Policy) : Prop where
  numbered : ∀ (k : Nat) (v : PolicyVersion), p.versions[k]? = some v → v.version = k + 1
  current_le : p.currentVersion ≤ p.versions.length
  versions_of_current : p.currentVersion = 0 → p.versions = []
  failed_of_versions : p.versions = [] → p.status = .parsingFailed
  status_agrees : ∀ v ∈ p.versions, v.version = p.currentVersion → p.status.agrees v.status
  one_published : ∀ v ∈ p.versions, ∀ w ∈ p.versions,
    v.status = .published → w.status = .published → v.version = w.version
  versions_sound : ∀ v ∈ p.versions, v.Sound

namespace Sound

variable {p q : Policy} (hp : p.Sound)

include hp

theorem eq_of_version {v w : PolicyVersion} (hv : v ∈ p.versions) (hw : w ∈ p.versions)
    (h : v.version = w.version) : v = w := by
  obtain ⟨i, hi⟩ := List.mem_iff_getElem?.mp hv
  obtain ⟨j, hj⟩ := List.mem_iff_getElem?.mp hw
  have hvi := hp.numbered i v hi
  have hwj := hp.numbered j w hj
  have hij : i = j := by omega
  subst hij
  rw [hi] at hj
  exact Option.some.inj hj

theorem version_pos {v : PolicyVersion} (hv : v ∈ p.versions)
    : 0 < v.version ∧ v.version ≤ p.versions.length := by
  obtain ⟨i, hi⟩ := List.mem_iff_getElem?.mp hv
  have hlt := (List.getElem?_eq_some_iff.mp hi).1
  have hvi := hp.numbered i v hi
  omega

theorem findVersion_iff {n : Nat} {v : PolicyVersion}
    : p.findVersion n = some v ↔ v ∈ p.versions ∧ v.version = n := by
  constructor
  . exact findVersion_eq_some
  . intro ⟨hv, hn⟩
    cases hfind : p.findVersion n with
    | none =>
      unfold findVersion at hfind
      have := List.find?_eq_none.mp hfind v hv
      simp [hn] at this
    | some w =>
      have ⟨hw, hwn⟩ := findVersion_eq_some hfind
      rw [hp.eq_of_version hw hv (by omega)]

/--
Versions are numbered without gaps, so the next number is one more than there are versions.
-/
theorem latestVersion_eq : p.latestVersion = p.versions.length := by
  have hnumbers : p.versions.map (fun v => v.version) = List.range' 1 p.versions.length := by
    apply List.ext_getElem
    . simp
    . intro k hk _
      rw [List.length_map] at hk
      rw [List.getElem_map, List.getElem_range', hp.numbered k _ (List.getElem?_eq_getElem hk)]
      omega
  have hmax : ∀ n m : Nat, (List.range' (m + 1) n).foldl Nat.max m = m + n := by
    intro n
    induction n with
    | zero => simp
    | succ n ih =>
      intro m
      rw [List.range'_succ, List.foldl_cons]
      have hstep : Nat.max m (m + 1) = m + 1 := by simp
      rw [hstep, ih (m + 1)]
      omega
  unfold latestVersion
  rw [hnumbers]
  have := hmax p.versions.length 0
  simpa using this

/--
A write that revises version `n` with `f` and every other version with `h`.
-/
theorem setVersion_versions {n : Nat} {v v' : PolicyVersion}
    {f : PolicyVersion → PolicyVersion} (hv : p.findVersion n = some v)
    (hf : v' = f v) (hnumber : v'.version = v.version)
    (hversions : q.versions = p.versions)
    : (q.setVersion v').versions = p.versions.map fun w => if w.version = n then f w else w := by
  have ⟨hmem, hvn⟩ := findVersion_eq_some hv
  unfold setVersion
  rw [hversions]
  apply List.map_congr_left
  intro w hw
  by_cases hwn : w.version = n
  . rw [if_pos (by omega), if_pos hwn, hf, hp.eq_of_version hw hmem (by omega)]
  . rw [if_neg (by omega), if_neg hwn]

/--
Revising the versions of a sound policy keeps it sound.
-/
theorem revised {g : PolicyVersion → PolicyVersion} {current : PolicyVersion}
    (hversions : q.versions = p.versions.map g)
    (hpersists : ∀ v ∈ p.versions, v.Persists (g v))
    (hsound : ∀ v ∈ p.versions, (g v).Sound)
    (hcurrent : current ∈ p.versions) (hnumber : q.currentVersion = current.version)
    (hstatus : q.status.agrees (g current).status)
    (hpublished : ∀ v ∈ p.versions, ∀ w ∈ p.versions, (g v).status = .published →
      (g w).status = .published → v.version = w.version) : q.Sound where
  numbered := by
    intro k v hk
    rw [hversions, List.getElem?_map] at hk
    obtain ⟨w, hw, heq⟩ := Option.map_eq_some_iff.mp hk
    rw [← heq, (hpersists w (List.mem_of_getElem? hw)).version, hp.numbered k w hw]
  current_le := by
    have := hp.version_pos hcurrent
    rw [hversions, List.length_map]
    omega
  versions_of_current := by
    have := hp.version_pos hcurrent
    omega
  failed_of_versions := by
    intro hnil
    rw [hversions, List.map_eq_nil_iff] at hnil
    rw [hnil] at hcurrent
    exact absurd hcurrent List.not_mem_nil
  status_agrees := by
    intro v hv hvn
    rw [hversions, List.mem_map] at hv
    obtain ⟨w, hw, heq⟩ := hv
    have hwn : w.version = current.version := by
      rw [← (hpersists w hw).version, heq, hvn, hnumber]
    rw [← heq, hp.eq_of_version hw hcurrent hwn]
    exact hstatus
  one_published := by
    intro v hv w hw hvp hwp
    rw [hversions, List.mem_map] at hv hw
    obtain ⟨v₀, hv₀, heqv⟩ := hv
    obtain ⟨w₀, hw₀, heqw⟩ := hw
    rw [← heqv, ← heqw, (hpersists v₀ hv₀).version, (hpersists w₀ hw₀).version]
    exact hpublished v₀ hv₀ w₀ hw₀ (by rw [heqv, hvp]) (by rw [heqw, hwp])
  versions_sound := by
    intro v hv
    rw [hversions, List.mem_map] at hv
    obtain ⟨w, hw, heq⟩ := hv
    rw [← heq]
    exact hsound w hw

end Sound

end Policy

end CaseResolution
