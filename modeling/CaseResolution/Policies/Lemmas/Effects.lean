import CaseResolution.Lib.Rows
import CaseResolution.Policies.Lemmas.Service

/-!
This module contains everything an answered request can do to a sound policy, and that it leaves a sound
policy whose versions persist.
-/

namespace CaseResolution

open Guard

def PolicyWrite.addsVersion : PolicyWrite → Bool
  | .createDraft .. | .retrySource .. => true
  | _ => false

namespace Policy

/--
What the writes of the service make of a policy at `now`.
-/
inductive Effect (now : Instant) (p q : Policy) : PolicyWrite → Prop where
  | drafted (write : PolicyWrite) (v : PolicyVersion) (hwrite : write.addsVersion = true)
      (hsound : v.Sound) (hdraft : v.status = .draft)
      (hidle : p.status ≠ .draft ∧ p.status ≠ .inReview)
      (hnumber : v.version = p.versions.length + 1) (hversions : q.versions = p.versions ++ [v])
      (hcurrent : q.currentVersion = v.version) (hstatus : q.status = .draft) : Effect now p q write
  | submitted (e e' : Nat) (v : PolicyVersion) (hv : v ∈ p.versions)
      (hnow : v.version = p.currentVersion) (hdraft : v.status = .draft)
      (hversions : q.versions = p.versions.map fun w =>
        if w.version = v.version then w.submitted now else w)
      (hcurrent : q.currentVersion = v.version) (hstatus : q.status = .inReview)
      : Effect now p q (.submitReview v.version e e')
  | conflicting (e e' : Nat) (v : PolicyVersion) (hv : v ∈ p.versions)
      (hnow : v.version = p.currentVersion) (hreview : v.status = .inReview)
      (hversions : q.versions = p.versions.map fun w =>
        if w.version = v.version then w.recounted else w)
      (hcurrent : q.currentVersion = v.version) (hstatus : q.status = .conflicting)
      : Effect now p q (.markConflicting v.version e e')
  | published (e e' : Nat) (v : PolicyVersion) (effectiveFrom : Instant) (hfrom : effectiveFrom ≤ now)
      (hv : v ∈ p.versions) (hnow : v.version = p.currentVersion) (hreview : v.status = .inReview)
      (hversions : q.versions = p.versions.map fun w =>
        if w.version = v.version then
          w.activated .published effectiveFrom now
        else if w.status = .published ∨ w.status = .scheduled then
          w.supersede now effectiveFrom
        else
          w)
      (horder : ∀ w ∈ q.versions, w.EffectiveOrder)
      (hcurrent : q.currentVersion = v.version) (hstatus : q.status = .published)
      : Effect now p q (.activate v.version e e' .published effectiveFrom)
  | scheduled (e e' : Nat) (v : PolicyVersion) (effectiveFrom : Instant) (hfrom : now < effectiveFrom)
      (hv : v ∈ p.versions) (hnow : v.version = p.currentVersion) (hreview : v.status = .inReview)
      (hversions : q.versions = p.versions.map fun w =>
        if w.version = v.version then w.activated .scheduled effectiveFrom now else w)
      (horder : (v.activated .scheduled effectiveFrom now).EffectiveOrder)
      (hcurrent : q.currentVersion = v.version) (hstatus : q.status = .scheduled)
      : Effect now p q (.activate v.version e e' .scheduled effectiveFrom)
  | cancelled (e e' : Nat) (v previous : PolicyVersion) (hv : v ∈ p.versions)
      (hnow : v.version = p.currentVersion) (hscheduled : v.status = .scheduled)
      (hprevious : p.previousActive now v = some previous)
      (hversions : q.versions = p.versions.map fun w =>
        if w.version = v.version then w.withdrawn now else w)
      (horder : (v.withdrawn now).EffectiveOrder)
      (hcurrent : q.currentVersion = previous.version) (hstatus : q.status = .published)
      : Effect now p q (.retire v.version e e')
  | retired (e e' : Nat) (v : PolicyVersion) (hv : v ∈ p.versions)
      (hnow : v.version = p.currentVersion)
      (hlive : v.status = .published ∨ v.status = .scheduled)
      (hprevious : p.previousActive now v = none)
      (hversions : q.versions = p.versions.map fun w =>
        if w.version = v.version then w.withdrawn now else w)
      (horder : (v.withdrawn now).EffectiveOrder)
      (hcurrent : q.currentVersion = v.version) (hstatus : q.status = .retired)
      : Effect now p q (.retire v.version e e')

variable {p q : Policy} {now : Instant}

theorem previousActive_eq_some {v previous : PolicyVersion} (h : p.previousActive now v = some previous)
    : v.status = .scheduled ∧ previous ∈ p.versions ∧ previous.version ≠ v.version
        ∧ previous.status = .published ∧ previous.immutable = true ∧ previous.covers now = true := by
  unfold previousActive at h
  split at h
  . next hscheduled =>
    have hmem := List.mem_filter.mp (List.argmax_mem h)
    simp only [decide_eq_true_eq] at hmem
    exact ⟨hscheduled, hmem.1, hmem.2⟩
  . cases h

theorem previousActive_eq_none {v w : PolicyVersion} (h : p.previousActive now v = none)
    (hscheduled : v.status = .scheduled) (hw : w ∈ p.versions) (hne : w.version ≠ v.version)
    (hpublished : w.status = .published) (himmutable : w.immutable = true)
    : w.covers now ≠ true := by
  unfold previousActive at h
  rw [if_pos hscheduled, List.argmax_eq_none, List.filter_eq_nil_iff] at h
  intro hcovers
  apply h w hw
  simp [hne, hpublished, himmutable, hcovers]

section

variable [Digest]

theorem newVersion_sound {n : Nat} {actorId : String} {content : PolicyDraftContent}
    {clauses : List ParsedPolicyClause} : (newVersion n actorId content clauses).Sound where
  immutable_iff := by simp [newVersion]
  dated := by simp [newVersion]
  order := content.effective_order

theorem newPolicy_sound (publicId : String) (ownerId : Nat) (actorId : String)
    (source : Except String (PolicyDraftContent × List ParsedPolicyClause))
    : (newPolicy publicId ownerId actorId source).Sound := by
  unfold newPolicy
  split
  . constructor
    . intro k v hk
      obtain ⟨hlt, heq⟩ := List.getElem?_eq_some_iff.mp hk
      simp only [List.length_cons, List.length_nil] at hlt
      have hzero : k = 0 := by omega
      subst hzero
      rw [← heq]
      rfl
    . simp
    . simp
    . simp
    . simp [newVersion, PolicyLifecycleStatus.agrees, PolicyVersionStatus.lifecycle]
    . simp
    . simp only [List.mem_singleton, forall_eq]
      exact newVersion_sound
  . constructor <;> simp

theorem effect_of_write (hp : p.Sound) {write : PolicyWrite} (hadmitted : write.Admitted p now)
    (h : p.write now write = .ok q) : Effect now p q write := by
  cases write with
  | createDraft actorId expectedPolicyVersion content clauses =>
    obtain ⟨_, hq⟩ := createDraft_eq_ok.mp h
    simp only [PolicyWrite.Admitted, List.mem_cons, List.not_mem_nil, or_false, not_or] at hadmitted
    have hnumber : p.latestVersion + 1 = p.versions.length + 1 := by
      rw [hp.latestVersion_eq]
    exact .drafted _ _ rfl newVersion_sound rfl ⟨hadmitted.1, hadmitted.2.1⟩ hnumber (by rw [hq])
      (by rw [hq]; rfl) (by rw [hq])
  | retrySource actorId expectedPolicyVersion content clauses =>
    obtain ⟨_, hnew, hq⟩ := retrySource_eq_ok.mp h
    have hnil := hp.versions_of_current hadmitted.2
    have hidle : p.status ≠ .draft ∧ p.status ≠ .inReview := by
      rw [hadmitted.1]
      decide
    exact .drafted _ (newVersion 1 actorId content clauses) rfl newVersion_sound rfl hidle
      (by rw [hnil]; rfl) (by rw [hq]) (by rw [hq]; rfl) (by rw [hq])
  | submitReview n expectedPolicyVersion expectedVersion =>
    obtain ⟨hn, v, hv, hdraft⟩ := hadmitted
    obtain ⟨v', hv', _, _, _, hq⟩ := submitReview_eq_ok.mp h
    rw [hv, Option.some.injEq] at hv'
    have ⟨hmem, hvn⟩ := findVersion_eq_some hv
    subst hv' hvn
    have hrows : q.versions = p.versions.map fun w =>
        if w.version = v.version then w.submitted now else w := by
      rw [hq]
      exact hp.setVersion_versions (f := fun w => w.submitted now) hv rfl rfl rfl
    exact .submitted _ _ v hmem hn.symm hdraft hrows (by rw [hq]; exact hn) (by rw [hq]; rfl)
  | markConflicting n expectedPolicyVersion expectedVersion =>
    obtain ⟨hn, v, hv, hreview⟩ := hadmitted
    obtain ⟨v', hv', _, _, _, hq⟩ := markConflicting_eq_ok.mp h
    rw [hv, Option.some.injEq] at hv'
    have ⟨hmem, hvn⟩ := findVersion_eq_some hv
    subst hv' hvn
    have hrows : q.versions = p.versions.map fun w =>
        if w.version = v.version then w.recounted else w := by
      rw [hq]
      exact hp.setVersion_versions (f := fun w => w.recounted) hv rfl rfl rfl
    exact .conflicting _ _ v hmem hn.symm hreview hrows (by rw [hq]; exact hn) (by rw [hq]; rfl)
  | activate n expectedPolicyVersion expectedVersion target effectiveFrom =>
    obtain ⟨hn, ⟨v, hv, hreview, hwindow⟩, htarget⟩ := hadmitted
    obtain ⟨v', hv', hcleared, _, _, horder, hq⟩ := activateVersion_eq_ok.mp h
    rw [hv, Option.some.injEq] at hv'
    have ⟨hmem, hvn⟩ := findVersion_eq_some hv
    subst hv' hvn
    have hrows : q.versions = p.versions.map fun w =>
        if w.version = v.version then
          w.activated target effectiveFrom now
        else if target = .published ∧ (w.status = .published ∨ w.status = .scheduled) then
          w.supersede now effectiveFrom
        else
          w := by
      rw [hq]
      unfold setVersion clearedVersions
      rw [List.map_map]
      apply List.map_congr_left
      intro w hw
      by_cases hwn : w.version = v.version
      . have heq := hp.eq_of_version hw hmem hwn
        subst heq
        simp [PolicyVersion.activated, PolicyVersion.activate]
      . by_cases hlive : target = .published ∧ (w.status = .published ∨ w.status = .scheduled)
        . simp [hwn, hlive, PolicyVersion.activated, PolicyVersion.activate, PolicyVersion.supersede]
        . simp only [Function.comp_apply, hwn, ne_eq, not_false_eq_true, true_and, hlive, if_false]
          simp [hwn, PolicyVersion.activated, PolicyVersion.activate]
    cases htarget with
    | inl hpublished =>
      obtain ⟨htarget, hfrom⟩ := hpublished
      subst htarget
      simp only [true_and] at hrows
      have hordered : ∀ w ∈ q.versions, w.EffectiveOrder := by
        intro w hw
        rw [hq] at hw
        cases mem_setVersion hw with
        | inl heq =>
          rw [heq]
          exact horder
        | inr hold => exact hcleared rfl w hold.1
      exact .published _ _ v effectiveFrom hfrom hmem hn.symm hreview hrows hordered
        (by rw [hq]; exact hn) (by rw [hq]; rfl)
    | inr hscheduled =>
      obtain ⟨htarget, hfrom⟩ := hscheduled
      subst htarget
      simp only [reduceCtorEq, false_and, if_false] at hrows
      exact .scheduled _ _ v effectiveFrom hfrom hmem hn.symm hreview hrows horder (by rw [hq]; exact hn)
        (by rw [hq]; rfl)
  | retire n expectedPolicyVersion expectedVersion =>
    obtain ⟨hn, v, hv, hlive⟩ := hadmitted
    obtain ⟨v', hv', _, _, horder, hq⟩ := retireVersion_eq_ok.mp h
    rw [hv, Option.some.injEq] at hv'
    have ⟨hmem, hvn⟩ := findVersion_eq_some hv
    subst hv' hvn
    have hrows : q.versions = p.versions.map fun w =>
        if w.version = v.version then w.withdrawn now else w := by
      rw [hq]
      apply hp.setVersion_versions (f := fun w => w.withdrawn now) hv rfl rfl
      unfold afterRetirement
      split <;> rfl
    cases hprevious : p.previousActive now v with
    | none =>
      have hcurrent : q.currentVersion = v.version := by
        rw [hq]
        simpa [setVersion, afterRetirement, hprevious] using hn
      have hstatus : q.status = .retired := by
        rw [hq]
        simp [setVersion, afterRetirement, hprevious]
      exact .retired _ _ v hmem hn.symm hlive hprevious hrows horder hcurrent hstatus
    | some previous =>
      have hcurrent : q.currentVersion = previous.version := by
        rw [hq]
        simp [setVersion, afterRetirement, hprevious]
      have hstatus : q.status = .published := by
        rw [hq]
        simp [setVersion, afterRetirement, hprevious]
      exact .cancelled _ _ v previous hmem hn.symm (previousActive_eq_some hprevious).1 hprevious hrows
        horder hcurrent hstatus

end

section Revision

variable {v current : PolicyVersion} {f : PolicyVersion → PolicyVersion}

/--
Revising one version of a sound policy, so that it is not published afterwards, keeps it sound.
-/
theorem Sound.revised_one (hp : p.Sound) (hv : v ∈ p.versions)
    (hversions : q.versions = p.versions.map fun w => if w.version = v.version then f w else w)
    (hpersists : v.Persists (f v)) (hsound : (f v).Sound) (hunpublished : (f v).status ≠ .published)
    (hcurrent : current ∈ p.versions) (hnumber : q.currentVersion = current.version)
    (hstatus : q.status.agrees
      (if current.version = v.version then f current else current).status) : q.Sound := by
  apply hp.revised hversions _ _ hcurrent hnumber hstatus
  . intro w hw w' hw' hpublished hpublished'
    split at hpublished
    . next heq =>
      rw [hp.eq_of_version hw hv heq] at hpublished
      exact absurd hpublished hunpublished
    . split at hpublished'
      . next heq =>
        rw [hp.eq_of_version hw' hv heq] at hpublished'
        exact absurd hpublished' hunpublished
      . exact hp.one_published w hw w' hw' hpublished hpublished'
  . intro w hw
    split
    . next heq =>
      rw [hp.eq_of_version hw hv heq]
      exact hpersists
    . exact .refl w
  . intro w hw
    split
    . next heq =>
      rw [hp.eq_of_version hw hv heq]
      exact hsound
    . exact hp.versions_sound w hw

theorem Sound.revised_one_extends (hp : p.Sound) (hv : v ∈ p.versions)
    (hversions : q.versions = p.versions.map fun w => if w.version = v.version then f w else w)
    (hpersists : v.Persists (f v)) : Rows.Extends PolicyVersion.Persists p.versions q.versions := by
  rw [hversions]
  intro i w hi
  refine ⟨_, by rw [List.getElem?_map, hi, Option.map_some], ?_⟩
  split
  . next heq =>
    rw [hp.eq_of_version (List.mem_of_getElem? hi) hv heq]
    exact hpersists
  . exact .refl w

end Revision

namespace Effect

theorem sound (hp : p.Sound) {write : PolicyWrite} (h : Effect now p q write) : q.Sound := by
  cases h with
  | drafted write v hwrite hsound hdraft hidle hnumber hversions hcurrent hstatus =>
    constructor
    . intro k w hk
      rw [hversions] at hk
      cases Rows.getElem?_concat_cases hk with
      | inl hold => exact hp.numbered k w hold
      | inr hnew =>
        rw [hnew.2, hnew.1]
        exact hnumber
    . rw [hversions, List.length_append, hcurrent, hnumber]
      exact Nat.le_refl _
    . rw [hcurrent, hnumber]
      omega
    . simp [hversions]
    . intro w hw hnumber'
      rw [hversions, List.mem_append, List.mem_singleton] at hw
      cases hw with
      | inl hold =>
        have := (hp.version_pos hold).2
        omega
      | inr hnew =>
        rw [hnew, hstatus, hdraft]
        exact .inl rfl
    . intro w hw w' hw' hpublished hpublished'
      rw [hversions, List.mem_append, List.mem_singleton] at hw hw'
      cases hw with
      | inr hnew => simp [hnew, hdraft] at hpublished
      | inl hw =>
        cases hw' with
        | inr hnew => simp [hnew, hdraft] at hpublished'
        | inl hw' => exact hp.one_published w hw w' hw' hpublished hpublished'
    . intro w hw
      rw [hversions, List.mem_append, List.mem_singleton] at hw
      cases hw with
      | inl hold => exact hp.versions_sound w hold
      | inr hnew =>
        rw [hnew]
        exact hsound
  | submitted e e' v hv hnow hdraft hversions hcurrent hstatus =>
    have hvs := hp.versions_sound v hv
    apply hp.revised_one hv hversions (PolicyVersion.submitted_persists hvs hdraft)
      (PolicyVersion.submitted_sound hvs hdraft) (by simp [PolicyVersion.submitted]) hv hcurrent
    rw [if_pos rfl, hstatus]
    exact .inl rfl
  | conflicting e e' v hv hnow hreview hversions hcurrent hstatus =>
    have hvs := hp.versions_sound v hv
    apply hp.revised_one hv hversions PolicyVersion.recounted_persists
      (PolicyVersion.recounted_sound hvs) (by simp [PolicyVersion.recounted, hreview]) hv hcurrent
    rw [if_pos rfl, hstatus]
    exact .inr ⟨hreview, rfl⟩
  | published e e' v effectiveFrom hfrom hv hnow hreview hversions horder hcurrent hstatus =>
    have hordered : ∀ w ∈ p.versions, (if w.version = v.version then
          w.activated .published effectiveFrom now
        else if w.status = .published ∨ w.status = .scheduled then
          w.supersede now effectiveFrom
        else
          w).EffectiveOrder := by
      intro w hw
      apply horder
      rw [hversions]
      exact List.mem_map_of_mem hw
    apply hp.revised hversions _ _ hv hcurrent
    . rw [if_pos rfl, hstatus]
      exact .inl rfl
    . -- the published version is the only one that is not superseded
      intro w hw w' hw' hpublished hpublished'
      have honly : ∀ u ∈ p.versions, (if u.version = v.version then
            u.activated .published effectiveFrom now
          else if u.status = .published ∨ u.status = .scheduled then
            u.supersede now effectiveFrom
          else
            u).status = .published → u.version = v.version := by
        intro u hu hup
        split at hup
        . next heq => exact heq
        . split at hup
          . cases hup
          . next hdead => exact absurd (Or.inl hup) hdead
      rw [honly w hw hpublished, honly w' hw' hpublished']
    . intro w hw
      split
      . next heq =>
        rw [hp.eq_of_version hw hv heq]
        exact PolicyVersion.activated_persists (hp.versions_sound v hv) hreview
      . split
        . exact PolicyVersion.supersede_persists
        . exact .refl w
    . intro w hw
      have horderw := hordered w hw
      split
      . next heq =>
        rw [if_pos heq] at horderw
        exact PolicyVersion.activated_sound (.inl rfl) horderw
      . next hne =>
        rw [if_neg hne] at horderw
        split
        . next hlive =>
          rw [if_pos hlive] at horderw
          have hws := hp.versions_sound w hw
          exact PolicyVersion.supersede_sound hws ((PolicyVersion.isLive_iff hws).mpr hlive) horderw
        . exact hp.versions_sound w hw
  | scheduled e e' v effectiveFrom hfrom hv hnow hreview hversions horder hcurrent hstatus =>
    have hvs := hp.versions_sound v hv
    apply hp.revised_one hv hversions (PolicyVersion.activated_persists hvs hreview)
      (PolicyVersion.activated_sound (.inr rfl) horder)
      (by simp [PolicyVersion.activated, PolicyVersion.activate]) hv hcurrent
    rw [if_pos rfl, hstatus]
    exact .inl rfl
  | cancelled e e' v previous hv hnow hscheduled hprevious hversions horder hcurrent hstatus =>
    have hvs := hp.versions_sound v hv
    obtain ⟨_, hmem, hne, hpublished, _⟩ := previousActive_eq_some hprevious
    have hlive := (PolicyVersion.isLive_iff hvs).mpr (.inr hscheduled)
    apply hp.revised_one hv hversions PolicyVersion.withdrawn_persists
      (PolicyVersion.withdrawn_sound hvs hlive horder)
      (by simp [PolicyVersion.withdrawn, PolicyVersion.retire]) hmem hcurrent
    rw [if_neg hne, hstatus, hpublished]
    exact .inl rfl
  | retired e e' v hv hnow hlive hprevious hversions horder hcurrent hstatus =>
    have hvs := hp.versions_sound v hv
    apply hp.revised_one hv hversions PolicyVersion.withdrawn_persists
      (PolicyVersion.withdrawn_sound hvs ((PolicyVersion.isLive_iff hvs).mpr hlive) horder)
      (by simp [PolicyVersion.withdrawn, PolicyVersion.retire]) hv hcurrent
    rw [if_pos rfl, hstatus]
    exact .inl rfl

/--
No write loses a version or what persists of it.
-/
theorem extends_versions (hp : p.Sound) {write : PolicyWrite} (h : Effect now p q write)
    : Rows.Extends PolicyVersion.Persists p.versions q.versions := by
  cases h with
  | drafted write v hwrite hsound hdraft hidle hnumber hversions hcurrent hstatus =>
    rw [hversions]
    exact Rows.Extends.append PolicyVersion.Persists.refl _ _
  | submitted e e' v hv hnow hdraft hversions hcurrent hstatus =>
    exact hp.revised_one_extends hv hversions
      (PolicyVersion.submitted_persists (hp.versions_sound v hv) hdraft)
  | conflicting e e' v hv hnow hreview hversions hcurrent hstatus =>
    exact hp.revised_one_extends hv hversions PolicyVersion.recounted_persists
  | published e e' v effectiveFrom hfrom hv hnow hreview hversions horder hcurrent hstatus =>
    rw [hversions]
    intro i w hi
    refine ⟨_, by rw [List.getElem?_map, hi, Option.map_some], ?_⟩
    split
    . next heq =>
      rw [hp.eq_of_version (List.mem_of_getElem? hi) hv heq]
      exact PolicyVersion.activated_persists (hp.versions_sound v hv) hreview
    . split
      . exact PolicyVersion.supersede_persists
      . exact .refl w
  | scheduled e e' v effectiveFrom hfrom hv hnow hreview hversions horder hcurrent hstatus =>
    exact hp.revised_one_extends hv hversions
      (PolicyVersion.activated_persists (hp.versions_sound v hv) hreview)
  | cancelled e e' v previous hv hnow hscheduled hprevious hversions horder hcurrent hstatus =>
    exact hp.revised_one_extends hv hversions PolicyVersion.withdrawn_persists
  | retired e e' v hv hnow hlive hprevious hversions horder hcurrent hstatus =>
    exact hp.revised_one_extends hv hversions PolicyVersion.withdrawn_persists

end Effect

end Policy

end CaseResolution
