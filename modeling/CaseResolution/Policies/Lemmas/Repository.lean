import CaseResolution.Policies.Impl.Service

/-!
This module contains when the writes of the policy repository are accepted and what they make of a
policy.
-/

namespace CaseResolution

open Guard

namespace PolicyVersion

variable {v w : PolicyVersion} {now : Instant}

theorem updateVersion_eq_ok {expectedVersion : Nat} {values : PolicyVersion → PolicyVersion}
    : v.updateVersion expectedVersion values = .ok w
        ↔ v.recordVersion = expectedVersion
          ∧ w = { values v with recordVersion := v.recordVersion + 1 }
          ∧ w.EffectiveOrder := by
  unfold updateVersion
  simp only [ensure_bind_eq_ok, pure_eq_ok]
  constructor
  . rintro ⟨hversion, horder, heq⟩
    subst heq
    exact ⟨hversion, rfl, horder⟩
  . rintro ⟨hversion, heq, horder⟩
    subst heq
    exact ⟨hversion, horder, rfl⟩

/--
The row a submission writes.
-/
def submitted (v : PolicyVersion) (now : Instant) : PolicyVersion :=
  { v with status := .inReview, submittedAt := some now, recordVersion := v.recordVersion + 1 }

/--
The row an activation writes.
-/
def activated (v : PolicyVersion) (target : PolicyVersionStatus) (effectiveFrom now : Instant)
    : PolicyVersion :=
  { v.activate target effectiveFrom now with recordVersion := v.recordVersion + 1 }

/--
The row a retirement writes.
-/
def withdrawn (v : PolicyVersion) (now : Instant) : PolicyVersion :=
  { v.retire now with recordVersion := v.recordVersion + 1 }

def recounted (v : PolicyVersion) : PolicyVersion :=
  { v with recordVersion := v.recordVersion + 1 }

end PolicyVersion

namespace Policy

variable {p q : Policy} {now : Instant} {versionNumber expectedPolicyVersion expectedVersion : Nat}

theorem updatePolicy_eq_ok {values : Policy → Policy}
    : p.updatePolicy expectedPolicyVersion values = .ok q
        ↔ p.version = expectedPolicyVersion ∧ q = { values p with version := p.version + 1 } := by
  unfold updatePolicy
  simp only [ensure_bind_eq_ok, pure_eq_ok]
  rw [eq_comm (a := q)]

theorem requiredVersion_eq_ok {v : PolicyVersion}
    : p.requiredVersion versionNumber = .ok v ↔ p.findVersion versionNumber = some v := by
  unfold requiredVersion
  rw [orThrow_eq_ok]

theorem requiredCurrentVersion_eq_ok {v : PolicyVersion}
    : p.requiredCurrentVersion versionNumber = .ok v
        ↔ p.currentVersion = versionNumber ∧ p.findVersion versionNumber = some v := by
  unfold requiredCurrentVersion
  rw [ensure_bind_eq_ok, requiredVersion_eq_ok]

theorem findVersion_eq_some {v : PolicyVersion} (h : p.findVersion versionNumber = some v)
    : v ∈ p.versions ∧ v.version = versionNumber := by
  unfold findVersion at h
  have hfound := List.find?_some h
  simp only [decide_eq_true_eq] at hfound
  exact ⟨List.mem_of_find?_eq_some h, hfound⟩

theorem mem_setVersion {v w : PolicyVersion} (h : w ∈ (p.setVersion v).versions)
    : w = v ∨ (w ∈ p.versions ∧ w.version ≠ v.version) := by
  unfold setVersion at h
  simp only [List.mem_map] at h
  obtain ⟨u, hu, heq⟩ := h
  split at heq
  . exact .inl heq.symm
  . next hne =>
    subst heq
    exact .inr ⟨hu, hne⟩

theorem submitReview_eq_ok
    : p.submitReview now versionNumber expectedPolicyVersion expectedVersion = .ok q
        ↔ ∃ v, p.findVersion versionNumber = some v
          ∧ p.version = expectedPolicyVersion
          ∧ v.recordVersion = expectedVersion
          ∧ (v.submitted now).EffectiveOrder
          ∧ q = { p with status := .inReview, version := p.version + 1 }.setVersion
              (v.submitted now) := by
  unfold submitReview
  simp only [bind_eq_ok, requiredVersion_eq_ok, updatePolicy_eq_ok,
    PolicyVersion.updateVersion_eq_ok, pure_eq_ok]
  constructor
  . rintro ⟨v, hv, _, ⟨hversion, hupdated⟩, _, ⟨hrecord, hwritten, horder⟩, heq⟩
    subst hupdated hwritten heq
    exact ⟨v, hv, hversion, hrecord, horder, rfl⟩
  . rintro ⟨v, hv, hversion, hrecord, horder, heq⟩
    exact ⟨v, hv, _, ⟨hversion, rfl⟩, _, ⟨hrecord, rfl, horder⟩, heq.symm⟩

theorem markConflicting_eq_ok
    : p.markConflicting versionNumber expectedPolicyVersion expectedVersion = .ok q
        ↔ ∃ v, p.findVersion versionNumber = some v
          ∧ p.version = expectedPolicyVersion
          ∧ v.recordVersion = expectedVersion
          ∧ v.recounted.EffectiveOrder
          ∧ q = { p with status := .conflicting, version := p.version + 1 }.setVersion
              v.recounted := by
  unfold markConflicting
  simp only [bind_eq_ok, requiredVersion_eq_ok, updatePolicy_eq_ok,
    PolicyVersion.updateVersion_eq_ok, pure_eq_ok]
  constructor
  . rintro ⟨v, hv, _, ⟨hversion, hupdated⟩, _, ⟨hrecord, hwritten, horder⟩, heq⟩
    subst hupdated hwritten heq
    exact ⟨v, hv, hversion, hrecord, horder, rfl⟩
  . rintro ⟨v, hv, hversion, hrecord, horder, heq⟩
    exact ⟨v, hv, _, ⟨hversion, rfl⟩, _, ⟨hrecord, rfl, horder⟩, heq.symm⟩

/--
The versions a publication of `versionNumber` leaves, before that version itself is written.
-/
def clearedVersions (p : Policy) (versionNumber : Nat) (now effectiveFrom : Instant)
    (target : PolicyVersionStatus) : List PolicyVersion :=
  p.versions.map fun v =>
    if target = .published ∧ v.version ≠ versionNumber
        ∧ (v.status = .published ∨ v.status = .scheduled) then
      v.supersede now effectiveFrom
    else
      v

theorem activateVersion_eq_ok {target : PolicyVersionStatus} {effectiveFrom : Instant}
    : p.activateVersion now versionNumber expectedPolicyVersion expectedVersion target effectiveFrom
          = .ok q
        ↔ ∃ v, p.findVersion versionNumber = some v
          ∧ (target = .published →
            ∀ w ∈ p.clearedVersions versionNumber now effectiveFrom target, w.EffectiveOrder)
          ∧ p.version = expectedPolicyVersion
          ∧ v.recordVersion = expectedVersion
          ∧ (v.activated target effectiveFrom now).EffectiveOrder
          ∧ q = { p with
              status := target.lifecycle
              version := p.version + 1
              versions := p.clearedVersions versionNumber now effectiveFrom target }.setVersion
                (v.activated target effectiveFrom now) := by
  unfold activateVersion supersedeOthers clearedVersions
  by_cases htarget : target = .published
  . simp only [htarget, if_true, true_and, true_implies, bind_eq_ok, requiredVersion_eq_ok,
      updatePolicy_eq_ok, PolicyVersion.updateVersion_eq_ok, ensure_eq_ok, exists_const, pure_eq_ok]
    constructor
    . rintro ⟨v, hv, _, ⟨hcleared, hpolicy⟩, _, ⟨hversion, hupdated⟩, _, ⟨hrecord, hwritten, horder⟩,
        heq⟩
      subst hpolicy hupdated hwritten heq
      exact ⟨v, hv, hcleared, hversion, hrecord, horder, rfl⟩
    . rintro ⟨v, hv, hcleared, hversion, hrecord, horder, heq⟩
      exact ⟨v, hv, _, ⟨hcleared, rfl⟩, _, ⟨hversion, rfl⟩, _, ⟨hrecord, rfl, horder⟩, heq.symm⟩
  . simp only [htarget, if_false, false_and, false_implies, true_and, bind_eq_ok,
      requiredVersion_eq_ok, updatePolicy_eq_ok, PolicyVersion.updateVersion_eq_ok, pure_eq_ok,
      List.map_id']
    constructor
    . rintro ⟨v, hv, _, hpolicy, _, ⟨hversion, hupdated⟩, _, ⟨hrecord, hwritten, horder⟩, heq⟩
      subst hpolicy hupdated hwritten heq
      exact ⟨v, hv, hversion, hrecord, horder, rfl⟩
    . rintro ⟨v, hv, hversion, hrecord, horder, heq⟩
      exact ⟨v, hv, _, rfl, _, ⟨hversion, rfl⟩, _, ⟨hrecord, rfl, horder⟩, heq.symm⟩

/--
The policy row after `v` is retired.
-/
def afterRetirement (p : Policy) (now : Instant) (v : PolicyVersion) : Policy :=
  match p.previousActive now v with
  | some previous =>
    { p with status := .published, currentVersion := previous.version, version := p.version + 1 }
  | none => { p with status := .retired, version := p.version + 1 }

theorem retireVersion_eq_ok
    : p.retireVersion now versionNumber expectedPolicyVersion expectedVersion = .ok q
        ↔ ∃ v, p.findVersion versionNumber = some v
          ∧ p.version = expectedPolicyVersion
          ∧ v.recordVersion = expectedVersion
          ∧ (v.withdrawn now).EffectiveOrder
          ∧ q = (p.afterRetirement now v).setVersion (v.withdrawn now) := by
  unfold retireVersion afterRetirement
  simp only [bind_eq_ok, requiredVersion_eq_ok, updatePolicy_eq_ok,
    PolicyVersion.updateVersion_eq_ok, pure_eq_ok]
  constructor
  . rintro ⟨v, hv, _, ⟨hversion, hupdated⟩, _, ⟨hrecord, hwritten, horder⟩, heq⟩
    subst hupdated hwritten heq
    refine ⟨v, hv, hversion, hrecord, horder, ?_⟩
    cases p.previousActive now v <;> rfl
  . rintro ⟨v, hv, hversion, hrecord, horder, heq⟩
    refine ⟨v, hv, _, ⟨hversion, rfl⟩, _, ⟨hrecord, rfl, horder⟩, ?_⟩
    rw [heq]
    cases p.previousActive now v <;> rfl

variable [Digest] {actorId : String} {content : PolicyDraftContent}
  {clauses : List ParsedPolicyClause}

theorem createDraft_eq_ok
    : p.createDraft actorId expectedPolicyVersion content clauses = .ok q
        ↔ p.version = expectedPolicyVersion
          ∧ q = { p with
              status := .draft
              currentVersion := p.latestVersion + 1
              sourceError := none
              version := p.version + 1
              versions := p.versions ++ [newVersion (p.latestVersion + 1) actorId content clauses] }
        := by
  unfold createDraft addVersion
  simp only [bind_eq_ok, updatePolicy_eq_ok, pure_eq_ok]
  constructor
  . rintro ⟨_, ⟨hversion, hupdated⟩, heq⟩
    subst hupdated heq
    exact ⟨hversion, rfl⟩
  . rintro ⟨hversion, heq⟩
    exact ⟨_, ⟨hversion, rfl⟩, heq.symm⟩

theorem retrySource_eq_ok
    : p.retrySource actorId expectedPolicyVersion content clauses = .ok q
        ↔ p.version = expectedPolicyVersion
          ∧ p.findVersion 1 = none
          ∧ q = { p with
              status := .draft
              currentVersion := 1
              sourceError := none
              version := p.version + 1
              versions := p.versions ++ [newVersion 1 actorId content clauses] } := by
  unfold retrySource addVersion
  simp only [bind_eq_ok, updatePolicy_eq_ok, ensure_eq_ok, exists_const, pure_eq_ok]
  constructor
  . rintro ⟨_, ⟨hversion, hupdated⟩, hnew, heq⟩
    subst hupdated heq
    exact ⟨hversion, hnew, rfl⟩
  . rintro ⟨hversion, hnew, heq⟩
    exact ⟨_, ⟨hversion, rfl⟩, hnew, heq.symm⟩

end Policy

end CaseResolution
