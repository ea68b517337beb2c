import CaseResolution.Policies.Impl.Parser
import Mathlib.Data.List.MinMax

/-!
This module contains the policy repository: how a policy is created and how its row and the rows of
its versions are written together.
-/

namespace CaseResolution

open Guard

namespace PolicyVersion

/--
Write `values` to a version that is still at the expected record version, and count the write.
-/
def updateVersion (v : PolicyVersion) (expectedVersion : Nat) (values : PolicyVersion → PolicyVersion)
    : Except Error PolicyVersion := do
  ensure (v.recordVersion = expectedVersion)
    (.policyVersionConcurrencyConflict expectedVersion v.recordVersion)
  let updated := { values v with recordVersion := v.recordVersion + 1 }
  ensure updated.EffectiveOrder (.integrityError "ck_governed_policy_versions_effective_order")
  pure updated

/--
What a publication makes of the other versions that still have authority.
-/
def supersede (v : PolicyVersion) (now effectiveFrom : Instant) : PolicyVersion :=
  { v with
    status := .retired
    recordVersion := v.recordVersion + 1
    retiredAt := some now
    effectiveTo :=
      if v.effectiveTo.all fun stop => effectiveFrom < stop then
        some effectiveFrom
      else
        v.effectiveTo }

def activate (v : PolicyVersion) (target : PolicyVersionStatus) (effectiveFrom now : Instant)
    : PolicyVersion :=
  { v with
    status := target
    immutable := true
    effectiveFrom := some effectiveFrom
    publishedAt := some now }

def retire (v : PolicyVersion) (now : Instant) : PolicyVersion :=
  { v with
    status := .retired
    retiredAt := some now
    effectiveTo :=
      if (v.effectiveFrom.all fun start => start < now)
          ∧ v.effectiveTo.all fun stop => now < stop then
        some now
      else
        v.effectiveTo }

end PolicyVersion

section

variable [Digest]

def newClause (sequence : Nat) (clause : ParsedPolicyClause) : PolicyClause :=
  { clause with sequence, contentHash := Digest.text clause.text }

def newVersion (versionNumber : Nat) (actorId : String) (content : PolicyDraftContent)
    (clauses : List ParsedPolicyClause) : PolicyVersion where
  version := versionNumber
  recordVersion := 1
  status := .draft
  immutable := false
  sourceText := content.sourceText
  contentHash := Digest.text content.sourceText
  applicability := content.applicability
  effectiveFrom := content.effectiveFrom
  effectiveTo := content.effectiveTo
  clauses := clauses.mapIdx fun index clause => newClause (index + 1) clause
  createdBy := actorId
  submittedAt := none
  publishedAt := none
  retiredAt := none

end

def PolicyVersionStatus.lifecycle : PolicyVersionStatus → PolicyLifecycleStatus
  | .draft => .draft
  | .inReview => .inReview
  | .published => .published
  | .scheduled => .scheduled
  | .retired => .retired

namespace Policy

/--
Write `values` to a policy that is still at the expected version, and count the write.
-/
def updatePolicy (p : Policy) (expectedVersion : Nat) (values : Policy → Policy)
    : Except Error Policy := do
  ensure (p.version = expectedVersion) (.policyConcurrencyConflict expectedVersion p.version)
  pure { values p with version := p.version + 1 }

def findVersion (p : Policy) (versionNumber : Nat) : Option PolicyVersion :=
  p.versions.find? fun v => v.version = versionNumber

def requiredVersion (p : Policy) (versionNumber : Nat) : Except Error PolicyVersion :=
  orThrow (p.findVersion versionNumber) (.policyNotFound "The policy version was not found.")

def setVersion (p : Policy) (v : PolicyVersion) : Policy :=
  { p with versions := p.versions.map fun w => if w.version = v.version then v else w }

def latestVersion (p : Policy) : Nat :=
  (p.versions.map fun v => v.version).foldl Nat.max 0

def addVersion [Digest] (p : Policy) (versionNumber : Nat) (actorId : String)
    (content : PolicyDraftContent) (clauses : List ParsedPolicyClause) : Policy :=
  { p with versions := p.versions ++ [newVersion versionNumber actorId content clauses] }

def createDraft [Digest] (p : Policy) (actorId : String) (expectedPolicyVersion : Nat)
    (content : PolicyDraftContent) (clauses : List ParsedPolicyClause) : Except Error Policy := do
  let nextVersion := p.latestVersion + 1
  let updated ← p.updatePolicy expectedPolicyVersion fun p =>
    { p with status := .draft, currentVersion := nextVersion, sourceError := none }
  pure (updated.addVersion nextVersion actorId content clauses)

def retrySource [Digest] (p : Policy) (actorId : String) (expectedPolicyVersion : Nat)
    (content : PolicyDraftContent) (clauses : List ParsedPolicyClause) : Except Error Policy := do
  let updated ← p.updatePolicy expectedPolicyVersion fun p =>
    { p with status := .draft, currentVersion := 1, sourceError := none }
  ensure (updated.findVersion 1 = none) (.integrityError "uq_governed_versions_org_policy_version")
  pure (updated.addVersion 1 actorId content clauses)

def submitReview (p : Policy) (now : Instant) (versionNumber expectedPolicyVersion : Nat)
    (expectedVersion : Nat) : Except Error Policy := do
  let version ← p.requiredVersion versionNumber
  let updated ← p.updatePolicy expectedPolicyVersion fun p => { p with status := .inReview }
  let submitted ← version.updateVersion expectedVersion fun v =>
    { v with status := .inReview, submittedAt := some now }
  pure (updated.setVersion submitted)

def markConflicting (p : Policy) (versionNumber expectedPolicyVersion expectedVersion : Nat)
    : Except Error Policy := do
  let version ← p.requiredVersion versionNumber
  let updated ← p.updatePolicy expectedPolicyVersion fun p => { p with status := .conflicting }
  let kept ← version.updateVersion expectedVersion id
  pure (updated.setVersion kept)

/--
Take authority from every version but `versionNumber`.
-/
def supersedeOthers (p : Policy) (versionNumber : Nat) (now effectiveFrom : Instant)
    : Except Error Policy := do
  let versions := p.versions.map fun v =>
    if v.version ≠ versionNumber ∧ (v.status = .published ∨ v.status = .scheduled) then
      v.supersede now effectiveFrom
    else
      v
  ensure (∀ v ∈ versions, v.EffectiveOrder)
    (.integrityError "ck_governed_policy_versions_effective_order")
  pure { p with versions }

def activateVersion (p : Policy) (now : Instant) (versionNumber expectedPolicyVersion : Nat)
    (expectedVersion : Nat) (target : PolicyVersionStatus) (effectiveFrom : Instant)
    : Except Error Policy := do
  let version ← p.requiredVersion versionNumber
  let cleared ←
    if target = .published then p.supersedeOthers versionNumber now effectiveFrom else pure p
  let updated ← cleared.updatePolicy expectedPolicyVersion fun p =>
    { p with status := target.lifecycle }
  let activated ← version.updateVersion expectedVersion fun v =>
    v.activate target effectiveFrom now
  pure (updated.setVersion activated)

/--
The published version a cancelled schedule gives back.
-/
def previousActive (p : Policy) (now : Instant) (version : PolicyVersion) : Option PolicyVersion :=
  if version.status = .scheduled then
    (p.versions.filter fun v =>
      v.version ≠ version.version ∧ v.status = .published ∧ v.immutable ∧ v.covers now).argmax
        fun v => v.version
  else
    none

def retireVersion (p : Policy) (now : Instant) (versionNumber expectedPolicyVersion : Nat)
    (expectedVersion : Nat) : Except Error Policy := do
  let version ← p.requiredVersion versionNumber
  let updated ← p.updatePolicy expectedPolicyVersion fun p =>
    match p.previousActive now version with
    | some previous => { p with status := .published, currentVersion := previous.version }
    | none => { p with status := .retired }
  let retired ← version.updateVersion expectedVersion fun v => v.retire now
  pure (updated.setVersion retired)

end Policy

end CaseResolution
