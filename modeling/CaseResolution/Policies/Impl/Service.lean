import CaseResolution.Domain.Identity
import CaseResolution.Policies.Impl.Repository

/-!
This module contains the policy service: the guards of every lifecycle command, the search for
policies that claim the same decision, and the requests as a read followed by a write.
-/

namespace CaseResolution

open Guard

/--
The policies of one organization with its members.
-/
structure PolicyBook where
  members : List Membership
  policies : List Policy
deriving DecidableEq

section Conflicts

def datetimeMin : Instant := -62135596800000000

def datetimeMax : Instant := 253402300799999999

def dimensionsOverlap (left right : List String) : Bool :=
  "all" ∈ left ∨ "all" ∈ right ∨ ∃ value ∈ left, value ∈ right

def PolicyApplicability.overlaps (left right : PolicyApplicability) : Bool :=
  dimensionsOverlap left.caseCategories right.caseCategories
    && dimensionsOverlap left.products right.products
    && dimensionsOverlap left.regions right.regions
    && dimensionsOverlap left.channels right.channels
    && dimensionsOverlap left.customerTiers right.customerTiers

def laterOf (a b : Instant) : Instant :=
  if a < b then b else a

def earlierOf (a b : Instant) : Instant :=
  if b < a then b else a

def timeWindowsOverlap (leftFrom leftTo rightFrom rightTo : Option Instant) : Bool :=
  laterOf (leftFrom.getD datetimeMin) (rightFrom.getD datetimeMin)
    < earlierOf (leftTo.getD datetimeMax) (rightTo.getD datetimeMax)

structure PolicyCandidate where
  policyPublicId : String
  version : PolicyVersion

def Policy.candidates (p : Policy) : List PolicyCandidate :=
  (p.versions.filter fun v => v.isLive).map fun version =>
    { policyPublicId := p.publicId, version }

def PolicyBook.listCandidates (b : PolicyBook) : List PolicyCandidate :=
  b.policies.flatMap fun p => p.candidates

def PolicyCandidate.conflicts (candidate : PolicyCandidate) (version : PolicyVersion)
    (policyId : String) (effectiveFrom : Instant) : Bool :=
  candidate.policyPublicId ≠ policyId
    ∧ candidate.version.applicability.decisionScope = version.applicability.decisionScope
    ∧ version.applicability.overlaps candidate.version.applicability
    ∧ timeWindowsOverlap (some effectiveFrom) version.effectiveTo candidate.version.effectiveFrom
        candidate.version.effectiveTo

/--
The policies that claim what the version would decide. Only whether there are any matters to the
service, so they stay in the order they are found.
-/
def findConflicts (version : PolicyVersion) (policyId : String) (effectiveFrom : Instant)
    (candidates : List PolicyCandidate) : List String :=
  (candidates.filter fun candidate => candidate.conflicts version policyId effectiveFrom).map
    fun candidate => candidate.policyPublicId

end Conflicts

namespace PolicyBook

def findPolicy (b : PolicyBook) (policyId : String) : Option (Nat × Policy) :=
  (b.policies.zipIdx.map Prod.swap).find? fun (_, p) => p.publicId = policyId

def getPolicy (b : PolicyBook) (actor : ActorContext) (policyId : String)
    : Except Error (Nat × Policy) := do
  requirePermission actor .policyRead
  orThrow (b.findPolicy policyId) (.policyNotFound "The policy was not found.")

/--
The member a new policy belongs to.
-/
def requiredMember (b : PolicyBook) (actorId : String) : Except Error Nat :=
  orThrow
    (b.members.findIdx? fun member =>
      member.status = .active ∧ (member.publicId = actorId ∨ member.subjectId = actorId))
    (.policyActorNotAssignable "The actor is not an active organization member.")

def setPolicy (b : PolicyBook) (index : Nat) (p : Policy) : PolicyBook :=
  { b with policies := b.policies.set index p }

end PolicyBook

def Policy.requiredCurrentVersion (p : Policy) (versionNumber : Nat)
    : Except Error PolicyVersion := do
  ensure (p.currentVersion = versionNumber)
    (.invalidPolicyTransition "Only the current policy version can use this command.")
  p.requiredVersion versionNumber

/--
The write a request ends with, with the versions it expects to find.
-/
inductive PolicyWrite where
  | createDraft (actorId : String) (expectedPolicyVersion : Nat) (content : PolicyDraftContent)
      (clauses : List ParsedPolicyClause)
  | retrySource (actorId : String) (expectedPolicyVersion : Nat) (content : PolicyDraftContent)
      (clauses : List ParsedPolicyClause)
  | submitReview (versionNumber expectedPolicyVersion expectedVersion : Nat)
  | markConflicting (versionNumber expectedPolicyVersion expectedVersion : Nat)
  | activate (versionNumber expectedPolicyVersion expectedVersion : Nat)
      (target : PolicyVersionStatus) (effectiveFrom : Instant)
  | retire (versionNumber expectedPolicyVersion expectedVersion : Nat)

def Policy.write [Digest] (p : Policy) (now : Instant) : PolicyWrite → Except Error Policy
  | .createDraft actorId expectedPolicyVersion content clauses =>
    p.createDraft actorId expectedPolicyVersion content clauses
  | .retrySource actorId expectedPolicyVersion content clauses =>
    p.retrySource actorId expectedPolicyVersion content clauses
  | .submitReview versionNumber expectedPolicyVersion expectedVersion =>
    p.submitReview now versionNumber expectedPolicyVersion expectedVersion
  | .markConflicting versionNumber expectedPolicyVersion expectedVersion =>
    p.markConflicting versionNumber expectedPolicyVersion expectedVersion
  | .activate versionNumber expectedPolicyVersion expectedVersion target effectiveFrom =>
    p.activateVersion now versionNumber expectedPolicyVersion expectedVersion target effectiveFrom
  | .retire versionNumber expectedPolicyVersion expectedVersion =>
    p.retireVersion now versionNumber expectedPolicyVersion expectedVersion

structure PolicyPlan where
  policyId : String
  write : PolicyWrite

namespace PolicyBook

def planDraft (b : PolicyBook) (actor : ActorContext) (policyId : String)
    (expectedPolicyVersion : Nat) (content : PolicyDraftContent) : Except Error PolicyPlan := do
  requirePermission actor .policyManage
  let clauses ← parsePolicySource content.sourceText content.applicability
  let (_, p) ← b.getPolicy actor policyId
  ensure (p.status ∉ [.draft, .inReview, .parsingFailed]) <| .invalidPolicyTransition
    "Finish or recover the current policy version before creating another draft."
  pure { policyId, write := .createDraft actor.actorId expectedPolicyVersion content clauses }

def planRetrySource (b : PolicyBook) (actor : ActorContext) (policyId : String)
    (expectedPolicyVersion : Nat) (content : PolicyDraftContent) : Except Error PolicyPlan := do
  requirePermission actor .policyManage
  let clauses ← parsePolicySource content.sourceText content.applicability
  let (_, p) ← b.getPolicy actor policyId
  ensure (p.status = .parsingFailed ∧ p.currentVersion = 0)
    (.invalidPolicyTransition "Only a failed source can be retried.")
  pure { policyId, write := .retrySource actor.actorId expectedPolicyVersion content clauses }

def planSubmitReview (b : PolicyBook) (actor : ActorContext) (policyId : String)
    (versionNumber expectedPolicyVersion expectedVersion : Nat) : Except Error PolicyPlan := do
  requirePermission actor .policyManage
  let (_, p) ← b.getPolicy actor policyId
  let version ← p.requiredCurrentVersion versionNumber
  ensure (version.status = .draft)
    (.invalidPolicyTransition "Only a draft policy version can enter review.")
  pure { policyId, write := .submitReview versionNumber expectedPolicyVersion expectedVersion }

def planActivation (b : PolicyBook) (now : Instant) (actor : ActorContext) (policyId : String)
    (versionNumber expectedPolicyVersion expectedVersion : Nat)
    (requestedEffectiveFrom : Option Instant) (target : PolicyVersionStatus)
    : Except Error PolicyPlan := do
  requirePermission actor .policyManage
  let (_, p) ← b.getPolicy actor policyId
  let version ← p.requiredCurrentVersion versionNumber
  ensure (version.status = .inReview)
    (.invalidPolicyTransition "Only an in-review policy version can be activated.")
  let effectiveFrom := (requestedEffectiveFrom.or version.effectiveFrom).getD now
  ensure (target = .published → effectiveFrom ≤ now)
    (.invalidPolicyTransition "Use schedule for a future effective date.")
  ensure (target = .scheduled → now < effectiveFrom)
    (.invalidPolicyTransition "A scheduled policy needs a future effective date.")
  ensure (∀ stop ∈ version.effectiveTo, effectiveFrom < stop)
    (.invalidPolicyTransition "The effective date is outside the policy window.")
  if findConflicts version p.publicId effectiveFrom b.listCandidates ≠ [] then
    pure { policyId, write := .markConflicting versionNumber expectedPolicyVersion expectedVersion }
  else
    pure { policyId, write :=
      .activate versionNumber expectedPolicyVersion expectedVersion target effectiveFrom }

def planRetire (b : PolicyBook) (actor : ActorContext) (policyId : String)
    (versionNumber expectedPolicyVersion expectedVersion : Nat) : Except Error PolicyPlan := do
  requirePermission actor .policyManage
  let (_, p) ← b.getPolicy actor policyId
  let version ← p.requiredCurrentVersion versionNumber
  ensure (version.status = .published ∨ version.status = .scheduled)
    (.invalidPolicyTransition "Only a published or scheduled policy can be retired.")
  pure { policyId, write := .retire versionNumber expectedPolicyVersion expectedVersion }

end PolicyBook

inductive PolicyRequest where
  | createDraft (expectedPolicyVersion : Nat) (content : PolicyDraftContent)
  | retrySource (expectedPolicyVersion : Nat) (content : PolicyDraftContent)
  | submitReview (versionNumber expectedPolicyVersion expectedVersion : Nat)
  | publish (versionNumber expectedPolicyVersion expectedVersion : Nat)
      (effectiveFrom : Option Instant)
  | schedule (versionNumber expectedPolicyVersion expectedVersion : Nat) (effectiveFrom : Instant)
  | retire (versionNumber expectedPolicyVersion expectedVersion : Nat)

namespace PolicyBook

/--
What a request reads and decides before its write.
-/
def plan (b : PolicyBook) (now : Instant) (actor : ActorContext) (policyId : String)
    : PolicyRequest → Except Error PolicyPlan
  | .createDraft expectedPolicyVersion content =>
    b.planDraft actor policyId expectedPolicyVersion content
  | .retrySource expectedPolicyVersion content =>
    b.planRetrySource actor policyId expectedPolicyVersion content
  | .submitReview versionNumber expectedPolicyVersion expectedVersion =>
    b.planSubmitReview actor policyId versionNumber expectedPolicyVersion expectedVersion
  | .publish versionNumber expectedPolicyVersion expectedVersion effectiveFrom =>
    b.planActivation now actor policyId versionNumber expectedPolicyVersion expectedVersion
      effectiveFrom .published
  | .schedule versionNumber expectedPolicyVersion expectedVersion effectiveFrom =>
    b.planActivation now actor policyId versionNumber expectedPolicyVersion expectedVersion
      (some effectiveFrom) .scheduled
  | .retire versionNumber expectedPolicyVersion expectedVersion =>
    b.planRetire actor policyId versionNumber expectedPolicyVersion expectedVersion

variable [Digest]

/--
Write a plan to the policy as it is by then.
-/
def write (b : PolicyBook) (now : Instant) (plan : PolicyPlan) : Except Error (PolicyBook × Policy) := do
  let (index, p) ← orThrow (b.findPolicy plan.policyId) (.policyNotFound "The policy was not found.")
  let written ← p.write now plan.write
  pure (b.setPolicy index written, written)

end PolicyBook

/--
What a policy is created from. Nothing is known yet of whether the source can be parsed.
-/
structure PolicyCreation where
  publicId : String
  sourceText : Option String
  applicability : Option PolicyApplicability
  effectiveFrom : Option Instant
  effectiveTo : Option Instant

/--
The source of a new policy, or why it can not be used.
-/
def prepareSource (creation : PolicyCreation)
    : Except String (PolicyDraftContent × List ParsedPolicyClause) := do
  let sourceText ← orThrow creation.sourceText "Source text is not available."
  let applicability ← orThrow creation.applicability "Policy applicability is not available."
  if source_length : 20 ≤ sourceText.length ∧ sourceText.length ≤ 200000 then
    if effective_order : ∀ start ∈ creation.effectiveFrom, ∀ stop ∈ creation.effectiveTo,
        start < stop then
      let clauses ← (PolicyParser.parse sourceText applicability).mapError PolicyParser.Failure.message
      let content : PolicyDraftContent := {
        sourceText, applicability
        effectiveFrom := creation.effectiveFrom
        effectiveTo := creation.effectiveTo
        source_length, effective_order }
      pure (content, clauses)
    else
      throw "effective_to must be after effective_from"
  else
    throw "source_text is out of bounds"

def isPolicyPublicId (publicId : String) : Bool :=
  publicId.length ≤ 64 ∧ "POL-".toList <+: publicId.toList ∧ 4 < publicId.length
    ∧ (publicId.toList.drop 4).all fun c => c.isUpper ∨ c.isDigit ∨ c = '-'

section

variable [Digest]

def newPolicy (publicId : String) (ownerId : Nat) (actorId : String)
    (source : Except String (PolicyDraftContent × List ParsedPolicyClause)) : Policy :=
  match source with
  | .ok (content, clauses) =>
    { publicId, ownerId
      status := .draft
      sourceError := none
      currentVersion := 1
      version := 1
      versions := [newVersion 1 actorId content clauses] }
  | .error message =>
    { publicId, ownerId
      status := .parsingFailed
      sourceError := some message
      currentVersion := 0
      version := 1
      versions := [] }

def PolicyBook.createPolicy (b : PolicyBook) (actor : ActorContext) (creation : PolicyCreation)
    : Except Error (PolicyBook × Policy) := do
  requirePermission actor .policyManage
  ensure (isPolicyPublicId creation.publicId)
    (.valueError "public_id does not have the form of a policy id")
  let ownerId ← b.requiredMember actor.actorId
  ensure (b.findPolicy creation.publicId = none)
    (.policyAlreadyExists ("Policy " ++ creation.publicId ++ " already exists."))
  let policy := newPolicy creation.publicId ownerId actor.actorId (prepareSource creation)
  pure ({ b with policies := b.policies ++ [policy] }, policy)

end

end CaseResolution
