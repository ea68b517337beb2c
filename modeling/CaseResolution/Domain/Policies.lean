import CaseResolution.Domain.Cases
import CaseResolution.Domain.DecisionBriefs

/-!
This module contains governed policies: the texts that are offered for them, the versions they go
through and the case contexts a version applies to.
-/

namespace CaseResolution

inductive PolicyLifecycleStatus where
  | draft
  | inReview
  | published
  | scheduled
  | retired
  | expired
  | conflicting
  | parsingFailed
deriving DecidableEq

inductive RequestChannel where
  | email
  | chat
  | phone
  | webhook
deriving DecidableEq

def RequestChannel.value : RequestChannel → String
  | .email => "email"
  | .chat => "chat"
  | .phone => "phone"
  | .webhook => "webhook"

inductive CustomerTier where
  | standard
  | vip
  | enterprise
deriving DecidableEq

def CustomerTier.value : CustomerTier → String
  | .standard => "standard"
  | .vip => "vip"
  | .enterprise => "enterprise"

/--
The cases a policy decides, as its validators leave it.
-/
structure PolicyApplicability where
  decisionScope : String
  caseCategories : List String
  products : List String
  regions : List String
  channels : List String
  customerTiers : List String
  scope_length : 0 < decisionScope.length ∧ decisionScope.length ≤ 100
  categories_ne_nil : caseCategories ≠ []
  categories_known : ∀ value ∈ caseCategories,
    value = "all" ∨ ∃ category : CaseCategory, category.value = value
  products_ne_nil : products ≠ []
  products_ne_blank : "" ∉ products
  regions_ne_nil : regions ≠ []
  regions_ne_blank : "" ∉ regions
  channels_ne_nil : channels ≠ []
  channels_ne_blank : "" ∉ channels
  tiers_ne_nil : customerTiers ≠ []
  tiers_ne_blank : "" ∉ customerTiers
deriving DecidableEq

/--
The text of a policy version with the window it is meant for.
-/
structure PolicyDraftContent where
  sourceText : String
  applicability : PolicyApplicability
  effectiveFrom : Option Instant
  effectiveTo : Option Instant
  source_length : 20 ≤ sourceText.length ∧ sourceText.length ≤ 200000
  effective_order : ∀ start ∈ effectiveFrom, ∀ stop ∈ effectiveTo, start < stop

structure ParsedPolicyClause where
  heading : String
  text : String
  appliesWhen : String
deriving DecidableEq

/--
A row of `governed_policy_clauses`.
-/
structure PolicyClause extends GovernedPolicyClause, ParsedPolicyClause where
  sequence : Nat
deriving DecidableEq

/--
A row of `governed_policy_versions` with the columns its authors write.
-/
structure PolicyVersion extends GovernedPolicyVersion where
  version : Nat
  sourceText : String
  applicability : PolicyApplicability
  clauses : List PolicyClause
  createdBy : String
  submittedAt : Option Instant
  publishedAt : Option Instant
  retiredAt : Option Instant
deriving DecidableEq

/--
A row of `policies` with its versions in the order they were added.
-/
structure Policy where
  publicId : String
  status : PolicyLifecycleStatus
  ownerId : Nat
  sourceError : Option String
  currentVersion : Nat
  version : Nat
  versions : List PolicyVersion
deriving DecidableEq

/--
What retrieval reads off a case.
-/
structure CaseRetrievalContext where
  category : CaseCategory
  products : List String
  region : String
  channel : RequestChannel
  tier : CustomerTier
  products_ne_nil : products ≠ []
deriving DecidableEq

namespace PolicyVersion

/--
A version retrieval may still cite, now or later.
-/
def isLive (v : PolicyVersion) : Bool :=
  (v.status = .published ∨ v.status = .scheduled) ∧ v.immutable

/--
The window of a version ends after it begins, as `ck_governed_policy_versions_effective_order`
demands.
-/
def EffectiveOrder (v : PolicyVersion) : Prop :=
  ∀ start ∈ v.effectiveFrom, ∀ stop ∈ v.effectiveTo, start < stop

instance (v : PolicyVersion) : Decidable v.EffectiveOrder :=
  inferInstanceAs (Decidable (∀ start ∈ v.effectiveFrom, ∀ stop ∈ v.effectiveTo, start < stop))

/--
The instant lies in the effective window of the version.
-/
def covers (v : PolicyVersion) (t : Instant) : Bool :=
  v.effectiveFrom.all (fun start => start ≤ t) && v.effectiveTo.all fun stop => t < stop

end PolicyVersion

end CaseResolution
