import CaseResolution.Policies.Lemmas.Effects

/-!
This module contains what holds of the policies a run of the policy service creates.
-/

namespace CaseResolution

namespace PolicyBook

/--
Every policy that is not among the first `n` of the book satisfies `P`.
-/
def Created (n : Nat) (P : Policy → Prop) (b : PolicyBook) : Prop :=
  ∀ i p, n ≤ i → b.policies[i]? = some p → P p

theorem initial_created (P : Policy → Prop) (b : PolicyBook) : b.Created b.policies.length P := by
  intro i p hi hp
  rw [List.getElem?_eq_none hi] at hp
  cases hp

section

variable [Digest] {b : PolicyBook} {n : Nat}

theorem next_length_le (command : PolicyCommand)
    : b.policies.length ≤ (policyService.next b command).policies.length := by
  cases next_cases b command with
  | inl hsame => rw [hsame]
  | inr h =>
    cases h with
    | inl hcreated =>
      obtain ⟨_, _, _, _, heq⟩ := hcreated
      rw [heq, List.length_append]
      omega
    | inr hwritten =>
      obtain ⟨_, index, _, _, q, _, _, _, heq⟩ := hwritten
      rw [heq]
      unfold setPolicy
      rw [List.length_set]

/--
What new policies satisfy and every effect of a request preserves holds of the created policies.
-/
theorem next_created {P : Policy → Prop}
    (hnew : ∀ publicId ownerId actorId source, P (newPolicy publicId ownerId actorId source))
    (heffect : ∀ now p q write, p.Sound → P p → p.Effect now q write → P q)
    (hsound : b.Created n Policy.Sound) (hP : b.Created n P) (command : PolicyCommand)
    : (policyService.next b command).Created n P := by
  cases next_cases b command with
  | inl hsame => rwa [hsame]
  | inr h =>
    cases h with
    | inl hcreated =>
      obtain ⟨_, _, _, _, heq⟩ := hcreated
      rw [heq]
      intro i p hi hp
      cases Rows.getElem?_concat_cases hp with
      | inl hold => exact hP i p hi hold
      | inr hnew' =>
        rw [hnew'.2]
        apply hnew
    | inr hwritten =>
      obtain ⟨now, index, p, write, q, hp, hadmitted, hwrite, heq⟩ := hwritten
      rw [heq]
      intro i r hi hr
      cases Rows.getElem?_set_cases hr with
      | inl hset =>
        obtain ⟨hindex, hrq, _⟩ := hset
        subst hindex hrq
        have hps := hsound index p hi hp
        exact heffect now p r write hps (hP index p hi hp) (Policy.effect_of_write hps hadmitted hwrite)
      | inr hother => exact hP i r hi hother.2

theorem next_sound (hsound : b.Created n Policy.Sound) (command : PolicyCommand)
    : (policyService.next b command).Created n Policy.Sound := by
  apply next_created Policy.newPolicy_sound _ hsound hsound
  intro now p q write hp _ heffect
  exact heffect.sound hp

/--
Every policy that was created in a run is sound.
-/
theorem run_sound (b : PolicyBook) (commands : List PolicyCommand)
    : (policyService.run b commands).Created b.policies.length Policy.Sound := by
  apply Machine.run_invariant (P := Created b.policies.length Policy.Sound)
    (initial_created Policy.Sound b)
  intro c command hc
  exact next_sound hc command

end

end PolicyBook

/-!
A policy for refunds that is published, and whose replacement is scheduled.
-/

namespace Sample

attribute [local instance] Digest.checksum

def owner : Membership :=
  { publicId := "MB-9", subjectId := "owner", role := .administrator, status := .active }

def administrator : ActorContext where
  actorId := "MB-9"
  role := some .administrator
  permissions := fun _ => true

def newBook : PolicyBook :=
  { members := [owner], policies := [] }

def refunds : PolicyApplicability where
  decisionScope := "refunds"
  caseCategories := ["refund_request"]
  products := ["all"]
  regions := ["all"]
  channels := ["all"]
  customerTiers := ["all"]
  scope_length := by decide +kernel
  categories_ne_nil := by decide
  categories_known := by
    intro value hvalue
    rw [List.mem_singleton] at hvalue
    exact .inr ⟨.refundRequest, hvalue.symm⟩
  products_ne_nil := by decide
  products_ne_blank := by decide
  regions_ne_nil := by decide
  regions_ne_blank := by decide
  channels_ne_nil := by decide
  channels_ne_blank := by decide
  tiers_ne_nil := by decide
  tiers_ne_blank := by decide

def refundTerms : PolicyDraftContent where
  sourceText := "A refund is paid within thirty days of the request."
  applicability := refunds
  effectiveFrom := none
  effectiveTo := none
  source_length := by decide +kernel
  effective_order := by simp

def refundContext : CaseRetrievalContext where
  category := .refundRequest
  products := ["unknown"]
  region := "us"
  channel := .email
  tier := .standard
  products_ne_nil := by decide

def refundPolicy (publicId : String) : PolicyCommand :=
  .createPolicy administrator {
    publicId
    sourceText := some refundTerms.sourceText
    applicability := some refunds
    effectiveFrom := none
    effectiveTo := none }

def request (now : Instant) (policyId : String) (request : PolicyRequest) : PolicyCommand :=
  .request now administrator policyId request

/--
The policy in force since instant 10.
-/
def published : List PolicyCommand :=
  [refundPolicy "POL-1", request 1 "POL-1" (.submitReview 1 1 1),
    request 10 "POL-1" (.publish 1 2 2 none)]

/--
Its replacement, meant for instant 100.
-/
def replacement : List PolicyCommand :=
  [request 11 "POL-1" (.createDraft 3 refundTerms), request 12 "POL-1" (.submitReview 2 4 1),
    request 20 "POL-1" (.schedule 2 5 2 100)]

/--
The replacement is cancelled.
-/
def cancellation : List PolicyCommand :=
  [request 30 "POL-1" (.retire 2 6 3)]

end Sample

end CaseResolution
