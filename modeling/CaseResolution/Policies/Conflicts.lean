import CaseResolution.Policies.Lemmas.Reachable
import CaseResolution.Policies.Lemmas.Retrieval

/-!
This module contains that the conflicts a publication looks for are the pairs of versions that one
search could find together.
-/

namespace CaseResolution

section Dates

variable {a b c d : Instant}

theorem laterOf_lt_iff : laterOf a b < c ↔ a < c ∧ b < c := by
  unfold laterOf
  split <;> grind

theorem lt_earlierOf_iff : a < earlierOf b c ↔ a < b ∧ a < c := by
  unfold earlierOf
  split <;> grind

theorem laterOf_le_iff : laterOf a b ≤ c ↔ a ≤ c ∧ b ≤ c := by
  unfold laterOf
  split <;> grind

theorem le_laterOf (h : c ≤ a) : c ≤ laterOf a b := by
  unfold laterOf
  split <;> grind

theorem earlierOf_le (h : a ≤ c) : earlierOf a b ≤ c := by
  unfold earlierOf
  split <;> grind

/--
A date that is missing stands for the first instant, and every date there is comes before the last one.
-/
def StartsInTime (start : Option Instant) : Prop :=
  ∀ t ∈ start, datetimeMin ≤ t ∧ t < datetimeMax

instance (start : Option Instant) : Decidable (StartsInTime start) :=
  inferInstanceAs (Decidable (∀ t ∈ start, datetimeMin ≤ t ∧ t < datetimeMax))

theorem StartsInTime.bounds {start : Option Instant} (h : StartsInTime start)
    : datetimeMin ≤ start.getD datetimeMin ∧ start.getD datetimeMin < datetimeMax := by
  cases start with
  | none => decide
  | some t => exact h t rfl

/--
Comparing the ends of two windows, with the first and the last instant for missing dates, decides
whether they share an instant.
-/
theorem timeWindowsOverlap_iff {v w : Window Instant} (hv : StartsInTime v.start)
    (hw : StartsInTime w.start)
    : timeWindowsOverlap v.start v.stop w.start w.stop = true
        ↔ ∃ t, (datetimeMin ≤ t ∧ t ≤ datetimeMax) ∧ v.Contains t ∧ w.Contains t := by
  unfold timeWindowsOverlap
  rw [decide_eq_true_eq]
  constructor
  . -- the later beginning is the instant to look at
    intro hlt
    refine ⟨laterOf (v.start.getD datetimeMin) (w.start.getD datetimeMin), ⟨?_, ?_⟩, ⟨?_, ?_⟩, ?_, ?_⟩
    . exact le_laterOf hv.bounds.1
    . rw [laterOf_le_iff]
      exact ⟨Int.le_of_lt hv.bounds.2, Int.le_of_lt hw.bounds.2⟩
    . intro a ha
      rw [Option.mem_def.mp ha]
      exact le_laterOf (Int.le_refl a)
    . intro b hb
      rw [Option.mem_def.mp hb] at hlt
      exact (lt_earlierOf_iff.mp hlt).1
    . intro a ha
      rw [Option.mem_def.mp ha]
      exact (laterOf_le_iff.mp (Int.le_refl _)).2
    . intro b hb
      rw [Option.mem_def.mp hb] at hlt
      exact (lt_earlierOf_iff.mp hlt).2
  . intro ⟨t, ⟨hmin, _⟩, hvt, hwt⟩
    -- a beginning comes before every stop after `t` and before the last instant
    have hbefore : ∀ start stop : Option Instant, StartsInTime start → (∀ a ∈ start, a ≤ t) →
        (∀ b ∈ stop, t < b) → start.getD datetimeMin < stop.getD datetimeMax := by
      intro start stop hstart hle hstop
      have hget : start.getD datetimeMin ≤ t := by
        cases start with
        | none => exact hmin
        | some a => exact hle a rfl
      cases stop with
      | none => exact hstart.bounds.2
      | some b => exact Int.lt_of_le_of_lt hget (hstop b rfl)
    rw [laterOf_lt_iff, lt_earlierOf_iff, lt_earlierOf_iff]
    exact ⟨⟨hbefore _ _ hv hvt.1 hvt.2, hbefore _ _ hv hvt.1 hwt.2⟩, hbefore _ _ hw hwt.1 hvt.2,
      hbefore _ _ hw hwt.1 hwt.2⟩

end Dates

/--
The two applicabilities match one set of texts with a single product.
-/
theorem PolicyApplicability.overlaps_iff {left right : PolicyApplicability}
    : left.overlaps right = true
        ↔ (∃ category, dimensionMatch left.caseCategories [category] = true
            ∧ dimensionMatch right.caseCategories [category] = true)
          ∧ (∃ product, dimensionMatch left.products [product] = true
            ∧ dimensionMatch right.products [product] = true)
          ∧ (∃ region, dimensionMatch left.regions [region] = true
            ∧ dimensionMatch right.regions [region] = true)
          ∧ (∃ channel, dimensionMatch left.channels [channel] = true
            ∧ dimensionMatch right.channels [channel] = true)
          ∧ ∃ tier, dimensionMatch left.customerTiers [tier] = true
            ∧ dimensionMatch right.customerTiers [tier] = true := by
  unfold overlaps
  rw [exists_match_iff left.categories_ne_nil right.categories_ne_nil,
    exists_match_iff left.products_ne_nil right.products_ne_nil,
    exists_match_iff left.regions_ne_nil right.regions_ne_nil,
    exists_match_iff left.channels_ne_nil right.channels_ne_nil,
    exists_match_iff left.tiers_ne_nil right.tiers_ne_nil]
  simp only [Bool.and_eq_true, and_assoc]

namespace PolicyVersion

variable {v w : PolicyVersion} {now effectiveFrom : Instant} {target : PolicyVersionStatus}

theorem isActive_iff {search : PolicySearch}
    : v.isActive search = true
        ↔ v.isLive = true
          ∧ dimensionMatch v.applicability.caseCategories [search.caseCategory] = true
          ∧ dimensionMatch v.applicability.products search.products = true
          ∧ dimensionMatch v.applicability.regions [search.region] = true
          ∧ dimensionMatch v.applicability.channels [search.channel] = true
          ∧ dimensionMatch v.applicability.customerTiers [search.customerTier] = true
          ∧ v.window.Contains search.asOf := by
  unfold isActive
  simp only [Bool.and_eq_true, and_assoc, covers_iff]

/--
A search for one product finds both versions exactly when they are live and overlap in every dimension
and in time.
-/
theorem exists_active_iff (hv : v.isLive = true) (hw : w.isLive = true)
    (hvs : StartsInTime v.effectiveFrom) (hws : StartsInTime w.effectiveFrom)
    : (∃ search product, search.products = [product]
        ∧ (datetimeMin ≤ search.asOf ∧ search.asOf ≤ datetimeMax)
        ∧ v.isActive search = true ∧ w.isActive search = true)
        ↔ v.applicability.overlaps w.applicability = true
          ∧ timeWindowsOverlap v.effectiveFrom v.effectiveTo w.effectiveFrom w.effectiveTo = true := by
  have htime := timeWindowsOverlap_iff (v := v.window) (w := w.window) hvs hws
  dsimp only [window] at htime
  rw [PolicyApplicability.overlaps_iff, htime]
  simp only [isActive_iff, hv, hw, true_and]
  constructor
  . intro ⟨search, product, hproducts, hasOf, hsv, hsw⟩
    rw [hproducts] at hsv hsw
    obtain ⟨hcategory, hproduct, hregion, hchannel, htier, htv⟩ := hsv
    obtain ⟨hcategory', hproduct', hregion', hchannel', htier', htw⟩ := hsw
    exact ⟨⟨⟨_, hcategory, hcategory'⟩, ⟨_, hproduct, hproduct'⟩, ⟨_, hregion, hregion'⟩,
      ⟨_, hchannel, hchannel'⟩, _, htier, htier'⟩, search.asOf, hasOf, htv, htw⟩
  . intro ⟨⟨⟨category, hcategory, hcategory'⟩, ⟨product, hproduct, hproduct'⟩,
      ⟨region, hregion, hregion'⟩, ⟨channel, hchannel, hchannel'⟩, tier, htier, htier'⟩, t, ht, htv, htw⟩
    let search : PolicySearch :=
      { caseCategory := category, products := [product], region, channel, customerTier := tier, asOf := t }
    exact ⟨search, product, rfl, ht, ⟨hcategory, hproduct, hregion, hchannel, htier, htv⟩, hcategory',
      hproduct', hregion', hchannel', htier', htw⟩

theorem activated_isLive (htarget : target = .published ∨ target = .scheduled)
    : (v.activated target effectiveFrom now).isLive = true := by
  cases htarget with
  | inl h => simp [activated, activate, isLive, h]
  | inr h => simp [activated, activate, isLive, h]

end PolicyVersion

/--
A live version of another policy with the same scope is reported as a conflict exactly when one search
for one product finds it together with the version as it would be activated.
-/
theorem conflict_iff_found (version : PolicyVersion) (policyId : String) (candidate : PolicyCandidate)
    (target : PolicyVersionStatus) (effectiveFrom now : Instant)
    (htarget : target = .published ∨ target = .scheduled) (hlive : candidate.version.isLive = true)
    (hother : candidate.policyPublicId ≠ policyId)
    (hscope : candidate.version.applicability.decisionScope = version.applicability.decisionScope)
    (hfrom : StartsInTime (some effectiveFrom)) (hstart : StartsInTime candidate.version.effectiveFrom)
    : candidate.policyPublicId ∈ findConflicts version policyId effectiveFrom [candidate]
        ↔ ∃ search product, search.products = [product]
          ∧ (datetimeMin ≤ search.asOf ∧ search.asOf ≤ datetimeMax)
          ∧ (version.activated target effectiveFrom now).isActive search = true
          ∧ candidate.version.isActive search = true := by
  rw [PolicyVersion.exists_active_iff (PolicyVersion.activated_isLive htarget) hlive hfrom hstart]
  have hconflicts : candidate.policyPublicId ∈ findConflicts version policyId effectiveFrom [candidate]
      ↔ candidate.conflicts version policyId effectiveFrom = true := by
    simp [findConflicts]
  rw [hconflicts]
  unfold PolicyCandidate.conflicts
  simp only [decide_eq_true_eq, hother, hscope, ne_eq, not_false_eq_true, true_and]
  rfl

namespace Sample

attribute [local instance] Digest.checksum

def refundVersion : PolicyVersion :=
  newVersion 1 "MB-9" refundTerms []

/--
The refund policy in force since instant 10.
-/
def refundCandidate : PolicyCandidate where
  policyPublicId := "POL-1"
  version := refundVersion.activated .published 10 10

/--
A second refund policy that is to be published from instant 20 on is reported.
-/
theorem conflict_iff_found_refunds
    : "POL-1" ∈ findConflicts refundVersion "POL-2" 20 [refundCandidate]
        ↔ ∃ search product, search.products = [product]
          ∧ (datetimeMin ≤ search.asOf ∧ search.asOf ≤ datetimeMax)
          ∧ (refundVersion.activated .published 20 30).isActive search = true
          ∧ refundCandidate.version.isActive search = true :=
  conflict_iff_found refundVersion "POL-2" refundCandidate .published 20 30 (.inl rfl)
    (by decide +kernel) (by decide) rfl (by decide) (by decide +kernel)

example : "POL-1" ∈ findConflicts refundVersion "POL-2" 20 [refundCandidate] := by
  decide +kernel

end Sample

end CaseResolution
