import CaseResolution.Lib.Windows
import CaseResolution.Policies.Impl.Retrieval
import CaseResolution.Policies.Impl.Service
import Mathlib.Data.Int.SuccPred

/-!
This module contains when two versions of policies pass the retrieval filters for one case at one
instant.
-/

namespace CaseResolution

theorem dimensionMatch_iff {column values : List String}
    : dimensionMatch column values = true ↔ "all" ∈ column ∨ ∃ value ∈ values, value ∈ column := by
  simp [dimensionMatch]

theorem dimensionsOverlap_iff {left right : List String}
    : dimensionsOverlap left right = true
        ↔ "all" ∈ left ∨ "all" ∈ right ∨ ∃ value ∈ left, value ∈ right := by
  simp [dimensionsOverlap]

/--
Two dimensions overlap exactly when one value matches both.
-/
theorem exists_match_iff {left right : List String} (hleft : left ≠ []) (hright : right ≠ [])
    : (∃ value, dimensionMatch left [value] = true ∧ dimensionMatch right [value] = true)
        ↔ dimensionsOverlap left right = true := by
  simp only [dimensionMatch_iff, dimensionsOverlap_iff, List.mem_singleton, exists_eq_left]
  constructor
  . intro ⟨value, hl, hr⟩
    cases hl with
    | inl hall => exact .inl hall
    | inr hl =>
      cases hr with
      | inl hall => exact .inr (.inl hall)
      | inr hr => exact .inr (.inr ⟨value, hl, hr⟩)
  . intro h
    cases h with
    | inl hall =>
      obtain ⟨value, hvalue⟩ := List.exists_mem_of_ne_nil right hright
      exact ⟨value, .inl hall, .inr hvalue⟩
    | inr h =>
      cases h with
      | inl hall =>
        obtain ⟨value, hvalue⟩ := List.exists_mem_of_ne_nil left hleft
        exact ⟨value, .inr hvalue, .inl hall⟩
      | inr h =>
        obtain ⟨value, hl, hr⟩ := h
        exact ⟨value, .inr hl, .inr hr⟩

namespace PolicyApplicability

/--
There are a category, a region, a channel and a customer tier to which both apply.
-/
structure Shares (left right : PolicyApplicability) : Prop where
  category : ∃ category : CaseCategory, dimensionMatch left.caseCategories [category.value] = true
    ∧ dimensionMatch right.caseCategories [category.value] = true
  region : dimensionsOverlap left.regions right.regions = true
  channel : ∃ channel : RequestChannel, dimensionMatch left.channels [channel.value] = true
    ∧ dimensionMatch right.channels [channel.value] = true
  tier : ∃ tier : CustomerTier, dimensionMatch left.customerTiers [tier.value] = true
    ∧ dimensionMatch right.customerTiers [tier.value] = true

variable {left right : PolicyApplicability}

theorem Shares.symm (h : left.Shares right) : right.Shares left where
  category := by
    obtain ⟨category, hleft, hright⟩ := h.category
    exact ⟨category, hright, hleft⟩
  region := by
    rw [← exists_match_iff right.regions_ne_nil left.regions_ne_nil]
    obtain ⟨value, hleft, hright⟩ :=
      (exists_match_iff left.regions_ne_nil right.regions_ne_nil).mpr h.region
    exact ⟨value, hright, hleft⟩
  channel := by
    obtain ⟨channel, hleft, hright⟩ := h.channel
    exact ⟨channel, hright, hleft⟩
  tier := by
    obtain ⟨tier, hleft, hright⟩ := h.tier
    exact ⟨tier, hright, hleft⟩

theorem applies_iff {applicability : PolicyApplicability} {context : CaseRetrievalContext}
    : applicability.applies context = true
        ↔ dimensionMatch applicability.caseCategories [context.category.value] = true
          ∧ dimensionMatch applicability.products context.products = true
          ∧ dimensionMatch applicability.regions [context.region] = true
          ∧ dimensionMatch applicability.channels [context.channel.value] = true
          ∧ dimensionMatch applicability.customerTiers [context.tier.value] = true := by
  unfold applies
  simp only [Bool.and_eq_true, and_assoc]

theorem shares_of_applies {context : CaseRetrievalContext} (hleft : left.applies context = true)
    (hright : right.applies context = true) : left.Shares right := by
  obtain ⟨hcategory, _, hregion, hchannel, htier⟩ := applies_iff.mp hleft
  obtain ⟨hcategory', _, hregion', hchannel', htier'⟩ := applies_iff.mp hright
  constructor
  . exact ⟨context.category, hcategory, hcategory'⟩
  . rw [← exists_match_iff left.regions_ne_nil right.regions_ne_nil]
    exact ⟨context.region, hregion, hregion'⟩
  . exact ⟨context.channel, hchannel, hchannel'⟩
  . exact ⟨context.tier, htier, htier'⟩

/--
Two applicabilities that share everything but products apply to a case of several products.
-/
theorem exists_context_iff
    : (∃ context, left.applies context = true ∧ right.applies context = true)
        ↔ left.Shares right := by
  constructor
  . intro ⟨context, hleft, hright⟩
    exact shares_of_applies hleft hright
  . intro h
    obtain ⟨category, hcategory, hcategory'⟩ := h.category
    obtain ⟨region, hregion, hregion'⟩ :=
      (exists_match_iff left.regions_ne_nil right.regions_ne_nil).mpr h.region
    obtain ⟨channel, hchannel, hchannel'⟩ := h.channel
    obtain ⟨tier, htier, htier'⟩ := h.tier
    obtain ⟨product, hproduct⟩ := List.exists_mem_of_ne_nil _ left.products_ne_nil
    obtain ⟨product', hproduct'⟩ := List.exists_mem_of_ne_nil _ right.products_ne_nil
    let context : CaseRetrievalContext := {
      category, region, channel, tier
      products := [product, product']
      products_ne_nil := List.cons_ne_nil _ _ }
    refine ⟨context, applies_iff.mpr ⟨hcategory, ?_, hregion, hchannel, htier⟩,
      applies_iff.mpr ⟨hcategory', ?_, hregion', hchannel', htier'⟩⟩
    . exact dimensionMatch_iff.mpr (.inr ⟨product, by simp [context], hproduct⟩)
    . exact dimensionMatch_iff.mpr (.inr ⟨product', by simp [context], hproduct'⟩)

/--
Two applicabilities apply to a case of one product exactly when they share products as well.
-/
theorem exists_single_context_iff
    : (∃ context product, context.products = [product]
        ∧ left.applies context = true ∧ right.applies context = true)
        ↔ left.Shares right ∧ dimensionsOverlap left.products right.products = true := by
  constructor
  . intro ⟨context, product, hsingle, hleft, hright⟩
    have hproduct := (applies_iff.mp hleft).2.1
    have hproduct' := (applies_iff.mp hright).2.1
    rw [hsingle] at hproduct hproduct'
    refine ⟨shares_of_applies hleft hright, ?_⟩
    rw [← exists_match_iff left.products_ne_nil right.products_ne_nil]
    exact ⟨product, hproduct, hproduct'⟩
  . intro ⟨h, hproducts⟩
    obtain ⟨category, hcategory, hcategory'⟩ := h.category
    obtain ⟨region, hregion, hregion'⟩ :=
      (exists_match_iff left.regions_ne_nil right.regions_ne_nil).mpr h.region
    obtain ⟨channel, hchannel, hchannel'⟩ := h.channel
    obtain ⟨tier, htier, htier'⟩ := h.tier
    obtain ⟨product, hproduct, hproduct'⟩ :=
      (exists_match_iff left.products_ne_nil right.products_ne_nil).mpr hproducts
    let context : CaseRetrievalContext := {
      category, region, channel, tier
      products := [product]
      products_ne_nil := List.cons_ne_nil _ _ }
    exact ⟨context, product, rfl, applies_iff.mpr ⟨hcategory, hproduct, hregion, hchannel, htier⟩,
      applies_iff.mpr ⟨hcategory', hproduct', hregion', hchannel', htier'⟩⟩

end PolicyApplicability

namespace PolicyVersion

variable {v w : PolicyVersion}

def window (v : PolicyVersion) : Window Instant where
  start := v.effectiveFrom
  stop := v.effectiveTo

theorem covers_iff {t : Instant} : v.covers t = true ↔ v.window.Contains t := by
  unfold covers window Window.Contains
  cases v.effectiveFrom <;> cases v.effectiveTo <;> simp

theorem isRetrievable_iff {context : CaseRetrievalContext} {t : Instant}
    : v.isRetrievable context t = true
        ↔ v.isLive = true ∧ v.applicability.applies context = true ∧ v.window.Contains t := by
  unfold isRetrievable
  rw [Bool.and_eq_true, Bool.and_eq_true, covers_iff, and_assoc]

/--
The versions decide some case between them at some instant.
-/
def Overlaps (v w : PolicyVersion) : Prop :=
  v.applicability.Shares w.applicability ∧ v.window.Meets w.window

theorem exists_retrievable_iff (hv : v.EffectiveOrder) (hw : w.EffectiveOrder)
    : (∃ context t, v.isRetrievable context t = true ∧ w.isRetrievable context t = true)
        ↔ v.isLive = true ∧ w.isLive = true ∧ v.Overlaps w := by
  simp only [isRetrievable_iff]
  unfold Overlaps
  rw [← PolicyApplicability.exists_context_iff, ← Window.exists_contains_iff (v := v.window) (w := w.window) hv hw]
  constructor
  . intro ⟨context, t, ⟨hlive, happlies, hcontains⟩, hlive', happlies', hcontains'⟩
    exact ⟨hlive, hlive', ⟨context, happlies, happlies'⟩, t, hcontains, hcontains'⟩
  . intro ⟨hlive, hlive', ⟨context, happlies, happlies'⟩, t, hcontains, hcontains'⟩
    exact ⟨context, t, ⟨hlive, happlies, hcontains⟩, hlive', happlies', hcontains'⟩

end PolicyVersion

end CaseResolution
