import CaseResolution.Domain.Settings
import Mathlib.Tactic.FieldSimp
import Mathlib.Tactic.NormNum

/-!
This module contains which financial limits can be read back after they have been stored: those that
are still positive in cents.
-/

namespace CaseResolution

open Guard

namespace ApprovalSettingsValues

theorem quantize_pos_iff {amount : Rat} : 0 < quantize amount ↔ 1 / 200 < amount := by
  unfold quantize
  rw [div_pos_iff_of_pos_right (by norm_num), Int.cast_pos, Rounding.halfEven_pos_iff]
  constructor
  . intro h
    linarith
  . intro h
    linarith

theorem quantize_quantize (amount : Rat) : quantize (quantize amount) = quantize amount := by
  have hcents : quantize amount * 100 = (Rounding.halfEven (amount * 100) : Rat) := by
    unfold quantize
    field_simp
  rw [quantize, hcents, Rounding.halfEven_intCast]
  rfl

theorem quantize_le_maximumLimit {amount : Rat} (h : amount ≤ maximumLimit)
    : quantize amount ≤ maximumLimit := by
  have hcents : amount * 100 ≤ ((999999999999999999 : Int) : Rat) := by
    unfold maximumLimit at h
    norm_num
    linarith
  have hle : ((Rounding.halfEven (amount * 100) : Int) : Rat) ≤ ((999999999999999999 : Int) : Rat) :=
    Int.cast_le.mpr (Rounding.halfEven_le hcents)
  unfold quantize maximumLimit
  norm_num at hle
  linarith

section Validate

variable [CurrencyText]

/--
The limit passes the checks that are made before it is rounded.
-/
structure Acceptable (limit : String × Rat) : Prop where
  length : (CurrencyText.upper limit.1).length = 3
  isAlpha : CurrencyText.isAlpha (CurrencyText.upper limit.1) = true
  pos : 0 < limit.2
  le : limit.2 ≤ maximumLimit

def normalized (limit : String × Rat) : String × Rat :=
  (CurrencyText.upper limit.1, quantize limit.2)

theorem normalizeLimit_eq_ok {limit limit' : String × Rat}
    : normalizeLimit limit = .ok limit' ↔ Acceptable limit ∧ normalized limit = limit' := by
  unfold normalizeLimit
  rw [ensure_bind_eq_ok, ensure_bind_eq_ok, pure_eq_ok]
  constructor
  . rintro ⟨⟨hlength, halpha⟩, ⟨hpos, hle⟩, heq⟩
    exact ⟨⟨hlength, halpha, hpos, hle⟩, heq⟩
  . rintro ⟨⟨hlength, halpha, hpos, hle⟩, heq⟩
    exact ⟨⟨hlength, halpha⟩, ⟨hpos, hle⟩, heq⟩

theorem validateFinancialLimits_eq_ok {value limits : Dictionary String Rat}
    : validateFinancialLimits value = .ok limits
        ↔ (∀ limit ∈ value.entries, Acceptable limit)
          ∧ (Dictionary.ofEntries (value.entries.map normalized)).sorted = limits := by
  unfold validateFinancialLimits
  rw [bind_eq_ok]
  constructor
  . rintro ⟨limits, hlimits, heq⟩
    obtain ⟨hall, rfl⟩ := (mapM_guard_eq_ok fun _ _ => normalizeLimit_eq_ok).mp hlimits
    exact ⟨hall, pure_eq_ok.mp heq⟩
  . rintro ⟨hall, heq⟩
    exact ⟨_, (mapM_guard_eq_ok fun _ _ => normalizeLimit_eq_ok).mpr ⟨hall, rfl⟩, pure_eq_ok.mpr heq⟩

theorem validate_eq_ok {input : ApprovalSettingsInput} {values : ApprovalSettingsValues}
    : validate input = .ok values
        ↔ (1 ≤ input.administratorFinancialLimits.entries.length
            ∧ input.administratorFinancialLimits.entries.length ≤ 20)
          ∧ input.requireDecisionReason.getD true = true
          ∧ validateFinancialLimits input.administratorFinancialLimits
            = .ok values.administratorFinancialLimits := by
  unfold validate
  rw [ensure_bind_eq_ok, ensure_bind_eq_ok, bind_eq_ok]
  constructor
  . rintro ⟨hlength, hreason, limits, hlimits, heq⟩
    rw [pure_eq_ok] at heq
    subst heq
    exact ⟨hlength, hreason, hlimits⟩
  . rintro ⟨hlength, hreason, hlimits⟩
    refine ⟨hlength, hreason, values.administratorFinancialLimits, hlimits, ?_⟩
    obtain ⟨limits, reason, hrequired⟩ := values
    rw [pure_eq_ok]
    subst hrequired
    rfl

/--
The limit is not replaced by a later one of its currency.
-/
def Counts (input : ApprovalSettingsInput) (limit : String × Rat) : Prop :=
  Entries.lookup (fun other => CurrencyText.upper other.1) input.administratorFinancialLimits.entries
    (CurrencyText.upper limit.1) = some limit

/--
The limits are positive, and the value can be read back from what is stored of it.
-/
structure Survives (values : ApprovalSettingsValues) : Prop where
  positive : ∀ limit ∈ values.administratorFinancialLimits.entries, 0 < limit.2
  revalidates : validate values.dump = .ok values
  stored : ∀ row : Option ApprovalSettingsRow, ∃ row',
    ApprovalSettingsRow.update row (row.elim 1 fun row => row.version) values = .ok row'
      ∧ row'.record = .ok values

variable {input : ApprovalSettingsInput} {values : ApprovalSettingsValues}

theorem mem_limits_iff (h : validate input = .ok values) {limit : String × Rat}
    : limit ∈ values.administratorFinancialLimits.entries
        ↔ ∃ origin ∈ input.administratorFinancialLimits.entries, Counts input origin
          ∧ normalized origin = limit := by
  obtain ⟨_, _, hlimits⟩ := validate_eq_ok.mp h
  obtain ⟨_, heq⟩ := validateFinancialLimits_eq_ok.mp hlimits
  rw [← heq, Dictionary.mem_sorted_iff, Dictionary.mem_ofEntries_iff, Entries.lookup_map,
    Option.map_eq_some_iff]
  constructor
  . rintro ⟨origin, horigin, rfl⟩
    exact ⟨origin, (Entries.lookup_eq_some horigin).1, horigin, rfl⟩
  . rintro ⟨origin, _, hcounts, rfl⟩
    exact ⟨origin, hcounts, rfl⟩

/--
What has been normalized passes every check but, perhaps, that it is positive.
-/
theorem acceptable_normalized_iff {limit : String × Rat} (h : Acceptable limit)
    : Acceptable (normalized limit) ↔ 0 < (normalized limit).2 := by
  have hcode : CurrencyText.upper (normalized limit).1 = CurrencyText.upper limit.1 :=
    CurrencyText.upper_upper limit.1
  constructor
  . exact fun hnormalized => hnormalized.pos
  . intro hpos
    constructor
    . rw [hcode]
      exact h.length
    . rw [hcode]
      exact h.isAlpha
    . exact hpos
    . exact quantize_le_maximumLimit h.le

theorem normalized_normalized (limit : String × Rat) : normalized (normalized limit) = normalized limit := by
  unfold normalized
  rw [CurrencyText.upper_upper, quantize_quantize]

/--
An accepted value is accepted again exactly when its limits are positive.
-/
theorem validate_dump_iff (h : validate input = .ok values)
    : validate values.dump = .ok values
        ↔ ∀ limit ∈ values.administratorFinancialLimits.entries, 0 < limit.2 := by
  obtain ⟨⟨hpos, hle⟩, _, hlimits⟩ := validate_eq_ok.mp h
  obtain ⟨hall, heq⟩ := validateFinancialLimits_eq_ok.mp hlimits
  have horigin (limit : String × Rat) (hlimit : limit ∈ values.administratorFinancialLimits.entries)
      : ∃ origin, Acceptable origin ∧ normalized origin = limit := by
    obtain ⟨origin, hmem, _, rfl⟩ := (mem_limits_iff h).mp hlimit
    exact ⟨origin, hall origin hmem, rfl⟩
  have hsame : values.administratorFinancialLimits.entries.map normalized
      = values.administratorFinancialLimits.entries := by
    conv_rhs => rw [← List.map_id values.administratorFinancialLimits.entries]
    apply List.map_congr_left
    intro limit hlimit
    obtain ⟨origin, _, rfl⟩ := horigin limit hlimit
    exact normalized_normalized origin
  have hsorted : (Dictionary.ofEntries (values.administratorFinancialLimits.entries.map normalized)).sorted
      = values.administratorFinancialLimits := by
    have hagain : Dictionary.ofEntries values.administratorFinancialLimits.entries
        = values.administratorFinancialLimits :=
      Dictionary.eq_of_entries (Dictionary.entries_ofEntries values.administratorFinancialLimits.keys_nodup)
    rw [hsame, hagain, ← heq, Dictionary.sorted_sorted]
  have hlength : 1 ≤ values.administratorFinancialLimits.entries.length
      ∧ values.administratorFinancialLimits.entries.length ≤ 20 := by
    have hshort := Dictionary.length_ofEntries_le
      (input.administratorFinancialLimits.entries.map (normalized : String × Rat → String × Rat))
    have hmore := List.length_pos_iff.mpr (Dictionary.ofEntries_ne_nil
      (l := input.administratorFinancialLimits.entries.map (normalized : String × Rat → String × Rat))
      (by rw [ne_eq, List.map_eq_nil_iff, ← List.length_eq_zero_iff]; omega))
    rw [List.length_map] at hshort
    rw [← heq, Dictionary.length_sorted]
    omega
  rw [validate_eq_ok, validateFinancialLimits_eq_ok]
  constructor
  . rintro ⟨_, _, hacceptable, _⟩ limit hlimit
    exact (hacceptable limit hlimit).pos
  . intro hpositive
    refine ⟨hlength, values.reason_required, ?_, hsorted⟩
    intro limit hlimit
    obtain ⟨origin, haccepted, rfl⟩ := horigin limit hlimit
    exact (acceptable_normalized_iff haccepted).mpr (hpositive _ hlimit)

theorem survives_iff (h : validate input = .ok values)
    : Survives values ↔ ∀ limit ∈ values.administratorFinancialLimits.entries, 0 < limit.2 := by
  constructor
  . exact fun hsurvives => hsurvives.positive
  . intro hpositive
    have hdump := (validate_dump_iff h).mpr hpositive
    refine ⟨hpositive, hdump, ?_⟩
    intro row
    refine ⟨{ configuration := values.dump, version := row.elim 1 (fun row => row.version) + 1 }, ?_, ?_⟩
    . unfold ApprovalSettingsRow.update
      rw [ensure_bind_eq_ok, hdump]
      exact ⟨rfl, rfl⟩
    . unfold ApprovalSettingsRow.record
      rw [hdump]
      rfl

/--
An accepted value survives storage exactly when every limit that counts is more than half a cent.
-/
theorem limits_survive_storage_iff (input : ApprovalSettingsInput) (values : ApprovalSettingsValues)
    (h : validate input = .ok values)
    : Survives values
        ↔ ∀ limit ∈ input.administratorFinancialLimits.entries, Counts input limit → 1 / 200 < limit.2 := by
  rw [survives_iff h]
  constructor
  . intro hpositive limit hlimit hcounts
    have hmem := (mem_limits_iff h).mpr ⟨limit, hlimit, hcounts, rfl⟩
    exact quantize_pos_iff.mp (hpositive _ hmem)
  . intro hlimits limit hlimit
    obtain ⟨origin, hmem, hcounts, rfl⟩ := (mem_limits_iff h).mp hlimit
    exact quantize_pos_iff.mpr (hlimits origin hmem hcounts)

end Validate

end ApprovalSettingsValues

namespace Sample

open ApprovalSettingsValues

/--
Currencies that are written in capitals already.
-/
@[reducible]
def capitals : CurrencyText where
  upper := id
  isAlpha := fun text => text.toList.all Char.isAlpha
  upper_upper := fun _ => rfl

attribute [local instance] capitals

def dollarLimit (amount : Rat) : ApprovalSettingsInput where
  administratorFinancialLimits := { entries := [("USD", amount)], keys_nodup := List.nodup_singleton _ }
  requireDecisionReason := none

theorem dollarLimit_accepted (amount : Rat) (hpos : 0 < amount) (hle : amount ≤ maximumLimit)
    : ∃ values, validate (dollarLimit amount) = .ok values
        ∧ ("USD", quantize amount) ∈ values.administratorFinancialLimits.entries := by
  have hcode : (CurrencyText.upper "USD").length = 3
      ∧ CurrencyText.isAlpha (CurrencyText.upper "USD") = true := by
    decide +kernel
  have hlimits : validateFinancialLimits (dollarLimit amount).administratorFinancialLimits
      = .ok (Dictionary.ofEntries [("USD", quantize amount)]).sorted := by
    rw [validateFinancialLimits_eq_ok]
    refine ⟨?_, rfl⟩
    intro limit hlimit
    rw [List.mem_singleton.mp hlimit]
    exact ⟨hcode.1, hcode.2, hpos, hle⟩
  have hlength : 1 ≤ (dollarLimit amount).administratorFinancialLimits.entries.length
      ∧ (dollarLimit amount).administratorFinancialLimits.entries.length ≤ 20 := by
    simp [dollarLimit]
  refine ⟨⟨_, true, rfl⟩, validate_eq_ok.mpr ⟨hlength, rfl, hlimits⟩, ?_⟩
  exact List.mem_singleton_self _

theorem limits_survive_storage_iff_dollars
    : ∃ values, validate (dollarLimit 250) = .ok values
        ∧ (Survives values ↔ ∀ limit ∈ (dollarLimit 250).administratorFinancialLimits.entries,
          Counts (dollarLimit 250) limit → 1 / 200 < limit.2) := by
  obtain ⟨values, hvalues, _⟩ := dollarLimit_accepted 250 (by norm_num) (by unfold maximumLimit; norm_num)
  exact ⟨values, hvalues, limits_survive_storage_iff (dollarLimit 250) values hvalues⟩

/--
A tenth of a cent is accepted and rounded to zero.
-/
theorem small_limit_does_not_survive
    : ∃ values, validate (dollarLimit (1 / 1000)) = .ok values
        ∧ ("USD", 0) ∈ values.administratorFinancialLimits.entries
        ∧ ¬ Survives values
        ∧ validate values.dump ≠ .ok values := by
  have hzero : quantize (1 / 1000) = 0 := by
    decide +kernel
  obtain ⟨values, hvalues, hlimit⟩ :=
    dollarLimit_accepted (1 / 1000) (by norm_num) (by unfold maximumLimit; norm_num)
  rw [hzero] at hlimit
  refine ⟨values, hvalues, hlimit, ?_, ?_⟩
  . intro hsurvives
    exact lt_irrefl _ (hsurvives.positive _ hlimit)
  . intro hdump
    exact lt_irrefl _ ((validate_dump_iff hvalues).mp hdump _ hlimit)

end Sample

end CaseResolution
