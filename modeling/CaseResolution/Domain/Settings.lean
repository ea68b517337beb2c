import CaseResolution.Domain.Error
import CaseResolution.Lib.Entries
import CaseResolution.Lib.Rounding
import Mathlib.Data.Rat.Floor
import Mathlib.Data.String.Basic

/-!
This module contains the approval settings of an organization: the financial limits of administrators
as they are offered, as they are kept and as they are written to the database.
-/

namespace CaseResolution

open Guard

/--
How currencies are written in capitals, which leaves capitals as they are.
-/
class CurrencyText where
  upper : String → String
  isAlpha : String → Bool
  upper_upper : ∀ text, upper (upper text) = upper text

/--
The JSON value approval settings are validated from.
-/
structure ApprovalSettingsInput where
  administratorFinancialLimits : Dictionary String Rat
  requireDecisionReason : Option Bool
deriving DecidableEq

structure ApprovalSettingsValues where
  administratorFinancialLimits : Dictionary String Rat
  requireDecisionReason : Bool
  reason_required : requireDecisionReason = true
deriving DecidableEq

namespace ApprovalSettingsValues

/--
The amount in cents, half a cent to the even one.
-/
def quantize (amount : Rat) : Rat :=
  (Rounding.halfEven (amount * 100) : Rat) / 100

def maximumLimit : Rat := 999999999999999999 / 100

variable [CurrencyText]

def normalizeLimit (limit : String × Rat) : Except Error (String × Rat) := do
  let code := CurrencyText.upper limit.1
  ensure (code.length = 3 ∧ CurrencyText.isAlpha code)
    (.valueError "financial limit currencies must use three-letter codes")
  ensure (0 < limit.2 ∧ limit.2 ≤ maximumLimit)
    (.valueError "financial limits must be greater than zero")
  pure (code, quantize limit.2)

def validateFinancialLimits (value : Dictionary String Rat) : Except Error (Dictionary String Rat) := do
  let normalized ← value.entries.mapM normalizeLimit
  pure (Dictionary.ofEntries normalized).sorted

def validate (input : ApprovalSettingsInput) : Except Error ApprovalSettingsValues := do
  ensure (1 ≤ input.administratorFinancialLimits.entries.length
    ∧ input.administratorFinancialLimits.entries.length ≤ 20)
    (.valueError "administrator_financial_limits")
  ensure (input.requireDecisionReason.getD true = true) (.valueError "require_decision_reason")
  pure {
    administratorFinancialLimits := ← validateFinancialLimits input.administratorFinancialLimits
    requireDecisionReason := true
    reason_required := rfl }

/--
The value as JSON.
-/
def dump (values : ApprovalSettingsValues) : ApprovalSettingsInput where
  administratorFinancialLimits := values.administratorFinancialLimits
  requireDecisionReason := some values.requireDecisionReason

end ApprovalSettingsValues

/--
A row of `organization_settings` for the section of approvals.
-/
structure ApprovalSettingsRow where
  configuration : ApprovalSettingsInput
  version : Nat
deriving DecidableEq

namespace ApprovalSettingsRow

variable [CurrencyText]

def update (row : Option ApprovalSettingsRow) (expectedVersion : Nat)
    (configuration : ApprovalSettingsValues) : Except Error ApprovalSettingsRow := do
  let currentVersion := row.elim 1 fun row => row.version
  ensure (expectedVersion = currentVersion) (.settingsVersionConflict expectedVersion currentVersion)
  let validated ← ApprovalSettingsValues.validate configuration.dump
  pure { configuration := validated.dump, version := currentVersion + 1 }

def record (row : ApprovalSettingsRow) : Except Error ApprovalSettingsValues :=
  match ApprovalSettingsValues.validate row.configuration with
  | .ok values => pure values
  | .error _ => throw (.settingsConflict "The stored approvals settings are invalid.")

end ApprovalSettingsRow

end CaseResolution
