import CaseResolution.Domain.Identity

/-!
This module contains controlled actions: the action row, its numbered attempts, its receipts and its
reconciliations, and the values exchanged with the gateway that performs actions.
-/

namespace CaseResolution

inductive ActionStatus where
  | ready
  | running
  | completed
  | failedSafe
  | outcomeUnknown
  | recoveryRequired
deriving DecidableEq

/--
The members of `_RECOVERY_STATUSES`.
-/
def ActionStatus.isRecovery (status : ActionStatus) : Bool :=
  status = .outcomeUnknown ∨ status = .recoveryRequired

inductive ActionAttemptOutcome where
  | running
  | succeeded
  | failedBeforeChange
  | unknown
deriving DecidableEq

inductive ActionSideEffectState where
  | notAttempted
  | none
  | confirmed
  | possible
deriving DecidableEq

def ActionSideEffectState.value : ActionSideEffectState → String
  | .notAttempted => "not_attempted"
  | .none => "none"
  | .confirmed => "confirmed"
  | .possible => "possible"

/--
The side effect states that prove that nothing was changed.
-/
def ActionSideEffectState.isSafe (state : ActionSideEffectState) : Bool :=
  state = .notAttempted ∨ state = .none

inductive ActionExecutionBlocker where
  | permission
  | duplicate
  | expiredApproval
  | connectionUnavailable
  | staleProposal
deriving DecidableEq

inductive ActionCommand where
  | execute
  | retrySafe
  | reconcile
  | recordManualOutcome
  | escalate
deriving DecidableEq

def ActionCommand.value : ActionCommand → String
  | .execute => "execute"
  | .retrySafe => "retry_safe"
  | .reconcile => "reconcile"
  | .recordManualOutcome => "record_manual_outcome"
  | .escalate => "escalate"

inductive ActionAttemptCommand where
  | execute
  | retrySafe
  | legacyImport
deriving DecidableEq

inductive ReconciliationOutcome where
  | running
  | confirmedCompleted
  | confirmedAbsent
  | stillUnknown
deriving DecidableEq

inductive ManualActionOutcome where
  | completed
  | notCompleted
deriving DecidableEq

def reconciliationOutcomeForLookup (found : Option Bool) (absenceIsTerminal : Bool)
    : ReconciliationOutcome :=
  if found = some true then
    .confirmedCompleted
  else if found = some false ∧ absenceIsTerminal then
    .confirmedAbsent
  else
    .stillUnknown

def reconciliationOutcomeForManualRecord (outcome : ManualActionOutcome) : ReconciliationOutcome :=
  if outcome = .completed then .confirmedCompleted else .stillUnknown

/--
The action types that are read-only in the current product.
-/
def retiredActionTypes : List String :=
  ["correct_billing_address", "change_draft_currency", "regenerate_invoice_locale",
    "credit_removed_seats", "attach_purchase_order", "refund_course_fee",
    "refund_unstarted_premium", "rename_account", "revoke_compromised_sessions",
    "change_recovery_email"]

/--
A row of `case_action_attempts`.
-/
structure CaseActionAttempt where
  actorId : Option Nat
  legacyToolAttemptId : Option Nat
  number : Nat
  command : ActionAttemptCommand
  outcome : ActionAttemptOutcome
  sideEffectState : ActionSideEffectState
  detail : String
  errorCode : Option String
  requestFingerprint : String
  responseFingerprint : Option String
  startedAt : Instant
  finishedAt : Option Instant
deriving DecidableEq

/--
A row of `case_action_receipts`. `attemptId` is the position of its attempt in the action.
-/
structure CaseActionReceipt where
  attemptId : Nat
  legacyExternalReceiptId : Option Nat
  provider : String
  externalReference : String
  idempotencyKey : String
  status : String
  dataFingerprint : String
  recordedAt : Instant
deriving DecidableEq

/--
A row of `case_action_reconciliations`.
-/
structure CaseActionReconciliation where
  actorId : Nat
  outcome : ReconciliationOutcome
  detail : String
  externalReference : Option String
  checkedAt : Instant
deriving DecidableEq

/--
A row of `case_actions` with its attempts, its receipts and its reconciliations.
-/
structure CaseAction where
  caseId : Nat
  proposalId : Nat
  proposalVersionId : Nat
  proposedActionId : Nat
  reviewId : Nat
  reviewDecisionId : Nat
  connectionId : Nat
  legacyProposalVersionId : Option Nat
  type : String
  target : String
  typedParameters : Dict
  observedOutcome : Option String
  status : ActionStatus
  executionBlocker : Option ActionExecutionBlocker
  executionEligible : Bool
  idempotencyKey : String
  authorizationExpiresAt : Instant
  ownerId : Option Nat
  attemptCount : Nat
  version : Nat
  attempts : List CaseActionAttempt
  receipts : List CaseActionReceipt
  reconciliations : List CaseActionReconciliation
deriving DecidableEq

structure ActionGatewayReceipt where
  provider : String
  externalReference : String
  idempotencyKey : String
  status : String
  data : Dict
  duplicate : Bool
deriving DecidableEq

def ActionGatewayReceipt.dump (receipt : ActionGatewayReceipt) : Value :=
  .obj [
    ("provider", .str receipt.provider),
    ("external_reference", .str receipt.externalReference),
    ("idempotency_key", .str receipt.idempotencyKey),
    ("status", .str receipt.status),
    ("data", .ofDict receipt.data),
    ("duplicate", .bool receipt.duplicate)
  ]

/--
What a gateway that was asked about an action found. The fields from `receipt_of_found` on are what
the validator of the source demands.
-/
structure ActionLookupResult where
  found : Option Bool
  receipt : Option ActionGatewayReceipt
  detail : String
  absenceIsTerminal : Bool
  receipt_of_found : found = some true → receipt ≠ none
  found_of_receipt : receipt ≠ none → found = some true
  found_of_absent : absenceIsTerminal = true → found = some false

structure ActionGatewayError where
  message : String
  code : String
  sideEffectState : ActionSideEffectState
  retryable : Bool
deriving DecidableEq

structure ActionExecutionLease where
  actionId : Nat
  actionVersion : Nat
  attemptId : Nat
  actionType : String
  target : String
  parameters : Dict
  idempotencyKey : String
  adapterKey : String
  providerType : String
deriving DecidableEq

structure ActionReconciliationLease where
  actionId : Nat
  actionVersion : Nat
  reconciliationId : Nat
  actionType : String
  target : String
  parameters : Dict
  idempotencyKey : String
  externalReference : Option String
  adapterKey : String
  providerType : String
deriving DecidableEq

structure LegacyActionReceiptImport where
  legacyExternalReceiptId : Nat
  provider : String
  externalReference : String
  status : String
  dataFingerprint : String
  recordedAt : Instant
deriving DecidableEq

/--
The historical outcomes `require_consistent_historical_outcome` accepts.
-/
def legacyOutcomeIsConsistent (status : ActionStatus) (attemptOutcome : ActionAttemptOutcome)
    (sideEffectState : ActionSideEffectState) (receipt : Option LegacyActionReceiptImport) : Prop :=
  match status with
  | .completed =>
    receipt.isSome ∧ attemptOutcome = .succeeded ∧ sideEffectState = .confirmed
  | .failedSafe => attemptOutcome = .failedBeforeChange ∧ sideEffectState.isSafe
  | .outcomeUnknown => True
  | _ => False

/--
A historical tool attempt.
-/
structure LegacyActionImport where
  legacyToolAttemptId : Nat
  legacyProposalVersionId : Nat
  actionType : String
  target : String
  parameters : Dict
  status : ActionStatus
  attemptOutcome : ActionAttemptOutcome
  sideEffectState : ActionSideEffectState
  idempotencyKey : String
  observedOutcome : String
  errorCode : Option String
  requestFingerprint : String
  responseFingerprint : Option String
  startedAt : Instant
  finishedAt : Instant
  receipt : Option LegacyActionReceiptImport
  started_le_finished : startedAt ≤ finishedAt
  consistent : legacyOutcomeIsConsistent status attemptOutcome sideEffectState receipt

inductive ConnectionEnvironment where
  | demo
  | sandbox
  | production
deriving DecidableEq

inductive ConnectionHealth where
  | healthy
  | degraded
  | unavailable
  | notConfigured
deriving DecidableEq

inductive CredentialStatus where
  | demo
  | connected
  | missing
  | expired
deriving DecidableEq

/--
A row of `connections`.
-/
structure Connection where
  publicId : String
  providerType : String
  adapterKey : String
  environment : ConnectionEnvironment
  health : ConnectionHealth
  lastCheckedAt : Option Instant
  credentialStatus : CredentialStatus
  actionTypes : List String
deriving DecidableEq

end CaseResolution
