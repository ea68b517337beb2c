import CaseResolution.Domain.Actions
import CaseResolution.Lib.Guard

/-!
This module contains the refusals of the service, the exceptions its operations raise, and the check of
a permission.
-/

namespace CaseResolution

inductive Error where
  | permissionDenied (message : String)
  | actorMembershipNotFound (message : String)
  | actorMembershipAmbiguous (message : String)
  | memberNotFound (message : String)
  | memberConflict (message : String)
  | memberVersionConflict (expectedVersion currentVersion : Nat)
  | invitationNotFound (message : String)
  | invitationConflict (message : String)
  | invitationVersionConflict (expectedVersion currentVersion : Nat)
  | settingsConflict (message : String)
  | settingsVersionConflict (expectedVersion currentVersion : Nat)
  | caseNotFound (message : String)
  | caseActorNotAssignable (message : String)
  | invalidCaseTransition (message : String)
  | caseConcurrencyConflict (expectedVersion currentVersion : Nat)
  | businessEvidenceConflict (message : String)
  | caseSeedConflict (message : String)
  | draftConcurrencyConflict (expectedVersion currentVersion : Nat)
  | invalidCaseCursor (message : String)
  | invalidCaseHistoryCursor (message : String)
  | invalidReviewCursor (message : String)
  | invalidActionCursor (message : String)
  | invalidConnectionCursor (message : String)
  | invalidNotificationCursor (message : String)
  | policyNotFound (message : String)
  | policyConcurrencyConflict (expectedVersion currentVersion : Nat)
  | policyVersionConcurrencyConflict (expectedVersion currentVersion : Nat)
  | policyAlreadyExists (message : String)
  | policyActorNotAssignable (message : String)
  | invalidPolicyTransition (message : String)
  | policySourceParseError (message : String)
  | proposalNotFound (message : String)
  | proposalSnapshotMismatch (message : String)
  | proposalGenerationNotAllowed (message : String)
  | decisionGenerationInProgress (retryAfterSeconds : Int)
  | decisionGenerationLeaseLost (message : String)
  | decisionGenerationRetryExhausted (message : String)
  | decisionFingerprintRetryExhausted (message : String)
  | reviewNotFound (message : String)
  | reviewConflict (message : String)
  | reviewSubmissionNotAllowed (message : String)
  | reviewVersionConflict (expectedVersion currentVersion : Nat)
  | reviewSnapshotStale (message : String)
  | reviewReservationExpired (message : String)
  | reviewAuthorityDenied (message : String)
  | actionNotFound (message : String)
  | actionConflict (message : String)
  | actionVersionConflict (expectedVersion currentVersion : Nat)
  | actionExecutionBlocked (blocker : ActionExecutionBlocker) (message : String)
  | inboxNotFound (message : String)
  | inboxConflict (message : String)
  | inboxAuthorizationError (message : String)
  | inboxCredentialUnavailable (message : String)
  | inboxProviderUnavailable (message : String)
  | lookupError (message : String)
  | runtimeError (message : String)
  | valueError (message : String)
  | integrityError (constraint : String)
  | dataError (column : String)
deriving DecidableEq

def requirePermission (actor : ActorContext) (permission : Permission) : Except Error PUnit :=
  Guard.ensure (actor.can permission)
    (.permissionDenied s!"Permission {permission.value} is required.")

end CaseResolution
