import CaseResolution.Domain.Basic

/-!
This module contains cases and the business records attached to them.
-/

namespace CaseResolution

inductive CaseStatus where
  | new
  | investigating
  | informationNeeded
  | needsReview
  | waitingCustomer
  | inProgress
  | completed
deriving DecidableEq

def CaseStatus.value : CaseStatus → String
  | .new => "new"
  | .investigating => "investigating"
  | .informationNeeded => "information_needed"
  | .needsReview => "needs_review"
  | .waitingCustomer => "waiting_customer"
  | .inProgress => "in_progress"
  | .completed => "completed"

inductive CaseCategory where
  | billingDispute
  | refundRequest
  | accountAccess
  | serviceException
deriving DecidableEq

def CaseCategory.value : CaseCategory → String
  | .billingDispute => "billing_dispute"
  | .refundRequest => "refund_request"
  | .accountAccess => "account_access"
  | .serviceException => "service_exception"

/--
A row of `cases`, with the summary of its request.
-/
structure Case where
  publicId : String
  externalReference : Option String
  category : CaseCategory
  requestSummary : String
  status : CaseStatus
  ownerId : Option Nat
  version : Nat
deriving DecidableEq

inductive SourceFreshness where
  | current
  | stale
  | unavailable
deriving DecidableEq

def SourceFreshness.value : SourceFreshness → String
  | .current => "current"
  | .stale => "stale"
  | .unavailable => "unavailable"

/--
A row of `business_object_snapshots`.
-/
structure BusinessObjectSnapshot where
  caseId : Nat
  publicId : String
  objectType : String
  label : String
  source : String
  sourceReference : String
  status : String
  fields : Dict
  capturedAt : Instant
  sourceFreshness : SourceFreshness
  sourceCheckedAt : Option Instant
  version : Nat
deriving DecidableEq

/--
What a member attaches to a case with `add_business_evidence`.
-/
structure BusinessEvidenceCreate where
  type : String
  label : String
  source : String
  sourceReference : String
  status : String
  fields : Dict
deriving DecidableEq

inductive DraftStatus where
  | draft
  | ready
  | blocked
deriving DecidableEq

/--
A row of `response_drafts`, the reply a case is working on.
-/
structure ResponseDraft where
  caseId : Nat
  subject : String
  body : String
  status : DraftStatus
  version : Nat
deriving DecidableEq

end CaseResolution
