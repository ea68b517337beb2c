import CaseResolution.Domain.Analysis

/-!
This module contains the commands a case is seeded with and the rows it is stored in.
-/

namespace CaseResolution

inductive CaseUrgency where
  | low
  | medium
  | high
  | critical
deriving DecidableEq

/--
The request of a case. A row of `case_requests` has the same columns.
-/
structure CaseRequestCreate where
  channel : RequestChannel
  customerMessage : String
  summary : String
  receivedAt : Instant
deriving DecidableEq

/--
The customer of a case. A row of `case_customers` has the same columns.
-/
structure CustomerContextCreate where
  customerId : String
  name : String
  tier : CustomerTier
  locale : String
  contact : String
deriving DecidableEq

structure CustomerContextCreate.Bounded (customer : CustomerContextCreate) : Prop where
  customerId : 1 ≤ customer.customerId.length ∧ customer.customerId.length ≤ 64
  name : 1 ≤ customer.name.length ∧ customer.name.length ≤ 200
  locale : 1 ≤ customer.locale.length ∧ customer.locale.length ≤ 35
  contact : 1 ≤ customer.contact.length ∧ customer.contact.length ≤ 320

structure BusinessObjectCreate where
  publicId : String
  type : String
  label : String
  source : String
  sourceReference : String
  status : String
  fields : Dict
  capturedAt : Instant
  freshness : SourceFreshness
  checkedAt : Option Instant
deriving DecidableEq

/--
The row a business object of a seeded case is stored in.
-/
def BusinessObjectCreate.snapshot (context : BusinessObjectCreate) (caseId : Nat)
    : BusinessObjectSnapshot where
  caseId := caseId
  publicId := context.publicId
  objectType := context.type
  label := context.label
  source := context.source
  sourceReference := context.sourceReference
  status := context.status
  fields := context.fields
  capturedAt := context.capturedAt
  sourceFreshness := context.freshness
  sourceCheckedAt := context.checkedAt
  version := 1

/--
What a business object was seeded with: its columns other than the case and the version.
-/
def BusinessObjectSnapshot.seed (context : BusinessObjectSnapshot) : BusinessObjectCreate where
  publicId := context.publicId
  type := context.objectType
  label := context.label
  source := context.source
  sourceReference := context.sourceReference
  status := context.status
  fields := context.fields
  capturedAt := context.capturedAt
  freshness := context.sourceFreshness
  checkedAt := context.sourceCheckedAt

@[simp]
theorem BusinessObjectCreate.snapshot_seed (context : BusinessObjectCreate) (caseId : Nat)
    : (context.snapshot caseId).seed = context := by
  rfl

@[simp]
theorem BusinessObjectSnapshot.seed_publicId (context : BusinessObjectSnapshot)
    : context.seed.publicId = context.publicId := by
  rfl

/--
The public ids of seeded cases: capitals, digits and hyphens after `CS-`.
-/
def isCasePublicId (publicId : String) : Bool :=
  publicId.toList.take 3 = ['C', 'S', '-'] ∧ (publicId.toList.drop 3) ≠ []
    ∧ (publicId.toList.drop 3).all fun c => ('A' ≤ c ∧ c ≤ 'Z') ∨ ('0' ≤ c ∧ c ≤ '9') ∨ c = '-'

/--
A command to seed a case, as its validators leave it.
-/
structure CaseCreate where
  publicId : String
  sourceId : String
  externalReference : String
  category : CaseCategory
  issue : String
  status : CaseStatus
  urgency : CaseUrgency
  risk : CaseRisk
  dueAt : Instant
  impactAmount : Option Rat
  impactCurrency : Option String
  sourceFreshness : SourceFreshness
  sourceCheckedAt : Option Instant
  request : CaseRequestCreate
  customer : CustomerContextCreate
  businessContexts : List BusinessObjectCreate
  publicId_valid : isCasePublicId publicId = true ∧ publicId.length ≤ 64
  sourceId_length : 1 ≤ sourceId.length ∧ sourceId.length ≤ 200
  externalReference_length : 1 ≤ externalReference.length ∧ externalReference.length ≤ 200
  issue_length : 1 ≤ issue.length ∧ issue.length ≤ 500
  impact_complete : ImpactComplete impactAmount impactCurrency
  request_texts : 1 ≤ request.customerMessage.length ∧ 1 ≤ request.summary.length
  customer_bounded : customer.Bounded
  contexts_nonempty : businessContexts ≠ []
  contexts_bounded : ∀ context ∈ businessContexts, (context.snapshot 0).Bounded

/--
A row of `cases` with its request and its customer.
-/
structure CaseRow where
  publicId : String
  legacyTaskId : Option Nat
  sourceId : String
  externalReference : String
  category : CaseCategory
  issue : String
  status : CaseStatus
  ownerId : Option Nat
  urgency : CaseUrgency
  risk : CaseRisk
  dueAt : Instant
  impactAmount : Option Rat
  impactCurrency : Option String
  sourceFreshness : SourceFreshness
  sourceCheckedAt : Option Instant
  version : Nat
  request : CaseRequestCreate
  customer : CustomerContextCreate
deriving DecidableEq

/--
The columns of a case the rest of the service works with.
-/
def CaseRow.case (row : CaseRow) : Case where
  publicId := row.publicId
  externalReference := some row.externalReference
  category := row.category
  requestSummary := row.request.summary
  status := row.status
  ownerId := row.ownerId
  version := row.version

end CaseResolution
