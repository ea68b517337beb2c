import CaseResolution.Briefs.Impl.Service
import CaseResolution.Cases.Impl.Commands
import CaseResolution.Cases.Impl.Queue
import CaseResolution.Domain.Intake
import CaseResolution.Lib.Entries
import CaseResolution.Lib.Keyset
import CaseResolution.Lib.Machine
import Mathlib.Data.Prod.Lex
import Mathlib.Data.Rat.Floor

/-!
This module contains the seeding of cases, and every operation on cases and their business objects that
can come between a seed command and the same command sent again.
-/

namespace CaseResolution

open Guard

/--
The tables a seeded case is stored in, a row being identified by its position.
-/
structure IntakeStore where
  cases : List CaseRow
  contexts : List BusinessObjectSnapshot
deriving DecidableEq

structure CaseWorkspaceRecord where
  case : CaseRow
  businessContexts : List BusinessObjectSnapshot
  hasMore : Bool
deriving DecidableEq

/--
An amount as a `Numeric(18, 2)` column stores it, which rounds a half up.
-/
def storedAmount (amount : Rat) : Rat :=
  ⌊amount * 100 + 1 / 2⌋ / 100

/--
The column holds 16 digits in front of the point.
-/
def amountFits (amount : Rat) : Bool :=
  storedAmount amount < 10 ^ 16

/--
What a thread of a connected inbox tells about the case opened for it.
-/
structure InboxCase where
  connectionPublicId : String
  providerThreadId : String
  category : CaseCategory
  subject : String
  urgency : CaseUrgency
  risk : CaseRisk
  dueAt : Instant
  lastReceivedAt : Instant
  request : CaseRequestCreate
  customer : CustomerContextCreate

namespace IntakeStore

def empty : IntakeStore where
  cases := []
  contexts := []

section Workspace

variable [TextCollation]

/--
What the newest business objects are ordered by: the instant, then the public id.
-/
def contextKey (context : BusinessObjectSnapshot) : Int ×ₗ String :=
  toLex (context.capturedAt, TextCollation.sortKey context.publicId)

def caseContexts (s : IntakeStore) (caseId : Nat) : List BusinessObjectSnapshot :=
  s.contexts.filter fun context => context.caseId = caseId

def newestContexts (s : IntakeStore) (caseId : Nat) : List BusinessObjectSnapshot :=
  (Keyset.descending contextKey (s.caseContexts caseId)).take caseWorkspaceBusinessContextLimit

def findCase (s : IntakeStore) (publicId : String) : Option Nat :=
  s.cases.findIdx? fun case => case.publicId = publicId

def workspace (s : IntakeStore) (caseId : Nat) (case : CaseRow) : CaseWorkspaceRecord where
  case := case
  businessContexts := (s.newestContexts caseId).insertionSort fun a b => a.publicId ≤ b.publicId
  hasMore := (s.newestContexts caseId).length < (s.caseContexts caseId).length

def getWorkspace (s : IntakeStore) (publicId : String) : Option CaseWorkspaceRecord := do
  let caseId ← s.findCase publicId
  let case ← s.cases[caseId]?
  pure (s.workspace caseId case)

def requiredWorkspace (s : IntakeStore) (publicId : String) : Except Error CaseWorkspaceRecord :=
  orThrow (s.getWorkspace publicId) (.caseNotFound "The case was not found.")

end Workspace

/--
Whether a case is still what the command seeds. The dictionaries of the business objects are compared.
-/
def matchesSeed (existing : CaseWorkspaceRecord) (command : CaseCreate) : Bool :=
  let case := existing.case
  (case.externalReference = command.externalReference
    ∧ case.category = command.category
    ∧ case.issue = command.issue
    ∧ case.urgency = command.urgency
    ∧ case.risk = command.risk
    ∧ case.dueAt = command.dueAt
    ∧ case.impactAmount = command.impactAmount
    ∧ case.impactCurrency = command.impactCurrency
    ∧ case.sourceFreshness = command.sourceFreshness
    ∧ case.sourceCheckedAt = command.sourceCheckedAt)
  ∧ case.request = command.request
  ∧ case.customer = command.customer
  ∧ Entries.Same BusinessObjectCreate.publicId
      (existing.businessContexts.map BusinessObjectSnapshot.seed) command.businessContexts

/--
Store a case with its business objects, as the constraints of the tables allow.
-/
def insertCase (s : IntakeStore) (case : CaseRow) (contexts : List BusinessObjectSnapshot)
    : Except Error IntakeStore := do
  ensure (∀ other ∈ s.cases, other.publicId ≠ case.publicId) (.integrityError "uq_cases_org_public")
  ensure (∀ other ∈ s.cases, other.sourceId ≠ case.sourceId) (.integrityError "uq_cases_org_source")
  ensure (∀ amount ∈ case.impactAmount, amountFits amount = true)
    (.dataError "cases.impact_amount")
  ensure ((s.contexts ++ contexts).map fun context => context.publicId).Nodup
    (.integrityError "uq_business_snapshots_org_public")
  pure {
    cases := s.cases ++ [{ case with impactAmount := case.impactAmount.map storedAmount }]
    contexts := s.contexts ++ contexts
  }

def newCase (command : CaseCreate) (legacyTaskId : Option Nat) : CaseRow where
  publicId := command.publicId
  legacyTaskId := legacyTaskId
  sourceId := command.sourceId
  externalReference := command.externalReference
  category := command.category
  issue := command.issue
  status := command.status
  ownerId := none
  urgency := command.urgency
  risk := command.risk
  dueAt := command.dueAt
  impactAmount := command.impactAmount
  impactCurrency := command.impactCurrency
  sourceFreshness := command.sourceFreshness
  sourceCheckedAt := command.sourceCheckedAt
  version := 1
  request := command.request
  customer := command.customer

/--
The case a legacy task is already linked to.
-/
def lineageCaseId (s : IntakeStore) (legacyTaskId : Option Nat) : Option String := do
  let taskId ← legacyTaskId
  let case ← s.cases.find? fun case => case.legacyTaskId = some taskId
  pure case.publicId

/--
Seed a case, or recognize it as seeded. The second result tells whether the case was created.
-/
def seedCase [TextCollation] (s : IntakeStore) (command : CaseCreate) (legacyTaskId : Option Nat)
    : Except Error (IntakeStore × CaseWorkspaceRecord × Bool) := do
  match s.lineageCaseId legacyTaskId with
  | some lineageCaseId =>
    ensure (lineageCaseId = command.publicId)
      (.caseSeedConflict "The legacy task is already linked to a different generic case.")
    let workspace ← s.requiredWorkspace lineageCaseId
    pure (s, workspace, false)
  | none =>
    match s.getWorkspace command.publicId with
    | some existing =>
      ensure (existing.case.legacyTaskId = legacyTaskId ∧ existing.case.sourceId = command.sourceId
          ∧ matchesSeed existing command)
        (.caseSeedConflict s!"Case {command.publicId} already exists with a different source lineage.")
      pure (s, existing, false)
    | none =>
      let s ← s.insertCase (newCase command legacyTaskId)
        (command.businessContexts.map fun context => context.snapshot s.cases.length)
      ensure (("REQ-" ++ command.publicId).length ≤ 64) (.dataError "case_requests.public_id")
      ensure (("MSG-" ++ command.publicId ++ "-001").length ≤ 64)
        (.dataError "conversation_messages.public_id")
      let workspace ← s.requiredWorkspace command.publicId
      pure (s, workspace, true)

def openInboxCase [Digest] (s : IntakeStore) (inboxCase : InboxCase) : Except Error IntakeStore := do
  let sourceDigest :=
    Digest.text (inboxCase.connectionPublicId ++ "\x00" ++ inboxCase.providerThreadId)
  let sourceId := "inbox:" ++ sourceDigest
  ensure (∀ other ∈ s.cases, other.sourceId ≠ sourceId)
    (.runtimeError "The selected inbox thread already has a case.")
  s.insertCase {
    publicId := "CS-EMAIL-" ++ (truncate 12 sourceDigest).toUpper
    legacyTaskId := none
    sourceId
    externalReference := "EMAIL-" ++ (truncate 16 sourceDigest).toUpper
    category := inboxCase.category
    issue := truncate 500 inboxCase.subject
    status := .new
    ownerId := none
    urgency := inboxCase.urgency
    risk := inboxCase.risk
    dueAt := inboxCase.dueAt
    impactAmount := none
    impactCurrency := none
    sourceFreshness := .current
    sourceCheckedAt := some inboxCase.lastReceivedAt
    version := 1
    request := inboxCase.request
    customer := inboxCase.customer
  } []

/--
Write the status and the owner of a case that is still at the expected version. Assignment, status
changes, messages, reviews and actions write no other column of a case.
-/
def updateCase (s : IntakeStore) (caseId expectedVersion : Nat) (status : CaseStatus)
    (ownerId : Option Nat) : Except Error IntakeStore := do
  let case ← orThrow s.cases[caseId]? (.caseNotFound "The case was not found.")
  ensure (case.version = expectedVersion) (.caseConcurrencyConflict expectedVersion case.version)
  pure { s with
    cases := s.cases.set caseId { case with status, ownerId, version := case.version + 1 } }

def existingEvidence (s : IntakeStore) (caseId : Nat) (evidence : BusinessEvidenceCreate)
    : Option BusinessObjectSnapshot :=
  s.contexts.find? fun context =>
    context.caseId = caseId ∧ context.objectType = evidence.type
      ∧ context.sourceReference = evidence.sourceReference

def addBusinessEvidence [Digest] (s : IntakeStore) (now : Instant) (caseId expectedCaseVersion : Nat)
    (evidence : BusinessEvidenceCreate) : Except Error IntakeStore := do
  let case ← orThrow s.cases[caseId]? (.caseNotFound "The case was not found.")
  match s.existingEvidence caseId evidence with
  | some existing =>
    ensure (Store.matchesBusinessEvidence existing evidence)
      (.businessEvidenceConflict "A record with this type and source reference already exists.")
    pure s
  | none =>
    let updated ← s.updateCase caseId expectedCaseVersion case.status case.ownerId
    let record := Store.newContext case.case caseId evidence now
    ensure (∀ context ∈ s.contexts, context.publicId ≠ record.publicId)
      (.integrityError "uq_business_snapshots_org_public")
    pure { updated with contexts := updated.contexts ++ [record] }

/--
A message from the connected inbox is the newest news of the source of a case.
-/
def appendMessage (s : IntakeStore) (caseId : Nat) (receivedAt : Instant)
    : Except Error IntakeStore := do
  let case ← orThrow s.cases[caseId]? (.caseNotFound "The case was not found.")
  pure { s with
    cases := s.cases.set caseId { case with
      version := case.version + 1
      sourceCheckedAt := some receivedAt
      sourceFreshness := .current } }

end IntakeStore

inductive IntakeCommand where
  | seedCase (command : CaseCreate) (legacyTaskId : Option Nat)
  | openInboxCase (inboxCase : InboxCase)
  | updateCase (caseId expectedVersion : Nat) (status : CaseStatus) (ownerId : Option Nat)
  | addBusinessEvidence (now : Instant) (caseId expectedCaseVersion : Nat)
      (evidence : BusinessEvidenceCreate)
  | appendMessage (caseId : Nat) (receivedAt : Instant)

/--
The case service as its callers see it. A seed command answers with the workspace and whether the case
was created.
-/
def intake [Digest] [TextCollation]
    : Machine IntakeStore IntakeCommand Error (Option (CaseWorkspaceRecord × Bool)) where
  step s command :=
    match command with
    | .seedCase command legacyTaskId => do
      let (s, workspace, created) ← s.seedCase command legacyTaskId
      pure (s, some (workspace, created))
    | .openInboxCase inboxCase => do
      let s ← s.openInboxCase inboxCase
      pure (s, none)
    | .updateCase caseId expectedVersion status ownerId => do
      let s ← s.updateCase caseId expectedVersion status ownerId
      pure (s, none)
    | .addBusinessEvidence now caseId expectedCaseVersion evidence => do
      let s ← s.addBusinessEvidence now caseId expectedCaseVersion evidence
      pure (s, none)
    | .appendMessage caseId receivedAt => do
      let s ← s.appendMessage caseId receivedAt
      pure (s, none)

end CaseResolution
