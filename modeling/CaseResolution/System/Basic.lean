import CaseResolution.Actions.Impl.Execution
import CaseResolution.Actions.Impl.Materialization
import CaseResolution.Actions.Impl.Recovery
import CaseResolution.Actions.Impl.Service
import CaseResolution.Briefs.Impl.Service
import CaseResolution.Cases.Impl.Commands
import CaseResolution.Lib.Machine
import CaseResolution.Reviews.Impl.Legacy

/-!
This module contains the whole service as a machine: every transaction of the case, brief, review and
action repositories is one command, and workers issue commands in any order and at any instant.
-/

namespace CaseResolution

open Guard

/--
The tables that other parts of the product maintain: identity, settings, connections, policies and
the systems of record.
-/
structure OrganizationTables where
  members : List Membership
  approvalRuleVersion : Nat
  connections : List Connection
  policyVersions : List GovernedPolicyVersion
  policyClauses : List GovernedPolicyClause
  policyEvidence : List CasePolicyEvidence
  contexts : List BusinessObjectSnapshot
  legacyReservations : List ReviewerReservation
  legacyDecisions : List ApprovalDecision

/--
Replace the tables other parts of the product maintain. Members and connections are never deleted.
-/
def Store.maintainOrganization (s : Store) (tables : OrganizationTables) : Except Error Store := do
  ensure (s.members.length ≤ tables.members.length) (.integrityError "fk_case_reviews_org_submitter")
  ensure (s.connections.length ≤ tables.connections.length)
    (.integrityError "fk_case_actions_org_connection")
  pure { s with
    members := tables.members
    approvalRuleVersion := tables.approvalRuleVersion
    connections := tables.connections
    policyVersions := tables.policyVersions
    policyClauses := tables.policyClauses
    policyEvidence := tables.policyEvidence
    contexts := tables.contexts
    legacyReservations := tables.legacyReservations
    legacyDecisions := tables.legacyDecisions }

def Store.openCase (s : Store) (case : Case) : Store :=
  { s with cases := s.cases ++ [case] }

inductive Command where
  | maintainOrganization (tables : OrganizationTables)
  | openCase (case : Case)
  | assignToActor (caseId : Nat) (actorId : String) (expectedVersion : Nat)
  | changeStatus (caseId expectedVersion : Nat) (target : CaseStatus)
  | addMessage (caseId expectedCaseVersion : Nat)
  | addBusinessEvidence (now : Instant) (caseId expectedCaseVersion : Nat)
      (evidence : BusinessEvidenceCreate)
  | appendMessage (caseId : Nat)
  | saveDraft (caseId expectedVersion : Nat) (subject body : String)
  | acquireGeneration (now : Instant) (ownerToken caseId : Nat) (inputFingerprint : String)
      (leaseSeconds maxAttempts : Nat)
  | prepareGeneration (now : Instant) (ownerToken : Nat) (actor : ActorContext)
      (engine : EngineVersions) (caseId expectedCaseVersion : Nat) (resolution : PolicyResolution)
  | persistGeneration (now : Instant) (actor : ActorContext) (caseId : Nat)
      (plan : DecisionBriefGenerationPlan) (analysis : DecisionAnalysis)
      (resolution : PolicyResolution)
  | releaseGeneration (now : Instant) (caseId : Nat) (plan : DecisionBriefGenerationPlan)
      (errorCode : String)
  | getReview (now : Instant) (reviewId : Nat)
  | reconcileExpiredReviews (now : Instant)
  | submitReview (now : Instant) (caseId : Nat) (actorId : String) (command : ReviewSubmission)
  | reserveReview (now : Instant) (reviewId : Nat) (actorId : String) (expectedVersion : Nat)
  | decideReview (now : Instant) (reviewId : Nat) (actorId : String) (expectedVersion : Nat)
      (snapshotFingerprint : String) (decision : ReviewDecision) (reason : String)
  | importLegacyReview (now : Instant) (importerActorId : String) (command : LegacyReviewImport)
  | materializeApprovedReview (now : Instant) (reviewId : Nat)
  | importLegacyAction (now : Instant) (command : LegacyActionImport)
  | getAction (now : Instant) (actionId : Nat)
  | reconcileAbandonedActions (now : Instant)
  | prepareExecution (now : Instant) (actionId : Nat) (actorId : String) (expectedVersion : Nat)
      (command : ActionCommand)
  | finishExecutionSuccess (now : Instant) (lease : ActionExecutionLease)
      (receipt : ActionGatewayReceipt)
  | finishExecutionError (now : Instant) (lease : ActionExecutionLease) (error : ActionGatewayError)
  | prepareReconciliation (now : Instant) (actionId : Nat) (actorId : String)
      (expectedVersion : Nat)
  | finishReconciliation (now : Instant) (lease : ActionReconciliationLease)
      (result : ActionLookupResult)
  | recordManualOutcome (now : Instant) (actionId : Nat) (actorId : String) (expectedVersion : Nat)
      (outcome : ManualActionOutcome) (reason : String)
  | escalate (now : Instant) (actionId : Nat) (actorId : String) (expectedVersion : Nat)
      (reason : String)

/--
The instant a command is issued at, where it reads the clock.
-/
def Command.instant : Command → Option Instant
  | .addBusinessEvidence now .. | .acquireGeneration now .. | .prepareGeneration now ..
  | .persistGeneration now .. | .releaseGeneration now .. | .getReview now _
  | .reconcileExpiredReviews now | .submitReview now .. | .reserveReview now ..
  | .decideReview now .. | .importLegacyReview now .. | .materializeApprovedReview now _
  | .importLegacyAction now _ | .getAction now _ | .reconcileAbandonedActions now
  | .prepareExecution now .. | .finishExecutionSuccess now .. | .finishExecutionError now ..
  | .prepareReconciliation now .. | .finishReconciliation now .. | .recordManualOutcome now ..
  | .escalate now .. => some now
  | _ => none

/--
What a command answers.
-/
inductive Output where
  | done
  | generation (inputFingerprint : String) (reservation : GenerationReservation inputFingerprint)
  | preparation (preparation : GenerationPreparation)
  | brief (brief : DecisionBrief)
  | released (released : Bool)
  | review (bundle : Option ReviewBundle)
  | bundles (bundles : List ActionBundle)
  | executionLease (lease : ActionExecutionLease)
  | reconciliationLease (lease : ActionReconciliationLease)
  | item (item : Option ActionQueueItem)

/--
Name the result of an operation as an output.
-/
def answer {α : Type} (name : α → Output) (result : Except Error (Store × α))
    : Except Error (Store × Output) := do
  let (s, value) ← result
  pure (s, name value)

def silently (result : Except Error Store) : Except Error (Store × Output) := do
  let s ← result
  pure (s, .done)

@[simp]
theorem answer_eq_ok {α : Type} {name : α → Output} {result : Except Error (Store × α)} {s : Store}
    {output : Output} : answer name result = .ok (s, output)
      ↔ ∃ value, result = .ok (s, value) ∧ name value = output := by
  unfold answer
  rw [bind_eq_ok]
  simp

@[simp]
theorem silently_eq_ok {result : Except Error Store} {s : Store} {output : Output}
    : silently result = .ok (s, output) ↔ result = .ok s ∧ output = .done := by
  unfold silently
  rw [bind_eq_ok]
  constructor
  . rintro ⟨_, hresult, heq⟩
    simp_all
  . rintro ⟨hresult, rfl⟩
    exact ⟨s, hresult, rfl⟩

variable [Digest]

def Store.perform (s : Store) : Command → Except Error (Store × Output)
  | .maintainOrganization tables => silently (s.maintainOrganization tables)
  | .openCase case => pure (s.openCase case, .done)
  | .assignToActor caseId actorId expectedVersion =>
    silently (s.assignToActor caseId actorId expectedVersion)
  | .changeStatus caseId expectedVersion target =>
    silently (s.changeStatus caseId expectedVersion target)
  | .addMessage caseId expectedCaseVersion => silently (s.addMessage caseId expectedCaseVersion)
  | .addBusinessEvidence now caseId expectedCaseVersion evidence =>
    silently (s.addBusinessEvidence now caseId expectedCaseVersion evidence)
  | .appendMessage caseId => silently (s.appendMessage caseId)
  | .saveDraft caseId expectedVersion subject body =>
    silently (s.saveDraft caseId expectedVersion subject body)
  | .acquireGeneration now ownerToken caseId inputFingerprint leaseSeconds maxAttempts =>
    answer (.generation inputFingerprint) <|
      s.acquireGeneration now ownerToken caseId inputFingerprint leaseSeconds maxAttempts
  | .prepareGeneration now ownerToken actor engine caseId expectedCaseVersion resolution =>
    answer .preparation <|
      s.prepareGeneration now ownerToken actor engine caseId expectedCaseVersion resolution
  | .persistGeneration now actor caseId plan analysis resolution =>
    answer .brief (s.persistGeneration now actor caseId plan analysis resolution)
  | .releaseGeneration now caseId plan errorCode =>
    answer .released (s.releaseGeneration now caseId plan errorCode)
  | .getReview now reviewId => answer .review (s.getReview now reviewId)
  | .reconcileExpiredReviews now => pure (s.reconcileExpiredReviews now, .done)
  | .submitReview now caseId actorId command =>
    answer (.review ∘ some) (s.submitReview now caseId actorId command)
  | .reserveReview now reviewId actorId expectedVersion =>
    answer (.review ∘ some) (s.reserveReview now reviewId actorId expectedVersion)
  | .decideReview now reviewId actorId expectedVersion snapshotFingerprint decision reason =>
    answer (.review ∘ some) <|
      s.decideReview now reviewId actorId expectedVersion snapshotFingerprint decision reason
  | .importLegacyReview now importerActorId command =>
    answer (.review ∘ some) (s.importLegacyReview now importerActorId command)
  | .materializeApprovedReview now reviewId =>
    answer .bundles (s.materializeApprovedReview now reviewId)
  | .importLegacyAction now command => answer (.item ∘ some) (s.importLegacyAction now command)
  | .getAction now actionId => answer .item (s.getAction now actionId)
  | .reconcileAbandonedActions now => pure (s.reconcileAbandonedActions now, .done)
  | .prepareExecution now actionId actorId expectedVersion command =>
    answer .executionLease (s.prepareExecution now actionId actorId expectedVersion command)
  | .finishExecutionSuccess now lease receipt =>
    answer (.item ∘ some) (s.finishExecutionSuccess now lease receipt)
  | .finishExecutionError now lease error =>
    answer (.item ∘ some) (s.finishExecutionError now lease error)
  | .prepareReconciliation now actionId actorId expectedVersion =>
    answer .reconciliationLease (s.prepareReconciliation now actionId actorId expectedVersion)
  | .finishReconciliation now lease result =>
    answer (.item ∘ some) (s.finishReconciliation now lease result)
  | .recordManualOutcome now actionId actorId expectedVersion outcome reason =>
    answer (.item ∘ some) <|
      s.recordManualOutcome now actionId actorId expectedVersion outcome reason
  | .escalate now actionId actorId expectedVersion reason =>
    answer (.item ∘ some) (s.escalate now actionId actorId expectedVersion reason)

/--
The service. A refused command is rolled back.
-/
def service : Machine Store Command Error Output where
  step := Store.perform

end CaseResolution
