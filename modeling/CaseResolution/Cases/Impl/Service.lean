import CaseResolution.System.Basic

/-!
This module contains what the case and the review service check in a transaction of their own before the
repositories write: the transition of a change of status and the status of a case that is submitted for
review.
-/

namespace CaseResolution

open Guard

/--
The statuses a case can be moved to, `CASE_TRANSITIONS`.
-/
def caseTransitions : CaseStatus → List CaseStatus
  | .new => [.investigating, .informationNeeded]
  | .investigating => [.informationNeeded, .needsReview, .waitingCustomer, .inProgress]
  | .informationNeeded => [.investigating, .waitingCustomer]
  | .needsReview => [.inProgress, .investigating]
  | .waitingCustomer => [.investigating, .informationNeeded]
  | .inProgress => [.completed, .informationNeeded, .needsReview]
  | .completed => []

def requireCaseTransition (current target : CaseStatus) : Except Error PUnit :=
  ensure (target ∈ caseTransitions current)
    (.invalidCaseTransition s!"Case cannot move from {current.value} to {target.value}.")

/--
A change of status that was validated and is not written yet.
-/
structure PendingStatusChange where
  caseId : Nat
  expectedVersion : Nat
  target : CaseStatus
  read : Case

/--
A submission whose case was checked and that is not written yet.
-/
structure PendingSubmission where
  caseId : Nat
  expectedCaseVersion : Nat
  read : Case

namespace Store

/--
The part of `change_status` before its write.
-/
def readForStatusChange (s : Store) (actor : ActorContext) (caseId expectedVersion : Nat)
    (target : CaseStatus) : Except Error PendingStatusChange := do
  requirePermission actor .caseManage
  requirePermission actor .caseRead
  let current ← orThrow s.cases[caseId]? (.caseNotFound "The case was not found.")
  requireCaseTransition current.status target
  pure { caseId, expectedVersion, target, read := current }

/--
The part of `submit` before its write, for a proposal without a review.
-/
def readForSubmission (s : Store) (actor : ActorContext) (caseId expectedCaseVersion : Nat)
    : Except Error PendingSubmission := do
  requirePermission actor .caseManage
  requirePermission actor .reviewRead
  let current ← orThrow s.cases[caseId]? (.reviewNotFound "The case was not found.")
  ensure (current.version = expectedCaseVersion)
    (.caseConcurrencyConflict expectedCaseVersion current.version)
  ensure (current.status ≠ .completed)
    (.reviewConflict "A completed case cannot be submitted for review.")
  ensure (current.status = .investigating ∨ current.status = .inProgress)
    (.reviewSubmissionNotAllowed
      "Move this case into investigation before submitting it for review.")
  pure { caseId, expectedCaseVersion, read := current }

end Store

/--
The service with the changes of status and the submissions that workers have checked so far.
-/
structure CaseDesk where
  store : Store
  changes : List PendingStatusChange
  submissions : List PendingSubmission

inductive CaseCommand where
  | perform (command : Command)
  | readForStatusChange (actor : ActorContext) (caseId expectedVersion : Nat) (target : CaseStatus)
  | changeStatus (pending : Nat)
  | readForSubmission (actor : ActorContext) (caseId expectedCaseVersion : Nat)
  | submitReview (pending : Nat) (now : Instant) (actorId : String) (command : ReviewSubmission)

/--
The commands that are only reached through a check of their own.
-/
def Command.isChecked : Command → Bool
  | .changeStatus .. | .submitReview .. => true
  | _ => false

namespace CaseDesk

variable [Digest]

def step (d : CaseDesk) : CaseCommand → Except Error (CaseDesk × Output)
  | .perform command => do
    ensure (¬ command.isChecked) (.runtimeError "The command is reached through its service.")
    let (store, output) ← d.store.perform command
    pure ({ d with store }, output)
  | .readForStatusChange actor caseId expectedVersion target => do
    let pending ← d.store.readForStatusChange actor caseId expectedVersion target
    pure ({ d with changes := d.changes ++ [pending] }, .done)
  | .changeStatus pending => do
    let change ← orThrow d.changes[pending]? (.runtimeError "No change of status is pending.")
    let (store, output) ← d.store.perform
      (.changeStatus change.caseId change.expectedVersion change.target)
    pure ({ d with store, changes := d.changes.eraseIdx pending }, output)
  | .readForSubmission actor caseId expectedCaseVersion => do
    let pending ← d.store.readForSubmission actor caseId expectedCaseVersion
    pure ({ d with submissions := d.submissions ++ [pending] }, .done)
  | .submitReview pending now actorId command => do
    let submission ← orThrow d.submissions[pending]? (.runtimeError "No submission is pending.")
    let (store, output) ← d.store.perform <| .submitReview now submission.caseId actorId
      { command with expectedCaseVersion := submission.expectedCaseVersion }
    pure ({ d with store, submissions := d.submissions.eraseIdx pending }, output)

end CaseDesk

/--
The service with its checks. A refused command is rolled back.
-/
def caseService [Digest] : Machine CaseDesk CaseCommand Error Output where
  step := CaseDesk.step

/--
The service before any command.
-/
def CaseDesk.new (store : Store) : CaseDesk where
  store := store
  changes := []
  submissions := []

end CaseResolution
