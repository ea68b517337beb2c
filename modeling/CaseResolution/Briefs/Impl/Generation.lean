import CaseResolution.Store

/-!
This module contains the leases of decision generations: at most one worker at a time generates the
brief of an input fingerprint, and a worker whose lease was taken over can not finish.
-/

namespace CaseResolution

open Guard

namespace CaseAnalysisGeneration

def lease (row : CaseAnalysisGeneration) (inputFingerprint : String) : DecisionGenerationLease where
  inputFingerprint := inputFingerprint
  ownerToken := row.ownerToken
  fenceToken := row.fenceToken
  attempt := row.attemptCount
  expiresAt := row.expiresAt

def first (ownerToken : Nat) (expiresAt : Instant) : CaseAnalysisGeneration where
  ownerToken := ownerToken
  fenceToken := 1
  attemptCount := 1
  status := .running
  expiresAt := expiresAt
  analysisRunId := none
  lastErrorCode := none
  completedAt := none

def takeOver (row : CaseAnalysisGeneration) (ownerToken : Nat) (expiresAt : Instant)
    : CaseAnalysisGeneration where
  ownerToken := ownerToken
  fenceToken := row.fenceToken + 1
  attemptCount := row.attemptCount + 1
  status := .running
  expiresAt := expiresAt
  analysisRunId := none
  lastErrorCode := none
  completedAt := none

/--
The row is running under the owner and the fence of the lease.
-/
def isHeldBy (row : CaseAnalysisGeneration) (lease : DecisionGenerationLease) : Bool :=
  row.ownerToken = lease.ownerToken ∧ row.fenceToken = lease.fenceToken ∧ row.status = .running

end CaseAnalysisGeneration

/--
The answer to a worker that asks to generate the brief of `inputFingerprint`.
-/
inductive GenerationReservation (inputFingerprint : String) where
  | leased (lease : DecisionGenerationLease)
      (lease_inputFingerprint : lease.inputFingerprint = inputFingerprint)
  | completed (analysisRunId : Nat)

/--
The ceiling of the seconds from `now` to `expiresAt`, one at least.
-/
def retryAfterSeconds (now expiresAt : Instant) : Int :=
  max 1 (-((now - expiresAt) / seconds 1))

namespace Store

def acquireGeneration (s : Store) (now : Instant) (ownerToken : Nat) (caseId : Nat)
    (inputFingerprint : String) (leaseSeconds maxAttempts : Nat)
    : Except Error (Store × GenerationReservation inputFingerprint) := do
  ensure (1 ≤ leaseSeconds) (.valueError "lease_seconds must be positive")
  ensure (1 ≤ maxAttempts) (.valueError "max_attempts must be positive")
  let _ ← orThrow s.cases[caseId]? (.policyNotFound "The case was not found.")
  match s.generations caseId inputFingerprint with
  | none =>
    let row := CaseAnalysisGeneration.first ownerToken (now + seconds leaseSeconds)
    pure (s.setGeneration caseId inputFingerprint row, .leased (row.lease inputFingerprint) rfl)
  | some existing =>
    ensure (¬ (existing.status = .running ∧ now < existing.expiresAt))
      (.decisionGenerationInProgress (retryAfterSeconds now existing.expiresAt))
    if existing.status = .completed then
      let analysisRunId ← orThrow existing.analysisRunId
        (.decisionGenerationLeaseLost "The completed generation has no reusable analysis run.")
      pure (s, .completed analysisRunId)
    else
      ensure (existing.attemptCount < maxAttempts)
        (.decisionGenerationRetryExhausted
          "Decision generation retry limit reached for this input snapshot.")
      let row := existing.takeOver ownerToken (now + seconds leaseSeconds)
      pure (s.setGeneration caseId inputFingerprint row, .leased (row.lease inputFingerprint) rfl)

/--
The generation row a lease holds, if it still holds one.
-/
def heldGeneration (s : Store) (caseId : Nat) (lease : DecisionGenerationLease)
    : Option CaseAnalysisGeneration :=
  (s.generations caseId lease.inputFingerprint).filter fun row => row.isHeldBy lease

def completeGeneration (s : Store) (now : Instant) (caseId : Nat) (lease : DecisionGenerationLease)
    (analysisRunId : Nat) : Except Error Store := do
  let _ ← orThrow s.cases[caseId]? (.policyNotFound "The case was not found.")
  let row ← orThrow (s.heldGeneration caseId lease)
    (.decisionGenerationLeaseLost
      "Decision generation ownership expired before the result was saved.")
  pure <| s.setGeneration caseId lease.inputFingerprint
    { row with
      status := .completed
      analysisRunId := some analysisRunId
      completedAt := some now
      expiresAt := now
      lastErrorCode := none }

def failGeneration (s : Store) (now : Instant) (caseId : Nat) (lease : DecisionGenerationLease)
    (errorCode : String) : Except Error (Store × Bool) := do
  let _ ← orThrow s.cases[caseId]? (.policyNotFound "The case was not found.")
  match s.heldGeneration caseId lease with
  | none => pure (s, false)
  | some row =>
    let failed := { row with
      status := .failed
      expiresAt := now
      lastErrorCode := some (errorCode.take 64).toString }
    pure (s.setGeneration caseId lease.inputFingerprint failed, true)

end Store

end CaseResolution
