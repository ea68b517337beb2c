import CaseResolution.Store

/-!
This module contains the commands of the case repository that move a case or the material a decision
brief is generated from.
-/

namespace CaseResolution

open Guard

namespace Store

/--
Apply `values` to a case if it is still at the expected version, and count the write.
-/
def updateCase (s : Store) (caseId : Nat) (expectedVersion : Nat) (values : Case → Case)
    : Except Error Store := do
  let case ← orThrow s.cases[caseId]? (.caseNotFound "The case was not found.")
  ensure (case.version = expectedVersion)
    (.caseConcurrencyConflict expectedVersion case.version)
  pure <| s.setCase caseId { values case with version := case.version + 1 }

def assignToActor (s : Store) (caseId : Nat) (actorId : String) (expectedVersion : Nat)
    : Except Error Store := do
  let _ ← orThrow s.cases[caseId]? (.caseNotFound "The case was not found.")
  let (memberId, _) ← orThrow (s.activeMember actorId)
    (.caseActorNotAssignable "The actor is not an active organization member.")
  s.updateCase caseId expectedVersion fun case => { case with ownerId := some memberId }

def changeStatus (s : Store) (caseId : Nat) (expectedVersion : Nat) (target : CaseStatus)
    : Except Error Store :=
  s.updateCase caseId expectedVersion fun case => { case with status := target }

def addMessage (s : Store) (caseId : Nat) (expectedCaseVersion : Nat) : Except Error Store :=
  s.updateCase caseId expectedCaseVersion id

def matchesBusinessEvidence (existing : BusinessObjectSnapshot) (evidence : BusinessEvidenceCreate)
    : Bool :=
  existing.label = evidence.label
    ∧ existing.source = evidence.source
    ∧ existing.status = evidence.status
    ∧ existing.fields = evidence.fields
    ∧ existing.sourceFreshness = .current

def newContext [Digest] (case : Case) (caseId : Nat) (evidence : BusinessEvidenceCreate)
    (now : Instant) : BusinessObjectSnapshot where
  caseId := caseId
  publicId := "CTX-MAN-" ++ Digest.short
    ("\x00".intercalate [case.publicId, evidence.type, evidence.sourceReference])
  objectType := evidence.type
  label := evidence.label
  source := evidence.source
  sourceReference := evidence.sourceReference
  status := evidence.status
  fields := evidence.fields
  capturedAt := now
  sourceFreshness := .current
  sourceCheckedAt := some now
  version := 1

def addBusinessEvidence [Digest] (s : Store) (now : Instant) (caseId : Nat)
    (expectedCaseVersion : Nat) (evidence : BusinessEvidenceCreate) : Except Error Store := do
  let case ← orThrow s.cases[caseId]? (.caseNotFound "The case was not found.")
  let existing := s.contexts.find? fun context =>
    context.caseId = caseId ∧ context.objectType = evidence.type
      ∧ context.sourceReference = evidence.sourceReference
  match existing with
  | some existing =>
    ensure (matchesBusinessEvidence existing evidence)
      (.businessEvidenceConflict "A record with this type and source reference already exists.")
    pure s
  | none =>
    let updated ← s.updateCase caseId expectedCaseVersion id
    pure { updated with contexts := updated.contexts ++ [newContext case caseId evidence now] }

/--
A message from the connected inbox always moves the case.
-/
def appendMessage (s : Store) (caseId : Nat) : Except Error Store := do
  let case ← orThrow s.cases[caseId]? (.caseNotFound "The case was not found.")
  pure <| s.setCase caseId { case with version := case.version + 1 }

def saveDraft (s : Store) (caseId : Nat) (expectedVersion : Nat) (subject body : String)
    : Except Error Store := do
  let _ ← orThrow s.cases[caseId]? (.caseNotFound "The case was not found.")
  match s.drafts.findIdx? fun draft => draft.caseId = caseId with
  | none =>
    ensure (expectedVersion = 0) (.draftConcurrencyConflict expectedVersion 0)
    pure { s with
      drafts := s.drafts ++ [{ caseId, subject, body, status := .draft, version := 1 }] }
  | some draftId =>
    let current ← orThrow s.drafts[draftId]? (.caseNotFound "The response draft was not found.")
    ensure (current.version = expectedVersion)
      (.draftConcurrencyConflict expectedVersion current.version)
    pure { s with
      drafts := s.drafts.set draftId
        { current with subject, body, status := .draft, version := current.version + 1 } }

end Store

end CaseResolution
