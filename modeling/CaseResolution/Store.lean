import CaseResolution.Domain.Cases
import CaseResolution.Domain.Error
import CaseResolution.Domain.Reviews
import CaseResolution.Lib.Guard
import CaseResolution.Lib.Rows

/-!
This module contains the database of one organization. A table is the list of its rows and a row is
identified by its position. No row is ever deleted, so rows that never refer to another table's row
by name find it again in every later database.
-/

namespace CaseResolution

structure Store where
  organizationPublicId : String
  members : List Membership
  approvalRuleVersion : Nat
  connections : List Connection
  policyVersions : List GovernedPolicyVersion
  policyClauses : List GovernedPolicyClause
  legacyReservations : List ReviewerReservation
  legacyDecisions : List ApprovalDecision
  cases : List Case
  contexts : List BusinessObjectSnapshot
  drafts : List ResponseDraft
  policyEvidence : List CasePolicyEvidence
  generations : Nat → String → Option CaseAnalysisGeneration
  runs : List CaseAnalysisRun
  proposals : List CaseProposal
  versions : List CaseProposalVersion
  reviews : List CaseReview
  actions : List CaseAction

namespace Store

def setCase (s : Store) (caseId : Nat) (case : Case) : Store :=
  { s with cases := s.cases.set caseId case }

def setProposal (s : Store) (proposalId : Nat) (proposal : CaseProposal) : Store :=
  { s with proposals := s.proposals.set proposalId proposal }

def setReview (s : Store) (reviewId : Nat) (review : CaseReview) : Store :=
  { s with reviews := s.reviews.set reviewId review }

def setAction (s : Store) (actionId : Nat) (action : CaseAction) : Store :=
  { s with actions := s.actions.set actionId action }

def setGeneration (s : Store) (caseId : Nat) (inputFingerprint : String)
    (row : CaseAnalysisGeneration) : Store :=
  { s with
    generations := fun c fp =>
      if c = caseId ∧ fp = inputFingerprint then some row else s.generations c fp }

section Setters

variable (s : Store) (i : Nat)

@[simp]
theorem setCase_cases (c : Case) : (s.setCase i c).cases = s.cases.set i c := rfl

@[simp]
theorem setCase_proposals (c : Case) : (s.setCase i c).proposals = s.proposals := rfl

@[simp]
theorem setCase_versions (c : Case) : (s.setCase i c).versions = s.versions := rfl

@[simp]
theorem setCase_reviews (c : Case) : (s.setCase i c).reviews = s.reviews := rfl

@[simp]
theorem setCase_actions (c : Case) : (s.setCase i c).actions = s.actions := rfl

@[simp]
theorem setCase_connections (c : Case) : (s.setCase i c).connections = s.connections := rfl

@[simp]
theorem setCase_members (c : Case) : (s.setCase i c).members = s.members := rfl

@[simp]
theorem setProposal_cases (p : CaseProposal) : (s.setProposal i p).cases = s.cases := rfl

@[simp]
theorem setProposal_proposals (p : CaseProposal)
    : (s.setProposal i p).proposals = s.proposals.set i p := rfl

@[simp]
theorem setProposal_versions (p : CaseProposal) : (s.setProposal i p).versions = s.versions := rfl

@[simp]
theorem setProposal_reviews (p : CaseProposal) : (s.setProposal i p).reviews = s.reviews := rfl

@[simp]
theorem setProposal_actions (p : CaseProposal) : (s.setProposal i p).actions = s.actions := rfl

@[simp]
theorem setReview_cases (r : CaseReview) : (s.setReview i r).cases = s.cases := rfl

@[simp]
theorem setReview_proposals (r : CaseReview) : (s.setReview i r).proposals = s.proposals := rfl

@[simp]
theorem setReview_versions (r : CaseReview) : (s.setReview i r).versions = s.versions := rfl

@[simp]
theorem setReview_reviews (r : CaseReview) : (s.setReview i r).reviews = s.reviews.set i r := rfl

@[simp]
theorem setReview_actions (r : CaseReview) : (s.setReview i r).actions = s.actions := rfl

@[simp]
theorem setAction_cases (a : CaseAction) : (s.setAction i a).cases = s.cases := rfl

@[simp]
theorem setAction_proposals (a : CaseAction) : (s.setAction i a).proposals = s.proposals := rfl

@[simp]
theorem setAction_versions (a : CaseAction) : (s.setAction i a).versions = s.versions := rfl

@[simp]
theorem setAction_reviews (a : CaseAction) : (s.setAction i a).reviews = s.reviews := rfl

@[simp]
theorem setAction_actions (a : CaseAction) : (s.setAction i a).actions = s.actions.set i a := rfl

@[simp]
theorem setAction_connections (a : CaseAction) : (s.setAction i a).connections = s.connections := rfl

@[simp]
theorem setAction_members (a : CaseAction) : (s.setAction i a).members = s.members := rfl

theorem setAction_setAction (a b : CaseAction) : (s.setAction i a).setAction i b = s.setAction i b := by
  simp [setAction]

end Setters

/--
The proposal of a case.
-/
def findProposal (s : Store) (caseId : Nat) : Option Nat :=
  s.proposals.findIdx? fun proposal => proposal.caseId = caseId

/--
The active member an actor id names, by public id or by subject.
-/
def activeMember (s : Store) (actorId : String) : Option (Nat × Membership) :=
  (s.members.zipIdx.map Prod.swap).find? fun (_, member) =>
    member.status = .active ∧ (member.publicId = actorId ∨ member.subjectId = actorId)

theorem activeMember_eq_some {s : Store} {actorId : String} {memberId : Nat} {member : Membership}
    (h : s.activeMember actorId = some (memberId, member))
    : s.members[memberId]? = some member ∧ member.status = .active
        ∧ (member.publicId = actorId ∨ member.subjectId = actorId) := by
  unfold activeMember at h
  have hmem := List.mem_of_find?_eq_some h
  have hfound := List.find?_some h
  simp only [List.mem_map, Prod.exists, Prod.swap_prod_mk, Prod.mk.injEq] at hmem
  obtain ⟨m, i, hzip, rfl, rfl⟩ := hmem
  exact ⟨by simpa using List.mem_zipIdx_iff_getElem?.mp hzip, by simpa using hfound⟩

end Store

end CaseResolution
