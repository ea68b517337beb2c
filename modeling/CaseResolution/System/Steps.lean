import CaseResolution.Actions.Lemmas.Steps
import CaseResolution.Briefs.Lemmas.Generation
import CaseResolution.Briefs.Lemmas.Writer
import CaseResolution.Reviews.Lemmas.Steps
import Mathlib.Logic.Relation

/-!
This module contains the elementary writes of the service. Every command is a sequence of them, so
what all of them keep is kept by every command.
-/

namespace CaseResolution

namespace Store

/--
A later row of a case counts every write.
-/
def CaseGrows (c d : Case) : Prop :=
  c.version ≤ d.version ∧ (c.version = d.version → d = c)

def ProposalGrows (p q : CaseProposal) : Prop :=
  q.caseId = p.caseId ∧ p.currentVersion ≤ q.currentVersion

/--
What no write takes back from a store.
-/
structure Grows (s t : Store) : Prop where
  cases : Rows.Extends CaseGrows s.cases t.cases
  proposals : Rows.Extends ProposalGrows s.proposals t.proposals
  runs : Rows.Extends Eq s.runs t.runs
  versions : Rows.Extends Eq s.versions t.versions
  reviews : Rows.Extends CaseReview.Persists s.reviews t.reviews
  actions : Rows.Extends CaseAction.Persists s.actions t.actions
  connections : s.connections.length ≤ t.connections.length

/--
The rows a review is about exist, and its snapshot names the version it is about.
-/
def ReviewLinked (s : Store) (r : CaseReview) : Prop :=
  ∃ case proposal version,
    s.cases[r.caseId]? = some case
      ∧ s.proposals[r.proposalId]? = some proposal
      ∧ s.versions[r.proposalVersionId]? = some version
      ∧ proposal.caseId = r.caseId
      ∧ version.caseId = r.caseId
      ∧ version.proposalId = r.proposalId
      ∧ version.version = r.snapshot.proposalVersion

/--
An eligible snapshot was taken of the case while it waited for the review.
-/
def SnapshotTaken (s : Store) (r : CaseReview) : Prop :=
  r.snapshot.executionEligible = true → ∃ case, s.cases[r.caseId]? = some case
    ∧ r.snapshot.caseVersion ≤ case.version
    ∧ (r.snapshot.caseVersion = case.version → case.status = .needsReview)

/--
The case of a review the service itself submitted waits for it until it is moved again.
-/
def WaitsFor (s : Store) (r : CaseReview) : Prop :=
  r.snapshot.approvalRuleId ≠ "APR-LEGACY" → ∃ case, s.cases[r.caseId]? = some case
    ∧ r.snapshot.caseVersion ≤ case.version
    ∧ (r.snapshot.caseVersion = case.version → case.status = .needsReview)

/--
An action descends from an approved review and does what the reviewed version proposes.
-/
def ActionLinked (s : Store) (a : CaseAction) : Prop :=
  ∃ review decision version proposedAction,
    s.reviews[a.reviewId]? = some review
      ∧ review.decisions[a.reviewDecisionId]? = some decision
      ∧ decision.decision = .approve
      ∧ s.versions[a.proposalVersionId]? = some version
      ∧ version.proposedActions[a.proposedActionId]? = some proposedAction
      ∧ a.caseId = review.caseId
      ∧ a.proposalId = review.proposalId
      ∧ a.proposalVersionId = review.proposalVersionId
      ∧ a.type = proposedAction.type
      ∧ a.connectionId < s.connections.length
      ∧ (a.executionEligible = true → a.typedParameters = proposedAction.parameters
        ∧ review.snapshot.executionEligible = true
        ∧ version.legacyProposalVersionId = none
        ∧ decision.snapshotFingerprint = review.snapshot.snapshotFingerprint)

/--
The approval of an action cannot authorize it any more.
-/
def Spent (s : Store) (a : CaseAction) : Prop :=
  a.executionEligible = false ∨ ∃ review case, s.reviews[a.reviewId]? = some review
    ∧ s.cases[a.caseId]? = some case ∧ review.snapshot.caseVersion < case.version

/--
A review as it is added to a store.
-/
structure NewReview (s : Store) (r : CaseReview) : Prop where
  linked : s.ReviewLinked r
  valid : r.Valid
  taken : s.SnapshotTaken r
  waits : s.WaitsFor r
  fingerprint : ∀ q ∈ s.reviews,
    q.snapshot.snapshotFingerprint ≠ r.snapshot.snapshotFingerprint
  historical : ∀ d ∈ r.decisions, d.legacyDecisionId ≠ none
  unreserved : ∀ p ∈ r.reservations, p.legacyReservationId ≠ none
  attributed : r.decisions ≠ [] → r.IsImported

/--
An action as it is added to a store.
-/
structure NewAction (s : Store) (a : CaseAction) : Prop where
  linked : s.ActionLinked a
  valid : a.Valid
  uncompleted : a.status = .completed → a.executionEligible = false
  untouched : ¬ a.IsImported → a.status = .ready
  receipts_imported : ∀ r ∈ a.receipts, r.legacyExternalReceiptId ≠ none

/--
A write of the tables that neither cases, briefs, reviews nor actions are kept in.
-/
structure Maintains (s t : Store) : Prop where
  cases : t.cases = s.cases
  runs : t.runs = s.runs
  proposals : t.proposals = s.proposals
  versions : t.versions = s.versions
  reviews : t.reviews = s.reviews
  actions : t.actions = s.actions
  generations : t.generations = s.generations
  connections : s.connections.length ≤ t.connections.length

end Store

variable [Digest]

/--
The elementary writes of a command.
-/
inductive Write (c : Command) (s : Store) : Store → Prop where
  | maintained {t : Store} (maintains : s.Maintains t) : Write c s t
  | caseOpened (case : Case) : Write c s (s.openCase case)
  | caseMoved (caseId : Nat) (case moved : Case) (found : s.cases[caseId]? = some case)
      (counted : moved.version = case.version + 1) : Write c s (s.setCase caseId moved)
  | generationStepped (caseId : Nat) (inputFingerprint : String) (row : CaseAnalysisGeneration)
      (step : GenerationStep c (s.findRun caseId inputFingerprint)
        (s.generations caseId inputFingerprint) row)
      : Write c s (s.setGeneration caseId inputFingerprint row)
  | briefRecorded {t : Store} (run : CaseAnalysisRun) (v : CaseProposalVersion) (p : CaseProposal)
      (records : s.RecordsBrief t run v p) : Write c s t
  | proposalMoved (proposalId : Nat) (proposal : CaseProposal) (state : DecisionProposalState)
      (found : s.proposals[proposalId]? = some proposal)
      : Write c s (s.setProposal proposalId
          { proposal with state, version := proposal.version + 1 })
  | reviewAdded (r : CaseReview) (added : s.NewReview r)
      : Write c s { s with reviews := s.reviews ++ [r] }
  | reviewStepped (i : Nat) (r q : CaseReview) (found : s.reviews[i]? = some r)
      (step : ReviewStep c i r q) : Write c s (s.setReview i q)
  | actionAdded (a : CaseAction) (added : s.NewAction a)
      : Write c s { s with actions := s.actions ++ [a] }
  | actionStepped (i : Nat) (a b : CaseAction) (found : s.actions[i]? = some a)
      (step : ActionStep c i a b)
      (uncompleted : b.status = .completed → a.status = .completed ∨ b.executionEligible = false)
      : Write c s (s.setAction i b)
  | actionCompleted (i : Nat) (a b : CaseAction) (case : Case) (found : s.actions[i]? = some a)
      (step : ActionStep c i a b) (hcase : s.cases[a.caseId]? = some case)
      : Write c s ((s.setAction i b).setCase a.caseId (Store.completedCase case))

/--
The writes of a command one after the other.
-/
abbrev Writes (c : Command) : Store → Store → Prop :=
  Relation.ReflTransGen (Write c)

end CaseResolution
