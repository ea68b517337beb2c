import CaseResolution.System.Refinement

/-!
This module contains the stores the service starts from and the invariant of every store it reaches
from them.
-/

namespace CaseResolution

/--
A store before its first review: cases and briefs may have been imported already.
-/
structure InitialStore where
  store : Store
  history : store.BriefHistory
  generations_empty : ∀ caseId inputFingerprint, store.generations caseId inputFingerprint = none
  reviews_empty : store.reviews = []
  actions_empty : store.actions = []

theorem InitialStore.sound (init : InitialStore) : init.store.Sound where
  history := init.history
  generations := by simp [init.generations_empty]
  reviews_linked := by simp [init.reviews_empty]
  reviews_valid := by simp [init.reviews_empty]
  reviews_taken := by simp [init.reviews_empty]
  fingerprint_unique := by simp [init.reviews_empty]
  actions_linked := by simp [init.actions_empty]
  actions_valid := by simp [init.actions_empty]
  completed_spent := by simp [init.actions_empty]

variable [Digest]

/--
The store after a run of commands.
-/
def InitialStore.after (init : InitialStore) (commands : List Command) : Store :=
  service.run init.store commands

namespace InitialStore

variable (init : InitialStore) (commands : List Command)

theorem after_sound : (init.after commands).Sound :=
  run_sound init.sound commands

theorem after_append (more : List Command)
    : init.after (commands ++ more) = service.run (init.after commands) more :=
  Machine.run_append service init.store commands more

theorem after_concat (c : Command)
    : init.after (commands ++ [c]) = service.next (init.after commands) c :=
  Machine.run_concat service init.store commands c

theorem after_grows (more : List Command)
    : (init.after commands).Grows (init.after (commands ++ more)) := by
  rw [after_append]
  exact run_grows (init.after_sound commands) more

/--
What every new action satisfies and every step of an action preserves holds after every run.
-/
theorem action_invariant {i : Nat} {P : CaseAction → Prop}
    (hnew : ∀ (u : Store) (a : CaseAction), u.NewAction a → P a)
    (hstep : ∀ c a b, ActionStep c i a b → a.Valid → P a → P b)
    : ∀ a, (init.after commands).actions[i]? = some a → P a := by
  induction commands using List.reverseRecOn with
  | nil =>
    intro a ha
    simp [after, init.actions_empty] at ha
  | append_singleton commands c ih =>
    rw [after_concat]
    exact Writes.action_invariant hnew (hstep c) (next_writes (init.after_sound commands) c)
      (init.after_sound commands) ih

/--
What every new review satisfies and every step of a review preserves holds after every run. It may
speak about the commands so far, as long as later commands do not undo it.
-/
theorem review_invariant {i : Nat} {P : List Command → CaseReview → Prop}
    (hmono : ∀ commands c r, P commands r → P (commands ++ [c]) r)
    (hnew : ∀ (commands : List Command) (u : Store) (r : CaseReview), u.NewReview r → P commands r)
    (hstep : ∀ commands c r q, ReviewStep c i r q → r.Valid → P (commands ++ [c]) r
      → P (commands ++ [c]) q)
    : ∀ r, (init.after commands).reviews[i]? = some r → P commands r := by
  induction commands using List.reverseRecOn with
  | nil =>
    intro r hr
    simp [after, init.reviews_empty] at hr
  | append_singleton commands c ih =>
    rw [after_concat]
    exact Writes.review_invariant (P := P (commands ++ [c])) (hnew _) (hstep commands c)
      (next_writes (init.after_sound commands) c) (init.after_sound commands)
      fun r hr => hmono commands c r (ih r hr)

end InitialStore

/-!
The rest of this module is a small store to evaluate the model on: a refund that is worked on now and
an account case with the records of the legacy product.
-/

namespace Sample

attribute [local instance] Digest.checksum

def specialist : Membership :=
  { publicId := "MB-1", subjectId := "specialist", role := .specialist, status := .active }

def supervisor : Membership :=
  { publicId := "MB-2", subjectId := "supervisor", role := .supervisor, status := .active }

def billing : Connection where
  publicId := "CN-1"
  providerType := "billing"
  adapterKey := "http"
  environment := .production
  health := .healthy
  lastCheckedAt := some 0
  credentialStatus := .connected
  actionTypes := ["issue_refund", "reverse_duplicate_charge"]

def refundCase : Case where
  publicId := "CS-1"
  externalReference := some "INV-1"
  category := .refundRequest
  requestSummary := "Refund a charge"
  status := .investigating
  ownerId := some 0
  version := 1

def accountCase : Case where
  publicId := "CS-2"
  externalReference := none
  category := .accountAccess
  requestSummary := "Restore an account"
  status := .investigating
  ownerId := none
  version := 1

def invoice : BusinessObjectSnapshot where
  caseId := 0
  publicId := "CTX-1"
  objectType := "invoice"
  label := "Invoice"
  source := "billing"
  sourceReference := "INV-1"
  status := "paid"
  fields := [("amount", "10")]
  capturedAt := 0
  sourceFreshness := .current
  sourceCheckedAt := some 0
  version := 1

def policy : GovernedPolicyVersion where
  recordVersion := 1
  immutable := true
  contentHash := "policy"
  status := .published
  effectiveFrom := some 0
  effectiveTo := none

def legacyRun : CaseAnalysisRun where
  caseId := 1
  status := .completed
  policyStatus := .relevant
  caseVersion := 1
  inputFingerprint := "legacy"
  contextFingerprint := "legacy"
  evidenceFingerprint := "legacy"
  modelVersion := "legacy"
  promptVersion := "legacy"
  graphVersion := "legacy"
  riskRuleVersion := "legacy"

def legacyVersion : CaseProposalVersion where
  caseId := 1
  proposalId := 0
  analysisRunId := 0
  legacyProposalVersionId := some 100
  version := 1
  state := .approved
  contextFingerprint := "legacy"
  evidenceFingerprint := "legacy"
  riskFingerprint := "legacy"
  riskRuleVersion := "legacy"
  evidenceBindings := []
  contextBindings := []
  proposedActions :=
    [{ type := "start_verified_recovery", parameters := [], reviewRequired := true }]
  responseDraft := none

def store : Store where
  organizationPublicId := "ORG-1"
  members := [specialist, supervisor]
  approvalRuleVersion := 1
  connections := [billing]
  policyVersions := [policy]
  policyClauses := [{ contentHash := "clause" }]
  legacyReservations := [{
    id := 1, proposalId := 100, proposalVersion := 1, evidenceFingerprint := "legacy"
    reviewerId := "reviewer", reviewerRole := "supervisor"
  }]
  legacyDecisions := [{
    id := 1, proposalId := 100, reservationId := 1, proposalVersion := 1
    evidenceFingerprint := "legacy", reviewerId := "reviewer", reviewerRole := "supervisor"
    outcome := "approved", decidedAt := 0
  }]
  cases := [refundCase, accountCase]
  contexts := [invoice]
  drafts := []
  policyEvidence := []
  generations _ _ := none
  runs := [legacyRun]
  proposals := [{ caseId := 1, currentVersion := 1, state := .approved, version := 1 }]
  versions := [legacyVersion]
  reviews := []
  actions := []

def initial : InitialStore where
  store := store
  history := {
    proposal_case := by decide
    proposal_unique := by simp +contextual [store, List.getElem?_singleton]
    version_proposal := by decide
    version_unique := by simp +contextual [store, List.getElem?_singleton]
    current := by simp [store, List.getElem?_singleton, legacyVersion]
    version_run := by simp [store, legacyVersion, legacyRun]
    run_version := by simp [store, List.getElem?_singleton, legacyVersion]
    run_order := by simp [store]
    run_unique := by simp +contextual [store, List.getElem?_singleton]
  }
  generations_empty _ _ := rfl
  reviews_empty := rfl
  actions_empty := rfl

def engine : EngineVersions where
  modelVersion := "model"
  promptVersion := "prompt"
  graphVersion := "graph"
  riskRuleVersion := "rules"

def manager : ActorContext where
  actorId := "MB-2"
  role := some .supervisor
  permissions := MemberRole.supervisor.grants

def binding (fingerprint : String) : PolicyEvidenceBinding where
  policyVersionId := 0
  recordVersion := 1
  versionContentHash := "policy"
  clauseId := 0
  clauseContentHash := "clause"
  fingerprint := fingerprint

def resolution (fingerprint : String) : PolicyResolution where
  status := .relevant
  bindings := [binding fingerprint]

/--
The evidence that is stored for a fingerprint as the row `row`.
-/
def evidence (fingerprint row : String) : EvidenceRetrievalResult where
  status := .relevant
  evidence := [{ publicId := row, fingerprint := fingerprint, binding := binding fingerprint }]

def inputFingerprint (fingerprint row : String) : String :=
  decisionInputFingerprint refundCase (evidence fingerprint row) (combinedContextFingerprint [invoice])
    (combinedEvidenceFingerprint (evidence fingerprint row)) engine

def plan (fingerprint row : String) (ownerToken : Nat) : DecisionBriefGenerationPlan where
  workspace := { case := refundCase, businessContexts := [invoice] }
  evidence := evidence fingerprint row
  expectedCaseVersion := 1
  inputFingerprint := inputFingerprint fingerprint row
  contextFingerprint := combinedContextFingerprint [invoice]
  evidenceFingerprint := combinedEvidenceFingerprint (evidence fingerprint row)
  lease := {
    inputFingerprint := inputFingerprint fingerprint row
    ownerToken := ownerToken
    fenceToken := 1
    attempt := 1
    expiresAt := seconds 60
  }
  lease_inputFingerprint := rfl

def analysis : DecisionAnalysis where
  status := .completed
  policyStatus := .relevant
  risks := []
  state := .readyForReview
  proposedActions := [
    { type := "issue_refund", parameters := [("invoice_id", "INV-1")], reviewRequired := true },
    { type := "reverse_duplicate_charge", parameters := [("invoice_id", "INV-1")]
      reviewRequired := true }]
  responseDraft := { subject := "Refund", body := "We refunded the charge.", status := .ready }
  modelVersion := "model"
  promptVersion := "prompt"
  graphVersion := "graph"
  riskRuleVersion := "rules"

/--
Generate the brief of the refund from one piece of policy evidence.
-/
def generate (fingerprint row : String) (ownerToken : Nat) : List Command :=
  [.prepareGeneration 0 ownerToken manager engine 0 1 (resolution fingerprint),
    .persistGeneration 0 manager 0 (plan fingerprint row ownerToken) analysis
      (resolution fingerprint)]

def submission : ReviewSubmission where
  expectedCaseVersion := 1
  proposalVersion := 1
  policyState := .supported
  proposalFingerprint := "proposal"
  contextFingerprint := combinedContextFingerprint [invoice]
  evidenceFingerprint := combinedEvidenceFingerprint (evidence "A" "EVD-0")
  riskFingerprint := riskFingerprint []
  riskRuleVersion := "rules"
  snapshotFingerprint := "snapshot"
  approvalRule := { publicId := "APR-1", requiredRole := .supervisor, version := 1 }
  executionEligible := true

/--
Bring the refund to an approved review with its actions.
-/
def approval : List Command :=
  generate "A" "EVD-0" 7 ++ [
    .submitReview 1 0 "MB-1" submission,
    .reserveReview 2 0 "MB-2" 1,
    .decideReview 3 0 "MB-2" 2 "snapshot" .approve "Within policy.",
    .materializeApprovedReview 4 0]

/--
Execute the first action of the approved review.
-/
def execution : List Command :=
  approval ++ [.prepareExecution 5 0 "MB-2" 1 .execute]

def executionLease : ActionExecutionLease where
  actionId := 0
  actionVersion := 2
  attemptId := 0
  actionType := "issue_refund"
  target := "INV-1"
  parameters := [("invoice_id", "INV-1")]
  idempotencyKey := "key"
  adapterKey := "http"
  providerType := "billing"

def reconciliationLease : ActionReconciliationLease where
  actionId := 0
  actionVersion := 4
  reconciliationId := 0
  actionType := "issue_refund"
  target := "INV-1"
  parameters := [("invoice_id", "INV-1")]
  idempotencyKey := "key"
  externalReference := none
  adapterKey := "http"
  providerType := "billing"

def nothingFound : ActionLookupResult where
  found := some false
  receipt := none
  detail := "No refund was made."
  absenceIsTerminal := true
  receipt_of_found := by simp
  found_of_receipt := by simp
  found_of_absent := by simp

end Sample

end CaseResolution
