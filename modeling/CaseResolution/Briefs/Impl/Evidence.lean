import CaseResolution.Store

/-!
This module contains the binding of policy evidence to a case: what retrieval resolved is stored once
per fingerprint and compared again before a brief is persisted.
-/

namespace CaseResolution

open Guard

namespace Store

/--
The version a binding cites is still the one retrieval read.
-/
def bindingIsCurrent (s : Store) (binding : PolicyEvidenceBinding) : Bool :=
  (s.policyVersions[binding.policyVersionId]?).any fun version =>
    version.recordVersion = binding.recordVersion ∧ version.immutable
      ∧ (version.status = .published ∨ version.status = .scheduled)

def newEvidence (s : Store) (caseId : Nat) (binding : PolicyEvidenceBinding)
    : CasePolicyEvidence where
  caseId := caseId
  publicId := s!"EVD-{s.policyEvidence.length}"
  fingerprint := binding.fingerprint
  freshness := .current
  conflictState := .none
  policyVersionId := binding.policyVersionId
  clauseId := binding.clauseId
  policyContentHash := binding.versionContentHash
  clauseContentHash := binding.clauseContentHash

def bindEvidenceRow (s : Store) (caseId : Nat) (binding : PolicyEvidenceBinding)
    : Except Error (Store × PolicyEvidenceBundle) := do
  ensure (s.bindingIsCurrent binding)
    (.policyVersionConcurrencyConflict binding.recordVersion
      ((s.policyVersions[binding.policyVersionId]?).elim 1 fun version => version.recordVersion))
  match s.policyEvidence.find? fun row =>
      row.caseId = caseId ∧ row.fingerprint = binding.fingerprint with
  | some row =>
    pure (s, { publicId := row.publicId, fingerprint := row.fingerprint, binding })
  | none =>
    let row := s.newEvidence caseId binding
    pure ({ s with policyEvidence := s.policyEvidence ++ [row] },
      { publicId := row.publicId, fingerprint := row.fingerprint, binding })

def bindEvidence (caseId : Nat)
    : List PolicyEvidenceBinding → Store → Except Error (Store × List PolicyEvidenceBundle)
  | [], s => pure (s, [])
  | binding :: rest, s => do
    let (bound, bundle) ← s.bindEvidenceRow caseId binding
    let (final, bundles) ← bindEvidence caseId rest bound
    pure (final, bundle :: bundles)

/--
Store what retrieval resolved for the case. `resolution` stands for the retrieval itself.
-/
def refreshForCase (s : Store) (caseId : Nat) (resolution : PolicyResolution)
    : Except Error (Store × EvidenceRetrievalResult) := do
  if resolution.status ≠ .relevant then
    pure (s, { status := resolution.status, evidence := [] })
  else
    let (bound, evidence) ← bindEvidence caseId resolution.bindings s
    pure (bound, { status := .relevant, evidence })

end Store

/--
What is compared of a binding and of the evidence stored for one.
-/
def bindingSnapshot (binding : PolicyEvidenceBinding) (fingerprint : String)
    : Nat × String × Nat × String × String :=
  (binding.policyVersionId, binding.versionContentHash, binding.clauseId,
    binding.clauseContentHash, fingerprint)

/--
Retrieval resolves the evidence a brief was generated from.
-/
def isCurrentForCase (resolution : PolicyResolution) (expected : EvidenceRetrievalResult) : Bool :=
  if resolution.status ≠ expected.status then
    false
  else if resolution.status ≠ .relevant then
    expected.evidence.isEmpty
  else
    let found := resolution.bindings.map fun binding => bindingSnapshot binding binding.fingerprint
    let wanted := expected.evidence.map fun bundle =>
      bindingSnapshot bundle.binding bundle.fingerprint
    found.all (fun snapshot => snapshot ∈ wanted) && wanted.all (fun snapshot => snapshot ∈ found)

end CaseResolution
