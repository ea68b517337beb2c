import CaseResolution.Briefs.Impl.Retrieval
import CaseResolution.System.Reachable

/-!
This module contains when the evidence that is returned for a citation is evidence of the clause that
is cited.
-/

namespace CaseResolution

open Guard

def CasePolicyEvidence.Names (row : CasePolicyEvidence) (binding : PolicyEvidenceBinding) : Prop :=
  row.policyVersionId = binding.policyVersionId ∧ row.clauseId = binding.clauseId

instance (row : CasePolicyEvidence) (binding : PolicyEvidenceBinding) : Decidable (row.Names binding) :=
  inferInstanceAs (Decidable (_ ∧ _))

def PolicyEvidenceBinding.SameClause (a b : PolicyEvidenceBinding) : Prop :=
  a.policyVersionId = b.policyVersionId ∧ a.clauseId = b.clauseId

instance (a b : PolicyEvidenceBinding) : Decidable (a.SameClause b) :=
  inferInstanceAs (Decidable (_ ∧ _))

theorem CasePolicyEvidence.Names.sameClause {row : CasePolicyEvidence} {a b : PolicyEvidenceBinding}
    (ha : row.Names a) (hb : row.Names b) : a.SameClause b :=
  ⟨ha.1.symm.trans hb.1, ha.2.symm.trans hb.2⟩

theorem CasePolicyEvidence.Names.of_sameClause {row : CasePolicyEvidence} {a b : PolicyEvidenceBinding}
    (ha : row.Names a) (hab : a.SameClause b) : row.Names b :=
  ⟨ha.1.trans hab.1, ha.2.trans hab.2⟩

/--
Every bundle carries evidence of the clause it was returned for, and no evidence stands for two clauses.
-/
structure NameTheirClauses (bundles : List (CasePolicyEvidence × PolicyEvidenceBinding)) : Prop where
  named : ∀ bundle ∈ bundles, bundle.1.Names bundle.2
  unshared : bundles.Pairwise fun a b => a.1 = b.1 → a.2.SameClause b.2

theorem nameTheirClauses_iff {bundles : List (CasePolicyEvidence × PolicyEvidenceBinding)}
    : NameTheirClauses bundles ↔ ∀ bundle ∈ bundles, bundle.1.Names bundle.2 := by
  constructor
  . exact NameTheirClauses.named
  . intro hnamed
    refine ⟨hnamed, ?_⟩
    rw [List.pairwise_iff_forall_sublist]
    intro a b hsub heq
    have ha := hnamed a (hsub.subset (by simp))
    have hb := hnamed b (hsub.subset (by simp))
    rw [heq] at ha
    exact ha.sameClause hb

namespace Store

variable {s t : Store} {caseId : Nat}

/--
What is stored for the case under the fingerprint of a binding is evidence of its clause, and bindings of
one fingerprint cite one clause.
-/
structure FingerprintsApart (s : Store) (caseId : Nat) (bindings : List PolicyEvidenceBinding) : Prop where
  stored : ∀ binding ∈ bindings, ∀ row ∈ s.storedEvidence caseId binding.fingerprint, row.Names binding
  listed : bindings.Pairwise fun a b => a.fingerprint = b.fingerprint → a.SameClause b

theorem evidenceFor_names_iff {binding : PolicyEvidenceBinding}
    : (s.evidenceFor caseId binding).Names binding
        ↔ ∀ row ∈ s.storedEvidence caseId binding.fingerprint, row.Names binding := by
  unfold evidenceFor
  cases s.storedEvidence caseId binding.fingerprint with
  | none => simp [CasePolicyEvidence.Names, newEvidence]
  | some row => simp

/--
After a binding its evidence is stored under its fingerprint; under the others nothing has changed.
-/
theorem storedEvidence_bound {binding : PolicyEvidenceBinding} {bundle : PolicyEvidenceBundle}
    (h : s.bindEvidenceRow caseId binding = .ok (t, bundle)) (fingerprint : String)
    : t.storedEvidence caseId fingerprint
        = if fingerprint = binding.fingerprint then some (s.evidenceFor caseId binding)
          else s.storedEvidence caseId fingerprint := by
  unfold bindEvidenceRow at h
  rw [ensure_bind_eq_ok] at h
  replace h := h.2
  unfold evidenceFor
  split at h
  . next row hrow =>
    have hstored : s.storedEvidence caseId binding.fingerprint = some row := hrow
    simp only [pure_eq_ok, Prod.mk.injEq] at h
    rw [← h.1]
    split
    . next heq => rw [heq, hstored, Option.getD_some]
    . rfl
  . next hnone =>
    have hstored : s.storedEvidence caseId binding.fingerprint = none := hnone
    simp only [pure_eq_ok, Prod.mk.injEq] at h
    rw [← h.1]
    have happend : Store.storedEvidence
        { s with policyEvidence := s.policyEvidence ++ [s.newEvidence caseId binding] } caseId fingerprint
          = (s.storedEvidence caseId fingerprint).or
            ([s.newEvidence caseId binding].find? fun row =>
              row.caseId = caseId ∧ row.fingerprint = fingerprint) := by
      unfold storedEvidence
      rw [List.find?_append]
    rw [happend]
    split
    . next heq =>
      rw [heq, hstored]
      simp [newEvidence]
    . next hne =>
      have hother : ¬ binding.fingerprint = fingerprint := fun heq => hne heq.symm
      simp [newEvidence, hother]

/--
What is stored after a binding names the rest of the list exactly when what was stored before does, and
the rest of the list does not give its fingerprint to another clause.
-/
theorem stored_bound_iff {binding : PolicyEvidenceBinding} {bundle : PolicyEvidenceBundle}
    {rest : List PolicyEvidenceBinding} (h : s.bindEvidenceRow caseId binding = .ok (t, bundle))
    (hnames : (s.evidenceFor caseId binding).Names binding)
    : (∀ b ∈ rest, ∀ row ∈ t.storedEvidence caseId b.fingerprint, row.Names b)
        ↔ (∀ b ∈ rest, ∀ row ∈ s.storedEvidence caseId b.fingerprint, row.Names b)
          ∧ ∀ b ∈ rest, binding.fingerprint = b.fingerprint → binding.SameClause b := by
  simp only [storedEvidence_bound h]
  constructor
  . intro hrest
    constructor
    . intro b hb row hrow
      have hbound := hrest b hb
      split at hbound
      . next heq =>
        -- the row is the evidence the binding was returned with
        have hfor : s.evidenceFor caseId binding = row := by
          unfold evidenceFor
          rw [← heq, Option.mem_def.mp hrow, Option.getD_some]
        exact hbound row (by rw [hfor]; rfl)
      . exact hbound row hrow
    . intro b hb heq
      have hbound := hrest b hb
      rw [if_pos heq.symm] at hbound
      exact hnames.sameClause (hbound _ rfl)
  . rintro ⟨hstored, hlisted⟩ b hb row hrow
    split at hrow
    . next heq =>
      rw [Option.mem_some_iff] at hrow
      rw [← hrow]
      exact hnames.of_sameClause (hlisted b hb heq.symm)
    . exact hstored b hb row hrow

/--
A bundle without its row.
-/
def toBundle (bundle : CasePolicyEvidence × PolicyEvidenceBinding) : PolicyEvidenceBundle where
  publicId := bundle.1.publicId
  fingerprint := bundle.1.fingerprint
  binding := bundle.2

theorem bindEvidenceRow_bundle {binding : PolicyEvidenceBinding} {bundle : PolicyEvidenceBundle}
    (h : s.bindEvidenceRow caseId binding = .ok (t, bundle))
    : bundle = toBundle (s.evidenceFor caseId binding, binding) := by
  unfold bindEvidenceRow at h
  rw [ensure_bind_eq_ok] at h
  replace h := h.2
  unfold evidenceFor toBundle
  split at h
  . next row hrow =>
    have hstored : s.storedEvidence caseId binding.fingerprint = some row := hrow
    simp only [pure_eq_ok, Prod.mk.injEq] at h
    rw [← h.2, hstored]
    rfl
  . next hnone =>
    have hstored : s.storedEvidence caseId binding.fingerprint = none := hnone
    simp only [pure_eq_ok, Prod.mk.injEq] at h
    rw [← h.2, hstored]
    rfl

/--
`bindBundles` accepts what `bindEvidence` accepts, and its bundles carry the rows of those.
-/
theorem bindEvidence_eq_ok_iff {bindings : List PolicyEvidenceBinding}
    {bundles : List PolicyEvidenceBundle}
    : bindEvidence caseId bindings s = .ok (t, bundles)
        ↔ ∃ rows, bindBundles caseId bindings s = .ok (t, rows) ∧ bundles = rows.map toBundle := by
  induction bindings generalizing s t bundles with
  | nil =>
    simp only [bindEvidence, bindBundles, pure_eq_ok, Prod.mk.injEq]
    constructor
    . rintro ⟨hs, hnil⟩
      exact ⟨[], ⟨hs, rfl⟩, hnil.symm⟩
    . rintro ⟨rows, ⟨hs, hnil⟩, hbundles⟩
      rw [hbundles, ← hnil]
      exact ⟨hs, rfl⟩
  | cons binding rest ih =>
    simp only [bindEvidence, bindBundles, bind_eq_ok, pure_eq_ok, Prod.mk.injEq]
    constructor
    . rintro ⟨⟨bound, bundle⟩, hrow, ⟨final, others⟩, hrest, hfinal, heq⟩
      obtain ⟨rows, hrows, hothers⟩ := ih.mp hrest
      refine ⟨_, ⟨(bound, bundle), hrow, (final, rows), hrows, hfinal, rfl⟩, ?_⟩
      rw [← heq, hothers, bindEvidenceRow_bundle hrow]
      rfl
    . rintro ⟨_, ⟨⟨bound, bundle⟩, hrow, ⟨final, rows⟩, hrows, hfinal, heq⟩, hbundles⟩
      refine ⟨(bound, bundle), hrow, (final, rows.map toBundle), ih.mpr ⟨rows, hrows, rfl⟩, hfinal, ?_⟩
      rw [hbundles, ← heq, bindEvidenceRow_bundle hrow]
      rfl

end Store

namespace V2PolicyRetrieval

/--
What V2 hashes of a citation leaves out which version of the policy and which of its clauses it cites.
-/
theorem material_congr {case : RetrievalCase} {profileKey queryFingerprint : String} {a b : RankedClause}
    (hpolicy : a.candidate.policyPublicId = b.candidate.policyPublicId)
    (hscope : a.candidate.decisionScope = b.candidate.decisionScope)
    (hversion : a.candidate.versionContentHash = b.candidate.versionContentHash)
    (hclause : a.clause.contentHash = b.clause.contentHash)
    : material case profileKey queryFingerprint a = material case profileKey queryFingerprint b := by
  unfold material
  rw [hpolicy, hscope, hversion, hclause]

end V2PolicyRetrieval

namespace V1PolicyRetrieval

/--
What V1 hashes of a citation names the version, but leaves out which of its clauses is cited.
-/
theorem material_congr {case : RetrievalCase} {candidate : PolicyCandidateRecord}
    {clause clause' : CandidateClause} (hclause : clause.contentHash = clause'.contentHash)
    : material case candidate clause = material case candidate clause' := by
  unfold material
  rw [hclause]

end V1PolicyRetrieval

namespace Sample

attribute [local instance] Digest.checksum

theorem refundRetrieval_products : ["unknown"] ≠ [] := by decide

def refundRetrieval : RetrievalCase where
  casePublicId := "CASE-1"
  context := {
    category := .refundRequest
    products := ["unknown"]
    region := "us"
    channel := .email
    tier := .standard
    products_ne_nil := refundRetrieval_products }

/--
The one clause of the refund policy as it is found in a version; its text stays the same.
-/
def refundCandidateOf (versionId version clauseId : Nat) : PolicyCandidateRecord where
  policyId := 0
  policyPublicId := "POL-1"
  versionId := versionId
  version := version
  recordVersion := 1
  versionContentHash := "policy"
  decisionScope := "refunds"
  clauses := [{ id := clauseId, sequence := 1, text := "A refund is paid.", contentHash := "clause" }]

def citedBindings (candidate : PolicyCandidateRecord) : Except Error (List PolicyEvidenceBinding) :=
  V2PolicyRetrieval.bindings refundRetrieval "profile" "query" [candidate] []

/--
The policy has been published again with the text it had.
-/
def republished (s : Store) : Store :=
  { s with
    policyVersions := [{ policy with status := .retired }, policy]
    policyClauses := [{ contentHash := "clause" }, { contentHash := "clause" }] }

end Sample

end CaseResolution
