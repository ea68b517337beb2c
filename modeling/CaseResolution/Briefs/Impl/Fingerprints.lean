import CaseResolution.Store
import Mathlib.Data.List.Sort
import Mathlib.Data.String.Basic

/-!
This module contains the fingerprints of what a decision brief is generated from.
-/

namespace CaseResolution

variable [Digest]

def sortedTexts (texts : List String) : Value :=
  .arr ((texts.insertionSort (· ≤ ·)).map Value.str)

def contextSnapshotFingerprint (context : BusinessObjectSnapshot) : String :=
  Digest.hash <| .obj [
    ("public_id", .str context.publicId),
    ("version", .num context.version),
    ("type", .str context.objectType),
    ("status", .str context.status),
    ("source", .str context.source),
    ("source_reference", .str context.sourceReference),
    ("fields", .ofDict context.fields),
    ("captured_at", .time context.capturedAt),
    ("source_freshness", .str context.sourceFreshness.value),
    ("source_checked_at", .ofOption Value.time context.sourceCheckedAt)
  ]

/--
The fingerprint of a set of business objects, given by public id and fingerprint.
-/
def contextMaterialFingerprint (material : List (String × String)) : String :=
  let sorted := material.insertionSort fun left right => left.1 ≤ right.1
  Digest.hash <| .arr <| sorted.map fun (publicId, fingerprint) =>
    .obj [("id", .str publicId), ("fingerprint", .str fingerprint)]

def combinedContextFingerprint (contexts : List BusinessObjectSnapshot) : String :=
  contextMaterialFingerprint <| contexts.map fun context =>
    (context.publicId, contextSnapshotFingerprint context)

def evidenceSetFingerprint (status : EvidenceRetrievalStatus) (fingerprints : List String)
    : String :=
  Digest.hash <| .obj [("status", .str status.value), ("evidence", sortedTexts fingerprints)]

def combinedEvidenceFingerprint (evidence : EvidenceRetrievalResult) : String :=
  evidenceSetFingerprint evidence.status <| evidence.evidence.map fun reference =>
    reference.fingerprint

/--
The versions of a decision engine, which are part of what a brief is generated from.
-/
structure EngineVersions where
  modelVersion : String
  promptVersion : String
  graphVersion : String
  riskRuleVersion : String
deriving DecidableEq

def decisionInputFingerprint (case : Case) (evidence : EvidenceRetrievalResult)
    (contextFingerprint evidenceFingerprint : String) (engine : EngineVersions) : String :=
  Digest.hash <| .obj [
    ("case_id", .str case.publicId),
    ("case_version", .num case.version),
    ("category", .str case.category.value),
    ("request", .str case.requestSummary),
    ("context_fingerprint", .str contextFingerprint),
    ("evidence_fingerprint", .str evidenceFingerprint),
    ("policy_status", .str evidence.status.value),
    ("model_version", .str engine.modelVersion),
    ("prompt_version", .str engine.promptVersion),
    ("graph_version", .str engine.graphVersion),
    ("risk_rule_version", .str engine.riskRuleVersion)
  ]

def riskFingerprint (risks : List DecisionRiskCheck) : String :=
  Digest.hash <| .arr <| risks.map fun risk =>
    .obj [
      ("id", .str risk.id),
      ("label", .str risk.label),
      ("outcome", .str risk.outcome),
      ("explanation", .str risk.explanation)
    ]

end CaseResolution
