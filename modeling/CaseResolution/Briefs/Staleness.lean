import CaseResolution.Briefs.Bounds
import CaseResolution.Briefs.Impl.Workspaces
import CaseResolution.Briefs.Lemmas.Contexts
import CaseResolution.Briefs.Lemmas.Engine
import CaseResolution.System.Reachable

/-!
This module contains the proof that the input fingerprint determines the brief: whatever the engine reads
of a case is written together with the version of the case.
-/

namespace CaseResolution

open Guard Store

namespace DetailedStore

variable {s t u : DetailedStore}

/--
All that the engine reads of the case at `caseId` is the same.
-/
structure SameCase (s t : DetailedStore) (caseId : Nat) : Prop where
  contexts : (t.store.contexts.filter fun context => context.caseId = caseId)
    = s.store.contexts.filter fun context => context.caseId = caseId
  details : t.details caseId = s.details caseId

/--
A later store has every case, and a case is the same as long as its version is.
-/
def Grows (s t : DetailedStore) : Prop :=
  ∀ caseId case, s.store.cases[caseId]? = some case →
    ∃ later, t.store.cases[caseId]? = some later ∧ CaseGrows case later
      ∧ (case.version = later.version → s.SameCase t caseId)

theorem SameCase.refl (s : DetailedStore) (caseId : Nat) : s.SameCase s caseId :=
  ⟨rfl, rfl⟩

theorem SameCase.trans {caseId : Nat} (hst : s.SameCase t caseId) (htu : t.SameCase u caseId)
    : s.SameCase u caseId :=
  ⟨htu.contexts.trans hst.contexts, htu.details.trans hst.details⟩

theorem Grows.refl (s : DetailedStore) : s.Grows s := by
  intro caseId case hcase
  exact ⟨case, hcase, Grows.caseGrows_refl case, fun _ => .refl s caseId⟩

theorem Grows.trans (hst : s.Grows t) (htu : t.Grows u) : s.Grows u := by
  intro caseId case hcase
  obtain ⟨later, hlater, hgrows, hsame⟩ := hst caseId case hcase
  obtain ⟨last, hlast, hgrows', hsame'⟩ := htu caseId later hlater
  refine ⟨last, hlast, Grows.caseGrows_trans hgrows hgrows', ?_⟩
  intro hversion
  have hle := hgrows.1
  have hle' := hgrows'.1
  exact (hsame (by omega)).trans (hsame' (by omega))

/--
A store whose cases grow, and which keeps the rest of every case that is not counted up.
-/
theorem grows_of (hcases : s.store.Grows t.store)
    (hkept : ∀ (caseId : Nat) (case later : Case), s.store.cases[caseId]? = some case →
      t.store.cases[caseId]? = some later → case.version = later.version → s.SameCase t caseId)
    : s.Grows t := by
  intro caseId case hcase
  obtain ⟨later, hlater, hgrows⟩ := hcases.cases caseId case hcase
  exact ⟨later, hlater, hgrows, hkept caseId case later hcase hlater⟩

variable [Digest]

theorem openCase_grows (hs : s.store.Sound) (case : Case) (details : CaseDetails)
    (contexts : List BusinessObjectCreate)
    : (s.openCase case details contexts).store.Sound ∧ s.Grows (s.openCase case details contexts) := by
  have hwrites : Writes (.openCase case) s.store (s.openCase case details contexts).store :=
    .tail (.single (.caseOpened case)) (maintained_of_eq rfl)
  refine ⟨hwrites.sound hs, grows_of (hwrites.grows hs) ?_⟩
  intro caseId found _ hfound _ _
  have hlt : caseId < s.store.cases.length := (List.getElem?_eq_some_iff.mp hfound).1
  constructor
  . have hnone : (contexts.map fun context => context.snapshot s.store.cases.length).filter
        (fun context => context.caseId = caseId) = [] := by
      rw [List.filter_eq_nil_iff]
      intro context hmem
      obtain ⟨_, _, rfl⟩ := List.mem_map.mp hmem
      rw [decide_eq_true_eq]
      exact Nat.ne_of_gt hlt
    unfold DetailedStore.openCase
    dsimp only
    rw [List.filter_append, hnone, List.append_nil]
  . exact Function.update_of_ne (Nat.ne_of_lt hlt) _ _

theorem appendMessage_grows (hs : s.store.Sound) {caseId : Nat} (h : s.appendMessage caseId = .ok t)
    : t.store.Sound ∧ s.Grows t := by
  obtain ⟨store, happend, heq⟩ := bind_eq_ok.mp h
  cases heq
  have hwrites : Writes (.appendMessage caseId) s.store store := appendMessage_writes happend
  refine ⟨hwrites.sound hs, grows_of (hwrites.grows hs) ?_⟩
  intro otherId case later hcase hlater hversion
  have hne : otherId ≠ caseId := by
    rintro rfl
    simp only [Store.appendMessage, bind_eq_ok, orThrow_eq_ok, pure_eq_ok] at happend
    obtain ⟨found, hfound, rfl⟩ := happend
    have hlt := (List.getElem?_eq_some_iff.mp hfound).1
    obtain rfl : case = found := Option.some.inj (hcase.symm.trans hfound)
    rw [setCase_cases, List.getElem?_set_self hlt, Option.some.injEq] at hlater
    rw [← hlater] at hversion
    exact absurd hversion (Nat.ne_of_lt (Nat.lt_succ_self _))
  constructor
  . dsimp only
    rw [appendMessage_contexts happend]
  . exact Function.update_of_ne hne _ _

theorem maintainOrganization_grows (hs : s.store.Sound) {tables : OrganizationTables}
    (h : s.maintainOrganization tables = .ok t) : t.store.Sound ∧ s.Grows t := by
  obtain ⟨store, hmaintain, heq⟩ := bind_eq_ok.mp h
  cases heq
  have hwrites : Writes (.maintainOrganization tables) s.store store :=
    maintainOrganization_writes hmaintain
  refine ⟨hwrites.sound hs, grows_of (hwrites.grows hs) ?_⟩
  intro caseId _ _ _ _ _
  simp only [Store.maintainOrganization, bind_eq_ok, ensure_eq_ok, pure_eq_ok] at hmaintain
  obtain ⟨_, _, _, _, rfl⟩ := hmaintain
  exact ⟨rfl, rfl⟩

theorem perform_grows (hs : s.store.Sound) {command : Command} (hkept : command.KeepsDetails)
    {store : Store} {output : Output} (h : s.store.perform command = .ok (store, output))
    : store.Sound ∧ s.Grows { s with store } := by
  have hwrites := perform_writes hs h
  refine ⟨hwrites.sound hs, grows_of (hwrites.grows hs) ?_⟩
  intro caseId case later hcase hlater hversion
  refine ⟨?_, rfl⟩
  by_cases hkeeps : command.KeepsContexts
  . dsimp only
    rw [perform_contexts hkeeps h]
  . cases command with
    | maintainOrganization => exact hkept.elim
    | addBusinessEvidence now otherId expectedVersion evidence =>
      simp only [perform, silently_eq_ok] at h
      rcases addBusinessEvidence_contexts h.1 with rfl | ⟨found, hfound, rfl⟩
      . rfl
      . have hne : otherId ≠ caseId := by
          rintro rfl
          have hlt := (List.getElem?_eq_some_iff.mp hfound).1
          obtain rfl : case = found := Option.some.inj (hcase.symm.trans hfound)
          have hlater : (s.store.cases.set otherId { case with version := case.version + 1 })[otherId]?
              = some later := hlater
          rw [List.getElem?_set_self hlt, Option.some.injEq] at hlater
          rw [← hlater] at hversion
          exact absurd hversion (Nat.ne_of_lt (Nat.lt_succ_self _))
        simp [newContext, hne]
    | _ => exact absurd trivial hkeeps

theorem next_grows (hs : s.store.Sound) (command : DetailedCommand)
    : (detailedService.next s command).store.Sound ∧ s.Grows (detailedService.next s command) := by
  apply Machine.next_cases (P := fun t : DetailedStore => t.store.Sound ∧ s.Grows t)
  . exact ⟨hs, .refl s⟩
  intro t output h
  cases command with
  | openCase case details contexts =>
    cases pure_eq_ok.mp h
    exact openCase_grows hs case details contexts
  | appendMessage caseId =>
    obtain ⟨_, happend, heq⟩ := bind_eq_ok.mp h
    cases heq
    exact appendMessage_grows hs happend
  | maintainOrganization tables =>
    obtain ⟨_, hmaintain, heq⟩ := bind_eq_ok.mp h
    cases heq
    exact maintainOrganization_grows hs hmaintain
  | perform command kept =>
    obtain ⟨⟨_, _⟩, hperform, heq⟩ := bind_eq_ok.mp h
    cases heq
    exact perform_grows hs kept hperform

theorem run_grows (hs : s.store.Sound) (commands : List DetailedCommand)
    : s.Grows (detailedService.run s commands) :=
  Machine.run_related Grows.refl Grows.trans (fun _ c ht => (next_grows ht c).1)
    (fun _ c ht => (next_grows ht c).2) hs commands

/--
An earlier state of a history grows into a later one.
-/
theorem take_grows (hs : s.store.Sound) (commands : List DetailedCommand) {i j : Nat} (hij : i ≤ j)
    : (detailedService.run s (commands.take i)).Grows (detailedService.run s (commands.take j)) := by
  have hsound : (detailedService.run s (commands.take i)).store.Sound :=
    Machine.run_invariant (P := fun t : DetailedStore => t.store.Sound) hs
      (fun _ c ht => (next_grows ht c).1) _
  have hsplit : commands.take j = commands.take i ++ (commands.take j).drop i := by
    have htake : (commands.take j).take i = commands.take i := by
      rw [List.take_take, Nat.min_eq_left hij]
    rw [← htake, List.take_append_drop]
  rw [hsplit, Machine.run_append]
  exact run_grows hsound _

end DetailedStore

section Workspaces

variable {s t : DetailedStore} {caseId : Nat} {v w : DecisionWorkspace} {found again : CaseWorkspace}

theorem getWorkspace_eq_some {store : Store} (h : store.getWorkspace caseId = some found)
    : store.cases[caseId]? = some found.case
      ∧ found.businessContexts = (((store.contexts.filter fun context => context.caseId = caseId).insertionSort
          newerContext).take caseWorkspaceBusinessContextLimit).insertionSort
            fun left right => left.publicId ≤ right.publicId := by
  unfold Store.getWorkspace at h
  simp only [Option.bind_eq_bind, Option.bind_eq_some_iff, Option.pure_def, Option.some.injEq] at h
  obtain ⟨case, hcase, rfl⟩ := h
  exact ⟨hcase, rfl⟩

/--
An engine is given the same of a case as long as the version of the case is the same.
-/
theorem readFrom_eq (hgrows : s.Grows t) (hv : v.ReadFrom s caseId found) (hw : w.ReadFrom t caseId again)
    (hversion : found.case.version = again.case.version) : v = w := by
  obtain ⟨hcase, hcontexts⟩ := getWorkspace_eq_some hv.read
  obtain ⟨hcase', hcontexts'⟩ := getWorkspace_eq_some hw.read
  obtain ⟨later, hlater, hcaseGrows, hsame⟩ := hgrows caseId found.case hcase
  obtain rfl : later = again.case := Option.some.inj (hlater.symm.trans hcase')
  have hcaseEq : again.case = found.case := hcaseGrows.2 hversion
  obtain ⟨hrows, hdetails⟩ := hsame hversion
  have hcontextsEq : again.businessContexts = found.businessContexts := by
    rw [hcontexts, hcontexts', hrows]
  have hmore : t.store.hasMoreContexts caseId = s.store.hasMoreContexts caseId := by
    unfold Store.hasMoreContexts
    rw [hrows]
  have hreference : some w.externalReference = some v.externalReference := by
    rw [hw.externalReference, hv.externalReference, hcaseEq]
  cases v
  cases w
  simp only [DecisionWorkspace.mk.injEq]
  refine ⟨?_, (Option.some.inj hreference).symm, ?_, ?_, ?_, ?_, ?_, ?_, ?_, ?_, ?_⟩
  . exact (hv.casePublicId.trans (congrArg Case.publicId hcaseEq).symm).trans hw.casePublicId.symm
  . exact (hv.category.trans (congrArg Case.category hcaseEq).symm).trans hw.category.symm
  . exact (hv.risk.trans (congrArg CaseDetails.risk hdetails).symm).trans hw.risk.symm
  . exact (hv.impactAmount.trans (congrArg CaseDetails.impactAmount hdetails).symm).trans
      hw.impactAmount.symm
  . exact (hv.impactCurrency.trans (congrArg CaseDetails.impactCurrency hdetails).symm).trans
      hw.impactCurrency.symm
  . exact (hv.sourceFreshness.trans (congrArg CaseDetails.sourceFreshness hdetails).symm).trans
      hw.sourceFreshness.symm
  . exact (hv.customerName.trans (congrArg CaseDetails.customerName hdetails).symm).trans
      hw.customerName.symm
  . exact (hv.customerTier.trans (congrArg CaseDetails.customerTier hdetails).symm).trans
      hw.customerTier.symm
  . exact (hv.businessContexts.trans hcontextsEq.symm).trans hw.businessContexts.symm
  . exact (hv.hasMore.trans hmore.symm).trans hw.hasMore.symm

end Workspaces

theorem EvidenceRetrievalStatus.value_injective : Function.Injective EvidenceRetrievalStatus.value := by
  intro a b h
  cases a <;> cases b <;> first | rfl | exact absurd h (by decide)

section Fingerprints

variable [Digest]

/--
Two analyses make the same of a case: they agree in all but their checkpoints, which record how the
policy evidence was found.
-/
def EngineAnalysis.SameBrief (a b : EngineAnalysis) : Prop :=
  { a with checkpoints := [] } = { b with checkpoints := [] }

theorem analysis_sameBrief (w : DecisionWorkspace) {e f : PolicyEvidence} (hstatus : e.status = f.status)
    (inputFingerprint : String)
    : (w.analysis e inputFingerprint).SameBrief (w.analysis f inputFingerprint) := by
  unfold EngineAnalysis.SameBrief DecisionWorkspace.analysis
  rw [hstatus]

/--
The document of a fingerprint names the version of the case and the status of the policy evidence.
-/
theorem decisionInput_inj {found again : CaseWorkspace} {e f : EvidenceRetrievalResult}
    (h : found.decisionInput e = again.decisionInput f)
    : found.case.version = again.case.version ∧ e.status = f.status := by
  simp only [CaseWorkspace.decisionInput, Value.obj.injEq, List.cons.injEq, Prod.mk.injEq, true_and,
    Value.num.injEq, Value.str.injEq, and_true] at h
  obtain ⟨_, hversion, _, _, _, _, hstatus⟩ := h
  exact ⟨Int.ofNat_inj.mp hversion, EvidenceRetrievalStatus.value_injective hstatus⟩

/--
In any two states of the history of a case, and for any two results of policy retrieval, the deterministic
engine makes the same brief of the case if the input fingerprints are equal and their documents do not
collide.
-/
theorem fingerprint_determines_brief (init : InitialStore) (details : Nat → CaseDetails)
    (commands : List DetailedCommand) (i j caseId : Nat) {found again : CaseWorkspace}
    {v w : DecisionWorkspace} {e f : PolicyEvidence} {a b : EngineAnalysis}
    (hv : v.ReadFrom (detailedService.run { store := init.store, details } (commands.take i)) caseId found)
    (hw : w.ReadFrom (detailedService.run { store := init.store, details } (commands.take j)) caseId again)
    (hcollision : Digest.hash (found.decisionInput e.toEvidenceRetrievalResult)
        = Digest.hash (again.decisionInput f.toEvidenceRetrievalResult) →
      found.decisionInput e.toEvidenceRetrievalResult = again.decisionInput f.toEvidenceRetrievalResult)
    (hfingerprint : found.inputFingerprint e.toEvidenceRetrievalResult
      = again.inputFingerprint f.toEvidenceRetrievalResult)
    (ha : v.analyze e (found.inputFingerprint e.toEvidenceRetrievalResult) = .ok a)
    (hb : w.analyze f (again.inputFingerprint f.toEvidenceRetrievalResult) = .ok b)
    : a.SameBrief b := by
  obtain ⟨hversion, hstatus⟩ := decisionInput_inj (hcollision hfingerprint)
  have hsame : v = w := by
    rcases Nat.le_total i j with hij | hji
    . exact readFrom_eq (DetailedStore.take_grows init.sound commands hij) hv hw hversion
    . exact (readFrom_eq (DetailedStore.take_grows init.sound commands hji) hw hv hversion.symm).symm
  subst hsame
  obtain ⟨_, rfl⟩ := v.analyze_eq_ok.mp ha
  obtain ⟨_, rfl⟩ := v.analyze_eq_ok.mp hb
  rw [hfingerprint]
  exact analysis_sameBrief v hstatus _

end Fingerprints

namespace Sample

attribute [local instance] widthDigest

def refundDetails (_ : Nat) : CaseDetails where
  risk := .low
  impactAmount := some 25
  impactCurrency := some "EUR"
  sourceFreshness := .current
  customerName := "Ada"
  customerTier := .standard

/--
The store before and after its organization is maintained and a reply is drafted.
-/
def draftedReply : List DetailedCommand :=
  [.maintainOrganization {
      members := store.members
      approvalRuleVersion := 2
      connections := store.connections
      policyVersions := []
      policyClauses := []
      policyEvidence := []
      contexts := []
      legacyReservations := []
      legacyDecisions := [] },
    .perform (.saveDraft 0 0 "Refund" "We are looking into it.") trivial]

theorem refundWorkspace_publicId : "CS-1".length ≤ 64 := by decide

theorem refundWorkspace_impact : ImpactComplete (some 25) (some "EUR") := by decide +kernel

theorem refundWorkspace_customer : 1 ≤ "Ada".length ∧ "Ada".length ≤ 200 := by decide

def refundWorkspace : DecisionWorkspace where
  casePublicId := "CS-1"
  externalReference := "INV-1"
  category := .refundRequest
  risk := .low
  impactAmount := some 25
  impactCurrency := some "EUR"
  sourceFreshness := .current
  customerName := "Ada"
  customerTier := .standard
  businessContexts := [invoice]
  hasMore := false
  casePublicId_length := refundWorkspace_publicId
  externalReference_length := by decide
  impact_complete := refundWorkspace_impact
  customerName_length := refundWorkspace_customer
  contexts_bounded := by
    intro context hcontext
    rw [List.mem_singleton.mp hcontext]
    constructor <;> decide
  contexts_length := by simp

def refundFound : CaseWorkspace where
  case := refundCase
  businessContexts := [invoice]

/--
The same policy evidence, retrieved again for another reason.
-/
def retrievedAgain : PolicyEvidence :=
  { publishedEvidence with reason := "The policy still applies." }

theorem refundWorkspace_readFrom_start
    : refundWorkspace.ReadFrom
        (detailedService.run { store := initial.store, details := refundDetails } (draftedReply.take 0))
        0 refundFound := by
  constructor <;> rfl

theorem refundWorkspace_readFrom_drafted
    : refundWorkspace.ReadFrom
        (detailedService.run { store := initial.store, details := refundDetails } (draftedReply.take 2))
        0 refundFound := by
  constructor <;> rfl

theorem refundWorkspace_analyze (evidence : PolicyEvidence)
    (hreason : 1 ≤ evidence.reason.length ∧ evidence.reason.length ≤ 1000)
    : ∃ a, refundWorkspace.analyze evidence
        (refundFound.inputFingerprint evidence.toEvidenceRetrievalResult) = .ok a := by
  have hwithin : refundWorkspace.WithinBounds evidence :=
    ⟨by decide +kernel, by decide +kernel, by decide +kernel, hreason⟩
  have haccepted := (DecisionWorkspace.accepted_iff widthDigest_short widthDigest_hash
    (widthDigest_hash (refundFound.decisionInput evidence.toEvidenceRetrievalResult))).mpr hwithin
  exact ⟨_, refundWorkspace.analyze_eq_ok.mpr ⟨haccepted, rfl⟩⟩

theorem fingerprint_determines_brief_drafted
    : ∃ a b, refundWorkspace.analyze publishedEvidence
          (refundFound.inputFingerprint publishedEvidence.toEvidenceRetrievalResult) = .ok a
        ∧ refundWorkspace.analyze retrievedAgain
          (refundFound.inputFingerprint retrievedAgain.toEvidenceRetrievalResult) = .ok b
        ∧ a.SameBrief b := by
  obtain ⟨a, ha⟩ := refundWorkspace_analyze publishedEvidence (by decide +kernel)
  obtain ⟨b, hb⟩ := refundWorkspace_analyze retrievedAgain (by decide +kernel)
  have hresult : publishedEvidence.toEvidenceRetrievalResult
      = retrievedAgain.toEvidenceRetrievalResult := rfl
  refine ⟨a, b, ha, hb, ?_⟩
  exact fingerprint_determines_brief initial refundDetails draftedReply 0 2 0
    refundWorkspace_readFrom_start refundWorkspace_readFrom_drafted
    (fun _ => congrArg refundFound.decisionInput hresult)
    (congrArg refundFound.inputFingerprint hresult) ha hb

end Sample

end CaseResolution
