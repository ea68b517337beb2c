import CaseResolution.Policies.Lemmas.Reachable
import CaseResolution.Policies.Lemmas.Retrieval

/-!
This module contains policy governance with the read of a request and its write as separate steps: the
search for conflicts reads other policies, and nothing checks them again when the write comes.
-/

namespace CaseResolution

open Guard

/--
The policies of an organization and the requests that have read but not written yet.
-/
structure PolicyDesk where
  book : PolicyBook
  pending : List PolicyPlan

inductive DeskStep where
  | createPolicy (actor : ActorContext) (creation : PolicyCreation)
  | read (now : Instant) (actor : ActorContext) (policyId : String) (request : PolicyRequest)
  | write (now : Instant) (index : Nat)

def PolicyDesk.perform [Digest] (s : PolicyDesk) : DeskStep → Except Error (PolicyDesk × Unit)
  | .createPolicy actor creation => do
    let (book, _) ← s.book.createPolicy actor creation
    pure ({ s with book }, ())
  | .read now actor policyId request => do
    let plan ← s.book.plan now actor policyId request
    pure ({ s with pending := s.pending ++ [plan] }, ())
  | .write now index => do
    let plan ← orThrow s.pending[index]? (.policyNotFound "The policy was not found.")
    let (book, _) ← s.book.write now plan
    pure ({ s with book }, ())

def policyDesk [Digest] : Machine PolicyDesk DeskStep Error Unit where
  step := PolicyDesk.perform

namespace PolicyVersion

/--
Both versions decide the same thing for some case of one product at some instant.
-/
def Competes (v w : PolicyVersion) : Prop :=
  v.applicability.decisionScope = w.applicability.decisionScope
    ∧ v.applicability.Shares w.applicability
    ∧ dimensionsOverlap v.applicability.products w.applicability.products = true
    ∧ v.window.Meets w.window

/--
`w` has authority over what `v` has authority over.
-/
def SameAuthority (v w : PolicyVersion) : Prop :=
  v.isLive = true ∧ w.applicability = v.applicability ∧ w.window = v.window

variable {u v w : PolicyVersion}

theorem Competes.symm (h : v.Competes w) : w.Competes v := by
  obtain ⟨hscope, hshares, hproducts, hmeets⟩ := h
  refine ⟨hscope.symm, hshares.symm, ?_, hmeets.symm⟩
  rw [← exists_match_iff w.applicability.products_ne_nil v.applicability.products_ne_nil]
  obtain ⟨value, hv, hw⟩ :=
    (exists_match_iff v.applicability.products_ne_nil w.applicability.products_ne_nil).mpr hproducts
  exact ⟨value, hw, hv⟩

theorem SameAuthority.competes (h : u.SameAuthority v) (hcompetes : v.Competes w) : u.Competes w := by
  obtain ⟨_, happlicability, hwindow⟩ := h
  unfold Competes at hcompetes
  rw [happlicability, hwindow] at hcompetes
  exact hcompetes

theorem exists_single_retrievable_iff (hv : v.EffectiveOrder) (hw : w.EffectiveOrder)
    : (v.applicability.decisionScope = w.applicability.decisionScope
          ∧ ∃ context product t, context.products = [product]
            ∧ v.isRetrievable context t = true ∧ w.isRetrievable context t = true)
        ↔ v.isLive = true ∧ w.isLive = true ∧ v.Competes w := by
  simp only [isRetrievable_iff]
  constructor
  . intro ⟨hscope, context, product, t, hsingle, ⟨hlive, happlies, hcontains⟩, hlive', happlies',
      hcontains'⟩
    have hshares := PolicyApplicability.exists_single_context_iff.mp
      ⟨context, product, hsingle, happlies, happlies'⟩
    exact ⟨hlive, hlive', hscope, hshares.1, hshares.2, hcontains.meets hcontains'⟩
  . intro ⟨hlive, hlive', hscope, hshares, hproducts, hmeets⟩
    obtain ⟨context, product, hsingle, happlies, happlies'⟩ :=
      PolicyApplicability.exists_single_context_iff.mpr ⟨hshares, hproducts⟩
    obtain ⟨t, hcontains, hcontains'⟩ :=
      (Window.exists_contains_iff (v := v.window) (w := w.window) hv hw).mpr hmeets
    exact ⟨hscope, context, product, t, hsingle, ⟨hlive, happlies, hcontains⟩, hlive', happlies',
      hcontains'⟩

end PolicyVersion

namespace Policy

variable {p q : Policy} {now : Instant}

/--
What a write can make of the windows of a policy keeps the constraint of the table.
-/
def Ordered (p : Policy) : Prop :=
  ∀ v ∈ p.versions, v.EffectiveOrder

section

variable [Digest]

theorem write_ordered {write : PolicyWrite} (hp : p.Ordered) (h : p.write now write = .ok q)
    : q.Ordered := by
  -- one version was written, and the constraint was checked for it
  have hset : ∀ (r : Policy) (v : PolicyVersion), r.Ordered → v.EffectiveOrder →
      (r.setVersion v).Ordered := by
    intro r v hr hv w hw
    cases mem_setVersion hw with
    | inl heq => rwa [heq]
    | inr hold => exact hr w hold.1
  have hadd : ∀ (r : Policy) (v : PolicyVersion), r.versions = p.versions ++ [v] →
      v.EffectiveOrder → r.Ordered := by
    intro r v hr hv w hw
    rw [hr, List.mem_append, List.mem_singleton] at hw
    cases hw with
    | inl hold => exact hp w hold
    | inr hnew => rwa [hnew]
  cases write with
  | createDraft actorId e content clauses =>
    obtain ⟨_, hq⟩ := createDraft_eq_ok.mp h
    exact hadd q _ (by rw [hq]) newVersion_sound.order
  | retrySource actorId e content clauses =>
    obtain ⟨_, _, hq⟩ := retrySource_eq_ok.mp h
    exact hadd q _ (by rw [hq]) newVersion_sound.order
  | submitReview n e e' =>
    obtain ⟨v, _, _, _, horder, hq⟩ := submitReview_eq_ok.mp h
    rw [hq]
    exact hset _ _ hp horder
  | markConflicting n e e' =>
    obtain ⟨v, _, _, _, horder, hq⟩ := markConflicting_eq_ok.mp h
    rw [hq]
    exact hset _ _ hp horder
  | activate n e e' target effectiveFrom =>
    obtain ⟨v, _, hcleared, _, _, horder, hq⟩ := activateVersion_eq_ok.mp h
    rw [hq]
    apply hset _ _ _ horder
    intro w hw
    by_cases htarget : target = .published
    . exact hcleared htarget w hw
    . simp only [clearedVersions, htarget, false_and, if_false, List.map_id'] at hw
      exact hp w hw
  | retire n e e' =>
    obtain ⟨v, _, _, _, horder, hq⟩ := retireVersion_eq_ok.mp h
    rw [hq]
    apply hset _ _ _ horder
    unfold afterRetirement
    split <;> exact hp

/--
What has authority after a write had it before, or was activated by the write.
-/
theorem live_of_write {write : PolicyWrite} (h : p.write now write = .ok q) {w : PolicyVersion}
    (hw : w ∈ q.versions) (hlive : w.isLive = true)
    : (∃ u ∈ p.versions, u.SameAuthority w)
      ∨ ∃ n e e' target effectiveFrom v, write = .activate n e e' target effectiveFrom
        ∧ p.findVersion n = some v ∧ w = v.activated target effectiveFrom now := by
  have hkept : w ∈ p.versions → ∃ u ∈ p.versions, u.SameAuthority w :=
    fun hold => ⟨w, hold, hlive, rfl, rfl⟩
  cases write with
  | createDraft actorId e content clauses =>
    obtain ⟨_, hq⟩ := createDraft_eq_ok.mp h
    rw [hq, List.mem_append, List.mem_singleton] at hw
    cases hw with
    | inl hold => exact .inl (hkept hold)
    | inr hnew => simp [hnew, newVersion, PolicyVersion.isLive] at hlive
  | retrySource actorId e content clauses =>
    obtain ⟨_, _, hq⟩ := retrySource_eq_ok.mp h
    rw [hq, List.mem_append, List.mem_singleton] at hw
    cases hw with
    | inl hold => exact .inl (hkept hold)
    | inr hnew => simp [hnew, newVersion, PolicyVersion.isLive] at hlive
  | submitReview n e e' =>
    obtain ⟨v, _, _, _, _, hq⟩ := submitReview_eq_ok.mp h
    rw [hq] at hw
    cases mem_setVersion hw with
    | inl heq => simp [heq, PolicyVersion.submitted, PolicyVersion.isLive] at hlive
    | inr hold => exact .inl (hkept hold.1)
  | markConflicting n e e' =>
    obtain ⟨v, hv, _, _, _, hq⟩ := markConflicting_eq_ok.mp h
    rw [hq] at hw
    cases mem_setVersion hw with
    | inl heq =>
      -- only the count of the row is written
      subst heq
      exact .inl ⟨v, (findVersion_eq_some hv).1, hlive, rfl, rfl⟩
    | inr hold => exact .inl (hkept hold.1)
  | activate n e e' target effectiveFrom =>
    obtain ⟨v, hv, _, _, _, _, hq⟩ := activateVersion_eq_ok.mp h
    rw [hq] at hw
    cases mem_setVersion hw with
    | inl heq => exact .inr ⟨n, e, e', target, effectiveFrom, v, rfl, hv, heq⟩
    | inr hold =>
      obtain ⟨u, hu, heq⟩ := List.mem_map.mp hold.1
      split at heq
      . rw [← heq] at hlive
        simp [PolicyVersion.supersede, PolicyVersion.isLive] at hlive
      . rw [heq] at hu
        exact .inl (hkept hu)
  | retire n e e' =>
    obtain ⟨v, _, _, _, _, hq⟩ := retireVersion_eq_ok.mp h
    rw [hq] at hw
    cases mem_setVersion hw with
    | inl heq =>
      simp [heq, PolicyVersion.withdrawn, PolicyVersion.retire, PolicyVersion.isLive] at hlive
    | inr hold =>
      apply Or.inl
      apply hkept
      have hold := hold.1
      unfold afterRetirement at hold
      split at hold <;> exact hold

/--
An activation writes the version it activates.
-/
theorem activated_mem {n e e' : Nat} {target : PolicyVersionStatus} {effectiveFrom : Instant}
    {v : PolicyVersion} (hv : p.findVersion n = some v)
    (h : p.write now (.activate n e e' target effectiveFrom) = .ok q)
    : v.activated target effectiveFrom now ∈ q.versions := by
  obtain ⟨v', hv', _, _, _, _, hq⟩ := activateVersion_eq_ok.mp h
  rw [hv, Option.some.injEq] at hv'
  subst hv'
  have ⟨hmem, hn⟩ := findVersion_eq_some hv
  rw [hq]
  unfold setVersion clearedVersions
  simp only [List.map_map, List.mem_map, Function.comp_apply]
  refine ⟨v, hmem, ?_⟩
  simp [hn, PolicyVersion.activated, PolicyVersion.activate]

end

end Policy

namespace PolicyBook

/--
No two policies with one decision scope are retrieved for the same case of one product at the same
instant.
-/
def OneAuthority (b : PolicyBook) : Prop :=
  ∀ (i j : Nat) (p q : Policy), i ≠ j → b.policies[i]? = some p → b.policies[j]? = some q →
    ∀ v ∈ p.versions, ∀ w ∈ q.versions,
      v.applicability.decisionScope = w.applicability.decisionScope →
        ∀ (context : CaseRetrievalContext) (product : String) (t : Instant),
          context.products = [product] → v.isRetrievable context t = true →
            ¬ w.isRetrievable context t = true

/--
Every window meets the constraint of the table.
-/
def Ordered (b : PolicyBook) : Prop :=
  ∀ (i : Nat) (p : Policy), b.policies[i]? = some p → p.Ordered

/--
No version of another policy that has authority competes with `v`.
-/
def Uncontested (b : PolicyBook) (index : Nat) (v : PolicyVersion) : Prop :=
  ∀ (j : Nat) (q : Policy), j ≠ index → b.policies[j]? = some q →
    ∀ w ∈ q.versions, w.isLive = true → ¬ v.Competes w

variable {b : PolicyBook}

theorem Ordered.oneAuthority_iff (hb : b.Ordered)
    : b.OneAuthority ↔ ∀ (i : Nat) (p : Policy), b.policies[i]? = some p → ∀ v ∈ p.versions,
        v.isLive = true → b.Uncontested i v := by
  constructor
  . intro hone i p hp v hv hlive j q hji hq w hw hlive' hcompetes
    obtain ⟨hscope, context, product, t, hsingle, hvr, hwr⟩ :=
      (PolicyVersion.exists_single_retrievable_iff (hb i p hp v hv) (hb j q hq w hw)).mpr
        ⟨hlive, hlive', hcompetes⟩
    exact hone i j p q hji.symm hp hq v hv w hw hscope context product t hsingle hvr hwr
  . intro hfree i j p q hij hp hq v hv w hw hscope context product t hsingle hvr hwr
    obtain ⟨hlive, hlive', hcompetes⟩ :=
      (PolicyVersion.exists_single_retrievable_iff (hb i p hp v hv) (hb j q hq w hw)).mp
        ⟨hscope, context, product, t, hsingle, hvr, hwr⟩
    exact hfree i p hp v hv hlive j q hij.symm hq w hw hlive' hcompetes

theorem Ordered.setPolicy {index : Nat} {q : Policy} (hb : b.Ordered) (hq : q.Ordered)
    : (b.setPolicy index q).Ordered := by
  intro i r hr
  cases Rows.getElem?_set_cases hr with
  | inl hset => rwa [hset.2.1]
  | inr hother => exact hb i r hother.2

section

variable [Digest]

/--
A new policy has no version with authority yet.
-/
theorem newPolicy_not_live {publicId actorId : String} {ownerId : Nat}
    {source : Except String (PolicyDraftContent × List ParsedPolicyClause)} {v : PolicyVersion}
    (hv : v ∈ (newPolicy publicId ownerId actorId source).versions) : ¬ v.isLive = true := by
  unfold newPolicy at hv
  split at hv
  . rw [List.mem_singleton] at hv
    simp [hv, newVersion, PolicyVersion.isLive]
  . cases hv

theorem createPolicy_ordered {actor : ActorContext} {creation : PolicyCreation} {c : PolicyBook}
    {q : Policy} (hb : b.Ordered) (h : b.createPolicy actor creation = .ok (c, q)) : c.Ordered := by
  obtain ⟨hbook, ownerId, hq⟩ := createPolicy_eq_ok h
  rw [hbook]
  intro i r hr
  cases Rows.getElem?_concat_cases hr with
  | inl hold => exact hb i r hold
  | inr hnew =>
    rw [hnew.2, hq]
    intro v hv
    exact ((Policy.newPolicy_sound _ _ _ _).versions_sound v hv).order

theorem createPolicy_oneAuthority {actor : ActorContext} {creation : PolicyCreation} {c : PolicyBook}
    {q : Policy} (hb : b.Ordered) (hone : b.OneAuthority)
    (h : b.createPolicy actor creation = .ok (c, q)) : c.OneAuthority := by
  rw [(createPolicy_ordered hb h).oneAuthority_iff]
  rw [hb.oneAuthority_iff] at hone
  obtain ⟨hbook, ownerId, hq⟩ := createPolicy_eq_ok h
  rw [hbook]
  intro i p hp v hv hlive j r hji hr w hw hlive'
  cases Rows.getElem?_concat_cases hp with
  | inr hnew =>
    rw [hnew.2, hq] at hv
    exact absurd hlive (newPolicy_not_live hv)
  | inl hold =>
    cases Rows.getElem?_concat_cases hr with
    | inr hnew =>
      rw [hnew.2, hq] at hw
      exact absurd hlive' (newPolicy_not_live hw)
    | inl hold' => exact hone i p hold v hv hlive j r hji hold' w hw hlive'

/--
The plan activates a version against which a version of another policy has authority by now.
-/
def WritesContested (b : PolicyBook) (now : Instant) (plan : PolicyPlan) : Prop :=
  (b.write now plan).isOk = true
    ∧ ∃ n e e' target effectiveFrom index p v,
      plan.write = .activate n e e' target effectiveFrom
        ∧ b.findPolicy plan.policyId = some (index, p) ∧ p.findVersion n = some v
        ∧ (v.activated target effectiveFrom now).isLive = true
        ∧ ¬ b.Uncontested index (v.activated target effectiveFrom now)

/--
A write keeps one authority for every decision exactly when it does not activate a contested version.
-/
theorem write_oneAuthority {now : Instant} {plan : PolicyPlan} {c : PolicyBook} {q : Policy}
    (hb : b.Ordered) (hone : b.OneAuthority) (h : b.write now plan = .ok (c, q))
    : c.OneAuthority ↔ ¬ b.WritesContested now plan := by
  obtain ⟨index, p, hfind, hwrite, hbook⟩ := write_eq_ok.mp h
  have hp := (findPolicy_eq_some hfind).1
  have hlt := (List.getElem?_eq_some_iff.mp hp).1
  have hq : c.policies[index]? = some q := by
    rw [hbook]
    exact List.getElem?_set_self hlt
  have hother : ∀ j, j ≠ index → c.policies[j]? = b.policies[j]? := by
    intro j hj
    rw [hbook]
    exact List.getElem?_set_ne hj.symm
  have hc : c.Ordered := by
    rw [hbook]
    exact hb.setPolicy (Policy.write_ordered (hb index p hp) hwrite)
  rw [hc.oneAuthority_iff]
  rw [hb.oneAuthority_iff] at hone
  constructor
  . intro hfree ⟨_, n, e, e', target, effectiveFrom, index', p', v, hactivate, hfind', hv, hlive,
      hcontested⟩
    rw [hfind, Option.some.injEq, Prod.mk.injEq] at hfind'
    obtain ⟨hindex, hp'⟩ := hfind'
    subst hindex hp'
    rw [hactivate] at hwrite
    apply hcontested
    intro j r hj hr
    exact hfree index q hq _ (Policy.activated_mem hv hwrite) hlive j r hj (by rw [hother j hj, hr])
  . intro hclear
    -- what has authority in the written policy competes with no version of another one
    have hwritten : ∀ w ∈ q.versions, w.isLive = true → b.Uncontested index w := by
      intro w hw hlive
      cases Policy.live_of_write hwrite hw hlive with
      | inl hold =>
        obtain ⟨u, hu, hsame⟩ := hold
        intro j r hj hr x hx hlive' hcompetes
        exact hone index p hp u hu hsame.1 j r hj hr x hx hlive' (hsame.competes hcompetes)
      | inr hnew =>
        obtain ⟨n, e, e', target, effectiveFrom, v, hactivate, hv, heq⟩ := hnew
        subst heq
        by_contra hcontested
        apply hclear
        refine ⟨?_, n, e, e', target, effectiveFrom, index, p, v, hactivate, hfind, hv, hlive, hcontested⟩
        rw [isOk_iff]
        exact ⟨_, h⟩
    intro i r hr v hv hlive j r' hji hr' w hw hlive' hcompetes
    by_cases hi : i = index
    . subst hi
      rw [hq, Option.some.injEq] at hr
      subst hr
      rw [hother j hji] at hr'
      exact hwritten v hv hlive j r' hji hr' w hw hlive' hcompetes
    . rw [hother i hi] at hr
      by_cases hj : j = index
      . subst hj
        rw [hq, Option.some.injEq] at hr'
        subst hr'
        exact hwritten w hw hlive' i r hi hr v hv hlive hcompetes.symm
      . rw [hother j hj] at hr'
        exact hone i r hr v hv hlive j r' hji hr' w hw hlive' hcompetes

end

end PolicyBook

section

variable [Digest]

/--
The step writes a request whose version is contested by now.
-/
def PolicyDesk.WritesContested (s : PolicyDesk) : DeskStep → Prop
  | .write now index => ∃ plan, s.pending[index]? = some plan ∧ s.book.WritesContested now plan
  | _ => False

namespace PolicyDesk

variable {s : PolicyDesk}

theorem next_ordered (step : DeskStep) (hs : s.book.Ordered) : (policyDesk.next s step).book.Ordered := by
  refine Machine.next_cases (P := fun t : PolicyDesk => t.book.Ordered) hs ?_
  intro t _ hstep
  cases step with
  | createPolicy actor creation =>
    obtain ⟨⟨c, q⟩, hcreate, heq⟩ := bind_eq_ok.mp hstep
    simp only [pure_eq_ok, Prod.mk.injEq, and_true] at heq
    rw [← heq]
    exact PolicyBook.createPolicy_ordered hs hcreate
  | read now actor policyId request =>
    obtain ⟨plan, _, heq⟩ := bind_eq_ok.mp hstep
    simp only [pure_eq_ok, Prod.mk.injEq, and_true] at heq
    rw [← heq]
    exact hs
  | write now index =>
    obtain ⟨plan, _, hrest⟩ := bind_eq_ok.mp hstep
    obtain ⟨⟨c, q⟩, hwrite, heq⟩ := bind_eq_ok.mp hrest
    simp only [pure_eq_ok, Prod.mk.injEq, and_true] at heq
    rw [← heq]
    obtain ⟨i, p, hfind, hwritten, hbook⟩ := PolicyBook.write_eq_ok.mp hwrite
    dsimp only
    rw [hbook]
    exact hs.setPolicy
      (Policy.write_ordered (hs i p (PolicyBook.findPolicy_eq_some hfind).1) hwritten)

theorem next_oneAuthority (step : DeskStep) (hs : s.book.Ordered) (hone : s.book.OneAuthority)
    : (policyDesk.next s step).book.OneAuthority ↔ ¬ s.WritesContested step := by
  cases hstep : policyDesk.step s step with
  | error e =>
    rw [Machine.next_of_error hstep]
    refine iff_of_true hone ?_
    intro hcontested
    cases step with
    | createPolicy | read => exact hcontested
    | write now index =>
      obtain ⟨plan, hplan, hok, _⟩ := hcontested
      obtain ⟨⟨c, q⟩, hwrite⟩ := isOk_iff.mp hok
      have hdone : policyDesk.step s (.write now index) = .ok ({ s with book := c }, ()) := by
        show PolicyDesk.perform s (.write now index) = _
        unfold PolicyDesk.perform
        rw [bind_eq_ok]
        refine ⟨plan, orThrow_eq_ok.mpr hplan, ?_⟩
        rw [bind_eq_ok]
        exact ⟨(c, q), hwrite, rfl⟩
      rw [hstep] at hdone
      cases hdone
  | ok result =>
    obtain ⟨t, u⟩ := result
    rw [Machine.next_of_ok hstep]
    cases step with
    | createPolicy actor creation =>
      obtain ⟨⟨c, q⟩, hcreate, heq⟩ := bind_eq_ok.mp hstep
      simp only [pure_eq_ok, Prod.mk.injEq, and_true] at heq
      rw [← heq]
      exact iff_of_true (PolicyBook.createPolicy_oneAuthority hs hone hcreate) id
    | read now actor policyId request =>
      obtain ⟨plan, _, heq⟩ := bind_eq_ok.mp hstep
      simp only [pure_eq_ok, Prod.mk.injEq, and_true] at heq
      rw [← heq]
      exact iff_of_true hone id
    | write now index =>
      obtain ⟨plan, hplan, hrest⟩ := bind_eq_ok.mp hstep
      obtain ⟨⟨c, q⟩, hwrite, heq⟩ := bind_eq_ok.mp hrest
      simp only [pure_eq_ok, Prod.mk.injEq, and_true] at heq
      rw [orThrow_eq_ok] at hplan
      rw [← heq, PolicyBook.write_oneAuthority hs hone hwrite]
      unfold PolicyDesk.WritesContested
      simp only [hplan, Option.some.injEq, exists_eq_left']

/--
However the reads and writes of requests interleave, no two policies have authority over one decision as
long as no write activates a version that is contested by then: the search for conflicts was made before,
and the write checks the version of its own policy only.
-/
theorem one_authority_iff (s : PolicyDesk) (hs : s.book.Ordered) (hone : s.book.OneAuthority)
    (steps : List DeskStep)
    : (∀ pre post, steps = pre ++ post → (policyDesk.run s pre).book.OneAuthority)
      ↔ policyDesk.Along (fun t step => ¬ t.WritesContested step) s steps := by
  have hordered : ∀ (t : PolicyDesk) (step : DeskStep), t.book.Ordered →
      (policyDesk.next t step).book.Ordered :=
    fun _ step ht => next_ordered step ht
  have hkeeps : ∀ (t : PolicyDesk) (step : DeskStep), t.book.Ordered → t.book.OneAuthority →
      ((policyDesk.next t step).book.OneAuthority ↔ ¬ t.WritesContested step) :=
    fun _ step ht htone => next_oneAuthority step ht htone
  exact Machine.stays_iff_along (I := fun t : PolicyDesk => t.book.Ordered)
    (P := fun t : PolicyDesk => t.book.OneAuthority) hordered hkeeps hs hone steps

end PolicyDesk

end

namespace Sample

attribute [local instance] Digest.checksum

def desk : PolicyDesk :=
  { book := newBook, pending := [] }

/--
Two policies for the same refunds, both in review, whose publications read before either writes.
-/
def race : List DeskStep :=
  [.createPolicy administrator {
      publicId := "POL-1"
      sourceText := some refundTerms.sourceText
      applicability := some refunds
      effectiveFrom := none
      effectiveTo := none },
    .createPolicy administrator {
      publicId := "POL-2"
      sourceText := some refundTerms.sourceText
      applicability := some refunds
      effectiveFrom := none
      effectiveTo := none },
    .read 1 administrator "POL-1" (.submitReview 1 1 1), .write 1 0,
    .read 2 administrator "POL-2" (.submitReview 1 1 1), .write 2 1,
    .read 10 administrator "POL-1" (.publish 1 2 2 none),
    .read 10 administrator "POL-2" (.publish 1 2 2 none),
    .write 11 2, .write 11 3]

theorem one_authority_race
    : (∀ pre post, race = pre ++ post → (policyDesk.run desk pre).book.OneAuthority)
      ↔ policyDesk.Along (fun t step => ¬ t.WritesContested step) desk race := by
  apply PolicyDesk.one_authority_iff
  . intro i p hp
    cases hp
  . intro i j p q _ hp
    cases hp

/--
Both policies end up published for the same cases.
-/
theorem race_won_twice : ¬ (policyDesk.run desk race).book.OneAuthority := by
  have hfound : ∀ i ∈ [0, 1], ((policyDesk.run desk race).book.policies[i]?.any fun p =>
      p.versions.any fun v =>
        v.applicability.decisionScope = "refunds" ∧ v.isRetrievable refundContext 20 = true) = true := by
    decide +kernel
  intro hone
  have hfirst := hfound 0 (by decide)
  have hsecond := hfound 1 (by decide)
  rw [Option.any_eq_true] at hfirst hsecond
  obtain ⟨p, hp, hpv⟩ := hfirst
  obtain ⟨q, hq, hqw⟩ := hsecond
  rw [List.any_eq_true] at hpv hqw
  obtain ⟨v, hv, hvf⟩ := hpv
  obtain ⟨w, hw, hwf⟩ := hqw
  obtain ⟨hscope, hvr⟩ := of_decide_eq_true hvf
  obtain ⟨hscope', hwr⟩ := of_decide_eq_true hwf
  exact hone 0 1 p q (by decide) hp hq v hv w hw (by rw [hscope, hscope']) refundContext "unknown" 20 rfl
    hvr hwr

end Sample

end CaseResolution
