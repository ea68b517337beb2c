import CaseResolution.Reviews.Impl.Legacy

/-!
This module contains what every reachable review satisfies: when it is reserved, when it is decided,
and what backs its decision; and what no write takes back from a review.
-/

namespace CaseResolution

/--
What a reservation was granted when it was made.
-/
structure ReservationGrant where
  reviewerId : Option Nat
  legacyReservationId : Option Nat
  reviewerRole : MemberRole
  snapshotFingerprint : String
  reservedAt : Instant
  expiresAt : Instant

namespace CaseReviewReservation

def grant (p : CaseReviewReservation) : ReservationGrant where
  reviewerId := p.reviewerId
  legacyReservationId := p.legacyReservationId
  reviewerRole := p.reviewerRole
  snapshotFingerprint := p.snapshotFingerprint
  reservedAt := p.reservedAt
  expiresAt := p.expiresAt

/--
A reservation that was consumed or that expired never changes.
-/
structure Persists (p q : CaseReviewReservation) : Prop where
  grant : q.grant = p.grant
  ended : p.status ≠ .active → q = p

theorem Persists.refl (p : CaseReviewReservation) : p.Persists p :=
  ⟨rfl, fun _ => rfl⟩

theorem Persists.trans {p q r : CaseReviewReservation} (hpq : p.Persists q) (hqr : q.Persists r)
    : p.Persists r where
  grant := by rw [hqr.grant, hpq.grant]
  ended := by
    intro h
    have hq := hpq.ended h
    rw [hqr.ended (by rwa [hq]), hq]

theorem expire_of_not_expired {p : CaseReviewReservation} {now : Instant}
    (h : p.isExpired now = false) : p.expire now = p := by
  simp [expire, h]

theorem expire_of_ne_active {p : CaseReviewReservation} {now : Instant} (h : p.status ≠ .active)
    : p.expire now = p :=
  expire_of_not_expired (by simp [isExpired, h])

theorem expire_persists (p : CaseReviewReservation) (now : Instant) : p.Persists (p.expire now) where
  grant := by
    unfold expire
    split <;> rfl
  ended := fun h => expire_of_ne_active h

/--
A reservation that is still active after expiry was left alone by it and holds beyond the instant.
-/
theorem expire_active {p : CaseReviewReservation} {now : Instant}
    (h : (p.expire now).status = .active) : p.expire now = p ∧ now < p.expiresAt := by
  unfold expire at h ⊢
  split at h
  . simp at h
  . next hexpired =>
    rw [if_neg hexpired]
    refine ⟨rfl, ?_⟩
    simp only [isExpired, h, true_and, decide_eq_true_eq] at hexpired
    exact not_le.mp hexpired

end CaseReviewReservation

/--
What a review was created with.
-/
structure ReviewSubject where
  caseId : Nat
  proposalId : Nat
  proposalVersionId : Nat
  policyState : ReviewPolicyState
  submittedById : Nat
  submittedAt : Instant
  snapshot : CaseReviewSnapshot

namespace CaseReview

def subject (r : CaseReview) : ReviewSubject where
  caseId := r.caseId
  proposalId := r.proposalId
  proposalVersionId := r.proposalVersionId
  policyState := r.policyState
  submittedById := r.submittedById
  submittedAt := r.submittedAt
  snapshot := r.snapshot

/--
What no write takes back from a review.
-/
structure Persists (r q : CaseReview) : Prop where
  subject : q.subject = r.subject
  reservations : Rows.Extends CaseReviewReservation.Persists r.reservations q.reservations
  decisions : Rows.Extends Eq r.decisions q.decisions
  terminal : r.status.isTerminal = true → q.status = r.status
  version : r.version ≤ q.version
  changed : q ≠ r → r.version < q.version

theorem Persists.refl (r : CaseReview) : r.Persists r where
  subject := rfl
  reservations := .refl .refl _
  decisions := .refl (fun _ => rfl) _
  terminal := fun _ => rfl
  version := le_refl _
  changed := fun h => absurd rfl h

theorem Persists.trans {r q p : CaseReview} (hrq : r.Persists q) (hqp : q.Persists p)
    : r.Persists p where
  subject := by rw [hqp.subject, hrq.subject]
  reservations := .trans .trans hrq.reservations hqp.reservations
  decisions := .trans (fun h₁ h₂ => h₁.trans h₂) hrq.decisions hqp.decisions
  terminal := by
    intro h
    have hq := hrq.terminal h
    rw [hqp.terminal (by rwa [hq]), hq]
  version := le_trans hrq.version hqp.version
  changed := by
    intro h
    by_cases hsame : q = r
    . exact lt_of_le_of_lt hrq.version (hqp.changed (by rwa [hsame]))
    . exact lt_of_lt_of_le (hrq.changed hsame) hqp.version

/--
A decision is backed by the consumed reservation of the reviewer who made it.
-/
def Backs (r : CaseReview) (d : CaseReviewDecision) : Prop :=
  ∃ p memberId,
    r.reservations[d.reservationId]? = some p
      ∧ p.status = .consumed
      ∧ p.consumedAt = some d.decidedAt
      ∧ p.reviewerId = some memberId
      ∧ p.legacyReservationId = none
      ∧ p.snapshotFingerprint = r.snapshot.snapshotFingerprint
      ∧ d.decidedAt < p.expiresAt
      ∧ d.reviewerId = some memberId
      ∧ memberId ≠ r.submittedById
      ∧ roleSatisfies (some d.reviewerRole) r.snapshot.requiredRole
      ∧ d.snapshotFingerprint = r.snapshot.snapshotFingerprint

/--
The invariant of reviews.
-/
structure Valid (r : CaseReview) : Prop where
  active_unique : ∀ (j k : Nat) (p q : CaseReviewReservation), r.reservations[j]? = some p
    → r.reservations[k]? = some q → p.status = .active → q.status = .active → j = k
  reserved : r.status = .reserved ↔ ∃ p ∈ r.reservations, p.status = .active
  distinct : ∀ p ∈ r.reservations, p.reviewerId ≠ some r.submittedById
  bound : ∀ p ∈ r.reservations, p.reviewerId ≠ none
    → p.legacyReservationId = none ∧ p.snapshotFingerprint = r.snapshot.snapshotFingerprint
  decided : r.status.isTerminal = true ↔ r.decisions ≠ []
  decision_unique : r.decisions.length ≤ 1
  outcome : ∀ d ∈ r.decisions, r.status = reviewStatus d.decision
  backed : ∀ d ∈ r.decisions, d.legacyDecisionId = none → r.Backs d
  governed : r.snapshot.executionEligible = true → ∀ d ∈ r.decisions, d.legacyDecisionId = none

theorem reviewStatus_isTerminal (decision : ReviewDecision)
    : (reviewStatus decision).isTerminal = true := by
  cases decision <;> rfl

@[simp]
theorem expire_decisions (r : CaseReview) (now : Instant)
    : (r.expire now).decisions = r.decisions := by
  unfold expire
  dsimp only
  split <;> rfl

theorem heldReservation_eq_some {r : CaseReview} {reservationId : Nat}
    (h : r.heldReservation = some reservationId)
    : ∃ p, r.reservations[reservationId]? = some p ∧ p.status = .active := by
  obtain ⟨hlt, hactive, _⟩ := List.findIdx?_eq_some_iff_getElem.mp h
  exact ⟨_, List.getElem?_eq_getElem hlt, by simpa using hactive⟩

/--
Some reservation of the review was imported from the legacy product.
-/
def IsImported (r : CaseReview) : Prop :=
  ∃ p ∈ r.reservations, p.legacyReservationId ≠ none

instance (r : CaseReview) : Decidable r.IsImported :=
  inferInstanceAs (Decidable (∃ p ∈ r.reservations, _))

namespace Valid

variable {r : CaseReview}

/--
Only the active reservation of a reserved review can expire, and that returns the review.
-/
theorem expire_cases (h : r.Valid) (now : Instant)
    : (r.holdExpired now = false ∧ r.expire now = r)
        ∨ ∃ (k : Nat) (p : CaseReviewReservation),
          r.holdExpired now = true ∧ r.status = .reserved
            ∧ r.reservations[k]? = some p ∧ p.status = .active ∧ p.expiresAt ≤ now
            ∧ r.expire now =
              { r with
                reservations := r.reservations.set k { p with status := .expired }
                status := .pending
                version := r.version + 1 } := by
  by_cases hexpired : r.holdExpired now
  . right
    obtain ⟨hstatus, hany⟩ : r.status = .reserved
        ∧ r.reservations.any fun p => p.isExpired now := by simpa [holdExpired] using hexpired
    obtain ⟨p, hp, hp'⟩ := List.any_eq_true.mp hany
    obtain ⟨hactive, htime⟩ : p.status = .active ∧ p.expiresAt ≤ now := by
      simpa [CaseReviewReservation.isExpired] using hp'
    obtain ⟨k, hk⟩ := List.mem_iff_getElem?.mp hp
    have hmap : (r.reservations.map fun q => q.expire now)
        = r.reservations.set k { p with status := .expired } := by
      rw [Rows.map_eq_set hk]
      . simp [CaseReviewReservation.expire, hp']
      . intro j q hne hj
        apply CaseReviewReservation.expire_of_ne_active
        intro hq
        exact hne (h.active_unique j k q p hj hk hq hactive)
    refine ⟨k, p, hexpired, hstatus, hk, hactive, htime, ?_⟩
    simp only [expire, hexpired, if_true, hmap]
  . left
    have hsame : (r.reservations.map fun q => q.expire now) = r.reservations := by
      apply Rows.map_self
      intro q hq
      apply CaseReviewReservation.expire_of_not_expired
      by_contra hq'
      rw [Bool.not_eq_false] at hq'
      have hactive : q.status = .active := by
        simp only [CaseReviewReservation.isExpired, decide_eq_true_eq] at hq'
        exact hq'.1
      have hany : r.reservations.any fun p => p.isExpired now := List.any_eq_true.mpr ⟨q, hq, hq'⟩
      exact hexpired (by simp [holdExpired, h.reserved.mpr ⟨q, hq, hactive⟩, hany])
    refine ⟨by simpa using hexpired, ?_⟩
    simp [expire, hexpired, hsame]

theorem expired (h : r.Valid) (now : Instant) : (r.expire now).Valid := by
  rcases h.expire_cases now with ⟨_, heq⟩ | ⟨k, p, _, hstatus, hk, hactive, _, heq⟩
  . rwa [heq]
  have hopen : r.decisions = [] := by
    by_contra hne
    have := h.decided.mpr hne
    simp [hstatus, ReviewStatus.isTerminal] at this
  have hnone : ∀ q ∈ r.reservations.set k { p with status := .expired }, q.status ≠ .active := by
    intro q hq hq'
    obtain ⟨j, hj⟩ := List.mem_iff_getElem?.mp hq
    rcases Rows.getElem?_set_cases hj with ⟨_, rfl, _⟩ | ⟨hne, hj⟩
    . simp at hq'
    . exact hne (h.active_unique k j p q hk hj hactive hq')
  rw [heq]
  exact {
    active_unique := by
      intro j l q q' hj _ hq
      exact absurd hq (hnone q (List.mem_of_getElem? hj))
    reserved := by
      simp only [reduceCtorEq, false_iff, not_exists, not_and]
      exact hnone
    distinct := by
      intro q hq
      rcases List.mem_or_eq_of_mem_set hq with hq | rfl
      . exact h.distinct q hq
      . exact h.distinct p (List.mem_of_getElem? hk)
    bound := by
      intro q hq
      rcases List.mem_or_eq_of_mem_set hq with hq | rfl
      . exact h.bound q hq
      . exact h.bound p (List.mem_of_getElem? hk)
    decided := by simp [hopen, ReviewStatus.isTerminal]
    decision_unique := h.decision_unique
    outcome := by simp [hopen]
    backed := by simp [hopen]
    governed := by simp [hopen]
  }

/--
A reservation of a review that is neither reserved nor decided keeps the invariant.
-/
theorem held (h : r.Valid) (memberId : Nat) (member : Membership) (now : Instant)
    (hfree : ∀ p ∈ r.reservations, p.status ≠ .active) (hopen : ¬ r.status.isTerminal)
    (hdistinct : r.submittedById ≠ memberId) : (r.hold memberId member now).Valid := by
  have hundecided : r.decisions = [] := by
    by_contra hne
    exact hopen (h.decided.mpr hne)
  exact {
    active_unique := by
      intro j k p q hj hk hp hq
      rcases Rows.getElem?_concat_cases hj with hj | ⟨rfl, _⟩
      . exact absurd hp (hfree p (List.mem_of_getElem? hj))
      rcases Rows.getElem?_concat_cases hk with hk | ⟨rfl, _⟩
      . exact absurd hq (hfree q (List.mem_of_getElem? hk))
      . rfl
    reserved := by
      simp only [hold, true_iff]
      exact ⟨_, List.mem_append_right _ (List.mem_singleton_self _), rfl⟩
    distinct := by
      intro p hp
      simp only [hold, List.mem_append, List.mem_singleton] at hp
      rcases hp with hp | rfl
      . exact h.distinct p hp
      . simpa [hold] using hdistinct.symm
    bound := by
      intro p hp
      simp only [hold, List.mem_append, List.mem_singleton] at hp
      rcases hp with hp | rfl
      . exact h.bound p hp
      . simp [hold]
    decided := by simp [hold, hundecided, ReviewStatus.isTerminal]
    decision_unique := h.decision_unique
    outcome := by simp [hold, hundecided]
    backed := by simp [hold, hundecided]
    governed := by simp [hold, hundecided]
  }

/--
A decision of the reviewer who holds the review keeps the invariant.
-/
theorem decide_held (h : r.Valid) {reservationId : Nat} {p : CaseReviewReservation} {memberId : Nat}
    {member : Membership} {now : Instant} (decision : ReviewDecision) (reason : String)
    (hopen : ¬ r.status.isTerminal) (hfound : r.reservations[reservationId]? = some p)
    (hactive : p.status = .active) (hunexpired : now < p.expiresAt)
    (hreserver : p.reviewerId = some memberId)
    (hauthority : roleSatisfies (some member.role) r.snapshot.requiredRole)
    : (r.recordDecision reservationId p memberId member decision reason now).Valid := by
  have hundecided : r.decisions = [] := by
    by_contra hne
    exact hopen (h.decided.mpr hne)
  have hp := List.mem_of_getElem? hfound
  have hlt := (List.getElem?_eq_some_iff.mp hfound).1
  have hnone : ∀ q ∈ r.reservations.set reservationId
      { p with status := .consumed, consumedAt := some now }, q.status ≠ .active := by
    intro q hq hq'
    obtain ⟨j, hj⟩ := List.mem_iff_getElem?.mp hq
    rcases Rows.getElem?_set_cases hj with ⟨_, rfl, _⟩ | ⟨hne, hj⟩
    . simp at hq'
    . exact hne (h.active_unique reservationId j p q hfound hj hactive hq')
  exact {
    active_unique := by
      intro j k q q' hj _ hq
      exact absurd hq (hnone q (List.mem_of_getElem? hj))
    reserved := by
      have hne : reviewStatus decision ≠ .reserved := by cases decision <;> decide
      simp only [recordDecision, hne, false_iff, not_exists, not_and]
      exact hnone
    distinct := by
      intro q hq
      rcases List.mem_or_eq_of_mem_set hq with hq | rfl
      . exact h.distinct q hq
      . exact h.distinct p hp
    bound := by
      intro q hq
      rcases List.mem_or_eq_of_mem_set hq with hq | rfl
      . exact h.bound q hq
      . exact h.bound p hp
    decided := by simp [recordDecision, reviewStatus_isTerminal]
    decision_unique := by simp [recordDecision, hundecided]
    outcome := by simp [recordDecision, hundecided]
    backed := by
      intro d hd _
      obtain ⟨hlegacy, hfingerprint⟩ := h.bound p hp (by simp [hreserver])
      have hdistinct := h.distinct p hp
      simp only [recordDecision, hundecided, List.nil_append, List.mem_singleton] at hd
      subst hd
      refine ⟨{ p with status := .consumed, consumedAt := some now }, memberId, ?_, rfl, rfl,
        hreserver, hlegacy, hfingerprint, hunexpired, rfl, ?_, hauthority, rfl⟩
      . simp [recordDecision, hlt]
      . intro hsame
        exact hdistinct (hreserver.trans (congrArg some hsame))
    governed := by simp [recordDecision, hundecided]
  }

/--
A review that was just submitted satisfies the invariant.
-/
theorem of_submitted (hstatus : r.status = .pending) (hreservations : r.reservations = [])
    (hdecisions : r.decisions = []) : r.Valid where
  active_unique := by simp [hreservations]
  reserved := by simp [hstatus, hreservations]
  distinct := by simp [hreservations]
  bound := by simp [hreservations]
  decided := by simp [hstatus, hdecisions, ReviewStatus.isTerminal]
  decision_unique := by simp [hdecisions]
  outcome := by simp [hdecisions]
  backed := by simp [hdecisions]
  governed := by simp [hdecisions]

/--
An imported review satisfies the invariant.
-/
theorem of_imported [Digest] (command : LegacyReviewImport) (versionId : Nat)
    (version : CaseProposalVersion) (caseVersion importerId : Nat)
    : (command.newReview versionId version caseVersion importerId).Valid where
  active_unique := by
    intro j k p q hj _ hp
    have hmem := List.mem_of_getElem? hj
    simp only [LegacyReviewImport.newReview, List.mem_singleton] at hmem
    subst hmem
    unfold LegacyReviewImport.reservation at hp
    dsimp only at hp
    split at hp <;> simp at hp
  reserved := by
    simp only [LegacyReviewImport.newReview, LegacyReviewImport.reservation, List.mem_singleton,
      exists_eq_left]
    cases command.decision with
    | none => simp
    | some preserved =>
      have hne : reviewStatus preserved.1 ≠ .reserved := by cases preserved.1 <;> decide
      simp [hne]
  distinct := by simp [LegacyReviewImport.newReview, LegacyReviewImport.reservation]
  bound := by simp [LegacyReviewImport.newReview, LegacyReviewImport.reservation]
  decided := by
    simp only [LegacyReviewImport.newReview, LegacyReviewImport.decisions]
    cases command.decision with
    | none => simp [ReviewStatus.isTerminal]
    | some preserved => simp [reviewStatus_isTerminal]
  decision_unique := by
    simp only [LegacyReviewImport.newReview, LegacyReviewImport.decisions]
    cases command.decision <;> simp
  outcome := by
    simp only [LegacyReviewImport.newReview, LegacyReviewImport.decisions]
    cases command.decision <;> simp
  backed := by
    simp only [LegacyReviewImport.newReview, LegacyReviewImport.decisions]
    cases command.decision <;> simp
  governed := by simp [LegacyReviewImport.newReview]

/--
Expiry takes nothing back from a review.
-/
theorem expire_persists (h : r.Valid) (now : Instant) : r.Persists (r.expire now) := by
  rcases h.expire_cases now with ⟨_, heq⟩ | ⟨k, p, _, hstatus, hk, hactive, _, heq⟩
  . rw [heq]
    exact .refl r
  . rw [heq]
    exact {
      subject := rfl
      reservations := .set .refl hk ⟨rfl, fun hne => absurd hactive hne⟩
      decisions := .refl (fun _ => rfl) _
      terminal := by simp [hstatus, ReviewStatus.isTerminal]
      version := Nat.le_succ _
      changed := fun _ => Nat.lt_succ_self _
    }

end Valid

theorem hold_persists {r : CaseReview} (hopen : ¬ r.status.isTerminal) (memberId : Nat)
    (member : Membership) (now : Instant) : r.Persists (r.hold memberId member now) where
  subject := rfl
  reservations := .append .refl _ _
  decisions := .refl (fun _ => rfl) _
  terminal := fun hterminal => absurd hterminal hopen
  version := Nat.le_succ _
  changed := fun _ => Nat.lt_succ_self _

theorem recordDecision_persists {r : CaseReview} {reservationId : Nat} {p : CaseReviewReservation}
    (hopen : ¬ r.status.isTerminal) (hfound : r.reservations[reservationId]? = some p)
    (hactive : p.status = .active) (memberId : Nat) (member : Membership) (decision : ReviewDecision)
    (reason : String) (now : Instant)
    : r.Persists (r.recordDecision reservationId p memberId member decision reason now) where
  subject := rfl
  reservations := .set .refl hfound ⟨rfl, fun hne => absurd hactive hne⟩
  decisions := .append (fun _ => rfl) _ _
  terminal := fun hterminal => absurd hterminal hopen
  version := Nat.le_succ _
  changed := fun _ => Nat.lt_succ_self _

end CaseReview

end CaseResolution
