import CaseResolution.Reviews.Lemmas.Invariant
import CaseResolution.System.Basic

/-!
This module contains the steps a review can take, whichever command takes them, and that they keep
the invariant of reviews.
-/

namespace CaseResolution

/--
The ways in which a command may write the review at position `i`.
-/
inductive ReviewStep (c : Command) (i : Nat) (r : CaseReview) : CaseReview → Prop where
  | expired (now : Instant) (issued : c.instant = some now) : ReviewStep c i r (r.expire now)
  | held (now : Instant) (actorId : String) (expectedVersion memberId : Nat) (member : Membership)
      (issued : c = .reserveReview now i actorId expectedVersion)
      (free : ∀ p ∈ r.reservations, p.status ≠ .active) (undecided : ¬ r.status.isTerminal)
      (distinct : r.submittedById ≠ memberId)
      : ReviewStep c i r (r.hold memberId member now)
  | decided (now : Instant) (actorId : String) (expectedVersion : Nat)
      (snapshotFingerprint : String) (decision : ReviewDecision) (reason : String)
      (reservationId : Nat) (reservation : CaseReviewReservation) (memberId : Nat)
      (member : Membership)
      (issued : c = .decideReview now i actorId expectedVersion snapshotFingerprint decision reason)
      (undecided : ¬ r.status.isTerminal)
      (found : r.reservations[reservationId]? = some reservation)
      (active : reservation.status = .active) (unexpired : now < reservation.expiresAt)
      (reserver : reservation.reviewerId = some memberId)
      (authority : roleSatisfies (some member.role) r.snapshot.requiredRole)
      : ReviewStep c i r
          (r.recordDecision reservationId reservation memberId member decision reason now)

namespace ReviewStep

variable {c : Command} {i : Nat} {r q : CaseReview}

theorem persists (h : ReviewStep c i r q) (hr : r.Valid) : r.Persists q := by
  cases h with
  | expired now => exact hr.expire_persists now
  | held now actorId expectedVersion memberId member issued free undecided distinct =>
    exact CaseReview.hold_persists undecided memberId member now
  | decided now actorId expectedVersion snapshotFingerprint decision reason reservationId
      reservation memberId member issued undecided found active =>
    exact CaseReview.recordDecision_persists undecided found active memberId member decision reason
      now

/--
Every step keeps the invariant.
-/
theorem valid (h : ReviewStep c i r q) (hr : r.Valid) : q.Valid := by
  cases h with
  | expired now => exact hr.expired now
  | held now actorId expectedVersion memberId member issued free undecided distinct =>
    exact hr.held memberId member now free undecided distinct
  | decided now actorId expectedVersion snapshotFingerprint decision reason reservationId
      reservation memberId member issued undecided found active unexpired reserver authority =>
    exact hr.decide_held decision reason undecided found active unexpired reserver authority

end ReviewStep

end CaseResolution
