import CaseResolution.Actions.Retry
import CaseResolution.Reviews.Decisions

/-!
This module contains the authority every execution has: an attempt does what the approved version of
the proposal says, the approval was made by another member with the authority for it, and the case and
the proposal have not changed since.
-/

namespace CaseResolution

open Store

/--
The case and the proposal of a review are as its snapshot has them.
-/
def Store.MatchesSnapshot (s : Store) (r : CaseReview) : Prop :=
  ∃ case proposal, s.cases[r.caseId]? = some case ∧ s.proposals[r.proposalId]? = some proposal
    ∧ case.version = r.snapshot.caseVersion ∧ proposal.currentVersion = r.snapshot.proposalVersion

/--
What lies between two stores that match a snapshot matches it as well.
-/
theorem Store.MatchesSnapshot.between {s t u : Store} {r : CaseReview} (hst : s.Grows t)
    (htu : t.Grows u) (hs : s.MatchesSnapshot r) (hu : u.MatchesSnapshot r)
    : t.MatchesSnapshot r := by
  obtain ⟨case, proposal, hcase, hproposal, hcaseVersion, hproposalVersion⟩ := hs
  obtain ⟨case'', proposal'', hcase'', hproposal'', hcaseVersion'', hproposalVersion''⟩ := hu
  obtain ⟨case', hcase', hcaseLe, _⟩ := hst.cases _ _ hcase
  obtain ⟨proposal', hproposal', _, hproposalLe⟩ := hst.proposals _ _ hproposal
  obtain ⟨case₂, hcase₂, hcaseLe', _⟩ := htu.cases _ _ hcase'
  obtain ⟨proposal₂, hproposal₂, _, hproposalLe'⟩ := htu.proposals _ _ hproposal'
  obtain rfl := Option.some.inj (hcase''.symm.trans hcase₂)
  obtain rfl := Option.some.inj (hproposal''.symm.trans hproposal₂)
  exact ⟨case', proposal', hcase', hproposal', by omega, by omega⟩

section

variable [Digest]

/--
In the run the decision was made by a command on the review as it still is, and neither the case nor
the proposal has changed since.
-/
def InitialStore.ApprovedSince (init : InitialStore) (commands : List Command) (i : Nat)
    (review : CaseReview) (decision : CaseReviewDecision) : Prop :=
  ∃ pre now actorId expectedVersion reason post r p memberId member,
    commands = pre ++ .decideReview now i actorId expectedVersion decision.snapshotFingerprint
        decision.decision reason :: post
      ∧ (init.after pre).reviews[i]? = some r
      ∧ r.subject = review.subject
      ∧ (init.after pre).versions[review.proposalVersionId]?
        = (init.after commands).versions[review.proposalVersionId]?
      ∧ (init.after pre).Makes now actorId r decision p memberId member
      ∧ ∀ mid rest, commands = pre ++ mid ++ rest → (init.after (pre ++ mid)).MatchesSnapshot review

theorem InitialStore.approvedSince (init : InitialStore) (commands : List Command) {i k : Nat}
    {review : CaseReview} {decision : CaseReviewDecision}
    (hreview : (init.after commands).reviews[i]? = some review)
    (hdecision : review.decisions[k]? = some decision) (hcurrent : decision.legacyDecisionId = none)
    (hmatches : (init.after commands).MatchesSnapshot review)
    : init.ApprovedSince commands i review decision := by
  obtain ⟨pre, now, actorId, expectedVersion, reason, post, r, p, memberId, member, hcommands, hr,
    hsubject, hmakes⟩ := init.decided commands hreview hdecision hcurrent
  have hsame := hsubject
  simp only [CaseReview.subject, ReviewSubject.mk.injEq] at hsame
  obtain ⟨hcase, hproposal, hversion, _, _, _, hsnapshot⟩ := hsame
  have hpre : (init.after pre).MatchesSnapshot review := by
    unfold MatchesSnapshot
    rw [← hcase, ← hproposal, ← hsnapshot]
    exact hmakes.current
  refine ⟨pre, now, actorId, expectedVersion, reason, post, r, p, memberId, member, ?_, hr, hsubject,
    ?_, hmakes, ?_⟩
  . rw [hmakes.fingerprint, hcommands]
  . obtain ⟨_, _, version, _, _, hfound, _⟩ :=
      (init.after_sound pre).reviews_linked r (List.mem_of_getElem? hr)
    rw [← hversion, hfound, hcommands]
    exact (Rows.Extends.get _ _ (init.after_grows pre _).versions hfound).symm
  . intro mid rest heq
    have hrest := init.after_grows (pre ++ mid) rest
    rw [← heq] at hrest
    exact hpre.between (init.after_grows pre mid) hrest hmatches

/--
Whatever a run hands out for execution does what the reviewed version of the proposal says, under the
only snapshot with the approved fingerprint, approved by an active member other than the submitter
with the required role and a reservation that had not expired, and nothing has changed since.
-/
theorem execution_authorized (init : InitialStore) (commands : List Command) {now : Instant} {i : Nat}
    {actorId : String} {expectedVersion : Nat} {command : ActionCommand} {t : Store}
    {lease : ActionExecutionLease}
    (h : (init.after commands).prepareExecution now i actorId expectedVersion command
      = .ok (t, lease))
    : ∃ a review decision version proposedAction,
        (init.after commands).actions[i]? = some a
          ∧ (init.after commands).reviews[a.reviewId]? = some review
          ∧ review.decisions[a.reviewDecisionId]? = some decision
          ∧ (init.after commands).versions[review.proposalVersionId]? = some version
          ∧ version.version = review.snapshot.proposalVersion
          ∧ version.proposedActions[a.proposedActionId]? = some proposedAction
          ∧ lease.actionType = proposedAction.type
          ∧ lease.parameters = proposedAction.parameters
          ∧ decision.decision = .approve
          ∧ decision.snapshotFingerprint = review.snapshot.snapshotFingerprint
          ∧ (∀ (j : Nat) (q : CaseReview), (init.after commands).reviews[j]? = some q
            → q.snapshot.snapshotFingerprint = decision.snapshotFingerprint → j = a.reviewId)
          ∧ init.ApprovedSince commands a.reviewId review decision := by
  have hsound := init.after_sound commands
  obtain ⟨a, recovered, memberId, _, connection, ha, hrecovered, _, _, hblocker, _, _, _, rfl, rfl⟩ :=
    prepareExecution_eq_ok.mp h
  have hpersists : a.Persists recovered := hrecovered ▸ abandoned_persists a now
  have hgrant := hpersists.grant
  simp only [CaseAction.grant, ActionGrant.mk.injEq] at hgrant
  obtain ⟨gcase, gproposal, gversion, _, greview, gdecision, _, _, gtype, _, gparameters, _⟩ := hgrant
  obtain ⟨_, _, _, heligible, _, lineage, hlineage, hcurrent⟩ :=
    (effectiveBlocker_eq_none_iff.mp hblocker).1
  obtain ⟨hreview, hdecision, hcase, hproposal, hversion⟩ := actionLineage_eq_some.mp hlineage
  obtain ⟨review, decision, version, proposedAction, hreview', hdecision', happrove, hversion',
    hproposed, hcaseId, hproposalId, hversionId, htype, _, hgoverned⟩ :=
    hsound.actions_linked a (List.mem_of_getElem? ha)
  obtain ⟨hparameters, hsnapshot, _, hfingerprint⟩ := hgoverned (hpersists.eligible heligible)
  rw [greview] at hreview
  obtain rfl := Option.some.inj (hreview.symm.trans hreview')
  rw [gversion] at hversion
  obtain rfl := Option.some.inj (hversion.symm.trans hversion')
  have hvalid := hsound.reviews_valid lineage.review (List.mem_of_getElem? hreview)
  refine ⟨a, lineage.review, decision, lineage.version, proposedAction, ha, hreview, hdecision', ?_,
    hcurrent.2.2.2.2.2.2.2.1, hproposed, ?_, ?_, happrove, hfingerprint, ?_, ?_⟩
  . rw [← hversionId, hversion]
  . rw [← htype, ← gtype]
    rfl
  . rw [← hparameters, ← gparameters]
    rfl
  . intro j q hq hsame
    exact hsound.fingerprint_unique j a.reviewId q lineage.review hq hreview
      (hsame.trans hfingerprint)
  . refine init.approvedSince commands hreview hdecision' ?_ ?_
    . exact hvalid.governed hsnapshot decision (List.mem_of_getElem? hdecision')
    . refine ⟨lineage.case, lineage.proposal, ?_, ?_, hcurrent.2.2.2.2.1, hcurrent.2.2.2.2.2.1⟩
      . rw [← hcaseId, ← gcase, hcase]
      . rw [← hproposalId, ← gproposal, hproposal]

end

namespace Sample

attribute [local instance] Digest.checksum

theorem executable : ∃ result ∈ ((initial.after approval).prepareExecution 5 0 "MB-2" 1
    .execute).toOption, result.2.actionType = "issue_refund" := by
  decide +kernel

/--
The refund is executed as it was approved.
-/
theorem execution_authorized_executable : ∃ a review decision,
    (initial.after approval).actions[0]? = some a
      ∧ (initial.after approval).reviews[a.reviewId]? = some review
      ∧ decision.decision = .approve
      ∧ initial.ApprovedSince approval a.reviewId review decision := by
  obtain ⟨⟨t, lease⟩, h, _⟩ := executable
  obtain ⟨a, review, decision, _, _, ha, hreview, _, _, _, _, _, _, happrove, _, _, hsince⟩ :=
    execution_authorized initial approval (Guard.toOption_eq_some.mp h)
  exact ⟨a, review, decision, ha, hreview, happrove, hsince⟩

end Sample

end CaseResolution
