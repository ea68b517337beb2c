import CaseResolution.Identity.Impl.Members

/-!
This module contains that an organization never loses its last active administrator, that nobody changes
their own authority and that every change of a member's authority is counted.
-/

namespace CaseResolution

open Guard

namespace IdentityStore

def HasActiveAdministrator (s : IdentityStore) (organizationId : Nat) : Prop :=
  ∃ m ∈ s.members, m.isActiveAdministrator organizationId = true

instance (s : IdentityStore) (organizationId : Nat) : Decidable (s.HasActiveAdministrator organizationId) :=
  inferInstanceAs (Decidable (∃ m ∈ s.members, _))

/--
The member who makes a call.
-/
def actorOf (s : IdentityStore) : IdentityCommand → Option Nat
  | .updateMember organizationId actorId _ _ _ _ => do
    let organization ← (s.requiredOrganization organizationId).toOption
    s.activeMember organization actorId
  | .acceptInvitation _ identity _ => (s.resolveActorBySubject identity.subjectId).toOption
  | .revokeInvitation organizationId actorId _ _ => do
    let organization ← (s.requiredOrganization organizationId).toOption
    s.activeMember organization actorId

/--
What a call does to the members: nothing, or one joins, or the authority of one is changed by another
who leaves an active administrator.
-/
inductive MembersStep (s : IdentityStore) (command : IdentityCommand) (members : List OrganizationMember)
    : Prop where
  | kept (h : members = s.members)
  | joined (m : OrganizationMember) (h : members = s.members ++ [m])
  | changed (memberId : Nat) (target : OrganizationMember) (role : MemberRole) (status : MemberStatus)
    (htarget : s.members[memberId]? = some target)
    (hother : s.actorOf command ≠ some memberId)
    (hadministrator : target.isActiveAdministrator target.organizationId = true →
      (target.changed role status).isActiveAdministrator target.organizationId = true
        ∨ ∃ otherId other, otherId ≠ memberId ∧ s.members[otherId]? = some other
          ∧ other.isActiveAdministrator target.organizationId = true)
    (h : members = s.members.set memberId (target.changed role status))

variable {s s' : IdentityStore} {command : IdentityCommand}

theorem otherActiveAdministrators_ne_zero {organizationId memberId : Nat}
    (h : s.otherActiveAdministrators organizationId memberId ≠ 0)
    : ∃ otherId other, otherId ≠ memberId ∧ s.members[otherId]? = some other
        ∧ other.isActiveAdministrator organizationId = true := by
  unfold otherActiveAdministrators at h
  obtain ⟨⟨otherId, other⟩, hrow, hp⟩ := List.countP_pos_iff.mp (Nat.pos_of_ne_zero h)
  obtain ⟨hadministrator, hne⟩ := of_decide_eq_true hp
  exact ⟨otherId, other, hne, Rows.mem_numbered.mp hrow, hadministrator⟩

theorem updateMember_step {organizationId actorId memberPublicId : String} {expectedVersion : Nat}
    {role : Option MemberRole} {status : Option MemberStatus} {record : OrganizationMember}
    (h : s.updateMember organizationId actorId memberPublicId expectedVersion role status = .ok (s', record))
    : s.MembersStep (.updateMember organizationId actorId memberPublicId expectedVersion role status)
        s'.members := by
  unfold updateMember at h
  simp only [bind_eq_ok, requiredActiveMember, orThrow_eq_ok, ensure_eq_ok] at h
  obtain ⟨organization, horganization, actor, hactor, memberId, hmember, target, htarget, _, _, _, hown,
    _, _, _, _, _, hlast, h⟩ := h
  split at h
  . rw [pure_eq_ok, Prod.mk.injEq] at h
    exact .kept (congrArg (fun store => store.members) h.1.symm)
  . next hchange =>
    rw [pure_eq_ok, Prod.mk.injEq] at h
    have hcaller : s.actorOf (.updateMember organizationId actorId memberPublicId expectedVersion role
        status) = some actor := by
      unfold actorOf
      simp only [horganization, Except.toOption, Option.bind_eq_bind, Option.bind_some]
      exact hactor
    obtain ⟨found, hfound, hmatches⟩ := Rows.exists_of_findIdx? hmember
    have hsame : found = target := Option.some.inj (hfound.symm.trans htarget)
    rw [hsame] at hmatches
    have horganized : target.organizationId = organization := (of_decide_eq_true hmatches).1
    apply MembersStep.changed memberId target (role.getD target.role) (status.getD target.status) htarget
    . rw [hcaller]
      intro hself
      apply hown
      refine ⟨(Option.some.inj hself).symm, ?_⟩
      by_contra hkept
      rw [not_or, not_not, not_not] at hkept
      exact hchange hkept
    . intro hadministrator
      obtain ⟨_, hrole, hstatus⟩ := of_decide_eq_true hadministrator
      by_cases hstays : role.getD target.role = .administrator ∧ status.getD target.status = .active
      . exact .inl (decide_eq_true ⟨rfl, hstays⟩)
      . right
        rw [horganized]
        apply otherActiveAdministrators_ne_zero
        intro hnone
        refine hlast ⟨hrole, hstatus, ?_, hnone⟩
        rwa [not_and_or] at hstays
    . exact congrArg (fun store => store.members) h.1.symm

theorem acceptInvitation_step {now : Instant} {identity : InvitedIdentity} {memberPublicId : String}
    {actorId : Nat} (h : s.acceptInvitation now identity memberPublicId = .ok (s', actorId))
    : s.MembersStep (.acceptInvitation now identity memberPublicId) s'.members := by
  unfold acceptInvitation at h
  rw [bind_eq_ok] at h
  obtain ⟨accepted, _, h⟩ := h
  split at h
  . rw [pure_eq_ok, Prod.mk.injEq] at h
    exact .kept (congrArg (fun store => store.members) h.1.symm)
  . split at h
    . next invitationId invitation _ =>
      simp only [bind_eq_ok, ensure_eq_ok, pure_eq_ok, Prod.mk.injEq] at h
      obtain ⟨_, _, _, _, _, _, _, _, hjoined, _⟩ := h
      exact .joined (newMember identity memberPublicId invitation)
        (congrArg (fun store => store.members) hjoined.symm)
    . cases h

theorem revokeInvitation_step {organizationId actorId invitationId invitedBy : String}
    {expectedVersion : Nat} {record : Invitation}
    (h : s.revokeInvitation organizationId actorId invitationId expectedVersion
      = .ok (s', record, invitedBy))
    : s.MembersStep (.revokeInvitation organizationId actorId invitationId expectedVersion)
        s'.members := by
  unfold revokeInvitation at h
  simp only [bind_eq_ok, orThrow_eq_ok, ensure_eq_ok, pure_eq_ok, Prod.mk.injEq] at h
  obtain ⟨_, _, _, _, _, _, _, _, _, _, _, _, _, _, hrevoked, _⟩ := h
  exact .kept (congrArg (fun store => store.members) hrevoked.symm)

theorem perform_step {record : IdentityRecord} (h : s.perform command = .ok (s', record))
    : s.MembersStep command s'.members := by
  cases command with
  | updateMember organizationId actorId memberId expectedVersion role status =>
    obtain ⟨⟨updated, member⟩, hupdated, h⟩ := bind_eq_ok.mp h
    rw [pure_eq_ok, Prod.mk.injEq] at h
    exact h.1 ▸ updateMember_step hupdated
  | acceptInvitation now identity memberId =>
    obtain ⟨⟨joined, actorId⟩, hjoined, h⟩ := bind_eq_ok.mp h
    rw [pure_eq_ok, Prod.mk.injEq] at h
    exact h.1 ▸ acceptInvitation_step hjoined
  | revokeInvitation organizationId actorId invitationId expectedVersion =>
    obtain ⟨⟨updated, invitation, invitedBy⟩, hupdated, h⟩ := bind_eq_ok.mp h
    rw [pure_eq_ok, Prod.mk.injEq] at h
    exact h.1 ▸ revokeInvitation_step hupdated

/--
What every call keeps of the members.
-/
structure Supervised (s s' : IdentityStore) (command : IdentityCommand) : Prop where
  administrators : ∀ organizationId, s.HasActiveAdministrator organizationId →
    s'.HasActiveAdministrator organizationId
  own : ∀ memberId m, s.actorOf command = some memberId → s.members[memberId]? = some m →
    ∃ m', s'.members[memberId]? = some m' ∧ m'.publicId = m.publicId ∧ m'.role = m.role
      ∧ m'.status = m.status
  counted : ∀ (memberId : Nat) m, s.members[memberId]? = some m →
    ∃ m', s'.members[memberId]? = some m' ∧ m'.publicId = m.publicId
      ∧ (m'.role ≠ m.role ∨ m'.status ≠ m.status → m'.version = m.version + 1)

/--
An active administrator who is not changed is still there.
-/
theorem hasActiveAdministrator_of_step (h : s.MembersStep command s'.members) {organizationId : Nat}
    (hs : s.HasActiveAdministrator organizationId) : s'.HasActiveAdministrator organizationId := by
  obtain ⟨m, hm, hadministrator⟩ := hs
  cases h with
  | kept h => exact ⟨m, h ▸ hm, hadministrator⟩
  | joined newcomer h => exact ⟨m, h ▸ List.mem_append_left _ hm, hadministrator⟩
  | changed memberId target role status htarget _ hremains h =>
    obtain ⟨i, hi⟩ := List.mem_iff_getElem?.mp hm
    have hlt := (List.getElem?_eq_some_iff.mp htarget).1
    have hset (j : Nat) : s'.members[j]? = if memberId = j then some (target.changed role status)
        else s.members[j]? := by
      rw [h, List.getElem?_set, if_pos hlt]
    by_cases hsame : memberId = i
    . -- The administrator is the one who is changed, so that another one remains.
      subst hsame
      obtain rfl := Option.some.inj (hi.symm.trans htarget)
      obtain ⟨horganization, _⟩ := of_decide_eq_true hadministrator
      subst horganization
      rcases hremains hadministrator with hstays | ⟨otherId, other, hne, hother, hactive⟩
      . exact ⟨_, List.mem_of_getElem? ((hset memberId).trans (if_pos rfl)), hstays⟩
      . refine ⟨other, List.mem_of_getElem? (i := otherId) ?_, hactive⟩
        rw [hset, if_neg (fun heq => hne heq.symm), hother]
    . refine ⟨m, List.mem_of_getElem? (i := i) ?_, hadministrator⟩
      rw [hset, if_neg hsame, hi]

theorem supervised_of_step (h : s.MembersStep command s'.members) : s.Supervised s' command where
  administrators _ := hasActiveAdministrator_of_step h
  own memberId m hactor hm := by
    cases h with
    | kept h => exact ⟨m, h ▸ hm, rfl, rfl, rfl⟩
    | joined newcomer h =>
      have hlt := (List.getElem?_eq_some_iff.mp hm).1
      exact ⟨m, by rw [h, List.getElem?_append_left hlt, hm], rfl, rfl, rfl⟩
    | changed targetId target role status _ hother _ h =>
      have hne : targetId ≠ memberId := by
        rintro rfl
        exact hother hactor
      exact ⟨m, by rw [h, List.getElem?_set_ne hne, hm], rfl, rfl, rfl⟩
  counted memberId m hm := by
    cases h with
    | kept h => exact ⟨m, h ▸ hm, rfl, fun hchange => absurd hchange (by simp)⟩
    | joined newcomer h =>
      have hlt := (List.getElem?_eq_some_iff.mp hm).1
      exact ⟨m, by rw [h, List.getElem?_append_left hlt, hm], rfl, fun hchange => absurd hchange (by simp)⟩
    | changed targetId target role status htarget _ _ h =>
      by_cases hsame : targetId = memberId
      . subst hsame
        obtain rfl := Option.some.inj (hm.symm.trans htarget)
        have hlt := (List.getElem?_eq_some_iff.mp hm).1
        exact ⟨m.changed role status, by rw [h, List.getElem?_set_self hlt], rfl, fun _ => rfl⟩
      . refine ⟨m, ?_, rfl, fun hchange => absurd hchange (by simp)⟩
        rw [h, List.getElem?_set_ne hsame, hm]

/--
A refused call changes nobody.
-/
theorem supervised_refl (s : IdentityStore) (command : IdentityCommand) : s.Supervised s command :=
  supervised_of_step (.kept rfl)

theorem supervised_next (s : IdentityStore) (command : IdentityCommand)
    : s.Supervised (identityService.next s command) command :=
  Machine.next_cases (P := fun t : IdentityStore => s.Supervised t command) (supervised_refl s command)
    fun _ _ hstep => supervised_of_step (perform_step hstep)

/--
Whatever calls are made in whatever order, an active administrator remains, and each of the calls
leaves its own actor alone and counts the change it makes.
-/
theorem active_administrator_remains (s : IdentityStore) (organizationId : Nat)
    (h : s.HasActiveAdministrator organizationId) (commands : List IdentityCommand)
    : (identityService.run s commands).HasActiveAdministrator organizationId
        ∧ ∀ command, (identityService.run s commands).Supervised
          (identityService.next (identityService.run s commands) command) command := by
  constructor
  . exact Machine.run_invariant (P := fun t : IdentityStore => t.HasActiveAdministrator organizationId) h
      (fun t command => (supervised_next t command).administrators organizationId) commands
  . exact fun command => supervised_next _ command

end IdentityStore

namespace Sample

/--
Two administrators of one organization.
-/
def administrators : IdentityStore where
  organizations := ["ORG-1"]
  members := [
    { publicId := "USR-1"
      subjectId := "first"
      role := .administrator
      status := .active
      organizationId := 0
      email := "first@example.com"
      version := 1 },
    { publicId := "USR-2"
      subjectId := "second"
      role := .administrator
      status := .active
      organizationId := 0
      email := "second@example.com"
      version := 1 }]
  invitations := []

/--
Both administrators demote each other, and the second call is refused.
-/
def demotions : List IdentityCommand :=
  [.updateMember "ORG-1" "USR-1" "USR-2" 1 (some .auditor) none,
    .updateMember "ORG-1" "USR-2" "USR-1" 1 (some .auditor) none]

example : (identityService.run administrators demotions).members.map (fun m => (m.role, m.version))
    = [(.administrator, 1), (.auditor, 2)] := by
  decide +kernel

theorem active_administrator_remains_demotions
    : (identityService.run administrators demotions).HasActiveAdministrator 0
        ∧ ∀ command, (identityService.run administrators demotions).Supervised
          (identityService.next (identityService.run administrators demotions) command) command :=
  IdentityStore.active_administrator_remains administrators 0 (by decide +kernel) demotions

end Sample

end CaseResolution
