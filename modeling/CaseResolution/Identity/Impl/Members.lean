import CaseResolution.Domain.Error
import CaseResolution.Lib.Machine
import CaseResolution.Lib.Rows

/-!
This module contains how members join an organization and how their authority is changed: invitations
are accepted and revoked, roles and statuses updated, one call at a time.
-/

namespace CaseResolution

open Guard

inductive InvitationStatus where
  | pending
  | accepted
  | expired
  | revoked
deriving DecidableEq

/--
A row of `memberships` with the columns that identify the member and count the changes.
-/
structure OrganizationMember extends Membership where
  organizationId : Nat
  email : String
  version : Nat
deriving DecidableEq

/--
A row of `invitations`. `invitedById` is the position of the inviting member.
-/
structure Invitation where
  publicId : String
  organizationId : Nat
  email : String
  role : MemberRole
  status : InvitationStatus
  version : Nat
  invitedById : Nat
  expiresAt : Instant
  acceptedAt : Option Instant
deriving DecidableEq

/--
A verified account. Its address is in lower case.
-/
structure InvitedIdentity where
  subjectId : String
  email : String
  invitationId : Option String
  organizationId : Option String
deriving DecidableEq

/--
The tables of organizations, by their public ids, of members and of invitations.
-/
structure IdentityStore where
  organizations : List String
  members : List OrganizationMember
  invitations : List Invitation
deriving DecidableEq

inductive IdentityCommand where
  | updateMember (organizationId actorId memberId : String) (expectedVersion : Nat)
    (role : Option MemberRole) (status : Option MemberStatus)
  | acceptInvitation (now : Instant) (identity : InvitedIdentity) (memberId : String)
  | revokeInvitation (organizationId actorId invitationId : String) (expectedVersion : Nat)

inductive IdentityRecord where
  | member (record : OrganizationMember)
  | actor (memberId : Nat)
  | invitation (record : Invitation) (invitedBy : String)

namespace OrganizationMember

def isActiveAdministrator (m : OrganizationMember) (organizationId : Nat) : Bool :=
  m.organizationId = organizationId ∧ m.role = .administrator ∧ m.status = .active

/--
The member with another role or status.
-/
def changed (m : OrganizationMember) (role : MemberRole) (status : MemberStatus) : OrganizationMember :=
  { m with role, status, version := m.version + 1 }

end OrganizationMember

namespace IdentityStore

def requiredOrganization (s : IdentityStore) (publicId : String) : Except Error Nat :=
  orThrow (s.organizations.findIdx? fun organization => organization = publicId)
    (.actorMembershipNotFound "The actor organization was not found.")

/--
The member as whom a call acts.
-/
def activeMember (s : IdentityStore) (organizationId : Nat) (actorId : String) : Option Nat :=
  s.members.findIdx? fun m => m.organizationId = organizationId ∧ m.status = .active
    ∧ (m.publicId = actorId ∨ m.subjectId = actorId)

def requiredActiveMember (s : IdentityStore) (organizationId : Nat) (actorId : String)
    : Except Error Nat :=
  orThrow (s.activeMember organizationId actorId)
    (.actorMembershipNotFound "The actor is not an active organization member.")

/--
The active administrators of the organization besides one member.
-/
def otherActiveAdministrators (s : IdentityStore) (organizationId memberId : Nat) : Nat :=
  (Rows.numbered s.members).countP fun row =>
    row.2.isActiveAdministrator organizationId ∧ row.1 ≠ memberId

def updateMember (s : IdentityStore) (organizationPublicId actorPublicId memberPublicId : String)
    (expectedVersion : Nat) (role : Option MemberRole) (status : Option MemberStatus)
    : Except Error (IdentityStore × OrganizationMember) := do
  let organizationId ← s.requiredOrganization organizationPublicId
  let actorId ← s.requiredActiveMember organizationId actorPublicId
  let memberNotFound : Error := .memberNotFound "The member was not found."
  let memberId ← orThrow
    (s.members.findIdx? fun m => m.organizationId = organizationId ∧ m.publicId = memberPublicId)
    memberNotFound
  let target ← orThrow s.members[memberId]? memberNotFound
  ensure (target.version = expectedVersion) (.memberVersionConflict expectedVersion target.version)
  let nextRole := role.getD target.role
  let nextStatus := status.getD target.status
  ensure (¬ (memberId = actorId ∧ (nextRole ≠ target.role ∨ nextStatus ≠ target.status)))
    (.memberConflict "You cannot change your own role or deactivate your own membership.")
  ensure (target.status ≠ .invited)
    (.memberConflict "Invited people must accept or have their invitation revoked first.")
  ensure (nextStatus ≠ .invited)
    (.memberConflict "An existing membership cannot be changed to invited.")
  ensure (¬ (target.role = .administrator ∧ target.status = .active
      ∧ (nextRole ≠ .administrator ∨ nextStatus ≠ .active)
      ∧ s.otherActiveAdministrators organizationId memberId = 0))
    (.memberConflict "At least one active administrator must remain in the organization.")
  if nextRole = target.role ∧ nextStatus = target.status then
    pure (s, target)
  else
    let record := target.changed nextRole nextStatus
    pure ({ s with members := s.members.set memberId record }, record)

def resolveActorBySubject (s : IdentityStore) (subjectId : String) : Except Error Nat :=
  match (Rows.numbered s.members).filter fun row =>
    row.2.subjectId = subjectId ∧ row.2.status = .active with
  | [] => throw (.actorMembershipNotFound
    "The identity is not linked to an active workspace membership.")
  | [row] => pure row.1
  | _ => throw (.actorMembershipAmbiguous
    "The identity is linked to more than one active workspace.")

/--
The public id of the organization of a member.
-/
def organizationOf (s : IdentityStore) (memberId : Nat) : Option String := do
  let m ← s.members[memberId]?
  s.organizations[m.organizationId]?

def acceptedActor (s : IdentityStore) (identity : InvitedIdentity) : Except Error (Option Nat) :=
  match s.resolveActorBySubject identity.subjectId with
  | .error (.actorMembershipNotFound _) => pure none
  | .error e => throw e
  | .ok actorId => do
    ensure (identity.organizationId = none ∨ s.organizationOf actorId = identity.organizationId)
      (.actorMembershipNotFound "The active workspace does not match the invitation.")
    pure (some actorId)

/--
The pending invitations of an address that meet `p`.
-/
def pendingInvitations (s : IdentityStore) (email : String) (p : Invitation → Bool)
    : List (Nat × Invitation) :=
  (Rows.numbered s.invitations).filter fun row =>
    row.2.email = email ∧ row.2.status = .pending ∧ p row.2

/--
The invitations an account may accept: those it names, or all of its address if they are not one.
-/
def invitationRows (s : IdentityStore) (identity : InvitedIdentity) : List (Nat × Invitation) :=
  let hinted := s.pendingInvitations identity.email fun invitation =>
    identity.invitationId.all (fun invitationId => invitation.publicId = invitationId)
      ∧ identity.organizationId.all fun organizationId =>
        s.organizations[invitation.organizationId]? = some organizationId
  if hinted.length ≠ 1 ∧ (identity.invitationId.isSome ∨ identity.organizationId.isSome) then
    s.pendingInvitations identity.email fun _ => true
  else
    hinted

def newMember (identity : InvitedIdentity) (memberPublicId : String) (invitation : Invitation)
    : OrganizationMember where
  publicId := memberPublicId
  subjectId := identity.subjectId
  role := invitation.role
  status := .active
  organizationId := invitation.organizationId
  email := identity.email
  version := 1

/--
`memberPublicId` is the public id that is drawn for the new member.
-/
def acceptInvitation (s : IdentityStore) (now : Instant) (identity : InvitedIdentity)
    (memberPublicId : String) : Except Error (IdentityStore × Nat) := do
  match ← s.acceptedActor identity with
  | some actorId => pure (s, actorId)
  | none =>
    match s.invitationRows identity with
    | [(invitationId, invitation)] =>
      ensure (now < invitation.expiresAt)
        (.actorMembershipNotFound "The workspace invitation has expired.")
      ensure (∀ m ∈ s.members, m.organizationId = invitation.organizationId →
          m.subjectId ≠ identity.subjectId ∧ m.email ≠ identity.email)
        (.actorMembershipNotFound "The account identity conflicts with an existing workspace member.")
      ensure (∀ m ∈ s.members, m.organizationId = invitation.organizationId →
          m.publicId ≠ memberPublicId)
        (.integrityError "uq_memberships_org_public")
      let accepted :=
        { invitation with
          status := .accepted
          acceptedAt := some now
          version := invitation.version + 1 }
      let joined :=
        { s with
          members := s.members ++ [newMember identity memberPublicId invitation]
          invitations := s.invitations.set invitationId accepted }
      let actorId ← joined.resolveActorBySubject identity.subjectId
      pure (joined, actorId)
    | _ => throw (.actorMembershipNotFound
      "The verified account does not match one pending workspace invitation.")

def revokeInvitation (s : IdentityStore) (organizationPublicId actorPublicId invitationPublicId : String)
    (expectedVersion : Nat) : Except Error (IdentityStore × Invitation × String) := do
  let organizationId ← s.requiredOrganization organizationPublicId
  let _ ← s.requiredActiveMember organizationId actorPublicId
  let invitationNotFound : Error := .invitationNotFound "The invitation was not found."
  let invitationId ← orThrow
    (s.invitations.findIdx? fun invitation =>
      invitation.organizationId = organizationId ∧ invitation.publicId = invitationPublicId)
    invitationNotFound
  let invitation ← orThrow s.invitations[invitationId]? invitationNotFound
  ensure (invitation.version = expectedVersion)
    (.invitationVersionConflict expectedVersion invitation.version)
  ensure (invitation.status = .pending)
    (.invitationConflict "Only a pending invitation can be revoked.")
  let revoked := { invitation with status := .revoked, version := invitation.version + 1 }
  let inviter ← orThrow s.members[invitation.invitedById]?
    (.invitationConflict "The original invitation owner is unavailable.")
  pure ({ s with invitations := s.invitations.set invitationId revoked }, revoked, inviter.publicId)

def perform (s : IdentityStore) : IdentityCommand → Except Error (IdentityStore × IdentityRecord)
  | .updateMember organizationId actorId memberId expectedVersion role status => do
    let (updated, record) ←
      s.updateMember organizationId actorId memberId expectedVersion role status
    pure (updated, .member record)
  | .acceptInvitation now identity memberId => do
    let (joined, actorId) ← s.acceptInvitation now identity memberId
    pure (joined, .actor actorId)
  | .revokeInvitation organizationId actorId invitationId expectedVersion => do
    let (updated, record, invitedBy) ←
      s.revokeInvitation organizationId actorId invitationId expectedVersion
    pure (updated, .invitation record invitedBy)

end IdentityStore

def identityService : Machine IdentityStore IdentityCommand Error IdentityRecord where
  step := IdentityStore.perform

end CaseResolution
