import CaseResolution.Domain.Basic

/-!
This module contains members, their roles and the permissions a role carries.
-/

namespace CaseResolution

inductive MemberRole where
  | specialist
  | supervisor
  | administrator
  | auditor
deriving DecidableEq

/--
An administrator may act in every role, any other member only in the member's own.
-/
def roleSatisfies (actorRole : Option MemberRole) (requiredRole : MemberRole) : Bool :=
  if actorRole = some .administrator then
    true
  else
    actorRole = some requiredRole

inductive MemberStatus where
  | active
  | invited
  | deactivated
deriving DecidableEq

inductive Permission where
  | sessionRead
  | organizationRead
  | memberRead
  | memberInvite
  | memberManage
  | caseRead
  | caseManage
  | reviewRead
  | reviewReserve
  | reviewDecide
  | actionRead
  | actionExecute
  | actionReconcile
  | policyRead
  | policyManage
  | connectionRead
  | connectionManage
  | qualityRead
  | auditRead
  | settingsManage
deriving DecidableEq

def Permission.value : Permission → String
  | .sessionRead => "session:read"
  | .organizationRead => "organization:read"
  | .memberRead => "member:read"
  | .memberInvite => "member:invite"
  | .memberManage => "member:manage"
  | .caseRead => "case:read"
  | .caseManage => "case:manage"
  | .reviewRead => "review:read"
  | .reviewReserve => "review:reserve"
  | .reviewDecide => "review:decide"
  | .actionRead => "action:read"
  | .actionExecute => "action:execute"
  | .actionReconcile => "action:reconcile"
  | .policyRead => "policy:read"
  | .policyManage => "policy:manage"
  | .connectionRead => "connection:read"
  | .connectionManage => "connection:manage"
  | .qualityRead => "quality:read"
  | .auditRead => "audit:read"
  | .settingsManage => "settings:manage"

def MemberRole.grants (role : MemberRole) (permission : Permission) : Bool :=
  match role with
  | .specialist =>
    permission ∈ [.sessionRead, .organizationRead, .memberRead, .caseRead, .caseManage, .reviewRead,
      .actionRead, .policyRead, .connectionRead]
  | .supervisor =>
    permission ∈ [.sessionRead, .organizationRead, .memberRead, .caseRead, .caseManage, .reviewRead,
      .reviewReserve, .reviewDecide, .actionRead, .actionExecute, .actionReconcile, .policyRead,
      .connectionRead, .qualityRead]
  | .administrator => true
  | .auditor =>
    permission ∈ [.sessionRead, .organizationRead, .memberRead, .caseRead, .reviewRead, .actionRead,
      .policyRead, .connectionRead, .qualityRead, .auditRead]

/--
The authenticated caller of a service.
-/
structure ActorContext where
  actorId : String
  role : Option MemberRole
  permissions : Permission → Bool

def ActorContext.can (actor : ActorContext) (permission : Permission) : Bool :=
  actor.permissions permission

/--
A row of `memberships`.
-/
structure Membership where
  publicId : String
  subjectId : String
  role : MemberRole
  status : MemberStatus
deriving DecidableEq

theorem roleSatisfies_some_iff {actorRole requiredRole : MemberRole}
    : roleSatisfies (some actorRole) requiredRole = true
        ↔ actorRole = .administrator ∨ actorRole = requiredRole := by
  unfold roleSatisfies
  split <;> simp_all

end CaseResolution
