import LocalCrm.Library.Table
import LocalCrm.Webhooks.EventRules

/-! The team of a workspace: its members, its invitations and the four routes that change them. -/

set_option autoImplicit false

namespace LocalCrm.Tenancy

open Library Webhooks

abbrev UserId := Nat

abbrev MemberId := Nat

abbrev InvitationId := Nat

structure Member where
  id : MemberId
  organizationId : WorkspaceId
  userId : UserId
  role : String
  deriving DecidableEq, Repr

structure Invitation where
  id : InvitationId
  organizationId : WorkspaceId
  email : String
  role : Option String
  status : String
  expiresAt : Timestamp
  inviterId : UserId
  deriving DecidableEq, Repr

/-- The slug of an organization is unique. -/
structure TenancyStore where
  organizations : Table Organization.slug := .empty
  members : Table Member.id := .empty
  invitations : Table Invitation.id := .empty

def normalizeRoles (role : String) : List String :=
  ((role.toList.splitOn ',').map fun name => jsTrim (String.ofList name)).filter (· ≠ "")

def holds (name role : String) : Bool := (normalizeRoles role).contains name

inductive Permission where
  | memberUpdate
  | memberDelete
  | invitationCreate
  deriving DecidableEq, Repr

/-- What the access control grants a role of the three actions. -/
def rolePermissions (role : String) : List Permission :=
  if role = "owner" || role = "admin" then [.memberUpdate, .memberDelete, .invitationCreate] else []

inductive LibraryError where
  | api (statusCode : Option Nat) (message : String)
  | other
  deriving DecidableEq, Repr

structure RoleUpdate where
  memberId : MemberId
  role : String
  organizationId : WorkspaceId
  deriving DecidableEq, Repr

structure NewInvitation where
  email : String
  role : String
  organizationId : WorkspaceId
  resend : Bool := false
  deriving DecidableEq, Repr

/-- The calls of the auth library, for a caller's session. -/
structure AuthLibrary where
  hasPermission : TenancyStore → UserId → WorkspaceId → Permission → Except LibraryError Bool
  getActiveMemberRole : TenancyStore → UserId → String → Except LibraryError String
  updateMemberRole : TenancyStore → UserId → RoleUpdate → Except LibraryError (Member × TenancyStore)
  removeMember : TenancyStore → UserId → WorkspaceId → MemberId → Except LibraryError (Unit × TenancyStore)
  createInvitation : TenancyStore → Timestamp → UserId → NewInvitation →
    Except LibraryError (Invitation × TenancyStore)
  storedEmail : String → String

namespace TenancyStore

variable (store : TenancyStore)

def findActiveWorkspaceBySlug (slug : String) : Option Organization :=
  (store.organizations.find? slug).filter fun organization => organization.deletedAt.isNone

def isOwner (userId : UserId) (organizationId : WorkspaceId) : Bool :=
  store.members.rows.any fun member =>
    member.organizationId == organizationId && member.userId == userId && holds "owner" member.role

def memberOf (userId : UserId) (organizationId : WorkspaceId) : Option Member :=
  store.members.rows.find? fun member => member.organizationId == organizationId && member.userId == userId

/-- The caller's own row, where its role grants the permission. -/
def permitted (userId : UserId) (organizationId : WorkspaceId) (permission : Permission) : Option Member :=
  (store.memberOf userId organizationId).filter fun member =>
    (normalizeRoles member.role).any fun role => (rolePermissions role).contains permission

def targetOf (organizationId : WorkspaceId) (memberId : MemberId) : Option Member :=
  (store.members.find? memberId).filter fun member => member.organizationId == organizationId

def setRole (memberId : MemberId) (role : String) : TenancyStore :=
  { store with
    members := store.members.update (fun member => member.id == memberId) fun member => { member with role } }

def withoutMember (memberId : MemberId) : TenancyStore :=
  { store with members := store.members.delete fun member => member.id == memberId }

def refresh (invitationId : InvitationId) (expiresAt : Timestamp) : TenancyStore :=
  { store with
    invitations := store.invitations.update (fun invitation => invitation.id == invitationId)
      fun invitation => { invitation with expiresAt } }

def invite (invitation : Invitation) : TenancyStore :=
  { store with invitations := store.invitations.insert invitation }

def isLive (now : Timestamp) (organizationId : WorkspaceId) (email : String) (invitation : Invitation) : Bool :=
  invitation.organizationId == organizationId && invitation.email == email && invitation.status == "pending" &&
    decide (now < invitation.expiresAt)

def hasLive (now : Timestamp) (organizationId : WorkspaceId) (email : String) : Bool :=
  store.invitations.rows.any (isLive now organizationId email)

end TenancyStore

/-- The documented behaviour of the calls: the role read is the caller's own, only an owner reaches an owner
or hands on that role, and an address with a live invitation keeps it. -/
structure Documented (library : AuthLibrary) : Prop where
  granted : ∀ {store userId organizationId permission},
    library.hasPermission store userId organizationId permission = .ok true →
      (store.permitted userId organizationId permission).isSome
  activeRole : ∀ {store userId slug role}, library.getActiveMemberRole store userId slug = .ok role →
    ∃ organization, store.organizations.find? slug = some organization ∧
      ∃ member ∈ store.members.rows, member.organizationId = organization.id ∧ member.userId = userId ∧
        member.role = role
  updated : ∀ {store userId change member next},
    library.updateMemberRole store userId change = .ok (member, next) →
      ∃ target, store.targetOf change.organizationId change.memberId = some target ∧
        (store.isOwner userId change.organizationId = false → holds "owner" target.role = false) ∧
        next = store.setRole change.memberId change.role
  removed : ∀ {store userId organizationId memberId next},
    library.removeMember store userId organizationId memberId = .ok ((), next) →
      next = store.withoutMember memberId
  invited : ∀ {store now userId body invitation next},
    library.createInvitation store now userId body = .ok (invitation, next) →
      (store.isOwner userId body.organizationId = false → holds "owner" body.role = false) ∧
      if store.hasLive now body.organizationId (library.storedEmail body.email) then
        body.resend = true ∧ ∃ id expiresAt, next = store.refresh id expiresAt
      else store.invitations.find? invitation.id = none ∧ invitation.role = some body.role ∧
        invitation.status = "pending" ∧ next = store.invite invitation

/-- A caller whose role grants an action may take it on everyone who is no owner. -/
structure LetsAct (library : AuthLibrary) : Prop where
  updates : ∀ {store userId change target}, (store.permitted userId change.organizationId .memberUpdate).isSome →
    store.targetOf change.organizationId change.memberId = some target → holds "owner" target.role = false →
      holds "owner" change.role = false →
        ∃ member next, library.updateMemberRole store userId change = .ok (member, next)
  removes : ∀ {store userId organizationId memberId target},
    (store.permitted userId organizationId .memberDelete).isSome →
      store.targetOf organizationId memberId = some target → holds "owner" target.role = false →
        ∃ next, library.removeMember store userId organizationId memberId = .ok ((), next)
  invites : ∀ {store now userId body}, (store.permitted userId body.organizationId .invitationCreate).isSome →
    holds "owner" body.role = false →
      (store.hasLive now body.organizationId (library.storedEmail body.email) = true → body.resend = true) →
        ∃ invitation next, library.createInvitation store now userId body = .ok (invitation, next)

inductive TeamAction where
  | invite (email role : String)
  | resend (invitationId : InvitationId)
  | changeRole (memberId : MemberId) (role : String)
  | removeMember (memberId : MemberId)
  deriving DecidableEq, Repr

structure TeamRequest where
  userId : UserId
  slug : String
  now : Timestamp
  action : TeamAction
  deriving DecidableEq, Repr

/-- A thrown error is one that the route leaves to the server. -/
inductive Reply where
  | refused (code : Nat) (error : String)
  | invalid
  | thrown
  | invited (invitation : Invitation)
  | roleSet (id : MemberId) (role : String)
  | removed
  deriving DecidableEq, Repr

def TeamAction.permission : TeamAction → Permission
  | .invite _ _ | .resend _ => .invitationCreate
  | .changeRole _ _ => .memberUpdate
  | .removeMember _ => .memberDelete

section Routes

variable (library : AuthLibrary) (store : TenancyStore)

def workspaceNotFound : Reply := .refused 404 "Workspace not found"

def permissionReply : Except LibraryError Bool → Option Reply
  | .error _ => some workspaceNotFound
  | .ok true => none
  | .ok false => some (.refused 403 "Forbidden: missing permission")

def requirePermission (userId : UserId) (slug : String) (permission : Permission) : Option Reply :=
  (store.findActiveWorkspaceBySlug slug).elim (some workspaceNotFound) fun workspace =>
    permissionReply (library.hasPermission store userId workspace.id permission)

def caught : LibraryError → Reply
  | .api statusCode message => .refused (statusCode.getD 400) message
  | .other => .thrown

def answered {Value : Type} (reply : Value → Reply) :
    Except LibraryError (Value × TenancyStore) → Reply × TenancyStore
  | .ok (value, next) => (reply value, next)
  | .error error => (caught error, store)

def ownerOnly (userId : UserId) (slug text : String) (next : Reply × TenancyStore) : Reply × TenancyStore :=
  match library.getActiveMemberRole store userId slug with
  | .error _ => (.thrown, store)
  | .ok role => if holds "owner" role then next else (.refused 403 text, store)

section Handlers

variable (now : Timestamp) (userId : UserId) (slug : String) (workspace : Organization)

def inviteRoute (email role : String) : Reply × TenancyStore :=
  let create := answered store .invited
    (library.createInvitation store now userId { email := jsTrim email, role, organizationId := workspace.id })
  if !(["member", "admin"].contains role) then (.invalid, store)
  else if role = "admin" then
    ownerOnly library store userId slug "Только владелец может назначать роль администратора" create
  else create

/-- No look at the role that is sent again. -/
def resendRoute (invitationId : InvitationId) : Reply × TenancyStore :=
  let existing := (store.invitations.find? invitationId).filter fun invitation =>
    invitation.organizationId == workspace.id
  existing.elim (.refused 404 "Invitation not found", store) fun existing =>
    answered store .invited
      (library.createInvitation store now userId
        { email := existing.email, role := existing.role.getD "member", organizationId := workspace.id
          resend := true })

/-- Looks at the role that is asked for, not at the one the member has. -/
def changeRoleRoute (memberId : MemberId) (role : String) : Reply × TenancyStore :=
  let update := answered store
    (fun updated : Member => .roleSet updated.id (",".intercalate (normalizeRoles updated.role)))
    (library.updateMemberRole store userId { memberId, role, organizationId := workspace.id })
  if !(["member", "admin", "owner"].contains role) then (.invalid, store)
  else if role = "admin" || role = "owner" then
    ownerOnly library store userId slug
      "Только владелец может назначать роль администратора или передавать владение" update
  else update

def removeMemberRoute (memberId : MemberId) : Reply × TenancyStore :=
  (store.targetOf workspace.id memberId).elim (.refused 404 "Member not found", store) fun target =>
    let remove := answered store (fun _ => .removed) (library.removeMember store userId workspace.id memberId)
    if holds "admin" target.role || holds "owner" target.role then
      ownerOnly library store userId slug "Только владелец может удалить администратора или владельца" remove
    else remove

end Handlers

def handle (request : TeamRequest) (workspace : Organization) : Reply × TenancyStore :=
  match request.action with
  | .invite email role => inviteRoute library store request.now request.userId request.slug workspace email role
  | .resend invitationId => resendRoute library store request.now request.userId workspace invitationId
  | .changeRole memberId role => changeRoleRoute library store request.userId request.slug workspace memberId role
  | .removeMember memberId => removeMemberRoute library store request.userId request.slug workspace memberId

def serve (request : TeamRequest) : Reply × TenancyStore :=
  (requirePermission library store request.userId request.slug request.action.permission).elim
    ((store.findActiveWorkspaceBySlug request.slug).elim (workspaceNotFound, store) (handle library store request))
    fun refusal => (refusal, store)

end Routes

end LocalCrm.Tenancy
