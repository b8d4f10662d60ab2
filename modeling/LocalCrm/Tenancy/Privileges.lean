import LocalCrm.Library.RowView
import LocalCrm.Library.Transition
import LocalCrm.Tenancy.Team

/-! Who is privileged, over runs of requests by people who own nothing. -/

set_option autoImplicit false

namespace LocalCrm.Tenancy

open Library Webhooks

def isPrivileged (member : Member) : Bool := holds "admin" member.role || holds "owner" member.role

def privilegedRow (member : Member) : Option Member := if isPrivileged member then some member else none

def adminOffer (invitation : Invitation) : Option (WorkspaceId × String × Option String) :=
  if invitation.status == "pending" && invitation.role.any (holds "admin") then
    some (invitation.organizationId, invitation.email, invitation.role)
  else none

structure SamePrivileges (before after : TenancyStore) : Prop where
  members : ∀ memberId, after.members.shown privilegedRow memberId = before.members.shown privilegedRow memberId
  invitations : ∀ invitationId,
    after.invitations.shown adminOffer invitationId = before.invitations.shown adminOffer invitationId

structure Untouched (before after : TenancyStore) : Prop extends SamePrivileges before after where
  organizations : after.organizations = before.organizations

section Requests

variable (library : AuthLibrary) (store : TenancyStore)

/-- A request of a caller who may make it, to take the role from an administrator or to renew an invitation for
one that is over. -/
def passesGuard (request : TeamRequest) (workspace : Organization) : Bool :=
  match request.action with
  | .invite _ _ | .removeMember _ => false
  | .resend invitationId =>
    (store.invitations.find? invitationId).any fun invitation =>
      invitation.organizationId == workspace.id && invitation.role.any (holds "admin") &&
        !invitation.role.any (holds "owner") &&
          !store.hasLive request.now workspace.id (library.storedEmail invitation.email)
  | .changeRole memberId role =>
    role == "member" && (store.targetOf workspace.id memberId).any fun member =>
      holds "admin" member.role && !holds "owner" member.role

def slipsThrough (request : TeamRequest) : Bool :=
  (requirePermission library store request.userId request.slug request.action.permission).isNone &&
    (store.findActiveWorkspaceBySlug request.slug).any (passesGuard library store request)

def ownsWorkspace (request : TeamRequest) : Bool :=
  (store.organizations.find? request.slug).any fun organization => store.isOwner request.userId organization.id

def teamStep (request : TeamRequest) : Option TenancyStore := some (serve library store request).2

end Requests

section Steps

variable {library : AuthLibrary} {store next : TenancyStore} {request : TeamRequest}

theorem Untouched.refl : Untouched store store where
  members _ := rfl
  invitations _ := rfl
  organizations := rfl

theorem Untouched.trans {middle : TenancyStore} (first : Untouched store middle) (second : Untouched middle next) :
    Untouched store next where
  members memberId := (second.members memberId).trans (first.members memberId)
  invitations invitationId := (second.invitations invitationId).trans (first.invitations invitationId)
  organizations := second.organizations.trans first.organizations

theorem Untouched.isOwner (kept : Untouched store next) {userId : UserId} {organizationId : WorkspaceId}
    (owner : next.isOwner userId organizationId = true) : store.isOwner userId organizationId = true := by
  obtain ⟨member, stored, matching⟩ := List.any_eq_true.mp owner
  have owns : holds "owner" member.role = true := (Bool.and_eq_true_iff.mp matching).2
  have shown : privilegedRow member = some member := by
    rw [privilegedRow, isPrivileged, owns, Bool.or_true, if_pos rfl]
  have row := kept.members member.id
  rw [Table.shown, Table.find?_of_mem stored, Option.bind_some, shown, Table.shown] at row
  obtain ⟨before, found, same⟩ := Option.bind_eq_some_iff.mp row.symm
  have equal : before = member := by
    rw [privilegedRow] at same
    split at same
    next => exact Option.some.inj same
    next => cases same
  subst equal
  exact List.any_eq_true.mpr ⟨before, Table.mem_of_find? found, matching⟩

theorem plain_member : holds "admin" "member" = false ∧ holds "owner" "member" = false := by decide +kernel

theorem privilegedRow_plain {member : Member} (plain : isPrivileged member = false) : privilegedRow member = none := by
  rw [privilegedRow, plain, if_neg Bool.false_ne_true]

theorem privilegedRow_member (member : Member) : privilegedRow { member with role := "member" } = none := by
  apply privilegedRow_plain
  rw [isPrivileged, plain_member.1, plain_member.2, Bool.or_false]

theorem untouched_setRole {memberId : MemberId} {target : Member}
    (found : store.members.find? memberId = some target) (plain : isPrivileged target = false) :
    Untouched store (store.setRole memberId "member") where
  members other := by
    apply Table.shown_update
    · intro member
      rfl
    · intro member stored named
      have same : member = target := Table.eq_of_find? found stored (beq_iff_eq.mp named)
      rw [privilegedRow_member, same, privilegedRow_plain plain]
  invitations _ := rfl
  organizations := rfl

theorem untouched_withoutMember {memberId : MemberId} {target : Member}
    (found : store.members.find? memberId = some target) (plain : isPrivileged target = false) :
    Untouched store (store.withoutMember memberId) where
  members other := by
    apply Table.shown_delete
    intro member stored named
    have same : member = target := Table.eq_of_find? found stored (beq_iff_eq.mp named)
    rw [same, privilegedRow_plain plain]
  invitations _ := rfl
  organizations := rfl

theorem untouched_refresh {id : InvitationId} {expiresAt : Timestamp} :
    Untouched store (store.refresh id expiresAt) where
  members _ := rfl
  invitations invitationId := by
    apply Table.shown_update
    · intro invitation
      rfl
    · intro invitation _ _
      rfl
  organizations := rfl

theorem untouched_invite {invitation : Invitation} (plain : invitation.role.any (holds "admin") = false) :
    Untouched store (store.invite invitation) where
  members _ := rfl
  invitations invitationId := by
    apply Table.shown_insert
    rw [adminOffer, plain, Bool.and_false, if_neg Bool.false_ne_true]
  organizations := rfl

theorem answered_kept {Value : Type} {reply : Value → Reply} {result : Except LibraryError (Value × TenancyStore)}
    (kept : ∀ value next, result = .ok (value, next) → Untouched store next) :
    Untouched store (answered store reply result).2 := by
  rw [answered.eq_def]
  split
  next value next => exact kept value next rfl
  next => exact .refl

theorem ownerOnly_refused (documented : Documented library) {userId : UserId} {slug text : String}
    {organization : Organization} (found : store.organizations.find? slug = some organization)
    (outsider : store.isOwner userId organization.id = false) (next : Reply × TenancyStore) :
    (ownerOnly library store userId slug text next).2 = store := by
  rw [ownerOnly.eq_def]
  split
  next => rfl
  next role read =>
    obtain ⟨other, listed, member, stored, inside, own, rfl⟩ := documented.activeRole read
    cases found.symm.trans listed
    have plain : holds "owner" member.role = false := by
      rw [TenancyStore.isOwner, List.any_eq_false] at outsider
      have refused := outsider member stored
      simpa [inside, own] using refused
    rw [plain, if_neg Bool.false_ne_true]

theorem createInvitation_kept (documented : Documented library) {now : Timestamp} {userId : UserId}
    {body : NewInvitation} (plain : holds "admin" body.role = true →
      (store.isOwner userId body.organizationId = false → holds "owner" body.role = false) →
        store.hasLive now body.organizationId (library.storedEmail body.email) = true) :
    Untouched store (answered store .invited (library.createInvitation store now userId body)).2 := by
  apply answered_kept
  intro invitation next created
  obtain ⟨unowned, outcome⟩ := documented.invited created
  split at outcome
  next =>
    obtain ⟨_, id, expiresAt, rfl⟩ := outcome
    exact untouched_refresh
  next spent =>
    obtain ⟨_, role, _, rfl⟩ := outcome
    apply untouched_invite
    rw [role, Option.any_some]
    cases admin : holds "admin" body.role with
    | true => exact absurd (plain admin unowned) spent
    | false => rfl

variable {workspace : Organization}

theorem inviteRoute_kept (documented : Documented library)
    (found : store.organizations.find? request.slug = some workspace)
    (outsider : store.isOwner request.userId workspace.id = false) (email role : String) :
    Untouched store
      (inviteRoute library store request.now request.userId request.slug workspace email role).2 := by
  rw [inviteRoute]
  split
  next => exact .refl
  next admissible =>
    split
    next =>
      rw [ownerOnly_refused documented found outsider]
      exact .refl
    next other =>
      apply createInvitation_kept documented
      intro admin _
      have member : role = "member" := by simpa [other] using admissible
      rw [member, plain_member.1] at admin
      cases admin

theorem resendRoute_kept (documented : Documented library)
    (outsider : store.isOwner request.userId workspace.id = false) {invitationId : InvitationId}
    (spent : (store.invitations.find? invitationId).any (fun invitation =>
      invitation.organizationId == workspace.id && invitation.role.any (holds "admin") &&
        !invitation.role.any (holds "owner") &&
          !store.hasLive request.now workspace.id (library.storedEmail invitation.email)) = false) :
    Untouched store (resendRoute library store request.now request.userId workspace invitationId).2 := by
  rw [resendRoute]
  cases found : (store.invitations.find? invitationId).filter
      (fun invitation => invitation.organizationId == workspace.id) with
  | none => exact .refl
  | some existing =>
    obtain ⟨stored, inside⟩ := Option.filter_eq_some_iff.mp found
    apply createInvitation_kept documented
    intro admin unowned
    have plain := unowned outsider
    rw [stored, Option.any_some, inside, Bool.true_and] at spent
    cases role : existing.role with
    | none =>
      rw [role, Option.getD_none, plain_member.1] at admin
      cases admin
    | some name =>
      rw [role, Option.getD_some] at admin plain
      rw [role, Option.any_some, Option.any_some, admin, plain] at spent
      simpa using spent

theorem changeRoleRoute_kept (documented : Documented library)
    (found : store.organizations.find? request.slug = some workspace)
    (outsider : store.isOwner request.userId workspace.id = false) {memberId : MemberId} {role : String}
    (harmless : (role == "member" && (store.targetOf workspace.id memberId).any fun member =>
      holds "admin" member.role && !holds "owner" member.role) = false) :
    Untouched store
      (changeRoleRoute library store request.userId request.slug workspace memberId role).2 := by
  rw [changeRoleRoute]
  split
  next => exact .refl
  next admissible =>
    split
    next =>
      rw [ownerOnly_refused documented found outsider]
      exact .refl
    next other =>
      have member : role = "member" := by
        simp only [Bool.or_eq_true, decide_eq_true_eq, not_or] at other
        simpa [other.1, other.2] using admissible
      subst member
      apply answered_kept
      intro updated next answered
      obtain ⟨target, reached, unowned, rfl⟩ := documented.updated answered
      apply untouched_setRole (Option.filter_eq_some_iff.mp reached).1
      have plain := unowned outsider
      rw [reached, Option.any_some, plain] at harmless
      simpa [isPrivileged, plain] using harmless

theorem removeMemberRoute_kept (documented : Documented library)
    (found : store.organizations.find? request.slug = some workspace)
    (outsider : store.isOwner request.userId workspace.id = false) {memberId : MemberId} :
    Untouched store
      (removeMemberRoute library store request.userId request.slug workspace memberId).2 := by
  rw [removeMemberRoute]
  cases listed : store.targetOf workspace.id memberId with
  | none => exact .refl
  | some target =>
    obtain ⟨stored, _⟩ := Option.filter_eq_some_iff.mp listed
    rw [Option.elim_some]
    cases privileged : isPrivileged target with
    | true =>
      rw [isPrivileged] at privileged
      rw [if_pos privileged, ownerOnly_refused documented found outsider]
      exact .refl
    | false =>
      have plain : (holds "admin" target.role || holds "owner" target.role) = false := privileged
      rw [plain, if_neg Bool.false_ne_true]
      apply answered_kept
      intro _ next answered
      rw [documented.removed answered]
      exact untouched_withoutMember stored privileged

theorem serve_kept (documented : Documented library) (outsider : ownsWorkspace store request = false)
    (harmless : slipsThrough library store request = false) :
    Untouched store (serve library store request).2 := by
  rw [serve]
  cases guarded : requirePermission library store request.userId request.slug request.action.permission with
  | some refusal => exact .refl
  | none =>
    cases active : store.findActiveWorkspaceBySlug request.slug with
    | none => exact .refl
    | some workspace =>
      obtain ⟨found, _⟩ := Option.filter_eq_some_iff.mp active
      rw [ownsWorkspace, found, Option.any_some] at outsider
      rw [slipsThrough, guarded, active, Option.any_some, Option.isNone_none, Bool.true_and, passesGuard] at harmless
      rw [Option.elim_some, handle]
      cases asked : request.action with
      | invite email role => exact inviteRoute_kept documented found outsider email role
      | resend invitationId =>
        rw [asked] at harmless
        exact resendRoute_kept documented outsider harmless
      | changeRole memberId role =>
        rw [asked] at harmless
        exact changeRoleRoute_kept documented found outsider harmless
      | removeMember memberId => exact removeMemberRoute_kept documented found outsider

section Slips

theorem privilegedRow_admin {member : Member} (admin : holds "admin" member.role = true) :
    privilegedRow member = some member := by
  rw [privilegedRow, isPrivileged, admin, Bool.true_or, if_pos rfl]

theorem demotion_seen {organizationId : WorkspaceId} {memberId : MemberId} {target : Member}
    (reached : store.targetOf organizationId memberId = some target) (admin : holds "admin" target.role = true) :
    ¬ SamePrivileges store (store.setRole memberId "member") := by
  intro same
  have found := (Option.filter_eq_some_iff.mp reached).1
  have keyed : target.id = memberId := Table.key_of_find? found
  have looked := @Table.find?_update _ _ _ _ store.members memberId (fun member => member.id == memberId)
    (fun member => { member with role := "member" }) fun _ => rfl
  have row := same.members memberId
  rw [Table.shown, TenancyStore.setRole, looked, found, Option.map_some, if_pos (beq_iff_eq.mpr keyed),
    Option.bind_some, privilegedRow_member, Table.shown, found, Option.bind_some, privilegedRow_admin admin] at row
  cases row

theorem renewal_seen {invitation : Invitation} (fresh : store.invitations.find? invitation.id = none)
    (pending : invitation.status = "pending") (admin : invitation.role.any (holds "admin") = true) :
    ¬ SamePrivileges store (store.invite invitation) := by
  intro same
  have row := same.invitations invitation.id
  rw [Table.shown, TenancyStore.invite, Table.find?_insert, fresh, Option.none_or, if_pos rfl, Option.bind_some,
    adminOffer, pending, admin, Table.shown, fresh, Option.bind_none] at row
  cases row

theorem granted_of_guard (documented : Documented library) {permission : Permission}
    (active : store.findActiveWorkspaceBySlug request.slug = some workspace)
    (guarded : requirePermission library store request.userId request.slug permission = none) :
    (store.permitted request.userId workspace.id permission).isSome := by
  rw [requirePermission, active, Option.elim_some, permissionReply.eq_def] at guarded
  split at guarded
  next => cases guarded
  next granted => exact documented.granted granted
  next => cases guarded

theorem slip_changes_privileges (documented : Documented library) (lets : LetsAct library)
    (slips : slipsThrough library store request = true) :
    ¬ SamePrivileges store (serve library store request).2 := by
  rw [slipsThrough, Bool.and_eq_true, Option.isNone_iff_eq_none] at slips
  obtain ⟨guarded, passes⟩ := slips
  obtain ⟨workspace, active, through⟩ := (Option.any_eq_true _ _).mp passes
  have granted := granted_of_guard documented active guarded
  rw [serve, guarded, Option.elim_none, active, Option.elim_some, handle]
  rw [passesGuard] at through
  -- of the four routes two check what an admin loses or gets
  cases asked : request.action with
  | invite | removeMember =>
    rw [asked] at through
    cases through
  | changeRole memberId role =>
    -- the owner check looks at the role asked for, not at the one it replaces
    rw [asked] at through granted
    obtain ⟨plain, named⟩ := Bool.and_eq_true_iff.mp through
    obtain ⟨target, reached, both⟩ := (Option.any_eq_true _ _).mp named
    obtain ⟨admin, unowned⟩ := Bool.and_eq_true_iff.mp both
    obtain rfl := beq_iff_eq.mp plain
    obtain ⟨member, next, updated⟩ := @LetsAct.updates library lets store request.userId
      { memberId, role := "member", organizationId := workspace.id } target granted reached
      (by simpa using unowned) plain_member.2
    obtain ⟨_, _, _, rfl⟩ := documented.updated updated
    have demotes : (changeRoleRoute library store request.userId request.slug workspace memberId "member").2 =
        store.setRole memberId "member" := by
      rw [changeRoleRoute, updated]
      rfl
    simp only [demotes]
    exact demotion_seen reached admin
  | resend invitationId =>
    -- with the old invitation spent, the library makes a new one for the same role
    rw [asked] at through granted
    obtain ⟨existing, stored, conditions⟩ := (Option.any_eq_true _ _).mp through
    simp only [Bool.and_eq_true, Bool.not_eq_true', beq_iff_eq] at conditions
    obtain ⟨⟨⟨inside, admin⟩, unowned⟩, spent⟩ := conditions
    obtain ⟨role, given, holding⟩ := (Option.any_eq_true _ _).mp admin
    rw [given, Option.any_some] at unowned
    obtain ⟨invitation, next, created⟩ := @LetsAct.invites library lets store request.now request.userId
      { email := existing.email, role, organizationId := workspace.id, resend := true } granted unowned fun _ => rfl
    have outcome := (documented.invited created).2
    rw [spent, if_neg Bool.false_ne_true] at outcome
    obtain ⟨fresh, offered, pending, rfl⟩ := outcome
    have renews : (resendRoute library store request.now request.userId workspace invitationId).2 =
        store.invite invitation := by
      have listed : (store.invitations.find? invitationId).filter
          (fun invitation => invitation.organizationId == workspace.id) = some existing :=
        Option.filter_eq_some_iff.mpr ⟨stored, beq_iff_eq.mpr inside⟩
      rw [resendRoute, listed, Option.elim_some, given, Option.getD_some, created]
      rfl
    simp only [renews]
    apply renewal_seen fresh pending
    rw [offered, Option.any_some]
    exact holding

end Slips

end Steps

section Runs

variable {library : AuthLibrary}

/-- The invariant of a run is that nothing privileged has changed since its start; nobody becomes an owner by it. -/
theorem samePrivileges_of_run (documented : Documented library) {store final : TenancyStore}
    {trace : List TeamRequest} (outsiders : ∀ request ∈ trace, ownsWorkspace store request = false)
    (harmless :
      Along (teamStep library) (fun state request _ => slipsThrough library state request = false) store trace)
    (ran : run (teamStep library) store trace = some final) : SamePrivileges store final := by
  have preserved : ∀ state request next, Untouched store state →
      (ownsWorkspace store request = false ∧ slipsThrough library state request = false) →
        teamStep library state request = some next → Untouched store next := by
    intro state request next kept guarded taken
    obtain rfl := Option.some.inj taken
    have outsider : ownsWorkspace state request = false := by
      rw [← Bool.not_eq_true]
      intro owns
      rw [ownsWorkspace, kept.organizations] at owns
      obtain ⟨organization, found, owner⟩ := (Option.any_eq_true _ _).mp owns
      have before := guarded.1
      rw [ownsWorkspace, found, Option.any_some, kept.isOwner owner] at before
      cases before
    exact kept.trans (serve_kept documented outsider guarded.2)
  have along := along_and (along_of_labels (fun request asked _ _ => outsiders request asked) store) harmless
  exact (invariant_of_run preserved Untouched.refl along ran).toSamePrivileges

theorem along_of_samePrivileges (documented : Documented library) (lets : LetsAct library) {origin store : TenancyStore}
    {trace : List TeamRequest}
    (kept : ∀ taken rest reached, taken ++ rest = trace → run (teamStep library) store taken = some reached →
      SamePrivileges origin reached) :
    Along (teamStep library) (fun state request _ => slipsThrough library state request = false) store trace := by
  induction trace generalizing store with
  | nil => trivial
  | cons request rest ih =>
    intro next taken
    constructor
    · apply Bool.eq_false_of_not_eq_true
      intro slips
      apply slip_changes_privileges documented lets slips
      have before : SamePrivileges origin store := kept [] (request :: rest) store rfl rfl
      have after := kept [request] rest _ rfl rfl
      constructor
      · intro memberId
        exact (after.members memberId).trans (before.members memberId).symm
      · intro invitationId
        exact (after.invitations invitationId).trans (before.invitations invitationId).symm
    · apply ih
      intro first second reached split ran
      exact kept (request :: first) second reached (by rw [← split]; rfl) (run_cons.mpr ⟨next, taken, ran⟩)

/-- Requests by callers who own nothing leave the privileges exactly where none of them slips through. -/
theorem privileges_kept_iff (documented : Documented library) (lets : LetsAct library) {store : TenancyStore}
    {trace : List TeamRequest} (outsiders : ∀ request ∈ trace, ownsWorkspace store request = false) :
    (∀ taken rest reached, taken ++ rest = trace → run (teamStep library) store taken = some reached →
        SamePrivileges store reached) ↔
      Along (teamStep library) (fun state request _ => slipsThrough library state request = false) store trace := by
  constructor
  · exact along_of_samePrivileges documented lets
  · intro along taken rest reached split ran
    subst split
    apply samePrivileges_of_run documented _ (along_of_append along) ran
    intro request asked
    exact outsiders request (List.mem_append_left rest asked)

end Runs

end LocalCrm.Tenancy
