import LocalCrm.Tenancy.Privileges

/-! A library that behaves as documented, and what an administrator does with it. -/

set_option autoImplicit false

namespace LocalCrm.Tenancy

open Library Webhooks

def invitationExpiresInMs : Int := 7 * millisecondsPerDay

namespace TenancyStore

variable (store : TenancyStore)

def nextInvitationId : InvitationId := (store.invitations.rows.map (·.id)).foldr max 0 + 1

end TenancyStore

def notAllowed : LibraryError := .api (some 403) "YOU_ARE_NOT_ALLOWED_TO_DO_THIS"

/-- Lets a caller whose role grants the action act on everyone who is no owner. -/
def teamLibrary : AuthLibrary where
  hasPermission store userId organizationId permission :=
    (store.memberOf userId organizationId).elim (.error (.api (some 401) "USER_IS_NOT_A_MEMBER")) fun _ =>
      .ok (store.permitted userId organizationId permission).isSome
  getActiveMemberRole store userId slug :=
    ((store.organizations.find? slug).bind fun organization => store.memberOf userId organization.id).elim
      (.error (.api (some 403) "USER_IS_NOT_A_MEMBER")) fun member => .ok member.role
  updateMemberRole store userId change :=
    (store.permitted userId change.organizationId .memberUpdate).elim (.error notAllowed) fun caller =>
      (store.targetOf change.organizationId change.memberId).elim (.error (.api (some 400) "MEMBER_NOT_FOUND"))
        fun target =>
          if holds "owner" caller.role || !(holds "owner" target.role || holds "owner" change.role) then
            .ok ({ target with role := change.role }, store.setRole change.memberId change.role)
          else .error notAllowed
  removeMember store userId organizationId memberId :=
    (store.permitted userId organizationId .memberDelete).elim (.error notAllowed) fun caller =>
      (store.targetOf organizationId memberId).elim (.error (.api (some 400) "MEMBER_NOT_FOUND")) fun target =>
        if holds "owner" caller.role || !holds "owner" target.role then .ok ((), store.withoutMember memberId)
        else .error notAllowed
  createInvitation store now userId body :=
    (store.permitted userId body.organizationId .invitationCreate).elim (.error notAllowed) fun caller =>
      let expiresAt := now + invitationExpiresInMs
      let live := store.invitations.rows.find? (TenancyStore.isLive now body.organizationId body.email.toLower)
      if !holds "owner" caller.role && holds "owner" body.role then .error notAllowed
      else
        live.elim
          (let invitation :=
            { id := store.nextInvitationId, organizationId := body.organizationId, email := body.email.toLower
              role := some body.role, status := "pending", expiresAt, inviterId := userId }
          .ok (invitation, store.invite invitation))
          fun invitation =>
            if body.resend then .ok ({ invitation with expiresAt }, store.refresh invitation.id expiresAt)
            else .error (.api (some 400) "USER_IS_ALREADY_INVITED_TO_THIS_ORGANIZATION")
  storedEmail := String.toLower

theorem le_foldr_max {ids : List Nat} {id : Nat} (member : id ∈ ids) : id ≤ ids.foldr max 0 := by
  induction ids with
  | nil => cases member
  | cons first rest ih =>
    cases member with
    | head => exact Nat.le_max_left _ _
    | tail _ later => exact Nat.le_trans (ih later) (Nat.le_max_right _ _)

theorem fresh_nextInvitationId (store : TenancyStore) : store.invitations.find? store.nextInvitationId = none := by
  rw [Table.find?_none]
  intro member
  exact absurd (le_foldr_max member) (Nat.not_succ_le_self _)

theorem ok_of_elim {Value Found : Type} {found : Option Found} {error : LibraryError}
    {next : Found → Except LibraryError Value} {value : Value} (ok : found.elim (.error error) next = .ok value) :
    ∃ row, found = some row ∧ next row = .ok value := by
  cases found with
  | none => cases ok
  | some row => exact ⟨row, rfl, ok⟩

theorem memberOf_found {store : TenancyStore} {userId : UserId} {organizationId : WorkspaceId} {member : Member}
    (found : store.memberOf userId organizationId = some member) :
    member ∈ store.members.rows ∧ member.organizationId = organizationId ∧ member.userId = userId := by
  have matching := List.find?_some found
  rw [Bool.and_eq_true, beq_iff_eq, beq_iff_eq] at matching
  exact ⟨List.mem_of_find?_eq_some found, matching.1, matching.2⟩

theorem not_owner_of_permitted {store : TenancyStore} {userId : UserId} {organizationId : WorkspaceId}
    {permission : Permission} {caller : Member}
    (allowed : store.permitted userId organizationId permission = some caller)
    (outsider : store.isOwner userId organizationId = false) : holds "owner" caller.role = false := by
  obtain ⟨found, _⟩ := Option.filter_eq_some_iff.mp allowed
  obtain ⟨stored, inside, own⟩ := memberOf_found found
  rw [TenancyStore.isOwner, List.any_eq_false] at outsider
  have refused := outsider caller stored
  simpa [inside, own] using refused

theorem hasLive_teamLibrary (store : TenancyStore) (now : Timestamp) (organizationId : WorkspaceId) (email : String) :
    store.hasLive now organizationId (teamLibrary.storedEmail email) =
      (store.invitations.rows.find? (TenancyStore.isLive now organizationId email.toLower)).isSome :=
  List.isSome_find?.symm

theorem documented_teamLibrary : Documented teamLibrary where
  granted := by
    intro store userId organizationId permission granted
    obtain ⟨_, _, same⟩ := ok_of_elim granted
    exact Except.ok.inj same
  activeRole := by
    intro store userId slug role read
    obtain ⟨member, found, same⟩ := ok_of_elim read
    obtain ⟨organization, listed, member_of⟩ := Option.bind_eq_some_iff.mp found
    obtain ⟨stored, inside, own⟩ := memberOf_found member_of
    exact ⟨organization, listed, member, stored, inside, own, Except.ok.inj same⟩
  updated := by
    intro store userId change member next ok
    obtain ⟨caller, allowed, rest⟩ := ok_of_elim ok
    obtain ⟨target, reached, answer⟩ := ok_of_elim rest
    split at answer
    next admitted =>
      refine ⟨target, reached, ?_, (Prod.mk.inj (Except.ok.inj answer)).2.symm⟩
      intro outsider
      rw [not_owner_of_permitted allowed outsider] at admitted
      simp only [Bool.false_or, Bool.not_eq_true', Bool.or_eq_false_iff] at admitted
      exact admitted.1
    next => cases answer
  removed := by
    intro store userId organizationId memberId next ok
    obtain ⟨caller, _, rest⟩ := ok_of_elim ok
    obtain ⟨target, _, answer⟩ := ok_of_elim rest
    split at answer
    next => exact (Prod.mk.inj (Except.ok.inj answer)).2.symm
    next => cases answer
  invited := by
    intro store now userId body invitation next ok
    obtain ⟨caller, allowed, answer⟩ := ok_of_elim ok
    split at answer
    next => cases answer
    next admitted =>
      constructor
      · intro outsider
        simpa [not_owner_of_permitted allowed outsider] using admitted
      · rw [hasLive_teamLibrary]
        cases found : store.invitations.rows.find?
            (TenancyStore.isLive now body.organizationId body.email.toLower) with
        | none =>
          rw [found] at answer
          obtain ⟨rfl, rfl⟩ := Prod.mk.inj (Except.ok.inj answer)
          exact ⟨fresh_nextInvitationId store, rfl, rfl, rfl⟩
        | some existing =>
          rw [found, Option.elim_some] at answer
          split at answer
          next resent => exact ⟨resent, existing.id, _, (Prod.mk.inj (Except.ok.inj answer)).2.symm⟩
          next => cases answer

theorem letsAct_teamLibrary : LetsAct teamLibrary where
  updates := by
    intro store userId change target granted reached unowned plain
    obtain ⟨caller, allowed⟩ := Option.isSome_iff_exists.mp granted
    exact ⟨{ target with role := change.role }, store.setRole change.memberId change.role,
      by simp [teamLibrary, allowed, reached, unowned, plain]⟩
  removes := by
    intro store userId organizationId memberId target granted reached unowned
    obtain ⟨caller, allowed⟩ := Option.isSome_iff_exists.mp granted
    exact ⟨store.withoutMember memberId, by simp [teamLibrary, allowed, reached, unowned]⟩
  invites := by
    intro store now userId body granted plain resent
    obtain ⟨caller, allowed⟩ := Option.isSome_iff_exists.mp granted
    cases live : store.invitations.rows.find? (TenancyStore.isLive now body.organizationId body.email.toLower) with
    | none => simp [teamLibrary, allowed, plain, live]
    | some existing =>
      have asked : body.resend = true := by
        apply resent
        rw [hasLive_teamLibrary, live, Option.isSome_some]
      simp [teamLibrary, allowed, plain, live, asked]

section Workspace

def owner : Member := { id := 1, organizationId := 7, userId := 1, role := "owner" }

def administrator : Member := { id := 2, organizationId := 7, userId := 2, role := "admin" }

def colleague : Member := { id := 3, organizationId := 7, userId := 3, role := "admin" }

def recruit : Member := { id := 4, organizationId := 7, userId := 4, role := "member" }

def team : TenancyStore where
  organizations := Table.empty.insert { id := 7, slug := "acme" }
  members := (((Table.empty.insert owner).insert administrator).insert colleague).insert recruit

def request (action : TeamAction) : TeamRequest := { userId := 2, slug := "acme", now := 0, action }

/-- One administrator takes the role from the other. -/
theorem administrator_demotes_colleague :
    ¬ ∀ (library : AuthLibrary), Documented library → LetsAct library → ∀ (store final : TenancyStore)
      (trace : List TeamRequest), (∀ request ∈ trace, ownsWorkspace store request = false) →
        run (teamStep library) store trace = some final → SamePrivileges store final := by
  intro always
  have same := always teamLibrary documented_teamLibrary letsAct_teamLibrary team _
    [request (.changeRole 3 "member")] (by decide +kernel) rfl
  have row := same.members 3
  revert row
  decide +kernel

def harmlessRequests : List TeamRequest :=
  [request (.invite "new@example.com" "member"), request (.resend 1), request (.removeMember 4)]

theorem privileges_kept_harmless :
    ∃ reached, run (teamStep teamLibrary) team harmlessRequests = some reached ∧ SamePrivileges team reached := by
  have checked : checkAlong (teamStep teamLibrary) (fun state request => !slipsThrough teamLibrary state request) team
      harmlessRequests = true := by decide +kernel
  have careful : Along (teamStep teamLibrary) (fun state request _ => slipsThrough teamLibrary state request = false)
      team harmlessRequests := by
    apply along_mono _ (along_of_check checked)
    simp
  have kept := (privileges_kept_iff documented_teamLibrary letsAct_teamLibrary (by decide +kernel)).mpr careful
  have served : (run (teamStep teamLibrary) team harmlessRequests).isSome = true := by decide +kernel
  obtain ⟨reached, ran⟩ := Option.isSome_iff_exists.mp served
  exact ⟨reached, ran, kept harmlessRequests [] reached (List.append_nil _) ran⟩

end Workspace

end LocalCrm.Tenancy
