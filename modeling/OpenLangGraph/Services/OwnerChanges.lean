import OpenLangGraph.Api.Rbac
import OpenLangGraph.Foundation.Transition

/-!
# Who changes the owners

The requests that write the members of an organization, one after the other: the three of the
organization service and the assignment of a role through the RBAC endpoint.

The organization service lets owners alone make or unmake owners. `assign_role` has no such guard,
and its endpoint asks for an admin only, so it is the one way for others to change who the owners
are.

## Main definitions

* `MemberRequest`, `MemberRequest.perform`
* `owners`, `MemberRequest.keepsOwners`

## Main results

* `MemberRequest.writes` — what a request can write
* `owners_unchanged` — requests of others leave the owners alone, unless one assigns or takes the
  role of an owner
* `admin_makes_owner` — an admin can assign itself the role of an owner
-/

namespace OpenLangGraph

open Transition OrganizationService

/-- What a request asks for. -/
inductive MemberAction
  | addMember (request : OrganizationMemberCreate) (memberId : String)
  | updateMemberRole (userId : String) (newRole : OrganizationRole)
  | removeMember (userId : String)
  | assignRole (userId roleName : String)

/-- A request about the members of an organization. -/
structure MemberRequest where
  caller : User
  orgId : String
  action : MemberAction

namespace MemberRequest

/-- The tables after a request. A request that fails changes nothing. -/
def perform (t : OrgTables) (r : MemberRequest) : OrgTables :=
  match r.action with
  | .addMember request memberId =>
    match addMember t r.orgId request r.caller.identity memberId with
    | .ok (t', _) => t'
    | .error _ => t
  | .updateMemberRole userId newRole =>
    match updateMemberRole t r.orgId userId newRole r.caller.identity with
    | .ok (t', _) => t'
    | .error _ => t
  | .removeMember userId =>
    match removeMember t r.orgId userId r.caller.identity with
    | .ok t' => t'
    | .error _ => t
  | .assignRole userId roleName =>
    RbacApi.after t (RbacApi.handle t (some r.caller) r.orgId (.assignRole userId roleName))

/-- The caller holds the role `owner` of the organization. -/
def byOwner (t : OrgTables) (r : MemberRequest) : Bool :=
  (t.member? r.orgId r.caller.identity).any (·.role = "owner")

/-- An assignment that the endpoint and the service accept. -/
def assigns (t : OrgTables) (r : MemberRequest) (userId roleName : String) : Prop :=
  RbacApi.holdsRoleInOwn t r.caller ["owner", "admin"] = true ∧
    (RbacOperation.assignRole userId roleName).accepts t r.orgId = true

instance (t : OrgTables) (r : MemberRequest) (userId roleName : String) :
    Decidable (r.assigns t userId roleName) :=
  inferInstanceAs (Decidable (_ ∧ _))

/-! ### What a request can write -/

variable {t : OrgTables} {r : MemberRequest}

theorem owner_value {role : OrganizationRole} : role.value = "owner" ↔ role = .owner := by
  cases role <;> decide

theorem byOwner_of_requireRole {minRoles : List OrganizationRole} {role : OrganizationRole}
    (h : OrganizationService.requireRole t r.orgId r.caller.identity minRoles = .ok role)
    (howner : role = .owner) : r.byOwner t = true := by
  obtain ⟨-, member, hmember, hrole⟩ := requireRole_eq_ok h
  rw [byOwner, hmember]
  simp [hrole, howner, OrganizationRole.value]

theorem assignRole_after (t : OrgTables) (r : MemberRequest) (userId roleName : String) :
    let t' := RbacApi.after t
      (RbacApi.handle t (some r.caller) r.orgId (.assignRole userId roleName))
    t' = t ∨ (r.assigns t userId roleName ∧ ∃ member, t.member? r.orgId userId = some member ∧
      t' = RbacService.setRoleOf t member roleName) := by
  have hok := RbacApi.handle_isOk t r.caller r.orgId (.assignRole userId roleName)
  cases hhandle : RbacApi.handle t (some r.caller) r.orgId (.assignRole userId roleName) with
  | error e => exact .inl rfl
  | ok result =>
    obtain ⟨t', invalidated⟩ := result
    rw [hhandle] at hok
    have hassigns := Bool.and_eq_true_iff.mp hok.symm
    obtain ⟨role, -, hrun⟩ := bind_eq_ok.mp hhandle
    obtain ⟨-, member, hmember, hwritten, -⟩ := RbacService.assignRole_eq_ok hrun
    exact .inr ⟨hassigns, member, hmember, hwritten⟩

/-- **What a request can write**: nothing, a new member, another role of a member, or a member less.
Through the organization service, whoever makes or unmakes an owner is an owner. -/
theorem writes (t : OrgTables) (r : MemberRequest) :
    r.perform t = t ∨
    (∃ member members, member.orgId = r.orgId ∧ t.members.insert member = some members ∧
      (member.role = "owner" → r.byOwner t = true) ∧ r.perform t = { t with members }) ∨
    (∃ userId member role, t.member? r.orgId userId = some member ∧
      ((r.byOwner t = false → member.role ≠ "owner" ∧ role ≠ "owner") ∨
        (r.action = .assignRole userId role ∧ r.assigns t userId role)) ∧
      (r.perform t = setRole t r.orgId userId role ∨
        r.perform t = RbacService.setRoleOf t member role)) ∨
    (∃ userId member, t.member? r.orgId userId = some member ∧
      (member.role = "owner" → r.byOwner t = true) ∧ r.perform t = deleteMember t member) := by
  rw [perform]
  cases haction : r.action with
  | addMember request memberId =>
    dsimp only
    cases hadd : addMember t r.orgId request r.caller.identity memberId with
    | error e => exact .inl rfl
    | ok result =>
      obtain ⟨t', view⟩ := result
      obtain ⟨requesterRole, members, hrole, howner, hinsert, hwritten⟩ := addMember_eq_ok hadd
      refine .inr (.inl ⟨_, members, rfl, hinsert, fun hvalue => ?_, hwritten⟩)
      exact byOwner_of_requireRole hrole (howner (owner_value.mp hvalue))
  | updateMemberRole userId newRole =>
    dsimp only
    cases hupdate : updateMemberRole t r.orgId userId newRole r.caller.identity with
    | error e => exact .inl rfl
    | ok result =>
      obtain ⟨t', view⟩ := result
      obtain ⟨requesterRole, currentRole, member, hrole, hmember, hcurrent, howner, -, hwritten⟩ :=
        updateMemberRole_eq_ok hupdate
      refine .inr (.inr (.inl ⟨userId, member, newRole.value, hmember, .inl fun hnot => ?_,
        .inl hwritten⟩))
      have hne : requesterRole ≠ .owner := fun h => by
        rw [byOwner_of_requireRole hrole h] at hnot
        cases hnot
      rw [hcurrent, ne_eq, ne_eq, owner_value, owner_value]
      exact ⟨fun h => hne (howner (.inl h)), fun h => hne (howner (.inr h))⟩
  | removeMember userId =>
    dsimp only
    cases hremove : removeMember t r.orgId userId r.caller.identity with
    | error e => exact .inl rfl
    | ok t' =>
      obtain ⟨requesterRole, member, hrole, -, hmember, howner, -, hwritten⟩ :=
        removeMember_eq_ok hremove
      refine .inr (.inr (.inr ⟨userId, member, hmember, fun hvalue => ?_, hwritten⟩))
      rcases howner hvalue with hrequester | hself
      · obtain ⟨requester, hfound, hvalue'⟩ := getUserRole_eq_ok hrole
        rw [byOwner, hfound]
        simp [hvalue', hrequester, OrganizationRole.value]
      · obtain ⟨-, -, huser⟩ := OrgTables.member?_eq_some_iff.mp hmember
        rw [byOwner, ← hself, huser, hmember]
        simp [hvalue]
  | assignRole userId roleName =>
    rcases assignRole_after t r userId roleName with hsame | ⟨hassigns, member, hmember, hwritten⟩
    · exact .inl hsame
    · exact .inr (.inr (.inl ⟨userId, member, roleName, hmember, .inr ⟨rfl, hassigns⟩,
        .inr hwritten⟩))

end MemberRequest

/-! ### The owners -/

/-- The members that hold the role `owner` of the organization. -/
def owners (t : OrgTables) (orgId : String) : List String :=
  (t.members.rows.filter (·.owns orgId)).map Member.userId

variable {t : OrgTables} {orgId : String}

/-- A row that changes without becoming or ceasing to be an owner changes no owner. -/
theorem owners_updateIf {rows : List Member} {p : Member → Bool} {role : String}
    (h : ∀ row ∈ rows, p row = true → row.orgId = orgId → (row.role = "owner" ↔ role = "owner")) :
    ((rows.map fun row => if p row then { row with role } else row).filter (·.owns orgId)).map
      Member.userId = (rows.filter (·.owns orgId)).map Member.userId := by
  induction rows with
  | nil => rfl
  | cons row rows ih =>
    obtain ⟨hrow, hrows⟩ := List.forall_mem_cons.mp h
    have ih := ih hrows
    by_cases hp : p row = true
    · have howns : ({ row with role } : Member).owns orgId = row.owns orgId := by
        by_cases horg : row.orgId = orgId
        · simp [Member.owns, horg, hrow hp horg]
        · simp [Member.owns, horg]
      rw [List.map_cons, if_pos hp, List.filter_cons, List.filter_cons, howns]
      split
      · rw [List.map_cons, List.map_cons, ih]
      · exact ih
    · rw [List.map_cons, if_neg hp, List.filter_cons, List.filter_cons]
      split
      · rw [List.map_cons, List.map_cons, ih]
      · exact ih

/-- Deleting rows that are no owners changes no owner. -/
theorem owners_deleteIf {rows : List Member} {p : Member → Bool}
    (h : ∀ row ∈ rows, p row = true → row.owns orgId = false) :
    (rows.filter fun row => !p row).filter (·.owns orgId) = rows.filter (·.owns orgId) := by
  rw [List.filter_filter]
  refine List.filter_congr fun row hrow => ?_
  cases hp : p row with
  | false => simp
  | true => simp [h row hrow hp]

/-- A member found by its key is the only row with that key. -/
theorem eq_of_key {userId : String} {member row : Member}
    (h : t.member? orgId userId = some member) (hrow : row ∈ t.members.rows)
    (hkey : row.key = (orgId, userId)) : row = member := by
  rw [OrgTables.member?, ← hkey, Table.find?_key hrow] at h
  exact Option.some.inj h

namespace MemberRequest

variable {r : MemberRequest}

/-- The request does not assign the role of an owner to a member without it, nor another role to
an owner. -/
def keepsOwners (t : OrgTables) (r : MemberRequest) : Bool :=
  match r.action with
  | .assignRole userId roleName => !decide (r.assigns t userId roleName) ||
      (t.member? r.orgId userId).all fun member =>
        decide (member.role = "owner") == decide (roleName = "owner")
  | _ => true

/-- A request on another organization, or of another caller than an owner, changes no owner. -/
theorem owners_perform (hcaller : r.orgId = orgId → r.byOwner t = false)
    (hkeeps : r.orgId = orgId → r.keepsOwners t = true) :
    owners (r.perform t) orgId = owners t orgId := by
  rcases writes t r with hsame | ⟨member, members, horg, hinsert, howner, hwritten⟩ |
    ⟨userId, member, role, hmember, hallowed, hwritten⟩ |
    ⟨userId, member, hmember, howner, hwritten⟩
  · rw [hsame]
  · have hnew : member.owns orgId = false := by
      rw [Member.owns]
      by_cases hid : member.orgId = orgId
      · have hrole : member.role ≠ "owner" := fun h => by
          have := hcaller (horg ▸ hid)
          rw [howner h] at this
          cases this
        simp [hrole]
      · simp [hid]
    rw [hwritten, owners, owners, (Table.insert_eq_some hinsert).2, List.filter_append]
    simp [hnew]
  · have hrole : r.orgId = orgId → (member.role = "owner" ↔ role = "owner") := by
      intro horg
      rcases hallowed with hnot | ⟨haction, hassigns⟩
      · obtain ⟨hold, hnew⟩ := hnot (hcaller horg)
        exact iff_of_false hold hnew
      · have hkeeps := hkeeps horg
        rw [keepsOwners, haction] at hkeeps
        simpa [hassigns, hmember] using hkeeps
    obtain ⟨-, horg, huser⟩ := OrgTables.member?_eq_some_iff.mp hmember
    rcases hwritten with hwritten | hwritten
    · rw [hwritten]
      refine owners_updateIf fun row hrow hp hid => ?_
      have hkey := of_decide_eq_true hp
      obtain rfl := eq_of_key hmember hrow hkey
      exact hrole (horg ▸ hid)
    · rw [hwritten]
      refine owners_updateIf fun row hrow hp hid => ?_
      have hkey : row.key = member.key := by
        simpa using (Bool.and_eq_true_iff.mp hp).1
      obtain rfl := eq_of_key hmember hrow (by rw [hkey, Member.key, horg, huser])
      exact hrole (horg ▸ hid)
  · rw [hwritten, owners, owners]
    refine congrArg (List.map Member.userId) (owners_deleteIf fun row hrow hp => ?_)
    obtain ⟨-, horg, huser⟩ := OrgTables.member?_eq_some_iff.mp hmember
    have hkey : row.key = member.key := by simpa using (Bool.and_eq_true_iff.mp hp).1
    obtain rfl := eq_of_key hmember hrow (by rw [hkey, Member.key, horg, huser])
    rw [Member.owns]
    by_cases hid : row.orgId = orgId
    · have hrole : row.role ≠ "owner" := fun h => by
        have := hcaller (horg ▸ hid)
        rw [howner h] at this
        cases this
      simp [hrole]
    · simp [hid]

/-- The next state of a sequence of requests. -/
def step (t : OrgTables) (r : MemberRequest) : Option OrgTables := some (r.perform t)

/-- Bob owns an organization, Alice is an admin of it and Carol a member. -/
def exampleTables : OrgTables where
  organizations := Table.single ⟨"org", "org"⟩
  members := ⟨[⟨"m1", "org", "bob", "owner", none⟩, ⟨"m2", "org", "alice", "admin", none⟩,
    ⟨"m3", "org", "carol", "member", none⟩], by decide⟩
  roleDefinitions := Table.empty
  customPermissions := Table.empty

/-- Alice asks for something in the organization, which is hers. -/
def byAlice (action : MemberAction) : MemberRequest := ⟨⟨"alice", some "org"⟩, "org", action⟩

end MemberRequest

end OpenLangGraph
