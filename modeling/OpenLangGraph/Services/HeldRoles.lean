import OpenLangGraph.Services.LastOwner

/-!
# The roles that members hold

Role definitions that come and go while members get roles, as programs whose statements interleave:
those of `LastOwner`, with `create_role` and `delete_role` of `services/rbac_service.py`.

## No foreign key

`assign_role` looks for the role before it writes the member, and `delete_role` looks for members
before it deletes the role. Between the two statements of one of them the other may do its own. The
operations of the organization service look for no role at all: they write those of
`OrganizationRole`, among which `member` is no system role.

What a write needs is that the check holds in the state in which it is made.

## Main definitions

* `RoleStore`, `RoleStatement` — the tables with the ids of role definitions, and the writes
* `RoleCall`, `RoleCall.program` — the operations
* `NoDangling` — every role that a member holds exists
* `RoleStatement.guard` — the role is there, or nobody holds it

## Main results

* `RoleCall.run_program` — a program that runs alone is the operation
* `noDangling_apply_iff` — a write leaves no role dangling exactly if its guard holds
* `no_dangling_iff` — so it is in runs
* `deleted_before_assigned`
-/

namespace OpenLangGraph

open Transition OrganizationService RbacService

/-- The store of the organization service, with the id of each role definition. -/
structure RoleStore where
  org : OrgStore
  roleIds : List ((String × String) × String)

namespace RoleStore

def tables (s : RoleStore) : OrgTables := s.org.tables

/-- The id of the role definition with a key. -/
def roleId (s : RoleStore) (key : String × String) : String :=
  ((s.roleIds.find? (·.1 = key)).map Prod.snd).getD ""

/-- Every role definition has an id. -/
def IdsKnown (s : RoleStore) : Prop :=
  ∀ role ∈ s.tables.roleDefinitions.rows, (role.key, s.roleId role.key) ∈ s.roleIds

end RoleStore

/-- The writes, each with its commit. A role definition is deleted by its id. -/
inductive RoleStatement
  | membership (statement : Statement)
  | insertRole (role : RoleDefinition) (id : String)
  | deleteRole (key : String × String) (id : String)

namespace RoleStatement

def apply : RoleStatement → RoleStore → Except OrgError RoleStore
  | .membership statement, s => (statement.apply s.org).map fun org => { s with org }
  | .insertRole role id, s =>
    match s.tables.roleDefinitions.insert role with
    | none => .error .integrityError
    | some roleDefinitions =>
      .ok ⟨{ s.org with tables := { s.tables with roleDefinitions } }, (role.key, id) :: s.roleIds⟩
  | .deleteRole key id, s =>
    if (key, id) ∈ s.roleIds then
      .ok ⟨{ s.org with tables := { s.tables with
        roleDefinitions := s.tables.roleDefinitions.deleteIf (·.key = key) } },
        s.roleIds.filter (·.1 ≠ key)⟩
    else .ok s

end RoleStatement

/-! ### The operations -/

/-- An operation with its arguments, and the ids that the database gives to new rows. -/
inductive RoleCall
  | membership (call : MembershipCall)
  | createRole (orgId : String) (request : RoleCreate) (createdBy id : String)
  | deleteRole (orgId roleName deletedBy : String)

namespace RoleCall

/-- The row that `create_role` adds. -/
def newRole (orgId : String) (request : RoleCreate) : RoleDefinition :=
  { orgId, name := request.name, displayName := some (shownName request)
    description := request.description, permissions := request.permissions
    isSystem := false, priority := request.priority }

/-- What `create_role` reads. -/
def checkNewRole (t : OrgTables) (orgId : String) (request : RoleCreate) : Except OrgError Unit :=
  if isSystemRole request.name then
    .error (.httpException 409 ("Role name '" ++ request.name ++ "' conflicts with system role"))
  else if (t.roleDefinitions.find? (orgId, request.name)).isSome then
    .error (.httpException 409 ("Role '" ++ request.name ++ "' already exists in organization"))
  else .ok ()

/-- The second query of `delete_role`. -/
def checkUnassigned (t : OrgTables) (orgId roleName : String) : Except OrgError Unit :=
  let membersWithRole := membersWithRole t orgId roleName
  if membersWithRole ≠ [] then
    .error (.httpException 409 ("Cannot delete role '" ++ roleName ++ "': " ++
      toString membersWithRole.length ++ " members assigned"))
  else .ok ()

/-- The operations as programs. -/
def program : RoleCall → Program RoleStore RoleStatement OrgError
  | .membership call => call.program.lift RoleStore.org .membership
  | .createRole orgId request _ id =>
    .read (fun s => checkNewRole s.tables orgId request) fun _ =>
    .write (.insertRole (newRole orgId request) id) <|
    .ended (.ok ())
  | .deleteRole orgId roleName _ =>
    .read (fun s => do
      let _ ← customRole s.tables orgId roleName "System roles cannot be deleted"
      return s.roleId (orgId, roleName)) fun id =>
    .read (fun s => checkUnassigned s.tables orgId roleName) fun _ =>
    .write (.deleteRole (orgId, roleName) id) <|
    .ended (.ok ())

/-- The completed call. -/
def toServiceCall : RoleCall → ServiceCall
  | .membership call => call.toServiceCall
  | .createRole orgId request createdBy _ => .rbac orgId createdBy (.createRole request)
  | .deleteRole orgId roleName deletedBy => .rbac orgId deletedBy (.deleteRole roleName)

end RoleCall

/-! ### Which roles there are -/

/-- Every role that a member holds is a system role or one of its organization. -/
def NoDangling (t : OrgTables) : Prop :=
  ∀ member ∈ t.members.rows, roleExists t member.orgId member.role = true

instance (t : OrgTables) : Decidable (NoDangling t) :=
  inferInstanceAs (Decidable (∀ member ∈ t.members.rows, _))

/-- The role that is written exists, and nobody holds the role that is deleted. -/
def RoleStatement.guard (s : RoleStore) : RoleStatement → Bool
  | .membership (.insertMember member) =>
    (s.tables.members.rows.map Member.key).contains member.key ||
      roleExists s.tables member.orgId member.role
  | .membership (.setRole orgId userId role) =>
    (s.tables.member? orgId userId).all fun _ => roleExists s.tables orgId role
  | .membership (.setRoleOf member role) =>
    (Statement.currentRow s.tables member).all fun _ => roleExists s.tables member.orgId role
  | .deleteRole key id =>
    decide ((key, id) ∉ s.roleIds) || isSystemRole key.2 ||
      decide (membersWithRole s.tables key.1 key.2 = [])
  | _ => true

/-! ### What a write leaves -/

section

variable {t : OrgTables} {role : String} {p : Member → Bool}

/-- A role that is written must be there for the members that get it. -/
theorem noDangling_updateIf (ht : NoDangling t) : NoDangling { t with
      members := t.members.updateIf p ({ · with role }) (Member.key_role role) } ↔
    ∀ member ∈ t.members.rows, p member = true → roleExists t member.orgId role = true := by
  constructor
  · intro h member hmember hp
    have hrow : ({ member with role } : Member) ∈
        (t.members.updateIf p ({ · with role }) (Member.key_role role)).rows :=
      List.mem_map.mpr ⟨member, hmember, if_pos hp⟩
    exact h _ hrow
  · intro h member hmember
    rcases Table.mem_updateIf (Member.key_role role) hmember with hold | ⟨old, hold, hp, rfl⟩
    · exact ht member hold
    · exact h old hold hp

theorem noDangling_append (ht : NoDangling t) {member : Member} {members : Table Member.key}
    (h : t.members.insert member = some members) :
    NoDangling { t with members } ↔ roleExists t member.orgId member.role = true := by
  rw [NoDangling, (Table.insert_eq_some h).2, List.forall_mem_append, List.forall_mem_singleton]
  exact and_iff_right ht

/-- A new role definition takes no role away. -/
theorem noDangling_insertRole (ht : NoDangling t) {definition : RoleDefinition}
    {roleDefinitions : Table RoleDefinition.key}
    (h : t.roleDefinitions.insert definition = some roleDefinitions) :
    NoDangling { t with roleDefinitions } := by
  intro member hmember
  have hrole := ht member hmember
  rw [roleExists, Bool.or_eq_true] at hrole ⊢
  refine hrole.imp_right fun hsome => ?_
  obtain ⟨found, hfound⟩ := Option.isSome_iff_exists.mp hsome
  obtain ⟨hmem, hkey⟩ := Table.find?_eq_some_iff.mp hfound
  refine Option.isSome_iff_exists.mpr ⟨found, Table.find?_eq_some_iff.mpr ⟨?_, hkey⟩⟩
  rw [(Table.insert_eq_some h).2]
  exact List.mem_append_left _ hmem

/-- **A role definition that is deleted** must not be held, unless the role is a system role. -/
theorem noDangling_deleteRole (ht : NoDangling t) (key : String × String) :
    NoDangling { t with roleDefinitions := t.roleDefinitions.deleteIf (·.key = key) } ↔
      isSystemRole key.2 = true ∨ membersWithRole t key.1 key.2 = [] := by
  have hrole : ∀ orgId roleName, roleExists
      { t with roleDefinitions := t.roleDefinitions.deleteIf (·.key = key) } orgId roleName =
        if (orgId, roleName) = key then isSystemRole roleName else roleExists t orgId roleName := by
    intro orgId roleName
    rw [roleExists, roleExists]
    split
    · rename_i hkey
      rw [Table.find?_deleteIf_of_all fun row hrow => decide_eq_true (hrow.trans hkey)]
      exact Bool.or_false _
    · rename_i hkey
      rw [Table.find?_deleteIf_of_ne hkey]
  rw [membersWithRole, List.map_eq_nil_iff, List.filter_eq_nil_iff]
  constructor
  · intro h
    by_contra hnot
    obtain ⟨hsystem, hheld⟩ := not_or.mp hnot
    refine hheld fun member hmember hholds => hsystem ?_
    obtain ⟨horg, hname⟩ := Bool.and_eq_true_iff.mp hholds
    have hdangles := h member hmember
    rw [hrole, if_pos (Prod.ext (of_decide_eq_true horg) (of_decide_eq_true hname)),
      of_decide_eq_true hname] at hdangles
    exact hdangles
  · intro h member hmember
    rw [hrole]
    split
    · rename_i hkey
      rw [← hkey] at h
      rcases h with hsystem | hnone
      · exact hsystem
      · exact absurd (by simp) (hnone member hmember)
    · exact ht member hmember

end

namespace RoleStatement

variable {s s' : RoleStore} {statement : RoleStatement}

/-- The guard of an `UPDATE` by the key is about the row that it finds. -/
theorem setRole_iff {orgId userId role : String} :
    (∀ member ∈ s.tables.members.rows, decide (member.key = (orgId, userId)) = true →
      roleExists s.tables member.orgId role = true) ↔
      guard s (.membership (.setRole orgId userId role)) = true := by
  rw [guard, Option.all_eq_true_iff_get]
  constructor
  · intro h hsome
    obtain ⟨member, hmember⟩ := Option.isSome_iff_exists.mp hsome
    obtain ⟨hrow, horg, huser⟩ := OrgTables.member?_eq_some_iff.mp hmember
    have hkey : member.key = (orgId, userId) := Prod.ext horg huser
    exact horg ▸ h member hrow (decide_eq_true hkey)
  · intro h member hmember hp
    have hkey := of_decide_eq_true hp
    have horg : member.orgId = orgId := congrArg Prod.fst hkey
    have hfound : s.tables.member? orgId userId = some member :=
      OrgTables.member?_eq_some_iff.mpr ⟨hmember, horg, congrArg Prod.snd hkey⟩
    exact horg ▸ h (Option.isSome_of_mem hfound)

theorem setRoleOf_iff {old : Member} {role : String} :
    (∀ member ∈ s.tables.members.rows, (member.key = old.key && member.id = old.id) = true →
      roleExists s.tables member.orgId role = true) ↔
      guard s (.membership (.setRoleOf old role)) = true := by
  rw [guard, Option.all_eq_true_iff_get]
  constructor
  · intro h hsome
    obtain ⟨member, hmember⟩ := Option.isSome_iff_exists.mp hsome
    obtain ⟨hfound, hid⟩ := Option.filter_eq_some_iff.mp hmember
    obtain ⟨hrow, hkey⟩ := Table.find?_eq_some_iff.mp hfound
    have horg : member.orgId = old.orgId := congrArg Prod.fst hkey
    exact horg ▸ h member hrow (Bool.and_eq_true_iff.mpr ⟨decide_eq_true hkey, hid⟩)
  · intro h member hmember hp
    obtain ⟨hkey, hid⟩ := Bool.and_eq_true_iff.mp hp
    have horg : member.orgId = old.orgId := congrArg Prod.fst (of_decide_eq_true hkey)
    have hfound : Statement.currentRow s.tables old = some member := by
      rw [Statement.currentRow, ← of_decide_eq_true hkey, Table.find?_key hmember,
        Option.filter_some, if_pos hid]
    exact horg ▸ h (Option.isSome_of_mem hfound)

/-- A write of the organization service. -/
theorem noDangling_statement_iff {statement : Statement} {org : OrgStore}
    (hs : NoDangling s.tables) (h : statement.apply s.org = .ok org) :
    NoDangling org.tables ↔ guard s (.membership statement) = true := by
  cases statement with
  | insertOrganization organization =>
    rw [Statement.apply] at h
    split at h
    · cases h
    · split at h
      · cases h
      · cases h
        exact iff_of_true hs rfl
  | insertCreator memberId orgId userIdentity =>
    rw [Statement.apply, Statement.addMember] at h
    split at h
    · cases h
    · rename_i members hinsert
      cases h
      exact iff_of_true ((noDangling_append hs hinsert).mpr rfl) rfl
  | insertMember member =>
    rw [Statement.apply, Statement.addMember] at h
    split at h
    · cases h
    · rename_i members hinsert
      cases h
      have hnew := decide_eq_false (Table.insert_eq_some hinsert).1
      refine (noDangling_append hs hinsert).trans ?_
      rw [guard, List.contains_eq_mem]
      unfold RoleStore.tables
      rw [hnew, Bool.false_or]
  | setRole orgId userId role =>
    cases h
    exact (noDangling_updateIf hs).trans setRole_iff
  | setRoleOf member role =>
    cases h
    exact (noDangling_updateIf hs).trans setRoleOf_iff
  | deleteMember member =>
    cases h
    exact iff_of_true (fun row hrow => hs row (Table.mem_deleteIf hrow)) rfl

/-- A write that fails has a guard that holds, as it is about nothing. -/
theorem guard_of_error {e : OrgError} (h : statement.apply s = .error e) :
    statement.guard s = true := by
  cases statement with
  | membership statement =>
    cases statement with
    | insertMember member =>
      rw [apply, Statement.apply, Statement.addMember] at h
      split at h
      · rename_i hinsert
        rw [guard]
        exact Bool.or_eq_true_iff.mpr
          (.inl (List.contains_iff_mem.mpr (Table.mem_of_insert_eq_none hinsert)))
      · cases h
    | setRole orgId userId role => cases h
    | setRoleOf member role => cases h
    | insertOrganization organization => rfl
    | insertCreator memberId orgId userIdentity => rfl
    | deleteMember member => rfl
  | insertRole role id => rfl
  | deleteRole key id =>
    rw [apply] at h
    split at h
    · cases h
    · cases h

/-- **A write leaves no role dangling** exactly if its guard holds. -/
theorem noDangling_apply_iff (hs : NoDangling s.tables) (h : statement.apply s = .ok s') :
    NoDangling s'.tables ↔ statement.guard s = true := by
  cases statement with
  | membership statement =>
    obtain ⟨org, happly, rfl⟩ := ServiceCall.map_eq_ok h
    exact noDangling_statement_iff hs happly
  | insertRole role id =>
    rw [apply] at h
    split at h
    · cases h
    · rename_i roleDefinitions hinsert
      obtain rfl := Except.ok.inj h
      exact iff_of_true (noDangling_insertRole hs hinsert) rfl
  | deleteRole key id =>
    rw [apply] at h
    rw [guard]
    by_cases hid : (key, id) ∈ s.roleIds
    · rw [if_pos hid] at h
      obtain rfl := Except.ok.inj h
      refine (noDangling_deleteRole hs key).trans ?_
      simp [hid]
    · rw [if_neg hid] at h
      obtain rfl := Except.ok.inj h
      exact iff_of_true hs (by simp [hid])

end RoleStatement

/-! ### Running alone -/

namespace RoleCall

open Program MembershipCall

theorem run_createRole (orgId : String) (request : RoleCreate) (createdBy id : String)
    (s : RoleStore) :
    ((createRole orgId request createdBy id).program.run RoleStatement.apply s).1.tables =
      (ServiceCall.rbac orgId createdBy (.createRole request)).after s.tables := by
  rw [ServiceCall.after, ServiceCall.perform, program, RbacOperation.run, RbacService.createRole,
    run_read, checkNewRole]
  by_cases hsystem : isSystemRole request.name = true
  · rw [if_pos hsystem, if_pos hsystem]
    rfl
  · rw [if_neg hsystem, if_neg hsystem]
    by_cases hexists : (s.tables.roleDefinitions.find? (orgId, request.name)).isSome = true
    · rw [if_pos hexists]
      cases hinsert : s.tables.roleDefinitions.insert (newRole orgId request) with
      | none =>
        rw [newRole] at hinsert
        rw [hinsert]
        rfl
      | some roleDefinitions =>
        obtain ⟨row, hfound⟩ := Option.isSome_iff_exists.mp hexists
        obtain ⟨hrow, hkey⟩ := Table.find?_eq_some_iff.mp hfound
        have hnew := (Table.insert_eq_some hinsert).1
        exact absurd (List.mem_map.mpr ⟨row, hrow, hkey⟩) hnew
    · rw [if_neg hexists]
      dsimp only
      rw [run, RoleStatement.apply]
      cases hinsert : s.tables.roleDefinitions.insert (newRole orgId request) with
      | none =>
        rw [newRole] at hinsert
        rw [hinsert]
        rfl
      | some roleDefinitions =>
        rw [newRole] at hinsert
        rw [hinsert]
        rfl

theorem find?_of_customRole {t : OrgTables} {orgId roleName systemRole : String}
    {role : RoleDefinition} (h : customRole t orgId roleName systemRole = .ok role) :
    t.roleDefinitions.find? (orgId, roleName) = some role := by
  rw [customRole] at h
  split at h
  · cases h
  · split at h
    · cases h
    · rename_i found hfound
      split at h
      · cases h
      · rw [hfound, Except.ok.inj h]

theorem run_deleteRole (orgId roleName deletedBy : String) (s : RoleStore) (hids : s.IdsKnown) :
    ((deleteRole orgId roleName deletedBy).program.run RoleStatement.apply s).1.tables =
      (ServiceCall.rbac orgId deletedBy (.deleteRole roleName)).after s.tables := by
  rw [ServiceCall.after, ServiceCall.perform, program, RbacOperation.run, RbacService.deleteRole,
    run_read]
  cases hcustom : customRole s.tables orgId roleName "System roles cannot be deleted" with
  | error e => rfl
  | ok role =>
    dsimp only [bind, Except.bind, pure, Except.pure]
    rw [run_read, checkUnassigned]
    by_cases hheld : membersWithRole s.tables orgId roleName ≠ []
    · rw [if_pos hheld, if_pos hheld]
      rfl
    · have hid : ((orgId, roleName), s.roleId (orgId, roleName)) ∈ s.roleIds := by
        obtain ⟨hrow, hkey⟩ := Table.find?_eq_some_iff.mp (find?_of_customRole hcustom)
        exact hkey ▸ hids role hrow
      rw [if_neg hheld, if_neg hheld]
      dsimp only
      rw [run, RoleStatement.apply, if_pos hid]
      rfl

/-- **A program that runs alone** is the operation. -/
theorem run_program (call : RoleCall) (s : RoleStore) (hbelong : MembersBelong s.tables)
    (hids : s.IdsKnown) :
    (call.program.run RoleStatement.apply s).1.tables = call.toServiceCall.after s.tables := by
  cases call with
  | membership call =>
    have hwrite : ∀ (statement : Statement) (s : RoleStore),
        ((RoleStatement.membership statement).apply s).map RoleStore.org =
          statement.apply s.org := by
      intro statement s
      rw [RoleStatement.apply]
      cases statement.apply s.org with
      | error e => rfl
      | ok org => rfl
    rw [program, RoleStore.tables, run_lift hwrite]
    exact MembershipCall.run_program call s.org hbelong
  | createRole orgId request createdBy id => exact run_createRole orgId request createdBy id s
  | deleteRole orgId roleName deletedBy => exact run_deleteRole orgId roleName deletedBy s hids

end RoleCall

/-! ### Runs -/

namespace RoleStore

/-- Calls that run at the same time. -/
abbrev step : Interleaving RoleStore RoleStatement OrgError →
    InterleavingLabel RoleCall OrgError → Option (Interleaving RoleStore RoleStatement OrgError) :=
  Interleaving.step RoleCall.program RoleStatement.apply

/-- **No role dangles** in any state of a run exactly if the guard of each write holds in the state
in which it is made. -/
theorem no_dangling_iff {s t : Interleaving RoleStore RoleStatement OrgError}
    {labels : List (InterleavingLabel RoleCall OrgError)} (hs : NoDangling s.state.tables)
    (h : exec step s labels = some t) :
    (∀ pre t, pre <+: labels → exec step s pre = some t → NoDangling t.state.tables) ↔
      Along step (fun s label => Interleaving.guarded RoleStatement.guard s label = true) s
        labels :=
  Interleaving.forall_prefix_iff_guarded (I := fun s => NoDangling s.tables)
    (fun _ _ _ hs happly => RoleStatement.noDangling_apply_iff hs happly)
    (fun _ _ _ herror => RoleStatement.guard_of_error herror) hs h

/-- Tables without rows, and nothing that runs. -/
def start : Interleaving RoleStore RoleStatement OrgError := ⟨⟨⟨OrgStore.noTables, []⟩, []⟩, []⟩

def auditor : RoleCreate := ⟨"auditor", none, none, ["audit:read"], 10⟩

/-- Bob creates an organization and a role in it, and Carol comes as a viewer. -/
def organized : List (InterleavingLabel RoleCall OrgError) :=
  [.start (.membership (.createOrganization "org" "bob" "org" "m1")), .step 0, .step 0, .step 0,
    .start (.createRole "org" auditor "bob" "r1"), .step 1, .step 1,
    .start (.membership (.addMember "org" ⟨"carol", .viewer⟩ "bob" "m2")), .step 2, .step 2,
    .step 2]

/-- Carol gets the role while Bob wants to delete it, who is told of her. -/
def assigned : List (InterleavingLabel RoleCall OrgError) :=
  organized ++ [.start (.membership (.assignRole "org" "carol" "auditor" "bob")), .step 3, .step 3,
    .start (.deleteRole "org" "auditor" "bob"), .step 4, .step 3, .step 4]

theorem no_dangling_assigned : NoDangling start.state.tables ∧
    ∀ pre t, pre <+: assigned → exec step start pre = some t → NoDangling t.state.tables :=
  have hstart : NoDangling start.state.tables := by decide
  ⟨hstart, (no_dangling_iff hstart (Option.some_get (by decide)).symm).mpr (by decide)⟩

/-- The role is deleted after it has been looked for, and before it is assigned. -/
theorem deleted_before_assigned :
    ¬ ∀ (s t : Interleaving RoleStore RoleStatement OrgError)
      (labels : List (InterleavingLabel RoleCall OrgError)), NoDangling s.state.tables →
      exec step s labels = some t → NoDangling t.state.tables := by
  intro h
  have hdangles := h start _ (organized ++
    [.start (.membership (.assignRole "org" "carol" "auditor" "bob")), .step 3, .step 3,
      .start (.deleteRole "org" "auditor" "bob"), .step 4, .step 4, .step 4, .step 3])
    (by decide) rfl
  exact absurd hdangles (by decide)

end RoleStore

end OpenLangGraph
