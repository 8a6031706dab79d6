import OpenLangGraph.Services.OrganizationService

/-!
# The RBAC service

The operations of `services/rbac_service.py` that write: role definitions, custom permissions and
the assignment of roles, each as one request alone performs it. An operation returns the tables
afterwards and the users whose cached permissions it invalidates; it says nothing about who may
call it, which is for the endpoints.

## Main definitions

* `createRole`, `updateRole`, `deleteRole`, `updateUserPermissions`, `deleteUserCustomPermissions`,
  `assignRole`
* `RbacOperation`, `RbacOperation.run` — one of them, with its arguments
* `RbacOperation.accepts` — what the operation checks

## Main results

* `RbacOperation.run_isOk` — an operation succeeds if and only if its checks pass
* `assignRole_eq_ok` — a role is assigned to a member, whatever the role is and was
-/

namespace OpenLangGraph

/-- `RoleCreate` -/
structure RoleCreate where
  name : String
  displayName : Option String
  description : Option String
  permissions : List String
  priority : ℕ

/-- `RoleUpdate` -/
structure RoleUpdate where
  displayName : Option String
  description : Option String
  permissions : Option (List String)
  priority : Option ℕ

/-- `UserPermissionGrant` -/
structure UserPermissionGrant where
  grantedPermissions : List String
  deniedPermissions : List String
  expiresAt : Option ℕ
  reason : Option String

namespace RbacService

/-- The tables after an operation, and whose cached permissions are invalidated. -/
abbrev Outcome := Except OrgError (OrgTables × List String)

/-- `get_role(…) is not None` -/
def roleExists (t : OrgTables) (orgId roleName : String) : Bool :=
  isSystemRole roleName || (t.roleDefinitions.find? (orgId, roleName)).isSome

/-- The users for whom `invalidate_role_cache` deletes the entry. -/
def membersWithRole (t : OrgTables) (orgId roleName : String) : List String :=
  (t.members.rows.filter fun member => member.orgId = orgId && member.role = roleName).map
    Member.userId

/-- `name.replace("_", " ").title()`, for the characters that a role name may have. -/
def titleCase (name : String) : String :=
  let rec go : Bool → List Char → List Char
    | _, [] => []
    | _, '_' :: cs => ' ' :: go false cs
    | afterLetter, c :: cs => (if afterLetter then c else c.toUpper) :: go c.isAlpha cs
  String.ofList (go false name.toList)

/-- `display_name or …` -/
def shownName (request : RoleCreate) : String :=
  match request.displayName with
  | none | some "" => titleCase request.name
  | some displayName => displayName

/-- `create_role` -/
def createRole (t : OrgTables) (orgId : String) (request : RoleCreate) : Outcome :=
  if isSystemRole request.name then
    .error (.httpException 409 ("Role name '" ++ request.name ++ "' conflicts with system role"))
  else
    match t.roleDefinitions.insert
        { orgId, name := request.name, displayName := some (shownName request)
          description := request.description, permissions := request.permissions
          isSystem := false, priority := request.priority } with
    | none => .error
      (.httpException 409 ("Role '" ++ request.name ++ "' already exists in organization"))
    | some roleDefinitions => .ok ({ t with roleDefinitions }, [])

/-- The role definition that `update_role` and `delete_role` work on. -/
def customRole (t : OrgTables) (orgId roleName systemRole : String) :
    Except OrgError RoleDefinition :=
  if isSystemRole roleName then .error (.httpException 403 systemRole)
  else
    match t.roleDefinitions.find? (orgId, roleName) with
    | none => .error (.httpException 404 ("Role '" ++ roleName ++ "' not found"))
    | some role => if role.isSystem then .error (.httpException 403 systemRole) else .ok role

/-- The row with the fields of the request. -/
def RoleUpdate.apply (request : RoleUpdate) (role : RoleDefinition) : RoleDefinition :=
  { role with
    displayName := request.displayName.or role.displayName
    description := request.description.or role.description
    permissions := request.permissions.getD role.permissions
    priority := request.priority.getD role.priority }

/-- `update_role` -/
def updateRole (t : OrgTables) (orgId roleName : String) (request : RoleUpdate) : Outcome :=
  (customRole t orgId roleName "System roles cannot be modified").map fun _ =>
    let roleDefinitions := t.roleDefinitions.updateIf (·.key = (orgId, roleName))
      (RoleUpdate.apply request) fun _ => rfl
    ({ t with roleDefinitions }, membersWithRole t orgId roleName)

/-- `delete_role` -/
def deleteRole (t : OrgTables) (orgId roleName : String) : Outcome := do
  let _ ← customRole t orgId roleName "System roles cannot be deleted"
  let membersWithRole := membersWithRole t orgId roleName
  if membersWithRole ≠ [] then
    .error (.httpException 409 ("Cannot delete role '" ++ roleName ++ "': " ++
      toString membersWithRole.length ++ " members assigned"))
  else
    .ok ({ t with roleDefinitions := t.roleDefinitions.deleteIf (·.key = (orgId, roleName)) },
      membersWithRole)

/-- The row that `update_user_permissions` writes. -/
def grantRow (orgId userId grantedBy : String) (request : UserPermissionGrant) :
    CustomPermissions :=
  { userId, orgId, grantedPermissions := request.grantedPermissions
    deniedPermissions := request.deniedPermissions, grantedBy
    expiresAt := request.expiresAt, reason := request.reason }

/-- `update_user_permissions` -/
def updateUserPermissions (t : OrgTables) (orgId userId : String) (request : UserPermissionGrant)
    (grantedBy : String) : Outcome :=
  let row := grantRow orgId userId grantedBy request
  match t.customPermissions.insert row with
  | some customPermissions => .ok ({ t with customPermissions }, [userId])
  | none =>
    let customPermissions := t.customPermissions.updateIf (·.key = (orgId, userId))
      (fun old => { row with userId := old.userId, orgId := old.orgId }) fun _ => rfl
    .ok ({ t with customPermissions }, [userId])

/-- `delete_user_custom_permissions` -/
def deleteUserCustomPermissions (t : OrgTables) (orgId userId : String) : Outcome :=
  if (t.customPermissions.find? (orgId, userId)).isSome then
    let customPermissions := t.customPermissions.deleteIf (·.key = (orgId, userId))
    .ok ({ t with customPermissions }, [userId])
  else .ok (t, [])

/-- The `UPDATE` of `assign_role`, which is by the id of the row. -/
def setRoleOf (t : OrgTables) (member : Member) (role : String) : OrgTables :=
  { t with
    members := t.members.updateIf (fun row => row.key = member.key && row.id = member.id)
      ({ · with role }) (Member.key_role role) }

/-- `assign_role` -/
def assignRole (t : OrgTables) (orgId userId roleName : String) : Outcome :=
  if roleExists t orgId roleName then
    match t.member? orgId userId with
    | none => .error (.httpException 404 ("User '" ++ userId ++ "' not a member of organization"))
    | some member => .ok (setRoleOf t member roleName, [userId])
  else .error (.httpException 404 ("Role '" ++ roleName ++ "' not found"))

/-- A role is assigned to a member, whatever the role is and was. -/
theorem assignRole_eq_ok {t t' : OrgTables} {orgId userId roleName : String}
    {invalidated : List String} (h : assignRole t orgId userId roleName = .ok (t', invalidated)) :
    roleExists t orgId roleName = true ∧ ∃ member, t.member? orgId userId = some member ∧
      t' = setRoleOf t member roleName ∧ invalidated = [userId] := by
  rw [assignRole] at h
  split at h
  · rename_i hexists
    split at h
    · cases h
    · rename_i member hmember
      cases h
      exact ⟨hexists, member, hmember, rfl, rfl⟩
  · cases h

theorem mem_setRoleOf {t : OrgTables} {role : String} {old member : Member}
    (h : member ∈ (setRoleOf t old role).members.rows) :
    member ∈ t.members.rows ∨ member.role = role := by
  have hf : ∀ row : Member, ({ row with role } : Member).key = row.key := fun _ => rfl
  rcases Table.mem_updateIf hf h with hold | ⟨old, -, -, rfl⟩
  · exact .inl hold
  · exact .inr rfl

/-! ### The operations together -/

end RbacService

open RbacService

/-- A writing operation with its arguments. -/
inductive RbacOperation
  | createRole (request : RoleCreate)
  | updateRole (roleName : String) (request : RoleUpdate)
  | deleteRole (roleName : String)
  | updateUserPermissions (userId : String) (request : UserPermissionGrant)
  | deleteUserCustomPermissions (userId : String)
  | assignRole (userId roleName : String)

namespace RbacOperation

def run (t : OrgTables) (orgId requester : String) : RbacOperation → RbacService.Outcome
  | .createRole request => RbacService.createRole t orgId request
  | .updateRole roleName request => RbacService.updateRole t orgId roleName request
  | .deleteRole roleName => RbacService.deleteRole t orgId roleName
  | .updateUserPermissions userId request =>
    RbacService.updateUserPermissions t orgId userId request requester
  | .deleteUserCustomPermissions userId => RbacService.deleteUserCustomPermissions t orgId userId
  | .assignRole userId roleName => RbacService.assignRole t orgId userId roleName

/-- A role definition that may be changed. -/
def isCustomRole (t : OrgTables) (orgId roleName : String) : Bool :=
  !isSystemRole roleName &&
    (t.roleDefinitions.find? (orgId, roleName)).any fun role => !role.isSystem

/-- What the operation checks about the roles and members of the organization. -/
def accepts (t : OrgTables) (orgId : String) : RbacOperation → Bool
  | .createRole request =>
    !isSystemRole request.name &&
      (orgId, request.name) ∉ t.roleDefinitions.rows.map RoleDefinition.key
  | .updateRole roleName _ => isCustomRole t orgId roleName
  | .deleteRole roleName => isCustomRole t orgId roleName && membersWithRole t orgId roleName = []
  | .updateUserPermissions _ _ => true
  | .deleteUserCustomPermissions _ => true
  | .assignRole userId roleName => roleExists t orgId roleName && (t.member? orgId userId).isSome

theorem customRole_isOk (t : OrgTables) (orgId roleName systemRole : String) :
    (customRole t orgId roleName systemRole).isOk = isCustomRole t orgId roleName := by
  rw [customRole, isCustomRole]
  by_cases hsystem : isSystemRole roleName = true
  · rw [if_pos hsystem, hsystem]
    rfl
  · rw [if_neg hsystem, Bool.not_eq_true] at *
    rw [hsystem]
    cases t.roleDefinitions.find? (orgId, roleName) with
    | none => rfl
    | some role => cases hrole : role.isSystem <;> simp [hrole, Except.isOk, Except.toBool]

/-- An operation succeeds if and only if its checks pass. -/
theorem run_isOk (t : OrgTables) (orgId requester : String) (operation : RbacOperation) :
    (operation.run t orgId requester).isOk = operation.accepts t orgId := by
  cases operation with
  | createRole request =>
    rw [run, accepts, RbacService.createRole]
    by_cases hsystem : isSystemRole request.name = true
    · rw [if_pos hsystem, hsystem]
      rfl
    · rw [if_neg hsystem, Bool.not_eq_true] at *
      rw [hsystem, Table.insert]
      by_cases hnew : (orgId, request.name) ∈ t.roleDefinitions.rows.map RoleDefinition.key
      · rw [dif_pos (by exact hnew)]
        simp [hnew, Except.isOk, Except.toBool]
      · rw [dif_neg (by exact hnew)]
        simp [hnew, Except.isOk, Except.toBool]
  | updateRole roleName request =>
    rw [run, accepts, RbacService.updateRole, ← customRole_isOk t orgId roleName]
    cases customRole t orgId roleName "System roles cannot be modified" <;> rfl
  | deleteRole roleName =>
    rw [run, accepts, RbacService.deleteRole, ← customRole_isOk t orgId roleName]
    cases customRole t orgId roleName "System roles cannot be deleted" with
    | error e => rfl
    | ok role =>
      show (if membersWithRole t orgId roleName ≠ [] then _ else _ : RbacService.Outcome).isOk = _
      by_cases hmembers : membersWithRole t orgId roleName = []
      · rw [if_neg (not_not.mpr hmembers)]
        simp [hmembers, Except.isOk, Except.toBool]
      · rw [if_pos hmembers]
        simp [hmembers, Except.isOk, Except.toBool]
  | updateUserPermissions userId request =>
    rw [run, accepts, RbacService.updateUserPermissions]
    cases t.customPermissions.insert (grantRow orgId userId requester request) <;> rfl
  | deleteUserCustomPermissions userId =>
    rw [run, accepts, RbacService.deleteUserCustomPermissions]
    split <;> rfl
  | assignRole userId roleName =>
    rw [run, accepts, RbacService.assignRole]
    cases hexists : roleExists t orgId roleName with
    | false => rfl
    | true => cases t.member? orgId userId <;> rfl

/-- Only the assignment of a role writes the members. -/
theorem members_run {t t' : OrgTables} {orgId requester : String} {operation : RbacOperation}
    {invalidated : List String} (h : operation.run t orgId requester = .ok (t', invalidated)) :
    t'.members = t.members ∨ ∃ userId roleName, operation = .assignRole userId roleName ∧
      RbacService.assignRole t orgId userId roleName = .ok (t', invalidated) := by
  cases operation with
  | createRole request =>
    rw [run, RbacService.createRole] at h
    split at h
    · cases h
    · split at h
      · cases h
      · cases h
        exact .inl rfl
  | updateRole roleName request =>
    rw [run, RbacService.updateRole] at h
    cases hrole : customRole t orgId roleName "System roles cannot be modified" with
    | error e =>
      rw [hrole] at h
      cases h
    | ok role =>
      rw [hrole] at h
      cases h
      exact .inl rfl
  | deleteRole roleName =>
    obtain ⟨_, -, h⟩ := OrganizationService.bind_eq_ok.mp h
    dsimp only at h
    split at h
    · cases h
    · cases h
      exact .inl rfl
  | updateUserPermissions userId request =>
    rw [run, RbacService.updateUserPermissions] at h
    dsimp only at h
    split at h <;> cases h <;> exact .inl rfl
  | deleteUserCustomPermissions userId =>
    rw [run, RbacService.deleteUserCustomPermissions] at h
    split at h <;> cases h <;> exact .inl rfl
  | assignRole userId roleName => exact .inr ⟨userId, roleName, rfl, h⟩

end RbacOperation

end OpenLangGraph
