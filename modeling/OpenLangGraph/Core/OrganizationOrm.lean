import OpenLangGraph.Foundation.Table

/-!
# Organizations and their members

The rows of `core/orm.py` that organizations and access control are about, and the two vocabularies
of roles: the enum `OrganizationRole` of `models/organization.py`, and the system roles of
`models/rbac.py`. Timestamps, settings and metadata are left out.

## Two vocabularies

The column `organization_member.role` is text. One reader converts it to the enum, and another
looks it up among the system roles and the role definitions of the organization. The names `owner`,
`admin` and `viewer` are in both; `member` is in the enum alone, and `developer` and `api_user` are
system roles alone.

## Main definitions

* `OrganizationRole`, `systemRoles`
* `OrgTables` — the four tables, with their unique keys
-/

namespace OpenLangGraph

/-! ### Roles -/

inductive OrganizationRole
  | owner
  | admin
  | member
  | viewer
deriving DecidableEq

namespace OrganizationRole

/-- `role.value` -/
def value : OrganizationRole → String
  | .owner => "owner"
  | .admin => "admin"
  | .member => "member"
  | .viewer => "viewer"

/-- `list(OrganizationRole)` -/
def all : List OrganizationRole := [.owner, .admin, .member, .viewer]

/-- `OrganizationRole(role)`; `none` is the `ValueError`. -/
def ofValue (role : String) : Option OrganizationRole := all.find? (·.value = role)

theorem ofValue_value (role : OrganizationRole) : ofValue role.value = some role := by
  cases role <;> decide

theorem value_of_ofValue {name : String} {role : OrganizationRole} (h : ofValue name = some role) :
    role.value = name := by
  simpa using List.find?_some h

theorem value_ne_empty (role : OrganizationRole) : role.value ≠ "" := by
  cases role <;> decide

end OrganizationRole

/-- `SYSTEM_ROLES`, as far as permissions are resolved with it. -/
def systemRoles : List (String × List String) :=
  [("owner", ["*"]),
    ("admin", ["assistants:*", "threads:*", "runs:*", "store:*", "crons:*", "organization:read",
      "organization:update", "organization:manage_members", "audit:read", "audit:export",
      "quotas:read", "quotas:update", "api_keys:*"]),
    ("developer", ["assistants:*", "threads:*", "runs:*", "store:read", "store:write", "crons:*",
      "organization:read", "quotas:read"]),
    ("viewer", ["assistants:read", "threads:read", "runs:read", "store:read", "crons:read",
      "organization:read", "quotas:read"]),
    ("api_user", ["assistants:read", "threads:read", "threads:write", "runs:read", "runs:create",
      "store:read", "store:write"])]

/-- `role_name in SYSTEM_ROLES` -/
def isSystemRole (roleName : String) : Bool := systemRoles.any (·.1 = roleName)

theorem isSystemRole_eq_false {roleName : String} (h : systemRoles.lookup roleName = none) :
    isSystemRole roleName = false := by
  rw [List.lookup_eq_none_iff] at h
  rw [isSystemRole, List.any_eq_false]
  intro entry hentry heq
  have hne := h entry hentry
  rw [of_decide_eq_true heq, bne_self_eq_false] at hne
  cases hne

/-! ### Rows -/

/-- A row of `organization`. -/
structure Organization where
  orgId : String
  slug : String
deriving DecidableEq

/-- A row of `organization_member`. -/
structure Member where
  id : String
  orgId : String
  userId : String
  role : String
  invitedBy : Option String
deriving DecidableEq

def Member.key (member : Member) : String × String := (member.orgId, member.userId)

theorem Member.key_role (role : String) (member : Member) :
    Member.key { member with role } = member.key := rfl

/-- The member holds the role `owner` of the organization. -/
def Member.owns (orgId : String) (member : Member) : Bool :=
  member.orgId = orgId && member.role = "owner"

/-- A row of `role_definitions`. No code writes a row without an organization. -/
structure RoleDefinition where
  orgId : String
  name : String
  displayName : Option String
  description : Option String
  permissions : List String
  isSystem : Bool
  priority : ℕ
deriving DecidableEq

def RoleDefinition.key (role : RoleDefinition) : String × String := (role.orgId, role.name)

/-- A row of `user_custom_permissions`. -/
structure CustomPermissions where
  userId : String
  orgId : String
  grantedPermissions : List String
  deniedPermissions : List String
  grantedBy : String
  expiresAt : Option ℕ
  reason : Option String
deriving DecidableEq

def CustomPermissions.key (row : CustomPermissions) : String × String := (row.orgId, row.userId)

/-- The four tables, with their unique keys. -/
structure OrgTables where
  organizations : Table Organization.orgId
  members : Table Member.key
  roleDefinitions : Table RoleDefinition.key
  customPermissions : Table CustomPermissions.key

namespace OrgTables

/-- The member with this organization and user. -/
def member? (t : OrgTables) (orgId userId : String) : Option Member :=
  t.members.find? (orgId, userId)

/-- `select(func.count()).where(org_id == …, role == 'owner')` -/
def ownerCount (t : OrgTables) (orgId : String) : ℕ := t.members.rows.countP (·.owns orgId)

theorem member?_eq_some_iff {t : OrgTables} {orgId userId : String} {member : Member} :
    t.member? orgId userId = some member ↔
      member ∈ t.members.rows ∧ member.orgId = orgId ∧ member.userId = userId := by
  rw [member?, Table.find?_eq_some_iff, Member.key, Prod.mk.injEq]

end OrgTables

end OpenLangGraph
