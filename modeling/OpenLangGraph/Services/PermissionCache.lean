import OpenLangGraph.Foundation.PyString
import OpenLangGraph.Foundation.Transition
import OpenLangGraph.Foundation.TtlCache
import OpenLangGraph.Services.PermissionService
import OpenLangGraph.Services.ServiceCalls

/-!
# The permission cache

`get_effective_permissions` of `services/permission_service.py` reads the permissions of a user in
an organization through a cache. Here is a history of permission checks, completed calls of the
organization and the RBAC service, and the passing of time, counted in microseconds.

## Who invalidates

The operations of the RBAC service that change a member, a role definition or a custom permission
delete the entries of the users concerned. Three things change what an entry says without
deleting it: the operations of the organization service, the creation of a role whose name a member
already has, and the expiry of a custom permission.

## Main definitions

* `getEffectivePermissions`, `checkPermission`
* `PermissionState`, `PermissionLabel`, `step` — a history
* `ServiceCall.agreesWith` — a call does not change what an entry says
* `keepsCoherent` — the condition on a step

## Main results

* `effectivePermissions_perform` — what a call can change, and for whom
* `check_coherent` — a check returns what it would return with an empty cache
* `demoted_owner` — a check that does not
-/

namespace OpenLangGraph

open Transition

/-- `UserEffectivePermissions` -/
structure UserEffectivePermissions where
  userId : String
  orgId : String
  role : String
  rolePermissions : List String
  customGranted : List String
  customDenied : List String
  effectivePermissions : List String
deriving DecidableEq

namespace PermissionService

/-! ### Without the cache -/

/-- `_get_user_role` -/
def getUserRole (t : OrgTables) (userId orgId : String) : String :=
  match t.member? orgId userId with
  | none => "viewer"
  | some member => if member.role = "" then "viewer" else member.role

/-- `SYSTEM_ROLES.get("viewer", {}).get("permissions", [])` -/
def viewerPermissions : List String := (systemRoles.lookup "viewer").getD []

/-- `list(row) if row else …`, for the permissions of a role definition. -/
def orViewer (permissions : List String) : List String :=
  if permissions = [] then viewerPermissions else permissions

/-- `_get_role_permissions` -/
def getRolePermissions (t : OrgTables) (orgId roleName : String) : List String :=
  match systemRoles.lookup roleName with
  | some permissions => permissions
  | none =>
    match t.roleDefinitions.find? (orgId, roleName) with
    | none => viewerPermissions
    | some role => orViewer role.permissions

/-- `row.expires_at and row.expires_at <= now` -/
def hasExpired (row : CustomPermissions) (now : ℕ) : Bool := row.expiresAt.any (· ≤ now)

/-- `_get_custom_permissions` -/
def getCustomPermissions (t : OrgTables) (now : ℕ) (userId orgId : String) :
    List String × List String :=
  match t.customPermissions.find? (orgId, userId) with
  | none => ([], [])
  | some row =>
    if hasExpired row now then ([], []) else (row.grantedPermissions, row.deniedPermissions)

/-- The result of `get_effective_permissions` when nothing is cached. -/
def effectivePermissions (t : OrgTables) (now : ℕ) (userId orgId : String) :
    UserEffectivePermissions :=
  let role := getUserRole t userId orgId
  let rolePermissions := getRolePermissions t orgId role
  let custom := getCustomPermissions t now userId orgId
  { userId, orgId, role, rolePermissions, customGranted := custom.1, customDenied := custom.2
    effectivePermissions := resolvePermissions rolePermissions custom.1 custom.2 }

/-! ### With the cache -/

/-- `f"{self.CACHE_PREFIX}:user:{user_id}:org:{org_id}"` -/
def cacheKey (userId orgId : String) : String := "perms:user:" ++ userId ++ ":org:" ++ orgId

/-- `CACHE_TTL` -/
def cacheTtl : ℕ := 300 * 1000000

structure PermissionState where
  tables : OrgTables
  cache : TtlCache String UserEffectivePermissions
  now : ℕ

/-- `get_effective_permissions` -/
def getEffectivePermissions (s : PermissionState) (userId orgId : String) :
    PermissionState × UserEffectivePermissions :=
  let read := s.cache.readThrough s.now cacheTtl (cacheKey userId orgId)
    (effectivePermissions s.tables s.now userId orgId)
  ({ s with cache := read.1 }, read.2)

/-- `check_permission` -/
def checkPermission (s : PermissionState) (userId orgId required : String) :
    PermissionState × Bool :=
  let read := getEffectivePermissions s userId orgId
  (read.1, matchesPermission required read.2.effectivePermissions)

/-- What happens in a history. -/
inductive PermissionLabel
  | check (userId orgId required : String)
  | call (call : ServiceCall)
  | tick (elapsed : ℕ)

/-- A call has completed: its tables are committed, and the entries that it invalidates deleted. -/
def afterCall (s : PermissionState) (call : ServiceCall) : PermissionState :=
  match call.perform s.tables with
  | .error _ => s
  | .ok (tables, invalidated) =>
    { s with
      tables
      cache := s.cache.deleteAll (invalidated.map fun pair => cacheKey pair.2 pair.1) }

def step (s : PermissionState) : PermissionLabel → Option PermissionState
  | .check userId orgId required => some (checkPermission s userId orgId required).1
  | .call call => some (afterCall s call)
  | .tick elapsed => some { s with now := s.now + elapsed }

end PermissionService

open PermissionService OrganizationService RbacService

/-- What the call writes agrees with what an entry says, for a call after which the entry stays. -/
def ServiceCall.agreesWith (v : UserEffectivePermissions) : ServiceCall → Bool
  | .createOrganization _ userIdentity orgId _ =>
    decide (v.orgId = orgId → v.userId = userIdentity → v.role = "owner")
  | .deleteOrganization orgId _ =>
    decide (v.orgId = orgId → v.role = "viewer" ∧ v.customGranted = [] ∧ v.customDenied = [])
  | .addMember orgId request _ _ =>
    decide (v.orgId = orgId → v.userId = request.userId → v.role = request.role.value)
  | .updateMemberRole orgId userId newRole _ =>
    decide (v.orgId = orgId → v.userId = userId → v.role = newRole.value)
  | .removeMember orgId userId _ =>
    decide (v.orgId = orgId → v.userId = userId → v.role = "viewer")
  | .rbac orgId _ (.createRole request) =>
    decide (v.orgId = orgId → v.role = request.name →
      v.rolePermissions = orViewer request.permissions)
  | .rbac _ _ _ => true

namespace PermissionService

/-! ### What a call can change -/

variable {t t' : OrgTables} {now : ℕ} {userId orgId : String}

theorem effectivePermissions_congr {now' : ℕ}
    (hrole : getUserRole t' userId orgId = getUserRole t userId orgId)
    (hpermissions : getRolePermissions t' orgId (getUserRole t userId orgId) =
      getRolePermissions t orgId (getUserRole t userId orgId))
    (hcustom : getCustomPermissions t' now' userId orgId =
      getCustomPermissions t now userId orgId) :
    effectivePermissions t' now' userId orgId = effectivePermissions t now userId orgId := by
  simp only [effectivePermissions, hrole, hpermissions, hcustom]

theorem getUserRole_congr (h : t'.member? orgId userId = t.member? orgId userId) :
    getUserRole t' userId orgId = getUserRole t userId orgId := by
  rw [getUserRole, h, getUserRole]

theorem getUserRole_of_member {member : Member} (h : t.member? orgId userId = some member)
    (hrole : member.role ≠ "") : getUserRole t userId orgId = member.role := by
  rw [getUserRole, h]
  exact if_neg hrole

/-- A new member whose role the user has already. -/
theorem getUserRole_insert {member : Member} {members : Table Member.key}
    (hinsert : t.members.insert member = some members) (hne : member.role ≠ "")
    (hrole : orgId = member.orgId → userId = member.userId →
      getUserRole t userId orgId = member.role) :
    getUserRole { t with members } userId orgId = getUserRole t userId orgId := by
  have hfind : OrgTables.member? { t with members } orgId userId =
      if (orgId, userId) = member.key then some member else t.member? orgId userId :=
    Table.find?_insert hinsert (orgId, userId)
  by_cases hkey : (orgId, userId) = member.key
  · rw [if_pos hkey] at hfind
    obtain ⟨horg, huser⟩ := Prod.mk.inj hkey
    rw [getUserRole_of_member hfind hne, hrole horg huser]
  · rw [if_neg hkey] at hfind
    exact getUserRole_congr hfind

/-- Another role, which the user has already. -/
theorem getUserRole_setRole {org user role : String} (hne : role ≠ "")
    (hrole : orgId = org → userId = user → getUserRole t userId orgId = role) :
    getUserRole (setRole t org user role) userId orgId = getUserRole t userId orgId := by
  by_cases hkey : (orgId, userId) = (org, user)
  · obtain ⟨horg, huser⟩ := Prod.mk.inj hkey
    have hfind : (setRole t org user role).member? orgId userId =
        (t.member? orgId userId).map fun row =>
          if decide (row.key = (org, user)) = true then { row with role } else row :=
      Table.find?_updateIf (Member.key_role role) (orgId, userId)
    cases hmember : t.member? orgId userId with
    | none =>
      rw [hmember] at hfind
      exact getUserRole_congr (hfind.trans hmember.symm)
    | some member =>
      have hmkey : member.key = (org, user) := (Table.find?_eq_some_iff.mp hmember).2.trans hkey
      rw [hmember, Option.map_some, if_pos (decide_eq_true hmkey)] at hfind
      rw [getUserRole_of_member hfind hne, hrole horg huser]
  · exact getUserRole_congr (Table.find?_updateIf_of_ne (Member.key_role role) hkey)

/-- The role of another user is assigned. -/
theorem getUserRole_setRoleOf {member : Member} {role : String}
    (hother : (orgId, userId) ≠ member.key) :
    getUserRole (setRoleOf t member role) userId orgId = getUserRole t userId orgId := by
  refine getUserRole_congr (Table.find?_updateIf_of_not (Member.key_role role) fun row hrow => ?_)
  rw [decide_eq_false (hrow ▸ hother), Bool.false_and]

/-- A member who counts as a viewer is removed, or another user. -/
theorem getUserRole_deleteMember {org user : String} {member : Member}
    (hmember : t.member? org user = some member)
    (hrole : orgId = org → userId = user → getUserRole t userId orgId = "viewer") :
    getUserRole (deleteMember t member) userId orgId = getUserRole t userId orgId := by
  by_cases hkey : (orgId, userId) = (org, user)
  · obtain ⟨rfl, rfl⟩ := Prod.mk.inj hkey
    have hfind : (deleteMember t member).member? orgId userId =
        (t.member? orgId userId).filter fun row => !(row.key = member.key && row.id = member.id) :=
      Table.find?_deleteIf (orgId, userId)
    rw [hmember, Option.filter_some, if_neg (by simp)] at hfind
    rw [hrole rfl rfl, getUserRole, hfind]
  · have hmkey : member.key = (org, user) := (Table.find?_eq_some_iff.mp hmember).2
    refine getUserRole_congr (Table.find?_deleteIf_of_not fun row hrow => ?_)
    rw [decide_eq_false (by rw [hrow, hmkey]; exact hkey), Bool.false_and]

/-- Only the role definition of the name is read. -/
theorem getRolePermissions_congr {roleName : String}
    (h : isSystemRole roleName = false → t'.roleDefinitions.find? (orgId, roleName) =
      t.roleDefinitions.find? (orgId, roleName)) :
    getRolePermissions t' orgId roleName = getRolePermissions t orgId roleName := by
  rw [getRolePermissions, getRolePermissions]
  cases hsystem : systemRoles.lookup roleName with
  | some permissions => rfl
  | none => rw [h (isSystemRole_eq_false hsystem)]

/-- A new role definition, whose permissions its members have already. -/
theorem getRolePermissions_insert {roleName : String} {role : RoleDefinition}
    {roleDefinitions : Table RoleDefinition.key}
    (hinsert : t.roleDefinitions.insert role = some roleDefinitions)
    (hpermissions : orgId = role.orgId → roleName = role.name →
      getRolePermissions t orgId roleName = orViewer role.permissions) :
    getRolePermissions { t with roleDefinitions } orgId roleName =
      getRolePermissions t orgId roleName := by
  have hfind : roleDefinitions.find? (orgId, roleName) =
      if (orgId, roleName) = role.key then some role
      else t.roleDefinitions.find? (orgId, roleName) :=
    Table.find?_insert hinsert (orgId, roleName)
  by_cases hkey : (orgId, roleName) = role.key
  · rw [if_pos hkey] at hfind
    obtain ⟨horg, hname⟩ := Prod.mk.inj hkey
    rw [hpermissions horg hname]
    have hbefore := hpermissions horg hname
    rw [getRolePermissions] at hbefore ⊢
    cases hsystem : systemRoles.lookup roleName with
    | some permissions =>
      rw [hsystem] at hbefore
      exact hbefore
    | none => simp only [hfind]
  · rw [if_neg hkey] at hfind
    exact getRolePermissions_congr fun _ => hfind

/-- Only the custom permissions of the user are read. -/
theorem getCustomPermissions_congr
    (h : t'.customPermissions.find? (orgId, userId) = t.customPermissions.find? (orgId, userId)) :
    getCustomPermissions t' now userId orgId = getCustomPermissions t now userId orgId := by
  rw [getCustomPermissions, h, getCustomPermissions]

/-- A user with a role that is not a system role is a member with that role. -/
theorem mem_membersWithRole {roleName : String} (horg : getUserRole t userId orgId = roleName)
    (hsystem : isSystemRole roleName = false) : userId ∈ membersWithRole t orgId roleName := by
  subst horg
  rw [getUserRole] at hsystem ⊢
  cases hmember : t.member? orgId userId with
  | none =>
    rw [hmember] at hsystem
    exact absurd hsystem (by decide)
  | some member =>
    rw [hmember] at hsystem
    by_cases hrole : member.role = ""
    · simp only [hrole, if_true] at hsystem
      exact absurd hsystem (by decide)
    · obtain ⟨hmem, horg, huser⟩ := OrgTables.member?_eq_some_iff.mp hmember
      simp only [if_neg hrole]
      exact List.mem_map.mpr ⟨member, List.mem_filter.mpr ⟨hmem, by simp [horg]⟩, huser⟩

/-- A user whose entry is kept is not one of those whose entries are deleted. -/
theorem key_ne_of_kept {org user : String} {invalidated : List String}
    (hkept : orgId = org → userId ∉ invalidated) (huser : user ∈ invalidated) :
    (orgId, userId) ≠ (org, user) := by
  intro hkey
  obtain ⟨horg, rfl⟩ := Prod.mk.inj hkey
  exact hkept horg huser

/-- What an operation of the RBAC service changes for a user whose entry it does not delete. -/
theorem effectivePermissions_rbac {org requester : String} {operation : RbacOperation}
    {invalidated : List String} (h : operation.run t org requester = .ok (t', invalidated))
    (hkept : orgId = org → userId ∉ invalidated)
    (hagrees : ServiceCall.agreesWith (effectivePermissions t now userId orgId)
      (.rbac org requester operation) = true) :
    effectivePermissions t' now userId orgId = effectivePermissions t now userId orgId := by
  cases operation with
  | createRole request =>
    rw [RbacOperation.run, createRole] at h
    split at h
    · cases h
    · split at h
      · cases h
      · rename_i roleDefinitions hinsert
        cases h
        exact effectivePermissions_congr rfl
          (getRolePermissions_insert hinsert (of_decide_eq_true hagrees)) rfl
  | updateRole roleName request =>
    obtain ⟨role, hrole, hresult⟩ := ServiceCall.map_eq_ok h
    cases hresult
    refine effectivePermissions_congr rfl (getRolePermissions_congr fun hsystem => ?_) rfl
    refine Table.find?_updateIf_of_ne (by intro; rfl) fun hkey => ?_
    obtain ⟨horg, hname⟩ := Prod.mk.inj hkey
    subst horg hname
    exact hkept rfl (mem_membersWithRole rfl hsystem)
  | deleteRole roleName =>
    obtain ⟨role, hrole, hrest⟩ := bind_eq_ok.mp h
    dsimp only at hrest
    split at hrest
    · cases hrest
    · rename_i hnone
      cases hrest
      refine effectivePermissions_congr rfl (getRolePermissions_congr fun hsystem => ?_) rfl
      refine Table.find?_deleteIf_of_ne fun hkey => ?_
      obtain ⟨horg, hname⟩ := Prod.mk.inj hkey
      subst horg hname
      have hmember := mem_membersWithRole rfl hsystem
      rw [not_not.mp hnone] at hmember
      cases hmember
  | updateUserPermissions user request =>
    rw [RbacOperation.run, updateUserPermissions] at h
    dsimp only at h
    split at h
    · rename_i customPermissions hinsert
      cases h
      refine effectivePermissions_congr rfl rfl (getCustomPermissions_congr ?_)
      exact (Table.find?_insert hinsert (orgId, userId)).trans
        (if_neg (key_ne_of_kept hkept (List.mem_singleton_self user)))
    · cases h
      refine effectivePermissions_congr rfl rfl (getCustomPermissions_congr ?_)
      exact Table.find?_updateIf_of_ne (by intro; rfl)
        (key_ne_of_kept hkept (List.mem_singleton_self user))
  | deleteUserCustomPermissions user =>
    rw [RbacOperation.run, deleteUserCustomPermissions] at h
    split at h
    · cases h
      refine effectivePermissions_congr rfl rfl (getCustomPermissions_congr ?_)
      exact Table.find?_deleteIf_of_ne (key_ne_of_kept hkept (List.mem_singleton_self user))
    · cases h
      rfl
  | assignRole user roleName =>
    obtain ⟨-, member, hmember, rfl, rfl⟩ := assignRole_eq_ok h
    refine effectivePermissions_congr (getUserRole_setRoleOf ?_) rfl rfl
    rw [(Table.find?_eq_some_iff.mp hmember).2]
    exact key_ne_of_kept hkept (List.mem_singleton_self user)

theorem effectivePermissions_deleteOrganization {org user : String}
    (h : deleteOrganization t org user = .ok t')
    (hagrees : ServiceCall.agreesWith (effectivePermissions t now userId orgId)
      (.deleteOrganization org user) = true) :
    effectivePermissions t' now userId orgId = effectivePermissions t now userId orgId := by
  obtain rfl := deleteOrganization_eq_ok h
  by_cases horg : orgId = org
  · obtain ⟨hrole, hgranted, hdenied⟩ : getUserRole t userId orgId = "viewer" ∧
        (getCustomPermissions t now userId orgId).1 = [] ∧
        (getCustomPermissions t now userId orgId).2 = [] := of_decide_eq_true hagrees horg
    have hcustom : getCustomPermissions t now userId orgId = ([], []) := Prod.ext hgranted hdenied
    have hmembers : (t.members.deleteIf (·.orgId = org)).find? (orgId, userId) = none :=
      Table.find?_deleteIf_of_all fun row hrow =>
        decide_eq_true ((congrArg Prod.fst hrow).trans horg)
    have hrows : (t.customPermissions.deleteIf (·.orgId = org)).find? (orgId, userId) = none :=
      Table.find?_deleteIf_of_all fun row hrow =>
        decide_eq_true ((congrArg Prod.fst hrow).trans horg)
    refine effectivePermissions_congr ?_ (getRolePermissions_congr fun hsystem => ?_) ?_
    · rw [hrole, getUserRole, OrgTables.member?, hmembers]
    · rw [hrole] at hsystem
      exact absurd hsystem (by decide)
    · rw [hcustom, getCustomPermissions, hrows]
  · refine effectivePermissions_congr (getUserRole_congr ?_)
      (getRolePermissions_congr fun _ => ?_) (getCustomPermissions_congr ?_)
    all_goals
      refine Table.find?_deleteIf_of_not fun row hrow => decide_eq_false fun h => ?_
      exact horg ((congrArg Prod.fst hrow).symm.trans h)

/-- **What a call can change**: nothing for a user whose entry it does not delete, if what it
writes agrees with the entry. -/
theorem effectivePermissions_perform {call : ServiceCall} {invalidated : List (String × String)}
    (h : call.perform t = .ok (t', invalidated)) (hkept : (orgId, userId) ∉ invalidated)
    (hagrees : call.agreesWith (effectivePermissions t now userId orgId) = true) :
    effectivePermissions t' now userId orgId = effectivePermissions t now userId orgId := by
  cases call with
  | createOrganization slug userIdentity org memberId =>
    obtain ⟨_, hcreate, hresult⟩ := ServiceCall.map_eq_ok h
    cases hresult
    obtain ⟨organizations, members, -, hinsert, rfl⟩ := createOrganization_eq_ok hcreate
    refine effectivePermissions_congr ?_ rfl rfl
    exact getUserRole_insert hinsert (by decide : "owner" ≠ "") (of_decide_eq_true hagrees)
  | deleteOrganization org userIdentity =>
    obtain ⟨_, hdelete, hresult⟩ := ServiceCall.map_eq_ok h
    cases hresult
    exact effectivePermissions_deleteOrganization hdelete hagrees
  | addMember org request userIdentity memberId =>
    obtain ⟨⟨_, view⟩, hadd, hresult⟩ := ServiceCall.map_eq_ok h
    cases hresult
    obtain ⟨_, members, -, -, hinsert, rfl⟩ := addMember_eq_ok hadd
    refine effectivePermissions_congr ?_ rfl rfl
    exact getUserRole_insert hinsert request.role.value_ne_empty (of_decide_eq_true hagrees)
  | updateMemberRole org user newRole userIdentity =>
    obtain ⟨⟨_, view⟩, hupdate, hresult⟩ := ServiceCall.map_eq_ok h
    cases hresult
    obtain ⟨_, _, _, -, -, -, -, -, rfl⟩ := updateMemberRole_eq_ok hupdate
    refine effectivePermissions_congr ?_ rfl rfl
    exact getUserRole_setRole newRole.value_ne_empty (of_decide_eq_true hagrees)
  | removeMember org user userIdentity =>
    obtain ⟨_, hremove, hresult⟩ := ServiceCall.map_eq_ok h
    cases hresult
    obtain ⟨_, _, -, -, hmember, -, -, rfl⟩ := removeMember_eq_ok hremove
    exact effectivePermissions_congr
      (getUserRole_deleteMember hmember (of_decide_eq_true hagrees)) rfl rfl
  | rbac org requester operation =>
    obtain ⟨⟨_, users⟩, hrun, hresult⟩ := ServiceCall.map_eq_ok h
    cases hresult
    refine effectivePermissions_rbac hrun (fun horg huser => hkept ?_) hagrees
    exact horg ▸ List.mem_map_of_mem huser

/-- A custom permission of the user expires between two points in time. -/
def expiresBetween (t : OrgTables) (now now' : ℕ) (userId orgId : String) : Bool :=
  (t.customPermissions.find? (orgId, userId)).any fun row =>
    !hasExpired row now && hasExpired row now'

theorem getCustomPermissions_later {now' : ℕ} (hnow : now ≤ now')
    (hkeeps : expiresBetween t now now' userId orgId = true →
      getCustomPermissions t now userId orgId = ([], [])) :
    getCustomPermissions t now' userId orgId = getCustomPermissions t now userId orgId := by
  rw [getCustomPermissions] at hkeeps ⊢
  rw [getCustomPermissions]
  rw [expiresBetween] at hkeeps
  cases hrow : t.customPermissions.find? (orgId, userId) with
  | none => rfl
  | some row =>
    simp only [hrow, Option.any_some] at hkeeps ⊢
    by_cases hexpired : hasExpired row now = true
    · have hexpired' : hasExpired row now' = true := by
        rw [hasExpired, Option.any_eq_true] at hexpired ⊢
        obtain ⟨expiresAt, hat, hle⟩ := hexpired
        exact ⟨expiresAt, hat, decide_eq_true ((of_decide_eq_true hle).trans hnow)⟩
      rw [if_pos hexpired, if_pos hexpired']
    · by_cases hexpired' : hasExpired row now' = true
      · rw [if_pos hexpired', hkeeps (by simp [hexpired, hexpired'])]
      · rw [if_neg hexpired, if_neg hexpired']

/-! ### The history -/

/-- The condition on a step. A check is about an organization whose id has no colon; a call that
succeeds agrees with the entries; and no custom permission expires that an entry keeps. -/
def keepsCoherent (s : PermissionState) : PermissionLabel → Bool
  | .check _ orgId _ => ':' ∉ orgId.toList
  | .call call =>
    !(call.perform s.tables).isOk || (s.cache.live s.now).all fun v => call.agreesWith v
  | .tick elapsed => (s.cache.live (s.now + elapsed)).all fun v =>
    !expiresBetween s.tables s.now (s.now + elapsed) v.userId v.orgId ||
      v.customGranted = [] && v.customDenied = []

/-- Every entry for an organization whose id has no colon is what would be computed. -/
def PermissionState.Coherent (s : PermissionState) : Prop :=
  s.cache.Coherent s.now (fun query : String × String => cacheKey query.1 query.2)
    (fun query => ':' ∉ query.2.toList)
    fun query => effectivePermissions s.tables s.now query.1 query.2

/-- Such queries have different keys. -/
theorem cacheKey_inj {userId' orgId' : String} (horg : ':' ∉ orgId.toList)
    (horg' : ':' ∉ orgId'.toList) (h : cacheKey userId orgId = cacheKey userId' orgId') :
    (userId, orgId) = (userId', orgId') := by
  have hlist := congrArg String.toList h
  simp only [cacheKey, String.toList_append] at hlist
  obtain ⟨hbefore, hafter⟩ : "perms:user:".toList ++ userId.toList ++ ":org".toList =
      "perms:user:".toList ++ userId'.toList ++ ":org".toList ∧ orgId.toList = orgId'.toList :=
    PyString.append_cons_inj horg horg' (by simpa using hlist)
  have huser := List.append_cancel_left (List.append_cancel_right hbefore)
  rw [String.toList_inj.mp huser, String.toList_inj.mp hafter]

theorem coherent_check {s : PermissionState} (hs : s.Coherent) (horg : ':' ∉ orgId.toList)
    (required : String) : (checkPermission s userId orgId required).1.Coherent :=
  TtlCache.Coherent.readThrough_fst (q := (userId, orgId)) hs
    (fun _ _ hq hq' hkey => cacheKey_inj hq hq' hkey) horg (by decide)

theorem coherent_call {s : PermissionState} {call : ServiceCall} (hs : s.Coherent)
    (hkeeps : keepsCoherent s (.call call) = true) : (afterCall s call).Coherent := by
  rw [afterCall]
  rw [keepsCoherent] at hkeeps
  cases hperform : call.perform s.tables with
  | error e => exact hs
  | ok result =>
    obtain ⟨tables, invalidated⟩ := result
    rw [hperform] at hkeeps
    have hagrees : ∀ v ∈ s.cache.live s.now, call.agreesWith v = true := List.all_eq_true.mp hkeeps
    refine TtlCache.Coherent.write hs _ ?_
    rintro ⟨userId, orgId⟩ - hkept hget
    have hpair : (orgId, userId) ∉ invalidated :=
      fun hmem => hkept (List.mem_map.mpr ⟨_, hmem, rfl⟩)
    exact effectivePermissions_perform hperform hpair (hagrees _ (TtlCache.mem_live_of_get hget))

theorem coherent_tick {s : PermissionState} {elapsed : ℕ} (hs : s.Coherent)
    (hkeeps : keepsCoherent s (.tick elapsed) = true) :
    PermissionState.Coherent { s with now := s.now + elapsed } := by
  have hlater : s.now ≤ s.now + elapsed := Nat.le_add_right _ _
  refine TtlCache.Coherent.later hs hlater ?_
  rintro ⟨userId, orgId⟩ - hget
  have hkept := List.all_eq_true.mp hkeeps _ (TtlCache.mem_live_of_get hget)
  have hcustom : getCustomPermissions s.tables (s.now + elapsed) userId orgId =
      getCustomPermissions s.tables s.now userId orgId := by
    refine getCustomPermissions_later hlater fun hexpires => ?_
    rcases (Bool.or_eq_true _ _).mp hkept with hno | hempty
    · exact absurd hexpires (by simpa [effectivePermissions] using hno)
    · obtain ⟨hgranted, hdenied⟩ := (Bool.and_eq_true _ _).mp hempty
      exact Prod.ext (of_decide_eq_true hgranted) (of_decide_eq_true hdenied)
  exact effectivePermissions_congr rfl rfl hcustom

theorem coherent_step {s s' : PermissionState} {label : PermissionLabel} (hs : s.Coherent)
    (hkeeps : keepsCoherent s label = true) (h : step s label = some s') : s'.Coherent := by
  cases label with
  | check userId orgId required =>
    cases h
    exact coherent_check hs (of_decide_eq_true hkeeps) required
  | call call =>
    cases h
    exact coherent_call hs hkeeps
  | tick elapsed =>
    cases h
    exact coherent_tick hs hkeeps

/-- **The cache is coherent**, while whoever changes what an entry says deletes the entry: a check
returns what it would return with an empty cache. -/
theorem check_coherent {s s' : PermissionState} {labels : List PermissionLabel}
    (hs : s.cache = TtlCache.empty)
    (hkeeps : Along step (fun s label => keepsCoherent s label = true) s labels)
    (h : exec step s labels = some s') (userId orgId required : String)
    (horg : ':' ∉ orgId.toList) :
    (checkPermission s' userId orgId required).2 =
      (checkPermission { s' with cache := TtlCache.empty } userId orgId required).2 := by
  have hempty : s.Coherent := by
    rw [PermissionState.Coherent, hs]
    exact TtlCache.Coherent.empty _ _ _ _
  have hcoherent : s'.Coherent :=
    exec_invariant (fun _ _ _ hs hkeep hstep => coherent_step hs hkeep hstep) hempty hkeeps h
  have hread : (getEffectivePermissions s' userId orgId).2 =
      effectivePermissions s'.tables s'.now userId orgId :=
    TtlCache.Coherent.readThrough_snd (q := (userId, orgId)) hcoherent horg _
  rw [checkPermission, hread]
  rfl

/-- Bob and Carol own an organization, and nothing is cached. -/
def twoOwners : PermissionState where
  tables :=
    { organizations := Table.single ⟨"org", "org"⟩
      members := ⟨[⟨"m1", "org", "bob", "owner", none⟩, ⟨"m2", "org", "carol", "owner", none⟩],
        by decide⟩
      roleDefinitions := Table.empty
      customPermissions := Table.empty }
  cache := TtlCache.empty
  now := 0

/-- Carol's permissions are checked, and a role is assigned to her through the RBAC service. -/
def carolAssigned : List PermissionLabel :=
  [.check "carol" "org" "threads:delete",
    .call (.rbac "org" "bob" (.assignRole "carol" "viewer")), .tick 1000000]

theorem check_coherent_carol :
    (checkPermission ((exec step twoOwners carolAssigned).get rfl)
        "carol" "org" "threads:delete").2 =
      (checkPermission { (exec step twoOwners carolAssigned).get rfl with cache := TtlCache.empty }
        "carol" "org" "threads:delete").2 :=
  check_coherent rfl (by decide) (Option.some_get _).symm "carol" "org" "threads:delete" (by decide)

/-- Bob makes Carol a viewer through the organization service, and she keeps the permissions of an
owner. -/
theorem demoted_owner :
    ¬ ∀ (s s' : PermissionState) (labels : List PermissionLabel) (userId orgId required : String),
      s.cache = TtlCache.empty → exec step s labels = some s' →
      (checkPermission s' userId orgId required).2 =
        (checkPermission { s' with cache := TtlCache.empty } userId orgId required).2 := by
  intro h
  have hcheck := h twoOwners _ [.check "carol" "org" "threads:delete",
    .call (.updateMemberRole "org" "carol" .viewer "bob")] "carol" "org" "threads:delete" rfl rfl
  exact absurd hcheck (by decide)

end PermissionService

end OpenLangGraph
