import OpenLangGraph.Core.OrganizationOrm

/-!
# The organization service

The operations of `services/organization_service.py` that read or write the members of an
organization, each as one request alone performs it. What an operation does besides (the slug, the
settings, the API keys) is left out, except that organizations are created and deleted.

## Main definitions

* `getUserRole`, `requireRole` — the role of the requester
* `addMember`, `updateMemberRole`, `removeMember` — with their guards `checkOwnerChange` and
  `checkLastOwner`
* `createOrganization`, `deleteOrganization`

## Main results

* `requireRole_eq_ok` — what a passed check says about the requester
* `addMember_eq_ok`, `updateMemberRole_eq_ok`, `removeMember_eq_ok` — what a successful operation
  was allowed to do, and has done
-/

namespace OpenLangGraph

/-- How an operation fails. -/
inductive OrgError
  | httpException (statusCode : ℕ) (detail : String)
  /-- `OrganizationRole(role)` for a role that the enum does not have -/
  | valueError (role : String)
  | integrityError
deriving DecidableEq

/-- `OrganizationMember` of `models/organization.py` -/
structure OrganizationMember where
  id : String
  orgId : String
  userId : String
  role : OrganizationRole
  invitedBy : Option String
deriving DecidableEq

/-- `OrganizationMemberCreate` -/
structure OrganizationMemberCreate where
  userId : String
  role : OrganizationRole
deriving DecidableEq

namespace OrganizationService

/-! ### Reading roles -/

/-- `OrganizationRole(role)` -/
def convertRole (role : String) : Except OrgError OrganizationRole :=
  match OrganizationRole.ofValue role with
  | none => .error (.valueError role)
  | some role => .ok role

/-- `to_member_pydantic` -/
def toMemberPydantic (row : Member) : Except OrgError OrganizationMember := do
  let role ← convertRole row.role
  return { id := row.id, orgId := row.orgId, userId := row.userId, role
           invitedBy := row.invitedBy }

/-- `_get_user_role` -/
def getUserRole (t : OrgTables) (orgId userId : String) :
    Except OrgError (Option OrganizationRole) :=
  match t.member? orgId userId with
  | none => .ok none
  | some member => if member.role = "" then .ok none else (convertRole member.role).map some

/-- `[r.value for r in roles]`, as it is printed. -/
def printRoles (roles : List OrganizationRole) : String :=
  "[" ++ ", ".intercalate (roles.map fun role => "'" ++ role.value ++ "'") ++ "]"

/-- What `_require_role` says to a requester who is no member. -/
def notAMember (orgId : String) : OrgError :=
  .httpException 404 ("Organization '" ++ orgId ++ "' not found or you are not a member")

/-- What `_require_role` makes of the role that it has read. -/
def checkRole (orgId : String) (minRoles : List OrganizationRole) :
    Option OrganizationRole → Except OrgError OrganizationRole
  | none => .error (notAMember orgId)
  | some role =>
    if role ∈ minRoles then .ok role
    else .error
      (.httpException 403 ("Insufficient permissions. Required: " ++ printRoles minRoles))

/-- `_require_role` -/
def requireRole (t : OrgTables) (orgId userId : String) (minRoles : List OrganizationRole) :
    Except OrgError OrganizationRole :=
  getUserRole t orgId userId >>= checkRole orgId minRoles

theorem bind_eq_ok {ε α β : Type} {x : Except ε α} {f : α → Except ε β} {b : β} :
    (x >>= f) = .ok b ↔ ∃ a, x = .ok a ∧ f a = .ok b := by
  cases x with
  | error e =>
    constructor
    · intro h
      cases h
    · rintro ⟨a, ha, -⟩
      cases ha
  | ok a =>
    constructor
    · exact fun h => ⟨a, rfl, h⟩
    · rintro ⟨a, ha, h⟩
      cases ha
      exact h

/-- A role that has been read is the role of a member. -/
theorem getUserRole_eq_ok {t : OrgTables} {orgId userId : String} {role : OrganizationRole}
    (h : getUserRole t orgId userId = .ok (some role)) :
    ∃ member, t.member? orgId userId = some member ∧ member.role = role.value := by
  rw [getUserRole] at h
  split at h
  · cases h
  · rename_i member hmember
    split at h
    · cases h
    · rw [convertRole] at h
      split at h
      · cases h
      · rename_i role' hrole
        cases h
        exact ⟨member, hmember, (OrganizationRole.value_of_ofValue hrole).symm⟩

/-- A passed check says that the requester is a member with one of the roles. -/
theorem requireRole_eq_ok {t : OrgTables} {orgId userId : String}
    {minRoles : List OrganizationRole} {role : OrganizationRole}
    (h : requireRole t orgId userId minRoles = .ok role) :
    role ∈ minRoles ∧ ∃ member, t.member? orgId userId = some member ∧
      member.role = role.value := by
  obtain ⟨role', hread, hcheck⟩ := bind_eq_ok.mp h
  cases role' with
  | none => cases hcheck
  | some role' =>
    rw [checkRole] at hcheck
    split at hcheck
    · rename_i hmem
      cases hcheck
      exact ⟨hmem, getUserRole_eq_ok hread⟩
    · cases hcheck

/-! ### Guards -/

/-- Owners are changed by owners. -/
def checkOwnerChange (requesterRole currentRole newRole : OrganizationRole) :
    Except OrgError Unit :=
  if (currentRole = .owner || newRole = .owner) && requesterRole ≠ .owner then
    .error (.httpException 403 "Only OWNER can change OWNER roles")
  else .ok ()

/-- The last owner stays. -/
def checkLastOwner (t : OrgTables) (orgId message : String) : Except OrgError Unit :=
  if t.ownerCount orgId ≤ 1 then .error (.httpException 400 message) else .ok ()

/-- The check of `update_member_role` that an owner who is demoted is not the last one. -/
def checkDemotion (t : OrgTables) (orgId : String) (currentRole newRole : OrganizationRole) :
    Except OrgError Unit :=
  if currentRole = .owner && newRole ≠ .owner then
    checkLastOwner t orgId "Cannot demote the last OWNER"
  else .ok ()

/-- `Member '{user_id}' not found in organization` -/
def memberNotFound (userId : String) : OrgError :=
  .httpException 404 ("Member '" ++ userId ++ "' not found in organization")

/-! ### Operations -/

/-- `create_organization`, with the ids that the database gives to the two rows. Both commits
succeed. -/
def createOrganization (t : OrgTables) (slug userIdentity orgId memberId : String) :
    Except OrgError OrgTables :=
  if slug = "" then
    .error (.httpException 400 "Could not generate a valid slug from the organization name")
  else if t.organizations.rows.any (·.slug = slug) then
    .error (.httpException 409 ("Organization with slug '" ++ slug ++ "' already exists"))
  else
    match t.organizations.insert ⟨orgId, slug⟩,
      t.members.insert ⟨memberId, orgId, userIdentity, OrganizationRole.owner.value, none⟩ with
    | some organizations, some members => .ok { t with organizations, members }
    | _, _ => .error .integrityError

/-- `delete_organization`, with the cascade to the other tables. -/
def deleteOrganization (t : OrgTables) (orgId userIdentity : String) :
    Except OrgError OrgTables := do
  let _ ← requireRole t orgId userIdentity [.owner]
  if t.organizations.rows.any (·.orgId = orgId) then
    .ok
      { organizations := t.organizations.deleteIf (·.orgId = orgId)
        members := t.members.deleteIf (·.orgId = orgId)
        roleDefinitions := t.roleDefinitions.deleteIf (·.orgId = orgId)
        customPermissions := t.customPermissions.deleteIf (·.orgId = orgId) }
  else .error (.httpException 404 ("Organization '" ++ orgId ++ "' not found"))

/-- `list_members` -/
def listMembers (t : OrgTables) (orgId userIdentity : String) :
    Except OrgError (List OrganizationMember) := do
  let _ ← requireRole t orgId userIdentity OrganizationRole.all
  (t.members.rows.filter (·.orgId = orgId)).mapM toMemberPydantic

/-- The check of `add_member` against owners made by others. -/
def checkAddOwner (requesterRole newRole : OrganizationRole) : Except OrgError Unit :=
  if newRole = .owner && requesterRole ≠ .owner then
    .error (.httpException 403 "Only OWNER can add another OWNER")
  else .ok ()

/-- The row that `add_member` adds. -/
def newMember (orgId userIdentity memberId : String) (request : OrganizationMemberCreate) :
    Member :=
  ⟨memberId, orgId, request.userId, request.role.value, some userIdentity⟩

/-- `add_member` -/
def addMember (t : OrgTables) (orgId : String) (request : OrganizationMemberCreate)
    (userIdentity memberId : String) : Except OrgError (OrgTables × OrganizationMember) := do
  let requesterRole ← requireRole t orgId userIdentity [.owner, .admin]
  checkAddOwner requesterRole request.role
  if (t.member? orgId request.userId).isSome then
    .error (.httpException 409 ("User '" ++ request.userId ++ "' is already a member"))
  else
    let member := newMember orgId userIdentity memberId request
    match t.members.insert member with
    | none => .error .integrityError
    | some members => return ({ t with members }, ← toMemberPydantic member)

/-- The `UPDATE` of `update_member_role`. -/
def setRole (t : OrgTables) (orgId userId role : String) : OrgTables :=
  { t with
    members :=
      t.members.updateIf (·.key = (orgId, userId)) ({ · with role }) (Member.key_role role) }

/-- `update_member_role` -/
def updateMemberRole (t : OrgTables) (orgId userId : String) (newRole : OrganizationRole)
    (userIdentity : String) : Except OrgError (OrgTables × OrganizationMember) := do
  let requesterRole ← requireRole t orgId userIdentity [.owner, .admin]
  match t.member? orgId userId with
  | none => .error (memberNotFound userId)
  | some member =>
    let currentRole ← convertRole member.role
    checkOwnerChange requesterRole currentRole newRole
    checkDemotion t orgId currentRole newRole
    return (setRole t orgId userId newRole.value,
      ← toMemberPydantic { member with role := newRole.value })

/-- The first two checks of `remove_member`. -/
def checkMayRemove (requesterRole : Option OrganizationRole) (orgId userId userIdentity : String) :
    Except OrgError OrganizationRole :=
  match requesterRole with
  | none => .error (notAMember orgId)
  | some role =>
    if userId ≠ userIdentity && !(role = .owner || role = .admin) then
      .error (.httpException 403 "Insufficient permissions to remove members")
    else .ok role

/-- The first check of `remove_member` for a member who is an owner. -/
def checkRemoveOwner (requesterRole : OrganizationRole) (member : Member) (userIdentity : String) :
    Except OrgError Unit :=
  if member.role = OrganizationRole.owner.value && requesterRole ≠ .owner &&
      member.userId ≠ userIdentity then
    .error (.httpException 403 "Only OWNER can remove another OWNER")
  else .ok ()

/-- The second one. -/
def checkRemoveLastOwner (t : OrgTables) (orgId : String) (member : Member) :
    Except OrgError Unit :=
  if member.role = OrganizationRole.owner.value then
    checkLastOwner t orgId "Cannot remove the last OWNER"
  else .ok ()

/-- The `DELETE` of `remove_member`, which is by the id of the row. -/
def deleteMember (t : OrgTables) (member : Member) : OrgTables :=
  { t with members := t.members.deleteIf fun row => row.key = member.key && row.id = member.id }

/-- `remove_member` -/
def removeMember (t : OrgTables) (orgId userId userIdentity : String) :
    Except OrgError OrgTables := do
  let role ← getUserRole t orgId userIdentity
  let requesterRole ← checkMayRemove role orgId userId userIdentity
  match t.member? orgId userId with
  | none => .error (memberNotFound userId)
  | some member =>
    checkRemoveOwner requesterRole member userIdentity
    checkRemoveLastOwner t orgId member
    return deleteMember t member

/-! ### What a successful operation has done -/

variable {t t' : OrgTables} {orgId userId userIdentity memberId : String}

theorem mem_setRole {role : String} {member : Member}
    (h : member ∈ (setRole t orgId userId role).members.rows) :
    member ∈ t.members.rows ∨ member.role = role := by
  have hf : ∀ row : Member, ({ row with role } : Member).key = row.key := fun _ => rfl
  rcases Table.mem_updateIf hf h with hold | ⟨old, -, -, rfl⟩
  · exact .inl hold
  · exact .inr rfl

theorem checkOwnerChange_eq_ok {requesterRole currentRole newRole : OrganizationRole} {u : Unit}
    (h : checkOwnerChange requesterRole currentRole newRole = .ok u) :
    currentRole = .owner ∨ newRole = .owner → requesterRole = .owner := by
  intro hinvolved
  by_contra hne
  rw [checkOwnerChange, if_pos (by simpa [hne] using hinvolved)] at h
  cases h

theorem checkLastOwner_eq_ok {message : String} {u : Unit}
    (h : checkLastOwner t orgId message = .ok u) : 1 < t.ownerCount orgId := by
  by_contra hle
  rw [checkLastOwner, if_pos (by omega)] at h
  cases h

theorem checkAddOwner_eq_ok {requesterRole newRole : OrganizationRole} {u : Unit}
    (h : checkAddOwner requesterRole newRole = .ok u) :
    newRole = .owner → requesterRole = .owner := by
  intro howner
  by_contra hne
  rw [checkAddOwner, if_pos (by simp [howner, hne])] at h
  cases h

theorem convertRole_eq_ok {name : String} {role : OrganizationRole}
    (h : convertRole name = .ok role) : name = role.value := by
  rw [convertRole] at h
  split at h
  · cases h
  · rename_i hrole
    cases h
    exact (OrganizationRole.value_of_ofValue hrole).symm

theorem checkDemotion_eq_ok {currentRole newRole : OrganizationRole} {u : Unit}
    (h : checkDemotion t orgId currentRole newRole = .ok u) :
    currentRole = .owner → newRole ≠ .owner → 1 < t.ownerCount orgId := by
  intro howner hne
  rw [checkDemotion, if_pos (by simp [howner, hne])] at h
  exact checkLastOwner_eq_ok h

theorem checkMayRemove_eq_ok {requesterRole : Option OrganizationRole} {role : OrganizationRole}
    (h : checkMayRemove requesterRole orgId userId userIdentity = .ok role) :
    requesterRole = some role ∧ (userId = userIdentity ∨ role = .owner ∨ role = .admin) := by
  rw [checkMayRemove.eq_def] at h
  split at h
  · cases h
  · rename_i role'
    split at h
    · cases h
    · rename_i hallowed
      cases h
      refine ⟨rfl, ?_⟩
      by_cases hself : userId = userIdentity
      · exact .inl hself
      · simp only [ne_eq, hself, not_false_eq_true, decide_true, Bool.true_and,
          Bool.not_eq_true', Bool.not_eq_false, Bool.or_eq_true, decide_eq_true_eq] at hallowed
        exact .inr hallowed

theorem checkRemoveOwner_eq_ok {requesterRole : OrganizationRole} {member : Member} {u : Unit}
    (h : checkRemoveOwner requesterRole member userIdentity = .ok u) :
    member.role = "owner" → requesterRole = .owner ∨ member.userId = userIdentity := by
  intro howner
  by_contra hne
  rw [not_or] at hne
  rw [checkRemoveOwner, if_pos (by simp [howner, OrganizationRole.value, hne.1, hne.2])] at h
  cases h

theorem checkRemoveLastOwner_eq_ok {member : Member} {u : Unit}
    (h : checkRemoveLastOwner t orgId member = .ok u) :
    member.role = "owner" → 1 < t.ownerCount orgId := by
  intro howner
  rw [checkRemoveLastOwner, if_pos (show member.role = OrganizationRole.owner.value from howner)]
    at h
  exact checkLastOwner_eq_ok h

/-- A new member has been added, as an owner only by an owner. -/
theorem addMember_eq_ok {request : OrganizationMemberCreate} {view : OrganizationMember}
    (h : addMember t orgId request userIdentity memberId = .ok (t', view)) :
    ∃ requesterRole members, requireRole t orgId userIdentity [.owner, .admin] = .ok requesterRole ∧
      (request.role = .owner → requesterRole = .owner) ∧
      t.members.insert (newMember orgId userIdentity memberId request) = some members ∧
      t' = { t with members } := by
  obtain ⟨requesterRole, hrole, h⟩ := bind_eq_ok.mp h
  obtain ⟨u, hcheck, h⟩ := bind_eq_ok.mp h
  split at h
  · cases h
  · dsimp only at h
    split at h
    · cases h
    · rename_i members hinsert
      obtain ⟨view, -, h⟩ := bind_eq_ok.mp h
      cases h
      exact ⟨requesterRole, members, hrole, checkAddOwner_eq_ok hcheck, hinsert, rfl⟩

/-- A role has been changed, of or to an owner only by an owner, and not of the last owner. -/
theorem updateMemberRole_eq_ok {newRole : OrganizationRole} {view : OrganizationMember}
    (h : updateMemberRole t orgId userId newRole userIdentity = .ok (t', view)) :
    ∃ (requesterRole currentRole : OrganizationRole) (member : Member),
      requireRole t orgId userIdentity [.owner, .admin] = .ok requesterRole ∧
      t.member? orgId userId = some member ∧ member.role = currentRole.value ∧
      (currentRole = .owner ∨ newRole = .owner → requesterRole = .owner) ∧
      (currentRole = .owner → newRole ≠ .owner → 1 < t.ownerCount orgId) ∧
      t' = setRole t orgId userId newRole.value := by
  obtain ⟨requesterRole, hrole, h⟩ := bind_eq_ok.mp h
  split at h
  · cases h
  · rename_i member hmember
    obtain ⟨currentRole, hcurrent, h⟩ := bind_eq_ok.mp h
    obtain ⟨_, hcheck, h⟩ := bind_eq_ok.mp h
    obtain ⟨_, hlast, h⟩ := bind_eq_ok.mp h
    obtain ⟨_, -, h⟩ := bind_eq_ok.mp h
    cases h
    exact ⟨requesterRole, currentRole, member, hrole, hmember, convertRole_eq_ok hcurrent,
      checkOwnerChange_eq_ok hcheck, checkDemotion_eq_ok hlast, rfl⟩

/-- A member has been removed, an owner only by an owner, and not the last owner. -/
theorem removeMember_eq_ok (h : removeMember t orgId userId userIdentity = .ok t') :
    ∃ (requesterRole : OrganizationRole) (member : Member),
      getUserRole t orgId userIdentity = .ok (some requesterRole) ∧
      (userId = userIdentity ∨ requesterRole = .owner ∨ requesterRole = .admin) ∧
      t.member? orgId userId = some member ∧
      (member.role = "owner" → requesterRole = .owner ∨ member.userId = userIdentity) ∧
      (member.role = "owner" → 1 < t.ownerCount orgId) ∧ t' = deleteMember t member := by
  obtain ⟨read, hread, hchecks⟩ := bind_eq_ok.mp h
  obtain ⟨requesterRole, hmay, hrest⟩ := bind_eq_ok.mp hchecks
  obtain ⟨rfl, hallowed⟩ := checkMayRemove_eq_ok hmay
  split at hrest
  · cases hrest
  · rename_i member hmember
    obtain ⟨_, howner, hrest⟩ := bind_eq_ok.mp hrest
    obtain ⟨_, hlast, hrest⟩ := bind_eq_ok.mp hrest
    cases hrest
    exact ⟨requesterRole, member, hread, hallowed, hmember, checkRemoveOwner_eq_ok howner,
      checkRemoveLastOwner_eq_ok hlast, rfl⟩

end OrganizationService

end OpenLangGraph
