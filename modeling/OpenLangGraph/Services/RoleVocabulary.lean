import OpenLangGraph.Foundation.Transition
import OpenLangGraph.Services.ServiceCalls

/-!
# One column, two vocabularies

Whether the roles that a history of service calls leaves in the tables can be read back. The
organization service and the agent service convert every role that they read to
`OrganizationRole`; `assign_role` writes any system role or role definition, among them
`developer` and `api_user`.

## Main definitions

* `RolesConvert` — every stored role is of the enum
* `GatedOperation` — the operations that read the role of their requester
* `NoConversionError`

## Main results

* `ServiceCall.role_cases` — where a stored role comes from
* `ServiceCall.roles_convert` — every role can be read, while assigned roles are of the enum
* `ServiceCall.developer_assigned` — a developer cannot be read
-/

namespace OpenLangGraph

open Transition OrganizationService

/-- Every stored role is of the enum. -/
def RolesConvert (t : OrgTables) : Prop :=
  ∀ member ∈ t.members.rows, ∃ role : OrganizationRole, member.role = role.value

namespace ServiceCall

variable {t t' : OrgTables} {call : ServiceCall} {invalidated : List (String × String)}

/-- Where a stored role comes from: it was there, or is of the enum, or has been assigned. -/
theorem role_cases (h : call.perform t = .ok (t', invalidated)) :
    ∀ member ∈ t'.members.rows, (∃ old ∈ t.members.rows, member.role = old.role) ∨
      (∃ role : OrganizationRole, member.role = role.value) ∨
      ∃ orgId requester userId, call = .rbac orgId requester (.assignRole userId member.role) := by
  intro member hmember
  cases call with
  | createOrganization slug userIdentity orgId memberId =>
    obtain ⟨_, hcreate, hresult⟩ := map_eq_ok h
    cases hresult
    obtain ⟨organizations, members, -, hinsert, rfl⟩ := createOrganization_eq_ok hcreate
    rw [(Table.insert_eq_some hinsert).2] at hmember
    rcases List.mem_append.mp hmember with hold | hnew
    · exact .inl ⟨member, hold, rfl⟩
    · rw [List.mem_singleton.mp hnew]
      exact .inr (.inl ⟨.owner, rfl⟩)
  | deleteOrganization orgId userIdentity =>
    obtain ⟨_, hdelete, hresult⟩ := map_eq_ok h
    cases hresult
    rw [deleteOrganization_eq_ok hdelete] at hmember
    exact .inl ⟨member, Table.mem_deleteIf hmember, rfl⟩
  | addMember orgId request userIdentity memberId =>
    obtain ⟨⟨t', view⟩, hadd, hresult⟩ := map_eq_ok h
    cases hresult
    obtain ⟨_, members, -, -, hinsert, rfl⟩ := addMember_eq_ok hadd
    rw [(Table.insert_eq_some hinsert).2] at hmember
    rcases List.mem_append.mp hmember with hold | hnew
    · exact .inl ⟨member, hold, rfl⟩
    · rw [List.mem_singleton.mp hnew]
      exact .inr (.inl ⟨request.role, rfl⟩)
  | updateMemberRole orgId userId newRole userIdentity =>
    obtain ⟨⟨t', view⟩, hupdate, hresult⟩ := map_eq_ok h
    cases hresult
    obtain ⟨_, _, _, -, -, -, -, -, rfl⟩ := updateMemberRole_eq_ok hupdate
    rcases mem_setRole hmember with hold | hrole
    · exact .inl ⟨member, hold, rfl⟩
    · exact .inr (.inl ⟨newRole, hrole⟩)
  | removeMember orgId userId userIdentity =>
    obtain ⟨_, hremove, hresult⟩ := map_eq_ok h
    cases hresult
    obtain ⟨_, _, -, -, -, -, -, rfl⟩ := removeMember_eq_ok hremove
    exact .inl ⟨member, Table.mem_deleteIf hmember, rfl⟩
  | rbac orgId requester operation =>
    obtain ⟨⟨t', invalidated⟩, hrun, hresult⟩ := map_eq_ok h
    cases hresult
    rcases RbacOperation.members_run hrun with hsame | ⟨userId, roleName, rfl, hassign⟩
    · rw [hsame] at hmember
      exact .inl ⟨member, hmember, rfl⟩
    · obtain ⟨-, _, -, rfl, -⟩ := RbacService.assignRole_eq_ok hassign
      rcases RbacService.mem_setRoleOf hmember with hold | rfl
      · exact .inl ⟨member, hold, rfl⟩
      · exact .inr (.inr ⟨orgId, requester, userId, rfl⟩)

/-- The call does not assign a role that the enum does not have. -/
def namesEnumRole (t : OrgTables) : ServiceCall → Bool
  | .rbac orgId _ (.assignRole userId roleName) =>
    !(RbacOperation.assignRole userId roleName).accepts t orgId ||
      (OrganizationRole.ofValue roleName).isSome
  | _ => true

theorem rolesConvert_step (ht : RolesConvert t) (hcall : namesEnumRole t call = true)
    (h : step t call = some t') : RolesConvert t' := by
  obtain rfl := Option.some.inj h
  rw [after]
  cases hperform : call.perform t with
  | error e => exact ht
  | ok result =>
    obtain ⟨t', invalidated⟩ := result
    intro member hmember
    rcases role_cases hperform member hmember with
      ⟨old, hold, hrole⟩ | henum | ⟨orgId, requester, userId, rfl⟩
    · rw [hrole]
      exact ht old hold
    · exact henum
    · have haccepts := RbacOperation.run_isOk t orgId requester (.assignRole userId member.role)
      obtain ⟨outcome, hrun, -⟩ := map_eq_ok hperform
      rw [hrun] at haccepts
      rw [namesEnumRole, ← haccepts] at hcall
      obtain ⟨role, hrole⟩ := Option.isSome_iff_exists.mp
        (by simpa [Except.isOk, Except.toBool] using hcall)
      exact ⟨role, (OrganizationRole.value_of_ofValue hrole).symm⟩

end ServiceCall

/-! ### Reading roles -/

/-- The operations that read the role of their requester with `_require_role`: those of the
organization service, and then those of the agent service, which has a copy of it. -/
inductive GatedOperation
  | getOrganization
  | getOrganizationBySlug
  | updateOrganization
  | deleteOrganization
  | listMembers
  | addMember
  | updateMemberRole
  | listApiKeys
  | createApiKey
  | revokeApiKey
  | registerAgent
  | listAgents
  | createCredential
  | revokeCredential

/-- The roles that the operation asks for. -/
def GatedOperation.minRoles : GatedOperation → List OrganizationRole
  | .getOrganization | .getOrganizationBySlug | .listMembers => OrganizationRole.all
  | .deleteOrganization => [.owner]
  | .listApiKeys | .listAgents => [.owner, .admin, .member]
  | .updateOrganization | .addMember | .updateMemberRole | .createApiKey | .revokeApiKey
  | .registerAgent | .createCredential | .revokeCredential => [.owner, .admin]

/-- The call does not fail to convert a role. -/
def NoConversionError {α : Type} (x : Except OrgError α) : Prop :=
  ∀ role, x ≠ .error (.valueError role)

namespace NoConversionError

variable {α β : Type} {t : OrgTables} {orgId userId : String}

theorem ok (a : α) : NoConversionError (.ok a : Except OrgError α) := fun _ h => by cases h

theorem http (statusCode : ℕ) (detail : String) :
    NoConversionError (.error (.httpException statusCode detail) : Except OrgError α) :=
  fun _ h => by cases h

theorem bind {x : Except OrgError α} {f : α → Except OrgError β} (hx : NoConversionError x)
    (hf : ∀ a, x = .ok a → NoConversionError (f a)) : NoConversionError (x >>= f) := by
  cases x with
  | error e => exact fun role h => hx role (congrArg Except.error (Except.error.inj h))
  | ok a => exact hf a rfl

theorem convertRole (role : OrganizationRole) :
    NoConversionError (OrganizationService.convertRole role.value) := by
  rw [OrganizationService.convertRole, OrganizationRole.ofValue_value]
  exact ok _

theorem toMemberPydantic {member : Member} {role : OrganizationRole}
    (h : member.role = role.value) :
    NoConversionError (OrganizationService.toMemberPydantic member) := by
  rw [OrganizationService.toMemberPydantic, h]
  exact bind (convertRole role) fun _ _ => ok _

theorem mapM {members : List Member}
    (h : ∀ member ∈ members, ∃ role : OrganizationRole, member.role = role.value) :
    NoConversionError (members.mapM OrganizationService.toMemberPydantic) := by
  induction members with
  | nil => exact ok _
  | cons member members ih =>
    obtain ⟨⟨role, hrole⟩, hmembers⟩ := List.forall_mem_cons.mp h
    rw [List.mapM_cons]
    exact bind (toMemberPydantic hrole) fun _ _ => bind (ih hmembers) fun _ _ => ok _

theorem getUserRole (ht : RolesConvert t) :
    NoConversionError (OrganizationService.getUserRole t orgId userId) := by
  rw [OrganizationService.getUserRole]
  split
  · exact ok _
  · rename_i member hmember
    split
    · exact ok _
    · obtain ⟨role, hrole⟩ := ht member (OrgTables.member?_eq_some_iff.mp hmember).1
      rw [hrole, OrganizationService.convertRole, OrganizationRole.ofValue_value]
      exact ok _

theorem requireRole (ht : RolesConvert t) (minRoles : List OrganizationRole) :
    NoConversionError (OrganizationService.requireRole t orgId userId minRoles) := by
  refine bind (getUserRole ht) fun role _ => ?_
  cases role with
  | none => exact http _ _
  | some role =>
    rw [checkRole]
    split
    · exact ok _
    · exact http _ _

theorem integrity : NoConversionError (.error .integrityError : Except OrgError α) :=
  fun _ h => by cases h

theorem checkLastOwner (message : String) :
    NoConversionError (OrganizationService.checkLastOwner t orgId message) := by
  rw [OrganizationService.checkLastOwner]
  split
  · exact http _ _
  · exact ok _

theorem listMembers (ht : RolesConvert t) :
    NoConversionError (OrganizationService.listMembers t orgId userId) :=
  bind (requireRole ht _) fun _ _ =>
    mapM fun member hmember => ht member (List.mem_of_mem_filter hmember)

theorem deleteOrganization (ht : RolesConvert t) :
    NoConversionError (OrganizationService.deleteOrganization t orgId userId) := by
  refine bind (requireRole ht _) fun _ _ => ?_
  split
  · exact ok _
  · exact http _ _

theorem addMember (ht : RolesConvert t) (request : OrganizationMemberCreate) (memberId : String) :
    NoConversionError (OrganizationService.addMember t orgId request userId memberId) := by
  refine bind (requireRole ht _) fun requesterRole _ => bind ?_ fun _ _ => ?_
  · rw [checkAddOwner]
    split
    · exact http _ _
    · exact ok _
  · split
    · exact http _ _
    · dsimp only
      split
      · exact integrity
      · exact bind (toMemberPydantic (rfl : _ = request.role.value)) fun _ _ => ok _

theorem updateMemberRole (ht : RolesConvert t) (userId' : String) (newRole : OrganizationRole) :
    NoConversionError (OrganizationService.updateMemberRole t orgId userId' newRole userId) := by
  refine bind (requireRole ht _) fun requesterRole _ => ?_
  split
  · exact http _ _
  · rename_i member hmember
    obtain ⟨role, hrole⟩ := ht member (OrgTables.member?_eq_some_iff.mp hmember).1
    refine bind (hrole ▸ convertRole role) fun currentRole _ => bind ?_ fun _ _ =>
      bind ?_ fun _ _ => bind (toMemberPydantic (rfl : _ = newRole.value)) fun _ _ => ok _
    · rw [checkOwnerChange]
      split
      · exact http _ _
      · exact ok _
    · rw [checkDemotion]
      split
      · exact checkLastOwner _
      · exact ok _

theorem removeMember (ht : RolesConvert t) (userId' : String) :
    NoConversionError (OrganizationService.removeMember t orgId userId' userId) := by
  refine bind (getUserRole ht) fun role _ => bind ?_ fun requesterRole _ => ?_
  · rw [checkMayRemove.eq_def]
    split
    · exact http _ _
    · split
      · exact http _ _
      · exact ok _
  · split
    · exact http _ _
    · refine bind ?_ fun _ _ => bind ?_ fun _ _ => ok _
      · rw [checkRemoveOwner]
        split
        · exact http _ _
        · exact ok _
      · rw [checkRemoveLastOwner]
        split
        · exact checkLastOwner _
        · exact ok _

end NoConversionError

namespace ServiceCall

/-- **Every stored role can be read**, while `assign_role` assigns roles of the enum alone: no
operation of the organization service or the agent service fails to convert one. -/
theorem roles_convert {t t' : OrgTables} {calls : List ServiceCall} (ht : RolesConvert t)
    (hcalls : Along step (fun t call => namesEnumRole t call = true) t calls)
    (h : exec step t calls = some t') (orgId userIdentity : String) :
    (∀ operation : GatedOperation,
      NoConversionError (requireRole t' orgId userIdentity operation.minRoles)) ∧
    NoConversionError (listMembers t' orgId userIdentity) ∧
    NoConversionError (OrganizationService.deleteOrganization t' orgId userIdentity) ∧
    (∀ request memberId,
      NoConversionError (OrganizationService.addMember t' orgId request userIdentity memberId)) ∧
    (∀ userId newRole,
      NoConversionError
        (OrganizationService.updateMemberRole t' orgId userId newRole userIdentity)) ∧
    ∀ userId,
      NoConversionError (OrganizationService.removeMember t' orgId userId userIdentity) := by
  have ht' : RolesConvert t' :=
    exec_invariant (fun t call t' ht hcall h => rolesConvert_step ht hcall h) ht hcalls h
  exact ⟨fun operation => .requireRole ht' _, .listMembers ht', .deleteOrganization ht',
    fun request memberId => .addMember ht' request memberId,
    fun userId newRole => .updateMemberRole ht' userId newRole,
    fun userId => .removeMember ht' userId⟩

/-- Bob creates an organization, adds Carol and assigns her a role. -/
def carolBecomes (roleName : String) : List ServiceCall :=
  [.createOrganization "org" "bob" "org" "m1", .addMember "org" ⟨"carol", .member⟩ "bob" "m2",
    .rbac "org" "bob" (.assignRole "carol" roleName)]

/-- Tables without rows. -/
def noRows : OrgTables := ⟨Table.empty, Table.empty, Table.empty, Table.empty⟩

theorem roles_convert_viewer :
    NoConversionError (listMembers ((exec step noRows (carolBecomes "viewer")).get (by decide))
      "org" "bob") :=
  have hrows : RolesConvert noRows := fun member hmember => by cases hmember
  (roles_convert hrows (by decide) (Option.some_get _).symm "org" "bob").2.1

/-- Carol becomes a developer, and the members can no longer be listed. -/
theorem developer_assigned :
    ¬ ∀ (t t' : OrgTables) (calls : List ServiceCall) (orgId userIdentity : String),
      RolesConvert t → exec step t calls = some t' →
      NoConversionError (listMembers t' orgId userIdentity) := by
  intro h
  have hrun : (exec step noRows (carolBecomes "developer")).any (fun t =>
      listMembers t "org" "bob" = .error (.valueError "developer")) = true := by
    decide
  obtain ⟨t, ht, herror⟩ := (Option.any_eq_true _ _).mp hrun
  exact h noRows t _ "org" "bob" (fun member hmember => by cases hmember) ht "developer"
    (of_decide_eq_true herror)

end ServiceCall

end OpenLangGraph
