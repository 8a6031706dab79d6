import OpenLangGraph.Services.RbacService

/-!
# Calls of the organization and the RBAC service

A history of completed calls of `OrganizationService` and `RBACService`: each call takes effect as
a whole before the next one, or fails and changes nothing.

## Main definitions

* `ServiceCall`, `ServiceCall.perform` — a completed call
* `ServiceCall.step` — the next state of a history
-/

namespace OpenLangGraph

/-- A call of one of the two services, with the ids that the database gives to new rows. -/
inductive ServiceCall
  | createOrganization (slug userIdentity orgId memberId : String)
  | deleteOrganization (orgId userIdentity : String)
  | addMember (orgId : String) (request : OrganizationMemberCreate)
      (userIdentity memberId : String)
  | updateMemberRole (orgId userId : String) (newRole : OrganizationRole) (userIdentity : String)
  | removeMember (orgId userId userIdentity : String)
  | rbac (orgId requester : String) (operation : RbacOperation)

namespace ServiceCall

/-- The tables after a call, and the pairs of organization and user whose cached permissions it
invalidates. The organization service invalidates none. -/
def perform (t : OrgTables) : ServiceCall → Except OrgError (OrgTables × List (String × String))
  | .createOrganization slug userIdentity orgId memberId =>
    (OrganizationService.createOrganization t slug userIdentity orgId memberId).map (·, [])
  | .deleteOrganization orgId userIdentity =>
    (OrganizationService.deleteOrganization t orgId userIdentity).map (·, [])
  | .addMember orgId request userIdentity memberId =>
    (OrganizationService.addMember t orgId request userIdentity memberId).map
      fun result => (result.1, [])
  | .updateMemberRole orgId userId newRole userIdentity =>
    (OrganizationService.updateMemberRole t orgId userId newRole userIdentity).map
      fun result => (result.1, [])
  | .removeMember orgId userId userIdentity =>
    (OrganizationService.removeMember t orgId userId userIdentity).map (·, [])
  | .rbac orgId requester operation =>
    (operation.run t orgId requester).map fun result => (result.1, result.2.map (orgId, ·))

/-- A call that fails changes nothing. -/
def after (t : OrgTables) (call : ServiceCall) : OrgTables :=
  match call.perform t with
  | .ok (t', _) => t'
  | .error _ => t

/-- The next state of a history. -/
def step (t : OrgTables) (call : ServiceCall) : Option OrgTables := some (call.after t)

theorem map_eq_ok {ε α β : Type} {x : Except ε α} {f : α → β} {b : β} (h : x.map f = .ok b) :
    ∃ a, x = .ok a ∧ f a = b := by
  cases x with
  | error e => cases h
  | ok a => exact ⟨a, rfl, Except.ok.inj h⟩

end ServiceCall

namespace OrganizationService

variable {t t' : OrgTables} {orgId userIdentity memberId slug : String}

/-- A new organization has been created, with its creator as owner. -/
theorem createOrganization_eq_ok
    (h : createOrganization t slug userIdentity orgId memberId = .ok t') :
    ∃ organizations members, t.organizations.insert ⟨orgId, slug⟩ = some organizations ∧
      t.members.insert ⟨memberId, orgId, userIdentity, "owner", none⟩ = some members ∧
      t' = { t with organizations, members } := by
  rw [createOrganization] at h
  split at h
  · cases h
  · split at h
    · cases h
    · split at h
      · rename_i organizations members horganization hmember
        cases h
        exact ⟨organizations, members, horganization, hmember, rfl⟩
      · cases h

/-- An organization has been deleted by an owner, with everything of it. -/
theorem deleteOrganization_eq_ok (h : deleteOrganization t orgId userIdentity = .ok t') :
    t' =
      { organizations := t.organizations.deleteIf (·.orgId = orgId)
        members := t.members.deleteIf (·.orgId = orgId)
        roleDefinitions := t.roleDefinitions.deleteIf (·.orgId = orgId)
        customPermissions := t.customPermissions.deleteIf (·.orgId = orgId) } := by
  obtain ⟨_, -, h⟩ := bind_eq_ok.mp h
  split at h
  · exact (Except.ok.inj h).symm
  · cases h

end OrganizationService

end OpenLangGraph
