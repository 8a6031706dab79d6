import OpenLangGraph.Foundation.Interleaving
import OpenLangGraph.Services.ServiceCalls

/-!
# The last owner

The operations that write the roles of members, as programs whose statements interleave, and which
may fail between any two of them.

## Check and write

`update_member_role` and `remove_member` count the owners before they take one away, in statements
of their own: two requests that both count two owners may take one away each. `assign_role` counts
nothing. `create_organization` commits the organization before it adds its first owner.

The last-owner guard of the two former operations is what the invariant needs, of all three writes,
in the state in which the write is made.

## Main definitions

* `MembershipCall`, `MembershipCall.program` — the operations
* `OrgStore` — the tables, and the organizations that still wait for their first owner
* `Statement.guard` — the last-owner guard of a write

## Main results

* `run_program` — a program that runs alone is the operation
* `owned_apply` — a guarded write leaves every organization an owner
* `owner_remains` — so does every run whose writes are guarded
* `sole_owner_reassigned` — a run after which an organization has none
-/

namespace OpenLangGraph

open Transition OrganizationService

/-- The tables, and the organizations that have been committed without their first owner. -/
structure OrgStore where
  tables : OrgTables
  awaiting : List String

/-- The writes, each with its commit. -/
inductive Statement
  | insertOrganization (organization : Organization)
  | insertCreator (memberId orgId userIdentity : String)
  | insertMember (member : Member)
  | setRole (orgId userId role : String)
  | setRoleOf (member : Member) (role : String)
  | deleteMember (member : Member)

namespace Statement

/-- `INSERT INTO organization_member` -/
def addMember (s : OrgStore) (member : Member) (awaiting : List String) :
    Except OrgError OrgStore :=
  match s.tables.members.insert member with
  | none => .error .integrityError
  | some members => .ok ⟨{ s.tables with members }, awaiting⟩

def apply : Statement → OrgStore → Except OrgError OrgStore
  | .insertOrganization organization, s =>
    if s.tables.organizations.rows.any (·.slug = organization.slug) then .error .integrityError
    else
      match s.tables.organizations.insert organization with
      | none => .error .integrityError
      | some organizations =>
        .ok ⟨{ s.tables with organizations }, organization.orgId :: s.awaiting⟩
  | .insertCreator memberId orgId userIdentity, s =>
    addMember s ⟨memberId, orgId, userIdentity, OrganizationRole.owner.value, none⟩
      (s.awaiting.filter (· ≠ orgId))
  | .insertMember member, s => addMember s member s.awaiting
  | .setRole orgId userId role, s =>
    .ok { s with tables := OrganizationService.setRole s.tables orgId userId role }
  | .setRoleOf member role, s =>
    .ok { s with tables := RbacService.setRoleOf s.tables member role }
  | .deleteMember member, s =>
    .ok { s with tables := OrganizationService.deleteMember s.tables member }

end Statement

/-! ### The operations -/

/-- An operation with its arguments, and the ids that the database gives to new rows. -/
inductive MembershipCall
  | createOrganization (slug userIdentity orgId memberId : String)
  | addMember (orgId : String) (request : OrganizationMemberCreate)
      (userIdentity memberId : String)
  | updateMemberRole (orgId userId : String) (newRole : OrganizationRole) (userIdentity : String)
  | removeMember (orgId userId userIdentity : String)
  | assignRole (orgId userId roleName assignedBy : String)

namespace MembershipCall

/-- What `create_organization` reads. -/
def checkSlug (t : OrgTables) (slug : String) : Except OrgError Unit :=
  if slug = "" then
    .error (.httpException 400 "Could not generate a valid slug from the organization name")
  else if t.organizations.rows.any (·.slug = slug) then
    .error (.httpException 409 ("Organization with slug '" ++ slug ++ "' already exists"))
  else .ok ()

/-- The second query of `add_member`. -/
def checkNewMember (t : OrgTables) (orgId userId : String) : Except OrgError Unit :=
  if (t.member? orgId userId).isSome then
    .error (.httpException 409 ("User '" ++ userId ++ "' is already a member"))
  else .ok ()

/-- The query for the member that an operation is about. -/
def target (t : OrgTables) (orgId userId : String) (missing : OrgError) : Except OrgError Member :=
  match t.member? orgId userId with
  | none => .error missing
  | some member => .ok member

/-- The first query of `assign_role`. -/
def checkRoleExists (t : OrgTables) (orgId roleName : String) : Except OrgError Unit :=
  if RbacService.roleExists t orgId roleName then .ok ()
  else .error (.httpException 404 ("Role '" ++ roleName ++ "' not found"))

/-- The operations as programs. An `UPDATE` that would not change the row is not made. -/
def program : MembershipCall → Program OrgStore Statement OrgError
  | .createOrganization slug userIdentity orgId memberId =>
    .read (fun s => checkSlug s.tables slug) fun _ =>
    .write (.insertOrganization ⟨orgId, slug⟩) <|
    .write (.insertCreator memberId orgId userIdentity) <|
    .ended (.ok ())
  | .addMember orgId request userIdentity memberId =>
    .read (fun s => do
      let requesterRole ← requireRole s.tables orgId userIdentity [.owner, .admin]
      checkAddOwner requesterRole request.role) fun _ =>
    .read (fun s => checkNewMember s.tables orgId request.userId) fun _ =>
    .write (.insertMember (newMember orgId userIdentity memberId request)) <|
    .ended (.ok ())
  | .updateMemberRole orgId userId newRole userIdentity =>
    .read (fun s => requireRole s.tables orgId userIdentity [.owner, .admin]) fun requesterRole =>
    .read (fun s => do
      let member ← target s.tables orgId userId (memberNotFound userId)
      let currentRole ← convertRole member.role
      checkOwnerChange requesterRole currentRole newRole
      return currentRole) fun currentRole =>
    .read (fun s => checkDemotion s.tables orgId currentRole newRole) fun _ =>
    .write (.setRole orgId userId newRole.value) <|
    .ended (.ok ())
  | .removeMember orgId userId userIdentity =>
    .read (fun s => do
      let role ← getUserRole s.tables orgId userIdentity
      checkMayRemove role orgId userId userIdentity) fun requesterRole =>
    .read (fun s => do
      let member ← target s.tables orgId userId (memberNotFound userId)
      checkRemoveOwner requesterRole member userIdentity
      return member) fun member =>
    .read (fun s => checkRemoveLastOwner s.tables orgId member) fun _ =>
    .write (.deleteMember member) <|
    .ended (.ok ())
  | .assignRole orgId userId roleName _ =>
    .read (fun s => checkRoleExists s.tables orgId roleName) fun _ =>
    .read (fun s => target s.tables orgId userId
      (.httpException 404 ("User '" ++ userId ++ "' not a member of organization"))) fun member =>
    if member.role = roleName then .ended (.ok ())
    else .write (.setRoleOf member roleName) (.ended (.ok ()))

/-- The completed call. -/
def toServiceCall : MembershipCall → ServiceCall
  | .createOrganization slug userIdentity orgId memberId =>
    .createOrganization slug userIdentity orgId memberId
  | .addMember orgId request userIdentity memberId => .addMember orgId request userIdentity memberId
  | .updateMemberRole orgId userId newRole userIdentity =>
    .updateMemberRole orgId userId newRole userIdentity
  | .removeMember orgId userId userIdentity => .removeMember orgId userId userIdentity
  | .assignRole orgId userId roleName assignedBy =>
    .rbac orgId assignedBy (.assignRole userId roleName)

end MembershipCall

/-! ### What a write leaves -/

/-- The last-owner guard of `remove_member` passes. -/
def isSpare (t : OrgTables) (member : Member) : Bool :=
  (checkRemoveLastOwner t member.orgId member).isOk

theorem isSpare_iff {t : OrgTables} {member : Member} :
    isSpare t member = true ↔ (member.role = "owner" → 1 < t.ownerCount member.orgId) := by
  rw [isSpare, checkRemoveLastOwner]
  by_cases howner : member.role = OrganizationRole.owner.value
  · have howner' : member.role = "owner" := howner
    rw [if_pos howner, checkLastOwner]
    by_cases hle : t.ownerCount member.orgId ≤ 1
    · rw [if_pos hle]
      simp [Except.isOk, Except.toBool, howner', hle]
    · rw [if_neg hle]
      simp [Except.isOk, Except.toBool, Nat.lt_of_not_le hle]
  · have howner' : member.role ≠ "owner" := howner
    rw [if_neg howner]
    simp [Except.isOk, Except.toBool, howner']

namespace Statement

/-- The row that `UPDATE` and `DELETE` by id find: a member can have been removed and added again
since it was read. -/
def currentRow (t : OrgTables) (member : Member) : Option Member :=
  (t.members.find? member.key).filter (·.id = member.id)

/-- The last-owner guard of a write that takes a role from a member. -/
def guard (s : OrgStore) : Statement → Bool
  | .setRole orgId userId role =>
    role = "owner" || (s.tables.member? orgId userId).all (isSpare s.tables)
  | .setRoleOf member role => role = "owner" || (currentRow s.tables member).all (isSpare s.tables)
  | .deleteMember member => (currentRow s.tables member).all (isSpare s.tables)
  | _ => true

/-- The row of a member who is not spared goes, and the others stay. -/
theorem ownerCount_pos_of_le {t : OrgTables} {orgId : String} {k : String × String}
    {p : Member → Bool} {n : ℕ} (hp : ∀ row, p row = true → row.key = k)
    (hspare : ∀ row ∈ t.members.rows, p row = true → isSpare t row = true)
    (hpos : 0 < t.ownerCount orgId)
    (hle : t.ownerCount orgId ≤ n + t.members.rows.countP fun row => p row && row.owns orgId) :
    0 < n := by
  have hone : (t.members.rows.countP fun row => p row && row.owns orgId) ≤ 1 :=
    Table.countP_le_one fun row hrow => hp row (Bool.and_eq_true_iff.mp hrow).1
  by_cases hnone : (t.members.rows.countP fun row => p row && row.owns orgId) = 0
  · omega
  · obtain ⟨row, hrow, hboth⟩ := List.countP_pos_iff.mp (Nat.pos_of_ne_zero hnone)
    obtain ⟨hprow, howns⟩ := Bool.and_eq_true_iff.mp hboth
    obtain ⟨horg, hrole⟩ := Bool.and_eq_true_iff.mp howns
    have hmore := isSpare_iff.mp (hspare row hrow hprow) (of_decide_eq_true hrole)
    rw [of_decide_eq_true horg] at hmore
    omega

theorem ownerCount_update {t : OrgTables} {orgId role : String} {k : String × String}
    {p : Member → Bool} (hp : ∀ row, p row = true → row.key = k)
    (hguard : role = "owner" ∨ ∀ row ∈ t.members.rows, p row = true → isSpare t row = true)
    (hpos : 0 < t.ownerCount orgId) :
    0 < OrgTables.ownerCount
      { t with
        members := t.members.updateIf p ({ · with role }) (Member.key_role role) } orgId := by
  have hle : t.ownerCount orgId ≤ _ + _ :=
    Table.countP_le_updateIf (p := p) (q := (·.owns orgId)) (Member.key_role role)
  rcases hguard with rfl | hspare
  · have hnone : (t.members.rows.countP fun row : Member =>
        p row && row.owns orgId && !({ row with role := "owner" } : Member).owns orgId) = 0 := by
      refine List.countP_eq_zero.mpr fun row _ => ?_
      cases horg : decide (row.orgId = orgId) <;> simp [Member.owns, horg]
    rw [hnone] at hle
    exact Nat.lt_of_lt_of_le hpos hle
  · refine ownerCount_pos_of_le hp hspare hpos (Nat.le_trans hle (Nat.add_le_add_left ?_ _))
    exact List.countP_mono_left fun row _ hrow => (Bool.and_eq_true_iff.mp hrow).1

theorem ownerCount_delete {t : OrgTables} {orgId : String} {k : String × String}
    {p : Member → Bool} (hp : ∀ row, p row = true → row.key = k)
    (hspare : ∀ row ∈ t.members.rows, p row = true → isSpare t row = true)
    (hpos : 0 < t.ownerCount orgId) :
    0 < OrgTables.ownerCount { t with members := t.members.deleteIf p } orgId :=
  ownerCount_pos_of_le hp hspare hpos Table.countP_le_deleteIf

/-- The row that is found is the only one with the key. -/
theorem spare_of_find? {t : OrgTables} {k : String × String}
    (h : (t.members.find? k).all (isSpare t) = true) :
    ∀ row ∈ t.members.rows, row.key = k → isSpare t row = true := by
  rintro row hrow rfl
  rw [Table.find?_key hrow] at h
  exact h

theorem spare_of_currentRow {t : OrgTables} {member : Member}
    (h : (currentRow t member).all (isSpare t) = true) :
    ∀ row ∈ t.members.rows, (row.key = member.key && row.id = member.id) = true →
      isSpare t row = true := by
  intro row hrow hsame
  obtain ⟨hkey, hid⟩ := Bool.and_eq_true_iff.mp hsame
  rw [currentRow, ← of_decide_eq_true hkey, Table.find?_key hrow, Option.filter_some,
    if_pos hid] at h
  exact h

/-- Every organization waits for its first owner or has an owner. -/
def Owned (s : OrgStore) : Prop :=
  ∀ organization ∈ s.tables.organizations.rows,
    organization.orgId ∈ s.awaiting ∨ 0 < s.tables.ownerCount organization.orgId

variable {s s' : OrgStore}

theorem owned_addMember {member : Member} {awaiting : List String} (hs : Owned s)
    (hawaiting : ∀ orgId ∈ s.awaiting, orgId ∉ awaiting → member.owns orgId = true)
    (h : addMember s member awaiting = .ok s') : Owned s' := by
  rw [addMember] at h
  split at h
  · cases h
  · rename_i members hinsert
    cases h
    intro organization horganization
    have hcount : OrgTables.ownerCount { s.tables with members } organization.orgId =
        s.tables.ownerCount organization.orgId +
          if member.owns organization.orgId = true then 1 else 0 := by
      rw [OrgTables.ownerCount, (Table.insert_eq_some hinsert).2, List.countP_append,
        List.countP_singleton]
      rfl
    by_cases hstill : organization.orgId ∈ awaiting
    · exact .inl hstill
    · refine .inr (hcount ▸ ?_)
      rcases hs organization horganization with hwaits | hpos
      · rw [if_pos (hawaiting _ hwaits hstill)]
        omega
      · omega

/-- **A guarded write** leaves every organization an owner. -/
theorem owned_apply {statement : Statement} (hs : Owned s) (hguard : statement.guard s = true)
    (h : statement.apply s = .ok s') : Owned s' := by
  cases statement with
  | insertOrganization organization =>
    rw [apply] at h
    split at h
    · cases h
    · split at h
      · cases h
      · rename_i organizations hinsert
        cases h
        intro row hrow
        rw [(Table.insert_eq_some hinsert).2] at hrow
        rcases List.mem_append.mp hrow with hold | hnew
        · exact (hs row hold).imp_left (List.mem_cons_of_mem _)
        · rw [List.mem_singleton.mp hnew]
          exact .inl List.mem_cons_self
  | insertCreator memberId orgId userIdentity =>
    refine owned_addMember hs (fun waiting hwaits hnot => ?_) h
    have hsame : waiting = orgId := by
      by_contra hne
      exact hnot (List.mem_filter.mpr ⟨hwaits, decide_eq_true hne⟩)
    rw [hsame]
    exact Bool.and_eq_true_iff.mpr ⟨decide_eq_true rfl, rfl⟩
  | insertMember member => exact owned_addMember hs (fun _ hmem hnot => absurd hmem hnot) h
  | setRole orgId userId role =>
    cases h
    intro organization horganization
    refine (hs organization horganization).imp_right
      (ownerCount_update (k := (orgId, userId)) ?_ ?_)
    · exact fun row hrow => of_decide_eq_true hrow
    · refine ((Bool.or_eq_true _ _).mp hguard).imp of_decide_eq_true fun hspare row hrow hkey => ?_
      exact spare_of_find? hspare row hrow (of_decide_eq_true hkey)
  | setRoleOf member role =>
    cases h
    intro organization horganization
    refine (hs organization horganization).imp_right (ownerCount_update (k := member.key) ?_ ?_)
    · exact fun row hrow => of_decide_eq_true (Bool.and_eq_true_iff.mp hrow).1
    · exact ((Bool.or_eq_true _ _).mp hguard).imp of_decide_eq_true spare_of_currentRow
  | deleteMember member =>
    cases h
    intro organization horganization
    refine (hs organization horganization).imp_right (ownerCount_delete (k := member.key) ?_ ?_)
    · exact fun row hrow => of_decide_eq_true (Bool.and_eq_true_iff.mp hrow).1
    · exact spare_of_currentRow hguard

end Statement

/-! ### Running alone -/

namespace MembershipCall

open Program

/-- No table has a member of an organization that does not exist, as the foreign key says. -/
def MembersBelong (t : OrgTables) : Prop :=
  ∀ member ∈ t.members.rows, member.orgId ∈ t.organizations.rows.map Organization.orgId

theorem setRoleOf_self {t : OrgTables} {member : Member} (hmember : member ∈ t.members.rows) :
    RbacService.setRoleOf t member member.role = t := by
  have hrows : (t.members.updateIf (fun row => row.key = member.key && row.id = member.id)
      ({ · with role := member.role }) (Member.key_role member.role)).rows = t.members.rows := by
    refine (List.map_congr_left fun row hrow => ?_).trans (List.map_id _)
    split
    · rename_i hsame
      have hkey := of_decide_eq_true (Bool.and_eq_true_iff.mp hsame).1
      rw [List.inj_on_of_nodup_map t.members.unique hrow hmember hkey]
      rfl
    · rfl
  exact congrArg (fun members => { t with members }) (Table.ext hrows)

theorem toMemberPydantic_role (member : Member) (role : OrganizationRole) :
    toMemberPydantic { member with role := role.value } =
      .ok ⟨member.id, member.orgId, member.userId, role, member.invitedBy⟩ := by
  cases role <;> rfl

theorem run_createOrganization (slug userIdentity orgId memberId : String) (s : OrgStore)
    (hbelong : MembersBelong s.tables) :
    ((createOrganization slug userIdentity orgId memberId).program.run Statement.apply s).1.tables =
      (ServiceCall.createOrganization slug userIdentity orgId memberId).after s.tables := by
  rw [ServiceCall.after, ServiceCall.perform, program, OrganizationService.createOrganization]
  simp only [run_read, checkSlug]
  by_cases hempty : slug = ""
  · rw [if_pos hempty, if_pos hempty]
    rfl
  · rw [if_neg hempty, if_neg hempty]
    by_cases hslug : s.tables.organizations.rows.any (·.slug = slug) = true
    · rw [if_pos hslug, if_pos hslug]
      rfl
    · rw [if_neg hslug, if_neg hslug]
      simp only [run, Statement.apply, hslug, Bool.false_eq_true, if_false]
      cases hinsert : s.tables.organizations.insert ⟨orgId, slug⟩ with
      | none => rfl
      | some organizations =>
        simp only [Statement.addMember]
        cases hmember : s.tables.members.insert
            ⟨memberId, orgId, userIdentity, OrganizationRole.owner.value, none⟩ with
        | some members => rfl
        | none =>
          obtain ⟨member, hrow, hkey⟩ := List.mem_map.mp (Table.mem_of_insert_eq_none hmember)
          have horg : member.orgId = orgId := congrArg Prod.fst hkey
          exact absurd (horg ▸ hbelong member hrow) (Table.insert_eq_some hinsert).1

theorem run_addMember (orgId : String) (request : OrganizationMemberCreate)
    (userIdentity memberId : String) (s : OrgStore) :
    ((addMember orgId request userIdentity memberId).program.run Statement.apply s).1.tables =
      (ServiceCall.addMember orgId request userIdentity memberId).after s.tables := by
  rw [ServiceCall.after, ServiceCall.perform, program, OrganizationService.addMember]
  simp only [run_read]
  cases requireRole s.tables orgId userIdentity [.owner, .admin] with
  | error e => rfl
  | ok requesterRole =>
    simp only [bind, Except.bind]
    cases checkAddOwner requesterRole request.role with
    | error e => rfl
    | ok u =>
      simp only [checkNewMember]
      by_cases hmember : (s.tables.member? orgId request.userId).isSome = true
      · rw [if_pos hmember, if_pos hmember]
        rfl
      · rw [if_neg hmember, if_neg hmember]
        simp only [run, Statement.apply, Statement.addMember, newMember]
        cases s.tables.members.insert _ with
        | none => rfl
        | some members =>
          dsimp only
          have hview := toMemberPydantic_role
            (newMember orgId userIdentity memberId request) request.role
          rw [newMember] at hview
          rw [hview]
          rfl

theorem run_updateMemberRole (orgId userId : String) (newRole : OrganizationRole)
    (userIdentity : String) (s : OrgStore) :
    ((updateMemberRole orgId userId newRole userIdentity).program.run Statement.apply s).1.tables =
      (ServiceCall.updateMemberRole orgId userId newRole userIdentity).after s.tables := by
  rw [ServiceCall.after, ServiceCall.perform, program, OrganizationService.updateMemberRole]
  simp only [run_read]
  cases requireRole s.tables orgId userIdentity [.owner, .admin] with
  | error e => rfl
  | ok requesterRole =>
    simp only [target, bind, Except.bind]
    cases s.tables.member? orgId userId with
    | none => rfl
    | some member =>
      simp only [toMemberPydantic_role]
      cases convertRole member.role with
      | error e => rfl
      | ok currentRole =>
        simp only []
        cases checkOwnerChange requesterRole currentRole newRole with
        | error e => rfl
        | ok u =>
          simp only [pure, Except.pure]
          cases checkDemotion s.tables orgId currentRole newRole <;> rfl

theorem run_removeMember (orgId userId userIdentity : String) (s : OrgStore) :
    ((removeMember orgId userId userIdentity).program.run Statement.apply s).1.tables =
      (ServiceCall.removeMember orgId userId userIdentity).after s.tables := by
  rw [ServiceCall.after, ServiceCall.perform, program, OrganizationService.removeMember]
  simp only [run_read, bind, Except.bind, target]
  cases getUserRole s.tables orgId userIdentity with
  | error e => rfl
  | ok role =>
    simp only []
    cases checkMayRemove role orgId userId userIdentity with
    | error e => rfl
    | ok requesterRole =>
      simp only []
      cases s.tables.member? orgId userId with
      | none => rfl
      | some member =>
        simp only []
        cases checkRemoveOwner requesterRole member userIdentity with
        | error e => rfl
        | ok u =>
          simp only [pure, Except.pure]
          cases checkRemoveLastOwner s.tables orgId member <;> rfl

theorem run_assignRole (orgId userId roleName assignedBy : String) (s : OrgStore) :
    ((assignRole orgId userId roleName assignedBy).program.run Statement.apply s).1.tables =
      (ServiceCall.rbac orgId assignedBy (.assignRole userId roleName)).after s.tables := by
  rw [ServiceCall.after, ServiceCall.perform, program, RbacOperation.run, RbacService.assignRole]
  simp only [run_read, checkRoleExists, target]
  cases RbacService.roleExists s.tables orgId roleName with
  | false => rfl
  | true =>
    cases hmember : s.tables.member? orgId userId with
    | none => rfl
    | some member =>
      by_cases hrole : member.role = roleName
      · subst hrole
        have hself := setRoleOf_self (OrgTables.member?_eq_some_iff.mp hmember).1
        simp [run, Except.map, hself]
      · simp [run, Statement.apply, Except.map, hrole]

/-- **A program that runs alone** is the operation. -/
theorem run_program (call : MembershipCall) (s : OrgStore) (hbelong : MembersBelong s.tables) :
    (call.program.run Statement.apply s).1.tables = call.toServiceCall.after s.tables := by
  cases call with
  | createOrganization slug userIdentity orgId memberId =>
    exact run_createOrganization slug userIdentity orgId memberId s hbelong
  | addMember orgId request userIdentity memberId =>
    exact run_addMember orgId request userIdentity memberId s
  | updateMemberRole orgId userId newRole userIdentity =>
    exact run_updateMemberRole orgId userId newRole userIdentity s
  | removeMember orgId userId userIdentity => exact run_removeMember orgId userId userIdentity s
  | assignRole orgId userId roleName assignedBy =>
    exact run_assignRole orgId userId roleName assignedBy s

end MembershipCall

/-! ### Runs -/

namespace OrgStore

/-- Calls that run at the same time. -/
abbrev step : Interleaving OrgStore Statement OrgError →
    InterleavingLabel MembershipCall OrgError → Option (Interleaving OrgStore Statement OrgError) :=
  Interleaving.step MembershipCall.program Statement.apply

/-- **Every organization always has an owner**, from its second commit on, if the last-owner guard
holds of each write in the state in which it is made. -/
theorem owner_remains {t : OrgTables} {s : Interleaving OrgStore Statement OrgError}
    {labels : List (InterleavingLabel MembershipCall OrgError)}
    (ht : ∀ organization ∈ t.organizations.rows, ∃ member ∈ t.members.rows,
      member.owns organization.orgId = true)
    (hguards : Along step (fun s label => Interleaving.guarded Statement.guard s label = true)
      ⟨⟨t, []⟩, []⟩ labels)
    (h : exec step ⟨⟨t, []⟩, []⟩ labels = some s) :
    ∀ organization ∈ s.state.tables.organizations.rows, organization.orgId ∉ s.state.awaiting →
      ∃ member ∈ s.state.tables.members.rows, member.owns organization.orgId = true := by
  have howned : Statement.Owned s.state :=
    Interleaving.state_invariant
      (fun _ _ _ hs hguard happly => Statement.owned_apply hs hguard happly)
      (fun organization horganization =>
        .inr (List.countP_pos_iff.mpr (ht organization horganization)))
      hguards h
  intro organization horganization hnot
  exact List.countP_pos_iff.mp ((howned organization horganization).resolve_left hnot)

/-- Tables without rows. -/
def noTables : OrgTables := ⟨Table.empty, Table.empty, Table.empty, Table.empty⟩

/-- Bob creates an organization, makes Carol an owner of it and leaves. -/
def bobLeaves : List (InterleavingLabel MembershipCall OrgError) :=
  [.start (.createOrganization "org" "bob" "org" "m1"), .step 0, .step 0, .step 0,
    .start (.addMember "org" ⟨"carol", .owner⟩ "bob" "m2"), .step 1, .step 1, .step 1,
    .start (.removeMember "org" "bob" "bob"), .step 2, .step 2, .step 2, .step 2]

theorem owner_remains_carol :
    ∃ member ∈
      ((exec step ⟨⟨noTables, []⟩, []⟩ bobLeaves).get (by decide)).state.tables.members.rows,
      member.owns "org" = true :=
  have hrows : ∀ organization ∈ noTables.organizations.rows, ∃ member ∈ noTables.members.rows,
      member.owns organization.orgId = true := fun _ horganization => by cases horganization
  owner_remains hrows (by decide) (Option.some_get _).symm ⟨"org", "org"⟩ (by decide) (by decide)

/-- Bob owns an organization alone, and is assigned the role of a viewer. -/
theorem sole_owner_reassigned :
    ¬ ∀ (t : OrgTables) (s : Interleaving OrgStore Statement OrgError)
      (labels : List (InterleavingLabel MembershipCall OrgError)),
      (∀ organization ∈ t.organizations.rows, ∃ member ∈ t.members.rows,
        member.owns organization.orgId = true) →
      exec step ⟨⟨t, []⟩, []⟩ labels = some s →
      ∀ organization ∈ s.state.tables.organizations.rows,
        ∃ member ∈ s.state.tables.members.rows, member.owns organization.orgId = true := by
  intro h
  have hrows : ∀ organization ∈ noTables.organizations.rows, ∃ member ∈ noTables.members.rows,
      member.owns organization.orgId = true := fun _ horganization => by cases horganization
  have howner := h noTables _
    [.start (.createOrganization "org" "bob" "org" "m1"), .step 0, .step 0, .step 0,
      .start (.assignRole "org" "bob" "viewer" "bob"), .step 1, .step 1, .step 1]
    hrows rfl ⟨"org", "org"⟩ (by decide)
  exact absurd howner (by decide)

end OrgStore

end OpenLangGraph
