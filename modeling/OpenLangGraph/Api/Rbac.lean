import OpenLangGraph.Core.Orm
import OpenLangGraph.Services.RbacService

/-!
# The RBAC endpoints

The endpoints of `api/rbac.py` that write, each a service operation behind `RequireRole` of
`core/rbac.py`.

## Two organizations

`RequireRole` checks the role that the caller holds in the caller's *own* organization, the
`org_id` of the authenticated user. The operation works on the organization in the *path*. Nothing
relates the two.

## Main definitions

* `requireRole` — the dependency
* `RbacOperation.requiredRoles`, `handle` — an endpoint

## Main results

* `handle_inside_iff` — when an endpoint stays inside the organizations of the caller
* `handle_stranger` — an admin of one organization assigns roles in another
-/

namespace OpenLangGraph

/-- The roles that the endpoint of an operation requires. -/
def RbacOperation.requiredRoles : RbacOperation → List String
  | .deleteRole _ => ["owner"]
  | _ => ["owner", "admin"]

namespace RbacApi

/-- `RequireRole(*roles)`, with the user of `request.state`. -/
def requireRole (t : OrgTables) (user : Option User) (roles : List String) :
    Except OrgError String :=
  match user with
  | none => .error (.httpException 401 "Authentication required")
  | some user =>
    match user.orgId with
    | none | some "" => .error (.httpException 400 "Organization context required")
    | some orgId =>
      match t.member? orgId user.identity with
      | none => .error (.httpException 403 "Not a member of organization")
      | some member =>
        if member.role ∈ roles then .ok member.role
        else .error (.httpException 403
          ("Role required: " ++ ", ".intercalate roles ++ ". Your role: " ++ member.role))

/-- The endpoint of an operation on the organization in the path. -/
def handle (t : OrgTables) (user : Option User) (orgId : String) (operation : RbacOperation) :
    RbacService.Outcome := do
  let _ ← requireRole t user operation.requiredRoles
  operation.run t orgId ((user.map User.identity).getD "")

/-- The tables after a request. A request that fails changes nothing. -/
def after (t : OrgTables) : RbacService.Outcome → OrgTables
  | .ok (t', _) => t'
  | .error _ => t

/-- The user is a member of the organization with one of the roles. -/
def holdsRole (t : OrgTables) (userId orgId : String) (roles : List String) : Bool :=
  (t.member? orgId userId).any (·.role ∈ roles)

/-- The caller holds one of the roles in its own organization, which is all that is checked. -/
def holdsRoleInOwn (t : OrgTables) (user : User) (roles : List String) : Bool :=
  user.orgId.any fun orgId => orgId ≠ "" && holdsRole t user.identity orgId roles

theorem requireRole_isOk (t : OrgTables) (user : User) (roles : List String) :
    (requireRole t (some user) roles).isOk = holdsRoleInOwn t user roles := by
  rw [requireRole, holdsRoleInOwn]
  cases user.orgId with
  | none => rfl
  | some orgId =>
    by_cases hempty : orgId = ""
    · simp [hempty, Except.isOk, Except.toBool]
    · split
      · rename_i h
        cases h
      · rename_i h
        cases h
        exact absurd rfl hempty
      · rename_i h
        cases h
        rw [Option.any_some, holdsRole]
        cases t.member? orgId user.identity with
        | none => simp [Except.isOk, Except.toBool]
        | some member =>
          by_cases hrole : member.role ∈ roles <;>
            simp [hrole, hempty, Except.isOk, Except.toBool]

/-- A request succeeds if the caller may act in its own organization, and the operation is
possible in the organization of the path. -/
theorem handle_isOk (t : OrgTables) (user : User) (orgId : String) (operation : RbacOperation) :
    (handle t (some user) orgId operation).isOk =
      (holdsRoleInOwn t user operation.requiredRoles && operation.accepts t orgId) := by
  rw [← requireRole_isOk, ← RbacOperation.run_isOk t orgId user.identity, handle]
  cases requireRole t (some user) operation.requiredRoles <;> rfl

/-- A request that fails changes nothing. -/
theorem after_of_not_isOk {t : OrgTables} {outcome : RbacService.Outcome}
    (h : outcome.isOk = false) : after t outcome = t := by
  cases outcome with
  | error e => rfl
  | ok result => cases h

/-- **When a request stays inside.** A caller who does not hold the required role in the
organization of the path is refused, without effect, exactly if it does not hold the role in its
own organization either, or the operation is not possible anyway. -/
theorem handle_inside_iff (t : OrgTables) (user : User) (orgId : String)
    (operation : RbacOperation) :
    (holdsRole t user.identity orgId operation.requiredRoles = false →
        (handle t (some user) orgId operation).isOk = false ∧
          after t (handle t (some user) orgId operation) = t) ↔
      (holdsRole t user.identity orgId operation.requiredRoles = true ∨
        holdsRoleInOwn t user operation.requiredRoles = false ∨
        operation.accepts t orgId = false) := by
  have hok := handle_isOk t user orgId operation
  constructor
  · intro h
    by_cases hholds : holdsRole t user.identity orgId operation.requiredRoles = true
    · exact .inl hholds
    · have hrefused := (h (by simpa using hholds)).1
      rw [hok, Bool.and_eq_false_iff] at hrefused
      exact .inr hrefused
  · rintro h hholds
    have hrefused : (handle t (some user) orgId operation).isOk = false := by
      rw [hok, Bool.and_eq_false_iff]
      refine h.resolve_left ?_
      rw [hholds]
      exact Bool.false_ne_true
    exact ⟨hrefused, after_of_not_isOk hrefused⟩

/-- Alice is an admin of her own organization, and Bob owns another one. -/
def exampleTables : OrgTables where
  organizations := ⟨[⟨"alice-org", "alice"⟩, ⟨"bob-org", "bob"⟩], by decide⟩
  members :=
    ⟨[⟨"m1", "alice-org", "alice", "admin", none⟩, ⟨"m2", "bob-org", "bob", "owner", none⟩],
      by decide⟩
  roleDefinitions := Table.empty
  customPermissions := Table.empty

/-- Alice makes Bob a viewer of his own organization. -/
theorem handle_stranger :
    ¬ ∀ (t : OrgTables) (user : User) (orgId : String) (operation : RbacOperation),
      holdsRole t user.identity orgId operation.requiredRoles = false →
      (handle t (some user) orgId operation).isOk = false ∧
        after t (handle t (some user) orgId operation) = t := by
  intro h
  have hrefused := h exampleTables ⟨"alice", some "alice-org"⟩ "bob-org"
    (.assignRole "bob" "viewer") (by decide)
  rw [handle_isOk] at hrefused
  exact absurd hrefused.1 (by decide)

end RbacApi

end OpenLangGraph
