import Mathlib.Data.List.Dedup
import Mathlib.Data.List.Sort

/-!
# Permissions

How `services/permission_service.py` resolves the permissions of a member and checks one. A
permission is a string; `*` grants everything and `res:*` grants everything that begins with
`res:`.

## Denials against grants

A denial takes the *strings* that it matches out of the set of grants, and what is left is matched
against the required permission. So a denial wins over a grant that it matches itself, and a wider
grant survives: `threads:*` with `threads:delete` denied still grants `threads:delete`.

## Main definitions

* `matchesOne` — a pattern against a permission
* `resolvePermissions`, `matchesPermission`

## Main results

* `mem_resolvePermissions` — which grants survive
* `denial_wins_iff` — when a denial wins
-/

namespace OpenLangGraph

namespace PermissionService

/-- `perm.endswith(":*")` -/
def isWildcard (perm : String) : Bool := [':', '*'].isSuffixOf perm.toList

/-- `p.startswith(perm[:-1])` -/
def startsWithPrefix (perm p : String) : Bool := perm.toList.dropLast.isPrefixOf p.toList

/-- One turn of the loop of `_matches_permission`. -/
def matchesOne (perm required : String) : Bool :=
  perm = "*" || perm = required || isWildcard perm && startsWithPrefix perm required

/-- `_matches_permission` -/
def matchesPermission (required : String) (granted : List String) : Bool :=
  granted.any (matchesOne · required)

/-- The loop of `_resolve_permissions` over the denials; `none` is the early return. -/
def discardDenied (allPerms : List String) : List String → Option (List String)
  | [] => some allPerms
  | denied :: rest =>
    if denied = "*" then none
    else
      let allPerms := allPerms.filter (· ≠ denied)
      let allPerms := if isWildcard denied then
        allPerms.filter fun p => !startsWithPrefix denied p else allPerms
      discardDenied allPerms rest

/-- `_resolve_permissions` -/
def resolvePermissions (rolePerms customGranted customDenied : List String) : List String :=
  match discardDenied (rolePerms ++ customGranted).dedup customDenied with
  | none => []
  | some allPerms => allPerms.insertionSort (· ≤ ·)

/-! ### Which grants survive -/

/-- One denial takes away the strings that it matches. -/
theorem mem_discard {allPerms : List String} {denied p : String} (hdenied : denied ≠ "*") :
    (p ∈ if isWildcard denied then
        (allPerms.filter (· ≠ denied)).filter fun p => !startsWithPrefix denied p
      else allPerms.filter (· ≠ denied)) ↔ p ∈ allPerms ∧ matchesOne denied p = false := by
  have hmatches : matchesOne denied p = false ↔
      p ≠ denied ∧ (isWildcard denied = true → startsWithPrefix denied p = false) := by
    rw [ne_comm]
    simp [matchesOne, hdenied]
  rw [hmatches]
  by_cases hwild : isWildcard denied = true
  · rw [if_pos hwild, List.mem_filter, List.mem_filter, and_assoc]
    simp [hwild]
  · rw [if_neg hwild, List.mem_filter]
    simp [hwild]

theorem mem_discardDenied (customDenied allPerms : List String) (p : String) :
    (∃ perms, discardDenied allPerms customDenied = some perms ∧ p ∈ perms) ↔
      p ∈ allPerms ∧ ∀ denied ∈ customDenied, matchesOne denied p = false := by
  induction customDenied generalizing allPerms with
  | nil => simp [discardDenied]
  | cons denied rest ih =>
    rw [discardDenied, List.forall_mem_cons]
    by_cases hdenied : denied = "*"
    · rw [if_pos hdenied]
      simp [matchesOne, hdenied]
    · rw [if_neg hdenied]
      refine (ih _).trans ?_
      rw [mem_discard hdenied, and_assoc]

/-- A grant survives if no denial matches it as a string. -/
theorem mem_resolvePermissions {rolePerms customGranted customDenied : List String} {p : String} :
    p ∈ resolvePermissions rolePerms customGranted customDenied ↔
      (p ∈ rolePerms ∨ p ∈ customGranted) ∧
        ∀ denied ∈ customDenied, matchesOne denied p = false := by
  have hdiscard := mem_discardDenied customDenied (rolePerms ++ customGranted).dedup p
  rw [List.mem_dedup, List.mem_append] at hdiscard
  rw [← hdiscard, resolvePermissions]
  cases discardDenied (rolePerms ++ customGranted).dedup customDenied with
  | none => simp
  | some perms => simp [List.mem_insertionSort]

/-- What is granted in the end: what a surviving grant matches. -/
theorem matchesPermission_resolvePermissions
    {rolePerms customGranted customDenied : List String} {required : String} :
    matchesPermission required (resolvePermissions rolePerms customGranted customDenied) = true ↔
      ∃ perm, (perm ∈ rolePerms ∨ perm ∈ customGranted) ∧
        (∀ denied ∈ customDenied, matchesOne denied perm = false) ∧
        matchesOne perm required = true := by
  rw [matchesPermission, List.any_eq_true]
  simp only [mem_resolvePermissions, and_assoc]

/-! ### When a denial wins -/

/-- The grant covers the permission as a wildcard. -/
def covers (perm required : String) : Bool :=
  perm = "*" || isWildcard perm && startsWithPrefix perm required

theorem matchesOne_iff {perm required : String} :
    matchesOne perm required = true ↔ perm = required ∨ covers perm required = true := by
  simp only [matchesOne, covers, Bool.or_eq_true, Bool.and_eq_true, decide_eq_true_eq]
  constructor
  · rintro ((h | h) | h)
    · exact .inr (.inl h)
    · exact .inl h
    · exact .inr (.inr h)
  · rintro (h | h | h)
    · exact .inl (.inr h)
    · exact .inl (.inl h)
    · exact .inr h

/-- **When a denial wins.** A denial of a permission wins over all grants exactly if every wildcard
that covers the permission is itself denied. -/
theorem denial_wins_iff (rolePerms customGranted customDenied : List String) (required : String) :
    ((∃ denied ∈ customDenied, matchesOne denied required = true) →
        matchesPermission required (resolvePermissions rolePerms customGranted customDenied) =
          false) ↔
      ((∀ denied ∈ customDenied, matchesOne denied required = false) ∨
        ∀ perm, perm ∈ rolePerms ∨ perm ∈ customGranted → covers perm required = true →
          ∃ denied ∈ customDenied, matchesOne denied perm = true) := by
  have hgranted : matchesPermission required
        (resolvePermissions rolePerms customGranted customDenied) = true ↔ _ :=
    matchesPermission_resolvePermissions
  constructor
  · intro h
    by_cases hdenied : ∃ denied ∈ customDenied, matchesOne denied required = true
    · refine .inr fun perm hperm hcovers => ?_
      by_contra hsurvives
      have hno : ∀ denied ∈ customDenied, matchesOne denied perm = false := fun denied hd => by
        by_contra hmatch
        exact hsurvives ⟨denied, hd, by simpa using hmatch⟩
      have htrue := hgranted.mpr ⟨perm, hperm, hno, matchesOne_iff.mpr (.inr hcovers)⟩
      rw [h hdenied] at htrue
      cases htrue
    · refine .inl fun denied hd => ?_
      by_contra hmatch
      exact hdenied ⟨denied, hd, by simpa using hmatch⟩
  · rintro h ⟨denied, hd, hmatch⟩
    rw [Bool.eq_false_iff]
    intro htrue
    obtain ⟨perm, hperm, hno, hmatches⟩ := hgranted.mp htrue
    rcases h with h | h
    · rw [h denied hd] at hmatch
      cases hmatch
    · rcases matchesOne_iff.mp hmatches with rfl | hcovers
      · rw [hno denied hd] at hmatch
        cases hmatch
      · obtain ⟨denied', hd', hmatch'⟩ := h perm hperm hcovers
        rw [hno denied' hd'] at hmatch'
        cases hmatch'

/-- An owner who is denied `threads:delete` is still allowed to delete threads. -/
theorem owner_denied_threads_delete :
    ¬ ∀ (rolePerms customGranted customDenied : List String) (required : String),
      (∃ denied ∈ customDenied, matchesOne denied required = true) →
      matchesPermission required (resolvePermissions rolePerms customGranted customDenied) =
        false := by
  intro h
  have hallowed := h ["*"] [] ["threads:delete"] "threads:delete"
    ⟨_, List.mem_singleton_self _, by decide⟩
  have hgranted := matchesPermission_resolvePermissions.mpr
    (⟨"*", .inl (List.mem_singleton_self _), by decide, by decide⟩ :
      ∃ perm, (perm ∈ ["*"] ∨ perm ∈ []) ∧
        (∀ denied ∈ ["threads:delete"], matchesOne denied perm = false) ∧
        matchesOne perm "threads:delete" = true)
  rw [hallowed] at hgranted
  cases hgranted

end PermissionService

end OpenLangGraph
