import OpenLangGraph.Core.Orm
import OpenLangGraph.Foundation.RelyGuarantee
import OpenLangGraph.Services.PermissionCache

/-!
# Permission checks among other requests

`get_effective_permissions` of `services/permission_service.py`, and `RequirePermission` of
`core/rbac.py` which asks for it, while other requests commit what they like, delete what they like
from the cache, and time passes. A check makes three queries, and each sees what is committed by
then. So the permissions that it puts together need not be those of the user at any one time: the
role may be an earlier one than the permissions of the role.

## How old an answer is

A check that has put permissions together keeps them for five minutes. It may have been overtaken by
a deletion of what it is about to keep, so the deletion of an entry does not end its use. But every
part of an answer was true while some check ran, which was over less than five minutes before the
check of the answer began.

## Scope

An organization id has no colon, as `uuid4` makes none; otherwise an answer may be that of another
user. The commits and the deletions are arbitrary. Times are in microseconds, and a check that does
not find the cache goes without it.

## Main definitions

* `CheckStore`, `CheckStatement`, `CheckCall.program` — checks as programs
* `Observed` — each part of the permissions was true at some time of a period
* `IsRecent` — how old an answer may be

## Main results

* `valid_getEffectivePermissions` — what a check may rely on, and guarantees
* `passed_recently` — what lets a request pass `RequirePermission` was true recently
-/

namespace OpenLangGraph

namespace PermissionChecks

open PermissionService Transition

/-! ### The store -/

/-- The tables at a time. -/
structure Moment where
  now : ℕ
  tables : OrgTables

/-- The time of the first query of a check, and the time at which it kept the result. -/
structure Period where
  began : ℕ
  ended : ℕ

/-- What a check that began at a time has found. -/
structure PermissionAnswer where
  userId : String
  orgId : String
  began : ℕ
  value : UserEffectivePermissions

/-- The tables, the cache and the time. The rest is a record: what the tables have been, which
checks have put permissions together, what has been answered, and what has let a request pass. -/
structure CheckStore where
  tables : OrgTables
  cache : TtlCache String UserEffectivePermissions
  now : ℕ
  past : List Moment
  computed : List Period
  answered : List PermissionAnswer
  passed : List (String × PermissionAnswer)

/-- Before any request. -/
def CheckStore.initial (tables : OrgTables) : CheckStore where
  tables := tables
  cache := .empty
  now := 0
  past := [⟨0, tables⟩]
  computed := []
  answered := []
  passed := []

inductive CheckStatement
  /-- another request commits -/
  | commit (tables : OrgTables)
  /-- another request deletes entries -/
  | invalidate (keys : List String)
  | tick (elapsed : ℕ)
  /-- `cache_manager.set`, which may not reach the cache -/
  | keep (began : ℕ) (value : UserEffectivePermissions) (reachable : Bool)
  | answer (a : PermissionAnswer)
  | pass (permission : String) (a : PermissionAnswer)

inductive CheckError
  | httpException (statusCode : ℕ) (detail : String)

def CheckStatement.apply : CheckStatement → CheckStore → Except CheckError CheckStore
  | .commit tables, s => .ok { s with tables, past := s.past ++ [⟨s.now, tables⟩] }
  | .invalidate keys, s => .ok { s with cache := s.cache.deleteAll keys }
  | .tick elapsed, s =>
    .ok { s with now := s.now + elapsed, past := s.past ++ [⟨s.now + elapsed, s.tables⟩] }
  | .keep began value reachable, s =>
    .ok
      { s with
        cache :=
          if reachable then
            s.cache.set (cacheKey value.userId value.orgId) value (s.now + cacheTtl)
          else s.cache
        computed := s.computed ++ [⟨began, s.now⟩] }
  | .answer a, s => .ok { s with answered := s.answered ++ [a] }
  | .pass permission a, s => .ok { s with passed := s.passed ++ [(permission, a)] }

/-! ### Checks -/

/-- Whether the cache can be reached, by `cache_manager.get` and by `cache_manager.set`. -/
structure Redis where
  reads : Bool
  writes : Bool

/-- A request, or what others do. -/
inductive CheckCall
  /-- `check_permission`, `check_permissions` and `get_effective_permissions` -/
  | check (userId orgId : String) (redis : Redis)
  /-- `RequirePermission`, whose permissions are asked for one after the other -/
  | require (user : Option User) (permissions : List (String × Redis))
  | commit (tables : OrgTables)
  | invalidate (keys : List String)
  | tick (elapsed : ℕ)

namespace CheckCall

open Program

abbrev CheckProgram := Program CheckStore CheckStatement CheckError

/-- `UserEffectivePermissions(…)`, from what the queries have found. -/
def effectiveOf (userId orgId role : String) (rolePermissions : List String)
    (custom : List String × List String) : UserEffectivePermissions :=
  { userId, orgId, role, rolePermissions, customGranted := custom.1, customDenied := custom.2
    effectivePermissions := resolvePermissions rolePermissions custom.1 custom.2 }

/-- `get_effective_permissions` -/
def getEffectivePermissions (userId orgId : String) (redis : Redis)
    (next : PermissionAnswer → CheckProgram) : CheckProgram :=
  .select fun s =>
  match (if redis.reads then s.cache.get s.now (cacheKey userId orgId) else none) with
  | some value => next ⟨userId, orgId, s.now, value⟩
  | none =>
    .select fun s₁ =>
    let role := getUserRole s₁.tables userId orgId
    .select fun s₂ =>
    let rolePermissions := getRolePermissions s₂.tables orgId role
    -- the time is taken before the query
    .select fun s₃ =>
    .select fun s₄ =>
    let value := effectiveOf userId orgId role rolePermissions
      (getCustomPermissions s₄.tables s₃.now userId orgId)
    .write (.keep s₁.now value redis.writes) <|
    next ⟨userId, orgId, s.now, value⟩

/-- `RequirePermission.__call__`, after the checks of the user. -/
def requireAny (userId orgId : String) (all : List String) : List (String × Redis) → CheckProgram
  | [] => .ended (.error (.httpException 403
      ("Permission denied. Required: " ++ ", ".intercalate all)))
  | (permission, redis) :: rest =>
    getEffectivePermissions userId orgId redis fun a =>
    if matchesPermission permission a.value.effectivePermissions then
      .write (.pass permission a) (.ended (.ok ()))
    else requireAny userId orgId all rest

def program : CheckCall → CheckProgram
  | .check userId orgId redis =>
    getEffectivePermissions userId orgId redis fun a => .write (.answer a) (.ended (.ok ()))
  | .require user permissions =>
    match user with
    | none => .ended (.error (.httpException 401 "Authentication required"))
    | some user =>
      match user.orgId.filter (· ≠ "") with
      | none => .ended (.error (.httpException 400 "Organization context required"))
      | some orgId => requireAny user.identity orgId (permissions.map Prod.fst) permissions
  | .commit tables => .write (.commit tables) (.ended (.ok ()))
  | .invalidate keys => .write (.invalidate keys) (.ended (.ok ()))
  | .tick elapsed => .write (.tick elapsed) (.ended (.ok ()))

/-- The id of the organization has no colon. -/
def HasPlainOrg : CheckCall → Prop
  | .check _ orgId _ => ':' ∉ orgId.toList
  | .require user _ => ∀ u ∈ user, ∀ orgId ∈ u.orgId, ':' ∉ orgId.toList
  | _ => True

end CheckCall

/-! ### How old an answer is -/

/-- The moment is one of the period. -/
def Period.includes (period : Period) (m : Moment) : Prop :=
  period.began ≤ m.now ∧ m.now ≤ period.ended

/-- Each part of the permissions was true at some time of the period. -/
structure Observed (past : List Moment) (period : Period) (v : UserEffectivePermissions) :
    Prop where
  role : ∃ m ∈ past, period.includes m ∧ v.role = getUserRole m.tables v.userId v.orgId
  rolePermissions : ∃ m ∈ past, period.includes m ∧
    v.rolePermissions = getRolePermissions m.tables v.orgId v.role
  custom : ∃ m ∈ past, ∃ m' ∈ past, period.includes m ∧ period.includes m' ∧
    (v.customGranted, v.customDenied) = getCustomPermissions m.tables m'.now v.userId v.orgId
  effective : v.effectivePermissions =
    resolvePermissions v.rolePermissions v.customGranted v.customDenied

/-- The answer is about its user, and was put together by a check that was over less than five
minutes before, from what was true while that check ran. -/
def IsRecent (s : CheckStore) (a : PermissionAnswer) : Prop :=
  a.value.userId = a.userId ∧ a.value.orgId = a.orgId ∧
    ∃ period ∈ s.computed, a.began < period.ended + cacheTtl ∧ Observed s.past period a.value

/-- No other request has committed since a time, and no check takes longer than some time. -/
structure CheckStore.Settled (s : CheckStore) (tables : OrgTables) (since longest : ℕ) : Prop where
  tables_eq : ∀ m ∈ s.past, since ≤ m.now → m.tables = tables
  ended_le : ∀ period ∈ s.computed, period.ended ≤ period.began + longest

/-- What is kept was put together as it says. -/
def IsKept (s : CheckStore) (key : String) (v : UserEffectivePermissions) (expiresAt : ℕ) : Prop :=
  key = cacheKey v.userId v.orgId ∧ ':' ∉ v.orgId.toList ∧
    ∃ period ∈ s.computed, expiresAt = period.ended + cacheTtl ∧ Observed s.past period v

/-- The invariant of the store. -/
structure CheckStore.Sound (s : CheckStore) : Prop where
  present : ⟨s.now, s.tables⟩ ∈ s.past
  kept : s.cache.Every (IsKept s)
  answered : ∀ a ∈ s.answered, IsRecent s a
  passed : ∀ pair ∈ s.passed, IsRecent s pair.2 ∧
    matchesPermission pair.1 pair.2.value.effectivePermissions = true

/-- Time does not go back, and the records grow. -/
structure CheckStore.Later (s s' : CheckStore) : Prop where
  now : s.now ≤ s'.now
  past : s.past ⊆ s'.past
  computed : s.computed ⊆ s'.computed

variable {s s' : CheckStore}

theorem CheckStore.Later.refl (s : CheckStore) : s.Later s :=
  ⟨Nat.le_refl _, List.Subset.refl _, List.Subset.refl _⟩

theorem CheckStore.Later.trans {s'' : CheckStore} (h : s.Later s') (h' : s'.Later s'') :
    s.Later s'' :=
  ⟨h.now.trans h'.now, List.Subset.trans h.past h'.past, List.Subset.trans h.computed h'.computed⟩

theorem Observed.mono {past past' : List Moment} {period : Period} {v : UserEffectivePermissions}
    (hpast : past ⊆ past') (h : Observed past period v) : Observed past' period v where
  role := by
    obtain ⟨m, hm, h⟩ := h.role
    exact ⟨m, hpast hm, h⟩
  rolePermissions := by
    obtain ⟨m, hm, h⟩ := h.rolePermissions
    exact ⟨m, hpast hm, h⟩
  custom := by
    obtain ⟨m, hm, m', hm', h⟩ := h.custom
    exact ⟨m, hpast hm, m', hpast hm', h⟩
  effective := h.effective

theorem IsRecent.of_later {a : PermissionAnswer} (hs : s.Later s') (h : IsRecent s a) :
    IsRecent s' a := by
  obtain ⟨huser, horg, period, hperiod, hbegan, hobserved⟩ := h
  exact ⟨huser, horg, period, hs.computed hperiod, hbegan, hobserved.mono hs.past⟩

theorem IsKept.of_later {key : String} {v : UserEffectivePermissions} {expiresAt : ℕ}
    (hs : s.Later s') (h : IsKept s key v expiresAt) : IsKept s' key v expiresAt := by
  obtain ⟨hkey, horg, period, hperiod, hends, hobserved⟩ := h
  exact ⟨hkey, horg, period, hs.computed hperiod, hends, hobserved.mono hs.past⟩

/-- A store that is later, with the same answers and no new entries. -/
theorem CheckStore.Sound.of_later (hs : s.Sound) (hlater : s.Later s')
    (hpresent : ⟨s'.now, s'.tables⟩ ∈ s'.past) (hcache : s'.cache.Every (IsKept s))
    (hanswered : s'.answered = s.answered) (hpassed : s'.passed = s.passed) : s'.Sound where
  present := hpresent
  kept := hcache.mono fun _ _ _ => IsKept.of_later hlater
  answered := fun a ha => (hs.answered a (hanswered ▸ ha)).of_later hlater
  passed := fun pair hpair =>
    ⟨(hs.passed pair (hpassed ▸ hpair)).1.of_later hlater, (hs.passed pair (hpassed ▸ hpair)).2⟩

/-! ### What a check may rely on -/

namespace CheckCall

open Program

variable {userId orgId : String} {redis : Redis} {next : PermissionAnswer → CheckProgram}

abbrev IsValid (p : CheckProgram) (s : CheckStore) : Prop :=
  Valid CheckStore.Later CheckStore.Sound CheckStatement.apply p s

/-- The permissions that a check puts together, from what it sees on the way. -/
theorem observed_effectiveOf {s₁ s₂ s₃ s₄ s₅ : CheckStore} (h₁ : s₁.Sound) (h₂ : s₂.Sound)
    (h₃ : s₃.Sound) (h₄ : s₄.Sound) (h₁₂ : s₁.Later s₂) (h₂₃ : s₂.Later s₃) (h₃₄ : s₃.Later s₄)
    (h₄₅ : s₄.Later s₅) (userId orgId : String) :
    Observed s₅.past ⟨s₁.now, s₅.now⟩
      (effectiveOf userId orgId (getUserRole s₁.tables userId orgId)
        (getRolePermissions s₂.tables orgId (getUserRole s₁.tables userId orgId))
        (getCustomPermissions s₄.tables s₃.now userId orgId)) := by
  have h₁₃ := h₁₂.trans h₂₃
  have h₃₅ := h₃₄.trans h₄₅
  have h₂₅ := h₂₃.trans h₃₅
  exact
    { role := ⟨_, (h₁₂.trans h₂₅).past h₁.present, ⟨Nat.le_refl _, (h₁₂.trans h₂₅).now⟩, rfl⟩
      rolePermissions := ⟨_, h₂₅.past h₂.present, ⟨h₁₂.now, h₂₅.now⟩, rfl⟩
      custom := ⟨_, h₄₅.past h₄.present, _, h₃₅.past h₃.present,
        ⟨(h₁₃.trans h₃₄).now, h₄₅.now⟩, ⟨h₁₃.now, h₃₅.now⟩, rfl⟩
      effective := rfl }

/-- What keeping such permissions does. -/
theorem sound_keep {began : ℕ} {value : UserEffectivePermissions} {reachable : Bool}
    (hs : s.Sound) (horg : ':' ∉ value.orgId.toList)
    (hobserved : Observed s.past ⟨began, s.now⟩ value)
    (happly : CheckStatement.apply (.keep began value reachable) s = .ok s') :
    s'.Sound ∧ s.Later s' ∧
      ∀ time ≤ s.now, IsRecent s' ⟨value.userId, value.orgId, time, value⟩ := by
  cases happly
  set s' : CheckStore := { s with
    cache :=
      if reachable then
        s.cache.set (cacheKey value.userId value.orgId) value (s.now + cacheTtl)
      else s.cache
    computed := s.computed ++ [⟨began, s.now⟩] } with hs'
  have hlater : s.Later s' :=
    ⟨Nat.le_refl _, List.Subset.refl _, List.subset_append_left _ _⟩
  have hperiod : (⟨began, s.now⟩ : Period) ∈ s'.computed :=
    List.mem_append_right _ (List.mem_singleton_self _)
  refine ⟨?_, hlater, fun time htime =>
    ⟨rfl, rfl, _, hperiod, Nat.lt_of_le_of_lt htime (Nat.lt_add_of_pos_right (by decide)),
      hobserved⟩⟩
  exact
    { present := hs.present
      kept := by
        show TtlCache.Every (if reachable then _ else _) _
        split
        · exact (hs.kept.mono fun _ _ _ => IsKept.of_later hlater).set
            ⟨rfl, horg, _, hperiod, rfl, hobserved⟩
        · exact hs.kept.mono fun _ _ _ => IsKept.of_later hlater
      answered := fun a ha => (hs.answered a ha).of_later hlater
      passed := fun pair hpair =>
        ⟨(hs.passed pair hpair).1.of_later hlater, (hs.passed pair hpair).2⟩ }

/-- **A check** may rely on the others not to turn back time or to forget the past, and finds an
answer that is recent. -/
theorem valid_getEffectivePermissions (horg : ':' ∉ orgId.toList)
    (hnext : ∀ s a, IsRecent s a → IsValid (next a) s) :
    IsValid (getEffectivePermissions userId orgId redis next) s := by
  intro s₀ _ h₀
  dsimp only
  split
  · -- the cache has it
    next value hread =>
    split at hread
    · obtain ⟨expiresAt, hlive, hkey, horg', period, hperiod, hends, hobserved⟩ :=
        h₀.kept.of_get hread
      obtain ⟨huser, horganization⟩ := Prod.mk.inj (cacheKey_inj horg horg' hkey)
      exact hnext _ _ ⟨huser.symm, horganization.symm, period, hperiod, hends ▸ hlive, hobserved⟩
    · cases hread
  · intro s₁ h₀₁ h₁ s₂ h₁₂ h₂ s₃ h₂₃ h₃ s₄ h₃₄ h₄ s₅ s₆ h₄₅ h₅ happly
    have hobserved := observed_effectiveOf h₁ h₂ h₃ h₄ h₁₂ h₂₃ h₃₄ h₄₅ userId orgId
    have hbegan : s₀.now ≤ s₅.now :=
      h₀₁.now.trans (h₁₂.now.trans (h₂₃.now.trans (h₃₄.now.trans h₄₅.now)))
    obtain ⟨h₆, h₅₆, hrecent⟩ := sound_keep h₅ horg hobserved happly
    exact ⟨h₆, h₅₆, hnext _ _ (hrecent _ hbegan)⟩

/-- `RequirePermission` lets a request pass only with an answer that gives the permission. -/
theorem valid_requireAny (horg : ':' ∉ orgId.toList) (all : List String)
    (permissions : List (String × Redis)) :
    IsValid (requireAny userId orgId all permissions) s := by
  induction permissions generalizing s with
  | nil => exact trivial
  | cons entry rest ih =>
    refine valid_getEffectivePermissions horg fun s a ha => ?_
    split
    · next hmatches =>
      intro s₁ s₂ h₁ hs₁ happly
      cases happly
      have hrecent : IsRecent s₁ a := ha.of_later h₁
      refine ⟨⟨hs₁.present, hs₁.kept, hs₁.answered, fun pair hpair => ?_⟩,
        ⟨Nat.le_refl _, List.Subset.refl _, List.Subset.refl _⟩, trivial⟩
      rcases List.mem_append.mp hpair with hold | hnew
      · exact hs₁.passed pair hold
      · rw [List.mem_singleton.mp hnew]
        exact ⟨hrecent, hmatches⟩
    · exact ih

/-- **Every request** keeps the invariant. -/
theorem valid_program {call : CheckCall} (hcall : call.HasPlainOrg) (s : CheckStore) :
    IsValid call.program s := by
  cases call with
  | check userId orgId redis =>
    rw [program]
    refine valid_getEffectivePermissions hcall fun s a ha => ?_
    intro s₁ s₂ h₁ hs₁ happly
    cases happly
    have hrecent : IsRecent s₁ a := ha.of_later h₁
    refine ⟨⟨hs₁.present, hs₁.kept, fun b hb => ?_, hs₁.passed⟩,
      ⟨Nat.le_refl _, List.Subset.refl _, List.Subset.refl _⟩, trivial⟩
    rcases List.mem_append.mp hb with hold | hnew
    · exact hs₁.answered b hold
    · rw [List.mem_singleton.mp hnew]
      exact hrecent
  | require user permissions =>
    cases user with
    | none => exact trivial
    | some user =>
      rw [program]
      split
      · exact trivial
      · next orgId horg =>
        exact valid_requireAny (hcall user rfl orgId (Option.filter_eq_some_iff.mp horg).1) _ _
  | commit tables =>
    intro s₁ s₂ h₁ hs₁ happly
    cases happly
    have hlater : s₁.Later { s₁ with tables, past := s₁.past ++ [⟨s₁.now, tables⟩] } :=
      ⟨Nat.le_refl _, List.subset_append_left _ _, List.Subset.refl _⟩
    exact ⟨hs₁.of_later hlater (List.mem_append_right _ (List.mem_singleton_self _)) hs₁.kept rfl
      rfl, hlater, trivial⟩
  | invalidate keys =>
    intro s₁ s₂ h₁ hs₁ happly
    cases happly
    have hlater : s₁.Later { s₁ with cache := s₁.cache.deleteAll keys } :=
      ⟨Nat.le_refl _, List.Subset.refl _, List.Subset.refl _⟩
    exact ⟨hs₁.of_later hlater hs₁.present (hs₁.kept.deleteAll keys) rfl rfl, hlater, trivial⟩
  | tick elapsed =>
    intro s₁ s₂ h₁ hs₁ happly
    cases happly
    have hlater : s₁.Later { s₁ with
        now := s₁.now + elapsed, past := s₁.past ++ [⟨s₁.now + elapsed, s₁.tables⟩] } :=
      ⟨Nat.le_add_right _ _, List.subset_append_left _ _, List.Subset.refl _⟩
    exact ⟨hs₁.of_later hlater (List.mem_append_right _ (List.mem_singleton_self _)) hs₁.kept rfl
      rfl, hlater, trivial⟩

end CheckCall

/-! ### When nobody commits -/

/-- Permissions of which each part was true when the tables were these. -/
theorem Observed.eq_effectivePermissions {past : List Moment} {period : Period}
    {v : UserEffectivePermissions} {tables : OrgTables}
    (htables : ∀ m ∈ past, period.includes m → m.tables = tables) (h : Observed past period v) :
    ∃ m ∈ past, period.includes m ∧ v = effectivePermissions tables m.now v.userId v.orgId := by
  obtain ⟨m₁, hm₁, hin₁, hrole⟩ := h.role
  obtain ⟨m₂, hm₂, hin₂, hrolePermissions⟩ := h.rolePermissions
  obtain ⟨m₃, hm₃, m₄, hm₄, hin₃, hin₄, hcustom⟩ := h.custom
  have heffective := h.effective
  rw [htables m₁ hm₁ hin₁] at hrole
  rw [htables m₂ hm₂ hin₂] at hrolePermissions
  rw [htables m₃ hm₃ hin₃] at hcustom
  refine ⟨m₄, hm₄, hin₄, ?_⟩
  cases v
  dsimp only at hrole hrolePermissions hcustom heffective
  rw [effectivePermissions, ← hcustom, ← hrole, ← hrolePermissions, heffective]

/-- An answer that is asked for long enough after the last commit. -/
theorem IsRecent.eq_effectivePermissions {a : PermissionAnswer} {tables : OrgTables}
    {since longest : ℕ} (h : IsRecent s a) (hsettled : s.Settled tables since longest)
    (hbegan : since + longest + cacheTtl ≤ a.began) :
    ∃ m ∈ s.past, since ≤ m.now ∧ a.value = effectivePermissions tables m.now a.userId a.orgId := by
  obtain ⟨huser, horg, period, hperiod, hlive, hobserved⟩ := h
  have hsince : since ≤ period.began := by
    have hended := hsettled.ended_le period hperiod
    omega
  obtain ⟨m, hm, hin, hvalue⟩ := hobserved.eq_effectivePermissions
    fun m hm hin => hsettled.tables_eq m hm (hsince.trans hin.1)
  exact ⟨m, hm, hsince.trans hin.1, huser ▸ horg ▸ hvalue⟩

/-! ### Runs -/

abbrev step := Interleaving.step CheckCall.program CheckStatement.apply

theorem sound_initial (tables : OrgTables) : (CheckStore.initial tables).Sound where
  present := List.mem_singleton_self _
  kept := fun _ _ _ h => by cases h
  answered := fun _ h => by cases h
  passed := fun _ h => by cases h

/-- **What lets a request pass was true recently**, in every run of checks, commits and deletions
from the cache: each answer was put together from what was true while a check ran that was over
less than five minutes before, and a request has passed `RequirePermission` only with an answer that
gives one of its permissions. Once nobody has committed for five minutes and the time that the
longest check takes, the answers are those of the tables. -/
theorem passed_recently {tables : OrgTables}
    {s : Interleaving CheckStore CheckStatement CheckError}
    {labels : List (InterleavingLabel CheckCall CheckError)}
    (hcalls : ∀ call ∈ Interleaving.started labels, call.HasPlainOrg)
    (h : exec step ⟨.initial tables, []⟩ labels = some s) :
    (∀ a ∈ s.state.answered, IsRecent s.state a) ∧
      ∀ pair ∈ s.state.passed,
        matchesPermission pair.1 pair.2.value.effectivePermissions = true ∧
        IsRecent s.state pair.2 ∧
        ∀ current since longest, s.state.Settled current since longest →
          since + longest + cacheTtl ≤ pair.2.began →
          ∃ m ∈ s.state.past, since ≤ m.now ∧ matchesPermission pair.1
            (effectivePermissions current m.now pair.2.userId
              pair.2.orgId).effectivePermissions = true := by
  have hs : s.state.Sound := Interleaving.invariant_of_valid CheckStore.Later.refl
    (fun _ _ _ => CheckStore.Later.trans) (fun _ _ hcall _ => CheckCall.valid_program hcall _)
    rfl (sound_initial tables) hcalls h
  refine ⟨hs.answered, fun pair hpair => ?_⟩
  obtain ⟨hrecent, hmatches⟩ := hs.passed pair hpair
  refine ⟨hmatches, hrecent, fun current since longest hsettled hbegan => ?_⟩
  obtain ⟨m, hm, hsince, hvalue⟩ := hrecent.eq_effectivePermissions hsettled hbegan
  exact ⟨m, hm, hsince, hvalue ▸ hmatches⟩

/-- Carol, an owner, deletes a thread. Before the check has kept her permissions, Bob makes her a
viewer. -/
def carolDeletes : List (InterleavingLabel CheckCall CheckError) :=
  [.start (.require (some ⟨"carol", some "org"⟩) [("threads:delete", ⟨true, true⟩)]),
    .start (.commit (OrganizationService.setRole twoOwners.tables "org" "carol" "viewer")),
    .step 0, .step 0, .step 0, .step 1, .step 0, .step 0, .step 0, .step 0]

def afterDeletion : Interleaving CheckStore CheckStatement CheckError :=
  (exec step ⟨.initial twoOwners.tables, []⟩ carolDeletes).get rfl

theorem carolDeletes_plainOrg :
    ∀ call ∈ Interleaving.started carolDeletes, call.HasPlainOrg := by
  simp [carolDeletes, Interleaving.started, CheckCall.HasPlainOrg]

theorem passed_recently_carol :
    ∃ pair ∈ afterDeletion.state.passed,
      pair.1 = "threads:delete" ∧ IsRecent afterDeletion.state pair.2 :=
  ⟨_, List.mem_singleton_self _, rfl,
    ((passed_recently (s := afterDeletion) carolDeletes_plainOrg (Option.some_get _).symm).2 _
      (List.mem_singleton_self _)).2.1⟩

end PermissionChecks

end OpenLangGraph
