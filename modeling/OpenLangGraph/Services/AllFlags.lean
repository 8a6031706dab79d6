import OpenLangGraph.Foundation.Traversal
import OpenLangGraph.Services.FlagEvaluation

/-!
# All flags at once

`evaluate_flags` without flag keys, against its calls with the key of one flag. Without keys it asks
`list_flags` for the active flags, with a limit of a hundred, the latest first; with a key it looks
the flag up. The evaluation of a flag is the same then: what the flags before it leave in the cache
is kept under their own keys.

## Where they part

* The flags beyond the hundred are not evaluated.
* One flag that cannot be evaluated takes the others with it: a row that the model refuses, or one
  with two active overrides for the organization.

## Main definitions

* `AllMeansAll` — what is asked
* `isClear`, `InReach` — when it is so

## Main results

* `evaluateEach_eq_ok_iff` — the loop evaluates every flag from the state it starts in
* `all_means_all_iff`
-/

namespace OpenLangGraph

namespace FlagEvaluation

open FeatureFlagService PyString Traversal

variable {ν : Type}

/-! ### What is asked -/

def activeFlags (t : FlagTables ν) (orgId : Str) : List (FeatureFlag ν) :=
  t.flags.rows.filter fun row => row.orgId = orgId && row.status = .active

/-- **Without keys** there is a result for exactly the active flags, each the one that a call with
its key alone gives. -/
def AllMeansAll (setting : Setting ν) (s : State ν) (orgId : Str)
    (context : FlagEvaluationContext) (drawn : Str → Bool) : Prop :=
  ∃ results, (evaluateFlags setting s orgId context [] drawn).2 = .ok results ∧
    (results.map Prod.fst).Perm ((activeFlags s.tables orgId).map (·.key)) ∧
    ∀ flag ∈ activeFlags s.tables orgId, ∃ result, (flag.key, result) ∈ results ∧
      (evaluateFlags setting s orgId context [flag.key] drawn).2 = .ok [(flag.key, result)]

/-! ### The condition -/

def overridesFor (t : FlagTables ν) (now : ℕ) (place : Str × Str × OverrideScope × Option Str) :
    List (FeatureFlagOverride ν) :=
  t.overrides.rows.filter fun o => isActive now o && o.place = place

/-- An answer about the flag is kept, or the flag has expired, or the user has an override, or the
organization has one override at most. -/
def isClear (s : State ν) (orgId : Str) (context : FlagEvaluationContext)
    (flag : FeatureFlag ν) : Bool :=
  (s.cache.get s.now (buildEvalCacheKey orgId flag.key context)).isSome ||
    flag.expiresAt.any (· < s.now) ||
    (truthy context.userId).any (fun userId =>
      !(overridesFor s.tables s.now (flag.flagId, orgId, .user, some userId)).isEmpty) ||
    (overridesFor s.tables s.now (flag.flagId, orgId, .org, none)).length ≤ 1

/-- **The condition.** -/
structure InReach (setting : Setting ν) (s : State ν) (orgId : Str)
    (context : FlagEvaluationContext) : Prop where
  hundred : (activeFlags s.tables orgId).length ≤ 100
  valid : ∀ flag ∈ activeFlags s.tables orgId,
    (flag.toFeatureFlagBase.validate setting.types).isOk = true
  clear : ∀ flag ∈ activeFlags s.tables orgId, isClear s orgId context flag = true

/-! ### One flag -/

section

variable {setting : Setting ν} {s : State ν} {orgId : Str} {context : FlagEvaluationContext}
  {drawn : Bool} {row flag : FeatureFlag ν}

theorem buildEvalCacheKey_inj {key key' : Str}
    (h : buildEvalCacheKey orgId key context = buildEvalCacheKey orgId key' context) :
    key = key' := by
  delta buildEvalCacheKey at h
  rw [List.append_right_inj, List.append_right_inj, List.cons.injEq, List.append_left_inj] at h
  exact h.2

theorem key_validateValueTypes {types : ValueTypes ν} {base base' : FeatureFlagBase ν}
    (h : base.validateValueTypes types = .ok base') : base'.key = base.key := by
  rw [FeatureFlagBase.validateValueTypes] at h
  split at h
  · cases h
    rfl
  · split at h
    · cases h
    · split at h
      · cases h
      · cases h
        rfl
  · cases h
    rfl
  · cases h
    rfl

/-- What a row keeps as a model. -/
theorem toPydantic_eq_ok {setting : FeatureFlagService.Setting ν}
    (h : toPydantic setting row = .ok flag) :
    flag.key = row.key ∧ flag.flagId = row.flagId ∧ flag.status = row.status ∧
      flag.expiresAt = row.expiresAt ∧
        (row.toFeatureFlagBase.validate setting.types).isOk = true := by
  rw [toPydantic] at h
  split at h
  · next base hbase =>
    cases h
    refine ⟨?_, rfl, rfl, rfl, by rw [hbase]; rfl⟩
    rw [FeatureFlagBase.validate] at hbase
    split at hbase
    · cases hbase
    · split at hbase
      · cases hbase
      · split at hbase
        · cases hbase
        · exact key_validateValueTypes hbase
  · cases h

theorem exists_toPydantic {setting : FeatureFlagService.Setting ν}
    (h : (row.toFeatureFlagBase.validate setting.types).isOk = true) :
    ∃ flag, toPydantic setting row = .ok flag := by
  rw [toPydantic]
  cases hbase : row.toFeatureFlagBase.validate setting.types with
  | ok base => exact ⟨_, rfl⟩
  | error e =>
    rw [hbase] at h
    cases h

theorem scalarOneOrNone_eq_ok_iff {α : Type} {rows : List α} :
    (∃ row, scalarOneOrNone rows = .ok row) ↔ rows.length ≤ 1 := by
  rcases rows with _ | ⟨a, _ | ⟨b, rows⟩⟩
  · simp [scalarOneOrNone]
  · simp [scalarOneOrNone]
  · simp [scalarOneOrNone]

/-- The lookup of an override with a target finds it, or none. -/
theorem getActiveOverride_user (t : FlagTables ν) (flagId : Str) {userId : Str} (now : ℕ)
    (huser : truthy context.userId = some userId) :
    ∃ o, getActiveOverride t flagId orgId .user (some userId) now = .ok o ∧
      (o.isSome = !(overridesFor t now (flagId, orgId, .user, some userId)).isEmpty) := by
  have htruthy : truthy (some userId) = some userId :=
    truthy_eq_some_iff.mpr ⟨rfl, (truthy_eq_some_iff.mp huser).2⟩
  have hrows : getActiveOverride t flagId orgId .user (some userId) now =
      scalarOneOrNone (overridesFor t now (flagId, orgId, .user, some userId)) := by
    rw [getActiveOverride, htruthy, overridesFor]
  have hmem : ∀ o ∈ overridesFor t now (flagId, orgId, .user, some userId),
      o ∈ t.overrides.rows ∧ o.place = (flagId, orgId, .user, some userId) := by
    intro o ho
    obtain ⟨ho, hactive⟩ := List.mem_filter.mp ho
    rw [Bool.and_eq_true, decide_eq_true_eq] at hactive
    exact ⟨ho, hactive.2⟩
  have hone : ∀ o ∈ overridesFor t now (flagId, orgId, .user, some userId),
      ∀ p ∈ overridesFor t now (flagId, orgId, .user, some userId), o = p := by
    intro o ho p hp
    obtain ⟨ho, hoplace⟩ := hmem o ho
    obtain ⟨hp, hpplace⟩ := hmem p hp
    have htarget : o.targetId = some userId := congrArg (·.2.2.2) hoplace
    exact List.inj_on_of_nodup_map t.overrides.unique ho hp
      (t.targets o ho p hp (by rw [htarget]; rfl) (hoplace.trans hpplace.symm))
  have hnodup : (overridesFor t now (flagId, orgId, .user, some userId)).Nodup :=
    (List.Nodup.of_map _ t.overrides.unique).filter _
  rw [hrows]
  generalize overridesFor t now (flagId, orgId, .user, some userId) = rows at hone hnodup
  rcases rows with _ | ⟨a, _ | ⟨b, rows⟩⟩
  · exact ⟨none, rfl, rfl⟩
  · exact ⟨some a, rfl, rfl⟩
  · have hab : a = b := hone a (by simp) b (by simp)
    simp [hab] at hnodup

theorem getActiveOverride_org (t : FlagTables ν) (flagId orgId : Str) (now : ℕ) :
    getActiveOverride t flagId orgId .org none now =
      scalarOneOrNone (overridesFor t now (flagId, orgId, .org, none)) := by
  rw [getActiveOverride, overridesFor]
  rfl

/-- What comes after the rows have been read. -/
theorem exists_bind_scalarOneOrNone_iff {α : Type} {β : Type*} (rows : List α)
    {next : Option α → Except FlagError β} (hnext : ∀ o, ∃ a, next o = .ok a) :
    (∃ a, Except.bind (scalarOneOrNone rows) next = .ok a) ↔ rows.length ≤ 1 := by
  rw [← scalarOneOrNone_eq_ok_iff]
  cases scalarOneOrNone rows with
  | error e =>
    refine iff_of_false ?_ ?_
    · rintro ⟨a, h⟩
      cases h
    · rintro ⟨row, h⟩
      cases h
  | ok o => exact iff_of_true (hnext o) ⟨o, rfl⟩

/-- An active flag is evaluated, unless it comes to the overrides of its organization and there are
two. -/
theorem exists_evaluate_iff (t : FlagTables ν) (now : ℕ) (hactive : flag.status = .active) :
    (∃ answer, evaluate setting t orgId context now drawn flag = .ok answer) ↔
      (flag.expiresAt.any (· < now) ||
        (truthy context.userId).any (fun userId =>
          !(overridesFor t now (flag.flagId, orgId, .user, some userId)).isEmpty) ||
        (overridesFor t now (flag.flagId, orgId, .org, none)).length ≤ 1) = true := by
  rw [evaluate, if_neg (not_not.mpr hactive)]
  cases hexpired : flag.expiresAt.any (· < now) with
  | true => exact iff_of_true ⟨_, rfl⟩ rfl
  | false =>
    rw [if_neg Bool.false_ne_true, Bool.false_or, getActiveOverride_org]
    cases huser : truthy context.userId with
    | none =>
      rw [Option.any_none, Bool.false_or, decide_eq_true_eq]
      refine exists_bind_scalarOneOrNone_iff _ fun o => ?_
      cases o <;> exact ⟨_, rfl⟩
    | some userId =>
      obtain ⟨o, ho, hsome⟩ := getActiveOverride_user t flag.flagId now huser
      rw [Option.any_some, ← hsome]
      dsimp only
      rw [ho]
      cases o with
      | some o => exact iff_of_true ⟨_, rfl⟩ rfl
      | none =>
        rw [Option.isSome_none, Bool.false_or, decide_eq_true_eq]
        refine exists_bind_scalarOneOrNone_iff _ fun o => ?_
        cases o <;> exact ⟨_, rfl⟩

theorem exists_evaluateSingleFlag_iff (hactive : flag.status = .active) :
    (∃ result, (evaluateSingleFlag setting s orgId context drawn flag).2 = .ok result) ↔
      isClear s orgId context flag = true := by
  rw [evaluateSingleFlag, isClear]
  dsimp only
  cases hcached : s.cache.get s.now (buildEvalCacheKey orgId flag.key context) with
  | some cached => exact iff_of_true ⟨_, rfl⟩ rfl
  | none =>
    rw [Option.isSome_none, Bool.false_or,
      ← @exists_evaluate_iff _ setting orgId context drawn flag s.tables s.now hactive]
    cases evaluate setting s.tables orgId context s.now drawn flag with
    | error e =>
      refine iff_of_false ?_ ?_
      · rintro ⟨result, h⟩
        cases h
      · rintro ⟨answer, h⟩
        cases h
    | ok answer =>
      obtain ⟨result, kept⟩ := answer
      cases kept <;> exact iff_of_true ⟨_, rfl⟩ ⟨_, rfl⟩

/-- The evaluation of a flag changes nothing but what is kept under its key. -/
theorem frame_evaluateSingleFlag (setting : Setting ν) (s : State ν) (orgId : Str)
    (context : FlagEvaluationContext) (drawn : Bool) (flag : FeatureFlag ν) :
    (evaluateSingleFlag setting s orgId context drawn flag).1.tables = s.tables ∧
      (evaluateSingleFlag setting s orgId context drawn flag).1.now = s.now ∧
      ∀ key, key ≠ flag.key →
        (evaluateSingleFlag setting s orgId context drawn flag).1.cache.get s.now
          (buildEvalCacheKey orgId key context) =
            s.cache.get s.now (buildEvalCacheKey orgId key context) := by
  rw [evaluateSingleFlag]
  dsimp only
  split
  · exact ⟨rfl, rfl, fun _ _ => rfl⟩
  · split
    · exact ⟨rfl, rfl, fun _ _ => rfl⟩
    · exact ⟨rfl, rfl, fun _ _ => rfl⟩
    · refine ⟨rfl, rfl, fun key hkey => ?_⟩
      have hlater : s.now < s.now + cacheTtlFlags := Nat.lt_add_of_pos_right (by decide)
      dsimp only
      rw [TtlCache.get_set _ _ hlater, if_neg fun h => hkey (buildEvalCacheKey_inj h)]

/-- The answer about a flag depends on the cache by its own key only. -/
theorem evaluateSingleFlag_congr {s' : State ν} (htables : s'.tables = s.tables)
    (hnow : s'.now = s.now)
    (hcache : s'.cache.get s.now (buildEvalCacheKey orgId flag.key context) =
      s.cache.get s.now (buildEvalCacheKey orgId flag.key context)) :
    (evaluateSingleFlag setting s' orgId context drawn flag).2 =
      (evaluateSingleFlag setting s orgId context drawn flag).2 := by
  rw [evaluateSingleFlag, evaluateSingleFlag]
  dsimp only
  rw [hnow, hcache, htables]
  split
  · rfl
  · split
    · rfl
    · rfl
    · rfl

end

/-! ### The loop -/

section

variable {setting : Setting ν} {orgId : Str} {context : FlagEvaluationContext}
  {drawn : Str → Bool}

/-- What the loop returns of the flags. -/
def resultsOf (flags : List (FeatureFlag ν)) (answers : List (FlagEvaluationResult ν)) :
    List (Str × FlagEvaluationResult ν) :=
  List.zipWith (fun flag answer => (flag.key, answer)) flags answers

/-- **The loop** evaluates every flag as if it were the first. -/
theorem evaluateEach_eq_ok_iff {s : State ν} {flags : List (FeatureFlag ν)}
    {results out : List (Str × FlagEvaluationResult ν)}
    (hkeys : (flags.map (·.key)).Nodup) (hnew : ∀ flag ∈ flags, flag.key ∉ results.map Prod.fst) :
    (evaluateEach setting orgId context drawn s flags results).2 = .ok out ↔
      ∃ answers, List.Forall₂ (fun flag answer =>
        (evaluateSingleFlag setting s orgId context (drawn flag.key) flag).2 = .ok answer) flags
          answers ∧ out = results ++ resultsOf flags answers := by
  induction flags generalizing s results with
  | nil =>
    rw [evaluateEach]
    constructor
    · intro h
      refine ⟨[], .nil, ?_⟩
      rw [← Except.ok.inj h]
      exact (List.append_nil results).symm
    · rintro ⟨answers, hanswers, rfl⟩
      cases hanswers
      exact congrArg Except.ok (List.append_nil results).symm
  | cons flag flags ih =>
    rw [List.map_cons, List.nodup_cons] at hkeys
    obtain ⟨htables, hnow, hcache⟩ :=
      frame_evaluateSingleFlag setting s orgId context (drawn flag.key) flag
    rw [evaluateEach]
    cases hfirst : evaluateSingleFlag setting s orgId context (drawn flag.key) flag with
    | mk s' first =>
      rw [hfirst] at htables hnow hcache
      dsimp only at htables hnow hcache
      cases first with
      | error e =>
        refine iff_of_false (fun h => by cases h) ?_
        rintro ⟨answers, hanswers, -⟩
        cases hanswers with
        | cons hanswer _ => cases (congrArg Prod.snd hfirst).symm.trans hanswer
      | ok result =>
        have hkey : flag.key ∉ results.map Prod.fst := hnew flag List.mem_cons_self
        -- the flags that are left are evaluated as from the start
        have hsame : ∀ other ∈ flags,
            (evaluateSingleFlag setting s' orgId context (drawn other.key) other).2 =
              (evaluateSingleFlag setting s orgId context (drawn other.key) other).2 := by
          intro other hother
          refine evaluateSingleFlag_congr htables hnow (hcache other.key ?_)
          intro heq
          exact hkeys.1 (heq ▸ List.mem_map_of_mem hother)
        have hrest : ∀ other ∈ flags,
            other.key ∉ (results ++ [(flag.key, result)]).map Prod.fst := by
          intro other hother
          rw [List.map_append, List.mem_append, not_or]
          refine ⟨hnew other (List.mem_cons_of_mem _ hother), fun hmem => hkeys.1 ?_⟩
          obtain heq : other.key = flag.key := List.mem_singleton.mp hmem
          exact heq ▸ List.mem_map_of_mem hother
        dsimp only
        rw [PyDict.set_of_notMem hkey, ih hkeys.2 hrest]
        have hcons : ∀ answers, results ++ [(flag.key, result)] ++ resultsOf flags answers =
            results ++ resultsOf (flag :: flags) (result :: answers) := by
          intro answers
          rw [List.append_assoc]
          rfl
        constructor
        · rintro ⟨answers, hanswers, rfl⟩
          refine ⟨result :: answers, .cons (congrArg Prod.snd hfirst) ?_, hcons answers⟩
          exact ((List.forall₂_and_left flags answers).mpr ⟨hsame, hanswers⟩).imp
            fun other answer h => h.1.symm.trans h.2
        · rintro ⟨answers, hanswers, rfl⟩
          cases hanswers with
          | @cons _ answer _ answers hanswer hanswers =>
            obtain rfl : result = answer :=
              Except.ok.inj ((congrArg Prod.snd hfirst).symm.trans hanswer)
            refine ⟨answers, ?_, (hcons answers).symm⟩
            exact ((List.forall₂_and_left flags answers).mpr ⟨hsame, hanswers⟩).imp
              fun other answer h => h.1.trans h.2

theorem map_fst_resultsOf {R : FeatureFlag ν → FlagEvaluationResult ν → Prop}
    {flags : List (FeatureFlag ν)} {answers : List (FlagEvaluationResult ν)}
    (h : List.Forall₂ R flags answers) :
    (resultsOf flags answers).map Prod.fst = flags.map (·.key) := by
  induction h with
  | nil => rfl
  | cons _ _ ih => exact congrArg _ ih

theorem exists_mem_resultsOf {R : FeatureFlag ν → FlagEvaluationResult ν → Prop}
    {flags : List (FeatureFlag ν)} {answers : List (FlagEvaluationResult ν)}
    (h : List.Forall₂ R flags answers) {flag : FeatureFlag ν} (hflag : flag ∈ flags) :
    ∃ answer, R flag answer ∧ (flag.key, answer) ∈ resultsOf flags answers := by
  induction h with
  | nil => cases hflag
  | cons hfirst _ ih =>
    rcases List.mem_cons.mp hflag with rfl | hflag
    · exact ⟨_, hfirst, List.mem_cons_self⟩
    · obtain ⟨answer, hanswer, hmem⟩ := ih hflag
      exact ⟨answer, hanswer, List.mem_cons_of_mem _ hmem⟩

/-! ### The flags that are listed -/

theorem nodup_activeFlags (t : FlagTables ν) (orgId : Str) :
    ((activeFlags t orgId).map (·.key)).Nodup := by
  have horg : ∀ flag ∈ activeFlags t orgId, flag ∈ t.flags.rows ∧ flag.orgId = orgId := by
    intro flag hflag
    obtain ⟨hflag, hactive⟩ := List.mem_filter.mp hflag
    rw [Bool.and_eq_true, decide_eq_true_eq] at hactive
    exact ⟨hflag, hactive.1⟩
  refine List.Nodup.map_on (fun flag hflag other hother hkey => ?_)
    ((List.Nodup.of_map _ t.flags.unique).filter _)
  obtain ⟨hflag, hflagOrg⟩ := horg flag hflag
  obtain ⟨hother, hotherOrg⟩ := horg other hother
  exact List.inj_on_of_nodup_map t.flags.unique hflag hother
    (t.keys flag hflag other hother (hflagOrg.trans hotherOrg.symm) hkey)

/-- A flag is found by its key. -/
theorem flagByKey?_of_mem {t : FlagTables ν} {flag : FeatureFlag ν}
    (hflag : flag ∈ activeFlags t orgId) : t.flagByKey? orgId flag.key = some flag := by
  obtain ⟨hmem, hactive⟩ := List.mem_filter.mp hflag
  rw [Bool.and_eq_true, decide_eq_true_eq, decide_eq_true_eq] at hactive
  rw [FlagTables.flagByKey?]
  cases hfind : t.flags.rows.find? fun f => f.orgId = orgId && f.key = flag.key with
  | none => exact absurd (List.find?_eq_none.mp hfind flag hmem) (by simp [hactive.1])
  | some found =>
    have hfound := List.find?_some hfind
    rw [Bool.and_eq_true, decide_eq_true_eq, decide_eq_true_eq] at hfound
    have hrow : found ∈ t.flags.rows := List.mem_of_find?_eq_some hfind
    rw [List.inj_on_of_nodup_map t.flags.unique hrow hmem
      (t.keys found hrow flag hmem (hfound.1.trans hactive.1.symm) hfound.2)]

def listedFlags (setting : Setting ν) (t : FlagTables ν) (orgId : Str) : List (FeatureFlag ν) :=
  (setting.order (activeFlags t orgId)).take 100

theorem nodup_listedFlags (t : FlagTables ν) :
    ((listedFlags setting t orgId).map (·.key)).Nodup := by
  have hall : ((setting.order (activeFlags t orgId)).map (·.key)).Nodup :=
    ((setting.order_perm _).map _).nodup_iff.mpr (nodup_activeFlags t orgId)
  exact hall.sublist ((List.take_sublist _ _).map _)

theorem map_key_of_toPydantic {setting : FeatureFlagService.Setting ν}
    {rows flags : List (FeatureFlag ν)}
    (h : List.Forall₂ (fun row flag => toPydantic setting row = .ok flag) rows flags) :
    flags.map (·.key) = rows.map (·.key) := by
  induction h with
  | nil => rfl
  | cons hfirst _ ih => rw [List.map_cons, List.map_cons, ih, (toPydantic_eq_ok hfirst).1]

/-- What a call without keys returns. -/
theorem evaluateFlags_nil_eq_ok_iff {s : State ν}
    {results : List (Str × FlagEvaluationResult ν)} :
    (evaluateFlags setting s orgId context [] drawn).2 = .ok results ↔
      ∃ flags answers, List.Forall₂ (fun row flag => toPydantic setting.toSetting row = .ok flag)
        (listedFlags setting s.tables orgId) flags ∧
          List.Forall₂ (fun flag answer =>
            (evaluateSingleFlag setting s orgId context (drawn flag.key) flag).2 = .ok answer) flags
              answers ∧ results = resultsOf flags answers := by
  have hselected : selectedFlags setting s.tables orgId [] =
      (listedFlags setting s.tables orgId).mapM (toPydantic setting.toSetting) := by
    rw [selectedFlags, if_neg (not_not.mpr rfl)]
    rfl
  rw [evaluateFlags, hselected]
  cases hflags : (listedFlags setting s.tables orgId).mapM (toPydantic setting.toSetting) with
  | error e =>
    refine iff_of_false (fun h => by cases h) ?_
    rintro ⟨flags, answers, hrows, -⟩
    rw [← mapM_eq_ok_iff, hflags] at hrows
    cases hrows
  | ok flags =>
    have hrows := mapM_eq_ok_iff.mp hflags
    dsimp only
    rw [evaluateEach_eq_ok_iff (map_key_of_toPydantic hrows ▸ nodup_listedFlags s.tables)
      fun _ _ => List.not_mem_nil]
    constructor
    · rintro ⟨answers, hanswers, rfl⟩
      exact ⟨flags, answers, hrows, hanswers, rfl⟩
    · rintro ⟨flags', answers, hrows', hanswers, rfl⟩
      rw [← mapM_eq_ok_iff, hflags] at hrows'
      obtain rfl := Except.ok.inj hrows'
      exact ⟨answers, hanswers, rfl⟩

/-- What a call with the key of a flag returns. -/
theorem evaluateFlags_key {s : State ν} {row flag : FeatureFlag ν}
    {answer : FlagEvaluationResult ν} (hrow : row ∈ activeFlags s.tables orgId)
    (hflag : toPydantic setting.toSetting row = .ok flag)
    (hanswer : (evaluateSingleFlag setting s orgId context (drawn flag.key) flag).2 =
      .ok answer) :
    (evaluateFlags setting s orgId context [row.key] drawn).2 = .ok [(row.key, answer)] := by
  have hselected : selectedFlags setting s.tables orgId [row.key] = .ok [flag] := by
    rw [selectedFlags, if_pos (List.cons_ne_nil _ _), List.mapM_cons, getFlagByKey,
      flagByKey?_of_mem hrow]
    dsimp only
    rw [hflag]
    rfl
  rw [evaluateFlags, hselected]
  dsimp only
  have hnodup : ([flag].map (·.key)).Nodup := List.nodup_singleton _
  rw [evaluateEach_eq_ok_iff hnodup fun _ _ => List.not_mem_nil, ← (toPydantic_eq_ok hflag).1]
  exact ⟨[answer], .cons hanswer .nil, rfl⟩

/-! ### All flags -/

theorem isClear_of_toPydantic {s : State ν} {row flag : FeatureFlag ν}
    (h : toPydantic setting.toSetting row = .ok flag) :
    isClear s orgId context flag = isClear s orgId context row := by
  obtain ⟨hkey, hid, -, hexpires, -⟩ := toPydantic_eq_ok h
  rw [isClear, isClear, hkey, hid, hexpires]

/-- A call without keys has a hundred results at most. -/
theorem length_activeFlags_le {s : State ν}
    (h : AllMeansAll setting s orgId context drawn) :
    (activeFlags s.tables orgId).length ≤ 100 := by
  obtain ⟨results, hresults, hkeys, -⟩ := h
  obtain ⟨flags, answers, hrows, hanswers, rfl⟩ := evaluateFlags_nil_eq_ok_iff.mp hresults
  rw [map_fst_resultsOf hanswers, map_key_of_toPydantic hrows] at hkeys
  have hlength := hkeys.length_eq
  rw [List.length_map, List.length_map] at hlength
  exact hlength ▸ List.length_take_le _ _

/-- **All flags** are evaluated, each as if it were alone, exactly if they are a hundred at most and
each of them can be. -/
theorem all_means_all_iff (setting : Setting ν) (s : State ν) (orgId : Str)
    (context : FlagEvaluationContext) (drawn : Str → Bool) :
    AllMeansAll setting s orgId context drawn ↔ InReach setting s orgId context := by
  have hlisted : (activeFlags s.tables orgId).length ≤ 100 → ∀ flag,
      flag ∈ activeFlags s.tables orgId ↔ flag ∈ listedFlags setting s.tables orgId := by
    intro hlength flag
    rw [listedFlags, List.take_of_length_le ((setting.order_perm _).length_eq.trans_le hlength),
      (setting.order_perm _).mem_iff]
  have hactive : ∀ row ∈ activeFlags s.tables orgId, row.status = .active := by
    intro row hrow
    have hboth := (List.mem_filter.mp hrow).2
    rw [Bool.and_eq_true, decide_eq_true_eq, decide_eq_true_eq] at hboth
    exact hboth.2
  constructor
  · intro h
    have hlength := length_activeFlags_le h
    obtain ⟨results, hresults, -, -⟩ := h
    obtain ⟨flags, answers, hrows, hanswers, -⟩ := evaluateFlags_nil_eq_ok_iff.mp hresults
    have hevaluated : ∀ row ∈ activeFlags s.tables orgId, ∃ flag ∈ flags,
        toPydantic setting.toSetting row = .ok flag := fun row hrow =>
      exists_mem_of_forall₂ hrows ((hlisted hlength row).mp hrow)
    refine ⟨hlength, fun row hrow => ?_, fun row hrow => ?_⟩
    · obtain ⟨flag, -, hflag⟩ := hevaluated row hrow
      exact (toPydantic_eq_ok hflag).2.2.2.2
    · obtain ⟨flag, hmem, hflag⟩ := hevaluated row hrow
      obtain ⟨answer, hanswer, -⟩ := exists_mem_resultsOf hanswers hmem
      rw [← isClear_of_toPydantic hflag, ← @exists_evaluateSingleFlag_iff _ setting s orgId context
        (drawn flag.key) flag ((toPydantic_eq_ok hflag).2.2.1.trans (hactive row hrow))]
      exact ⟨answer, hanswer⟩
  · rintro ⟨hlength, hvalid, hclear⟩
    -- the models of the rows, and the answers about them
    have hvalidated : ∃ flags, (listedFlags setting s.tables orgId).mapM
        (toPydantic setting.toSetting) = .ok flags := exists_mapM_eq_ok_iff.mpr fun row hrow =>
      exists_toPydantic (hvalid row ((hlisted hlength row).mpr hrow))
    obtain ⟨flags, hflags⟩ := hvalidated
    have hrows := mapM_eq_ok_iff.mp hflags
    have hanswered : ∀ row ∈ activeFlags s.tables orgId, ∀ flag,
        toPydantic setting.toSetting row = .ok flag → ∃ answer,
          (evaluateSingleFlag setting s orgId context (drawn flag.key) flag).2 = .ok answer := by
      intro row hrow flag hflag
      rw [exists_evaluateSingleFlag_iff
        ((toPydantic_eq_ok hflag).2.2.1.trans (hactive row hrow)), isClear_of_toPydantic hflag]
      exact hclear row hrow
    have hevaluated : ∃ answers, (flags.mapM fun flag =>
        (evaluateSingleFlag setting s orgId context (drawn flag.key) flag).2) = .ok answers := by
      refine exists_mapM_eq_ok_iff.mpr fun flag hflag => ?_
      obtain ⟨row, hrow, hok⟩ := exists_mem_of_forall₂ hrows.flip hflag
      exact hanswered row ((hlisted hlength row).mpr hrow) flag hok
    obtain ⟨answers, hanswers⟩ := hevaluated
    have hall := mapM_eq_ok_iff.mp hanswers
    have hkeys := (map_fst_resultsOf hall).trans (map_key_of_toPydantic hrows)
    refine ⟨resultsOf flags answers, evaluateFlags_nil_eq_ok_iff.mpr
      ⟨flags, answers, hrows, hall, rfl⟩, ?_, fun row hrow => ?_⟩
    · rw [hkeys, listedFlags,
        List.take_of_length_le ((setting.order_perm _).length_eq.trans_le hlength)]
      exact (setting.order_perm _).map _
    · obtain ⟨flag, hmem, hflag⟩ := exists_mem_of_forall₂ hrows ((hlisted hlength row).mp hrow)
      obtain ⟨answer, hanswer, hresult⟩ := exists_mem_resultsOf hall hmem
      refine ⟨answer, ?_, evaluateFlags_key hrow hflag hanswer⟩
      exact (toPydantic_eq_ok hflag).1 ▸ hresult

end

/-! ### A hundred and one flags -/

/-- A flag whose key and id are `n + 1` letters. -/
def lettersFlag (n : ℕ) : FeatureFlag (Bool ⊕ Str) where
  key := List.replicate (n + 1) 'a'
  name := "Letters".toList
  description := none
  valueType := .boolean
  defaultValue := .inl false
  enabledValue := .inl true
  tags := []
  metadata := .inr []
  flagId := List.replicate (n + 1) 'a'
  orgId := "o".toList
  enabled := true
  isKillswitch := false
  status := .active
  rollout := default
  targeting := none
  expiresAt := none
  createdAt := n
  updatedAt := n
  createdBy := none
  version := 1

def lettersTables (count : ℕ) : FlagTables (Bool ⊕ Str) where
  flags :=
    { rows := (List.range count).map lettersFlag
      unique := by
        rw [List.map_map]
        refine List.Nodup.map (fun m n h => ?_) List.nodup_range
        have hlength := congrArg List.length h
        simpa [lettersFlag] using hlength }
  overrides := Table.empty
  changeLog := Table.empty
  keys := by
    intro f hf g hg _ hkey
    obtain ⟨m, -, rfl⟩ := List.mem_map.mp hf
    obtain ⟨n, -, rfl⟩ := List.mem_map.mp hg
    exact hkey
  targets := by simp [Table.empty]
  overrideFlags := by simp [Table.empty]
  logFlags := by simp [Table.empty]

/-- The first of them is not evaluated. -/
theorem all_means_a_hundred :
    ¬ ∀ (s : State (Bool ⊕ Str)) (orgId : Str) (context : FlagEvaluationContext)
      (drawn : Str → Bool), AllMeansAll (withoutRollout false) s orgId context drawn := by
  intro hall
  have hle := length_activeFlags_le
    (hall ⟨lettersTables 101, TtlCache.empty, 0⟩ "o".toList ⟨none, none⟩ fun _ => false)
  have hlength : (activeFlags (lettersTables 101) "o".toList).length = 101 := by
    rw [activeFlags, List.filter_eq_self.mpr]
    · simp [lettersTables]
    · intro flag hflag
      obtain ⟨n, -, rfl⟩ := List.mem_map.mp hflag
      rfl
  exact absurd (hlength ▸ hle) (by decide)

end FlagEvaluation

end OpenLangGraph
