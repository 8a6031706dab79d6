import Mathlib.Algebra.Order.Ring.Rat
import Mathlib.Data.List.Sort
import OpenLangGraph.Foundation.TtlCache
import OpenLangGraph.Services.FeatureFlagService

/-!
# The evaluation of feature flags

`evaluate_flags` of `services/feature_flag_service.py`, with the cache of its answers and what
invalidates them. Times are in microseconds.

## The cache

An answer is kept for 300 s, under a key with the organization, the flag and the user of the
context, `anon` if it has none. It is looked up before anything is asked of the flag. The answers
about a flag that is not active or has expired are not kept. An entry of the model also has the
question that it answers, which nothing reads.

A value that is kept is written as JSON and read back. It comes from a column of JSON, so this
changes nothing. The cache is the one that a Redis server keeps. Without a server nothing is kept.

## What is left open

The order of flags that were created at the same time, MD5, the printing of floats, the patterns of
a Redis server, and what `random.random()` returns.

## Main definitions

* `Setting`, `Question`, `State`
* `evaluate` — the answer, without the cache
* `evaluateSingleFlag`, `evaluateFlags` — with the cache
* `invalidate`, `State.after` — what an edit deletes
-/

namespace OpenLangGraph

namespace FlagEvaluation

open FeatureFlagService PyString

variable {ν : Type}

/-! ### What the service is given -/

structure Setting (ν : Type) extends FeatureFlagService.Setting ν where
  /-- `ORDER BY created_at DESC` -/
  order : List (FeatureFlag ν) → List (FeatureFlag ν)
  order_perm : ∀ flags, (order flags).Perm flags
  order_sorted : ∀ flags, (order flags).Pairwise fun a b => b.createdAt ≤ a.createdAt
  /-- `int(hashlib.md5(text.encode()).hexdigest(), 16)` -/
  md5 : Str → ℕ
  /-- `str(x)` of a float -/
  floatStr : ℚ → Str
  /-- `SCAN … MATCH pattern` finds the key. -/
  scanMatch : (pattern key : Str) → Bool

/-- What an answer depends on, besides the tables and the time. -/
structure Question where
  orgId : Str
  flagKey : Str
  /-- `context.user_id`, unless it is empty -/
  userId : Option Str
  /-- `context.org_id or org_id` -/
  hashOrg : Str
deriving DecidableEq

def question (orgId : Str) (context : FlagEvaluationContext) (flagKey : Str) : Question where
  orgId
  flagKey
  userId := truthy context.userId
  hashOrg := (truthy context.orgId).getD orgId

/-- The answers that are kept, and to which question. -/
abbrev EvalCache (ν : Type) := TtlCache Str (Question × FlagEvaluationResult ν)

structure State (ν : Type) where
  tables : FlagTables ν
  cache : EvalCache ν
  now : ℕ

/-- `CACHE_TTL_FLAGS` -/
def cacheTtlFlags : ℕ := 300 * 1000000

/-- `_build_eval_cache_key` -/
def buildEvalCacheKey (orgId flagKey : Str) (context : FlagEvaluationContext) : Str :=
  "ff_eval:".toList ++ (orgId ++ ':' :: (flagKey ++ ':' ::
    (truthy context.userId).getD "anon".toList))

section

variable (setting : Setting ν)

/-- `_invalidate_flag_cache`. No key of an answer begins with `ff_flags`. -/
def invalidate (cache : EvalCache ν) (i : Invalidation) : EvalCache ν :=
  let pattern := "ff_eval:".toList ++ (i.orgId ++ ':' :: (i.flagKey ++ ":*".toList))
  ⟨cache.entries.filter fun entry => !setting.scanMatch pattern entry.1⟩

/-- After an edit. -/
def State.after (s : State ν) (o : FeatureFlagService.Outcome ν) : State ν :=
  { s with tables := o.tables, cache := o.invalidated.foldl (invalidate setting) s.cache }

/-! ### The answer -/

/-- The hash of a rollout is below its percentage. -/
def inBucket (rollout : PercentageRolloutConfig) (flagKey id : Str) : Bool :=
  let hashInput := flagKey ++ ':' :: id
  let hashInput := match truthy rollout.seed with
    | some seed => seed ++ ':' :: hashInput
    | none => hashInput
  ((setting.md5 hashInput % 100 : ℕ) : ℚ) < rollout.percentage

/-- `_check_rollout`. The last argument is what `random.random() * 100 < rollout.percentage` is. -/
def checkRollout (rollout : PercentageRolloutConfig) (userId : Option Str) (orgId flagKey : Str)
    (drawn : Bool) : Bool :=
  if 100 ≤ rollout.percentage then true
  else if rollout.percentage ≤ 0 then false
  else
    match rollout.strategy with
    | .random => drawn
    | .userHash => (truthy userId).any fun userId => inBucket setting rollout flagKey userId
    | .orgHash => inBucket setting rollout flagKey orgId

/-- A result, as `_evaluate_single_flag` makes them. -/
def flagResult (flag : FeatureFlag ν) (now : ℕ) (value : ν) (enabled : Bool) (source : String)
    (reason : Str) (overrideId : Option Str) : FlagEvaluationResult ν where
  flagKey := flag.key
  value
  enabled
  source := source.toList
  reason
  flagId := some flag.flagId
  overrideId
  evaluatedAt := now

/-- The result of an override. -/
def overrideResult (flag : FeatureFlag ν) (now : ℕ) (kind : String)
    (o : FeatureFlagOverride ν) : FlagEvaluationResult ν :=
  flagResult flag now o.value true "override"
    (kind.toList ++ " override: ".toList ++ (truthy o.reason).getD "no reason".toList)
    (some o.overrideId)

/-- What is answered if no override applies. -/
def evaluateFlag (orgId : Str) (context : FlagEvaluationContext) (now : ℕ) (drawn : Bool)
    (flag : FeatureFlag ν) : FlagEvaluationResult ν :=
  if !flag.enabled then
    flagResult flag now flag.defaultValue false "flag" "Flag is disabled".toList none
  else if flag.rollout.enabled && flag.rollout.percentage < 100 &&
      !checkRollout setting flag.rollout context.userId ((truthy context.orgId).getD orgId)
        flag.key drawn then
    flagResult flag now flag.defaultValue false "rollout"
      ("Not in rollout (".toList ++ setting.floatStr flag.rollout.percentage ++ "%)".toList) none
  else flagResult flag now flag.enabledValue true "flag" "Flag is enabled".toList none

/-- The answer without the cache, and whether it is kept. -/
def evaluate (t : FlagTables ν) (orgId : Str) (context : FlagEvaluationContext) (now : ℕ)
    (drawn : Bool) (flag : FeatureFlag ν) : Except FlagError (FlagEvaluationResult ν × Bool) :=
  if flag.status ≠ .active then
    .ok (flagResult flag now flag.defaultValue false "default"
      ("Flag is ".toList ++ flag.status.value) none, false)
  else if flag.expiresAt.any (· < now) then
    .ok (flagResult flag now flag.defaultValue false "default" "Flag has expired".toList none,
      false)
  else do
    let userOverride ← match truthy context.userId with
      | some userId => getActiveOverride t flag.flagId orgId .user (some userId) now
      | none => .ok none
    match userOverride with
    | some o => .ok (overrideResult flag now "User" o, true)
    | none =>
      match ← getActiveOverride t flag.flagId orgId .org none now with
      | some o => .ok (overrideResult flag now "Org" o, true)
      | none => .ok (evaluateFlag setting orgId context now drawn flag, true)

/-! ### With the cache -/

/-- `_evaluate_single_flag` -/
def evaluateSingleFlag (s : State ν) (orgId : Str) (context : FlagEvaluationContext)
    (drawn : Bool) (flag : FeatureFlag ν) : State ν × Except FlagError (FlagEvaluationResult ν) :=
  let key := buildEvalCacheKey orgId flag.key context
  match s.cache.get s.now key with
  | some cached => (s, .ok cached.2)
  | none =>
    match evaluate setting s.tables orgId context s.now drawn flag with
    | .error e => (s, .error e)
    | .ok (result, false) => (s, .ok result)
    | .ok (result, true) =>
      let entry := (question orgId context flag.key, result)
      ({ s with cache := s.cache.set key entry (s.now + cacheTtlFlags) }, .ok result)

/-- The flags that are evaluated: those with the given keys, or the first hundred that are
active. -/
def selectedFlags (t : FlagTables ν) (orgId : Str) (flagKeys : List Str) :
    Except FlagError (List (FeatureFlag ν)) :=
  if flagKeys ≠ [] then
    (flagKeys.mapM fun key => getFlagByKey setting.toSetting t orgId key).map (·.filterMap id)
  else
    ((setting.order (t.flags.rows.filter fun row => row.orgId = orgId && row.status = .active)).take
      100).mapM (toPydantic setting.toSetting)

/-- The loop of `evaluate_flags`, with the results so far. -/
def evaluateEach (orgId : Str) (context : FlagEvaluationContext) (drawn : Str → Bool) :
    State ν → List (FeatureFlag ν) → List (Str × FlagEvaluationResult ν) →
      State ν × Except FlagError (List (Str × FlagEvaluationResult ν))
  | s, [], results => (s, .ok results)
  | s, flag :: flags, results =>
    match evaluateSingleFlag setting s orgId context (drawn flag.key) flag with
    | (s, .error e) => (s, .error e)
    | (s, .ok result) =>
      evaluateEach orgId context drawn s flags (PyDict.set results flag.key result)

/-- `evaluate_flags` -/
def evaluateFlags (s : State ν) (orgId : Str) (context : FlagEvaluationContext)
    (flagKeys : List Str) (drawn : Str → Bool) :
    State ν × Except FlagError (List (Str × FlagEvaluationResult ν)) :=
  match selectedFlags setting s.tables orgId flagKeys with
  | .error e => (s, .error e)
  | .ok flags => evaluateEach setting orgId context drawn s flags []

end

/-- Booleans and strings as values, ids without the special characters of a pattern, and no rollout,
so that nothing is hashed or printed. -/
def withoutRollout (serializes : Bool) : Setting (Bool ⊕ Str) where
  types := plainTypes
  serializes _ := serializes
  order := List.insertionSort fun a b => b.createdAt ≤ a.createdAt
  order_perm := List.perm_insertionSort _
  order_sorted := by
    have : Std.Total fun a b : FeatureFlag (Bool ⊕ Str) => b.createdAt ≤ a.createdAt :=
      ⟨fun a b => Nat.le_total b.createdAt a.createdAt⟩
    have : IsTrans (FeatureFlag (Bool ⊕ Str)) fun a b => b.createdAt ≤ a.createdAt :=
      ⟨fun _ _ _ hab hbc => hbc.trans hab⟩
    exact List.pairwise_insertionSort _
  md5 _ := 0
  floatStr _ := []
  scanMatch pattern key := pattern.dropLast.isPrefixOf key

end FlagEvaluation

end OpenLangGraph
