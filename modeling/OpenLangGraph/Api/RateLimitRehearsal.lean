import OpenLangGraph.Core.RateLimitCheck

/-!
# Looking at a rate limit without using it up

`get_current_usage` of `core/rate_limit_enforcer.py`, and the endpoints of
`api/rate_limit_rules.py` that call it: `check_rate_limit`, which says whether a request would be
let through, and `get_rate_limit_usage`.

## A look writes

To count, `get_current_usage` removes what has left the window, as a check does before it counts.
What it removes the next check would have removed, if the window of this check does not begin
earlier. That is a condition on the clocks and on the rule: a rule whose window becomes longer does
look back further.

## Scope

A check is one step here, and so is a look. The percentage of the usage is left out. A report of the
usage names users only, and looks at the counter without a target for the rules about endpoints and
API keys.

## Main definitions

* `getCurrentUsage`
* `RedisStep.Precedes` — the condition on the clocks
* `RateLimitRulesApi.checkRateLimit`, `RateLimitRulesApi.getRateLimitUsage`

## Main results

* `answers_filter` — the checks answer as if nobody looked
* `observers_transparent` — so do the calls
* `promise_kept` — what a rehearsal promises
-/

namespace OpenLangGraph

open PyString

namespace RateLimitEnforcer

/-! ### A look at a counter -/

/-- How a look meets Redis, with the times at which its commands are executed there. -/
inductive ReadingPath
  /-- or the client is gone -/
  | unavailable
  | commands (removing counting : ℕ) (failure : Option Failure)

def ReadingPath.times : ReadingPath → List ℕ
  | .unavailable => []
  | .commands removing counting _ => [removing, counting]

/-- A look that reads the clock. -/
structure Reading where
  nowMs : ℕ
  path : ReadingPath

/-- `window_start_ms` -/
def Reading.windowStartMs (windowSeconds : ℕ) (r : Reading) : ℤ :=
  r.nowMs - (windowSeconds * 1000 : ℕ)

/-- `get_current_usage`: what is under the key afterwards, and the count. -/
def getCurrentUsage (windowSeconds : ℕ) (r : Reading) (key : Key) : Key × ℕ :=
  match r.path with
  | .unavailable => (key, 0)
  | .commands removing counting failure =>
    let removed := Redis.zremrangebyscore removing (r.windowStartMs windowSeconds) key
    match durableAt failure .zremrangebyscore with
    | some durable => (if durable then removed else key, 0)
    | none =>
      match durableAt failure .zcard with
      | some _ => (removed, 0)
      | none => (removed, Redis.zcard counting removed)

/-- A look without a failure. -/
theorem getCurrentUsage_of_path {r : Reading} {removing counting : ℕ}
    (h : r.path = .commands removing counting none) (windowSeconds : ℕ) (key : Key) :
    getCurrentUsage windowSeconds r key =
      (Redis.zremrangebyscore removing (r.windowStartMs windowSeconds) key,
        Redis.zcard counting
          (Redis.zremrangebyscore removing (r.windowStartMs windowSeconds) key)) := by
  rw [getCurrentUsage, h]
  rfl

/-- It leaves the counter alone, or removes what has left the window. -/
theorem getCurrentUsage_fst (windowSeconds : ℕ) (r : Reading) (key : Key) :
    (getCurrentUsage windowSeconds r key).1 = key ∨ ∃ now ∈ r.path.times,
      (getCurrentUsage windowSeconds r key).1 =
        Redis.zremrangebyscore now (r.windowStartMs windowSeconds) key := by
  rw [getCurrentUsage]
  split
  · exact .inl rfl
  · next removing counting failure hpath =>
    rw [hpath]
    dsimp only
    split
    · next durable _ =>
      cases durable with
      | false => exact .inl rfl
      | true => exact .inr ⟨removing, List.mem_cons_self .., rfl⟩
    · split
      · exact .inr ⟨removing, List.mem_cons_self .., rfl⟩
      · exact .inr ⟨removing, List.mem_cons_self .., rfl⟩

theorem Written.getCurrentUsage {key : Key} (h : Written key) (windowSeconds : ℕ) (r : Reading) :
    Written (getCurrentUsage windowSeconds r key).1 := by
  rcases getCurrentUsage_fst windowSeconds r key with heq | ⟨now, -, heq⟩
  · rw [heq]
    exact h
  · rw [heq]
    exact h.zremrangebyscore now _

/-- A look at the counter under a key. -/
def Counters.look (counters : Counters) (windowSeconds : ℕ) (r : Reading) (key : Str) :
    Counters × ℕ :=
  let usage := getCurrentUsage windowSeconds r (counters.find key)
  (⟨Redis.put counters.db key usage.1,
    counters.written_put key ((counters.written key).getCurrentUsage windowSeconds r)⟩, usage.2)

theorem Counters.look_snd (counters : Counters) (windowSeconds : ℕ) (r : Reading) (key : Str) :
    (counters.look windowSeconds r key).2 =
      (getCurrentUsage windowSeconds r (counters.find key)).2 :=
  rfl

theorem Counters.find_look (counters : Counters) (windowSeconds : ℕ) (r : Reading)
    (key key' : Str) :
    (counters.look windowSeconds r key).1.find key' =
      if key' = key then (getCurrentUsage windowSeconds r (counters.find key)).1
      else counters.find key' :=
  Redis.find_put _ _ _ _

/-! ### Checks and looks -/

/-- A check of a counter, or a look at it. -/
inductive RedisStep
  | check (setting : Setting) (a : Attempt) (key : Str)
  | look (windowSeconds : ℕ) (r : Reading) (key : Str)

namespace RedisStep

def isCheck : RedisStep → Bool
  | .check _ _ _ => true
  | .look _ _ _ => false

/-- What is left of the counters. -/
def perform (counters : Counters) : RedisStep → Counters
  | .check setting a key => (counters.check setting a key).1
  | .look windowSeconds r key => (counters.look windowSeconds r key).1

/-- A look removes before a later check of the counter does, and looks back at least as far. -/
def Precedes : RedisStep → RedisStep → Prop
  | .look windowSeconds r key, .check setting a key' => key = key' →
      r.windowStartMs windowSeconds ≤ a.call.windowStartMs setting ∧
        ∀ now ∈ r.path.times, ∀ now' ∈ a.path.times, now ≤ now'
  | _, _ => True

instance : DecidableRel Precedes
  | .look _ _ _, .check _ _ _ => inferInstanceAs (Decidable (_ = _ → _ ∧ _))
  | .look _ _ _, .look _ _ _ => inferInstanceAs (Decidable True)
  | .check _ _ _, .check _ _ _ => inferInstanceAs (Decidable True)
  | .check _ _ _, .look _ _ _ => inferInstanceAs (Decidable True)

end RedisStep

/-- What the checks are told. -/
def answers (counters : Counters) : List RedisStep → List (ℕ × Bool)
  | [] => []
  | .check setting a key :: steps =>
    (counters.check setting a key).2 :: answers (counters.check setting a key).1 steps
  | .look windowSeconds r key :: steps => answers (counters.look windowSeconds r key).1 steps

/-- A check finds the same in two counters, once it has removed what has left its window. -/
def SeenAlike (setting : Setting) (a : Attempt) (key key' : Key) : Prop :=
  ∀ now ∈ a.path.times, Redis.zremrangebyscore now (a.call.windowStartMs setting) key =
    Redis.zremrangebyscore now (a.call.windowStartMs setting) key'

variable {setting : Setting} {a : Attempt} {key key' : Key}

/-- **A check** answers the same then. It leaves the same, or it has not come to Redis. -/
theorem slidingWindowCheck_of_seenAlike (h : SeenAlike setting a key key') :
    (slidingWindowCheck setting a key).2 = (slidingWindowCheck setting a key').2 ∧
      ((slidingWindowCheck setting a key).1 = (slidingWindowCheck setting a key').1 ∨
        (slidingWindowCheck setting a key).1 = key ∧
          (slidingWindowCheck setting a key').1 = key') := by
  rw [SeenAlike] at h
  rw [slidingWindowCheck, slidingWindowCheck]
  cases hpath : a.path with
  | unavailable => exact ⟨rfl, .inr ⟨rfl, rfl⟩⟩
  | noClient => exact ⟨rfl, .inr ⟨rfl, rfl⟩⟩
  | script now failure =>
    have hscript : slidingWindowCheckScript setting now a.call key =
        slidingWindowCheckScript setting now a.call key' := by
      rw [slidingWindowCheckScript, slidingWindowCheckScript,
        h now (by rw [hpath]; exact List.mem_singleton_self _)]
    cases failure with
    | none => exact ⟨congrArg Prod.snd hscript, .inl (congrArg Prod.fst hscript)⟩
    | some durable =>
      refine ⟨rfl, ?_⟩
      cases durable with
      | false => exact .inr ⟨rfl, rfl⟩
      | true =>
        have hkey := congrArg Prod.fst hscript
        exact .inl hkey
  | commands now failure =>
    have hremoved := h (now .zremrangebyscore) (by rw [hpath]; exact List.mem_cons_self ..)
    dsimp only [fallbackCheck, executing]
    rw [hremoved]
    cases durableAt failure .zremrangebyscore with
    | none => exact ⟨rfl, .inl rfl⟩
    | some durable =>
      refine ⟨rfl, ?_⟩
      cases durable with
      | false => exact .inr ⟨rfl, rfl⟩
      | true => exact .inl rfl

/-- What a look leaves, and what it found. -/
theorem seenAlike_getCurrentUsage {windowSeconds : ℕ} {r : Reading}
    (hstart : r.windowStartMs windowSeconds ≤ a.call.windowStartMs setting)
    (htimes : ∀ now ∈ r.path.times, ∀ now' ∈ a.path.times, now ≤ now')
    (h : SeenAlike setting a key key') :
    SeenAlike setting a (getCurrentUsage windowSeconds r key).1 key' := by
  intro now' hnow'
  rcases getCurrentUsage_fst windowSeconds r key with heq | ⟨now, hnow, heq⟩
  · rw [heq]
    exact h now' hnow'
  · rw [heq, Redis.zremrangebyscore_zremrangebyscore (htimes now hnow now' hnow') hstart]
    exact h now' hnow'

/-- Two states of the counters that the checks among the steps do not tell apart. -/
def Alike (steps : List RedisStep) (counters counters' : Counters) : Prop :=
  ∀ setting a key, .check setting a key ∈ steps →
    SeenAlike setting a (counters.find key) (counters'.find key)

theorem Alike.refl (steps : List RedisStep) (counters : Counters) : Alike steps counters counters :=
  fun _ _ _ _ _ _ => rfl

variable {counters counters' : Counters} {steps : List RedisStep} {key : Str}

/-- The next step is a check. -/
theorem Alike.check (h : Alike (.check setting a key :: steps) counters counters') :
    (counters.check setting a key).2 = (counters'.check setting a key).2 ∧
      Alike steps (counters.check setting a key).1 (counters'.check setting a key).1 := by
  obtain ⟨hanswer, hkeys⟩ :=
    slidingWindowCheck_of_seenAlike (h setting a key (List.mem_cons_self ..))
  refine ⟨hanswer, fun setting' a' key' hmem => ?_⟩
  have hlater := h setting' a' key' (List.mem_cons_of_mem _ hmem)
  rw [Counters.find_check, Counters.find_check]
  split
  · next hkey =>
    subst hkey
    rcases hkeys with hsame | ⟨hleft, hright⟩
    · rw [hsame]
      exact fun _ _ => rfl
    · rw [hleft, hright]
      exact hlater
  · exact hlater

/-- The next step is a look. -/
theorem Alike.look {windowSeconds : ℕ} {r : Reading}
    (hfirst : ∀ step ∈ steps, RedisStep.Precedes (.look windowSeconds r key) step)
    (h : Alike (.look windowSeconds r key :: steps) counters counters') :
    Alike steps (counters.look windowSeconds r key).1 counters' := by
  intro setting' a' key' hmem
  have hlater := h setting' a' key' (List.mem_cons_of_mem _ hmem)
  rw [Counters.find_look]
  split
  · next hkey =>
    subst hkey
    obtain ⟨hstart, htimes⟩ := hfirst _ hmem rfl
    exact seenAlike_getCurrentUsage hstart htimes hlater
  · exact hlater

/-- **The checks answer as if nobody looked**, whatever the order of the checks and the looks. The
counters may differ in what the checks that are to come will remove. -/
theorem answers_filter (hsteps : steps.Pairwise RedisStep.Precedes)
    (halike : Alike steps counters counters') :
    answers counters steps = answers counters' (steps.filter RedisStep.isCheck) := by
  induction steps generalizing counters counters' with
  | nil => rfl
  | cons step steps ih =>
    obtain ⟨hfirst, hrest⟩ := List.pairwise_cons.mp hsteps
    cases step with
    | check setting a key =>
      rw [List.filter_cons_of_pos rfl, answers, answers]
      exact congrArg₂ List.cons halike.check.1 (ih hrest halike.check.2)
    | look windowSeconds r key =>
      rw [List.filter_cons_of_neg (by simp [RedisStep.isCheck]), answers]
      exact ih hrest (halike.look hfirst)

end RateLimitEnforcer

namespace RateLimitRulesApi

open RateLimitEnforcer

/-! ### The endpoints -/

/-- `check_rate_limit` of the API, with the rule that `resolve_rule` has returned. -/
def checkRateLimit (now : ℕ) (r : Reading) (matchedRule : Option RateLimitRuleMatch)
    (request : Request) (counters : Counters) : Counters × RateLimitCheckResult :=
  match matchedRule with
  | none => (counters, unlimited now)
  | some rule =>
    let usage := counters.look rule.windowSeconds r (redisKey rule request)
    let allowed : Bool := usage.2 < rule.requestsPerWindow
    (usage.1,
      { allowed := allowed
        matchedRule := some rule
        currentCount := usage.2
        limit := rule.requestsPerWindow
        remaining := rule.requestsPerWindow - usage.2
        resetAt := now + rule.windowSeconds * 1000
        retryAfter := if allowed then none else some (min rule.windowSeconds 60)
        burstRemaining := none })

structure RateLimitRuleUsage where
  ruleId : Str
  ruleName : Str
  currentCount : ℕ
  limit : ℕ
  remaining : ℕ
  resetAt : ℕ
  violationsToday : ℕ

/-- Where `get_rate_limit_usage` looks. -/
def usageKey (orgId : Str) (userId : Option Str) (rule : RateLimitRule) : Str :=
  buildRedisKey rule.ruleId orgId none (if rule.targetType = .user then userId else none) none

/-- `if rule_id and rule.rule_id != rule_id` -/
def isSkipped (ruleId : Option Str) (rule : RateLimitRule) : Bool :=
  (truthy ruleId).any (rule.ruleId ≠ ·)

/-- `get_rate_limit_usage`, with the rules that `list_rules` has returned. -/
def getRateLimitUsage (now : ℕ) (orgId : Str) (ruleId userId : Option Str) (counters : Counters) :
    List (RateLimitRule × Reading) → Counters × List RateLimitRuleUsage
  | [] => (counters, [])
  | (rule, r) :: rules =>
    if isSkipped ruleId rule then getRateLimitUsage now orgId ruleId userId counters rules
    else
      let usage := counters.look rule.windowSize.seconds r (usageKey orgId userId rule)
      let later := getRateLimitUsage now orgId ruleId userId usage.1 rules
      (later.1,
        { ruleId := rule.ruleId
          ruleName := rule.name
          currentCount := usage.2
          limit := rule.requestsPerWindow
          remaining := rule.requestsPerWindow - usage.2
          resetAt := now + rule.windowSize.seconds * 1000
          violationsToday := 0 } :: later.2)

/-! ### Calls -/

/-- A call of `check_rate_limit` of the enforcer, or of an endpoint that looks. -/
inductive Call
  | check (c : Circumstances) (matchedRule : Option RateLimitRuleMatch) (request : Request)
  | rehearse (now : ℕ) (r : Reading) (matchedRule : Option RateLimitRuleMatch) (request : Request)
  | usage (now : ℕ) (orgId : Str) (ruleId userId : Option Str)
    (rules : List (RateLimitRule × Reading))

namespace Call

def isCheck : Call → Bool
  | .check _ _ _ => true
  | .rehearse _ _ _ _ | .usage _ _ _ _ _ => false

/-- The counters that a call checks, and those that it looks at. -/
def steps : Call → List RedisStep
  | .check _ none _ | .rehearse _ _ none _ => []
  | .check c (some rule) request =>
    .check (mainSetting rule) c.main (redisKey rule request) ::
      (burstSetting? rule).toList.map (.check · c.burst (burstKey (redisKey rule request)))
  | .rehearse _ r (some rule) request => [.look rule.windowSeconds r (redisKey rule request)]
  | .usage _ orgId ruleId userId rules =>
    (rules.filter fun rule => !isSkipped ruleId rule.1).map fun rule =>
      .look rule.1.windowSize.seconds rule.2 (usageKey orgId userId rule.1)

/-- The counters afterwards, and what a request that is checked is told, with what is recorded of
it. -/
def perform (counters : Counters) : Call → Counters × List (RateLimitCheckResult × Option String)
  | .check c matchedRule request =>
    let checked := RateLimitEnforcer.checkRateLimit c matchedRule request counters
    (checked.counters, [(checked.result, checked.actionTaken)])
  | .rehearse now r matchedRule request =>
    ((checkRateLimit now r matchedRule request counters).1, [])
  | .usage now orgId ruleId userId rules =>
    ((getRateLimitUsage now orgId ruleId userId counters rules).1, [])

end Call

/-- What all requests are told. -/
def results (counters : Counters) : List Call → List (RateLimitCheckResult × Option String)
  | [] => []
  | call :: calls => (call.perform counters).2 ++ results (call.perform counters).1 calls

/-- The counters after the calls. -/
def after (counters : Counters) (calls : List Call) : Counters :=
  calls.foldl (fun counters call => (call.perform counters).1) counters

variable {counters counters' : Counters} {steps : List RedisStep}

/-- The burst limit, if there is one, says the same. -/
theorem alike_checkBurst (c : Circumstances) (rule : RateLimitRuleMatch) (key : Str)
    (h : Alike ((burstSetting? rule).toList.map (.check · c.burst (burstKey key)) ++ steps)
      counters counters') :
    (checkBurst c rule key counters).2 = (checkBurst c rule key counters').2 ∧
      Alike steps (checkBurst c rule key counters).1 (checkBurst c rule key counters').1 := by
  rw [checkBurst, checkBurst]
  cases hsetting : burstSetting? rule with
  | none =>
    rw [hsetting] at h
    exact ⟨rfl, h⟩
  | some setting =>
    rw [hsetting] at h
    obtain ⟨hburst, hafter⟩ := Alike.check h
    dsimp only
    rw [hburst]
    exact ⟨rfl, hafter⟩

/-- A request is told the same, and leaves what the later checks do not tell apart. -/
theorem alike_checkRateLimit (c : Circumstances) (matchedRule : Option RateLimitRuleMatch)
    (request : Request)
    (h : Alike ((Call.check c matchedRule request).steps ++ steps) counters counters') :
    (RateLimitEnforcer.checkRateLimit c matchedRule request counters).result =
        (RateLimitEnforcer.checkRateLimit c matchedRule request counters').result ∧
      (RateLimitEnforcer.checkRateLimit c matchedRule request counters).actionTaken =
        (RateLimitEnforcer.checkRateLimit c matchedRule request counters').actionTaken ∧
      Alike steps (RateLimitEnforcer.checkRateLimit c matchedRule request counters).counters
        (RateLimitEnforcer.checkRateLimit c matchedRule request counters').counters := by
  cases matchedRule with
  | none => exact ⟨rfl, rfl, h⟩
  | some rule =>
    obtain ⟨hmain, hafter⟩ := Alike.check h
    obtain ⟨hburst, hend⟩ := alike_checkBurst c rule (redisKey rule request) hafter
    dsimp only [RateLimitEnforcer.checkRateLimit]
    rw [hmain, hburst]
    exact ⟨rfl, rfl, hend⟩

/-- A rehearsal leaves what the later checks do not tell apart. -/
theorem Alike.rehearse {now : ℕ} {r : Reading} {matchedRule : Option RateLimitRuleMatch}
    {request : Request}
    (hsteps : ((Call.rehearse now r matchedRule request).steps ++ steps).Pairwise
      RedisStep.Precedes)
    (h : Alike ((Call.rehearse now r matchedRule request).steps ++ steps) counters counters') :
    Alike steps (checkRateLimit now r matchedRule request counters).1 counters' := by
  cases matchedRule with
  | none => exact h
  | some rule => exact Alike.look (List.pairwise_cons.mp hsteps).1 h

/-- A report of the usage does. -/
theorem Alike.usage {now : ℕ} {orgId : Str} {ruleId userId : Option Str}
    {rules : List (RateLimitRule × Reading)}
    (hsteps : ((Call.usage now orgId ruleId userId rules).steps ++ steps).Pairwise
      RedisStep.Precedes)
    (h : Alike ((Call.usage now orgId ruleId userId rules).steps ++ steps) counters counters') :
    Alike steps (getRateLimitUsage now orgId ruleId userId counters rules).1 counters' := by
  induction rules generalizing counters with
  | nil => exact h
  | cons rule rules ih =>
    rw [Call.steps] at hsteps h
    rw [getRateLimitUsage]
    split
    · next hskipped =>
      rw [List.filter_cons_of_neg (by simp [hskipped])] at hsteps h
      exact ih hsteps h
    · next hkept =>
      rw [List.filter_cons_of_pos (by simpa using hkept)] at hsteps h
      obtain ⟨hfirst, hrest⟩ := List.pairwise_cons.mp hsteps
      exact ih hrest (Alike.look hfirst h)

theorem results_filter {calls : List Call}
    (hcalls : (calls.flatMap Call.steps).Pairwise RedisStep.Precedes)
    (halike : Alike (calls.flatMap Call.steps) counters counters') :
    results counters calls = results counters' (calls.filter Call.isCheck) := by
  induction calls generalizing counters counters' with
  | nil => rfl
  | cons call calls ih =>
    rw [List.flatMap_cons] at hcalls halike
    have hrest := (List.pairwise_append.mp hcalls).2.1
    cases call with
    | check c matchedRule request =>
      obtain ⟨hresult, haction, hafter⟩ := alike_checkRateLimit c matchedRule request halike
      rw [List.filter_cons_of_pos rfl, results, results]
      dsimp only [Call.perform]
      rw [hresult, haction, ih hrest hafter]
    | rehearse now r matchedRule request =>
      rw [List.filter_cons_of_neg (by simp [Call.isCheck]), results]
      exact ih hrest (Alike.rehearse hcalls halike)
    | usage now orgId ruleId userId rules =>
      rw [List.filter_cons_of_neg (by simp [Call.isCheck]), results]
      exact ih hrest (Alike.usage hcalls halike)

/-- **Nobody notices an observer.** Take out of a run all rehearsals and all reports of the usage,
and every request that is checked is told the same. -/
theorem observers_transparent (counters : Counters) (calls : List Call)
    (hcalls : (calls.flatMap Call.steps).Pairwise RedisStep.Precedes) :
    results counters calls = results counters (calls.filter Call.isCheck) :=
  results_filter hcalls (.refl _ _)

/-- A look that is executed at once. -/
def lookAtOnce (now : ℕ) : Reading := ⟨now, .commands now now none⟩

/-- Ten requests in an hour. -/
def hourlyRow : RateLimitRule where
  name := "hourly".toList
  targetType := .org
  targetId := none
  endpointPattern := none
  requestsPerWindow := 10
  windowSize := .hour
  burstLimit := none
  burstWindow := none
  action := .reject
  priority := 100
  ruleId := "r".toList
  orgId := "o".toList
  enabled := true
  expiresAt := none

/-- A rehearsal between two requests, and a report of the usage. -/
def observedCalls (rule : RateLimitRuleMatch) : List Call :=
  [.check (atOnce 1000 "a".toList) (some rule) aRequest,
    .rehearse 1200 (lookAtOnce 1200) (some rule) aRequest,
    .usage 1300 "o".toList none none [(hourlyRow, lookAtOnce 1300)],
    .check (atOnce 1400 "b".toList) (some rule) aRequest]

theorem observers_transparent_hourly :
    results .empty (observedCalls hourlyRule) =
      results .empty ((observedCalls hourlyRule).filter Call.isCheck) :=
  observers_transparent _ _ (by decide)

/-! ### What a rehearsal promises -/

/-- The calls do their steps. -/
theorem perform_eq_foldl (counters : Counters) (call : Call) :
    (call.perform counters).1 = call.steps.foldl RedisStep.perform counters := by
  cases call with
  | check c matchedRule request =>
    cases matchedRule with
    | none => rfl
    | some rule =>
      dsimp only [Call.perform, RateLimitEnforcer.checkRateLimit, Call.steps]
      rw [checkBurst]
      cases burstSetting? rule with
      | none => rfl
      | some setting => rfl
  | rehearse now r matchedRule request =>
    cases matchedRule with
    | none => rfl
    | some rule => rfl
  | usage now orgId ruleId userId rules =>
    dsimp only [Call.perform, Call.steps]
    induction rules generalizing counters with
    | nil => rfl
    | cons rule rules ih =>
      rw [getRateLimitUsage]
      split
      · next hskipped =>
        rw [List.filter_cons_of_neg (by simp [hskipped])]
        exact ih counters
      · next hkept =>
        rw [List.filter_cons_of_pos (by simpa using hkept)]
        exact ih _

theorem after_eq_foldl (counters : Counters) (calls : List Call) :
    after counters calls = (calls.flatMap Call.steps).foldl RedisStep.perform counters := by
  rw [after, List.foldl_flatMap]
  exact List.foldl_ext _ _ _ fun counters call _ => perform_eq_foldl counters call

variable {setting : Setting} {a : Attempt} {key : Str}

/-- A step that does not check a counter leaves it, for a later check of it. -/
theorem seenAlike_perform {step : RedisStep} {left : Key}
    (hstep : step.Precedes (.check setting a key))
    (hother : ∀ setting' a', step ≠ .check setting' a' key)
    (h : SeenAlike setting a (counters.find key) left) :
    SeenAlike setting a ((step.perform counters).find key) left := by
  cases step with
  | check setting' a' key' =>
    rw [RedisStep.perform, Counters.find_check, if_neg]
    · exact h
    · rintro rfl
      exact hother setting' a' rfl
  | look windowSeconds r key' =>
    rw [RedisStep.perform, Counters.find_look]
    split
    · next hkey =>
      subst hkey
      obtain ⟨hstart, htimes⟩ := hstep rfl
      exact seenAlike_getCurrentUsage hstart htimes h
    · exact h

theorem seenAlike_foldl {left : Key}
    (hsteps : ∀ step ∈ steps, step.Precedes (.check setting a key))
    (hother : ∀ setting' a', .check setting' a' key ∉ steps)
    (h : SeenAlike setting a (counters.find key) left) :
    SeenAlike setting a ((steps.foldl RedisStep.perform counters).find key) left := by
  induction steps generalizing counters with
  | nil => exact h
  | cons step steps ih =>
    refine ih (fun step' h' => hsteps step' (List.mem_cons_of_mem _ h'))
      (fun setting' a' h' => hother setting' a' (List.mem_cons_of_mem _ h')) ?_
    refine seenAlike_perform (hsteps step (List.mem_cons_self ..)) (fun setting' a' h' => ?_) h
    exact hother setting' a' (h' ▸ List.mem_cons_self ..)

/-- A check that finds room, whenever it counts, lets the request pass. -/
theorem allowed_of_zcard_lt {key : Key}
    (hroom : ∀ now ∈ a.path.times, ∀ now' ∈ a.path.times,
      Redis.zcard now' (Redis.zremrangebyscore now (a.call.windowStartMs setting) key) <
        setting.limit) :
    (slidingWindowCheck setting a key).2.2 = true := by
  rw [slidingWindowCheck]
  cases hpath : a.path with
  | unavailable => rfl
  | noClient => rfl
  | script now failure =>
    have hnow : now ∈ a.path.times := by
      rw [hpath]
      exact List.mem_singleton_self _
    cases failure with
    | none =>
      dsimp only
      rw [slidingWindowCheckScript, if_pos (hroom now hnow now hnow)]
    | some durable => rfl
  | commands now failure =>
    have hcount := hroom (now .zremrangebyscore) (by rw [hpath]; simp [Path.times]) (now .zcard)
      (by rw [hpath]; simp [Path.times])
    dsimp only [fallbackCheck]
    rw [if_pos hcount]
    dsimp only [executing]
    cases durableAt failure .zremrangebyscore <;> cases durableAt failure .zcard <;>
      cases durableAt failure .zadd <;> cases durableAt failure .expire <;> rfl

/-- **What a rehearsal promises.** If it has counted, and says that the request would be let
through, the request is let through whenever it comes, unless another one is checked against the
same counter before. The rule has no burst limit: a rehearsal does not look at it. -/
theorem promise_kept (counters : Counters) {now removing counting : ℕ} {r : Reading}
    {rule : RateLimitRuleMatch} {request : Request} {between : List Call} {c : Circumstances}
    (hread : r.path = .commands removing counting none)
    (hsaid : (checkRateLimit now r (some rule) request counters).2.allowed = true)
    (hburst : burstSetting? rule = none)
    (hother : ∀ call ∈ between, ∀ setting a, .check setting a (redisKey rule request) ∉ call.steps)
    (hcalls : ((Call.rehearse now r (some rule) request :: between ++
      [Call.check c (some rule) request]).flatMap Call.steps).Pairwise RedisStep.Precedes) :
    (RateLimitEnforcer.checkRateLimit c (some rule) request
      (after counters (Call.rehearse now r (some rule) request :: between))).result.allowed =
        true := by
  have hsteps : (.look rule.windowSeconds r (redisKey rule request) ::
      (between.flatMap Call.steps ++ [.check (mainSetting rule) c.main (redisKey rule request)])
        ).Pairwise RedisStep.Precedes := by
    rw [List.cons_append, List.flatMap_cons, List.flatMap_append, List.flatMap_singleton] at hcalls
    simpa only [Call.steps, hburst, Option.toList_none, List.map_nil, List.singleton_append]
      using hcalls
  obtain ⟨hlook, hrest⟩ := List.pairwise_cons.mp hsteps
  -- what the rehearsal has counted
  set looked := counters.look rule.windowSeconds r (redisKey rule request) with hlooked
  have hcount : Redis.zcard counting (looked.1.find (redisKey rule request)) <
      rule.requestsPerWindow := by
    have hlt : looked.2 < rule.requestsPerWindow := of_decide_eq_true hsaid
    rw [hlooked, Counters.look_snd, getCurrentUsage_of_path hread] at hlt
    rw [hlooked, Counters.find_look, if_pos rfl, getCurrentUsage_of_path hread]
    exact hlt
  -- the check would find room at once
  have hnow : (slidingWindowCheck (mainSetting rule) c.main
      (looked.1.find (redisKey rule request))).2.2 = true := by
    refine allowed_of_zcard_lt fun now' hnow' _ _ => ?_
    have hprecedes : RedisStep.Precedes (.look rule.windowSeconds r (redisKey rule request))
        (.check (mainSetting rule) c.main (redisKey rule request)) := hlook _ (by simp)
    have hle : counting ≤ now' :=
      (hprecedes rfl).2 counting (by rw [hread]; simp [ReadingPath.times]) now' hnow'
    exact Nat.lt_of_le_of_lt (Redis.zcard_zremrangebyscore_le hle) hcount
  -- and it finds the same later
  have hlater : SeenAlike (mainSetting rule) c.main
      ((after counters (Call.rehearse now r (some rule) request :: between)).find
        (redisKey rule request)) (looked.1.find (redisKey rule request)) := by
    have hafter : after counters (Call.rehearse now r (some rule) request :: between) =
        after looked.1 between := rfl
    rw [hafter, after_eq_foldl]
    refine seenAlike_foldl (fun step hstep => ?_) (fun setting' a' hmem => ?_) fun _ _ => rfl
    · exact (List.pairwise_append.mp hrest).2.2 step hstep _ (List.mem_singleton_self _)
    · obtain ⟨call, hcall, hmem⟩ := List.mem_flatMap.mp hmem
      exact hother call hcall setting' a' hmem
  have hmain := (slidingWindowCheck_of_seenAlike hlater).1
  dsimp only [RateLimitEnforcer.checkRateLimit, checkBurst, Counters.check]
  rw [hburst, hmain, hnow]
  rfl

theorem promise_kept_hourly :
    (RateLimitEnforcer.checkRateLimit (atOnce 1400 "b".toList) (some (.fromRule hourlyRow)) aRequest
      (after .empty
        [.rehearse 1200 (lookAtOnce 1200) (some (.fromRule hourlyRow)) aRequest,
          .usage 1300 "o".toList none none [(hourlyRow, lookAtOnce 1300)]])).result.allowed =
      true :=
  promise_kept .empty rfl (by decide) rfl (by simp [Call.steps]) (by decide)

end RateLimitRulesApi

end OpenLangGraph
