import OpenLangGraph.Core.RateLimitEnforcer
import OpenLangGraph.Models.RateLimitRules

/-!
# What a rejected request costs

`check_rate_limit` of `core/rate_limit_enforcer.py`, from the rule that `resolve_rule` has returned
to the answer: a check of the window of the rule, and one of its burst window.

## Two checks and one answer

A check that has room adds its entry at once, and a request is rejected when one of the two checks
has no room. What the other one has added stays in its counter.

## Failures

A check lets the request pass if Redis is not available, or if a command raises. A command that
raises may have been executed.

## Main definitions

* `Attempt`, `slidingWindowCheck` — a check, and how it meets Redis
* `Counters` — the counters that the checks keep
* `checkRateLimit`
* `CostsNothing`
* `costsNothing` — the condition on a request

## Main results

* `undisturbed_slidingWindowCheck_iff` — which checks leave a counter as it was
* `rejected_costs_nothing_iff` — which rejected requests do
* `burst_rejection` — one that does not
-/

namespace OpenLangGraph

open PyString

namespace RateLimitEnforcer

/-! ### One check -/

/-- The commands of the path without the script. -/
inductive Command
  | zremrangebyscore
  | zcard
  | zadd
  | expire
deriving DecidableEq

/-- A command that raises. -/
structure Failure where
  command : Command
  /-- it has been executed -/
  durable : Bool

/-- How a check meets Redis, with the times at which its commands are executed there. -/
inductive Path
  | unavailable
  /-- the script raises if there is a failure, and may have been executed -/
  | script (now : ℕ) (failure : Option Bool)
  /-- the script is not registered, and the client is gone -/
  | noClient
  | commands (now : Command → ℕ) (failure : Option Failure)

def Path.times : Path → List ℕ
  | .unavailable | .noClient => []
  | .script now _ => [now]
  | .commands now _ => [now .zremrangebyscore, now .zcard, now .zadd, now .expire]

/-- A check that reads the clock and draws the end of its member. -/
structure Attempt where
  nowMs : ℕ
  /-- `uuid.uuid4().hex[:8]` -/
  suffix : Str
  path : Path

def Attempt.member (a : Attempt) : Str := decimalRepr a.nowMs ++ ":".toList ++ a.suffix

def Attempt.call (a : Attempt) : Call where
  nowMs := a.nowMs
  member := a.member
  script := match a.path with
    | .script _ _ => true
    | .unavailable | .noClient | .commands _ _ => false
  stage := .started

@[simp] theorem Attempt.nowMs_call (a : Attempt) : a.call.nowMs = a.nowMs := rfl

@[simp] theorem Attempt.member_call (a : Attempt) : a.call.member = a.member := rfl

/-- It takes place between a start and a finish. -/
def Attempt.Within (a : Attempt) (start finish : ℕ) : Prop :=
  (start :: a.nowMs :: a.path.times ++ [finish]).Pairwise (· ≤ ·)

instance (a : Attempt) (start finish : ℕ) : Decidable (a.Within start finish) :=
  inferInstanceAs (Decidable (List.Pairwise _ _))

/-- `(0, True)` for what is under the key now -/
def failOpen (key : Key) : Key × ℕ × Bool := (key, 0, true)

/-- Whether the failure is at this command, and if the command has been executed. -/
def durableAt (failure : Option Failure) (command : Command) : Option Bool :=
  (failure.filter (·.command = command)).map Failure.durable

@[simp] theorem durableAt_none (command : Command) : durableAt none command = none := rfl

@[simp] theorem durableAt_some (command command' : Command) (durable : Bool) :
    durableAt (some ⟨command, durable⟩) command' =
      if command = command' then some durable else none := by
  rw [durableAt, Option.filter_some]
  by_cases h : command = command' <;> simp [h]

/-- A command that may raise, with what is under the key before and after it. -/
def executing (failure : Option Failure) (command : Command) (before after : Key)
    (next : Key × ℕ × Bool) : Key × ℕ × Bool :=
  match durableAt failure command with
  | some durable => failOpen (if durable then after else before)
  | none => next

/-- The commands that do what the script does. -/
def fallbackCheck (setting : Setting) (call : Call) (now : Command → ℕ) (failure : Option Failure)
    (key : Key) : Key × ℕ × Bool :=
  let removed :=
    Redis.zremrangebyscore (now .zremrangebyscore) (call.windowStartMs setting) key
  let count := Redis.zcard (now .zcard) removed
  let added := some (Redis.zadd (now .zadd) call.member call.nowMs removed)
  let kept := Redis.expire (now .expire) setting.expireMs added
  executing failure .zremrangebyscore key removed <|
  executing failure .zcard removed removed <|
  if count < setting.limit then
    executing failure .zadd removed added <|
    executing failure .expire added kept (kept, count + 1, true)
  else (removed, count, false)

/-- `_sliding_window_check`: what is under the key afterwards, the count and the answer. -/
def slidingWindowCheck (setting : Setting) (a : Attempt) (key : Key) : Key × ℕ × Bool :=
  match a.path with
  | .unavailable | .noClient => failOpen key
  | .script now none => slidingWindowCheckScript setting now a.call key
  | .script now (some durable) =>
    failOpen (if durable then (slidingWindowCheckScript setting now a.call key).1 else key)
  | .commands now failure => fallbackCheck setting a.call now failure key

/-! ### The counters -/

/-- The members have been written by checks: each starts with its timestamp. -/
def Written (key : Key) : Prop :=
  ∀ e ∈ key, ∀ entry ∈ e.value, ∃ suffix, entry.1 = decimalRepr entry.2 ++ ":".toList ++ suffix

section

variable {setting : Setting} {a : Attempt} {key before after : Key} {next : Key × ℕ × Bool}
  {now : ℕ}

theorem Written.mem_members (h : Written key) {entry : Str × ℕ}
    (hentry : entry ∈ Redis.members now key) :
    ∃ suffix, entry.1 = decimalRepr entry.2 ++ ":".toList ++ suffix := by
  obtain ⟨e, hkey, -, hmem⟩ := Redis.exists_of_mem_members hentry
  exact h e hkey entry hmem

theorem Written.zremrangebyscore (h : Written key) (now : ℕ) (max : ℤ) :
    Written (Redis.zremrangebyscore now max key) :=
  fun _ he _ hentry => h.mem_members (Redis.mem_of_zremrangebyscore he hentry)

theorem Written.zadd (h : Written key) (a : Attempt) (now : ℕ) :
    Written (some (Redis.zadd now a.member a.nowMs key)) := by
  intro e he entry hentry
  obtain rfl := Option.some.inj he
  rcases Redis.mem_of_mem_zadd hentry with rfl | hold
  · exact ⟨a.suffix, rfl⟩
  · exact h.mem_members hold

theorem Written.expire (h : Written key) (now ttl : ℕ) : Written (Redis.expire now ttl key) := by
  intro e he entry hentry
  obtain ⟨e', hlive, rfl⟩ := Option.map_eq_some_iff.mp he
  exact h e' (Redis.eq_of_live hlive) entry hentry

theorem executing_of {P : Key → Prop} (failure : Option Failure) (command : Command)
    (hbefore : P before) (hafter : P after) (hnext : P next.1) :
    P (executing failure command before after next).1 := by
  rw [executing]
  split
  · dsimp only [failOpen]
    split
    · exact hafter
    · exact hbefore
  · exact hnext

theorem Written.script (h : Written key) (setting : Setting) (now : ℕ) (a : Attempt) :
    Written (slidingWindowCheckScript setting now a.call key).1 := by
  have hremoved := h.zremrangebyscore now (a.call.windowStartMs setting)
  rw [slidingWindowCheckScript]
  split
  · exact (hremoved.zadd a now).expire now _
  · exact hremoved

theorem Written.fallback (h : Written key) (setting : Setting) (a : Attempt)
    (now : Command → ℕ) (failure : Option Failure) :
    Written (fallbackCheck setting a.call now failure key).1 := by
  have hremoved := h.zremrangebyscore (now .zremrangebyscore) (a.call.windowStartMs setting)
  have hadded := hremoved.zadd a (now .zadd)
  refine executing_of _ _ h hremoved (executing_of _ _ hremoved hremoved ?_)
  split
  · exact executing_of _ _ hremoved hadded
      (executing_of _ _ hadded (hadded.expire _ _) (hadded.expire _ _))
  · exact hremoved

/-- A check writes what a check writes. -/
theorem Written.slidingWindowCheck (h : Written key) (setting : Setting) (a : Attempt) :
    Written (slidingWindowCheck setting a key).1 := by
  rw [RateLimitEnforcer.slidingWindowCheck]
  split
  · exact h
  · exact h
  · exact h.script setting _ a
  · dsimp only [failOpen]
    split
    · exact h.script setting _ a
    · exact h
  · exact h.fallback setting a _ _

end

/-- The counters of all rules. -/
structure Counters where
  db : Redis.Db Str (Redis.SortedSet Str)
  written : ∀ key, Written (Redis.find db key)

namespace Counters

def find (counters : Counters) (key : Str) : Key := Redis.find counters.db key

theorem written_find (counters : Counters) (key : Str) : Written (counters.find key) :=
  counters.written key

theorem written_put (counters : Counters) (key : Str) {left : Key} (h : Written left) (key' : Str) :
    Written (Redis.find (Redis.put counters.db key left) key') := by
  rw [Redis.find_put]
  split
  · exact h
  · exact counters.written key'

/-- A check of the counter under a key. -/
def check (counters : Counters) (setting : Setting) (a : Attempt) (key : Str) :
    Counters × ℕ × Bool :=
  let answer := slidingWindowCheck setting a (counters.find key)
  (⟨Redis.put counters.db key answer.1,
    counters.written_put key ((counters.written key).slidingWindowCheck setting a)⟩, answer.2)

/-- No request has come yet. -/
def empty : Counters := ⟨[], fun _ _ he => absurd he (by simp [Redis.find])⟩

theorem find_check (counters : Counters) (setting : Setting) (a : Attempt) (key key' : Str) :
    (counters.check setting a key).1.find key' =
      if key' = key then (slidingWindowCheck setting a (counters.find key)).1
      else counters.find key' :=
  Redis.find_put _ _ _ _

end Counters

/-! ### Both checks -/

/-- What a request is checked for. -/
structure Request where
  orgId : Str
  endpoint : Str
  userId : Option Str
  apiKeyId : Option Str

/-- `_build_redis_key` -/
def buildRedisKey (ruleId orgId : Str) (endpoint userId apiKeyId : Option Str) : Str :=
  let qualifier :=
    (truthy userId).map ("u:".toList ++ ·) <|>
    (truthy apiKeyId).map ("k:".toList ++ ·) <|>
    (truthy endpoint).map ("e:".toList ++ ·)
  List.intercalate ":".toList (["rl_sw".toList, ruleId, orgId] ++ qualifier.toList)

/-- The key of the counter of a rule for a request. -/
def redisKey (rule : RateLimitRuleMatch) (request : Request) : Str :=
  buildRedisKey rule.ruleId request.orgId
    (if rule.targetType = .endpoint then some request.endpoint else none)
    (if rule.targetType = .user then request.userId else none)
    (if rule.targetType = .apiKey then request.apiKeyId else none)

/-- The key of the burst counter. -/
def burstKey (key : Str) : Str := key ++ ":burst".toList

theorem burstKey_ne (key : Str) : burstKey key ≠ key := by
  intro h
  have hlength := congrArg List.length h
  simp [burstKey] at hlength

def mainSetting (rule : RateLimitRuleMatch) : Setting :=
  ⟨rule.windowSeconds, rule.requestsPerWindow⟩

/-- `if matched_rule.burst_limit and matched_rule.burst_window_seconds` -/
def burstSetting? (rule : RateLimitRuleMatch) : Option Setting :=
  match rule.burstLimit.filter (· ≠ 0), rule.burstWindowSeconds.filter (· ≠ 0) with
  | some burstLimit, some burstWindowSeconds => some ⟨burstWindowSeconds, burstLimit⟩
  | _, _ => none

/-- A call of `check_rate_limit`: when it starts, how its checks meet Redis, and when it returns. -/
structure Circumstances where
  now : ℕ
  main : Attempt
  burst : Attempt
  finish : ℕ
  main_within : main.Within now finish
  burst_within : burst.Within now finish

/-- `RateLimitCheckResult` -/
structure RateLimitCheckResult where
  allowed : Bool
  matchedRule : Option RateLimitRuleMatch
  currentCount : ℕ
  limit : ℕ
  remaining : ℕ
  resetAt : ℕ
  retryAfter : Option ℕ
  burstRemaining : Option ℕ

/-- What is answered, what is recorded for analytics, and the counters afterwards. -/
structure Checked where
  counters : Counters
  result : RateLimitCheckResult
  actionTaken : Option String

/-- The answer without a rule. -/
def unlimited (now : ℕ) : RateLimitCheckResult where
  allowed := true
  matchedRule := none
  currentCount := 0
  limit := 0
  remaining := 0
  resetAt := now + 3600 * 1000
  retryAfter := none
  burstRemaining := none

/-- The check of the burst limit, if there is one: `burst_allowed` and `burst_remaining`. -/
def checkBurst (c : Circumstances) (rule : RateLimitRuleMatch) (key : Str) (counters : Counters) :
    Counters × Bool × Option ℕ :=
  match burstSetting? rule with
  | none => (counters, true, none)
  | some setting =>
    let burst := counters.check setting c.burst (burstKey key)
    (burst.1, burst.2.2, some (setting.limit - burst.2.1))

/-- `action_taken` -/
def actionTaken : RateLimitAction → String
  | .reject => "rejected"
  | .throttle => "throttled"
  | .logOnly => "logged"

/-- `check_rate_limit` under the rule that `resolve_rule` has returned. -/
def checkRateLimit (c : Circumstances) (matchedRule : Option RateLimitRuleMatch) (request : Request)
    (counters : Counters) : Checked :=
  match matchedRule with
  | none => ⟨counters, unlimited c.now, none⟩
  | some rule =>
    let key := redisKey rule request
    let main := counters.check (mainSetting rule) c.main key
    let burst := checkBurst c rule key main.1
    let allowed := main.2.2 && burst.2.1
    { counters := burst.1
      result :=
        { allowed := allowed || rule.action ≠ .reject
          matchedRule := some rule
          currentCount := main.2.1
          limit := rule.requestsPerWindow
          remaining := rule.requestsPerWindow - main.2.1
          resetAt := c.now + rule.windowSeconds * 1000
          retryAfter := if allowed then none else some (min rule.windowSeconds 60)
          burstRemaining := burst.2.2 }
      actionTaken := if allowed then none else some (actionTaken rule.action) }

/-! ### What a check leaves behind -/

/-- **What a rejected request may cost**: from the start of the call to its end no entry that is in
the window comes into the main counter or the burst counter, and none leaves it but by expiry. -/
structure CostsNothing (c : Circumstances) (rule : RateLimitRuleMatch) (request : Request)
    (counters counters' : Counters) : Prop where
  main : Redis.Undisturbed (fun entry => c.finish < entry.2 + (mainSetting rule).windowMs)
    c.now c.finish (counters.find (redisKey rule request)) (counters'.find (redisKey rule request))
  burst : Redis.Undisturbed
    (fun entry => ∀ setting ∈ burstSetting? rule, c.finish < entry.2 + setting.windowMs)
    c.now c.finish (counters.find (burstKey (redisKey rule request)))
    (counters'.find (burstKey (redisKey rule request)))

/-- There is room when the check counts, and what it adds is kept until it has a new time to live,
or to the end if it gets none. -/
def Attempt.adds (setting : Setting) (a : Attempt) (finish : ℕ) (key : Key) : Bool :=
  match a.path with
  | .unavailable | .noClient => false
  | .script now failure =>
    failure != some false && Redis.zcard now
      (Redis.zremrangebyscore now (a.call.windowStartMs setting) key) < setting.limit
  | .commands now failure =>
    let removed :=
      Redis.zremrangebyscore (now .zremrangebyscore) (a.call.windowStartMs setting) key
    Redis.zcard (now .zcard) removed < setting.limit &&
      match failure with
      | none => Redis.lasts (now .zadd) (now .expire) removed
      | some ⟨.zremrangebyscore, _⟩ | some ⟨.zcard, _⟩ => false
      | some ⟨.zadd, durable⟩ => durable && Redis.lasts (now .zadd) finish removed
      | some ⟨.expire, durable⟩ =>
        Redis.lasts (now .zadd) (if durable then now .expire else finish) removed

/-- The check adds an entry that is new, and in the window when the call returns. -/
def Attempt.leaves (setting : Setting) (a : Attempt) (start finish : ℕ) (key : Key) : Bool :=
  finish < a.nowMs + setting.windowMs && (a.member, a.nowMs) ∉ Redis.members start key &&
    a.adds setting finish key

/-- The rule has no burst limit, or neither check leaves an entry. -/
def costsNothing (c : Circumstances) (rule : RateLimitRuleMatch) (request : Request)
    (counters : Counters) : Bool :=
  (burstSetting? rule).all fun setting =>
    !c.main.leaves (mainSetting rule) c.now c.finish (counters.find (redisKey rule request)) &&
      !c.burst.leaves setting c.now c.finish (counters.find (burstKey (redisKey rule request)))

section

variable {setting : Setting} {a : Attempt} {key : Key} {start finish now : ℕ}

/-- A member has one timestamp. -/
theorem Written.eq_nowMs (h : Written key) {entry : Str × ℕ}
    (hentry : entry ∈ Redis.members now key) (hmember : entry.1 = a.member) :
    entry.2 = a.nowMs := by
  obtain ⟨suffix, hsuffix⟩ := h.mem_members hentry
  rw [Attempt.member, hsuffix, List.append_assoc, List.append_assoc] at hmember
  exact decimalRepr_injective_of_append (c := ':') (by decide) hmember

theorem leaves_iff : a.leaves setting start finish key = true ↔
    finish < a.nowMs + setting.windowMs ∧ (a.member, a.nowMs) ∉ Redis.members start key ∧
      a.adds setting finish key = true := by
  rw [Attempt.leaves, Bool.and_eq_true, Bool.and_eq_true, decide_eq_true_eq, decide_eq_true_eq,
    and_assoc]

theorem windowStartMs_lt {setting : Setting} {entry : Str × ℕ} (hnow : a.nowMs ≤ finish)
    (h : finish < entry.2 + setting.windowMs) : a.call.windowStartMs setting < entry.2 := by
  show (a.nowMs : ℤ) - setting.windowMs < entry.2
  omega

/-- A set is kept for longer than its window. -/
theorem lt_expireMs (setting : Setting) (hnow : a.nowMs ≤ now)
    (h : finish < a.nowMs + setting.windowMs) : finish < now + setting.expireMs := by
  rw [Setting.windowMs] at h
  rw [Setting.expireMs]
  omega

/-- What has been removed from the counter, and then added. -/
abbrev added (setting : Setting) (a : Attempt) (now₁ now₂ : ℕ) (key : Key) : Key :=
  some (Redis.zadd now₂ a.member a.nowMs
    (Redis.zremrangebyscore now₁ (a.call.windowStartMs setting) key))

/-- The entries that `finish` has in its window. -/
abbrev InWindow (setting : Setting) (finish : ℕ) (entry : Str × ℕ) : Prop :=
  finish < entry.2 + setting.windowMs

variable {now₁ now₂ now₃ : ℕ}

theorem undisturbed_removed (setting : Setting) (key : Key) (now₁ : ℕ) (hs : start ≤ a.nowMs)
    (h : a.nowMs ≤ now₁) (h₁ : now₁ ≤ finish) :
    Redis.Undisturbed (InWindow setting finish) start finish key
      (Redis.zremrangebyscore now₁ (a.call.windowStartMs setting) key) :=
  Redis.undisturbed_zremrangebyscore (fun _ => windowStartMs_lt (h.trans h₁)) (hs.trans h) h₁

theorem undisturbed_added_iff (setting : Setting) (now₁ now₂ : ℕ) (hwritten : Written key)
    (hs : start ≤ a.nowMs) (h : a.nowMs ≤ now₁) (h₁₂ : now₁ ≤ now₂) (h₂ : now₂ ≤ finish) :
    Redis.Undisturbed (InWindow setting finish) start finish key (added setting a now₁ now₂ key) ↔
      ¬ (finish < a.nowMs + setting.windowMs ∧ (a.member, a.nowMs) ∉ Redis.members start key ∧
        Redis.lasts now₂ finish
          (Redis.zremrangebyscore now₁ (a.call.windowStartMs setting) key) = true) :=
  Redis.undisturbed_zadd_iff (fun _ => windowStartMs_lt (h.trans (h₁₂.trans h₂))) (hs.trans h) h₁₂
    h₂ fun _ => hwritten.eq_nowMs

theorem undisturbed_kept_iff (setting : Setting) (now₁ now₂ now₃ : ℕ) (hwritten : Written key)
    (hs : start ≤ a.nowMs) (h : a.nowMs ≤ now₁) (h₁₂ : now₁ ≤ now₂) (h₂₃ : now₂ ≤ now₃)
    (h₃ : now₃ ≤ finish) :
    Redis.Undisturbed (InWindow setting finish) start finish key
        (Redis.expire now₃ setting.expireMs (added setting a now₁ now₂ key)) ↔
      ¬ (finish < a.nowMs + setting.windowMs ∧ (a.member, a.nowMs) ∉ Redis.members start key ∧
        Redis.lasts now₂ now₃
          (Redis.zremrangebyscore now₁ (a.call.windowStartMs setting) key) = true) := by
  have hfinish : a.nowMs ≤ now₃ := h.trans (h₁₂.trans h₂₃)
  rw [Redis.undisturbed_expire_iff (fun _ => windowStartMs_lt (hfinish.trans h₃)) (hs.trans h) h₁₂
    h₂₃ h₃ fun _ => hwritten.eq_nowMs]
  refine not_congr ⟨fun ⟨hin, hnew, hlasts, _⟩ => ⟨hin, hnew, hlasts⟩,
    fun ⟨hin, hnew, hlasts⟩ => ?_⟩
  exact ⟨hin, hnew, hlasts, lt_expireMs setting hfinish hin⟩

theorem undisturbed_script_iff (setting : Setting) (hwritten : Written key) (hs : start ≤ a.nowMs)
    (h : a.nowMs ≤ now) (hfinish : now ≤ finish) :
    Redis.Undisturbed (InWindow setting finish) start finish key
        (slidingWindowCheckScript setting now a.call key).1 ↔
      ¬ (finish < a.nowMs + setting.windowMs ∧ (a.member, a.nowMs) ∉ Redis.members start key ∧
        Redis.zcard now (Redis.zremrangebyscore now (a.call.windowStartMs setting) key) <
          setting.limit) := by
  rw [slidingWindowCheckScript]
  split
  · rename_i hroom
    have hkept := undisturbed_kept_iff setting now now now hwritten hs h le_rfl le_rfl hfinish
    rw [Redis.lasts_self] at hkept
    exact hkept.trans (by simp [hroom])
  · rename_i hfull
    exact iff_of_true (undisturbed_removed setting key now hs h hfinish)
      fun hroom => hfull hroom.2.2

/-- **A check** leaves a counter as it was, unless it leaves an entry in it. -/
theorem undisturbed_slidingWindowCheck_iff (setting : Setting) (hwritten : Written key)
    (hwithin : a.Within start finish) :
    Redis.Undisturbed (InWindow setting finish) start finish key
        (slidingWindowCheck setting a key).1 ↔
      a.leaves setting start finish key = false := by
  rw [← Bool.not_eq_true, leaves_iff, slidingWindowCheck, Attempt.adds]
  rw [Attempt.Within] at hwithin
  cases hpath : a.path with
  | unavailable =>
    simp [hpath, Path.times] at hwithin
    exact iff_of_true (Redis.undisturbed_refl _ (by omega)) (by simp)
  | noClient =>
    simp [hpath, Path.times] at hwithin
    exact iff_of_true (Redis.undisturbed_refl _ (by omega)) (by simp)
  | script now failure =>
    simp [hpath, Path.times] at hwithin
    have hscript := undisturbed_script_iff setting hwritten hwithin.1.1 hwithin.2.1.1 hwithin.2.2
    rcases failure with _ | _ | _
    · simpa using hscript
    · exact iff_of_true (Redis.undisturbed_refl _ (by omega)) (by simp)
    · simpa [failOpen] using hscript
  | commands now failure =>
    simp [hpath, Path.times] at hwithin
    have hrefl : Redis.Undisturbed (InWindow setting finish) start finish key key :=
      Redis.undisturbed_refl _ (by omega)
    have hremoved := undisturbed_removed setting key (now .zremrangebyscore)
      hwithin.1.1 hwithin.2.1.1 (show now .zremrangebyscore ≤ finish by omega)
    have hadded := undisturbed_added_iff setting (now .zremrangebyscore) (now .zadd) hwritten
      hwithin.1.1 hwithin.2.1.1 (by omega) (show now .zadd ≤ finish by omega)
    have hkept := undisturbed_kept_iff setting (now .zremrangebyscore) (now .zadd) (now .expire)
      hwritten hwithin.1.1 hwithin.2.1.1 (by omega) (by omega)
      (show now .expire ≤ finish by omega)
    by_cases hroom : Redis.zcard (now .zcard) (Redis.zremrangebyscore (now .zremrangebyscore)
        (a.call.windowStartMs setting) key) < setting.limit
    · rcases failure with _ | ⟨_ | _ | _ | _, _ | _⟩
      · simpa [fallbackCheck, executing, hroom, added] using hkept
      · exact iff_of_true hrefl (by simp)
      · simpa [fallbackCheck, executing, failOpen] using hremoved
      · simpa [fallbackCheck, executing, failOpen] using hremoved
      · simpa [fallbackCheck, executing, failOpen] using hremoved
      · simpa [fallbackCheck, executing, failOpen, hroom] using hremoved
      · simpa [fallbackCheck, executing, failOpen, hroom, added] using hadded
      · simpa [fallbackCheck, executing, failOpen, hroom, added] using hadded
      · simpa [fallbackCheck, executing, failOpen, hroom, added] using hkept
    · refine iff_of_true (executing_of _ _ hrefl hremoved (executing_of _ _ hremoved hremoved ?_))
        fun hadds => ?_
      · rw [if_neg hroom]
        exact hremoved
      · rw [Bool.and_eq_true, decide_eq_true_eq] at hadds
        exact hroom hadds.2.2.1

end

/-! ### What a request leaves behind -/

section

variable {c : Circumstances} {rule : RateLimitRuleMatch} {request : Request} {counters : Counters}

/-- The main counter is the one that the first check has left. -/
theorem find_checkRateLimit_main (c : Circumstances) (rule : RateLimitRuleMatch)
    (request : Request) (counters : Counters) :
    (checkRateLimit c (some rule) request counters).counters.find (redisKey rule request) =
      (slidingWindowCheck (mainSetting rule) c.main
        (counters.find (redisKey rule request))).1 := by
  rw [checkRateLimit, checkBurst]
  dsimp only
  split
  · rw [Counters.find_check, if_pos rfl]
  · rw [Counters.find_check, if_neg (burstKey_ne _).symm, Counters.find_check, if_pos rfl]

/-- The burst counter is the one that the second check has left, if there is a burst limit. -/
theorem find_checkRateLimit_burst (c : Circumstances) (rule : RateLimitRuleMatch)
    (request : Request) (counters : Counters) :
    (checkRateLimit c (some rule) request counters).counters.find
        (burstKey (redisKey rule request)) =
      match burstSetting? rule with
      | none => counters.find (burstKey (redisKey rule request))
      | some setting => (slidingWindowCheck setting c.burst
          (counters.find (burstKey (redisKey rule request)))).1 := by
  rw [checkRateLimit, checkBurst]
  dsimp only
  cases burstSetting? rule with
  | none => rw [Counters.find_check, if_neg (burstKey_ne _)]
  | some setting =>
    rw [Counters.find_check, if_pos rfl, Counters.find_check, if_neg (burstKey_ne _)]

theorem Circumstances.now_le_finish (c : Circumstances) : c.now ≤ c.finish := by
  have hwithin := c.main_within
  rw [Attempt.Within, List.cons_append, List.cons_append, List.pairwise_cons] at hwithin
  exact hwithin.1 _ (by simp)

/-- A check that adds an entry lets the request pass. -/
theorem allowed_of_adds {setting : Setting} {a : Attempt} {finish : ℕ} {key : Key}
    (h : a.adds setting finish key = true) : (slidingWindowCheck setting a key).2.2 = true := by
  rw [Attempt.adds] at h
  rw [slidingWindowCheck]
  cases hpath : a.path with
  | unavailable => rfl
  | noClient => rfl
  | script now failure =>
    simp only [hpath, Bool.and_eq_true, decide_eq_true_eq] at h
    rcases failure with _ | durable
    · exact (slidingWindowCheckScript_allowed _ _ _ _).mpr h.2
    · rfl
  | commands now failure =>
    simp only [hpath, Bool.and_eq_true, decide_eq_true_eq] at h
    dsimp only [fallbackCheck]
    rw [if_pos h.1]
    rcases failure with _ | ⟨_ | _ | _ | _, _⟩ <;> simp [executing, failOpen]

/-- Without a burst limit it is the first check that rejects a request. -/
theorem main_rejects (hburst : burstSetting? rule = none)
    (hrejected : (checkRateLimit c (some rule) request counters).result.allowed = false) :
    (slidingWindowCheck (mainSetting rule) c.main
      (counters.find (redisKey rule request))).2.2 = false := by
  rw [checkRateLimit, checkBurst] at hrejected
  simp only [hburst, Bool.and_true, Bool.or_eq_false_iff] at hrejected
  exact hrejected.1

/-- **Rejected requests**: one costs nothing exactly if there is no burst limit, or neither check
has left an entry. -/
theorem rejected_costs_nothing_iff (c : Circumstances) (rule : RateLimitRuleMatch)
    (request : Request) (counters : Counters)
    (hrejected : (checkRateLimit c (some rule) request counters).result.allowed = false) :
    CostsNothing c rule request counters (checkRateLimit c (some rule) request counters).counters ↔
      costsNothing c rule request counters = true := by
  have hmain := undisturbed_slidingWindowCheck_iff (mainSetting rule)
    (counters.written_find (redisKey rule request)) c.main_within
  have hfindMain := find_checkRateLimit_main c rule request counters
  have hfindBurst := find_checkRateLimit_burst c rule request counters
  cases hsetting : burstSetting? rule with
  | none =>
    have hrejects := main_rejects hsetting hrejected
    rw [hsetting] at hfindBurst
    refine iff_of_true ⟨?_, ?_⟩ (by simp [costsNothing, hsetting])
    · rw [hfindMain]
      refine hmain.mpr (Bool.eq_false_iff.mpr fun hleaves => ?_)
      exact Bool.false_ne_true (hrejects.symm.trans (allowed_of_adds (leaves_iff.mp hleaves).2.2))
    · rw [hfindBurst]
      exact Redis.undisturbed_refl _ c.now_le_finish
  | some setting =>
    have hburst := undisturbed_slidingWindowCheck_iff setting
      (counters.written_find (burstKey (redisKey rule request))) c.burst_within
    rw [hsetting] at hfindBurst
    have hcosts : costsNothing c rule request counters = true ↔
        c.main.leaves (mainSetting rule) c.now c.finish
            (counters.find (redisKey rule request)) = false ∧
          c.burst.leaves setting c.now c.finish
            (counters.find (burstKey (redisKey rule request))) = false := by
      simp [costsNothing, hsetting]
    rw [hcosts]
    constructor
    · rintro ⟨hm, hb⟩
      rw [hfindMain] at hm
      rw [hfindBurst, hsetting] at hb
      exact ⟨hmain.mp hm, hburst.mp (by simpa using hb)⟩
    · rintro ⟨hm, hb⟩
      refine ⟨?_, ?_⟩
      · rw [hfindMain]
        exact hmain.mpr hm
      · rw [hfindBurst, hsetting]
        have hundisturbed := hburst.mpr hb
        simpa using hundisturbed

end

/-! ### A burst -/

/-- Ten requests in an hour, and one in a second. -/
def hourlyRule : RateLimitRuleMatch where
  ruleId := "r".toList
  ruleName := "hourly".toList
  targetType := .org
  requestsPerWindow := 10
  windowSize := .hour
  windowSeconds := 3600
  burstLimit := some 1
  burstWindowSeconds := some 1
  action := .reject
  priority := 100

def aRequest : Request := ⟨"o".toList, "/runs".toList, none, none⟩

/-- A call whose script is executed at once. -/
def atOnce (now : ℕ) (suffix : Str) : Circumstances where
  now := now
  main := ⟨now, suffix, .script now none⟩
  burst := ⟨now, suffix, .script now none⟩
  finish := now
  main_within := by simp [Attempt.Within, Path.times]
  burst_within := by simp [Attempt.Within, Path.times]

/-- The counters after one request. -/
def afterOne (rule : RateLimitRuleMatch) : Counters :=
  (checkRateLimit (atOnce 1000 "a".toList) (some rule) aRequest .empty).counters

/-- The burst limit rejects a second request, which has taken one of the ten of the hour. -/
theorem burst_rejection : ¬ ∀ (c : Circumstances) (rule : RateLimitRuleMatch) (request : Request)
    (counters : Counters), (checkRateLimit c (some rule) request counters).result.allowed = false →
      CostsNothing c rule request counters
        (checkRateLimit c (some rule) request counters).counters := by
  intro hall
  have hcosts := hall (atOnce 1001 "b".toList) hourlyRule aRequest (afterOne hourlyRule) (by decide)
  exact absurd (hcosts.main.new ("1001:b".toList, 1001) (by decide) (by decide)) (by decide)

theorem rejected_costs_nothing_iff_second :
    CostsNothing (atOnce 1001 "b".toList) { hourlyRule with requestsPerWindow := 1 } aRequest
        (afterOne { hourlyRule with requestsPerWindow := 1 })
        (checkRateLimit (atOnce 1001 "b".toList) (some { hourlyRule with requestsPerWindow := 1 })
          aRequest (afterOne { hourlyRule with requestsPerWindow := 1 })).counters ↔
      costsNothing (atOnce 1001 "b".toList) { hourlyRule with requestsPerWindow := 1 } aRequest
        (afterOne { hourlyRule with requestsPerWindow := 1 }) = true :=
  rejected_costs_nothing_iff _ _ _ _ (by decide)

end RateLimitEnforcer

end OpenLangGraph
