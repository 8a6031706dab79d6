import OpenLangGraph.Core.InMemoryRateLimiter
import OpenLangGraph.Foundation.Processes
import OpenLangGraph.Foundation.PyString
import OpenLangGraph.Foundation.Redis

/-!
# The rate limiter

`RateLimiterManager` of `core/rate_limiter.py` with a Redis server, and the requests that
`RateLimitMiddleware` puts to it.

## Two levels of failure

`_increment_counter` catches everything that Redis raises and returns 0, which is also what it
returns without a connection. So the branch of `check_limit` for exceptions is not taken, and what
is closed in it stays out of use: `checkLimit_caught`.

## What is counted

A request is counted if its key has been incremented, in Redis or in the fallback, whether or not
the reply of Redis arrives. `State.uncounted` has the keys of the requests that are allowed and not
counted.

## Scope

The manager is initialized once. The limit of a key and the window are the same for all requests. A
request that is cancelled while it waits for Redis is one that takes no further step. Nothing but
the limiter writes its keys.

## Main definitions

* `RateLimiterManager`, `RateLimiterManager.initializeManager`, `RateLimiterManager.checkLimit`
* `RateLimiter.State`, `RateLimiter.Label`, `RateLimiter.step`
* `RateLimiter.FailsClosed`, `RateLimiter.staysClosed`

## Main results

* `RateLimiter.fails_closed` — the runs in which the limiter fails closed
-/

namespace OpenLangGraph

open Transition FixedWindow Processes PyString

/-! ### The manager -/

/-- `RATE_LIMIT_FALLBACK` -/
inductive Fallback
  | error
  | skip
  | other
deriving DecidableEq

/-- `InMemoryRateLimiter()`, on a clock with so many ticks a second. -/
def InMemoryRateLimiter.Setting.default (second : ℕ) : InMemoryRateLimiter.Setting :=
  ⟨second, 10000⟩

structure RateLimiterManager where
  isAvailable : Bool
  usingFallback : Bool
  fallbackLimiter : Option (InMemoryRateLimiter Str)
  /-- `_incr_script` is not `None` -/
  incrScript : Bool

namespace RateLimiterManager

/-- The settings from the environment, and what the middleware asks for. -/
structure Setting where
  second : ℕ
  enabled : Bool
  fallback : Fallback
  window : ℕ
  limit : Str → ℤ

/-- The length of a window. -/
def Setting.ticks (setting : Setting) : ℕ := setting.window * setting.second

/-- What `initialize` finds. -/
structure Startup where
  slowapiAvailable : Bool
  /-- `cache_manager.is_available` -/
  redisAvailable : Bool
  /-- `Limiter(…)` does not raise -/
  limiterCreated : Bool
  /-- there is a client, and `register_script` does not raise -/
  scriptRegistered : Bool

/-- `__init__` -/
def new : RateLimiterManager := ⟨false, false, none, false⟩

/-- `initialize` -/
def initializeManager (setting : Setting) (startup : Startup) : RateLimiterManager :=
  if !setting.enabled then new
  else if !startup.slowapiAvailable then new
  else if !startup.redisAvailable then
    if setting.fallback = .skip then new else ⟨true, true, some .empty, false⟩
  else if !startup.limiterCreated then new
  else ⟨true, false, some .empty, startup.scriptRegistered⟩

/-- `cache_manager`: `is_available`, and whether there is a `_client`. -/
structure Cache where
  isAvailable : Bool
  client : Bool

/-- `_increment_counter` without a connection; `none` if there is one. -/
def incrementCounter (cache : Cache) : Option ℕ :=
  if !cache.isAvailable then some 0 else if !cache.client then some 0 else none

/-- The `except` of `_increment_counter`. -/
def caught : Except Unit ℕ → Except Unit ℕ
  | .ok current => .ok current
  | .error _ => .ok 0

/-- The fallback limiter answers. -/
def checkFallback (setting : Setting) (manager : RateLimiterManager)
    (l : InMemoryRateLimiter Str) (key : Str) (now : ℕ) : RateLimiterManager × Reply :=
  let (l, reply) :=
    l.checkAndIncrement (.default setting.second) key (setting.limit key) setting.window now
  ({ manager with fallbackLimiter := some l }, reply)

/-- What `check_limit` makes of a count. -/
def countReply (setting : Setting) (key : Str) (now current : ℕ) : Reply :=
  ⟨current ≤ setting.limit key, max 0 (setting.limit key - current),
    now / setting.second + setting.window⟩

/-- `check_limit`, once `_increment_counter` has returned or raised. -/
def checkLimit (setting : Setting) (manager : RateLimiterManager) (key : Str) (now : ℕ) :
    Except Unit ℕ → RateLimiterManager × Reply
  | .ok current => (manager, countReply setting key now current)
  | .error _ =>
    match manager.fallbackLimiter with
    | some l => manager.checkFallback setting l key now
    | none =>
      if setting.fallback = .skip then
        (manager, ⟨true, setting.limit key, now / setting.second + setting.window⟩)
      else (manager, ⟨false, 0, now / setting.second + setting.window⟩)

/-- **The outer `except` is not taken**: a failure counts 0. -/
theorem checkLimit_caught (setting : Setting) (manager : RateLimiterManager) (key : Str) (now : ℕ)
    (result : Except Unit ℕ) :
    manager.checkLimit setting key now (caught result) =
      (manager, countReply setting key now (result.toOption.getD 0)) := by
  cases result with
  | ok current => rfl
  | error e => rfl

theorem le_of_allowed {setting : Setting} {key : Str} {now current : ℕ}
    (h : (countReply setting key now current).allowed = true) :
    (current : ℤ) ≤ setting.limit key := of_decide_eq_true h

/-- A negative limit allows nothing. -/
theorem countReply_of_neg {setting : Setting} {key : Str} (hlimit : setting.limit key < 0)
    (now current : ℕ) : (countReply setting key now current).allowed = false :=
  decide_eq_false fun h => by omega

end RateLimiterManager

namespace RateLimiter

open RateLimiterManager

/-! ### Requests -/

inductive Stage
  /-- the script or `INCR` is awaited -/
  | incrementing
  /-- `INCR` has returned 1, and `EXPIRE` is awaited -/
  | expiring
  | answered (reply : Reply)
  /-- `_send_service_unavailable` -/
  | unavailable
  /-- the limiter is passed over -/
  | passed

structure Request where
  key : Str
  stage : Stage

structure State where
  manager : RateLimiterManager
  redis : Redis.Db Str ℕ
  clock : ℕ
  requests : List Request
  /-- what has been counted and answered, from the last to the first -/
  log : List (Answer Str)
  /-- the keys of the requests that have been allowed without being counted -/
  uncounted : List Str

/-- What becomes of a command. -/
inductive RedisReply
  | answers
  /-- it raises, and has not been executed -/
  | raisesBefore
  /-- it raises, and has been executed -/
  | raisesAfter
deriving DecidableEq

inductive Label
  /-- a request comes to the middleware, and goes on to the first `await` -/
  | request (key : Str) (now : ℕ) (cache : Cache)
  | redis (i now : ℕ) (reply : RedisReply)

/-- `rate_limit:{key}:{window}` -/
def counterKey (setting : Setting) (key : Str) : Str :=
  "rate_limit:".toList ++ key ++ ":".toList ++ decimalRepr setting.window

/-- What a request does: the manager, Redis, the entry of the log, and the stage afterwards. -/
structure Move where
  manager : RateLimiterManager
  redis : Redis.Db Str ℕ
  answer : Option (Answer Str)
  stage : Stage

/-- The request is allowed, and it is not counted. -/
def Move.isUncounted (move : Move) : Bool :=
  match move.stage with
  | .passed => true
  | .answered reply => reply.allowed && move.answer.isNone
  | .incrementing | .expiring | .unavailable => false

namespace State

/-- The middleware and `check_limit` up to the first `await`. -/
def arrive (setting : Setting) (s : State) (key : Str) (now : ℕ) (cache : Cache) : Move :=
  if !setting.enabled then ⟨s.manager, s.redis, none, .passed⟩
  else if !s.manager.isAvailable then
    if setting.fallback = .error then ⟨s.manager, s.redis, none, .unavailable⟩
    else ⟨s.manager, s.redis, none, .passed⟩
  else
    match if s.manager.usingFallback then s.manager.fallbackLimiter else none with
    | some l =>
      let (manager, reply) := s.manager.checkFallback setting l key now
      ⟨manager, s.redis,
        some (l.answer (.default setting.second) key (setting.limit key) setting.window now),
        .answered reply⟩
    | none =>
      match incrementCounter cache with
      | none => ⟨s.manager, s.redis, none, .incrementing⟩
      | some current =>
        let (manager, reply) := s.manager.checkLimit setting key now (.ok current)
        ⟨manager, s.redis, none, .answered reply⟩

/-- The script, or `INCR` and what comes of it. -/
def increment (setting : Setting) (s : State) (key : Str) (now : ℕ) (reply : RedisReply) : Move :=
  let e := Redis.find s.redis (counterKey setting key)
  let incremented := Redis.incr now e
  let entry := if s.manager.incrScript && incremented.value = 1 then
    ⟨incremented.value, some (now + setting.ticks)⟩ else incremented
  let answer (allowed : Bool) : Answer Str :=
    ⟨key, now, setting.limit key, setting.ticks, incremented.value = 1, allowed⟩
  match reply with
  | .raisesBefore =>
    let (manager, reply) := s.manager.checkLimit setting key now (caught (.error ()))
    ⟨manager, s.redis, none, .answered reply⟩
  | .raisesAfter =>
    let (manager, reply) := s.manager.checkLimit setting key now (caught (.error ()))
    ⟨manager, Redis.store s.redis (counterKey setting key) entry, some (answer reply.allowed),
      .answered reply⟩
  | .answers =>
    let redis := Redis.store s.redis (counterKey setting key) entry
    if !s.manager.incrScript && incremented.value = 1 then
      ⟨s.manager, redis, some (answer false), .expiring⟩
    else
      let (manager, reply) := s.manager.checkLimit setting key now (caught (.ok incremented.value))
      ⟨manager, redis, some (answer reply.allowed), .answered reply⟩

/-- `EXPIRE` and what comes of it. -/
def expire (setting : Setting) (s : State) (key : Str) (now : ℕ) (reply : RedisReply) : Move :=
  let redis :=
    match if reply = .raisesBefore then none else
      Redis.expire now setting.ticks (Redis.find s.redis (counterKey setting key)) with
    | some entry => Redis.store s.redis (counterKey setting key) entry
    | none => s.redis
  let (manager, reply) := s.manager.checkLimit setting key now
    (caught (if reply = .answers then .ok 1 else .error ()))
  ⟨manager, redis, some ⟨key, now, setting.limit key, setting.ticks, false, reply.allowed⟩,
    .answered reply⟩

/-- What a request does when Redis replies. -/
def move (setting : Setting) (s : State) (request : Request) (now : ℕ) (reply : RedisReply) :
    Option Move :=
  match request.stage with
  | .incrementing => some (s.increment setting request.key now reply)
  | .expiring => some (s.expire setting request.key now reply)
  | .answered _ | .unavailable | .passed => none

/-- The state after a move of a request. -/
def after (s : State) (key : Str) (now : ℕ) (move : Move) (requests : List Request) : State where
  manager := move.manager
  redis := move.redis
  clock := now
  requests := requests
  log := move.answer.toList ++ s.log
  uncounted := if move.isUncounted then key :: s.uncounted else s.uncounted

def start (setting : Setting) (startup : Startup) : State :=
  ⟨.initializeManager setting startup, [], 0, [], [], []⟩

end State

def step (setting : Setting) (s : State) : Label → Option State
  | .request key now cache =>
    if s.clock ≤ now then
      let move := s.arrive setting key now cache
      some (s.after key now move (s.requests ++ [⟨key, move.stage⟩]))
    else none
  | .redis i now reply => do
    let request ← s.requests[i]?
    let move ← s.move setting request now reply
    if s.clock ≤ now then
      some (s.after request.key now move (s.requests.set i { request with stage := move.stage }))
    else none

/-! ### What is asked of the limiter -/

/-- **The limiter fails closed**: no request is allowed without being counted. The windows of a key
are at least a window apart, and in each at most the limit that Redis counts and the limit that the
fallback counts is allowed. -/
def FailsClosed (s : State) : Prop :=
  s.uncounted = [] ∧ Lawful (fun a => a.limit + a.limit) s.log

/-- The limiter is not switched off. The fallback opens a window only for a limit of at least 1 and
when the last window of the key is over. `_increment_counter` returns a count that it has from
Redis, unless the limit is negative. -/
def staysClosed (setting : Setting) (s : State) : Label → Bool
  | .request key now cache =>
    setting.enabled && (!s.manager.isAvailable ||
      match if s.manager.usingFallback then s.manager.fallbackLimiter else none with
      | some l =>
        !l.opens (.default setting.second) key setting.window now || 1 ≤ setting.limit key &&
          (account key s.log).all fun c => c.start + setting.ticks ≤ now
      | none => (incrementCounter cache).isNone || setting.limit key < 0)
  | .redis i _ reply =>
    reply = .answers || (s.requests[i]?).all fun request => setting.limit request.key < 0

/-! ### A key in Redis -/

/-- What the counter of a key says about its account; `pending` is the number of the requests of the
key that wait for `EXPIRE`, and will be allowed later. -/
structure Backed (limit : ℤ) (window clock pending : ℕ) (r : Redis.Entry ℕ) (a : Account) :
    Prop where
  positive : 1 ≤ r.value
  counted : a.allowed + pending ≤ r.value
  within : ((a.allowed + pending : ℕ) : ℤ) ≤ max 1 limit
  waits : 0 < pending → pending = 1 ∧ r.expiresAt = none
  start : a.start ≤ clock
  expires : ∀ x ∈ r.expiresAt, a.start + window ≤ x

/-- What is known of a key: without a counter, it has no account. -/
def Tracked (limit : ℤ) (window clock pending : ℕ) (r : Option (Redis.Entry ℕ))
    (account : Option Account) : Prop :=
  match r with
  | none => account = none ∧ pending = 0
  | some r => ∃ a, account = some a ∧ Backed limit window clock pending r a

variable {limit : ℤ} {window clock now pending pending' : ℕ} {r : Redis.Entry ℕ}
  {before : Option Account} {e : Answer Str} {x : Option ℕ}

theorem Tracked.later {r : Option (Redis.Entry ℕ)}
    (h : Tracked limit window clock pending r before) (hclock : clock ≤ now) :
    Tracked limit window now pending r before := by
  cases r with
  | none => exact h
  | some r =>
    obtain ⟨a, ha, hbacked⟩ := h
    exact ⟨a, ha, { hbacked with start := hbacked.start.trans hclock }⟩

/-- Nobody waits for `EXPIRE` on a counter that is not live. -/
theorem Tracked.pending_eq_zero {r : Option (Redis.Entry ℕ)}
    (h : Tracked limit window clock pending r before) (hlive : Redis.live now r = none) :
    pending = 0 := by
  cases r with
  | none => exact h.2
  | some r =>
    obtain ⟨a, -, hbacked⟩ := h
    rcases Redis.live_cases now r with hsome | ⟨-, y, hy, -⟩
    · rw [hlive] at hsome
      cases hsome
    · by_contra hpending
      have hnone := (hbacked.waits (Nat.pos_of_ne_zero hpending)).2
      rw [hy] at hnone
      cases hnone

/-- A request that is counted in a window that is open. -/
theorem Tracked.continued (h : Tracked limit window clock pending (some r) before)
    (hclock : clock ≤ now) (hopens : e.opens = false)
    (hallowed : e.allowed = true → ((r.value + 1 : ℕ) : ℤ) ≤ limit) :
    Tracked limit window now pending (some ⟨r.value + 1, r.expiresAt⟩) (some (record before e)) ∧
      Fits (limit + limit) before e := by
  obtain ⟨a, rfl, hbacked⟩ := h
  have hcounted := hbacked.counted
  have hwithin := hbacked.within
  rw [record_of_not_opens a hopens]
  refine ⟨⟨_, rfl, ?_⟩, by simp [hopens], fun hpass => ?_⟩
  · cases hpass : e.allowed with
    | false =>
      exact ⟨Nat.le_add_left 1 _, Nat.le_succ_of_le hcounted, hwithin, hbacked.waits,
        hbacked.start.trans hclock, hbacked.expires⟩
    | true =>
      have hlimit := hallowed hpass
      refine ⟨Nat.le_add_left 1 _, ?_, ?_, hbacked.waits, hbacked.start.trans hclock,
        hbacked.expires⟩
      · simp only [Bool.toNat_true]
        omega
      · simp only [Bool.toNat_true]
        omega
  · have hlimit := hallowed hpass
    rw [record_of_not_opens a hopens, hpass]
    simp only [Bool.toNat_true]
    omega

/-- A request that opens a window. -/
theorem Tracked.opened {r : Option (Redis.Entry ℕ)}
    (h : Tracked limit window clock pending r before) (hlive : Redis.live now r = none)
    (hopens : e.opens = true) (hnow : e.now = now) (hwindow : e.window = window)
    (hallowed : e.allowed = true → 1 ≤ limit) (hpending : e.allowed.toNat + pending' ≤ 1)
    (hwaits : 0 < pending' → x = none) (hx : ∀ y ∈ x, now + window ≤ y) :
    Tracked limit window now pending' (some ⟨1, x⟩) (some (record before e)) ∧
      Fits (limit + limit) before e := by
  subst hnow hwindow
  refine ⟨⟨_, rfl, ?_⟩, fun _ a ha => ?_, fun hpass => ?_⟩
  · rw [record_of_opens _ hopens]
    refine ⟨Nat.le_refl 1, hpending, ?_, fun hpos => ⟨by omega, hwaits hpos⟩, Nat.le_refl _, hx⟩
    dsimp only
    omega
  · cases r with
    | none =>
      obtain ⟨rfl, -⟩ := h
      cases ha
    | some r =>
      obtain ⟨a', ha', hbacked⟩ := h
      obtain rfl := Option.some.inj (ha'.symm.trans ha)
      rcases Redis.live_cases e.now r with hsome | ⟨-, y, hy, hle⟩
      · rw [hlive] at hsome
        cases hsome
      · exact (hbacked.expires y hy).trans hle
  · have hlimit := hallowed hpass
    rw [record_of_opens _ hopens, hpass]
    simp only [Bool.toNat_true]
    omega

/-- The request that waited for `EXPIRE` is answered. -/
theorem Tracked.answered (h : Tracked limit window clock pending (some r) before)
    (hpos : 0 < pending) (hclock : clock ≤ now) (hopens : e.opens = false)
    (hallowed : e.allowed = true → 1 ≤ limit) (hx : ∀ y ∈ x, now + window ≤ y) :
    Tracked limit window now (pending - 1) (some ⟨r.value, x⟩) (some (record before e)) ∧
      Fits (limit + limit) before e := by
  obtain ⟨a, rfl, hbacked⟩ := h
  obtain ⟨rfl, -⟩ := hbacked.waits hpos
  have hcounted := hbacked.counted
  have hwithin := hbacked.within
  have hstart := hbacked.start
  have hone : e.allowed.toNat ≤ 1 := Bool.toNat_le _
  refine ⟨⟨_, rfl, ?_⟩, by simp [hopens], fun hpass => ?_⟩
  · rw [record_of_not_opens a hopens]
    refine ⟨hbacked.positive, ?_, ?_, by simp, hstart.trans hclock, fun y hy => ?_⟩
    · dsimp only
      omega
    · dsimp only
      omega
    · have hy := hx y hy
      dsimp only
      omega
  · have hlimit := hallowed hpass
    rw [record_of_not_opens a hopens, hpass]
    simp only [Bool.toNat_true]
    omega

/-! ### Moves -/

variable {setting : Setting} {startup : Startup} {s s' t : State} {key key' : Str}
  {reply : RedisReply} {cache : Cache} {labels : List Label}

theorem counterKey_injective (setting : Setting) : Function.Injective (counterKey setting) := by
  intro key key' h
  exact List.append_cancel_left (List.append_cancel_right (List.append_cancel_right h))

/-- A command that has been executed finds a live counter. -/
theorem increment_of_live
    (hlive : Redis.live now (Redis.find s.redis (counterKey setting key)) = some r)
    (hpositive : 1 ≤ r.value) (hexecuted : reply ≠ .raisesBefore)
    (hclosed : reply = .answers ∨ setting.limit key < 0) :
    ∃ allowed result,
      s.increment setting key now reply =
        ⟨s.manager, Redis.store s.redis (counterKey setting key) ⟨r.value + 1, r.expiresAt⟩,
          some ⟨key, now, setting.limit key, setting.ticks, false, allowed⟩, .answered result⟩ ∧
      (allowed = true → ((r.value + 1 : ℕ) : ℤ) ≤ setting.limit key) := by
  have hvalue : r.value ≠ 0 := Nat.ne_of_gt hpositive
  cases reply with
  | raisesBefore => exact absurd rfl hexecuted
  | raisesAfter =>
    have hlimit := hclosed.resolve_left (by simp)
    refine ⟨(countReply setting key now 0).allowed, countReply setting key now 0, ?_, ?_⟩
    · rw [State.increment, Redis.incr_of_live hlive, checkLimit_caught]
      simp [hvalue, Except.toOption]
    · rw [countReply_of_neg hlimit]
      simp
  | answers =>
    refine ⟨(countReply setting key now (r.value + 1)).allowed,
      countReply setting key now (r.value + 1), ?_, le_of_allowed⟩
    rw [State.increment, Redis.incr_of_live hlive, checkLimit_caught]
    simp [hvalue, Except.toOption]

/-- A command that has been executed opens a window. -/
theorem increment_of_not_live
    (hlive : Redis.live now (Redis.find s.redis (counterKey setting key)) = none)
    (hexecuted : reply ≠ .raisesBefore) (hclosed : reply = .answers ∨ setting.limit key < 0) :
    ∃ x allowed stage,
      s.increment setting key now reply =
        ⟨s.manager, Redis.store s.redis (counterKey setting key) ⟨1, x⟩,
          some ⟨key, now, setting.limit key, setting.ticks, true, allowed⟩, stage⟩ ∧
      (allowed = true → 1 ≤ setting.limit key) ∧ (∀ y ∈ x, now + setting.ticks ≤ y) ∧
      (stage = .expiring ∧ x = none ∧ allowed = false ∨ ∃ result, stage = .answered result) := by
  let x := if s.manager.incrScript then some (now + setting.ticks) else none
  have hx : ∀ y ∈ x, now + setting.ticks ≤ y := by
    intro y hy
    by_cases hscript : s.manager.incrScript = true
    · simp [x, hscript] at hy
      omega
    · simp [x, hscript] at hy
  cases reply with
  | raisesBefore => exact absurd rfl hexecuted
  | raisesAfter =>
    have hlimit := hclosed.resolve_left (by simp)
    refine ⟨x, (countReply setting key now 0).allowed, .answered (countReply setting key now 0),
      ?_, ?_, hx, .inr ⟨_, rfl⟩⟩
    · rw [State.increment, Redis.incr_of_not_live hlive, checkLimit_caught]
      cases hscript : s.manager.incrScript <;> simp [x, hscript, Except.toOption]
    · rw [countReply_of_neg hlimit]
      simp
  | answers =>
    cases hscript : s.manager.incrScript with
    | true =>
      refine ⟨x, (countReply setting key now 1).allowed, .answered (countReply setting key now 1),
        ?_, le_of_allowed, hx, .inr ⟨_, rfl⟩⟩
      rw [State.increment, Redis.incr_of_not_live hlive, checkLimit_caught]
      simp [x, hscript, Except.toOption]
    | false =>
      refine ⟨x, false, .expiring, ?_, by simp, hx, .inl ⟨rfl, by simp [x, hscript], rfl⟩⟩
      rw [State.increment, Redis.incr_of_not_live hlive]
      simp [x, hscript]

/-- One counter is written. -/
def Writes (setting : Setting) (redis redis' : Redis.Db Str ℕ) (key : Str)
    (r : Redis.Entry ℕ) : Prop :=
  ∀ key', Redis.find redis' (counterKey setting key') =
    if key' = key then some r else Redis.find redis (counterKey setting key')

theorem writes_set (setting : Setting) (redis : Redis.Db Str ℕ) (key : Str)
    (r : Redis.Entry ℕ) :
    Writes setting redis (Redis.store redis (counterKey setting key) r) key r := by
  intro key'
  rw [Redis.find_store]
  by_cases hkey : key' = key
  · rw [if_pos hkey, if_pos (congrArg _ hkey)]
  · rw [if_neg hkey, if_neg fun h => hkey (counterKey_injective setting h)]

theorem writes_self {redis : Redis.Db Str ℕ}
    (h : Redis.find redis (counterKey setting key) = some r) :
    Writes setting redis redis key r := by
  intro key'
  split
  · rw [‹key' = key›, h]
  · rfl

/-- What `EXPIRE` leaves behind, whether it is executed or not. -/
theorem expire_cases (now : ℕ)
    (hlookup : Redis.find s.redis (counterKey setting key) = some r)
    (hwaits : r.expiresAt = none) (hclosed : reply = .answers ∨ setting.limit key < 0) :
    ∃ redis x allowed result,
      s.expire setting key now reply =
        ⟨s.manager, redis, some ⟨key, now, setting.limit key, setting.ticks, false, allowed⟩,
          .answered result⟩ ∧
      Writes setting s.redis redis key ⟨r.value, x⟩ ∧
      (allowed = true → 1 ≤ setting.limit key) ∧ ∀ y ∈ x, now + setting.ticks ≤ y := by
  have hexpire : Redis.expire now setting.ticks (some r) =
      some ⟨r.value, some (now + setting.ticks)⟩ := Redis.expire_of_forall (by simp [hwaits])
  have hself : r = ⟨r.value, none⟩ := by rw [← hwaits]
  cases reply with
  | raisesBefore =>
    have hlimit := hclosed.resolve_left (by simp)
    refine ⟨s.redis, none, (countReply setting key now 0).allowed, countReply setting key now 0,
      ?_, hself ▸ writes_self hlookup, ?_, by simp⟩
    · rw [State.expire, checkLimit_caught]
      simp [Except.toOption]
    · rw [countReply_of_neg hlimit]
      simp
  | raisesAfter =>
    have hlimit := hclosed.resolve_left (by simp)
    refine ⟨_, some (now + setting.ticks), (countReply setting key now 0).allowed,
      countReply setting key now 0, ?_, writes_set setting s.redis key _, ?_, by simp⟩
    · rw [State.expire, checkLimit_caught, hlookup, hexpire]
      simp [Except.toOption]
    · rw [countReply_of_neg hlimit]
      simp
  | answers =>
    refine ⟨_, some (now + setting.ticks), (countReply setting key now 1).allowed,
      countReply setting key now 1, ?_, writes_set setting s.redis key _, le_of_allowed, by simp⟩
    rw [State.expire, checkLimit_caught, hlookup, hexpire]
    simp [Except.toOption]

/-! ### Runs -/

/-- The request waits for `EXPIRE`. -/
def Stage.isExpiring : Stage → Bool
  | .expiring => true
  | .incrementing | .answered _ | .unavailable | .passed => false

/-- The number of the requests of a key that wait for `EXPIRE`. -/
def waiting (key : Str) (requests : List Request) : ℕ :=
  requests.countP fun request => request.key = key && request.stage.isExpiring

/-- The counters are in step with the log, and the limiter fails closed. -/
structure Sound (setting : Setting) (s : State) : Prop where
  fallback : s.manager.usingFallback = true →
    (∃ l, s.manager.fallbackLimiter = some l ∧ l.Tracks (.default setting.second) s.clock s.log) ∧
      ∀ request ∈ s.requests, request.stage ≠ .incrementing ∧ request.stage ≠ .expiring
  redis : s.manager.usingFallback = false → ∀ key,
    Tracked (setting.limit key) setting.ticks s.clock (waiting key s.requests)
      (Redis.find s.redis (counterKey setting key)) (account key s.log)
  closed : FailsClosed s

variable {move : Move} {requests : List Request} {request : Request} {i : ℕ}

/-- A move that counts a request in Redis. -/
theorem Sound.count (hsound : Sound setting s) (hmode : s.manager.usingFallback = false)
    (hmanager : move.manager = s.manager) (hwrites : Writes setting s.redis move.redis key r)
    (hanswer : move.answer = some e) (hkey : e.key = key) (hlimit : e.limit = limit)
    (hpassed : move.isUncounted = false) (hclock : s.clock ≤ now)
    (hwaiting : ∀ key', key' ≠ key → waiting key' requests = waiting key' s.requests)
    (htracked : Tracked (setting.limit key) setting.ticks now (waiting key requests) (some r)
      (some (record (account key s.log) e)) ∧ Fits (limit + limit) (account key s.log) e) :
    Sound setting (s.after key now move requests) := by
  subst hkey hlimit
  refine ⟨fun h => ?_, fun _ key' => ?_, ?_, ?_⟩
  · exact absurd ((hmanager ▸ hmode : move.manager.usingFallback = false).symm.trans h)
      Bool.false_ne_true
  · show Tracked _ _ now (waiting key' requests) (Redis.find move.redis (counterKey setting key'))
      (account key' (move.answer.toList ++ s.log))
    rw [hwrites key', hanswer]
    by_cases hsame : key' = e.key
    · subst hsame
      rw [if_pos rfl]
      exact account_cons_self e s.log ▸ htracked.1
    · have haccount : account key' (e :: s.log) = account key' s.log :=
        account_cons_ne (Ne.symm hsame)
      rw [if_neg hsame, hwaiting key' hsame]
      show Tracked _ _ now _ _ (account key' (e :: s.log))
      rw [haccount]
      exact (hsound.redis hmode key').later hclock
  · show (if move.isUncounted then e.key :: s.uncounted else s.uncounted) = []
    rw [hpassed]
    exact hsound.closed.1
  · show Lawful _ (move.answer.toList ++ s.log)
    rw [hanswer]
    exact ⟨htracked.2, hsound.closed.2⟩

/-- A move that leaves the counters alone. -/
theorem Sound.rest (hsound : Sound setting s) (hmanager : move.manager = s.manager)
    (hredis : move.redis = s.redis) (hanswer : move.answer = none)
    (hpassed : move.isUncounted = false) (hclock : s.clock ≤ now)
    (hwaiting : ∀ key', waiting key' requests = waiting key' s.requests)
    (hstages : s.manager.usingFallback = true →
      ∀ request ∈ requests, request.stage ≠ .incrementing ∧ request.stage ≠ .expiring) :
    Sound setting (s.after key now move requests) := by
  refine ⟨fun h => ?_, fun h key' => ?_, ?_, ?_⟩
  · have hmode : s.manager.usingFallback = true := hmanager ▸ h
    obtain ⟨⟨l, hl, htracks⟩, -⟩ := hsound.fallback hmode
    refine ⟨⟨l, (congrArg fallbackLimiter hmanager).trans hl, ?_⟩, hstages hmode⟩
    show l.Tracks _ now (move.answer.toList ++ s.log)
    rw [hanswer]
    exact htracks.later hclock
  · have hmode : s.manager.usingFallback = false := hmanager ▸ h
    show Tracked _ _ now (waiting key' requests) (Redis.find move.redis (counterKey setting key'))
      (account key' (move.answer.toList ++ s.log))
    rw [hwaiting key', hredis, hanswer]
    exact (hsound.redis hmode key').later hclock
  · show (if move.isUncounted then key :: s.uncounted else s.uncounted) = []
    rw [hpassed]
    exact hsound.closed.1
  · show Lawful _ (move.answer.toList ++ s.log)
    rw [hanswer]
    exact hsound.closed.2

theorem waiting_append (h : request.stage.isExpiring = false) (key : Str)
    (requests : List Request) : waiting key (requests ++ [request]) = waiting key requests := by
  simp [waiting, h]

/-- One request goes on. -/
theorem waiting_set (h : requests[i]? = some request) (stage : Stage) (key : Str) :
    waiting key (requests.set i { request with stage }) +
        (if request.key = key && request.stage.isExpiring then 1 else 0) =
      waiting key requests + if request.key = key && stage.isExpiring then 1 else 0 :=
  countP_set_add (fun request : Request => request.key = key && request.stage.isExpiring) h

theorem waiting_set_ne (h : requests[i]? = some request) (stage : Stage)
    (hkey : key ≠ request.key) :
    waiting key (requests.set i { request with stage }) = waiting key requests := by
  have hset := waiting_set h stage key
  simpa [Ne.symm hkey] using hset

theorem waiting_set_self (h : requests[i]? = some request) (stage : Stage) :
    waiting request.key (requests.set i { request with stage }) +
        request.stage.isExpiring.toNat =
      waiting request.key requests + stage.isExpiring.toNat := by
  have hset := waiting_set h stage request.key
  cases hold : request.stage.isExpiring <;> cases hnew : stage.isExpiring <;>
    simpa [hold, hnew] using hset

/-- A request that is not counted when it comes is not allowed, or it goes on to Redis. -/
theorem arrive_of_no_limiter (hfallback : setting.fallback = .error)
    (hlimiter : (if s.manager.usingFallback then s.manager.fallbackLimiter else none) = none)
    (hclosed : staysClosed setting s (.request key now cache) = true) :
    ∃ stage, s.arrive setting key now cache = ⟨s.manager, s.redis, none, stage⟩ ∧
      (⟨s.manager, s.redis, none, stage⟩ : Move).isUncounted = false ∧
      stage.isExpiring = false := by
  rw [staysClosed, hlimiter, Bool.and_eq_true, Bool.or_eq_true] at hclosed
  obtain ⟨henabled, hclosed⟩ := hclosed
  rw [State.arrive, henabled, hlimiter, hfallback]
  cases havailable : s.manager.isAvailable with
  | false => exact ⟨.unavailable, rfl, rfl, rfl⟩
  | true =>
    rw [havailable, or_iff_right (by simp), Bool.or_eq_true, decide_eq_true_eq] at hclosed
    cases hcount : incrementCounter cache with
    | none => exact ⟨.incrementing, rfl, rfl, rfl⟩
    | some current =>
      have hlimit : setting.limit key < 0 := hclosed.resolve_left (by simp [hcount])
      refine ⟨.answered (countReply setting key now current), rfl, ?_, rfl⟩
      simp [Move.isUncounted, countReply_of_neg hlimit]

/-- A request that comes to a limiter which stays closed. -/
theorem Sound.arrive (hsound : Sound setting s) (hfallback : setting.fallback = .error)
    (hclosed : staysClosed setting s (.request key now cache) = true) (hclock : s.clock ≤ now) :
    Sound setting (s.after key now (s.arrive setting key now cache)
      (s.requests ++ [⟨key, (s.arrive setting key now cache).stage⟩])) := by
  cases hmode : s.manager.usingFallback with
  | false =>
    obtain ⟨stage, hmove, hcounted, hstage⟩ :=
      arrive_of_no_limiter hfallback (by rw [hmode]; rfl) hclosed
    rw [hmove]
    exact hsound.rest rfl rfl rfl hcounted hclock (fun _ => waiting_append hstage _ _)
      fun h => absurd (hmode.symm.trans h) Bool.false_ne_true
  | true =>
    obtain ⟨⟨l, hl, htracks⟩, hstages⟩ := hsound.fallback hmode
    have hlimiter : (if s.manager.usingFallback then s.manager.fallbackLimiter else none) =
        some l := by rw [hmode, if_pos rfl, hl]
    have hall : ∀ stage : Stage, stage ≠ .incrementing → stage ≠ .expiring →
        ∀ request ∈ s.requests ++ [⟨key, stage⟩],
          request.stage ≠ .incrementing ∧ request.stage ≠ .expiring := by
      intro stage hincrementing hexpiring request hrequest
      rcases List.mem_append.mp hrequest with hrequest | hrequest
      · exact hstages request hrequest
      · obtain rfl := List.mem_singleton.mp hrequest
        exact ⟨hincrementing, hexpiring⟩
    rw [staysClosed, hlimiter, Bool.and_eq_true, Bool.or_eq_true] at hclosed
    obtain ⟨henabled, hclosed⟩ := hclosed
    cases havailable : s.manager.isAvailable with
    | false =>
      have hmove : s.arrive setting key now cache =
          ⟨s.manager, s.redis, none, .unavailable⟩ := by
        rw [State.arrive, henabled, havailable, hfallback]
        rfl
      rw [hmove]
      exact hsound.rest rfl rfl rfl rfl hclock (fun _ => waiting_append rfl _ _)
        fun _ => hall .unavailable (by simp) (by simp)
    | true =>
      have hopens : l.opens (.default setting.second) key setting.window now = true →
          1 ≤ setting.limit key ∧
            ∀ a ∈ account key s.log, a.start + setting.ticks ≤ now := by
        intro hopens
        simpa [havailable, hopens, Option.all_eq_true] using hclosed
      have hmove : s.arrive setting key now cache =
          ⟨(s.manager.checkFallback setting l key now).1, s.redis,
            some (l.answer (.default setting.second) key (setting.limit key) setting.window now),
            .answered (s.manager.checkFallback setting l key now).2⟩ := by
        rw [State.arrive, henabled, havailable, hlimiter]
        rfl
      have hfits := htracks.fits key (setting.limit key) setting.window now hopens
      rw [hmove]
      refine ⟨fun _ => ⟨⟨_, rfl, htracks.step key (setting.limit key) setting.window hclock⟩,
        hall _ (by simp) (by simp)⟩, fun h => ?_, ?_, ?_, hsound.closed.2⟩
      · exact absurd (hmode.symm.trans h) Bool.noConfusion
      · show (if _ && _ then key :: s.uncounted else s.uncounted) = []
        rw [Option.isNone_some, Bool.and_false]
        exact hsound.closed.1
      · refine ⟨hfits.apart, fun hallowed => ?_⟩
        have hwithin := hfits.within hallowed
        have hpos : (0 : ℤ) ≤ (record (account key s.log) (l.answer (.default setting.second) key
          (setting.limit key) setting.window now)).allowed := Int.natCast_nonneg _
        have htwice : setting.limit key ≤ setting.limit key + setting.limit key := by omega
        exact Int.le_trans hwithin htwice

/-- A command on a limiter which stays closed. -/
theorem Sound.increment (hsound : Sound setting s) (hi : s.requests[i]? = some request)
    (hstage : request.stage = .incrementing)
    (hclosed : reply = .answers ∨ setting.limit request.key < 0) (hclock : s.clock ≤ now) :
    Sound setting (s.after request.key now (s.increment setting request.key now reply)
      (s.requests.set i
        { request with stage := (s.increment setting request.key now reply).stage })) := by
  have hmode : s.manager.usingFallback = false := by
    rw [← Bool.not_eq_true]
    intro hmode
    exact ((hsound.fallback hmode).2 request (List.mem_of_getElem? hi)).1 hstage
  have htracked := hsound.redis hmode request.key
  have hself := waiting_set_self hi
  rw [hstage] at hself
  by_cases hexecuted : reply = .raisesBefore
  · -- a limit that is negative, so that the request is not allowed
    have hlimit := hclosed.resolve_left (by simp [hexecuted])
    have hmove : s.increment setting request.key now reply =
        ⟨s.manager, s.redis, none, .answered (countReply setting request.key now 0)⟩ := by
      rw [hexecuted, State.increment, checkLimit_caught]
      rfl
    rw [hmove]
    refine hsound.rest rfl rfl rfl (by simp [Move.isUncounted, countReply_of_neg hlimit]) hclock
      (fun key' => ?_) fun h => absurd (hmode.symm.trans h) Bool.false_ne_true
    by_cases hkey : key' = request.key
    · rw [hkey]
      exact hself _
    · exact waiting_set_ne hi _ hkey
  · cases hlive : Redis.live now (Redis.find s.redis (counterKey setting request.key)) with
    | some r =>
      rw [Redis.eq_of_live hlive] at htracked
      have hpositive : 1 ≤ r.value := by
        obtain ⟨a, -, hbacked⟩ := htracked
        exact hbacked.positive
      obtain ⟨allowed, result, hmove, hallowed⟩ :=
        increment_of_live hlive hpositive hexecuted hclosed
      rw [hmove]
      refine hsound.count hmode rfl (writes_set _ _ _ _) rfl rfl rfl (by simp [Move.isUncounted])
        hclock (fun key' hkey => waiting_set_ne hi _ hkey) ?_
      have hwaiting : waiting request.key (s.requests.set i
          { request with stage := .answered result }) = waiting request.key s.requests := hself _
      dsimp only
      rw [hwaiting]
      exact htracked.continued hclock rfl hallowed
    | none =>
      have hzero := htracked.pending_eq_zero hlive
      obtain ⟨x, allowed, stage, hmove, hallowed, hx, hstages⟩ :=
        increment_of_not_live hlive hexecuted hclosed
      rw [hmove]
      have hwaiting := hself stage
      refine hsound.count hmode rfl (writes_set _ _ _ _) rfl rfl rfl ?_
        hclock (fun key' hkey => waiting_set_ne hi _ hkey) ?_
      · rcases hstages with ⟨rfl, -, -⟩ | ⟨result, rfl⟩
        · rfl
        · simp [Move.isUncounted]
      · refine htracked.opened hlive rfl rfl rfl hallowed ?_ ?_ hx
        · rcases hstages with ⟨rfl, -, rfl⟩ | ⟨result, rfl⟩
          · simp only [Stage.isExpiring, Bool.toNat_true, Bool.toNat_false] at hwaiting ⊢
            omega
          · have hone : allowed.toNat ≤ 1 := Bool.toNat_le _
            simp only [Stage.isExpiring, Bool.toNat_false] at hwaiting ⊢
            omega
        · intro hpos
          rcases hstages with ⟨-, hnone, -⟩ | ⟨result, rfl⟩
          · exact hnone
          · simp only [Stage.isExpiring, Bool.toNat_false] at hwaiting hpos
            omega

/-- `EXPIRE` on a limiter which stays closed. -/
theorem Sound.expire (hsound : Sound setting s) (hi : s.requests[i]? = some request)
    (hstage : request.stage = .expiring)
    (hclosed : reply = .answers ∨ setting.limit request.key < 0) (hclock : s.clock ≤ now) :
    Sound setting (s.after request.key now (s.expire setting request.key now reply)
      (s.requests.set i
        { request with stage := (s.expire setting request.key now reply).stage })) := by
  have hmode : s.manager.usingFallback = false := by
    rw [← Bool.not_eq_true]
    intro hmode
    exact ((hsound.fallback hmode).2 request (List.mem_of_getElem? hi)).2 hstage
  have htracked := hsound.redis hmode request.key
  have hself := waiting_set_self hi
  rw [hstage] at hself
  have hpos : 0 < waiting request.key s.requests := by
    have hwaiting := hself (.expiring)
    have hin : (request.key = request.key && request.stage.isExpiring) = true := by
      simp [hstage, Stage.isExpiring]
    exact one_le_countP (List.mem_of_getElem? hi) hin
  cases hfind : Redis.find s.redis (counterKey setting request.key) with
  | none =>
    rw [hfind] at htracked
    exact absurd htracked.2 (Nat.ne_of_gt hpos)
  | some r =>
    rw [hfind] at htracked
    have hwaits : r.expiresAt = none := by
      obtain ⟨a, -, hbacked⟩ := htracked
      exact (hbacked.waits hpos).2
    obtain ⟨redis, x, allowed, result, hmove, hwrites, hallowed, hx⟩ :=
      expire_cases now hfind hwaits hclosed
    rw [hmove]
    refine hsound.count hmode rfl hwrites rfl rfl rfl (by simp [Move.isUncounted])
      hclock (fun key' hkey => waiting_set_ne hi _ hkey) ?_
    have hwaiting : waiting request.key (s.requests.set i
        { request with stage := .answered result }) = waiting request.key s.requests - 1 := by
      have hwaiting := hself (.answered result)
      simp only [Stage.isExpiring, Bool.toNat_true, Bool.toNat_false] at hwaiting
      omega
    dsimp only
    rw [hwaiting]
    exact htracked.answered hpos hclock rfl hallowed hx

theorem Sound.step (hsound : Sound setting s) (hfallback : setting.fallback = .error)
    {label : Label} (hclosed : staysClosed setting s label = true)
    (h : step setting s label = some s') : Sound setting s' := by
  cases label with
  | request key now cache =>
    rw [RateLimiter.step] at h
    split at h
    · obtain rfl := Option.some.inj h
      exact hsound.arrive hfallback hclosed ‹_›
    · cases h
  | redis i now reply =>
    simp only [RateLimiter.step, Option.bind_eq_bind, Option.bind_eq_some_iff] at h
    obtain ⟨request, hi, move, hmove, h⟩ := h
    rw [staysClosed, hi, Option.all_some, Bool.or_eq_true, decide_eq_true_eq,
      decide_eq_true_eq] at hclosed
    split at h
    · obtain rfl := Option.some.inj h
      rw [State.move] at hmove
      cases hstage : request.stage with
      | incrementing =>
        rw [hstage] at hmove
        obtain rfl := Option.some.inj hmove
        exact hsound.increment hi hstage hclosed ‹_›
      | expiring =>
        rw [hstage] at hmove
        obtain rfl := Option.some.inj hmove
        exact hsound.expire hi hstage hclosed ‹_›
      | answered | unavailable | passed =>
        rw [hstage] at hmove
        cases hmove
    · cases h

theorem fallbackLimiter_initializeManager (setting : Setting) (startup : Startup) :
    (initializeManager setting startup).usingFallback = true →
      (initializeManager setting startup).fallbackLimiter = some .empty := by
  rw [initializeManager]
  split
  · simp [new]
  · split
    · simp [new]
    · split
      · split
        · simp [new]
        · simp
      · split
        · simp [new]
        · simp

theorem sound_start (setting : Setting) (startup : Startup) :
    Sound setting (State.start setting startup) :=
  ⟨fun h => ⟨⟨_, fallbackLimiter_initializeManager setting startup h,
    InMemoryRateLimiter.tracks_empty _ _⟩, by simp [State.start]⟩,
    fun _ _ => ⟨rfl, rfl⟩, rfl, trivial⟩

/-- **The runs in which the limiter fails closed**: with `RATE_LIMIT_FALLBACK=error`, all runs whose
steps meet `staysClosed`. -/
theorem fails_closed (setting : Setting) (startup : Startup) (labels : List Label)
    (hfallback : setting.fallback = .error)
    (hclosed : Along (step setting) (fun s label => staysClosed setting s label = true)
      (State.start setting startup) labels)
    (h : exec (step setting) (State.start setting startup) labels = some t) : FailsClosed t :=
  (exec_invariant (I := Sound setting) (fun _ _ _ hsound hclosed hstep =>
    hsound.step hfallback hclosed hstep) (sound_start setting startup) hclosed h).closed

/-- A limit of 1, and two requests that Redis counts at once; the first to be answered is the second
that came. -/
theorem fails_closed_two :
    ∃ t, exec (step ⟨1, true, .error, 3600, fun _ => 1⟩)
        (State.start ⟨1, true, .error, 3600, fun _ => 1⟩ ⟨true, true, true, true⟩)
        [.request "org:o".toList 0 ⟨true, true⟩, .request "org:o".toList 0 ⟨true, true⟩,
          .redis 1 1 .answers, .redis 0 1 .answers] = some t ∧ FailsClosed t :=
  ⟨_, rfl, fails_closed ⟨1, true, .error, 3600, fun _ => 1⟩ ⟨true, true, true, true⟩
    [.request "org:o".toList 0 ⟨true, true⟩, .request "org:o".toList 0 ⟨true, true⟩,
      .redis 1 1 .answers, .redis 0 1 .answers] rfl (by decide) rfl⟩

/-- Redis raises, and the request is allowed without being counted. -/
theorem not_fails_closed :
    ¬ ∀ (setting : Setting) (startup : Startup) (labels : List Label) (t : State),
      setting.fallback = .error → setting.enabled = true → 0 < setting.window →
      (∀ key, 1 ≤ setting.limit key) →
      exec (step setting) (State.start setting startup) labels = some t → FailsClosed t := by
  intro h
  have hclosed := h ⟨1, true, .error, 3600, fun _ => 1⟩ ⟨true, true, true, true⟩
    [.request "org:o".toList 0 ⟨true, true⟩, .redis 0 0 .raisesBefore] _ rfl rfl (by decide)
    (by simp) rfl
  have huncounted : ["org:o".toList] = [] := hclosed.1
  cases huncounted

end RateLimiter

end OpenLangGraph
