import Mathlib.Data.PNat.Basic
import OpenLangGraph.Core.RedisLimiter

/-!
# Two limiters and one window

`check_limit` of `core/rate_limiter.py` in Redis and in memory, on the same requests.

## The window

Both are to be a fixed window: the first request of a key opens one, and so does the first request
after it is over. `Window.after` says so, and looks at the times of the requests only. The counter
in Redis is gone when the window is over. The counter in memory stays, with the time of its start,
until the next request, or until it is evicted; and with windows of at most an hour none is evicted
before its window is over.

## The end of the window

The limiter in memory computes the end from the start. `check_limit` in Redis does not know the
start, and adds the window to the time of the request.

## Main definitions

* `Window`, `Window.after`, `Window.endsAt` — what both limiters are for
* `State`, `step` — both limiters
* `Agrees`, `inFirstSecond`

## Main results

* `redis_of_tracks`, `memory_of_tracks` — each limiter and the window
* `same_verdict` — both allow the same
* `limiters_agree` — runs
-/

namespace OpenLangGraph

namespace LimiterAgreement

open Transition PyString RedisLimiter

/-! ### Windows -/

/-- The window of a key, with the number of its requests. -/
structure Window where
  start : ℕ
  count : ℕ
deriving DecidableEq

/-- The window of a request, where one lasts for so many ticks. -/
def Window.after (ticks now : ℕ) : Option Window → Window
  | some w => if w.start + ticks ≤ now then ⟨now, 1⟩ else ⟨w.start, w.count + 1⟩
  | none => ⟨now, 1⟩

structure Setting where
  second : ℕ
  second_pos : 0 < second
  maxKeys : ℤ
  window : Str → ℕ
  window_le : ∀ key, window key ≤ 3600

/-- The length of a window in ticks. -/
def Setting.ticks (setting : Setting) (key : Str) : ℕ := setting.window key * setting.second

/-- The second in which a window ends. -/
def Window.endsAt (setting : Setting) (key : Str) (w : Window) : ℕ :=
  (w.start + setting.ticks key) / setting.second

def Setting.memory (setting : Setting) : InMemoryRateLimiter.Setting :=
  ⟨setting.second, setting.maxKeys⟩

/-! ### Both limiters -/

structure Request where
  key : Str
  limit : ℕ+
  now : ℕ

structure State where
  redis : Redis.Db Str ℕ
  memory : InMemoryRateLimiter Str
  windows : Str → Option Window
  clock : ℕ

def State.start : State := ⟨[], .empty, fun _ => none, 0⟩

namespace State

variable (setting : Setting) (s : State) (request : Request)

def checkRedis : Redis.Db Str ℕ × Reply :=
  checkLimit setting.second s.redis request.key request.limit (setting.window request.key)
    request.now

def checkMemory : InMemoryRateLimiter Str × Reply :=
  s.memory.checkAndIncrement setting.memory request.key request.limit (setting.window request.key)
    request.now

/-- The window that the request is in. -/
def window : Window := .after (setting.ticks request.key) request.now (s.windows request.key)

end State

/-- A request, no earlier than the last one. -/
def step (setting : Setting) (s : State) (request : Request) : Option State :=
  if s.clock ≤ request.now then
    some
      { redis := (s.checkRedis setting request).1
        memory := (s.checkMemory setting request).1
        windows := Function.update s.windows request.key (some (s.window setting request))
        clock := request.now }
  else none

/-- Both limiters answer the same, and name the end of the window. -/
def Agrees (setting : Setting) (s : State) (request : Request) : Prop :=
  s.clock ≤ request.now →
    (s.checkRedis setting request).2 = (s.checkMemory setting request).2 ∧
      (s.checkRedis setting request).2.resetAt =
        (s.window setting request).endsAt setting request.key

/-- The request comes in the second in which its window is opened. -/
def inFirstSecond (setting : Setting) (s : State) (request : Request) : Bool :=
  request.now < s.clock ||
    request.now / setting.second = (s.window setting request).start / setting.second

/-! ### The window of a key, as both limiters have it -/

variable {setting : Setting} {s s' : State} {request : Request} {clock now ticks : ℕ}

/-- What the limiter in memory keeps under a key. -/
def kept {κ : Type*} [DecidableEq κ] (l : InMemoryRateLimiter κ) (key : κ) : Option Counter :=
  l.counters.lookup key

/-- What the two limiters keep of a window. -/
def Tracks (ticks clock : ℕ) (counter : Option (Redis.Entry ℕ)) (memory : Option Counter) :
    Option Window → Prop
  | none => counter = none ∧ memory = none
  | some w => 1 ≤ w.count ∧ counter = some ⟨w.count, some (w.start + ticks)⟩ ∧
      (memory = some ⟨w.count, w.start⟩ ∨ memory = none ∧ w.start + ticks ≤ clock)

/-- Both limiters keep the windows of all keys. -/
def Simulates (setting : Setting) (s : State) : Prop :=
  ∀ key, Tracks (setting.ticks key) s.clock
    (Redis.find s.redis (counterKey key (setting.window key))) (kept s.memory key)
    (s.windows key)

theorem Tracks.later {counter : Option (Redis.Entry ℕ)} {memory : Option Counter}
    {w : Option Window} (h : Tracks ticks clock counter memory w) (hclock : clock ≤ now) :
    Tracks ticks now counter memory w := by
  cases w with
  | none => exact h
  | some w =>
    obtain ⟨hcount, hcounter, hmemory⟩ := h
    exact ⟨hcount, hcounter, hmemory.imp_right fun h => ⟨h.1, h.2.trans hclock⟩⟩

/-- What is evicted is over. -/
theorem Tracks.withRoom {memory : InMemoryRateLimiter.Setting} {l : InMemoryRateLimiter Str}
    {key : Str} {counter : Option (Redis.Entry ℕ)} {w : Option Window}
    (hticks : ticks ≤ 3600 * memory.second) (hclock : clock ≤ now)
    (h : Tracks ticks clock counter (kept l key) w) :
    Tracks ticks now counter (kept (l.withRoom memory now) key) w := by
  rcases InMemoryRateLimiter.lookup_withRoom memory l key now with hsame | ⟨hnone, c, hc, hexpired⟩
  · rw [kept, hsame]
    exact h.later hclock
  · rw [kept, hnone]
    cases w with
    | none => exact ⟨h.1, rfl⟩
    | some w =>
      obtain ⟨hcount, hcounter, hmemory⟩ := h
      refine ⟨hcount, hcounter, .inr ⟨rfl, ?_⟩⟩
      rcases hmemory with hmemory | ⟨hmemory, -⟩
      · have hstart : c = ⟨w.count, w.start⟩ := Option.some.inj (hc.symm.trans hmemory)
        have hlt : c.windowStart + 3600 * memory.second < now := of_decide_eq_true hexpired
        rw [hstart] at hlt
        dsimp only at hlt
        omega
      · rw [kept, hc] at hmemory
        cases hmemory

theorem after_of_over {w : Window} (h : w.start + ticks ≤ now) :
    Window.after ticks now (some w) = ⟨now, 1⟩ := if_pos h

theorem after_of_open {w : Window} (h : now < w.start + ticks) :
    Window.after ticks now (some w) = ⟨w.start, w.count + 1⟩ := if_neg (Nat.not_le.mpr h)

/-- **The limiter in Redis** counts in the window of the request. -/
theorem redis_of_tracks {second window : ℕ} {key : Str} {limit : ℤ} {redis : Redis.Db Str ℕ}
    {memory : Option Counter} {w : Option Window}
    (h : Tracks (window * second) now (Redis.find redis (counterKey key window)) memory w) :
    checkLimit second redis key limit window now =
      (Redis.store redis (counterKey key window)
        ⟨(Window.after (window * second) now w).count,
          some ((Window.after (window * second) now w).start + window * second)⟩,
        reply second limit window now (Window.after (window * second) now w).count) := by
  cases w with
  | none =>
    refine checkLimit_of_not_live ?_
    rw [h.1]
    rfl
  | some w =>
    obtain ⟨hcount, hcounter, -⟩ := h
    rcases Nat.lt_or_ge now (w.start + window * second) with hopen | hover
    · rw [after_of_open hopen]
      have hlive : Redis.live now (Redis.find redis (counterKey key window)) =
          some ⟨w.count, some (w.start + window * second)⟩ := by
        rw [hcounter]
        exact Redis.live_of_forall fun x hx => Option.some.inj hx ▸ hopen
      exact checkLimit_of_live hcount hlive
    · rw [after_of_over hover]
      refine checkLimit_of_not_live ?_
      rw [hcounter]
      rcases Redis.live_cases now ⟨w.count, some (w.start + window * second)⟩ with hlive | hnone
      · have hlt := Redis.lt_of_live hlive _ rfl
        omega
      · exact hnone.1

/-- **The limiter in memory** counts in the window of the request, and knows when it ends. -/
theorem memory_of_tracks {memory : InMemoryRateLimiter.Setting} {window : ℕ} {key : Str} {limit : ℤ}
    {l : InMemoryRateLimiter Str} {counter : Option (Redis.Entry ℕ)} {w : Option Window}
    (hlimit : 1 ≤ limit)
    (h : Tracks (window * memory.second) now counter
      (kept (l.withRoom memory now) key) w) :
    l.checkAndIncrement memory key limit window now =
      ((l.withRoom memory now).put key
        ⟨(Window.after (window * memory.second) now w).count,
          (Window.after (window * memory.second) now w).start⟩,
        ⟨(Window.after (window * memory.second) now w).count ≤ limit,
          max 0 (limit - (Window.after (window * memory.second) now w).count),
          (Window.after (window * memory.second) now w).start / memory.second + window⟩) := by
  rcases InMemoryRateLimiter.checkAndIncrement_cases memory l key limit window now with
    ⟨hopens, heq⟩ | ⟨-, c, hc, hlt, heq⟩
  · have hafter : Window.after (window * memory.second) now w = ⟨now, 1⟩ := by
      cases w with
      | none => rfl
      | some w =>
        refine after_of_over ?_
        rcases h.2.2 with hmemory | ⟨-, hover⟩
        · rw [InMemoryRateLimiter.opens, ← kept, hmemory] at hopens
          exact of_decide_eq_true hopens
        · exact hover
    rw [heq, hafter]
    simp [hlimit]
  · rw [← kept] at hc
    have hwindow : ∃ w', w = some w' ∧ c = ⟨w'.count, w'.start⟩ := by
      cases w with
      | none =>
        rw [h.2] at hc
        cases hc
      | some w =>
        rcases h.2.2 with hmemory | ⟨hmemory, -⟩
        · exact ⟨w, rfl, Option.some.inj (hc.symm.trans hmemory)⟩
        · rw [hmemory] at hc
          cases hc
    obtain ⟨w, rfl, rfl⟩ := hwindow
    rw [heq, after_of_open hlt]

/-! ### One request -/

theorem ticks_le (setting : Setting) (key : Str) :
    setting.ticks key ≤ 3600 * setting.memory.second :=
  Nat.mul_le_mul_right _ (setting.window_le key)

theorem checkRedis_eq (hsim : Simulates setting s) (hclock : s.clock ≤ request.now) :
    s.checkRedis setting request =
      (Redis.store s.redis (counterKey request.key (setting.window request.key))
        ⟨(s.window setting request).count,
          some ((s.window setting request).start + setting.ticks request.key)⟩,
        reply setting.second request.limit (setting.window request.key) request.now
          (s.window setting request).count) :=
  redis_of_tracks ((hsim request.key).later hclock)

theorem checkMemory_eq (hsim : Simulates setting s) (hclock : s.clock ≤ request.now) :
    s.checkMemory setting request =
      ((s.memory.withRoom setting.memory request.now).put request.key
        ⟨(s.window setting request).count, (s.window setting request).start⟩,
        ⟨((s.window setting request).count : ℤ) ≤ (request.limit : ℤ),
          max 0 ((request.limit : ℤ) - (s.window setting request).count),
          (s.window setting request).start / setting.second + setting.window request.key⟩) := by
  have htracks : Tracks (setting.window request.key * setting.memory.second) request.now
      (Redis.find s.redis (counterKey request.key (setting.window request.key)))
      (kept (s.memory.withRoom setting.memory request.now) request.key)
      (s.windows request.key) :=
    (hsim request.key).withRoom (ticks_le setting request.key) hclock
  exact memory_of_tracks (Int.ofNat_le.mpr request.limit.pos) htracks

theorem one_le_count (ticks now : ℕ) (w : Option Window) :
    1 ≤ (Window.after ticks now w).count := by
  cases w with
  | none => exact Nat.le_refl 1
  | some w =>
    rw [Window.after]
    split
    · exact Nat.le_refl 1
    · exact Nat.le_add_left 1 _

/-- **A request** leaves both limiters with the windows. -/
theorem simulates_step (hsim : Simulates setting s) (hstep : step setting s request = some s') :
    Simulates setting s' := by
  obtain ⟨hclock, hs'⟩ := Option.ite_none_right_eq_some.mp hstep
  obtain rfl := Option.some.inj hs'
  intro key
  dsimp only
  rw [checkRedis_eq hsim hclock, checkMemory_eq hsim hclock, Redis.find_store, kept,
    InMemoryRateLimiter.lookup_put]
  by_cases hkey : key = request.key
  · subst hkey
    rw [if_pos rfl, if_pos rfl, Function.update_self]
    exact ⟨one_le_count _ _ _, rfl, .inl rfl⟩
  · have hcounter : ¬ counterKey key (setting.window key) =
        counterKey request.key (setting.window request.key) :=
      fun heq => hkey (counterKey_injective heq).1
    rw [if_neg hkey, if_neg hcounter, Function.update_of_ne hkey]
    exact (hsim key).withRoom (ticks_le setting key) hclock

/-- **The same verdict**: both limiters allow the same, and leave the same. -/
theorem same_verdict (hsim : Simulates setting s) (hclock : s.clock ≤ request.now) :
    (s.checkRedis setting request).2.allowed = (s.checkMemory setting request).2.allowed ∧
      (s.checkRedis setting request).2.remaining =
        (s.checkMemory setting request).2.remaining := by
  rw [checkRedis_eq hsim hclock, checkMemory_eq hsim hclock]
  exact ⟨rfl, rfl⟩

/-- The limiter in memory names the end of the window. -/
theorem endsAt_eq (w : Window) (key : Str) :
    w.endsAt setting key = w.start / setting.second + setting.window key :=
  Nat.add_mul_div_right _ _ setting.second_pos

/-- **One request** is answered alike exactly if it comes in the first second of its window. -/
theorem agrees_iff (hsim : Simulates setting s) (request : Request) :
    Agrees setting s request ↔ inFirstSecond setting s request = true := by
  rw [inFirstSecond, Bool.or_eq_true, decide_eq_true_eq, decide_eq_true_eq]
  rcases Nat.lt_or_ge request.now s.clock with hlt | hclock
  · exact iff_of_true (fun h => absurd hlt (Nat.not_lt.mpr h)) (.inl hlt)
  · rw [or_iff_right (Nat.not_lt.mpr hclock), Agrees, checkRedis_eq hsim hclock,
      checkMemory_eq hsim hclock, endsAt_eq]
    simp only [reply, hclock, forall_const, Reply.mk.injEq, true_and, and_self]
    omega

/-! ### Runs -/

theorem simulates_start : Simulates setting .start := fun _ => ⟨rfl, rfl⟩

/-- Both limiters allow the same in all runs. -/
theorem same_verdicts (setting : Setting) (requests : List Request) :
    Along (step setting) (fun s request => s.clock ≤ request.now →
      (s.checkRedis setting request).2.allowed = (s.checkMemory setting request).2.allowed ∧
        (s.checkRedis setting request).2.remaining =
          (s.checkMemory setting request).2.remaining) .start requests :=
  along_of_invariant (I := Simulates setting) (fun _ _ _ hsim _ hstep => simulates_step hsim hstep)
    (fun _ request hsim _ hclock => @same_verdict _ _ request hsim hclock) simulates_start
    (along_true _ _)

theorem agrees_along_iff (hsim : Simulates setting s) {requests : List Request} :
    Along (step setting) (Agrees setting) s requests ↔
      Along (step setting) (fun s request => inFirstSecond setting s request = true) s requests :=
  along_iff_along (fun _ request hsim => agrees_iff hsim request)
    (fun _ _ _ hsim _ hstep => simulates_step hsim hstep) hsim

/-- **The limiters agree** exactly in the runs whose requests all come in the first second of their
windows. -/
theorem limiters_agree (setting : Setting) (requests : List Request) :
    Along (step setting) (Agrees setting) .start requests ↔
      Along (step setting) (fun s request => inFirstSecond setting s request = true) .start
        requests :=
  agrees_along_iff simulates_start

/-- Windows of a minute. -/
def minutes : Setting := ⟨1, Nat.one_pos, 10000, fun _ => 60, fun _ => Nat.le_of_ble_eq_true rfl⟩

/-- Two requests of a key in two seconds. -/
theorem limiters_disagree : ¬ Along (step minutes) (Agrees minutes) .start
    [⟨"org:o".toList, 5, 100⟩, ⟨"org:o".toList, 5, 101⟩] := by
  rw [agrees_along_iff simulates_start]
  decide

end LimiterAgreement

end OpenLangGraph
