import OpenLangGraph.Core.RateLimiter

/-!
# A check in Redis

`check_limit` of `core/rate_limiter.py` on the Redis path, from the counter before to the counter
and the reply after, where no command fails and none of another request comes between.

## Main definitions

* `counterKey`, `incrWithExpire`, `checkLimit`

## Main results

* `increment_script`, `increment_commands` — the same as the limiter does step by step
* `counterKey_injective` — a key and a window have a counter of their own
* `checkLimit_of_live`, `checkLimit_of_not_live` — the two branches
-/

namespace OpenLangGraph

namespace RedisLimiter

open PyString

/-- `rate_limit:{key}:{window}` -/
def counterKey (key : Str) (window : ℕ) : Str :=
  "rate_limit:".toList ++ key ++ ":".toList ++ decimalRepr window

/-- `INCR_WITH_EXPIRE_SCRIPT` -/
def incrWithExpire (now ticks : ℕ) (e : Option (Redis.Entry ℕ)) : Redis.Entry ℕ :=
  let count := Redis.incr now e
  if count.value = 1 then ⟨count.value, some (now + ticks)⟩ else count

/-- What `check_limit` makes of a count. -/
def reply (second : ℕ) (limit : ℤ) (window now current : ℕ) : Reply :=
  ⟨current ≤ limit, max 0 (limit - current), now / second + window⟩

/-- `check_limit` -/
def checkLimit (second : ℕ) (redis : Redis.Db Str ℕ) (key : Str) (limit : ℤ) (window now : ℕ) :
    Redis.Db Str ℕ × Reply :=
  let counter := incrWithExpire now (window * second) (Redis.find redis (counterKey key window))
  (Redis.store redis (counterKey key window) counter,
    reply second limit window now counter.value)

variable {second window now ticks : ℕ} {redis : Redis.Db Str ℕ} {key : Str} {limit : ℤ}

/-! ### The limiter step by step -/

theorem value_incrWithExpire (now ticks : ℕ) (e : Option (Redis.Entry ℕ)) :
    (incrWithExpire now ticks e).value = (Redis.incr now e).value := by
  rw [incrWithExpire]
  split <;> rfl

/-- **The script**, when it answers. -/
theorem increment_script (setting : RateLimiterManager.Setting) (s : RateLimiter.State) (key : Str)
    (now : ℕ) (hscript : s.manager.incrScript = true) :
    (s.increment setting key now .answers).redis =
        (checkLimit setting.second s.redis key (setting.limit key) setting.window now).1 ∧
      (s.increment setting key now .answers).stage = .answered
        (checkLimit setting.second s.redis key (setting.limit key) setting.window now).2 := by
  simp only [RateLimiter.State.increment, hscript, Bool.not_true, Bool.false_and, Bool.true_and,
    Bool.false_eq_true, if_false, decide_eq_true_eq]
  refine ⟨rfl, ?_⟩
  rw [checkLimit, value_incrWithExpire]
  rfl

/-- What `INCR` leaves is live. -/
theorem expire_incr (now ticks : ℕ) (e : Option (Redis.Entry ℕ)) :
    Redis.expire now ticks (some (Redis.incr now e)) =
      some ⟨(Redis.incr now e).value, some (now + ticks)⟩ := by
  refine Redis.expire_of_forall fun x hx => ?_
  cases hlive : Redis.live now e with
  | none =>
    rw [Redis.incr_of_not_live hlive] at hx
    cases hx
  | some r =>
    rw [Redis.incr_of_live hlive] at hx
    exact Redis.lt_of_live hlive x hx

/-- **The two commands**, one right after the other. -/
theorem increment_commands (e : Option (Redis.Entry ℕ)) :
    some (incrWithExpire now ticks e) =
      if (Redis.incr now e).value = 1 then Redis.expire now ticks (some (Redis.incr now e))
      else some (Redis.incr now e) := by
  rw [expire_incr, incrWithExpire]
  split <;> rfl

/-! ### Keys -/

theorem append_digits_injective {s t d e : Str} (hd : ∀ c ∈ d, c.isDigit = true)
    (he : ∀ c ∈ e, c.isDigit = true) (h : s ++ ':' :: d = t ++ ':' :: e) : s = t ∧ d = e := by
  have htake : ∀ s d : Str, (∀ c ∈ d, c.isDigit = true) →
      (s ++ ':' :: d).reverse.takeWhile Char.isDigit = d.reverse := by
    intro s d hd
    rw [List.reverse_append, List.reverse_cons, List.append_assoc,
      List.takeWhile_append_of_pos fun c hc => hd c (List.mem_reverse.mp hc)]
    simp
  have hreverse : d.reverse = e.reverse := by rw [← htake s d hd, h, htake t e he]
  obtain rfl : d = e := List.reverse_injective hreverse
  exact ⟨List.append_cancel_right h, rfl⟩

/-- **A key and a window** have a counter of their own. -/
theorem counterKey_injective {key key' : Str} {window window' : ℕ}
    (h : counterKey key window = counterKey key' window') : key = key' ∧ window = window' := by
  delta counterKey at h
  generalize "rate_limit:".toList = start at h
  have happend : (start ++ key) ++ ':' :: decimalRepr window =
      (start ++ key') ++ ':' :: decimalRepr window' := by
    rw [List.append_cons (start ++ key), List.append_cons (start ++ key')]
    exact h
  obtain ⟨hkey, hwindow⟩ := append_digits_injective (fun _ => isDigit_of_mem_decimalRepr)
    (fun _ => isDigit_of_mem_decimalRepr) happend
  exact ⟨List.append_cancel_left hkey, decimalRepr_injective hwindow⟩

/-! ### The two branches -/

/-- A live counter goes on. -/
theorem checkLimit_of_live {r : Redis.Entry ℕ} (hpos : 1 ≤ r.value)
    (h : Redis.live now (Redis.find redis (counterKey key window)) = some r) :
    checkLimit second redis key limit window now =
      (Redis.store redis (counterKey key window) ⟨r.value + 1, r.expiresAt⟩,
        reply second limit window now (r.value + 1)) := by
  have hne : ¬ r.value + 1 = 1 := by omega
  rw [checkLimit, incrWithExpire, Redis.incr_of_live h]
  dsimp only
  rw [if_neg hne]

/-- A new counter expires at the end of the window that it opens. -/
theorem checkLimit_of_not_live
    (h : Redis.live now (Redis.find redis (counterKey key window)) = none) :
    checkLimit second redis key limit window now =
      (Redis.store redis (counterKey key window) ⟨1, some (now + window * second)⟩,
        reply second limit window now 1) := by
  rw [checkLimit, incrWithExpire, Redis.incr_of_not_live h]
  rfl

end RedisLimiter

end OpenLangGraph
