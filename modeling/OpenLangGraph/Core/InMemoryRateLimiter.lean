import OpenLangGraph.Foundation.FixedWindow
import OpenLangGraph.Foundation.PyDict
import OpenLangGraph.Foundation.Transition

/-!
# The in-memory rate limiter

`InMemoryRateLimiter` of `core/rate_limiter.py`: a counter under every key, with the time at which
its window was opened.

## Eviction

A call that finds more than `max_keys` counters first evicts some that are older than an hour,
whatever their windows are. A key whose counter has been evicted looks like one that has never been
seen. So the windows of a key are not kept by the limiter, but by the log of its answers.

## Time

Times are counted in ticks, of which `second` make a second; `int(now)` is `now / second`.

## Main definitions

* `Counter`, `InMemoryRateLimiter`, `checkAndIncrement`
* `Limiting.State`, `Limiting.step` — a limiter with the log of its answers
* `Limiting.NeverOverAdmits`, `Limiting.admits`
* `Limiting.keepsRoom`

## Main results

* `Limiting.never_over_admits_iff` — in which runs the limiter never admits too many
* `Limiting.never_over_admits_of_le` — limits of at least 1 and windows of at most an hour suffice
* `Limiting.allowedIn_le` — what that means for an interval of time
* `Limiting.counters_bounded_iff` — in which runs the number of counters is bounded
-/

namespace OpenLangGraph

open Transition FixedWindow

/-- An entry of `_counters`: `(count, window_start)`. -/
structure Counter where
  count : ℕ
  windowStart : ℕ
deriving DecidableEq

/-- `_counters` -/
structure InMemoryRateLimiter (κ : Type*) where
  counters : List (κ × Counter)
  nodup : (counters.map Prod.fst).Nodup

/-- What `check_and_increment` returns. -/
structure Reply where
  allowed : Bool
  remaining : ℤ
  resetAt : ℕ
deriving DecidableEq

namespace InMemoryRateLimiter

variable {κ : Type*}

/-- The unit of time, and `_max_keys`. -/
structure Setting where
  second : ℕ
  maxKeys : ℤ

def empty : InMemoryRateLimiter κ := ⟨[], List.nodup_nil⟩

/-- `now - start > 3600` -/
def isExpired (second now : ℕ) (c : Counter) : Bool := c.windowStart + 3600 * second < now

/-- `expired_keys` -/
def expiredKeys (l : InMemoryRateLimiter κ) (second now : ℕ) : List κ :=
  (l.counters.filter fun e => isExpired second now e.2).map Prod.fst

/-- The keys that are evicted: at most half. -/
def evictedKeys (l : InMemoryRateLimiter κ) (second now : ℕ) : List κ :=
  (l.expiredKeys second now).take (l.counters.length / 2)

variable [DecidableEq κ]

/-- `_cleanup_expired` -/
def cleanupExpired (l : InMemoryRateLimiter κ) (second now : ℕ) : InMemoryRateLimiter κ where
  counters := (l.evictedKeys second now).foldl PyDict.delete l.counters
  nodup := PyDict.nodup_foldl_delete l.nodup _

/-- The limiter after the check of its capacity. -/
def withRoom (setting : Setting) (l : InMemoryRateLimiter κ) (now : ℕ) : InMemoryRateLimiter κ :=
  if setting.maxKeys < l.counters.length then l.cleanupExpired setting.second now else l

/-- `self._counters[key] = …` -/
def put (l : InMemoryRateLimiter κ) (key : κ) (c : Counter) : InMemoryRateLimiter κ where
  counters := PyDict.set l.counters key c
  nodup := PyDict.nodup_set l.nodup key c

/-- `check_and_increment` -/
def checkAndIncrement (setting : Setting) (l : InMemoryRateLimiter κ) (key : κ) (limit : ℤ)
    (window now : ℕ) : InMemoryRateLimiter κ × Reply :=
  let resetAt := now / setting.second + window
  let l := l.withRoom setting now
  match l.counters.lookup key with
  | some ⟨count, windowStart⟩ =>
    if windowStart + window * setting.second ≤ now then
      (l.put key ⟨1, now⟩, ⟨true, limit - 1, resetAt⟩)
    else
      let newCount := count + 1
      (l.put key ⟨newCount, windowStart⟩,
        ⟨newCount ≤ limit, max 0 (limit - newCount), windowStart / setting.second + window⟩)
  | none => (l.put key ⟨1, now⟩, ⟨true, limit - 1, resetAt⟩)

/-- A call opens a window if it finds no counter, or one whose window is over. -/
def opens (setting : Setting) (l : InMemoryRateLimiter κ) (key : κ) (window now : ℕ) : Bool :=
  ((l.withRoom setting now).counters.lookup key).all fun c =>
    c.windowStart + window * setting.second ≤ now

/-- What a call returns, as far as the windows are concerned. -/
def answer (setting : Setting) (l : InMemoryRateLimiter κ) (key : κ) (limit : ℤ)
    (window now : ℕ) : Answer κ where
  key := key
  now := now
  limit := limit
  window := window * setting.second
  opens := l.opens setting key window now
  allowed := (l.checkAndIncrement setting key limit window now).2.allowed

example : (checkAndIncrement ⟨1, 10000⟩ empty "org:o" 0 3600 7).2 = ⟨true, -1, 3607⟩ := by decide

/-! ### What a call does -/

variable {setting : Setting} {l : InMemoryRateLimiter κ} {key key' : κ} {limit : ℤ}
  {window now second : ℕ} {c : Counter}

/-- **What a call does**: it opens a window and allows the request, or it counts the request in the
window that is open. -/
theorem checkAndIncrement_cases (setting : Setting) (l : InMemoryRateLimiter κ) (key : κ)
    (limit : ℤ) (window now : ℕ) :
    (l.opens setting key window now = true ∧
        l.checkAndIncrement setting key limit window now =
          ((l.withRoom setting now).put key ⟨1, now⟩,
            ⟨true, limit - 1, now / setting.second + window⟩)) ∨
      l.opens setting key window now = false ∧
        ∃ c, (l.withRoom setting now).counters.lookup key = some c ∧
          now < c.windowStart + window * setting.second ∧
          l.checkAndIncrement setting key limit window now =
            ((l.withRoom setting now).put key ⟨c.count + 1, c.windowStart⟩,
              ⟨((c.count + 1 : ℕ) : ℤ) ≤ limit, max 0 (limit - (c.count + 1 : ℕ)),
                c.windowStart / setting.second + window⟩) := by
  cases h : (l.withRoom setting now).counters.lookup key with
  | none =>
    refine .inl ⟨?_, ?_⟩
    · simp [opens, h]
    · simp [checkAndIncrement, h]
  | some c =>
    by_cases hover : c.windowStart + window * setting.second ≤ now
    · refine .inl ⟨?_, ?_⟩
      · simp [opens, h, hover]
      · simp [checkAndIncrement, h, hover]
    · refine .inr ⟨?_, c, rfl, Nat.lt_of_not_le hover, ?_⟩
      · simp [opens, h, hover]
      · simp [checkAndIncrement, h, hover]

theorem lookup_put (l : InMemoryRateLimiter κ) (key key' : κ) (c : Counter) :
    (l.put key c).counters.lookup key' =
      if key' = key then some c else l.counters.lookup key' :=
  PyDict.lookup_set l.counters key key' c

/-! ### Eviction -/

theorem mem_expiredKeys : key ∈ l.expiredKeys second now ↔
    ∃ c, l.counters.lookup key = some c ∧ isExpired second now c = true := by
  rw [expiredKeys, List.mem_map]
  constructor
  · rintro ⟨⟨key, c⟩, hmem, rfl⟩
    obtain ⟨hmem, hexpired⟩ := List.mem_filter.mp hmem
    exact ⟨c, (PyDict.lookup_eq_some_iff_mem l.nodup).mpr hmem, hexpired⟩
  · rintro ⟨c, hlookup, hexpired⟩
    have hmem := (PyDict.lookup_eq_some_iff_mem l.nodup).mp hlookup
    exact ⟨(key, c), List.mem_filter.mpr ⟨hmem, hexpired⟩, rfl⟩

/-- **What is evicted** is older than an hour; nothing else changes. -/
theorem lookup_withRoom (setting : Setting) (l : InMemoryRateLimiter κ) (key : κ) (now : ℕ) :
    (l.withRoom setting now).counters.lookup key = l.counters.lookup key ∨
      (l.withRoom setting now).counters.lookup key = none ∧
        ∃ c, l.counters.lookup key = some c ∧ isExpired setting.second now c = true := by
  rw [withRoom]
  split
  · rw [cleanupExpired]
    dsimp only
    rw [PyDict.lookup_foldl_delete]
    by_cases hkey : key ∈ l.evictedKeys setting.second now
    · exact .inr ⟨if_pos hkey, mem_expiredKeys.mp (List.mem_of_mem_take hkey)⟩
    · exact .inl (if_neg hkey)
  · exact .inl rfl

theorem lookup_of_withRoom (h : (l.withRoom setting now).counters.lookup key = some c) :
    l.counters.lookup key = some c := by
  rcases lookup_withRoom setting l key now with hsame | ⟨hnone, -⟩
  · exact hsame ▸ h
  · rw [hnone] at h
    cases h

omit [DecidableEq κ] in
theorem nodup_expiredKeys (l : InMemoryRateLimiter κ) (second now : ℕ) :
    (l.expiredKeys second now).Nodup :=
  l.nodup.sublist (List.filter_sublist.map Prod.fst)

/-- The number of counters that are evicted. -/
theorem length_cleanupExpired (l : InMemoryRateLimiter κ) (second now : ℕ) :
    (l.cleanupExpired second now).counters.length +
        min (l.counters.length / 2) (l.expiredKeys second now).length = l.counters.length := by
  have hsub : ∀ key ∈ l.evictedKeys second now, key ∈ l.counters.map Prod.fst := by
    intro key hkey
    obtain ⟨c, hlookup, -⟩ := mem_expiredKeys.mp (List.mem_of_mem_take hkey)
    exact List.mem_map_of_mem (f := Prod.fst) ((PyDict.lookup_eq_some_iff_mem l.nodup).mp hlookup)
  have hnodup : (l.evictedKeys second now).Nodup :=
    (l.nodup_expiredKeys second now).sublist (List.take_sublist _ _)
  rw [← List.length_take]
  exact PyDict.length_foldl_delete l.nodup hnodup hsub

omit [DecidableEq κ] in
/-- Some counter is evicted exactly if one is older than an hour and is not the only one. -/
theorem evicts_iff (l : InMemoryRateLimiter κ) (second now : ℕ) :
    0 < min (l.counters.length / 2) (l.expiredKeys second now).length ↔
      (2 ≤ l.counters.length && l.counters.any fun e => isExpired second now e.2) = true := by
  have hany : 0 < (l.expiredKeys second now).length ↔
      (l.counters.any fun e => isExpired second now e.2) = true := by
    rw [expiredKeys, List.length_map, List.length_pos_iff_exists_mem, List.any_eq_true]
    simp only [List.mem_filter]
  rw [Bool.and_eq_true, ← hany, decide_eq_true_eq]
  omega

theorem counters_cleanupExpired (h : ¬ 0 < min (l.counters.length / 2)
    (l.expiredKeys second now).length) :
    (l.cleanupExpired second now).counters = l.counters := by
  have hnone : l.evictedKeys second now = [] := by
    rw [← List.length_eq_zero_iff, evictedKeys, List.length_take]
    omega
  show (l.evictedKeys second now).foldl PyDict.delete l.counters = l.counters
  rw [hnone]
  rfl

/-! ### The limiter and its log -/

/-- What a call leaves in the limiter, and what it returns, if it opens a window and if not. -/
theorem answer_cases (setting : Setting) (l : InMemoryRateLimiter κ) (key : κ) (limit : ℤ)
    (window now : ℕ) :
    (l.opens setting key window now = true ∧
        (l.checkAndIncrement setting key limit window now).1 =
          (l.withRoom setting now).put key ⟨1, now⟩ ∧
        l.answer setting key limit window now =
          ⟨key, now, limit, window * setting.second, true, true⟩ ∧
        (l.checkAndIncrement setting key limit window now).2.remaining = limit - 1) ∨
      l.opens setting key window now = false ∧ ∃ c, l.counters.lookup key = some c ∧
        (l.checkAndIncrement setting key limit window now).1 =
          (l.withRoom setting now).put key ⟨c.count + 1, c.windowStart⟩ ∧
        l.answer setting key limit window now =
          ⟨key, now, limit, window * setting.second, false, ((c.count + 1 : ℕ) : ℤ) ≤ limit⟩ ∧
        (l.checkAndIncrement setting key limit window now).2.remaining =
          max 0 (limit - (c.count + 1 : ℕ)) := by
  rcases checkAndIncrement_cases setting l key limit window now with
    ⟨hopens, hcheck⟩ | ⟨hopens, c, hlookup, -, hcheck⟩
  · refine .inl ⟨hopens, by rw [hcheck], ?_, by rw [hcheck]⟩
    rw [answer, hopens, hcheck]
  · refine .inr ⟨hopens, c, lookup_of_withRoom hlookup, by rw [hcheck], ?_, by rw [hcheck]⟩
    rw [answer, hopens, hcheck]

/-- The counters and the log: a counter belongs to the last window of its key, and a counter that
has been evicted was older than an hour. -/
structure Tracks (setting : Setting) (l : InMemoryRateLimiter κ) (clock : ℕ)
    (log : List (Answer κ)) : Prop where
  counted : ∀ (key : κ) (c : Counter), l.counters.lookup key = some c →
    ∃ a, account key log = some a ∧ a.start = c.windowStart ∧ a.allowed ≤ c.count
  evicted : ∀ (key : κ) (a : Account), account key log = some a →
    l.counters.lookup key = none → a.start + 3600 * setting.second < clock

theorem tracks_empty (setting : Setting) (clock : ℕ) :
    Tracks setting (empty : InMemoryRateLimiter κ) clock [] := by
  refine ⟨?_, ?_⟩
  · intro key c h
    cases h
  · intro key a h
    cases h

variable {clock : ℕ} {log : List (Answer κ)}

theorem Tracks.later (htracks : Tracks setting l clock log) (hclock : clock ≤ now) :
    Tracks setting l now log :=
  ⟨htracks.counted, fun key a haccount hlookup =>
    (htracks.evicted key a haccount hlookup).trans_le hclock⟩

/-- The counter of a call, and its account. -/
theorem Tracks.recorded (htracks : Tracks setting l clock log) (key : κ) (limit : ℤ)
    (window now : ℕ) :
    ∃ c, (l.checkAndIncrement setting key limit window now).1 =
        (l.withRoom setting now).put key c ∧
      (record (account key log) (l.answer setting key limit window now)).start = c.windowStart ∧
      (record (account key log) (l.answer setting key limit window now)).allowed ≤ c.count := by
  rcases answer_cases setting l key limit window now with
    ⟨-, hput, heq, -⟩ | ⟨-, c, hlookup, hput, heq, -⟩
  · refine ⟨_, hput, ?_⟩
    rw [heq, record_of_opens _ rfl]
    exact ⟨rfl, Nat.le_refl 1⟩
  · obtain ⟨a, haccount, hstart, hallowed⟩ := htracks.counted key c hlookup
    refine ⟨_, hput, ?_⟩
    rw [heq, haccount, record_of_not_opens a rfl]
    exact ⟨hstart, Nat.add_le_add hallowed (Bool.toNat_le _)⟩

/-- A call keeps the counters in step with the log. -/
theorem Tracks.step (htracks : Tracks setting l clock log) (key : κ) (limit : ℤ) (window : ℕ)
    (hclock : clock ≤ now) :
    Tracks setting (l.checkAndIncrement setting key limit window now).1 now
      (l.answer setting key limit window now :: log) := by
  obtain ⟨c, hput, hstart, hallowed⟩ := htracks.recorded key limit window now
  -- the key of the call, or another one, whose account stays
  have hself : account key (l.answer setting key limit window now :: log) =
      some (record (account key log) (l.answer setting key limit window now)) :=
    account_cons_self (l.answer setting key limit window now) log
  have hother : ∀ key', key' ≠ key →
      account key' (l.answer setting key limit window now :: log) = account key' log :=
    fun key' hkey => account_cons_ne fun h => hkey h.symm
  refine ⟨fun key' c' hlookup => ?_, fun key' a haccount hlookup => ?_⟩
  · rw [hput, lookup_put] at hlookup
    by_cases hkey : key' = key
    · subst hkey
      rw [if_pos rfl] at hlookup
      obtain rfl := Option.some.inj hlookup
      exact ⟨_, hself, hstart, hallowed⟩
    · rw [if_neg hkey] at hlookup
      obtain ⟨a, haccount, hrest⟩ := htracks.counted key' c' (lookup_of_withRoom hlookup)
      exact ⟨a, (hother key' hkey).trans haccount, hrest⟩
  · rw [hput, lookup_put] at hlookup
    by_cases hkey : key' = key
    · rw [if_pos hkey] at hlookup
      cases hlookup
    · rw [if_neg hkey] at hlookup
      rw [hother key' hkey] at haccount
      rcases lookup_withRoom setting l key' now with hsame | ⟨-, c', hc', hexpired⟩
      · have hold := htracks.evicted key' a haccount (hsame ▸ hlookup)
        omega
      · obtain ⟨a', haccount', hstart', -⟩ := htracks.counted key' c' hc'
        obtain rfl := Option.some.inj (haccount.symm.trans haccount')
        rw [hstart']
        exact of_decide_eq_true hexpired

/-- A call that opens a window and has a limit of at least 1 fits if the last window is over; a
call that opens none always fits. -/
theorem Tracks.fits (htracks : Tracks setting l clock log) (key : κ) (limit : ℤ) (window now : ℕ)
    (h : l.opens setting key window now = true → 1 ≤ limit ∧
      ∀ a ∈ account key log, a.start + window * setting.second ≤ now) :
    Fits limit (account key log) (l.answer setting key limit window now) := by
  rcases answer_cases setting l key limit window now with
    ⟨hopens, -, heq, -⟩ | ⟨-, c, hlookup, -, heq, -⟩
  · obtain ⟨hlimit, hgap⟩ := h hopens
    rw [heq]
    refine ⟨fun _ => hgap, fun _ => ?_⟩
    rw [record_of_opens _ rfl]
    exact hlimit
  · obtain ⟨a, haccount, -, hallowed⟩ := htracks.counted key c hlookup
    rw [heq, haccount]
    refine ⟨by simp, fun hlast => ?_⟩
    have hlast : ((c.count + 1 : ℕ) : ℤ) ≤ limit := of_decide_eq_true hlast
    have hone : a.allowed + (decide (((c.count + 1 : ℕ) : ℤ) ≤ limit)).toNat ≤ c.count + 1 :=
      Nat.add_le_add hallowed (Bool.toNat_le _)
    rw [record_of_not_opens a rfl]
    dsimp only
    omega

/-- The last window of a key is over when a call opens one, if the windows last at most an hour:
what has been evicted was older. -/
theorem Tracks.apart (htracks : Tracks setting l clock log) (key : κ) (hclock : clock ≤ now)
    (hwindow : window ≤ 3600) (hopens : l.opens setting key window now = true) :
    ∀ a ∈ account key log, a.start + window * setting.second ≤ now := by
  intro a haccount
  have hhour : window * setting.second ≤ 3600 * setting.second := Nat.mul_le_mul_right _ hwindow
  cases hlookup : l.counters.lookup key with
  | none =>
    have hold := htracks.evicted key a haccount hlookup
    omega
  | some c =>
    obtain ⟨a', haccount', hstart, -⟩ := htracks.counted key c hlookup
    obtain rfl := Option.some.inj (haccount'.symm.trans haccount)
    rw [hstart]
    rcases lookup_withRoom setting l key now with hsame | ⟨-, c', hc', hexpired⟩
    · rw [opens, hsame, hlookup] at hopens
      exact of_decide_eq_true hopens
    · obtain rfl := Option.some.inj (hlookup.symm.trans hc')
      have hold : c.windowStart + 3600 * setting.second < now := of_decide_eq_true hexpired
      omega

end InMemoryRateLimiter

namespace Limiting

open InMemoryRateLimiter

variable {κ : Type*}

/-! ### Calls -/

/-- A call of `check_and_increment` at a time. -/
structure Call (κ : Type*) where
  key : κ
  limit : ℤ
  window : ℕ
  now : ℕ

/-- What a call has returned. -/
structure Answered (κ : Type*) extends Answer κ where
  remaining : ℤ

structure State (κ : Type*) where
  limiter : InMemoryRateLimiter κ
  clock : ℕ
  /-- what the calls have returned, from the last to the first -/
  log : List (Answered κ)

def State.start : State κ := ⟨.empty, 0, []⟩

/-- The log, as far as the windows are concerned. -/
def State.answers (s : State κ) : List (Answer κ) := s.log.map Answered.toAnswer

variable [DecidableEq κ]

/-- The call opens a window. -/
def opens (setting : Setting) (s : State κ) (call : Call κ) : Bool :=
  s.limiter.opens setting call.key call.window call.now

/-- What is written into the log. -/
def answered (setting : Setting) (s : State κ) (call : Call κ) : Answered κ where
  toAnswer := s.limiter.answer setting call.key call.limit call.window call.now
  remaining :=
    (s.limiter.checkAndIncrement setting call.key call.limit call.window call.now).2.remaining

/-- A call, no earlier than the last one. -/
def step (setting : Setting) (s : State κ) (call : Call κ) : Option (State κ) :=
  if s.clock ≤ call.now then
    some ⟨(s.limiter.checkAndIncrement setting call.key call.limit call.window call.now).1,
      call.now, answered setting s call :: s.log⟩
  else none

/-- **The limiter never admits too many**: the windows of a key are opened at least a window apart,
an allowed call is at most the `limit`-th that is allowed in its window, and what remains is
between 0 and the limit. -/
def NeverOverAdmits (s : State κ) : Prop :=
  Lawful Answer.limit s.answers ∧ ∀ a ∈ s.log, 0 ≤ a.remaining ∧ a.remaining ≤ a.limit

/-- A call that opens a window has a limit of at least 1, and the last window of its key is over:
the counter has not been evicted inside its window. -/
def admits (setting : Setting) (s : State κ) (call : Call κ) : Bool :=
  0 ≤ call.limit && (!opens setting s call || 1 ≤ call.limit &&
    (account call.key s.answers).all fun c => c.start + call.window * setting.second ≤ call.now)

/-- The limiter does not have too many counters. -/
def Bounded (setting : Setting) (s : State κ) : Prop :=
  (s.limiter.counters.length : ℤ) ≤ setting.maxKeys + 1

/-- The key has a counter, or the number of counters is at most `max_keys`, or one can be evicted:
one is older than an hour, and it is not the only one. -/
def keepsRoom (setting : Setting) (s : State κ) (call : Call κ) : Bool :=
  (s.limiter.counters.lookup call.key).isSome || s.limiter.counters.length ≤ setting.maxKeys ||
    2 ≤ s.limiter.counters.length &&
      s.limiter.counters.any fun e => isExpired setting.second call.now e.2

variable {setting : Setting} {s s' t : State κ} {call : Call κ} {calls : List (Call κ)}

/-! ### The limiter and its log -/

theorem step_eq_some (h : step setting s call = some s') :
    s.clock ≤ call.now ∧
      s' = ⟨(s.limiter.checkAndIncrement setting call.key call.limit call.window call.now).1,
        call.now, answered setting s call :: s.log⟩ := by
  rw [step] at h
  split at h
  · exact ⟨‹_›, (Option.some.inj h).symm⟩
  · cases h

/-- The counters are in step with the log. -/
abbrev Sound (setting : Setting) (s : State κ) : Prop :=
  Tracks setting s.limiter s.clock s.answers

theorem sound_step (hsound : Sound setting s) (h : step setting s call = some s') :
    Sound setting s' := by
  obtain ⟨hclock, rfl⟩ := step_eq_some h
  exact hsound.step call.key call.limit call.window hclock

/-! ### Admission -/

theorem admits_iff : admits setting s call = true ↔ 0 ≤ call.limit ∧
    (opens setting s call = true → 1 ≤ call.limit ∧ ∀ a ∈ account call.key s.answers,
      a.start + call.window * setting.second ≤ call.now) := by
  rw [admits, Bool.and_eq_true, decide_eq_true_eq, Bool.or_eq_true, Bool.and_eq_true,
    decide_eq_true_eq, Option.all_eq_true]
  refine and_congr_right fun _ => ?_
  cases opens setting s call with
  | false => simp
  | true => simp

/-- **The step.** What a call returns is right exactly if `admits` says so. -/
theorem answered_iff (hsound : Sound setting s) :
    Fits call.limit (account call.key s.answers) (answered setting s call).toAnswer ∧
        0 ≤ (answered setting s call).remaining ∧
        (answered setting s call).remaining ≤ call.limit ↔
      admits setting s call = true := by
  have hcases := answer_cases setting s.limiter call.key call.limit call.window call.now
  rw [admits_iff]
  constructor
  · rintro ⟨hfits, hpos, hle⟩
    refine ⟨Int.le_trans hpos hle, fun hopens => ⟨?_, hfits.apart hopens⟩⟩
    rcases hcases with ⟨-, -, -, hremaining⟩ | ⟨hnot, -⟩
    · have hpos : 0 ≤ call.limit - 1 := hremaining ▸ hpos
      omega
    · exact absurd (hnot.symm.trans hopens) Bool.false_ne_true
  · rintro ⟨hlimit, hadmits⟩
    refine ⟨hsound.fits call.key call.limit call.window call.now hadmits, ?_⟩
    show 0 ≤ (s.limiter.checkAndIncrement setting call.key call.limit call.window
        call.now).2.remaining ∧
      (s.limiter.checkAndIncrement setting call.key call.limit call.window
        call.now).2.remaining ≤ call.limit
    rcases hcases with ⟨hopens, -, -, hremaining⟩ | ⟨-, c, -, -, -, hremaining⟩
    · have hone := (hadmits hopens).1
      rw [hremaining]
      omega
    · rw [hremaining]
      omega

/-- **In which runs the limiter never admits too many**: exactly in those all calls of which meet
`admits`. -/
theorem never_over_admits_iff (h : exec (step setting) State.start calls = some t) :
    (∀ pre (s : State κ), pre <+: calls → exec (step setting) State.start pre = some s →
        NeverOverAdmits s) ↔
      Along (step setting) (fun s call => admits setting s call = true) State.start calls := by
  refine forall_prefix_iff_along (S := Sound setting) (fun s call s' => sound_step) ?_
    (tracks_empty setting 0) ⟨trivial, by simp [State.start]⟩ h
  intro s call s' hsound hnever hstep
  obtain ⟨-, rfl⟩ := step_eq_some hstep
  rw [← answered_iff hsound]
  constructor
  · rintro ⟨hlawful, hremaining⟩
    exact ⟨hlawful.1, hremaining _ List.mem_cons_self⟩
  · rintro ⟨hfits, hremaining⟩
    refine ⟨⟨hfits, hnever.1⟩, fun a ha => ?_⟩
    rcases List.mem_cons.mp ha with rfl | ha
    · exact hremaining
    · exact hnever.2 a ha

/-- Two calls with a limit of 1 for one key, more than a window apart. -/
theorem never_over_admits_twice :
    (∃ t, exec (step ⟨1, 10000⟩) State.start [⟨7, 1, 60, 0⟩, ⟨7, 1, 60, 60⟩] = some t) ∧
      ∀ pre (s : State ℕ), pre <+: [⟨7, 1, 60, 0⟩, ⟨7, 1, 60, 60⟩] →
        exec (step ⟨1, 10000⟩) State.start pre = some s → NeverOverAdmits s :=
  ⟨⟨_, rfl⟩, (never_over_admits_iff rfl).mpr (by decide)⟩

/-- A limit of 0 admits a call; and with a limit of 1, a counter is evicted inside its window of two
hours, whose key is then admitted again. -/
theorem over_admits :
    (¬ ∀ (setting : Setting) (calls : List (Call ℕ)) (t : State ℕ),
        (∀ call ∈ calls, 0 ≤ call.limit ∧ 0 < call.window) →
        exec (step setting) State.start calls = some t → NeverOverAdmits t) ∧
      ¬ ∀ (setting : Setting) (calls : List (Call ℕ)) (t : State ℕ),
        (∀ call ∈ calls, 1 ≤ call.limit ∧ 0 < call.window) →
        exec (step setting) State.start calls = some t → NeverOverAdmits t := by
  constructor
  · intro h
    have hnever := h ⟨1, 10000⟩ [⟨7, 0, 3600, 0⟩] _ (by decide) rfl
    have hremaining := (hnever.2 _ List.mem_cons_self).1
    revert hremaining
    decide
  · intro h
    have hnever := h ⟨1, 1⟩ [⟨7, 1, 7200, 0⟩, ⟨8, 1, 7200, 0⟩, ⟨7, 1, 7200, 4000⟩] _ (by decide) rfl
    have hapart : 0 + 7200 ≤ 4000 := hnever.1.1.apart rfl ⟨0, 1⟩ rfl
    revert hapart
    decide

/-! ### Hourly windows -/

/-- **Limits of at least 1 and windows of at most an hour suffice.** -/
theorem never_over_admits_of_le (h : exec (step setting) State.start calls = some t)
    (hcalls : ∀ call ∈ calls, 1 ≤ call.limit ∧ call.window ≤ 3600) : NeverOverAdmits t := by
  refine (never_over_admits_iff h).mpr ?_ calls t List.prefix_rfl h
  refine along_of_invariant (I := Sound setting) (fun s call s' hsound _ => sound_step hsound)
    (fun s call hsound hcall => ?_) (tracks_empty setting 0)
    ((along_isSome h).and (along_of_forall _ hcalls))
  obtain ⟨hsome, hlimit, hwindow⟩ := hcall
  obtain ⟨s', hs'⟩ := Option.isSome_iff_exists.mp hsome
  have hapart := hsound.apart call.key (step_eq_some hs').1 hwindow
  rw [admits_iff]
  exact ⟨by omega, fun hopens => ⟨hlimit, hapart hopens⟩⟩

/-- The log is in the order of time, and its answers are for the calls. -/
theorem ordered_answers {P : Answer κ → Prop}
    (hcalls : ∀ call ∈ calls, ∀ s, P (answered setting s call).toAnswer)
    (h : exec (step setting) State.start calls = some t) :
    Ordered t.answers ∧ ∀ a ∈ t.answers, P a := by
  have hinv : (Ordered t.answers ∧ ∀ a ∈ t.answers, a.now ≤ t.clock) ∧ ∀ a ∈ t.answers, P a := by
    refine exec_invariant (I := fun s : State κ =>
        (Ordered s.answers ∧ ∀ a ∈ s.answers, a.now ≤ s.clock) ∧ ∀ a ∈ s.answers, P a)
      ?_ ?_ (along_of_forall _ hcalls) h
    · rintro s call s' ⟨⟨hordered, hpast⟩, hall⟩ hcall hstep
      obtain ⟨hclock, rfl⟩ := step_eq_some hstep
      have hpast : ∀ a ∈ s.answers, a.now ≤ call.now := fun a ha =>
        (hpast a ha).trans hclock
      refine ⟨⟨List.pairwise_cons.mpr ⟨hpast, hordered⟩, fun a ha => ?_⟩, fun a ha => ?_⟩
      · rcases List.mem_cons.mp ha with rfl | ha
        · exact Nat.le_refl _
        · exact hpast a ha
      · rcases List.mem_cons.mp ha with rfl | ha
        · exact hcall s
        · exact hall a ha
    · exact ⟨⟨List.Pairwise.nil, by simp [State.start, State.answers]⟩,
        by simp [State.start, State.answers]⟩
  exact ⟨hinv.1.1, hinv.2⟩

/-- **In an interval of time** that is no longer than the windows of a key, at most twice its limit
is allowed. -/
theorem allowedIn_le (h : exec (step setting) State.start calls = some t) (key : κ)
    (limit length : ℕ) (hcalls : ∀ call ∈ calls, 1 ≤ call.limit ∧ call.window ≤ 3600)
    (hkey : ∀ call ∈ calls, call.key = key →
      call.limit ≤ limit ∧ length ≤ call.window * setting.second) (x : ℕ) :
    allowedIn key x length t.answers ≤ limit + limit := by
  obtain ⟨hordered, hanswers⟩ := ordered_answers
    (P := fun a => a.key = key → a.limit ≤ limit ∧ length ≤ a.window)
    (fun call hcall s => hkey call hcall) h
  exact FixedWindow.allowedIn_le hordered x length (never_over_admits_of_le h hcalls).1 hanswers

/-! ### Memory -/

/-- A call adds a counter if its key has none once there is room. -/
theorem length_checkAndIncrement (setting : Setting) (l : InMemoryRateLimiter κ) (key : κ)
    (limit : ℤ) (window now : ℕ) :
    (l.checkAndIncrement setting key limit window now).1.counters.length =
      if ((l.withRoom setting now).counters.lookup key).isSome then
        (l.withRoom setting now).counters.length
      else (l.withRoom setting now).counters.length + 1 := by
  rcases checkAndIncrement_cases setting l key limit window now with
    ⟨-, hcheck⟩ | ⟨-, c, -, -, hcheck⟩
  · rw [hcheck]
    exact PyDict.length_set _ _ _
  · rw [hcheck]
    exact PyDict.length_set _ _ _

/-- **The step.** A call leaves at most `max_keys + 1` counters exactly if it keeps room. -/
theorem bounded_step_iff (hbounded : Bounded setting s) (h : step setting s call = some s') :
    Bounded setting s' ↔ keepsRoom setting s call = true := by
  obtain ⟨-, rfl⟩ := step_eq_some h
  have hlength :=
    length_checkAndIncrement setting s.limiter call.key call.limit call.window call.now
  rw [Bounded] at hbounded ⊢
  rw [keepsRoom, Bool.or_eq_true, Bool.or_eq_true, ← evicts_iff, decide_eq_true_eq, hlength]
  by_cases hover : setting.maxKeys < s.limiter.counters.length
  · rw [withRoom, if_pos hover]
    have hcleanup := length_cleanupExpired s.limiter setting.second call.now
    by_cases hevicts : 0 < min (s.limiter.counters.length / 2)
        (s.limiter.expiredKeys setting.second call.now).length
    · constructor
      · exact fun _ => .inr hevicts
      · intro _
        split <;> omega
    · -- nothing is evicted, so only the counter of the call itself can keep the number
      rw [counters_cleanupExpired hevicts]
      cases (s.limiter.counters.lookup call.key).isSome with
      | true => simpa using hbounded
      | false =>
        simp only [Bool.false_eq_true, if_false, false_or, hevicts, or_false]
        omega
  · rw [withRoom, if_neg hover]
    constructor
    · exact fun _ => .inl (.inr (Int.not_lt.mp hover))
    · intro _
      split <;> omega

/-- **In which runs the number of counters is bounded**: exactly in those all calls of which keep
room, if `max_keys` is at least -1. -/
theorem counters_bounded_iff (h : exec (step setting) State.start calls = some t) :
    (∀ pre (s : State κ), pre <+: calls → exec (step setting) State.start pre = some s →
        Bounded setting s) ↔
      0 ≤ setting.maxKeys + 1 ∧
        Along (step setting) (fun s call => keepsRoom setting s call = true) State.start calls := by
  have hiff : Bounded setting (State.start : State κ) →
      ((∀ pre (s : State κ), pre <+: calls → exec (step setting) State.start pre = some s →
        Bounded setting s) ↔
      Along (step setting) (fun s call => keepsRoom setting s call = true) State.start calls) :=
    fun hstart => forall_prefix_iff_along (S := fun _ => True) (fun _ _ _ _ _ => trivial)
      (fun s call s' _ hbounded hstep => bounded_step_iff hbounded hstep) trivial hstart h
  constructor
  · intro hall
    have hstart : Bounded setting (State.start : State κ) := hall [] _ List.nil_prefix rfl
    exact ⟨hstart, (hiff hstart).mp hall⟩
  · rintro ⟨hstart, halong⟩
    exact (hiff hstart).mpr halong

/-- Three keys with room for one: the counter of the first is more than an hour old when the third
comes. -/
theorem counters_bounded_three :
    (∃ t, exec (step ⟨1, 1⟩) State.start
        [⟨7, 1, 60, 0⟩, ⟨8, 1, 60, 60⟩, ⟨9, 1, 60, 5400⟩] = some t) ∧
      ∀ pre (s : State ℕ), pre <+: [⟨7, 1, 60, 0⟩, ⟨8, 1, 60, 60⟩, ⟨9, 1, 60, 5400⟩] →
        exec (step ⟨1, 1⟩) State.start pre = some s → Bounded ⟨1, 1⟩ s :=
  ⟨⟨_, rfl⟩, (counters_bounded_iff rfl).mpr ⟨by decide, by decide⟩⟩

/-- Three keys at once are kept, with room for one. -/
theorem counters_not_bounded :
    ¬ ∀ (setting : Setting) (calls : List (Call ℕ)) (t : State ℕ), 0 ≤ setting.maxKeys →
      (∀ call ∈ calls, 0 ≤ call.limit ∧ 0 < call.window) →
      exec (step setting) State.start calls = some t → Bounded setting t := by
  intro h
  have hbounded : (3 : ℤ) ≤ 1 + 1 :=
    h ⟨1, 1⟩ [⟨7, 1, 60, 0⟩, ⟨8, 1, 60, 0⟩, ⟨9, 1, 60, 0⟩] _ (by decide) (by decide) rfl
  revert hbounded
  decide

end Limiting

end OpenLangGraph
