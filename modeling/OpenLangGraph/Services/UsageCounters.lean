import Mathlib.Data.PNat.Basic
import OpenLangGraph.Core.RateLimiter
import OpenLangGraph.Services.QuotaService

/-!
# Counters that expire

`increment_usage` of `services/quota_service.py` and `_increment_counter` of
`core/rate_limiter.py`, where the latter has no script, as any number of clients call them on one
Redis server.

## Two commands

A counter is created by an increment without a time to live, and gets one by a second command of the
same call. Between the two the call can fail, or its process can stop; then nobody sends the
command, and all later increments find a counter that is not new. They can also come between the
two.

## Scope

Nothing but these calls and `reset_limit` writes the keys. A time to live is one that Redis takes.

## Main definitions

* `Call`, `Client`, `State`, `Label`, `step`
* `Expires` — what is asked of a step
* `findsTtl` — the condition on a step
* `prompt` — nothing comes between the two commands

## Main results

* `expires_iff` — one step
* `findsTtl_of_prompt` — runs in which nothing comes between the two commands
* `counters_expire` — runs
-/

namespace OpenLangGraph

namespace UsageCounters

open Transition PyString QuotaService RateLimiterManager

/-! ### Calls -/

/-- A call. The amounts are positive. -/
inductive Call
  | incrementUsage (orgId resource : Str) (amount : ℕ+)
  | incrementCounter (key : Str) (ttl : ℤ)
deriving DecidableEq

namespace Call

/-- The counter. -/
def key : Call → Str
  | incrementUsage orgId resource _ => usageCacheKey orgId resource
  | incrementCounter key _ => key

/-- What `INCRBY` adds, or `INCR`. -/
def amount : Call → ℕ+
  | incrementUsage _ _ amount => amount
  | incrementCounter _ _ => 1

/-- The argument of `EXPIRE`. -/
def ttl : Call → ℤ
  | incrementUsage _ resource _ => getWindowForResource resource
  | incrementCounter _ ttl => ttl

end Call

/-- How far a call is. -/
inductive Stage
  /-- `INCRBY` or `INCR` is awaited -/
  | incrementing
  /-- `EXPIRE` is awaited -/
  | expiring (current : ℕ)
  | returned (current : ℕ)
  /-- an exception has been caught, or there is no connection: it has returned 0 -/
  | zero
  /-- it was cancelled, or its process has crashed -/
  | stopped
deriving DecidableEq

structure Client where
  call : Call
  stage : Stage
deriving DecidableEq

/-- What becomes of a command that a call awaits. -/
inductive Outcome
  | answers
  | raises (executed : Bool)
  | stops (executed : Bool)
deriving DecidableEq

/-- The server has executed the command. -/
def Outcome.executed : Outcome → Bool
  | answers => true
  | raises executed | stops executed => executed

/-- Where a call is after a command that returns to `next`. -/
def Outcome.resume (next : Stage) : Outcome → Stage
  | answers => next
  | raises _ => .zero
  | stops _ => .stopped

structure State where
  redis : Redis.Db Str ℕ
  clock : ℕ
  clients : List Client

inductive Label
  | call (call : Call) (cache : Cache)
  /-- what the `i`-th call awaits -/
  | redis (i now : ℕ) (outcome : Outcome)
  /-- `DEL`, from `reset_limit` -/
  | delete (key : Str)

/-- Nothing has been called. -/
def State.start : State := ⟨[], 0, []⟩

namespace State

/-- The state after a command of the `i`-th call. -/
def after (s : State) (i now : ℕ) (client : Client) (redis : Redis.Db Str ℕ) (stage : Stage) :
    State :=
  ⟨redis, now, s.clients.set i { client with stage }⟩

/-- `INCRBY` or `INCR`, and what comes of it: a sum that does not fit is an error. -/
def increment (s : State) (i now : ℕ) (client : Client) (outcome : Outcome) : State :=
  match Redis.incrby now client.call.amount (Redis.find s.redis client.call.key) with
  | none => s.after i now client s.redis (outcome.resume .zero)
  | some sum =>
    s.after i now client
      (if outcome.executed then Redis.store s.redis client.call.key sum else s.redis)
      (outcome.resume
        (if sum.value = client.call.amount then .expiring sum.value else .returned sum.value))

/-- `EXPIRE`, and what comes of it: a counter whose time to live is not positive is gone. -/
def expire (second : ℕ) (s : State) (i now : ℕ) (client : Client) (current : ℕ)
    (outcome : Outcome) : State :=
  s.after i now client
    (if outcome.executed then
      Redis.put s.redis client.call.key
        (Redis.expire now (client.call.ttl.toNat * second) (Redis.find s.redis client.call.key))
    else s.redis)
    (outcome.resume (.returned current))

end State

/-- A step, where the clock has so many ticks a second. -/
def step (second : ℕ) (s : State) : Label → Option State
  | .call call cache =>
    let stage := match RateLimiterManager.incrementCounter cache with
      | none => .incrementing
      | some _ => .zero
    some { s with clients := s.clients ++ [⟨call, stage⟩] }
  | .redis i now outcome => do
    let client ← s.clients[i]?
    if now < s.clock then none else
      match client.stage with
      | .incrementing => some (s.increment i now client outcome)
      | .expiring current => some (s.expire second i now client current outcome)
      | .returned _ | .zero | .stopped => none
  | .delete key => some { s with redis := PyDict.delete s.redis key }

/-! ### What is asked of the counters -/

/-- The counter of a key is not there, or it has a time to live. -/
def hasTtl (s : State) (now : ℕ) (key : Str) : Bool :=
  (Redis.live now (Redis.find s.redis key)).all fun r => r.expiresAt.isSome

/-- A call that returns a count leaves a counter with a time to live. -/
def Expires (second : ℕ) (s : State) : Label → Prop
  | .redis i now outcome => ∀ s' call current, step second s (.redis i now outcome) = some s' →
      s'.clients[i]? = some ⟨call, .returned current⟩ → hasTtl s' now call.key = true
  | .call .. | .delete _ => True

/-- An increment that is answered comes to a counter with a time to live, or to none. -/
def findsTtl (s : State) : Label → Bool
  | .redis i now .answers => (s.clients[i]?).all fun client =>
      client.stage ≠ .incrementing || now < s.clock || hasTtl s now client.call.key ||
        (Redis.incrby now client.call.amount (Redis.find s.redis client.call.key)).isNone
  | .redis _ _ (.raises _) | .redis _ _ (.stops _) | .call .. | .delete _ => true

/-- The call awaits `EXPIRE` for a counter. -/
def Client.isExpiring (key : Str) (client : Client) : Bool :=
  match client.stage with
  | .expiring _ => client.call.key = key
  | .incrementing | .returned _ | .zero | .stopped => false

/-- Nothing comes between the two commands: an increment that creates a counter is answered, the
`EXPIRE` that follows is executed, and no other increment of the counter is answered before it. -/
def prompt (s : State) : Label → Bool
  | .redis i now outcome => (s.clients[i]?).all fun client =>
      match client.stage with
      | .incrementing =>
        if (Redis.live now (Redis.find s.redis client.call.key)).isNone then
          !outcome.executed || outcome = .answers
        else outcome ≠ .answers || s.clients.all fun other => !other.isExpiring client.call.key
      | .expiring _ => outcome.executed
      | .returned _ | .zero | .stopped => true
  | .call .. | .delete _ => true

/-! ### The counters -/

section

variable {second i now : ℕ} {s s' : State} {client : Client} {outcome : Outcome} {key : Str}
  {current : ℕ}

/-- A counter has counted something. -/
def Counted (s : State) : Prop := ∀ key r, Redis.find s.redis key = some r → 1 ≤ r.value

/-- A call is about to give a counter a time to live that it has not. -/
def Covered (s : State) : Prop :=
  ∀ key r, Redis.find s.redis key = some r → r.expiresAt = none →
    ∃ client ∈ s.clients, client.isExpiring key = true

theorem hasTtl_of_live {r : Redis.Entry ℕ} (h : Redis.live now (Redis.find s.redis key) = some r) :
    hasTtl s now key = r.expiresAt.isSome := by
  rw [hasTtl, h]
  rfl

theorem hasTtl_of_not_live (h : Redis.live now (Redis.find s.redis key) = none) :
    hasTtl s now key = true := by
  rw [hasTtl, h]
  rfl

/-- A call that has come to an end is not resumed. -/
theorem resume_ne_returned (h : outcome ≠ .answers) (next : Stage) :
    outcome.resume next ≠ .returned current := by
  cases outcome with
  | answers => exact absurd rfl h
  | raises executed => intro hstage; cases hstage
  | stops executed => intro hstage; cases hstage

theorem after_stage (hclient : s.clients[i]? = some client) (redis : Redis.Db Str ℕ)
    (stage : Stage) :
    (s.after i now client redis stage).clients[i]? = some { client with stage } := by
  have hi : i < s.clients.length := (List.getElem?_eq_some_iff.mp hclient).1
  exact List.getElem?_set_self hi

/-- What a call does when the server replies. -/
theorem step_redis (hclient : s.clients[i]? = some client) (hclock : s.clock ≤ now) :
    step second s (.redis i now outcome) = match client.stage with
      | .incrementing => some (s.increment i now client outcome)
      | .expiring current => some (s.expire second i now client current outcome)
      | .returned _ | .zero | .stopped => none := by
  rw [step, hclient]
  exact if_neg (Nat.not_lt.mpr hclock)

/-- Without a call, or before the time of the last command, there is no command. -/
theorem step_redis_eq_some (h : step second s (.redis i now outcome) = some s') :
    ∃ client, s.clients[i]? = some client ∧ s.clock ≤ now ∧
      (client.stage = .incrementing ∧ s' = s.increment i now client outcome ∨
        ∃ current, client.stage = .expiring current ∧
          s' = s.expire second i now client current outcome) := by
  obtain ⟨client, hclient, hstep⟩ := Option.bind_eq_some_iff.mp h
  obtain ⟨hclock, hstep⟩ := Option.ite_none_left_eq_some.mp hstep
  refine ⟨client, hclient, Nat.not_lt.mp hclock, ?_⟩
  cases hstage : client.stage with
  | incrementing =>
    rw [hstage] at hstep
    exact .inl ⟨rfl, (Option.some.inj hstep).symm⟩
  | expiring current =>
    rw [hstage] at hstep
    exact .inr ⟨current, rfl, (Option.some.inj hstep).symm⟩
  | returned current => rw [hstage] at hstep; cases hstep
  | zero => rw [hstage] at hstep; cases hstep
  | stopped => rw [hstage] at hstep; cases hstep

theorem increment_of_none
    (h : Redis.incrby now client.call.amount (Redis.find s.redis client.call.key) = none) :
    s.increment i now client outcome = s.after i now client s.redis (outcome.resume .zero) := by
  rw [State.increment, h]

theorem increment_of_some {sum : Redis.Entry ℕ}
    (h : Redis.incrby now client.call.amount (Redis.find s.redis client.call.key) = some sum) :
    s.increment i now client outcome = s.after i now client
      (if outcome.executed then Redis.store s.redis client.call.key sum else s.redis)
      (outcome.resume
        (if sum.value = client.call.amount then .expiring sum.value
          else .returned sum.value)) := by
  rw [State.increment, h]

/-- Whatever the sum is, the call goes on from where the command returns to. -/
theorem exists_increment_eq (s : State) (i now : ℕ) (client : Client) (outcome : Outcome) :
    ∃ redis next, s.increment i now client outcome =
      s.after i now client redis (outcome.resume next) := by
  cases hsum : Redis.incrby now client.call.amount (Redis.find s.redis client.call.key) with
  | none => exact ⟨_, _, increment_of_none hsum⟩
  | some sum => exact ⟨_, _, increment_of_some hsum⟩

/-- The counter is new exactly if the sum is what has been added. -/
theorem incrby_eq_amount_iff (hcounted : Counted s) {amount : ℕ} {sum : Redis.Entry ℕ}
    (hsum : Redis.incrby now amount (Redis.find s.redis key) = some sum) :
    sum.value = amount ↔ Redis.live now (Redis.find s.redis key) = none := by
  cases hlive : Redis.live now (Redis.find s.redis key) with
  | none =>
    rw [Redis.incrby_of_not_live hlive hsum]
    exact iff_of_true rfl rfl
  | some r =>
    have hpos : 1 ≤ r.value := hcounted key r (Redis.eq_of_live hlive)
    rw [Redis.incrby_of_live hlive hsum]
    refine iff_of_false (fun hvalue => ?_) (by simp)
    dsimp only at hvalue
    omega

/-- An increment leaves the time to live as it was. -/
theorem hasTtl_store_incrby {r sum : Redis.Entry ℕ} {amount : ℕ} {redis : Redis.Db Str ℕ}
    (hlive : Redis.live now (Redis.find redis key) = some r)
    (hsum : Redis.incrby now amount (Redis.find redis key) = some sum) :
    (Redis.live now (Redis.find (Redis.store redis key sum) key)).all
      (fun r => r.expiresAt.isSome) = r.expiresAt.isSome := by
  have hstays : Redis.live now (some sum) = some sum := by
    rw [Redis.incrby_of_live hlive hsum]
    exact Redis.live_of_forall fun x hx => Redis.lt_of_live hlive x hx
  rw [Redis.find_store, if_pos rfl, hstays, Redis.incrby_of_live hlive hsum]
  rfl

theorem hasTtl_put_expire {ticks : ℕ} (redis : Redis.Db Str ℕ) :
    (Redis.live now (Redis.find (Redis.put redis key
      (Redis.expire now ticks (Redis.find redis key))) key)).all
        (fun r => r.expiresAt.isSome) = true := by
  rw [Redis.find_put, if_pos rfl, Option.all_eq_true]
  intro r hr
  obtain ⟨r', -, rfl⟩ := Option.map_eq_some_iff.mp (Redis.eq_of_live hr)
  rfl

theorem findsTtl_of_ne (h : outcome ≠ .answers) : findsTtl s (.redis i now outcome) = true := by
  cases outcome with
  | answers => exact absurd rfl h
  | raises executed => rfl
  | stops executed => rfl

/-- What the counter has that an answered increment comes to. -/
theorem findsTtl_answers (hclient : s.clients[i]? = some client)
    (hstage : client.stage = .incrementing) (hclock : s.clock ≤ now) {sum : Redis.Entry ℕ}
    (hsum : Redis.incrby now client.call.amount (Redis.find s.redis client.call.key) = some sum) :
    findsTtl s (.redis i now .answers) = hasTtl s now client.call.key := by
  have hlt : ¬ now < s.clock := Nat.not_lt.mpr hclock
  simp [findsTtl, hclient, hstage, hlt, hsum]

/-- What is asked of a step that is made. -/
theorem expires_of_step {redis : Redis.Db Str ℕ} {stage : Stage}
    (hclient : s.clients[i]? = some client)
    (hstep : step second s (.redis i now outcome) = some (s.after i now client redis stage)) :
    Expires second s (.redis i now outcome) ↔ ∀ current, stage = .returned current →
      (Redis.live now (Redis.find redis client.call.key)).all
        (fun r => r.expiresAt.isSome) = true := by
  constructor
  · rintro h current rfl
    exact h _ client.call current hstep (after_stage hclient redis _)
  · intro h s' call current hstep' hreturned
    obtain rfl := Option.some.inj (hstep.symm.trans hstep')
    have heq := Option.some.inj ((after_stage hclient redis stage).symm.trans hreturned)
    have hcall : client.call = call := congrArg Client.call heq
    rw [← hcall]
    exact h current (congrArg Client.stage heq)

/-- A step that is not made leaves nothing. -/
theorem expires_of_none (h : step second s (.redis i now outcome) = none) :
    Expires second s (.redis i now outcome) := by
  intro s' call current hstep
  rw [h] at hstep
  cases hstep

theorem expires_of_ne (h : outcome ≠ .answers) : Expires second s (.redis i now outcome) := by
  intro s' call current hstep
  obtain ⟨client, hclient, -, hmove⟩ := step_redis_eq_some hstep
  have hafter : ∃ redis next, s' = s.after i now client redis (outcome.resume next) := by
    rcases hmove with ⟨-, rfl⟩ | ⟨before, -, rfl⟩
    · exact exists_increment_eq s i now client outcome
    · exact ⟨_, _, rfl⟩
  obtain ⟨redis, next, rfl⟩ := hafter
  exact (expires_of_step hclient hstep).mpr
    (fun current hstage => absurd hstage (resume_ne_returned h next)) _ call current hstep

/-- An answered increment. -/
theorem expires_increment (hcounted : Counted s) (hclient : s.clients[i]? = some client)
    (hstage : client.stage = .incrementing) (hclock : s.clock ≤ now) :
    Expires second s (.redis i now .answers) ↔ findsTtl s (.redis i now .answers) = true := by
  have hstep : step second s (.redis i now .answers) =
      some (s.increment i now client .answers) := by
    rw [step_redis hclient hclock, hstage]
  cases hsum : Redis.incrby now client.call.amount (Redis.find s.redis client.call.key) with
  | none =>
    rw [increment_of_none hsum] at hstep
    refine iff_of_true ((expires_of_step hclient hstep).mpr ?_) ?_
    · intro current hreturned
      cases hreturned
    · simp [findsTtl, hclient, hsum]
  | some sum =>
    rw [increment_of_some hsum] at hstep
    rw [expires_of_step hclient hstep, findsTtl_answers hclient hstage hclock hsum]
    cases hlive : Redis.live now (Redis.find s.redis client.call.key) with
    | none =>
      -- the counter is new, and `EXPIRE` comes next
      rw [if_pos ((incrby_eq_amount_iff hcounted hsum).mpr hlive)]
      refine iff_of_true (fun current hreturned => ?_) (hasTtl_of_not_live hlive)
      cases hreturned
    | some r =>
      have hvalue : ¬ sum.value = client.call.amount := by
        rw [incrby_eq_amount_iff hcounted hsum, hlive]
        simp
      rw [if_neg hvalue, hasTtl_of_live hlive, ← hasTtl_store_incrby hlive hsum]
      exact ⟨fun h => h _ rfl, fun h _ _ => h⟩

/-- **One step** leaves a counter with a time to live exactly if it has found one. -/
theorem expires_iff (hcounted : Counted s) (a : Label) :
    Expires second s a ↔ findsTtl s a = true := by
  cases a with
  | call call cache => exact iff_of_true trivial rfl
  | delete key => exact iff_of_true trivial rfl
  | redis i now outcome =>
    by_cases houtcome : outcome = .answers
    swap
    · exact iff_of_true (expires_of_ne houtcome) (findsTtl_of_ne houtcome)
    subst houtcome
    cases hstep : step second s (.redis i now .answers) with
    | none =>
      refine iff_of_true (expires_of_none hstep) ?_
      rw [findsTtl, Option.all_eq_true]
      intro client hclient
      rcases Nat.lt_or_ge now s.clock with hlt | hclock
      · simp [hlt]
      · have hstage : client.stage ≠ .incrementing := by
          intro hstage
          rw [step_redis hclient hclock, hstage] at hstep
          cases hstep
        simp [hstage]
    | some s' =>
      obtain ⟨client, hclient, hclock, hmove⟩ := step_redis_eq_some hstep
      rcases hmove with ⟨hstage, -⟩ | ⟨current, hstage, rfl⟩
      · exact expires_increment hcounted hclient hstage hclock
      · refine iff_of_true ((expires_of_step hclient hstep).mpr fun _ _ => ?_) ?_
        · exact hasTtl_put_expire s.redis
        · simp [findsTtl, hclient, hstage]

/-! ### Runs -/

theorem one_le_incrby {amount : ℕ+} {sum : Redis.Entry ℕ}
    (hsum : Redis.incrby now amount (Redis.find s.redis key) = some sum) : 1 ≤ sum.value := by
  have hpos : 1 ≤ (amount : ℕ) := amount.pos
  cases hlive : Redis.live now (Redis.find s.redis key) with
  | none =>
    rw [Redis.incrby_of_not_live hlive hsum]
    exact hpos
  | some r =>
    rw [Redis.incrby_of_live hlive hsum]
    exact Nat.le_trans hpos (Nat.le_add_left _ _)

/-- A step changes one counter, if it changes any. -/
theorem find_increment_cases {key' : Str} {r : Redis.Entry ℕ}
    (h : Redis.find (s.increment i now client outcome).redis key' = some r) :
    Redis.find s.redis key' = some r ∨ outcome.executed = true ∧ key' = client.call.key ∧
      Redis.incrby now client.call.amount (Redis.find s.redis client.call.key) = some r := by
  cases hsum : Redis.incrby now client.call.amount (Redis.find s.redis client.call.key) with
  | none =>
    rw [increment_of_none hsum] at h
    exact .inl h
  | some sum =>
    rw [increment_of_some hsum] at h
    cases hexecuted : outcome.executed with
    | false =>
      rw [hexecuted] at h
      exact .inl h
    | true =>
      rw [hexecuted] at h
      have hfind : (if key' = client.call.key then some sum else Redis.find s.redis key') =
          some r := (Redis.find_store _ _ _ _).symm.trans h
      by_cases hkey : key' = client.call.key
      · rw [if_pos hkey] at hfind
        exact .inr ⟨rfl, hkey, hfind⟩
      · rw [if_neg hkey] at hfind
        exact .inl hfind

theorem find_expire_cases {key' : Str} {r : Redis.Entry ℕ}
    (h : Redis.find (s.expire second i now client current outcome).redis key' = some r) :
    (Redis.find s.redis key' = some r ∧ (outcome.executed = true → key' ≠ client.call.key)) ∨
      key' = client.call.key ∧ r.expiresAt.isSome = true ∧
        ∃ before, Redis.find s.redis key' = some before ∧ r.value = before.value := by
  rw [State.expire] at h
  cases hexecuted : outcome.executed with
  | false =>
    rw [hexecuted] at h
    exact .inl ⟨h, fun hfalse => by cases hfalse⟩
  | true =>
    rw [hexecuted] at h
    have hfind := (Redis.find_put _ _ _ _).symm.trans h
    by_cases hkey : key' = client.call.key
    · subst hkey
      rw [if_pos rfl] at hfind
      obtain ⟨before, hbefore, rfl⟩ := Option.map_eq_some_iff.mp hfind
      exact .inr ⟨rfl, rfl, before, Redis.eq_of_live hbefore, rfl⟩
    · rw [if_neg hkey] at hfind
      exact .inl ⟨hfind, fun _ => hkey⟩

theorem find_of_find_delete {redis : Redis.Db Str ℕ} {key' : Str} {r : Redis.Entry ℕ}
    (h : Redis.find (PyDict.delete redis key) key' = some r) :
    Redis.find redis key' = some r := by
  rw [Redis.find_delete] at h
  exact (Option.ite_none_left_eq_some.mp h).2

/-- **Counters have counted something**, whatever becomes of the commands. -/
theorem counted_step (hcounted : Counted s) {a : Label} (hstep : step second s a = some s') :
    Counted s' := by
  intro key' r hr
  cases a with
  | call call cache =>
    obtain rfl := Option.some.inj hstep
    exact hcounted key' r hr
  | delete key =>
    obtain rfl := Option.some.inj hstep
    exact hcounted key' r (find_of_find_delete hr)
  | redis i now outcome =>
    obtain ⟨client, -, -, hmove⟩ := step_redis_eq_some hstep
    rcases hmove with ⟨-, rfl⟩ | ⟨current, -, rfl⟩
    · rcases find_increment_cases hr with hold | ⟨-, -, hsum⟩
      · exact hcounted key' r hold
      · exact one_le_incrby hsum
    · rcases find_expire_cases hr with ⟨hold, -⟩ | ⟨-, -, before, hbefore, hvalue⟩
      · exact hcounted key' r hold
      · rw [hvalue]
        exact hcounted key' before hbefore

/-- A call that awaits `EXPIRE` goes on waiting while another moves. -/
theorem covered_after {redis : Redis.Db Str ℕ} {stage : Stage} {key' : Str}
    (hclient : s.clients[i]? = some client) (hother : client.isExpiring key' = false)
    (h : ∃ other ∈ s.clients, other.isExpiring key' = true) :
    ∃ other ∈ (s.after i now client redis stage).clients, other.isExpiring key' = true := by
  obtain ⟨other, hmem, hexpiring⟩ := h
  obtain ⟨j, hj⟩ := List.mem_iff_getElem?.mp hmem
  refine ⟨other, Processes.mem_set_of_ne hj ?_, hexpiring⟩
  rintro rfl
  rw [Option.some.inj (hclient.symm.trans hj), hexpiring] at hother
  cases hother

theorem isExpiring_of_incrementing (hstage : client.stage = .incrementing) (key : Str) :
    client.isExpiring key = false := by
  rw [Client.isExpiring, hstage]

/-- **A prompt step** leaves no counter without a time to live and without a call that is about to
give it one. -/
theorem covered_step (hcounted : Counted s) (hcovered : Covered s) {a : Label}
    (hprompt : prompt s a = true) (hstep : step second s a = some s') : Covered s' := by
  intro key' r hr hnone
  cases a with
  | call call cache =>
    obtain rfl := Option.some.inj hstep
    obtain ⟨client, hmem, hexpiring⟩ := hcovered key' r hr hnone
    exact ⟨client, List.mem_append_left _ hmem, hexpiring⟩
  | delete key =>
    obtain rfl := Option.some.inj hstep
    exact hcovered key' r (find_of_find_delete hr) hnone
  | redis i now outcome =>
    obtain ⟨client, hclient, hclock, hmove⟩ := step_redis_eq_some hstep
    rw [prompt, hclient, Option.all_some] at hprompt
    rcases hmove with ⟨hstage, rfl⟩ | ⟨current, hstage, rfl⟩
    · have hother : client.isExpiring key' = false := isExpiring_of_incrementing hstage key'
      rw [hstage] at hprompt
      rcases find_increment_cases hr with hold | ⟨hexecuted, rfl, hsum⟩
      · obtain ⟨redis, next, hafter⟩ := exists_increment_eq s i now client outcome
        rw [hafter]
        exact covered_after hclient hother (hcovered key' r hold hnone)
      · rw [increment_of_some hsum]
        cases hlive : Redis.live now (Redis.find s.redis client.call.key) with
        | none =>
          -- the counter is new: the call has its answer, and goes on to `EXPIRE`
          have hanswers : outcome = .answers := by
            simpa [hlive, hexecuted] using hprompt
          subst hanswers
          rw [if_pos ((incrby_eq_amount_iff hcounted hsum).mpr hlive)]
          refine ⟨_, Processes.mem_set_self hclient, ?_⟩
          simp [Client.isExpiring, Outcome.resume]
        | some old =>
          have hold : old.expiresAt = none := by
            rw [Redis.incrby_of_live hlive hsum] at hnone
            exact hnone
          exact covered_after hclient hother (hcovered _ old (Redis.eq_of_live hlive) hold)
    · rw [hstage] at hprompt
      rcases find_expire_cases hr with ⟨hold, hne⟩ | ⟨-, hsome, -⟩
      · refine covered_after hclient ?_ (hcovered key' r hold hnone)
        rw [Client.isExpiring, hstage]
        exact decide_eq_false fun hkey => hne hprompt hkey.symm
      · rw [hnone] at hsome
        cases hsome

/-- **Nothing comes between the two commands**: then an increment that is answered comes to a
counter with a time to live, or to none. -/
theorem findsTtl_of_prompt (hcovered : Covered s) {a : Label} (hprompt : prompt s a = true) :
    findsTtl s a = true := by
  cases a with
  | call call cache => rfl
  | delete key => rfl
  | redis i now outcome =>
    by_cases houtcome : outcome = .answers
    swap
    · exact findsTtl_of_ne houtcome
    subst houtcome
    rw [findsTtl, Option.all_eq_true]
    intro client hclient
    rw [prompt, hclient, Option.all_some] at hprompt
    by_cases hstage : client.stage = .incrementing
    swap
    · simp [hstage]
    rw [hstage] at hprompt
    have hfinds : hasTtl s now client.call.key = true := by
      cases hlive : Redis.live now (Redis.find s.redis client.call.key) with
      | none => exact hasTtl_of_not_live hlive
      | some r =>
        rw [hasTtl_of_live hlive]
        by_contra hnone
        rw [Bool.not_eq_true, Option.isSome_eq_false_iff, Option.isNone_iff_eq_none] at hnone
        obtain ⟨other, hmem, hexpiring⟩ := hcovered _ r (Redis.eq_of_live hlive) hnone
        rw [hlive] at hprompt
        have hall : ∀ x ∈ s.clients, x.isExpiring client.call.key = false := by
          simpa using hprompt
        rw [hall other hmem] at hexpiring
        cases hexpiring
    simp [hfinds]

theorem counted_start : Counted .start := fun _ _ h => by cases h

theorem covered_start : Covered .start := fun _ _ h => by cases h

/-- **Counters expire** exactly in the runs whose increments all come to a counter with a time to
live, or to none, and these are at least the runs in which nothing comes between the two
commands. -/
theorem counters_expire (second : ℕ) (as : List Label) :
    (Along (step second) (Expires second) .start as ↔
      Along (step second) (fun s a => findsTtl s a = true) .start as) ∧
    (Along (step second) (fun s a => prompt s a = true) .start as →
      Along (step second) (Expires second) .start as) := by
  have hiff : Along (step second) (Expires second) .start as ↔
      Along (step second) (fun s a => findsTtl s a = true) .start as :=
    along_iff_along (I := Counted) (fun s a hcounted => expires_iff hcounted a)
      (fun s a s' hcounted _ hstep => counted_step hcounted hstep) counted_start
  refine ⟨hiff, fun hprompt => hiff.mpr ?_⟩
  refine along_of_invariant (I := fun s => Counted s ∧ Covered s) ?_ ?_
    ⟨counted_start, covered_start⟩ hprompt
  · rintro s a s' ⟨hcounted, hcovered⟩ hprompt hstep
    exact ⟨counted_step hcounted hstep, covered_step hcounted hcovered hprompt hstep⟩
  · exact fun s a ⟨_, hcovered⟩ hprompt => findsTtl_of_prompt hcovered hprompt

theorem counters_expire_in_turn : Along (step 1) (Expires 1) .start
    [.call (.incrementUsage "a".toList "runs".toList 2) ⟨true, true⟩,
      .call (.incrementUsage "a".toList "runs".toList 2) ⟨true, true⟩,
      .redis 0 5 .answers, .redis 0 5 .answers, .redis 1 6 .answers] :=
  (counters_expire 1 _).2 (by decide)

/-- The first call is stopped after `INCRBY`, and the second is answered. -/
def unexpiredRun : List Label :=
  [.call (.incrementUsage "a".toList "runs".toList 2) ⟨true, true⟩,
    .call (.incrementUsage "a".toList "runs".toList 3) ⟨true, true⟩,
    .redis 0 5 .answers, .redis 0 5 (.stops false), .redis 1 6 .answers]

/-- **A counter that does not expire.** -/
theorem counter_without_ttl :
    ¬ Along (step 1) (Expires 1) .start unexpiredRun := by
  rw [along_iff_along (I := Counted) (fun s a hcounted => expires_iff hcounted a)
    (fun s a s' hcounted _ hstep => counted_step hcounted hstep) counted_start]
  decide

end

end UsageCounters

end OpenLangGraph
