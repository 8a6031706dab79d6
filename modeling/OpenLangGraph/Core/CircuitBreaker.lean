import OpenLangGraph.Foundation.Transition
import Mathlib.Data.Int.Notation

/-!
# The circuit breaker of outbound calls

A breaker counts the failures of the calls to one peer, and after enough of them denies further
calls for a while. `CircuitBreaker.allowRequest`, `recordSuccess` and `recordFailure` are its three
methods.

## What the methods do not know

A report does not say which call it is of. A call that was admitted while the breaker was closed
may report when it is open or half-open, and `recordSuccess` closes the breaker from every state.
A call that is cancelled does not report at all: its caller catches `Exception`, and a
cancellation is none. `BreakerTraffic` follows a breaker, the calls in flight and the clock, with
every order of checks, reports, cancellations and time steps.

## What is observed

Beside the breaker stand the time at which it last opened, the number of calls admitted since it
became half-open, and the time of the last admission or report. No step reads them.

## Main definitions

* `CircuitBreaker`, `CircuitBreaker.allowRequest`
* `BreakerTraffic`, `BreakerTraffic.step`
* `BreakerTraffic.Disciplined` — the law

## Main results

* `BreakerTraffic.disciplined_iff_along` — when a run keeps the law, exactly
* `BreakerTraffic.late_success_closes` — a late success closes an open breaker
* `BreakerTraffic.lost_probes_block` — after a cancelled probe nothing may be admitted any more
-/

namespace OpenLangGraph

open Transition

/-! ### The breaker -/

/-- `CircuitState`; `opened` is `OPEN`. -/
inductive CircuitState
  | closed
  | opened
  | halfOpen
  deriving DecidableEq

/-- The arguments of the constructor, clamped. Times are in units of the clock. -/
structure BreakerConfig where
  failureThreshold : ℤ
  resetTimeout : ℤ
  halfOpenMaxCalls : ℤ
  one_le_failureThreshold : 1 ≤ failureThreshold
  resetTimeout_nonneg : 0 ≤ resetTimeout
  one_le_halfOpenMaxCalls : 1 ≤ halfOpenMaxCalls

def BreakerConfig.ofArguments (failureThreshold resetTimeout halfOpenMaxCalls : ℤ) :
    BreakerConfig where
  failureThreshold := max 1 failureThreshold
  resetTimeout := max 0 resetTimeout
  halfOpenMaxCalls := max 1 halfOpenMaxCalls
  one_le_failureThreshold := by omega
  resetTimeout_nonneg := by omega
  one_le_halfOpenMaxCalls := by omega

structure CircuitBreaker where
  state : CircuitState
  failureCount : ℤ
  openedAt : Option ℤ
  halfOpenCalls : ℤ
  deriving DecidableEq

namespace CircuitBreaker

def init : CircuitBreaker := ⟨.closed, 0, none, 0⟩

/-- The first half of `allow_request`: an open breaker whose timeout has elapsed becomes
half-open. -/
def reset (config : BreakerConfig) (now : ℤ) (b : CircuitBreaker) : CircuitBreaker :=
  match b.state, b.openedAt with
  | .opened, some openedAt =>
    if now - openedAt ≥ config.resetTimeout then
      { b with state := .halfOpen, halfOpenCalls := 0 }
    else b
  | _, _ => b

/-- `allow_request`, with the breaker that it leaves. -/
def allowRequest (config : BreakerConfig) (now : ℤ) (b : CircuitBreaker) : CircuitBreaker × Bool :=
  let b := b.reset config now
  match b.state with
  | .opened => (b, false)
  | .halfOpen =>
    if b.halfOpenCalls ≥ config.halfOpenMaxCalls then (b, false)
    else ({ b with halfOpenCalls := b.halfOpenCalls + 1 }, true)
  | .closed => (b, true)

/-- `record_success`. -/
def recordSuccess (b : CircuitBreaker) : CircuitBreaker :=
  match b.state with
  | .opened | .halfOpen => ⟨.closed, 0, none, 0⟩
  | .closed => { b with failureCount := 0 }

/-- `record_failure`. -/
def recordFailure (config : BreakerConfig) (now : ℤ) (b : CircuitBreaker) : CircuitBreaker :=
  if b.state = .halfOpen then
    { b with state := .opened, openedAt := some now, failureCount := config.failureThreshold }
  else if b.failureCount + 1 ≥ config.failureThreshold then
    { b with state := .opened, openedAt := some now, failureCount := b.failureCount + 1 }
  else { b with failureCount := b.failureCount + 1 }

variable {config : BreakerConfig} {b : CircuitBreaker} {now openedAt : ℤ}

/-- The check admits the call. -/
def admits (config : BreakerConfig) (now : ℤ) (b : CircuitBreaker) : Bool :=
  (b.allowRequest config now).2

@[simp] theorem recordSuccess_state : b.recordSuccess.state = .closed := by
  rcases b with ⟨_ | _ | _, _, _, _⟩ <;> rfl

theorem allowRequest_closed (h : b.state = .closed) : b.allowRequest config now = (b, true) := by
  simp [allowRequest, reset, h]

theorem allowRequest_early (h : b.state = .opened) (ho : b.openedAt = some openedAt)
    (hnow : now - openedAt < config.resetTimeout) : b.allowRequest config now = (b, false) := by
  have hlate : ¬ now - openedAt ≥ config.resetTimeout := by omega
  simp [allowRequest, reset, h, ho, hlate]

/-- The first probe: there is room for at least one. -/
theorem allowRequest_elapsed (h : b.state = .opened) (ho : b.openedAt = some openedAt)
    (hnow : config.resetTimeout ≤ now - openedAt) :
    b.allowRequest config now = ({ b with state := .halfOpen, halfOpenCalls := 1 }, true) := by
  have hroom := config.one_le_halfOpenMaxCalls
  have hfull : ¬ 0 ≥ config.halfOpenMaxCalls := by omega
  simp [allowRequest, reset, h, ho, hnow, hfull]

theorem allowRequest_full (h : b.state = .halfOpen)
    (hfull : config.halfOpenMaxCalls ≤ b.halfOpenCalls) :
    b.allowRequest config now = (b, false) := by
  simp [allowRequest, reset, h, hfull]

theorem allowRequest_probe (h : b.state = .halfOpen)
    (hroom : b.halfOpenCalls < config.halfOpenMaxCalls) :
    b.allowRequest config now = ({ b with halfOpenCalls := b.halfOpenCalls + 1 }, true) := by
  have hfull : ¬ b.halfOpenCalls ≥ config.halfOpenMaxCalls := by omega
  simp [allowRequest, reset, h, hfull]

end CircuitBreaker

/-! ### A breaker among its calls -/

inductive BreakerLabel
  /-- time passes -/
  | tick (elapsed : ℕ)
  /-- a caller asks `allow_request`, and goes on to its call if it is admitted -/
  | check
  /-- a call in flight reports -/
  | succeed
  | fail
  /-- a call in flight is cancelled: nothing is reported -/
  | cancel

/-- A breaker, the clock and the number of calls in flight; with the time at which the breaker last
opened, the number of calls admitted since it last became half-open, and the time of the last
admission or report. -/
structure BreakerTraffic where
  breaker : CircuitBreaker
  clock : ℤ
  inFlight : ℕ
  opened : Option ℤ
  probes : ℤ
  quietSince : Option ℤ
  deriving DecidableEq

namespace BreakerTraffic

/-- A new breaker. -/
def idle (clock : ℤ) : BreakerTraffic := ⟨.init, clock, 0, none, 0, none⟩

/-- The calls admitted since the breaker became half-open, after one more. -/
def countProbe (s : BreakerTraffic) : ℤ :=
  match s.breaker.state with
  | .closed => s.probes
  | .opened => 1
  | .halfOpen => s.probes + 1

/-- The breaker after a report, and what is observed of it. -/
def report (s : BreakerTraffic) (breaker : CircuitBreaker) : BreakerTraffic :=
  { s with
    breaker
    inFlight := s.inFlight - 1
    opened :=
      if s.breaker.state ≠ .opened ∧ breaker.state = .opened then some s.clock else s.opened
    quietSince := some s.clock }

def step (config : BreakerConfig) (s : BreakerTraffic) : BreakerLabel → Option BreakerTraffic
  | .tick elapsed => some { s with clock := s.clock + elapsed }
  | .check => match s.breaker.allowRequest config s.clock with
    | (breaker, true) => some
      { s with
        breaker
        inFlight := s.inFlight + 1
        probes := s.countProbe
        quietSince := some s.clock }
    | (breaker, false) => some { s with breaker }
  | .succeed => if s.inFlight = 0 then none else some (s.report s.breaker.recordSuccess)
  | .fail =>
    if s.inFlight = 0 then none else some (s.report (s.breaker.recordFailure config s.clock))
  | .cancel => if s.inFlight = 0 then none else some { s with inFlight := s.inFlight - 1 }

/-! ### The law -/

/-- What callers may count on. -/
structure Disciplined (config : BreakerConfig) (s : BreakerTraffic) : Prop where
  /-- after it has opened, a breaker denies every call until the reset timeout has elapsed -/
  denies : ∀ t ∈ s.opened, s.clock - t < config.resetTimeout →
    s.breaker.admits config s.clock = false
  /-- a half-open breaker has not admitted more than the configured number of probes -/
  probes : s.breaker.state = .halfOpen → s.probes ≤ config.halfOpenMaxCalls
  /-- once the reset timeout has elapsed since the last admission, without a report, some next call
  is admitted -/
  admits : ∀ t ∈ s.quietSince, config.resetTimeout ≤ s.clock - t →
    ∃ later, s.clock ≤ later ∧ s.breaker.admits config later = true

/-! ### When it is kept -/

/-- A success is not reported to a breaker that is open until the reset timeout has elapsed since
it opened; and a half-open breaker that has admitted its last probe gets some report before the
reset timeout has elapsed, for which that timeout cannot be zero. -/
def isTimely (config : BreakerConfig) (s : BreakerTraffic) : BreakerLabel → Bool
  | .tick elapsed =>
    s.breaker.state ≠ .halfOpen || s.breaker.halfOpenCalls < config.halfOpenMaxCalls ||
      s.quietSince.all fun t => s.clock + elapsed - t < config.resetTimeout
  | .check =>
    0 < config.resetTimeout || match s.breaker.state with
      | .closed => true
      | .opened => 1 < config.halfOpenMaxCalls
      | .halfOpen => s.breaker.halfOpenCalls + 1 < config.halfOpenMaxCalls
  | .succeed =>
    s.breaker.state ≠ .opened || s.opened.all fun t => config.resetTimeout ≤ s.clock - t
  | .fail | .cancel => true

/-- What the fields of a breaker say of its past. -/
structure Coherent (config : BreakerConfig) (s : BreakerTraffic) : Prop where
  opened : s.breaker.state = .opened → ∃ t openedAt quiet, s.opened = some t ∧
    s.breaker.openedAt = some openedAt ∧ s.quietSince = some quiet ∧ t ≤ openedAt ∧
    openedAt ≤ quiet ∧ quiet ≤ s.clock
  halfOpen : s.breaker.state = .halfOpen → s.probes = s.breaker.halfOpenCalls ∧
    s.breaker.halfOpenCalls ≤ config.halfOpenMaxCalls ∧
    (∀ t ∈ s.opened, config.resetTimeout ≤ s.clock - t) ∧
    ∃ quiet, s.quietSince = some quiet ∧ quiet ≤ s.clock

variable {config : BreakerConfig} {s s' : BreakerTraffic} {a : BreakerLabel}

theorem coherent_idle (clock : ℤ) : (idle clock).Coherent config :=
  ⟨fun h => (nomatch h), fun h => (nomatch h)⟩

theorem disciplined_idle (clock : ℤ) : (idle clock).Disciplined config :=
  ⟨fun _ h => (nomatch h), fun h => (nomatch h), fun _ h => (nomatch h)⟩

/-! ### What the law asks in each state -/

/-- A closed breaker admits every call. -/
theorem disciplined_iff_of_closed (h : s.breaker.state = .closed) :
    s.Disciplined config ↔ ∀ t ∈ s.opened, config.resetTimeout ≤ s.clock - t := by
  have hadmits (now : ℤ) : s.breaker.admits config now = true :=
    congrArg Prod.snd (CircuitBreaker.allowRequest_closed h)
  constructor
  · intro hs t ht
    by_contra hlt
    have hdenied := hs.denies t ht (by omega)
    rw [hadmits] at hdenied
    exact Bool.noConfusion hdenied
  · intro hle
    refine ⟨fun t ht hlt => ?_, fun hhalf => ?_, fun t _ _ => ⟨s.clock, by omega, hadmits _⟩⟩
    · have := hle t ht
      omega
    · rw [h] at hhalf
      exact CircuitState.noConfusion hhalf

/-- An open breaker is always in order. -/
theorem disciplined_of_opened (hs : s.Coherent config) (h : s.breaker.state = .opened) :
    s.Disciplined config := by
  obtain ⟨t, openedAt, quiet, ht, ho, hq, hto, hoq, hqc⟩ := hs.opened h
  refine ⟨fun u hu hlt => ?_, fun hhalf => ?_, fun u hu hle => ⟨s.clock, by omega, ?_⟩⟩
  · obtain rfl : u = t := Option.some.inj (hu.symm.trans ht)
    exact congrArg Prod.snd (CircuitBreaker.allowRequest_early h ho (by omega))
  · rw [h] at hhalf
    exact CircuitState.noConfusion hhalf
  · obtain rfl : u = quiet := Option.some.inj (hu.symm.trans hq)
    exact congrArg Prod.snd (CircuitBreaker.allowRequest_elapsed h ho (by omega))

/-- A half-open breaker is in order as long as there is room, or a report may still come. -/
theorem disciplined_iff_of_halfOpen (hs : s.Coherent config) (h : s.breaker.state = .halfOpen) :
    s.Disciplined config ↔ s.breaker.halfOpenCalls < config.halfOpenMaxCalls ∨
      ∀ t ∈ s.quietSince, s.clock - t < config.resetTimeout := by
  obtain ⟨hprobes, hmax, hopened, -⟩ := hs.halfOpen h
  constructor
  · intro hd
    by_cases hroom : s.breaker.halfOpenCalls < config.halfOpenMaxCalls
    · exact .inl hroom
    · refine .inr fun t ht => ?_
      by_contra hle
      obtain ⟨later, -, hlater⟩ := hd.admits t ht (by omega)
      have hfull : s.breaker.admits config later = false :=
        congrArg Prod.snd (CircuitBreaker.allowRequest_full h (by omega))
      exact Bool.noConfusion (hfull.symm.trans hlater)
  · intro hroom
    refine ⟨fun t ht hlt => ?_, fun _ => by omega, fun t ht hle => ?_⟩
    · have := hopened t ht
      omega
    · rcases hroom with hroom | hquiet
      · exact ⟨s.clock, by omega, congrArg Prod.snd (CircuitBreaker.allowRequest_probe h hroom)⟩
      · have := hquiet t ht
        omega

/-! ### What a step does -/

theorem step_check_closed (h : s.breaker.state = .closed) :
    s.step config .check =
      some { s with inFlight := s.inFlight + 1, quietSince := some s.clock } := by
  simp [step, CircuitBreaker.allowRequest_closed h, countProbe, h]

theorem step_check_early {openedAt : ℤ} (h : s.breaker.state = .opened)
    (ho : s.breaker.openedAt = some openedAt) (hnow : s.clock - openedAt < config.resetTimeout) :
    s.step config .check = some s := by
  simp [step, CircuitBreaker.allowRequest_early h ho hnow]

theorem step_check_elapsed {openedAt : ℤ} (h : s.breaker.state = .opened)
    (ho : s.breaker.openedAt = some openedAt) (hnow : config.resetTimeout ≤ s.clock - openedAt) :
    s.step config .check = some
      { s with
        breaker := { s.breaker with state := .halfOpen, halfOpenCalls := 1 }
        inFlight := s.inFlight + 1
        probes := 1
        quietSince := some s.clock } := by
  simp [step, CircuitBreaker.allowRequest_elapsed h ho hnow, countProbe, h]

theorem step_check_full (h : s.breaker.state = .halfOpen)
    (hfull : config.halfOpenMaxCalls ≤ s.breaker.halfOpenCalls) :
    s.step config .check = some s := by
  simp [step, CircuitBreaker.allowRequest_full h hfull]

theorem step_check_probe (h : s.breaker.state = .halfOpen)
    (hroom : s.breaker.halfOpenCalls < config.halfOpenMaxCalls) :
    s.step config .check = some
      { s with
        breaker := { s.breaker with halfOpenCalls := s.breaker.halfOpenCalls + 1 }
        inFlight := s.inFlight + 1
        probes := s.probes + 1
        quietSince := some s.clock } := by
  simp [step, CircuitBreaker.allowRequest_probe h hroom, countProbe, h]

/-- A failure leaves the breaker open, at this moment or since an earlier one, or closed. -/
theorem recordFailure_cases (config : BreakerConfig) (now : ℤ) (b : CircuitBreaker) :
    ((b.recordFailure config now).state = .opened ∧
        (b.recordFailure config now).openedAt = some now) ∨
      (b.state ≠ .halfOpen ∧ (b.recordFailure config now).state = b.state ∧
        (b.recordFailure config now).openedAt = b.openedAt) := by
  rw [CircuitBreaker.recordFailure]
  split
  · exact .inl ⟨rfl, rfl⟩
  · split
    · exact .inl ⟨rfl, rfl⟩
    · exact .inr ⟨by assumption, rfl, rfl⟩

/-- After a failure the breaker is in order, and so is what is observed of it. -/
theorem coherent_report_failure (hs : s.Coherent config) :
    (s.report (s.breaker.recordFailure config s.clock)).Coherent config := by
  rcases recordFailure_cases config s.clock s.breaker with ⟨hstate, hat⟩ | ⟨hne, hstate, hat⟩
  · refine ⟨fun _ => ?_, fun h => ?_⟩
    · by_cases hopen : s.breaker.state = .opened
      · obtain ⟨t, openedAt, quiet, ht, -, -, hto, hoq, hqc⟩ := hs.opened hopen
        exact ⟨t, s.clock, s.clock, by simp [report, hopen, ht], hat, rfl, by omega, by omega,
          by simp [report]⟩
      · exact ⟨s.clock, s.clock, s.clock, by simp [report, hopen, hstate], hat, rfl, by omega,
          by omega, by simp [report]⟩
    · exact CircuitState.noConfusion (hstate.symm.trans h)
  · refine ⟨fun h => ?_, fun h => absurd (hstate.symm.trans h) hne⟩
    have hopen : s.breaker.state = .opened := hstate.symm.trans h
    obtain ⟨t, openedAt, quiet, ht, ho, -, hto, hoq, hqc⟩ := hs.opened hopen
    refine ⟨t, openedAt, s.clock, by simp [report, hopen, ht], hat.trans ho, rfl, hto, by omega, ?_⟩
    simp [report]

theorem coherent_step (hs : s.Coherent config) (h : s.step config a = some s') :
    s'.Coherent config := by
  cases a with
  | tick elapsed =>
    obtain rfl := Option.some.inj h
    refine ⟨fun hopen => ?_, fun hhalf => ?_⟩
    · obtain ⟨t, openedAt, quiet, ht, ho, hq, hto, hoq, hqc⟩ := hs.opened hopen
      exact ⟨t, openedAt, quiet, ht, ho, hq, hto, hoq, by simp only; omega⟩
    · obtain ⟨hprobes, hmax, hopened, quiet, hq, hqc⟩ := hs.halfOpen hhalf
      refine ⟨hprobes, hmax, fun t ht => ?_, quiet, hq, by simp only; omega⟩
      have := hopened t ht
      simp only
      omega
  | check =>
    cases hstate : s.breaker.state with
    | closed =>
      rw [step_check_closed hstate] at h
      obtain rfl := Option.some.inj h
      constructor <;> intro h <;> exact CircuitState.noConfusion (hstate.symm.trans h)
    | opened =>
      obtain ⟨t, openedAt, quiet, ht, ho, hq, hto, hoq, hqc⟩ := hs.opened hstate
      by_cases hnow : s.clock - openedAt < config.resetTimeout
      · rw [step_check_early hstate ho hnow] at h
        exact Option.some.inj h ▸ hs
      · rw [step_check_elapsed hstate ho (by omega)] at h
        obtain rfl := Option.some.inj h
        refine ⟨fun h => CircuitState.noConfusion h,
          fun _ => ⟨rfl, config.one_le_halfOpenMaxCalls, fun u hu => ?_, s.clock, rfl,
            by simp⟩⟩
        obtain rfl : u = t := Option.some.inj (hu.symm.trans ht)
        simp only
        omega
    | halfOpen =>
      obtain ⟨hprobes, hmax, hopened, hquiet⟩ := hs.halfOpen hstate
      by_cases hroom : s.breaker.halfOpenCalls < config.halfOpenMaxCalls
      · rw [step_check_probe hstate hroom] at h
        obtain rfl := Option.some.inj h
        refine ⟨fun h => CircuitState.noConfusion (hstate.symm.trans h),
          fun _ => ⟨by simp only; omega, by simp only; omega, hopened, s.clock, rfl,
            by simp⟩⟩
      · rw [step_check_full hstate (by omega)] at h
        exact Option.some.inj h ▸ hs
  | succeed =>
    obtain ⟨-, h⟩ := Option.ite_none_left_eq_some.mp h
    obtain rfl := Option.some.inj h
    constructor <;> intro h <;>
      exact CircuitState.noConfusion (CircuitBreaker.recordSuccess_state.symm.trans h)
  | fail =>
    obtain ⟨-, h⟩ := Option.ite_none_left_eq_some.mp h
    exact Option.some.inj h ▸ coherent_report_failure hs
  | cancel =>
    obtain ⟨-, h⟩ := Option.ite_none_left_eq_some.mp h
    exact Option.some.inj h ▸ ⟨hs.opened, hs.halfOpen⟩

/-! ### The law along a run -/

/-- A time step breaks the law only by running out of the time that a probe may take. -/
theorem disciplined_tick_iff {elapsed : ℕ} (hs : s.Coherent config) (hd : s.Disciplined config) :
    { s with clock := s.clock + elapsed }.Disciplined config ↔
      s.isTimely config (.tick elapsed) = true := by
  have hs' : { s with clock := s.clock + elapsed }.Coherent config :=
    coherent_step (a := .tick elapsed) hs rfl
  cases hstate : s.breaker.state with
  | closed =>
    have hle := (disciplined_iff_of_closed hstate).mp hd
    refine iff_of_true ((disciplined_iff_of_closed ?_).mpr fun t ht => ?_)
      (by simp [isTimely, hstate])
    · exact hstate
    · have := hle t ht
      simp only
      omega
  | opened =>
    exact iff_of_true (disciplined_of_opened hs' hstate) (by simp [isTimely, hstate])
  | halfOpen =>
    rw [disciplined_iff_of_halfOpen hs' hstate]
    simp [isTimely, hstate, Option.all_eq_true]

/-- A check breaks the law only if it admits the last probe and leaves no time for it. -/
theorem disciplined_check_iff (hs : s.Coherent config) (hd : s.Disciplined config)
    (h : s.step config .check = some s') :
    s'.Disciplined config ↔ s.isTimely config .check = true := by
  have hs' := coherent_step hs h
  cases hstate : s.breaker.state with
  | closed =>
    rw [step_check_closed hstate] at h
    obtain rfl := Option.some.inj h
    have hle := (disciplined_iff_of_closed hstate).mp hd
    refine iff_of_true ((disciplined_iff_of_closed ?_).mpr hle) (by simp [isTimely, hstate])
    exact hstate
  | opened =>
    obtain ⟨t, openedAt, quiet, ht, ho, hq, hto, hoq, hqc⟩ := hs.opened hstate
    by_cases hnow : s.clock - openedAt < config.resetTimeout
    · rw [step_check_early hstate ho hnow] at h
      have hpos : 0 < config.resetTimeout := by omega
      exact iff_of_true (Option.some.inj h ▸ hd) (by simp [isTimely, hpos])
    · rw [step_check_elapsed hstate ho (by omega)] at h
      obtain rfl := Option.some.inj h
      rw [disciplined_iff_of_halfOpen hs' rfl]
      simp [isTimely, hstate, or_comm]
  | halfOpen =>
    by_cases hroom : s.breaker.halfOpenCalls < config.halfOpenMaxCalls
    · rw [step_check_probe hstate hroom] at h
      obtain rfl := Option.some.inj h
      rw [disciplined_iff_of_halfOpen hs' hstate]
      simp [isTimely, hstate, or_comm]
    · -- nothing is admitted; that the law held says that there was time for a report
      rw [step_check_full hstate (by omega)] at h
      obtain ⟨-, -, -, quiet, hq, hqc⟩ := hs.halfOpen hstate
      have hquiet := ((disciplined_iff_of_halfOpen hs hstate).mp hd).resolve_left hroom quiet hq
      have hpos : 0 < config.resetTimeout := by omega
      exact iff_of_true (Option.some.inj h ▸ hd) (by simp [isTimely, hpos])

/-- A success closes the breaker, and breaks the law if it comes too early. -/
theorem disciplined_success_iff (hs : s.Coherent config) (hd : s.Disciplined config) :
    (s.report s.breaker.recordSuccess).Disciplined config ↔
      s.isTimely config .succeed = true := by
  have hopened : (s.report s.breaker.recordSuccess).opened = s.opened := by simp [report]
  rw [disciplined_iff_of_closed CircuitBreaker.recordSuccess_state, hopened]
  cases hstate : s.breaker.state with
  | closed =>
    rw [disciplined_iff_of_closed hstate] at hd
    exact iff_of_true hd (by simp [isTimely, hstate])
  | opened => simp [isTimely, hstate, report, Option.all_eq_true]
  | halfOpen => exact iff_of_true (hs.halfOpen hstate).2.2.1 (by simp [isTimely, hstate])

/-- A failure never breaks the law. -/
theorem disciplined_failure (hs : s.Coherent config) (hd : s.Disciplined config) :
    (s.report (s.breaker.recordFailure config s.clock)).Disciplined config := by
  have hs' := coherent_report_failure hs
  rcases recordFailure_cases config s.clock s.breaker with ⟨hstate, -⟩ | ⟨hne, hstate, -⟩
  · exact disciplined_of_opened hs' hstate
  · cases h : s.breaker.state with
    | closed =>
      have hclosed : (s.report (s.breaker.recordFailure config s.clock)).breaker.state = .closed :=
        hstate.trans h
      rw [disciplined_iff_of_closed h] at hd
      rw [disciplined_iff_of_closed hclosed]
      simpa [report, hstate, h] using hd
    | opened => exact disciplined_of_opened hs' (hstate.trans h)
    | halfOpen => exact absurd h hne

theorem disciplined_step_iff (hs : s.Coherent config) (hd : s.Disciplined config)
    (h : s.step config a = some s') : s'.Disciplined config ↔ s.isTimely config a = true := by
  cases a with
  | tick elapsed =>
    obtain rfl := Option.some.inj h
    exact disciplined_tick_iff hs hd
  | check => exact disciplined_check_iff hs hd h
  | succeed =>
    obtain ⟨-, h⟩ := Option.ite_none_left_eq_some.mp h
    exact Option.some.inj h ▸ disciplined_success_iff hs hd
  | fail =>
    obtain ⟨-, h⟩ := Option.ite_none_left_eq_some.mp h
    exact iff_of_true (Option.some.inj h ▸ disciplined_failure hs hd) rfl
  | cancel =>
    obtain ⟨-, h⟩ := Option.ite_none_left_eq_some.mp h
    exact iff_of_true (Option.some.inj h ▸ ⟨hd.denies, hd.probes, hd.admits⟩) rfl

/-- **The discipline of the breaker.** Whatever calls are admitted, report, and are cancelled, and
whenever: the law holds in every state of a run exactly if no success is reported to a breaker that
has just opened, and no last probe is left without a report. -/
theorem disciplined_iff_along (clock : ℤ) {as : List BreakerLabel} {t : BreakerTraffic}
    (h : exec (step config) (idle clock) as = some t) :
    (∀ pre u, pre <+: as → exec (step config) (idle clock) pre = some u → u.Disciplined config) ↔
      Along (step config) (fun s a => s.isTimely config a = true) (idle clock) as :=
  forall_prefix_iff_along (S := Coherent config) (fun _ _ _ hs h => coherent_step hs h)
    (fun _ _ _ hs hd h => disciplined_step_iff hs hd h) (coherent_idle clock)
    (disciplined_idle clock) h

/-- A breaker opens, and its first probe fails while the second one succeeds. -/
def twoProbes : List BreakerLabel :=
  [.check, .check, .fail, .fail, .check, .tick 30, .check, .fail, .tick 30, .check, .tick 29,
    .succeed, .check]

theorem disciplined_iff_along_twoProbes :
    ∃ t, exec (step (.ofArguments 1 30 1)) (idle 0) twoProbes = some t ∧
      t.Disciplined (.ofArguments 1 30 1) := by
  refine ⟨_, rfl, (disciplined_iff_along 0 rfl).mpr ?_ twoProbes _ List.prefix_rfl rfl⟩
  decide

/-- Two calls are in flight when one of them fails and opens the breaker. The other one succeeds,
and the next check is admitted although no time has passed. -/
theorem late_success_closes :
    ¬ ∀ (config : BreakerConfig) (clock : ℤ) (as : List BreakerLabel) (t : BreakerTraffic),
      exec (step config) (idle clock) as = some t → t.Disciplined config := by
  intro h
  have hd := h (.ofArguments 1 30 1) 0 [.check, .check, .fail, .succeed] _ rfl
  exact Bool.noConfusion (hd.denies 0 rfl (by decide))

/-- **Lost probes.** When all calls of a half-open breaker have been cancelled, and it has admitted
its last probe, it denies every call from then on. -/
theorem lost_probes_block {t : BreakerTraffic} {as : List BreakerLabel}
    (hstate : s.breaker.state = .halfOpen)
    (hfull : config.halfOpenMaxCalls ≤ s.breaker.halfOpenCalls) (hlost : s.inFlight = 0)
    (h : exec (step config) s as = some t) (later : ℤ) : t.breaker.admits config later = false := by
  have hstep (u : BreakerTraffic) (a : BreakerLabel) (u' : BreakerTraffic)
      (hu : u.breaker = s.breaker ∧ u.inFlight = 0) (_ : True) (h : u.step config a = some u') :
      u'.breaker = s.breaker ∧ u'.inFlight = 0 := by
    obtain ⟨hb, hlost⟩ := hu
    cases a with
    | tick elapsed => exact Option.some.inj h ▸ ⟨hb, hlost⟩
    | check =>
      rw [step_check_full (hb ▸ hstate) (hb ▸ hfull)] at h
      exact Option.some.inj h ▸ ⟨hb, hlost⟩
    | succeed => exact absurd hlost (Option.ite_none_left_eq_some.mp h).1
    | fail => exact absurd hlost (Option.ite_none_left_eq_some.mp h).1
    | cancel => exact absurd hlost (Option.ite_none_left_eq_some.mp h).1
  have hb := (exec_invariant hstep ⟨rfl, hlost⟩ (along_true s as) h).1
  exact hb ▸ congrArg Prod.snd (CircuitBreaker.allowRequest_full hstate hfull)

end BreakerTraffic

end OpenLangGraph
