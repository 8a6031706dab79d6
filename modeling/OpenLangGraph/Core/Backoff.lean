import Mathlib.Algebra.Order.Field.Rat
import Mathlib.Data.Seq.Defs
import Mathlib.Order.Bounds.Basic
import Mathlib.Order.Interval.Set.Defs
import Mathlib.Tactic.Linarith
import Mathlib.Tactic.Ring
import OpenLangGraph.Core.Retry

/-!
# The delays between attempts

`retry_async` of `core/resilience.py` once more, now with what it does between two attempts:
`on_retry` is called, and it sleeps. The delays are exact numbers here, so that no power of two is
too large for them.

## The outcomes

The operation is what it answers, one outcome for each call. The sequence may be finite, and then a
call for which there is no outcome does not end.

## Main definitions

* `BackoffPolicy`, `BackoffPolicy.computeBackoffDelay`
* `Backoff.retryAsync` — the calls, the result, and the delays
* `Backoff.EndsAt` — the outcomes that are not tried again

## Main results

* `computeBackoffDelay_le` — no delay is longer than the jitter allows
* `Backoff.retryAsync_spec` — the number of calls, the result, and the sleeps
* `Backoff.retryAsync_eq` — without an overflow, this is `Retrying.retryAsync`
-/

namespace OpenLangGraph

/-- `RetryPolicy` -/
structure BackoffPolicy extends RetryPolicy where
  baseDelay : ℚ
  maxDelay : ℚ
  jitter : ℚ

/-- What `random.random()` returns. -/
abbrev RandomDraw : Type := Set.Ico (0 : ℚ) 1

namespace BackoffPolicy

/-- `_compute_backoff_delay` -/
def computeBackoffDelay (policy : BackoffPolicy) (random : RandomDraw) (attempt : ℕ) : ℚ :=
  let delay := min policy.maxDelay (policy.baseDelay * 2 ^ (attempt - 1))
  if policy.jitter ≤ 0 then delay
  else
    let jitterWindow := delay * policy.jitter
    max 0 (delay - jitterWindow + random.val * jitterWindow * 2)

/-- No number of the policy that says how long to sleep is negative. -/
structure Nonneg (policy : BackoffPolicy) : Prop where
  baseDelay : 0 ≤ policy.baseDelay
  maxDelay : 0 ≤ policy.maxDelay
  jitter : 0 ≤ policy.jitter

variable {policy : BackoffPolicy}

/-- The delay before the jitter. -/
theorem Nonneg.delay (h : policy.Nonneg) (attempt : ℕ) :
    0 ≤ min policy.maxDelay (policy.baseDelay * 2 ^ (attempt - 1)) :=
  le_min h.maxDelay (mul_nonneg h.baseDelay (pow_nonneg zero_le_two _))

/-- **The bound on a delay.** -/
theorem computeBackoffDelay_le (h : policy.Nonneg) (random : RandomDraw) (attempt : ℕ) :
    policy.computeBackoffDelay random attempt ≤ policy.maxDelay * (1 + policy.jitter) := by
  have hdelay := h.delay attempt
  have hmax : min policy.maxDelay (policy.baseDelay * 2 ^ (attempt - 1)) ≤ policy.maxDelay :=
    min_le_left _ _
  rw [computeBackoffDelay]
  generalize min policy.maxDelay (policy.baseDelay * 2 ^ (attempt - 1)) = delay at hdelay hmax ⊢
  -- the jitter stretches the delay by at most its window
  have hstretch : delay * (1 + policy.jitter) ≤ policy.maxDelay * (1 + policy.jitter) :=
    mul_le_mul_of_nonneg_right hmax (by linarith [h.jitter])
  have hwindow : 0 ≤ delay * policy.jitter := mul_nonneg hdelay h.jitter
  dsimp only
  split
  · linarith
  · refine max_le (by linarith) ?_
    have hdraw : random.val * (delay * policy.jitter) ≤ 1 * (delay * policy.jitter) :=
      mul_le_mul_of_nonneg_right random.property.2.le hwindow
    linarith

end BackoffPolicy

/-- What a call of `retry_async` does. -/
structure RetryRun (ε α : Type*) where
  /-- how often the operation is called -/
  calls : ℕ
  /-- `none` if the last call of the operation does not end -/
  result : Option (Except ε α)
  /-- what `on_retry` is called with -/
  retries : List (ε × ℕ × ℚ)
  /-- what `sleep` is called with -/
  sleeps : List ℚ

namespace RetryRun

variable {ε α : Type*}

/-- The attempt is the last one. -/
def stopped (attempt : ℕ) (result : Option (Except ε α)) : RetryRun ε α := ⟨attempt, result, [], []⟩

/-- The attempt has failed, and the run goes on after the delay. -/
def after (exc : ε) (attempt : ℕ) (delay : ℚ) (run : RetryRun ε α) : RetryRun ε α :=
  { run with retries := (exc, attempt, delay) :: run.retries, sleeps := delay :: run.sleeps }

end RetryRun

/-- What `retry_async` is called with, what the operation answers, and what is drawn at random after
each attempt. -/
structure Backoff (ε α : Type*) where
  policy : BackoffPolicy
  isRetryable : ε → Bool
  outcomes : Stream'.Seq (Except ε α)
  random : ℕ → RandomDraw

namespace Backoff

variable {ε α : Type*} (B : Backoff ε α)

/-- The answer to the call with this number, counted from one. -/
def outcome (attempt : ℕ) : Option (Except ε α) := B.outcomes.get? (attempt - 1)

/-- The delay after this attempt. -/
def delay (attempt : ℕ) : ℚ := B.policy.computeBackoffDelay (B.random attempt) attempt

/-- The loop of `retry_async`, with `left` attempts after this one. -/
def retryFrom : ℕ → ℕ → RetryRun ε α
  | 0, attempt => .stopped attempt (B.outcome attempt)
  | left + 1, attempt =>
    match B.outcome attempt with
    | some (.error exc) =>
      if B.isRetryable exc then
        (retryFrom left (attempt + 1)).after exc attempt (B.delay attempt)
      else .stopped attempt (some (.error exc))
    | answer => .stopped attempt answer

/-- `retry_async` -/
def retryAsync : RetryRun ε α := B.retryFrom (B.policy.attempts - 1) 1

/-- The call with this number succeeds, or fails with what is not to be tried again. -/
def EndsAt (attempt : ℕ) : Prop :=
  (∃ a, B.outcome attempt = some (.ok a)) ∨
    ∃ exc, B.outcome attempt = some (.error exc) ∧ B.isRetryable exc = false

/-- The calls after which there is none: they end the loop, or are the last of the policy. -/
def lastCalls : Set ℕ := {n | 1 ≤ n ∧ (B.EndsAt n ∨ n = B.policy.attempts)}

variable {B} {left attempt k : ℕ} {exc : ε} {outcome : Except ε α}

/-! ### What a call does with an attempt -/

theorem retryFrom_of_endsAt (left : ℕ) (h : B.EndsAt attempt) :
    B.retryFrom left attempt = .stopped attempt (B.outcome attempt) := by
  cases left with
  | zero => rfl
  | succ left =>
    rw [retryFrom]
    rcases h with ⟨a, hok⟩ | ⟨exc, herror, hfinal⟩
    · rw [hok]
    · rw [herror]
      simp [hfinal]

theorem retryFrom_again (left : ℕ) (hraised : B.outcome attempt = some (.error exc))
    (hretryable : B.isRetryable exc = true) :
    B.retryFrom (left + 1) attempt =
      (B.retryFrom left (attempt + 1)).after exc attempt (B.delay attempt) := by
  rw [retryFrom, hraised]
  simp [hretryable]

/-- What does not end the loop is a failure that is to be tried again. -/
theorem exists_retryable_of_not_endsAt (houtcome : B.outcome attempt = some outcome)
    (h : ¬ B.EndsAt attempt) :
    ∃ exc, B.outcome attempt = some (.error exc) ∧ B.isRetryable exc = true := by
  cases outcome with
  | ok a => exact absurd (.inl ⟨a, houtcome⟩) h
  | error exc =>
    refine ⟨exc, houtcome, ?_⟩
    by_contra hfinal
    exact h (.inr ⟨exc, houtcome, by simpa using hfinal⟩)

/-- Before an outcome there are outcomes. -/
theorem exists_outcome_of_le (houtcome : B.outcome k = some outcome) (h : attempt ≤ k) :
    ∃ earlier, B.outcome attempt = some earlier :=
  B.outcomes.ge_stable (Nat.sub_le_sub_right h 1) houtcome

/-! ### Whole calls -/

/-- A run from the attempt `first` on that ends with the call `k`. -/
structure ReachesFrom (B : Backoff ε α) (first k : ℕ) (outcome : Except ε α)
    (run : RetryRun ε α) : Prop where
  calls : run.calls = k
  result : run.result = some outcome
  sleeps : run.sleeps = (List.range' first (k - first)).map B.delay

/-- The induction is on the attempts that are left. -/
theorem reachesFrom_retryFrom (hk : B.EndsAt k ∨ k = B.policy.attempts)
    (houtcome : B.outcome k = some outcome) (hleft : attempt + left = B.policy.attempts)
    (hattempt : attempt ≤ k) (hlast : k ≤ B.policy.attempts)
    (hbefore : ∀ n, attempt ≤ n → n < k → ¬ B.EndsAt n) :
    B.ReachesFrom attempt k outcome (B.retryFrom left attempt) := by
  induction left generalizing attempt with
  | zero =>
    obtain rfl : attempt = k := by omega
    exact ⟨rfl, houtcome, by simp [retryFrom, RetryRun.stopped]⟩
  | succ left ih =>
    rcases hattempt.eq_or_lt with rfl | hlt
    · have hends : B.EndsAt attempt := hk.resolve_right (by omega)
      rw [retryFrom_of_endsAt _ hends]
      exact ⟨rfl, houtcome, by simp [RetryRun.stopped]⟩
    · obtain ⟨earlier, hearlier⟩ := exists_outcome_of_le houtcome hattempt
      obtain ⟨exc, hraised, hretryable⟩ :=
        exists_retryable_of_not_endsAt hearlier (hbefore attempt le_rfl hlt)
      have hrest := ih (by omega) hlt fun n hn => hbefore n (by omega)
      rw [retryFrom_again _ hraised hretryable]
      refine ⟨hrest.calls, hrest.result, ?_⟩
      show B.delay attempt :: (B.retryFrom left (attempt + 1)).sleeps = _
      rw [hrest.sleeps, show k - attempt = k - (attempt + 1) + 1 by omega, List.range'_succ]
      rfl

theorem one_le_attempts (B : Backoff ε α) : 1 ≤ B.policy.attempts :=
  Retrying.one_le_attempts B.policy.toRetryPolicy

/-- There is always a last call. -/
theorem exists_isLeast_lastCalls (B : Backoff ε α) : ∃ k, IsLeast B.lastCalls k := by
  classical
  have hne : ∃ n, n ∈ B.lastCalls := ⟨_, B.one_le_attempts, .inr rfl⟩
  exact ⟨Nat.find hne, Nat.find_spec hne, fun n hn => Nat.find_min' hne hn⟩

theorem reachesFrom_retryAsync (hk : IsLeast B.lastCalls k)
    (houtcome : B.outcome k = some outcome) : B.ReachesFrom 1 k outcome B.retryAsync := by
  have hone := B.one_le_attempts
  have hlast : k ≤ B.policy.attempts := hk.2 ⟨hone, .inr rfl⟩
  refine reachesFrom_retryFrom hk.1.2 houtcome (by omega) hk.1.1 hlast fun n hn hlt hends => ?_
  exact absurd (hk.2 ⟨hn, .inl hends⟩) (by omega)

/-- **What a call does.** It calls the operation up to the first call that ends the loop, or as
often as the policy allows, passes its outcome on, and sleeps before every call but the first. -/
theorem retryAsync_spec (B : Backoff ε α) (hpolicy : B.policy.Nonneg) :
    ∃ k, IsLeast B.lastCalls k ∧ ∀ outcome, B.outcome k = some outcome →
      B.retryAsync.calls = k ∧ B.retryAsync.result = some outcome ∧
        B.retryAsync.sleeps.length = k - 1 ∧
        ∀ delay ∈ B.retryAsync.sleeps,
          delay ≤ B.policy.maxDelay * (1 + B.policy.jitter) := by
  obtain ⟨k, hk⟩ := B.exists_isLeast_lastCalls
  refine ⟨k, hk, fun outcome houtcome => ?_⟩
  have hrun := reachesFrom_retryAsync hk houtcome
  refine ⟨hrun.calls, hrun.result, ?_, fun delay hdelay => ?_⟩
  · rw [hrun.sleeps, List.length_map, List.length_range']
  · rw [hrun.sleeps] at hdelay
    obtain ⟨n, -, rfl⟩ := List.mem_map.mp hdelay
    exact BackoffPolicy.computeBackoffDelay_le hpolicy _ _

/-- Two failures and a success, with the policy of the defaults. -/
def twoFailures : Backoff String ℕ where
  policy := { maxAttempts := 3, baseDelay := 1 / 5, maxDelay := 2, jitter := 1 / 10 }
  isRetryable _ := true
  outcomes := Stream'.Seq.ofList [.error "down", .error "down", .ok 7]
  random _ := ⟨0, by simp⟩

theorem retryAsync_twoFailures :
    twoFailures.retryAsync.calls = 3 ∧ twoFailures.retryAsync.result = some (.ok 7) ∧
      twoFailures.retryAsync.sleeps.length = 2 ∧
      ∀ delay ∈ twoFailures.retryAsync.sleeps, delay ≤ 11 / 5 := by
  have hpolicy : twoFailures.policy.Nonneg :=
    ⟨by norm_num [twoFailures], by norm_num [twoFailures], by norm_num [twoFailures]⟩
  have hthird : 3 ∈ twoFailures.lastCalls := ⟨by omega, .inl (.inl ⟨7, rfl⟩)⟩
  have hfailure : ∀ n, twoFailures.outcome n = some (.error "down") → ¬ twoFailures.EndsAt n := by
    rintro n hdown (⟨a, hok⟩ | ⟨exc, -, hfinal⟩)
    · cases hdown.symm.trans hok
    · cases hfinal
  obtain ⟨k, hk, hrun⟩ := retryAsync_spec twoFailures hpolicy
  have hle : k ≤ 3 := hk.2 hthird
  have hends : twoFailures.EndsAt k ∨ k = 3 := hk.1.2
  have hone : 1 ≤ k := hk.1.1
  obtain rfl | rfl | rfl : k = 1 ∨ k = 2 ∨ k = 3 := by omega
  · exact absurd (hends.resolve_right (by omega)) (hfailure 1 rfl)
  · exact absurd (hends.resolve_right (by omega)) (hfailure 2 rfl)
  · obtain ⟨hcalls, hresult, hlength, hbound⟩ := hrun (.ok 7) rfl
    refine ⟨hcalls, hresult, hlength, fun delay hdelay => (hbound delay hdelay).trans_eq ?_⟩
    norm_num [twoFailures]

/-! ### The model with a state -/

section

variable (policy : BackoffPolicy) (isRetryable : ε → Bool) (outcomes : ℕ → Except ε α)

/-- An operation that is called as often as the loop asks for. -/
def ofOutcomes (random : ℕ → RandomDraw) : Backoff ε α :=
  ⟨policy, isRetryable, Stream'.Seq.ofStream outcomes, random⟩

/-- The same operation with a state, the number of its calls. -/
def counted (overflowError : ε) : Retrying ℕ ε α where
  operation calls := (outcomes calls, calls + 1)
  policy := policy.toRetryPolicy
  isRetryable := isRetryable
  overflowError := overflowError

variable {policy isRetryable outcomes} (random : ℕ → RandomDraw) (overflowError : ε)

theorem outcome_ofOutcomes (calls : ℕ) :
    (ofOutcomes policy isRetryable outcomes random).outcome (calls + 1) =
      some (outcomes calls) := rfl

/-- Both loops, as long as no delay is too large. -/
theorem retryFrom_ofOutcomes (calls left : ℕ) (hleft : calls + left ≤ 1024) :
    let run := (ofOutcomes policy isRetryable outcomes random).retryFrom left (calls + 1)
    run.result.map (·, run.calls) =
      some ((counted policy isRetryable outcomes overflowError).retryFrom left (calls + 1)
        calls) := by
  induction left generalizing calls with
  | zero => rfl
  | succ left ih =>
    have houtcome : (ofOutcomes policy isRetryable outcomes random).outcome (calls + 1) =
        some (outcomes calls) := rfl
    have hoperation : (counted policy isRetryable outcomes overflowError).operation calls =
        (outcomes calls, calls + 1) := rfl
    rcases hanswer : outcomes calls with exc | a
    · rw [hanswer] at houtcome hoperation
      by_cases hretryable : isRetryable exc = true
      · have hdelay : delayOverflows (calls + 1) = false := decide_eq_false (by omega)
        rw [retryFrom_again _ houtcome hretryable,
          Retrying.retryFrom_again hoperation hretryable hdelay]
        exact ih (calls + 1) (by omega)
      · have hfinal : isRetryable exc = false := by simpa using hretryable
        rw [retryFrom_of_endsAt _ (.inr ⟨exc, houtcome, hfinal⟩), houtcome,
          Retrying.retryFrom_final hoperation (.inl hfinal)]
        rfl
    · rw [hanswer] at houtcome hoperation
      rw [retryFrom_of_endsAt _ (.inl ⟨a, houtcome⟩), houtcome, Retrying.retryFrom_ok hoperation]
      rfl

/-- **Both models agree** as long as the policy makes at most 1025 attempts. -/
theorem retryAsync_eq (hattempts : policy.attempts ≤ 1025) :
    (ofOutcomes policy isRetryable outcomes random).retryAsync.result.map
        (·, (ofOutcomes policy isRetryable outcomes random).retryAsync.calls) =
      some ((counted policy isRetryable outcomes overflowError).retryAsync 0) := by
  refine retryFrom_ofOutcomes random overflowError 0 _ ?_
  show 0 + (policy.attempts - 1) ≤ 1024
  omega

end

end Backoff

end OpenLangGraph
