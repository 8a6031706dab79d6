import Mathlib.Data.Int.Notation
import Mathlib.Data.Nat.Notation
import Mathlib.Tactic.Basic

/-!
# Retrying an operation

`retry_async` of `core/resilience.py`, for an operation on any state: it is tried again as long as
it raises an error that the caller calls retryable and attempts are left.

## The delay

Between two attempts the function sleeps for a while. How long does not matter here, but whether it
can be computed does: the base delay is a float and is multiplied by `2 ** (attempt - 1)`, and from
the attempt with the number 1025 on this power is too large for a float. The `OverflowError` then
takes the place of the error that was to be retried.

## Main definitions

* `RetryPolicy.attempts`, `retryAsync`
* `Tried` — the attempts that are made, each with the state it starts from

## Main results

* `Tried.invariant` — the invariant rule for the states from which attempts are made
* `retryAsync_of_tried` — the call goes on from any attempt made as if it started there
* `endsWith_retryAsync` — what a call ends with
-/

namespace OpenLangGraph

/-- `RetryPolicy`, less the three numbers that say how long to sleep. -/
structure RetryPolicy where
  maxAttempts : ℤ

/-- `max(1, policy.max_attempts)` -/
def RetryPolicy.attempts (policy : RetryPolicy) : ℕ := max 1 policy.maxAttempts.toNat

/-- `_compute_backoff_delay` raises `OverflowError`. -/
def delayOverflows (attempt : ℕ) : Bool := decide (1024 < attempt)

/-- What `retry_async` is called with, and the `OverflowError` of the delay. -/
structure Retrying (σ ε α : Type*) where
  operation : σ → Except ε α × σ
  policy : RetryPolicy
  isRetryable : ε → Bool
  overflowError : ε

namespace Retrying

variable {σ ε α : Type*} (R : Retrying σ ε α)

/-- The loop of `retry_async`, with `left` attempts after this one. -/
def retryFrom : ℕ → ℕ → σ → Except ε α × σ
  | 0, _, s => R.operation s
  | left + 1, attempt, s =>
    match R.operation s with
    | (.ok a, s') => (.ok a, s')
    | (.error e, s') =>
      if R.isRetryable e then
        if delayOverflows attempt then (.error R.overflowError, s')
        else retryFrom left (attempt + 1) s'
      else (.error e, s')

/-- `retry_async` -/
def retryAsync (s : σ) : Except ε α × σ := R.retryFrom (R.policy.attempts - 1) 1 s

/-- The attempt with this number is made, from this state. -/
inductive Tried (init : σ) : ℕ → σ → Prop
  | first : Tried init 1 init
  | again {k : ℕ} {s s' : σ} {e : ε} (tried : Tried init k s)
      (raised : R.operation s = (.error e, s')) (retryable : R.isRetryable e = true)
      (left : k < R.policy.attempts) (delay : delayOverflows k = false) : Tried init (k + 1) s'

variable {R} {init s s' : σ} {k : ℕ} {e : ε}

theorem one_le_attempts (policy : RetryPolicy) : 1 ≤ policy.attempts := Nat.le_max_left _ _

/-- **The invariant rule.** What holds at the first attempt, and after every attempt that is
followed by another, holds whenever an attempt is made. -/
theorem Tried.invariant {I : ℕ → σ → Prop} (hfirst : I 1 init)
    (hagain : ∀ k s s' e, R.Tried init k s → I k s → R.operation s = (.error e, s') →
      R.isRetryable e = true → I (k + 1) s')
    (h : R.Tried init k s) : I k s := by
  induction h with
  | first => exact hfirst
  | again htried hraised hretryable _ _ ih =>
    exact hagain _ _ _ _ htried ih hraised hretryable

/-! ### What a call does with an attempt -/

theorem retryFrom_ok {left attempt : ℕ} {a : α} (h : R.operation s = (.ok a, s')) :
    R.retryFrom left attempt s = (.ok a, s') := by
  cases left with
  | zero => exact h
  | succ left => rw [retryFrom, h]

theorem retryFrom_final {left attempt : ℕ} (h : R.operation s = (.error e, s'))
    (hfinal : R.isRetryable e = false ∨ left = 0) :
    R.retryFrom left attempt s = (.error e, s') := by
  cases left with
  | zero => exact h
  | succ left =>
    obtain hno | hzero := hfinal
    · rw [retryFrom, h]
      simp [hno]
    · cases hzero

theorem retryFrom_overflow {left attempt : ℕ} (h : R.operation s = (.error e, s'))
    (hretryable : R.isRetryable e = true) (hdelay : delayOverflows attempt = true) :
    R.retryFrom (left + 1) attempt s = (.error R.overflowError, s') := by
  rw [retryFrom, h]
  simp [hretryable, hdelay]

theorem retryFrom_again {left attempt : ℕ} (h : R.operation s = (.error e, s'))
    (hretryable : R.isRetryable e = true) (hdelay : delayOverflows attempt = false) :
    R.retryFrom (left + 1) attempt s = R.retryFrom left (attempt + 1) s' := by
  rw [retryFrom, h]
  simp [hretryable, hdelay]

/-- What every attempt makes grow has grown at the end of a call, from any attempt on. -/
theorem rel_retryFrom {Q : σ → σ → Prop} (hrefl : ∀ s, Q s s)
    (htrans : ∀ s t u, Q s t → Q t u → Q s u) (hgrow : ∀ s, Q s (R.operation s).2)
    (left attempt : ℕ) (s : σ) : Q (R.operation s).2 (R.retryFrom left attempt s).2 := by
  induction left generalizing attempt s with
  | zero => exact hrefl _
  | succ left ih =>
    rcases hop : R.operation s with ⟨e | a, s'⟩
    · cases hretryable : R.isRetryable e with
      | false =>
        rw [retryFrom_final hop (.inl hretryable)]
        exact hrefl s'
      | true =>
        cases hdelay : delayOverflows attempt with
        | true =>
          rw [retryFrom_overflow hop hretryable hdelay]
          exact hrefl s'
        | false =>
          rw [retryFrom_again hop hretryable hdelay]
          exact htrans _ _ _ (hgrow s') (ih (attempt + 1) s')
    · rw [retryFrom_ok hop]
      exact hrefl s'

/-- From an attempt that is made, the call goes on as if it started there. -/
theorem retryAsync_of_tried (h : R.Tried init k s) :
    R.retryAsync init = R.retryFrom (R.policy.attempts - k) k s := by
  induction h with
  | first => rfl
  | @again k s s' e _ hraised hretryable hleft hdelay ih =>
    have hsucc : R.policy.attempts - k = R.policy.attempts - (k + 1) + 1 := by omega
    rw [ih, hsucc, retryFrom_again hraised hretryable hdelay]

/-- What a call ends with: an attempt that returns, one that raises, or the delay after one. -/
inductive EndsWith (R : Retrying σ ε α) (init : σ) : Except ε α × σ → Prop
  | returned {k : ℕ} {s s' : σ} {a : α} (tried : R.Tried init k s)
      (returns : R.operation s = (.ok a, s')) : EndsWith R init (.ok a, s')
  | raised {k : ℕ} {s s' : σ} {e : ε} (tried : R.Tried init k s)
      (raises : R.operation s = (.error e, s')) : EndsWith R init (.error e, s')
  | overflowed {k : ℕ} {s s' : σ} {e : ε} (tried : R.Tried init k s)
      (raises : R.operation s = (.error e, s')) (retryable : R.isRetryable e = true)
      (left : k < R.policy.attempts) (delay : delayOverflows k = true) :
      EndsWith R init (.error R.overflowError, s')

theorem endsWith_retryFrom (left : ℕ) (h : R.Tried init k s)
    (hleft : k + left = R.policy.attempts) : R.EndsWith init (R.retryFrom left k s) := by
  induction left generalizing k s with
  | zero =>
    rcases hop : R.operation s with ⟨e | a, s'⟩
    · rw [retryFrom_final hop (.inr rfl)]
      exact .raised h hop
    · rw [retryFrom_ok hop]
      exact .returned h hop
  | succ left ih =>
    have hmore : k < R.policy.attempts := by omega
    rcases hop : R.operation s with ⟨e | a, s'⟩
    · cases hretryable : R.isRetryable e with
      | false =>
        rw [retryFrom_final hop (.inl hretryable)]
        exact .raised h hop
      | true =>
        cases hdelay : delayOverflows k with
        | true =>
          rw [retryFrom_overflow hop hretryable hdelay]
          exact .overflowed h hop hretryable hmore hdelay
        | false =>
          rw [retryFrom_again hop hretryable hdelay]
          exact ih (.again h hop hretryable hmore hdelay) (by omega)
    · rw [retryFrom_ok hop]
      exact .returned h hop

/-- **How a call ends.** -/
theorem endsWith_retryAsync (R : Retrying σ ε α) (init : σ) :
    R.EndsWith init (R.retryAsync init) := by
  have hone := one_le_attempts R.policy
  exact endsWith_retryFrom _ .first (by omega)

end Retrying

end OpenLangGraph
