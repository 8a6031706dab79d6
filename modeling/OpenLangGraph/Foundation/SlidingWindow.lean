import Mathlib.Data.List.Basic
import Mathlib.Order.Nat

/-!
# Limits for sliding windows

Which times may be admitted, if every interval of a length is to have at most so many of them,
wherever it begins. An interval has its first point and not its last one, so that a time and the one
a window later are never in the same.

The times need not be admitted in their order: a time that is admitted late must leave room for the
later ones that have been admitted before it. So `recent` counts these too.

## Main definitions

* `countIn`, `Limited`, `recent`

## Main results

* `Limited.cons` — one more time, if there is room
-/

namespace SlidingWindow

/-- How many of the times are from `x` on and before `x + window`. -/
def countIn (x window : ℕ) (times : List ℕ) : ℕ :=
  times.countP fun time => x ≤ time && time < x + window

/-- Every interval has at most so many of the times. -/
def Limited (limit window : ℕ) (times : List ℕ) : Prop := ∀ x, countIn x window times ≤ limit

/-- How many of the times are not over a window before `now`. -/
def recent (window now : ℕ) (times : List ℕ) : ℕ := times.countP fun time => now < time + window

variable {limit window now x : ℕ} {times : List ℕ}

theorem limited_nil (limit window : ℕ) : Limited limit window [] := fun _ => Nat.zero_le _

/-- An interval that `now` is in has recent times only. -/
theorem countIn_le_recent (h : now < x + window) :
    countIn x window times ≤ recent window now times := by
  refine List.countP_mono_left fun time _ hin => ?_
  simp only [Bool.and_eq_true, decide_eq_true_eq] at hin ⊢
  omega

/-- **One more time**, if less than the limit are recent. -/
theorem Limited.cons (h : Limited limit window times) (hroom : recent window now times < limit) :
    Limited limit window (now :: times) := by
  intro x
  rw [countIn, List.countP_cons]
  split
  · rename_i hin
    simp only [Bool.and_eq_true, decide_eq_true_eq] at hin
    have hrecent : countIn x window times ≤ recent window now times := countIn_le_recent hin.2
    rw [countIn] at hrecent
    omega
  · exact h x

end SlidingWindow
