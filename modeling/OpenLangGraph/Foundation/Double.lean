import Mathlib.Data.Nat.Log
import Mathlib.Data.Rat.Floor
import Mathlib.Tactic.FieldSimp
import Mathlib.Tactic.NormNum
import Mathlib.Tactic.Ring
import OpenLangGraph.Foundation.PyJson

/-!
# Floats and their digits

The finite floats are rational numbers. `PyFloat.ofRat` rounds to the nearest of them, which is what
reading a decimal does; `shortest` is the shortest decimal that is read as a given float, and of
these the closest, which is what `repr` writes.

A float with more than 17 digits in its shortest decimal does not exist. The search for the digits
does not rest on that: after 17 digits it goes over to the exact decimal, which every float has.

## Main definitions

* `PyFloat.ofRat`, `PyFloat.IsDouble`
* `PyDecimal.value`, `PyFloat.shortest`

## Main results

* `PyFloat.ofRat_value_shortest` — the digits of a float are read as this float
-/

/-- The closest integer; of two, the even one. -/
def roundHalfEven (q : ℚ) : ℤ :=
  if q - ⌊q⌋ < 1 / 2 ∨ (q - ⌊q⌋ = 1 / 2 ∧ ⌊q⌋ % 2 = 0) then ⌊q⌋ else ⌊q⌋ + 1

/-- The exponent of the largest power of `base` that is at most `q`, for a positive `q`. -/
def ratLog (base : ℕ) (q : ℚ) : ℤ :=
  let k : ℤ := Nat.log base q.num.natAbs - Nat.log base q.den
  if q < (base : ℚ) ^ k then k - 1 else k

/-! ### Decimals -/

namespace PyDecimal

/-- The number with these digits. -/
def value (x : PyDecimal) : ℚ :=
  (if x.negative then -1 else 1) * x.coefficient * 10 ^ x.exponent

/-- The coefficient without the zeros at its end. -/
def stripZeros (coefficient : ℕ) (exponent : ℤ) : ℕ × ℤ :=
  if h : coefficient ≠ 0 ∧ coefficient % 10 = 0 then
    stripZeros (coefficient / 10) (exponent + 1)
  else if coefficient = 0 then (0, 0)
  else (coefficient, exponent)
termination_by coefficient
decreasing_by omega

theorem shortest_stripZeros (coefficient : ℕ) (exponent : ℤ) :
    (stripZeros coefficient exponent).1 % 10 ≠ 0 ∨
      ((stripZeros coefficient exponent).1 = 0 ∧ (stripZeros coefficient exponent).2 = 0) := by
  fun_induction stripZeros coefficient exponent with
  | case1 _ _ _ ih => exact ih
  | case2 => exact .inr ⟨rfl, rfl⟩
  | case3 c _ h hne => exact .inl fun hzero => h ⟨hne, hzero⟩

theorem value_stripZeros (coefficient : ℕ) (exponent : ℤ) :
    ((stripZeros coefficient exponent).1 : ℚ) * 10 ^ (stripZeros coefficient exponent).2 =
      coefficient * 10 ^ exponent := by
  fun_induction stripZeros coefficient exponent with
  | case1 c e h ih =>
    have hten : (c : ℚ) = (c / 10 : ℕ) * 10 := by
      exact_mod_cast (Nat.div_mul_cancel (Nat.dvd_of_mod_eq_zero h.2)).symm
    rw [ih, zpow_add_one₀ (by norm_num), hten]
    ring
  | case2 => simp
  | case3 => rfl

/-- A decimal in its shortest form. -/
def ofDigits (negative : Bool) (coefficient : ℕ) (exponent : ℤ) : PyDecimal where
  negative := negative
  coefficient := (stripZeros coefficient exponent).1
  exponent := (stripZeros coefficient exponent).2
  shortest := shortest_stripZeros coefficient exponent

theorem value_ofDigits (negative : Bool) (coefficient : ℕ) (exponent : ℤ) :
    (ofDigits negative coefficient exponent).value =
      (if negative then -1 else 1) * coefficient * 10 ^ exponent := by
  rw [value, ofDigits, mul_assoc, value_stripZeros, ← mul_assoc]

end PyDecimal

/-! ### Rounding to a float -/

namespace PyFloat

/-- No float has more binary places. -/
def places : ℕ := 1074

/-- The distance between the floats around `q`, which have 53 digits. -/
def unit (q : ℚ) : ℚ := 2 ^ max (ratLog 2 |q| - 52) (-places)

/-- The float that is closest to `q`. -/
def ofRat (q : ℚ) : PyFloat :=
  if 2 ^ 1024 ≤ |roundHalfEven (q / unit q) * unit q| then .inf (decide (q < 0))
  else .finite (roundHalfEven (q / unit q) * unit q)

/-- A number that is a float. -/
def IsDouble (q : ℚ) : Prop := ofRat q = .finite q

instance (q : ℚ) : Decidable (IsDouble q) := inferInstanceAs (Decidable (_ = _))

/-- The decimals with so many digits on both sides of `q`, the closer one first. -/
def candidates (q : ℚ) (digits : ℕ) : List PyDecimal :=
  let exponent := ratLog 10 |q| + 1 - digits
  let near := roundHalfEven (|q| / 10 ^ exponent)
  let other := if near = ⌊|q| / 10 ^ exponent⌋ then near + 1 else near - 1
  [near, other].map fun n => .ofDigits (decide (q < 0)) n.natAbs exponent

/-- All digits of a float. -/
def exact (q : ℚ) : PyDecimal :=
  .ofDigits (decide (q < 0)) (q * 10 ^ places).num.natAbs (-places)

/-- The digits that `repr` writes. -/
def shortest (q : ℚ) : PyDecimal :=
  (((List.range' 1 17).flatMap (candidates q)).find? fun x =>
    ofRat x.value = .finite q).getD (exact q)

variable {q : ℚ}

/-- A float is a multiple of the least distance. -/
theorem exists_of_isDouble (h : IsDouble q) : ∃ n : ℤ, q * 2 ^ places = n := by
  rw [IsDouble, ofRat] at h
  split at h
  · cases h
  · have hq : roundHalfEven (q / unit q) * unit q = q := PyFloat.finite.inj h
    obtain ⟨k, hk⟩ : ∃ k : ℕ, max (ratLog 2 |q| - 52) (-places) = (k : ℤ) - places :=
      ⟨(max (ratLog 2 |q| - 52) (-places) + places).toNat, by omega⟩
    have hunit : unit q * 2 ^ places = 2 ^ k := by
      rw [unit, hk, zpow_sub₀ two_ne_zero, zpow_natCast, zpow_natCast]
      exact div_mul_cancel₀ _ (pow_ne_zero _ two_ne_zero)
    refine ⟨roundHalfEven (q / unit q) * 2 ^ k, ?_⟩
    calc q * 2 ^ places = roundHalfEven (q / unit q) * (unit q * 2 ^ places) := by
          rw [← mul_assoc, hq]
      _ = _ := by
          rw [hunit]
          push_cast
          rfl

theorem value_exact (h : IsDouble q) : (exact q).value = q := by
  obtain ⟨n, hn⟩ := exists_of_isDouble h
  have hten : q * 10 ^ places = ((n * 5 ^ places : ℤ) : ℚ) := by
    have hsplit : (10 : ℚ) = 2 * 5 := by norm_num
    rw [hsplit, mul_pow, ← mul_assoc, hn]
    push_cast
    rfl
  have hpow : (0 : ℚ) < 10 ^ places := pow_pos (by norm_num) _
  have hsign : (if decide (q < 0) = true then -1 else 1) * ((q * 10 ^ places).num.natAbs : ℚ) =
      q * 10 ^ places := by
    have habs : ((q * 10 ^ places).num.natAbs : ℚ) = |q * 10 ^ places| := by
      rw [hten, Rat.num_intCast, Nat.cast_natAbs, Int.cast_abs]
    rw [habs, abs_mul, abs_of_pos hpow]
    by_cases hneg : q < 0
    · simp [hneg, abs_of_neg hneg]
    · simp [hneg, abs_of_nonneg (not_lt.mp hneg)]
  rw [exact, PyDecimal.value_ofDigits, hsign, zpow_neg, zpow_natCast]
  exact mul_inv_cancel_right₀ hpow.ne' q

/-- **The digits of a float** are read as this float. -/
theorem ofRat_value_shortest (h : IsDouble q) : ofRat (shortest q).value = .finite q := by
  rw [shortest]
  cases hfind : ((List.range' 1 17).flatMap (candidates q)).find? fun x =>
      decide (ofRat x.value = .finite q) with
  | none =>
    rw [Option.getD_none, value_exact h]
    exact h
  | some x =>
    have hx := List.find?_some hfind
    exact of_decide_eq_true hx

end PyFloat
