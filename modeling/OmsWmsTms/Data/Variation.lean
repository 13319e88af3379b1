import Mathlib.Algebra.BigOperators.Ring.List
import Mathlib.Analysis.Real.Sqrt
import Mathlib.Tactic.FieldSimp
import Mathlib.Tactic.Linarith
import Mathlib.Tactic.Ring

/-!
# The coefficient of variation

The standard deviation of a sample over its mean, compared with a bound: the comparison depends on
the number of the values, their sum and the sum of their squares.

* `mean`, `variance`, `coefficient` : of a sample of rational numbers.
* `VariesLess` : the comparison with a bound; `coefficient_lt_iff` : it is the right one.
* `pad` : a sample filled up with zeros; `sum_pad`, `sumSq_pad`, `length_pad` : what they change.
-/

namespace OmsWmsTms

namespace Variation

/-! ### Samples -/

/-- The mean. -/
def mean (xs : List ℚ) : ℚ := xs.sum / xs.length

/-- The sum of the squares. -/
def sumSq (xs : List ℚ) : ℚ := (xs.map (· ^ 2)).sum

/-- The variance of a sample. -/
def variance (xs : List ℚ) : ℚ := (xs.map fun x => (x - mean xs) ^ 2).sum / (xs.length - 1)

/-- The sum of the squared distances from a number. -/
theorem sum_sq_sub (a : ℚ) (xs : List ℚ) : (xs.map fun x => (x - a) ^ 2).sum =
    sumSq xs - 2 * a * xs.sum + xs.length * a ^ 2 := by
  unfold sumSq
  induction xs with
  | nil => simp
  | cons x xs ih =>
    simp only [List.map_cons, List.sum_cons, ih, List.length_cons]
    push_cast
    ring

/-- **The variance in terms of sums.** -/
theorem mul_variance {xs : List ℚ} (h : 2 ≤ xs.length) :
    (xs.length : ℚ) * (xs.length - 1) * variance xs = xs.length * sumSq xs - xs.sum ^ 2 := by
  have hn : (2 : ℚ) ≤ xs.length := by exact_mod_cast h
  have hpred : (xs.length : ℚ) - 1 ≠ 0 := by linarith
  have hzero : (xs.length : ℚ) ≠ 0 := by linarith
  rw [variance, sum_sq_sub, mean]
  field_simp
  ring

/-! ### The coefficient -/

section Coefficient

variable {K : Type*} [Field K] (sqrt : K → K)

/-- The standard deviation of a sample. -/
def stdDev (xs : List ℚ) : K := sqrt (variance xs)

/-- The coefficient of variation; a sample without a positive mean has 0. -/
def coefficient (xs : List ℚ) : K := if 0 < mean xs then stdDev sqrt xs / mean xs else 0

end Coefficient

/-- A sample of a number of values varies less than a bound, in terms of its sum and the sum of the
squares. -/
def VariesLess (bound : ℚ) (n : ℕ) (sum sumSq : ℚ) : Prop :=
  n ^ 2 * sumSq < (n + bound ^ 2 * (n - 1)) * sum ^ 2

theorem mean_pos {xs : List ℚ} (h : 0 < xs.sum) (hne : xs ≠ []) : 0 < mean xs :=
  div_pos h (by exact_mod_cast List.length_pos_iff.2 hne)

/-- **The coefficient is below a bound exactly when** the sums are in that relation. -/
theorem coefficient_lt_iff {xs : List ℚ} {bound : ℚ} (hbound : 0 < bound) (h : 2 ≤ xs.length)
    (hsum : 0 < xs.sum) : coefficient Real.sqrt xs < bound ↔
      VariesLess bound xs.length xs.sum (sumSq xs) := by
  have hne : xs ≠ [] := by
    rintro rfl
    exact absurd h (by decide)
  have hmean := mean_pos hsum hne
  have hn : (2 : ℚ) ≤ xs.length := by exact_mod_cast h
  have hcast : (0 : ℝ) < mean xs := by exact_mod_cast hmean
  have hprod : (0 : ℝ) < bound * mean xs := mul_pos (by exact_mod_cast hbound) hcast
  -- the square of the bound for the standard deviation
  have hsquare : coefficient Real.sqrt xs < bound ↔ variance xs < (bound * mean xs) ^ 2 := by
    rw [coefficient, if_pos hmean, stdDev, div_lt_iff₀ hcast, Real.sqrt_lt' hprod]
    exact_mod_cast Iff.rfl
  rw [hsquare, VariesLess]
  have hscale : (0 : ℚ) < xs.length * (xs.length - 1) := mul_pos (by linarith) (by linarith)
  have hright : (xs.length : ℚ) * (xs.length - 1) * (bound * mean xs) ^ 2 * xs.length =
      bound ^ 2 * (xs.length - 1) * xs.sum ^ 2 := by
    rw [mean]
    field_simp
  rw [← mul_lt_mul_iff_right₀ hscale, mul_variance h,
    ← mul_lt_mul_iff_left₀ (show (0 : ℚ) < xs.length by linarith), hright]
  constructor <;> intro hlt <;> nlinarith

/-! ### Zeros -/

/-- A sample, filled up with zeros. -/
def pad (m : ℕ) (xs : List ℚ) : List ℚ := xs ++ List.replicate (m - xs.length) 0

@[simp] theorem length_pad (m : ℕ) (xs : List ℚ) : (pad m xs).length = max xs.length m := by
  rw [pad, List.length_append, List.length_replicate]
  omega

@[simp] theorem sum_pad (m : ℕ) (xs : List ℚ) : (pad m xs).sum = xs.sum := by
  simp [pad]

@[simp] theorem sumSq_pad (m : ℕ) (xs : List ℚ) : sumSq (pad m xs) = sumSq xs := by
  simp [sumSq, pad]

/-- One value among zeros does not vary less than 1. -/
theorem not_variesLess_single {m : ℕ} (hm : 2 ≤ m) {x : ℚ} (hx : 0 < x) :
    ¬ VariesLess 1 m x (x ^ 2) := by
  have hm' : (2 : ℚ) ≤ m := by exact_mod_cast hm
  unfold VariesLess
  rw [not_lt]
  exact mul_le_mul_of_nonneg_right (by nlinarith) (by positivity)

end Variation

end OmsWmsTms
