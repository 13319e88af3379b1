import Mathlib.Algebra.BigOperators.Group.List.Basic
import Mathlib.Algebra.Order.BigOperators.Group.List
import Mathlib.Algebra.Order.Field.Basic
import Mathlib.Data.Set.Finite.Lemmas
import Mathlib.Tactic.FieldSimp
import Mathlib.Tactic.Linarith
import Mathlib.Tactic.Ring

/-!
# Discounted sums

A list of numbers in which each next one counts by a factor less.  The sum of the discounted numbers
is no average: it is the average times the total of the weights, which is more than one as soon as
there are two numbers.

* `discounted`, `weight` : the sum, and the total of the weights; `sum_zipIdx` : as a sum of powers.
* `average` : the quotient; `le_average`, `average_le` : it is between the bounds of the numbers.
* `Between` : between the smallest and the largest of some numbers; `between_average`.
* `between_discounted_iff` : when the sum itself is.
-/

namespace OmsWmsTms

namespace Discounted

/-! ### Between the smallest and the largest -/

section Between

variable {K : Type*} [LinearOrder K] {c : K} {xs : List K}

/-- Between the smallest and the largest of some numbers. -/
structure Between (xs : List K) (y : K) : Prop where
  /-- The smallest, or another one, is not above. -/
  least : ∃ x ∈ xs, x ≤ y
  /-- The largest, or another one, is not below. -/
  greatest : ∃ x ∈ xs, y ≤ x

theorem exists_least (hne : xs ≠ []) : ∃ m ∈ xs, ∀ x ∈ xs, m ≤ x :=
  Set.exists_min_image {x | x ∈ xs} id xs.finite_toSet (List.exists_mem_of_ne_nil xs hne)

theorem exists_greatest (hne : xs ≠ []) : ∃ m ∈ xs, ∀ x ∈ xs, x ≤ m :=
  Set.exists_max_image {x | x ∈ xs} id xs.finite_toSet (List.exists_mem_of_ne_nil xs hne)

/-- Between equal numbers is that number. -/
theorem Between.eq_of_forall {y : K} (h : Between xs y) (hc : ∀ x ∈ xs, x = c) : y = c := by
  obtain ⟨x, hx, hle⟩ := h.least
  obtain ⟨x', hx', hle'⟩ := h.greatest
  exact le_antisymm (hc x' hx' ▸ hle') (hc x hx ▸ hle)

end Between

/-! ### Discounted sums -/

variable {K : Type*} [Field K] {a c : K} {xs : List K}

/-- The sum of the numbers, the next of which count by a factor less. -/
def discounted (a : K) : List K → K
  | [] => 0
  | x :: xs => x + a * discounted a xs

/-- The total of `n` weights. -/
def weight (a : K) : ℕ → K
  | 0 => 0
  | n + 1 => 1 + a * weight a n

/-- The discounted sum in powers of the factor. -/
theorem sum_zipIdx (a : K) (xs : List K) (k : ℕ) :
    ((xs.zipIdx k).map fun item => item.1 * a ^ item.2).sum = a ^ k * discounted a xs := by
  induction xs generalizing k with
  | nil => simp [discounted]
  | cons x xs ih =>
    rw [List.zipIdx_cons, List.map_cons, List.sum_cons, ih, discounted]
    ring

theorem discounted_replicate (a c : K) (n : ℕ) :
    discounted a (List.replicate n c) = weight a n * c := by
  induction n with
  | zero => simp [discounted, weight]
  | succ n ih =>
    rw [List.replicate_succ, discounted, ih, weight]
    ring

/-- The weights are a geometric progression. -/
theorem one_sub_mul_weight (a : K) (n : ℕ) : (1 - a) * weight a n = 1 - a ^ n := by
  induction n with
  | zero => simp [weight]
  | succ n ih =>
    calc (1 - a) * weight a (n + 1)
        = (1 - a) + a * ((1 - a) * weight a n) := by rw [weight]; ring
      _ = 1 - a ^ (n + 1) := by rw [ih]; ring

/-- The average of the numbers, with these weights. -/
def average (a : K) (xs : List K) : K := discounted a xs / weight a xs.length

section Order

variable [LinearOrder K] [IsStrictOrderedRing K]

theorem weight_nonneg (ha : 0 ≤ a) (n : ℕ) : 0 ≤ weight a n := by
  induction n with
  | zero => exact le_rfl
  | succ n ih => exact add_nonneg zero_le_one (mul_nonneg ha ih)

theorem one_le_weight (ha : 0 ≤ a) {n : ℕ} (hn : 1 ≤ n) : 1 ≤ weight a n := by
  obtain ⟨n, rfl⟩ := Nat.exists_eq_add_of_le' hn
  exact le_add_of_nonneg_right (mul_nonneg ha (weight_nonneg ha n))

/-- Two weights are more than one. -/
theorem one_lt_weight (ha : 0 < a) {n : ℕ} (hn : 2 ≤ n) : 1 < weight a n := by
  obtain ⟨n, rfl⟩ := Nat.exists_eq_add_of_le' hn
  have hone := one_le_weight ha.le (Nat.le_add_left 1 n)
  exact lt_add_of_pos_right 1 (mul_pos ha (zero_lt_one.trans_le hone))

theorem weight_mul_le_discounted (ha : 0 ≤ a) (h : ∀ x ∈ xs, c ≤ x) :
    weight a xs.length * c ≤ discounted a xs := by
  induction xs with
  | nil => simp [discounted, weight]
  | cons x xs ih =>
    have hx := h x List.mem_cons_self
    have hxs := mul_le_mul_of_nonneg_left (ih fun y hy => h y (List.mem_cons_of_mem _ hy)) ha
    rw [List.length_cons, weight, discounted]
    linarith

theorem discounted_le_weight_mul (ha : 0 ≤ a) (h : ∀ x ∈ xs, x ≤ c) :
    discounted a xs ≤ weight a xs.length * c := by
  induction xs with
  | nil => simp [discounted, weight]
  | cons x xs ih =>
    have hx := h x List.mem_cons_self
    have hxs := mul_le_mul_of_nonneg_left (ih fun y hy => h y (List.mem_cons_of_mem _ hy)) ha
    rw [List.length_cons, weight, discounted]
    linarith

theorem weight_length_pos (ha : 0 ≤ a) (hne : xs ≠ []) : 0 < weight a xs.length :=
  zero_lt_one.trans_le (one_le_weight ha (List.length_pos_iff.2 hne))

theorem weight_mul_average (ha : 0 ≤ a) (hne : xs ≠ []) :
    weight a xs.length * average a xs = discounted a xs :=
  mul_div_cancel₀ _ (weight_length_pos ha hne).ne'

/-- **The average is not below a bound** of the numbers. -/
theorem le_average (ha : 0 ≤ a) (hne : xs ≠ []) (h : ∀ x ∈ xs, c ≤ x) : c ≤ average a xs := by
  rw [average, le_div_iff₀' (weight_length_pos ha hne)]
  exact weight_mul_le_discounted ha h

/-- **The average is not above a bound** of the numbers. -/
theorem average_le (ha : 0 ≤ a) (hne : xs ≠ []) (h : ∀ x ∈ xs, x ≤ c) : average a xs ≤ c := by
  rw [average, div_le_iff₀' (weight_length_pos ha hne)]
  exact discounted_le_weight_mul ha h

/-! ### The sum and the average -/

/-- **The average is between** the smallest and the largest. -/
theorem between_average (ha : 0 ≤ a) (hne : xs ≠ []) : Between xs (average a xs) := by
  obtain ⟨least, hleast, hbelow⟩ := exists_least hne
  obtain ⟨greatest, hgreatest, habove⟩ := exists_greatest hne
  exact ⟨⟨least, hleast, le_average ha hne hbelow⟩,
    ⟨greatest, hgreatest, average_le ha hne habove⟩⟩

/-- **The sum is between the smallest and the largest** when the average, times the total of the
weights, passes no bound: a positive one the largest, and a negative one the smallest. -/
theorem between_discounted_iff (ha : 0 ≤ a) (hone : a < 1) (hne : xs ≠ []) :
    Between xs (discounted a xs) ↔
      (0 ≤ average a xs →
        ∃ x ∈ xs, (1 - a ^ xs.length) * average a xs ≤ (1 - a) * x) ∧
      (average a xs ≤ 0 →
        ∃ x ∈ xs, (1 - a) * x ≤ (1 - a ^ xs.length) * average a xs) := by
  have hpos : 0 < 1 - a := sub_pos.2 hone
  have hscale : (1 - a ^ xs.length) * average a xs = (1 - a) * discounted a xs := by
    rw [← one_sub_mul_weight, mul_assoc, weight_mul_average ha hne]
  simp only [hscale, mul_le_mul_iff_right₀ hpos]
  have hbetween := between_average ha hne
  have hweight := one_le_weight ha (List.length_pos_iff.2 hne)
  have hsum := weight_mul_average ha hne
  constructor
  · intro h
    exact ⟨fun _ => h.greatest, fun _ => h.least⟩
  · rintro ⟨hgreatest, hleast⟩
    rcases le_total 0 (average a xs) with havg | havg
    · obtain ⟨x, hx, hle⟩ := hbetween.least
      exact ⟨⟨x, hx, hle.trans (hsum ▸ le_mul_of_one_le_left havg hweight)⟩, hgreatest havg⟩
    · obtain ⟨x, hx, hle⟩ := hbetween.greatest
      refine ⟨hleast havg, ⟨x, hx, le_trans ?_ hle⟩⟩
      rw [← hsum]
      exact mul_le_of_one_le_left havg hweight

/-- The sum of two or more equal numbers is not that number, unless it is 0. -/
theorem weight_mul_eq_self_iff (ha : 0 < a) {n : ℕ} (hn : 2 ≤ n) :
    weight a n * c = c ↔ c = 0 := by
  constructor
  · intro h
    have hne : weight a n - 1 ≠ 0 := (sub_pos.2 (one_lt_weight ha hn)).ne'
    refine (mul_eq_zero.1 ?_).resolve_left hne
    rw [sub_mul, h, one_mul, sub_self]
  · rintro rfl
    exact mul_zero _

end Order

end Discounted

end OmsWmsTms
