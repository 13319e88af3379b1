import Mathlib.Data.Int.ModEq
import Mathlib.Tactic.Ring

/-!
# Check digits

A check digit completes a weighted sum of the digits in front of it to a multiple of a modulus; the
weights are two numbers in turn.

* `alternating` : the sum; `complement` : what completes it.
* `alternating_reverse` : the weights from the other end.
* `complement_eq_iff` : the check digit, as a condition on the sum of all digits.
* `change_modEq_iff`, `swap_modEq_iff` : when a changed digit, or two digits that have changed
  places, go unnoticed.
-/

namespace OmsWmsTms

namespace CheckDigit

/-- The sum of some numbers, weighted by `a` and by `b` in turn. -/
def alternating (a b : ℕ) : List ℕ → ℕ
  | [] => 0
  | d :: digits => d * a + alternating b a digits

/-- The weight of a place, counted from zero. -/
def weightAt (a b i : ℕ) : ℕ := if i % 2 = 0 then a else b

/-- What completes a sum to a multiple of `m`. -/
def complement (m total : ℕ) : ℕ := (m - total % m) % m

variable (a b : ℕ)

@[simp] theorem alternating_nil : alternating a b [] = 0 := rfl

@[simp] theorem alternating_cons (d : ℕ) (digits : List ℕ) :
    alternating a b (d :: digits) = d * a + alternating b a digits := rfl

theorem weightAt_succ (i : ℕ) : weightAt a b (i + 1) = weightAt b a i := by
  unfold weightAt
  split_ifs <;> omega

/-! ### The sum -/

theorem alternating_append (front rest : List ℕ) :
    alternating a b (front ++ rest) = alternating a b front +
      alternating (weightAt a b front.length) (weightAt b a front.length) rest := by
  induction front generalizing a b with
  | nil => simp [weightAt]
  | cons d front ih =>
    rw [List.cons_append, alternating_cons, alternating_cons, ih, List.length_cons, weightAt_succ,
      weightAt_succ, Nat.add_assoc]

/-- **The weights from the other end.** -/
theorem alternating_reverse (digits : List ℕ) :
    alternating a b digits.reverse =
      alternating (weightAt b a digits.length) (weightAt a b digits.length) digits := by
  induction digits with
  | nil => rfl
  | cons d digits ih =>
    rw [List.reverse_cons, alternating_append, ih, List.length_reverse, List.length_cons,
      weightAt_succ, weightAt_succ, alternating_cons, alternating_cons, alternating_nil,
      Nat.add_zero, Nat.add_comm]

/-- The check digit makes the sum of all digits a multiple of the modulus. -/
theorem complement_eq_iff {m d : ℕ} (hd : d < m) (total : ℕ) :
    complement m total = d ↔ (total + d) % m = 0 := by
  have hlt : total % m < m := Nat.mod_lt _ (Nat.zero_lt_of_lt hd)
  have hsum : (total + d) % m = (total % m + d) % m := by simp
  unfold complement
  rw [hsum]
  by_cases hzero : total % m = 0
  · rw [hzero, Nat.sub_zero, Nat.mod_self, Nat.zero_add, Nat.mod_eq_of_lt hd]
    exact eq_comm
  · rw [Nat.mod_eq_of_lt (by omega)]
    constructor
    · rintro rfl
      rw [Nat.add_sub_cancel' hlt.le, Nat.mod_self]
    · intro h
      -- the sum is not below the modulus, as it would be its own remainder there
      have hle : m ≤ total % m + d := by
        by_contra hnot
        rw [Nat.mod_eq_of_lt (by omega)] at h
        omega
      rw [Nat.mod_eq_sub_mod hle, Nat.mod_eq_of_lt (by omega)] at h
      omega

/-! ### What goes unnoticed -/

variable {a b} {m : ℕ}

theorem coprime_weightAt (ha : Nat.Coprime m a) (hb : Nat.Coprime m b) (i : ℕ) :
    Nat.Coprime m (weightAt a b i) := by
  unfold weightAt
  split_ifs <;> assumption

/-- **A changed digit** goes unnoticed only if it is the same one up to the modulus. -/
theorem change_modEq_iff (ha : Nat.Coprime m a) (hb : Nat.Coprime m b) (front rest : List ℕ)
    (x y : ℕ) : alternating a b (front ++ x :: rest) ≡ alternating a b (front ++ y :: rest) [MOD m] ↔
      x ≡ y [MOD m] := by
  rw [alternating_append, alternating_append, alternating_cons, alternating_cons]
  constructor
  · intro h
    have hsum := Nat.ModEq.add_right_cancel' _ (Nat.ModEq.add_left_cancel' _ h)
    exact Nat.ModEq.cancel_right_of_coprime (coprime_weightAt ha hb front.length) hsum
  · intro h
    exact Nat.ModEq.add_left _ ((h.mul_right _).add_right _)

/-- **Two digits that have changed places** go unnoticed only if the modulus divides their
difference, times that of the weights. -/
theorem swap_modEq_iff (front rest : List ℕ) (x y : ℕ) :
    alternating a b (front ++ x :: y :: rest) ≡ alternating a b (front ++ y :: x :: rest) [MOD m] ↔
      (m : ℤ) ∣ ((a : ℤ) - b) * (x - y) := by
  rw [alternating_append, alternating_append, Nat.modEq_iff_dvd]
  have hdiff : ((alternating a b front + alternating (weightAt a b front.length)
        (weightAt b a front.length) (y :: x :: rest) : ℕ) : ℤ) -
      (alternating a b front + alternating (weightAt a b front.length)
        (weightAt b a front.length) (x :: y :: rest) : ℕ) =
      ((weightAt b a front.length : ℤ) - weightAt a b front.length) * (x - y) := by
    simp only [alternating_cons, Nat.cast_add, Nat.cast_mul]
    ring
  rw [hdiff]
  rcases Nat.mod_two_eq_zero_or_one front.length with heven | hodd
  · simp only [weightAt, heven, if_true]
    rw [← Int.neg_sub, Int.neg_mul, Int.dvd_neg]
  · simp [weightAt, hodd]

end CheckDigit

end OmsWmsTms
