import OmsWmsTms.Data.Numeric
import Mathlib.Algebra.Order.Group.Unbundled.Int
import Mathlib.Algebra.Ring.Int.Parity
import Mathlib.Data.Int.Log

/-!
# Decimals of a limited precision

The decimals of Python: a sum is rounded to a number of significant digits, half to even, and NaN
passes through.

* `roundHalfEven` : rounding to an integer; `NearestEven` says which one it is.
* `roundDigits` : rounding to decimal places.
* `significant` : rounding to significant digits.
* `Decimal`, `Decimal.add`, `Decimal.sum`, `Decimal.quantize` : decimals in the default context.
* `Quantity` : the values of a column `NUMERIC(p, s)`, which can be NaN.
-/

namespace OmsWmsTms

/-! ### Rounding half to even -/

/-- Round to the nearest integer, halves to the even one. -/
def roundHalfEven (x : ℚ) : ℤ :=
  if x - ⌊x⌋ < 1 / 2 ∨ x - ⌊x⌋ = 1 / 2 ∧ Even ⌊x⌋ then ⌊x⌋ else ⌊x⌋ + 1

/-- An integer is nearer than one half, or one half away and even. -/
def NearestEven (x : ℚ) (n : ℤ) : Prop := |x - n| < 1 / 2 ∨ |x - n| = 1 / 2 ∧ Even n

instance (x : ℚ) (n : ℤ) : Decidable (NearestEven x n) := inferInstanceAs (Decidable (_ ∨ _))

theorem nearestEven_roundHalfEven (x : ℚ) : NearestEven x (roundHalfEven x) := by
  have hle := Int.floor_le x
  have hlt := Int.lt_floor_add_one x
  unfold roundHalfEven NearestEven
  split_ifs with hdown
  · rwa [abs_of_nonneg (by linarith)]
  · rw [not_or, not_lt, not_and] at hdown
    obtain ⟨hhalf, heven⟩ := hdown
    push_cast
    rw [abs_of_nonpos (by linarith)]
    rcases hhalf.lt_or_eq with hgt | heq
    · exact .inl (by linarith)
    · exact .inr ⟨by linarith, Int.even_add_one.2 (heven heq.symm)⟩

theorem NearestEven.abs_sub_le {x : ℚ} {n : ℤ} (h : NearestEven x n) : |x - n| ≤ 1 / 2 := by
  rcases h with h | ⟨h, -⟩
  · exact h.le
  · exact h.le

/-- There is only one. -/
theorem NearestEven.unique {x : ℚ} {m n : ℤ} (hm : NearestEven x m) (hn : NearestEven x n) :
    m = n := by
  wlog hlt : m < n generalizing m n
  · rcases lt_trichotomy m n with h | h | h
    · exact absurd h hlt
    · exact h
    · exact (this hn hm h).symm
  have hup := (abs_le.1 hm.abs_sub_le).2
  have hdown := (abs_le.1 hn.abs_sub_le).1
  have hnext : n = m + 1 := by
    have hcast : (n : ℚ) ≤ m + 1 := by linarith
    have hle : n ≤ m + 1 := by exact_mod_cast hcast
    omega
  subst hnext
  push_cast at hdown
  -- both are one half away, and one of them is odd
  have hm' : |x - m| = 1 / 2 := by rw [abs_of_nonneg (by linarith)]; linarith
  have hn' : |x - (m + 1 : ℤ)| = 1 / 2 := by
    push_cast
    rw [abs_of_nonpos (by linarith)]
    linarith
  have hmeven := (hm.resolve_left (by rw [hm']; exact lt_irrefl _)).2
  have hneven := (hn.resolve_left (by rw [hn']; exact lt_irrefl _)).2
  exact absurd hmeven (Int.even_add_one.1 hneven)

theorem roundHalfEven_eq_iff {x : ℚ} {n : ℤ} : roundHalfEven x = n ↔ NearestEven x n :=
  ⟨fun h => h ▸ nearestEven_roundHalfEven x, fun h => (nearestEven_roundHalfEven x).unique h⟩

@[simp] theorem roundHalfEven_intCast (n : ℤ) : roundHalfEven n = n :=
  roundHalfEven_eq_iff.2 (.inl (by rw [sub_self, abs_zero]; norm_num))

/-- Rounding does not pass an integer. -/
theorem roundHalfEven_le {x : ℚ} {n : ℤ} (h : x ≤ n) : roundHalfEven x ≤ n := by
  have hle : ⌊x⌋ ≤ n := Int.floor_le_iff.2 (h.trans_lt (lt_add_one _))
  unfold roundHalfEven
  split_ifs with hdown
  · exact hle
  · rw [not_or, not_lt] at hdown
    have hfloor : (⌊x⌋ : ℚ) < n := by linarith [hdown.1]
    exact_mod_cast hfloor

/-- Round to decimal places, halves to the even one. -/
def roundDigits {K : Type*} [Field K] [LinearOrder K] [FloorRing K] (digits : ℕ) (x : K) : K :=
  let scaled := x * 10 ^ digits
  let units : ℤ :=
    if scaled - ⌊scaled⌋ < 1 / 2 ∨ scaled - ⌊scaled⌋ = 1 / 2 ∧ Even ⌊scaled⌋ then ⌊scaled⌋
    else ⌊scaled⌋ + 1
  units / 10 ^ digits

/-! ### Significant digits -/

/-- Round to significant digits. -/
def significant (digits : ℕ) (x : ℚ) : ℚ :=
  if x = 0 then 0
  else
    let unit : ℚ := 10 ^ (Int.log 10 |x| + 1 - digits)
    roundHalfEven (x / unit) * unit

/-- **The unit of a rounding** divides the unit of a grid on which the digits fit. -/
theorem exists_units {digits s : ℕ} {x y : ℚ} (hx : x ≠ 0) (hfit : |x| * 10 ^ s < 10 ^ digits)
    (hy : OnGrid s y) : ∃ m : ℤ, y / 10 ^ (Int.log 10 |x| + 1 - digits) = m := by
  obtain ⟨n, hn⟩ := onGrid_iff.1 hy
  have hlog : Int.log 10 |x| < (digits : ℤ) - s := by
    rw [← Int.lt_zpow_iff_log_lt (by norm_num) (abs_pos.2 hx), Nat.cast_ofNat,
      zpow_sub₀ (by norm_num), zpow_natCast, zpow_natCast, lt_div_iff₀ (by positivity)]
    exact hfit
  obtain ⟨k, hk⟩ : ∃ k : ℕ, Int.log 10 |x| + 1 - digits = -(s : ℤ) - k :=
    ⟨((digits : ℤ) - s - 1 - Int.log 10 |x|).toNat, by omega⟩
  refine ⟨n * 10 ^ k, ?_⟩
  rw [div_eq_iff (zpow_ne_zero _ (by norm_num)), hk, zpow_sub₀ (by norm_num), zpow_neg,
    zpow_natCast, zpow_natCast]
  push_cast
  rw [← hn]
  field_simp

/-- A value on a grid whose digits fit is not rounded. -/
theorem significant_of_onGrid {digits s : ℕ} {x : ℚ} (hx : OnGrid s x)
    (hfit : |x| * 10 ^ s < 10 ^ digits) : significant digits x = x := by
  unfold significant
  split_ifs with hzero
  · exact hzero.symm
  obtain ⟨m, hm⟩ := exists_units hzero hfit hx
  change (roundHalfEven (x / 10 ^ (Int.log 10 |x| + 1 - digits)) : ℚ) * _ = x
  rw [hm, roundHalfEven_intCast, ← hm, div_mul_cancel₀ _ (zpow_ne_zero _ (by norm_num))]

theorem significant_nonpos {digits : ℕ} {x : ℚ} (hx : x ≤ 0) : significant digits x ≤ 0 := by
  unfold significant
  split_ifs
  · exact le_rfl
  · have hunit : (0 : ℚ) < 10 ^ (Int.log 10 |x| + 1 - digits) := zpow_pos (by norm_num) _
    have hround : roundHalfEven (x / 10 ^ (Int.log 10 |x| + 1 - digits)) ≤ 0 :=
      roundHalfEven_le (by rw [Int.cast_zero]; exact div_nonpos_of_nonpos_of_nonneg hx hunit.le)
    exact mul_nonpos_of_nonpos_of_nonneg (by exact_mod_cast hround) hunit.le

/-- **Rounding does not pass a value on a grid** whose digits fit. -/
theorem significant_le {digits s : ℕ} {x y : ℚ} (hx : 0 ≤ x) (hxy : x ≤ y) (hy : OnGrid s y)
    (hfit : y * 10 ^ s < 10 ^ digits) : significant digits x ≤ y := by
  unfold significant
  split_ifs with hzero
  · exact hx.trans hxy
  have hfit' : |x| * 10 ^ s < 10 ^ digits := by
    rw [abs_of_nonneg hx]
    exact (mul_le_mul_of_nonneg_right hxy (by positivity)).trans_lt hfit
  obtain ⟨m, hm⟩ := exists_units hzero hfit' hy
  have hunit : (0 : ℚ) < 10 ^ (Int.log 10 |x| + 1 - digits) := zpow_pos (by norm_num) _
  have hround : roundHalfEven (x / 10 ^ (Int.log 10 |x| + 1 - digits)) ≤ m :=
    roundHalfEven_le (hm ▸ div_le_div_of_nonneg_right hxy hunit.le)
  calc (roundHalfEven (x / 10 ^ (Int.log 10 |x| + 1 - digits)) : ℚ) * _
      ≤ (m : ℚ) * 10 ^ (Int.log 10 |x| + 1 - digits) :=
        mul_le_mul_of_nonneg_right (by exact_mod_cast hround) hunit.le
    _ = y := by rw [← hm, div_mul_cancel₀ _ hunit.ne']

/-! ### Decimals -/

/-- A decimal that is not infinite. -/
inductive Decimal
  | nan
  | finite (x : ℚ)
deriving DecidableEq

namespace Decimal

/-- `getcontext().prec`. -/
def prec : ℕ := 28

/-- `a + b`. -/
def add : Decimal → Decimal → Decimal
  | finite a, finite b => finite (significant prec (a + b))
  | _, _ => nan

/-- `sum(decimals, Decimal(0))`. -/
def sum (decimals : List Decimal) : Decimal := decimals.foldl add (finite 0)

/-- `quantize` to a number of decimals; it raises when the digits do not fit. -/
def quantize (decimals : ℕ) : Decimal → Option Decimal
  | nan => some nan
  | finite x =>
    let units := roundHalfEven (x * 10 ^ decimals)
    if units.natAbs < 10 ^ prec then some (finite (units / 10 ^ decimals)) else none

/-- A sum with NaN is NaN. -/
theorem foldl_add_nan (decimals : List Decimal) : decimals.foldl add nan = nan := by
  induction decimals with
  | nil => rfl
  | cons d decimals ih => exact ih

theorem add_nan (d : Decimal) : add d nan = nan := by
  cases d with
  | nan => rfl
  | finite x => rfl

theorem sum_eq_nan {decimals : List Decimal} (h : nan ∈ decimals) : sum decimals = nan := by
  unfold sum
  generalize finite 0 = start
  induction decimals generalizing start with
  | nil => cases h
  | cons d decimals ih =>
    rcases List.mem_cons.1 h with rfl | h
    · rw [List.foldl_cons, add_nan, foldl_add_nan]
    · exact ih h _

/-- The running sum of numbers. -/
def runningSum (start : ℚ) (numbers : List ℚ) : ℚ :=
  numbers.foldl (fun a b => significant prec (a + b)) start

theorem sum_map_finite (numbers : List ℚ) :
    sum (numbers.map finite) = finite (runningSum 0 numbers) := by
  unfold sum runningSum
  generalize (0 : ℚ) = start
  induction numbers generalizing start with
  | nil => rfl
  | cons x numbers ih => exact ih _

/-- Numbers on a grid are added exactly while their digits fit. -/
theorem runningSum_of_onGrid {s : ℕ} {numbers : List ℚ} {start : ℚ} (hstart : OnGrid s start)
    (hgrid : ∀ x ∈ numbers, OnGrid s x)
    (hfit : (|start| + (numbers.map abs).sum) * 10 ^ s < 10 ^ prec) :
    runningSum start numbers = start + numbers.sum := by
  induction numbers generalizing start with
  | nil => exact (add_zero start).symm
  | cons x numbers ih =>
    obtain ⟨hx, hrest⟩ := List.forall_mem_cons.1 hgrid
    rw [List.map_cons, List.sum_cons] at hfit
    have hnonneg : 0 ≤ (numbers.map abs).sum := List.sum_nonneg fun y hy => by
      obtain ⟨z, -, rfl⟩ := List.mem_map.1 hy
      exact abs_nonneg z
    have hadd := abs_add_le start x
    have hpow : (0 : ℚ) < 10 ^ s := by positivity
    have hexact : significant prec (start + x) = start + x := by
      refine significant_of_onGrid (hstart.add hx) (lt_of_le_of_lt ?_ hfit)
      exact mul_le_mul_of_nonneg_right (by linarith) hpow.le
    have htail := ih (hstart.add hx) hrest
      (lt_of_le_of_lt (mul_le_mul_of_nonneg_right (by linarith) hpow.le) hfit)
    change runningSum (significant prec (start + x)) numbers = _
    rw [hexact, htail, List.sum_cons, add_assoc]

/-- The sum that a database computes: no digit is lost. -/
def exactSum : List Decimal → Decimal
  | [] => finite 0
  | nan :: _ => nan
  | finite x :: decimals =>
    match exactSum decimals with
    | nan => nan
    | finite y => finite (x + y)

theorem exactSum_eq_nan {decimals : List Decimal} (h : nan ∈ decimals) :
    exactSum decimals = nan := by
  induction decimals with
  | nil => cases h
  | cons d decimals ih =>
    cases d with
    | nan => rfl
    | finite x =>
      have hrest := ih ((List.mem_cons.1 h).resolve_left (by intro h; cases h))
      rw [exactSum, hrest]

theorem exactSum_map_finite (numbers : List ℚ) :
    exactSum (numbers.map finite) = finite numbers.sum := by
  induction numbers with
  | nil => rfl
  | cons x numbers ih => rw [List.map_cons, exactSum, ih, List.sum_cons]

/-- Decimals are numbers, or one of them is NaN. -/
theorem nan_mem_or_map_finite (decimals : List Decimal) :
    nan ∈ decimals ∨ ∃ numbers : List ℚ, decimals = numbers.map finite := by
  induction decimals with
  | nil => exact .inr ⟨[], rfl⟩
  | cons d decimals ih =>
    cases d with
    | nan => exact .inl List.mem_cons_self
    | finite x =>
      rcases ih with hnan | ⟨numbers, rfl⟩
      · exact .inl (List.mem_cons_of_mem _ hnan)
      · exact .inr ⟨x :: numbers, rfl⟩

end Decimal

/-! ### Columns with NaN -/

/-- A value of a column `NUMERIC(p, s)`. -/
inductive Quantity (p s : ℕ)
  | nan
  | finite (x : Numeric p s)
deriving DecidableEq

namespace Quantity

variable {p s : ℕ}

/-- Reading the column. -/
def toDecimal : Quantity p s → Decimal
  | nan => .nan
  | finite x => .finite x.toRat

/-- Storing a decimal. -/
def ofDecimal? : Decimal → Option (Quantity p s)
  | .nan => some nan
  | .finite x => (Numeric.ofRat? x).map finite

theorem toDecimal_of_ofDecimal?_nan {q : Quantity p s} (h : ofDecimal? .nan = some q) :
    q.toDecimal = .nan := by
  cases h
  rfl

/-- What is read of a stored number. -/
theorem toDecimal_of_ofDecimal? {x : ℚ} {q : Quantity p s} (h : ofDecimal? (.finite x) = some q) :
    q.toDecimal = .finite (Numeric.rounded s x) := by
  obtain ⟨y, hy, rfl⟩ := Option.map_eq_some_iff.1 h
  exact congrArg Decimal.finite (Numeric.toRat_eq_rounded hy)

/-- **The stored sum and the sum of what is stored**: the sum of the numbers is nearest to the sum
of the numbers as they are stored, in units of the last decimal. -/
def RoundsTogether (s : ℕ) (numbers : List ℚ) : Prop :=
  NearestEven (Decimal.runningSum 0 numbers * 10 ^ s)
    (numbers.map fun x => roundHalfAway (x * 10 ^ s)).sum

instance (s : ℕ) (numbers : List ℚ) : Decidable (RoundsTogether s numbers) :=
  inferInstanceAs (Decidable (NearestEven _ _))

theorem sum_map_rounded (numbers : List ℚ) : (numbers.map (Numeric.rounded s)).sum =
    ((numbers.map fun x => roundHalfAway (x * 10 ^ s)).sum : ℤ) / 10 ^ s := by
  induction numbers with
  | nil => simp
  | cons x numbers ih =>
    rw [List.map_cons, List.sum_cons, ih, List.map_cons, List.sum_cons, Numeric.rounded]
    push_cast
    ring

/-- The quantized sum of some numbers is stored as their stored sum exactly when they round
together. -/
theorem stored_sum_eq_iff {numbers : List ℚ} {total : Decimal} {q : Quantity p s}
    (htotal : (Decimal.sum (numbers.map .finite)).quantize s = some total)
    (hq : ofDecimal? total = some q) :
    q.toDecimal = Decimal.exactSum ((numbers.map (Numeric.rounded s)).map .finite) ↔
      RoundsTogether s numbers := by
  have hpow : (10 : ℚ) ^ s ≠ 0 := by positivity
  rw [Decimal.sum_map_finite, Decimal.quantize] at htotal
  split_ifs at htotal with hfits
  cases htotal
  rw [toDecimal_of_ofDecimal? hq, Decimal.exactSum_map_finite, sum_map_rounded, Numeric.rounded,
    div_mul_cancel₀ _ hpow, roundHalfAway_intCast, Decimal.finite.injEq, div_left_inj' hpow,
    Int.cast_inj]
  exact roundHalfEven_eq_iff

/-- Numbers on the grid round together while their digits fit. -/
theorem roundsTogether_of_onGrid {numbers : List ℚ} (hgrid : ∀ x ∈ numbers, OnGrid s x)
    (hfit : (numbers.map abs).sum * 10 ^ s < 10 ^ Decimal.prec) : RoundsTogether s numbers := by
  have hzero : OnGrid s (0 : ℚ) := onGrid_iff.2 ⟨0, by simp⟩
  have hsum : Decimal.runningSum 0 numbers = numbers.sum := by
    rw [Decimal.runningSum_of_onGrid hzero hgrid (by simpa using hfit), zero_add]
  have hunits : ((numbers.map fun x => roundHalfAway (x * 10 ^ s)).sum : ℚ) =
      numbers.sum * 10 ^ s := by
    clear hsum hfit
    induction numbers with
    | nil => simp
    | cons x numbers ih =>
      obtain ⟨n, hn⟩ := onGrid_iff.1 (hgrid x List.mem_cons_self)
      have hrest := ih fun y hy => hgrid y (List.mem_cons_of_mem _ hy)
      rw [List.map_cons, List.sum_cons, List.sum_cons, add_mul, ← hrest, hn, roundHalfAway_intCast]
      push_cast
      rfl
  unfold RoundsTogether NearestEven
  rw [hsum, hunits, sub_self, abs_zero]
  exact .inl (by norm_num)

end Quantity

end OmsWmsTms
