import Mathlib.Algebra.Order.Floor.Ring
import Mathlib.Data.Rat.Floor
import Mathlib.Tactic.Linarith
import Mathlib.Tactic.Ring
import Mathlib.Tactic.Positivity
import Mathlib.Tactic.FieldSimp

/-!
# Exact decimals and the `NUMERIC` columns that store them

A service computes with exact rationals; a column `NUMERIC(p, s)` holds a multiple of `10 ^ -s`
with at most `p` digits.  Storing rounds half away from zero and fails when the rounded value has
too many digits.

* `Numeric p s` : the values of a column, with the bound on their digits.
* `Numeric.ofRat?` : storing a rational; `Numeric.toRat` : reading it back.
* `OnGrid s x` : the rational `x` has at most `s` decimals, and is stored exactly.
* `Numeric.toText` : the text of a column's value, always with `s` decimals.  It determines the
  value (`Numeric.toText_injective`).
-/

namespace OmsWmsTms

/-- Round to the nearest integer, halves away from zero. -/
def roundHalfAway (x : ℚ) : ℤ := if 0 ≤ x then ⌊x + 1 / 2⌋ else ⌈x - 1 / 2⌉

@[simp] theorem roundHalfAway_intCast (n : ℤ) : roundHalfAway n = n := by
  unfold roundHalfAway
  split_ifs
  · rw [Int.floor_intCast_add]
    norm_num
  · rw [Int.ceil_eq_iff]
    constructor <;> linarith

theorem roundHalfAway_mono {x y : ℚ} (hxy : x ≤ y) : roundHalfAway x ≤ roundHalfAway y := by
  unfold roundHalfAway
  split_ifs with hx hy hy
  · exact Int.floor_le_floor (by linarith)
  · exact absurd (hx.trans hxy) hy
  · -- a negative value rounds to at most zero, another one to at least zero
    have h₁ : ⌈x - 1 / 2⌉ ≤ 0 := Int.ceil_le.2 (by push_cast; linarith)
    have h₂ : 0 ≤ ⌊y + 1 / 2⌋ := Int.le_floor.2 (by push_cast; linarith)
    exact h₁.trans h₂
  · exact Int.ceil_le_ceil (by linarith)

/-- Rounding moves a value by at most one half. -/
theorem abs_roundHalfAway_sub_le (x : ℚ) : |(roundHalfAway x : ℚ) - x| ≤ 1 / 2 := by
  unfold roundHalfAway
  split_ifs
  · have h₁ := Int.floor_le (x + 1 / 2)
    have h₂ := Int.lt_floor_add_one (x + 1 / 2)
    rw [abs_le]; constructor <;> linarith
  · have h₁ := Int.le_ceil (x - 1 / 2)
    have h₂ := Int.ceil_lt_add_one (x - 1 / 2)
    rw [abs_le]; constructor <;> linarith

/-- The integer to which a number rounds: a half belongs to the integer that is farther from
zero. -/
theorem roundHalfAway_eq_iff {x : ℚ} {n : ℤ} : roundHalfAway x = n ↔
    (if 0 < n then (n : ℚ) - 1 / 2 ≤ x else (n : ℚ) - 1 / 2 < x) ∧
      if n < 0 then x ≤ (n : ℚ) + 1 / 2 else x < (n : ℚ) + 1 / 2 := by
  unfold roundHalfAway
  rcases lt_trichotomy n 0 with hn | rfl | hn
  · have hcast : (n : ℚ) ≤ -1 := by exact_mod_cast Int.le_sub_one_of_lt hn
    rw [if_neg hn.not_gt, if_pos hn]
    split_ifs with hx
    · rw [Int.floor_eq_iff]
      constructor <;> rintro ⟨_, _⟩ <;> exfalso <;> linarith
    · rw [Int.ceil_eq_iff]
      constructor <;> rintro ⟨_, _⟩ <;> constructor <;> linarith
  · rw [if_neg (lt_irrefl 0), if_neg (lt_irrefl 0), Int.cast_zero]
    split_ifs with hx
    · rw [Int.floor_eq_iff, Int.cast_zero]
      constructor <;> rintro ⟨_, _⟩ <;> constructor <;> linarith
    · rw [Int.ceil_eq_iff, Int.cast_zero]
      constructor <;> rintro ⟨_, _⟩ <;> constructor <;> linarith
  · have hcast : (1 : ℚ) ≤ n := by exact_mod_cast hn
    rw [if_pos hn, if_neg hn.not_gt]
    split_ifs with hx
    · rw [Int.floor_eq_iff]
      constructor <;> rintro ⟨_, _⟩ <;> constructor <;> linarith
    · rw [Int.ceil_eq_iff]
      constructor <;> rintro ⟨_, _⟩ <;> exfalso <;> linarith

/-- The rational `x` has at most `s` decimals. -/
def OnGrid (s : ℕ) (x : ℚ) : Prop := (x * 10 ^ s).isInt = true

instance (s : ℕ) (x : ℚ) : Decidable (OnGrid s x) := inferInstanceAs (Decidable (_ = true))

theorem onGrid_iff {s : ℕ} {x : ℚ} : OnGrid s x ↔ ∃ n : ℤ, x * 10 ^ s = n := by
  rw [OnGrid, Rat.isInt, beq_iff_eq]
  exact ⟨fun h => ⟨_, (Rat.coe_int_num_of_den_eq_one h).symm⟩, fun ⟨n, h⟩ => by rw [h]; rfl⟩

namespace OnGrid

variable {s : ℕ} {x y : ℚ}

theorem add (hx : OnGrid s x) (hy : OnGrid s y) : OnGrid s (x + y) := by
  obtain ⟨m, hm⟩ := onGrid_iff.1 hx
  obtain ⟨n, hn⟩ := onGrid_iff.1 hy
  exact onGrid_iff.2 ⟨m + n, by rw [add_mul, hm, hn]; push_cast; rfl⟩

theorem neg (hx : OnGrid s x) : OnGrid s (-x) := by
  obtain ⟨m, hm⟩ := onGrid_iff.1 hx
  exact onGrid_iff.2 ⟨-m, by rw [neg_mul, hm]; push_cast; rfl⟩

theorem sub (hx : OnGrid s x) (hy : OnGrid s y) : OnGrid s (x - y) :=
  sub_eq_add_neg x y ▸ hx.add hy.neg

theorem abs (hx : OnGrid s x) : OnGrid s |x| := by
  rcases abs_choice x with h | h <;> rw [h]
  exacts [hx, hx.neg]

theorem of_abs (h : OnGrid s |x|) : OnGrid s x := by
  rcases abs_choice x with hx | hx
  · rwa [hx] at h
  · rw [hx] at h
    simpa using h.neg

theorem sum {l : List ℚ} (h : ∀ x ∈ l, OnGrid s x) : OnGrid s l.sum := by
  induction l with
  | nil => exact onGrid_iff.2 ⟨0, by simp⟩
  | cons x l ih =>
    rw [List.sum_cons]
    exact (h x List.mem_cons_self).add (ih fun y hy => h y (List.mem_cons_of_mem _ hy))

theorem intCast (n : ℤ) : OnGrid s n := onGrid_iff.2 ⟨n * 10 ^ s, by push_cast; rfl⟩

theorem mul_intCast (hx : OnGrid s x) (n : ℤ) : OnGrid s (x * n) := by
  obtain ⟨m, hm⟩ := onGrid_iff.1 hx
  exact onGrid_iff.2 ⟨m * n, by rw [mul_right_comm, hm]; push_cast; rfl⟩

/-- A finer grid. -/
theorem mono {t : ℕ} (hx : OnGrid s x) (hst : s ≤ t) : OnGrid t x := by
  obtain ⟨m, hm⟩ := onGrid_iff.1 hx
  obtain ⟨k, rfl⟩ := Nat.exists_eq_add_of_le hst
  exact onGrid_iff.2 ⟨m * 10 ^ k, by rw [pow_add, ← mul_assoc, hm]; push_cast; rfl⟩

end OnGrid

/-- A value of a column `NUMERIC(p, s)`, counted in units of `10 ^ -s`. -/
structure Numeric (p s : ℕ) where
  /-- The value, in units of the last decimal. -/
  units : ℤ
  /-- It has at most `p` digits. -/
  fits : units.natAbs < 10 ^ p
deriving DecidableEq

namespace Numeric

variable {p s : ℕ}

/-- The value of the column as an exact decimal. -/
def toRat (x : Numeric p s) : ℚ := x.units / 10 ^ s

instance : CoeOut (Numeric p s) ℚ := ⟨toRat⟩

instance : Zero (Numeric p s) := ⟨⟨0, by positivity⟩⟩

/-- Store a decimal: round to `s` decimals, and fail on a numeric field overflow. -/
def ofRat? (x : ℚ) : Option (Numeric p s) :=
  if h : (roundHalfAway (x * 10 ^ s)).natAbs < 10 ^ p then some ⟨_, h⟩ else none

@[ext] theorem ext_units {x y : Numeric p s} (h : x.units = y.units) : x = y := by
  cases x; cases y; cases h; rfl

theorem toRat_mul_pow (x : Numeric p s) : x.toRat * 10 ^ s = x.units := by
  rw [toRat, div_mul_cancel₀]
  positivity

theorem toRat_injective : Function.Injective (toRat : Numeric p s → ℚ) := by
  intro x y h
  have hu : (x.units : ℚ) = y.units := by rw [← x.toRat_mul_pow, ← y.toRat_mul_pow, h]
  exact ext_units (by exact_mod_cast hu)

@[simp] theorem toRat_inj {x y : Numeric p s} : x.toRat = y.toRat ↔ x = y :=
  toRat_injective.eq_iff

@[simp] theorem toRat_zero : (0 : Numeric p s).toRat = 0 := by
  rw [toRat, show (0 : Numeric p s).units = 0 from rfl, Int.cast_zero, zero_div]

theorem onGrid (x : Numeric p s) : OnGrid s x.toRat := onGrid_iff.2 ⟨_, x.toRat_mul_pow⟩

theorem ofRat?_eq_some_iff {x : ℚ} {y : Numeric p s} :
    ofRat? x = some y ↔ y.units = roundHalfAway (x * 10 ^ s) := by
  unfold ofRat?
  constructor
  · intro h
    split_ifs at h
    cases h
    rfl
  · intro h
    rw [dif_pos (h ▸ y.fits)]
    exact congrArg some (ext_units h.symm)

/-- What a column with `s` decimals holds after storing `x`. -/
def rounded (s : ℕ) (x : ℚ) : ℚ := roundHalfAway (x * 10 ^ s) / 10 ^ s

theorem rounded_eq_rounded_iff {x y : ℚ} :
    rounded s x = rounded s y ↔ roundHalfAway (x * 10 ^ s) = roundHalfAway (y * 10 ^ s) := by
  have hpow : (10 : ℚ) ^ s ≠ 0 := by positivity
  rw [rounded, rounded, div_left_inj' hpow, Int.cast_inj]

/-- A value on the grid is its own rounding. -/
theorem rounded_of_onGrid {x : ℚ} (hx : OnGrid s x) : rounded s x = x := by
  obtain ⟨n, hn⟩ := onGrid_iff.1 hx
  have hpow : (10 : ℚ) ^ s ≠ 0 := by positivity
  rw [rounded, hn, roundHalfAway_intCast, ← hn, mul_div_cancel_right₀ _ hpow]

theorem toRat_eq_rounded {x : ℚ} {y : Numeric p s} (h : ofRat? x = some y) :
    y.toRat = rounded s x := by
  rw [toRat, rounded, ofRat?_eq_some_iff.1 h]

/-- What a column holds after storing `x` is within half a unit of `x`. -/
theorem abs_rounded_sub_le (s : ℕ) (x : ℚ) : |rounded s x - x| ≤ 1 / 2 / 10 ^ s := by
  have hs : (0 : ℚ) < 10 ^ s := by positivity
  have hround := abs_roundHalfAway_sub_le (x * 10 ^ s)
  have hunits : (roundHalfAway (x * 10 ^ s) : ℚ) = rounded s x * 10 ^ s := by
    rw [rounded, div_mul_cancel₀ _ hs.ne']
  rw [hunits, ← sub_mul, abs_mul, abs_of_pos hs] at hround
  rwa [le_div_iff₀ hs]

/-- A value on the grid is stored exactly. -/
theorem toRat_of_ofRat? {x : ℚ} {y : Numeric p s} (hx : OnGrid s x) (h : ofRat? x = some y) :
    y.toRat = x := by
  obtain ⟨n, hn⟩ := onGrid_iff.1 hx
  have hs : (10 ^ s : ℚ) ≠ 0 := by positivity
  have hy := ofRat?_eq_some_iff.1 h
  rw [hn, roundHalfAway_intCast] at hy
  rw [toRat, hy, ← hn, mul_div_cancel_right₀ _ hs]

@[simp] theorem ofRat?_toRat (x : Numeric p s) : ofRat? x.toRat = some x :=
  ofRat?_eq_some_iff.2 (by rw [toRat_mul_pow, roundHalfAway_intCast])

/-- Storing is monotone. -/
theorem toRat_le_of_ofRat? {x x' : ℚ} {y y' : Numeric p s} (hx : x ≤ x')
    (h : ofRat? x = some y) (h' : ofRat? x' = some y') : y.toRat ≤ y'.toRat := by
  have hs : (0 : ℚ) < 10 ^ s := by positivity
  rw [toRat, toRat, div_le_div_iff_of_pos_right hs, ofRat?_eq_some_iff.1 h,
    ofRat?_eq_some_iff.1 h']
  exact_mod_cast roundHalfAway_mono (mul_le_mul_of_nonneg_right hx hs.le)

theorem le_toRat_of_ofRat? {x : ℚ} {y : Numeric p s} (z : Numeric p s) (hz : z.toRat ≤ x)
    (h : ofRat? x = some y) : z.toRat ≤ y.toRat :=
  toRat_le_of_ofRat? hz (ofRat?_toRat z) h

/-- A value on the grid whose digits fit can be stored. -/
theorem exists_ofRat? {x : ℚ} (hx : OnGrid s x) (hfit : |x| * 10 ^ s < 10 ^ p) :
    ∃ y : Numeric p s, ofRat? x = some y ∧ y.toRat = x := by
  obtain ⟨n, hn⟩ := onGrid_iff.1 hx
  have hs : (0 : ℚ) < 10 ^ s := by positivity
  have hlt : n.natAbs < 10 ^ p := by
    have habs : ((n.natAbs : ℕ) : ℚ) = |x| * 10 ^ s := by
      rw [Nat.cast_natAbs, Int.cast_abs, ← hn, abs_mul, abs_of_pos hs]
    rw [← habs] at hfit
    exact_mod_cast hfit
  have hy : ofRat? x = some (⟨n, hlt⟩ : Numeric p s) :=
    ofRat?_eq_some_iff.2 (by rw [hn, roundHalfAway_intCast])
  exact ⟨_, hy, toRat_of_ofRat? hx hy⟩

/-- A value on the grid can be stored exactly when its digits fit. -/
theorem isSome_ofRat?_iff {x : ℚ} (hx : OnGrid s x) :
    (ofRat? x : Option (Numeric p s)).isSome = true ↔ |x| * 10 ^ s < 10 ^ p := by
  rw [Option.isSome_iff_exists]
  constructor
  · rintro ⟨y, hy⟩
    have hs : (0 : ℚ) < 10 ^ s := by positivity
    have hunits : ((y.units.natAbs : ℕ) : ℚ) < 10 ^ p := by exact_mod_cast y.fits
    rwa [Nat.cast_natAbs, Int.cast_abs, ← y.toRat_mul_pow, toRat_of_ofRat? hx hy, abs_mul,
      abs_of_pos hs] at hunits
  · intro hfit
    obtain ⟨y, hy, -⟩ := exists_ofRat? hx hfit
    exact ⟨y, hy⟩

theorem isSome_ofRat?_natCast (n : ℕ) (hfit : (n : ℚ) * 10 ^ s < 10 ^ p) :
    (ofRat? (n : ℚ) : Option (Numeric p s)).isSome = true := by
  have hgrid : OnGrid s (n : ℚ) := by exact_mod_cast OnGrid.intCast (n : ℤ)
  rwa [isSome_ofRat?_iff hgrid, Nat.abs_cast]

/-! ### Text -/

/-- The decimals of a value of `n` units: `s` digits. -/
def decimals (s n : ℕ) : List Char := List.leftpad s '0' (Nat.toDigits 10 (n % 10 ^ s))

/-- The text of `n` units. -/
def unsigned (s n : ℕ) : List Char := Nat.toDigits 10 (n / 10 ^ s) ++ '.' :: decimals s n

/-- The text of a value, with all of its `s` decimals. -/
def toChars (x : Numeric p s) : List Char :=
  (if x.units < 0 then ['-'] else []) ++ unsigned s x.units.natAbs

/-- The text of a value, as Python prints the decimal that a driver reads from the column. -/
def toText (x : Numeric p s) : String := String.ofList x.toChars

theorem isDigit_of_mem_decimals {n : ℕ} {c : Char} (h : c ∈ decimals s n) : c.isDigit := by
  rw [decimals, List.leftpad, List.mem_append] at h
  rcases h with h | h
  · rw [List.eq_of_mem_replicate h]; rfl
  · exact Nat.isDigit_of_mem_toDigits (by norm_num) le_rfl h

theorem ofDigitChars_decimals (n : ℕ) : Nat.ofDigitChars 10 (decimals s n) 0 = n % 10 ^ s := by
  rw [decimals, List.leftpad, Nat.ofDigitChars_append, Nat.ofDigitChars_replicate_zero, mul_zero,
    Nat.ofDigitChars_ten_toDigits]

/-- A text of digits does not contain a character that is no digit. -/
theorem not_mem_toDigits {n : ℕ} {c : Char} (hc : c.isDigit = false) : c ∉ Nat.toDigits 10 n :=
  fun h => by
    rw [Nat.isDigit_of_mem_toDigits (by norm_num) le_rfl h] at hc
    cases hc

theorem not_mem_unsigned {n : ℕ} {c : Char} (hc : c.isDigit = false) (hd : c ≠ '.') :
    c ∉ unsigned s n := by
  rw [unsigned, List.mem_append, List.mem_cons]
  rintro (h | h | h)
  · exact not_mem_toDigits hc h
  · exact hd h
  · rw [isDigit_of_mem_decimals h] at hc; cases hc

/-- The text of a number of units determines it: the point separates two texts of digits. -/
theorem unsigned_injective : Function.Injective (unsigned s) := by
  intro m n h
  have hpoint : '.'.isDigit = false := rfl
  have hdec : '.' ∉ decimals s m := fun hm => by
    rw [isDigit_of_mem_decimals hm] at hpoint; cases hpoint
  obtain ⟨hint, -, hfrac⟩ :=
    (List.append_cons_inj_of_notMem (not_mem_toDigits hpoint) hdec).1 h
  have hdiv := congrArg (Nat.ofDigitChars 10 · 0) hint
  have hmod := congrArg (Nat.ofDigitChars 10 · 0) hfrac
  simp only [Nat.ofDigitChars_ten_toDigits] at hdiv
  simp only [ofDigitChars_decimals] at hmod
  rw [← Nat.div_add_mod m (10 ^ s), ← Nat.div_add_mod n (10 ^ s), hdiv, hmod]

theorem minus_mem_toChars_iff {x : Numeric p s} : '-' ∈ x.toChars ↔ x.units < 0 := by
  have hrest := not_mem_unsigned (s := s) (n := x.units.natAbs) (c := '-') rfl (by decide)
  rw [toChars, List.mem_append, or_iff_left hrest]
  split_ifs with h <;> simp [h]

/-- **The text of a column determines its value.** -/
theorem toText_injective : Function.Injective (toText : Numeric p s → String) := by
  intro x y h
  have hc : x.toChars = y.toChars := String.ofList_injective h
  have hsign : x.units < 0 ↔ y.units < 0 := by
    rw [← minus_mem_toChars_iff, ← minus_mem_toChars_iff, hc]
  simp only [toChars, hsign] at hc
  have habs := unsigned_injective (List.append_cancel_left hc)
  exact ext_units (by omega)

/-- The text of a value has a point. -/
theorem point_mem_toText (x : Numeric p s) : '.' ∈ x.toText.toList := by
  rw [toText, String.toList_ofList]
  exact List.mem_append_right _ (List.mem_append_right _ List.mem_cons_self)

/-- The length of a text: a sign, the digits, a point and the decimals. -/
theorem length_toText_le (x : Numeric p s) (hp : 0 < p) (hs : 0 < s) :
    x.toText.toList.length ≤ p + s + 2 := by
  have hint : (Nat.toDigits 10 (x.units.natAbs / 10 ^ s)).length ≤ p :=
    (Nat.length_toDigits_le_iff (by norm_num) hp).2 ((Nat.div_le_self _ _).trans_lt x.fits)
  have hfrac : (Nat.toDigits 10 (x.units.natAbs % 10 ^ s)).length ≤ s :=
    (Nat.length_toDigits_le_iff (by norm_num) hs).2 (Nat.mod_lt _ (by positivity))
  have hsign : (if x.units < 0 then ['-'] else []).length ≤ 1 := by split_ifs <;> simp
  rw [toText, String.toList_ofList, toChars, unsigned, decimals, List.leftpad]
  simp only [List.length_append, List.length_cons, List.length_replicate]
  omega

example : (ofRat? (-1 / 8) : Option (Numeric 20 2)).map toText = some "-0.13" := by
  decide +kernel

end Numeric

end OmsWmsTms
