import OmsWmsTms.Data.CheckDigit
import OmsWmsTms.Data.Unicode

/-!
# Article numbers

The GTIN helpers of `src/barcode/service.py` and `src/barcode/excel_barcode.py`.

* `isDigit` : `str.isdigit`, which holds of more characters than `int` reads.
* `calcCheckDigit`, `calcEan13CheckDigit` : the two checksum loops.
* `generateGtin`, `generateGtinFromSku`, `validateGtin` : the helpers.
* `Decimals` : the values of some digits.
-/

namespace OmsWmsTms

namespace Barcode

/-! ### Digits -/

/-- The digits that have no decimal value: superscripts, and those in circles and the like. -/
def specialDigits : List (ℕ × ℕ) :=
  [(178, 179), (185, 185), (4969, 4977), (6618, 6618), (8304, 8304), (8308, 8313), (8320, 8329),
    (9312, 9320), (9332, 9340), (9352, 9360), (9450, 9450), (9461, 9469), (9471, 9471),
    (10102, 10110), (10112, 10120), (10122, 10130), (68160, 68163), (69216, 69224),
    (69714, 69722), (127232, 127242)]

/-- `ch.isdigit()`. -/
def isDigit (ch : Char) : Bool :=
  (Text.decimal? ch).isSome ||
    specialDigits.any fun range => range.1 ≤ ch.toNat && ch.toNat ≤ range.2

/-- `cleaned`: the digits of a text. -/
def digitsOf (s : String) : List Char := s.toList.filter isDigit

/-- What the helpers raise. -/
inductive GtinError
  /-- `ValueError`: `int` of a digit that has no decimal value. -/
  | valueError
  /-- `ValidationException`. -/
  | validation (message : String)
deriving DecidableEq

/-- `int(ch)`. -/
def intOf (ch : Char) : Except GtinError ℕ := (Text.decimal? ch).elim (.error .valueError) .ok

/-! ### The helpers -/

/-- The loop of `_calc_check_digit`. -/
def checkLoop (i total : ℕ) : List Char → Except GtinError ℕ
  | [] => .ok total
  | ch :: digits => do
    let weight := if i % 2 = 0 then 1 else 3
    let n ← intOf ch
    checkLoop (i + 1) (total + n * weight) digits

/-- `_calc_check_digit`. -/
def calcCheckDigit (digits : List Char) : Except GtinError ℕ := do
  let total ← checkLoop 0 0 digits
  return (10 - total % 10) % 10

/-- `sum(int(d) * w for d, w in pairs)`. -/
def weightedSum (total : ℕ) : List (Char × ℕ) → Except GtinError ℕ
  | [] => .ok total
  | (d, w) :: pairs => do
    let n ← intOf d
    weightedSum (total + n * w) pairs

/-- `calc_ean13_check_digit`. -/
def calcEan13CheckDigit (digits : List Char) : Except GtinError ℕ := do
  let total ← weightedSum 0 ((digits.take 12).zip (List.replicate 6 [1, 3]).flatten)
  return (10 - total % 10) % 10

/-- `generate_gtin`. -/
def generateGtin (gtinPrefix : String) : Except GtinError String :=
  let cleaned := digitsOf gtinPrefix
  if cleaned.length < 7 ∨ 12 < cleaned.length then
    .error (.validation s!"GTIN prefix must be 7-12 digits, got {cleaned.length}")
  else do
    let padded := cleaned.rightpad 12 '0'
    let check ← calcCheckDigit padded
    return String.ofList (padded ++ (toString check).toList)

/-- `generate_gtin_from_sku`. -/
def generateGtinFromSku (sku : String) : Except GtinError String := do
  let padded := ((digitsOf sku).take 12).rightpad 12 '0'
  let check ← calcEan13CheckDigit padded
  return String.ofList (padded ++ (toString check).toList)

/-- What `validate_gtin` returns. -/
inductive Validation
  | invalid (reason : String)
  | valid (gtin format : String)
deriving DecidableEq

/-- The reason of a wrong check digit. -/
def mismatch (expectedCheck actualCheck : ℕ) : String :=
  s!"Check digit mismatch: expected {expectedCheck}, got {actualCheck}"

/-- `validate_gtin`. -/
def validateGtin (gtin : String) : Except GtinError Validation :=
  let cleaned := digitsOf gtin
  if cleaned.length ∉ [8, 12, 13, 14] then
    .ok (.invalid s!"Invalid length: {cleaned.length} (expected 8, 12, 13, or 14)")
  else if cleaned.length = 13 then do
    let expectedCheck ← calcCheckDigit (cleaned.take 12)
    let actualCheck ← intOf (cleaned.getD 12 '0')
    if actualCheck ≠ expectedCheck then return .invalid (mismatch expectedCheck actualCheck)
    else return .valid (String.ofList cleaned) "ean13"
  else .ok (.valid (String.ofList cleaned) "other")

example : validateGtin "4-006381-333931" = .ok (.valid "4006381333931" "ean13") := by
  decide +kernel

/-! ### The values of digits -/

/-- Some characters are digits with these values. -/
def Decimals (chars : List Char) (digits : List ℕ) : Prop :=
  chars.map Text.decimal? = digits.map some

instance (chars : List Char) (digits : List ℕ) : Decidable (Decimals chars digits) :=
  inferInstanceAs (Decidable (_ = _))

section Decimals

variable {chars chars' : List Char} {digits digits' : List ℕ} {ch : Char} {n : ℕ}

@[simp] theorem decimals_nil : Decimals [] [] := rfl

@[simp] theorem decimals_cons :
    Decimals (ch :: chars) (n :: digits) ↔ Text.decimal? ch = some n ∧ Decimals chars digits := by
  simp [Decimals]

theorem Decimals.length_eq (h : Decimals chars digits) : chars.length = digits.length := by
  simpa using congrArg List.length h

theorem Decimals.append (h : Decimals chars digits) (h' : Decimals chars' digits') :
    Decimals (chars ++ chars') (digits ++ digits') := by
  unfold Decimals at *
  rw [List.map_append, List.map_append, h, h']

theorem Decimals.take (h : Decimals chars digits) (k : ℕ) :
    Decimals (chars.take k) (digits.take k) := by
  unfold Decimals at *
  rw [List.map_take, List.map_take, h]

theorem decimal?_lt (h : Text.decimal? ch = some n) : n < 10 := by
  obtain ⟨first, hfirst, rfl⟩ := Option.map_eq_some_iff.1 h
  have hrange := List.find?_some hfirst
  simp only [decide_eq_true_eq] at hrange
  omega

theorem Decimals.lt (h : Decimals chars digits) : ∀ n ∈ digits, n < 10 := by
  intro n hn
  have hmem : some n ∈ chars.map Text.decimal? := by
    rw [h]
    exact List.mem_map_of_mem hn
  obtain ⟨ch, -, hch⟩ := List.mem_map.1 hmem
  exact decimal?_lt hch

theorem Decimals.isDigit (h : Decimals chars digits) : ∀ ch ∈ chars, isDigit ch = true := by
  intro ch hch
  have hmem : Text.decimal? ch ∈ digits.map some := by
    rw [← h]
    exact List.mem_map_of_mem hch
  obtain ⟨n, -, hn⟩ := List.mem_map.1 hmem
  simp [Barcode.isDigit, ← hn]

theorem intOf_eq_ok_iff : intOf ch = .ok n ↔ Text.decimal? ch = some n := by
  unfold intOf
  cases Text.decimal? ch <;> simp

/-- The text of a check digit. -/
theorem decimals_toString : ∀ n < 10, Decimals (toString n).toList [n] := by
  decide

theorem decimals_replicate (k : ℕ) : Decimals (List.replicate k '0') (List.replicate k 0) := by
  have hzero : Text.decimal? '0' = some 0 := by decide
  simp [Decimals, hzero]

/-- The digits of a text of digits. -/
theorem Decimals.digitsOf (h : Decimals chars digits) : digitsOf (String.ofList chars) = chars := by
  unfold Barcode.digitsOf
  rw [String.toList_ofList, List.filter_eq_self]
  exact h.isDigit

/-- An ASCII character is a digit only if it has a value. -/
theorem isSome_decimal?_of_isDigit (hascii : ch.toNat < 128) (h : isDigit ch = true) :
    (Text.decimal? ch).isSome = true := by
  unfold isDigit at h
  rcases Bool.or_eq_true_iff.1 h with h | h
  · exact h
  · -- the special digits are no ASCII characters
    obtain ⟨range, hrange, hle⟩ := List.any_eq_true.1 h
    have hstart : ∀ range ∈ specialDigits, 128 ≤ range.1 := by decide
    have := hstart range hrange
    simp only [Bool.and_eq_true, decide_eq_true_eq] at hle
    omega

/-- Characters that all have values. -/
theorem exists_decimals (h : ∀ ch ∈ chars, (Text.decimal? ch).isSome = true) :
    ∃ digits, Decimals chars digits := by
  induction chars with
  | nil => exact ⟨[], rfl⟩
  | cons ch chars ih =>
    obtain ⟨hch, hchars⟩ := List.forall_mem_cons.1 h
    obtain ⟨n, hn⟩ := Option.isSome_iff_exists.1 hch
    obtain ⟨digits, hdigits⟩ := ih hchars
    exact ⟨n :: digits, decimals_cons.2 ⟨hn, hdigits⟩⟩

/-- The digits of an ASCII text have values. -/
theorem exists_decimals_of_isAscii {s : String} (h : Text.isAscii s = true) :
    ∃ digits, Decimals (Barcode.digitsOf s) digits := by
  refine exists_decimals fun ch hch => ?_
  obtain ⟨hmem, hdigit⟩ := List.mem_filter.1 hch
  have hascii := List.all_eq_true.1 h ch hmem
  exact isSome_decimal?_of_isDigit (by simpa using hascii) hdigit

end Decimals

end Barcode

end OmsWmsTms
