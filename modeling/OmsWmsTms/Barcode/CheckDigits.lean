import OmsWmsTms.Barcode.Gtin
import OmsWmsTms.Control.Except

/-!
# What the check digits are worth

* `calcCheckDigit_of_decimals`, `calcEan13CheckDigit_eq` : what the two loops compute.
* `validateGtin_thirteen` : what comes of a code of thirteen digits.
* `Passes`, `gtin_checks` : generated codes pass, and no longer do so when one digit is changed or
  two neighbours change places.
* `IsGs1`, `isValid_iff` : a code of another length passes whatever its check digit is.
-/

namespace OmsWmsTms

namespace Barcode

open CheckDigit (alternating complement weightAt)

/-! ### The loops -/

section Loops

variable {chars : List Char} {digits : List ℕ} {s : String}

theorem checkLoop_of_decimals (h : Decimals chars digits) (i total : ℕ) :
    checkLoop i total chars =
      .ok (total + alternating (weightAt 1 3 i) (weightAt 3 1 i) digits) := by
  induction chars generalizing i total digits with
  | nil =>
    obtain rfl := List.length_eq_zero_iff.1 h.length_eq.symm
    rfl
  | cons ch chars ih =>
    obtain ⟨n, digits, rfl⟩ := List.exists_cons_of_length_eq_add_one h.length_eq.symm
    obtain ⟨hch, hchars⟩ := decimals_cons.1 h
    rw [checkLoop, intOf_eq_ok_iff.2 hch]
    refine (ih hchars (i + 1) _).trans ?_
    rw [CheckDigit.weightAt_succ, CheckDigit.weightAt_succ, CheckDigit.alternating_cons,
      Nat.add_assoc]
    rfl

/-- A loop that ends has read digits. -/
theorem decimals_of_checkLoop {i total result : ℕ} (h : checkLoop i total chars = .ok result) :
    ∃ digits, Decimals chars digits := by
  induction chars generalizing i total with
  | nil => exact ⟨[], rfl⟩
  | cons ch chars ih =>
    rw [checkLoop] at h
    obtain ⟨n, hn, hrest⟩ := bind_eq_ok_iff.1 h
    obtain ⟨digits, hdigits⟩ := ih hrest
    exact ⟨n :: digits, decimals_cons.2 ⟨intOf_eq_ok_iff.1 hn, hdigits⟩⟩

/-- **The check digit** completes the sum of the digits. -/
theorem calcCheckDigit_of_decimals (h : Decimals chars digits) :
    calcCheckDigit chars = .ok (complement 10 (alternating 1 3 digits)) := by
  rw [calcCheckDigit, checkLoop_of_decimals h]
  simp [weightAt, complement]

theorem decimals_of_calcCheckDigit {check : ℕ} (h : calcCheckDigit chars = .ok check) :
    ∃ digits, Decimals chars digits := by
  obtain ⟨total, htotal, -⟩ := bind_eq_ok_iff.1 h
  exact decimals_of_checkLoop htotal

/-- The second loop adds up the same products. -/
theorem weightedSum_eq_checkLoop (chars : List Char) (i total : ℕ) :
    weightedSum total (chars.zip ((List.range' i chars.length).map (weightAt 1 3))) =
      checkLoop i total chars := by
  induction chars generalizing i total with
  | nil => rfl
  | cons ch chars ih =>
    rw [List.length_cons, List.range'_succ, List.map_cons, List.zip_cons_cons, weightedSum,
      checkLoop]
    simp only [ih]
    rfl

/-- **The two loops agree** on twelve characters. -/
theorem calcEan13CheckDigit_eq (hlength : chars.length = 12) :
    calcEan13CheckDigit chars = calcCheckDigit chars := by
  have hweights : (List.replicate 6 [1, 3]).flatten =
      (List.range' 0 chars.length).map (weightAt 1 3) := by
    rw [hlength]
    decide
  rw [calcEan13CheckDigit, calcCheckDigit, List.take_of_length_le hlength.le, hweights,
    weightedSum_eq_checkLoop]

end Loops

/-! ### Validation -/

/-- A code passes. -/
def IsValid (s : String) : Prop := ∃ gtin format, validateGtin s = .ok (.valid gtin format)

/-- A code is rejected. -/
def IsRejected (s : String) : Prop := ∃ reason, validateGtin s = .ok (.invalid reason)

/-- The digits of a text have these values. -/
abbrev Reads (s : String) (digits : List ℕ) : Prop := Decimals (digitsOf s) digits

section Validation

variable {s : String} {chars : List Char} {digits front : List ℕ} {d : ℕ}

/-- The last digit, and those in front of it. -/
theorem Decimals.concat (h : Decimals chars (front ++ [d])) :
    ∃ chars' ch, chars = chars' ++ [ch] ∧ Decimals chars' front ∧ Text.decimal? ch = some d := by
  unfold Decimals at h
  rw [List.map_append, List.map_singleton] at h
  obtain ⟨chars', last, rfl, hfront, hlast⟩ := List.map_eq_append_iff.1 h
  obtain ⟨ch, rfl, hch⟩ := List.map_eq_singleton_iff.1 hlast
  exact ⟨chars', ch, rfl, hfront, hch⟩

/-- **What comes of a code of thirteen digits.** -/
theorem validateGtin_thirteen (h : Reads s (front ++ [d])) (hlength : front.length = 12) :
    validateGtin s = .ok (
      if d = complement 10 (alternating 1 3 front) then
        .valid (String.ofList (digitsOf s)) "ean13"
      else .invalid (mismatch (complement 10 (alternating 1 3 front)) d)) := by
  obtain ⟨chars, ch, hchars, hfront, hch⟩ := h.concat
  have hlength' : chars.length = 12 := hfront.length_eq.trans hlength
  have htake : (digitsOf s).take 12 = chars := by
    rw [hchars, ← hlength', List.take_left]
  have hlast : (digitsOf s).getD 12 '0' = ch := by
    rw [hchars, ← hlength']
    simp
  have hthirteen : (digitsOf s).length = 13 := by
    rw [hchars, List.length_append, hlength', List.length_singleton]
  unfold validateGtin
  simp only [hthirteen, htake, hlast, calcCheckDigit_of_decimals hfront, intOf_eq_ok_iff.2 hch]
  by_cases hcheck : d = complement 10 (alternating 1 3 front)
  · rw [if_pos hcheck]
    simp [bind, Except.bind, pure, Except.pure, hcheck]
  · rw [if_neg hcheck]
    simp [bind, Except.bind, pure, Except.pure, hcheck]

/-- It passes if its last digit is the check digit, and is rejected otherwise. -/
theorem isValid_concat_iff (h : Reads s (front ++ [d])) (hlength : front.length = 12) :
    (IsValid s ↔ d = complement 10 (alternating 1 3 front)) ∧ (IsValid s ∨ IsRejected s) := by
  have hanswer := validateGtin_thirteen h hlength
  by_cases hcheck : d = complement 10 (alternating 1 3 front)
  · rw [if_pos hcheck] at hanswer
    exact ⟨iff_of_true ⟨_, _, hanswer⟩ hcheck, .inl ⟨_, _, hanswer⟩⟩
  · rw [if_neg hcheck] at hanswer
    refine ⟨iff_of_false ?_ hcheck, .inr ⟨_, hanswer⟩⟩
    rintro ⟨gtin, format, hvalid⟩
    rw [hanswer] at hvalid
    cases hvalid

/-- It passes if the sum of its digits is a multiple of ten, and is rejected otherwise. -/
theorem isValid_thirteen_iff (h : Reads s digits) (hlength : digits.length = 13) :
    (IsValid s ↔ alternating 1 3 digits % 10 = 0) ∧ (IsValid s ∨ IsRejected s) := by
  obtain ⟨front, d, rfl⟩ : ∃ front d, digits = front ++ [d] :=
    ⟨_, _, (List.dropLast_append_getLast (List.ne_nil_of_length_eq_add_one hlength)).symm⟩
  have hfront : front.length = 12 := by simpa using hlength
  have hd : d < 10 := h.lt d (by simp)
  have hsum : alternating 1 3 (front ++ [d]) = alternating 1 3 front + d := by
    rw [CheckDigit.alternating_append, hfront]
    simp [weightAt]
  rw [hsum, ← CheckDigit.complement_eq_iff hd, eq_comm]
  exact isValid_concat_iff h hfront

/-! ### Errors -/

variable {code code' : String} {rest : List ℕ} {x y : ℕ}

/-- **A wrong digit is found.** -/
theorem isRejected_of_change (hcode : Reads code (front ++ x :: rest))
    (hlength : (front ++ x :: rest).length = 13) (hvalid : IsValid code)
    (hcode' : Reads code' (front ++ y :: rest)) (hne : x ≠ y) : IsRejected code' := by
  have hlength' : (front ++ y :: rest).length = 13 := by simpa using hlength
  refine (isValid_thirteen_iff hcode' hlength').2.resolve_left fun hvalid' => hne ?_
  rw [(isValid_thirteen_iff hcode hlength).1] at hvalid
  rw [(isValid_thirteen_iff hcode' hlength').1] at hvalid'
  have hmod : x ≡ y [MOD 10] := (CheckDigit.change_modEq_iff (by decide) (by decide) front rest
    x y).1 (hvalid.trans hvalid'.symm)
  have hx : x < 10 := hcode.lt x (by simp)
  have hy : y < 10 := hcode'.lt y (by simp)
  exact Nat.ModEq.eq_of_lt_of_lt hmod hx hy

/-- **Two neighbours in each other's place are found**, unless their difference is 5. -/
theorem isRejected_of_swap (hcode : Reads code (front ++ x :: y :: rest))
    (hlength : (front ++ x :: y :: rest).length = 13) (hvalid : IsValid code)
    (hcode' : Reads code' (front ++ y :: x :: rest)) (hne : x ≠ y) (hxy : x ≠ y + 5)
    (hyx : y ≠ x + 5) : IsRejected code' := by
  have hlength' : (front ++ y :: x :: rest).length = 13 := by simpa using hlength
  refine (isValid_thirteen_iff hcode' hlength').2.resolve_left fun hvalid' => hne ?_
  rw [(isValid_thirteen_iff hcode hlength).1] at hvalid
  rw [(isValid_thirteen_iff hcode' hlength').1] at hvalid'
  have hdvd : ((10 : ℕ) : ℤ) ∣ (((1 : ℕ) : ℤ) - ((3 : ℕ) : ℤ)) * (x - y) :=
    (CheckDigit.swap_modEq_iff front rest x y).1 (hvalid.trans hvalid'.symm)
  have hx : x < 10 := hcode.lt x (by simp)
  have hy : y < 10 := hcode'.lt y (by simp)
  -- half the modulus divides the difference
  omega

end Validation

/-! ### Generation -/

/-- **A code passes**: it has thirteen digits, and `validate_gtin` returns it. -/
structure Passes (code : String) : Prop where
  length : code.toList.length = 13
  isDigit : ∀ ch ∈ code.toList, isDigit ch = true
  valid : validateGtin code = .ok (.valid code "ean13")

section Generation

variable {padded : List Char} {digits : List ℕ} {check : ℕ} {gtinPrefix sku code : String}

/-- Twelve digits and their check digit pass. -/
theorem passes_of_decimals (h : Decimals padded digits) (hlength : padded.length = 12)
    (hcheck : calcCheckDigit padded = .ok check) :
    Passes (String.ofList (padded ++ (toString check).toList)) := by
  rw [calcCheckDigit_of_decimals h] at hcheck
  obtain rfl := Except.ok.inj hcheck
  have hlt : complement 10 (alternating 1 3 digits) < 10 := Nat.mod_lt _ (by decide)
  have hdecimals := h.append (decimals_toString _ hlt)
  have hdigits : Reads (String.ofList (padded ++ (toString (complement 10
      (alternating 1 3 digits))).toList)) (digits ++ [complement 10 (alternating 1 3 digits)]) := by
    rw [Reads, hdecimals.digitsOf]
    exact hdecimals
  have hanswer := validateGtin_thirteen hdigits (h.length_eq.symm.trans hlength)
  rw [if_pos rfl, hdecimals.digitsOf] at hanswer
  refine ⟨?_, ?_, hanswer⟩
  · rw [String.toList_ofList, hdecimals.length_eq, List.length_append, ← h.length_eq, hlength]
    rfl
  · rw [String.toList_ofList]
    exact hdecimals.isDigit

theorem length_rightpad {chars : List Char} (h : chars.length ≤ 12) :
    (chars.rightpad 12 '0').length = 12 := by
  rw [List.length_rightpad, max_eq_left h]

/-- What `generate_gtin` returns. -/
theorem generateGtin_eq_ok_iff : generateGtin gtinPrefix = .ok code ↔
    7 ≤ (digitsOf gtinPrefix).length ∧ (digitsOf gtinPrefix).length ≤ 12 ∧
      ∃ check, calcCheckDigit ((digitsOf gtinPrefix).rightpad 12 '0') = .ok check ∧
        code = String.ofList ((digitsOf gtinPrefix).rightpad 12 '0' ++ (toString check).toList) := by
  unfold generateGtin
  dsimp only
  split_ifs with hlength
  · refine iff_of_false (fun h => by cases h) ?_
    rintro ⟨hle, hge, -⟩
    omega
  · rw [bind_eq_ok_iff]
    simp only [pure_eq_ok_iff, eq_comm (a := code)]
    refine ⟨fun h => ⟨by omega, by omega, h⟩, fun h => h.2.2⟩

/-- What `generate_gtin_from_sku` returns. -/
theorem generateGtinFromSku_eq_ok_iff : generateGtinFromSku sku = .ok code ↔
    ∃ check, calcCheckDigit (((digitsOf sku).take 12).rightpad 12 '0') = .ok check ∧
      code = String.ofList (((digitsOf sku).take 12).rightpad 12 '0' ++
        (toString check).toList) := by
  unfold generateGtinFromSku
  dsimp only
  rw [calcEan13CheckDigit_eq (length_rightpad (List.length_take_le _ _)), bind_eq_ok_iff]
  simp only [pure_eq_ok_iff, eq_comm (a := code)]

/-- The code of an ASCII SKU. -/
theorem exists_generateGtinFromSku (hascii : Text.isAscii sku = true) :
    ∃ code, generateGtinFromSku sku = .ok code := by
  obtain ⟨digits, hdigits⟩ := exists_decimals_of_isAscii hascii
  have hpadded : Decimals (((digitsOf sku).take 12).rightpad 12 '0')
      (digits.take 12 ++ List.replicate (12 - ((digitsOf sku).take 12).length) 0) :=
    (hdigits.take 12).append (decimals_replicate _)
  exact ⟨_, generateGtinFromSku_eq_ok_iff.2 ⟨_, calcCheckDigit_of_decimals hpadded, rfl⟩⟩

/-- What `generate_gtin` returns passes. -/
theorem passes_of_generateGtin (h : generateGtin gtinPrefix = .ok code) : Passes code := by
  obtain ⟨-, hle, check, hcheck, rfl⟩ := generateGtin_eq_ok_iff.1 h
  obtain ⟨digits, hdigits⟩ := decimals_of_calcCheckDigit hcheck
  exact passes_of_decimals hdigits (length_rightpad hle) hcheck

/-- So does what `generate_gtin_from_sku` returns. -/
theorem passes_of_generateGtinFromSku (h : generateGtinFromSku sku = .ok code) : Passes code := by
  obtain ⟨check, hcheck, rfl⟩ := generateGtinFromSku_eq_ok_iff.1 h
  obtain ⟨digits, hdigits⟩ := decimals_of_calcCheckDigit hcheck
  exact passes_of_decimals hdigits (length_rightpad (List.length_take_le _ _)) hcheck

/-- **The check digits.**  Generated codes pass, the two loops agree, and a code that passes is
rejected when one of its digits is changed, or when two neighbours change places whose difference is
not 5. -/
theorem gtin_checks :
    (∀ gtinPrefix code, generateGtin gtinPrefix = .ok code → Passes code) ∧
    (∀ sku, Text.isAscii sku = true →
      ∃ code, generateGtinFromSku sku = .ok code ∧ Passes code) ∧
    (∀ digits : List Char, digits.length = 12 →
      calcCheckDigit digits = calcEan13CheckDigit digits) ∧
    (∀ code code' front rest x y, Reads code (front ++ x :: rest) →
      (front ++ x :: rest).length = 13 → IsValid code →
      Reads code' (front ++ y :: rest) → x ≠ y → IsRejected code') ∧
    ∀ code code' front rest x y, Reads code (front ++ x :: y :: rest) →
      (front ++ x :: y :: rest).length = 13 → IsValid code →
      Reads code' (front ++ y :: x :: rest) → x ≠ y → x ≠ y + 5 → y ≠ x + 5 →
      IsRejected code' := by
  refine ⟨fun gtinPrefix code => passes_of_generateGtin, fun sku hascii => ?_,
    fun digits hlength => (calcEan13CheckDigit_eq hlength).symm, ?_, ?_⟩
  · obtain ⟨code, h⟩ := exists_generateGtinFromSku hascii
    exact ⟨code, h, passes_of_generateGtinFromSku h⟩
  · intro code code' front rest x y
    exact isRejected_of_change
  · intro code code' front rest x y
    exact isRejected_of_swap

/-- A coffee mug: its code passes, and no longer does so with a wrong digit or with two neighbours in
each other's place. -/
theorem gtin_checks_mug : (∃ code, generateGtin "400638133393" = .ok code ∧ Passes code) ∧
    (∃ code, generateGtinFromSku "MUG-4006" = .ok code ∧ Passes code) ∧
    calcCheckDigit "400638133393".toList = calcEan13CheckDigit "400638133393".toList ∧
    IsRejected "4006381338931" ∧ IsRejected "4060381333931" := by
  have hcode : generateGtin "400638133393" = .ok "4006381333931" := by decide +kernel
  have hvalid : IsValid "4006381333931" := ⟨_, _, (gtin_checks.1 _ _ hcode).valid⟩
  have hreads : Reads "4006381333931" [4, 0, 0, 6, 3, 8, 1, 3, 3, 3, 9, 3, 1] := by decide +kernel
  refine ⟨⟨_, hcode, gtin_checks.1 _ _ hcode⟩, gtin_checks.2.1 _ (by decide),
    gtin_checks.2.2.1 _ (by decide), ?_, ?_⟩
  · exact gtin_checks.2.2.2.1 _ _ [4, 0, 0, 6, 3, 8, 1, 3, 3] [9, 3, 1] 3 8 hreads rfl hvalid
      (by decide +kernel) (by decide)
  · exact gtin_checks.2.2.2.2 _ _ [4, 0] [3, 8, 1, 3, 3, 3, 9, 3, 1] 0 6 hreads rfl hvalid
      (by decide +kernel) (by decide) (by decide) (by decide)

end Generation

/-! ### Codes of other lengths -/

/-- The GS1 check digit: from the right the digits weigh 3 and 1 in turn. -/
def gs1CheckDigit (digits : List ℕ) : ℕ := complement 10 (alternating 3 1 digits.reverse)

/-- **GS1 validation**: the digits are 8, 12, 13 or 14, and the last one is the check digit of the
others. -/
def IsGs1 (s : String) : Prop :=
  ∃ front d, Reads s (front ++ [d]) ∧ front.length + 1 ∈ [8, 12, 13, 14] ∧ d = gs1CheckDigit front

/-- What `validate_gtin` accepts: only for 13 digits the last one is looked at. -/
def IsAccepted (s : String) : Prop :=
  (digitsOf s).length ∈ [8, 12, 14] ∨
    ∃ front d, Reads s (front ++ [d]) ∧ front.length = 12 ∧ d = gs1CheckDigit front

section Lengths

variable {s : String} {front : List ℕ}

/-- Of twelve digits the first one weighs 1. -/
theorem gs1CheckDigit_of_length (h : front.length = 12) :
    gs1CheckDigit front = complement 10 (alternating 1 3 front) := by
  rw [gs1CheckDigit, CheckDigit.alternating_reverse, h]
  rfl

/-- A code of thirteen digits that passes has been read to its end. -/
theorem reads_of_isValid (h : IsValid s) (hlength : (digitsOf s).length = 13) :
    ∃ front d, Reads s (front ++ [d]) ∧ front.length = 12 := by
  obtain ⟨gtin, format, hvalid⟩ := h
  unfold validateGtin at hvalid
  simp only [hlength] at hvalid
  obtain ⟨expected, hexpected, hvalid⟩ := bind_eq_ok_iff.1 hvalid
  obtain ⟨actual, hactual, -⟩ := bind_eq_ok_iff.1 hvalid
  obtain ⟨front, hfront⟩ := decimals_of_calcCheckDigit hexpected
  have htake : ((digitsOf s).take 12).length = 12 := by simp [hlength]
  refine ⟨front, actual, ?_, hfront.length_eq.symm.trans htake⟩
  have hlast : digitsOf s = (digitsOf s).take 12 ++ [(digitsOf s).getD 12 '0'] := by
    conv_lhs => rw [← List.take_append_drop 12 (digitsOf s)]
    rw [List.drop_eq_getElem_cons (by omega), List.drop_of_length_le (by omega)]
    simp [hlength]
  rw [Reads, hlast]
  exact hfront.append (decimals_cons.2 ⟨intOf_eq_ok_iff.1 hactual, decimals_nil⟩)

theorem isValid_iff_of_thirteen (h : (digitsOf s).length = 13) : IsValid s ↔ IsAccepted s := by
  have hother : (digitsOf s).length ∉ [8, 12, 14] := by
    rw [h]
    decide
  have hread (front : List ℕ) (d : ℕ) (hfront : Reads s (front ++ [d]))
      (hlength : front.length = 12) : IsValid s ↔ d = gs1CheckDigit front := by
    rw [gs1CheckDigit_of_length hlength]
    exact (isValid_concat_iff hfront hlength).1
  rw [IsAccepted, or_iff_right hother]
  constructor
  · intro hvalid
    obtain ⟨front, d, hfront, hlength⟩ := reads_of_isValid hvalid h
    exact ⟨front, d, hfront, hlength, (hread front d hfront hlength).1 hvalid⟩
  · rintro ⟨front, d, hfront, hlength, hcheck⟩
    exact (hread front d hfront hlength).2 hcheck

/-- The digits of a code of another length are only counted. -/
theorem isValid_iff_of_ne (h : (digitsOf s).length ≠ 13) : IsValid s ↔ IsAccepted s := by
  have hnot : ¬ ∃ front d, Reads s (front ++ [d]) ∧ front.length = 12 ∧
      d = gs1CheckDigit front := by
    rintro ⟨front, d, hfront, hlength, -⟩
    refine h ?_
    rw [hfront.length_eq, List.length_append, hlength]
    rfl
  have hmem : (digitsOf s).length ∈ [8, 12, 13, 14] ↔ (digitsOf s).length ∈ [8, 12, 14] := by
    simp [h]
  rw [IsAccepted, or_iff_left hnot]
  by_cases hlength : (digitsOf s).length ∈ [8, 12, 14]
  · refine iff_of_true ⟨String.ofList (digitsOf s), "other", ?_⟩ hlength
    rw [validateGtin, if_neg (not_not.2 (hmem.2 hlength)), if_neg h]
  · refine iff_of_false ?_ hlength
    rintro ⟨gtin, format, hvalid⟩
    rw [validateGtin, if_pos (mt hmem.1 hlength)] at hvalid
    cases hvalid

/-- **Which codes pass**: those of 8, 12 or 14 digits, and those of 13 with their GS1 check
digit. -/
theorem isValid_iff (s : String) : IsValid s ↔ IsAccepted s := by
  by_cases h : (digitsOf s).length = 13
  · exact isValid_iff_of_thirteen h
  · exact isValid_iff_of_ne h

/-- **Eight digits with a wrong check digit** pass. -/
theorem eightDigits_not_isGs1 : Text.isAscii "12345678" = true ∧ IsValid "12345678" ∧
    ¬ IsGs1 "12345678" := by
  refine ⟨by decide, ⟨_, _, show validateGtin "12345678" = .ok (.valid "12345678" "other") by
    decide +kernel⟩, ?_⟩
  rintro ⟨front, d, hread, -, hcheck⟩
  have hdigits : Reads "12345678" ([1, 2, 3, 4, 5, 6, 7] ++ [8]) := by decide +kernel
  have heq : front ++ [d] = [1, 2, 3, 4, 5, 6, 7] ++ [8] :=
    List.map_injective_iff.2 (Option.some_injective ℕ) (hread.symm.trans hdigits)
  obtain ⟨rfl, hlast⟩ := List.append_inj' heq rfl
  obtain rfl := (List.cons.inj hlast).1
  exact absurd hcheck (by decide)

end Lengths

end Barcode

end OmsWmsTms
