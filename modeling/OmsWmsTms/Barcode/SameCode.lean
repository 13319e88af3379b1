import OmsWmsTms.Barcode.CheckDigits
import Mathlib.Data.List.DropRight

/-!
# Which articles get the same number

Both generators pad the digits with zeros at the end, and `generate_gtin_from_sku` takes the first
twelve of them only.

* `significant` : digits without the zeros at their end.
* `rightpad_eq_iff` : when two texts become the same by padding.
* `codes_differ_iff` : when two prefixes, or two SKUs, get different codes.
-/

namespace OmsWmsTms

namespace Barcode

/-- Digits without the zeros at their end. -/
def significant (digits : List Char) : List Char := digits.rdropWhile fun ch => ch = '0'

section Padding

variable {l l' : List Char} {n : ℕ}

theorem significant_append_zeros (l : List Char) (k : ℕ) :
    significant (l ++ List.replicate k '0') = significant l := by
  induction k with
  | zero => rw [List.replicate_zero, List.append_nil]
  | succ k ih =>
    rw [List.replicate_succ', ← List.append_assoc]
    exact (List.rdropWhile_concat_pos _ _ _ (by simp)).trans ih

/-- Digits are their significant ones, and zeros. -/
theorem exists_significant_append (l : List Char) :
    ∃ k, l = significant l ++ List.replicate k '0' := by
  refine ⟨(l.rtakeWhile fun ch => ch = '0').length, ?_⟩
  have hzeros : (l.rtakeWhile fun ch => ch = '0') =
      List.replicate (l.rtakeWhile fun ch => ch = '0').length '0' :=
    List.eq_replicate_of_mem fun ch hch => by simpa using List.mem_rtakeWhile_imp hch
  rw [← hzeros]
  exact List.rdropWhile_append_rtakeWhile.symm

/-- **Padding with zeros** makes two texts equal if they are so without the zeros at their end. -/
theorem rightpad_eq_iff (h : l.length ≤ n) (h' : l'.length ≤ n) :
    l.rightpad n '0' = l'.rightpad n '0' ↔ significant l = significant l' := by
  have hpad (l : List Char) (h : l.length ≤ n) : l.rightpad n '0' =
      significant l ++ List.replicate (n - (significant l).length) '0' := by
    obtain ⟨k, hk⟩ := exists_significant_append l
    have hlength : l.length = (significant l).length + k := by
      conv_lhs => rw [hk]
      rw [List.length_append, List.length_replicate]
    have hrest : n - (significant l).length = k + (n - l.length) := by omega
    rw [List.rightpad, hrest, List.replicate_add, ← List.append_assoc, ← hk]
  constructor
  · intro heq
    have hboth := congrArg significant heq
    rwa [List.rightpad, List.rightpad, significant_append_zeros, significant_append_zeros] at hboth
  · intro heq
    rw [hpad l h, hpad l' h', heq]

end Padding

section Codes

variable {padded padded' : List Char} {check check' : ℕ}

/-- Codes of different digits differ. -/
theorem code_eq_iff (hlength : padded.length = padded'.length)
    (hcheck : calcCheckDigit padded = .ok check) (hcheck' : calcCheckDigit padded' = .ok check') :
    String.ofList (padded ++ (toString check).toList) =
      String.ofList (padded' ++ (toString check').toList) ↔ padded = padded' := by
  constructor
  · intro heq
    have hlists := congrArg String.toList heq
    rw [String.toList_ofList, String.toList_ofList] at hlists
    exact (List.append_inj hlists hlength).1
  · rintro rfl
    rw [hcheck] at hcheck'
    rw [Except.ok.inj hcheck']

/-- **Two prefixes** get different codes exactly if their digits differ before the zeros at their
end, **and two SKUs** exactly if their first twelve digits do. -/
theorem codes_differ_iff :
    (∀ gtinPrefix gtinPrefix' code code', generateGtin gtinPrefix = .ok code →
      generateGtin gtinPrefix' = .ok code' →
      (code ≠ code' ↔
        significant (digitsOf gtinPrefix) ≠ significant (digitsOf gtinPrefix'))) ∧
    ∀ sku sku' code code', generateGtinFromSku sku = .ok code →
      generateGtinFromSku sku' = .ok code' →
      (code ≠ code' ↔
        significant ((digitsOf sku).take 12) ≠ significant ((digitsOf sku').take 12)) := by
  constructor
  · intro gtinPrefix gtinPrefix' code code' h h'
    obtain ⟨-, hle, check, hcheck, rfl⟩ := generateGtin_eq_ok_iff.1 h
    obtain ⟨-, hle', check', hcheck', rfl⟩ := generateGtin_eq_ok_iff.1 h'
    have hlength := (length_rightpad hle).trans (length_rightpad hle').symm
    exact not_congr ((code_eq_iff hlength hcheck hcheck').trans (rightpad_eq_iff hle hle'))
  · intro sku sku' code code' h h'
    obtain ⟨check, hcheck, rfl⟩ := generateGtinFromSku_eq_ok_iff.1 h
    obtain ⟨check', hcheck', rfl⟩ := generateGtinFromSku_eq_ok_iff.1 h'
    have hle := List.length_take_le 12 (digitsOf sku)
    have hle' := List.length_take_le 12 (digitsOf sku')
    have hlength := (length_rightpad hle).trans (length_rightpad hle').symm
    exact not_congr ((code_eq_iff hlength hcheck hcheck').trans (rightpad_eq_iff hle hle'))

/-- Two prefixes, and two SKUs, with different codes. -/
theorem codes_differ_mugs :
    (∃ code code', generateGtin "4006381" = .ok code ∧ generateGtin "4006382" = .ok code' ∧
      code ≠ code') ∧
    ∃ code code', generateGtinFromSku "MUG-1" = .ok code ∧ generateGtinFromSku "MUG-2" = .ok code' ∧
      code ≠ code' := by
  have hfirst : generateGtin "4006381" = .ok "4006381000000" := by decide +kernel
  have hsecond : generateGtin "4006382" = .ok "4006382000009" := by decide +kernel
  have hmug : generateGtinFromSku "MUG-1" = .ok "1000000000009" := by decide +kernel
  have hmug' : generateGtinFromSku "MUG-2" = .ok "2000000000008" := by decide +kernel
  exact ⟨⟨_, _, hfirst, hsecond, (codes_differ_iff.1 _ _ _ _ hfirst hsecond).2 (by decide +kernel)⟩,
    _, _, hmug, hmug', (codes_differ_iff.2 _ _ _ _ hmug hmug').2 (by decide +kernel)⟩

/-- **Different digits, and different SKUs, with the same code.** -/
theorem mugs_share_codes :
    (digitsOf "4006381" ≠ digitsOf "40063810" ∧
      generateGtin "4006381" = generateGtin "40063810" ∧
      generateGtin "4006381" = .ok "4006381000000") ∧
    generateGtinFromSku "MUG" = generateGtinFromSku "CUP" ∧
    generateGtinFromSku "MUG" = .ok "0000000000000" := by
  decide +kernel

end Codes

end Barcode

end OmsWmsTms
