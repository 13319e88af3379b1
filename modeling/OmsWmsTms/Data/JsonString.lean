import Mathlib.Data.List.Basic
import Mathlib.Tactic.SplitIfs

/-!
# The strings of JSON texts

A `str` of Python is a list of code points, surrogates included.  `json.dumps` writes the code points
off ASCII as escapes, those above the basic plane as two surrogates, and `json.loads` joins two
surrogates that meet, wherever they come from.

* `escape`, `dumpString` : a string as `json.dumps` writes it.
* `joinSurrogates`, `scanString` : what `json.loads` reads.
* `scanString_dumpString` : a string is read back with its surrogates joined.
* `joinSurrogates_eq_self_iff` : that changes nothing exactly when no two of them meet (`Apart`).
-/

namespace OmsWmsTms

/-- A code point. -/
abbrev CodePoint := Fin 1114112

/-- A `str`. -/
abbrev PyStr := List CodePoint

namespace PyStr

/-- The code points of some characters. -/
def ofChars (chars : List Char) : PyStr := chars.map fun c => Fin.ofNat _ c.toNat

/-- The code points of a text. -/
def ofString (s : String) : PyStr := ofChars s.toList

end PyStr

namespace JsonText

/-! ### Surrogates -/

/-- The first of two surrogates. -/
def IsHigh (c : CodePoint) : Prop := 0xd800 ≤ c.val ∧ c.val ≤ 0xdbff

/-- The second of two surrogates. -/
def IsLow (c : CodePoint) : Prop := 0xdc00 ≤ c.val ∧ c.val ≤ 0xdfff

instance (c : CodePoint) : Decidable (IsHigh c) := inferInstanceAs (Decidable (_ ∧ _))

instance (c : CodePoint) : Decidable (IsLow c) := inferInstanceAs (Decidable (_ ∧ _))

/-- The first surrogate of a code point above the basic plane. -/
def high (c : CodePoint) : CodePoint := Fin.ofNat _ (0xd800 + (c.val - 0x10000) / 0x400)

/-- The second one. -/
def low (c : CodePoint) : CodePoint := Fin.ofNat _ (0xdc00 + (c.val - 0x10000) % 0x400)

/-- The code point of two surrogates. -/
def join (c d : CodePoint) : CodePoint :=
  Fin.ofNat _ (0x10000 + (c.val - 0xd800) * 0x400 + (d.val - 0xdc00))

/-- Join the surrogates that meet, from the left. -/
def joinSurrogates : PyStr → PyStr
  | [] => []
  | [c] => [c]
  | c :: d :: rest =>
    if IsHigh c ∧ IsLow d then join c d :: joinSurrogates rest
    else c :: joinSurrogates (d :: rest)

/-- No two surrogates meet. -/
def Apart (s : PyStr) : Prop := s.IsChain fun c d => ¬ (IsHigh c ∧ IsLow d)

instance (s : PyStr) : Decidable (Apart s) := inferInstanceAs (Decidable (List.IsChain _ _))

/-! ### Writing -/

/-- `\uXXXX`. -/
def unicodeEscape (c : CodePoint) : List Char :=
  ['\\', 'u', Nat.digitChar (c.val / 0x1000), Nat.digitChar (c.val / 0x100 % 0x10),
    Nat.digitChar (c.val / 0x10 % 0x10), Nat.digitChar (c.val % 0x10)]

/-- The character that stands for a code point after a backslash. -/
def shortEscape? (c : CodePoint) : Option Char :=
  match c.val with
  | 34 => some '"'
  | 92 => some '\\'
  | 10 => some 'n'
  | 13 => some 'r'
  | 9 => some 't'
  | 12 => some 'f'
  | 8 => some 'b'
  | _ => none

/-- A code point in a string of a JSON text. -/
def escape (c : CodePoint) : List Char :=
  match shortEscape? c with
  | some e => ['\\', e]
  | none =>
    if 32 ≤ c.val ∧ c.val ≤ 126 then [Char.ofNat c.val]
    else if c.val < 0x10000 then unicodeEscape c
    else unicodeEscape (high c) ++ unicodeEscape (low c)

/-- A string of a JSON text. -/
def dumpString (s : PyStr) : List Char := '"' :: s.flatMap escape ++ ['"']

/-! ### Reading -/

/-- A hexadecimal digit. -/
def hexDigit? (c : Char) : Option ℕ :=
  if '0' ≤ c ∧ c ≤ '9' then some (c.toNat - 48)
  else if 'a' ≤ c ∧ c ≤ 'f' then some (c.toNat - 87)
  else if 'A' ≤ c ∧ c ≤ 'F' then some (c.toNat - 55)
  else none

/-- The code point of four hexadecimal digits. -/
def hex? (a b c d : Char) : Option CodePoint := do
  let a ← hexDigit? a
  let b ← hexDigit? b
  let c ← hexDigit? c
  let d ← hexDigit? d
  return Fin.ofNat _ (a * 0x1000 + b * 0x100 + c * 0x10 + d)

/-- A character after a backslash. -/
def backslash? : Char → Option CodePoint
  | '"' => some 34
  | '\\' => some 92
  | '/' => some 47
  | 'b' => some 8
  | 'f' => some 12
  | 'n' => some 10
  | 'r' => some 13
  | 't' => some 9
  | _ => none

/-- The code points up to the closing quote, and what follows it. -/
def scanUnits : List Char → Option (PyStr × List Char)
  | [] => none
  | '"' :: rest => some ([], rest)
  | '\\' :: 'u' :: a :: b :: c :: d :: rest => do
    let unit ← hex? a b c d
    let (units, rest) ← scanUnits rest
    return (unit :: units, rest)
  | '\\' :: c :: rest => do
    let unit ← backslash? c
    let (units, rest) ← scanUnits rest
    return (unit :: units, rest)
  | c :: rest =>
    -- a control character is refused
    if c.toNat < 32 then none else do
      let (units, rest) ← scanUnits rest
      return (Fin.ofNat _ c.toNat :: units, rest)

/-- The string after an opening quote, and what follows it. -/
def scanString (text : List Char) : Option (PyStr × List Char) :=
  (scanUnits text).map fun read => (joinSurrogates read.1, read.2)

/-! ### Reading what was written -/

/-- The escapes of a code point, as they are read. -/
def units (c : CodePoint) : PyStr := if c.val < 0x10000 then [c] else [high c, low c]

theorem hexDigit?_digitChar {n : ℕ} (h : n < 16) : hexDigit? (Nat.digitChar n) = some n := by
  revert n
  decide

theorem hex?_digitChar {c : CodePoint} (h : c.val < 0x10000) :
    hex? (Nat.digitChar (c.val / 0x1000)) (Nat.digitChar (c.val / 0x100 % 0x10))
      (Nat.digitChar (c.val / 0x10 % 0x10)) (Nat.digitChar (c.val % 0x10)) = some c := by
  rw [hex?, hexDigit?_digitChar (by omega), hexDigit?_digitChar (by omega),
    hexDigit?_digitChar (by omega), hexDigit?_digitChar (by omega)]
  refine congrArg some (Fin.ext ?_)
  rw [Fin.val_ofNat]
  omega

theorem scanUnits_unicodeEscape {c : CodePoint} (h : c.val < 0x10000) (rest : List Char) :
    scanUnits (unicodeEscape c ++ rest) =
      (scanUnits rest).map fun read => (c :: read.1, read.2) := by
  rw [unicodeEscape, List.cons_append, List.cons_append, List.cons_append, List.cons_append,
    List.cons_append, List.cons_append, List.nil_append, scanUnits, hex?_digitChar h]
  cases scanUnits rest <;> rfl

theorem val_high {c : CodePoint} (h : 0x10000 ≤ c.val) :
    (high c).val = 0xd800 + (c.val - 0x10000) / 0x400 := by
  have hlt := c.isLt
  rw [high, Fin.val_ofNat]
  omega

theorem val_low (c : CodePoint) : (low c).val = 0xdc00 + (c.val - 0x10000) % 0x400 := by
  rw [low, Fin.val_ofNat]
  omega

/-- The characters that are written as they are. -/
theorem printable : ∀ n : Fin 127, 32 ≤ n.val ∧ n.val ≠ 34 ∧ n.val ≠ 92 →
    Char.ofNat n ≠ '"' ∧ Char.ofNat n ≠ '\\' ∧ (Char.ofNat n).toNat = n := by decide

theorem scanUnits_cons {c : Char} (hquote : c ≠ '"') (hbackslash : c ≠ '\\')
    (hlow : 32 ≤ c.toNat) (rest : List Char) :
    scanUnits (c :: rest) =
      (scanUnits rest).map fun read => (Fin.ofNat _ c.toNat :: read.1, read.2) := by
  rw [scanUnits.eq_5 _ _ (fun h => hquote h) (by simp [hbackslash]) (by simp [hbackslash]),
    if_neg (by omega)]
  cases scanUnits rest <;> rfl

theorem scanUnits_backslash {e : Char} {c : CodePoint} (hu : e ≠ 'u')
    (he : backslash? e = some c) (rest : List Char) :
    scanUnits ('\\' :: e :: rest) = (scanUnits rest).map fun read => (c :: read.1, read.2) := by
  rw [scanUnits.eq_4 _ _ (by simp [hu]), he]
  cases scanUnits rest <;> rfl

theorem backslash?_of_shortEscape? {c : CodePoint} {e : Char} (h : shortEscape? c = some e) :
    e ≠ 'u' ∧ backslash? e = some c ∧ c.val < 128 := by
  unfold shortEscape? at h
  split at h
  case h_8 => cases h
  all_goals
    rename_i hval
    cases h
    exact ⟨by decide, congrArg some (Fin.ext hval.symm), by omega⟩

/-- **A code point is read back** as its escapes. -/
theorem scanUnits_escape (c : CodePoint) (rest : List Char) :
    scanUnits (escape c ++ rest) =
      (scanUnits rest).map fun read => (units c ++ read.1, read.2) := by
  cases hshort : shortEscape? c with
  | some e =>
    obtain ⟨hu, he, hlt⟩ := backslash?_of_shortEscape? hshort
    have hescape : escape c = ['\\', e] := by rw [escape, hshort]
    rw [hescape, units, if_pos (by omega)]
    exact scanUnits_backslash hu he rest
  | none =>
    have hescape : escape c = if 32 ≤ c.val ∧ c.val ≤ 126 then [Char.ofNat c.val]
        else if c.val < 0x10000 then unicodeEscape c
        else unicodeEscape (high c) ++ unicodeEscape (low c) := by rw [escape, hshort]
    rw [hescape, units]
    by_cases hprintable : 32 ≤ c.val ∧ c.val ≤ 126
    · have hquote : c.val ≠ 34 := fun h => by simp [shortEscape?, h] at hshort
      have hbackslash : c.val ≠ 92 := fun h => by simp [shortEscape?, h] at hshort
      obtain ⟨hne, hne', hval⟩ := printable ⟨c.val, by omega⟩ ⟨hprintable.1, hquote, hbackslash⟩
      rw [if_pos hprintable, if_pos (by omega), List.cons_append, List.nil_append,
        scanUnits_cons hne hne' (hval.symm ▸ hprintable.1), hval, Fin.ofNat_val_eq_self]
      rfl
    rw [if_neg hprintable]
    by_cases hbasic : c.val < 0x10000
    · rw [if_pos hbasic, if_pos hbasic]
      exact scanUnits_unicodeEscape hbasic rest
    · have hhigh := val_high (by omega : 0x10000 ≤ c.val)
      have hlow := val_low c
      have hlt := c.isLt
      rw [if_neg hbasic, if_neg hbasic, List.append_assoc, scanUnits_unicodeEscape (by omega),
        scanUnits_unicodeEscape (by omega)]
      cases scanUnits rest <;> rfl

theorem scanUnits_flatMap (s : PyStr) (rest : List Char) :
    scanUnits (s.flatMap escape ++ '"' :: rest) = some (s.flatMap units, rest) := by
  induction s with
  | nil => rfl
  | cons c s ih =>
    rw [List.flatMap_cons, List.flatMap_cons, List.append_assoc, scanUnits_escape, ih]
    rfl

theorem units_of_lt {c : CodePoint} (h : c.val < 0x10000) : units c = [c] := if_pos h

theorem units_of_le {c : CodePoint} (h : 0x10000 ≤ c.val) : units c = [high c, low c] :=
  if_neg (by omega)

theorem isHigh_high {c : CodePoint} (h : 0x10000 ≤ c.val) : IsHigh (high c) := by
  have hval := val_high h
  have hlt := c.isLt
  exact ⟨by omega, by omega⟩

theorem isLow_low (c : CodePoint) : IsLow (low c) := by
  have hval := val_low c
  exact ⟨by omega, by omega⟩

theorem join_high_low {c : CodePoint} (h : 0x10000 ≤ c.val) : join (high c) (low c) = c := by
  have hhigh := val_high h
  have hlow := val_low c
  have hlt := c.isLt
  refine Fin.ext ?_
  rw [join, Fin.val_ofNat, hhigh, hlow]
  omega

theorem joinSurrogates_pair {c d : CodePoint} (hc : IsHigh c) (hd : IsLow d) (s : PyStr) :
    joinSurrogates (c :: d :: s) = join c d :: joinSurrogates s := by
  rw [joinSurrogates, if_pos ⟨hc, hd⟩]

theorem joinSurrogates_cons {c : CodePoint} {s : PyStr}
    (h : ∀ d ∈ s.head?, ¬ (IsHigh c ∧ IsLow d)) :
    joinSurrogates (c :: s) = c :: joinSurrogates s := by
  cases s with
  | nil => rfl
  | cons d s => rw [joinSurrogates, if_neg (h d rfl)]

/-- The first code point of the escapes of a string is a second surrogate only if that of the
string is. -/
theorem isLow_head?_units {d e : CodePoint} {s : PyStr} (h : e ∈ ((d :: s).flatMap units).head?)
    (he : IsLow e) : IsLow d := by
  rw [List.flatMap_cons] at h
  by_cases hbasic : d.val < 0x10000
  · rw [units_of_lt hbasic] at h
    cases h
    exact he
  · have hhigh := isHigh_high (c := d) (by omega)
    rw [units_of_le (by omega)] at h
    cases h
    have hle := he.1
    have hge := hhigh.2
    omega

/-- **The escapes of a code point are joined again.** -/
theorem joinSurrogates_flatMap_units (s : PyStr) :
    joinSurrogates (s.flatMap units) = joinSurrogates s := by
  induction s using joinSurrogates.induct with
  | case1 => rfl
  | case2 c =>
    rw [List.flatMap_cons, List.flatMap_nil, List.append_nil]
    by_cases hbasic : c.val < 0x10000
    · rw [units_of_lt hbasic]
    · rw [units_of_le (by omega), joinSurrogates_pair (isHigh_high (by omega)) (isLow_low c),
        join_high_low (by omega)]
      rfl
  | case3 c d rest h ih =>
    have hc := h.1.2
    have hd := h.2.2
    rw [List.flatMap_cons, List.flatMap_cons, units_of_lt (by omega), units_of_lt (by omega),
      List.cons_append, List.nil_append, List.cons_append, List.nil_append,
      joinSurrogates_pair h.1 h.2, joinSurrogates_pair h.1 h.2, ih]
  | case4 c d rest h ih =>
    rw [joinSurrogates_cons (s := d :: rest) fun e he => by cases he; exact h, ← ih,
      List.flatMap_cons]
    by_cases hbasic : c.val < 0x10000
    · -- the next code point is no second surrogate after a first one
      rw [units_of_lt hbasic]
      exact joinSurrogates_cons fun e he hand => h ⟨hand.1, isLow_head?_units he hand.2⟩
    · rw [units_of_le (by omega)]
      change joinSurrogates (high c :: low c :: _) = _
      rw [joinSurrogates_pair (isHigh_high (by omega)) (isLow_low c), join_high_low (by omega)]
      rfl

/-- **A string is read back with its surrogates joined.** -/
theorem scanString_dumpString (s : PyStr) (rest : List Char) :
    scanString (s.flatMap escape ++ '"' :: rest) = some (joinSurrogates s, rest) := by
  rw [scanString, scanUnits_flatMap, Option.map_some, joinSurrogates_flatMap_units]

theorem length_joinSurrogates_le (s : PyStr) : (joinSurrogates s).length ≤ s.length := by
  induction s using joinSurrogates.induct with
  | case1 => exact Nat.le_refl 0
  | case2 c => exact Nat.le_refl 1
  | case3 c d rest h ih =>
    rw [joinSurrogates_pair h.1 h.2, List.length_cons, List.length_cons, List.length_cons]
    omega
  | case4 c d rest h ih =>
    rw [joinSurrogates, if_neg h, List.length_cons, List.length_cons]
    omega

/-- **Joining changes nothing exactly when no two surrogates meet.** -/
theorem joinSurrogates_eq_self_iff (s : PyStr) : joinSurrogates s = s ↔ Apart s := by
  induction s using joinSurrogates.induct with
  | case1 => exact iff_of_true rfl .nil
  | case2 c => exact iff_of_true rfl (.singleton c)
  | case3 c d rest h ih =>
    refine iff_of_false (fun heq => ?_) fun hchain => (List.isChain_cons_cons.1 hchain).1 h
    have hle := length_joinSurrogates_le rest
    have hlength := congrArg List.length heq
    rw [joinSurrogates_pair h.1 h.2, List.length_cons, List.length_cons, List.length_cons] at hlength
    omega
  | case4 c d rest h ih =>
    rw [joinSurrogates, if_neg h, Apart, List.isChain_cons_cons, List.cons.injEq, ih]
    exact ⟨fun heq => ⟨h, heq.2⟩, fun hchain => ⟨rfl, hchain.2⟩⟩

example : joinSurrogates [0xd83d, 0xde00] = [0x1f600] := by decide

/-- A character is no surrogate. -/
theorem not_isHigh_ofNat_toNat (c : Char) : ¬ IsHigh (Fin.ofNat _ c.toNat) := by
  rintro ⟨hle, hge⟩
  rw [Fin.val_ofNat] at hle hge
  have hvalid : c.toNat < 0xd800 ∨ 0xdfff < c.toNat ∧ c.toNat < 0x110000 := c.valid
  omega

theorem apart_ofChars (chars : List Char) : Apart (PyStr.ofChars chars) := by
  induction chars with
  | nil => exact .nil
  | cons c chars ih =>
    cases chars with
    | nil => exact .singleton _
    | cons d chars =>
      exact List.isChain_cons_cons.2 ⟨fun h => not_isHigh_ofNat_toNat c h.1, ih⟩

end JsonText

end OmsWmsTms
