import OmsWmsTms.Control.Except
import OmsWmsTms.Data.Dict
import OmsWmsTms.Data.JsonString
import Mathlib.Data.Int.Notation

/-!
# Values of Python in JSON texts

`json.dumps` with `default=str`, and `json.loads`, on the values that are built from `None`, booleans,
integers, strings, decimals, lists and dictionaries.  Neither has a limit on the depth here.

* `PyValue`, `PyDecimal` : the values; `PyDecimal.text` : `str` of a decimal.
* `dumps`, `loads` : the text of a value, and the value of a text.
* `reread` : what a value becomes on the way, where decimals turn into strings.
* `loads_dumps` : what is read is that.
* `reread_eq_self_iff` : it is the value exactly when it holds no decimal, and no string in which
  surrogates meet.
-/

namespace OmsWmsTms

/-- A `Decimal`. -/
inductive PyDecimal
  /-- A sign, a coefficient and an exponent. -/
  | finite (negative : Bool) (coefficient : ℕ) (exponent : ℤ)
  | infinity (negative : Bool)
  /-- The payload has no leading zero. -/
  | nan (negative signaling : Bool) (payload : ℕ)
deriving DecidableEq

/-- A value. -/
inductive PyValue
  | none
  | bool (b : Bool)
  | int (n : ℤ)
  | str (s : PyStr)
  | decimal (d : PyDecimal)
  | list (items : List PyValue)
  /-- The items of a dictionary, in the order of insertion. -/
  | dict (items : List (PyStr × PyValue))

namespace PyDecimal

/-- The sign of a number. -/
def sign (negative : Bool) : List Char := if negative then ['-'] else []

/-- `"%+d" % n`. -/
def signed (n : ℤ) : List Char := (if n < 0 then '-' else '+') :: Nat.toDigits 10 n.natAbs

/-- `str` of a decimal. -/
def text : PyDecimal → List Char
  | finite negative coefficient exponent =>
    let digits := Nat.toDigits 10 coefficient
    let leftDigits := exponent + digits.length
    -- the place of the point: in plain notation, or after the first digit
    let dotPlace := if exponent ≤ 0 ∧ -6 < leftDigits then leftDigits else 1
    let intPart := if dotPlace ≤ 0 then ['0']
      else digits.take dotPlace.toNat ++ List.replicate (dotPlace.toNat - digits.length) '0'
    let fracPart := if dotPlace ≤ 0 then '.' :: List.replicate (-dotPlace).toNat '0' ++ digits
      else if digits.length ≤ dotPlace.toNat then [] else '.' :: digits.drop dotPlace.toNat
    let exp := if leftDigits = dotPlace then [] else 'E' :: signed (leftDigits - dotPlace)
    sign negative ++ intPart ++ fracPart ++ exp
  | infinity negative => sign negative ++ "Infinity".toList
  | nan negative signaling payload =>
    sign negative ++ (if signaling then ['s'] else []) ++ "NaN".toList ++
      if payload = 0 then [] else Nat.toDigits 10 payload

example : [text (finite false 12500 (-3)), text (finite true 5 (-9)), text (finite false 7 2)] =
    ["12.500".toList, "-5E-9".toList, "7E+2".toList] := by decide +kernel

end PyDecimal

namespace JsonText

/-! ### Writing -/

/-- `repr` of an integer, which raises a `ValueError` above 4300 digits. -/
def intText (n : ℤ) : Except String (List Char) :=
  let digits := Nat.toDigits 10 n.natAbs
  if digits.length ≤ 4300 then .ok (if n < 0 then '-' :: digits else digits)
  else .error "ValueError"

mutual

/-- `json.dumps(value, default=str)`. -/
def dumps : PyValue → Except String (List Char)
  | .none => .ok ['n', 'u', 'l', 'l']
  | .bool true => .ok ['t', 'r', 'u', 'e']
  | .bool false => .ok ['f', 'a', 'l', 's', 'e']
  | .int n => intText n
  | .str s => .ok (dumpString s)
  | .decimal d => .ok (dumpString (PyStr.ofChars d.text))
  | .list items => do
    let text ← dumpsItems items
    return '[' :: text ++ [']']
  | .dict items => do
    let text ← dumpsMembers items
    return '{' :: text ++ ['}']

/-- The items of a list. -/
def dumpsItems : List PyValue → Except String (List Char)
  | [] => .ok []
  | [item] => dumps item
  | item :: items => do
    let text ← dumps item
    let rest ← dumpsItems items
    return text ++ ',' :: ' ' :: rest

/-- The items of a dictionary. -/
def dumpsMembers : List (PyStr × PyValue) → Except String (List Char)
  | [] => .ok []
  | [(key, value)] => do
    let text ← dumps value
    return dumpString key ++ ':' :: ' ' :: text
  | (key, value) :: items => do
    let text ← dumps value
    let rest ← dumpsMembers items
    return dumpString key ++ ':' :: ' ' :: text ++ ',' :: ' ' :: rest

end

/-! ### Reading -/

/-- The white space between the tokens. -/
def isSpace (c : Char) : Bool := c = ' ' || c = '\t' || c = '\n' || c = '\r'

/-- The text after some white space. -/
def skipSpace (text : List Char) : List Char := text.dropWhile isSpace

/-- The digits at the start of a text, and what follows them. -/
def spanDigits (text : List Char) : List Char × List Char :=
  (text.takeWhile Char.isDigit, text.dropWhile Char.isDigit)

/-- The digits of an integer, which have no leading zero. -/
def spanInteger : List Char → List Char × List Char
  | '0' :: rest => (['0'], rest)
  | text => spanDigits text

/-- A point and digits. -/
def spanFraction : List Char → List Char × List Char
  | '.' :: text =>
    match spanDigits text with
    | ([], _) => ([], '.' :: text)
    | (digits, rest) => ('.' :: digits, rest)
  | text => ([], text)

/-- The sign of a number or of an exponent. -/
def spanSign (signs : List Char) : List Char → List Char × List Char
  | c :: text => if c ∈ signs then ([c], text) else ([], c :: text)
  | [] => ([], [])

/-- An exponent, with its sign and its digits. -/
def spanExponent : List Char → List Char × List Char
  | [] => ([], [])
  | e :: text =>
    let (sign, unsigned) := spanSign ['-', '+'] text
    match spanDigits unsigned with
    | ([], _) => ([], e :: text)
    | (digits, rest) => if e = 'e' ∨ e = 'E' then (e :: sign ++ digits, rest) else ([], e :: text)

/-- A number, or a constant such as `NaN`; `parseFloat` is what it is told to make of the text of a
float or of a constant. -/
def scanNumber (parseFloat : List Char → PyValue) (text : List Char) :
    Option (PyValue × List Char) :=
  match text with
  | 'N' :: 'a' :: 'N' :: rest => some (parseFloat "NaN".toList, rest)
  | 'I' :: 'n' :: 'f' :: 'i' :: 'n' :: 'i' :: 't' :: 'y' :: rest =>
    some (parseFloat "Infinity".toList, rest)
  | '-' :: 'I' :: 'n' :: 'f' :: 'i' :: 'n' :: 'i' :: 't' :: 'y' :: rest =>
    some (parseFloat "-Infinity".toList, rest)
  | text =>
    let (sign, unsigned) := spanSign ['-'] text
    match spanInteger unsigned with
    | ([], _) => none
    | (digits, rest) =>
      let (fraction, rest) := spanFraction rest
      let (exponent, rest) := spanExponent rest
      if fraction = [] ∧ exponent = [] then
        if digits.length ≤ 4300 then
          let n : ℤ := Nat.ofDigitChars 10 digits 0
          some (.int (if sign = [] then n else -n), rest)
        else none
      else some (parseFloat (sign ++ digits ++ fraction ++ exponent), rest)

/-- `dict` of the members of an object: of two members with one name, the last one counts. -/
def dictOf (members : List (PyStr × PyValue)) : List (PyStr × PyValue) :=
  members.foldl (fun items member => Dict.insert member.1 member.2 items) []

section

variable (parseFloat : List Char → PyValue)

mutual

/-- A value at the start of a text, and what follows it. -/
def scanValue : ℕ → List Char → Option (PyValue × List Char)
  | 0, _ => none
  | fuel + 1, text =>
    match text with
    | '"' :: rest => (scanString rest).map fun read => (.str read.1, read.2)
    | '[' :: rest =>
      match skipSpace rest with
      | ']' :: rest => some (.list [], rest)
      | rest => (scanItems fuel rest).map fun read => (.list read.1, read.2)
    | '{' :: rest =>
      match skipSpace rest with
      | '}' :: rest => some (.dict [], rest)
      | rest => (scanMembers fuel rest).map fun read => (.dict (dictOf read.1), read.2)
    | 'n' :: 'u' :: 'l' :: 'l' :: rest => some (.none, rest)
    | 't' :: 'r' :: 'u' :: 'e' :: rest => some (.bool true, rest)
    | 'f' :: 'a' :: 'l' :: 's' :: 'e' :: rest => some (.bool false, rest)
    | text => scanNumber parseFloat text

/-- The items of a list. -/
def scanItems : ℕ → List Char → Option (List PyValue × List Char)
  | 0, _ => none
  | fuel + 1, text => do
    let (item, rest) ← scanValue fuel text
    match skipSpace rest with
    | ']' :: rest => return ([item], rest)
    | ',' :: rest => do
      let (items, rest) ← scanItems fuel (skipSpace rest)
      return (item :: items, rest)
    | _ => none

/-- The members of an object. -/
def scanMembers : ℕ → List Char → Option (List (PyStr × PyValue) × List Char)
  | 0, _ => none
  | fuel + 1, text => do
    let '"' :: text := text | none
    let (key, rest) ← scanString text
    let ':' :: rest := skipSpace rest | none
    let (value, rest) ← scanValue fuel (skipSpace rest)
    match skipSpace rest with
    | '}' :: rest => return ([(key, value)], rest)
    | ',' :: rest => do
      let (members, rest) ← scanMembers fuel (skipSpace rest)
      return ((key, value) :: members, rest)
    | _ => none

end

/-- `json.loads(text)`; each call of `scanValue` has used up a character for its unit of fuel, or
its caller has. -/
def loads (text : List Char) : Except String PyValue :=
  if text.head? = some '\uFEFF' then .error "JSONDecodeError"
  else
    match scanValue parseFloat (2 * text.length + 1) (skipSpace text) with
    | none => .error "JSONDecodeError"
    | some (value, rest) => if skipSpace rest = [] then .ok value else .error "JSONDecodeError"

end

/-! ### What a value becomes -/

mutual

/-- What is read of the text of a value. -/
def reread : PyValue → PyValue
  | .none => .none
  | .bool b => .bool b
  | .int n => .int n
  | .str s => .str (joinSurrogates s)
  | .decimal d => .str (PyStr.ofChars d.text)
  | .list items => .list (rereadItems items)
  | .dict items => .dict (dictOf (rereadMembers items))

/-- What is read of the items of a list. -/
def rereadItems : List PyValue → List PyValue
  | [] => []
  | item :: items => reread item :: rereadItems items

/-- What is read of the items of a dictionary. -/
def rereadMembers : List (PyStr × PyValue) → List (PyStr × PyValue)
  | [] => []
  | (key, value) :: items => (joinSurrogates key, reread value) :: rereadMembers items

end

/-- What follows a value in a text. -/
def Ends (rest : List Char) : Prop := ∀ c ∈ rest.head?, c = ',' ∨ c = ']' ∨ c = '}'

section Numbers

variable {rest : List Char}

theorem spanDigits_append {digits : List Char} (hdigits : ∀ c ∈ digits, c.isDigit = true)
    (hrest : ∀ c ∈ rest.head?, c.isDigit = false) :
    spanDigits (digits ++ rest) = (digits, rest) := by
  have htake : rest.takeWhile Char.isDigit = [] ∧ rest.dropWhile Char.isDigit = rest := by
    cases rest with
    | nil => exact ⟨rfl, rfl⟩
    | cons c rest =>
      have hc := hrest c rfl
      exact ⟨List.takeWhile_cons_of_neg (by simp [hc]), List.dropWhile_cons_of_neg (by simp [hc])⟩
  rw [spanDigits, List.takeWhile_append_of_pos hdigits, List.dropWhile_append_of_pos hdigits,
    htake.1, htake.2, List.append_nil]

theorem eq_zero_of_digitChar : ∀ n : Fin 10, Nat.digitChar n = '0' → n.val = 0 := by decide

/-- Only zero begins with a zero. -/
theorem eq_zero_of_head?_toDigits (n : ℕ) (h : (Nat.toDigits 10 n).head? = some '0') : n = 0 := by
  induction n using Nat.strongRecOn with
  | ind n ih =>
    by_cases hlt : n < 10
    · rw [Nat.toDigits_of_lt_base hlt] at h
      exact eq_zero_of_digitChar ⟨n, hlt⟩ (Option.some.inj h)
    · rw [Nat.toDigits_of_base_le (by omega) (by omega), List.head?_append_of_ne_nil _
        (List.ne_nil_of_length_pos Nat.length_toDigits_pos)] at h
      have hzero := ih (n / 10) (by omega) h
      omega

theorem spanInteger_toDigits (n : ℕ) (hrest : ∀ c ∈ rest.head?, c.isDigit = false) :
    spanInteger (Nat.toDigits 10 n ++ rest) = (Nat.toDigits 10 n, rest) := by
  by_cases hzero : n = 0
  · subst hzero
    rfl
  · have hne : ∀ tail, Nat.toDigits 10 n ++ rest = '0' :: tail → False := by
      intro tail heq
      refine hzero (eq_zero_of_head?_toDigits n ?_)
      have hhead := congrArg List.head? heq
      rwa [List.head?_append_of_ne_nil _
        (List.ne_nil_of_length_pos Nat.length_toDigits_pos)] at hhead
    rw [spanInteger.eq_2 _ hne]
    exact spanDigits_append
      (fun c hc => Nat.isDigit_of_mem_toDigits (by omega) (by omega) hc) hrest

/-- After a value, no number goes on. -/
theorem Ends.not_isDigit (h : Ends rest) : ∀ c ∈ rest.head?, c.isDigit = false := by
  intro c hc
  rcases h c hc with rfl | rfl | rfl <;> decide

theorem Ends.spanFraction (h : Ends rest) : spanFraction rest = ([], rest) := by
  cases rest with
  | nil => rfl
  | cons c rest =>
    have hc := h c rfl
    refine spanFraction.eq_2 _ fun text heq => ?_
    cases heq
    revert hc
    decide

theorem Ends.spanExponent (h : Ends rest) : spanExponent rest = ([], rest) := by
  cases rest with
  | nil => rfl
  | cons c rest =>
    have hc : ¬ (c = 'e' ∨ c = 'E') := by
      rcases h c rfl with rfl | rfl | rfl <;> decide
    rw [JsonText.spanExponent]
    dsimp only
    split
    · rfl
    · rw [if_neg hc]

/-- **The digits of an integer are read back**, after its sign. -/
theorem scanNumber_toDigits (parseFloat : List Char → PyValue) {sign : List Char}
    (hsign : sign = [] ∨ sign = ['-']) {n : ℕ} (hlength : (Nat.toDigits 10 n).length ≤ 4300)
    (hrest : Ends rest) :
    scanNumber parseFloat (sign ++ (Nat.toDigits 10 n ++ rest)) =
      some (.int (if sign = [] then n else -n), rest) := by
  have hdigit : ∀ c ∈ Nat.toDigits 10 n, c.isDigit = true := fun c hc =>
    Nat.isDigit_of_mem_toDigits (by omega) (by omega) hc
  have hspan := spanInteger_toDigits n hrest.not_isDigit
  have hofDigits := Nat.ofDigitChars_ten_toDigits (n := n)
  obtain ⟨d, digits, hdigits⟩ : ∃ d digits, Nat.toDigits 10 n = d :: digits :=
    List.exists_cons_of_ne_nil (List.ne_nil_of_length_pos Nat.length_toDigits_pos)
  rw [hdigits] at hdigit hspan hofDigits hlength ⊢
  have hd := hdigit d List.mem_cons_self
  have hne (c : Char) (hc : c.isDigit = false) : d ≠ c := by
    rintro rfl
    rw [hd] at hc
    cases hc
  have hspanSign : spanSign ['-'] (sign ++ (d :: digits ++ rest)) = (sign, d :: digits ++ rest) := by
    rcases hsign with rfl | rfl
    · rw [List.nil_append, List.cons_append, spanSign, if_neg]
      simpa using hne '-' rfl
    · rfl
  rw [scanNumber.eq_4, hspanSign]
  · simp only [hspan, hrest.spanFraction, hrest.spanExponent, and_self, if_true, hlength, hofDigits]
  · rintro tail heq
    rcases hsign with rfl | rfl
    · exact hne 'N' rfl (List.cons.inj heq).1
    · cases heq
  · rintro tail heq
    rcases hsign with rfl | rfl
    · exact hne 'I' rfl (List.cons.inj heq).1
    · cases heq
  · rintro tail heq
    rcases hsign with rfl | rfl
    · exact hne '-' rfl (List.cons.inj heq).1
    · exact hne 'I' rfl (List.cons.inj (List.cons.inj heq).2).1

/-- The text of an integer: its sign, and its digits. -/
theorem intText_eq_ok {n : ℤ} {text : List Char} (h : intText n = .ok text) :
    (Nat.toDigits 10 n.natAbs).length ≤ 4300 ∧ ∃ sign : List Char, text =
      sign ++ Nat.toDigits 10 n.natAbs ∧ (sign = [] ∧ 0 ≤ n ∨ sign = ['-'] ∧ n < 0) := by
  unfold intText at h
  dsimp only at h
  split_ifs at h with hlength hneg
  · cases h
    exact ⟨hlength, ['-'], rfl, .inr ⟨rfl, hneg⟩⟩
  · cases h
    exact ⟨hlength, [], rfl, .inl ⟨rfl, by omega⟩⟩

/-- **An integer is read back.** -/
theorem scanNumber_intText (parseFloat : List Char → PyValue) {n : ℤ} {text : List Char}
    (htext : intText n = .ok text) (hrest : Ends rest) :
    scanNumber parseFloat (text ++ rest) = some (.int n, rest) := by
  obtain ⟨hlength, sign, rfl, hsign⟩ := intText_eq_ok htext
  rw [List.append_assoc,
    scanNumber_toDigits parseFloat (hsign.imp And.left And.left) hlength hrest]
  rcases hsign with ⟨rfl, hn⟩ | ⟨rfl, hn⟩
  · rw [if_pos rfl, Int.natAbs_of_nonneg hn]
  · rw [if_neg (List.cons_ne_nil _ _), Int.ofNat_natAbs_of_nonpos (by omega), Int.neg_neg]

end Numbers

/-! ### Reading what was written -/

/-- A text that begins with a token that opens or is a value. -/
def Opens (text : List Char) : Prop :=
  ∃ c rest, text = c :: rest ∧ isSpace c = false ∧ c ≠ ']' ∧ c ≠ '}' ∧ c ≠ '\uFEFF'

theorem Opens.append {text : List Char} (h : Opens text) (rest : List Char) :
    Opens (text ++ rest) := by
  obtain ⟨c, tail, rfl, hc⟩ := h
  exact ⟨c, tail ++ rest, rfl, hc⟩

theorem Opens.skipSpace {text : List Char} (h : Opens text) : skipSpace text = text := by
  obtain ⟨c, rest, rfl, hspace, -⟩ := h
  exact List.dropWhile_cons_of_neg (by simp [hspace])

/-- The text of an integer begins with a digit or a minus. -/
theorem head_intText {n : ℤ} {text : List Char} (h : intText n = .ok text) :
    ∃ c rest, text = c :: rest ∧ (c.isDigit = true ∨ c = '-') := by
  obtain ⟨-, sign, rfl, hsign⟩ := intText_eq_ok h
  obtain ⟨d, digits, hdigits⟩ : ∃ d digits, Nat.toDigits 10 n.natAbs = d :: digits :=
    List.exists_cons_of_ne_nil (List.ne_nil_of_length_pos Nat.length_toDigits_pos)
  have hd : d.isDigit = true := Nat.isDigit_of_mem_toDigits (b := 10) (n := n.natAbs) (by omega)
    (by omega) (by rw [hdigits]; exact List.mem_cons_self)
  rw [hdigits]
  rcases hsign with ⟨rfl, -⟩ | ⟨rfl, -⟩
  · exact ⟨d, digits, rfl, .inl hd⟩
  · exact ⟨'-', d :: digits, rfl, .inr rfl⟩

theorem ne_of_isDigit {c d : Char} (hc : c.isDigit = true ∨ c = '-') (hd : d.isDigit = false)
    (hminus : d ≠ '-') : c ≠ d := by
  rintro rfl
  rcases hc with hc | rfl
  · rw [hd] at hc
    cases hc
  · exact hminus rfl

theorem opens_intText {n : ℤ} {text : List Char} (h : intText n = .ok text) : Opens text := by
  obtain ⟨c, rest, rfl, hc⟩ := head_intText h
  refine ⟨c, rest, rfl, ?_, ne_of_isDigit hc rfl (by decide), ne_of_isDigit hc rfl (by decide),
    ne_of_isDigit hc rfl (by decide)⟩
  simp [isSpace, ne_of_isDigit hc (d := ' '), ne_of_isDigit hc (d := '\t'),
    ne_of_isDigit hc (d := '\n'), ne_of_isDigit hc (d := '\r')]

theorem opens_dumps {value : PyValue} {text : List Char} (h : dumps value = .ok text) :
    Opens text := by
  cases value with
  | int n => exact opens_intText (by rwa [dumps] at h)
  | list items =>
    rw [dumps] at h
    obtain ⟨inner, -, h⟩ := bind_eq_ok_iff.1 h
    cases h
    exact ⟨'[', _, rfl, rfl, by decide, by decide, by decide⟩
  | dict items =>
    rw [dumps] at h
    obtain ⟨inner, -, h⟩ := bind_eq_ok_iff.1 h
    cases h
    exact ⟨'{', _, rfl, rfl, by decide, by decide, by decide⟩
  | bool b => cases b <;> cases h <;> exact ⟨_, _, rfl, rfl, by decide, by decide, by decide⟩
  | _ => cases h; exact ⟨_, _, rfl, rfl, by decide, by decide, by decide⟩

section Scan

variable {parseFloat : List Char → PyValue} {fuel : ℕ} {text rest : List Char}

theorem scanValue_dumpString (s : PyStr) :
    scanValue parseFloat (fuel + 1) (dumpString s ++ rest) = some (.str (joinSurrogates s), rest) := by
  have hstring := scanString_dumpString s rest
  rw [dumpString, List.cons_append, List.cons_append, List.append_assoc, List.cons_append,
    List.nil_append, scanValue, hstring]
  rfl

theorem scanValue_list (h : Opens text) : scanValue parseFloat (fuel + 1) ('[' :: text) =
    (scanItems parseFloat fuel text).map fun read => (.list read.1, read.2) := by
  rw [scanValue, h.skipSpace]
  obtain ⟨c, rest, rfl, -, hne, -⟩ := h
  split
  next heq => exact absurd (List.cons.inj heq).1 hne
  next => rfl

theorem scanValue_dict (h : Opens text) : scanValue parseFloat (fuel + 1) ('{' :: text) =
    (scanMembers parseFloat fuel text).map fun read => (.dict (dictOf read.1), read.2) := by
  rw [scanValue, h.skipSpace]
  obtain ⟨c, rest, rfl, -, -, hne, -⟩ := h
  split
  next heq => exact absurd (List.cons.inj heq).1 hne
  next => rfl

theorem scanValue_intText {n : ℤ} (htext : intText n = .ok text) (hrest : Ends rest) :
    scanValue parseFloat (fuel + 1) (text ++ rest) = some (.int n, rest) := by
  obtain ⟨c, tail, hcons, hc⟩ := head_intText htext
  have hscan := scanNumber_intText parseFloat htext hrest
  rw [hcons, List.cons_append] at hscan ⊢
  rw [scanValue]
  · exact hscan
  -- it is no other token
  all_goals
    intro tail' heq
    exact absurd (List.cons.inj heq).1 (ne_of_isDigit hc rfl (by decide))

/-- The last item of a list. -/
theorem scanItems_last {item : PyValue}
    (h : scanValue parseFloat fuel (text ++ ']' :: rest) = some (item, ']' :: rest)) :
    scanItems parseFloat (fuel + 1) (text ++ ']' :: rest) = some ([item], rest) := by
  rw [scanItems, h]
  rfl

/-- An item of a list that is followed by others. -/
theorem scanItems_next {item : PyValue} {items : List PyValue} {more : List Char}
    (h : scanValue parseFloat fuel (text ++ ',' :: ' ' :: more) =
      some (item, ',' :: ' ' :: more)) (hopens : Opens more)
    (hitems : scanItems parseFloat fuel more = some (items, rest)) :
    scanItems parseFloat (fuel + 1) (text ++ ',' :: ' ' :: more) = some (item :: items, rest) := by
  have hskip : skipSpace (' ' :: more) = more := hopens.skipSpace
  rw [scanItems, h]
  change (do
    let (items, rest) ← scanItems parseFloat fuel (skipSpace (' ' :: more))
    return (item :: items, rest) : Option _) = _
  rw [hskip, hitems]
  rfl

/-- A member of an object, up to its value. -/
theorem scanMembers_key {key : PyStr} (hopens : Opens text) :
    scanMembers parseFloat (fuel + 1) (dumpString key ++ ':' :: ' ' :: text) =
      (scanValue parseFloat fuel text).bind fun read =>
        match skipSpace read.2 with
        | '}' :: rest => some ([(joinSurrogates key, read.1)], rest)
        | ',' :: rest => (scanMembers parseFloat fuel (skipSpace rest)).bind fun more =>
          some ((joinSurrogates key, read.1) :: more.1, more.2)
        | _ => none := by
  have hskip : skipSpace (' ' :: text) = text := hopens.skipSpace
  have hcolon : skipSpace (':' :: ' ' :: text) = ':' :: ' ' :: text := rfl
  have hkey := scanString_dumpString key (':' :: ' ' :: text)
  simp only [dumpString, List.cons_append, List.append_assoc, List.nil_append] at hkey ⊢
  rw [scanMembers]
  simp only [hkey, Option.bind_eq_bind, Option.bind_some, hcolon, hskip]
  rfl

/-- The last member of an object. -/
theorem scanMembers_last {key : PyStr} {value : PyValue} (hopens : Opens text)
    (h : scanValue parseFloat fuel (text ++ '}' :: rest) = some (value, '}' :: rest)) :
    scanMembers parseFloat (fuel + 1) (dumpString key ++ ':' :: ' ' :: (text ++ '}' :: rest)) =
      some ([(joinSurrogates key, value)], rest) := by
  rw [scanMembers_key (hopens.append _), h]
  rfl

/-- A member of an object that is followed by others. -/
theorem scanMembers_next {key : PyStr} {value : PyValue} {members : List (PyStr × PyValue)}
    {more : List Char} (hopens : Opens text)
    (h : scanValue parseFloat fuel (text ++ ',' :: ' ' :: more) =
      some (value, ',' :: ' ' :: more)) (hmore : Opens more)
    (hmembers : scanMembers parseFloat fuel more = some (members, rest)) :
    scanMembers parseFloat (fuel + 1)
        (dumpString key ++ ':' :: ' ' :: (text ++ ',' :: ' ' :: more)) =
      some ((joinSurrogates key, value) :: members, rest) := by
  have hcomma : skipSpace (',' :: ' ' :: more) = ',' :: ' ' :: more := rfl
  have hskip : skipSpace (' ' :: more) = more := hmore.skipSpace
  rw [scanMembers_key (hopens.append _), h, Option.bind_some]
  simp only [hcomma, hskip, hmembers, Option.bind_some]

end Scan

/-- A text is not empty. -/
theorem Opens.length_pos {text : List Char} (h : Opens text) : 0 < text.length := by
  obtain ⟨c, rest, rfl, -⟩ := h
  exact Nat.succ_pos _

theorem opens_dumpsItems {item : PyValue} {items : List PyValue} {text : List Char}
    (h : dumpsItems (item :: items) = .ok text) : Opens text := by
  cases items with
  | nil => exact opens_dumps h
  | cons item' items =>
    obtain ⟨first, hfirst, h⟩ := bind_eq_ok_iff.1 h
    obtain ⟨more, -, h⟩ := bind_eq_ok_iff.1 h
    cases h
    exact (opens_dumps hfirst).append _

theorem opens_dumpsMembers {member : PyStr × PyValue} {items : List (PyStr × PyValue)}
    {text : List Char} (h : dumpsMembers (member :: items) = .ok text) : Opens text := by
  cases items with
  | nil =>
    obtain ⟨first, -, h⟩ := bind_eq_ok_iff.1 h
    cases h
    exact ⟨'"', _, rfl, rfl, by decide, by decide, by decide⟩
  | cons member' items =>
    obtain ⟨first, -, h⟩ := bind_eq_ok_iff.1 h
    obtain ⟨more, -, h⟩ := bind_eq_ok_iff.1 h
    cases h
    exact ⟨'"', _, rfl, rfl, by decide, by decide, by decide⟩

theorem ends_bracket (rest : List Char) : Ends (']' :: rest) := fun c hc => by cases hc; simp

theorem ends_brace (rest : List Char) : Ends ('}' :: rest) := fun c hc => by cases hc; simp

theorem ends_comma (rest : List Char) : Ends (',' :: rest) := fun c hc => by cases hc; simp

mutual

/-- **A value is read back** from the text that it starts. -/
theorem scanValue_dumps (parseFloat : List Char → PyValue) :
    ∀ (value : PyValue) (text rest : List Char) (fuel : ℕ), dumps value = .ok text →
      2 * text.length ≤ fuel → Ends rest →
      scanValue parseFloat fuel (text ++ rest) = some (reread value, rest)
  | value, text, rest, 0, htext, hfuel, _ => by
    have hpos := (opens_dumps htext).length_pos
    omega
  | .none, text, rest, fuel + 1, htext, _, _ => by cases htext; rfl
  | .bool true, text, rest, fuel + 1, htext, _, _ => by cases htext; rfl
  | .bool false, text, rest, fuel + 1, htext, _, _ => by cases htext; rfl
  | .int n, text, rest, fuel + 1, htext, _, hrest => scanValue_intText htext hrest
  | .str s, text, rest, fuel + 1, htext, _, _ => by
    cases htext
    exact scanValue_dumpString s
  | .decimal d, text, rest, fuel + 1, htext, _, _ => by
    -- the characters of a decimal are no surrogates
    have hjoin := (joinSurrogates_eq_self_iff _).2 (apart_ofChars d.text)
    cases htext
    rw [scanValue_dumpString, hjoin]
    rfl
  | .list [], text, rest, fuel + 1, htext, _, _ => by cases htext; rfl
  | .list (item :: items), text, rest, fuel + 1, htext, hfuel, _ => by
    obtain ⟨inner, hinner, h⟩ := bind_eq_ok_iff.1 htext
    cases h
    have hlength : ('[' :: inner ++ [']']).length = inner.length + 2 := by simp
    have hitems := scanItems_dumps parseFloat (item :: items) inner rest fuel
      (List.cons_ne_nil _ _) hinner (by omega)
    rw [List.cons_append, List.cons_append, List.append_assoc, List.singleton_append,
      scanValue_list ((opens_dumpsItems hinner).append _), hitems]
    rfl
  | .dict [], text, rest, fuel + 1, htext, _, _ => by cases htext; rfl
  | .dict (member :: items), text, rest, fuel + 1, htext, hfuel, _ => by
    obtain ⟨inner, hinner, h⟩ := bind_eq_ok_iff.1 htext
    cases h
    have hlength : ('{' :: inner ++ ['}']).length = inner.length + 2 := by simp
    have hmembers := scanMembers_dumps parseFloat (member :: items) inner rest fuel
      (List.cons_ne_nil _ _) hinner (by omega)
    rw [List.cons_append, List.cons_append, List.append_assoc, List.singleton_append,
      scanValue_dict ((opens_dumpsMembers hinner).append _), hmembers]
    rfl

/-- The items of a list are read back. -/
theorem scanItems_dumps (parseFloat : List Char → PyValue) :
    ∀ (items : List PyValue) (text rest : List Char) (fuel : ℕ), items ≠ [] →
      dumpsItems items = .ok text → 2 * text.length + 1 ≤ fuel →
      scanItems parseFloat fuel (text ++ ']' :: rest) = some (rereadItems items, rest)
  | [], _, _, _, hne, _, _ => absurd rfl hne
  | [item], text, rest, 0, _, _, hfuel => by omega
  | [item], text, rest, fuel + 1, _, htext, hfuel =>
    scanItems_last (scanValue_dumps parseFloat item text (']' :: rest) fuel htext (by omega)
      (ends_bracket rest))
  | item :: item' :: items, text, rest, 0, _, _, hfuel => by omega
  | item :: item' :: items, text, rest, fuel + 1, _, htext, hfuel => by
    obtain ⟨first, hfirst, h⟩ := bind_eq_ok_iff.1 htext
    obtain ⟨more, hmore, h⟩ := bind_eq_ok_iff.1 h
    cases h
    have hlength : (first ++ ',' :: ' ' :: more).length = first.length + (more.length + 2) := by
      simp
    rw [List.append_assoc, List.cons_append, List.cons_append]
    exact scanItems_next
      (scanValue_dumps parseFloat item first _ fuel hfirst (by omega) (ends_comma _))
      ((opens_dumpsItems hmore).append _)
      (scanItems_dumps parseFloat (item' :: items) more rest fuel (List.cons_ne_nil _ _) hmore
        (by omega))

/-- The members of an object are read back. -/
theorem scanMembers_dumps (parseFloat : List Char → PyValue) :
    ∀ (items : List (PyStr × PyValue)) (text rest : List Char) (fuel : ℕ), items ≠ [] →
      dumpsMembers items = .ok text → 2 * text.length + 1 ≤ fuel →
      scanMembers parseFloat fuel (text ++ '}' :: rest) = some (rereadMembers items, rest)
  | [], _, _, _, hne, _, _ => absurd rfl hne
  | [(key, value)], text, rest, 0, _, _, hfuel => by omega
  | [(key, value)], text, rest, fuel + 1, _, htext, hfuel => by
    obtain ⟨first, hfirst, h⟩ := bind_eq_ok_iff.1 htext
    cases h
    have hlength : (dumpString key ++ ':' :: ' ' :: first).length =
        (dumpString key).length + (first.length + 2) := by simp
    rw [List.append_assoc, List.cons_append, List.cons_append]
    exact scanMembers_last (opens_dumps hfirst)
      (scanValue_dumps parseFloat value first _ fuel hfirst (by omega) (ends_brace rest))
  | (key, value) :: member :: items, text, rest, 0, _, _, hfuel => by omega
  | (key, value) :: member :: items, text, rest, fuel + 1, _, htext, hfuel => by
    obtain ⟨first, hfirst, h⟩ := bind_eq_ok_iff.1 htext
    obtain ⟨more, hmore, h⟩ := bind_eq_ok_iff.1 h
    cases h
    have hlength : (dumpString key ++ ':' :: ' ' :: first ++ ',' :: ' ' :: more).length =
        (dumpString key).length + (first.length + 2) + (more.length + 2) := by simp; omega
    simp only [List.append_assoc, List.cons_append]
    exact scanMembers_next (opens_dumps hfirst)
      (scanValue_dumps parseFloat value first _ fuel hfirst (by omega) (ends_comma _))
      ((opens_dumpsMembers hmore).append _)
      (scanMembers_dumps parseFloat (member :: items) more rest fuel (List.cons_ne_nil _ _) hmore
        (by omega))

end

/-- **What is read of the text of a value.** -/
theorem loads_dumps (parseFloat : List Char → PyValue) {value : PyValue} {text : List Char}
    (h : dumps value = .ok text) : loads parseFloat text = .ok (reread value) := by
  have hopens := opens_dumps h
  have hscan := scanValue_dumps parseFloat value text [] (2 * text.length + 1) h (by omega)
    (fun c hc => by cases hc)
  have hmark : text.head? ≠ some '\uFEFF' := by
    obtain ⟨c, rest, rfl, -, -, -, hne⟩ := hopens
    exact fun hc => hne (Option.some.inj hc)
  rw [List.append_nil] at hscan
  rw [loads, if_neg hmark, hopens.skipSpace, hscan]
  rfl

/-! ### The values that have a text -/

mutual

/-- No integer is too long for `repr`. -/
def Short : PyValue → Prop
  | .int n => (Nat.toDigits 10 n.natAbs).length ≤ 4300
  | .list items => ShortItems items
  | .dict items => ShortMembers items
  | _ => True

/-- None in the items of a list. -/
def ShortItems : List PyValue → Prop
  | [] => True
  | item :: items => Short item ∧ ShortItems items

/-- None in the items of a dictionary. -/
def ShortMembers : List (PyStr × PyValue) → Prop
  | [] => True
  | (_, value) :: items => Short value ∧ ShortMembers items

end

theorem exists_intText_iff (n : ℤ) :
    (∃ text, intText n = .ok text) ↔ (Nat.toDigits 10 n.natAbs).length ≤ 4300 := by
  refine ⟨fun ⟨text, h⟩ => (intText_eq_ok h).1, fun h => ?_⟩
  exact ⟨_, if_pos h⟩

/-- A text that is made of another one. -/
theorem exists_bind_eq_ok_iff {x : Except String (List Char)} (f : List Char → List Char) :
    (∃ text, (do let a ← x; return f a) = Except.ok text) ↔ ∃ text, x = .ok text := by
  cases x <;> simp [Bind.bind, Except.bind, pure, Except.pure]

/-- A text that is made of two others. -/
theorem exists_bind_bind_eq_ok_iff {x y : Except String (List Char)}
    (f : List Char → List Char → List Char) :
    (∃ text, (do let a ← x; let b ← y; return f a b) = Except.ok text) ↔
      (∃ text, x = .ok text) ∧ ∃ text, y = .ok text := by
  cases x <;> cases y <;> simp [Bind.bind, Except.bind, pure, Except.pure]

mutual

/-- **A value has a text exactly when its integers are short.** -/
theorem exists_dumps_iff : ∀ value : PyValue, (∃ text, dumps value = .ok text) ↔ Short value
  | .none => iff_of_true ⟨_, rfl⟩ trivial
  | .bool true => iff_of_true ⟨_, rfl⟩ trivial
  | .bool false => iff_of_true ⟨_, rfl⟩ trivial
  | .int n => exists_intText_iff n
  | .str _ => iff_of_true ⟨_, rfl⟩ trivial
  | .decimal _ => iff_of_true ⟨_, rfl⟩ trivial
  | .list items => by
    rw [dumps, Short, ← exists_dumpsItems_iff items]
    exact exists_bind_eq_ok_iff _
  | .dict items => by
    rw [dumps, Short, ← exists_dumpsMembers_iff items]
    exact exists_bind_eq_ok_iff _

theorem exists_dumpsItems_iff : ∀ items : List PyValue,
    (∃ text, dumpsItems items = .ok text) ↔ ShortItems items
  | [] => iff_of_true ⟨_, rfl⟩ trivial
  | [item] => by
    rw [dumpsItems, exists_dumps_iff item, ShortItems, ShortItems, and_true]
  | item :: item' :: items => by
    rw [ShortItems, ← exists_dumps_iff item, ← exists_dumpsItems_iff (item' :: items), dumpsItems]
    · exact exists_bind_bind_eq_ok_iff fun text rest => text ++ ',' :: ' ' :: rest
    · exact List.cons_ne_nil _ _

theorem exists_dumpsMembers_iff : ∀ items : List (PyStr × PyValue),
    (∃ text, dumpsMembers items = .ok text) ↔ ShortMembers items
  | [] => iff_of_true ⟨_, rfl⟩ trivial
  | [(key, value)] => by
    rw [dumpsMembers, ShortMembers, ShortMembers, and_true, ← exists_dumps_iff value]
    exact exists_bind_eq_ok_iff fun text => dumpString key ++ ':' :: ' ' :: text
  | (key, value) :: member :: items => by
    rw [ShortMembers, ← exists_dumps_iff value, ← exists_dumpsMembers_iff (member :: items),
      dumpsMembers]
    · exact exists_bind_bind_eq_ok_iff
        fun text rest => dumpString key ++ ':' :: ' ' :: text ++ ',' :: ' ' :: rest
    · exact List.cons_ne_nil _ _

end

/-! ### The values that come back -/

mutual

/-- A dictionary has one item for a key. -/
def Distinct : PyValue → Prop
  | .list items => DistinctItems items
  | .dict items => (items.map Prod.fst).Nodup ∧ DistinctMembers items
  | _ => True

/-- So have those in the items of a list. -/
def DistinctItems : List PyValue → Prop
  | [] => True
  | item :: items => Distinct item ∧ DistinctItems items

/-- So have those in the items of a dictionary. -/
def DistinctMembers : List (PyStr × PyValue) → Prop
  | [] => True
  | (_, value) :: items => Distinct value ∧ DistinctMembers items

end

mutual

/-- No decimal, and no string in which surrogates meet. -/
def Plain : PyValue → Prop
  | .str s => Apart s
  | .decimal _ => False
  | .list items => PlainItems items
  | .dict items => PlainMembers items
  | _ => True

/-- None in the items of a list. -/
def PlainItems : List PyValue → Prop
  | [] => True
  | item :: items => Plain item ∧ PlainItems items

/-- None in the items of a dictionary. -/
def PlainMembers : List (PyStr × PyValue) → Prop
  | [] => True
  | (key, value) :: items => Apart key ∧ Plain value ∧ PlainMembers items

end

theorem length_rereadMembers (items : List (PyStr × PyValue)) :
    (rereadMembers items).length = items.length := by
  induction items with
  | nil => rfl
  | cons item items ih =>
    rw [rereadMembers, List.length_cons, List.length_cons, ih]

theorem dictOf_of_nodup {members : List (PyStr × PyValue)} (h : (members.map Prod.fst).Nodup) :
    dictOf members = members := Dict.foldl_insert_of_nodup members [] h

/-- A dictionary comes back exactly when its items do. -/
theorem dictOf_rereadMembers_eq_iff {items : List (PyStr × PyValue)}
    (hnodup : (items.map Prod.fst).Nodup) :
    dictOf (rereadMembers items) = items ↔ rereadMembers items = items := by
  constructor
  · intro h
    -- no item is lost, so that no two keys have become one
    have hlength := congrArg List.length h
    rw [← length_rereadMembers items, ← Nat.zero_add (rereadMembers items).length] at hlength
    have hkeys : ((rereadMembers items).map Prod.fst).Nodup :=
      Dict.nodup_of_length_foldl_insert (l := []) List.nodup_nil hlength
    rwa [dictOf_of_nodup hkeys] at h
  · intro h
    rw [h, dictOf_of_nodup hnodup]

mutual

/-- **A value comes back exactly when it is plain.** -/
theorem reread_eq_self_iff : ∀ value : PyValue, Distinct value →
    (reread value = value ↔ Plain value)
  | .none, _ => iff_of_true rfl trivial
  | .bool _, _ => iff_of_true rfl trivial
  | .int _, _ => iff_of_true rfl trivial
  | .str s, _ => by
    rw [reread, PyValue.str.injEq, joinSurrogates_eq_self_iff, Plain]
  | .decimal d, _ => iff_of_false (fun h => by rw [reread] at h; cases h) (fun h => h)
  | .list items, h => by
    rw [reread, PyValue.list.injEq, rereadItems_eq_self_iff items h, Plain]
  | .dict items, h => by
    rw [reread, PyValue.dict.injEq, dictOf_rereadMembers_eq_iff h.1,
      rereadMembers_eq_self_iff items h.2, Plain]

theorem rereadItems_eq_self_iff : ∀ items : List PyValue, DistinctItems items →
    (rereadItems items = items ↔ PlainItems items)
  | [], _ => iff_of_true rfl trivial
  | item :: items, h => by
    rw [rereadItems, List.cons.injEq, reread_eq_self_iff item h.1,
      rereadItems_eq_self_iff items h.2, PlainItems]

theorem rereadMembers_eq_self_iff : ∀ items : List (PyStr × PyValue), DistinctMembers items →
    (rereadMembers items = items ↔ PlainMembers items)
  | [], _ => iff_of_true rfl trivial
  | (key, value) :: items, h => by
    rw [rereadMembers, List.cons.injEq, Prod.mk.injEq, joinSurrogates_eq_self_iff,
      reread_eq_self_iff value h.1, rereadMembers_eq_self_iff items h.2, PlainMembers, and_assoc]

end

end JsonText

end OmsWmsTms
