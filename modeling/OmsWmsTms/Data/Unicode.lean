import OmsWmsTms.Core.Ids
import OmsWmsTms.Data.Text

/-!
# Numbers and identifiers in texts

`str.strip`, `int` and `uuid.UUID` of any text: digits and white space of other scripts count.

* `Text.strip` : `s.strip()`.
* `Text.parseInt?` : `int(s)`; `Text.parseHex?` : `int(s, 16)`.
* `Uuid.parse?` : `uuid.UUID(s)`.
-/

namespace OmsWmsTms

namespace Text

/-- `c.isspace()`. -/
def isUnicodeSpace (c : Char) : Bool :=
  c.toNat ∈ [9, 10, 11, 12, 13, 28, 29, 30, 31, 32, 133, 160, 5760, 8192, 8193, 8194, 8195, 8196,
    8197, 8198, 8199, 8200, 8201, 8202, 8232, 8233, 8239, 8287, 12288]

/-- A text without the characters at its ends that meet a condition. -/
def stripBy (p : Char → Bool) (s : List Char) : List Char :=
  ((s.dropWhile p).reverse.dropWhile p).reverse

/-- `s.strip()`. -/
def strip (s : String) : String := String.ofList (stripBy isUnicodeSpace s.toList)

/-- The zeros of the scripts; the other digits follow them. -/
def zeros : List ℕ :=
  [48, 1632, 1776, 1984, 2406, 2534, 2662, 2790, 2918, 3046, 3174, 3302, 3430, 3558, 3664, 3792,
    3872, 4160, 4240, 6112, 6160, 6470, 6608, 6784, 6800, 6992, 7088, 7232, 7248, 42528, 43216,
    43264, 43472, 43504, 43600, 44016, 65296, 66720, 68912, 69734, 69872, 69942, 70096, 70384,
    70736, 70864, 71248, 71360, 71472, 71904, 72016, 72784, 73040, 73120, 73552, 92768, 92864,
    93008, 120782, 120792, 120802, 120812, 120822, 123200, 123632, 124144, 125264, 130032]

/-- `unicodedata.decimal`. -/
def decimal? (c : Char) : Option ℕ :=
  (zeros.find? fun z => z ≤ c.toNat ∧ c.toNat < z + 10).map fun z => c.toNat - z

/-- `_PyUnicode_TransformDecimalAndSpaceToASCII`. -/
def toAscii (c : Char) : Char :=
  if c.toNat < 127 then c
  else if isUnicodeSpace c then ' '
  else ((decimal? c).map Nat.digitChar).getD '?'

/-- The white space of C. -/
def isAsciiSpace (c : Char) : Bool := c.toNat ∈ [9, 10, 11, 12, 13, 32]

/-- A sign, if there is one, and the digits behind it. -/
def signed (number? : List Char → Option ℕ) : List Char → Option ℤ
  | '-' :: digits => (number? digits).map fun n => -(n : ℤ)
  | '+' :: digits => (number? digits).map fun n => (n : ℤ)
  | digits => (number? digits).map fun n => (n : ℤ)

/-- `int(s)`, which raises a `ValueError` otherwise. -/
def parseInt? (s : String) : Option ℤ :=
  signed nat? (stripBy isAsciiSpace (s.toList.map toAscii))

example : parseInt? " -1_2٠ " = some (-120) := rfl

/-! ### Hexadecimal numbers -/

/-- The value of a hexadecimal digit. -/
def hexDigit? (c : Char) : Option ℕ :=
  if c.isDigit then some (c.toNat - '0'.toNat)
  else if 'a' ≤ c ∧ c ≤ 'f' then some (c.toNat - 'a'.toNat + 10)
  else if 'A' ≤ c ∧ c ≤ 'F' then some (c.toNat - 'A'.toNat + 10)
  else none

/-- The digits of a number, with single underscores between them, behind a value. -/
def hexDigits? (n : ℕ) : List Char → Option ℕ
  | [] => some n
  | '_' :: c :: rest => (hexDigit? c).bind fun k => hexDigits? (16 * n + k) rest
  | c :: rest => (hexDigit? c).bind fun k => hexDigits? (16 * n + k) rest

/-- A number without a sign, with at least one digit. -/
def hex? (s : List Char) : Option ℕ :=
  match s with
  | '0' :: 'x' :: '_' :: c :: rest | '0' :: 'X' :: '_' :: c :: rest
  | '0' :: 'x' :: c :: rest | '0' :: 'X' :: c :: rest | c :: rest =>
    (hexDigit? c).bind fun k => hexDigits? k rest
  | [] => none

/-- `int(s, 16)`. -/
def parseHex? (s : List Char) : Option ℤ := signed hex? (stripBy isAsciiSpace (s.map toAscii))

/-! ### Texts that are no numbers -/

theorem digits?_eq_none {s : List Char} {c : Char} (hmem : c ∈ s) (hdigit : c.isDigit = false)
    (hc : c ≠ '_') : digits? s = none := by
  fun_induction digits? s with
  | case1 => cases hmem
  | case2 first rest hfirst ih =>
    rcases List.mem_cons.1 hmem with rfl | hmem
    · exact absurd rfl hc
    rcases List.mem_cons.1 hmem with rfl | hmem
    · exact absurd (hdigit.symm.trans hfirst) (by decide)
    · rw [ih hmem]
      rfl
  | case3 => rfl
  | case4 first rest _ hfirst ih =>
    rcases List.mem_cons.1 hmem with rfl | hmem
    · exact absurd (hdigit.symm.trans hfirst) (by decide)
    · rw [ih hmem]
      rfl
  | case5 => rfl

theorem nat?_eq_none {s : List Char} {c : Char} (hmem : c ∈ s) (hdigit : c.isDigit = false)
    (hc : c ≠ '_') : nat? s = none := by
  unfold nat?
  rw [digits?_eq_none hmem hdigit hc]
  split_ifs <;> rfl

/-- What does not meet the condition is not stripped. -/
theorem mem_stripBy {p : Char → Bool} {s : List Char} {c : Char} (hmem : c ∈ s)
    (hp : p c = false) : c ∈ stripBy p s := by
  have hdrop : ∀ l : List Char, c ∈ l → c ∈ l.dropWhile p := by
    intro l hl
    induction l with
    | nil => cases hl
    | cons a l ih =>
      rw [List.dropWhile_cons]
      split_ifs with ha
      · rcases List.mem_cons.1 hl with rfl | hl
        · exact absurd (hp.symm.trans ha) (by decide)
        · exact ih hl
      · exact hl
  exact List.mem_reverse.2 (hdrop _ (List.mem_reverse.2 (hdrop s hmem)))

/-- The last character of a text that has been stripped is no white space. -/
theorem getLast?_strip {s : String} {c : Char} (hspace : isUnicodeSpace c = true) :
    (strip s).toList.getLast? ≠ some c := by
  intro hlast
  rw [strip, String.toList_ofList, stripBy, List.getLast?_reverse] at hlast
  have hnot := List.head?_dropWhile_not isUnicodeSpace
    (s.toList.dropWhile isUnicodeSpace).reverse
  rw [hlast] at hnot
  exact absurd (hspace.symm.trans hnot) (by decide)

/-- A text with a point is not one that `int` reads. -/
theorem parseInt?_eq_none {s : String} (h : '.' ∈ s.toList) : parseInt? s = none := by
  have hmem : '.' ∈ stripBy isAsciiSpace (s.toList.map toAscii) :=
    mem_stripBy (List.mem_map.2 ⟨'.', h, rfl⟩) rfl
  unfold parseInt? signed
  have htail : ∀ {c : Char} {digits : List Char}, '.' ∈ c :: digits → c ≠ '.' →
      nat? digits = none := by
    intro c digits hcons hne
    exact nat?_eq_none ((List.mem_cons.1 hcons).resolve_left (Ne.symm hne)) rfl (by decide)
  split
  next digits heq => rw [htail (heq ▸ hmem) (by decide)]; rfl
  next digits heq => rw [htail (heq ▸ hmem) (by decide)]; rfl
  next => rw [nat?_eq_none hmem rfl (by decide)]; rfl

/-! ### Removing a part -/

/-- `s` without the places where a part is in it. -/
def without (part : List Char) : List Char → ℕ → List Char
  | s, 0 => s
  | [], _ => []
  | c :: s, fuel + 1 =>
    if part.isPrefixOf (c :: s) then without part ((c :: s).drop part.length) fuel
    else c :: without part s fuel

/-- `s.replace(part, "")`. -/
def remove (part : String) (s : List Char) : List Char := without part.toList s s.length

end Text

/-- `uuid.UUID(s)`, which raises a `ValueError` otherwise. -/
def Uuid.parse? (s : String) : Option Uuid :=
  let hex := Text.remove "uuid:" (Text.remove "urn:" s.toList)
  let hex := Text.remove "-" (Text.stripBy (fun c => c = '\x7b' ∨ c = '\x7d') hex)
  if hex.length = 32 then
    (Text.parseHex? hex).bind fun n => if 0 ≤ n ∧ n < 2 ^ 128 then some n.toNat else none
  else none

example : Uuid.parse? "\x7b00000000-0000-0000-0000-00000000002A\x7d" = some 42 := by
  decide +kernel

end OmsWmsTms
