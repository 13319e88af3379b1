import Mathlib.Data.List.Infix
import Mathlib.Data.List.TakeWhile
import Mathlib.Data.Int.Notation

/-!
# Texts

The `str` of Python: a string of characters, with some of its methods.

* `Text.splitOnce`, `Text.startsWith`, `Text.contains` : `split` with a separator and the limit 1,
  `startswith` and `in`.
* `Text.isAscii` : `isascii`.
* `Text.latin1` : `decode("latin-1")` of some bytes.
* `Text.int?` : `int` of a text that was decoded so.
* `Text.varchar?` : what a column `VARCHAR(limit)` of PostgreSQL keeps of a text.
-/

namespace OmsWmsTms

namespace Text

/-- `s.startswith(start)`. -/
def startsWith (start s : String) : Bool := start.toList.isPrefixOf s.toList

/-- `part in s`. -/
def contains (part s : String) : Prop := part.toList <:+: s.toList

instance (part s : String) : Decidable (contains part s) :=
  inferInstanceAs (Decidable (part.toList <:+: s.toList))

/-- `s.isascii()`. -/
def isAscii (s : String) : Bool := s.toList.all fun c => c.toNat < 128

/-- `bytes.decode("latin-1")`. -/
def latin1 (bytes : List UInt8) : String := String.ofList (bytes.map fun b => Char.ofNat b.toNat)

/-! ### Splitting -/

/-- `s.split(sep, 1)`, when it has two parts. -/
def splitOnce (sep : Char) (s : String) : Option (String × String) :=
  match s.toList.dropWhile (· ≠ sep) with
  | [] => none
  | _ :: rest => some (String.ofList (s.toList.takeWhile (· ≠ sep)), String.ofList rest)

/-- The parts, with the separator between them, are the text. -/
theorem splitOnce_eq_some {sep : Char} {s first rest : String}
    (h : splitOnce sep s = some (first, rest)) :
    s.toList = first.toList ++ sep :: rest.toList := by
  unfold splitOnce at h
  split at h
  next => cases h
  next c rest' hdrop =>
    obtain ⟨rfl, rfl⟩ := Prod.mk.inj (Option.some.inj h)
    have hne : s.toList.dropWhile (· ≠ sep) ≠ [] := hdrop ▸ List.cons_ne_nil _ _
    have hsep : c = sep := by
      have hhead := List.head_dropWhile_not (· ≠ sep) hne
      simpa only [hdrop, List.head_cons, decide_eq_false_iff_not, not_not] using hhead
    calc s.toList = s.toList.takeWhile (· ≠ sep) ++ s.toList.dropWhile (· ≠ sep) :=
          List.takeWhile_append_dropWhile.symm
      _ = _ := by rw [hdrop, hsep, String.toList_ofList, String.toList_ofList]

theorem startsWith_append (start s : String) : startsWith start (start ++ s) = true := by
  rw [startsWith, String.toList_append]
  exact List.isPrefixOf_iff_prefix.2 (List.prefix_append _ _)

/-! ### Numbers -/

/-- The white space of Latin-1. -/
def isSpace (c : Char) : Bool :=
  c.toNat ∈ [9, 10, 11, 12, 13, 28, 29, 30, 31, 32, 133, 160]

/-- The digits of a number, with single underscores between them. -/
def digits? : List Char → Option (List Char)
  | [] => some []
  | '_' :: c :: rest => if c.isDigit then (digits? rest).map (c :: ·) else none
  | c :: rest => if c.isDigit then (digits? rest).map (c :: ·) else none

/-- A number without a sign, of at most 4300 digits. -/
def nat? (s : List Char) : Option ℕ :=
  if s.head?.any Char.isDigit then
    (digits? s).bind fun digits =>
      if digits.length ≤ 4300 then
        some (digits.foldl (fun n c => 10 * n + (c.toNat - '0'.toNat)) 0)
      else none
  else none

/-- `int(s)`, which raises a `ValueError` otherwise. -/
def int? (s : String) : Option ℤ :=
  match ((s.toList.dropWhile isSpace).reverse.dropWhile isSpace).reverse with
  | '-' :: digits => (nat? digits).map fun n => -(n : ℤ)
  | '+' :: digits => (nat? digits).map fun n => (n : ℤ)
  | digits => (nat? digits).map fun n => (n : ℤ)

example : int? " -1_200 " = some (-1200) := by decide +kernel

/-! ### Columns -/

/-- Nothing but blanks is beyond the limit of a column. -/
def FitsUpToBlanks (limit : ℕ) (s : String) : Prop := ∀ c ∈ s.toList.drop limit, c = ' '

instance (limit : ℕ) (s : String) : Decidable (FitsUpToBlanks limit s) :=
  List.decidableBAll (· = ' ') (s.toList.drop limit)

/-- The characters up to a limit. -/
def cut (limit : ℕ) (s : String) : String := String.ofList (s.toList.take limit)

/-- A column `VARCHAR(limit)`: blanks beyond the limit are cut off, and any other text that is too
long is refused. -/
def varchar? (limit : ℕ) (s : String) : Option String :=
  if FitsUpToBlanks limit s then some (cut limit s) else none

variable {limit : ℕ} {s t : String}

theorem varchar?_eq_some_iff :
    varchar? limit s = some t ↔
      FitsUpToBlanks limit s ∧ cut limit s = t := by
  unfold varchar?
  split_ifs with h <;> simp [h]

theorem fitsUpToBlanks_of_length_le (h : s.length ≤ limit) : FitsUpToBlanks limit s := by
  rw [← String.length_toList] at h
  simp [FitsUpToBlanks, List.drop_eq_nil_of_le h]

theorem FitsUpToBlanks.mono {limit' : ℕ} (h : FitsUpToBlanks limit s) (hle : limit ≤ limit') :
    FitsUpToBlanks limit' s :=
  fun c hc => h c ((List.drop_sublist_drop_left _ hle).subset hc)

/-- A text that is not too long is kept as it is. -/
theorem cut_of_length_le (h : s.length ≤ limit) : cut limit s = s := by
  rw [← String.length_toList] at h
  rw [cut, List.take_of_length_le h, String.ofList_toList]

theorem varchar?_of_length_le (h : s.length ≤ limit) : varchar? limit s = some s :=
  varchar?_eq_some_iff.2 ⟨fitsUpToBlanks_of_length_le h, cut_of_length_le h⟩

theorem length_cut_le (limit : ℕ) (s : String) : (cut limit s).length ≤ limit := by
  rw [← String.length_toList, cut, String.toList_ofList]
  exact List.length_take_le _ _

/-- What a column keeps is not too long. -/
theorem length_le_of_varchar? (h : varchar? limit s = some t) : t.length ≤ limit :=
  (varchar?_eq_some_iff.1 h).2 ▸ length_cut_le limit s

/-- A text that does not end in a blank is kept as it is, or refused. -/
theorem length_le_of_fitsUpToBlanks (h : FitsUpToBlanks limit s)
    (hlast : s.toList.getLast? ≠ some ' ') : s.length ≤ limit := by
  by_contra hlong
  rw [← String.length_toList, not_le] at hlong
  have hne : s.toList.drop limit ≠ [] := by simpa using hlong
  have hdrop : (s.toList.drop limit).getLast? = s.toList.getLast? := by
    rw [List.getLast?_drop, if_neg (not_le.2 hlong)]
  refine hlast ?_
  rw [← hdrop, List.getLast?_eq_some_getLast hne]
  exact congrArg some (h _ (List.getLast_mem hne))

example : varchar? 3 "abc " = some "abc" ∧ varchar? 3 "ab c" = none := by decide +kernel

end Text

end OmsWmsTms
