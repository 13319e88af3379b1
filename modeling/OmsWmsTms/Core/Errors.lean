import OmsWmsTms.Data.Numeric
import OmsWmsTms.Data.Text

/-!
# The exceptions of the order and warehouse services, and what their columns hold

* `ServiceError` : the exceptions.
* `storeNumeric`, `storeText`, `storeWhole`, `storeInt` : what a column keeps of a value, or the
  error of the database when the value does not fit.
* `TextFits` : the texts that a column takes.
-/

namespace OmsWmsTms

/-- The exceptions of the order and warehouse services. -/
inductive ServiceError
  /-- `NotFoundException`. -/
  | notFound (message : String)
  /-- `ValidationException`. -/
  | validation (message : String) (detail : Option String)
  /-- `ValueError`: a malformed identifier. -/
  | valueError
  /-- `TypeError`. -/
  | typeError
  /-- `IndexError`. -/
  | indexError
  /-- A value that does not fit its column. -/
  | dataError
  /-- A violated unique index or foreign key. -/
  | integrityError
  /-- `StaleDataError`: the row of an `UPDATE` is gone. -/
  | staleData
  /-- `MultipleResultsFound`: `scalar_one_or_none` on two rows. -/
  | multipleResults
  /-- `MissingGreenlet`: an expired attribute is read outside a statement. -/
  | missingGreenlet
  /-- `PendingRollbackError`: a statement after a failed flush. -/
  | pendingRollback
  /-- A commit that failed. -/
  | commitFailed
deriving DecidableEq

/-- What a `Numeric(p, s)` column keeps. -/
def storeNumeric {p s : ℕ} (x : ℚ) : Except ServiceError (Numeric p s) :=
  match Numeric.ofRat? x with
  | some y => .ok y
  | none => .error .dataError

theorem storeNumeric_eq_ok_iff {p s : ℕ} {x : ℚ} {y : Numeric p s} :
    storeNumeric x = .ok y ↔ Numeric.ofRat? x = some y := by
  unfold storeNumeric
  cases (Numeric.ofRat? x : Option (Numeric p s)) <;> simp

theorem exists_storeNumeric_iff {p s : ℕ} {x : ℚ} :
    (∃ stored : Numeric p s, storeNumeric x = .ok stored) ↔
      (Numeric.ofRat? x : Option (Numeric p s)).isSome = true := by
  simp only [storeNumeric_eq_ok_iff, Option.isSome_iff_exists]

/-- What a `String(limit)` column keeps. -/
def storeText (limit : ℕ) (text : String) : Except ServiceError String :=
  match Text.varchar? limit text with
  | some stored => .ok stored
  | none => .error .dataError

theorem storeText_eq_ok_iff {limit : ℕ} {text stored : String} :
    storeText limit text = .ok stored ↔ Text.varchar? limit text = some stored := by
  unfold storeText
  cases Text.varchar? limit text <;> simp

theorem exists_storeText_iff {limit : ℕ} {text : String} :
    (∃ stored, storeText limit text = .ok stored) ↔ Text.FitsUpToBlanks limit text := by
  simp [storeText_eq_ok_iff, Text.varchar?_eq_some_iff]

theorem storeText_of_length_le {limit : ℕ} {text : String} (h : text.length ≤ limit) :
    storeText limit text = .ok text :=
  storeText_eq_ok_iff.2 (Text.varchar?_of_length_le h)

/-- A `String(limit)` column that keeps a text whole or refuses it, as it does with a text that has
no blank at its end.  So it is modelled for the codes of SKUs too: what the column keeps of one with
blanks beyond the limit would not be found by the code. -/
def storeWhole (limit : ℕ) (code : String) : Except ServiceError String :=
  if code.length ≤ limit then .ok code else .error .dataError

theorem storeWhole_eq_ok_iff {limit : ℕ} {code stored : String} :
    storeWhole limit code = .ok stored ↔ code.length ≤ limit ∧ code = stored := by
  unfold storeWhole
  split_ifs with h <;> simp [h]

theorem exists_storeWhole_iff {limit : ℕ} {code : String} :
    (∃ stored, storeWhole limit code = .ok stored) ↔ code.length ≤ limit := by
  simp [storeWhole_eq_ok_iff]

/-- A column takes a text: PostgreSQL has no zero character, and a `String(limit)` has at most so
many characters, up to blanks. -/
def TextFits (column : String × Option ℕ) : Prop :=
  Char.ofNat 0 ∉ column.1.toList ∧ ∀ limit ∈ column.2, Text.FitsUpToBlanks limit column.1

instance (column : String × Option ℕ) : Decidable (TextFits column) :=
  inferInstanceAs (Decidable (_ ∧ _))

/-- An `Integer` column has 32 bits. -/
def FitsInteger (n : ℤ) : Prop := -2147483648 ≤ n ∧ n ≤ 2147483647

instance (n : ℤ) : Decidable (FitsInteger n) := inferInstanceAs (Decidable (_ ∧ _))

/-- What an `Integer` column keeps. -/
def storeInt (n : ℤ) : Except ServiceError ℤ :=
  if FitsInteger n then .ok n else .error .dataError

theorem storeInt_eq_ok_iff {n m : ℤ} : storeInt n = .ok m ↔ FitsInteger n ∧ n = m := by
  unfold storeInt
  split_ifs with h <;> simp [h]

theorem exists_storeInt_iff {n : ℤ} : (∃ stored, storeInt n = .ok stored) ↔ FitsInteger n := by
  simp [storeInt_eq_ok_iff]

end OmsWmsTms
