import Mathlib.Data.Nat.Digits.Defs

/-!
# Identifiers

* `Uuid` : an identifier; `Uuid.text` : how `str` spells it.
* `IdArg` : an identifier that a caller passes as text.
-/

namespace OmsWmsTms

/-- An identifier. -/
abbrev Uuid := ℕ

/-- `str(id)`: 32 hexadecimal digits in groups of 8, 4, 4, 4 and 12. -/
def Uuid.text (id : Uuid) : String :=
  let digits := List.leftpad 32 '0' (Nat.toDigits 16 id)
  let group (start length : ℕ) : String := String.ofList ((digits.drop start).take length)
  "-".intercalate [group 0 8, group 8 4, group 12 4, group 16 4, group 20 12]

/-- An identifier passed as text: the text, and what `uuid.UUID` reads in it (`none` when it is
malformed). -/
structure IdArg where
  /-- The text. -/
  text : String
  /-- The identifier it denotes. -/
  uuid? : Option Uuid
deriving DecidableEq

end OmsWmsTms
