import Mathlib.Data.Int.Notation
import Mathlib.Data.Rat.Init

/-!
# JSON values

What `json.loads` makes of a text, with what Python does with such values.

* `Json` : the values.
* `Json.truthy`, `Json.orElse`, `Json.iterate` : `bool(value)`, `value or other` and
  `for item in value`.
* `Json.member?` : `value.get(name)` of an object.
* `Json.text`, `Json.int?` : `str(value)` and `int(value)`.
-/

namespace OmsWmsTms

/-- What `json.loads` reads. -/
inductive Json
  | null
  | bool (b : Bool)
  | int (n : ℤ)
  /-- A float, with its `repr`; infinities and NaN have no value. -/
  | float (repr : String) (value : Option ℚ)
  | str (s : String)
  | list (items : List Json)
  /-- The members of an object, in the order of the text. -/
  | dict (members : List (String × Json))

namespace Json

/-- `bool(value)`. -/
def truthy : Json → Bool
  | null => false
  | bool b => b
  | int n => n ≠ 0
  | float _ value => value ≠ some 0
  | str s => s ≠ ""
  | list items => !items.isEmpty
  | dict members => !members.isEmpty

/-- `value or other`. -/
def orElse (value other : Json) : Json := if value.truthy then value else other

/-- `for item in value`, which raises a `TypeError` for `None` and for numbers. -/
def iterate : Json → Option (List Json)
  | list items => some items
  | str s => some (s.toList.map fun c => str c.toString)
  | dict members => some (members.map fun member => str member.1)
  | _ => none

/-- `members.get(name)`; of two members with one name, the last one counts. -/
def member? (name : String) (members : List (String × Json)) : Option Json :=
  members.reverse.lookup name

/-- `str(value)`, with the `repr` of lists and objects. -/
def text (repr : Json → String) : Json → String
  | null => "None"
  | bool b => if b then "True" else "False"
  | int n => toString n
  | float repr _ => repr
  | str s => s
  | value => repr value

/-- `int(value)`, with what it makes of a text; it raises for other values. -/
def int? (ofText : String → Option ℤ) : Json → Option ℤ
  | bool b => some (if b then 1 else 0)
  | int n => some n
  | float _ value => value.map fun x => x.num.tdiv x.den
  | str s => ofText s
  | _ => none

end Json

end OmsWmsTms
