import Mathlib.Algebra.Order.Ring.Rat
import OmsWmsTms.Data.OrderedDict

/-!
# The in-memory cache

`MemoryCache` of `src/cache/redis_client.py`, the fallback when Redis is unavailable: an
`OrderedDict` of at most `maxsize` items, in which values and counters are kept side by side.

* `Value`, `Operators` : what is cached, and what Python's operators do with it.
* `MemoryCache.get`, `set`, `delete`, `incr`, `decr` : the methods; `count` : the two counters.
* `set_eq`, `count_eq_of_notMem`, `count_eq_of_get?` : what they do to the dictionary.
-/

namespace OmsWmsTms

namespace Cache

/-! ### Values -/

/-- A value: an `int`, or another object. -/
inductive Value (α : Type*)
  | int (n : ℤ)
  | object (a : α)
deriving DecidableEq

/-- The operators on the objects that are no `int`; `none` where they raise. -/
structure Operators (α : Type*) where
  /-- `a + delta`. -/
  add? : α → ℤ → Option (Value α)
  /-- `a - delta`. -/
  sub? : α → ℤ → Option (Value α)
  /-- `a > 0`. -/
  positive? : α → Option Bool

namespace Value

variable {α : Type*} (py : Operators α)

/-- `value + delta`. -/
def add (delta : ℤ) : Value α → Option (Value α)
  | int n => some (int (n + delta))
  | object a => py.add? a delta

/-- `value - delta`. -/
def sub (delta : ℤ) : Value α → Option (Value α)
  | int n => some (int (n - delta))
  | object a => py.sub? a delta

/-- `max(0, value)`: the value, if it is greater than 0. -/
def max0 : Value α → Option (Value α)
  | int n => some (int (max 0 n))
  | object a => (py.positive? a).map fun positive => if positive then object a else int 0

end Value

/-! ### The cache -/

/-- What is cached for a key. -/
structure Entry (α : Type*) where
  value : Value α
  expire : ℚ
deriving DecidableEq

/-- The cache. -/
structure MemoryCache (α : Type*) where
  cache : Dict String (Entry α)
  maxsize : ℤ

namespace MemoryCache

variable {α : Type*}

/-- `MemoryCache(maxsize)`. -/
def new (maxsize : ℤ) : MemoryCache α := { cache := .empty, maxsize }

/-- `get`: the value, which is now the most recently used. -/
def get (c : MemoryCache α) (key : String) : Option (Value α) × MemoryCache α :=
  match c.cache.get? key with
  | none => (none, c)
  | some entry => (some entry.value, { c with cache := c.cache.moveToEnd key })

/-- `set`; `none` where it raises, as `popitem` of an empty dictionary does. -/
def set (c : MemoryCache α) (key : String) (value : Value α) (expire : Option ℚ) :
    Option Unit × MemoryCache α :=
  let entry : Entry α := { value, expire := expire.getD 0 }
  if key ∈ c.cache.keys then
    (some (), { c with cache := (c.cache.erase key).set key entry })
  else if c.maxsize ≤ (c.cache.length : ℤ) then
    match c.cache.keys with
    | [] => (none, c)
    -- evict the oldest entry
    | _ :: _ => (some (), { c with cache := c.cache.popFirst.set key entry })
  else (some (), { c with cache := c.cache.set key entry })

/-- `delete`: whether the key was there. -/
def delete (c : MemoryCache α) (key : String) : Bool × MemoryCache α :=
  (decide (key ∈ c.cache.keys), { c with cache := c.cache.erase key })

/-- What `incr` and `decr` share: a missing counter is set to 0, what the operator makes of its
value is assigned in place, and what is then returned of it can be something else. -/
def count (operator returned : Value α → Option (Value α)) (c : MemoryCache α) (key : String) :
    Option (Value α) × MemoryCache α :=
  let (ready, c) := if key ∉ c.cache.keys then c.set key (.int 0) none else (some (), c)
  match ready, c.cache.get? key with
  | some (), some entry =>
    match operator entry.value with
    | none => (none, c)
    | some value => (returned value, { c with cache := c.cache.set key { entry with value } })
  | _, _ => (none, c)

variable (py : Operators α)

/-- `incr`; `none` where it raises. -/
def incr (c : MemoryCache α) (key : String) (delta : ℤ) : Option (Value α) × MemoryCache α :=
  c.count (Value.add py delta) some key

/-- `decr`: what it stores can be negative, what it returns is not. -/
def decr (c : MemoryCache α) (key : String) (delta : ℤ) : Option (Value α) × MemoryCache α :=
  c.count (Value.sub py delta) (Value.max0 py) key

/-! ### What the methods do -/

variable {py} {c : MemoryCache α} {key : String}

/-- Without the room that a new key needs, the first key goes. -/
theorem set_eq (hmaxsize : 1 ≤ c.maxsize) (key : String) (value : Value α) (expire : Option ℚ) :
    c.set key value expire = (some (), { c with
      cache := c.cache.store c.maxsize key { value, expire := expire.getD 0 } }) := by
  unfold set Dict.store Dict.makeRoom
  by_cases hkey : key ∈ c.cache.keys
  · rw [if_pos hkey, if_neg fun hfull => hfull.1 hkey]
    rfl
  · rw [if_neg hkey]
    by_cases hfull : c.maxsize ≤ (c.cache.length : ℤ)
    · rw [if_pos hfull, if_pos ⟨hkey, hfull⟩]
      have hnew : key ∉ c.cache.popFirst.keys := by
        rw [Dict.keys_popFirst]
        exact fun hmem => hkey (List.mem_of_mem_tail hmem)
      cases hkeys : c.cache.keys with
      | nil =>
        rw [← Dict.length_keys, hkeys] at hfull
        exact absurd (hmaxsize.trans hfull) (by decide)
      | cons first rest => simp only [Dict.put, Dict.erase_of_notMem hnew]
    · rw [if_neg hfull, if_neg fun h => hfull h.2, Dict.put, Dict.erase_of_notMem hkey]

variable {operator returned : Value α → Option (Value α)}

/-- A missing counter is stored at the end. -/
theorem count_eq_of_notMem (hmaxsize : 1 ≤ c.maxsize) (hkey : key ∉ c.cache.keys) {value : Value α}
    (hvalue : operator (.int 0) = some value) :
    c.count operator returned key = (returned value, { c with
      cache := c.cache.store c.maxsize key { value, expire := 0 } }) := by
  unfold count
  rw [if_pos hkey, set_eq hmaxsize]
  simp only [Dict.store, Dict.get?_put, if_true, hvalue, Dict.set_put, Option.getD_none]

/-- A counter that is there stays where it is. -/
theorem count_eq_of_get? {entry : Entry α} (hentry : c.cache.get? key = some entry) :
    c.count operator returned key =
      match operator entry.value with
      | none => (none, c)
      | some value => (returned value, { c with
          cache := c.cache.set key { entry with value } }) := by
  unfold count
  rw [if_neg (not_not.2 (Dict.mem_keys_of_get? hentry))]
  simp only [hentry]

end MemoryCache

end Cache

end OmsWmsTms
