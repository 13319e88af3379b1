import OmsWmsTms.Data.Dict
import Mathlib.Data.Int.Notation

/-!
# A remote key-value store

The keys of a server, each with a value and the time at which it expires, and what a client sees of
a command: an exception can stand for a command that was executed as well as for one that was not.

* `Keyspace`, `get`, `getDel`, `setEx`, `setNx`, `del` : the commands.
* `Reply` : how a command ends for its caller.
* `SortedSet`, `zadd`, `zremrangebyscore`, `zcard` : the sorted sets, members with scores.
-/

namespace OmsWmsTms

/-- How a command ends for its caller. -/
inductive Reply
  /-- It is executed and answered. -/
  | ok
  /-- It raises, and is not executed. -/
  | unsent
  /-- It is executed, but raises. -/
  | unanswered
deriving DecidableEq

/-- The keys of a server, with their values and the times at which they expire. -/
abbrev Keyspace (K V : Type*) := Dict K (V × ℤ)

namespace Keyspace

variable {K V : Type*} [DecidableEq K]

/-- `GET`. -/
def get (now : ℤ) (k : K) (d : Keyspace K V) : Option V :=
  match d.get? k with
  | some (v, expires) => if now < expires then some v else none
  | none => none

/-- `SET … EX`. -/
def setEx (now : ℤ) (k : K) (v : V) (ttl : ℤ) (d : Keyspace K V) : Keyspace K V :=
  d.set k (v, now + ttl)

/-- `SET … EX NX`, and whether it has set the key. -/
def setNx (now : ℤ) (k : K) (v : V) (ttl : ℤ) (d : Keyspace K V) : Bool × Keyspace K V :=
  if (get now k d).isSome then (false, d) else (true, setEx now k v ttl d)

/-- `DEL`. -/
def del (k : K) (d : Keyspace K V) : Keyspace K V := d.erase k

/-- A script that gets a key, and deletes it if it is there. -/
def getDel (now : ℤ) (k : K) (d : Keyspace K V) : Option V × Keyspace K V :=
  match get now k d with
  | some v => (some v, del k d)
  | none => (none, d)

variable {now : ℤ} {k k' : K} {v : V} {ttl : ℤ} {d : Keyspace K V}

theorem get_eq_some : get now k d = some v ↔ ∃ expires, d.get? k = some (v, expires) ∧
    now < expires := by
  unfold get
  cases h : d.get? k with
  | none => simp
  | some p => simp [Prod.ext_iff, and_comm]

theorem get_eq_none_of_get? (h : d.get? k = none) : get now k d = none := by
  simp [get, h]

theorem setNx_of_some (h : get now k d = some v) {v' : V} :
    setNx now k v' ttl d = (false, d) := by
  simp [setNx, h]

theorem setNx_of_none (h : get now k d = none) :
    setNx now k v ttl d = (true, setEx now k v ttl d) := by
  simp [setNx, h]

@[simp] theorem get?_setEx : (setEx now k v ttl d).get? k' =
    if k = k' then some (v, now + ttl) else d.get? k' := Dict.get?_set _ _ _ _

@[simp] theorem get?_del : (del k d).get? k' = if k = k' then none else d.get? k' :=
  Dict.get?_erase _ _ _

@[simp] theorem get_setEx {now' : ℤ} : get now' k' (setEx now k v ttl d) =
    if k = k' then (if now' < now + ttl then some v else none) else get now' k' d := by
  unfold get
  rw [get?_setEx]
  split_ifs <;> simp_all

@[simp] theorem get_del : get now k' (del k d) = if k = k' then none else get now k' d := by
  unfold get
  rw [get?_del]
  split_ifs <;> rfl

/-- What has expired stays expired. -/
theorem get_eq_none_of_le {now' : ℤ} (hnow : now ≤ now') (h : get now k d = none) :
    get now' k d = none := by
  refine Option.eq_none_iff_forall_ne_some.2 fun v hv => ?_
  obtain ⟨expires, hget, hlt⟩ := get_eq_some.1 hv
  rw [get_eq_some.2 ⟨expires, hget, Int.lt_of_le_of_lt hnow hlt⟩] at h
  cases h

theorem getDel_fst : (getDel now k d).1 = get now k d := by
  unfold getDel
  cases get now k d <;> rfl

theorem get?_getDel : (getDel now k d).2.get? k' =
    if k = k' ∧ (get now k d).isSome then none else d.get? k' := by
  unfold getDel
  cases get now k d with
  | none => simp
  | some v => simp

/-- What the script has returned is gone. -/
theorem get?_getDel_self (h : (getDel now k d).1 = some v) : (getDel now k d).2.get? k = none := by
  rw [getDel_fst] at h
  simp [get?_getDel, h]

theorem get_getDel {now' : ℤ} (hnow : now ≤ now') : get now' k' (getDel now k d).2 =
    if k = k' then none else get now' k' d := by
  unfold getDel
  cases h : get now k d with
  | some v => exact get_del
  | none =>
    split_ifs with hk
    · rw [← hk]
      exact get_eq_none_of_le hnow h
    · rfl

end Keyspace

/-! ### Sorted sets -/

/-- A sorted set: its members, each with its score. -/
abbrev SortedSet (M : Type*) := Dict M ℤ

namespace SortedSet

variable {M : Type*}

/-- `ZREMRANGEBYSCORE` from `-inf` to a score. -/
def zremrangebyscore (max : ℤ) (set : SortedSet M) : SortedSet M where
  items := set.items.filter fun entry => max < entry.2
  nodup := set.nodup.sublist (List.filter_sublist.map Prod.fst)

/-- `ZCARD`. -/
def zcard (set : SortedSet M) : ℕ := set.items.length

/-- The scores of the members. -/
def scores (set : SortedSet M) : List ℤ := set.items.map Prod.snd

theorem zcard_eq_length (set : SortedSet M) : set.zcard = set.scores.length :=
  (List.length_map _).symm

theorem scores_zremrangebyscore (max : ℤ) (set : SortedSet M) :
    (set.zremrangebyscore max).scores = set.scores.filter fun score => max < score := by
  unfold scores zremrangebyscore
  rw [List.filter_map]
  rfl

variable [DecidableEq M]

/-- `ZADD` of one member. -/
def zadd (member : M) (score : ℤ) (set : SortedSet M) : SortedSet M := set.set member score

theorem insert_of_notMem {member : M} {score : ℤ} {l : List (M × ℤ)}
    (h : member ∉ l.map Prod.fst) : Dict.insert member score l = l ++ [(member, score)] := by
  induction l with
  | nil => rfl
  | cons entry l ih =>
    rw [List.map_cons, List.mem_cons, not_or] at h
    rw [Dict.insert, if_neg (Ne.symm h.1), ih h.2, List.cons_append]

/-- A new member is one more. -/
theorem scores_zadd {set : SortedSet M} {member : M} (h : set.get? member = none) (score : ℤ) :
    (set.zadd member score).scores = set.scores ++ [score] := by
  have hitems : (set.zadd member score).items = set.items ++ [(member, score)] :=
    insert_of_notMem (Dict.get?_eq_none_iff.1 h)
  rw [scores, hitems, List.map_append]
  rfl

end SortedSet

end OmsWmsTms
