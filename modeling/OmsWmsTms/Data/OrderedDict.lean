import Mathlib.Data.Int.Notation
import OmsWmsTms.Data.Dict

/-!
# Dictionaries in the order of use

Python's `OrderedDict`, whose items can be moved to the end and taken from the front, and the
bounded map that is built from it: a use puts an item last, and a full map makes room for a new key
by losing its first item.

* `put`, `moveToEnd`, `popFirst` : an item goes last, or the first item goes.
* `keep`, `map` : the items of some keys, and the items with other values.
* `makeRoom`, `store` : the bounded map; `length_store_le` : it stays within its bound, and
  `mem_store_or` : what it loses.
* `keep_put_store` : an unbounded map that forgets the keys which the bounded one has lost is the
  bounded one.
-/

namespace OmsWmsTms

namespace Dict

variable {K V W : Type*}

theorem ext_items {d d' : Dict K V} (h : d.items = d'.items) : d = d' := by
  cases d
  cases d'
  cases h
  rfl

theorem mem_keys_of_mem_items {d : Dict K V} {item : K × V} (h : item ∈ d.items) :
    item.1 ∈ d.keys := List.mem_map_of_mem h

theorem nodup_keys (d : Dict K V) : d.keys.Nodup := d.nodup

/-- The number of items. -/
def length (d : Dict K V) : ℕ := d.items.length

@[simp] theorem length_keys (d : Dict K V) : d.keys.length = d.length := List.length_map _

/-- `d.popitem(last=False)`: without the first item. -/
def popFirst (d : Dict K V) : Dict K V where
  items := d.items.tail
  nodup := d.nodup.sublist ((List.tail_sublist _).map Prod.fst)

@[simp] theorem keys_popFirst (d : Dict K V) : d.popFirst.keys = d.keys.tail :=
  List.map_tail

theorem length_popFirst (d : Dict K V) : d.popFirst.length = d.length - 1 := List.length_tail

/-- The items of the keys that satisfy a predicate. -/
def keep (d : Dict K V) (p : K → Prop) [DecidablePred p] : Dict K V where
  items := d.items.filter fun item => p item.1
  nodup := d.nodup.sublist (List.filter_sublist.map Prod.fst)

theorem keys_keep (d : Dict K V) (p : K → Prop) [DecidablePred p] :
    (d.keep p).keys = d.keys.filter p := by
  unfold keys keep
  rw [List.filter_map]
  rfl

theorem mem_keys_keep {d : Dict K V} {p : K → Prop} [DecidablePred p] {k : K} :
    k ∈ (d.keep p).keys ↔ k ∈ d.keys ∧ p k := by
  rw [keys_keep, List.mem_filter, decide_eq_true_iff]

theorem keep_eq_self {d : Dict K V} {p : K → Prop} [DecidablePred p] (h : ∀ k ∈ d.keys, p k) :
    d.keep p = d := by
  refine ext_items (List.filter_eq_self.2 fun item hitem => ?_)
  exact decide_eq_true (h _ (mem_keys_of_mem_items hitem))

/-- The same keys, with other values. -/
def map (f : V → W) (d : Dict K V) : Dict K W where
  items := d.items.map fun item => (item.1, f item.2)
  nodup := by
    rw [List.map_map]
    exact d.nodup

theorem items_map (f : V → W) (d : Dict K V) :
    (d.map f).items = d.items.map fun item => (item.1, f item.2) := rfl

@[simp] theorem keys_map (f : V → W) (d : Dict K V) : (d.map f).keys = d.keys := by
  unfold keys
  rw [items_map, List.map_map]
  rfl

@[simp] theorem length_map (f : V → W) (d : Dict K V) : (d.map f).length = d.length :=
  List.length_map _

theorem map_popFirst (f : V → W) (d : Dict K V) : d.popFirst.map f = (d.map f).popFirst :=
  ext_items List.map_tail

variable [DecidableEq K]

/-! ### The order of use -/

theorem mem_keys_of_get? {d : Dict K V} {k : K} {v : V} (h : d.get? k = some v) : k ∈ d.keys :=
  mem_keys_of_mem_items (mem_items_of_get? h)

theorem keys_erase (d : Dict K V) (k : K) : (d.erase k).keys = d.keys.filter (· ≠ k) := by
  unfold keys erase
  rw [List.filter_map]
  rfl

theorem erase_of_notMem {d : Dict K V} {k : K} (h : k ∉ d.keys) : d.erase k = d := by
  refine ext_items (List.filter_eq_self.2 fun item hitem => decide_eq_true ?_)
  rintro rfl
  exact h (mem_keys_of_mem_items hitem)

theorem notMem_keys_erase (d : Dict K V) (k : K) : k ∉ (d.erase k).keys := by
  rw [keys_erase]
  simp

theorem map_erase (f : V → W) (d : Dict K V) (k : K) : (d.erase k).map f = (d.map f).erase k := by
  refine ext_items ?_
  change (d.items.filter _).map _ = (d.items.map _).filter _
  rw [List.filter_map]
  rfl

theorem lookup_map (f : V → W) (k : K) (l : List (K × V)) :
    lookup k (l.map fun item => (item.1, f item.2)) = (lookup k l).map f := by
  induction l with
  | nil => rfl
  | cons item l ih =>
    rw [List.map_cons, lookup, lookup, ih]
    split_ifs <;> rfl

@[simp] theorem get?_map (f : V → W) (d : Dict K V) (k : K) :
    (d.map f).get? k = (d.get? k).map f := lookup_map f k d.items

/-- A key with a value, last. -/
def put (d : Dict K V) (k : K) (v : V) : Dict K V := (d.erase k).set k v

theorem items_put (d : Dict K V) (k : K) (v : V) :
    (d.put k v).items = (d.erase k).items ++ [(k, v)] :=
  insert_of_notMem (notMem_keys_erase d k)

theorem keys_put (d : Dict K V) (k : K) (v : V) :
    (d.put k v).keys = d.keys.filter (· ≠ k) ++ [k] := by
  rw [← keys_erase]
  unfold keys
  rw [items_put, List.map_append, List.map_singleton]

theorem mem_keys_put {d : Dict K V} {k k' : K} {v : V} :
    k' ∈ (d.put k v).keys ↔ k' = k ∨ k' ∈ d.keys := by
  rw [keys_put]
  by_cases h : k' = k <;> simp [h]

@[simp] theorem get?_put (d : Dict K V) (k k' : K) (v : V) :
    (d.put k v).get? k' = if k = k' then some v else d.get? k' := by
  rw [put, get?_set, get?_erase]
  split_ifs <;> rfl

theorem map_put (f : V → W) (d : Dict K V) (k : K) (v : V) :
    (d.put k v).map f = (d.map f).put k (f v) := by
  refine ext_items ?_
  rw [items_put, ← map_erase, items_map, items_map, items_put, List.map_append, List.map_singleton]

/-- Setting the key that is last puts it last. -/
theorem set_eq_put {d : Dict K V} {k : K} {v : V} (h : d.keys.getLast? = some k) :
    d.set k v = d.put k v := by
  obtain ⟨ks, hks⟩ := List.getLast?_eq_some_iff.1 h
  obtain ⟨items, last, hitems, hkeys, hlast⟩ := List.map_eq_append_iff.1 hks
  obtain ⟨⟨k', v'⟩, rfl, hk⟩ := List.map_eq_singleton_iff.1 hlast
  obtain rfl : k' = k := hk
  have hnew : k' ∉ items.map Prod.fst := by
    have hnodup := d.nodup
    rw [hitems, List.map_append] at hnodup
    exact fun hmem => List.disjoint_of_nodup_append hnodup hmem List.mem_cons_self
  have hinsert (l : List (K × V)) (hl : k' ∉ l.map Prod.fst) :
      insert k' v (l ++ [(k', v')]) = l ++ [(k', v)] := by
    induction l with
    | nil => simp [insert]
    | cons item l ih =>
      rw [List.map_cons, List.mem_cons, not_or] at hl
      rw [List.cons_append, insert, if_neg (Ne.symm hl.1), ih hl.2, List.cons_append]
  refine ext_items ?_
  rw [items_put]
  change insert k' v d.items = d.items.filter _ ++ _
  rw [hitems, hinsert items hnew, List.filter_append, List.filter_eq_self.2]
  · simp
  · intro item hitem
    refine decide_eq_true ?_
    rintro rfl
    exact hnew (List.mem_map_of_mem hitem)

/-- A value that is set twice. -/
theorem set_put (d : Dict K V) (k : K) (v v' : V) : (d.put k v).set k v' = d.put k v' := by
  have hlast : (d.put k v).keys.getLast? = some k := by rw [keys_put, List.getLast?_concat]
  rw [set_eq_put hlast]
  refine ext_items ?_
  rw [items_put, items_put]
  change (d.put k v).items.filter _ ++ _ = _
  rw [items_put, List.filter_append, List.filter_eq_self.2]
  · simp
  · intro item hitem
    refine decide_eq_true ?_
    rintro rfl
    exact notMem_keys_erase d _ (mem_keys_of_mem_items hitem)

theorem keys_set_of_mem {d : Dict K V} {k : K} (v : V) (h : k ∈ d.keys) :
    (d.set k v).keys = d.keys :=
  (map_fst_insert k v d.items).trans (if_pos h)

theorem length_set_of_mem {d : Dict K V} {k : K} (v : V) (h : k ∈ d.keys) :
    (d.set k v).length = d.length := by
  rw [← length_keys, keys_set_of_mem v h, length_keys]

theorem map_set (f : V → W) (d : Dict K V) (k : K) (v : V) :
    (d.set k v).map f = (d.map f).set k (f v) := by
  have hinsert (l : List (K × V)) : (insert k v l).map (fun item => (item.1, f item.2)) =
      insert k (f v) (l.map fun item => (item.1, f item.2)) := by
    induction l with
    | nil => rfl
    | cons item l ih =>
      rw [List.map_cons, insert, insert]
      split_ifs
      · rfl
      · rw [List.map_cons, ih]
  exact ext_items (hinsert d.items)

/-- Two dictionaries with the same keys and the same values. -/
theorem ext_get? {d d' : Dict K V} (hkeys : d.keys = d'.keys)
    (hget : ∀ k, d.get? k = d'.get? k) : d = d' := by
  have hitems (d : Dict K V) :
      d.items.map some = d.keys.map fun k => (d.get? k).map fun v => (k, v) := by
    unfold keys
    rw [List.map_map]
    refine List.map_congr_left fun item hitem => ?_
    change _ = (d.get? item.1).map _
    rw [get?_of_mem_items (v := item.2) hitem]
    rfl
  refine ext_items (List.map_injective_iff.2 (fun _ _ => Option.some.inj) ?_)
  rw [hitems, hitems, hkeys]
  exact List.map_congr_left fun k _ => by rw [hget]

/-- A value in place of itself. -/
theorem set_eq_self_iff {d : Dict K V} {k : K} {v v' : V} (h : d.get? k = some v) :
    d.set k v' = d ↔ v' = v := by
  constructor
  · intro heq
    have hget := get?_set d k k v'
    rw [heq, h, if_pos rfl] at hget
    exact (Option.some.inj hget).symm
  · rintro rfl
    refine ext_get? (keys_set_of_mem _ (mem_keys_of_get? h)) fun k' => ?_
    rw [get?_set]
    split_ifs with hk
    · rw [← hk, h]
    · rfl

/-- A value in place of another one, compared with a value at the end. -/
theorem set_eq_put_iff {d : Dict K V} {k : K} {v v' : V} (h : k ∈ d.keys) :
    d.set k v = d.put k v' ↔ v' = v ∧ d.keys.getLast? = some k := by
  constructor
  · intro heq
    constructor
    · have hget := get?_set d k k v
      rw [heq, get?_put, if_pos rfl, if_pos rfl] at hget
      exact Option.some.inj hget
    · rw [← keys_set_of_mem v h, heq, keys_put, List.getLast?_concat]
  · rintro ⟨rfl, hlast⟩
    exact set_eq_put hlast

/-- `d.move_to_end(k)`, on a key that is present. -/
def moveToEnd (d : Dict K V) (k : K) : Dict K V :=
  match d.get? k with
  | none => d
  | some v => d.put k v

theorem moveToEnd_of_get? {d : Dict K V} {k : K} {v : V} (h : d.get? k = some v) :
    d.moveToEnd k = d.put k v := by
  unfold moveToEnd
  rw [h]

theorem mem_keys_moveToEnd {d : Dict K V} {k k' : K} :
    k' ∈ (d.moveToEnd k).keys ↔ k' ∈ d.keys := by
  cases hget : d.get? k with
  | none =>
    unfold moveToEnd
    rw [hget]
  | some v =>
    rw [moveToEnd_of_get? hget, mem_keys_put, or_iff_right_of_imp]
    rintro rfl
    exact mem_keys_of_get? hget

theorem map_moveToEnd (f : V → W) (d : Dict K V) (k : K) :
    (d.moveToEnd k).map f = (d.map f).moveToEnd k := by
  unfold moveToEnd
  rw [get?_map]
  cases d.get? k with
  | none => rfl
  | some v => exact map_put f d k v

/-! ### The bounded map -/

theorem length_put_of_mem {d : Dict K V} {k : K} (v : V) (h : k ∈ d.keys) :
    (d.put k v).length = d.length := by
  have hfilter : d.keys.filter (· ≠ k) = d.keys.erase k := by
    rw [d.nodup_keys.erase_eq_filter]
    exact List.filter_congr fun k' _ => by rw [Bool.eq_iff_iff]; simp
  rw [← length_keys, ← length_keys, keys_put, hfilter, List.length_append, List.length_singleton,
    List.length_erase_add_one h]

theorem length_put_of_notMem {d : Dict K V} {k : K} (v : V) (h : k ∉ d.keys) :
    (d.put k v).length = d.length + 1 := by
  unfold length
  rw [items_put, erase_of_notMem h, List.length_append, List.length_singleton]

theorem length_moveToEnd (d : Dict K V) (k : K) : (d.moveToEnd k).length = d.length := by
  cases hget : d.get? k with
  | none =>
    unfold moveToEnd
    rw [hget]
  | some v =>
    rw [moveToEnd_of_get? hget]
    exact length_put_of_mem v (mem_keys_of_get? hget)

theorem length_erase_le (d : Dict K V) (k : K) : (d.erase k).length ≤ d.length :=
  List.length_filter_le _ _

/-- Make room for a key: a full dictionary without the key loses its first item. -/
def makeRoom (d : Dict K V) (maxsize : ℤ) (k : K) : Dict K V :=
  if k ∉ d.keys ∧ maxsize ≤ (d.length : ℤ) then d.popFirst else d

/-- Put a key with a value last, in a map of at most `maxsize` keys. -/
def store (d : Dict K V) (maxsize : ℤ) (k : K) (v : V) : Dict K V := (d.makeRoom maxsize k).put k v

variable {d : Dict K V} {maxsize : ℤ} {k : K} {v : V}

theorem map_store (f : V → W) (d : Dict K V) (maxsize : ℤ) (k : K) (v : V) :
    (d.store maxsize k v).map f = (d.map f).store maxsize k (f v) := by
  unfold store makeRoom
  rw [map_put, keys_map, length_map]
  split_ifs
  · rw [map_popFirst]
  · rfl

/-- **The bounded map stays within its bound.** -/
theorem length_store_le (hmaxsize : 1 ≤ maxsize) (h : (d.length : ℤ) ≤ maxsize) (k : K) (v : V) :
    ((d.store maxsize k v).length : ℤ) ≤ maxsize := by
  unfold store makeRoom
  by_cases hk : k ∈ d.keys
  · rw [if_neg fun hfull => hfull.1 hk, length_put_of_mem v hk]
    exact h
  · split_ifs with hfull
    · have hnew : k ∉ d.popFirst.keys := by
        rw [keys_popFirst]
        exact fun hmem => hk (List.mem_of_mem_tail hmem)
      rw [length_put_of_notMem v hnew, length_popFirst]
      omega
    · rw [length_put_of_notMem v hk]
      have hroom : (d.length : ℤ) < maxsize := Int.not_le.1 fun hle => hfull ⟨hk, hle⟩
      omega

/-- A new key makes the first one go, or joins the others. -/
theorem keys_store_of_notMem (v : V) (h : k ∉ d.keys) : (d.store maxsize k v).keys =
    (if maxsize ≤ (d.length : ℤ) then d.keys.tail else d.keys) ++ [k] := by
  have hfilter (ks : List K) (hks : ks.Sublist d.keys) : ks.filter (· ≠ k) = ks := by
    refine List.filter_eq_self.2 fun k' hk' => decide_eq_true ?_
    rintro rfl
    exact h (hks.subset hk')
  unfold store makeRoom
  rw [keys_put]
  by_cases hfull : maxsize ≤ (d.length : ℤ)
  · rw [if_pos hfull, if_pos ⟨h, hfull⟩, keys_popFirst, hfilter _ (List.tail_sublist _)]
  · rw [if_neg hfull, if_neg fun hk => hfull hk.2, hfilter _ (List.Sublist.refl _)]

/-- **What the bounded map loses**: the first key, and only to a new key. -/
theorem lost_of_store {k' : K} (hmem : k' ∈ d.keys) (hlost : k' ∉ (d.store maxsize k v).keys) :
    k ∉ d.keys ∧ maxsize ≤ (d.length : ℤ) ∧ d.keys.head? = some k' := by
  unfold store makeRoom at hlost
  rw [mem_keys_put, not_or] at hlost
  split_ifs at hlost with hfull
  · refine ⟨hfull.1, hfull.2, ?_⟩
    rw [keys_popFirst] at hlost
    cases hkeys : d.keys with
    | nil =>
      rw [hkeys] at hmem
      cases hmem
    | cons first rest =>
      rw [hkeys] at hmem hlost
      rcases List.mem_cons.1 hmem with rfl | hrest
      · rfl
      · exact absurd hrest hlost.2
  · exact absurd hmem hlost.2

theorem filter_mem_of_sublist {l l' : List (K × V)} (h : l'.Sublist l)
    (hnodup : (l.map Prod.fst).Nodup) :
    l.filter (fun item => item.1 ∈ l'.map Prod.fst) = l' := by
  induction h with
  | slnil => rfl
  | @cons l' l item hsub ih =>
    rw [List.map_cons, List.nodup_cons] at hnodup
    have hnew : item.1 ∉ l'.map Prod.fst := fun hmem => hnodup.1 ((hsub.map Prod.fst).subset hmem)
    rw [List.filter_cons_of_neg (by simpa using hnew), ih hnodup.2]
  | @cons_cons l' l item hsub ih =>
    rw [List.map_cons, List.nodup_cons] at hnodup
    rw [List.filter_cons_of_pos (by simp)]
    refine congrArg (item :: ·) ?_
    rw [← ih hnodup.2]
    refine List.filter_congr fun item' hitem' => ?_
    have hne : item'.1 ≠ item.1 := by
      intro heq
      exact hnodup.1 (heq ▸ List.mem_map_of_mem hitem')
    rw [ih hnodup.2, List.map_cons]
    simp only [List.mem_cons, hne, false_or]

/-- The items of the keys of a part of a dictionary are that part. -/
theorem keep_eq_of_sublist {d d' : Dict K V} (h : d'.items.Sublist d.items) :
    d.keep (· ∈ d'.keys) = d' := ext_items (filter_mem_of_sublist h d.nodup)

theorem mem_of_mem_store {k' : K} (h : k' ∈ (d.store maxsize k v).keys) : k' = k ∨ k' ∈ d.keys := by
  unfold store makeRoom at h
  rw [mem_keys_put] at h
  split_ifs at h with hfull
  · rw [keys_popFirst] at h
    exact h.imp_right List.mem_of_mem_tail
  · exact h

/-- **An unbounded map that forgets** the keys which the bounded one has lost is the bounded one. -/
theorem keep_put_store (d : Dict K V) (maxsize : ℤ) (k : K) (v v' : V) :
    (d.put k v).keep (· ∈ (d.store maxsize k v').keys) = d.store maxsize k v := by
  have hkeys : (d.store maxsize k v').keys = (d.store maxsize k v).keys := by
    unfold store
    rw [keys_put, keys_put]
  rw [hkeys]
  refine keep_eq_of_sublist ?_
  have hroom : (d.makeRoom maxsize k).items.Sublist d.items := by
    unfold makeRoom
    split_ifs
    · exact List.tail_sublist _
    · exact List.Sublist.refl _
  unfold store
  rw [items_put, items_put]
  exact (hroom.filter _).append_right _

theorem store_eq_store_iff {v v' : V} :
    d.store maxsize k v = d.store maxsize k v' ↔ v = v' := by
  refine ⟨fun heq => ?_, fun heq => by rw [heq]⟩
  have hget := congrArg (fun d => d.get? k) heq
  simpa [store] using hget

end Dict

end OmsWmsTms
