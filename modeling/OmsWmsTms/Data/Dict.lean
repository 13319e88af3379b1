import Mathlib.Data.List.Nodup

/-!
# Insertion-ordered dictionaries

Python's `dict`: the items in the order in which their keys were first set, with one item for a
key.  Setting a key that is present replaces its value in place.
-/

namespace OmsWmsTms

/-- An insertion-ordered dictionary. -/
structure Dict (K V : Type*) where
  /-- The items, in insertion order. -/
  items : List (K × V)
  /-- A key has one item. -/
  nodup : (items.map Prod.fst).Nodup

namespace Dict

variable {K V : Type*}

/-- The empty dictionary. -/
def empty : Dict K V := ⟨[], List.nodup_nil⟩

/-- The keys, in insertion order. -/
def keys (d : Dict K V) : List K := d.items.map Prod.fst

variable [DecidableEq K]

/-- The value of the first item with key `k`. -/
def lookup (k : K) : List (K × V) → Option V
  | [] => none
  | (k', v) :: l => if k' = k then some v else lookup k l

/-- Replace the value of `k` in place, or append a new item. -/
def insert (k : K) (v : V) : List (K × V) → List (K × V)
  | [] => [(k, v)]
  | (k', v') :: l => if k' = k then (k, v) :: l else (k', v') :: insert k v l

theorem map_fst_insert (k : K) (v : V) (l : List (K × V)) :
    (insert k v l).map Prod.fst =
      if k ∈ l.map Prod.fst then l.map Prod.fst else l.map Prod.fst ++ [k] := by
  induction l with
  | nil => simp [insert]
  | cons p l ih =>
    obtain ⟨k', v'⟩ := p
    simp only [insert]
    split_ifs with h h'
    · subst h; simp
    · subst h; simp at h'
    · rename_i hm
      rw [List.map_cons, ih, if_pos]
      · rfl
      · simpa [Ne.symm h] using hm
    · rename_i hm
      rw [List.map_cons, ih, if_neg]
      · rfl
      · simpa [Ne.symm h] using hm

/-- `d.get(k)`. -/
def get? (d : Dict K V) (k : K) : Option V := lookup k d.items

/-- `d[k] = v`. -/
def set (d : Dict K V) (k : K) (v : V) : Dict K V where
  items := insert k v d.items
  nodup := by
    rw [map_fst_insert]
    split_ifs with h
    · exact d.nodup
    · exact List.nodup_append.2 ⟨d.nodup, List.nodup_singleton k, by
        rintro a ha b hb rfl
        rw [List.mem_singleton] at hb
        exact h (hb ▸ ha)⟩

/-- `d.setdefault(k, []).append(v)`, on a dictionary of lists. -/
def append (d : Dict K (List V)) (k : K) (v : V) : Dict K (List V) :=
  d.set k ((d.get? k).getD [] ++ [v])

/-- `UPDATE … WHERE id = …`: change the value of a key, if it has one. -/
def modify (d : Dict K V) (k : K) (change : V → V) : Dict K V :=
  match d.get? k with
  | none => d
  | some v => d.set k (change v)

/-- `d.pop(k, None)`: the dictionary without a key. -/
def erase (d : Dict K V) (k : K) : Dict K V where
  items := d.items.filter fun item => item.1 ≠ k
  nodup := d.nodup.sublist (List.filter_sublist.map Prod.fst)

@[simp] theorem get?_empty (k : K) : (empty : Dict K V).get? k = none := rfl

theorem lookup_filter_ne (k k' : K) (l : List (K × V)) :
    lookup k' (l.filter fun item => item.1 ≠ k) = if k = k' then none else lookup k' l := by
  induction l with
  | nil => simp [lookup]
  | cons p l ih =>
    obtain ⟨k₀, v₀⟩ := p
    by_cases h : k₀ = k
    · subst h
      simp only [List.filter_cons, ne_eq, not_true_eq_false, decide_false, Bool.false_eq_true,
        if_false, lookup, ih]
      split_ifs <;> rfl
    · simp only [List.filter_cons, ne_eq, h, not_false_eq_true, decide_true, if_true, lookup, ih]
      split_ifs with h₀ h₁
      · exact absurd (h₀.trans h₁.symm) h
      · rfl
      · rfl
      · rfl

@[simp] theorem get?_erase (d : Dict K V) (k k' : K) :
    (d.erase k).get? k' = if k = k' then none else d.get? k' := lookup_filter_ne k k' d.items

theorem lookup_insert (k k' : K) (v : V) (l : List (K × V)) :
    lookup k' (insert k v l) = if k = k' then some v else lookup k' l := by
  induction l with
  | nil => simp [insert, lookup]
  | cons p l ih =>
    obtain ⟨k₀, v₀⟩ := p
    simp only [insert]
    split_ifs with h h' h'
    · subst h; simp [lookup, h']
    · subst h; simp [lookup, h']
    · subst h'; simp [lookup, h, ih]
    · simp [lookup, ih, h']

@[simp] theorem get?_set (d : Dict K V) (k k' : K) (v : V) :
    (d.set k v).get? k' = if k = k' then some v else d.get? k' := lookup_insert k k' v d.items

theorem get?_modify (d : Dict K V) (k k' : K) (change : V → V) :
    (d.modify k change).get? k' = if k = k' then (d.get? k').map change else d.get? k' := by
  unfold modify
  cases hget : d.get? k with
  | none =>
    split_ifs with hkey
    · rw [← hkey, hget]
      rfl
    · rfl
  | some v =>
    rw [get?_set]
    split_ifs with hkey
    · rw [← hkey, hget]
      rfl
    · rfl

/-- `UPDATE … WHERE id IN …` changes the values of these keys and no others. -/
theorem get?_foldl_modify {change : V → V} (hchange : ∀ v, change (change v) = change v)
    (keys : List K) (d : Dict K V) (k : K) :
    (keys.foldl (fun d k => d.modify k change) d).get? k =
      if k ∈ keys then (d.get? k).map change else d.get? k := by
  induction keys generalizing d with
  | nil => rfl
  | cons key keys ih =>
    rw [List.foldl_cons, ih, get?_modify]
    by_cases hkey : key = k
    · subst hkey
      rw [if_pos rfl, if_pos List.mem_cons_self]
      split_ifs
      · cases d.get? key with
        | none => rfl
        | some v => exact congrArg some (hchange v)
      · rfl
    · rw [if_neg hkey]
      simp [Ne.symm hkey]

@[simp] theorem get?_append (d : Dict K (List V)) (k k' : K) (v : V) :
    (d.append k v).get? k' = if k = k' then some ((d.get? k).getD [] ++ [v]) else d.get? k' :=
  get?_set _ _ _ _

theorem lookup_eq_none_iff {k : K} {l : List (K × V)} :
    lookup k l = none ↔ k ∉ l.map Prod.fst := by
  induction l with
  | nil => simp [lookup]
  | cons p l ih =>
    obtain ⟨k', v⟩ := p
    simp only [lookup, List.map_cons, List.mem_cons, not_or]
    split_ifs with h
    · simp [h]
    · rw [ih]; simp [Ne.symm h]

theorem get?_eq_none_iff {d : Dict K V} {k : K} : d.get? k = none ↔ k ∉ d.keys :=
  lookup_eq_none_iff

/-- A new key goes to the end. -/
theorem insert_of_notMem {k : K} {v : V} {l : List (K × V)} (h : k ∉ l.map Prod.fst) :
    insert k v l = l ++ [(k, v)] := by
  induction l with
  | nil => rfl
  | cons p l ih =>
    obtain ⟨k', v'⟩ := p
    rw [List.map_cons, List.mem_cons, not_or] at h
    rw [insert, if_neg (Ne.symm h.1), ih h.2, List.cons_append]

theorem items_set_of_none {d : Dict K V} {k : K} {v : V} (h : d.get? k = none) :
    (d.set k v).items = d.items ++ [(k, v)] := insert_of_notMem (get?_eq_none_iff.1 h)

theorem length_insert (k : K) (v : V) (l : List (K × V)) :
    (insert k v l).length = if k ∈ l.map Prod.fst then l.length else l.length + 1 := by
  have hlength := congrArg List.length (map_fst_insert k v l)
  split_ifs at hlength ⊢ <;> simpa using hlength

/-- Items with new keys go to the end, one after the other. -/
theorem foldl_insert_of_nodup (items l : List (K × V)) (h : ((l ++ items).map Prod.fst).Nodup) :
    items.foldl (fun l item => insert item.1 item.2 l) l = l ++ items := by
  induction items generalizing l with
  | nil => rw [List.foldl_nil, List.append_nil]
  | cons item items ih =>
    have hnew : item.1 ∉ l.map Prod.fst := by
      rw [List.map_append, List.map_cons] at h
      exact fun hmem => (List.disjoint_of_nodup_append h) hmem List.mem_cons_self
    rw [List.foldl_cons, insert_of_notMem hnew, ih] <;> rw [List.append_assoc, List.singleton_append]
    exact h

theorem length_foldl_insert_le (items l : List (K × V)) :
    (items.foldl (fun l item => insert item.1 item.2 l) l).length ≤ l.length + items.length := by
  induction items generalizing l with
  | nil => exact Nat.le_refl _
  | cons item items ih =>
    have hle := ih (insert item.1 item.2 l)
    have hlength := length_insert item.1 item.2 l
    rw [List.foldl_cons, List.length_cons]
    split_ifs at hlength <;> omega

/-- Where no item is lost, the keys were new. -/
theorem nodup_of_length_foldl_insert {items l : List (K × V)} (hl : (l.map Prod.fst).Nodup)
    (h : (items.foldl (fun l item => insert item.1 item.2 l) l).length =
      l.length + items.length) : ((l ++ items).map Prod.fst).Nodup := by
  induction items generalizing l with
  | nil => rwa [List.append_nil]
  | cons item items ih =>
    have hle := length_foldl_insert_le items (insert item.1 item.2 l)
    have hlength := length_insert item.1 item.2 l
    rw [List.foldl_cons, List.length_cons] at h
    by_cases hmem : item.1 ∈ l.map Prod.fst
    · rw [if_pos hmem] at hlength
      omega
    · rw [insert_of_notMem hmem] at h
      have hnodup : ((l ++ [item]).map Prod.fst).Nodup := by
        rw [List.map_append, List.map_singleton]
        exact List.nodup_append.2 ⟨hl, List.nodup_singleton _, by
          rintro a ha b hb rfl
          exact hmem (List.mem_singleton.1 hb ▸ ha)⟩
      have hitems := ih hnodup (by rw [h, List.length_append, List.length_singleton]; omega)
      rwa [List.append_assoc, List.singleton_append] at hitems

theorem mem_items_of_lookup {k : K} {v : V} {l : List (K × V)} (h : lookup k l = some v) :
    (k, v) ∈ l := by
  induction l with
  | nil => cases h
  | cons p l ih =>
    obtain ⟨k', v'⟩ := p
    simp only [lookup] at h
    split_ifs at h with hk
    · cases h; subst hk; exact List.mem_cons_self
    · exact List.mem_cons_of_mem _ (ih h)

theorem mem_items_of_get? {d : Dict K V} {k : K} {v : V} (h : d.get? k = some v) :
    (k, v) ∈ d.items := mem_items_of_lookup h

theorem lookup_of_mem {k : K} {v : V} {l : List (K × V)} (hl : (l.map Prod.fst).Nodup)
    (h : (k, v) ∈ l) : lookup k l = some v := by
  induction l with
  | nil => cases h
  | cons p l ih =>
    obtain ⟨k', v'⟩ := p
    rw [List.map_cons, List.nodup_cons] at hl
    rcases List.mem_cons.1 h with heq | hm
    · cases heq; simp [lookup]
    · have hne : k' ≠ k := by
        rintro rfl
        exact hl.1 (List.mem_map.2 ⟨_, hm, rfl⟩)
      rw [lookup, if_neg hne]
      exact ih hl.2 hm

theorem get?_of_mem_items {d : Dict K V} {k : K} {v : V} (h : (k, v) ∈ d.items) :
    d.get? k = some v := lookup_of_mem d.nodup h

/-- What a loop of `setdefault`-and-append leaves at a key: the values of the entries of that key,
in order. -/
theorem getD_get?_foldl_append {α : Type*} (f : α → K) (g : α → V) (l : List α)
    (d : Dict K (List V)) (k : K) :
    ((l.foldl (fun d a => d.append (f a) (g a)) d).get? k).getD [] =
      (d.get? k).getD [] ++ (l.filter (f · = k)).map g := by
  induction l generalizing d with
  | nil => simp
  | cons a l ih =>
    rw [List.foldl_cons, ih, get?_append, List.filter_cons]
    by_cases h : f a = k
    · simp [h]
    · simp [h]

/-- What a loop of assignments leaves at a key: the value of the last entry of that key. -/
theorem get?_foldl_set {α : Type*} (f : α → K) (g : α → V) (l : List α) (d : Dict K V) (k : K) :
    (l.foldl (fun d a => d.set (f a) (g a)) d).get? k =
      (((l.filter (f · = k)).getLast?).map g).or (d.get? k) := by
  induction l generalizing d with
  | nil => simp
  | cons a l ih =>
    rw [List.foldl_cons, ih, get?_set, List.filter_cons]
    by_cases h : f a = k
    · simp only [h, decide_true, if_true, List.getLast?_cons]
      cases (l.filter (f · = k)).getLast? <;> simp
    · simp [h]

end Dict

end OmsWmsTms
