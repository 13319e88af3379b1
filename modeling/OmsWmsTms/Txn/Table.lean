import OmsWmsTms.Data.Dict
import Mathlib.Algebra.BigOperators.Group.List.Basic
import Mathlib.Data.List.Induction
import Mathlib.Tactic.Abel

/-!
# Tables, queries and writes

A database is a dictionary of rows by primary key.  A statement reads the rows that match a query,
and a transaction sees its own uncommitted writes laid over the committed rows.

* `select` : the rows that match a query, in the order of the table.
* `overlay` : the rows with a list of writes laid over them.
* `rows` : what a projection finds in the rows, in the order of the table; `filterMap_select` : a
  query on it.
* `total` : the sum of an amount over the rows.
* `AgreeOff` : two databases have the same rows off a set of keys; `select_overlay_congr` : a query
  that matches no row of those keys cannot tell them apart.
-/

namespace OmsWmsTms

namespace Txn

variable {K R : Type} [DecidableEq K] {d d' : Dict K R} {key k : K} {row r : R}

/-- A query: the condition of a `WHERE` clause. -/
abbrev Query (K R : Type) := K → R → Bool

/-- The rows that match a query. -/
def select (query : Query K R) (d : Dict K R) : List (K × R) :=
  d.items.filter fun item => query item.1 item.2

/-- The query for one primary key. -/
def keyQuery (key : K) : Query K R := fun k _ => decide (k = key)

/-- The database with a list of writes laid over it, the last one uppermost. -/
def overlay (d : Dict K R) (writes : List (K × R)) : Dict K R :=
  writes.foldl (fun d w => d.set w.1 w.2) d

@[simp] theorem overlay_nil : overlay d [] = d := rfl

@[simp] theorem overlay_cons (writes : List (K × R)) :
    overlay d ((key, row) :: writes) = overlay (d.set key row) writes := rfl

theorem overlay_append (writes writes' : List (K × R)) :
    overlay d (writes ++ writes') = overlay (overlay d writes) writes' := List.foldl_append

@[simp] theorem overlay_concat (writes : List (K × R)) :
    overlay d (writes ++ [(key, row)]) = (overlay d writes).set key row := by
  simp [overlay]

theorem mem_select {query : Query K R} :
    (k, r) ∈ select query d ↔ d.get? k = some r ∧ query k r = true := by
  rw [select, List.mem_filter]
  exact and_congr_left fun _ => ⟨Dict.get?_of_mem_items, Dict.mem_items_of_get?⟩

omit [DecidableEq K] in
/-- The rows of a query have distinct keys. -/
theorem nodup_select (query : Query K R) (d : Dict K R) :
    ((select query d).map Prod.fst).Nodup :=
  d.nodup.sublist (List.filter_sublist.map Prod.fst)

theorem select_keyQuery_of_get? (h : d.get? key = some row) :
    select (keyQuery key) d = [(key, row)] := by
  have hmem : (key, row) ∈ select (keyQuery key) d := mem_select.2 ⟨h, by simp [keyQuery]⟩
  have hall : ∀ item ∈ select (keyQuery key) d, item = (key, row) := by
    rintro ⟨k, r⟩ hitem
    obtain ⟨hget, hk⟩ := mem_select.1 hitem
    obtain rfl : k = key := by simpa [keyQuery] using hk
    rw [h] at hget
    cases hget
    rfl
  have hnodup := (nodup_select (keyQuery key) d).of_map
  cases hsel : select (keyQuery key) d with
  | nil =>
    rw [hsel] at hmem
    cases hmem
  | cons item rest =>
    rw [hsel] at hall hnodup
    obtain rfl := hall item List.mem_cons_self
    cases rest with
    | nil => rfl
    | cons item rest =>
      obtain rfl := hall item (by simp)
      simp at hnodup

theorem select_keyQuery_eq_nil_iff : select (keyQuery key) d = [] ↔ d.get? key = none := by
  constructor
  · intro h
    cases hget : d.get? key with
    | none => rfl
    | some row =>
      rw [select_keyQuery_of_get? hget] at h
      cases h
  · intro h
    refine List.eq_nil_iff_forall_not_mem.2 fun item hitem => ?_
    obtain ⟨k, r⟩ := item
    obtain ⟨hget, hk⟩ := mem_select.1 hitem
    obtain rfl : k = key := by simpa [keyQuery] using hk
    rw [h] at hget
    cases hget

/-- What is found by a primary key. -/
theorem findSome?_select_keyQuery {α : Type} (f : R → Option α) :
    ((select (keyQuery key) d).findSome? fun item => f item.2) = (d.get? key).bind f := by
  cases hget : d.get? key with
  | none =>
    rw [select_keyQuery_eq_nil_iff.2 hget]
    rfl
  | some row =>
    rw [select_keyQuery_of_get? hget, List.findSome?_cons]
    cases hf : f row <;> simp [hf]

/-! ### Projections -/

section Rows

variable {α : Type} {f : R → Option α}

/-- What a projection finds in the rows, in the order of the table: of new rows, that in which they
were inserted. -/
def rows (f : R → Option α) (d : Dict K R) : List α := d.items.filterMap fun item => f item.2

theorem mem_rows {a : α} : a ∈ rows f d ↔ ∃ k r, d.get? k = some r ∧ f r = some a := by
  rw [rows, List.mem_filterMap]
  constructor
  · rintro ⟨⟨k, r⟩, hmem, hf⟩
    exact ⟨k, r, Dict.get?_of_mem_items hmem, hf⟩
  · rintro ⟨k, r, hget, hf⟩
    exact ⟨(k, r), Dict.mem_items_of_get? hget, hf⟩

omit [DecidableEq K] in
/-- The rows of a query on a projection. -/
theorem filterMap_select (f : R → Option α) (cond : α → Bool) (d : Dict K R) :
    (select (fun _ row => (f row).any cond) d).filterMap (fun item => f item.2) =
      (rows f d).filter cond := by
  unfold select rows
  induction d.items with
  | nil => rfl
  | cons item items ih =>
    rw [List.filterMap_cons]
    cases hf : f item.2 with
    | none =>
      rw [List.filter_cons_of_neg (by simp [hf])]
      exact ih
    | some a =>
      by_cases hcond : cond a = true
      · rw [List.filter_cons_of_pos (by simp [hf, hcond]), List.filterMap_cons, hf]
        simp only [List.filter_cons_of_pos hcond, ih]
      · rw [List.filter_cons_of_neg (by simp [hf, hcond])]
        simp only [List.filter_cons_of_neg hcond, ih]

/-- A new row is appended. -/
theorem rows_set_of_none (h : d.get? key = none) :
    rows f (d.set key row) = rows f d ++ (f row).toList := by
  rw [rows, Dict.items_set_of_none h, List.filterMap_append]
  cases hf : f row <;> simp [rows, hf]

/-- A query finds a new row after the others. -/
theorem select_set_of_none {query : Query K R} (h : d.get? key = none) :
    select query (d.set key row) = select query d ++ if query key row then [(key, row)] else [] := by
  rw [select, Dict.items_set_of_none h, List.filter_append]
  cases hquery : query key row <;> simp [select, hquery]

/-- A row that is changed where the projection does not look. -/
theorem rows_set_of_eq (h : d.get? key = some r) (hf : f row = f r) :
    rows f (d.set key row) = rows f d := by
  have hitems : ∀ items : List (K × R), Dict.lookup key items = some r →
      (Dict.insert key row items).filterMap (fun item => f item.2) =
        items.filterMap fun item => f item.2 := by
    intro items
    induction items with
    | nil => intro hlookup; cases hlookup
    | cons item items ih =>
      intro hlookup
      obtain ⟨k, r'⟩ := item
      simp only [Dict.lookup] at hlookup
      split_ifs at hlookup with hk
      · cases hlookup
        rw [Dict.insert, if_pos hk, List.filterMap_cons, List.filterMap_cons, hf]
      · rw [Dict.insert, if_neg hk, List.filterMap_cons, List.filterMap_cons, ih hlookup]
  exact hitems d.items h

/-- A write where the projection finds nothing, neither before nor after. -/
theorem rows_set_of_forall_none (h : ∀ r, d.get? key = some r → f r = none) (hf : f row = none) :
    rows f (d.set key row) = rows f d := by
  cases hget : d.get? key with
  | none => rw [rows_set_of_none hget, hf, Option.toList_none, List.append_nil]
  | some r => exact rows_set_of_eq hget (hf.trans (h r hget).symm)

end Rows

/-! ### Totals -/

section Total

variable {M : Type} [AddCommGroup M] {f : R → M}

/-- The sum of an amount over the rows. -/
def total (f : R → M) (d : Dict K R) : M := (d.items.map fun item => f item.2).sum

theorem total_set_of_none (h : d.get? key = none) :
    total f (d.set key row) = total f d + f row := by
  have hitems : ∀ items : List (K × R), Dict.lookup key items = none →
      ((Dict.insert key row items).map fun item => f item.2).sum =
        (items.map fun item => f item.2).sum + f row := by
    intro items
    induction items with
    | nil => simp [Dict.insert]
    | cons item items ih =>
      intro hlookup
      obtain ⟨k, r⟩ := item
      simp only [Dict.lookup] at hlookup
      split_ifs at hlookup with hk
      rw [Dict.insert, if_neg hk, List.map_cons, List.sum_cons, List.map_cons, List.sum_cons,
        ih hlookup, add_assoc]
  exact hitems d.items h

theorem total_set_of_get? (h : d.get? key = some r) :
    total f (d.set key row) = total f d + (f row - f r) := by
  have hitems : ∀ items : List (K × R), Dict.lookup key items = some r →
      ((Dict.insert key row items).map fun item => f item.2).sum =
        (items.map fun item => f item.2).sum + (f row - f r) := by
    intro items
    induction items with
    | nil => intro hlookup; cases hlookup
    | cons item items ih =>
      intro hlookup
      obtain ⟨k, r'⟩ := item
      simp only [Dict.lookup] at hlookup
      split_ifs at hlookup with hk
      · cases hlookup
        rw [Dict.insert, if_pos hk, List.map_cons, List.sum_cons, List.map_cons, List.sum_cons]
        abel
      · rw [Dict.insert, if_neg hk, List.map_cons, List.sum_cons, List.map_cons, List.sum_cons,
          ih hlookup, add_assoc]
  exact hitems d.items h

omit [DecidableEq K] in
/-- The total of an amount of what a projection finds. -/
theorem total_rows {α : Type} (f : R → Option α) (amount : α → M) (d : Dict K R) :
    total (fun row => ((f row).map amount).getD 0) d = ((rows f d).map amount).sum := by
  unfold total rows
  induction d.items with
  | nil => rfl
  | cons item items ih =>
    rw [List.map_cons, List.sum_cons, ih, List.filterMap_cons]
    cases hf : f item.2 with
    | none => simp [hf]
    | some a => simp [hf]

end Total

/-! ### Writes -/

theorem get?_overlay_of_notMem {writes : List (K × R)} (h : key ∉ writes.map Prod.fst) :
    (overlay d writes).get? key = d.get? key := by
  induction writes using List.reverseRecOn with
  | nil => rfl
  | append_singleton writes w ih =>
    obtain ⟨k, r⟩ := w
    simp only [List.map_append, List.map_cons, List.map_nil, List.mem_append, List.mem_singleton,
      not_or] at h
    rw [overlay_concat, Dict.get?_set, if_neg (Ne.symm h.2), ih h.1]

/-- A key that has been written has the row of a write. -/
theorem get?_overlay_of_mem {writes : List (K × R)} (h : key ∈ writes.map Prod.fst) :
    ∃ row, (key, row) ∈ writes ∧ (overlay d writes).get? key = some row := by
  induction writes using List.reverseRecOn with
  | nil => cases h
  | append_singleton writes w ih =>
    obtain ⟨k, r⟩ := w
    rw [overlay_concat, Dict.get?_set]
    by_cases hk : k = key
    · subst hk
      exact ⟨r, by simp, by simp⟩
    · have hmem : key ∈ writes.map Prod.fst := by
        simpa [Ne.symm hk] using h
      obtain ⟨row, hrow, hget⟩ := ih hmem
      exact ⟨row, by simp [hrow], by rw [if_neg hk, hget]⟩

/-- A key that is free under writes is free, and is not written. -/
theorem get?_overlay_eq_none {writes : List (K × R)} (h : (overlay d writes).get? key = none) :
    d.get? key = none ∧ key ∉ writes.map Prod.fst := by
  have hkey : key ∉ writes.map Prod.fst := by
    intro hmem
    obtain ⟨row, -, hrow⟩ := get?_overlay_of_mem (d := d) hmem
    rw [h] at hrow
    cases hrow
  exact ⟨by rwa [get?_overlay_of_notMem hkey] at h, hkey⟩

/-- The two databases have the same rows, in the same order, off a set of keys. -/
def AgreeOff (keys : List K) (d d' : Dict K R) : Prop :=
  d.items.filter (fun item => decide (item.1 ∉ keys)) =
    d'.items.filter (fun item => decide (item.1 ∉ keys))

theorem filter_insert_of_notMem {keys : List K} (h : key ∉ keys) (items : List (K × R)) :
    (Dict.insert key row items).filter (fun item => decide (item.1 ∉ keys)) =
      Dict.insert key row (items.filter fun item => decide (item.1 ∉ keys)) := by
  induction items with
  | nil => simp [Dict.insert, h]
  | cons item items ih =>
    obtain ⟨k, r⟩ := item
    by_cases hk : k = key
    · subst hk
      simp [Dict.insert, h]
    · by_cases hmem : k ∈ keys
      · simpa [Dict.insert, hk, hmem] using ih
      · simpa [Dict.insert, hk, hmem] using ih

theorem filter_insert_of_mem {keys : List K} (h : key ∈ keys) (items : List (K × R)) :
    (Dict.insert key row items).filter (fun item => decide (item.1 ∉ keys)) =
      items.filter fun item => decide (item.1 ∉ keys) := by
  induction items with
  | nil => simp [Dict.insert, h]
  | cons item items ih =>
    obtain ⟨k, r⟩ := item
    by_cases hk : k = key
    · subst hk
      simp [Dict.insert, h]
    · by_cases hmem : k ∈ keys
      · simpa [Dict.insert, hk, hmem] using ih
      · simpa [Dict.insert, hk, hmem] using ih

/-- Writes agree with the database they are laid over, off their keys. -/
theorem agreeOff_overlay {keys : List K} {writes : List (K × R)}
    (h : ∀ w ∈ writes, w.1 ∈ keys) : AgreeOff keys d (overlay d writes) := by
  induction writes using List.reverseRecOn with
  | nil => rfl
  | append_singleton writes w ih =>
    have hw : w.1 ∈ keys := h w (by simp)
    have hagree : AgreeOff keys d (overlay d writes) :=
      ih fun w' hw' => h w' (List.mem_append_left _ hw')
    rw [overlay_concat]
    exact hagree.trans (filter_insert_of_mem hw _).symm

/-- The same writes off the keys keep the agreement. -/
theorem AgreeOff.overlay {keys : List K} (h : AgreeOff keys d d') {writes : List (K × R)}
    (hwrites : ∀ w ∈ writes, w.1 ∉ keys) :
    AgreeOff keys (overlay d writes) (Txn.overlay d' writes) := by
  induction writes using List.reverseRecOn with
  | nil => exact h
  | append_singleton writes w ih =>
    have hw : w.1 ∉ keys := hwrites w (by simp)
    have hagree := ih fun w' hw' => hwrites w' (List.mem_append_left _ hw')
    rw [overlay_concat, overlay_concat]
    unfold AgreeOff at hagree ⊢
    rw [Dict.set, Dict.set, filter_insert_of_notMem hw, filter_insert_of_notMem hw, hagree]

/-- A query that matches no row of the keys gives the same answer. -/
theorem AgreeOff.select_eq {keys : List K} (h : AgreeOff keys d d') {query : Query K R}
    (hd : ∀ k ∈ keys, ∀ r, d.get? k = some r → query k r = false)
    (hd' : ∀ k ∈ keys, ∀ r, d'.get? k = some r → query k r = false) :
    select query d = select query d' := by
  have hfilter {d : Dict K R} (hd : ∀ k ∈ keys, ∀ r, d.get? k = some r → query k r = false) :
      select query d = (d.items.filter fun item => decide (item.1 ∉ keys)).filter
        fun item => query item.1 item.2 := by
    rw [select, List.filter_filter]
    refine List.filter_congr fun item hitem => ?_
    by_cases hk : item.1 ∈ keys
    · simp [hk, hd item.1 hk item.2 (Dict.get?_of_mem_items hitem)]
    · simp [hk]
  rw [hfilter hd, hfilter hd', h]

/-- **Writes to rows that a query matches neither before nor after leave its answer alone**, also
under other writes to other keys. -/
theorem select_overlay_congr {writes pending : List (K × R)} {query : Query K R}
    (hkeys : ∀ w ∈ pending, w.1 ∉ writes.map Prod.fst)
    (hold : ∀ k ∈ writes.map Prod.fst, ∀ r, d.get? k = some r → query k r = false)
    (hnew : ∀ k ∈ writes.map Prod.fst, ∀ r, (overlay d writes).get? k = some r →
      query k r = false) :
    select query (overlay d pending) = select query (overlay (overlay d writes) pending) := by
  have hagree : AgreeOff (writes.map Prod.fst) d (overlay d writes) :=
    agreeOff_overlay fun w hw => List.mem_map_of_mem hw
  have hnot (k : K) (hk : k ∈ writes.map Prod.fst) : k ∉ pending.map Prod.fst := by
    intro hmem
    obtain ⟨w, hw, rfl⟩ := List.mem_map.1 hmem
    exact hkeys w hw hk
  refine (hagree.overlay hkeys).select_eq (fun k hk r hr => ?_) fun k hk r hr => ?_
  · rw [get?_overlay_of_notMem (hnot k hk)] at hr
    exact hold k hk r hr
  · rw [get?_overlay_of_notMem (hnot k hk)] at hr
    exact hnew k hk r hr

end Txn

end OmsWmsTms
