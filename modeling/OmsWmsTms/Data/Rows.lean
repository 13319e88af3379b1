import Mathlib.Data.List.Nodup

/-!
# Tables as lists of rows

A table is the list of its rows, each with an identifier; the identifiers of a table with a primary
key have no duplicates.

* `updateRows` : the table after the `UPDATE` of the rows of an identifier.
* `mem_updateRows`, `forall_mem_updateRows_iff`, `exists_mem_updateRows` : the rows after it.
* `nodup_map_concat`, `map_id_updateRows` : the identifiers after an `INSERT` and an `UPDATE`.
* `updateRows_split` : the row of an identifier, in its place.
* `find?_id_of_mem`, `filter_id_of_mem` : an identifier finds its row, and no other.
* `find?_updateRows`, `find?_concat_row` : the row of an identifier after an `UPDATE` and an
  `INSERT`.
-/

namespace OmsWmsTms

variable {Row I : Type*} {id : Row → I} {i : I} {write : Row → Row} {rows : List Row}

/-- Add a row whose identifier is new. -/
theorem nodup_map_concat {row : Row} (hnodup : (rows.map id).Nodup) (hid : id row ∉ rows.map id) :
    ((rows ++ [row]).map id).Nodup := by
  rw [List.map_append, List.map_singleton]
  refine List.nodup_append.2 ⟨hnodup, List.nodup_singleton _, ?_⟩
  rintro i hi j hj rfl
  exact hid (List.mem_singleton.1 hj ▸ hi)

variable [DecidableEq I]

/-- The rows of a table after the `UPDATE` of those of an identifier. -/
def updateRows (id : Row → I) (i : I) (write : Row → Row) (rows : List Row) : List Row :=
  rows.map fun row => if id row = i then write row else row

theorem mem_updateRows {row' : Row} :
    row' ∈ updateRows id i write rows ↔
      (∃ row ∈ rows, id row = i ∧ write row = row') ∨ (row' ∈ rows ∧ id row' ≠ i) := by
  simp only [updateRows, List.mem_map]
  constructor
  · rintro ⟨row, hrow, rfl⟩
    split_ifs with hid
    · exact .inl ⟨row, hrow, hid, rfl⟩
    · exact .inr ⟨hrow, hid⟩
  · rintro (⟨row, hrow, hid, rfl⟩ | ⟨hrow, hid⟩)
    · exact ⟨row, hrow, if_pos hid⟩
    · exact ⟨row', hrow, if_neg hid⟩

/-- An `UPDATE` of other columns keeps a column. -/
theorem map_updateRows {α : Type*} {column : Row → α}
    (hwrite : ∀ row, column (write row) = column row) :
    (updateRows id i write rows).map column = rows.map column := by
  rw [updateRows, List.map_map]
  refine List.map_congr_left fun row _ => ?_
  simp only [Function.comp]
  split_ifs
  · exact hwrite row
  · rfl

/-- An `UPDATE` of other columns keeps the identifiers. -/
theorem map_id_updateRows (hwrite : ∀ row, id (write row) = id row) :
    (updateRows id i write rows).map id = rows.map id := map_updateRows hwrite

/-- The rows after the `UPDATE` of one row. -/
theorem forall_mem_updateRows_iff {P : Row → Prop} {row : Row} (hnodup : (rows.map id).Nodup)
    (hP : ∀ row ∈ rows, P row) (hrow : row ∈ rows) :
    (∀ row' ∈ updateRows id (id row) write rows, P row') ↔ P (write row) := by
  constructor
  · intro h
    exact h _ (mem_updateRows.2 (.inl ⟨row, hrow, rfl, rfl⟩))
  · intro hwrite row' hrow'
    rcases mem_updateRows.1 hrow' with ⟨row₁, hrow₁, hid, rfl⟩ | ⟨hold, -⟩
    · rwa [List.inj_on_of_nodup_map hnodup hrow₁ hrow hid]
    · exact hP row' hold

/-- What the `UPDATE` of one row makes of each row. -/
theorem exists_mem_updateRows {R : Row → Row → Prop} {row : Row} (hnodup : (rows.map id).Nodup)
    (hrefl : ∀ row, R row row) (hrow : row ∈ rows) (hwrite : R row (write row)) {row' : Row}
    (hrow' : row' ∈ rows) : ∃ row'' ∈ updateRows id (id row) write rows, R row' row'' := by
  by_cases hid : id row' = id row
  · obtain rfl := List.inj_on_of_nodup_map hnodup hrow' hrow hid
    exact ⟨_, mem_updateRows.2 (.inl ⟨row', hrow', rfl, rfl⟩), hwrite⟩
  · exact ⟨row', mem_updateRows.2 (.inr ⟨hrow', hid⟩), hrefl row'⟩

/-- The `UPDATE` of one row, in its place. -/
theorem updateRows_split {row : Row} (write : Row → Row) (hnodup : (rows.map id).Nodup)
    (hrow : row ∈ rows) : ∃ before after, rows = before ++ row :: after ∧
      updateRows id (id row) write rows = before ++ write row :: after := by
  obtain ⟨before, after, rfl⟩ := List.append_of_mem hrow
  refine ⟨before, after, rfl, ?_⟩
  rw [List.map_append, List.map_cons, List.nodup_append] at hnodup
  obtain ⟨-, hafter, hbefore⟩ := hnodup
  have hothers : ∀ rest : List Row, (∀ other ∈ rest, id other ≠ id row) →
      updateRows id (id row) write rest = rest := by
    intro rest hrest
    unfold updateRows
    rw [List.map_congr_left fun other hother => if_neg (hrest other hother), List.map_id']
  have hleft := hothers before fun other hother => hbefore _ (List.mem_map_of_mem hother) _
    List.mem_cons_self
  have hright := hothers after fun other hother heq =>
    (List.nodup_cons.1 hafter).1 (heq ▸ List.mem_map_of_mem hother)
  unfold updateRows at hleft hright ⊢
  rw [List.map_append, List.map_cons, hleft, hright, if_pos rfl]

/-- A row that is there is the one that its identifier finds. -/
theorem find?_id_of_mem {row : Row} (hnodup : (rows.map id).Nodup) (hrow : row ∈ rows) :
    rows.find? (id · = id row) = some row := by
  have hfound : (rows.find? (id · = id row)).isSome := by
    rw [List.find?_isSome]
    exact ⟨row, hrow, by simp⟩
  obtain ⟨row', hrow'⟩ := Option.isSome_iff_exists.1 hfound
  have hid : id row' = id row := by simpa using List.find?_some hrow'
  rwa [List.inj_on_of_nodup_map hnodup (List.mem_of_find?_eq_some hrow') hrow hid] at hrow'

/-- It is the only one. -/
theorem filter_id_of_mem {row : Row} (hnodup : (rows.map id).Nodup) (hrow : row ∈ rows) :
    rows.filter (id · = id row) = [row] := by
  obtain ⟨before, after, rfl⟩ := List.append_of_mem hrow
  rw [List.map_append, List.map_cons, List.nodup_append] at hnodup
  obtain ⟨-, hafter, hbefore⟩ := hnodup
  have hothers : ∀ rest : List Row, (∀ other ∈ rest, id other ≠ id row) →
      rest.filter (id · = id row) = [] := by
    intro rest hrest
    refine List.filter_eq_nil_iff.2 fun other hother => ?_
    simpa using hrest other hother
  have hleft := hothers before fun other hother => hbefore _ (List.mem_map_of_mem hother) _
    List.mem_cons_self
  have hright := hothers after fun other hother heq =>
    (List.nodup_cons.1 hafter).1 (heq ▸ List.mem_map_of_mem hother)
  rw [List.filter_append, List.filter_cons_of_pos (by simp), hleft, hright, List.nil_append]

theorem find?_id_eq_none_iff : rows.find? (id · = i) = none ↔ i ∉ rows.map id := by
  simp

/-- The row of an identifier after an `UPDATE`. -/
theorem find?_updateRows (hwrite : ∀ row, id (write row) = id row) (j : I) :
    (updateRows id i write rows).find? (id · = j) =
      (rows.find? (id · = j)).map fun row => if j = i then write row else row := by
  induction rows with
  | nil => rfl
  | cons row rows ih =>
    have hcons : updateRows id i write (row :: rows) =
        (if id row = i then write row else row) :: updateRows id i write rows := rfl
    have hid : id (if id row = i then write row else row) = id row := by
      split_ifs
      · exact hwrite row
      · rfl
    rw [hcons]
    by_cases hj : id row = j
    · rw [List.find?_cons_of_pos (by simpa [hid] using hj),
        List.find?_cons_of_pos (by simpa using hj), Option.map_some, hj]
    · rw [List.find?_cons_of_neg (by simpa [hid] using hj),
        List.find?_cons_of_neg (by simpa using hj), ih]

/-- The row of an identifier after an `INSERT`. -/
theorem find?_concat_row {row : Row} (hid : id row ∉ rows.map id) (j : I) :
    (rows ++ [row]).find? (id · = j) = if j = id row then some row else rows.find? (id · = j) := by
  rw [List.find?_append]
  by_cases hj : j = id row
  · subst hj
    rw [find?_id_eq_none_iff.2 hid, if_pos rfl, List.find?_cons_of_pos (by simp)]
    rfl
  · have hne : ¬ id row = j := fun h => hj h.symm
    rw [if_neg hj, List.find?_cons_of_neg (by simpa using hne), List.find?_nil, Option.or_none]

end OmsWmsTms
