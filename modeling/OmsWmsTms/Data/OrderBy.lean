import Mathlib.Data.List.Sort

/-!
# `ORDER BY`

The rows of a query in the order of a total preorder; rows that compare equal stay in the order of
the table.

* `filter_orderBy` : restricting a sorted query gives the sorted restriction.
* `map_orderBy` : a projection that keeps the order commutes with sorting.
-/

namespace OmsWmsTms

variable {α β : Type*}

/-- `ORDER BY` a relation. -/
def orderBy (r : α → α → Prop) [DecidableRel r] (rows : List α) : List α := rows.insertionSort r

@[simp] theorem mem_orderBy {r : α → α → Prop} [DecidableRel r] {rows : List α} {a : α} :
    a ∈ orderBy r rows ↔ a ∈ rows := List.mem_insertionSort r

theorem orderBy_perm (r : α → α → Prop) [DecidableRel r] (rows : List α) :
    (orderBy r rows).Perm rows := List.perm_insertionSort r rows

theorem map_orderBy {r : α → α → Prop} [DecidableRel r] {r' : β → β → Prop} [DecidableRel r']
    {f : α → β} (hf : ∀ a b, r a b ↔ r' (f a) (f b)) (rows : List α) :
    (orderBy r rows).map f = orderBy r' (rows.map f) :=
  List.map_insertionSort r r' f rows fun a _ b _ => hf a b

section Total

variable {r : α → α → Prop} [DecidableRel r] [IsTrans α r]

/-- Inserting a row into sorted rows and then restricting them. -/
theorem filter_orderedInsert {p : α → Bool} {a : α} {rows : List α} (hrows : rows.Pairwise r) :
    (rows.orderedInsert r a).filter p =
      if p a then (rows.filter p).orderedInsert r a else rows.filter p := by
  induction rows with
  | nil =>
    rw [List.orderedInsert_nil, List.filter_cons, List.filter_nil, List.orderedInsert_nil]
  | cons b rows ih =>
    obtain ⟨hb, hrows⟩ := List.pairwise_cons.1 hrows
    by_cases hab : r a b
    · rw [List.orderedInsert_cons_of_le r _ hab, List.filter_cons]
      split_ifs with hp
      · -- the rows from `b` on are all above `a`
        have hall : ∀ c ∈ (b :: rows).filter p, r a c := by
          intro c hc
          rcases List.mem_cons.1 (List.mem_of_mem_filter hc) with rfl | hc
          · exact hab
          · exact trans_of r hab (hb c hc)
        cases h : (b :: rows).filter p with
        | nil => rfl
        | cons c rest =>
          rw [List.orderedInsert_cons_of_le r _ (hall c (h ▸ List.mem_cons_self))]
      · rfl
    · rw [List.orderedInsert_of_not_le r _ hab, List.filter_cons, ih hrows, List.filter_cons]
      split_ifs with hpb hpa
      · rw [List.orderedInsert_of_not_le r _ hab]
      · rfl
      · rfl
      · rfl

theorem filter_orderBy [Std.Total r] (p : α → Bool) (rows : List α) :
    (orderBy r rows).filter p = orderBy r (rows.filter p) := by
  induction rows with
  | nil => rfl
  | cons a rows ih =>
    have hsorted : (orderBy r rows).Pairwise r := List.pairwise_insertionSort r rows
    rw [orderBy, List.insertionSort_cons, ← orderBy, filter_orderedInsert hsorted, ih,
      List.filter_cons]
    split_ifs <;> rfl

end Total

/-- `ORDER BY key DESC`. -/
def orderByDesc (key : α → ℤ) (rows : List α) : List α :=
  orderBy (fun a b => key b ≤ key a) rows

@[simp] theorem mem_orderByDesc {key : α → ℤ} {rows : List α} {a : α} :
    a ∈ orderByDesc key rows ↔ a ∈ rows := mem_orderBy

theorem orderByDesc_perm (key : α → ℤ) (rows : List α) : (orderByDesc key rows).Perm rows :=
  orderBy_perm _ rows

theorem filter_orderByDesc (key : α → ℤ) (p : α → Bool) (rows : List α) :
    (orderByDesc key rows).filter p = orderByDesc key (rows.filter p) := by
  have : IsTrans α fun a b => key b ≤ key a := ⟨fun _ _ _ h h' => le_trans h' h⟩
  have : Std.Total fun a b : α => key b ≤ key a := ⟨fun a b => le_total (key b) (key a)⟩
  exact filter_orderBy p rows

theorem map_orderByDesc {key : α → ℤ} {key' : β → ℤ} {f : α → β} (hf : ∀ a, key' (f a) = key a)
    (rows : List α) : (orderByDesc key rows).map f = orderByDesc key' (rows.map f) :=
  map_orderBy (fun a b => by rw [hf a, hf b]) rows

/-- A `LIMIT` keeps a row, or is used up. -/
theorem mem_take_or_full {α : Type} {x : α} {l : List α} (n : ℕ) (h : x ∈ l) :
    x ∈ l.take n ∨ (l.take n).length = n := by
  rcases le_total l.length n with hlength | hlength
  · rw [List.take_of_length_le hlength]
    exact .inl h
  · exact .inr (List.length_take_of_le hlength)

end OmsWmsTms
