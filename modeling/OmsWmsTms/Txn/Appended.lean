import OmsWmsTms.Txn.Keeps

/-!
# Rows that are new

What a part of a run has inserted, as seen in the rows before it and after it.

* `appended d d'` : the rows of `d'` whose keys are free in `d`.
* `sum_appended` : an amount that the kept rows do not change grows by what it is on the new rows.
* `select_eq_singleton` : a query that only one row meets.
-/

namespace OmsWmsTms

namespace Txn

variable {K R : Type} [DecidableEq K] {d d' : Dict K R} {key : K} {row : R}

/-- The rows whose keys are free before, in the order in which they were inserted. -/
def appended (d d' : Dict K R) : List R :=
  (d'.items.filter fun item => (d.get? item.1).isNone).map Prod.snd

theorem mem_appended :
    row ∈ appended d d' ↔ ∃ key, d.get? key = none ∧ d'.get? key = some row := by
  rw [appended, List.mem_map]
  constructor
  · rintro ⟨⟨key, row⟩, hmem, rfl⟩
    obtain ⟨hitem, hfree⟩ := List.mem_filter.1 hmem
    exact ⟨key, Option.isNone_iff_eq_none.1 hfree, Dict.get?_of_mem_items hitem⟩
  · rintro ⟨key, hfree, hget⟩
    refine ⟨(key, row), List.mem_filter.2 ⟨Dict.mem_items_of_get? hget, ?_⟩, rfl⟩
    exact Option.isNone_iff_eq_none.2 hfree

/-- **What the new rows add**: the total, when the rows that are kept count for the same. -/
theorem sum_appended {M : Type} [AddCommGroup M] {f : R → M}
    (h : Keeps (fun r r' => f r' = f r) d d') :
    ((appended d d').map f).sum = total f d' - total f d := by
  -- the amount of a key, before and after
  let amount (k : K) : M := ((d.get? k).map f).getD 0
  let old (item : K × R) : Bool := !(d.get? item.1).isNone
  have hbefore : d.items.map (fun item => f item.2) = d.keys.map amount := by
    rw [Dict.keys, List.map_map]
    refine List.map_congr_left fun item hitem => ?_
    simp only [Function.comp_apply, amount, Dict.get?_of_mem_items hitem, Option.map_some,
      Option.getD_some]
  have hafter : (d'.items.filter old).map (fun item => f item.2) =
      ((d'.items.filter old).map Prod.fst).map amount := by
    rw [List.map_map]
    refine List.map_congr_left fun item hitem => ?_
    obtain ⟨hmem, hold⟩ := List.mem_filter.1 hitem
    obtain ⟨row, hrow⟩ : ∃ row, d.get? item.1 = some row :=
      Option.isSome_iff_exists.1 (by simpa [old] using hold)
    obtain ⟨row', hrow', hf⟩ := h item.1 row hrow
    rw [Dict.get?_of_mem_items hmem] at hrow'
    cases hrow'
    simp only [Function.comp_apply, amount, hrow, Option.map_some, Option.getD_some, hf]
  have hkeys : ((d'.items.filter old).map Prod.fst).Perm d.keys := by
    refine (List.perm_ext_iff_of_nodup (d'.nodup.sublist (List.filter_sublist.map _))
      d.nodup).2 fun k => ?_
    rw [List.mem_map]
    constructor
    · rintro ⟨item, hitem, rfl⟩
      by_contra hk
      have hnone := Dict.get?_eq_none_iff.2 hk
      simp [old, hnone] at hitem
    · intro hk
      obtain ⟨row, hrow⟩ := Option.ne_none_iff_exists'.1 (mt Dict.get?_eq_none_iff.1 (not_not.2 hk))
      obtain ⟨row', hrow', -⟩ := h k row hrow
      exact ⟨(k, row'), List.mem_filter.2 ⟨Dict.mem_items_of_get? hrow', by simp [old, hrow]⟩, rfl⟩
  have hsplit := ((List.filter_append_perm (fun item => (d.get? item.1).isNone) d'.items).map
    fun item => f item.2).sum_eq
  rw [List.map_append, List.sum_append] at hsplit
  have hold : ((d'.items.filter old).map fun item => f item.2).sum = total f d := by
    rw [hafter, (hkeys.map amount).sum_eq, total, hbefore]
  rw [eq_sub_iff_add_eq, appended, List.map_map, ← hold]
  exact hsplit

theorem appended_self (d : Dict K R) : appended d d = [] := by
  refine List.eq_nil_iff_forall_not_mem.2 fun row hrow => ?_
  obtain ⟨key, hfree, hget⟩ := mem_appended.1 hrow
  rw [hfree] at hget
  cases hget

/-- A query that one row meets, and no other. -/
theorem select_eq_singleton {query : Query K R} (h : d.get? key = some row)
    (hquery : query key row = true)
    (honly : ∀ k r, d.get? k = some r → query k r = true → k = key) :
    select query d = [(key, row)] := by
  have hkeys := select_keyQuery_of_get? h
  rw [← hkeys]
  refine List.filter_congr fun item hitem => ?_
  have hget := Dict.get?_of_mem_items hitem
  rw [keyQuery]
  by_cases hkey : item.1 = key
  · rw [hkey] at hget ⊢
    rw [h] at hget
    cases hget
    simpa using hquery
  · have hnot : query item.1 item.2 ≠ true := fun hmatch => hkey (honly _ _ hget hmatch)
    simpa [hkey] using hnot

/-- A write of a row that a query matches neither before nor after. -/
theorem select_set_of_forall_false {query : Query K R}
    (hold : ∀ r, d.get? key = some r → query key r = false) (hnew : query key row = false) :
    select query (d.set key row) = select query d := by
  have h : select query (overlay d []) = select query (overlay (overlay d [(key, row)]) []) := by
    refine select_overlay_congr (fun _ hw => nomatch hw) (fun k hk r hr => ?_) fun k hk r hr => ?_
    · obtain rfl : k = key := by simpa using hk
      exact hold r hr
    · obtain rfl : k = key := by simpa using hk
      rw [overlay_cons, overlay_nil, Dict.get?_set, if_pos rfl] at hr
      cases hr
      exact hnew
  exact h.symm

end Txn

end OmsWmsTms
