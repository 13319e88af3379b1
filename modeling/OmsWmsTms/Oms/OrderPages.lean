import OmsWmsTms.Core.Pagination
import OmsWmsTms.Oms.MergeCounts
import OmsWmsTms.Oms.SoftDelete

/-!
# Walking through the pages

`paginate`, `list_warehouses` and `list_orders`, page by page, with no writes in between.

* `listOrdersIn` : `list_orders`, with the order that the database chooses for its query.
* `WalksOnce` : whatever the database chooses, a walk returns each row once.
* `Unsplit` : no page ends inside a group of rows that compare equal.
* `walksOnce_iff` : the walks are partitions exactly when no page does, and the numbers fit.
-/

namespace OmsWmsTms

namespace Oms

open Pagination Paging
open Txn (Prog)

/-- `list_orders`, with the order that the database chooses for the second query. -/
def listOrdersIn (arrange : List Order → List Order) (page pageSize : ℤ) (status : Option String)
    (customerId : Option IdArg) : OmsProg (List OrderDict × ℕ) := do
  let customer ← customerArg customerId
  let counted ← selectOrders (listFilter status customer)
  let rows ← selectOrders (listFilter status customer)
  let orders ← Prog.ofExcept
    (offsetLimit ((page - 1) * pageSize) pageSize (arrange (rows.map Prod.snd)))
  let items ← ordersToDicts orders
  return (items, counted.length)

/-- Where the rows of one `created_at` come in the order of the table, and the numbers fit, it is
`list_orders`. -/
theorem listOrdersIn_orderByDesc {page pageSize : ℤ} (hoffset : FitsLimit ((page - 1) * pageSize))
    (hlimit : FitsLimit pageSize) (status : Option String) (customerId : Option IdArg) :
    listOrdersIn (orderByDesc Order.createdAt) page pageSize status customerId =
      listOrders page pageSize status customerId := by
  have hnonneg : ¬ ((page - 1) * pageSize < 0 ∨ pageSize < 0) :=
    fun h => h.elim (Int.not_lt.2 hoffset.1) (Int.not_lt.2 hlimit.1)
  simp only [listOrdersIn, listOrders, if_neg hnonneg, offsetLimit, if_pos (And.intro hoffset hlimit)]
  rfl

/-- **Whatever the database chooses, a walk returns each row once**; it chooses for each query. -/
def WalksOnce {α β : Type} (r : α → α → Prop)
    (call : (List α → List α) → ℕ → Except ServiceError (List β × ℕ)) (rows : List β) : Prop :=
  ∀ arrange : ℕ → List α → List α, (∀ k, Arranges r (arrange k)) →
    ReturnsOnce (fun k => call (arrange k) k) rows

/-- No page ends inside a group of rows that compare equal. -/
def Unsplit {α : Type} (r : α → α → Prop) [DecidableRel r] (rows : List α) (size : ℕ) : Prop :=
  ∀ k, ¬ Splits r rows (k * size)

/-- The number of pages that hold some rows: the quotient, rounded up. -/
def ceilPages (total size : ℕ) : ℕ := (total + size - 1) / size

/-- The orders of a list. -/
def matching (status : Option String) (customerId : Option IdArg) (d : OmsDb) : List Order :=
  (selectedOrders (listFilter status (customerFilter customerId)) d).map Prod.snd

/-- The identifier of the customer is well formed, if there is one. -/
def WellFormed (customerId : Option IdArg) : Prop :=
  ∀ arg ∈ customerId, arg.text = "" ∨ arg.uuid?.isSome

/-- A call of `list_orders` for a page that is counted from zero: the identifiers of its orders, and
the number of pages of the total. -/
def orderPage (ids : ℕ → ℕ) (d : OmsDb) (status : Option String) (customerId : Option IdArg)
    (size : ℕ) (arrange : List Order → List Order) (k : ℕ) : Except ServiceError (List Uuid × ℕ) :=
  ((listOrdersIn arrange (k + 1) size status customerId).run ids d).1.map fun answer =>
    (answer.1.map OrderDict.id, ceilPages answer.2 size)

section

variable {d : OmsDb} {status : Option String} {customerId : Option IdArg} {size : ℕ}

theorem exec_customerArg (h : WellFormed customerId) (s : Txn.Session OmsKey OmsRow) :
    (customerArg customerId).exec s = (.ok (customerFilter customerId), s) := by
  cases customerId with
  | none => rfl
  | some arg =>
    simp only [customerArg, customerFilter, Option.bind_some]
    split_ifs with htext
    · rfl
    · obtain ⟨id, hid⟩ := Option.isSome_iff_exists.1 ((h arg rfl).resolve_left htext)
      rw [toUuid, hid]
      rfl

/-- The dictionaries of some orders. -/
theorem exec_ordersToDicts (orders : List Order) (s : Txn.Session OmsKey OmsRow) :
    ∃ dicts, (ordersToDicts orders).exec s = (.ok dicts, s) ∧
      dicts.map OrderDict.id = orders.map Order.id := by
  have hall (dicts : List OrderDict) : ∃ dicts', (Prog.foldEach orders dicts fun dicts order => do
      let dict ← orderToDict order order.totalAmount
      return dicts ++ [dict]).exec s = (.ok dicts', s) ∧
      dicts'.map OrderDict.id = dicts.map OrderDict.id ++ orders.map Order.id := by
    induction orders generalizing dicts with
    | nil => exact ⟨dicts, rfl, (List.append_nil _).symm⟩
    | cons order orders ih =>
      obtain ⟨dict, hdict, hid⟩ : ∃ dict, (orderToDict order order.totalAmount).exec s =
          (.ok dict, s) ∧ dict.id = order.id := ⟨_, rfl, rfl⟩
      obtain ⟨dicts', hdicts', hids⟩ := ih (dicts ++ [dict])
      refine ⟨dicts', ?_, ?_⟩
      · rw [Prog.foldEach, Prog.bind_eq, Prog.exec_bind, Prog.exec_bind, hdict]
        exact hdicts'
      · rw [hids, List.map_append, List.map_singleton, hid, List.append_assoc]
        rfl
  exact hall []

/-- The dictionaries of the orders of a page, if the database returns one. -/
theorem exec_page (orders : Except ServiceError (List Order)) (total size : ℕ)
    (s : Txn.Session OmsKey OmsRow) : ∃ answer : Except ServiceError (List OrderDict × ℕ),
    ((Prog.ofExcept orders : OmsProg (List Order)).bind fun orders =>
      (ordersToDicts orders).bind fun items => .ret (items, total)).exec s = (answer, s) ∧
      answer.map (fun answer => (answer.1.map OrderDict.id, ceilPages answer.2 size)) =
        orders.map fun orders => (orders.map Order.id, ceilPages total size) := by
  cases orders with
  | error e => exact ⟨.error e, rfl, rfl⟩
  | ok orders =>
    obtain ⟨dicts, hdicts, hids⟩ := exec_ordersToDicts orders s
    refine ⟨.ok (dicts, total), ?_, ?_⟩
    · rw [Prog.exec_bind_of_ok (Prog.exec_ofExcept_ok orders s), Prog.exec_bind_of_ok hdicts,
        Prog.exec_ret]
    · rw [Except.map, hids]
      rfl

theorem orderPage_eq (ids : ℕ → ℕ) (d : OmsDb) (status : Option String)
    (hcustomer : WellFormed customerId) (size : ℕ) (arrange : List Order → List Order) (k : ℕ) :
    orderPage ids d status customerId size arrange k =
      (offsetLimit (k * size : ℤ) size (arrange (matching status customerId d))).map
        fun orders => (orders.map Order.id, ceilPages (matching status customerId d).length size) := by
  obtain ⟨answer, hexec, hanswer⟩ := exec_page
    (offsetLimit (k * size : ℤ) size (arrange (matching status customerId d)))
    (matching status customerId d).length size ⟨d, d, ids⟩
  have hrun : (listOrdersIn arrange (k + 1) size status customerId).exec ⟨d, d, ids⟩ =
      (answer, ⟨d, d, ids⟩) := by
    rw [listOrdersIn, Prog.bind_eq, Prog.exec_bind_of_ok (exec_customerArg hcustomer _),
      Prog.bind_eq, Prog.exec_bind_of_ok (exec_selectOrders _ _), Prog.bind_eq,
      Prog.exec_bind_of_ok (exec_selectOrders _ _), add_sub_cancel_right, ← matching.eq_1,
      ← hexec, matching, List.length_map]
    rfl
  rw [orderPage, Prog.run, hrun]
  exact hanswer

/-- The identifiers of the orders of a list are different. -/
theorem nodup_matching (hd : Keyed d) (status : Option String) (customerId : Option IdArg) :
    ((matching status customerId d).map Order.id).Nodup := by
  rw [matching, List.map_map]
  exact nodup_ids_selectedOrders hd _

/-- **A walk through `list_orders`.** -/
theorem walksOnce_orders_iff (ids : ℕ → ℕ) (hd : Keyed d) (status : Option String)
    (customerId : Option IdArg) (hcustomer : WellFormed customerId) (hsize : 0 < size) :
    WalksOnce (NewestFirst Order.createdAt) (orderPage ids d status customerId size)
        ((matching status customerId d).map Order.id) ↔
      Walkable size (matching status customerId d).length
          (ceilPages (matching status customerId d).length size) ∧
        Unsplit (NewestFirst Order.createdAt) (matching status customerId d) size :=
  returnsOnce_iff hsize (nodup_matching hd status customerId)
    (fun arrange k => orderPage_eq ids d status hcustomer size (arrange k) k)

end

section

variable {α : Type} (r : α → α → Prop) [DecidableRel r] [IsTrans α r] [Std.Total r]

/-- **A walk through `paginate`.** -/
theorem walksOnce_paginate_iff {rows : List α} (hrows : rows.Nodup) {size : ℕ} (hsize : 0 < size) :
    WalksOnce r (fun arrange k => (paginate arrange rows (k + 1) size).map PaginatedResponse.pages)
        rows ↔
      Walkable size rows.length (totalPages rows.length size) ∧ Unsplit r rows size := by
  have hwalks := returnsOnce_iff (r := r) (f := id) hsize (by rwa [List.map_id])
    fun arrange k => paginate_page (arrange k) rows k size
  rwa [List.map_id] at hwalks

/-- **A walk through `list_warehouses`.** -/
theorem walksOnce_warehouses_iff {warehouses : List Warehouse}
    (hids : (warehouses.map Warehouse.id).Nodup) {size : ℕ} (hsize : 0 < size) :
    WalksOnce (NewestFirst Warehouse.createdAt)
        (fun arrange k => (listWarehouses arrange warehouses (k + 1) size).map
          PaginatedResponse.pages) (warehouses.map warehouseToDict) ↔
      Walkable size warehouses.length (totalPages warehouses.length size) ∧
        Unsplit (NewestFirst Warehouse.createdAt) warehouses size := by
  have hdicts : (warehouses.map warehouseToDict).Nodup := by
    refine List.Nodup.of_map WarehouseDict.id ?_
    rwa [List.map_map]
  exact returnsOnce_iff hsize hdicts fun arrange k => listWarehouses_page (arrange k) warehouses k size

/-- **Walking through the pages is a partition exactly when** no page ends inside a group of rows
that compare equal, and the numbers fit. -/
theorem walksOnce_iff (rows : List α) (hrows : rows.Nodup) (warehouses : List Warehouse)
    (hids : (warehouses.map Warehouse.id).Nodup) (ids : ℕ → ℕ) (d : OmsDb) (hd : Keyed d)
    (status : Option String) (customerId : Option IdArg) (hcustomer : WellFormed customerId)
    (size : ℕ) (hsize : 0 < size) :
    (WalksOnce r
        (fun arrange k => (paginate arrange rows (k + 1) size).map PaginatedResponse.pages) rows ↔
      Walkable size rows.length (totalPages rows.length size) ∧ Unsplit r rows size) ∧
    (WalksOnce (NewestFirst Warehouse.createdAt)
        (fun arrange k => (listWarehouses arrange warehouses (k + 1) size).map
          PaginatedResponse.pages) (warehouses.map warehouseToDict) ↔
      Walkable size warehouses.length (totalPages warehouses.length size) ∧
        Unsplit (NewestFirst Warehouse.createdAt) warehouses size) ∧
    (WalksOnce (NewestFirst Order.createdAt) (orderPage ids d status customerId size)
        ((matching status customerId d).map Order.id) ↔
      Walkable size (matching status customerId d).length
          (ceilPages (matching status customerId d).length size) ∧
        Unsplit (NewestFirst Order.createdAt) (matching status customerId d) size) :=
  ⟨walksOnce_paginate_iff r hrows hsize, walksOnce_warehouses_iff hids hsize,
    walksOnce_orders_iff ids hd status customerId hcustomer hsize⟩

/-- Only the pages that end before the last row can end inside a group. -/
theorem unsplit_of_forall_lt {r : α → α → Prop} [DecidableRel r] {rows : List α} {size : ℕ}
    (hsize : 0 < size) (h : ∀ k < rows.length, ¬ Splits r rows (k * size)) : Unsplit r rows size := by
  intro k hk
  obtain ⟨a, -, -, hafter⟩ := id hk
  have hle : rows.countP (fun b => r b a) ≤ rows.length := List.countP_le_length
  have hpages : k ≤ k * size := Nat.le_mul_of_pos_right k hsize
  exact h k (by omega) hk

end

/-- Five numbers, those of one tens group in any order, on three pages. -/
theorem walkable_five : Walkable 2 5 (totalPages 5 2) where
  limit := by decide
  offset := by decide +kernel
  total_le := le_totalPages_mul (by decide) (by decide)

/-- Two orders of one instant and an older one. -/
def tripleDb : OmsDb :=
  pairDb.set (.order 3) (.order { pendingOrder 3 with createdAt := (pendingOrder 1).createdAt - 1 })

theorem keyed_tripleDb : Keyed tripleDb := by
  intro key row h
  simp only [tripleDb, Dict.get?_set] at h
  split_ifs at h with hkey
  · subst hkey
    cases h
    rfl
  · exact validKeys_pairDb.keyed key row h

/-- **Pages of two** that end between the groups: five numbers, grouped by their tens, on three
pages, three warehouses on two pages, and three orders on two pages. -/
theorem tripleDb_walksOnce :
    WalksOnce (fun a b : ℕ => a / 10 ≤ b / 10)
      (fun arrange k => (paginate arrange [31, 10, 35, 12, 50] (k + 1) (2 : ℕ)).map
        PaginatedResponse.pages) [31, 10, 35, 12, 50] ∧
    WalksOnce (NewestFirst Warehouse.createdAt)
      (fun arrange k => (listWarehouses arrange
        [⟨1, "standard", "active", 5⟩, ⟨2, "cold", "inactive", 7⟩, ⟨3, "standard", "active", 7⟩]
        (k + 1) (2 : ℕ)).map PaginatedResponse.pages)
      ([⟨1, "standard", "active", 5⟩, ⟨2, "cold", "inactive", 7⟩,
        ⟨3, "standard", "active", 7⟩].map warehouseToDict) ∧
    WalksOnce (NewestFirst Order.createdAt) (orderPage (fun n => n) tripleDb none none 2)
      [1, 2, 3] := by
  have : IsTrans ℕ fun a b => a / 10 ≤ b / 10 := ⟨fun _ _ _ h h' => h.trans h'⟩
  have : Std.Total fun a b : ℕ => a / 10 ≤ b / 10 := ⟨fun a b => le_total (a / 10) (b / 10)⟩
  have hwalks := walksOnce_iff (fun a b : ℕ => a / 10 ≤ b / 10) [31, 10, 35, 12, 50] (by decide)
    [⟨1, "standard", "active", 5⟩, ⟨2, "cold", "inactive", 7⟩, ⟨3, "standard", "active", 7⟩]
    (by decide) (fun n => n) tripleDb keyed_tripleDb none none (fun _ h => by cases h) 2 (by decide)
  refine ⟨hwalks.1.2 ⟨walkable_five, unsplit_of_forall_lt (by decide) (by decide +kernel)⟩,
    hwalks.2.1.2 ⟨⟨by decide, by decide +kernel, le_totalPages_mul (by decide) (by decide)⟩,
      unsplit_of_forall_lt (by decide) (by decide +kernel)⟩,
    hwalks.2.2.2 ⟨⟨by decide, by decide +kernel, by decide +kernel⟩,
      unsplit_of_forall_lt (by decide) (by decide +kernel)⟩⟩

/-- **A page of one can return one of two orders twice**, and the other one not at all. -/
theorem pairDb_not_walksOnce : ¬ WalksOnce (NewestFirst Order.createdAt)
    (orderPage (fun n => n) pairDb none none 1) [1, 2] := by
  intro h
  have hunsplit := ((walksOnce_orders_iff (fun n => n) validKeys_pairDb.keyed none none
    (fun _ h => by cases h) Nat.one_pos).1 h).2
  exact hunsplit 1 ⟨pendingOrder 1, List.mem_cons_self, by decide +kernel, by decide +kernel⟩

end Oms

end OmsWmsTms
