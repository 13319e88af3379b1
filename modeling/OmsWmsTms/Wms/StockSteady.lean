import OmsWmsTms.Txn.OneCommit
import OmsWmsTms.Txn.Triple
import OmsWmsTms.Wms.AdjustCommits
import OmsWmsTms.Wms.StockWriters

/-!
# What the writers of the stock may write

`stock_in`, `stock_out`, `adjust_stock_count` and `pick_from_stock` commit at most once, as the last
thing they do, and leave the stock in its place.

* `Inserts`, `SteadyWrites` : the parts of the services: they make rows, or change stock in its
  place.
* `inserts_stockIn`, `inserts_stockOut` : the two do not commit at all.
* `oneCommit_adjustStockCount`, `oneCommit_pickFromStock` : the other two.
-/

namespace OmsWmsTms

namespace Wms

open Txn (Prog Reads Writes WriteKeeps OneCommit Triple)

/-- A program that does not end its transaction, and leaves stock in its place. -/
abbrev SteadyWrites {A : Type} (p : WmsProg A) : Prop := Writes False (WriteKeeps Steady) p

/-- A program that does not end its transaction, and only makes rows. -/
abbrev Inserts {A : Type} (p : WmsProg A) : Prop := Writes False (fun _ old _ => old = none) p

theorem Inserts.steady {A : Type} {p : WmsProg A} (h : Inserts p) : SteadyWrites p :=
  h.mono id fun _ _ _ hnone row hrow => by
    rw [hnone] at hrow
    cases hrow

/-- A row that is there stays as it is while rows are made. -/
theorem Inserts.triple {A : Type} {p : WmsProg A} (h : Inserts p) {I : WmsDb → Prop} {key : WmsKey}
    {row : WmsRow} : Triple I (fun s => s.working.get? key = some row) p
      fun _ s => s.working.get? key = some row := by
  refine .writes h (J := fun w => w.get? key = some row) fun w key' row' hrow hnone => ?_
  rw [Dict.get?_set]
  split_ifs with hkey
  · rw [hkey, hrow] at hnone
    cases hnone
  · exact hrow

/-- A change of stock that leaves it in its place. -/
theorem steady_mapInventory {change : Inventory → Inventory} (h : ∀ inv, SamePlace inv (change inv))
    (row : WmsRow) : Steady row (row.mapInventory change) := by
  cases row with
  | inventory inv => exact .inventory (h inv)
  | _ => exact .refl _

/-! ### What is only read -/

theorem reads_toUuid (arg : IdArg) : Reads (toUuid arg) := by
  unfold toUuid
  cases arg.uuid? <;> trivial

theorem reads_warehouseById (id : Uuid) : Reads (warehouseById id) := by
  intro rows
  dsimp only [Prog.query, Prog.bind]
  cases rows.findSome? fun item => item.2.warehouse? <;> trivial

theorem reads_checkActive (warehouse : Warehouse) : Reads (checkActive warehouse) := by
  unfold checkActive
  split_ifs <;> trivial

theorem reads_checkLocation (id : Uuid) : Reads (checkLocation id) := by
  intro rows
  dsimp only [Prog.query, Prog.bind]
  cases rows <;> trivial

theorem reads_checkReference (key : WmsKey) : Reads (checkReference key) := by
  intro rows
  dsimp only [Prog.query, Prog.bind]
  split_ifs <;> trivial

theorem reads_selectInventory (cond : Inventory → Bool) : Reads (selectInventory cond) :=
  fun _ => trivial

theorem reads_oneOrNone {α : Type} (l : List α) : Reads (oneOrNone l) := by
  match l with
  | [] => trivial
  | [_] => trivial
  | _ :: _ :: _ => trivial

theorem reads_pickBatches (rt : Runtime) (whId : Uuid) (locId : Option Uuid) (skuId : Uuid)
    (strategy : String) : Reads (pickBatches rt whId locId skuId strategy) := fun _ => trivial

theorem reads_countWarehouse (data : CountData) : Reads (countWarehouse data) := by
  unfold countWarehouse
  split
  · exact (reads_toUuid _).bind fun id => trivial
  · split
    · trivial
    · intro rows
      dsimp only [Prog.query, Prog.bind]
      refine (reads_oneOrNone _).bind fun warehouse => ?_
      cases warehouse <;> trivial

theorem reads_countLocation (data : CountData) : Reads (countLocation data) := by
  unfold countLocation
  split
  · trivial
  · exact reads_toUuid _

theorem reads_logWarehouse (whId : Option Uuid) : Reads (logWarehouse whId) := by
  cases whId <;> trivial

theorem reads_pickRows (rt : Runtime) (whId : Uuid) (skuStr : String) :
    Reads (pickRows rt whId skuStr) := by
  intro found
  dsimp only [Prog.query, Prog.bind]
  cases found.findSome? fun item => item.2.sku? with
  | none => trivial
  | some sku => exact (reads_selectInventory _).bind fun rows => trivial

/-! ### Stock in and out of a warehouse -/

theorem inserts_createSku (skuStr : String) : Inserts (createSku skuStr) :=
  fun _ => (Writes.ofExcept _).bind fun _ => (Writes.ofExcept _).bind fun _ =>
    (Writes.insertOr rfl).bind fun _ => trivial

theorem inserts_getOrCreateSku (skuStr : String) : Inserts (getOrCreateSku skuStr) := by
  intro rows
  dsimp only [Prog.query, Prog.bind]
  cases rows.findSome? fun item => item.2.sku? with
  | some sku => trivial
  | none => exact (inserts_createSku skuStr).bind fun _ => trivial

/-- **`stock_in` does not commit.** -/
theorem inserts_stockIn (rt : Runtime) (warehouseId : IdArg) (data : StockInData) :
    Inserts (stockIn rt warehouseId data) := by
  refine (Writes.of_reads (reads_toUuid warehouseId)).bind fun whId =>
    (Writes.of_reads (reads_warehouseById whId)).bind fun warehouse =>
      (Writes.of_reads (reads_checkActive warehouse)).bind fun _ =>
        (inserts_getOrCreateSku data.sku).bind fun (sku, _) =>
          (Writes.of_reads (reads_selectInventory _)).bind fun rows =>
            (Writes.of_reads (reads_oneOrNone rows)).bind fun inv => ?_
  split_ifs
  · trivial
  · refine (Writes.of_reads (reads_pickBatches rt _ _ _ _)).bind fun batches => ?_
    split_ifs <;> trivial

/-- **`stock_out` does not commit.** -/
theorem inserts_stockOut (warehouseId : IdArg) (data : StockOutData) :
    Inserts (stockOut warehouseId data) := by
  refine (Writes.of_reads (reads_toUuid warehouseId)).bind fun whId =>
    (Writes.of_reads (reads_warehouseById whId)).bind fun warehouse =>
      (Writes.of_reads (reads_checkActive warehouse)).bind fun _ =>
        (inserts_getOrCreateSku data.sku).bind fun (sku, _) =>
          (Writes.of_reads (reads_selectInventory _)).bind fun rows => ?_
  split_ifs
  · trivial
  · dsimp only
    split_ifs <;> trivial

/-! ### Counts -/

theorem inserts_logCount (whId : Uuid) (skuStr : String) (diff : ℚ) :
    Inserts (logCount whId skuStr diff) :=
  (Writes.ofExcept _).bind fun _ => (Writes.ofExcept _).bind fun _ =>
    (Writes.of_reads (reads_checkReference _)).bind fun _ _ => Writes.insertOr rfl

theorem steady_applyCount (now : ℤ) (whId : Option Uuid) (locId skuId : Uuid) (skuStr : String)
    (actual : QuantityArg) (seen : SetQuantities) (choice : CountChoice) :
    SteadyWrites (applyCount now whId locId skuId skuStr actual seen choice) := by
  cases choice with
  | keep => trivial
  | raise e => trivial
  | insert =>
    refine Inserts.steady ?_
    exact (Writes.of_reads (reads_logWarehouse whId)).bind fun _ => (Writes.ofExcept _).bind
      fun _ _ => (Writes.insertOr rfl).bind fun _ => (inserts_logCount _ _ _).bind fun _ => trivial
  | change key diff =>
    refine (Writes.of_reads (reads_logWarehouse whId)).bind fun _ => (Writes.ofExcept _).bind
      fun quantity => (Writes.updateOr fun row => ?_).bind fun _ =>
        (inserts_logCount _ _ _).steady.bind fun _ => trivial
    rintro _ ⟨⟩
    refine steady_mapInventory ?_ row
    exact fun inv => ⟨rfl, rfl, rfl⟩

theorem steady_countItem (now : ℤ) (whId : Option Uuid) (locId : Uuid) (seen : SetQuantities)
    (item : CountItem) : SteadyWrites (countItem now whId locId seen item) := by
  unfold countItem
  cases item.actual with
  | none => trivial
  | some actual =>
    cases item.skuStr with
    | none =>
      dsimp only
      split_ifs <;> trivial
    | some skuStr =>
      exact (inserts_getOrCreateSku skuStr).steady.bind fun (sku, _) =>
        (Writes.of_reads (reads_selectInventory _)).bind fun rows =>
          steady_applyCount _ _ _ _ _ _ _ _

/-- **`adjust_stock_count` ends with its commit.** -/
theorem oneCommit_adjustStockCount (now : ℤ) (data : CountData) :
    OneCommit (WriteKeeps Steady) (adjustStockCount now data) := by
  refine .bind (Writes.of_reads (reads_countWarehouse data)) fun whId =>
    .bind (Writes.of_reads (reads_countLocation data)) fun locId =>
      .bind (Writes.of_reads (reads_checkLocation locId)) fun _ => ?_
  split_ifs
  · trivial
  · exact .bind (Writes.foldEach (steady_countItem now whId locId)) fun _ => .commitOr _ _

/-! ### Picks -/

theorem steady_updatePick (now : ℤ) (pick : Pick) : SteadyWrites (updatePick now pick) := by
  refine (Writes.ofExcept _).bind fun quantity => (Writes.ofExcept _).bind fun version =>
    Writes.updateOr fun row => ?_
  rintro _ ⟨⟩
  refine steady_mapInventory ?_ row
  exact fun inv => ⟨rfl, rfl, rfl⟩

theorem inserts_logPick (pick : Pick) : Inserts (logPick pick) :=
  (Writes.ofExcept _).bind fun _ => (Writes.ofExcept _).bind fun _ _ =>
    Writes.insertOr rfl

/-- **`pick_from_stock` ends with its commit.** -/
theorem oneCommit_pickFromStock (rt : Runtime) (now : ℤ) (warehouseId : IdArg) (skuStr : String)
    (quantity : ℤ) : OneCommit (WriteKeeps Steady)
      (pickFromStock rt now warehouseId skuStr quantity) := by
  refine .bind (Writes.of_reads (reads_toUuid warehouseId)) fun whId =>
    .bind (Writes.of_reads (reads_pickRows rt whId skuStr)) fun (rows, skuName) => ?_
  dsimp only
  split_ifs
  · trivial
  · trivial
  · exact .bind (Writes.forEach (steady_updatePick now)) fun _ =>
      .bind (Writes.forEach fun pick => (inserts_logPick pick).steady) fun _ => .commitOr _ _

end Wms

end OmsWmsTms
