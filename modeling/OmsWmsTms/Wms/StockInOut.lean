import OmsWmsTms.Txn.Ends
import OmsWmsTms.Wms.AuditTrail
import OmsWmsTms.Wms.StockInvariant

/-!
# What `stock_in` and `stock_out` are asked for

A call is to change what is on hand of a SKU in a warehouse by its quantity, and to append one entry
of `inventory_logs` for each row that it touches.

* `InOutCall` : the calls; `InOutCall.Asked` : those that can be fulfilled.
* `InOutCall.Done` : the call has done what it was asked for.
* `not_done` : no call ever does.
-/

namespace OmsWmsTms

namespace Wms

open Txn (Prog Ends)

/-- A call of `stock_in` or `stock_out`. -/
inductive InOutCall
  | stockIn (rt : Runtime) (warehouseId : IdArg) (data : StockInData)
  | stockOut (warehouseId : IdArg) (data : StockOutData)

namespace InOutCall

/-- The program of a call. -/
def prog : InOutCall → WmsProg InventoryDict
  | stockIn rt warehouseId data => Wms.stockIn rt warehouseId data
  | stockOut warehouseId data => Wms.stockOut warehouseId data

/-- The warehouse. -/
def warehouseId : InOutCall → IdArg
  | stockIn _ warehouseId _ => warehouseId
  | stockOut warehouseId _ => warehouseId

/-- The SKU code. -/
def sku : InOutCall → String
  | stockIn _ _ data => data.sku
  | stockOut _ data => data.sku

/-- The quantity. -/
def quantity : InOutCall → ℚ
  | stockIn _ _ data => data.quantity
  | stockOut _ data => data.quantity

/-- The change of the stock on hand. -/
def change : InOutCall → ℚ
  | stockIn _ _ data => data.quantity
  | stockOut _ data => -data.quantity

/-- The call is about the stock of a SKU in a warehouse. -/
def IsAbout (call : InOutCall) (d : WmsDb) (holding : Holding) : Prop :=
  call.warehouseId.uuid? = some holding.warehouseId ∧ skuIdAt d call.sku = some holding.skuId

end InOutCall

/-! ### What is asked for -/

/-- What is available of a row, if it is of the SKU in the warehouse. -/
def availableOf (holding : Holding) (row : WmsRow) : ℚ :=
  (row.inventory?.map fun inv => if inv.IsOf holding then inv.available else 0).getD 0

/-- The call can be fulfilled: the warehouse is active, the rows cover their locks, the quantity is
positive, and no more is to go out than is available. -/
structure InOutCall.Asked (call : InOutCall) (d : WmsDb) : Prop where
  active : ∃ id warehouse, call.warehouseId.uuid? = some id ∧
    d.get? (.warehouse id) = some (.warehouse warehouse) ∧ warehouse.status = .active
  covered : ∀ key inv, d.get? key = some (.inventory inv) → inv.Covered
  positive : 0 < call.quantity
  enough : call.change < 0 → ∃ holding, call.IsAbout d holding ∧
    call.quantity ≤ Txn.total (availableOf holding) d

/-- The quantity of a row, or nothing. -/
def quantityAt (d : WmsDb) (id : Uuid) : ℚ :=
  ((inventoryAt d (.inventory id)).map fun inv => inv.quantity.toRat).getD 0

/-- The entries of `inventory_logs` for a row that were appended. -/
def entriesFor (d d' : WmsDb) (id : Uuid) : List InventoryLog :=
  ((Txn.appended d d').filterMap fun row => match row with
    | .inventoryLog log => some log
    | _ => none).filter fun log => log.inventoryId = id

/-- One entry was appended for each row that was touched, with the quantities of the row before and
after and with their difference. -/
def Logged (d d' : WmsDb) : Prop :=
  ∀ id, if d.get? (.inventory id) = d'.get? (.inventory id) then entriesFor d d' id = []
    else ∃ log, entriesFor d d' id = [log] ∧ log.quantityBefore.toRat = quantityAt d id ∧
      log.quantityAfter.toRat = quantityAt d' id ∧
      log.quantityChange.toRat = quantityAt d' id - quantityAt d id

/-- The call commits, changes the stock on hand by its quantity, and logs what it touches. -/
def InOutCall.Done (call : InOutCall) (ids : ℕ → ℕ) (d : WmsDb) : Prop :=
  ∃ answer d', call.prog.run ids d = (.ok answer, d') ∧
    (∃ holding, call.IsAbout d' holding ∧
      onHandTotal d' holding = onHandTotal d holding + call.change) ∧ Logged d d'

/-! ### No call returns -/

section

variable {A B : Type} {d w : WmsDb}

/-- The programs that do not return. -/
abbrev Raises (p : WmsProg A) (d w : WmsDb) : Prop :=
  Ends (fun _ _ _ => False) (fun _ => True) p d w

theorem ends_true (p : WmsProg A) (d w : WmsDb) :
    Ends (fun _ _ _ => True) (fun _ => True) p d w := by
  induction p generalizing d w with
  | ret a => trivial
  | throw e => trivial
  | fresh next ih => exact fun n => ih n d w
  | select query next ih => exact ih _ d w
  | update key guard change next ih =>
    exact ⟨fun _ => ih false d w, fun row _ => ⟨fun _ => ih true d _, fun _ => ih false d w⟩⟩
  | insert key row next ih => exact ⟨fun _ => ih true d _, fun _ => ih false d w⟩
  | commit next ih => exact ⟨ih true w w, ih false d d⟩
  | rollback next ih => exact ih d d

/-- A program raises if what comes after its first part does. -/
theorem raises_bind (p : WmsProg A) {f : A → WmsProg B} (h : ∀ a d w, Raises (f a) d w) :
    Raises (p.bind f) d w :=
  Txn.ends_bind.2 ((ends_true p d w).mono fun a d w _ => h a d w)

/-- **`stock_in` raises**, whatever `checkActive` does. -/
theorem raises_stockIn (rt : Runtime) (warehouseId : IdArg) (data : StockInData) :
    Raises (stockIn rt warehouseId data) d w := by
  refine raises_bind _ fun whId d w => raises_bind _ fun warehouse d w => raises_bind _ fun _ d w =>
    raises_bind _ fun found d w => raises_bind _ fun rows d w => raises_bind _ fun inv d w => ?_
  show Raises (ite _ _ _) d w
  split_ifs with hquantity
  · trivial
  · refine raises_bind _ fun batches d w => ?_
    show Raises (ite _ _ _) d w
    split_ifs with hstock
    · trivial
    · trivial

/-- **`stock_out` raises**, whatever `checkActive` does. -/
theorem raises_stockOut (warehouseId : IdArg) (data : StockOutData) :
    Raises (stockOut warehouseId data) d w := by
  refine raises_bind _ fun whId d w => raises_bind _ fun warehouse d w => raises_bind _ fun _ d w =>
    raises_bind _ fun found d w => raises_bind _ fun rows d w => ?_
  show Raises (ite _ _ _) d w
  split_ifs with hrows
  · trivial
  · show Raises (ite _ _ (ite _ _ _)) d w
    split_ifs with hstock hbatches
    · trivial
    · trivial
    · trivial

end

theorem InOutCall.run_ne_ok (call : InOutCall) (ids : ℕ → ℕ) (d d' : WmsDb)
    (answer : InventoryDict) : call.prog.run ids d ≠ (.ok answer, d') := by
  intro hrun
  have hraises : Raises call.prog d d := by
    cases call with
    | stockIn rt warehouseId data => exact raises_stockIn rt warehouseId data
    | stockOut warehouseId data => exact raises_stockOut warehouseId data
  obtain ⟨w, hfalse⟩ := (hraises.run ids).1 answer (congrArg Prod.fst hrun)
  exact hfalse

/-- No call does what it was asked for. -/
theorem not_done (call : InOutCall) (ids : ℕ → ℕ) (d : WmsDb) : ¬ call.Done ids d := by
  rintro ⟨answer, d', hrun, -, -⟩
  exact call.run_ne_ok ids d d' answer hrun

/-! ### Five pieces -/

/-- Five pieces for a warehouse in which ten are on hand. -/
def fivePiecesIn : InOutCall :=
  .stockIn ⟨fun _ _ => true, false⟩ ⟨"1", some 1⟩ { sku := "A", quantity := 5 }

/-- Five pieces out of it. -/
def fivePiecesOut : InOutCall := .stockOut ⟨"1", some 1⟩ { sku := "A", quantity := 5 }

theorem covered_shelfDb (key : WmsKey) (inv : Inventory)
    (h : shelfDb.get? key = some (.inventory inv)) : inv.Covered := by
  unfold shelfDb emptyDb at h
  simp only [Dict.get?_set, Dict.get?_empty] at h
  split_ifs at h
  all_goals cases h
  exact .of_unlocked rfl (by norm_num [shelf, Numeric.toRat])

theorem available_shelfDb : Txn.total (availableOf ⟨1, 3⟩) shelfDb = 10 := by
  decide +kernel

theorem active_shelfDb : ∃ warehouse, shelfDb.get? (.warehouse 1) = some (.warehouse warehouse) ∧
    warehouse.status = .active := ⟨⟨1, "W", .active⟩, rfl, rfl⟩

theorem asked_fivePiecesIn : fivePiecesIn.Asked shelfDb where
  active := by
    obtain ⟨warehouse, hget, hstatus⟩ := active_shelfDb
    exact ⟨1, warehouse, rfl, hget, hstatus⟩
  covered := covered_shelfDb
  positive := by norm_num [InOutCall.quantity, fivePiecesIn]
  enough := by norm_num [InOutCall.change, fivePiecesIn]

theorem asked_fivePiecesOut : fivePiecesOut.Asked shelfDb where
  active := by
    obtain ⟨warehouse, hget, hstatus⟩ := active_shelfDb
    exact ⟨1, warehouse, rfl, hget, hstatus⟩
  covered := covered_shelfDb
  positive := by norm_num [InOutCall.quantity, fivePiecesOut]
  enough := by
    intro _
    refine ⟨⟨1, 3⟩, ⟨rfl, rfl⟩, ?_⟩
    rw [available_shelfDb]
    norm_num [InOutCall.quantity, fivePiecesOut]

/-- Both calls can be fulfilled, and neither is. -/
theorem fivePieces_not_done :
    (fivePiecesIn.Asked shelfDb ∧ ¬ fivePiecesIn.Done (fun n => n + 10) shelfDb) ∧
      fivePiecesOut.Asked shelfDb ∧ ¬ fivePiecesOut.Done (fun n => n + 10) shelfDb := by
  refine ⟨⟨asked_fivePiecesIn, ?_⟩, asked_fivePiecesOut, ?_⟩
  · rintro ⟨answer, d', hrun, -, -⟩
    exact fivePiecesIn.run_ne_ok _ shelfDb d' answer hrun
  · rintro ⟨answer, d', hrun, -, -⟩
    exact fivePiecesOut.run_ne_ok _ shelfDb d' answer hrun

end Wms

end OmsWmsTms
