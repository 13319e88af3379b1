import OmsWmsTms.Wms.Adjust

/-!
# The other writers of the stock

`stock_in`, `stock_out` and `adjust_stock_count` of `src/wms/service.py`, `pick_from_stock` of
`src/wms/services/picking_service.py`, and the task `release_locked_inventory_for_cancelled_orders`
of `src/tasks/inventory.py`.  The clock is read once for each call.

* `stockIn`, `stockOut` : `stock_in` and `stock_out`, up to the exception that ends them.
* `chooseCount`, `countItem`, `adjustStockCount` : `adjust_stock_count`.
* `pickPlan`, `pickFromStock` : `pick_from_stock`.
* `releaseLocked` : the task.
-/

namespace OmsWmsTms

namespace Wms

open Txn (Prog)

/-! ### Stock in and out of a warehouse -/

/-- `==` between a member of a plain `Enum` and a text: the member is not its value. -/
def WarehouseStatus.eqText (_ : WarehouseStatus) (_ : String) : Bool := false

/-- The check that `wh.status` is `WarehouseStatus.ACTIVE.value`. -/
def checkActive (warehouse : Warehouse) : WmsProg Unit :=
  if warehouse.status.eqText "active" then return ()
  else .throw (.validation
    s!"Warehouse {warehouse.code} is inactive (status={warehouse.status.text})" none)

/-- The payload of `stock_in`. -/
structure StockInData where
  /-- The SKU code. -/
  sku : String
  /-- The quantity. -/
  quantity : ℚ
  /-- The batch. -/
  batchNo : Option String := some "DEFAULT"
  /-- The order of the batches when the quantity is not positive. -/
  pickingStrategy : String := "fefo"

/-- The stock that `stock_in` reads. -/
def stockInCond (whId skuId : Uuid) (batchNo : Option String) (inv : Inventory) : Bool :=
  inv.warehouseId = whId ∧ inv.skuId = skuId ∧ inv.batchNo = batchNo

/-- `stock_in`.  `float(inv.quantity) - qty` of the log raises: a float and a decimal do not
subtract.  No statement has been flushed since the SKU. -/
def stockIn (rt : Runtime) (warehouseId : IdArg) (data : StockInData) : WmsProg InventoryDict := do
  let whId ← toUuid warehouseId
  let warehouse ← warehouseById whId
  checkActive warehouse
  let (sku, _) ← getOrCreateSku data.sku
  let rows ← selectInventory (stockInCond whId sku.id data.batchNo)
  let inv ← oneOrNone rows
  if 0 < data.quantity then .throw .typeError
  else
    let batches ← pickBatches rt whId (inv.bind fun item => item.2.locationId) sku.id
      data.pickingStrategy
    if batches = [] ∨ (batches.map fun batch => batch.2.available).sum < |data.quantity| then
      .throw (.validation "Insufficient stock" none)
    else .throw .typeError

/-- The payload of `stock_out`, without the strategy: the order of the batches has no effect before
the exception. -/
structure StockOutData where
  /-- The SKU code. -/
  sku : String
  /-- The quantity. -/
  quantity : ℚ

/-- The stock that `stock_out` reads. -/
def stockOutCond (whId skuId : Uuid) (inv : Inventory) : Bool :=
  inv.warehouseId = whId ∧ inv.skuId = skuId ∧ 0 < inv.quantity.toRat

/-- `stock_out`.  The batches are reduced in memory; then `float(…) + qty` of the log raises, or
`batches[0]` when there is no batch. -/
def stockOut (warehouseId : IdArg) (data : StockOutData) : WmsProg InventoryDict := do
  let whId ← toUuid warehouseId
  let warehouse ← warehouseById whId
  checkActive warehouse
  let (sku, _) ← getOrCreateSku data.sku
  let rows ← selectInventory (stockOutCond whId sku.id)
  if rows = [] then
    .throw (.validation "No stock available for this SKU in this warehouse" none)
  else
    let batches := rows.filter fun batch => decide (0 < batch.2.available)
    if (batches.map fun batch => batch.2.available).sum < data.quantity then
      .throw (.validation "Insufficient stock" none)
    else if batches = [] then .throw .indexError
    else .throw .typeError

/-! ### Counts -/

/-- A quantity of a raw payload: the decimal that it denotes, how Python prints it, and whether
Python takes the entry for true; the number zero is false. -/
structure QuantityArg where
  /-- The decimal. -/
  value : ℚ
  /-- Its text. -/
  text : String
  /-- Whether the entry is true. -/
  truthy : Bool
deriving DecidableEq

/-- An entry of `count_results`. -/
structure CountItem where
  /-- The entry `sku`, which may be null. -/
  sku : Option (Option String) := none
  /-- The entry `sku_code`. -/
  skuCode : Option String := none
  /-- The entry `actual_qty`. -/
  actualQty : Option QuantityArg := none
  /-- The entry `actual_qty_count`. -/
  actualQtyCount : Option QuantityArg := none
deriving DecidableEq

/-- `item.get("sku", item.get("sku_code"))`. -/
def CountItem.skuStr (item : CountItem) : Option String := item.sku.getD item.skuCode

/-- `item.get("actual_qty") or item.get("actual_qty_count")`. -/
def CountItem.actual (item : CountItem) : Option QuantityArg :=
  match item.actualQty with
  | some quantity => if quantity.truthy then some quantity else item.actualQtyCount
  | none => item.actualQtyCount

/-- The payload of `adjust_stock_count`. -/
structure CountData where
  /-- The entry `warehouse_id`. -/
  warehouseId : Option IdArg := none
  /-- The entry `source_warehouse_code`. -/
  sourceWarehouseCode : Option String := none
  /-- The entry `location_id`. -/
  locationId : Option IdArg := none
  /-- The entry `target_location_id`. -/
  targetLocationId : Option IdArg := none
  /-- The entry `count_results`. -/
  countResults : List CountItem

/-- An entry that is not empty. -/
def nonEmpty (arg : Option IdArg) : Option IdArg := arg.filter fun arg => arg.text ≠ ""

/-- The warehouse of a count. -/
def countWarehouse (data : CountData) : WmsProg (Option Uuid) :=
  match nonEmpty data.warehouseId with
  | some arg => do
    let id ← toUuid arg
    return some id
  | none =>
    match data.sourceWarehouseCode.filter (· ≠ "") with
    | none => return none
    | some code => do
      let rows ← Prog.query fun _ row => row.warehouse?.any fun warehouse => warehouse.code = code
      match ← oneOrNone (rows.filterMap fun item => item.2.warehouse?) with
      | none => .throw (.notFound s!"Warehouse {code} not found")
      | some warehouse => return some warehouse.id

/-- The location of a count. -/
def countLocation (data : CountData) : WmsProg Uuid :=
  match (nonEmpty data.locationId).or (nonEmpty data.targetLocationId) with
  | none => .throw (.validation "Missing location_id in count request" none)
  | some arg => toUuid arg

/-- The stock that a count is about. -/
def countCond (whId : Option Uuid) (locId skuId : Uuid) (inv : Inventory) : Bool :=
  some inv.warehouseId = whId ∧ inv.locationId = some locId ∧ inv.skuId = skuId

/-- The quantities that the session has set.  It does not read them again, so they are as they were
given, not as the column rounds them. -/
abbrev SetQuantities := List (WmsKey × QuantityArg)

/-- `inv.quantity` of a row that a count has read. -/
def systemQty (seen : SetQuantities) (key : WmsKey) (inv : Inventory) : QuantityArg :=
  (seen.lookup key).getD ⟨inv.quantity, inv.quantity.toText, true⟩

/-- What a count does. -/
inductive CountChoice
  /-- Nothing: the stock agrees. -/
  | keep
  /-- Make a row. -/
  | insert
  /-- Change a row, by a difference. -/
  | change (key : WmsKey) (diff : ℚ)
  /-- Raise. -/
  | raise (e : ServiceError)
deriving DecidableEq

/-- The difference below which a count agrees with the stock. -/
def tolerance : ℚ := 1 / 1000

/-- What a count does with the rows that it has read. -/
def chooseCount (seen : SetQuantities) (skuStr : String) (actual : QuantityArg) :
    List (WmsKey × Inventory) → CountChoice
  | [] => if |actual.value| < tolerance then .keep else .insert
  | [(key, inv)] =>
    let system := systemQty seen key inv
    let diff := actual.value - system.value
    if |diff| < tolerance then .keep
    else if 0 < diff then .change key diff
    else if system.value < |diff| then
      .raise (.validation (s!"SKU {skuStr}: actual qty ({actual.text}) exceeds available " ++
        s!"inventory ({system.text})") none)
    else .change key diff
  | _ :: _ :: _ => .raise .multipleResults

/-- The row of a count where there was none. -/
def countedStock (now : ℤ) (whId locId skuId : Uuid) (quantity : Numeric 20 4) (id : Uuid) :
    Inventory where
  id := id
  warehouseId := whId
  locationId := some locId
  skuId := skuId
  batchNo := some "COUNT"
  quantity := quantity
  lockedQty := 0
  version := 0
  expiryDate := none
  manufacturingDate := none
  receivedAt := some now
  isDeleted := false
  createdAt := now
  updatedAt := now

/-- `inv.quantity = actual_qty` and `inv.updated_at = now`. -/
def setCount (now : ℤ) (quantity : Numeric 20 4) (inv : Inventory) : Inventory :=
  { inv with quantity, updatedAt := now }

/-- The warehouse of a log, which must have one. -/
def logWarehouse : Option Uuid → WmsProg Uuid
  | some id => return id
  | none => .throw .integrityError

/-- The foreign key of a new row. -/
def checkReference (key : WmsKey) : WmsProg Unit := do
  let rows ← Prog.query (Txn.keyQuery key)
  if rows = [] then .throw .integrityError else return ()

/-- The log of a count.  It refers to its warehouse, which nothing else has looked up. -/
def logCount (whId : Uuid) (skuStr : String) (diff : ℚ) : WmsProg Unit := do
  let sku ← Prog.ofExcept (storeWhole 64 skuStr)
  let quantityChange ← Prog.ofExcept (storeNumeric |diff|)
  checkReference (.warehouse whId)
  let id ← Prog.newId
  Prog.insertOr .integrityError (.stockInventoryLog id) (.stockInventoryLog {
    id, warehouseId := whId, sku, type := if 0 < diff then "ADJUSTMENT_IN" else "ADJUSTMENT_OUT"
    referenceType := "stock_count", quantityChange, operatorId := none
    reason := some "stock_count", remark := none })

/-- What a count writes, and the quantities that the session has set then. -/
def applyCount (now : ℤ) (whId : Option Uuid) (locId skuId : Uuid) (skuStr : String)
    (actual : QuantityArg) (seen : SetQuantities) : CountChoice → WmsProg SetQuantities
  | .keep => return seen
  | .raise e => .throw e
  | .insert => do
    let whId ← logWarehouse whId
    let quantity ← Prog.ofExcept (storeNumeric actual.value)
    let id ← Prog.newId
    Prog.insertOr .integrityError (.inventory id)
      (.inventory (countedStock now whId locId skuId quantity id))
    logCount whId skuStr actual.value
    return (.inventory id, actual) :: seen
  | .change key diff => do
    let whId ← logWarehouse whId
    let quantity ← Prog.ofExcept (storeNumeric actual.value)
    Prog.updateOr .staleData key (WmsRow.mapInventory (setCount now quantity))
    logCount whId skuStr diff
    return (key, actual) :: seen

/-- One round of the loop of `adjust_stock_count`. -/
def countItem (now : ℤ) (whId : Option Uuid) (locId : Uuid) (seen : SetQuantities)
    (item : CountItem) : WmsProg SetQuantities :=
  match item.actual with
  | none =>
    let skuVal := (item.sku.getD (some "unknown")).getD "None"
    .throw (.validation s!"Missing quantity field in count result for SKU {skuVal}" none)
  | some actual =>
    match item.skuStr with
    -- a SKU without a code is new, and the log must have a code
    | none => if |actual.value| < tolerance then return seen else .throw .integrityError
    | some skuStr => do
      let (sku, _) ← getOrCreateSku skuStr
      let rows ← selectInventory (countCond whId locId sku.id)
      applyCount now whId locId sku.id skuStr actual seen (chooseCount seen skuStr actual rows)

/-- `adjust_stock_count`; the answer is its message. -/
def adjustStockCount (now : ℤ) (data : CountData) : WmsProg String := do
  let whId ← countWarehouse data
  let locId ← countLocation data
  checkLocation locId
  if data.countResults = [] then .throw (.validation "No count results to process" none)
  else
    let _ ← Prog.foldEach data.countResults [] (countItem now whId locId)
    Prog.commitOr .commitFailed
    return s!"Stock count processed: {data.countResults.length} SKUs"

/-! ### Picks -/

/-- The order of the rows of `pick_from_stock`. -/
def pickOrder (rt : Runtime) : Inventory → Inventory → Bool :=
  thenBy (fun a b => nullsLast (fun x y : ℤ => x ≤ y) a.expiryDate b.expiryDate)
    fun a b => nullsLast rt.collate a.batchNo b.batchNo

/-- The stock that `pick_from_stock` reads. -/
def pickFromCond (whId skuId : Uuid) (inv : Inventory) : Bool :=
  inv.warehouseId = whId ∧ inv.skuId = skuId ∧ inv.isDeleted = false

/-- What is picked from a row. -/
structure Pick where
  /-- The key of the row. -/
  key : WmsKey
  /-- The row as it was read. -/
  inv : Inventory
  /-- The quantity. -/
  quantity : ℤ

/-- The loop of `pick_from_stock`: what is picked, and what remains. -/
def pickPlan (remaining : ℤ) : List (WmsKey × Inventory) → List Pick × ℤ
  | [] => ([], remaining)
  | (key, inv) :: rest =>
    if remaining ≤ 0 then ([], remaining)
    else
      let quantity := ⌊min (remaining : ℚ) (max 0 inv.available)⌋
      if quantity ≤ 0 then pickPlan remaining rest
      else
        let (picks, left) := pickPlan (remaining - quantity) rest
        (⟨key, inv, quantity⟩ :: picks, left)

/-- The change of a row that is picked from. -/
def pickStock (now : ℤ) (quantity : Numeric 20 4) (version : ℤ) (inv : Inventory) : Inventory :=
  { inv with quantity, version, updatedAt := now }

/-- The `UPDATE` of a row that is picked from. -/
def updatePick (now : ℤ) (pick : Pick) : WmsProg Unit := do
  let quantity ← Prog.ofExcept (storeNumeric (pick.inv.quantity - pick.quantity))
  let version ← Prog.ofExcept (storeInt (pick.inv.version + 1))
  Prog.updateOr .staleData pick.key (WmsRow.mapInventory (pickStock now quantity version))

/-- The log of a pick. -/
def logPick (pick : Pick) : WmsProg Unit := do
  let quantityChange ← Prog.ofExcept (storeNumeric (-pick.quantity))
  let quantityAfter ← Prog.ofExcept (storeNumeric (pick.inv.quantity - pick.quantity))
  let id ← Prog.newId
  Prog.insertOr .integrityError (.inventoryLog id) (.inventoryLog {
    id, inventoryId := pick.inv.id, changeType := .outbound, quantityChange
    quantityBefore := pick.inv.quantity, quantityAfter, referenceType := "picking" })

/-- An entry of `picked_batches`. -/
structure PickedBatch where
  /-- The batch. -/
  batchNo : String
  /-- The name of the SKU. -/
  skuName : String
  /-- The day on which the batch expires. -/
  expiryDate : Option String
  /-- The quantity. -/
  qty : ℤ
deriving DecidableEq

/-- The entry of a pick. -/
def Pick.batch (skuName : String) (pick : Pick) : PickedBatch where
  batchNo := pick.inv.batchNo.getD "None"
  skuName := skuName
  expiryDate := pick.inv.expiryDate.map dateIsoformat
  qty := pick.quantity

/-- The rows of a SKU in a warehouse that are not deleted, and the name of the SKU. -/
def pickRows (rt : Runtime) (whId : Uuid) (skuStr : String) :
    WmsProg (List (WmsKey × Inventory) × String) := do
  let found ← Prog.query (Txn.keyQuery (.sku skuStr))
  match found.findSome? fun item => item.2.sku? with
  | none => return ([], "")
  | some sku =>
    let rows ← selectInventory (pickFromCond whId sku.id)
    return (orderBy (fun a b => pickOrder rt a.2 b.2) rows, sku.name)

/-- `pick_from_stock`; its rows are written when the loop has ended. -/
def pickFromStock (rt : Runtime) (now : ℤ) (warehouseId : IdArg) (skuStr : String)
    (quantity : ℤ) : WmsProg (List PickedBatch × ℤ) := do
  let whId ← toUuid warehouseId
  let (rows, skuName) ← pickRows rt whId skuStr
  if rows = [] then
    .throw (.notFound s!"No inventory found for SKU {skuStr} at warehouse {warehouseId.text}")
  else
    let (picks, remaining) := pickPlan quantity rows
    -- `inv.sku` of the first pick is not loaded, unless the session holds the SKU
    if picks ≠ [] ∧ rt.lazyLoads = false then .throw .missingGreenlet
    else
      Prog.forEach picks (updatePick now)
      Prog.forEach picks logPick
      Prog.commitOr .commitFailed
      return (picks.map (Pick.batch skuName), remaining)

/-! ### The release of locks -/

/-- The change of a row whose lock is released. -/
def releaseStock (now : ℤ) (quantity : Numeric 20 4) (inv : Inventory) : Inventory :=
  { inv with quantity, lockedQty := 0, updatedAt := now }

/-- The release of a row. -/
def releaseRow (now : ℤ) (item : WmsKey × Inventory) : WmsProg Unit := do
  let quantity ← Prog.ofExcept (storeNumeric (item.2.quantity + item.2.lockedQty))
  Prog.updateOr .staleData item.1 (WmsRow.mapInventory (releaseStock now quantity))

/-- `release_locked_inventory_for_cancelled_orders`. -/
def releaseLocked (now : ℤ) : WmsProg ℕ := do
  let cancelled ← Prog.query fun _ row => row.order?.any fun status => status = .cancelled
  if cancelled = [] then return 0
  else
    let rows ← selectInventory fun inv => decide (0 < inv.lockedQty.toRat)
    Prog.forEach rows (releaseRow now)
    Prog.commitOr .commitFailed
    return rows.length

end Wms

end OmsWmsTms
