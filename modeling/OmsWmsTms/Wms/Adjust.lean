import OmsWmsTms.Data.OrderBy
import OmsWmsTms.Wms.Models

/-!
# Adjusting the stock

`adjust_inventory` and `_pick_batches` of `src/wms/service.py`.  The clock is read once for each
attempt.

* `pickBatches` : `_pick_batches`.
* `chooseStock` : which row an attempt changes, from the stock that it has read.
* `adjustAttempt` : one round of the retry loop.
* `adjustInventory` : `adjust_inventory`.
-/

namespace OmsWmsTms

namespace Wms

open Txn (Prog)

/-- The payload of `adjust_inventory`. -/
structure AdjustData where
  /-- The warehouse. -/
  warehouseId : IdArg
  /-- The location. -/
  locationId : IdArg
  /-- The SKU code. -/
  sku : String
  /-- The quantity: positive into the stock, negative out of it. -/
  quantity : ℚ
  /-- The batch. -/
  batchNo : Option String := some "DEFAULT"
  /-- The day on which the batch expires. -/
  expiryDate : Option ℤ := none
  /-- The day on which it was made. -/
  manufacturingDate : Option ℤ := none
  /-- The order of the batches when stock is taken. -/
  pickingStrategy : String := "fefo"

/-! ### Batches -/

/-- `NULLS LAST`. -/
def nullsLast {α : Type} (le : α → α → Bool) : Option α → Option α → Bool
  | _, none => true
  | none, some _ => false
  | some a, some b => le a b

/-- `ORDER BY` two expressions. -/
def thenBy {α : Type} (le le' : α → α → Bool) (a b : α) : Bool := le a b && (!le b a || le' a b)

/-- The order of the batches for a strategy. -/
def batchOrder (rt : Runtime) (strategy : String) : Inventory → Inventory → Bool :=
  let expiry a b := nullsLast (fun x y : ℤ => x ≤ y) a.expiryDate b.expiryDate
  let received a b := nullsLast (fun x y : ℤ => x ≤ y) a.receivedAt b.receivedAt
  let batch a b := nullsLast rt.collate a.batchNo b.batchNo
  if strategy = "fefo" then thenBy expiry received
  else if strategy = "fifo" then thenBy received batch
  else batch

/-- The part of the stock that is not locked. -/
def Inventory.available (inv : Inventory) : ℚ := inv.quantity - inv.lockedQty

/-- The rows that have something available, in the order of the strategy. -/
def batchesOf (rt : Runtime) (strategy : String) (rows : List (WmsKey × Inventory)) :
    List (WmsKey × Inventory) :=
  (orderBy (fun a b => batchOrder rt strategy a.2 b.2) rows).filter fun batch =>
    decide (0 < batch.2.available)

/-- The stock that `_pick_batches` reads. -/
def pickCond (whId : Uuid) (locId : Option Uuid) (skuId : Uuid) (inv : Inventory) : Bool :=
  inv.warehouseId = whId ∧ inv.skuId = skuId ∧ 0 < inv.quantity.toRat ∧
    locId.all fun locId => inv.locationId = some locId

/-- `_pick_batches`. -/
def pickBatches (rt : Runtime) (whId : Uuid) (locId : Option Uuid) (skuId : Uuid)
    (strategy : String) : WmsProg (List (WmsKey × Inventory)) := do
  let rows ← selectInventory (pickCond whId locId skuId)
  return batchesOf rt strategy rows

/-! ### One attempt -/

/-- `max_retries`. -/
def maxRetries : ℕ := 3

/-- `sku_obj.id`: a rollback expires an object that was loaded, and leaves one that was made. -/
def skuObjId (rt : Runtime) (sku : Oms.Sku) (created : Bool) (attempt : ℕ) : WmsProg Uuid :=
  if attempt = 0 ∨ created ∨ rt.lazyLoads then return sku.id else .throw .missingGreenlet

/-- What an attempt does with the stock that it has read. -/
inductive Choice
  /-- Raise. -/
  | raise (e : ServiceError)
  /-- Roll back and try again. -/
  | retry (key : WmsKey)
  /-- Change a row that was read. -/
  | update (key : WmsKey) (inv : Inventory)
  /-- Make a row. -/
  | insert
deriving DecidableEq

/-- The row for stock that comes in, from the rows of the batch. -/
def chooseInbound : List (WmsKey × Inventory) → Choice
  | [] => .insert
  | [(key, inv)] => .update key inv
  | _ :: _ :: _ => .raise .multipleResults

/-- The row from which `need` is taken, from the batches: the first, if it is large enough. -/
def chooseOutbound (need : ℚ) (batches : List (WmsKey × Inventory)) : Choice :=
  match batches with
  | [] => .raise (.validation "Insufficient stock" none)
  | (key, inv) :: _ =>
    if (batches.map fun batch => batch.2.available).sum < need then
      .raise (.validation "Insufficient stock" none)
    else if inv.quantity - need < (0 : ℚ) then .retry key
    else .update key inv

/-- The stock of the batch that comes in. -/
def inboundCond (whId locId skuId : Uuid) (batchNo : Option String) (inv : Inventory) : Bool :=
  inv.warehouseId = whId ∧ inv.locationId = some locId ∧ inv.skuId = skuId ∧ inv.batchNo = batchNo

/-- Read the stock, and choose. -/
def chooseStock (rt : Runtime) (data : AdjustData) (whId locId skuId : Uuid) : WmsProg Choice :=
  if 0 < data.quantity then do
    let rows ← selectInventory (inboundCond whId locId skuId data.batchNo)
    return chooseInbound rows
  else do
    let batches ← pickBatches rt whId (some locId) skuId data.pickingStrategy
    return chooseOutbound |data.quantity| batches

/-- The values of an `UPDATE`; a date is there when it is to be filled in. -/
structure StockValues where
  /-- The quantity. -/
  quantity : Numeric 20 4
  /-- The version. -/
  version : ℤ
  /-- The day on which the batch expires. -/
  expiryDate : Option ℤ
  /-- The day on which it was made. -/
  manufacturingDate : Option ℤ
deriving DecidableEq

/-- The values of the `UPDATE`, from the row that was read. -/
def stockValues (data : AdjustData) (inv : Inventory) : Except ServiceError StockValues := do
  let quantity ← storeNumeric (inv.quantity + data.quantity)
  let version ← storeInt (inv.version + 1)
  let fill (new old : Option ℤ) := if 0 < data.quantity ∧ old = none then new else none
  return {
    quantity, version
    expiryDate := fill data.expiryDate inv.expiryDate
    manufacturingDate := fill data.manufacturingDate inv.manufacturingDate }

/-- The change of the `UPDATE`. -/
def setStock (now : ℤ) (values : StockValues) (inv : Inventory) : Inventory :=
  { inv with
    quantity := values.quantity
    version := values.version
    expiryDate := values.expiryDate.or inv.expiryDate
    manufacturingDate := values.manufacturingDate.or inv.manufacturingDate
    updatedAt := now }

/-- `UPDATE … WHERE id = … AND version = …`; whether it has changed a row. -/
def guardedUpdate (key : WmsKey) (version : ℤ) (change : Inventory → Inventory) : WmsProg Bool :=
  .update key (fun row => row.inventory?.any (·.version = version))
    (WmsRow.mapInventory change) .ret

/-- A new row of the stock. -/
def newStock (now : ℤ) (data : AdjustData) (whId locId skuId id : Uuid) :
    Except ServiceError Inventory := do
  let quantity ← storeNumeric data.quantity
  let batchNo ← data.batchNo.mapM (storeText 50)
  return {
    id, warehouseId := whId, locationId := some locId, skuId, batchNo, quantity, lockedQty := 0
    version := 0, expiryDate := data.expiryDate, manufacturingDate := data.manufacturingDate
    receivedAt := some now, isDeleted := false, createdAt := now, updatedAt := now }

/-- The movement of a call. -/
def newMovement (data : AdjustData) (whId locId skuId id : Uuid) :
    Except ServiceError StockMovement := do
  let quantity ← storeNumeric |data.quantity|
  return {
    id, sourceWarehouseId := whId
    sourceLocationId := if data.quantity < 0 then some locId else none
    targetLocationId := if 0 < data.quantity then some locId else none
    skuId, quantity }

/-- The row of the movement. -/
def movementRow (data : AdjustData) (whId locId skuId id : Uuid) :
    Except ServiceError (List (WmsKey × WmsRow)) := do
  let movement ← newMovement data whId locId skuId id
  return [(.stockMovement id, .stockMovement movement)]

/-- The rows of new stock and its movement. -/
def stockRows (now : ℤ) (data : AdjustData) (whId locId skuId id movementId : Uuid) :
    Except ServiceError (List (WmsKey × WmsRow)) := do
  let stock ← newStock now data whId locId skuId id
  let rows ← movementRow data whId locId skuId movementId
  return (.inventory id, .inventory stock) :: rows

/-- The `except` clause of the commit. -/
def failAttempt (attempt : ℕ) (key : WmsKey) (e : ServiceError) : WmsProg (WmsKey ⊕ WmsKey) :=
  if attempt < maxRetries - 1 then .rollback (return .inl key) else .throw e

/-- The commit of an attempt, after the `INSERT` of its new rows. -/
def finishAttempt (attempt : ℕ) (key : WmsKey) (free : Bool) : WmsProg (WmsKey ⊕ WmsKey) := do
  if free then
    let done ← Prog.tryCommit
    if done then return .inr key else failAttempt attempt key .commitFailed
  else failAttempt attempt key .integrityError

/-- `db.commit()`, which first inserts the new rows; an `orphan` refers to a SKU that an earlier
rollback has undone. -/
def commitAttempt (attempt : ℕ) (key : WmsKey) (orphan : Bool)
    (inserts : Except ServiceError (List (WmsKey × WmsRow))) : WmsProg (WmsKey ⊕ WmsKey) :=
  match inserts with
  | .error e => failAttempt attempt key e
  | .ok rows => do
    if orphan then failAttempt attempt key .integrityError
    else
      let free ← Prog.insertAll rows
      finishAttempt attempt key free

/-- The rest of an attempt that changes a row which it has read. -/
def updateStock (now : ℤ) (data : AdjustData) (whId locId skuId : Uuid) (orphan : Bool)
    (attempt : ℕ) (key : WmsKey) (inv : Inventory) : WmsProg (WmsKey ⊕ WmsKey) := do
  let values ← Prog.ofExcept (stockValues data inv)
  let hit ← guardedUpdate key inv.version (setStock now values)
  if hit then
    let _ ← refreshInventory key
    let movementId ← Prog.newId
    commitAttempt attempt key orphan (movementRow data whId locId skuId movementId)
  else .rollback (return .inl key)

/-- The rest of an attempt that makes a row. -/
def insertStock (now : ℤ) (data : AdjustData) (whId locId skuId : Uuid) (orphan : Bool)
    (attempt : ℕ) : WmsProg (WmsKey ⊕ WmsKey) := do
  let id ← Prog.newId
  let movementId ← Prog.newId
  commitAttempt attempt (.inventory id) orphan
    (stockRows now data whId locId skuId id movementId)

/-- One round of the retry loop: `Sum.inl` goes on, `Sum.inr` breaks. -/
def adjustAttempt (rt : Runtime) (now : ℕ → ℤ) (data : AdjustData) (whId locId : Uuid)
    (sku : Oms.Sku) (created : Bool) (attempt : ℕ) : WmsProg (WmsKey ⊕ WmsKey) := do
  let skuId ← skuObjId rt sku created attempt
  let orphan := created && decide (0 < attempt)
  match ← chooseStock rt data whId locId skuId with
  | .raise e => .throw e
  | .retry key => .rollback (return .inl key)
  | .update key inv => updateStock (now attempt) data whId locId skuId orphan attempt key inv
  | .insert => insertStock (now attempt) data whId locId skuId orphan attempt

/-- `adjust_inventory`. -/
def adjustInventory (rt : Runtime) (now : ℕ → ℤ) (data : AdjustData) : WmsProg InventoryDict := do
  let whId ← toUuid data.warehouseId
  let locId ← toUuid data.locationId
  let _ ← warehouseById whId
  checkLocation locId
  let (sku, created) ← getOrCreateSku data.sku
  let key ← Prog.attempts (adjustAttempt rt now data whId locId sku created) 0 (maxRetries - 1)
  let inv ← refreshInventory key
  return invToDict inv data.sku

end Wms

end OmsWmsTms
