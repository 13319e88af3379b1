import OmsWmsTms.Core.Clock
import OmsWmsTms.Oms.Models

/-!
# The warehouse tables

The tables of `src/wms/models.py` and `src/models/wms.py` that the stock services read and write, as
rows of one database.  A row is found by its primary key, and a SKU by the code that a unique index
keeps.

* `WmsKey`, `WmsRow` : the keys and the rows.
* `Runtime` : what the stock services leave to the database and to the session.
* `WmsProg` : the programs of the stock services.
* `selectInventory`, `oneOrNone`, `getOrCreateSku` : the statements that they share.
* `invToDict` : `_inv_to_dict`.
-/

namespace OmsWmsTms

namespace Wms

open Txn (Prog)

/-- `WarehouseStatus`, a plain `Enum`. -/
inductive WarehouseStatus
  | active | maintenance | closed
deriving DecidableEq

/-- The text of a member of a plain `Enum`. -/
def WarehouseStatus.text : WarehouseStatus → String
  | active => "WarehouseStatus.ACTIVE"
  | maintenance => "WarehouseStatus.MAINTENANCE"
  | closed => "WarehouseStatus.CLOSED"

/-- `InventoryChangeType`. -/
inductive InventoryChangeType
  | inbound | outbound
deriving DecidableEq

/-! ### Rows -/

/-- `Warehouse`. -/
structure Warehouse where
  /-- The primary key. -/
  id : Uuid
  /-- The unique code. -/
  code : String
  /-- The status. -/
  status : WarehouseStatus
deriving DecidableEq

/-- `Inventory`. -/
structure Inventory where
  /-- The primary key. -/
  id : Uuid
  /-- The warehouse. -/
  warehouseId : Uuid
  /-- The location. -/
  locationId : Option Uuid
  /-- The SKU. -/
  skuId : Uuid
  /-- The batch. -/
  batchNo : Option String
  /-- The quantity on hand. -/
  quantity : Numeric 20 4
  /-- The part of it that is locked. -/
  lockedQty : Numeric 20 4
  /-- The version that `adjust_inventory` guards its updates with. -/
  version : ℤ
  /-- The day on which the batch expires. -/
  expiryDate : Option ℤ
  /-- The day on which it was made. -/
  manufacturingDate : Option ℤ
  /-- When it was received. -/
  receivedAt : Option ℤ
  /-- Whether the row is deleted. -/
  isDeleted : Bool
  /-- When the row was made. -/
  createdAt : ℤ
  /-- When it was last changed. -/
  updatedAt : ℤ
deriving DecidableEq

/-- `StockMovement`, of the type `TRANSFER`. -/
structure StockMovement where
  /-- The primary key. -/
  id : Uuid
  /-- The warehouse. -/
  sourceWarehouseId : Uuid
  /-- The location that the stock leaves. -/
  sourceLocationId : Option Uuid
  /-- The location that it enters. -/
  targetLocationId : Option Uuid
  /-- The SKU. -/
  skuId : Uuid
  /-- The quantity. -/
  quantity : Numeric 20 4
deriving DecidableEq

/-- `InventoryLog`. -/
structure InventoryLog where
  /-- The primary key. -/
  id : Uuid
  /-- The inventory row. -/
  inventoryId : Uuid
  /-- The type of the change. -/
  changeType : InventoryChangeType
  /-- The change. -/
  quantityChange : Numeric 20 4
  /-- The quantity before it. -/
  quantityBefore : Numeric 20 4
  /-- The quantity after it. -/
  quantityAfter : Numeric 20 4
  /-- What has caused it. -/
  referenceType : String
deriving DecidableEq

/-- `StockInventoryLog`. -/
structure StockInventoryLog where
  /-- The primary key. -/
  id : Uuid
  /-- The warehouse. -/
  warehouseId : Uuid
  /-- The SKU code. -/
  sku : String
  /-- The type of the change. -/
  type : String
  /-- What has caused it. -/
  referenceType : String
  /-- The amount of the change. -/
  quantityChange : Numeric 18 4
  /-- Who has made it. -/
  operatorId : Option Uuid
  /-- The reason. -/
  reason : Option String
  /-- The remark. -/
  remark : Option String
deriving DecidableEq

/-- The keys of the rows. -/
inductive WmsKey
  | warehouse (id : Uuid)
  | location (id : Uuid)
  | sku (code : String)
  | inventory (id : Uuid)
  | stockMovement (id : Uuid)
  | inventoryLog (id : Uuid)
  | stockInventoryLog (id : Uuid)
  | order (id : Uuid)
deriving DecidableEq

/-- The rows. -/
inductive WmsRow
  | warehouse (row : Warehouse)
  | location
  | sku (row : Oms.Sku)
  | inventory (row : Inventory)
  | stockMovement (row : StockMovement)
  | inventoryLog (row : InventoryLog)
  | stockInventoryLog (row : StockInventoryLog)
  | order (status : Oms.OrderStatus)
deriving DecidableEq

namespace WmsRow

/-- The warehouse in a row of `warehouses`. -/
def warehouse? : WmsRow → Option Warehouse
  | warehouse row => some row
  | _ => none

/-- The SKU in a row of `skus`. -/
def sku? : WmsRow → Option Oms.Sku
  | sku row => some row
  | _ => none

/-- The stock in a row of `inventory`. -/
def inventory? : WmsRow → Option Inventory
  | inventory row => some row
  | _ => none

/-- Change the stock in a row of `inventory`. -/
def mapInventory (f : Inventory → Inventory) : WmsRow → WmsRow
  | inventory row => inventory (f row)
  | row => row

/-- The movement in a row of `stock_movements`. -/
def stockMovement? : WmsRow → Option StockMovement
  | stockMovement row => some row
  | _ => none

/-- The status in a row of `orders`. -/
def order? : WmsRow → Option Oms.OrderStatus
  | order status => some status
  | _ => none

end WmsRow

/-- The database. -/
abbrev WmsDb := Dict WmsKey WmsRow

/-- The programs of the stock services. -/
abbrev WmsProg := Prog WmsKey WmsRow ServiceError

/-- What the stock services leave to the database and to the session. -/
structure Runtime where
  /-- The order of texts. -/
  collate : String → String → Bool
  /-- Whether an attribute that is not loaded, or that has expired, can be read outside of a
  statement; an asynchronous session raises `MissingGreenlet`, unless it still holds the row that
  the attribute refers to. -/
  lazyLoads : Bool

/-! ### Statements -/

/-- An identifier, or the `ValueError` of `uuid.UUID`. -/
def toUuid (arg : IdArg) : WmsProg Uuid :=
  match arg.uuid? with
  | some id => return id
  | none => .throw .valueError

/-- The warehouse with a primary key, or the error that it is not there. -/
def warehouseById (id : Uuid) : WmsProg Warehouse := do
  let rows ← Prog.query (Txn.keyQuery (.warehouse id))
  match rows.findSome? fun item => item.2.warehouse? with
  | some warehouse => return warehouse
  | none => .throw (.notFound s!"Warehouse {Uuid.text id} not found")

/-- The check that a location is there. -/
def checkLocation (id : Uuid) : WmsProg Unit := do
  let rows ← Prog.query (Txn.keyQuery (.location id))
  match rows with
  | [] => .throw (.notFound s!"Location {Uuid.text id} not found")
  | _ :: _ => return ()

/-- The stock that meets a condition, with the keys of the rows. -/
def selectInventory (cond : Inventory → Bool) : WmsProg (List (WmsKey × Inventory)) := do
  let rows ← Prog.query fun _ row => row.inventory?.any cond
  return rows.filterMap fun item => item.2.inventory?.map (item.1, ·)

/-- `scalar_one_or_none`. -/
def oneOrNone {α : Type} : List α → WmsProg (Option α)
  | [] => return none
  | [a] => return some a
  | _ :: _ :: _ => .throw .multipleResults

/-- A new SKU. -/
def createSku (skuStr : String) : WmsProg Oms.Sku := do
  let id ← Prog.newId
  let code ← Prog.ofExcept (storeWhole 50 skuStr)
  let name ← Prog.ofExcept (storeText 200 skuStr)
  Prog.insertOr .integrityError (.sku code) (.sku ⟨id, code, name⟩)
  return ⟨id, code, name⟩

/-- `_get_or_create_sku`, and whether the SKU is new. -/
def getOrCreateSku (skuStr : String) : WmsProg (Oms.Sku × Bool) := do
  let rows ← Prog.query (Txn.keyQuery (.sku skuStr))
  match rows.findSome? fun item => item.2.sku? with
  | some sku => return (sku, false)
  | none =>
    let sku ← createSku skuStr
    return (sku, true)

/-- `db.refresh(inv)`. -/
def refreshInventory (key : WmsKey) : WmsProg Inventory := do
  let rows ← Prog.query (Txn.keyQuery key)
  match rows.findSome? fun item => item.2.inventory? with
  | some inv => return inv
  | none => .throw .staleData

/-! ### Answers -/

/-- The stock in the answer of a service. -/
structure InventoryDict where
  /-- The identifier. -/
  id : String
  /-- The warehouse. -/
  warehouseId : String
  /-- The location. -/
  locationId : String
  /-- The SKU code. -/
  sku : String
  /-- The batch. -/
  batchNo : String
  /-- The day on which the batch expires. -/
  expiryDate : Option String
  /-- The day on which it was made. -/
  manufacturingDate : Option String
  /-- When it was received. -/
  receivedAt : Option String
  /-- The quantity on hand. -/
  quantity : ℚ
  /-- The part of it that is locked. -/
  reservedQty : ℚ
  /-- The part of it that is not. -/
  availableQty : ℚ
  /-- When the row was made. -/
  createdAt : String
  /-- When it was last changed. -/
  updatedAt : String
deriving DecidableEq

/-- `_inv_to_dict`. -/
def invToDict (inv : Inventory) (skuStr : String) : InventoryDict where
  id := Uuid.text inv.id
  warehouseId := Uuid.text inv.warehouseId
  locationId := (inv.locationId.map Uuid.text).getD ""
  sku := skuStr
  batchNo := inv.batchNo.getD ""
  expiryDate := inv.expiryDate.map dateIsoformat
  manufacturingDate := inv.manufacturingDate.map dateIsoformat
  receivedAt := inv.receivedAt.map isoformat
  quantity := inv.quantity
  reservedQty := inv.lockedQty
  availableQty := inv.quantity - inv.lockedQty
  createdAt := isoformat inv.createdAt
  updatedAt := isoformat inv.updatedAt

end Wms

end OmsWmsTms
