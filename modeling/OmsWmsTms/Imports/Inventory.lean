import OmsWmsTms.Admin.InventoryCsv
import OmsWmsTms.Data.Batch

/-!
# Importing the inventory, row by row

`handle_inventory_import` of `src/core/_import/import_inventory.py`.  Unlike the import of the
admin router it looks up the warehouse and the SKU of a row first.

* `readRow` : the texts, the identifiers and the numbers of a row.
* `stockChange` : the statements of a row, and the change that they lead to.
* `handleInventoryImport` : the loop over the rows, and the commit behind it.
-/

namespace OmsWmsTms

namespace Imports

namespace Inventory

open Admin (Change CsvRow DateTime Db ImportError ParsedRow)

/-! ### The rows -/

/-- What a row is about. -/
structure StockRow where
  parsed : ParsedRow
  skuId : Uuid
  warehouseId : Uuid

/-- `int(row.get(key, 0) or 0)`. -/
def numberOrZero (row : CsvRow) (key : String) : Except ImportError ℤ :=
  match row.get? key with
  | none | some none | some (some "") => .ok 0
  | some (some text) => (Text.parseInt? text).elim (.error (.valueError text)) .ok

/-- The texts, the identifiers and the numbers of a row. -/
def readRow (row : CsvRow) : Except ImportError StockRow := do
  let skuId ← Admin.stripped row "sku_id"
  let warehouseId ← Admin.stripped row "warehouse_id"
  if skuId = "" ∨ warehouseId = "" then
    .error (.valueError "Missing required fields: sku_id and/or warehouse_id")
  else
    let sku ← Admin.toUuid skuId
    let warehouse ← Admin.toUuid warehouseId
    let quantity ← Admin.number row "quantity"
    let minQty ← numberOrZero row "min_qty"
    return ⟨{ skuId, warehouseId, quantity, minQty }, sku, warehouse⟩

/-- The statements of a row, in a session that has been flushed, and the change they lead to. -/
def stockChange (newId : Uuid) (row : StockRow) (db : Db) : Except ImportError Change :=
  if row.warehouseId ∉ db.warehouses then
    .error (.valueError s!"Warehouse {row.parsed.warehouseId} not found")
  else if row.skuId ∉ db.skus then
    .error (.valueError s!"SKU {row.parsed.skuId} not found")
  else Admin.rowChange newId row.parsed db row.skuId row.warehouseId

/-! ### The session -/

/-- Write a change; a new row has the batch "IMPORT". -/
def writeChange (now : DateTime) (db : Db) : Change → Except ImportError Db
  | .update id quantity minQty => (Change.update id quantity minQty).write now db
  | .insert id skuId warehouseId quantity minQty =>
    match Numeric.ofRat? (p := 20) (s := 4) quantity, Numeric.ofRat? (p := 18) (s := 4) minQty with
    | some quantity, some minQty =>
      if skuId ∈ db.skus ∧ warehouseId ∈ db.warehouses then .ok { db with
        inventory := db.inventory ++ [{
          id, skuId, warehouseId, quantity, minQty
          locationId := none
          batchNo := some "IMPORT"
          lockedQty := 0
          updatedAt := some now }] }
      else .error .integrityError
    | _, _ => .error .dataError

/-- A flush; one that fails rolls the transaction back to the rows at the start. -/
def flush (now : DateTime) (start : Db) (session : Admin.Session) :
    Except ImportError Unit × Admin.Session :=
  match session.pending with
  | none => (.ok (), session)
  | some change =>
    match writeChange now session.db change with
    | .ok db => (.ok (), { db })
    | .error error => (.error error, { db := start, deactive := true })

/-- `db.commit()`. -/
def commit (now : DateTime) (start : Db) (session : Admin.Session) : Except ImportError Db :=
  if session.deactive then .error .pendingRollback
  else
    match flush now start session with
    | (.error error, _) => .error error
    | (.ok (), session) => .ok session.db

/-! ### The loop -/

/-- One row, in the `try` of the loop: its first statement flushes what an earlier row has left. -/
def importRow (now : DateTime) (start : Db) (newId : Uuid) (row : CsvRow)
    (session : Admin.Session) : Except ImportError Unit × Admin.Session :=
  match readRow row with
  | .error error => (.error error, session)
  | .ok stock =>
    if session.deactive then (.error .pendingRollback, session)
    else
      match flush now start session with
      | (.error error, session) => (.error error, session)
      | (.ok (), session) =>
        match stockChange newId stock session.db with
        | .error error => (.error error, session)
        | .ok change => (.ok (), { session with pending := some change })

/-- A row in a session of its own. -/
def importAlone (now : DateTime) (newId : Uuid) (row : CsvRow) (db : Db) : Except ImportError Db :=
  match importRow now db newId row { db } with
  | (.error error, _) => .error error
  | (.ok (), session) => commit now db session

/-- **`handle_inventory_import`**: the answer and the committed rows.  The errors of the reader and
of the commit are not caught. -/
def handleInventoryImport (now : DateTime) (newId : ℕ → Uuid) (csvText : String) (db : Db) :
    Except ImportError (Batch.Report ImportError) × Db :=
  let (records, error?) := Csv.excel.read csvText.toList
  let (report, session) := Batch.loop (fun rowNum => importRow now db (newId rowNum)) 2
    (Csv.dictRows records) { db }
  match error? with
  | some error => (.error (.csvError error), db)
  | none =>
    match commit now db session with
    | .error error => (.error error, db)
    | .ok db => (.ok report, db)

end Inventory

end Imports

end OmsWmsTms
