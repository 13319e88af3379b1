import OmsWmsTms.Core.Clock
import OmsWmsTms.Data.Csv
import OmsWmsTms.Data.Numeric
import OmsWmsTms.Data.Unicode

/-!
# Exporting and importing the inventory

`export_inventory` and `stream_csv` of `src/core/export.py`, `import_inventory_from_csv` of
`src/core/import_utils.py`, and the endpoints of `src/admin/router.py` that call them.

* `InventoryRow`, `Db` : the rows of `inventory`, and what their foreign keys refer to.
* `exportInventory`, `streamCsv` : the bytes of an export.
* `Session` : the session of an import, which writes a change before the next statement.
* `importInventory` : an import, row by row.
-/

namespace OmsWmsTms

namespace Admin

/-! ### The table -/

/-- A time that Python has a `datetime` for. -/
structure DateTime where
  /-- Microseconds since 1970. -/
  micros : ℤ
  year_pos : -62135596800000000 ≤ micros
  year_le : micros < 253402300800000000

/-- `Inventory`. -/
structure InventoryRow where
  id : Uuid
  skuId : Uuid
  warehouseId : Uuid
  locationId : Option Uuid
  batchNo : Option String
  quantity : Numeric 20 4
  lockedQty : Numeric 20 4
  minQty : Numeric 18 4
  updatedAt : Option DateTime

/-- The SKUs, the warehouses and the inventory. -/
structure Db where
  skus : List Uuid
  warehouses : List Uuid
  inventory : List InventoryRow

/-! ### The export -/

/-- A row of `export_inventory`, with the texts that `csv` prints. -/
def exportRow (inv : InventoryRow) : Dict String String :=
  ((((((Dict.empty.set "sku_id" (Uuid.text inv.skuId)).set
    "warehouse_id" (Uuid.text inv.warehouseId)).set
    "quantity" inv.quantity.toText).set
    "locked_qty" inv.lockedQty.toText).set
    "min_qty" inv.minQty.toText).set
    "updated_at" ((inv.updatedAt.map fun t => isoformat t.micros).getD ""))

/-- `export_inventory`. -/
def exportInventory (inventory : List InventoryRow) : List (Dict String String) :=
  inventory.map exportRow

/-- The columns of `export_inventory_csv`. -/
def inventoryColumns : List String :=
  ["sku_id", "warehouse_id", "quantity", "locked_qty", "min_qty", "updated_at"]

/-- The byte order mark that `utf-8-sig` puts first. -/
def bom : String := "\ufeff"

/-- `stream_csv`: the header with a byte order mark, then the rows. -/
def streamCsv (rows : List (Dict String String)) (columns : List String) : List ByteArray :=
  (bom ++ String.ofList (Csv.excel.writeRow columns)).toUTF8 ::
    rows.map fun row => (String.ofList (Csv.excel.writeRow
      (columns.map fun column => (row.get? column).getD ""))).toUTF8

/-- The bytes of a streamed response. -/
def body (chunks : List ByteArray) : ByteArray := chunks.foldl (· ++ ·) ByteArray.empty

/-- `export_inventory_csv`. -/
def exportInventoryCsv (inventory : List InventoryRow) : ByteArray :=
  body (streamCsv (exportInventory inventory) inventoryColumns)

/-! ### The session of an import -/

/-- What goes wrong in an import. -/
inductive ImportError
  /-- `None` has no `strip`. -/
  | attributeError
  /-- `int(None)`. -/
  | typeError
  /-- `int` or `uuid.UUID` of a text. -/
  | valueError (text : String)
  | multipleResults
  /-- A number does not fit into its column. -/
  | dataError
  /-- A foreign key refers to nothing. -/
  | integrityError
  /-- A flush has failed before. -/
  | pendingRollback
  | csvError (error : Csv.Dialect.Error)
deriving DecidableEq

/-- What the next flush writes. -/
inductive Change
  | update (id : Uuid) (quantity minQty : ℤ)
  | insert (id skuId warehouseId : Uuid) (quantity minQty : ℤ)

/-- The session: what its transaction sees, what is to be flushed, and whether a flush has
failed. -/
structure Session where
  db : Db
  pending : Option Change := none
  deactive : Bool := false

/-- Write a change; `now` is the time of `onupdate` and of the defaults. -/
def Change.write (now : DateTime) (db : Db) : Change → Except ImportError Db
  | .update id quantity minQty =>
    match Numeric.ofRat? (p := 20) (s := 4) quantity, Numeric.ofRat? (p := 18) (s := 4) minQty with
    | some quantity, some minQty => .ok { db with
        inventory := db.inventory.map fun inv =>
          -- nothing is written where both values are what they were
          if inv.id = id ∧ ¬ (inv.quantity = quantity ∧ inv.minQty = minQty) then
            { inv with quantity, minQty, updatedAt := some now }
          else inv }
    | _, _ => .error .dataError
  | .insert id skuId warehouseId quantity minQty =>
    match Numeric.ofRat? (p := 20) (s := 4) quantity, Numeric.ofRat? (p := 18) (s := 4) minQty with
    | some quantity, some minQty =>
      if skuId ∈ db.skus ∧ warehouseId ∈ db.warehouses then .ok { db with
        inventory := db.inventory ++ [{
          id, skuId, warehouseId, quantity, minQty
          locationId := none
          batchNo := none
          lockedQty := 0
          updatedAt := some now }] }
      else .error .integrityError
    | _, _ => .error .dataError

/-- A flush; one that fails rolls the transaction back. -/
def Session.flush (now : DateTime) (start : Db) (session : Session) :
    Except ImportError Unit × Session :=
  match session.pending with
  | none => (.ok (), session)
  | some change =>
    match change.write now session.db with
    | .ok db => (.ok (), { db })
    | .error error => (.error error, { db := start, deactive := true })

/-! ### The import -/

/-- `{"success": …, "errors": […]}`. -/
structure ImportResults where
  success : ℕ := 0
  /-- The rows that have failed, by their numbers. -/
  errors : List (ℕ × ImportError) := []
deriving DecidableEq

/-- A row of a `DictReader`. -/
abbrev CsvRow := Dict String (Option String)

/-- `row.get(key, "").strip()`. -/
def stripped (row : CsvRow) (key : String) : Except ImportError String :=
  match (row.get? key).getD (some "") with
  | some text => .ok (Text.strip text)
  | none => .error .attributeError

/-- `int(row.get(key, 0))`. -/
def number (row : CsvRow) (key : String) : Except ImportError ℤ :=
  match row.get? key with
  | none => .ok 0
  | some none => .error .typeError
  | some (some text) => (Text.parseInt? text).elim (.error (.valueError text)) .ok

/-- `uuid.UUID(text)`. -/
def toUuid (text : String) : Except ImportError Uuid :=
  (Uuid.parse? text).elim (.error (.valueError text)) .ok

/-- What the statement of a row finds: the rows of the SKU in the warehouse. -/
def select (skuId warehouseId : Uuid) (db : Db) : List InventoryRow :=
  db.inventory.filter fun inv => inv.skuId = skuId ∧ inv.warehouseId = warehouseId

/-- What a row is about: its identifiers, once the statement needs them, and its numbers. -/
structure ParsedRow where
  skuId : String
  warehouseId : String
  quantity : ℤ
  minQty : ℤ

/-- The texts and the numbers of a row. -/
def parseRow (row : CsvRow) : Except ImportError ParsedRow := do
  let skuId ← stripped row "sku_id"
  let warehouseId ← stripped row "warehouse_id"
  let quantity ← number row "quantity"
  let minQty ← number row "min_qty"
  return { skuId, warehouseId, quantity, minQty }

/-- The statement of a row, in a session that has been flushed, and the change that it leads to. -/
def rowChange (newId : Uuid) (row : ParsedRow) (db : Db) (skuId warehouseId : Uuid) :
    Except ImportError Change :=
  match select skuId warehouseId db with
  | [] => .ok (.insert newId skuId warehouseId row.quantity row.minQty)
  | [inv] => .ok (.update inv.id row.quantity row.minQty)
  | _ :: _ :: _ => .error .multipleResults

/-- One row, in the `try` of the loop. -/
def importRow (now : DateTime) (start : Db) (newId : Uuid) (row : CsvRow) (session : Session) :
    Except ImportError Unit × Session :=
  match parseRow row with
  | .error error => (.error error, session)
  | .ok parsed =>
    match toUuid parsed.skuId, toUuid parsed.warehouseId with
    | .error error, _ | .ok _, .error error => (.error error, session)
    | .ok skuId, .ok warehouseId =>
      -- the flush of an earlier row has failed, and the loop never calls `rollback`
      if session.deactive then (.error .pendingRollback, session)
      else
        match session.flush now start with
        | (.error error, session) => (.error error, session)
        | (.ok (), session) =>
          match rowChange newId parsed session.db skuId warehouseId with
          | .error error => (.error error, session)
          | .ok change => (.ok (), { session with pending := some change })

/-- The loop over the rows, from row 2 of the file. -/
def importRows (now : DateTime) (start : Db) (newId : ℕ → Uuid) :
    ℕ → List CsvRow → ImportResults × Session → ImportResults × Session
  | _, [], s => s
  | rowNum, row :: rows, (results, session) =>
    match importRow now start (newId rowNum) row session with
    | (.ok (), session) => importRows now start newId (rowNum + 1) rows
        ({ results with success := results.success + 1 }, session)
    | (.error error, session) => importRows now start newId (rowNum + 1) rows
        ({ results with errors := results.errors ++ [(rowNum, error)] }, session)

/-- `db.commit()`; what is not committed is rolled back. -/
def commit (now : DateTime) (start : Db) (session : Session) : Except ImportError Unit × Db :=
  if session.deactive then (.error .pendingRollback, start)
  else
    match session.flush now start with
    | (.error error, _) => (.error error, start)
    | (.ok (), session) => (.ok (), session.db)

/-- **`import_inventory_from_csv`**; an error of the reader is not caught. -/
def importInventory (now : DateTime) (newId : ℕ → Uuid) (content : String) (db : Db) :
    Except ImportError ImportResults × Db :=
  let (records, error?) := Csv.excel.read content.toList
  let (results, session) := importRows now db newId 2 (Csv.dictRows records) ({}, { db })
  match error? with
  | some error => (.error (.csvError error), db)
  | none =>
    match commit now db session with
    | (.error error, db) => (.error error, db)
    | (.ok (), db) => (.ok results, db)

end Admin

end OmsWmsTms
