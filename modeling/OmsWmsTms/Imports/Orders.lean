import OmsWmsTms.Data.Batch
import OmsWmsTms.Data.Csv
import OmsWmsTms.Data.Json
import OmsWmsTms.Data.Unicode
import OmsWmsTms.Oms.Service

/-!
# Importing orders

`handle_orders_import` of `src/core/_import/import_orders.py`, with `create_order` of
`src/oms/service.py` on what a row holds, and the session of `get_db` of `src/core/database.py`.

* `Stdlib` : the functions of the standard library that the handler calls.
* `readOrder` : the order of a row; `readLines` : its items, as `create_order` reads them.
* `createOrder` : `create_order`, which may raise before, between and after its writes.
* `handleOrdersImport` : the loop over the rows, in one session.
-/

namespace OmsWmsTms

namespace Imports

open Oms (OmsDb OmsKey OmsRow OmsProg)
open Txn (Prog)

/-! ### The rows -/

/-- A row of a `DictReader`. -/
abbrev CsvRow := Dict String (Option String)

/-- What Python raises while it reads a row. -/
inductive PyError
  /-- `AttributeError`: `None` has no `strip`, and an item that is no object has no `get`. -/
  | attributeError
  /-- `ValueError`, "Missing required field: customer_id". -/
  | missingCustomer
  /-- `JSONDecodeError`. -/
  | jsonDecode
  /-- `TypeError`: the items cannot be iterated. -/
  | typeError
  /-- `InvalidOperation` of `Decimal`. -/
  | invalidOperation
  /-- What `int` raises. -/
  | notAnInt
deriving DecidableEq

/-- The functions of the standard library that the handler calls. -/
structure Stdlib where
  /-- `json.loads(text)`, unless it raises. -/
  loads : String → Option Json
  /-- `repr` of a list or an object. -/
  repr : Json → String
  /-- `Decimal(text)` of a number. -/
  decimal? : String → Option ℚ

variable (py : Stdlib)

/-- `row.get(key, default).strip()`. -/
def stripped (row : CsvRow) (key default : String) : Except PyError String :=
  match (row.get? key).getD (some default) with
  | some text => .ok (Text.strip text)
  | none => .error .attributeError

/-- `order_data`. -/
structure OrderData where
  customerId : String
  items : Json
  priority : String
  notes : String

/-- The order of a row.  Of a priority only the ASCII letters matter. -/
def readOrder (row : CsvRow) : Except PyError OrderData := do
  let customerId ← stripped row "customer_id" ""
  if customerId = "" then .error .missingCustomer
  else
    let itemsRaw ← stripped row "items" "[]"
    let items ← if itemsRaw = "" then .ok (.list [])
      else (py.loads itemsRaw).elim (.error .jsonDecode) .ok
    let priority ← stripped row "priority" "medium"
    let notes ← stripped row "notes" ""
    return {
      customerId, items, notes
      priority := if priority = "" then "medium" else priority.toLower }

/-- An item, as `create_order` reads it. -/
structure Line where
  gtin : Json
  sku : Json
  productName : Json
  quantity : ℤ
  unitPrice : ℚ

/-- `Decimal(str(item.get("unit_price", 0)))` and `int(item.get("quantity", 0))` of an item. -/
def readLine : Json → Except PyError Line
  | .dict item => do
    let field (name : String) (default : Json) : Json := (Json.member? name item).getD default
    let unitPrice ← (py.decimal? ((field "unit_price" (.int 0)).text py.repr)).elim
      (.error .invalidOperation) .ok
    let quantity ← ((field "quantity" (.int 0)).int? Text.parseInt?).elim (.error .notAnInt) .ok
    return {
      gtin := field "gtin" (.str "")
      sku := field "sku" (.str "")
      productName := field "product_name" (.str "")
      quantity, unitPrice }
  | _ => .error .attributeError

/-- The items, as `sum` goes through them. -/
def readLines (items : Json) : Except PyError (List Line) :=
  match items.iterate with
  | some items => items.mapM (readLine py)
  | none => .error .typeError

/-! ### Creating an order -/

/-- Why a row fails. -/
inductive RowError
  | python (e : PyError)
  /-- The driver refuses a parameter of a query that is a list or an object; nothing is sent. -/
  | refused
  /-- The server has no comparison of a text with a number or a boolean, and aborts the
  transaction. -/
  | aborted
  | service (e : ServiceError)
  /-- `PendingRollbackError`, or what the server says in an aborted transaction. -/
  | pendingRollback
deriving DecidableEq

/-- A flush that fails rolls the transaction back, and what the server has aborted is rolled back in
the end. -/
def RowError.aborts : RowError → Bool
  | .aborted | .service .dataError | .service .integrityError => true
  | _ => false

/-- The programs of the import. -/
abbrev ImportProg := Prog OmsKey OmsRow RowError

/-- What a `String` column takes of a value; `NULL` is read as an empty text. -/
def columnText : Json → Except ServiceError String
  | .str text => .ok text
  | .null => .ok ""
  | _ => .error .dataError

/-- What the query for a SKU that is no text raises. -/
def skuError : Json → RowError
  | .bool _ | .int _ | .float _ _ => .aborted
  | _ => .refused

/-- The SKU of an item. -/
def lineSku : Json → ImportProg (Option Uuid)
  | .str code => (Oms.createItemSku code).mapError .service
  | value => if value.truthy then .throw (skuError value) else return none

/-- `db.add(oi)`. -/
def addLine (orderId : Uuid) (line : Line) (skuId : Option Uuid) : OmsProg Unit := do
  let gtin ← Prog.ofExcept (columnText line.gtin)
  let name ← Prog.ofExcept (columnText line.productName)
  Oms.insertItem orderId skuId gtin name line.quantity line.unitPrice

/-- An item of an order. -/
def createLine (orderId : Uuid) (line : Line) : ImportProg Unit := do
  let skuId ← lineSku line.sku
  (addLine orderId line skuId).mapError .service

/-- What a row draws: the time, its date, and random numbers. -/
structure Draws where
  now : ℤ
  datePart : String
  suffix : String
  ids : ℕ → Uuid

/-- `order_no`. -/
def Draws.orderNo (draws : Draws) : String := s!"ORD-{draws.datePart}-{draws.suffix}"

variable (draws : Draws)

/-- `total`. -/
def totalOf (lines : List Line) : ℚ :=
  (lines.map fun line => line.unitPrice * (line.quantity : ℚ)).sum

/-- `db.add(order)` and `db.flush()`. -/
def addOrder (data : OrderData) (customer : Oms.Customer) (total : ℚ) : OmsProg Uuid := do
  let id ← Prog.newId
  let orderNo ← Prog.ofExcept (storeWhole 50 draws.orderNo)
  let totalAmount ← Prog.ofExcept (storeNumeric total)
  Oms.insertOrder {
    id, orderNo, status := .pending, customerId := customer.id, warehouseId := none
    totalAmount, priority := (Oms.priorityMap data.priority).getD .medium, notes := data.notes
    isDeleted := false, deletedAt := none, createdAt := draws.now, updatedAt := draws.now }
  return id

/-- The status log and the event of an order. -/
def addHistory (id : Uuid) (payload : Oms.OrderCreated) : OmsProg Unit := do
  Oms.insertLog draws.now id "" "pending" "Order created"
  Oms.appendOrderCreated id payload

/-- `create_order`, behind the look-up of the customer and up to its commit. -/
def addAll (data : OrderData) (customer : Oms.Customer) (lines : List Line) : ImportProg Uuid := do
  let total := totalOf lines
  let id ← (addOrder draws data customer total).mapError .service
  Prog.forEach lines (createLine id)
  (addHistory draws id ⟨id, draws.orderNo, total, data.customerId⟩).mapError .service
  return id

/-- `create_order`, up to its commit. -/
def writeOrder (data : OrderData) : ImportProg Uuid := do
  let customer ← (Oms.getOrCreateCustomer data.customerId).mapError .service
  let lines ← Prog.ofExcept ((readLines py data.items).mapError .python)
  addAll draws data customer lines

/-- `create_order`, from its commit on.  The loop drops the dictionary that it answers. -/
def publish (id : Uuid) : OmsProg Unit := do
  Prog.commitOr .commitFailed
  let order ← Oms.refreshOrder id
  let _ ← Oms.orderToDict order order.totalAmount

/-- `create_order`. -/
def createOrder (data : OrderData) : ImportProg Unit := do
  let id ← writeOrder py draws data
  (publish id).mapError .service

/-! ### The loop -/

/-- The session of the request: the committed rows, the rows that its transaction sees, and whether
the transaction is lost: a flush of it has failed, or the server has aborted it. -/
structure Session where
  committed : OmsDb
  working : OmsDb
  deactive : Bool

/-- A session that has written nothing. -/
def Session.start (db : OmsDb) : Session := ⟨db, db, false⟩

/-- `get_db`, when the request is over: it commits, or rolls back where it cannot. -/
def Session.close (s : Session) : OmsDb := if s.deactive then s.committed else s.working

/-- One row, in the `try` of the loop.  Nothing is rolled back behind an exception. -/
def importRow (row : CsvRow) (s : Session) : Except RowError Unit × Session :=
  match readOrder py row with
  | .error e => (.error (.python e), s)
  | .ok data =>
    if s.deactive then (.error .pendingRollback, s)
    else
      match (createOrder py draws data).exec ⟨s.committed, s.working, draws.ids⟩ with
      | (.ok _, t) => (.ok (), ⟨t.committed, t.working, false⟩)
      | (.error e, t) =>
        if e.aborts then (.error e, ⟨t.committed, t.committed, true⟩)
        else (.error e, ⟨t.committed, t.working, false⟩)

/-- A row in a session of its own. -/
def importAlone (row : CsvRow) (db : OmsDb) : Except RowError OmsDb :=
  match importRow py draws row (.start db) with
  | (.ok (), s) => .ok s.close
  | (.error e, _) => .error e

/-- **`handle_orders_import`**, with the end of its session: the answer and the committed rows.  The
rows are numbered from 2; an error of the reader is not caught, and `get_db` rolls back then. -/
def handleOrdersImport (draws : ℕ → Draws) (csvText : String) (db : OmsDb) :
    Except Csv.Dialect.Error (Batch.Report RowError) × OmsDb :=
  let (records, error?) := Csv.excel.read csvText.toList
  let (report, s) := Batch.loop (fun rowNum => importRow py (draws rowNum)) 2
    (Csv.dictRows records) (.start db)
  match error? with
  | some error => (.error error, s.committed)
  | none => (.ok report, s.close)

end Imports

end OmsWmsTms
