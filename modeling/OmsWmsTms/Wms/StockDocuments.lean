import OmsWmsTms.Core.Ids
import OmsWmsTms.Data.Decimal
import OmsWmsTms.Data.Dict
import OmsWmsTms.Data.Rows
import OmsWmsTms.Data.Text
import OmsWmsTms.Lts.Basic
import Mathlib.Logic.Function.Basic

/-!
# Stock documents

The `POST` and `PUT` requests of `src/routes/stock.py` on `StockIn` and `StockOut` documents, which
are the same but for a few values.  A `PUT` writes whatever columns its body names.

* `Value` : the values of a body, with what their readers make of them.
* `Column.store` : what a column takes.
* `createDocument` : `create_stock_in` and `create_stock_out`.
* `updateDocument` : `update_stock_in` and `update_stock_out`.
* `stockSystem` : the requests that the endpoints accept.
-/

namespace OmsWmsTms

namespace StockDocs

/-! ### Bodies -/

/-- A value of a JSON body; a reader that raises reads `none`. -/
inductive Value
  | null
  /-- A text, and what `uuid.UUID` and `Decimal` read in it. -/
  | text (s : String) (uuid? : Option Uuid) (decimal? : Option Decimal)
  /-- Another value: whether it is true, `Decimal(str(value))`, and `Decimal(value)`. -/
  | other (truthy : Bool) (str? decimal? : Option Decimal)

namespace Value

/-- `bool(value)`. -/
def truthy : Value → Bool
  | null => false
  | text s _ _ => s ≠ ""
  | other truthy _ _ => truthy

/-- `uuid.UUID(value)`. -/
def uuid? : Value → Option Uuid
  | text _ uuid? _ => uuid?
  | _ => none

/-- `Decimal(str(value))`. -/
def strDecimal? : Value → Option Decimal
  | null => none
  | text _ _ decimal? => decimal?
  | other _ str? _ => str?

/-- What a numeric column takes. -/
def quantity? : Value → Option (Quantity 18 4)
  | null => none
  | text _ _ decimal? => decimal?.bind Quantity.ofDecimal?
  | other _ _ decimal? => decimal?.bind Quantity.ofDecimal?

/-- What a column `VARCHAR(length)` takes. -/
def varchar? (length : ℕ) : Value → Option String
  | text s _ _ => Text.varchar? length s
  | _ => none

/-- What a nullable column takes. -/
def nullable {α : Type} (read : Value → Option α) : Value → Option (Option α)
  | null => some none
  | value => (read value).map some

/-- What a nullable time takes: no JSON value is a time. -/
def time? : Value → Option (Option ℤ) := nullable fun _ => none

/-- `value == text`, where the text can be `None`. -/
def eqText : Value → Option String → Bool
  | null, none => true
  | text s _ _, some t => s = t
  | _, _ => false

end Value

/-- A JSON object. -/
abbrev Body := Dict String Value

/-- `body.get(key)`. -/
def Body.value (body : Body) (key : String) : Value := (body.get? key).getD .null

/-! ### Documents -/

/-- `StockInLine` and `StockOutLine`. -/
structure Line where
  sku : Option String
  /-- `qty_received` or `qty_shipped`. -/
  qty : Quantity 18 4
  batchNo : Option String
  lotNo : Option String
  expiryDate : Option ℤ
deriving DecidableEq

/-- `StockIn` and `StockOut`, with their lines; only a `StockIn` has a supplier. -/
structure Document where
  id : Uuid
  warehouseId : Uuid
  type : String
  referenceType : Option String
  refNo : Option String
  supplierId : Option Uuid
  totalQty : Option (Quantity 18 4)
  status : Option String
  createdAt : Option ℤ
  lines : List Line
deriving DecidableEq

/-- The two documents. -/
inductive Kind
  | stockIn
  | stockOut
deriving DecidableEq

/-- The columns of a document. -/
inductive Column
  | id | warehouseId | type | referenceType | refNo | supplierId | totalQty | status | createdAt
deriving DecidableEq

/-- Their names. -/
def Column.name : Column → String
  | id => "id"
  | warehouseId => "warehouse_id"
  | type => "type"
  | referenceType => "reference_type"
  | refNo => "ref_no"
  | supplierId => "supplier_id"
  | totalQty => "total_qty"
  | status => "status"
  | createdAt => "created_at"

namespace Kind

/-- The columns, in the order of the table. -/
def columns : Kind → List Column
  | stockIn =>
    [.id, .warehouseId, .type, .referenceType, .refNo, .supplierId, .totalQty, .status, .createdAt]
  | stockOut => [.id, .warehouseId, .type, .referenceType, .refNo, .totalQty, .status, .createdAt]

/-- The column of a name. -/
def column? (kind : Kind) (name : String) : Option Column :=
  kind.columns.find? fun column => column.name = name

/-- The type of a new document. -/
def defaultType : Kind → String
  | stockIn => "PURCHASE"
  | stockOut => "SALE"

/-- The last status. -/
def final : Kind → String
  | stockIn => "RECEIVED"
  | stockOut => "SHIPPED"

/-- `valid_transitions.get(status, [])`. -/
def validTransitions (kind : Kind) (status : Option String) : List String :=
  if status = some "DRAFT" then ["CONFIRMED"]
  else if status = some "CONFIRMED" then [kind.final]
  else []

end Kind

/-- The rows that documents refer to. -/
structure Masters where
  warehouses : List Uuid
  vendors : List Uuid

variable (masters : Masters)

/-- A reference to a row. -/
def reference? (ids : List Uuid) (value : Value) : Option Uuid :=
  value.uuid?.bind fun id => if id ∈ ids then some id else none

/-- Write a column; it fails on a value that the column does not take. -/
def Column.store (doc : Document) : Column → Value → Option Document
  | id, value => value.uuid?.map fun id => { doc with id }
  | warehouseId, value =>
    (reference? masters.warehouses value).map fun warehouseId => { doc with warehouseId }
  | type, value => (value.varchar? 32).map fun type => { doc with type }
  | referenceType, value =>
    (value.nullable (Value.varchar? 64)).map fun referenceType => { doc with referenceType }
  | refNo, value => (value.nullable (Value.varchar? 100)).map fun refNo => { doc with refNo }
  | supplierId, value =>
    (value.nullable (reference? masters.vendors)).map fun supplierId => { doc with supplierId }
  | totalQty, value => (value.nullable Value.quantity?).map fun totalQty => { doc with totalQty }
  | status, value => (value.nullable (Value.varchar? 32)).map fun status => { doc with status }
  | createdAt, value => value.time?.map fun createdAt => { doc with createdAt }

/-! ### The requests -/

/-- A new line. -/
def newLine (line : Body) : Option Line := do
  let sku ← (line.value "sku").nullable (Value.varchar? 64)
  let qty ← (line.value "qty").strDecimal?
  let qty ← Quantity.ofDecimal? qty
  let batchNo ← (line.value "batch_no").nullable (Value.varchar? 64)
  let lotNo ← (line.value "lot_no").nullable (Value.varchar? 64)
  let expiryDate ← (line.value "expiry_date").time?
  return { sku, qty, batchNo, lotNo, expiryDate }

/-- The supplier of a new document. -/
def newSupplier (data : Body) : Kind → Option (Option Uuid)
  | .stockIn =>
    if (data.value "supplier_id").truthy then
      (reference? masters.vendors (data.value "supplier_id")).map some
    else some none
  | .stockOut => some none

/-- The type of a new document; the session leaves a `None` to the default of the column, which is
the same. -/
def newType (kind : Kind) (data : Body) : Option String :=
  match data.value "type" with
  | .null => some kind.defaultType
  | value => value.varchar? 32

/-- `create_stock_in` and `create_stock_out`. -/
def createDocument (kind : Kind) (docs : List Document) (id : Uuid) (now : ℤ) (data : Body)
    (lines : List Body) : Option (List Document) := do
  let warehouseId ← reference? masters.warehouses (data.value "warehouse_id")
  let supplierId ← newSupplier masters data kind
  -- the total is quantized as it is summed, each line only when it is stored
  let quantities ← lines.mapM fun line => (line.value "qty").strDecimal?
  let total ← (Decimal.sum quantities).quantize 4
  let totalQty ← Quantity.ofDecimal? total
  let type ← newType kind data
  let refNo ← (data.value "ref_no").nullable (Value.varchar? 100)
  let referenceType ← (data.value "reference_type").nullable (Value.varchar? 64)
  let lines ← lines.mapM newLine
  -- a key that is taken fails at the flush
  if id ∈ docs.map Document.id then none
  else
    some (docs ++ [{
      id, warehouseId, type, referenceType, refNo, supplierId, totalQty := some totalQty
      status := some "DRAFT", createdAt := some now, lines }])

/-- The `data` of a `PUT`. -/
inductive UpdateData
  | object (items : Body)
  /-- The values of the first columns of the table. -/
  | list (values : List Value)

/-- The columns that are written. -/
def UpdateData.assignments (kind : Kind) : UpdateData → Option (List (Column × Value))
  | object items => items.items.mapM fun item => (kind.column? item.1).map fun c => (c, item.2)
  | list values => some (kind.columns.zip values)

/-- The check of the status: in a list, `"status"` is an element, and no key. -/
def UpdateData.checksStatus (kind : Kind) (status : Option String) : UpdateData → Bool
  | object items =>
    match items.get? "status" with
    | none => true
    | some value =>
      value.eqText status || (kind.validTransitions status).any fun next => value.eqText (some next)
  | list values => ¬ values.any fun value => value.eqText (some "status")

/-- Write some columns. -/
def writeColumns (assignments : List (Column × Value)) (doc : Document) : Option Document :=
  assignments.foldlM (fun doc assignment => assignment.1.store masters doc assignment.2) doc

/-- `update_stock_in` and `update_stock_out`; the identifier of a document with lines is referred
to. -/
def updateDocument (kind : Kind) (docs : List Document) (id? : Option Uuid) (data : UpdateData) :
    Option (List Document) := do
  let id ← id?
  let doc ← docs.find? fun doc => doc.id = id
  let assignments ← data.assignments kind
  let doc' ← writeColumns masters assignments doc
  -- an `UPDATE` that sets nothing is no statement, and a key that lines refer to stays
  if data.checksStatus kind doc.status = false then none
  else if assignments = [] then none
  else if doc'.id ≠ doc.id ∧ (doc'.id ∈ docs.map Document.id ∨ doc.lines ≠ []) then none
  else some (updateRows Document.id id (fun _ => doc') docs)

/-! ### The runs -/

/-- The documents, in the order of their creation. -/
abbrev Documents := Kind → List Document

/-- No documents. -/
def noDocuments : Documents := fun _ => []

/-- A request. -/
inductive StockRequest
  /-- `POST`, with the identifier and the time that the document gets. -/
  | create (kind : Kind) (id : Uuid) (now : ℤ) (data : Body) (lines : List Body)
  /-- `PUT`, with what `uuid.UUID` reads in the path. -/
  | update (kind : Kind) (id? : Option Uuid) (data : UpdateData)

/-- A request that is accepted. -/
def Documents.next (s : Documents) : StockRequest → Option Documents
  | .create kind id now data lines =>
    (createDocument masters kind (s kind) id now data lines).map (Function.update s kind)
  | .update kind id? data =>
    (updateDocument masters kind (s kind) id? data).map (Function.update s kind)

/-- **The requests that the endpoints accept.** -/
def stockSystem : Lts Documents StockRequest := .ofNext (Documents.next masters)

end StockDocs

end OmsWmsTms
