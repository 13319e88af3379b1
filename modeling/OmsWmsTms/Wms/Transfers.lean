import OmsWmsTms.Data.OrderBy
import OmsWmsTms.Lts.Basic
import OmsWmsTms.Txn.Triple
import OmsWmsTms.Wms.StockWriters

/-!
# Transfer orders

`create_transfer_order` and `list_transfers` of `src/wms/service.py`.  The order keeps the warehouse
that it goes to; as the one that it comes from it keeps the same warehouse, or none when the request
has a source location.

* `createTransferOrder`, `listTransfers` : the services, on the columns that they set.
* `TransfersFound` : the orders of some accepted calls are listed for both of their warehouses.
* `Books` : what the database has after some accepted calls; `books_of_run`.
* `transfersFound_iff` : the orders are found exactly when no request names two warehouses.
-/

namespace OmsWmsTms

namespace Wms

namespace Transfers

open Txn (Prog Triple)

/-! ### Rows -/

/-- `TransferItemType`. -/
inductive TransferItemType
  | sku | location | warehouse
deriving DecidableEq

/-- `TransferStatus`. -/
inductive TransferStatus
  | draft | confirmed | inTransit | delivered | cancelled
deriving DecidableEq

/-- `TransferOrder`. -/
structure TransferOrder where
  /-- The primary key. -/
  id : Uuid
  /-- The unique code. -/
  code : String
  /-- The warehouse that the goods leave. -/
  sourceWarehouseId : Option Uuid
  /-- The warehouse that they enter. -/
  targetWarehouseId : Option Uuid
  /-- What is transferred. -/
  type : TransferItemType
  /-- The status. -/
  status : TransferStatus
  /-- When the row was made. -/
  createdAt : ℤ
deriving DecidableEq

/-- `TransferOrderLine`. -/
structure TransferOrderLine where
  /-- The primary key. -/
  id : Uuid
  /-- The order. -/
  transferOrderId : Uuid
  /-- The SKU. -/
  skuId : Uuid
  /-- The location that the goods leave. -/
  locationFromId : Option Uuid
  /-- The quantity. -/
  quantity : Numeric 20 4
deriving DecidableEq

/-- The keys of the rows; a SKU and a code of an order are found by their unique index. -/
inductive Key
  | warehouse (id : Uuid)
  | sku (code : String)
  | transferCode (code : String)
  | transferOrder (id : Uuid)
  | transferOrderLine (id : Uuid)
deriving DecidableEq

/-- The rows. -/
inductive Row
  | warehouse (row : Warehouse)
  | sku (row : Oms.Sku)
  | transferCode (id : Uuid)
  | transferOrder (row : TransferOrder)
  | transferOrderLine (row : TransferOrderLine)
deriving DecidableEq

namespace Row

/-- The warehouse in a row of `warehouses`. -/
def warehouse? : Row → Option Warehouse
  | warehouse row => some row
  | _ => none

/-- The SKU in a row of `skus`. -/
def sku? : Row → Option Oms.Sku
  | sku row => some row
  | _ => none

/-- The order in a row of `transfer_orders`. -/
def transferOrder? : Row → Option TransferOrder
  | transferOrder row => some row
  | _ => none

/-- The line in a row of `transfer_order_lines`. -/
def transferOrderLine? : Row → Option TransferOrderLine
  | transferOrderLine row => some row
  | _ => none

end Row

/-- The database. -/
abbrev Db := Dict Key Row

/-- The programs on it. -/
abbrev TransferProg := Prog Key Row ServiceError

/-! ### The services -/

/-- An entry of `items`. -/
structure TransferItem where
  /-- The SKU code. -/
  sku : String
  /-- The quantity. -/
  quantity : ℚ

/-- The payload of `create_transfer_order`. -/
structure TransferData where
  /-- The entry `source_location`. -/
  sourceLocation : Option IdArg := none
  /-- The entry `source_warehouse_id`. -/
  sourceWarehouseId : Option IdArg := none
  /-- The entry `source_warehouse_code`, which the service does not use. -/
  sourceWarehouseCode : Option String := none
  /-- The entry `destination_warehouse_id`. -/
  destinationWarehouseId : Option IdArg := none
  /-- The entry `target_warehouse_id`. -/
  targetWarehouseId : Option IdArg := none
  /-- The entry `items`. -/
  items : List TransferItem := []

/-- The clock of a call. -/
structure Clock where
  /-- The time. -/
  now : ℤ
  /-- `strftime('%Y%m%d')`. -/
  date : String

/-- An identifier, or the `ValueError` of `uuid.UUID`. -/
def toUuid (arg : IdArg) : TransferProg Uuid :=
  match arg.uuid? with
  | some id => return id
  | none => .throw .valueError

/-- `_to_uuid(data["source_location"]) if data.get("source_location") else None`. -/
def sourceLocation (data : TransferData) : TransferProg (Option Uuid) :=
  match nonEmpty data.sourceLocation with
  | none => return none
  | some arg => do
    let id ← toUuid arg
    return some id

/-- `target_wh_id_raw`. -/
def TransferData.targetRaw (data : TransferData) : Option IdArg :=
  (nonEmpty data.destinationWarehouseId).or
    ((nonEmpty data.targetWarehouseId).or (nonEmpty data.sourceWarehouseId))

/-- `target_wh_id`: a text of 36 characters is an identifier, another one is a code. -/
def targetWarehouse (raw : IdArg) : TransferProg Uuid :=
  if raw.text.length = 36 then toUuid raw
  else do
    let rows ← Prog.query fun _ row => row.warehouse?.any fun warehouse => warehouse.code = raw.text
    match rows.filterMap fun item => item.2.warehouse? with
    | [] => .throw (.notFound s!"Warehouse {raw.text} not found")
    | [warehouse] => return warehouse.id
    | _ :: _ :: _ => .throw .multipleResults

/-- The foreign key of a warehouse. -/
def checkWarehouse (id : Uuid) : TransferProg Unit := do
  let rows ← Prog.query fun _ row => row.warehouse?.any fun warehouse => warehouse.id = id
  if rows = [] then .throw .integrityError else return ()

/-- `_get_or_create_sku`. -/
def getOrCreateSku (skuStr : String) : TransferProg Oms.Sku := do
  let rows ← Prog.query (Txn.keyQuery (.sku skuStr))
  match rows.findSome? fun item => item.2.sku? with
  | some sku => return sku
  | none =>
    let id ← Prog.newId
    let code ← Prog.ofExcept (storeWhole 50 skuStr)
    let name ← Prog.ofExcept (storeText 200 skuStr)
    let sku : Oms.Sku := ⟨id, code, name⟩
    Prog.insertOr .integrityError (.sku skuStr) (.sku sku)
    return sku

/-- `f"TO-{date}-{uuid.uuid4().hex[:6].upper()}"`. -/
def transferCode (date : String) (id : Uuid) : String :=
  s!"TO-{date}-{String.ofList (((Uuid.text id).toList.take 6).map Char.toUpper)}"

/-- One round of the loop over `items`. -/
def addLine (transferId : Uuid) (srcWh : Option Uuid) (item : TransferItem) :
    TransferProg Unit := do
  let sku ← getOrCreateSku item.sku
  let id ← Prog.newId
  let quantity ← Prog.ofExcept (storeNumeric item.quantity)
  Prog.insertOr .integrityError (.transferOrderLine id) (.transferOrderLine {
    id, transferOrderId := transferId, skuId := sku.id, locationFromId := srcWh, quantity })

/-- `create_transfer_order`. -/
def createTransferOrder (clock : Clock) (data : TransferData) : TransferProg TransferOrder := do
  let srcWh ← sourceLocation data
  match data.targetRaw with
  | none =>
    .throw (.validation "destination_warehouse_id or target_warehouse_id required" none)
  | some raw =>
    let targetWhId ← targetWarehouse raw
    let codeId ← Prog.newId
    let code ← Prog.ofExcept (storeWhole 50 (transferCode clock.date codeId))
    let id ← Prog.newId
    checkWarehouse targetWhId
    let transfer : TransferOrder := {
      id, code, sourceWarehouseId := if srcWh = none then some targetWhId else none
      targetWarehouseId := some targetWhId, type := .sku, status := .draft
      createdAt := clock.now }
    Prog.insertOr .integrityError (.transferCode code) (.transferCode id)
    Prog.insertOr .integrityError (.transferOrder id) (.transferOrder transfer)
    Prog.forEach data.items (addLine id srcWh)
    Prog.commitOr .commitFailed
    return transfer

/-- An entry of the answer of `list_transfers`. -/
structure TransferDict where
  /-- The order. -/
  order : TransferOrder
  /-- Its lines. -/
  lines : List TransferOrderLine
deriving DecidableEq

/-- The warehouse of a listing, if it is restricted to one. -/
def listWarehouse (whId : Option IdArg) : TransferProg (Option Uuid) :=
  match nonEmpty whId with
  | none => return none
  | some arg => do
    let id ← toUuid arg
    return some id

/-- The orders that `list_transfers` reads. -/
def transferCond (whId : Option Uuid) (order : TransferOrder) : Bool :=
  whId.all fun id => order.sourceWarehouseId = some id ∨ order.targetWarehouseId = some id

/-- The lines of some orders. -/
def selectLines (orderIds : List Uuid) : TransferProg (List TransferOrderLine) :=
  if orderIds = [] then return []
  else do
    let rows ← Prog.query fun _ row => row.transferOrderLine?.any fun line =>
      decide (line.transferOrderId ∈ orderIds)
    return rows.filterMap fun item => item.2.transferOrderLine?

/-- `list_transfers`. -/
def listTransfers (whId : Option IdArg) : TransferProg (List TransferDict) := do
  let whId ← listWarehouse whId
  let rows ← Prog.query fun _ row => row.transferOrder?.any (transferCond whId)
  let orders := orderByDesc TransferOrder.createdAt (rows.filterMap fun item =>
    item.2.transferOrder?)
  let lines ← selectLines (orders.map TransferOrder.id)
  return orders.map fun order =>
    ⟨order, lines.filter fun line => line.transferOrderId = order.id⟩

/-! ### Found from both ends -/

/-- The warehouses. -/
def warehouses (d : Db) : List Warehouse := Txn.rows Row.warehouse? d

/-- The orders. -/
def transferOrders (d : Db) : List TransferOrder := Txn.rows Row.transferOrder? d

/-- The lines of the orders. -/
def transferOrderLines (d : Db) : List TransferOrderLine := Txn.rows Row.transferOrderLine? d

/-- The SKU with a code. -/
def skuIdAt (d : Db) (code : String) : Option Uuid :=
  ((d.get? (.sku code)).bind Row.sku?).map Oms.Sku.id

/-- The warehouse that a request comes from, by its identifier or by its code. -/
def TransferData.source? (data : TransferData) : Option IdArg :=
  (nonEmpty data.sourceWarehouseId).or
    ((data.sourceWarehouseCode.filter (· ≠ "")).map fun code => ⟨code, none⟩)

/-- The warehouse that it goes to. -/
def TransferData.destination? (data : TransferData) : Option IdArg :=
  (nonEmpty data.destinationWarehouseId).or (nonEmpty data.targetWarehouseId)

/-- The text is the identifier of the warehouse, or its code. -/
def Denotes (arg : IdArg) (warehouse : Warehouse) : Prop :=
  arg.uuid? = some warehouse.id ∨ arg.text = warehouse.code

instance (arg : IdArg) (warehouse : Warehouse) : Decidable (Denotes arg warehouse) :=
  inferInstanceAs (Decidable (_ ∨ _))

/-- The request names the warehouse as its source or as its target. -/
def TransferData.Names (data : TransferData) (warehouse : Warehouse) : Prop :=
  (∃ arg ∈ data.source?, Denotes arg warehouse) ∨ ∃ arg ∈ data.destination?, Denotes arg warehouse

instance (data : TransferData) (warehouse : Warehouse) : Decidable (data.Names warehouse) :=
  inferInstanceAs (Decidable (_ ∨ _))

/-- A call that is accepted. -/
structure AcceptedCall where
  /-- The request. -/
  data : TransferData
  /-- The order in the answer. -/
  order : TransferOrder

/-- The system of the accepted calls. -/
def transferSystem : Lts Db AcceptedCall where
  step d call d' := ∃ clock ids,
    (createTransferOrder clock call.data).run ids d = (.ok call.order, d')

/-- The SKU and the quantity of a line. -/
def TransferOrderLine.content (line : TransferOrderLine) : Option Uuid × ℚ :=
  (some line.skuId, line.quantity)

/-- Those that an item of a request asks for. -/
def TransferItem.content (d : Db) (item : TransferItem) : Option Uuid × ℚ :=
  (skuIdAt d item.sku, item.quantity)

/-- The listing has exactly the orders whose request named the warehouse, each with its lines. -/
structure ListsExactly (d : Db) (calls : List AcceptedCall) (warehouse : Warehouse)
    (listed : List TransferDict) : Prop where
  orders : (listed.map TransferDict.order).Perm
    ((calls.filter fun call => call.data.Names warehouse).map AcceptedCall.order)
  lines : ∀ dict ∈ listed, ∀ call ∈ calls, call.order = dict.order →
    (dict.lines.map TransferOrderLine.content).Perm
      (call.data.items.map (TransferItem.content d))

/-- **The orders of some accepted calls are found** from both of their ends, and no request without
a destination was accepted. -/
structure TransfersFound (d : Db) (calls : List AcceptedCall) : Prop where
  destination : ∀ call ∈ calls, call.data.destination? ≠ none
  found : ∀ warehouse ∈ warehouses d, ∀ arg : IdArg, arg.text ≠ "" →
    arg.uuid? = some warehouse.id → ∀ ids, ∃ listed,
      (listTransfers (some arg)).run ids d = (.ok listed, d) ∧
        ListsExactly d calls warehouse listed

/-- Warehouses with distinct primary keys, and no transfer order. -/
structure Start (d : Db) : Prop where
  keyed : ∀ warehouse ∈ warehouses d, ∀ other ∈ warehouses d, warehouse.id = other.id →
    warehouse = other
  orders : transferOrders d = []
  lines : transferOrderLines d = []

/-- **The request has one end**: it names a destination and no other warehouse, and its quantities
have at most four decimals. -/
structure TransferData.OneEnd (d : Db) (data : TransferData) : Prop where
  destination : data.destination? ≠ none
  names : ∀ warehouse ∈ warehouses d, data.Names warehouse →
    ∀ other ∈ warehouses d, data.Names other → warehouse = other
  quantities : ∀ item ∈ data.items, OnGrid 4 item.quantity

/-! ### Listings -/

/-- What `list_transfers` finds for a warehouse. -/
def listing (d : Db) (whId : Uuid) : List TransferDict :=
  (orderByDesc TransferOrder.createdAt ((transferOrders d).filter (transferCond (some whId)))).map
    fun order => ⟨order, (transferOrderLines d).filter fun line =>
      line.transferOrderId = order.id⟩

section Listing

variable {d : Db} {whId : Uuid} {arg : IdArg}

theorem exec_selectLines {orderIds : List Uuid} (s : Txn.Session Key Row) :
    (selectLines orderIds).exec s = (.ok ((transferOrderLines s.working).filter fun line =>
      decide (line.transferOrderId ∈ orderIds)), s) := by
  unfold selectLines
  split_ifs with hempty
  · subst hempty
    simp
  · refine (Prog.exec_bind_of_ok (Prog.exec_query _ _)).trans ?_
    rw [Txn.filterMap_select]
    rfl

/-- **What `list_transfers` answers.** -/
theorem run_listTransfers (htext : arg.text ≠ "") (hid : arg.uuid? = some whId) (ids : ℕ → ℕ) :
    (listTransfers (some arg)).run ids d = (.ok (listing d whId), d) := by
  have hwarehouse : listWarehouse (some arg) = .ret (some whId) := by
    rw [listWarehouse, nonEmpty, Option.filter_some, if_pos (by simpa using htext)]
    simp only [toUuid, hid]
    rfl
  have hexec : (listTransfers (some arg)).exec ⟨d, d, ids⟩ =
      (.ok (listing d whId), ⟨d, d, ids⟩) := by
    rw [listTransfers, hwarehouse]
    refine (Prog.exec_bind_of_ok (Prog.exec_query _ _)).trans ?_
    simp only [Txn.filterMap_select]
    refine (Prog.exec_bind_of_ok (exec_selectLines _)).trans ?_
    refine congrArg (fun answer => (Except.ok answer, _))
      (List.map_congr_left fun order horder => ?_)
    -- the lines of an order that is listed are among those that were read
    rw [List.filter_filter]
    refine congrArg _ (List.filter_congr fun line _ => ?_)
    by_cases h : line.transferOrderId = order.id
    · simp only [h, decide_true, Bool.true_and, decide_eq_true_eq]
      exact List.mem_map_of_mem horder
    · simp [h]
  rw [Prog.run, hexec]

end Listing

/-! ### What a call writes -/

/-- The line is the one of an item. -/
structure LineFor (d : Db) (orderId : Uuid) (line : TransferOrderLine) (item : TransferItem) :
    Prop where
  order : line.transferOrderId = orderId
  sku : skuIdAt d item.sku = some line.skuId
  quantity : Numeric.ofRat? item.quantity = some line.quantity

/-- What the loop over the items keeps: the rows `w` are those of `d` with the order, new SKUs, and
the lines of the items that are not left. -/
structure Adding (d : Db) (order : TransferOrder) (items left : List TransferItem) (w : Db) :
    Prop where
  sameWarehouses : warehouses w = warehouses d
  orders : transferOrders w = transferOrders d ++ [order]
  fresh : d.get? (.transferOrder order.id) = none
  taken : w.get? (.transferOrder order.id) ≠ none
  kept : ∀ key, d.get? key ≠ none → w.get? key ≠ none
  skus : ∀ code id, skuIdAt d code = some id → skuIdAt w code = some id
  lines : ∃ done lines, items = done ++ left ∧
    transferOrderLines w = transferOrderLines d ++ lines ∧
    List.Forall₂ (LineFor w order.id) lines done

section Adding

variable {d w : Db} {order : TransferOrder} {items left : List TransferItem} {item : TransferItem}
  {key : Key} {row : Row}

theorem get?_set_ne_none {k : Key} (h : w.get? k ≠ none) : (w.set key row).get? k ≠ none := by
  rw [Dict.get?_set]
  split_ifs
  · exact Option.some_ne_none _
  · exact h

/-- A new row other than a SKU leaves the SKUs alone. -/
theorem skuIdAt_set (hkey : ∀ code, key ≠ .sku code) (code : String) :
    skuIdAt (w.set key row) code = skuIdAt w code := by
  rw [skuIdAt, Dict.get?_set, if_neg (hkey code), skuIdAt]

theorem LineFor.mono {line : TransferOrderLine} {id : Uuid} (h : LineFor d id line item)
    (hskus : ∀ code id, skuIdAt d code = some id → skuIdAt w code = some id) :
    LineFor w id line item :=
  ⟨h.order, hskus _ _ h.sku, h.quantity⟩

/-- A new SKU. -/
theorem Adding.insertSku {sku : Oms.Sku} {code : String} (h : Adding d order items left w)
    (hfree : w.get? (.sku code) = none) :
    Adding d order items left (w.set (.sku code) (.sku sku)) := by
  have hskus (code' : String) (id : Uuid) (hid : skuIdAt w code' = some id) :
      skuIdAt (w.set (.sku code) (.sku sku)) code' = some id := by
    rw [skuIdAt, Dict.get?_set, if_neg]
    · exact hid
    · intro heq
      cases heq
      rw [skuIdAt, hfree] at hid
      cases hid
  obtain ⟨done, lines, hitems, hrows, hlines⟩ := h.lines
  refine ⟨?_, ?_, h.fresh, get?_set_ne_none h.taken, fun key hkey =>
    get?_set_ne_none (h.kept key hkey), fun code id hid => hskus code id (h.skus code id hid),
    done, lines, hitems, ?_, hlines.imp fun line item hline => hline.mono hskus⟩
  · exact (Txn.rows_set_of_none hfree).trans ((List.append_nil _).trans h.sameWarehouses)
  · exact (Txn.rows_set_of_none hfree).trans ((List.append_nil _).trans h.orders)
  · exact (Txn.rows_set_of_none hfree).trans ((List.append_nil _).trans hrows)

/-- The line of an item. -/
theorem Adding.insertLine {line : TransferOrderLine} (h : Adding d order items (item :: left) w)
    (hfree : w.get? (.transferOrderLine line.id) = none) (hline : LineFor w order.id line item) :
    Adding d order items left (w.set (.transferOrderLine line.id) (.transferOrderLine line)) := by
  have hskus (code : String) : skuIdAt (w.set (.transferOrderLine line.id)
      (.transferOrderLine line)) code = skuIdAt w code :=
    skuIdAt_set (fun _ heq => by cases heq) code
  have hmono (code : String) (id : Uuid) (hid : skuIdAt w code = some id) :
      skuIdAt (w.set (.transferOrderLine line.id) (.transferOrderLine line)) code = some id :=
    (hskus code).trans hid
  obtain ⟨done, lines, hitems, hrows, hlines⟩ := h.lines
  refine ⟨?_, ?_, h.fresh, get?_set_ne_none h.taken, fun key hkey =>
    get?_set_ne_none (h.kept key hkey), fun code id hid => hmono code id (h.skus code id hid),
    done ++ [item], lines ++ [line], ?_, ?_, ?_⟩
  · exact (Txn.rows_set_of_none hfree).trans ((List.append_nil _).trans h.sameWarehouses)
  · exact (Txn.rows_set_of_none hfree).trans ((List.append_nil _).trans h.orders)
  · rw [hitems, List.append_assoc, List.singleton_append]
  · refine (Txn.rows_set_of_none hfree).trans ?_
    rw [← List.append_assoc, ← hrows]
    rfl
  · exact List.rel_append (hlines.imp fun line item h => h.mono hmono)
      (.cons (hline.mono hmono) .nil)

/-- **One round of the loop.** -/
theorem triple_addLine (srcWh : Option Uuid) :
    Triple (fun _ => True) (fun s => Adding d order items (item :: left) s.working)
      (addLine order.id srcWh item) fun _ s => Adding d order items left s.working := by
  have hsku : Triple (fun _ => True) (fun s => Adding d order items (item :: left) s.working)
      (getOrCreateSku item.sku) fun sku s => skuIdAt s.working item.sku = some sku.id ∧
        Adding d order items (item :: left) s.working := by
    refine Triple.bind (Q := fun rows s =>
      (rows.findSome? fun item => item.2.sku?).map Oms.Sku.id = skuIdAt s.working item.sku ∧
        Adding d order items (item :: left) s.working) (.query fun s hs => ⟨?_, hs⟩) fun rows => ?_
    · rw [Txn.findSome?_select_keyQuery]
      rfl
    · cases hfound : rows.findSome? fun item => item.2.sku? with
      | some sku => exact .ret fun s hs => ⟨hs.1.symm, hs.2⟩
      | none =>
        refine Triple.bind (Q := fun _ s => skuIdAt s.working item.sku = none ∧
          Adding d order items (item :: left) s.working) (.newId fun s hs => ⟨hs.1.symm, hs.2⟩)
          fun id => ?_
        refine (Triple.ofExcept fun code _ s hs => hs).bind fun code => ?_
        refine (Triple.ofExcept fun name _ s hs => hs).bind fun name => ?_
        refine (Triple.insertOr fun s hs hfree => ?_).bind fun _ => .ret fun s hs => hs
        refine ⟨?_, hs.2.insertSku hfree⟩
        rw [skuIdAt, Dict.get?_set, if_pos rfl]
        rfl
  refine hsku.bind fun sku => ?_
  refine Triple.bind (Q := fun _ s => skuIdAt s.working item.sku = some sku.id ∧
    Adding d order items (item :: left) s.working) (.newId fun s hs => hs) fun id => ?_
  refine (Triple.ofExcept fun quantity hquantity s hs =>
    And.intro (storeNumeric_eq_ok_iff.1 hquantity) hs).bind fun quantity => ?_
  refine Triple.assume fun hquantity => .insertOr fun s hs hfree => ?_
  have hline : LineFor s.working order.id ⟨id, order.id, sku.id, srcWh, quantity⟩ item :=
    ⟨rfl, hs.1, hquantity⟩
  exact hs.2.insertLine hfree hline

end Adding

/-- **What an accepted call writes.** -/
structure Creates (d : Db) (data : TransferData) (order : TransferOrder) (d' : Db) : Prop where
  adding : Adding d order data.items [] d'
  target : ∃ raw, data.targetRaw = some raw ∧ ∃ warehouse ∈ warehouses d, Denotes raw warehouse ∧
    order.targetWarehouseId = some warehouse.id ∧
    (order.sourceWarehouseId = none ∨ order.sourceWarehouseId = some warehouse.id)

section Creates

variable {d d' : Db} {data : TransferData} {raw : IdArg} {id : Uuid}

theorem triple_toUuid {P : Txn.Session Key Row → Prop} (arg : IdArg) :
    Triple (fun _ => True) P (toUuid arg) fun id s => arg.uuid? = some id ∧ P s := by
  unfold toUuid
  cases hid : arg.uuid? with
  | none => exact .throw
  | some id => exact .ret fun s hs => ⟨rfl, hs⟩

theorem triple_sourceLocation : Triple (fun _ => True) (fun s => s.working = d)
    (sourceLocation data) fun _ s => s.working = d := by
  unfold sourceLocation
  cases nonEmpty data.sourceLocation with
  | none => exact .ret fun s hs => hs
  | some arg => exact (triple_toUuid arg).bind fun id => .ret fun s hs => hs.2

theorem triple_targetWarehouse : Triple (fun _ => True) (fun s => s.working = d)
    (targetWarehouse raw) fun id s => (raw.uuid? = some id ∨
      ∃ warehouse ∈ warehouses d, warehouse.id = id ∧ raw.text = warehouse.code) ∧
      s.working = d := by
  unfold targetWarehouse
  split_ifs with hlength
  · exact (triple_toUuid raw).conseq (fun _ hs => hs) fun id s hs => ⟨.inl hs.1, hs.2⟩
  · refine Triple.bind (Q := fun rows s => (rows.filterMap fun item => item.2.warehouse?) =
      (warehouses d).filter (fun warehouse => warehouse.code = raw.text) ∧ s.working = d)
      (.query fun s hs => ⟨?_, hs⟩) fun rows => Triple.assume fun hrows => ?_
    · rw [hs, Txn.filterMap_select]
      rfl
    · split
      · exact .throw
      · next warehouse hone =>
        have hmem : warehouse ∈ (warehouses d).filter fun warehouse =>
            warehouse.code = raw.text := by
          rw [← hrows, hone]
          exact List.mem_singleton_self warehouse
        obtain ⟨hwarehouse, hcode⟩ := List.mem_filter.1 hmem
        have heq : raw.text = warehouse.code := (of_decide_eq_true hcode).symm
        exact .ret fun s hs => ⟨.inr ⟨warehouse, hwarehouse, rfl, heq⟩, hs⟩
      · exact .throw

/-- The foreign key of the order: the warehouse that it goes to is there, and the request denotes
it. -/
theorem triple_checkWarehouse (h : raw.uuid? = some id ∨
    ∃ warehouse ∈ warehouses d, warehouse.id = id ∧ raw.text = warehouse.code) :
    Triple (fun _ => True) (fun s => s.working = d) (checkWarehouse id) fun _ s =>
      (∃ warehouse ∈ warehouses d, warehouse.id = id ∧ Denotes raw warehouse) ∧
        s.working = d := by
  refine Triple.bind (Q := fun rows s => (rows ≠ [] → ∃ warehouse ∈ warehouses d,
    warehouse.id = id) ∧ s.working = d) (.query fun s hs => ⟨fun hne => ?_, hs⟩)
    fun rows => Triple.assume fun hrows => ?_
  · obtain ⟨⟨key, row⟩, hitem⟩ := List.exists_mem_of_ne_nil _ hne
    obtain ⟨hget, hany⟩ := Txn.mem_select.1 hitem
    obtain ⟨warehouse, hrow, hid⟩ := (Option.any_eq_true _ _).1 hany
    rw [hs] at hget
    exact ⟨warehouse, Txn.mem_rows.2 ⟨key, row, hget, hrow⟩, of_decide_eq_true hid⟩
  · split_ifs with hempty
    · exact .throw
    · obtain ⟨warehouse, hwarehouse, hid⟩ := hrows hempty
      refine .ret fun s hs => ⟨?_, hs⟩
      rcases h with h | ⟨coded, hcoded, hcid, hcode⟩
      · exact ⟨warehouse, hwarehouse, hid, .inl (by rw [h, hid])⟩
      · exact ⟨coded, hcoded, hcid, .inr hcode⟩

/-- The order is in. -/
theorem adding_insert {code : String} {order : TransferOrder} {items : List TransferItem} {w : Db}
    (hw : w = d.set (.transferCode code) (.transferCode order.id))
    (hcode : d.get? (.transferCode code) = none) (hfree : w.get? (.transferOrder order.id) = none) :
    Adding d order items items (w.set (.transferOrder order.id) (.transferOrder order)) := by
  have hskus (code' : String) :
      skuIdAt (w.set (.transferOrder order.id) (.transferOrder order)) code' = skuIdAt d code' := by
    rw [skuIdAt_set (fun _ heq => by cases heq), hw, skuIdAt_set fun _ heq => by cases heq]
  have hrows {α : Type} (f : Row → Option α) (hf : f (.transferCode order.id) = none) :
      Txn.rows f (w.set (.transferOrder order.id) (.transferOrder order)) =
        Txn.rows f d ++ (f (.transferOrder order)).toList := by
    rw [Txn.rows_set_of_none hfree, hw, Txn.rows_set_of_none hcode, hf, Option.toList_none,
      List.append_nil]
  refine ⟨?_, hrows Row.transferOrder? rfl, ?_, ?_, fun key hkey => ?_, fun code id hid => ?_,
    [], [], rfl, ?_, .nil⟩
  · exact (hrows Row.warehouse? rfl).trans (List.append_nil _)
  · rw [hw, Dict.get?_set, if_neg fun heq => by cases heq] at hfree
    exact hfree
  · rw [Dict.get?_set, if_pos rfl]
    exact Option.some_ne_none _
  · rw [hw]
    exact get?_set_ne_none (get?_set_ne_none hkey)
  · exact (hskus code).trans hid
  · exact hrows Row.transferOrderLine? rfl

/-- **What an accepted call writes.** -/
theorem triple_createTransferOrder (clock : Clock) :
    Triple (fun _ => True) (fun s => s.working = d) (createTransferOrder clock data)
      fun order s => s.committed = s.working ∧ Creates d data order s.working := by
  unfold createTransferOrder
  refine triple_sourceLocation.bind fun srcWh => ?_
  cases hraw : data.targetRaw with
  | none => exact .throw
  | some raw =>
    refine triple_targetWarehouse.bind fun targetWhId => Triple.assume fun htarget => ?_
    refine Triple.bind (Q := fun _ s => s.working = d) (.newId fun s hs => hs) fun codeId => ?_
    refine (Triple.ofExcept fun code _ s hs => hs).bind fun code => ?_
    refine Triple.bind (Q := fun _ s => s.working = d) (.newId fun s hs => hs) fun id => ?_
    refine (triple_checkWarehouse htarget).bind fun _ => Triple.assume fun hchecked => ?_
    set transfer : TransferOrder := {
      id, code, sourceWarehouseId := if srcWh = none then some targetWhId else none
      targetWarehouseId := some targetWhId, type := .sku, status := .draft
      createdAt := clock.now }
    refine Triple.bind (Q := fun _ s => d.get? (.transferCode code) = none ∧
      s.working = d.set (.transferCode code) (.transferCode id))
      (.insertOr fun s hs hfree => ⟨hs ▸ hfree, by rw [hs]⟩) fun _ =>
        Triple.assume fun hcode => ?_
    refine Triple.bind (Q := fun _ s => Adding d transfer data.items data.items s.working)
      (.insertOr fun s hs hfree => adding_insert hs hcode hfree) fun _ => ?_
    have hloop := Triple.forEach (I := fun _ => True)
      (J := fun left s => Adding d transfer data.items left s.working)
      (fun item left => triple_addLine srcWh) data.items
    refine hloop.bind fun _ => ?_
    refine (Triple.commitOr (Q := fun _ s => s.committed = s.working ∧
      Adding d transfer data.items [] s.working) fun s hs => ⟨trivial, rfl, hs⟩).bind fun _ =>
        .ret fun s hs => ⟨hs.1, hs.2, raw, hraw, ?_⟩
    obtain ⟨warehouse, hwarehouse, hid, hdenotes⟩ := hchecked
    refine ⟨warehouse, hwarehouse, hdenotes, congrArg some hid.symm, ?_⟩
    by_cases hsource : srcWh = none
    · exact .inr ((if_pos hsource).trans (congrArg some hid.symm))
    · exact .inl (if_neg hsource)

end Creates

/-! ### What the database has after some calls -/

/-- **The books** after some accepted calls: the orders are theirs, under distinct identifiers, and
the lines of each of them are those of its items. -/
structure Books (d₀ d : Db) (calls : List AcceptedCall) : Prop where
  sameWarehouses : warehouses d = warehouses d₀
  orders : transferOrders d = calls.map AcceptedCall.order
  taken : ∀ call ∈ calls, d.get? (.transferOrder call.order.id) ≠ none
  distinct : (calls.map fun call => call.order.id).Nodup
  target : ∀ call ∈ calls, ∃ raw, call.data.targetRaw = some raw ∧ ∃ warehouse ∈ warehouses d₀,
    Denotes raw warehouse ∧ call.order.targetWarehouseId = some warehouse.id ∧
    (call.order.sourceWarehouseId = none ∨ call.order.sourceWarehouseId = some warehouse.id)
  lines : ∀ call ∈ calls, List.Forall₂ (LineFor d call.order.id)
    ((transferOrderLines d).filter fun line => line.transferOrderId = call.order.id)
    call.data.items
  owned : ∀ line ∈ transferOrderLines d, ∃ call ∈ calls, line.transferOrderId = call.order.id

section Books

variable {d₀ d d' : Db} {calls done : List AcceptedCall} {call : AcceptedCall}

theorem books_start (h : Start d) : Books d d [] where
  sameWarehouses := rfl
  orders := h.orders
  taken _ hcall := absurd hcall List.not_mem_nil
  distinct := List.nodup_nil
  target _ hcall := absurd hcall List.not_mem_nil
  lines _ hcall := absurd hcall List.not_mem_nil
  owned line hline := by
    rw [h.lines] at hline
    cases hline

/-- **One call.** -/
theorem Books.step (h : Books d₀ d calls) (hstep : transferSystem.step d call d') :
    Books d₀ d' (calls ++ [call]) := by
  obtain ⟨clock, ids, hrun⟩ := hstep
  obtain ⟨s, hcommitted, hworking, hcreates⟩ :=
    (triple_createTransferOrder clock).run_ok trivial rfl hrun
  rw [← hworking, hcommitted] at hcreates
  obtain ⟨hadding, htarget⟩ := hcreates
  obtain ⟨done, lines, hitems, hrows, hlines⟩ := hadding.lines
  rw [List.append_nil] at hitems
  subst hitems
  have hnew : ∀ line ∈ lines, line.transferOrderId = call.order.id := by
    have hboth := hlines.imp fun line item (hfor : LineFor d' call.order.id line item) =>
      show line.transferOrderId = call.order.id ∧ LineFor d' call.order.id line item from
        ⟨hfor.order, hfor⟩
    exact ((List.forall₂_and_left _ _).1 hboth).1
  -- the identifier of the order is new
  have hother : ∀ old ∈ calls, old.order.id ≠ call.order.id := by
    intro old hold heq
    exact h.taken old hold (heq ▸ hadding.fresh)
  have hforall {P : AcceptedCall → Prop} (hold : ∀ old ∈ calls, P old) (hcall : P call) :
      ∀ old ∈ calls ++ [call], P old := by
    intro old hmem
    rcases List.mem_append.1 hmem with hmem | hmem
    · exact hold old hmem
    · rw [List.mem_singleton.1 hmem]
      exact hcall
  refine ⟨hadding.sameWarehouses.trans h.sameWarehouses, ?_, ?_, ?_, ?_, ?_, ?_⟩
  · rw [hadding.orders, h.orders, List.map_append]
    rfl
  · exact hforall (fun old hold => hadding.kept _ (h.taken old hold)) hadding.taken
  · rw [List.map_append, List.nodup_append]
    refine ⟨h.distinct, List.nodup_singleton _, fun id hid id' hid' => ?_⟩
    obtain ⟨old, hold, rfl⟩ := List.mem_map.1 hid
    rw [List.map_singleton, List.mem_singleton] at hid'
    rw [hid']
    exact hother old hold
  · rw [h.sameWarehouses] at htarget
    exact hforall h.target htarget
  · rw [hrows]
    refine hforall (fun old hold => ?_) ?_
    · have hnone : (lines.filter fun line => line.transferOrderId = old.order.id) = [] := by
        refine List.filter_eq_nil_iff.2 fun line hline => ?_
        rw [hnew line hline]
        simpa using (hother old hold).symm
      rw [List.filter_append, hnone, List.append_nil]
      exact (h.lines old hold).imp fun line item hfor => hfor.mono hadding.skus
    · have hnone : ((transferOrderLines d).filter fun line =>
          line.transferOrderId = call.order.id) = [] := by
        refine List.filter_eq_nil_iff.2 fun line hline => ?_
        obtain ⟨old, hold, heq⟩ := h.owned line hline
        rw [heq]
        simpa using hother old hold
      have hall : (lines.filter fun line => line.transferOrderId = call.order.id) = lines :=
        List.filter_eq_self.2 fun line hline => by simpa using hnew line hline
      rw [List.filter_append, hall]
      exact hnone ▸ hlines
  · rw [hrows]
    intro line hline
    rcases List.mem_append.1 hline with hline | hline
    · obtain ⟨old, hold, heq⟩ := h.owned line hline
      exact ⟨old, List.mem_append_left _ hold, heq⟩
    · exact ⟨call, List.mem_append_right _ (List.mem_singleton_self call), hnew line hline⟩

/-- **A run.** -/
theorem Books.run (h : Books d₀ d done) (hrun : transferSystem.Run d calls d') :
    Books d₀ d' (done ++ calls) := by
  induction hrun generalizing done with
  | nil => rwa [List.append_nil]
  | cons hstep _ ih => simpa using ih (h.step hstep)

theorem books_of_run (h₀ : Start d₀) (hrun : transferSystem.Run d₀ calls d) :
    Books d₀ d calls := (books_start h₀).run hrun

end Books

/-! ### When the orders are found -/

section Found

variable {d₀ d : Db} {calls : List AcceptedCall} {call : AcceptedCall} {warehouse : Warehouse}

/-- The destination comes before the source. -/
theorem targetRaw_of_destination {data : TransferData} {arg : IdArg}
    (h : data.destination? = some arg) : data.targetRaw = some arg := by
  rw [TransferData.targetRaw, ← Option.or_assoc, ← TransferData.destination?, h]
  rfl

/-- An order with a destination goes to a warehouse that its request names. -/
theorem Books.exists_named (h : Books d₀ d calls) (hcall : call ∈ calls)
    (hdestination : call.data.destination? ≠ none) :
    ∃ warehouse ∈ warehouses d₀, call.data.Names warehouse ∧
      call.order.targetWarehouseId = some warehouse.id ∧
      (call.order.sourceWarehouseId = none ∨ call.order.sourceWarehouseId = some warehouse.id) := by
  obtain ⟨raw, hraw, warehouse, hwarehouse, hdenotes, hends⟩ := h.target call hcall
  obtain ⟨arg, harg⟩ := Option.ne_none_iff_exists'.1 hdestination
  obtain rfl : arg = raw := Option.some_inj.1 ((targetRaw_of_destination harg).symm.trans hraw)
  exact ⟨warehouse, hwarehouse, .inr ⟨arg, harg, hdenotes⟩, hends⟩

/-- An order is listed for the warehouse that it goes to, and for no other one. -/
theorem transferCond_iff {order : TransferOrder} {id : Uuid}
    (htarget : order.targetWarehouseId = some id)
    (hsource : order.sourceWarehouseId = none ∨ order.sourceWarehouseId = some id) (whId : Uuid) :
    transferCond (some whId) order = true ↔ whId = id := by
  rw [transferCond, Option.all_some, decide_eq_true_iff, htarget, Option.some_inj]
  rcases hsource with hsource | hsource
  · rw [hsource, or_iff_right (Option.some_ne_none whId).symm, eq_comm]
  · rw [hsource, Option.some_inj, or_self, eq_comm]

theorem map_order_listing (d : Db) (whId : Uuid) :
    (listing d whId).map TransferDict.order = orderByDesc TransferOrder.createdAt
      ((transferOrders d).filter (transferCond (some whId))) := by
  rw [listing, List.map_map]
  exact List.map_id _

/-- The orders that are listed for a warehouse. -/
theorem mem_listing_iff (h : Books d₀ d calls) {order : TransferOrder} {whId : Uuid} :
    order ∈ (listing d whId).map TransferDict.order ↔
      (∃ call ∈ calls, call.order = order) ∧ transferCond (some whId) order = true := by
  rw [map_order_listing, mem_orderByDesc, List.mem_filter, h.orders, List.mem_map]

/-- Quantities of four decimals are kept. -/
theorem map_content_eq {orderId : Uuid} {lines : List TransferOrderLine} {items : List TransferItem}
    (h : List.Forall₂ (LineFor d orderId) lines items)
    (hgrid : ∀ item ∈ items, OnGrid 4 item.quantity) :
    lines.map TransferOrderLine.content = items.map (TransferItem.content d) := by
  induction h with
  | nil => rfl
  | @cons line item lines items hfor _ ih =>
    obtain ⟨hitem, hitems⟩ := List.forall_mem_cons.1 hgrid
    rw [List.map_cons, List.map_cons, ih hitems, TransferOrderLine.content, TransferItem.content,
      hfor.sku, Numeric.toRat_of_ofRat? hitem hfor.quantity]

/-- **Orders that are found come from requests with one end.** -/
theorem oneEnd_of_transfersFound (h₀ : Start d₀) (h : Books d₀ d calls)
    (hfound : TransfersFound d calls) (hcall : call ∈ calls) : call.data.OneEnd d₀ := by
  have hdestination := hfound.destination call hcall
  obtain ⟨target, htarget, hnamed, hto, hfrom⟩ := h.exists_named hcall hdestination
  have hlists (warehouse : Warehouse) (hwarehouse : warehouse ∈ warehouses d₀) :
      ListsExactly d calls warehouse (listing d warehouse.id) := by
    rw [← h.sameWarehouses] at hwarehouse
    have htext : ("id" : String) ≠ "" := by decide
    obtain ⟨listed, hrun, hlisted⟩ :=
      hfound.found warehouse hwarehouse ⟨"id", some warehouse.id⟩ htext rfl id
    rw [run_listTransfers htext rfl] at hrun
    cases hrun
    exact hlisted
  -- a warehouse that the request names has the order in its listing
  have hone : ∀ warehouse ∈ warehouses d₀, call.data.Names warehouse → warehouse = target := by
    intro warehouse hwarehouse hnames
    have hmem : call.order ∈ (listing d warehouse.id).map TransferDict.order := by
      rw [(hlists warehouse hwarehouse).orders.mem_iff]
      exact List.mem_map_of_mem (List.mem_filter.2 ⟨hcall, decide_eq_true hnames⟩)
    exact h₀.keyed warehouse hwarehouse target htarget
      ((transferCond_iff hto hfrom _).1 ((mem_listing_iff h).1 hmem).2)
  refine ⟨hdestination, fun warehouse hwarehouse hnames other hother hothers =>
    (hone warehouse hwarehouse hnames).trans (hone other hother hothers).symm, fun item hitem => ?_⟩
  -- the quantity of the item is that of a line
  have hmem : call.order ∈ (listing d target.id).map TransferDict.order :=
    (mem_listing_iff h).2 ⟨⟨call, hcall, rfl⟩, (transferCond_iff hto hfrom _).2 rfl⟩
  obtain ⟨dict, hdict, horder⟩ := List.mem_map.1 hmem
  have hcontent : item.content d ∈ dict.lines.map TransferOrderLine.content :=
    ((hlists target htarget).lines dict hdict call hcall horder.symm).mem_iff.2
      (List.mem_map_of_mem hitem)
  obtain ⟨line, -, heq⟩ := List.mem_map.1 hcontent
  have hquantity : line.quantity.toRat = item.quantity := congrArg Prod.snd heq
  rw [← hquantity]
  exact line.quantity.onGrid

/-- **Orders from requests with one end are found.** -/
theorem transfersFound_of_oneEnd (h₀ : Start d₀) (h : Books d₀ d calls)
    (hends : ∀ call ∈ calls, call.data.OneEnd d₀) : TransfersFound d calls := by
  refine ⟨fun call hcall => (hends call hcall).destination, fun warehouse hwarehouse arg htext hid
    ids => ⟨listing d warehouse.id, run_listTransfers htext hid ids, ?_, ?_⟩⟩
  · rw [h.sameWarehouses] at hwarehouse
    rw [map_order_listing]
    refine (orderByDesc_perm _ _).trans (List.Perm.of_eq ?_)
    rw [h.orders, List.filter_map]
    refine congrArg _ (List.filter_congr fun call hcall => ?_)
    obtain ⟨target, htarget, hnamed, hto, hfrom⟩ :=
      h.exists_named hcall (hends call hcall).destination
    rw [Function.comp_apply, Bool.eq_iff_iff, decide_eq_true_iff, transferCond_iff hto hfrom]
    constructor
    · intro heq
      rwa [h₀.keyed warehouse hwarehouse target htarget heq]
    · intro hnames
      rw [(hends call hcall).names warehouse hwarehouse hnames target htarget hnamed]
  · intro dict hdict call hcall horder
    obtain ⟨order, -, rfl⟩ := List.mem_map.1 hdict
    obtain rfl : call.order = order := horder
    exact .of_eq (map_content_eq (h.lines call hcall) (hends call hcall).quantities)

/-- **The orders of a run are found from both ends exactly when each request has one end.** -/
theorem transfersFound_iff (h₀ : Start d₀) (hrun : transferSystem.Run d₀ calls d) :
    TransfersFound d calls ↔ ∀ call ∈ calls, call.data.OneEnd d₀ := by
  have hbooks := books_of_run h₀ hrun
  exact ⟨fun h call hcall => oneEnd_of_transfersFound h₀ hbooks h hcall,
    transfersFound_of_oneEnd h₀ hbooks⟩

end Found

/-! ### Two warehouses -/

/-- The warehouses `WH-A` and `WH-B`. -/
def twoWarehouses : Db :=
  (Dict.empty.set (.warehouse 1) (.warehouse ⟨1, "WH-A", .active⟩)).set (.warehouse 2)
    (.warehouse ⟨2, "WH-B", .active⟩)

/-- Ten pieces to `WH-B`. -/
def toB : TransferData where
  destinationWarehouseId := some ⟨"WH-B", none⟩
  items := [⟨"SKU-1", 10⟩]

/-- Ten pieces from `WH-A` to `WH-B`. -/
def fromAToB : TransferData := { toB with sourceWarehouseId := some ⟨"WH-A", none⟩ }

theorem start_twoWarehouses : Start twoWarehouses where
  keyed := by decide +kernel
  orders := rfl
  lines := rfl

/-- A call with these warehouses. -/
def callTwo (data : TransferData) : Except ServiceError TransferOrder × Db :=
  (createTransferOrder ⟨0, "20240101"⟩ data).run id twoWarehouses

theorem exists_step (data : TransferData) (h : (callTwo data).1.toBool = true) :
    ∃ order, transferSystem.step twoWarehouses ⟨data, order⟩ (callTwo data).2 := by
  cases hrun : callTwo data with
  | mk answer d =>
    rw [hrun] at h
    cases answer with
    | ok order => exact ⟨order, ⟨0, "20240101"⟩, id, hrun⟩
    | error e => cases h

theorem oneEnd_toB : toB.OneEnd twoWarehouses where
  destination := by decide
  names := by decide +kernel
  quantities := by decide +kernel

/-- A transfer without a source is found. -/
theorem toB_transfersFound : ∃ order,
    transferSystem.step twoWarehouses ⟨toB, order⟩ (callTwo toB).2 ∧
      TransfersFound (callTwo toB).2 [⟨toB, order⟩] := by
  obtain ⟨order, hstep⟩ := exists_step toB (by decide +kernel)
  refine ⟨order, hstep, (transfersFound_iff start_twoWarehouses (.single hstep)).2 ?_⟩
  exact List.forall_mem_singleton.2 oneEnd_toB

/-- **A transfer from `WH-A` to `WH-B`** is not listed for `WH-A`. -/
theorem fromAToB_not_found : ∃ order,
    transferSystem.step twoWarehouses ⟨fromAToB, order⟩ (callTwo fromAToB).2 ∧
      ((listTransfers (some ⟨"1", some 1⟩)).run id (callTwo fromAToB).2).1 = .ok [] ∧
      ¬ TransfersFound (callTwo fromAToB).2 [⟨fromAToB, order⟩] := by
  obtain ⟨order, hstep⟩ := exists_step fromAToB (by decide +kernel)
  refine ⟨order, hstep, by decide +kernel, fun hfound => ?_⟩
  have hbooks := books_of_run start_twoWarehouses (.single hstep)
  have hends : fromAToB.OneEnd twoWarehouses :=
    oneEnd_of_transfersFound start_twoWarehouses hbooks hfound (List.mem_singleton_self _)
  -- the request names both warehouses
  have hsame := hends.names ⟨1, "WH-A", .active⟩ (.head _) (.inl ⟨_, rfl, .inr rfl⟩)
    ⟨2, "WH-B", .active⟩ (.tail _ (.head _)) (.inr ⟨_, rfl, .inr rfl⟩)
  cases hsame

end Transfers

end Wms

end OmsWmsTms
