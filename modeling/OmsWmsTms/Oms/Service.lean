import OmsWmsTms.Oms.Models

/-!
# The order services

`src/oms/service.py`.  The clock, the text of the date and the random suffix of an order number are
arguments.  `update_order_status` goes on to notify users and webhooks after its commit; the
programs end before that.

* `createOrder`, `updateOrderStatus`, `deleteOrder` : the services.
* `orderToDict` : `_order_to_dict`.
-/

namespace OmsWmsTms

namespace Oms

open Txn (Prog)

/-! ### Orders as dictionaries -/

/-- A line in the answer of a service. -/
structure ItemDict where
  /-- The trade item number. -/
  gtin : String
  /-- The SKU code. -/
  sku : String
  /-- The product name. -/
  productName : String
  /-- The quantity. -/
  quantity : ℤ
  /-- The price of one unit. -/
  unitPrice : ℚ
  /-- The price of the line. -/
  subtotal : ℚ
deriving DecidableEq

/-- An order in the answer of a service; decimals travel in it as exact texts. -/
structure OrderDict where
  /-- The identifier. -/
  id : Uuid
  /-- The order number. -/
  orderNo : String
  /-- The status. -/
  status : String
  /-- The customer code. -/
  customerId : String
  /-- The lines. -/
  items : List ItemDict
  /-- The total. -/
  totalAmount : ℚ
  /-- The priority. -/
  priority : String
  /-- The notes. -/
  notes : String
  /-- When the order was created. -/
  createdAt : ℤ
  /-- When it was last changed. -/
  updatedAt : ℤ
deriving DecidableEq

/-- A line with the SKUs of the order. -/
def itemToDict (skus : List Sku) (item : OrderItem) : ItemDict where
  gtin := item.gtin
  sku := ((item.skuId.bind fun id => skus.find? (·.id = id)).map Sku.sku).getD ""
  productName := item.name
  quantity := item.quantity
  unitPrice := item.unitPrice
  subtotal := item.unitPrice * item.quantity

/-- `_order_to_dict`; a child order has its exact total before it is read back. -/
def orderToDict (order : Order) (totalAmount : ℚ) : OmsProg OrderDict := do
  let customers ← Prog.query fun _ row => row.customer?.any (·.id = order.customerId)
  let items ← selectItems order.id
  let skuIds := items.filterMap fun item => item.2.skuId
  let skus ← Prog.query fun _ row => row.sku?.any fun sku => decide (sku.id ∈ skuIds)
  return {
    id := order.id
    orderNo := order.orderNo
    status := statusReverse order.status
    customerId := ((customers.findSome? fun item => item.2.customer?).map Customer.code).getD
      (Uuid.text order.customerId)
    items := items.map fun item => itemToDict (skus.filterMap fun item => item.2.sku?) item.2
    totalAmount
    priority := priorityReverse order.priority
    notes := order.notes
    createdAt := order.createdAt
    updatedAt := order.updatedAt }

/-- `db.refresh(order)`. -/
def refreshOrder (id : Uuid) : OmsProg Order := do
  match ← selectOrder id with
  | some order => return order
  | none => .throw .staleData

/-! ### Creating an order -/

/-- `_get_or_create_customer`. -/
def getOrCreateCustomer (customerCode : String) : OmsProg Customer := do
  let rows ← Prog.query (Txn.keyQuery (.customer customerCode))
  match rows.findSome? fun item => item.2.customer? with
  | some customer => return customer
  | none =>
    let id ← Prog.newId
    let code ← Prog.ofExcept (storeText 50 customerCode)
    let name ← Prog.ofExcept (storeText 200 customerCode)
    let customer : Customer := ⟨id, code, name⟩
    Prog.insertOr .integrityError (.customer code) (.customer customer)
    return customer

/-- `_get_or_create_sku`. -/
def getOrCreateSku (skuStr : String) : OmsProg Sku := do
  let rows ← Prog.query (Txn.keyQuery (.sku skuStr))
  match rows.findSome? fun item => item.2.sku? with
  | some sku => return sku
  | none =>
    let id ← Prog.newId
    let code ← Prog.ofExcept (storeWhole 50 skuStr)
    let name ← Prog.ofExcept (storeText 200 skuStr)
    let sku : Sku := ⟨id, code, name⟩
    Prog.insertOr .integrityError (.sku code) (.sku sku)
    return sku

/-- An item of the payload of `create_order`. -/
structure ItemCreate where
  /-- The trade item number. -/
  gtin : String := ""
  /-- The SKU code. -/
  sku : String := ""
  /-- The product name. -/
  productName : String := ""
  /-- The quantity. -/
  quantity : ℤ := 0
  /-- The price of one unit. -/
  unitPrice : ℚ := 0
deriving DecidableEq

/-- The payload of `create_order`. -/
structure OrderCreate where
  /-- The customer code. -/
  customerId : String
  /-- The items. -/
  items : List ItemCreate := []
  /-- The priority. -/
  priority : String := "medium"
  /-- The notes. -/
  notes : String := ""
deriving DecidableEq

/-- `sum(unit_price * quantity)`. -/
def orderTotal (items : List ItemCreate) : ℚ :=
  (items.map fun item => item.unitPrice * (item.quantity : ℚ)).sum

/-- `db.add(order)` and `db.flush()`: the row and the entry of the index on order numbers. -/
def insertOrder (order : Order) : OmsProg Unit := do
  Prog.insertOr .integrityError (.orderNo order.orderNo) (.orderNo order.id)
  Prog.insertOr .integrityError (.order order.id) (.order order)

/-- Insert a line. -/
def insertItem (orderId : Uuid) (skuId : Option Uuid) (gtin name : String) (quantity : ℤ)
    (unitPrice : ℚ) : OmsProg Unit := do
  let id ← Prog.newId
  let gtin ← Prog.ofExcept (storeText 13 gtin)
  let name ← Prog.ofExcept (storeText 200 name)
  let quantity ← Prog.ofExcept (storeInt quantity)
  let unitPrice ← Prog.ofExcept (storeNumeric unitPrice)
  Prog.insertOr .integrityError (.orderItem id)
    (.orderItem ⟨id, orderId, skuId, gtin, name, quantity, unitPrice, false, none⟩)

/-- The SKU of an item of the payload. -/
def createItemSku (skuStr : String) : OmsProg (Option Uuid) :=
  if skuStr = "" then return none else do
    let sku ← getOrCreateSku skuStr
    return some sku.id

/-- The line of an item of the payload. -/
def createItem (orderId : Uuid) (item : ItemCreate) : OmsProg Unit := do
  let skuId ← createItemSku item.sku
  insertItem orderId skuId item.gtin item.productName item.quantity item.unitPrice

/-- Insert a status log. -/
def insertLog (now : ℤ) (orderId : Uuid) (fromStatus toStatus remark : String) :
    OmsProg Unit := do
  let id ← Prog.newId
  Prog.insertOr .integrityError (.statusLog id)
    (.statusLog ⟨id, orderId, fromStatus, toStatus, remark, now⟩)

/-- `append_event` for the event `order.created`. -/
def appendOrderCreated (orderId : Uuid) (payload : OrderCreated) : OmsProg Unit := do
  let id ← Prog.newId
  Prog.insertOr .integrityError (.outboxEvent id)
    (.outboxEvent { id, aggregateType := "Order", aggregateId := orderId,
                    eventType := "order.created", payload })

/-- The last line as it was given. -/
def ItemDict.asGiven (item : ItemCreate) (dict : ItemDict) : ItemDict :=
  { dict with
    gtin := item.gtin
    productName := item.productName
    unitPrice := item.unitPrice
    subtotal := item.unitPrice * item.quantity }

/-- An order whose customer and whose last line are as they were given. -/
def OrderDict.asGiven (data : OrderCreate) (dict : OrderDict) : OrderDict :=
  { dict with
    customerId := data.customerId
    items := match data.items.getLast? with
      | none => dict.items
      | some item => dict.items.dropLast ++ dict.items.getLast?.toList.map (·.asGiven item) }

/-- `_order_to_dict` in `create_order`.  The commit expires nothing, so that the customer and the
line that a variable still holds are not read back from their columns. -/
def createdToDict (data : OrderCreate) (order : Order) : OmsProg OrderDict := do
  let dict ← orderToDict order order.totalAmount
  return dict.asGiven data

/-- `create_order`. -/
def createOrder (now : ℤ) (datePart suffix : String) (data : OrderCreate) :
    OmsProg OrderDict := do
  let customer ← getOrCreateCustomer data.customerId
  let orderNo := s!"ORD-{datePart}-{suffix}"
  let total := orderTotal data.items
  let id ← Prog.newId
  let number ← Prog.ofExcept (storeWhole 50 orderNo)
  let totalAmount ← Prog.ofExcept (storeNumeric total)
  insertOrder {
    id, orderNo := number, status := .pending, customerId := customer.id, warehouseId := none
    totalAmount, priority := (priorityMap data.priority).getD .medium, notes := data.notes
    isDeleted := false, deletedAt := none, createdAt := now, updatedAt := now }
  Prog.forEach data.items (createItem id)
  insertLog now id "" "pending" "Order created"
  appendOrderCreated id ⟨id, orderNo, total, data.customerId⟩
  Prog.commitOr .commitFailed
  let order ← refreshOrder id
  createdToDict data order

/-! ### Changing and deleting an order -/

/-- Write the status of an order. -/
def setStatus (now : ℤ) (status : OrderStatus) (order : Order) : Order :=
  { order with status, updatedAt := now }

/-- The message about an order that is not there. -/
def orderNotFound (orderId : IdArg) : ServiceError := .notFound s!"Order {orderId.text} not found"

/-- `update_order_status`, up to the notifications. -/
def updateOrderStatus (now : ℤ) (orderId : IdArg) (target : String) : OmsProg OrderDict := do
  let id ← toUuid orderId
  match ← selectOrder id with
  | none => .throw (orderNotFound orderId)
  | some order =>
    let current := statusReverse order.status
    Prog.ofExcept (validateTransition current target)
    Prog.updateOr .staleData (.order id)
      (OmsRow.mapOrder (setStatus now ((statusMap target).getD .pending)))
    insertLog now id current target s!"Status changed to {target}"
    Prog.commitOr .commitFailed
    let order ← refreshOrder id
    orderToDict order order.totalAmount

/-- `delete_order`. -/
def deleteOrder (now : ℤ) (orderId : IdArg) : OmsProg Unit := do
  let id ← toUuid orderId
  match ← selectOrder id with
  | none => .throw (orderNotFound orderId)
  | some order =>
    let items ← selectItems id
    let current := statusReverse order.status
    if current ∈ ["completed", "cancelled", "failed"] then
      .throw (.validation s!"Cannot delete order in '{current}' state" none)
    else
      Prog.updateOr .staleData (.order id) (OmsRow.mapOrder fun order =>
        { order with isDeleted := true, deletedAt := some now, updatedAt := now })
      Prog.forEach items fun item =>
        Prog.updateOr .staleData item.1 (OmsRow.mapOrderItem fun row =>
          { row with isDeleted := true, deletedAt := some now })
      Prog.commitOr .commitFailed

end Oms

end OmsWmsTms
