import OmsWmsTms.Core.Errors
import OmsWmsTms.Core.Ids
import OmsWmsTms.Oms.OrderStates
import OmsWmsTms.Txn.Program

/-!
# The order tables

The tables of `src/oms/models.py`, `src/models/shared_models.py` and `src/core/outbox.py` that the
order services read and write, as rows of one database.  A row is found by its primary key, and
customers and SKUs by the code that a unique index keeps; an order number and a merge code have an
entry in their unique index.

* `OmsKey`, `OmsRow` : the keys and the rows.
* `OmsProg` : the programs of the order services.
* `selectOrder` : `select(Order).where(Order.id == …)`.
-/

namespace OmsWmsTms

namespace Oms

open Txn (Prog)

/-- `OrderPriority`. -/
inductive OrderPriority
  | low | medium | high | urgent
deriving DecidableEq

/-- `PRIORITY_MAP`. -/
def priorityMap : String → Option OrderPriority
  | "low" => some .low
  | "medium" => some .medium
  | "high" => some .high
  | "urgent" => some .urgent
  | _ => none

/-- `PRIORITY_REVERSE`. -/
def priorityReverse : OrderPriority → String
  | .low => "low"
  | .medium => "medium"
  | .high => "high"
  | .urgent => "urgent"

/-! ### Rows -/

/-- `Customer`. -/
structure Customer where
  /-- The primary key. -/
  id : Uuid
  /-- The unique code. -/
  code : String
  /-- The name. -/
  name : String
deriving DecidableEq

/-- `SKU`. -/
structure Sku where
  /-- The primary key. -/
  id : Uuid
  /-- The unique code. -/
  sku : String
  /-- The name. -/
  name : String
deriving DecidableEq

/-- `Order`. -/
structure Order where
  /-- The primary key. -/
  id : Uuid
  /-- The unique order number. -/
  orderNo : String
  /-- The status. -/
  status : OrderStatus
  /-- The customer. -/
  customerId : Uuid
  /-- The warehouse. -/
  warehouseId : Option Uuid
  /-- The total. -/
  totalAmount : Numeric 18 2
  /-- The priority. -/
  priority : OrderPriority
  /-- The notes. -/
  notes : String
  /-- Whether the order is deleted. -/
  isDeleted : Bool
  /-- When it was deleted. -/
  deletedAt : Option ℤ
  /-- When it was created. -/
  createdAt : ℤ
  /-- When it was last changed. -/
  updatedAt : ℤ
deriving DecidableEq

/-- `OrderItem`. -/
structure OrderItem where
  /-- The primary key. -/
  id : Uuid
  /-- The order. -/
  orderId : Uuid
  /-- The SKU. -/
  skuId : Option Uuid
  /-- The trade item number. -/
  gtin : String
  /-- The product name. -/
  name : String
  /-- The quantity. -/
  quantity : ℤ
  /-- The price of one unit. -/
  unitPrice : Numeric 18 4
  /-- Whether the line is deleted. -/
  isDeleted : Bool
  /-- When it was deleted. -/
  deletedAt : Option ℤ
deriving DecidableEq

/-- `OrderStatusLog`. -/
structure OrderStatusLog where
  /-- The primary key. -/
  id : Uuid
  /-- The order. -/
  orderId : Uuid
  /-- The status before. -/
  fromStatus : String
  /-- The status after. -/
  toStatus : String
  /-- The remark. -/
  remark : String
  /-- When it was written. -/
  createdAt : ℤ
deriving DecidableEq

/-- `MergeGroup`. -/
structure MergeGroup where
  /-- The primary key. -/
  id : Uuid
  /-- The unique code. -/
  code : String
  /-- The warehouse. -/
  warehouseId : Option Uuid
  /-- The status. -/
  status : String
  /-- The number of lines. -/
  totalItems : ℤ
  /-- The sum of the totals. -/
  totalAmount : Numeric 18 2
  /-- The notes. -/
  notes : String
deriving DecidableEq

/-- `SplitChildOrder`. -/
structure SplitChildOrder where
  /-- The primary key. -/
  id : Uuid
  /-- The order that was split. -/
  parentOrderId : Option Uuid
  /-- The child order, or the merged order. -/
  childOrderId : Uuid
  /-- The merge group. -/
  mergeGroupId : Option Uuid
  /-- Why. -/
  splitReason : String
deriving DecidableEq

/-- The payload of the event `order.created`. -/
structure OrderCreated where
  /-- The order. -/
  orderId : Uuid
  /-- Its number. -/
  orderNo : String
  /-- The total that was computed. -/
  totalAmount : ℚ
  /-- The customer code. -/
  customerId : String
deriving DecidableEq

/-- `OutboxEvent`, as an order service appends it: still `pending`. -/
structure OutboxEvent where
  /-- The primary key. -/
  id : Uuid
  /-- The type of the entity. -/
  aggregateType : String
  /-- The entity. -/
  aggregateId : Uuid
  /-- The type of the event. -/
  eventType : String
  /-- The payload. -/
  payload : OrderCreated
  /-- The status. -/
  status : String := "pending"
  /-- The number of failed dispatches. -/
  retryCount : ℤ := 0
deriving DecidableEq

/-- The keys of the rows. -/
inductive OmsKey
  | customer (code : String)
  | sku (code : String)
  | warehouse (id : Uuid)
  | order (id : Uuid)
  | orderNo (orderNo : String)
  | orderItem (id : Uuid)
  | statusLog (id : Uuid)
  | mergeGroup (id : Uuid)
  | mergeCode (code : String)
  | splitChildOrder (id : Uuid)
  | outboxEvent (id : Uuid)
deriving DecidableEq

/-- The rows. -/
inductive OmsRow
  | customer (row : Customer)
  | sku (row : Sku)
  | warehouse
  | order (row : Order)
  /-- An entry of the unique index on order numbers. -/
  | orderNo (id : Uuid)
  | orderItem (row : OrderItem)
  | statusLog (row : OrderStatusLog)
  | mergeGroup (row : MergeGroup)
  /-- An entry of the unique index on merge codes. -/
  | mergeCode (id : Uuid)
  | splitChildOrder (row : SplitChildOrder)
  | outboxEvent (row : OutboxEvent)
deriving DecidableEq

namespace OmsRow

/-- The order in a row of `orders`. -/
def order? : OmsRow → Option Order
  | order row => some row
  | _ => none

/-- Change the order in a row of `orders`. -/
def mapOrder (f : Order → Order) : OmsRow → OmsRow
  | order row => order (f row)
  | row => row

/-- The line in a row of `order_items`. -/
def orderItem? : OmsRow → Option OrderItem
  | orderItem row => some row
  | _ => none

/-- Change the line in a row of `order_items`. -/
def mapOrderItem (f : OrderItem → OrderItem) : OmsRow → OmsRow
  | orderItem row => orderItem (f row)
  | row => row

/-- The customer in a row of `customers`. -/
def customer? : OmsRow → Option Customer
  | customer row => some row
  | _ => none

/-- The SKU in a row of `skus`. -/
def sku? : OmsRow → Option Sku
  | sku row => some row
  | _ => none

/-- The entry in a row of `order_status_logs`. -/
def statusLog? : OmsRow → Option OrderStatusLog
  | statusLog row => some row
  | _ => none

/-- The group in a row of `merge_groups`. -/
def mergeGroup? : OmsRow → Option MergeGroup
  | mergeGroup row => some row
  | _ => none

/-- The link in a row of `split_child_orders`. -/
def splitChildOrder? : OmsRow → Option SplitChildOrder
  | splitChildOrder row => some row
  | _ => none

/-- The event in a row of `outbox_events`. -/
def outboxEvent? : OmsRow → Option OutboxEvent
  | outboxEvent row => some row
  | _ => none

end OmsRow

/-- The database. -/
abbrev OmsDb := Dict OmsKey OmsRow

/-- The programs of the order services. -/
abbrev OmsProg := Prog OmsKey OmsRow ServiceError

/-! ### Queries -/

/-- `select(Order).where(Order.id == id)`. -/
def selectOrder (id : Uuid) : OmsProg (Option Order) := do
  let rows ← Prog.query (Txn.keyQuery (.order id))
  return rows.findSome? fun item => item.2.order?

/-- The orders that meet a condition, with their keys. -/
def selectOrders (cond : Order → Bool) : OmsProg (List (OmsKey × Order)) := do
  let rows ← Prog.query fun _ row => row.order?.any cond
  return rows.filterMap fun item => item.2.order?.map (item.1, ·)

/-- `order.items_list`: the lines of an order, with their keys. -/
def selectItems (orderId : Uuid) : OmsProg (List (OmsKey × OrderItem)) := do
  let rows ← Prog.query fun _ row => row.orderItem?.any (·.orderId = orderId)
  return rows.filterMap fun item => item.2.orderItem?.map (item.1, ·)

/-- An identifier, or the `ValueError` of `uuid.UUID`. -/
def toUuid (arg : IdArg) : OmsProg Uuid :=
  match arg.uuid? with
  | some id => return id
  | none => .throw .valueError

end Oms

end OmsWmsTms
