import OmsWmsTms.Core.Clock
import OmsWmsTms.Data.OrderBy
import OmsWmsTms.Oms.Merge

/-!
# Reading orders

The queries of `src/oms/service.py`.  Rows that compare equal come in the order of the table.

* `getOrder` : `get_order`.
* `listOrders` : `list_orders`.
* `getOrderHistory` : `get_order_history`.
-/

namespace OmsWmsTms

namespace Oms

open Txn (Prog)

/-- `get_order`. -/
def getOrder (orderId : IdArg) : OmsProg OrderDict := do
  let id ← toUuid orderId
  let rows ← selectOrders fun order => order.id = id ∧ ¬ order.isDeleted
  match rows with
  | [] => .throw (orderNotFound orderId)
  | (_, order) :: _ => orderToDict order order.totalAmount

/-- `_to_uuid(customer_id)`, if there is one. -/
def customerArg (customerId : Option IdArg) : OmsProg (Option Uuid) :=
  match customerId with
  | none => return none
  | some arg =>
    if arg.text = "" then return none else do
      let id ← toUuid arg
      return some id

/-- The filters of `list_orders`: a status that is unknown does not filter. -/
def listFilter (status : Option String) (customer : Option Uuid) (order : Order) : Bool :=
  (status.bind statusMap).all (order.status = ·) && customer.all (order.customerId = ·)

/-- The dictionaries of some orders. -/
def ordersToDicts (orders : List Order) : OmsProg (List OrderDict) :=
  Prog.foldEach orders [] fun dicts order => do
    let dict ← orderToDict order order.totalAmount
    return dicts ++ [dict]

/-- `list_orders`. -/
def listOrders (page pageSize : ℤ) (status : Option String) (customerId : Option IdArg) :
    OmsProg (List OrderDict × ℕ) := do
  let customer ← customerArg customerId
  let counted ← selectOrders (listFilter status customer)
  let offset := (page - 1) * pageSize
  -- the database takes no negative `OFFSET` or `LIMIT`
  if offset < 0 ∨ pageSize < 0 then .throw .dataError
  else
    let rows ← selectOrders (listFilter status customer)
    let sorted := orderByDesc Order.createdAt (rows.map Prod.snd)
    let items ← ordersToDicts ((sorted.drop offset.toNat).take pageSize.toNat)
    return (items, counted.length)

/-- An entry of the answer of `get_order_history`; the operator is never set. -/
structure LogDict where
  /-- The entry. -/
  id : Uuid
  /-- The order. -/
  orderId : Uuid
  /-- The status before. -/
  fromStatus : String
  /-- The status after. -/
  toStatus : String
  /-- Who has changed it. -/
  operator : String
  /-- The remark. -/
  remark : String
  /-- When it was written. -/
  createdAt : String
deriving DecidableEq

/-- An entry of the answer. -/
def OrderStatusLog.toDict (log : OrderStatusLog) : LogDict where
  id := log.id
  orderId := log.orderId
  fromStatus := log.fromStatus
  toStatus := log.toStatus
  operator := "system"
  remark := log.remark
  createdAt := isoformat log.createdAt

/-- `get_order_history`. -/
def getOrderHistory (orderId : IdArg) : OmsProg (List LogDict) := do
  let id ← toUuid orderId
  match ← selectOrder id with
  | none => .throw (orderNotFound orderId)
  | some _ =>
    let rows ← Prog.query fun _ row => row.statusLog?.any (·.orderId = id)
    let logs := rows.filterMap fun item => item.2.statusLog?
    return (orderBy (fun a b => a.createdAt ≤ b.createdAt) logs).map OrderStatusLog.toDict

end Oms

end OmsWmsTms
