import OmsWmsTms.Oms.Service

/-!
# Splitting and merging orders

`src/oms/merge.py`.

* `splitOrder` : `split_order`.
* `mergeOrders` : `merge_orders`.
-/

namespace OmsWmsTms

namespace Oms

open Txn (Prog)

/-- Insert a link between orders, or between an order and a merge group. -/
def insertLink (parentOrderId : Option Uuid) (childOrderId : Uuid) (mergeGroupId : Option Uuid)
    (splitReason : String) : OmsProg Unit := do
  let id ← Prog.newId
  Prog.insertOr .integrityError (.splitChildOrder id)
    (.splitChildOrder ⟨id, parentOrderId, childOrderId, mergeGroupId, splitReason⟩)

/-! ### Splitting -/

/-- An item of a split. -/
structure SplitItem where
  /-- The SKU that is asked for. -/
  sku : String := ""
  /-- The quantity. -/
  quantity : ℤ := 0
  /-- The product name. -/
  productName : Option String := none
deriving DecidableEq

/-- A split. -/
structure Split where
  /-- The items. -/
  items : List SplitItem := []
  /-- The note. -/
  note : Option String := none
deriving DecidableEq

/-- `str(oi.sku_id)`. -/
def skuIdText (skuId : Option Uuid) : String := (skuId.map Uuid.text).getD "None"

/-- The line of a child order for an item, and the total with it: the line of the parent is looked
up by the text of its SKU identifier. -/
def splitItem (childId : Uuid) (parentItems : List OrderItem) (total : ℚ) (item : SplitItem) :
    OmsProg ℚ := do
  let orig := parentItems.find? fun oi => skuIdText oi.skuId = item.sku
  let unitPrice : ℚ := (orig.map fun oi => (oi.unitPrice : ℚ)).getD 0
  insertItem childId (orig.bind OrderItem.skuId) ((orig.map OrderItem.gtin).getD "")
    (item.productName.getD ((orig.map OrderItem.name).getD "")) item.quantity unitPrice
  return total + unitPrice * item.quantity

/-- One child order. -/
def splitChild (now : ℤ) (order : Order) (parentItems : List OrderItem) (reason : String)
    (children : List OrderDict) (split : Split) : OmsProg (List OrderDict) := do
  let idx := children.length
  let id ← Prog.newId
  let orderNo ← Prog.ofExcept (storeWhole 50 s!"{order.orderNo}-SP{idx + 1}")
  let child : Order := {
    id, orderNo, status := .pending, customerId := order.customerId
    warehouseId := order.warehouseId, totalAmount := 0, priority := order.priority
    notes := split.note.getD s!"Split from {order.orderNo}"
    isDeleted := false, deletedAt := none, createdAt := now, updatedAt := now }
  insertOrder child
  let total ← Prog.foldEach split.items 0 (splitItem id parentItems)
  insertLink (some order.id) id none
    (if reason = "" then s!"Manual split ({idx + 1})" else reason)
  let totalAmount ← Prog.ofExcept (storeNumeric total)
  Prog.updateOr .staleData (.order id) (OmsRow.mapOrder fun row => { row with totalAmount })
  let dict ← orderToDict child total
  return children ++ [dict]

/-- `split_order`. -/
def splitOrder (now : ℤ) (orderId : IdArg) (splits : List Split) (reason : String := "") :
    OmsProg (List OrderDict) := do
  let id ← toUuid orderId
  match ← selectOrder id with
  | none => .throw (orderNotFound orderId)
  | some order =>
    let items ← selectItems id
    let children ← Prog.foldEach splits [] (splitChild now order (items.map Prod.snd) reason)
    Prog.commitOr .commitFailed
    return children

/-! ### Merging -/

/-- What `merge_orders` has gathered: the orders, their total and the number of their lines. -/
structure Gathered where
  /-- The orders. -/
  orders : List Order := []
  /-- The sum of their totals. -/
  totalAmount : ℚ := 0
  /-- The number of their lines. -/
  totalItems : ℤ := 0

/-- One round of the loop over the identifiers. -/
def gatherOrder (gathered : Gathered) (orderId : IdArg) : OmsProg Gathered := do
  let id ← toUuid orderId
  match ← selectOrder id with
  | none => .throw (orderNotFound orderId)
  | some order =>
    let items ← selectItems id
    if order.status ∈ [.completed, .cancelled, .failed] then
      .throw (.validation s!"Cannot merge order {orderId.text}: already in terminal state" none)
    else
      return {
        orders := gathered.orders ++ [order]
        totalAmount := gathered.totalAmount + order.totalAmount
        totalItems := gathered.totalItems + items.length }

/-- `f"MG-{count + 1:04d}"`. -/
def mergeCode (count : ℕ) : String :=
  "MG-" ++ String.ofList (List.leftpad 4 '0' (Nat.toDigits 10 (count + 1)))

/-- The answer of `merge_orders`. -/
structure MergeDict where
  /-- The merge group. -/
  group : MergeGroup
  /-- The orders. -/
  orderIds : List Uuid
deriving DecidableEq

/-- `_to_uuid(warehouse_id) if warehouse_id else None`. -/
def warehouseArg (warehouseId : Option IdArg) : OmsProg (Option Uuid) :=
  match warehouseId with
  | none => return none
  | some arg =>
    if arg.text = "" then return none else do
      let id ← toUuid arg
      return some id

/-- The foreign key of a warehouse. -/
def checkWarehouse (warehouseId : Option Uuid) : OmsProg Unit :=
  match warehouseId with
  | none => return ()
  | some id => do
    let rows ← Prog.query (Txn.keyQuery (.warehouse id))
    -- a failed flush leaves the session unusable, so that the retry raises
    if rows = [] then .throw .pendingRollback else return ()

/-- `merge_orders`. -/
def mergeOrders (orderIds : List IdArg) (code : Option String := none)
    (warehouseId : Option IdArg := none) (note : String := "") : OmsProg MergeDict := do
  if orderIds.length < 2 then
    .throw (.validation "Need at least 2 orders to merge" none)
  else
    let gathered ← Prog.foldEach orderIds {} gatherOrder
    let groups ← Prog.query fun key _ => match key with | .mergeGroup _ => true | _ => false
    let code := if code.getD "" = "" then mergeCode groups.length else code.getD ""
    let id ← Prog.newId
    let warehouseId ← warehouseArg warehouseId
    let code ← Prog.ofExcept (storeText 50 code)
    let totalItems ← Prog.ofExcept (storeInt gathered.totalItems)
    let totalAmount ← Prog.ofExcept (storeNumeric gathered.totalAmount)
    checkWarehouse warehouseId
    let group : MergeGroup := ⟨id, code, warehouseId, "active", totalItems, totalAmount, note⟩
    -- a code that is taken: as above, the retry raises
    Prog.insertOr .pendingRollback (.mergeCode code) (.mergeCode id)
    Prog.insertOr .pendingRollback (.mergeGroup id) (.mergeGroup group)
    Prog.forEach gathered.orders fun order => insertLink none order.id (some id) "merged"
    Prog.commitOr .commitFailed
    return ⟨group, gathered.orders.map Order.id⟩

end Oms

end OmsWmsTms
