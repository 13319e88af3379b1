import OmsWmsTms.Oms.Service

/-!
# Webhooks

`src/webhooks/service.py` with the tables of `src/webhooks/models.py`, and what
`update_order_status` of `src/oms/service.py` dispatches.  A dispatch writes a delivery log for each
target and delivers at once; its event in the outbox is not delivered a second time.

* `doDispatch` : `_do_dispatch`, when the deliveries succeed.
* `updateOrderStatusEvents` : `update_order_status` with the events that it dispatches.
* `updateOrderStatus_eq` : apart from the events, it is `updateOrderStatus`.
-/

namespace OmsWmsTms

namespace Webhooks

open Oms
open Txn (Prog)

/-- `WebhookEvent`. -/
inductive WebhookEvent
  | orderCreated | orderStatusChanged | orderCancelled | inventoryLowStock
  | transportStatusChanged | deliveryConfirmed
deriving DecidableEq

/-- The value of an event. -/
def WebhookEvent.value : WebhookEvent → String
  | orderCreated => "order.created"
  | orderStatusChanged => "order.status_changed"
  | orderCancelled => "order.cancelled"
  | inventoryLowStock => "inventory.low_stock"
  | transportStatusChanged => "transport.status_changed"
  | deliveryConfirmed => "delivery.confirmed"

/-- `WebhookStatus`. -/
inductive WebhookStatus
  | active | paused | disabled
deriving DecidableEq

/-- `WebhookTarget`. -/
structure WebhookTarget where
  /-- The names in the column of events; `none` when it is not JSON. -/
  events : Option (List String)
  /-- The status. -/
  status : WebhookStatus := .active

/-- `event.value in target_events`, for an active target. -/
def WebhookTarget.Receives (target : WebhookTarget) (event : WebhookEvent) : Prop :=
  target.status = .active ∧ event.value ∈ target.events.getD []

instance (target : WebhookTarget) (event : WebhookEvent) : Decidable (target.Receives event) :=
  inferInstanceAs (Decidable (_ ∧ _))

/-- The payload of an event about an order. -/
inductive WebhookPayload
  /-- Of `order.status_changed`. -/
  | statusChanged (orderId : Uuid) (orderNo fromStatus toStatus : String)
  /-- Of the other two. -/
  | order (orderId : Uuid) (orderNo status : String)
deriving DecidableEq

/-- `payload["order_id"]`. -/
def WebhookPayload.orderId : WebhookPayload → Uuid
  | statusChanged orderId _ _ _ => orderId
  | order orderId _ _ => orderId

/-- What is sent to a target. -/
structure WebhookNotification where
  /-- The target. -/
  targetId : ℕ
  /-- The event. -/
  event : WebhookEvent
  /-- The payload. -/
  payload : WebhookPayload
deriving DecidableEq

/-- `_do_dispatch`: one delivery for each active target that has the event. -/
def doDispatch (targets : Dict ℕ WebhookTarget) (event : WebhookEvent) (payload : WebhookPayload) :
    List WebhookNotification :=
  let matching := targets.items.filter fun item => item.2.Receives event
  matching.map fun item => { targetId := item.1, event, payload }

/-- What `update_order_status` dispatches. -/
def statusEvents (id : Uuid) (orderNo current target : String) :
    List (WebhookEvent × WebhookPayload) :=
  [(.orderStatusChanged, .statusChanged id orderNo current target),
    (if target = "cancelled" then .orderCancelled else .orderCreated, .order id orderNo target)]

/-- `update_order_status`, with the events that it dispatches after its commit. -/
def updateOrderStatusEvents (now : ℤ) (orderId : IdArg) (target : String) :
    OmsProg (List (WebhookEvent × WebhookPayload) × OrderDict) := do
  let id ← toUuid orderId
  match ← selectOrder id with
  | none => .throw (orderNotFound orderId)
  | some order =>
    let current := statusReverse order.status
    Prog.ofExcept (validateTransition current target)
    Prog.updateOr .staleData (.order id)
      (OmsRow.mapOrder (setStatus now ((statusMap target).getD .pending)))
    insertLog now id current target s!"Status changed to {target}"
    Prog.commitOr .commitFailed
    let order ← refreshOrder id
    let events := statusEvents id order.orderNo current target
    let answer ← orderToDict order order.totalAmount
    return (events, answer)

/-- **The events apart**, this is the service. -/
theorem updateOrderStatus_eq (now : ℤ) (orderId : IdArg) (target : String) :
    updateOrderStatus now orderId target =
      (updateOrderStatusEvents now orderId target).map Prod.snd := by
  unfold updateOrderStatus updateOrderStatusEvents Prog.map
  simp only [Prog.bind_eq, Prog.bind_assoc]
  congr 1
  funext id
  congr 1
  funext order
  cases order with
  | none => rfl
  | some order =>
    simp only [Prog.bind_assoc]
    rfl

end Webhooks

end OmsWmsTms
