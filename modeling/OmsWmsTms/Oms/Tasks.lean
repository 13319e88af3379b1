import OmsWmsTms.Core.Clock
import OmsWmsTms.Oms.Service

/-!
# The order tasks and the ERP acknowledgement

The periodic tasks of `src/tasks/orders.py` and `src/tasks/inventory.py`, and `handle_ack` of
`src/models/erp_connector.py`.

* `sweepOrders` : the loop that the tasks share which change a status.
* `autoCompletePickedOrders`, `cancelAbandonedDrafts`, `cancelExpiredOrders`,
  `processPendingOrders` : these tasks.
* `processStaleOrders` : `process_stale_orders`, which only flags.
* `handleAck` : `OrderSyncService.handle_ack`.
-/

namespace OmsWmsTms

namespace Oms

open Txn (Prog)

/-! ### Tasks -/

/-- A status change that a task logs. -/
structure SweepLog where
  /-- The status before. -/
  fromStatus : String
  /-- The status after. -/
  toStatus : String
  /-- The remark. -/
  remark : String

/-- The change of one order. -/
def sweepOrder (now : ℤ) (status : OrderStatus) (log : Option SweepLog) (item : OmsKey × Order) :
    OmsProg Unit := do
  Prog.updateOr .staleData item.1 (OmsRow.mapOrder (setStatus now status))
  match log with
  | none => return ()
  | some log => insertLog now item.2.id log.fromStatus log.toStatus log.remark

/-- Write a status into the orders that are due, and say how many there are. -/
def sweepOrders (now : ℤ) (due : Order → Bool) (status : OrderStatus) (log : Option SweepLog) :
    OmsProg ℕ := do
  let orders ← selectOrders due
  Prog.forEach orders (sweepOrder now status log)
  Prog.commitOr .commitFailed
  return orders.length

/-- The orders that `auto_complete_picked_orders` completes. -/
def IsPicked (now : ℤ) (order : Order) : Prop :=
  order.status = .picking ∧ order.updatedAt < now - 48 * hour

/-- The orders that `cancel_abandoned_drafts` cancels. -/
def IsAbandoned (now : ℤ) (order : Order) : Prop :=
  order.status = .pending ∧ order.createdAt < now - 7 * day

/-- The orders that `cancel_expired_orders` cancels; `timedelta.days` rounds down. -/
def IsExpired (now : ℤ) (order : Order) : Prop :=
  order.status = .pending ∧ (now - order.createdAt) / day > 7

/-- The orders that `process_pending_orders` confirms. -/
def IsReady (now : ℤ) (order : Order) : Prop :=
  order.status = .pending ∧ (now - order.createdAt) / day ≥ 1

/-- The orders that `process_stale_orders` flags. -/
def IsStale (now : ℤ) (order : Order) : Prop :=
  (order.status = .processing ∨ order.status = .picking) ∧ order.updatedAt < startOfDay now

section Decidable

variable (now : ℤ) (order : Order)

instance : Decidable (IsPicked now order) := inferInstanceAs (Decidable (_ ∧ _))
instance : Decidable (IsAbandoned now order) := inferInstanceAs (Decidable (_ ∧ _))
instance : Decidable (IsExpired now order) := inferInstanceAs (Decidable (_ ∧ _))
instance : Decidable (IsReady now order) := inferInstanceAs (Decidable (_ ∧ _))
instance : Decidable (IsStale now order) := inferInstanceAs (Decidable (_ ∧ _))

end Decidable

/-- `auto_complete_picked_orders`. -/
def autoCompletePickedOrders (now : ℤ) : OmsProg ℕ :=
  sweepOrders now (fun order => IsPicked now order) .completed
    (some ⟨"picking", "completed", "Auto-completed: order in picking state for 48+ hours"⟩)

/-- `cancel_abandoned_drafts`. -/
def cancelAbandonedDrafts (now : ℤ) : OmsProg ℕ :=
  sweepOrders now (fun order => IsAbandoned now order) .cancelled
    (some ⟨"pending", "cancelled", "Auto-cancelled: draft order older than 7 days"⟩)

/-- `cancel_expired_orders`. -/
def cancelExpiredOrders (now : ℤ) : OmsProg ℕ :=
  sweepOrders now (fun order => IsExpired now order) .cancelled none

/-- `process_pending_orders`. -/
def processPendingOrders (now : ℤ) : OmsProg ℕ :=
  sweepOrders now (fun order => IsReady now order) .confirmed none

/-- The log that flags a stale order. -/
def flagOrder (now : ℤ) (item : OmsKey × Order) : OmsProg Unit :=
  insertLog now item.2.id item.2.status.value "flagged_stale"
    s!"Auto-flagged: stuck in '{item.2.status.value}' since {isoformat item.2.updatedAt}"

/-- `process_stale_orders`. -/
def processStaleOrders (now : ℤ) : OmsProg ℕ := do
  let stale ← selectOrders fun order => IsStale now order
  Prog.forEach stale (flagOrder now)
  Prog.commitOr .commitFailed
  return stale.length

/-! ### Acknowledgements -/

/-- The payload of an acknowledgement. -/
inductive AckPayload
  /-- A document, with its `order_id`. -/
  | dict (orderId : Option IdArg)
  /-- Anything else. -/
  | other

/-- `payload.get("order_id")`, if it is not empty. -/
def AckPayload.orderId? : AckPayload → Option IdArg
  | dict (some orderId) => if orderId.text = "" then none else some orderId
  | _ => none

/-- `OrderSyncService.handle_ack`. -/
def handleAck (now : ℤ) (payload : AckPayload) : OmsProg Unit :=
  match payload.orderId? with
  | none => return ()
  | some orderId =>
    match orderId.uuid? with
    | none => .throw .dataError
    | some id => do
      match ← selectOrder id with
      | none => return ()
      | some order =>
        -- a flush writes nothing when nothing has changed
        if order.status = .confirmed then return ()
        else
          Prog.updateOr .staleData (.order id) (OmsRow.mapOrder (setStatus now .confirmed))
          Prog.commitOr .commitFailed

end Oms

end OmsWmsTms
