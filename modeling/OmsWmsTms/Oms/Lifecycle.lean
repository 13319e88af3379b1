import OmsWmsTms.Lts.Basic
import OmsWmsTms.Oms.Footprint
import Mathlib.Logic.Relation

/-!
# The lifecycle of an order

The state machine is enforced by `update_order_status` only.  The other services leave the status of
an existing order alone, the tasks follow edges, and the acknowledgement handler writes `CONFIRMED`
whatever the status was.

* `omsSystem` : the runs of the order services, the tasks and the acknowledgement handler.
* `LifecycleStep` : every status stays or follows an edge.
* `AckOnTime` : an acknowledgement finds its order pending or confirmed, or not at all.
* `lifecycleStep_iff` : a step keeps the lifecycle exactly when its acknowledgement is on time.
* `lifecycle_iff_acksOnTime` : so does a run; and a terminal status is kept for ever.
-/

namespace OmsWmsTms

namespace Oms

open Txn (Prog Writes)

/-! ### Runs -/

/-- A call of a service, a task or the acknowledgement handler, with the clock. -/
inductive OmsEvent
  | createOrder (now : ℤ) (datePart suffix : String) (data : OrderCreate)
  | updateOrderStatus (now : ℤ) (orderId : IdArg) (target : String)
  | deleteOrder (now : ℤ) (orderId : IdArg)
  | splitOrder (now : ℤ) (orderId : IdArg) (splits : List Split) (reason : String)
  | mergeOrders (orderIds : List IdArg) (code : Option String) (warehouseId : Option IdArg)
    (note : String)
  | autoCompletePickedOrders (now : ℤ)
  | cancelAbandonedDrafts (now : ℤ)
  | cancelExpiredOrders (now : ℤ)
  | processPendingOrders (now : ℤ)
  | processStaleOrders (now : ℤ)
  | handleAck (now : ℤ) (payload : AckPayload)

/-- The committed rows after a call that runs alone. -/
def OmsEvent.apply (event : OmsEvent) (ids : ℕ → ℕ) (d : OmsDb) : OmsDb :=
  match event with
  | createOrder now datePart suffix data => ((Oms.createOrder now datePart suffix data).run ids d).2
  | updateOrderStatus now orderId target => ((Oms.updateOrderStatus now orderId target).run ids d).2
  | deleteOrder now orderId => ((Oms.deleteOrder now orderId).run ids d).2
  | splitOrder now orderId splits reason => ((Oms.splitOrder now orderId splits reason).run ids d).2
  | mergeOrders orderIds code warehouseId note =>
    ((Oms.mergeOrders orderIds code warehouseId note).run ids d).2
  | autoCompletePickedOrders now => ((Oms.autoCompletePickedOrders now).run ids d).2
  | cancelAbandonedDrafts now => ((Oms.cancelAbandonedDrafts now).run ids d).2
  | cancelExpiredOrders now => ((Oms.cancelExpiredOrders now).run ids d).2
  | processPendingOrders now => ((Oms.processPendingOrders now).run ids d).2
  | processStaleOrders now => ((Oms.processStaleOrders now).run ids d).2
  | handleAck now payload => ((Oms.handleAck now payload).run ids d).2

/-- The sequential runs, with any new identifiers. -/
def omsSystem : Lts OmsDb OmsEvent where
  step d event d' := ∃ ids, d' = event.apply ids d

/-- The order in the row with a key. -/
def orderAt (d : OmsDb) (key : OmsKey) : Option Order := (d.get? key).bind OmsRow.order?

/-- Every order keeps its status or follows an edge. -/
def LifecycleStep (d d' : OmsDb) : Prop :=
  ∀ key order, orderAt d key = some order → ∃ order', orderAt d' key = some order' ∧
    (order'.status = order.status ∨ Edge order.status order'.status)

/-- The order that an acknowledgement is about. -/
def AckPayload.id? (payload : AckPayload) : Option Uuid := payload.orderId?.bind IdArg.uuid?

/-- An acknowledgement finds its order pending or confirmed, or not at all. -/
def AckOnTime (d : OmsDb) : OmsEvent → Prop
  | .handleAck _ payload => ∀ id order, payload.id? = some id →
      orderAt d (.order id) = some order → order.status = .pending ∨ order.status = .confirmed
  | _ => True

/-! ### Services that leave the statuses alone -/

/-- Every order keeps its status. -/
def KeepsStatuses (d d' : OmsDb) : Prop :=
  ∀ key order, orderAt d key = some order → ∃ order', orderAt d' key = some order' ∧
    order'.status = order.status

/-- A write that leaves the status of an order alone. -/
def KeepsStatus (_ : OmsKey) (old : Option OmsRow) (row : OmsRow) : Prop :=
  ∀ order, old.bind OmsRow.order? = some order → ∃ order', row.order? = some order' ∧
    order'.status = order.status

theorem LifecycleStep.refl (d : OmsDb) : LifecycleStep d d := fun _ order h => ⟨order, h, .inl rfl⟩

theorem orderAt_set {d : OmsDb} {key key' : OmsKey} {row : OmsRow} :
    orderAt (d.set key row) key' = if key = key' then row.order? else orderAt d key' := by
  unfold orderAt
  rw [Dict.get?_set]
  split_ifs <;> rfl

theorem keepsStatuses_set {d : OmsDb} {key : OmsKey} {row : OmsRow}
    (h : KeepsStatus key (d.get? key) row) : KeepsStatuses d (d.set key row) := by
  intro key' order horder
  rw [orderAt_set]
  split_ifs with hk
  · subst hk
    exact h order horder
  · exact ⟨order, horder, rfl⟩

theorem keepsStatus_none {key : OmsKey} {row : OmsRow} : KeepsStatus key none row :=
  fun _ h => by cases h

/-- After a lifecycle step, writes that leave the statuses alone. -/
theorem LifecycleStep.trans {d d' d'' : OmsDb} (h : LifecycleStep d d')
    (h' : KeepsStatuses d' d'') : LifecycleStep d d'' := by
  intro key order horder
  obtain ⟨order', horder', hstatus⟩ := h key order horder
  obtain ⟨order'', horder'', hstatus'⟩ := h' key order' horder'
  exact ⟨order'', horder'', by rwa [hstatus']⟩

/-- A program whose writes leave the statuses alone keeps the lifecycle. -/
theorem lifecycleStep_exec {A : Type} {p : OmsProg A} (h : Writes True KeepsStatus p)
    {d : OmsDb} {s : Txn.Session OmsKey OmsRow} (hcommitted : LifecycleStep d s.committed)
    (hworking : LifecycleStep d s.working) : LifecycleStep d (p.exec s).2.committed :=
  (h.exec (I := LifecycleStep d)
    (fun _ _ _ _ hd hget hok => hd.trans (keepsStatuses_set (by rwa [hget])))
    (fun _ _ _ hd hget hok => hd.trans (keepsStatuses_set (by rwa [hget])))
    hcommitted hworking).1

theorem lifecycleStep_run {A : Type} {p : OmsProg A} (h : Writes True KeepsStatus p) (ids : ℕ → ℕ)
    (d : OmsDb) : LifecycleStep d (p.run ids d).2 :=
  lifecycleStep_exec h (.refl d) (.refl d)

/-! ### The writes of the services -/

section Services

/-- Changes of an order that keep its status leave the statuses alone. -/
theorem writes_of_changes {A : Type} {p : OmsProg A} {ends : Prop} {ts : List OmsTable}
    {change : Order → Order → Prop} (h : Writes ends (Changes ts change) p)
    (hchange : ∀ order order', change order order' → order'.status = order.status) :
    Writes True KeepsStatus p := by
  refine h.mono (fun _ => trivial) fun key old row hok => ?_
  cases hok with
  | insert h => exact h.1 ▸ keepsStatus_none
  | same row => exact fun order horder => ⟨order, horder, rfl⟩
  | order h =>
    intro order horder
    cases horder
    exact ⟨_, rfl, hchange _ _ h⟩
  | orderItem item now => exact fun order horder => nomatch horder

theorem writes_of_inserts {A : Type} {p : OmsProg A} {ends : Prop} {ts : List OmsTable}
    (h : Writes ends (Inserts ts) p) : Writes True KeepsStatus p :=
  h.mono (fun _ => trivial) fun _ _ _ hok => hok.1 ▸ keepsStatus_none

theorem writes_deleteOrder (now : ℤ) (orderId : IdArg) :
    Writes True KeepsStatus (deleteOrder now orderId) :=
  writes_of_changes (changes_deleteOrder now orderId) fun _ _ ⟨_, h⟩ => h ▸ rfl

theorem writes_splitOrder (now : ℤ) (orderId : IdArg) (splits : List Split) (reason : String) :
    Writes True KeepsStatus (splitOrder now orderId splits reason) :=
  writes_of_changes (changes_splitOrder now orderId splits reason) fun _ _ ⟨_, h⟩ => h ▸ rfl

end Services

/-! ### The acknowledgement handler and the status service -/

section Status

variable {s : Txn.Session OmsKey OmsRow} {d : OmsDb} {id : Uuid} {order : Order} {now : ℤ}
  {ids : ℕ → ℕ}

/-- The rows of an order found by its key. -/
theorem findSome?_select_order (d : OmsDb) (id : Uuid) :
    (Txn.select (Txn.keyQuery (.order id)) d).findSome? (fun item => item.2.order?) =
      orderAt d (.order id) := by
  unfold orderAt
  cases hget : d.get? (.order id) with
  | none => rw [Txn.select_keyQuery_eq_nil_iff.2 hget]; rfl
  | some row =>
    rw [Txn.select_keyQuery_of_get? hget]
    cases row <;> rfl

@[simp] theorem exec_selectOrder (id : Uuid) (s : Txn.Session OmsKey OmsRow) :
    (selectOrder id).exec s = (.ok (orderAt s.working (.order id)), s) := by
  rw [← findSome?_select_order]
  rfl

@[simp] theorem ensures_selectOrder {C : OmsDb → OmsDb → Prop} {id : Uuid} {w : OmsDb}
    {post : Option Order → OmsDb → OmsDb → Prop} :
    Txn.Ensures C post (selectOrder id) d w ↔ post (orderAt w (.order id)) d w := by
  rw [← findSome?_select_order]
  rfl

/-- The row of an order. -/
theorem get?_of_orderAt {key : OmsKey} (h : orderAt d key = some order) :
    d.get? key = some (.order order) := by
  obtain ⟨row, hrow, horder⟩ := Option.bind_eq_some_iff.1 h
  cases row <;> cases horder
  exact hrow

/-- Writing a status along an edge. -/
theorem lifecycleStep_setStatus {key : OmsKey} {status : OrderStatus}
    (h : orderAt d key = some order) (hedge : Edge order.status status) :
    LifecycleStep d (d.set key (.order (setStatus now status order))) := by
  intro key' order' horder'
  rw [orderAt_set]
  split_ifs with hk
  · subst hk
    rw [h] at horder'
    cases horder'
    exact ⟨_, rfl, .inr hedge⟩
  · exact ⟨order', horder', .inl rfl⟩

/-- **`update_order_status` keeps the lifecycle.** -/
theorem lifecycleStep_updateOrderStatus (now : ℤ) (orderId : IdArg) (target : String)
    (ids : ℕ → ℕ) (d : OmsDb) :
    LifecycleStep d ((updateOrderStatus now orderId target).run ids d).2 := by
  unfold updateOrderStatus toUuid
  cases orderId.uuid? with
  | none => exact .refl d
  | some id =>
    simp only [Prog.run, Prog.bind_eq, Prog.pure_eq, Prog.ret_bind, Prog.exec_bind,
      exec_selectOrder]
    cases horder : orderAt d (.order id) with
    | none => exact .refl d
    | some order =>
      simp only
      cases hvalid : validateTransition (statusReverse order.status) target with
      | error e => exact .refl d
      | ok _ =>
        rw [Prog.exec_bind, Prog.exec_ofExcept_ok]
        simp only
        rw [Prog.exec_bind, Prog.exec_updateOr (get?_of_orderAt horder)]
        -- what follows the write of the status leaves it alone
        refine lifecycleStep_exec ?_ (.refl d)
          (lifecycleStep_setStatus horder (edge_of_validateTransition hvalid))
        exact (writes_of_inserts (inserts_insertLog _ _ _ _ _)).bind fun _ =>
          (Writes.commitOr _).bind fun _ =>
            (Writes.of_reads (reads_refreshOrder id)).bind fun order =>
            Writes.of_reads (reads_orderToDict _ _)

/-- What an acknowledgement commits. -/
theorem handleAck_run (now : ℤ) (payload : AckPayload) (ids : ℕ → ℕ) (d : OmsDb) :
    ((handleAck now payload).run ids d).2 = d ∧ (∀ id order, payload.id? = some id →
      orderAt d (.order id) = some order → order.status = .confirmed) ∨
    ∃ id order, payload.id? = some id ∧ orderAt d (.order id) = some order ∧
      order.status ≠ .confirmed ∧ ((handleAck now payload).run ids d).2 =
        d.set (.order id) (.order (setStatus now .confirmed order)) := by
  unfold handleAck AckPayload.id?
  cases payload.orderId? with
  | none => exact .inl ⟨rfl, fun _ _ h => by cases h⟩
  | some orderId =>
    simp only [Option.bind_some]
    cases orderId.uuid? with
    | none => exact .inl ⟨rfl, fun _ _ h => by cases h⟩
    | some id =>
      simp only [Prog.run, Prog.bind_eq, Prog.pure_eq, Prog.exec_bind, exec_selectOrder]
      cases horder : orderAt d (.order id) with
      | none =>
        refine .inl ⟨rfl, fun id' order hid horder' => ?_⟩
        cases hid
        rw [horder] at horder'
        cases horder'
      | some order =>
        simp only
        split_ifs with hconfirmed
        · refine .inl ⟨rfl, fun id' order' hid horder' => ?_⟩
          cases hid
          rw [horder] at horder'
          cases horder'
          exact hconfirmed
        · refine .inr ⟨id, order, rfl, horder, hconfirmed, ?_⟩
          rw [Prog.exec_bind, Prog.exec_updateOr (get?_of_orderAt horder)]
          rfl

/-- An order is confirmed from `pending` only. -/
theorem edge_confirmed_iff {status : OrderStatus} : Edge status .confirmed ↔ status = .pending := by
  cases status <;> decide

/-- **An acknowledgement keeps the lifecycle exactly when it is on time.** -/
theorem lifecycleStep_handleAck_iff (now : ℤ) (payload : AckPayload) (ids : ℕ → ℕ) (d : OmsDb) :
    LifecycleStep d ((handleAck now payload).run ids d).2 ↔
      AckOnTime d (.handleAck now payload) := by
  rcases handleAck_run now payload ids d with ⟨hd, hall⟩ | ⟨id, order, hid, horder, hne, hd⟩
  · rw [hd]
    exact ⟨fun _ id order hid horder => .inr (hall id order hid horder), fun _ => .refl d⟩
  · rw [hd]
    constructor
    · intro h id' order' hid' horder'
      rw [hid] at hid'
      cases hid'
      rw [horder] at horder'
      cases horder'
      obtain ⟨order', horder', hstatus⟩ := h _ order horder
      rw [orderAt_set, if_pos rfl] at horder'
      cases horder'
      rcases hstatus with heq | hedge
      · exact absurd heq.symm hne
      · exact .inl (edge_confirmed_iff.1 hedge)
    · intro h
      have hpending := (h id order hid horder).resolve_right hne
      exact lifecycleStep_setStatus horder (edge_confirmed_iff.2 hpending)

end Status

/-! ### The tasks -/

section Tasks

variable {s : Txn.Session OmsKey OmsRow} {d : OmsDb} {item : OmsKey × Order}
  {items : List (OmsKey × Order)} (now : ℤ) (status : OrderStatus) (log : Option SweepLog)

/-- Inserting a log changes no order. -/
theorem exec_insertLog_orderAt (orderId : Uuid) (fromStatus toStatus remark : String)
    (s : Txn.Session OmsKey OmsRow) (key : OmsKey) :
    ((insertLog now orderId fromStatus toStatus remark).exec s).2.committed = s.committed ∧
    orderAt ((insertLog now orderId fromStatus toStatus remark).exec s).2.working key =
      orderAt s.working key := by
  unfold insertLog
  rw [Prog.bind_eq, Prog.exec_bind, Prog.exec_newId]
  simp only
  cases hget : s.working.get? (.statusLog (s.ids 0)) with
  | none =>
    rw [Prog.exec_insertOr_none (by exact hget)]
    refine ⟨rfl, ?_⟩
    rw [orderAt_set]
    split_ifs with hk
    · rw [← hk, orderAt, hget]
      rfl
    · rfl
  | some row =>
    rw [Prog.exec_insertOr_some (by exact hget)]
    exact ⟨rfl, rfl⟩

/-- The change of one order. -/
theorem exec_sweepOrder {order : Order} (horder : orderAt s.working item.1 = some order)
    (key : OmsKey) :
    ((sweepOrder now status log item).exec s).2.committed = s.committed ∧
    orderAt ((sweepOrder now status log item).exec s).2.working key =
      if item.1 = key then some (setStatus now status order) else orderAt s.working key := by
  have hset : orderAt (s.working.set item.1 (.order (setStatus now status order))) key =
      if item.1 = key then some (setStatus now status order) else orderAt s.working key := by
    rw [orderAt_set]
    rfl
  unfold sweepOrder
  rw [Prog.bind_eq, Prog.exec_bind, Prog.exec_updateOr (get?_of_orderAt horder)]
  cases log with
  | none => exact ⟨rfl, hset⟩
  | some log =>
    obtain ⟨hcommitted, horders⟩ := exec_insertLog_orderAt now item.2.id log.fromStatus
      log.toStatus log.remark
      { s with working := s.working.set item.1 (.order (setStatus now status order)) } key
    exact ⟨hcommitted, horders.trans hset⟩

/-- The loop over the orders that are due: orders that are left are as they were selected. -/
theorem exec_forEach_sweepOrder (hnodup : (items.map Prod.fst).Nodup)
    (hitems : ∀ item ∈ items, orderAt d item.1 = some item.2 ∧ Edge item.2.status status)
    (hleft : ∀ item ∈ items, orderAt s.working item.1 = some item.2)
    (hs : LifecycleStep d s.working) :
    ((Prog.forEach items (sweepOrder now status log)).exec s).2.committed = s.committed ∧
      LifecycleStep d ((Prog.forEach items (sweepOrder now status log)).exec s).2.working := by
  induction items generalizing s with
  | nil => exact ⟨rfl, hs⟩
  | cons item items ih =>
    obtain ⟨hnotMem, hnodup⟩ := List.nodup_cons.1 hnodup
    have hsweep := exec_sweepOrder now status log (hleft item List.mem_cons_self)
    have hlifecycle : LifecycleStep d ((sweepOrder now status log item).exec s).2.working := by
      intro key order horder
      rw [(hsweep key).2]
      split_ifs with hk
      · subst hk
        obtain ⟨hd, hedge⟩ := hitems item List.mem_cons_self
        rw [hd] at horder
        cases horder
        exact ⟨_, rfl, .inr hedge⟩
      · exact hs key order horder
    rw [Prog.forEach, Prog.exec_bind]
    cases hexec : (sweepOrder now status log item).exec s with
    | mk result s' =>
      rw [hexec] at hsweep hlifecycle
      cases result with
      | error e => exact ⟨(hsweep item.1).1, hlifecycle⟩
      | ok _ =>
        have hrest : ∀ item' ∈ items, orderAt s'.working item'.1 = some item'.2 := by
          intro item' hitem'
          have hne : item.1 ≠ item'.1 := fun h => hnotMem (h ▸ List.mem_map_of_mem hitem')
          rw [(hsweep item'.1).2, if_neg hne]
          exact hleft item' (List.mem_cons_of_mem _ hitem')
        obtain ⟨hcommitted, hworking⟩ := ih hnodup
          (fun item' hitem' => hitems item' (List.mem_cons_of_mem _ hitem')) hrest hlifecycle
        exact ⟨hcommitted.trans (hsweep item.1).1, hworking⟩

/-- What `selectOrders` gives. -/
def selectedOrders (due : Order → Bool) (d : OmsDb) : List (OmsKey × Order) :=
  (Txn.select (fun _ row => row.order?.any due) d).filterMap fun item =>
    item.2.order?.map (item.1, ·)

/-- An order is selected once. -/
theorem nodup_selectedOrders (due : Order → Bool) (d : OmsDb) :
    ((selectedOrders due d).map Prod.fst).Nodup := by
  refine (Txn.nodup_select (fun _ row => row.order?.any due) d).sublist ?_
  unfold selectedOrders
  generalize Txn.select (fun _ row => row.order?.any due) d = rows
  induction rows with
  | nil => exact List.Sublist.refl _
  | cons row rows ih =>
    rw [List.filterMap_cons]
    cases row.2.order? with
    | none => exact ih.cons _
    | some order => exact ih.cons_cons _

theorem mem_selectedOrders {due : Order → Bool} {d : OmsDb} {item : OmsKey × Order} :
    item ∈ selectedOrders due d ↔ orderAt d item.1 = some item.2 ∧ due item.2 = true := by
  obtain ⟨key, order⟩ := item
  rw [selectedOrders, List.mem_filterMap]
  constructor
  · rintro ⟨⟨key', row⟩, hrow, hmap⟩
    obtain ⟨order', horder, heq⟩ := Option.map_eq_some_iff.1 hmap
    cases heq
    obtain ⟨hget, hdue⟩ := Txn.mem_select.1 hrow
    refine ⟨by rw [orderAt, hget]; exact horder, ?_⟩
    simpa [show row.order? = some order from horder] using hdue
  · rintro ⟨horder, hdue⟩
    refine ⟨(key, .order order), Txn.mem_select.2 ⟨get?_of_orderAt horder, ?_⟩, rfl⟩
    simpa [OmsRow.order?] using hdue

/-- An order is under its identifier. -/
theorem key_of_orderAt {d : OmsDb} (hd : Keyed d) {key : OmsKey} {order : Order}
    (h : orderAt d key = some order) : key = .order order.id := by
  have hkey := hd key _ (get?_of_orderAt h)
  cases key <;> simp_all [RowAt]

/-- The orders that are selected have different identifiers. -/
theorem nodup_ids_selectedOrders {d : OmsDb} (hd : Keyed d) (due : Order → Bool) :
    ((selectedOrders due d).map fun item => item.2.id).Nodup := by
  have hkeys : (selectedOrders due d).map Prod.fst =
      ((selectedOrders due d).map fun item => item.2.id).map OmsKey.order := by
    rw [List.map_map]
    exact List.map_congr_left fun item hitem => key_of_orderAt hd (mem_selectedOrders.1 hitem).1
  have hnodup := nodup_selectedOrders due d
  rw [hkeys] at hnodup
  exact hnodup.of_map

theorem exec_selectOrders (due : Order → Bool) (s : Txn.Session OmsKey OmsRow) :
    (selectOrders due).exec s = (.ok (selectedOrders due s.working), s) := rfl

theorem ensures_selectOrders {C : OmsDb → OmsDb → Prop} {due : Order → Bool} {w : OmsDb}
    {post : List (OmsKey × Order) → OmsDb → OmsDb → Prop} :
    Txn.Ensures C post (selectOrders due) d w ↔ post (selectedOrders due w) d w := Iff.rfl

/-- **A task that follows edges keeps the lifecycle.** -/
theorem lifecycleStep_sweepOrders {due : Order → Bool} {status : OrderStatus}
    (hdue : ∀ order, due order = true → Edge order.status status)
    (ids : ℕ → ℕ) (d : OmsDb) :
    LifecycleStep d ((sweepOrders now due status log).run ids d).2 := by
  obtain ⟨hcommitted, hworking⟩ := exec_forEach_sweepOrder now status log (s := ⟨d, d, ids⟩)
    (nodup_selectedOrders due d)
    (fun item hitem => (mem_selectedOrders.1 hitem).imp_right (hdue _))
    (fun item hitem => (mem_selectedOrders.1 hitem).1) (.refl d)
  simp only [sweepOrders, Prog.run, Prog.bind_eq, Prog.exec_bind, exec_selectOrders]
  cases hexec : (Prog.forEach (selectedOrders due d) (sweepOrder now status log)).exec
    ⟨d, d, ids⟩ with
  | mk result s' =>
    rw [hexec] at hcommitted hworking
    cases result with
    | error e =>
      simp only at hcommitted ⊢
      rw [hcommitted]
      exact .refl d
    | ok _ => exact hworking

end Tasks

/-! ### Runs -/

/-- **A call keeps the lifecycle exactly when its acknowledgement is on time.** -/
theorem lifecycleStep_iff {d d' : OmsDb} {event : OmsEvent} (h : omsSystem.step d event d') :
    LifecycleStep d d' ↔ AckOnTime d event := by
  obtain ⟨ids, rfl⟩ := h
  -- every call but an acknowledgement keeps it
  have hkeeps (h : LifecycleStep d (event.apply ids d)) (hack : AckOnTime d event) :
      LifecycleStep d (event.apply ids d) ↔ AckOnTime d event := ⟨fun _ => hack, fun _ => h⟩
  cases event with
  | createOrder now datePart suffix data =>
    exact hkeeps (lifecycleStep_run
      (writes_of_inserts (inserts_createOrder now datePart suffix data))
      ids d) trivial
  | updateOrderStatus now orderId target =>
    exact hkeeps (lifecycleStep_updateOrderStatus now orderId target ids d) trivial
  | deleteOrder now orderId =>
    exact hkeeps (lifecycleStep_run (writes_deleteOrder now orderId) ids d) trivial
  | splitOrder now orderId splits reason =>
    exact hkeeps (lifecycleStep_run (writes_splitOrder now orderId splits reason) ids d) trivial
  | mergeOrders orderIds code warehouseId note =>
    exact hkeeps (lifecycleStep_run
      (writes_of_inserts (inserts_mergeOrders orderIds code warehouseId note)) ids d) trivial
  | autoCompletePickedOrders now =>
    refine hkeeps (lifecycleStep_sweepOrders now _ (fun order hdue => ?_) ids d) trivial
    rw [(of_decide_eq_true hdue).1]
    decide
  | cancelAbandonedDrafts now =>
    refine hkeeps (lifecycleStep_sweepOrders now _ (fun order hdue => ?_) ids d) trivial
    rw [(of_decide_eq_true hdue).1]
    decide
  | cancelExpiredOrders now =>
    refine hkeeps (lifecycleStep_sweepOrders now _ (fun order hdue => ?_) ids d) trivial
    rw [(of_decide_eq_true hdue).1]
    decide
  | processPendingOrders now =>
    refine hkeeps (lifecycleStep_sweepOrders now _ (fun order hdue => ?_) ids d) trivial
    rw [(of_decide_eq_true hdue).1]
    decide
  | processStaleOrders now =>
    exact hkeeps (lifecycleStep_run (writes_of_inserts (inserts_processStaleOrders now)) ids d)
      trivial
  | handleAck now payload => exact lifecycleStep_handleAck_iff now payload ids d

/-- The status of an order moves along edges only. -/
def StatusPath (d d' : OmsDb) : Prop :=
  ∀ key order, orderAt d key = some order → ∃ order', orderAt d' key = some order' ∧
    Relation.ReflTransGen Edge order.status order'.status

theorem StatusPath.refl (d : OmsDb) : StatusPath d d := fun _ order h => ⟨order, h, .refl⟩

theorem StatusPath.trans {d d' d'' : OmsDb} (h : StatusPath d d') (h' : StatusPath d' d'') :
    StatusPath d d'' := by
  intro key order horder
  obtain ⟨order', horder', hpath⟩ := h key order horder
  obtain ⟨order'', horder'', hpath'⟩ := h' key order' horder'
  exact ⟨order'', horder'', hpath.trans hpath'⟩

theorem LifecycleStep.statusPath {d d' : OmsDb} (h : LifecycleStep d d') : StatusPath d d' := by
  intro key order horder
  obtain ⟨order', horder', hstatus⟩ := h key order horder
  refine ⟨order', horder', ?_⟩
  rcases hstatus with heq | hedge
  · rw [heq]
  · exact .single hedge

/-- No path leaves a terminal status. -/
theorem eq_of_terminal {s t : OrderStatus} (hs : Terminal s)
    (h : Relation.ReflTransGen Edge s t) : t = s := by
  induction h with
  | refl => rfl
  | tail _ hedge ih =>
    rw [ih] at hedge
    exact absurd hedge (terminal_iff.1 hs _)

/-- **A run keeps the lifecycle at every step exactly when every acknowledgement is on time**, and
then every terminal status is kept for ever. -/
theorem lifecycle_iff_acksOnTime (d d' : OmsDb) (events : List OmsEvent) :
    ((omsSystem.restrict fun d _ d' => LifecycleStep d d').Run d events d' ↔
      (omsSystem.guard AckOnTime).Run d events d') ∧
    ((omsSystem.guard AckOnTime).Run d events d' → ∀ key order, orderAt d key = some order →
      Terminal order.status → ∃ order', orderAt d' key = some order' ∧
        order'.status = order.status) := by
  have heq : (omsSystem.restrict fun d _ d' => LifecycleStep d d') = omsSystem.guard AckOnTime :=
    Lts.restrict_eq_guard fun _ _ _ => lifecycleStep_iff
  refine ⟨by rw [heq], fun hrun key order horder hterminal => ?_⟩
  rw [← heq] at hrun
  obtain ⟨order', horder', hpath⟩ := hrun.relation StatusPath.refl (fun _ _ _ h h' => h.trans h')
    (fun _ _ _ hstep => hstep.2.statusPath) key order horder
  exact ⟨order', horder', eq_of_terminal hterminal hpath⟩

/-! ### A cancelled order -/

/-- A cancelled order. -/
def cancelledOrder : Order where
  id := 1
  orderNo := "ORD-20240101-0001"
  status := .cancelled
  customerId := 2
  warehouseId := none
  totalAmount := 0
  priority := .medium
  notes := ""
  isDeleted := false
  deletedAt := none
  createdAt := 0
  updatedAt := 5

/-- The cancelled order alone. -/
def cancelledDb : OmsDb := Dict.empty.set (.order 1) (.order cancelledOrder)

theorem orderAt_cancelledDb {key : OmsKey} {order : Order}
    (h : orderAt cancelledDb key = some order) :
    key = .order 1 ∧ order = cancelledOrder := by
  rw [cancelledDb, orderAt_set] at h
  split_ifs at h with hk
  · exact ⟨hk.symm, (Option.some.inj h).symm⟩
  · cases h

/-- An acknowledgement of another order leaves the cancelled order cancelled. -/
theorem cancelledDb_keeps_status : ∃ order',
    orderAt (OmsEvent.apply (.handleAck 9 (.dict (some ⟨"3", some 3⟩))) id cancelledDb) (.order 1) =
      some order' ∧ order'.status = .cancelled := by
  refine (lifecycle_iff_acksOnTime cancelledDb _ [.handleAck 9 (.dict (some ⟨"3", some 3⟩))]).2
    (.single ⟨⟨id, rfl⟩, ?_⟩) (.order 1) cancelledOrder rfl (by decide)
  intro id order hid horder
  cases hid
  cases (orderAt_cancelledDb horder).1

/-- **A late acknowledgement brings a cancelled order back.** -/
theorem cancelledDb_revived : ∃ d' order',
    omsSystem.Run cancelledDb [.handleAck 9 (.dict (some ⟨"1", some 1⟩))] d' ∧
    orderAt cancelledDb (.order 1) = some cancelledOrder ∧ Terminal cancelledOrder.status ∧
    orderAt d' (.order 1) = some order' ∧ order'.status = .confirmed ∧
    ¬ Edge cancelledOrder.status order'.status :=
  ⟨_, setStatus 9 .confirmed cancelledOrder, .single ⟨id, rfl⟩, rfl, by decide, rfl, rfl, by decide⟩

end Oms

end OmsWmsTms
