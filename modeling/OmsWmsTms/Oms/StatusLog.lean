import OmsWmsTms.Oms.Effects

/-!
# The status log

Every service that changes a status writes a log, but `cancel_expired_orders` and
`process_pending_orders` do not; and `process_stale_orders` writes logs that flag an order whose
status stays.

* `history` : the log of an order, in the order in which its entries were written.
* `Replays` : a log starts at a status, follows the changes that it records and ends at a status;
  flags stand at the status of the moment.
* `LogStep` : what a service does to the status and the log of one order.
* `replays_run` : the log of an order replays its status, in every run that does not change the
  order without a log.
-/

namespace OmsWmsTms

namespace Oms

open Txn (Prog Writes Ensures ensures_bind ensures_insertOr)

/-! ### Logs -/

/-- The log of an order, in the order in which its entries were written. -/
def history (d : OmsDb) (id : Uuid) : List OrderStatusLog :=
  (statusLogs d).filter fun log => log.orderId = id

/-- The name of a status as the state machine spells it: `pending` is a `draft`. -/
def schemaName (name : String) : String := if name = "pending" then "draft" else name

/-- The text of a flag. -/
def flaggedStale : String := "flagged_stale"

/-- The log starts at the status `s`, each entry at the status that the entries before it lead to,
and the last one leads to `t`.  A flag leads nowhere. -/
def Replays (s : String) (logs : List OrderStatusLog) (t : String) : Prop :=
  match logs with
  | [] => s = t
  | log :: logs => schemaName log.fromStatus = s ∧
    Replays (if log.toStatus = flaggedStale then s else schemaName log.toStatus) logs t

/-- The log of an order replays its status; before its creation an order has no log. -/
def LogReplays (d : OmsDb) (id : Uuid) : Prop :=
  match orderAt d (.order id) with
  | none => history d id = []
  | some order => Replays "" (history d id) (statusReverse order.status)

theorem Replays.append {s t u : String} {logs logs' : List OrderStatusLog} (h : Replays s logs t)
    (h' : Replays t logs' u) : Replays s (logs ++ logs') u := by
  induction logs generalizing s with
  | nil => exact (show s = t from h) ▸ h'
  | cons log logs ih => exact ⟨h.1, ih h.2⟩

/-- One more change. -/
theorem Replays.change {s t : String} {logs : List OrderStatusLog} {log : OrderStatusLog}
    (h : Replays s logs (schemaName log.fromStatus)) (ht : schemaName log.toStatus = t)
    (hflag : log.toStatus ≠ flaggedStale) : Replays s (logs ++ [log]) t :=
  h.append ⟨rfl, by rw [if_neg hflag]; exact ht⟩

/-- One more flag. -/
theorem Replays.flag {s t : String} {logs : List OrderStatusLog} {log : OrderStatusLog}
    (h : Replays s logs t) (ht : schemaName log.fromStatus = t)
    (hflag : log.toStatus = flaggedStale) : Replays s (logs ++ [log]) t :=
  h.append ⟨ht, by rw [if_pos hflag]; rfl⟩

/-! ### One order and its log -/

/-- The status of an order, if it is there, and its log. -/
def view (d : OmsDb) (id : Uuid) : Option OrderStatus × List OrderStatusLog :=
  ((orderAt d (.order id)).map Order.status, history d id)

/-- What a service does to an order and its log. -/
inductive LogStep : Option OrderStatus × List OrderStatusLog →
    Option OrderStatus × List OrderStatusLog → Prop
  | create (logs : List OrderStatusLog) (log : OrderStatusLog)
    (h : log.fromStatus = "" ∧ log.toStatus = "pending") :
    LogStep (none, logs) (some .pending, logs ++ [log])
  | change (logs : List OrderStatusLog) (log : OrderStatusLog) (s t : OrderStatus)
    (hs : schemaName log.fromStatus = statusReverse s)
    (ht : schemaName log.toStatus = statusReverse t) :
    LogStep (some s, logs) (some t, logs ++ [log])
  | flag (logs : List OrderStatusLog) (log : OrderStatusLog) (s : OrderStatus)
    (hs : schemaName log.fromStatus = statusReverse s) (ht : log.toStatus = flaggedStale) :
    LogStep (some s, logs) (some s, logs ++ [log])

/-- Any number of such steps. -/
abbrev LogSteps := Relation.ReflTransGen LogStep

/-- The log replays the status. -/
def ViewReplays : Option OrderStatus × List OrderStatusLog → Prop
  | (none, logs) => logs = []
  | (some s, logs) => Replays "" logs (statusReverse s)

theorem viewReplays_view (d : OmsDb) (id : Uuid) : ViewReplays (view d id) ↔ LogReplays d id := by
  unfold view LogReplays
  cases orderAt d (.order id) <;> rfl

theorem ne_flaggedStale {name : String} {t : OrderStatus}
    (h : schemaName name = statusReverse t) : name ≠ flaggedStale := by
  rintro rfl
  revert h
  cases t <;> decide

/-- **A step keeps the replay.** -/
theorem LogStep.viewReplays {x y : Option OrderStatus × List OrderStatusLog} (h : LogStep x y)
    (hx : ViewReplays x) : ViewReplays y := by
  cases h with
  | create logs log hlog =>
    obtain rfl : logs = [] := hx
    refine ⟨by rw [hlog.1]; rfl, ?_⟩
    rw [hlog.2]
    rfl
  | change logs log s t hs ht =>
    have hx : Replays "" logs (statusReverse s) := hx
    exact (hs.symm ▸ hx).change ht (ne_flaggedStale ht)
  | flag logs log s hs ht => exact Replays.flag hx hs ht

theorem viewReplays_steps {x y : Option OrderStatus × List OrderStatusLog} (h : LogSteps x y)
    (hx : ViewReplays x) : ViewReplays y := by
  induction h with
  | refl => exact hx
  | tail _ hstep ih => exact hstep.viewReplays ih

/-! ### Writes -/

/-- What is committed takes an order and its log along steps. -/
def Logged (id : Uuid) (d w : OmsDb) : Prop := LogSteps (view d id) (view w id)

section Writes

variable {d w : OmsDb} {key : OmsKey} {id orderId : Uuid} {order order' : Order}
  {log : OrderStatusLog}

/-- A status that is written. -/
theorem view_set_order (h : orderAt d (.order orderId) = some order) :
    view (d.set (.order orderId) (.order order')) id =
      (if orderId = id then some order'.status else (view d id).1, (view d id).2) := by
  have hlogs : statusLogs (d.set (.order orderId) (.order order')) = statusLogs d :=
    Txn.rows_set_of_eq (get?_of_orderAt h) rfl
  rw [view, history, hlogs, orderAt_set]
  by_cases hid : orderId = id <;> simp [hid, view, history, OmsRow.order?]

/-- An entry that is written. -/
theorem view_set_log {n : Uuid} (h : d.get? (.statusLog n) = none) :
    view (d.set (.statusLog n) (.statusLog log)) id =
      ((view d id).1, (view d id).2 ++ if log.orderId = id then [log] else []) := by
  have hlogs : statusLogs (d.set (.statusLog n) (.statusLog log)) = statusLogs d ++ [log] :=
    Txn.rows_set_of_none h
  rw [view, orderAt_set, if_neg (by simp), history, hlogs, List.filter_append]
  by_cases hid : log.orderId = id <;> simp [hid, view, history]

theorem view_of_orderAt (h : orderAt d (.order id) = some order) :
    view d id = (some order.status, history d id) := by
  rw [view, h]
  rfl

/-- A change of the status and its entry. -/
theorem logged_change {n : Uuid} (horder : orderAt w (.order orderId) = some order)
    (hfree : (w.set (.order orderId) (.order order')).get? (.statusLog n) = none)
    (hlog : log.orderId = orderId)
    (hfrom : schemaName log.fromStatus = statusReverse order.status)
    (hto : schemaName log.toStatus = statusReverse order'.status) :
    Logged id w ((w.set (.order orderId) (.order order')).set (.statusLog n) (.statusLog log)) := by
  rw [Logged, view_set_log hfree, view_set_order horder, hlog]
  by_cases hid : orderId = id
  · subst hid
    rw [view_of_orderAt horder, if_pos rfl, if_pos rfl]
    exact .single (.change _ log _ _ hfrom hto)
  · rw [if_neg hid, if_neg hid, List.append_nil]

/-- A flag. -/
theorem logged_flag {n : Uuid} (horder : orderAt w (.order orderId) = some order)
    (hfree : w.get? (.statusLog n) = none) (hlog : log.orderId = orderId)
    (hfrom : schemaName log.fromStatus = statusReverse order.status)
    (hto : log.toStatus = flaggedStale) :
    Logged id w (w.set (.statusLog n) (.statusLog log)) := by
  rw [Logged, view_set_log hfree, hlog]
  by_cases hid : orderId = id
  · subst hid
    rw [view_of_orderAt horder, if_pos rfl]
    exact .single (.flag _ log _ hfrom hto)
  · rw [if_neg hid, List.append_nil]

end Writes

/-! ### Services -/

section Services

variable {d : OmsDb} {id : Uuid}

/-- A new order and its first entry. -/
theorem Created.logged {total : ℚ} {w : OmsDb} {order : Order} {log : OrderStatusLog}
    {event : OutboxEvent} (h : Created total d w order log event) : Logged id d w := by
  have hview : view w id = if order.id = id then (some .pending, history d id ++ [log])
      else view d id := by
    rw [view, h.orderAt_eq, history, h.statusLogs_eq, List.filter_append]
    by_cases hid : order.id = id
    · simp [hid, h.log_eq.1, h.pending, history]
    · simp [hid, h.log_eq.1, view, history]
  rw [Logged, hview]
  split_ifs with hid
  · subst hid
    rw [view, h.free]
    exact .single (.create _ log h.log_eq.2)
  · exact .refl

/-- A log that gives the names of two statuses. -/
def SweepLog.Fits (log : SweepLog) (s t : OrderStatus) : Prop :=
  schemaName log.fromStatus = statusReverse s ∧ schemaName log.toStatus = statusReverse t

theorem schemaName_statusReverse (s : OrderStatus) :
    schemaName (statusReverse s) = statusReverse s := by
  cases s <;> rfl

/-- The names of the status column and of the schema. -/
theorem schemaName_value (s : OrderStatus) : schemaName s.value = statusReverse s := by
  cases s <;> rfl

theorem logged_updateOrderStatus (now : ℤ) (orderId : IdArg) (target : String) (d : OmsDb) :
    Ensures (Logged id) (fun _ _ _ => True) (updateOrderStatus now orderId target) d d := by
  unfold updateOrderStatus toUuid
  cases orderId.uuid? with
  | none => trivial
  | some uid =>
    simp only [Prog.ret_bind, Prog.pure_eq, Prog.bind_eq, ensures_bind, ensures_selectOrder]
    cases horder : orderAt d (.order uid) with
    | none => trivial
    | some order =>
      simp only [ensures_bind, Txn.ensures_ofExcept, Txn.ensures_updateOr, Txn.ensures_commitOr]
      intro _ hvalid row hrow
      obtain rfl : row = .order order := Option.some.inj (hrow.symm.trans (get?_of_orderAt horder))
      obtain ⟨t, ht, rfl⟩ :=
        exists_statusMap_of_mem_allowed (validateTransition_eq_ok_iff.1 hvalid)
      rw [ensures_insertLog]
      intro n hfree
      refine ⟨logged_change horder hfree rfl (schemaName_statusReverse _) ?_,
        (Ensures.reads (reads_refreshOrder uid)).mono fun order _ _ _ =>
          (Ensures.reads (reads_orderToDict _ _)).mono fun _ _ _ _ => trivial⟩
      rw [schemaName_statusReverse, ht]
      rfl

/-- What the loop of a task keeps: the orders that are left are as they were selected. -/
structure SweepInv (id : Uuid) (due : Order → Bool) (d₀ : OmsDb) (items : List (OmsKey × Order))
    (d w : OmsDb) : Prop where
  committed : d = d₀
  logged : Logged id d₀ w
  nodup : (items.map Prod.fst).Nodup
  left : ∀ item ∈ items, item.1 = .order item.2.id ∧ orderAt w item.1 = some item.2 ∧
    due item.2 = true

theorem sweepInv_start {due : Order → Bool} (hd : Keyed d) :
    SweepInv id due d (selectedOrders due d) d d where
  committed := rfl
  logged := .refl
  nodup := nodup_selectedOrders due d
  left item hitem := by
    obtain ⟨horder, hdue⟩ := mem_selectedOrders.1 hitem
    refine ⟨?_, horder, hdue⟩
    have hrow := hd _ _ (get?_of_orderAt horder)
    obtain ⟨key, order⟩ := item
    cases key <;> simp_all [RowAt]

/-- **A task that logs its changes.** -/
theorem logged_sweepOrders (now : ℤ) {due : Order → Bool} {status : OrderStatus} {log : SweepLog}
    (hdue : ∀ order, due order = true → log.Fits order.status status) (hd : Keyed d) :
    Ensures (Logged id) (fun _ _ _ => True) (sweepOrders now due status (some log)) d d := by
  refine ensures_bind.2 (ensures_selectOrders.2 (ensures_bind.2 ?_))
  refine (Ensures.forEach ?_ _ (sweepInv_start hd)).mono fun _ d' w h =>
    ensures_bind.2 (Txn.ensures_commitOr.2 ⟨h.committed ▸ h.logged, trivial⟩)
  rintro ⟨key, order⟩ items d' w h
  obtain ⟨hkey, horder, hdue'⟩ := h.left _ List.mem_cons_self
  obtain ⟨hnotMem, hnodup⟩ := List.nodup_cons.1 h.nodup
  obtain ⟨hfrom, hto⟩ := hdue _ hdue'
  obtain rfl : key = .order order.id := hkey
  refine ensures_bind.2 (Txn.ensures_updateOr.2 fun row hrow =>
    ensures_insertLog.2 fun n hfree => ?_)
  obtain rfl : row = .order order := Option.some.inj (hrow.symm.trans (get?_of_orderAt horder))
  refine ⟨h.committed, h.logged.trans (logged_change horder hfree rfl hfrom hto), hnodup,
    fun item hitem => ?_⟩
  obtain ⟨hkey', horder', hdue''⟩ := h.left item (List.mem_cons_of_mem _ hitem)
  refine ⟨hkey', ?_, hdue''⟩
  have hne : OmsKey.order order.id ≠ item.1 := fun heq =>
    hnotMem (List.mem_map.2 ⟨item, hitem, heq.symm⟩)
  rw [orderAt_set, if_neg (by rw [hkey']; simp), orderAt_set, if_neg hne]
  exact horder'

/-- What the loop of a task keeps of an order that is not due. -/
structure SpareInv (id : Uuid) (d₀ : OmsDb) (items : List (OmsKey × Order)) (d w : OmsDb) :
    Prop where
  committed : d = d₀
  view_eq : view w id = view d₀ id
  nodup : (items.map Prod.fst).Nodup
  left : ∀ item ∈ items, item.1 = .order item.2.id ∧ orderAt w item.1 = some item.2 ∧
    item.2.id ≠ id

theorem spareInv_start {due : Order → Bool} (hd : Keyed d)
    (hid : ∀ order, orderAt d (.order id) = some order → due order = false) :
    SpareInv id d (selectedOrders due d) d d where
  committed := rfl
  view_eq := rfl
  nodup := nodup_selectedOrders due d
  left item hitem := by
    obtain ⟨hkey, horder, hdue⟩ := (sweepInv_start hd : SweepInv id _ _ _ _ _).left item hitem
    refine ⟨hkey, horder, fun heq => ?_⟩
    rw [hkey, heq] at horder
    rw [hid _ horder] at hdue
    cases hdue

/-- A log of another order. -/
theorem spareInv_log {now : ℤ} {order : Order} {items : List (OmsKey × Order)} {d₀ w : OmsDb}
    {fromStatus toStatus remark : String} (hid : order.id ≠ id) (h : SpareInv id d₀ items d w) :
    Ensures (fun d w => view w id = view d id) (fun _ => SpareInv id d₀ items)
      (insertLog now order.id fromStatus toStatus remark) d w := by
  refine ensures_insertLog.2 fun n hfree => ⟨h.committed, ?_, h.nodup, fun item hitem => ?_⟩
  · rw [view_set_log hfree, if_neg hid, List.append_nil]
    exact h.view_eq
  · obtain ⟨hkey, horder, hne⟩ := h.left item hitem
    exact ⟨hkey, by rw [orderAt_set, if_neg (by rw [hkey]; simp)]; exact horder, hne⟩

/-- **A task leaves an order that is not due alone**, with its log. -/
theorem spares_sweepOrders (now : ℤ) {due : Order → Bool} {status : OrderStatus}
    {log : Option SweepLog}
    (hid : ∀ order, orderAt d (.order id) = some order → due order = false) (hd : Keyed d) :
    Ensures (fun d w => view w id = view d id) (fun _ _ _ => True)
      (sweepOrders now due status log) d d := by
  refine ensures_bind.2 (ensures_selectOrders.2 (ensures_bind.2 ?_))
  refine (Ensures.forEach ?_ _ (spareInv_start hd hid)).mono fun _ d' w h =>
    ensures_bind.2 (Txn.ensures_commitOr.2 ⟨h.committed ▸ h.view_eq, trivial⟩)
  rintro ⟨key, order⟩ items d' w h
  obtain ⟨hkey, horder, hne⟩ := h.left _ List.mem_cons_self
  obtain ⟨hnotMem, hnodup⟩ := List.nodup_cons.1 h.nodup
  obtain rfl : key = .order order.id := hkey
  refine ensures_bind.2 (Txn.ensures_updateOr.2 fun row hrow => ?_)
  obtain rfl : row = .order order := Option.some.inj (hrow.symm.trans (get?_of_orderAt horder))
  have hset : SpareInv id d items d' (w.set (.order order.id)
      (.order (setStatus now status order))) := by
    refine ⟨h.committed, ?_, hnodup, fun item hitem => ?_⟩
    · rw [view_set_order horder, if_neg hne]
      exact h.view_eq
    · obtain ⟨hkey', horder', hne'⟩ := h.left item (List.mem_cons_of_mem _ hitem)
      have hkeys : OmsKey.order order.id ≠ item.1 := fun heq =>
        hnotMem (List.mem_map.2 ⟨item, hitem, heq.symm⟩)
      exact ⟨hkey', by rw [orderAt_set, if_neg hkeys]; exact horder', hne'⟩
  cases log with
  | none => exact hset
  | some log => exact spareInv_log hne hset

/-- **`process_stale_orders` leaves an order that is not stale alone.** -/
theorem spares_processStaleOrders (now : ℤ)
    (hid : ∀ order, orderAt d (.order id) = some order → ¬ IsStale now order) (hd : Keyed d) :
    Ensures (fun d w => view w id = view d id) (fun _ _ _ => True)
      (processStaleOrders now) d d := by
  refine ensures_bind.2 (ensures_selectOrders.2 (ensures_bind.2 ?_))
  have hstart := spareInv_start hd fun order horder => decide_eq_false (hid order horder)
  refine (Ensures.forEach ?_ _ hstart).mono fun _ d' w h =>
    ensures_bind.2 (Txn.ensures_commitOr.2 ⟨h.committed ▸ h.view_eq, trivial⟩)
  rintro ⟨key, order⟩ items d' w h
  obtain ⟨hkey, horder, hne⟩ := h.left _ List.mem_cons_self
  refine spareInv_log hne ⟨h.committed, h.view_eq, h.nodup.of_cons, fun item hitem => ?_⟩
  exact h.left item (List.mem_cons_of_mem _ hitem)

/-- **A task that does not log its changes**, where it does not change the order. -/
theorem logged_sweepOrders_of_not_due (now : ℤ) {due : Order → Bool} {status : OrderStatus}
    (hid : ∀ order, orderAt d (.order id) = some order → due order = false) (hd : Keyed d) :
    Ensures (Logged id) (fun _ _ _ => True) (sweepOrders now due status none) d d :=
  (spares_sweepOrders now hid hd).weaken fun d w heq => by rw [Logged, heq]

/-- **`process_stale_orders` flags.** -/
theorem logged_processStaleOrders (now : ℤ) (hd : Keyed d) :
    Ensures (Logged id) (fun _ _ _ => True) (processStaleOrders now) d d := by
  refine ensures_bind.2 (ensures_selectOrders.2 (ensures_bind.2 ?_))
  refine (Ensures.forEach ?_ _ (sweepInv_start hd)).mono fun _ d' w h =>
    ensures_bind.2 (Txn.ensures_commitOr.2 ⟨h.committed ▸ h.logged, trivial⟩)
  rintro ⟨key, order⟩ items d' w h
  obtain ⟨hkey, horder, -⟩ := h.left _ List.mem_cons_self
  obtain rfl : key = .order order.id := hkey
  refine ensures_insertLog.2 fun n hfree => ?_
  refine ⟨h.committed, h.logged.trans (logged_flag horder hfree rfl (schemaName_value _) rfl),
    h.nodup.of_cons, fun item hitem => ?_⟩
  obtain ⟨hkey', horder', hdue'⟩ := h.left item (List.mem_cons_of_mem _ hitem)
  refine ⟨hkey', ?_, hdue'⟩
  rw [orderAt_set, if_neg (by rw [hkey']; simp)]
  exact horder'

end Services

/-! ### Runs -/

/-- The services that the log is about. -/
def IsStatusService : OmsEvent → Prop
  | .createOrder .. | .updateOrderStatus .. | .autoCompletePickedOrders _
  | .cancelAbandonedDrafts _ | .cancelExpiredOrders _ | .processPendingOrders _
  | .processStaleOrders _ => True
  | .deleteOrder .. | .splitOrder .. | .mergeOrders .. | .handleAck .. => False

/-- A call of these services that does not change the order without a log. -/
def ChangesLogged (id : Uuid) (d : OmsDb) (event : OmsEvent) : Prop :=
  IsStatusService event ∧ match event with
    | .cancelExpiredOrders now =>
      ∀ order, orderAt d (.order id) = some order → ¬ IsExpired now order
    | .processPendingOrders now =>
      ∀ order, orderAt d (.order id) = some order → ¬ IsReady now order
    | _ => True

theorem logged_of_commits {id : Uuid} {d d' : OmsDb}
    (h : Relation.ReflTransGen (Logged id) d d') : Logged id d d' := by
  induction h with
  | refl => exact .refl
  | tail _ hstep ih => exact ih.trans hstep

/-- **A call takes an order and its log along steps**, and keeps the rows under their keys. -/
theorem logged_step {id : Uuid} {d d' : OmsDb} {event : OmsEvent}
    (h : omsSystem.step d event d') (hlogged : ChangesLogged id d event) (hd : Keyed d) :
    Logged id d d' ∧ Keyed d' := by
  obtain ⟨ids, rfl⟩ := h
  obtain ⟨hservice, hchange⟩ := hlogged
  have hrun {A : Type} {p : OmsProg A} {ts : List OmsTable} {change : Order → Order → Prop}
      (hp : Ensures (Logged id) (fun _ _ _ => True) p d d) (hw : Writes True (Changes ts change) p)
      (hid : KeepsId change) : Logged id d (p.run ids d).2 ∧ Keyed (p.run ids d).2 := by
    exact ⟨logged_of_commits (hp.run ids).1, keyed_run hw hid hd ids⟩
  cases event with
  | createOrder now datePart suffix data =>
    exact hrun ((ensures_createOrder now datePart suffix data d fun _ _ _ _ h => h.logged).mono
        fun _ _ _ _ => trivial)
      (changes_of_inserts (inserts_createOrder now datePart suffix data)) (keepsId_setsTotal)
  | updateOrderStatus now orderId target =>
    exact hrun (logged_updateOrderStatus now orderId target d)
      (changes_updateOrderStatus now orderId target) (keepsId_setsStatus _)
  | autoCompletePickedOrders now =>
    refine hrun (logged_sweepOrders now (fun order hdue => ?_) hd)
      (changes_sweepOrders now _ _ _) (keepsId_setsStatus _)
    rw [(of_decide_eq_true hdue).1]
    exact ⟨rfl, rfl⟩
  | cancelAbandonedDrafts now =>
    refine hrun (logged_sweepOrders now (fun order hdue => ?_) hd)
      (changes_sweepOrders now _ _ _) (keepsId_setsStatus _)
    rw [(of_decide_eq_true hdue).1]
    exact ⟨rfl, rfl⟩
  | cancelExpiredOrders now =>
    exact hrun (logged_sweepOrders_of_not_due now
      (fun order horder => decide_eq_false (hchange order horder)) hd)
      (changes_sweepOrders now _ _ _) (keepsId_setsStatus _)
  | processPendingOrders now =>
    exact hrun (logged_sweepOrders_of_not_due now
      (fun order horder => decide_eq_false (hchange order horder)) hd)
      (changes_sweepOrders now _ _ _) (keepsId_setsStatus _)
  | processStaleOrders now =>
    exact hrun (logged_processStaleOrders now hd)
      (changes_of_inserts (inserts_processStaleOrders now)) (keepsId_setsTotal)
  | deleteOrder => exact hservice.elim
  | splitOrder => exact hservice.elim
  | mergeOrders => exact hservice.elim
  | handleAck => exact hservice.elim

/-- **The log of an order replays its status** after every run that does not change the order
without a log. -/
theorem replays_run {id : Uuid} {d d' : OmsDb} {events : List OmsEvent} (hd : Keyed d)
    (hreplays : LogReplays d id) (h : (omsSystem.guard (ChangesLogged id)).Run d events d') :
    LogReplays d' id := by
  have hinv : Keyed d ∧ ViewReplays (view d id) := ⟨hd, (viewReplays_view d id).2 hreplays⟩
  refine (viewReplays_view d' id).1
    (h.invariant (I := fun d => Keyed d ∧ ViewReplays (view d id)) hinv ?_).2
  rintro d event d' ⟨hd, hview⟩ ⟨hstep, hlogged⟩
  obtain ⟨hsteps, hd'⟩ := logged_step hstep hlogged hd
  exact ⟨hd', viewReplays_steps hsteps hview⟩

/-! ### A flagged order -/

/-- The log is a chain, with every entry a change of the status. -/
def Chain (s : String) (logs : List OrderStatusLog) (t : String) : Prop :=
  match logs with
  | [] => s = t
  | log :: logs => schemaName log.fromStatus = s ∧ Chain (schemaName log.toStatus) logs t

instance decidableChain (s : String) (logs : List OrderStatusLog) (t : String) :
    Decidable (Chain s logs t) :=
  match logs with
  | [] => inferInstanceAs (Decidable (s = t))
  | log :: logs =>
    have := decidableChain (schemaName log.toStatus) logs t
    inferInstanceAs (Decidable (_ ∧ _))

/-- An order is created, confirmed and processed, and flagged on the next day; with the new
identifiers of each call. -/
def flaggedCalls : List (OmsEvent × (ℕ → ℕ)) :=
  [(.createOrder 0 "19700101" "0A0B0C0D" { customerId := "C-1" }, fun n => n + 1),
    (.updateOrderStatus 1 ⟨"2", some 2⟩ "confirmed", fun n => n + 11),
    (.updateOrderStatus 2 ⟨"2", some 2⟩ "processing", fun n => n + 21),
    (.processStaleOrders day, fun n => n + 31)]

/-- The rows after some calls. -/
def applyAll (d : OmsDb) (calls : List (OmsEvent × (ℕ → ℕ))) : OmsDb :=
  calls.foldl (fun d call => call.1.apply call.2 d) d

theorem run_applyAll {C : OmsDb → OmsEvent → Prop} (d : OmsDb)
    (calls : List (OmsEvent × (ℕ → ℕ))) (h : ∀ d, ∀ call ∈ calls, C d call.1) :
    (omsSystem.guard C).Run d (calls.map Prod.fst) (applyAll d calls) := by
  induction calls generalizing d with
  | nil => exact .nil d
  | cons call calls ih =>
    exact .cons ⟨⟨call.2, rfl⟩, h d call List.mem_cons_self⟩
      (ih _ fun d call hcall => h d call (List.mem_cons_of_mem _ hcall))

/-- The rows after these calls, from an empty database. -/
def flaggedDb : OmsDb := applyAll Dict.empty flaggedCalls

/-- The log of the flagged order replays its status. -/
theorem flaggedDb_replays : LogReplays flaggedDb 2 := by
  refine replays_run (d := Dict.empty) (fun key row h => nomatch h) rfl
    (run_applyAll Dict.empty flaggedCalls fun d call hcall => ?_)
  simp only [flaggedCalls, List.mem_cons, List.not_mem_nil, or_false] at hcall
  rcases hcall with rfl | rfl | rfl | rfl <;> exact ⟨trivial, trivial⟩

/-- **The log of the flagged order is no chain of changes that ends at its status**: the last entry
leads to `flagged_stale`, and the order is `processing`. -/
theorem flaggedDb_not_chain : omsSystem.Run Dict.empty (flaggedCalls.map Prod.fst) flaggedDb ∧
    (∀ call ∈ flaggedCalls, IsStatusService call.1) ∧
    (orderAt flaggedDb (.order 2)).map Order.status = some .processing ∧
    ¬ Chain "" (history flaggedDb 2) (statusReverse .processing) :=
  ⟨(run_applyAll (C := fun _ _ => True) _ _ fun _ _ _ => trivial).of_guard,
    by simp [flaggedCalls, IsStatusService], by decide +kernel, by decide +kernel⟩

end Oms

end OmsWmsTms
