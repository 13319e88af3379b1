import OmsWmsTms.Oms.Lifecycle
import OmsWmsTms.Txn.Alone
import OmsWmsTms.Txn.Ends

/-!
# What the order services commit

* `Extends ts d w` : the rows `w` are the rows `d` with new rows in the tables `ts`.
* `Created` : the rows after a new order; `ensures_createOrder` : what `create_order` commits.
* `createOrder_error` : when it raises, it has committed nothing.
-/

namespace OmsWmsTms

namespace Oms

open Txn (Prog Writes Ensures ensures_bind ensures_insertOr Ends ends_bind)

/-! ### Tables -/

/-- The rows of `order_status_logs`, in the order in which they were written. -/
def statusLogs (d : OmsDb) : List OrderStatusLog := Txn.rows OmsRow.statusLog? d

/-- The rows of `order_items`. -/
def orderItems (d : OmsDb) : List OrderItem := Txn.rows OmsRow.orderItem? d

/-- The rows of `outbox_events`. -/
def outboxEvents (d : OmsDb) : List OutboxEvent := Txn.rows OmsRow.outboxEvent? d

/-- The rows of `merge_groups`. -/
def mergeGroups (d : OmsDb) : List MergeGroup := Txn.rows OmsRow.mergeGroup? d

/-- The rows of `split_child_orders`. -/
def links (d : OmsDb) : List SplitChildOrder := Txn.rows OmsRow.splitChildOrder? d

/-- The lines of an order. -/
def linesOf (d : OmsDb) (id : Uuid) : List OrderItem :=
  (orderItems d).filter fun item => item.orderId = id

/-- The total of an order. -/
def totalAt (d : OmsDb) (id : Uuid) : ℚ :=
  ((orderAt d (.order id)).map fun order => (order.totalAmount : ℚ)).getD 0

/-- The foreign keys on orders and merge groups. -/
structure ForeignKeys (d : OmsDb) : Prop where
  orderItem : ∀ item ∈ orderItems d, orderAt d (.order item.orderId) ≠ none
  link : ∀ link ∈ links d, orderAt d (.order link.childOrderId) ≠ none
  group : ∀ link ∈ links d, ∀ id, link.mergeGroupId = some id → d.get? (.mergeGroup id) ≠ none

theorem ensures_selectItems {C : OmsDb → OmsDb → Prop} {d w : OmsDb}
    {post : List (OmsKey × OrderItem) → OmsDb → OmsDb → Prop} {id : Uuid}
    (h : ∀ items, items.map Prod.snd = linesOf w id → post items d w) :
    Ensures C post (selectItems id) d w := by
  refine h _ ?_
  rw [linesOf, orderItems, Txn.rows, List.map_filterMap, List.filter_filterMap, Txn.select,
    List.filterMap_filter]
  refine List.filterMap_congr fun item _ => ?_
  cases item.2.orderItem? with
  | none => rfl
  | some oi => by_cases hid : oi.orderId = id <;> simp [hid, Option.filter]

/-- The rows `w` are the rows `d` with new rows in the tables `ts`. -/
structure Extends (ts : List OmsTable) (d w : OmsDb) : Prop where
  /-- What does not look at these tables finds the same. -/
  rows : ∀ {α : Type} (f : OmsRow → Option α), (∀ row, row.table ∈ ts → f row = none) →
    Txn.rows f w = Txn.rows f d
  /-- The old rows are there. -/
  get? : ∀ key row, d.get? key = some row → w.get? key = some row
  /-- The new rows are in these tables. -/
  new : ∀ key row, w.get? key = some row → d.get? key = some row ∨ row.table ∈ ts

section Extends

variable {ts : List OmsTable} {d w w' : OmsDb} {key : OmsKey} {row : OmsRow}

theorem Extends.refl (ts : List OmsTable) (d : OmsDb) : Extends ts d d :=
  ⟨fun _ _ => rfl, fun _ _ h => h, fun _ _ h => .inl h⟩

theorem Extends.insert (h : Extends ts d w) (hrow : Inserts ts key (w.get? key) row) :
    Extends ts d (w.set key row) where
  rows f hf := by
    rw [Txn.rows_set_of_none hrow.1, hf row hrow.2.2, Option.toList_none, List.append_nil]
    exact h.rows f hf
  get? key' row' hget := by
    rw [Dict.get?_set]
    split_ifs with hkey
    · have := h.get? key' row' hget
      rw [← hkey, hrow.1] at this
      cases this
    · exact h.get? key' row' hget
  new key' row' hget := by
    rw [Dict.get?_set] at hget
    split_ifs at hget with hkey
    · cases hget
      exact .inr hrow.2.2
    · exact h.new key' row' hget

theorem Extends.trans (h : Extends ts d w) (h' : Extends ts w w') : Extends ts d w' where
  rows f hf := (h'.rows f hf).trans (h.rows f hf)
  get? key row hget := h'.get? key row (h.get? key row hget)
  new key row hget := (h'.new key row hget).elim (h.new key row) .inr

theorem Extends.mono {ts' : List OmsTable} (h : Extends ts d w) (hsub : ∀ t ∈ ts, t ∈ ts') :
    Extends ts' d w where
  rows f hf := h.rows f fun row hrow => hf row (hsub _ hrow)
  get? := h.get?
  new key row hget := (h.new key row hget).imp_right (hsub _)

/-- One insert. -/
theorem extends_set (row : OmsRow) (h : d.get? key = none) (hrow : RowAt key row) :
    Extends [row.table] d (d.set key row) :=
  (Extends.refl _ d).insert ⟨h, hrow, List.mem_singleton_self _⟩

theorem Extends.orderAt_eq (h : Extends ts d w) (horder : .order ∉ ts) (key : OmsKey) :
    orderAt w key = orderAt d key := by
  have hiff (order : Order) : orderAt w key = some order ↔ orderAt d key = some order := by
    constructor
    · intro hw
      rcases h.new key _ (get?_of_orderAt hw) with hget | htable
      · rw [orderAt, hget]
        rfl
      · exact absurd htable horder
    · intro hd
      rw [orderAt, h.get? key _ (get?_of_orderAt hd)]
      rfl
  exact Option.ext hiff

/-- A table that is not extended. -/
theorem Extends.rows_eq {α : Type} {f : OmsRow → Option α} {t : OmsTable} (h : Extends ts d w)
    (hf : ∀ row, row.table ≠ t → f row = none) (ht : t ∉ ts) : Txn.rows f w = Txn.rows f d :=
  h.rows f fun row hrow => hf row fun heq => ht (heq ▸ hrow)

theorem Extends.statusLogs_eq (h : Extends ts d w) (ht : .statusLog ∉ ts) :
    statusLogs w = statusLogs d :=
  h.rows_eq (fun row hrow => by cases row <;> first | rfl | exact absurd rfl hrow) ht

theorem Extends.orderItems_eq (h : Extends ts d w) (ht : .orderItem ∉ ts) :
    orderItems w = orderItems d :=
  h.rows_eq (fun row hrow => by cases row <;> first | rfl | exact absurd rfl hrow) ht

theorem Extends.outboxEvents_eq (h : Extends ts d w) (ht : .outboxEvent ∉ ts) :
    outboxEvents w = outboxEvents d :=
  h.rows_eq (fun row hrow => by cases row <;> first | rfl | exact absurd rfl hrow) ht

theorem Extends.mergeGroups_eq (h : Extends ts d w) (ht : .mergeGroup ∉ ts) :
    mergeGroups w = mergeGroups d :=
  h.rows_eq (fun row hrow => by cases row <;> first | rfl | exact absurd rfl hrow) ht

theorem Extends.links_eq (h : Extends ts d w) (ht : .splitChildOrder ∉ ts) : links w = links d :=
  h.rows_eq (fun row hrow => by cases row <;> first | rfl | exact absurd rfl hrow) ht

/-- Only these tables are extended. -/
theorem ensures_extends {A : Type} {C : OmsDb → OmsDb → Prop} {p : OmsProg A}
    (h : Writes False (Inserts ts) p) :
    Ensures C (fun _ d' w' => d = d' ∧ Extends ts w w') p d w :=
  Ensures.writes h (I := Extends ts w) (fun _ _ _ hw hok => hw.insert hok) (.refl ts w)

end Extends

/-! ### Creating an order -/

section Create

variable {d w : OmsDb}

theorem ensures_insertLog {C : OmsDb → OmsDb → Prop} {post : Unit → OmsDb → OmsDb → Prop}
    {now : ℤ} {orderId : Uuid} {fromStatus toStatus remark : String} :
    Ensures C post (insertLog now orderId fromStatus toStatus remark) d w ↔
      ∀ n, w.get? (.statusLog n) = none → post () d (w.set (.statusLog n)
        (.statusLog ⟨n, orderId, fromStatus, toStatus, remark, now⟩)) :=
  forall_congr' fun _ => ensures_insertOr

theorem ensures_appendOrderCreated {C : OmsDb → OmsDb → Prop} {post : Unit → OmsDb → OmsDb → Prop}
    {orderId : Uuid} {payload : OrderCreated} :
    Ensures C post (appendOrderCreated orderId payload) d w ↔
      ∀ n, w.get? (.outboxEvent n) = none → post () d (w.set (.outboxEvent n) (.outboxEvent {
        id := n, aggregateType := "Order", aggregateId := orderId, eventType := "order.created",
        payload })) :=
  forall_congr' fun _ => ensures_insertOr

/-- The rows after a new order with its first log and its event. -/
structure Created (total : ℚ) (d w : OmsDb) (order : Order) (log : OrderStatusLog)
    (event : OutboxEvent) : Prop where
  /-- The order is pending. -/
  pending : order.status = .pending
  /-- Its total is the one that was computed, as the column keeps it. -/
  stored : storeNumeric total = .ok order.totalAmount
  /-- Its identifier is new. -/
  free : orderAt d (.order order.id) = none
  orderAt_eq : ∀ key, orderAt w key =
    if .order order.id = key then some order else orderAt d key
  statusLogs_eq : statusLogs w = statusLogs d ++ [log]
  log_eq : log.orderId = order.id ∧ log.fromStatus = "" ∧ log.toStatus = "pending"
  outboxEvents_eq : outboxEvents w = outboxEvents d ++ [event]
  event_eq : event.aggregateId = order.id ∧ event.eventType = "order.created" ∧
    event.payload.totalAmount = total

/-- **What `create_order` commits**, and it has committed when it returns. -/
theorem ensures_createOrder {C : OmsDb → OmsDb → Prop} (now : ℤ) (datePart suffix : String)
    (data : OrderCreate) (d : OmsDb)
    (hC : ∀ w order log event, Created (orderTotal data.items) d w order log event → C d w) :
    Ensures C (fun _ d' _ => C d d') (createOrder now datePart suffix data) d d := by
  refine ensures_bind.2 ((ensures_extends (inserts_getOrCreateCustomer _)).mono ?_)
  rintro customer _ w₁ ⟨rfl, hw₁⟩ id
  simp only [Prog.bind_eq, insertOrder, ensures_bind, Txn.ensures_ofExcept, ensures_insertOr]
  intro number _ totalAmount htotal hnumber hfree
  generalize horder : Order.mk id number _ _ _ _ _ _ _ _ _ _ = order
  -- the items come between the order and its log
  refine (ensures_extends (Writes.forEach (inserts_createItem id))).mono ?_
  rintro _ _ w₂ ⟨rfl, hw₂⟩
  rw [ensures_insertLog]
  intro logId hlog
  generalize hlogEq : OrderStatusLog.mk logId id "" "pending" "Order created" now = log
  rw [ensures_appendOrderCreated]
  intro eventId hevent
  generalize heventEq : OutboxEvent.mk eventId "Order" id "order.created" _ _ _ = event
  rw [Txn.ensures_commitOr]
  -- the tables, statement by statement
  have hnumber : Extends [.customer, .orderNo] d (w₁.set (.orderNo number) (.orderNo id)) :=
    (hw₁.mono (by decide)).insert ⟨hnumber, trivial, by simp [OmsRow.table]⟩
  have hnew : Extends [.order] _ _ := extends_set (.order order) hfree (by rw [← horder]; rfl)
  have hlog' : Extends [.statusLog] _ _ := extends_set (.statusLog log) hlog (by rw [← hlogEq]; rfl)
  have hevent' : Extends [.outboxEvent] _ _ := extends_set (.outboxEvent event) hevent
    (by rw [← heventEq]; rfl)
  have hid : order.id = id := by rw [← horder]
  have hold := hnumber.orderAt_eq (by decide)
  suffices hcreated : Created (orderTotal data.items) d
      (((w₂.set (.statusLog logId) (.statusLog log)).set (.outboxEvent eventId)
        (.outboxEvent event))) order log event by
    have hcommit := hC _ order log event hcreated
    refine ⟨hcommit, (Ensures.reads (reads_refreshOrder id)).mono fun order d' w' hread => ?_⟩
    obtain ⟨rfl, -⟩ := hread
    refine (Ensures.reads (reads_createdToDict _ _)).mono fun _ d'' w'' hread => ?_
    exact hread.1 ▸ hcommit
  refine ⟨by rw [← horder], by rw [← horder]; exact htotal, ?_, fun key => ?_, ?_, ?_, ?_, ?_⟩
  · rw [hid, ← hold, orderAt, hfree]
    rfl
  · rw [hevent'.orderAt_eq (by decide), hlog'.orderAt_eq (by decide), hw₂.orderAt_eq (by decide),
      orderAt_set, hid, hold]
    rfl
  · rw [hevent'.statusLogs_eq (by decide), statusLogs, Txn.rows_set_of_none hlog]
    change statusLogs w₂ ++ [_] = _
    rw [hw₂.statusLogs_eq (by decide), hnew.statusLogs_eq (by decide),
      hnumber.statusLogs_eq (by decide)]
  · rw [hid, ← hlogEq]
    exact ⟨rfl, rfl, rfl⟩
  · rw [outboxEvents, Txn.rows_set_of_none hevent]
    change outboxEvents _ ++ [_] = _
    rw [hlog'.outboxEvents_eq (by decide), hw₂.outboxEvents_eq (by decide),
      hnew.outboxEvents_eq (by decide), hnumber.outboxEvents_eq (by decide)]
  · rw [hid, ← heventEq]
    exact ⟨rfl, rfl, rfl⟩

/-! ### Exceptions -/

section Exceptions

variable {exc : OmsDb → Prop} {ts : List OmsTable}

/-- What only inserts keeps the rows that are there, and commits nothing. -/
theorem ends_inserts {A : Type} {p : OmsProg A} (h : Writes False (Inserts ts) p) (hd : exc d) :
    Ends (fun _ d' w' => d = d' ∧ Extends ts w w') exc p d w :=
  Ends.writes h (I := Extends ts w) (fun _ _ _ hw hok => hw.insert hok) hd (.refl ts w)

@[simp] theorem ends_selectOrder {id : Uuid} {post : Option Order → OmsDb → OmsDb → Prop} :
    Ends post exc (selectOrder id) d w ↔ post (orderAt w (.order id)) d w := by
  rw [← findSome?_select_order]
  rfl

/-- `db.refresh` after the commit finds the order. -/
theorem ends_refreshOrder {id : Uuid} {order : Order} (h : orderAt w (.order id) = some order) :
    Ends (fun order' d' w' => d = d' ∧ w = w' ∧ order' = order) exc (refreshOrder id) d w := by
  refine ends_bind.2 (ends_selectOrder.2 ?_)
  rw [h]
  exact ⟨rfl, rfl, rfl⟩

theorem ends_orderToDict {order : Order} {total : ℚ} :
    Ends (fun answer d' w' => d = d' ∧ w = w' ∧ answer.id = order.id) exc
      (orderToDict order total) d w :=
  ⟨rfl, rfl, rfl⟩

theorem ends_createOrder (now : ℤ) (datePart suffix : String) (data : OrderCreate) (hd : exc d) :
    Ends (fun _ _ _ => True) exc (createOrder now datePart suffix data) d d := by
  refine ends_bind.2 ((ends_inserts (inserts_getOrCreateCustomer _) hd).mono ?_)
  rintro customer _ w₁ ⟨rfl, -⟩
  refine ends_bind.2 fun id => ?_
  refine ends_bind.2 (Txn.ends_ofExcept hd fun number _ => ?_)
  refine ends_bind.2 (Txn.ends_ofExcept hd fun totalAmount _ => ?_)
  simp only [Prog.bind_eq, insertOrder]
  refine ends_bind.2 (ends_bind.2 (Txn.ends_insertOr hd fun _ =>
    Txn.ends_insertOr hd fun _ => ?_))
  generalize horder : Order.mk id number _ _ _ _ _ _ _ _ _ _ = order
  -- the order is there from here on
  have hnew : orderAt ((w₁.set (.orderNo number) (.orderNo id)).set (.order id) (.order order))
      (.order id) = some order := by
    rw [orderAt_set, if_pos rfl]
    rfl
  refine ends_bind.2 ((ends_inserts (Writes.forEach (inserts_createItem id)) hd).mono ?_)
  rintro _ _ w₂ ⟨rfl, hw₂⟩
  refine ends_bind.2 ((ends_inserts (inserts_insertLog _ _ _ _ _) hd).mono ?_)
  rintro _ _ w₃ ⟨rfl, hw₃⟩
  refine ends_bind.2 ((ends_inserts (inserts_appendOrderCreated _ _) hd).mono ?_)
  rintro _ _ w₄ ⟨rfl, hw₄⟩
  have hthere : orderAt w₄ (.order id) = some order := by
    rw [hw₄.orderAt_eq (by decide), hw₃.orderAt_eq (by decide), hw₂.orderAt_eq (by decide)]
    exact hnew
  refine ends_bind.2 (Txn.ends_commitOr hd (ends_bind.2 ((ends_refreshOrder hthere).mono ?_)))
  intro order d' w' _
  exact ends_bind.2 (ends_orderToDict.mono fun _ _ _ _ => trivial)

/-- **When `create_order` raises, it has committed nothing.** -/
theorem createOrder_error {now : ℤ} {datePart suffix : String} {data : OrderCreate} {ids : ℕ → ℕ}
    {e : ServiceError} {d' : OmsDb}
    (h : (createOrder now datePart suffix data).run ids d = (.error e, d')) : d' = d := by
  have hends : Ends (fun _ _ _ => True) (fun d' => d' = d)
      (createOrder now datePart suffix data) d d := ends_createOrder now datePart suffix data rfl
  have herror := (hends.run ids).2 e
  rw [h] at herror
  exact herror rfl

/-- **When `create_order` returns, it has committed an order.** -/
theorem exists_created {now : ℤ} {datePart suffix : String} {data : OrderCreate} {ids : ℕ → ℕ}
    {answer : OrderDict} {d' : OmsDb}
    (h : (createOrder now datePart suffix data).run ids d = (.ok answer, d')) :
    ∃ order log event, Created (orderTotal data.items) d d' order log event := by
  have hensures := ((ensures_createOrder (C := fun d w => ∃ order log event,
    Created (orderTotal data.items) d w order log event) now datePart suffix data d
    fun _ order log event hcreated => ⟨order, log, event, hcreated⟩).run ids).2 answer
  rw [h] at hensures
  exact (hensures rfl).choose_spec

end Exceptions

end Create

end Oms

end OmsWmsTms
