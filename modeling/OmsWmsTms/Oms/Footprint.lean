import OmsWmsTms.Oms.Merge
import OmsWmsTms.Oms.Tasks
import OmsWmsTms.Txn.Alone

/-!
# What the order services read and insert

The helpers of the order services only read, or only insert rows into a few tables.  What a helper
leaves alone follows from the tables that it inserts into.

* `OmsRow.table` : the table of a row.
* `Inserts ts` : a write that inserts a row into one of the tables `ts`.
* `Changes ts change` : a write that inserts such a row, or changes an order along `change`.
* `reads_…`, `inserts_…`, `changes_…` : the footprint of each helper and service.
* `Keyed` : every row is under its own key; `keyed_run` : the services keep it.
-/

namespace OmsWmsTms

namespace Oms

open Txn (Prog Writes Reads)

/-- The tables. -/
inductive OmsTable
  | customer | sku | warehouse | order | orderNo | orderItem | statusLog | mergeGroup | mergeCode
  | splitChildOrder | outboxEvent
deriving DecidableEq

/-- The table of a row. -/
def OmsRow.table : OmsRow → OmsTable
  | customer _ => .customer
  | sku _ => .sku
  | warehouse => .warehouse
  | order _ => .order
  | orderNo _ => .orderNo
  | orderItem _ => .orderItem
  | statusLog _ => .statusLog
  | mergeGroup _ => .mergeGroup
  | mergeCode _ => .mergeCode
  | splitChildOrder _ => .splitChildOrder
  | outboxEvent _ => .outboxEvent

/-- The row belongs to the key: its table is the key's, and its identifier or code. -/
def RowAt : OmsKey → OmsRow → Prop
  | .customer code, .customer row => row.code = code
  | .sku code, .sku row => row.sku = code
  | .warehouse _, .warehouse => True
  | .order id, .order row => row.id = id
  | .orderNo _, .orderNo _ => True
  | .orderItem id, .orderItem row => row.id = id
  | .statusLog id, .statusLog row => row.id = id
  | .mergeGroup id, .mergeGroup row => row.id = id
  | .mergeCode _, .mergeCode _ => True
  | .splitChildOrder id, .splitChildOrder row => row.id = id
  | .outboxEvent id, .outboxEvent row => row.id = id
  | _, _ => False

/-- A write that inserts a row, under its key, into one of the tables. -/
def Inserts (ts : List OmsTable) (key : OmsKey) (old : Option OmsRow) (row : OmsRow) : Prop :=
  old = none ∧ RowAt key row ∧ row.table ∈ ts

/-- Inserting into fewer tables. -/
theorem inserts_mono {A : Type} {p : OmsProg A} {ends : Prop} {ts ts' : List OmsTable}
    (h : Writes False (Inserts ts) p) (hsub : ∀ t ∈ ts, t ∈ ts') : Writes ends (Inserts ts') p :=
  h.mono False.elim fun _ _ _ hok => ⟨hok.1, hok.2.1, hsub _ hok.2.2⟩

/-! ### Reads -/

section Reads

theorem reads_selectOrder (id : Uuid) : Reads (selectOrder id) := fun _ => trivial

theorem reads_selectItems (id : Uuid) : Reads (selectItems id) := fun _ => trivial

theorem reads_toUuid (arg : IdArg) : Reads (toUuid arg) := by
  unfold toUuid
  split <;> trivial

theorem reads_refreshOrder (id : Uuid) : Reads (refreshOrder id) := by
  refine (reads_selectOrder id).bind fun order => ?_
  cases order <;> trivial

theorem reads_orderToDict (order : Order) (total : ℚ) : Reads (orderToDict order total) :=
  fun _ => (reads_selectItems order.id).bind fun _ _ => trivial

theorem reads_createdToDict (data : OrderCreate) (order : Order) :
    Reads (createdToDict data order) :=
  (reads_orderToDict order _).bind fun _ => trivial

theorem reads_warehouseArg (warehouseId : Option IdArg) : Reads (warehouseArg warehouseId) := by
  unfold warehouseArg
  split
  · trivial
  · split
    · trivial
    · exact (reads_toUuid _).bind fun _ => trivial

theorem reads_checkWarehouse (warehouseId : Option Uuid) : Reads (checkWarehouse warehouseId) := by
  unfold checkWarehouse
  split
  · trivial
  · intro rows
    simp only [Prog.bind]
    split <;> trivial

theorem reads_gatherOrder (gathered : Gathered) (orderId : IdArg) :
    Reads (gatherOrder gathered orderId) := by
  refine (reads_toUuid _).bind fun id => (reads_selectOrder id).bind fun order => ?_
  cases order with
  | none => trivial
  | some order =>
    refine (reads_selectItems id).bind fun items => ?_
    split <;> trivial

end Reads

/-! ### Inserts -/

section Inserts

theorem inserts_insertOr {ts : List OmsTable} {e : ServiceError} {key : OmsKey} {row : OmsRow}
    {ends : Prop} (hrow : RowAt key row) (h : row.table ∈ ts) :
    Writes ends (Inserts ts) (Prog.insertOr e key row : OmsProg Unit) :=
  Writes.insertOr ⟨rfl, hrow, h⟩

theorem inserts_getOrCreateCustomer (code : String) :
    Writes False (Inserts [.customer]) (getOrCreateCustomer code) := by
  intro rows
  simp only [Prog.pure_eq, Prog.bind_eq, Prog.bind]
  split
  · trivial
  · exact fun _ => (Writes.ofExcept _).bind fun _ => (Writes.ofExcept _).bind fun _ =>
      (inserts_insertOr (by rfl) (by simp [OmsRow.table])).bind fun _ => trivial

theorem inserts_getOrCreateSku (code : String) :
    Writes False (Inserts [.sku]) (getOrCreateSku code) := by
  intro rows
  simp only [Prog.pure_eq, Prog.bind_eq, Prog.bind]
  split
  · trivial
  · exact fun _ => (Writes.ofExcept _).bind fun _ => (Writes.ofExcept _).bind fun _ =>
      (inserts_insertOr (by rfl) (by simp [OmsRow.table])).bind fun _ => trivial

theorem inserts_insertOrder (order : Order) :
    Writes False (Inserts [.orderNo, .order]) (insertOrder order) :=
  (inserts_insertOr (by trivial) (by simp [OmsRow.table])).bind fun _ =>
    inserts_insertOr (by rfl) (by simp [OmsRow.table])

theorem inserts_insertItem (orderId : Uuid) (skuId : Option Uuid) (gtin name : String)
    (quantity : ℤ) (unitPrice : ℚ) :
    Writes False (Inserts [.orderItem]) (insertItem orderId skuId gtin name quantity unitPrice) :=
  fun _ => (Writes.ofExcept _).bind fun _ => (Writes.ofExcept _).bind fun _ =>
    (Writes.ofExcept _).bind fun _ => (Writes.ofExcept _).bind fun _ =>
      inserts_insertOr (by rfl) (by simp [OmsRow.table])

theorem inserts_createItemSku (code : String) :
    Writes False (Inserts [.sku]) (createItemSku code) := by
  unfold createItemSku
  split
  · trivial
  · exact (inserts_getOrCreateSku _).bind fun _ => trivial

theorem inserts_createItem (orderId : Uuid) (item : ItemCreate) :
    Writes False (Inserts [.sku, .orderItem]) (createItem orderId item) :=
  (inserts_mono (inserts_createItemSku _) (by decide)).bind fun _ =>
    inserts_mono (inserts_insertItem _ _ _ _ _ _) (by decide)

theorem inserts_insertLog (now : ℤ) (orderId : Uuid) (fromStatus toStatus remark : String) :
    Writes False (Inserts [.statusLog]) (insertLog now orderId fromStatus toStatus remark) :=
  fun _ => inserts_insertOr (by rfl) (by simp [OmsRow.table])

theorem inserts_appendOrderCreated (orderId : Uuid) (payload : OrderCreated) :
    Writes False (Inserts [.outboxEvent]) (appendOrderCreated orderId payload) :=
  fun _ => inserts_insertOr (by rfl) (by simp [OmsRow.table])

theorem inserts_insertLink (parentOrderId : Option Uuid) (childOrderId : Uuid)
    (mergeGroupId : Option Uuid) (reason : String) :
    Writes False (Inserts [.splitChildOrder])
      (insertLink parentOrderId childOrderId mergeGroupId reason) :=
  fun _ => inserts_insertOr (by rfl) (by simp [OmsRow.table])

theorem inserts_splitItem (childId : Uuid) (items : List OrderItem) (total : ℚ)
    (item : SplitItem) : Writes False (Inserts [.orderItem]) (splitItem childId items total item) :=
  (inserts_insertItem _ _ _ _ _ _).bind fun _ => trivial

/-- `create_order` only inserts. -/
theorem inserts_createOrder (now : ℤ) (datePart suffix : String) (data : OrderCreate) :
    Writes True (Inserts [.customer, .sku, .orderNo, .order, .orderItem, .statusLog, .outboxEvent])
      (createOrder now datePart suffix data) := by
  refine (inserts_mono (inserts_getOrCreateCustomer _) (by decide)).bind fun customer => ?_
  intro id
  refine (Writes.ofExcept _).bind fun number => (Writes.ofExcept _).bind fun total => ?_
  refine (inserts_mono (inserts_insertOrder _) (by decide)).bind fun _ => ?_
  refine (Writes.forEach fun item => inserts_mono (inserts_createItem id item) (by decide)).bind
    fun _ => ?_
  refine (inserts_mono (inserts_insertLog _ _ _ _ _) (by decide)).bind fun _ => ?_
  refine (inserts_mono (inserts_appendOrderCreated _ _) (by decide)).bind fun _ => ?_
  refine (Writes.commitOr _).bind fun _ =>
    (Writes.of_reads (reads_refreshOrder id)).bind fun order => ?_
  exact Writes.of_reads (reads_createdToDict _ _)

/-- `merge_orders` only inserts. -/
theorem inserts_mergeOrders (orderIds : List IdArg) (code : Option String)
    (warehouseId : Option IdArg) (note : String) :
    Writes True (Inserts [.mergeGroup, .mergeCode, .splitChildOrder])
      (mergeOrders orderIds code warehouseId note) := by
  unfold mergeOrders
  split
  · trivial
  · refine (Writes.foldEach fun _ _ => Writes.of_reads (reads_gatherOrder _ _)).bind
      fun gathered => ?_
    intro groups id
    refine (Writes.of_reads (reads_warehouseArg _)).bind fun warehouseId => ?_
    refine (Writes.ofExcept _).bind fun code => (Writes.ofExcept _).bind fun totalItems => ?_
    refine (Writes.ofExcept _).bind fun totalAmount => ?_
    refine (Writes.of_reads (reads_checkWarehouse _)).bind fun _ => ?_
    refine (inserts_insertOr (by trivial) (by simp [OmsRow.table])).bind fun _ => ?_
    refine (inserts_insertOr (by rfl) (by simp [OmsRow.table])).bind fun _ => ?_
    refine (Writes.forEach fun order => inserts_mono (inserts_insertLink _ _ _ _)
      (by decide)).bind fun _ => ?_
    exact (Writes.commitOr _).bind fun _ => trivial

/-- `process_stale_orders` only inserts. -/
theorem inserts_processStaleOrders (now : ℤ) :
    Writes True (Inserts [.statusLog]) (processStaleOrders now) :=
  fun _ => (Writes.forEach fun _ => inserts_mono (inserts_insertLog _ _ _ _ _) (by decide)).bind
    fun _ => (Writes.commitOr _).bind fun _ => trivial

end Inserts

/-! ### Changes -/

/-- A write that inserts a row into one of the tables, changes an order along `change`, or marks a
line as deleted. -/
inductive Changes (ts : List OmsTable) (change : Order → Order → Prop) (key : OmsKey) :
    Option OmsRow → OmsRow → Prop
  | insert {old : Option OmsRow} {row : OmsRow} (h : Inserts ts key old row) :
    Changes ts change key old row
  | same (row : OmsRow) : Changes ts change key (some row) row
  | order {order order' : Order} (h : change order order') :
    Changes ts change key (some (.order order)) (.order order')
  | orderItem (item : OrderItem) (now : ℤ) : Changes ts change key (some (.orderItem item))
      (.orderItem { item with isDeleted := true, deletedAt := some now })

/-- A change of the total. -/
def SetsTotal (order order' : Order) : Prop := ∃ totalAmount, order' = { order with totalAmount }

/-- A soft delete. -/
def SoftDeletes (order order' : Order) : Prop :=
  ∃ now, order' = { order with isDeleted := true, deletedAt := some now, updatedAt := now }

/-- A change of the status. -/
def SetsStatus (status : OrderStatus) (order order' : Order) : Prop :=
  ∃ now, order' = setStatus now status order

section Changes

variable {ends : Prop} {ts : List OmsTable} {change : Order → Order → Prop}

theorem changes_of_inserts {A : Type} {p : OmsProg A} (h : Writes ends (Inserts ts) p) :
    Writes ends (Changes ts change) p :=
  h.mono id fun _ _ _ => .insert

theorem changes_mapOrder {key : OmsKey} {f : Order → Order} (h : ∀ order, change order (f order))
    (row : OmsRow) : Changes ts change key (some row) (OmsRow.mapOrder f row) := by
  cases row with
  | order order => exact .order (h order)
  | _ => exact .same _

theorem changes_deleteOrder (now : ℤ) (orderId : IdArg) :
    Writes True (Changes [] SoftDeletes) (deleteOrder now orderId) := by
  refine (Writes.of_reads (reads_toUuid _)).bind fun id => ?_
  refine (Writes.of_reads (reads_selectOrder id)).bind fun order => ?_
  cases order with
  | none => trivial
  | some order =>
    refine (Writes.of_reads (reads_selectItems id)).bind fun items => ?_
    simp only
    split
    · trivial
    · refine (Writes.updateOr (changes_mapOrder fun _ => ⟨now, rfl⟩)).bind fun _ => ?_
      refine (Writes.forEach fun item => Writes.updateOr fun row => ?_).bind fun _ =>
        Writes.commitOr _
      cases row with
      | orderItem row => exact .orderItem row now
      | _ => exact .same _

/-- The tables that a split inserts into. -/
def splitTables : List OmsTable := [.orderNo, .order, .orderItem, .splitChildOrder]

theorem changes_splitChild (now : ℤ) (order : Order) (items : List OrderItem) (reason : String)
    (children : List OrderDict) (split : Split) :
    Writes ends (Changes splitTables SetsTotal)
      (splitChild now order items reason children split) := by
  intro id
  refine (Writes.ofExcept _).bind fun orderNo => ?_
  refine (changes_of_inserts (inserts_mono (inserts_insertOrder _) (by decide))).bind fun _ => ?_
  refine (Writes.foldEach fun total item => changes_of_inserts
    (inserts_mono (inserts_splitItem id items total item) (by decide))).bind fun total => ?_
  refine (changes_of_inserts (inserts_mono (inserts_insertLink _ _ _ _) (by decide))).bind
    fun _ => ?_
  refine (Writes.ofExcept _).bind fun totalAmount => ?_
  refine (Writes.updateOr (changes_mapOrder fun _ => ⟨totalAmount, rfl⟩)).bind fun _ => ?_
  exact (Writes.of_reads (reads_orderToDict _ _)).bind fun _ => trivial

theorem changes_splitOrder (now : ℤ) (orderId : IdArg) (splits : List Split) (reason : String) :
    Writes True (Changes splitTables SetsTotal) (splitOrder now orderId splits reason) := by
  refine (Writes.of_reads (reads_toUuid _)).bind fun id => ?_
  refine (Writes.of_reads (reads_selectOrder id)).bind fun order => ?_
  cases order with
  | none => trivial
  | some order =>
    refine (Writes.of_reads (reads_selectItems id)).bind fun items => ?_
    refine (Writes.foldEach fun _ _ => changes_splitChild _ _ _ _ _ _).bind fun children => ?_
    exact (Writes.commitOr _).bind fun _ => trivial

theorem changes_updateOrderStatus (now : ℤ) (orderId : IdArg) (target : String) :
    Writes True (Changes [.statusLog] (SetsStatus ((statusMap target).getD .pending)))
      (updateOrderStatus now orderId target) := by
  refine (Writes.of_reads (reads_toUuid _)).bind fun id => ?_
  refine (Writes.of_reads (reads_selectOrder id)).bind fun order => ?_
  cases order with
  | none => trivial
  | some order =>
    refine (Writes.ofExcept _).bind fun _ => ?_
    refine (Writes.updateOr (changes_mapOrder fun _ => ⟨now, rfl⟩)).bind fun _ => ?_
    refine (changes_of_inserts (inserts_mono (inserts_insertLog _ _ _ _ _) (by decide))).bind
      fun _ => ?_
    refine (Writes.commitOr _).bind fun _ => ?_
    exact (Writes.of_reads (reads_refreshOrder id)).bind fun _ =>
      Writes.of_reads (reads_orderToDict _ _)

theorem changes_sweepOrder (now : ℤ) (status : OrderStatus) (log : Option SweepLog)
    (item : OmsKey × Order) :
    Writes ends (Changes [.statusLog] (SetsStatus status)) (sweepOrder now status log item) := by
  refine (Writes.updateOr (changes_mapOrder fun _ => ⟨now, rfl⟩)).bind fun _ => ?_
  cases log with
  | none => trivial
  | some log => exact changes_of_inserts (inserts_mono (inserts_insertLog _ _ _ _ _) (by decide))

theorem changes_sweepOrders (now : ℤ) (due : Order → Bool) (status : OrderStatus)
    (log : Option SweepLog) :
    Writes True (Changes [.statusLog] (SetsStatus status)) (sweepOrders now due status log) :=
  fun _ => (Writes.forEach (changes_sweepOrder now status log)).bind fun _ =>
    (Writes.commitOr _).bind fun _ => trivial

theorem changes_handleAck (now : ℤ) (payload : AckPayload) :
    Writes True (Changes [] (SetsStatus .confirmed)) (handleAck now payload) := by
  unfold handleAck
  cases payload.orderId? with
  | none => trivial
  | some orderId =>
    simp only
    cases orderId.uuid? with
    | none => trivial
    | some id =>
      refine (Writes.of_reads (reads_selectOrder id)).bind fun order => ?_
      cases order with
      | none => trivial
      | some order =>
        simp only
        split
        · trivial
        · exact (Writes.updateOr (changes_mapOrder fun _ => ⟨now, rfl⟩)).bind fun _ =>
            Writes.commitOr _

end Changes

/-! ### Rows under their keys -/

/-- Every row is under its own key. -/
def Keyed (d : OmsDb) : Prop := ∀ key row, d.get? key = some row → RowAt key row

/-- A change of an order that keeps its identifier. -/
def KeepsId (change : Order → Order → Prop) : Prop :=
  ∀ order order', change order order' → order'.id = order.id

theorem keepsId_setsTotal : KeepsId SetsTotal := by
  rintro order _ ⟨total, rfl⟩
  rfl

theorem keepsId_softDeletes : KeepsId SoftDeletes := by
  rintro order _ ⟨now, rfl⟩
  rfl

theorem keepsId_setsStatus (status : OrderStatus) : KeepsId (SetsStatus status) := by
  rintro order _ ⟨now, rfl⟩
  rfl

/-- A write keeps the rows under their keys. -/
theorem Keyed.set {d : OmsDb} {ts : List OmsTable} {change : Order → Order → Prop} {key : OmsKey}
    {row : OmsRow} (hd : Keyed d) (hchange : KeepsId change)
    (h : Changes ts change key (d.get? key) row) : Keyed (d.set key row) := by
  intro key' row' hrow'
  rw [Dict.get?_set] at hrow'
  split_ifs at hrow' with hkey
  · subst hkey
    cases hrow'
    generalize hold : d.get? key = old at h
    cases h with
    | insert h => exact h.2.1
    | same row => exact hd key row hold
    | order h =>
      have hrow := hd key _ hold
      cases key <;> simp_all [RowAt, hchange _ _ h]
    | orderItem item now =>
      have hrow := hd key _ hold
      cases key <;> simp_all [RowAt]
  · exact hd key' row' hrow'

/-- **A service keeps the rows under their keys.** -/
theorem keyed_run {A : Type} {p : OmsProg A} {ts : List OmsTable} {change : Order → Order → Prop}
    (h : Writes True (Changes ts change) p) (hchange : KeepsId change) {d : OmsDb} (hd : Keyed d)
    (ids : ℕ → ℕ) : Keyed (p.run ids d).2 := by
  refine (h.exec (fun w key row row' hw hget hok => ?_) (fun w key row hw hget hok => ?_)
    (s := ⟨d, d, ids⟩) hd hd).1
  · exact hw.set hchange (hget ▸ hok)
  · exact hw.set hchange (hget ▸ hok)

end Oms

end OmsWmsTms
