import OmsWmsTms.Core.Handlers
import OmsWmsTms.Data.Rows
import OmsWmsTms.Uow.Journal
import OmsWmsTms.Wms.DocumentTotals

/-!
# Purchase orders under way at the same time

`create_purchase_order`, `get_purchase_order`, `approve_purchase_order` and `receive_goods` of
`src/wms/service.py`.  Approval and receipt check the status that they have read, and write theirs
without looking again, so that an order can be approved after its goods were received.

* `PurchaseWrite.apply`, `purchaseSystem` : the commits, and the server.
* `purchase_trail` : every status is reached along draft, approved, received.
* `purchase_status_by_history` : the status is that of the last commit, and no goods are received
  without an approval that was committed before.
-/

namespace OmsWmsTms

namespace Wms

/-! ### The model -/

/-- The statuses of a purchase order, texts in the source; nothing writes the third. -/
inductive PoStatus
  | draft | approved | partlyReceived | received
deriving DecidableEq

/-- The text of a status. -/
def PoStatus.text : PoStatus → String
  | draft => "draft"
  | approved => "approved"
  | partlyReceived => "partial"
  | received => "received"

/-- `PurchaseOrder`, with its lines. -/
structure PurchaseOrder where
  id : Uuid
  document : Document Head
  status : PoStatus := .draft

/-- The tables; of the vendors and the SKUs, the identifiers. -/
structure PurchaseDb where
  vendors : List Uuid := []
  skus : List Uuid := []
  orders : List PurchaseOrder := []

/-- The number of a purchase order. -/
def Head.poNumber? : Head → Option String
  | .purchaseOrder poNumber _ _ _ => some poNumber
  | _ => none

/-- The rows that a new order refers to. -/
def PurchaseDb.refs (d : PurchaseDb) : DocumentRefs where
  taken number := d.orders.any fun order => order.document.head.poNumber? = some number
  vendor id := id ∈ d.vendors
  sku id := id ∈ d.skus
  invoice _ := false

/-- The order with an identifier. -/
def PurchaseDb.order? (d : PurchaseDb) (id : Uuid) : Option PurchaseOrder :=
  d.orders.find? (·.id = id)

/-- The changes that a handler collects; it commits one. -/
inductive PurchaseWrite
  /-- The order and its lines. -/
  | insertOrder (id : Uuid) (data : PurchaseOrderData)
  | approve (id : Uuid)
  | receive (id : Uuid)

/-- `UPDATE` of the status of an order. -/
def PurchaseDb.setStatus (d : PurchaseDb) (id : Uuid) (status : PoStatus) :
    Except RequestError PurchaseDb :=
  if id ∈ d.orders.map PurchaseOrder.id then
    .ok { d with
      orders := updateRows PurchaseOrder.id id (fun row => { row with status := status }) d.orders }
  else .error (.service .staleData)

/-- **A commit.** -/
def PurchaseWrite.apply : PurchaseWrite → PurchaseDb → Except RequestError PurchaseDb
  | .insertOrder id data, d =>
    match createPurchaseOrder d.refs data with
    | .error e => .error (.service e)
    | .ok document =>
      if id ∈ d.orders.map PurchaseOrder.id then .error (.service .integrityError)
      else .ok { d with orders := d.orders ++ [{ id, document }] }
  | .approve id, d => d.setStatus id .approved
  | .receive id, d => d.setStatus id .received

/-- The handlers of purchase orders. -/
abbrev PurchaseProg := Uow.Prog PurchaseDb PurchaseWrite RequestError PurchaseOrder

open Uow.Prog (withOk refresh)

/-- `create_purchase_order`. -/
def PurchaseProg.createPurchaseOrder (id : Uuid) (data : PurchaseOrderData) : PurchaseProg :=
  .commit (.insertOrder id data) (refresh (·.order? id) .ret)

/-- `get_purchase_order`. -/
def getPurchaseOrder (poId : IdArg) : PurchaseProg :=
  withOk poId.parse fun id =>
  .read fun d =>
    match d.order? id with
    | none => .throw (.notFound s!"PurchaseOrder {poId.text} not found")
    | some po => .ret po

/-- `approve_purchase_order`. -/
def approvePurchaseOrder (poId : IdArg) : PurchaseProg :=
  withOk poId.parse fun id =>
  .read fun d =>
    match d.order? id with
    | none => .throw (.notFound s!"PurchaseOrder {poId.text} not found")
    | some po =>
      if po.status ≠ .draft then
        .throw (.validation s!"Cannot approve PO in '{po.status.text}' state")
      else .commit (.approve id) (refresh (·.order? id) .ret)

/-- `receive_goods`. -/
def receiveGoods (poId : IdArg) : PurchaseProg :=
  withOk poId.parse fun id =>
  .read fun d =>
    match d.order? id with
    | none => .throw (.notFound s!"PurchaseOrder {poId.text} not found")
    | some po =>
      if po.status ≠ .approved ∧ po.status ≠ .partlyReceived then
        .throw (.validation s!"Cannot receive goods for PO in '{po.status.text}' state")
      else .commit (.receive id) (refresh (·.order? id) .ret)

/-- A request. -/
inductive PurchaseRequest
  | createPurchaseOrder (id : Uuid) (data : PurchaseOrderData)
  | getPurchaseOrder (poId : IdArg)
  | approvePurchaseOrder (poId : IdArg)
  | receiveGoods (poId : IdArg)

/-- The handler of a request. -/
def PurchaseRequest.handler : PurchaseRequest → PurchaseProg
  | .createPurchaseOrder id data => PurchaseProg.createPurchaseOrder id data
  | .getPurchaseOrder poId => Wms.getPurchaseOrder poId
  | .approvePurchaseOrder poId => Wms.approvePurchaseOrder poId
  | .receiveGoods poId => Wms.receiveGoods poId

/-- A server of purchase orders. -/
abbrev PurchaseState :=
  Uow.State PurchaseDb PurchaseWrite PurchaseRequest RequestError PurchaseOrder

/-- **The requests on purchase orders.** -/
def purchaseSystem : Lts PurchaseState (Uow.Label PurchaseRequest) :=
  Uow.system PurchaseWrite.apply PurchaseRequest.handler

/-! ### What a request goes by -/

open Uow (Committed History Trail lastGiven)
open Uow.Prog (justified_read justified_withOk)

/-- The status of an order. -/
def PurchaseDb.status? (d : PurchaseDb) (id : Uuid) : Option PoStatus :=
  (d.order? id).map PurchaseOrder.status

/-- An approval goes by a draft, a receipt by an approved order. -/
def PurchaseWrite.Goes (d₀ : PurchaseDb) (ws : List PurchaseWrite) : PurchaseWrite → Prop
  | .insertOrder _ _ => True
  | .approve id => ∃ past d, past <+: ws ∧ Committed PurchaseWrite.apply d₀ past d ∧
      d.status? id = some .draft
  | .receive id => ∃ past d status, past <+: ws ∧ Committed PurchaseWrite.apply d₀ past d ∧
      d.status? id = some status ∧ (status = .approved ∨ status = .partlyReceived)

variable {d₀ d d' : PurchaseDb} {ws : List PurchaseWrite} {w : PurchaseWrite} {id : Uuid}
  {status : PoStatus} {s : PurchaseState} {ls : List (Uow.Label PurchaseRequest)}

theorem PurchaseRequest.justified_handler (q : PurchaseRequest) :
    q.handler.Justified PurchaseWrite.apply (PurchaseWrite.Goes d₀) d₀ (fun _ _ => True)
      fun _ => True := by
  have hrefresh : ∀ (id : Uuid) K, (refresh (·.order? id) .ret : PurchaseProg).Justified
      PurchaseWrite.apply (PurchaseWrite.Goes d₀) d₀ (fun _ _ => True) K := by
    intro id K
    refine justified_read fun d => ?_
    split
    · exact fun _ _ => trivial
    · trivial
  cases q with
  | createPurchaseOrder id data => exact ⟨fun _ _ => trivial, hrefresh id _⟩
  | getPurchaseOrder poId =>
    refine justified_withOk fun id _ => justified_read fun d => ?_
    split
    · trivial
    · exact fun _ _ => trivial
  | approvePurchaseOrder poId =>
    refine justified_withOk fun id _ => justified_read fun d => ?_
    cases hpo : d.order? id with
    | none => trivial
    | some po =>
      dsimp only
      split_ifs with hdraft
      · trivial
      · refine ⟨?_, hrefresh id _⟩
        rintro ws ⟨past, hpast, -, hd⟩
        refine ⟨past, d, hpast, hd, ?_⟩
        rw [PurchaseDb.status?, hpo, Option.map_some, not_not.1 hdraft]
  | receiveGoods poId =>
    refine justified_withOk fun id _ => justified_read fun d => ?_
    cases hpo : d.order? id with
    | none => trivial
    | some po =>
      dsimp only
      split_ifs with hstatus
      · trivial
      · refine ⟨?_, hrefresh id _⟩
        rintro ws ⟨past, hpast, -, hd⟩
        refine ⟨past, d, po.status, hpast, hd, ?_, ?_⟩
        · rw [PurchaseDb.status?, hpo, Option.map_some]
        · rwa [ne_eq, ne_eq, not_and_or, not_not, not_not] at hstatus

/-! ### What a commit does to a status -/

theorem PurchaseDb.status?_eq_none_iff :
    d.status? id = none ↔ id ∉ d.orders.map PurchaseOrder.id := by
  rw [PurchaseDb.status?, Option.map_eq_none_iff]
  exact find?_id_eq_none_iff

/-- The status that a write gives an order. -/
def PurchaseWrite.gives (id : Uuid) : PurchaseWrite → Option PoStatus
  | .insertOrder other _ => if id = other then some .draft else none
  | .approve other => if id = other then some .approved else none
  | .receive other => if id = other then some .received else none

theorem PurchaseDb.status?_setStatus (h : d.setStatus id status = .ok d') (other : Uuid) :
    d'.status? other = (if other = id then some status else none).or (d.status? other) := by
  unfold PurchaseDb.setStatus at h
  split_ifs at h with hid
  cases h
  rw [PurchaseDb.status?, PurchaseDb.order?, find?_updateRows ?hwrite]
  case hwrite =>
    intro row
    rfl
  split_ifs with hother
  · subst hother
    obtain ⟨row, hrow⟩ := Option.ne_none_iff_exists'.1 (mt find?_id_eq_none_iff.1 (not_not.2 hid))
    rw [hrow]
    rfl
  · rw [Option.map_map, Option.none_or]
    rfl

/-- **A commit gives one order a status.** -/
theorem PurchaseWrite.status?_apply (h : w.apply d = .ok d') (id : Uuid) :
    d'.status? id = (w.gives id).or (d.status? id) := by
  cases w with
  | insertOrder other data =>
    simp only [PurchaseWrite.apply] at h
    split at h
    · cases h
    · split_ifs at h with hid
      cases h
      rw [PurchaseDb.status?, PurchaseDb.order?, find?_concat_row hid, PurchaseWrite.gives]
      split_ifs <;> rfl
  | approve other => exact PurchaseDb.status?_setStatus h id
  | receive other => exact PurchaseDb.status?_setStatus h id

/-- What a write creates. -/
def PurchaseWrite.Creates (w : PurchaseWrite) (id : Uuid) (status : PoStatus) : Prop :=
  (∃ data, w = .insertOrder id data) ∧ status = .draft

/-- How a write moves an order on. -/
def PurchaseWrite.Moves (w : PurchaseWrite) (id : Uuid) (status status' : PoStatus) : Prop :=
  (w = .approve id ∧ status = .draft ∧ status' = .approved) ∨
    (w = .receive id ∧ (status = .approved ∨ status = .partlyReceived) ∧ status' = .received)

/-- **Every status is reached along a trail.** -/
theorem purchase_trail (h : History PurchaseWrite.apply (PurchaseWrite.Goes d₀) d₀ ws d)
    (h₀ : d₀.orders = []) (hstatus : d.status? id = some status) :
    ∃ trail, trail.Sublist ws ∧
      Trail PurchaseWrite.Creates PurchaseWrite.Moves id trail status := by
  refine h.trail (by simp [PurchaseDb.status?, PurchaseDb.order?, h₀]) ?_ hstatus
  intro ws w d d' status hrest hgoes happly hstatus
  rw [PurchaseWrite.status?_apply happly, Option.or_eq_some_iff] at hstatus
  rcases hstatus with hgives | ⟨-, hold⟩
  · cases w with
    | insertOrder other data =>
      obtain ⟨rfl, rfl⟩ := of_ite_eq_some hgives
      exact .inr (.inl ⟨⟨data, rfl⟩, rfl⟩)
    | approve other =>
      obtain ⟨rfl, rfl⟩ := of_ite_eq_some hgives
      obtain ⟨past, d'', hpast, hd'', hdraft⟩ := hgoes
      exact .inr (.inr ⟨_, past, d'', hpast, hd'', hdraft, .inl ⟨rfl, rfl, rfl⟩⟩)
    | receive other =>
      obtain ⟨rfl, rfl⟩ := of_ite_eq_some hgives
      obtain ⟨past, d'', status, hpast, hd'', hread, hstatus⟩ := hgoes
      exact .inr (.inr ⟨_, past, d'', hpast, hd'', hread, .inr ⟨rfl, hstatus, rfl⟩⟩)
  · exact .inl hold

/-! ### The trails -/

section Trails

variable {trail : List PurchaseWrite}

theorem trail_draft (h : Trail PurchaseWrite.Creates PurchaseWrite.Moves id trail .draft) :
    ∃ data, trail = [.insertOrder id data] := by
  cases h with
  | create hcreates =>
    obtain ⟨⟨data, rfl⟩, -⟩ := hcreates
    exact ⟨data, rfl⟩
  | move _ hmoves => rcases hmoves with ⟨-, -, h⟩ | ⟨-, -, h⟩ <;> cases h

theorem trail_approved (h : Trail PurchaseWrite.Creates PurchaseWrite.Moves id trail .approved) :
    ∃ data, trail = [.insertOrder id data, .approve id] := by
  cases h with
  | create hcreates => cases hcreates.2
  | move hrest hmoves =>
    rcases hmoves with ⟨rfl, rfl, -⟩ | ⟨-, -, h⟩
    · obtain ⟨data, rfl⟩ := trail_draft hrest
      exact ⟨data, rfl⟩
    · cases h

theorem trail_not_partlyReceived
    (h : Trail PurchaseWrite.Creates PurchaseWrite.Moves id trail .partlyReceived) : False := by
  cases h with
  | create hcreates => cases hcreates.2
  | move _ hmoves => rcases hmoves with ⟨-, -, h⟩ | ⟨-, -, h⟩ <;> cases h

theorem trail_received (h : Trail PurchaseWrite.Creates PurchaseWrite.Moves id trail .received) :
    ∃ data, trail = [.insertOrder id data, .approve id, .receive id] := by
  cases h with
  | create hcreates => cases hcreates.2
  | move hrest hmoves =>
    rcases hmoves with ⟨-, -, h⟩ | ⟨rfl, rfl | rfl, -⟩
    · cases h
    · obtain ⟨data, rfl⟩ := trail_approved hrest
      exact ⟨data, rfl⟩
    · exact (trail_not_partlyReceived hrest).elim

end Trails

/-! ### The status -/

/-- **Purchase orders in every interleaving of requests**, from no orders at all: the status of an
order is that of the last commit on it, and what it takes to get there has been committed, in this
order: goods are received only after an approval, and nothing is received in part. -/
theorem purchase_status_by_history (h₀ : d₀.orders = [])
    (hrun : purchaseSystem.Run (.init d₀) ls s) (order : PurchaseOrder)
    (horder : order ∈ s.db.orders) :
    s.db.status? order.id = lastGiven (PurchaseWrite.gives order.id) s.journal ∧
      ((∃ data, [.insertOrder order.id data].Sublist s.journal ∧
          s.db.status? order.id = some .draft) ∨
        (∃ data, [.insertOrder order.id data, .approve order.id].Sublist s.journal ∧
          s.db.status? order.id = some .approved) ∨
        (∃ data, [.insertOrder order.id data, .approve order.id, .receive order.id].Sublist
            s.journal ∧ s.db.status? order.id = some .received)) := by
  have hhistory := (Uow.sound_run PurchaseRequest.justified_handler hrun).history
  refine ⟨hhistory.column_eq (by simp [PurchaseDb.status?, PurchaseDb.order?, h₀])
    fun _ _ _ happly => PurchaseWrite.status?_apply happly order.id, ?_⟩
  have hsome : s.db.status? order.id ≠ none := by
    rw [ne_eq, PurchaseDb.status?_eq_none_iff, not_not]
    exact List.mem_map_of_mem horder
  obtain ⟨status, hstatus⟩ := Option.ne_none_iff_exists'.1 hsome
  obtain ⟨trail, hsub, htrail⟩ := purchase_trail hhistory h₀ hstatus
  cases status with
  | draft =>
    obtain ⟨data, rfl⟩ := trail_draft htrail
    exact .inl ⟨data, hsub, hstatus⟩
  | approved =>
    obtain ⟨data, rfl⟩ := trail_approved htrail
    exact .inr (.inl ⟨data, hsub, hstatus⟩)
  | partlyReceived => exact (trail_not_partlyReceived htrail).elim
  | received =>
    obtain ⟨data, rfl⟩ := trail_received htrail
    exact .inr (.inr ⟨data, hsub, hstatus⟩)

/-- An order whose goods are received between the reading and the writing of a second approval. -/
def approvedLate : List (Uow.Label PurchaseRequest) :=
  [.call (.createPurchaseOrder 1 { poNumber := "PO-1" }), .step 0, .step 0, .step 0,
    .call (.approvePurchaseOrder (.ofUuid 1)), .step 0,
    .call (.approvePurchaseOrder (.ofUuid 1)), .step 1, .step 0,
    .call (.receiveGoods (.ofUuid 1)), .step 2, .step 2, .step 1]

/-- The order of `approvedLate` stands as approved once more, after its receipt. -/
theorem purchase_status_by_history_late : ∃ s data,
    purchaseSystem.Run (.init {}) approvedLate s ∧ s.journal.map (PurchaseWrite.gives 1) =
      [some .draft, some .approved, some .received, some .approved] ∧
    s.db.status? 1 = some .approved ∧
    [.insertOrder 1 data, .approve 1].Sublist s.journal := by
  have hread : (Lts.runNext (Uow.State.next PurchaseWrite.apply PurchaseRequest.handler)
      (.init {}) approvedLate).map (fun s => (s.journal.map (PurchaseWrite.gives 1),
        s.db.orders.map PurchaseOrder.id, s.db.status? 1)) =
      some ([some .draft, some .approved, some .received, some .approved], [1],
        some .approved) := by
    decide +kernel
  obtain ⟨s, hrun, hs⟩ := Lts.exists_run_of_map hread
  rw [Prod.mk.injEq, Prod.mk.injEq] at hs
  obtain ⟨hjournal, hids, hstatus⟩ := hs
  have hmem : 1 ∈ s.db.orders.map PurchaseOrder.id := by
    rw [hids]
    exact List.mem_singleton_self 1
  obtain ⟨order, horder, hid⟩ := List.mem_map.1 hmem
  obtain ⟨-, ⟨data, -, h⟩ | ⟨data, hsub, -⟩ | ⟨data, -, h⟩⟩ :=
    purchase_status_by_history rfl hrun order horder
  · rw [hid, hstatus] at h
    cases h
  · exact ⟨s, data, hrun, hjournal, hstatus, hid ▸ hsub⟩
  · rw [hid, hstatus] at h
    cases h

end Wms

end OmsWmsTms
