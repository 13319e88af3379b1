import OmsWmsTms.Oms.Queries
import OmsWmsTms.Oms.StatusLog

/-!
# Deleted orders

`get_order` filters deleted orders; no other service and no task does.

* `OrderCall` : the operations on orders, with the queries.
* `Honours o` : the operation treats the order `o` as deleted.
* `Avoids o` : the condition on an operation.
* `honours_run` : in a run whose operations meet the condition, every operation treats a deleted
  order as deleted.
-/

namespace OmsWmsTms

namespace Oms

open Txn (Prog Writes Ensures ensures_bind)

/-! ### Operations -/

/-- The order is deleted. -/
def Deleted (o : Uuid) (d : OmsDb) : Prop :=
  ∃ order, orderAt d (.order o) = some order ∧ order.isDeleted = true

/-- An operation on orders. -/
inductive OrderCall
  | event (event : OmsEvent)
  | getOrder (orderId : IdArg)
  | listOrders (page pageSize : ℤ) (status : Option String) (customerId : Option IdArg)
  | getOrderHistory (orderId : IdArg)

/-- The committed rows after an operation that runs alone. -/
def OrderCall.apply (call : OrderCall) (ids : ℕ → ℕ) (d : OmsDb) : OmsDb :=
  match call with
  | event e => e.apply ids d
  | getOrder orderId => ((Oms.getOrder orderId).run ids d).2
  | listOrders page pageSize status customerId =>
    ((Oms.listOrders page pageSize status customerId).run ids d).2
  | getOrderHistory orderId => ((Oms.getOrderHistory orderId).run ids d).2

/-- The sequential runs; a label is an operation with its new identifiers. -/
def orderSystem : Lts OmsDb (OrderCall × (ℕ → ℕ)) where
  step d label d' := d' = label.1.apply label.2 d

/-- The call raises `NotFoundException`. -/
def IsNotFound {A : Type} (answer : Except ServiceError A) : Prop :=
  ∃ message, answer = .error (.notFound message)

/-- The call raises an exception of the services. -/
def Refuses {A : Type} (answer : Except ServiceError A) : Prop :=
  IsNotFound answer ∨ ∃ message detail, answer = .error (.validation message detail)

/-- The customer that `list_orders` filters by. -/
def customerFilter (customerId : Option IdArg) : Option Uuid :=
  customerId.bind fun arg => if arg.text = "" then none else arg.uuid?

/-- **The operation treats the order `o` as deleted.** -/
def Honours (o : Uuid) (d : OmsDb) (label : OrderCall × (ℕ → ℕ)) (d' : OmsDb) : Prop :=
  let ids := label.2
  match label.1 with
  | .getOrder orderId =>
    orderId.uuid? = some o → IsNotFound ((getOrder orderId).run ids d).1
  | .getOrderHistory orderId =>
    orderId.uuid? = some o → IsNotFound ((getOrderHistory orderId).run ids d).1
  | .listOrders page pageSize status customerId =>
    ∀ items total, ((listOrders page pageSize status customerId).run ids d).1 = .ok (items, total) →
      (∀ dict ∈ items, dict.id ≠ o) ∧
      total = ((selectedOrders (listFilter status (customerFilter customerId)) d).filter
        fun item => item.2.id ≠ o).length
  | .event (.updateOrderStatus now orderId target) =>
    orderId.uuid? = some o → IsNotFound ((updateOrderStatus now orderId target).run ids d).1
  | .event (.deleteOrder now orderId) =>
    orderId.uuid? = some o → IsNotFound ((deleteOrder now orderId).run ids d).1
  | .event (.splitOrder now orderId splits reason) =>
    orderId.uuid? = some o → Refuses ((splitOrder now orderId splits reason).run ids d).1
  | .event (.mergeOrders orderIds code warehouseId note) =>
    (∃ orderId ∈ orderIds, orderId.uuid? = some o) →
      Refuses ((mergeOrders orderIds code warehouseId note).run ids d).1
  | .event (.autoCompletePickedOrders _) | .event (.cancelAbandonedDrafts _)
  | .event (.cancelExpiredOrders _) | .event (.processPendingOrders _)
  | .event (.processStaleOrders _) => view d' o = view d o
  | .event (.createOrder ..) | .event (.handleAck ..) => True

/-! ### The condition -/

/-- The merge is refused: it names too few orders, or the first identifier that is not of an order
which can be merged is well formed. -/
def MergeRefused (d : OmsDb) (orderIds : List IdArg) : Prop :=
  orderIds.length < 2 ∨ FirstRefused orderIds
where
  /-- The first order that cannot be merged is missing or in a terminal status. -/
  FirstRefused : List IdArg → Prop
    | [] => False
    | orderId :: rest =>
      match orderId.uuid? with
      | none => False
      | some id =>
        match orderAt d (.order id) with
        | none => True
        | some order =>
          order.status ∈ [.completed, .cancelled, .failed] ∨ FirstRefused rest

/-- The call of `list_orders` raises: the customer is malformed or a page is negative. -/
def ListRaises (page pageSize : ℤ) (customerId : Option IdArg) : Prop :=
  (∃ arg, customerId = some arg ∧ arg.text ≠ "" ∧ arg.uuid? = none) ∨
    (page - 1) * pageSize < 0 ∨ pageSize < 0

/-- The operation does not meet the order `o`: it does not name it, its filter excludes it, the task
would not change it if it were not deleted, or the call is refused for another reason. -/
def Avoids (o : Uuid) (d : OmsDb) : OrderCall → Prop
  | .getOrder _ => True
  | .getOrderHistory orderId => orderId.uuid? ≠ some o
  | .listOrders page pageSize status customerId =>
    ListRaises page pageSize customerId ∨ ∀ order, orderAt d (.order o) = some order →
      listFilter status (customerFilter customerId) order = false
  | .event (.updateOrderStatus _ orderId _) => orderId.uuid? ≠ some o
  | .event (.deleteOrder _ orderId) => orderId.uuid? ≠ some o
  | .event (.splitOrder _ orderId _ _) => orderId.uuid? ≠ some o
  | .event (.mergeOrders orderIds _ _ _) =>
    MergeRefused d orderIds ∨ ∀ orderId ∈ orderIds, orderId.uuid? ≠ some o
  | .event (.autoCompletePickedOrders now) =>
    ∀ order, orderAt d (.order o) = some order → ¬ IsPicked now order
  | .event (.cancelAbandonedDrafts now) =>
    ∀ order, orderAt d (.order o) = some order → ¬ IsAbandoned now order
  | .event (.cancelExpiredOrders now) =>
    ∀ order, orderAt d (.order o) = some order → ¬ IsExpired now order
  | .event (.processPendingOrders now) =>
    ∀ order, orderAt d (.order o) = some order → ¬ IsReady now order
  | .event (.processStaleOrders now) =>
    ∀ order, orderAt d (.order o) = some order → ¬ IsStale now order
  | .event (.createOrder ..) | .event (.handleAck ..) => True

/-! ### A deleted order stays deleted -/

section Deleted

variable {o : Uuid} {d d' : OmsDb}

/-- A change of an order that keeps its flag. -/
def KeepsDeleted (change : Order → Order → Prop) : Prop :=
  ∀ order order', change order order' → order.isDeleted = true → order'.isDeleted = true

theorem keepsDeleted_setsTotal : KeepsDeleted SetsTotal := by
  rintro order _ ⟨total, rfl⟩ h
  exact h

theorem keepsDeleted_softDeletes : KeepsDeleted SoftDeletes := by
  rintro order _ ⟨now, rfl⟩ -
  rfl

theorem keepsDeleted_setsStatus (status : OrderStatus) : KeepsDeleted (SetsStatus status) := by
  rintro order _ ⟨now, rfl⟩ h
  exact h

theorem Deleted.set {ts : List OmsTable} {change : Order → Order → Prop} {key : OmsKey}
    {row : OmsRow} (hd : Deleted o d) (hchange : KeepsDeleted change)
    (h : Changes ts change key (d.get? key) row) : Deleted o (d.set key row) := by
  obtain ⟨order, horder, hdeleted⟩ := hd
  rw [Deleted, orderAt_set]
  split_ifs with hkey
  · subst hkey
    rw [get?_of_orderAt horder] at h
    cases h with
    | insert h => cases h.1
    | same row => exact ⟨order, rfl, hdeleted⟩
    | order h => exact ⟨_, rfl, hchange _ _ h hdeleted⟩
  · exact ⟨order, horder, hdeleted⟩

/-- A call keeps the keys and the flag. -/
theorem deleted_run {A : Type} {p : OmsProg A} {ts : List OmsTable} {change : Order → Order → Prop}
    (h : Writes True (Changes ts change) p) (hid : KeepsId change) (hchange : KeepsDeleted change)
    (hd : Keyed d ∧ Deleted o d) (ids : ℕ → ℕ) :
    Keyed (p.run ids d).2 ∧ Deleted o (p.run ids d).2 := by
  refine ⟨keyed_run h hid hd.1 ids, ?_⟩
  refine (h.exec (fun w key row row' hw hget hok => ?_) (fun w key row hw hget hok => ?_)
    (s := ⟨d, d, ids⟩) hd.2 hd.2).1
  · exact hw.set hchange (hget ▸ hok)
  · exact hw.set hchange (hget ▸ hok)

theorem reads_ordersToDicts (orders : List Order) : Txn.Reads (ordersToDicts orders) :=
  Writes.foldEach fun _ order => (reads_orderToDict order _).bind fun _ => trivial

theorem reads_getOrder (orderId : IdArg) : Txn.Reads (getOrder orderId) := by
  refine (reads_toUuid _).bind fun id => ?_
  intro rows
  simp only [Prog.pure_eq, Prog.bind]
  split
  · trivial
  · exact reads_orderToDict _ _

theorem reads_customerArg (customerId : Option IdArg) : Txn.Reads (customerArg customerId) := by
  unfold customerArg
  split
  · trivial
  · split
    · trivial
    · exact (reads_toUuid _).bind fun _ => trivial

theorem reads_listOrders (page pageSize : ℤ) (status : Option String) (customerId : Option IdArg) :
    Txn.Reads (listOrders page pageSize status customerId) := by
  refine (reads_customerArg _).bind fun customer => ?_
  intro counted
  simp only [Prog.pure_eq, Prog.bind_eq, Prog.bind]
  split
  · trivial
  · exact fun _ => (reads_ordersToDicts _).bind fun _ => trivial

theorem reads_getOrderHistory (orderId : IdArg) : Txn.Reads (getOrderHistory orderId) := by
  refine (reads_toUuid _).bind fun id => (reads_selectOrder id).bind fun order => ?_
  cases order with
  | none => trivial
  | some order => exact fun _ => trivial

/-- **A deleted order stays deleted.** -/
theorem deleted_step {label : OrderCall × (ℕ → ℕ)} (h : orderSystem.step d label d')
    (hd : Keyed d ∧ Deleted o d) : Keyed d' ∧ Deleted o d' := by
  obtain ⟨call, ids⟩ := label
  obtain rfl : d' = call.apply ids d := h
  have hinserts {A : Type} {p : OmsProg A} {ts : List OmsTable} (h : Writes True (Inserts ts) p) :
      Keyed (p.run ids d).2 ∧ Deleted o (p.run ids d).2 :=
    deleted_run (changes_of_inserts h) keepsId_setsTotal keepsDeleted_setsTotal hd ids
  have hstatus {A : Type} {p : OmsProg A} {ts : List OmsTable} {status : OrderStatus}
      (h : Writes True (Changes ts (SetsStatus status)) p) :
      Keyed (p.run ids d).2 ∧ Deleted o (p.run ids d).2 :=
    deleted_run h (keepsId_setsStatus _) (keepsDeleted_setsStatus _) hd ids
  cases call with
  | getOrder orderId =>
    rw [OrderCall.apply, Txn.run_reads (reads_getOrder orderId)]
    exact hd
  | listOrders page pageSize status customerId =>
    rw [OrderCall.apply, Txn.run_reads (reads_listOrders page pageSize status customerId)]
    exact hd
  | getOrderHistory orderId =>
    rw [OrderCall.apply, Txn.run_reads (reads_getOrderHistory orderId)]
    exact hd
  | event event =>
    cases event with
    | createOrder => exact hinserts (inserts_createOrder _ _ _ _)
    | updateOrderStatus => exact hstatus (changes_updateOrderStatus _ _ _)
    | deleteOrder =>
      exact deleted_run (changes_deleteOrder _ _) keepsId_softDeletes
        keepsDeleted_softDeletes hd ids
    | splitOrder =>
      exact deleted_run (changes_splitOrder _ _ _ _) keepsId_setsTotal keepsDeleted_setsTotal hd ids
    | mergeOrders => exact hinserts (inserts_mergeOrders _ _ _ _)
    | autoCompletePickedOrders => exact hstatus (changes_sweepOrders _ _ _ _)
    | cancelAbandonedDrafts => exact hstatus (changes_sweepOrders _ _ _ _)
    | cancelExpiredOrders => exact hstatus (changes_sweepOrders _ _ _ _)
    | processPendingOrders => exact hstatus (changes_sweepOrders _ _ _ _)
    | processStaleOrders => exact hinserts (inserts_processStaleOrders _)
    | handleAck => exact hstatus (changes_handleAck _ _)

end Deleted

/-! ### What the operations do -/

section Honours

variable {o : Uuid} {d : OmsDb}

/-- `get_order` does not find a deleted order. -/
theorem isNotFound_getOrder {orderId : IdArg} (hid : orderId.uuid? = some o) (hd : Keyed d)
    (hdeleted : Deleted o d) (ids : ℕ → ℕ) : IsNotFound ((getOrder orderId).run ids d).1 := by
  have hnone : selectedOrders (fun order => order.id = o ∧ ¬ order.isDeleted) d = [] := by
    refine List.eq_nil_iff_forall_not_mem.2 fun item hitem => ?_
    obtain ⟨horder, hlive⟩ := mem_selectedOrders.1 hitem
    obtain ⟨rfl, hlive⟩ := of_decide_eq_true hlive
    obtain ⟨order, horder', hdeleted⟩ := hdeleted
    obtain ⟨key, order'⟩ := item
    have hrow := hd key _ (get?_of_orderAt horder)
    cases key <;> simp_all [RowAt]
  unfold getOrder toUuid
  rw [hid]
  simp only [Prog.run, Prog.pure_eq, Prog.bind_eq, Prog.ret_bind, Prog.exec_bind,
    exec_selectOrders, hnone]
  exact ⟨_, rfl⟩

/-- The filter by the customer. -/
theorem ensures_customerArg {C : OmsDb → OmsDb → Prop} {w : OmsDb} (customerId : Option IdArg) :
    Ensures C (fun customer d' w' => d = d' ∧ w = w' ∧ customer = customerFilter customerId)
      (customerArg customerId) d w := by
  unfold customerArg customerFilter toUuid
  cases customerId with
  | none => exact ⟨rfl, rfl, rfl⟩
  | some arg =>
    simp only [Option.bind_some]
    split
    · exact ⟨rfl, rfl, rfl⟩
    · cases arg.uuid? with
      | none => trivial
      | some id => exact ⟨rfl, rfl, rfl⟩

/-- The dictionaries have the identifiers of the orders. -/
theorem ensures_ordersToDicts {C : OmsDb → OmsDb → Prop} {w : OmsDb} (orders : List Order) :
    Ensures C (fun dicts _ _ => dicts.map OrderDict.id = orders.map Order.id)
      (ordersToDicts orders) d w := by
  refine (Ensures.foldEach (I := fun rest dicts _ _ =>
    dicts.map OrderDict.id ++ rest.map Order.id = orders.map Order.id) ?_ orders [] rfl).mono ?_
  · intro order rest dicts d' w' h
    simp only [Prog.bind_eq, Prog.pure_eq, ensures_bind, orderToDict, selectItems,
      Txn.ensures_query, Txn.ensures_ret]
    simpa using h
  · intro dicts d' w' h
    simpa using h

/-- `list_orders` does not give an order that its filter excludes. -/
theorem honours_listOrders {page pageSize : ℤ} {status : Option String} {customerId : Option IdArg}
    (hid : ∀ order, orderAt d (.order o) = some order →
      listFilter status (customerFilter customerId) order = false) (hd : Keyed d) :
    Ensures (fun _ _ => True) (fun answer _ _ => (∀ dict ∈ answer.1, dict.id ≠ o) ∧
      answer.2 = ((selectedOrders (listFilter status (customerFilter customerId)) d).filter
        fun item => item.2.id ≠ o).length)
      (listOrders page pageSize status customerId) d d := by
  have hne : ∀ item ∈ selectedOrders (listFilter status (customerFilter customerId)) d,
      item.2.id ≠ o := by
    intro item hitem heq
    obtain ⟨horder, hmatch⟩ := mem_selectedOrders.1 hitem
    obtain ⟨key, order⟩ := item
    have hrow := hd key _ (get?_of_orderAt horder)
    cases key <;> simp_all [RowAt]
  refine ensures_bind.2 ((ensures_customerArg customerId).mono fun customer d' w hsame => ?_)
  obtain ⟨rfl, rfl, rfl⟩ := hsame
  refine ensures_bind.2 (ensures_selectOrders.2 ?_)
  simp only [Prog.bind_eq]
  split
  · trivial
  · refine ensures_bind.2 (ensures_selectOrders.2 (ensures_bind.2 ?_))
    refine (ensures_ordersToDicts _).mono fun dicts _ _ hdicts => ⟨fun dict hdict heq => ?_, ?_⟩
    · have hmem := List.mem_map_of_mem (f := OrderDict.id) hdict
      rw [hdicts, heq] at hmem
      obtain ⟨order, horder, hid⟩ := List.mem_map.1 hmem
      have hsorted := mem_orderByDesc.1 (List.mem_of_mem_drop (List.mem_of_mem_take horder))
      obtain ⟨item, hitem, rfl⟩ := List.mem_map.1 hsorted
      exact hne item hitem hid
    · rw [List.filter_eq_self.2 fun item hitem => decide_eq_true (hne item hitem)]

/-- `list_orders` raises on a malformed customer or a negative page. -/
theorem listOrders_raises {page pageSize : ℤ} {status : Option String} {customerId : Option IdArg}
    (h : ListRaises page pageSize customerId) :
    Ensures (fun _ _ => True) (fun _ _ _ => False) (listOrders page pageSize status customerId)
      d d := by
  rcases h with ⟨arg, rfl, htext, huuid⟩ | hpage
  · unfold listOrders customerArg toUuid
    simp only [htext, huuid, if_false]
    trivial
  · refine ensures_bind.2 ((ensures_customerArg customerId).mono fun customer d' w _ => ?_)
    refine ensures_bind.2 (ensures_selectOrders.2 ?_)
    simp only [if_pos hpage]
    trivial

theorem refuses_bind {A B : Type} {p : OmsProg A} {f : A → OmsProg B}
    {s : Txn.Session OmsKey OmsRow} (h : Refuses (p.exec s).1) : Refuses ((p.bind f).exec s).1 := by
  rw [Prog.exec_bind]
  generalize p.exec s = result at h
  obtain ⟨answer, s'⟩ := result
  rcases h with ⟨message, rfl⟩ | ⟨message, detail, rfl⟩
  · exact .inl ⟨message, rfl⟩
  · exact .inr ⟨message, detail, rfl⟩

/-- The loop over the identifiers stops at the first order that cannot be merged. -/
theorem refuses_gather {orderIds : List IdArg} (h : MergeRefused.FirstRefused d orderIds)
    (gathered : Gathered) (s : Txn.Session OmsKey OmsRow) (hs : s.working = d) :
    Refuses ((Prog.foldEach orderIds gathered gatherOrder).exec s).1 := by
  induction orderIds generalizing gathered with
  | nil => exact h.elim
  | cons orderId rest ih =>
    have hgather : (gatherOrder gathered orderId).exec s = (match orderId.uuid? with
        | none => .error .valueError
        | some id => match orderAt d (.order id) with
          | none => .error (orderNotFound orderId)
          | some order =>
            if order.status ∈ [.completed, .cancelled, .failed] then
              .error (.validation
                s!"Cannot merge order {orderId.text}: already in terminal state" none)
            else .ok {
              orders := gathered.orders ++ [order]
              totalAmount := gathered.totalAmount + order.totalAmount
              totalItems := gathered.totalItems +
                ((Txn.select (fun _ row => row.orderItem?.any (·.orderId = id)) d).filterMap
                  fun item => item.2.orderItem?.map (item.1, ·)).length }, s) := by
      subst hs
      unfold gatherOrder toUuid
      cases orderId.uuid? with
      | none => rfl
      | some id =>
        simp only [Prog.bind_eq, Prog.pure_eq, Prog.ret_bind, Prog.exec_bind, exec_selectOrder]
        cases orderAt s.working (.order id) with
        | none => rfl
        | some order =>
          simp only [selectItems, Prog.exec_bind, Prog.exec_query, Prog.bind_eq, Prog.pure_eq,
            Prog.exec_ret]
          split_ifs <;> rfl
    rw [Prog.foldEach, Prog.exec_bind, hgather]
    unfold MergeRefused.FirstRefused at h
    revert h
    cases orderId.uuid? with
    | none => exact fun h => h.elim
    | some id =>
      simp only
      cases orderAt d (.order id) with
      | none => exact fun _ => .inl ⟨_, rfl⟩
      | some order =>
        simp only
        split_ifs with hterminal
        · exact fun _ => .inr ⟨_, _, rfl⟩
        · exact fun h => ih (h.resolve_left hterminal) _

/-- **A merge that is refused.** -/
theorem refuses_mergeOrders {orderIds : List IdArg} {code : Option String}
    {warehouseId : Option IdArg} {note : String} (h : MergeRefused d orderIds) (ids : ℕ → ℕ) :
    Refuses ((mergeOrders orderIds code warehouseId note).run ids d).1 := by
  by_cases hlength : orderIds.length < 2
  · rw [mergeOrders, if_pos hlength]
    exact .inr ⟨_, _, rfl⟩
  · rw [mergeOrders, if_neg hlength]
    exact refuses_bind (refuses_gather (h.resolve_left hlength) _ ⟨d, d, ids⟩ rfl)

end Honours

/-! ### Runs -/

section Runs

variable {o : Uuid} {d d' : OmsDb}

/-- A task that spares an order. -/
theorem view_eq_of_spares {A : Type} {p : OmsProg A}
    (h : Ensures (fun d w => view w o = view d o) (fun _ _ _ => True) p d d) (ids : ℕ → ℕ) :
    view (p.run ids d).2 o = view d o := by
  have hcommits := (h.run ids).1
  generalize (p.run ids d).2 = d' at hcommits ⊢
  induction hcommits with
  | refl => rfl
  | tail _ hstep ih => exact hstep.trans ih

/-- **An operation that meets the condition treats a deleted order as deleted.** -/
theorem honours_step {label : OrderCall × (ℕ → ℕ)} (h : orderSystem.step d label d')
    (havoids : Avoids o d label.1) (hd : Keyed d) (hdeleted : Deleted o d) :
    Honours o d label d' := by
  obtain ⟨call, ids⟩ := label
  obtain rfl : d' = call.apply ids d := h
  cases call with
  | getOrder orderId => exact fun hid => isNotFound_getOrder hid hd hdeleted ids
  | getOrderHistory orderId => exact fun hid => absurd hid havoids
  | listOrders page pageSize status customerId =>
    intro items total hok
    rcases havoids with hraises | hid
    · have hnone : Ensures _ _ (listOrders page pageSize status customerId) d d :=
        listOrders_raises hraises
      exact ((hnone.exec ids).2 _ hok).elim
    · exact ((honours_listOrders hid hd).exec ids).2 _ hok
  | event event =>
    cases event with
    | createOrder => trivial
    | handleAck => trivial
    | updateOrderStatus => exact fun hid => absurd hid havoids
    | deleteOrder => exact fun hid => absurd hid havoids
    | splitOrder => exact fun hid => absurd hid havoids
    | mergeOrders =>
      rintro ⟨orderId, hmem, hid⟩
      rcases havoids with hrefused | hother
      · exact refuses_mergeOrders hrefused ids
      · exact absurd hid (hother orderId hmem)
    | autoCompletePickedOrders now =>
      exact view_eq_of_spares (spares_sweepOrders now
        (fun order horder => decide_eq_false (havoids order horder)) hd) ids
    | cancelAbandonedDrafts now =>
      exact view_eq_of_spares (spares_sweepOrders now
        (fun order horder => decide_eq_false (havoids order horder)) hd) ids
    | cancelExpiredOrders now =>
      exact view_eq_of_spares (spares_sweepOrders now
        (fun order horder => decide_eq_false (havoids order horder)) hd) ids
    | processPendingOrders now =>
      exact view_eq_of_spares (spares_sweepOrders now
        (fun order horder => decide_eq_false (havoids order horder)) hd) ids
    | processStaleOrders now =>
      exact view_eq_of_spares (spares_processStaleOrders now havoids hd) ids

/-- **A deleted order is treated as deleted in every operation of a run whose operations meet the
condition**, and it stays deleted. -/
theorem honours_run {labels : List (OrderCall × (ℕ → ℕ))} (hd : Keyed d) (hdeleted : Deleted o d)
    (h : (orderSystem.guard fun d label => Avoids o d label.1).Run d labels d') :
    (orderSystem.restrict (Honours o)).Run d labels d' ∧ Deleted o d' := by
  induction h with
  | nil => exact ⟨.nil _, hdeleted⟩
  | cons hst _ ih =>
    obtain ⟨hd', hdeleted'⟩ := deleted_step hst.1 ⟨hd, hdeleted⟩
    obtain ⟨hrest, hlast⟩ := ih hd' hdeleted'
    exact ⟨.cons ⟨hst.1, honours_step hst.1 hst.2 hd hdeleted⟩ hrest, hlast⟩

/-- `delete_order` deletes the order. -/
theorem deleted_deleteOrder {now : ℤ} {orderId : IdArg} (hid : orderId.uuid? = some o) {ids : ℕ → ℕ}
    (hok : ((deleteOrder now orderId).run ids d).1 = .ok ()) :
    Deleted o ((deleteOrder now orderId).run ids d).2 := by
  have hensures : Ensures (fun _ _ => True) (fun _ d' _ => Deleted o d') (deleteOrder now orderId)
      d d := by
    unfold deleteOrder toUuid
    rw [hid]
    simp only [Prog.ret_bind, Prog.pure_eq, Prog.bind_eq, ensures_bind, ensures_selectOrder]
    cases horder : orderAt d (.order o) with
    | none => trivial
    | some order =>
      refine ensures_bind.2 (ensures_selectItems fun items _ => ?_)
      split
      · trivial
      · refine ensures_bind.2 (Txn.ensures_updateOr.2 fun row hrow => ?_)
        obtain rfl : row = .order order :=
          Option.some.inj (hrow.symm.trans (get?_of_orderAt horder))
        refine ensures_bind.2 ((Ensures.forEach (I := fun _ d' w => d = d' ∧ Deleted o w)
          ?_ items ⟨rfl, ?_⟩).mono fun _ d' w h => Txn.ensures_commitOr.2 ⟨trivial, h.2⟩)
        · rintro item rest d' w ⟨rfl, order', horder', hdeleted⟩
          refine Txn.ensures_updateOr.2 fun row hrow => ⟨rfl, ?_⟩
          rw [Deleted, orderAt_set]
          split_ifs with hkey
          · rw [hkey, get?_of_orderAt horder'] at hrow
            cases hrow
            exact ⟨order', rfl, hdeleted⟩
          · exact ⟨order', horder', hdeleted⟩
        · rw [Deleted, orderAt_set, if_pos rfl]
          exact ⟨_, rfl, rfl⟩
  exact (hensures.exec ids).2 () hok

end Runs

/-! ### A deleted order that is confirmed -/

/-- A draft order. -/
def openDb : OmsDb :=
  Dict.empty.set (.order 1) (.order { cancelledOrder with status := .pending })

/-- The draft is deleted. -/
def deletedDb : OmsDb := ((deleteOrder 6 ⟨"1", some 1⟩).run id openDb).2

theorem keyed_deletedDb : Keyed deletedDb := by
  refine keyed_run (changes_deleteOrder 6 ⟨"1", some 1⟩) keepsId_softDeletes ?_ id
  intro key row h
  simp only [openDb, Dict.get?_set] at h
  split_ifs at h with hkey
  · subst hkey; cases h; rfl
  · cases h

theorem deleted_deletedDb : Deleted 1 deletedDb := deleted_deleteOrder rfl rfl

/-- The deleted order is not found, and not listed among the completed orders. -/
theorem deletedDb_honoured : ∃ d', (orderSystem.restrict (Honours 1)).Run deletedDb
    [(.getOrder ⟨"1", some 1⟩, id), (.listOrders 1 20 (some "completed") none, id)] d' ∧
    Deleted 1 d' := by
  refine ⟨_, honours_run keyed_deletedDb deleted_deletedDb
    (.cons ⟨rfl, trivial⟩ (.single ⟨rfl, .inr fun order horder => ?_⟩))⟩
  cases horder
  rfl

/-- **The deleted order is confirmed.** -/
theorem deletedDb_confirmed : ((deleteOrder 6 ⟨"1", some 1⟩).run id openDb).1 = .ok () ∧
    ∃ d', orderSystem.Run deletedDb
      [(.event (.updateOrderStatus 7 ⟨"1", some 1⟩ "confirmed"), id)] d' ∧
    (orderAt d' (.order 1)).map Order.status = some .confirmed ∧
    ¬ Honours 1 deletedDb (.event (.updateOrderStatus 7 ⟨"1", some 1⟩ "confirmed"), id) d' := by
  refine ⟨rfl, _, .single rfl, by decide +kernel, fun h => ?_⟩
  obtain ⟨message, hmessage⟩ := h rfl
  have hok : ((updateOrderStatus 7 ⟨"1", some 1⟩ "confirmed").run id deletedDb).1.isOk := by
    decide +kernel
  rw [hmessage] at hok
  cases hok

end Oms

end OmsWmsTms
