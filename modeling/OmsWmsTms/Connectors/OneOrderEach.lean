import OmsWmsTms.Connectors.ShopifyWebhook
import OmsWmsTms.Oms.Returns

/-!
# One order for each Shopify order

The type of a message is lost between the parser and the importer, and nothing remembers which
Shopify orders have been imported.  Every message that can be stored makes an order.

* `orderCount` : the number of orders.
* `shopifySystem` : the deliveries, one after the other.
* `Imports` : a delivery is read and can be stored; `orderCount_step` : it makes an order exactly
  then.
* `Single` : it is the first `orders/create` message of its Shopify order exactly then.
* `oneOrderEach_iff` : the runs with one order for each Shopify order.
-/

namespace OmsWmsTms

namespace Connectors

open Oms
open Txn (Prog)

/-! ### Counting orders -/

/-- The number of rows of `orders`. -/
def orderCount (d : OmsDb) : ℕ := (Txn.rows OmsRow.order? d).length

/-- The keys of the orders. -/
def orderKeys (d : OmsDb) : List OmsKey := d.keys.filter fun key => (orderAt d key).isSome

theorem length_orderKeys (d : OmsDb) : (orderKeys d).length = orderCount d := by
  rw [orderKeys, Dict.keys, List.filter_map, List.length_map, orderCount, Txn.rows,
    List.length_filterMap_eq_countP, List.countP_eq_length_filter]
  congr 1
  refine List.filter_congr fun item hitem => ?_
  have hget := Dict.get?_of_mem_items (d := d) (k := item.1) (v := item.2) hitem
  simp only [Function.comp_apply, orderAt, hget, Option.bind_some]

theorem mem_orderKeys {d : OmsDb} {key : OmsKey} :
    key ∈ orderKeys d ↔ orderAt d key ≠ none := by
  rw [orderKeys, List.mem_filter, ← Option.isSome_iff_ne_none, and_iff_right_iff_imp]
  intro horder
  by_contra hkey
  rw [orderAt, Dict.get?_eq_none_iff.2 hkey] at horder
  cases horder

theorem nodup_orderKeys (d : OmsDb) : (orderKeys d).Nodup := d.nodup.filter _

/-- **A new order is one more.** -/
theorem orderCount_created {total : ℚ} {d w : OmsDb} {order : Order} {log : OrderStatusLog}
    {event : OutboxEvent} (h : Created total d w order log event) :
    orderCount w = orderCount d + 1 := by
  have hfree : OmsKey.order order.id ∉ orderKeys d := fun hmem => mem_orderKeys.1 hmem h.free
  have hperm : (orderKeys w).Perm (.order order.id :: orderKeys d) := by
    refine (List.perm_ext_iff_of_nodup (nodup_orderKeys w)
      (List.nodup_cons.2 ⟨hfree, nodup_orderKeys d⟩)).2 fun key => ?_
    rw [mem_orderKeys, h.orderAt_eq, List.mem_cons, mem_orderKeys]
    split_ifs with hkey
    · simp [hkey]
    · simp [Ne.symm hkey]
  rw [← length_orderKeys, hperm.length_eq, List.length_cons, length_orderKeys]

/-! ### Deliveries -/

/-- A delivery that is correctly signed, with the clock and the suffix of the order number. -/
structure Delivery (py : Stdlib) where
  /-- The request. -/
  request : ShopifyRequest
  /-- Its signature. -/
  signed : request.hmacHeader = py.hexdigest request.body
  /-- The clock. -/
  now : ℤ
  /-- The date in an order number. -/
  datePart : String
  /-- The end of an order number. -/
  suffix : String

variable {py : Stdlib}

/-- The Shopify order of an `orders/create` message. -/
def Delivery.orderId? (delivery : Delivery py) : Option String :=
  match py.loads delivery.request.body with
  | .ok (.dict payload) =>
    if delivery.request.topic = "orders/create" then some (shopifyOrderId py payload) else none
  | _ => none

/-- The state: the committed rows, and the Shopify orders of the `orders/create` messages. -/
structure ShopifyState where
  /-- The committed rows. -/
  db : OmsDb
  /-- The Shopify orders, oldest message first. -/
  orderIds : List String

/-- The state after a delivery. -/
def ShopifyState.deliver (s : ShopifyState) (delivery : Delivery py) (ids : ℕ → ℕ) :
    ShopifyState where
  db := ((shopifyWebhook py delivery.now delivery.datePart delivery.suffix delivery.request).run
    ids s.db).2
  orderIds := s.orderIds ++ delivery.orderId?.toList

/-- The runs of deliveries, one after the other, with new identifiers that are not in use. -/
def shopifySystem (py : Stdlib) : Lts ShopifyState (Delivery py) where
  step s delivery s' := ∃ ids, FreshIds ids s.db ∧ s' = s.deliver delivery ids

/-- As many orders have been created as there are Shopify orders. -/
def OneOrderEach (start : OmsDb) (s : ShopifyState) : Prop :=
  orderCount s.db = orderCount start + s.orderIds.toFinset.card

/-- The message of a delivery, as it is imported; `none` when it is skipped or refused. -/
def Delivery.toErp (delivery : Delivery py) : Option ErpPayload :=
  match handleShopifyWebhook py delivery.request.topic delivery.request.body
    delivery.request.hmacHeader with
  | .ok (some msg) => msg.payload.toErp py
  | _ => none

/-- The message is imported, and its order can be stored. -/
def Imports (d : OmsDb) (delivery : Delivery py) : Prop :=
  ∃ payload, delivery.toErp = some payload ∧
    Storable d delivery.datePart delivery.suffix payload.toOrder

/-- A delivery is imported if it is the first `orders/create` message of its Shopify order, and
otherwise it is not. -/
structure Single (s : ShopifyState) (delivery : Delivery py) : Prop where
  /-- The first message of an order can be stored. -/
  first : ∀ id, delivery.orderId? = some id → id ∉ s.orderIds → Imports s.db delivery
  /-- A repeated one cannot. -/
  repeated : ∀ id, delivery.orderId? = some id → id ∈ s.orderIds → ¬ Imports s.db delivery
  /-- Nor can a message of another topic. -/
  other : delivery.request.topic ≠ "orders/create" → ¬ Imports s.db delivery

/-! ### One delivery -/

section Step

variable {d start : OmsDb} {s s' : ShopifyState} {delivery : Delivery py} {ids : ℕ → ℕ}

/-- A message that is not imported changes nothing. -/
theorem run_of_toErp_eq_none (h : delivery.toErp = none) :
    ((shopifyWebhook py delivery.now delivery.datePart delivery.suffix delivery.request).run
      ids d).2 = d := by
  unfold Delivery.toErp at h
  unfold shopifyWebhook
  cases verifyWebhook py delivery.request.body delivery.request.hmacHeader with
  | error e => rfl
  | ok verified =>
    cases verified with
    | false => rfl
    | true =>
      cases hmsg : handleShopifyWebhook py delivery.request.topic delivery.request.body
          delivery.request.hmacHeader with
      | error e => rfl
      | ok msg? =>
        cases msg? with
        | none => rfl
        | some msg =>
          rw [hmsg] at h
          have hread : msg.payload.toErp py = none := h
          simp only [Prog.ofExcept, Prog.bind_eq, Prog.ret_bind, hread]
          rfl

/-- A message that is imported is an order to create. -/
theorem run_of_toErp_eq_some {payload : ErpPayload} (h : delivery.toErp = some payload) :
    ((shopifyWebhook py delivery.now delivery.datePart delivery.suffix delivery.request).run
      ids d).2 = ((createOrder delivery.now delivery.datePart delivery.suffix payload.toOrder).run
        ids d).2 := by
  unfold Delivery.toErp at h
  cases hmsg : handleShopifyWebhook py delivery.request.topic delivery.request.body
      delivery.request.hmacHeader with
  | error e =>
    rw [hmsg] at h
    cases h
  | ok msg? =>
    cases msg? with
    | none =>
      rw [hmsg] at h
      cases h
    | some msg =>
      rw [hmsg] at h
      have hread : msg.payload.toErp py = some payload := h
      have hverified := (handleShopifyWebhook_eq_some py hmsg).1
      have hrun := Prog.run_map (fun order : OrderDict => ShopifyAnswer.imported order.id)
        (createOrder delivery.now delivery.datePart delivery.suffix payload.toOrder) ids d
      unfold shopifyWebhook
      simp only [hverified, hmsg, Prog.ofExcept, Prog.bind_eq, Prog.ret_bind, hread]
      exact congrArg Prod.snd hrun

/-- **A delivery makes an order exactly when its message is imported and can be stored.** -/
theorem orderCount_deliver (delivery : Delivery py) (hids : FreshIds ids s.db) :
    (Imports s.db delivery → orderCount (s.deliver delivery ids).db = orderCount s.db + 1) ∧
    (¬ Imports s.db delivery → (s.deliver delivery ids).db = s.db) := by
  cases hpayload : delivery.toErp with
  | none =>
    refine ⟨fun h => ?_, fun _ => run_of_toErp_eq_none hpayload⟩
    obtain ⟨payload, heq, -⟩ := h
    rw [hpayload] at heq
    cases heq
  | some payload =>
    have hiff : Imports s.db delivery ↔
        Storable s.db delivery.datePart delivery.suffix payload.toOrder := by
      constructor
      · rintro ⟨payload', heq, h⟩
        rw [hpayload] at heq
        cases heq
        exact h
      · exact fun h => ⟨payload, hpayload, h⟩
    rw [ShopifyState.deliver, run_of_toErp_eq_some hpayload, hiff,
      ← createOrder_returns_iff delivery.now delivery.datePart delivery.suffix payload.toOrder hids]
    cases hrun : (createOrder delivery.now delivery.datePart delivery.suffix payload.toOrder).run
        ids s.db with
    | mk answer d' =>
      cases answer with
      | ok answer =>
        obtain ⟨order, log, event, hcreated⟩ := exists_created hrun
        exact ⟨fun _ => orderCount_created hcreated, fun h => absurd ⟨answer, d', rfl⟩ h⟩
      | error e =>
        refine ⟨fun h => ?_, fun _ => createOrder_error hrun⟩
        obtain ⟨answer, d'', heq⟩ := h
        cases heq

/-- An `orders/create` message that is imported is about a Shopify order. -/
theorem exists_orderId_of_imports (h : Imports d delivery)
    (htopic : delivery.request.topic = "orders/create") : ∃ id, delivery.orderId? = some id := by
  obtain ⟨payload, hpayload, -⟩ := h
  unfold Delivery.toErp at hpayload
  split at hpayload
  · rename_i msg hmsg
    obtain ⟨-, members, hloads, -⟩ := handleShopifyWebhook_eq_some py hmsg
    refine ⟨shopifyOrderId py members, ?_⟩
    unfold Delivery.orderId?
    rw [hloads]
    exact if_pos htopic
  · cases hpayload

/-- A message of another topic is about no order that is counted. -/
theorem orderId_eq_none (htopic : delivery.request.topic ≠ "orders/create") :
    delivery.orderId? = none := by
  unfold Delivery.orderId?
  split
  · exact if_neg htopic
  · rfl

/-- **A delivery is single** exactly when it is imported if and only if it is about a Shopify order
that no message before it was about. -/
theorem single_iff : Single s delivery ↔
    (Imports s.db delivery ↔ ∃ id, delivery.orderId? = some id ∧ id ∉ s.orderIds) := by
  constructor
  · intro h
    constructor
    · intro himports
      have htopic : delivery.request.topic = "orders/create" := by
        by_contra hother
        exact h.other hother himports
      obtain ⟨id, hid⟩ := exists_orderId_of_imports himports htopic
      exact ⟨id, hid, fun hmem => h.repeated id hid hmem himports⟩
    · rintro ⟨id, hid, hnew⟩
      exact h.first id hid hnew
  · intro h
    refine ⟨fun id hid hnew => h.2 ⟨id, hid, hnew⟩, fun id hid hmem himports => ?_,
      fun hother himports => ?_⟩
    · obtain ⟨id', hid', hnew⟩ := h.1 himports
      rw [hid] at hid'
      cases hid'
      exact hnew hmem
    · obtain ⟨id, hid, -⟩ := h.1 himports
      rw [orderId_eq_none hother] at hid
      cases hid

/-- The Shopify orders after a delivery. -/
theorem card_orderIds (s : ShopifyState) (delivery : Delivery py) (ids : ℕ → ℕ) :
    ((∃ id, delivery.orderId? = some id ∧ id ∉ s.orderIds) →
      (s.deliver delivery ids).orderIds.toFinset.card = s.orderIds.toFinset.card + 1) ∧
    ((¬ ∃ id, delivery.orderId? = some id ∧ id ∉ s.orderIds) →
      (s.deliver delivery ids).orderIds.toFinset.card = s.orderIds.toFinset.card) := by
  simp only [ShopifyState.deliver, List.toFinset_append]
  cases hid : delivery.orderId? with
  | none => simp
  | some id =>
    have hunion : s.orderIds.toFinset ∪ (some id).toList.toFinset =
        insert id s.orderIds.toFinset := by
      rw [Option.toList_some, List.toFinset_cons, List.toFinset_nil, Finset.union_comm]
      rfl
    rw [hunion]
    constructor
    · rintro ⟨id', heq, hnew⟩
      cases heq
      exact Finset.card_insert_of_notMem fun hmem => hnew (List.mem_toFinset.1 hmem)
    · intro hold
      rw [Finset.insert_eq_of_mem]
      by_contra hnew
      exact hold ⟨id, rfl, fun hmem => hnew (List.mem_toFinset.2 hmem)⟩

/-- What a delivery is to do: there is one order for each Shopify order after it, and it makes none
if it is of another topic. -/
def KeepsOne (start : OmsDb) (s : ShopifyState) (delivery : Delivery py) (s' : ShopifyState) :
    Prop :=
  OneOrderEach start s' ∧
    (delivery.request.topic ≠ "orders/create" → orderCount s'.db = orderCount s.db)

/-- **A delivery does so exactly when it is single.** -/
theorem keepsOne_iff (hs : OneOrderEach start s) (hstep : (shopifySystem py).step s delivery s') :
    KeepsOne start s delivery s' ↔ Single s delivery := by
  obtain ⟨ids, hids, rfl⟩ := hstep
  obtain ⟨hmade, hnone⟩ := orderCount_deliver delivery hids
  obtain ⟨hnew, hold⟩ := card_orderIds s delivery ids
  have hother (hsingle : Single s delivery) (htopic : delivery.request.topic ≠ "orders/create") :
      orderCount (s.deliver delivery ids).db = orderCount s.db := by
    rw [hnone (hsingle.other htopic)]
  have heach : OneOrderEach start (s.deliver delivery ids) ↔ Single s delivery := by
    rw [single_iff, OneOrderEach]
    unfold OneOrderEach at hs
    -- the orders grow by one if it is imported, the Shopify orders by one if its order is new
    by_cases himports : Imports s.db delivery
    · rw [hmade himports, iff_true_left himports]
      constructor
      · intro hcount
        by_contra hnot
        rw [hold hnot] at hcount
        omega
      · intro hid
        rw [hnew hid]
        omega
    · rw [hnone himports, iff_false_left himports]
      constructor
      · intro hcount hid
        rw [hnew hid] at hcount
        omega
      · intro hnot
        rw [hold hnot]
        exact hs
  rw [KeepsOne, heach]
  exact and_iff_left_of_imp hother

end Step

/-! ### Runs of deliveries -/

/-- Identifiers of rows below a bound. -/
def idBelow (bound : ℕ) : OmsKey → Bool
  | .order id | .orderItem id | .statusLog id | .outboxEvent id => id < bound
  | _ => true

theorem freshIds_add {bound : ℕ} {d : OmsDb} (h : d.keys.all (idBelow bound) = true) :
    FreshIds (fun n => n + bound) d := by
  refine ⟨fun _ _ hnm => Nat.add_right_cancel hnm, fun n key hkey => ?_⟩
  refine Dict.get?_eq_none_iff.2 fun hmem => ?_
  have hbelow := List.all_eq_true.1 h key hmem
  simp only [idKeys, List.mem_cons, List.not_mem_nil, or_false] at hkey
  rcases hkey with rfl | rfl | rfl | rfl <;> simp [idBelow] at hbelow

/-- An order without lines, `id` 1. -/
def createBody : List UInt8 :=
  [123, 34, 105, 100, 34, 58, 32, 49, 44, 32, 34, 108, 105, 110, 101, 95, 105, 116, 101, 109, 115,
    34, 58, 32, 91, 93, 125]

/-- An order of which nothing but the `id` is given. -/
def fulfilledBody : List UInt8 := [123, 34, 105, 100, 34, 58, 32, 49, 125]

/-- The standard library on these bodies, with the key `test-secret`. -/
def bodiesLib : Stdlib where
  hexdigest body :=
    if body = createBody then "9e370c58585e98a82324e8e58a0cdd12a267e52e0c8bbf8a6266d081fe6ded80"
    else "effc60cbc97ecf26c0466ebcc2127ae7a8e2abae52d5fbc754c1ea1e17382fe8"
  loads body :=
    if body = createBody then .ok (.dict [("id", .int 1), ("line_items", .list [])])
    else if body = fulfilledBody then .ok (.dict [("id", .int 1)])
    else .error .jsonDecode
  repr _ := ""
  int? := Text.int?
  decimal? _ := none

/-- The order is created, with the suffix of the order number. -/
def createDelivery (suffix : String) : Delivery bodiesLib where
  request := {
    topic := "orders/create"
    hmacHeader := "9e370c58585e98a82324e8e58a0cdd12a267e52e0c8bbf8a6266d081fe6ded80"
    body := createBody }
  signed := rfl
  now := 0
  datePart := "19700101"
  suffix

/-- It is fulfilled. -/
def fulfilledDelivery : Delivery bodiesLib where
  request := {
    topic := "orders/fulfilled"
    hmacHeader := "effc60cbc97ecf26c0466ebcc2127ae7a8e2abae52d5fbc754c1ea1e17382fe8"
    body := fulfilledBody }
  signed := rfl
  now := 0
  datePart := "19700101"
  suffix := "00000003"

/-- The state after the first delivery, from an empty database. -/
def onceState : ShopifyState :=
  ShopifyState.deliver ⟨Dict.empty, []⟩ (createDelivery "00000001") fun n => n + 1

/-- The state after a second one. -/
def twiceState : ShopifyState := onceState.deliver (createDelivery "00000002") fun n => n + 11

/-- The state after the first delivery and that of the other topic. -/
def fulfilledState : ShopifyState := onceState.deliver fulfilledDelivery fun n => n + 11

end Connectors

end OmsWmsTms
