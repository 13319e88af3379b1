import OmsWmsTms.Connectors.Service
import OmsWmsTms.Oms.SplitConserves

/-!
# The events of new orders

`create_order` appends the event `order.created` in the transaction of the order; `split_order`
makes orders without events.  The payload has the total that was computed, and the order what its
column keeps of it.

* `OutboxComplete` : every order has one event, with its total, and every event an order.
* `intakeSystem` : the calls that make orders, each stopped after any of its statements.
* `Announces` : the condition on a call.
* `outboxComplete_run` : a run whose calls meet the condition keeps the events complete.
-/

namespace OmsWmsTms

namespace Oms

open Txn (Prog Writes Ensures ensures_bind ensures_insertOr)
open Connectors (ErpPayload importErpOrder)

/-! ### Orders and their events -/

/-- The events `order.created` of an order. -/
def createdEvents (d : OmsDb) (id : Uuid) : List OutboxEvent :=
  (outboxEvents d).filter fun event => event.eventType = "order.created" ∧ event.aggregateId = id

/-- **Every order has exactly one event, with its total**, and there is no event without an
order. -/
def OutboxComplete (d : OmsDb) : Prop :=
  ∀ id, match orderAt d (.order id) with
    | none => createdEvents d id = []
    | some order => ∃ event, createdEvents d id = [event] ∧
        event.payload.totalAmount = order.totalAmount

/-- The total column keeps the total as it is. -/
def StoredExactly (total : ℚ) : Prop :=
  ∀ amount : Numeric 18 2, Numeric.ofRat? total = some amount → (amount : ℚ) = total

theorem storedExactly_of_onGrid {total : ℚ} (h : OnGrid 2 total) : StoredExactly total :=
  fun _ hamount => Numeric.toRat_of_ofRat? h hamount

/-- **A new order and its event.** -/
theorem Created.outboxComplete {total : ℚ} {d w : OmsDb} {order : Order} {log : OrderStatusLog}
    {event : OutboxEvent} (h : Created total d w order log event) (htotal : StoredExactly total)
    (hd : OutboxComplete d) : OutboxComplete w := by
  intro id
  have hevents : createdEvents w id =
      createdEvents d id ++ if order.id = id then [event] else [] := by
    rw [createdEvents, h.outboxEvents_eq, List.filter_append]
    by_cases hid : order.id = id <;> simp [hid, createdEvents, h.event_eq.1, h.event_eq.2.1]
  have hold := hd id
  rw [h.orderAt_eq, hevents]
  by_cases hid : order.id = id
  · subst hid
    rw [h.free] at hold
    rw [if_pos rfl, if_pos rfl, show createdEvents d order.id = [] from hold]
    exact ⟨event, rfl, h.event_eq.2.2.trans (htotal _ (storeNumeric_eq_ok_iff.1 h.stored)).symm⟩
  · rw [if_neg (by simpa using hid), if_neg hid, List.append_nil]
    exact hold

/-! ### Calls -/

/-- A call that makes orders. -/
inductive Intake
  | createOrder (now : ℤ) (datePart suffix : String) (data : OrderCreate)
  | importErpOrder (now : ℤ) (datePart suffix : String) (payload : ErpPayload)
  | splitOrder (now : ℤ) (orderId : IdArg) (splits : List Split) (reason : String)

/-- Its program. -/
def Intake.prog : Intake → OmsProg Unit
  | createOrder now datePart suffix data => do
    let _ ← Oms.createOrder now datePart suffix data
    return ()
  | importErpOrder now datePart suffix payload => do
    let _ ← Connectors.importErpOrder now datePart suffix payload
    return ()
  | splitOrder now orderId splits reason => do
    let _ ← Oms.splitOrder now orderId splits reason
    return ()

/-- The runs of the calls, one after the other.  A call may stop after any of its statements, and
its commit may fail. -/
def intakeSystem : Lts OmsDb Intake where
  step d call d' := ∃ labels s,
    Txn.system.Run (Txn.State.start d fun _ : Unit => call.prog) labels s ∧ d' = s.db

/-- The split makes no order: it names no child, or there is no order to split, or the number of the
first child is too long or taken. -/
def SplitsNothing (d : OmsDb) (orderId : IdArg) (splits : List Split) : Prop :=
  splits = [] ∨ ∀ id order, orderId.uuid? = some id → orderAt d (.order id) = some order →
    50 < (order.orderNo ++ "-SP1").length ∨ d.get? (.orderNo (order.orderNo ++ "-SP1")) ≠ none

/-- The call gives an event to every order that it makes, with the order's total. -/
def Announces (d : OmsDb) : Intake → Prop
  | .createOrder _ _ _ data => StoredExactly (orderTotal data.items)
  | .importErpOrder _ _ _ payload => StoredExactly (orderTotal payload.toOrder.items)
  | .splitOrder _ orderId splits _ => SplitsNothing d orderId splits

section Calls

variable {C : OmsDb → OmsDb → Prop} {d d' : OmsDb}

/-- A split that makes no order commits nothing new. -/
theorem ensures_splitOrder_nothing {now : ℤ} {orderId : IdArg} {splits : List Split}
    {reason : String} (h : SplitsNothing d orderId splits) (hC : C d d) :
    Ensures C (fun _ _ _ => True) (splitOrder now orderId splits reason) d d := by
  unfold splitOrder toUuid
  cases hid : orderId.uuid? with
  | none => trivial
  | some id =>
    simp only [Prog.ret_bind, Prog.pure_eq, Prog.bind_eq, ensures_bind, ensures_selectOrder]
    cases horder : orderAt d (.order id) with
    | none => trivial
    | some order =>
      refine ensures_bind.2 (ensures_selectItems fun items _ => ensures_bind.2 ?_)
      cases splits with
      | nil => exact ensures_bind.2 (Txn.ensures_commitOr.2 ⟨hC, trivial⟩)
      | cons split rest =>
        rcases h with h | h
        · cases h
        · refine ensures_bind.2 (ensures_bind.2 fun n => ?_)
          simp only [Prog.bind_eq, insertOrder, ensures_bind, Txn.ensures_ofExcept,
            ensures_insertOr]
          intro number hnumber hfree
          have htext : toString order.orderNo ++ toString "-SP" ++
              toString (([] : List OrderDict).length + 1) = order.orderNo ++ "-SP1" := by
            rw [String.append_assoc]
            rfl
          rw [htext, storeWhole_eq_ok_iff] at hnumber
          obtain ⟨hlength, rfl⟩ := hnumber
          rcases h id order hid horder with hlong | htaken
          · exact absurd hlong (Nat.not_lt.2 hlength)
          · exact absurd hfree htaken

/-- **A call that meets the condition keeps the events complete**, wherever it stops. -/
theorem outboxComplete_step {call : Intake} (h : intakeSystem.step d call d')
    (hcall : Announces d call) (hd : OutboxComplete d) : OutboxComplete d' := by
  obtain ⟨labels, s, hrun, rfl⟩ := h
  have hprog : Ensures (fun d w => OutboxComplete d → OutboxComplete w) (fun _ _ _ => True)
      call.prog d d := by
    cases call with
    | createOrder now datePart suffix data =>
      refine ensures_bind.2 ((ensures_createOrder now datePart suffix data d ?_).mono
        fun _ _ _ _ => trivial)
      exact fun w order log event hcreated => hcreated.outboxComplete hcall
    | importErpOrder now datePart suffix payload =>
      refine ensures_bind.2 ((ensures_createOrder now datePart suffix payload.toOrder d ?_).mono
        fun _ _ _ _ => trivial)
      exact fun w order log event hcreated => hcreated.outboxComplete hcall
    | splitOrder now orderId splits reason =>
      exact ensures_bind.2 ((ensures_splitOrder_nothing hcall fun hd => hd).mono
        fun _ _ _ _ => trivial)
  have hcommits := hprog.crash hrun
  clear hrun
  generalize s.db = d' at hcommits ⊢
  induction hcommits with
  | refl => exact hd
  | tail _ hstep ih => exact hstep ih

/-- **The events of the orders are complete after every run whose calls meet the condition.** -/
theorem outboxComplete_run {calls : List Intake} (hd : OutboxComplete d)
    (h : (intakeSystem.guard Announces).Run d calls d') : OutboxComplete d' :=
  h.invariant hd fun _ _ _ hd hstep => outboxComplete_step hstep.1 hstep.2 hd

end Calls

/-! ### A split without events -/

/-- The rows after a call whose statements all succeed, with the identifiers from `start` on. -/
def intakeDb (d : OmsDb) (call : Intake) (start : ℕ) : Option OmsDb :=
  ((Txn.State.start d fun _ : Unit => call.prog).schedule
    ((List.range 40).map fun n => ((), start + n))).map Txn.State.db

theorem step_of_intakeDb {d d' : OmsDb} {call : Intake} {start : ℕ}
    (h : intakeDb d call start = some d') : intakeSystem.step d call d' := by
  obtain ⟨s, hs, rfl⟩ := Option.map_eq_some_iff.1 h
  exact ⟨_, s, Txn.State.run_schedule hs, rfl⟩

/-- An order of two pieces. -/
def createCall : Intake := .createOrder 0 "19700101" "0A0B0C0D"
  { customerId := "C-1", items := [{ sku := "SKU-001", quantity := 2, unitPrice := 10 }] }

/-- Its split: one child without items. -/
def splitCall : Intake := .splitOrder 1 ⟨"4", some 4⟩ [{}] ""

/-- The rows after the order, from an empty database. -/
def createdDb : OmsDb := (intakeDb Dict.empty createCall 1).getD Dict.empty

/-- The rows after the split. -/
def splitDb : OmsDb := (intakeDb createdDb splitCall 101).getD Dict.empty

theorem step_createdDb : intakeSystem.step Dict.empty createCall createdDb := by
  obtain ⟨d, hd⟩ := Option.isSome_iff_exists.1
    (show (intakeDb Dict.empty createCall 1).isSome = true by decide +kernel)
  rw [createdDb, hd]
  exact step_of_intakeDb hd

theorem step_splitDb : intakeSystem.step createdDb splitCall splitDb := by
  obtain ⟨d, hd⟩ := Option.isSome_iff_exists.1
    (show (intakeDb createdDb splitCall 101).isSome = true by decide +kernel)
  rw [splitDb, hd]
  exact step_of_intakeDb hd

theorem outboxComplete_empty : OutboxComplete Dict.empty := fun _ => rfl

/-- The new order has its event. -/
theorem createdDb_outboxComplete :
    OutboxComplete createdDb ∧ (createdEvents createdDb 4).length = 1 :=
  ⟨outboxComplete_run outboxComplete_empty
    (.single ⟨step_createdDb, storedExactly_of_onGrid (by decide +kernel)⟩), by decide +kernel⟩

/-- **The child order has no event.** -/
theorem splitDb_not_outboxComplete : OutboxComplete Dict.empty ∧
    intakeSystem.Run Dict.empty [createCall, splitCall] splitDb ∧ ¬ OutboxComplete splitDb := by
  refine ⟨outboxComplete_empty, .cons step_createdDb (.single step_splitDb), fun h => ?_⟩
  have hchild := h 103
  obtain ⟨child, horder⟩ := Option.isSome_iff_exists.1
    (show (orderAt splitDb (.order 103)).isSome = true by decide +kernel)
  rw [horder] at hchild
  obtain ⟨event, hevent, -⟩ := hchild
  rw [show createdEvents splitDb 103 = [] by decide +kernel] at hevent
  cases hevent

end Oms

end OmsWmsTms
