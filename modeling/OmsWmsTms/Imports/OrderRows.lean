import OmsWmsTms.Control.Except
import OmsWmsTms.Imports.Orders
import OmsWmsTms.Oms.Returns
import OmsWmsTms.Txn.Owned
import OmsWmsTms.Txn.Sorts

/-!
# One row of an import of orders

* `Storable` : the order of a row can be stored.
* `Interrupted` : `create_order` raises, and not in the database: what it has written stays pending.
* `outcome_writeOrder` : it returns, is interrupted or loses the transaction, by these conditions.
* `Own` : the rows of an identifier; `owned_writeOrder` : a row writes no others.
-/

namespace OmsWmsTms

namespace Imports

open Oms (OmsDb OmsKey OmsRow OmsProg Obtainable FreshIds Room)
open Txn (Prog Decides Sorts StopsAt ThrowsOnly Owned)

/-! ### Which order can be stored -/

/-- The SKU of an item is found by its code, or can be inserted; there may be none. -/
def SkuStorable (d : OmsDb) : Json → Prop
  | .str code => code = "" ∨ Obtainable d (.sku code) OmsRow.sku? code
  | value => value.truthy = false

/-- The SKU of an item is a list or an object, and the query for it is not sent. -/
def Refused : Json → Prop
  | .str _ => False
  | value => value.truthy = true ∧ skuError value = .refused

/-- An item can be stored. -/
structure LineStorable (d : OmsDb) (line : Line) : Prop where
  sku : SkuStorable d line.sku
  gtin : ∃ text, columnText line.gtin = .ok text ∧ Text.FitsUpToBlanks 13 text
  productName : ∃ text, columnText line.productName = .ok text ∧ Text.FitsUpToBlanks 200 text
  quantity : FitsInteger line.quantity
  unitPrice : (Numeric.ofRat? line.unitPrice : Option (Numeric 18 4)).isSome = true

/-- The row of the order can be inserted. -/
structure OrderFits (d : OmsDb) (draws : Draws) (lines : List Line) : Prop where
  number : draws.orderNo.length ≤ 50
  free : d.get? (.orderNo draws.orderNo) = none
  total : (Numeric.ofRat? (totalOf lines) : Option (Numeric 18 2)).isSome = true

/-- The customer is found by the code, or can be inserted. -/
def CustomerStorable (d : OmsDb) (data : OrderData) : Prop :=
  Obtainable d (.customer data.customerId) OmsRow.customer? data.customerId

variable (py : Stdlib) (draws : Draws)

/-- The order of a row can be stored. -/
def OrderStorable (d : OmsDb) (data : OrderData) : Prop :=
  CustomerStorable d data ∧ ∃ lines, readLines py data.items = .ok lines ∧
    OrderFits d draws lines ∧ ∀ line ∈ lines, LineStorable d line

/-- `create_order` raises outside of the database: an item is malformed, or the query for its SKU is
not sent. -/
def Interrupted (d : OmsDb) (data : OrderData) : Prop :=
  CustomerStorable d data ∧ ((∃ e, readLines py data.items = .error e) ∨
    ∃ lines, readLines py data.items = .ok lines ∧ OrderFits d draws lines ∧
      StopsAt (LineStorable d) (fun line => Refused line.sku) lines)

/-! ### Exceptions -/

/-- The program raises only in a flush. -/
abbrev Flushes {A : Type} (p : OmsProg A) : Prop :=
  ThrowsOnly (fun e => e = .dataError ∨ e = .integrityError) p

theorem flushes_insertOr (key : OmsKey) (row : OmsRow) :
    Flushes (Prog.insertOr .integrityError key row) :=
  ThrowsOnly.insertOr (.inr rfl) key row

theorem flushes_storeText (limit : ℕ) (text : String) :
    Flushes (Prog.ofExcept (storeText limit text)) := by
  refine ThrowsOnly.ofExcept fun e he => .inl ?_
  unfold storeText at he
  split at he
  · cases he
  · exact (Except.error.inj he).symm

theorem flushes_storeWhole (limit : ℕ) (code : String) :
    Flushes (Prog.ofExcept (storeWhole limit code)) := by
  refine ThrowsOnly.ofExcept fun e he => .inl ?_
  unfold storeWhole at he
  split_ifs at he
  exact (Except.error.inj he).symm

theorem flushes_storeInt (n : ℤ) : Flushes (Prog.ofExcept (storeInt n)) := by
  refine ThrowsOnly.ofExcept fun e he => .inl ?_
  unfold storeInt at he
  split_ifs at he
  exact (Except.error.inj he).symm

theorem flushes_storeNumeric {p s : ℕ} (x : ℚ) :
    Flushes (Prog.ofExcept (storeNumeric x : Except _ (Numeric p s))) := by
  refine ThrowsOnly.ofExcept fun e he => .inl ?_
  unfold storeNumeric at he
  split at he
  · cases he
  · exact (Except.error.inj he).symm

theorem flushes_columnText (value : Json) : Flushes (Prog.ofExcept (columnText value)) := by
  refine ThrowsOnly.ofExcept fun e he => .inl ?_
  unfold columnText at he
  split at he
  · cases he
  · cases he
  · exact (Except.error.inj he).symm

theorem flushes_getOrCreateCustomer (code : String) : Flushes (Oms.getOrCreateCustomer code) := by
  refine (ThrowsOnly.query _).bind fun rows => ?_
  dsimp only
  split
  · exact ThrowsOnly.ret _
  · exact ThrowsOnly.newId.bind fun id => (flushes_storeText 50 code).bind fun code' =>
      (flushes_storeText 200 code).bind fun name => (flushes_insertOr _ _).bind fun _ =>
        ThrowsOnly.ret _

theorem flushes_getOrCreateSku (code : String) : Flushes (Oms.getOrCreateSku code) := by
  refine (ThrowsOnly.query _).bind fun rows => ?_
  dsimp only
  split
  · exact ThrowsOnly.ret _
  · exact ThrowsOnly.newId.bind fun id => (flushes_storeWhole 50 code).bind fun code' =>
      (flushes_storeText 200 code).bind fun name => (flushes_insertOr _ _).bind fun _ =>
        ThrowsOnly.ret _

theorem flushes_createItemSku (code : String) : Flushes (Oms.createItemSku code) := by
  unfold Oms.createItemSku
  split_ifs
  · exact ThrowsOnly.ret _
  · exact (flushes_getOrCreateSku code).bind fun sku => ThrowsOnly.ret _

theorem flushes_addLine (orderId : Uuid) (line : Line) (skuId : Option Uuid) :
    Flushes (addLine orderId line skuId) :=
  (flushes_columnText line.gtin).bind fun gtin => (flushes_columnText line.productName).bind
    fun name => ThrowsOnly.newId.bind fun _ => (flushes_storeText 13 gtin).bind fun _ =>
      (flushes_storeText 200 name).bind fun _ => (flushes_storeInt line.quantity).bind fun _ =>
        (flushes_storeNumeric line.unitPrice).bind fun _ => flushes_insertOr _ _

theorem flushes_addOrder (data : OrderData) (customer : Oms.Customer) (total : ℚ) :
    Flushes (addOrder draws data customer total) :=
  ThrowsOnly.newId.bind fun _ => (flushes_storeWhole 50 draws.orderNo).bind fun _ =>
    (flushes_storeNumeric total).bind fun _ => ((flushes_insertOr _ _).bind fun _ =>
      flushes_insertOr _ _).bind fun _ => ThrowsOnly.ret _

theorem flushes_addHistory (id : Uuid) (payload : Oms.OrderCreated) :
    Flushes (addHistory draws id payload) :=
  (ThrowsOnly.newId.bind fun _ => flushes_insertOr _ _).bind fun _ =>
    ThrowsOnly.newId.bind fun _ => flushes_insertOr _ _

/-! ### How a row ends -/

/-- From a session in `P`, the program returns with `Q` if `φ` holds; if not, it raises, with the
transaction open exactly if `ψ` holds. -/
abbrev Outcome {A : Type} (P : Txn.Session OmsKey OmsRow → Prop) (p : ImportProg A) (φ ψ : Prop)
    (Q : A → Txn.Session OmsKey OmsRow → Prop) : Prop :=
  Sorts (fun e => e.aborts = false) P p φ ψ Q

section Outcome

variable {A : Type} {P : Txn.Session OmsKey OmsRow → Prop} {φ : Prop}
  {Q : A → Txn.Session OmsKey OmsRow → Prop} {d : OmsDb} {created? : Option Uuid}

theorem outcome_service {p : OmsProg A} (h : Decides P p φ Q) (hp : Flushes p) :
    Outcome P (p.mapError .service) φ False Q := by
  refine Sorts.of_decides h (hp.mono fun e he hfalse => ?_)
  rcases he with rfl | rfl <;> cases hfalse

/-- A SKU that is no text. -/
theorem outcome_noText (value : Json) (h : ∀ s, P s → Room d created? s) :
    Outcome P
      (if value.truthy then .throw (skuError value) else return none : ImportProg (Option Uuid))
      (value.truthy = false) (value.truthy = true ∧ skuError value = .refused)
      fun _ => Room d created? := by
  intro s hs
  have herror : (skuError value).aborts = false ↔ skuError value = .refused := by
    cases value <;> simp [skuError, RowError.aborts]
  cases value.truthy with
  | false => exact ⟨fun _ => ⟨none, s, rfl, h s hs⟩, fun hnot => absurd rfl hnot⟩
  | true =>
    refine ⟨fun hok => (nomatch hok), fun _ => ⟨skuError value, s, rfl, ?_⟩⟩
    exact herror.trans (and_iff_right rfl).symm

theorem outcome_lineSku (sku : Json) :
    Outcome (Room d created?) (lineSku sku) (SkuStorable d sku) (Refused sku)
      fun _ => Room d created? := by
  cases sku with
  | str code =>
    exact outcome_service (Oms.decides_createItemSku d created? code) (flushes_createItemSku code)
  | null => exact outcome_noText .null fun _ hs => hs
  | bool b => exact outcome_noText (.bool b) fun _ hs => hs
  | int n => exact outcome_noText (.int n) fun _ hs => hs
  | float repr value => exact outcome_noText (.float repr value) fun _ hs => hs
  | list items => exact outcome_noText (.list items) fun _ hs => hs
  | dict members => exact outcome_noText (.dict members) fun _ hs => hs

theorem not_skuStorable_of_refused {sku : Json} (h : Refused sku) : ¬ SkuStorable d sku := by
  cases sku <;> simp_all [Refused, SkuStorable]

theorem decides_addLine (orderId : Uuid) (line : Line) (skuId : Option Uuid) :
    Decides (Room d created?) (addLine orderId line skuId)
      ((∃ text, columnText line.gtin = .ok text ∧ Text.FitsUpToBlanks 13 text) ∧
        (∃ text, columnText line.productName = .ok text ∧ Text.FitsUpToBlanks 200 text) ∧
        FitsInteger line.quantity ∧
        (Numeric.ofRat? line.unitPrice : Option (Numeric 18 4)).isSome = true)
      fun _ => Room d created? := by
  unfold addLine
  cases columnText line.gtin with
  | error e => exact Decides.throw.conseq (fun _ hs => hs) (fun _ _ => by simp) fun _ _ hs => hs
  | ok gtin =>
    cases columnText line.productName with
    | error e => exact Decides.throw.conseq (fun _ hs => hs) (fun _ _ => by simp) fun _ _ hs => hs
    | ok name =>
      refine (Oms.decides_insertItem orderId skuId gtin name line.quantity line.unitPrice).conseq
        (fun _ hs => hs) (fun _ _ => ?_) fun _ _ hs => hs
      simp

theorem outcome_createLine (orderId : Uuid) (line : Line) :
    Outcome (Room d created?) (createLine orderId line) (LineStorable d line) (Refused line.sku)
      fun _ => Room d created? := by
  refine ((outcome_lineSku line.sku).bind fun skuId => outcome_service
    (decides_addLine orderId line skuId) (flushes_addLine orderId line skuId)).conseq
    (fun _ hs => hs) (fun _ _ => ?_) (fun _ _ _ => ?_) fun _ _ hs => hs
  · exact ⟨fun ⟨h, hg, hp, hq, hu⟩ => ⟨h, hg, hp, hq, hu⟩,
      fun h => ⟨h.sku, h.gtin, h.productName, h.quantity, h.unitPrice⟩⟩
  · rw [and_false, or_false, and_iff_right_iff_imp]
    exact not_skuStorable_of_refused

theorem decides_addOrder (data : OrderData) (customer : Oms.Customer) (lines : List Line) :
    Decides (fun s => Room d none s ∧ Oms.Numbers d s)
      (addOrder draws data customer (totalOf lines)) (OrderFits d draws lines)
      fun id => Room d (some id) := by
  have hall : Decides (fun s => Room d none s ∧ Oms.Numbers d s)
      (addOrder draws data customer (totalOf lines))
      ((∃ number, storeWhole 50 draws.orderNo = .ok number) ∧
        (∃ total : Numeric 18 2, storeNumeric (totalOf lines) = .ok total) ∧
        d.get? (.orderNo draws.orderNo) = none ∧ True) fun id => Room d (some id) := by
    refine Decides.bind_true (Q := fun id s => Oms.Drawn d none id s ∧ Oms.Numbers d s)
      (.newId fun s hs => ⟨hs.1.draw, hs.2⟩) fun id => ?_
    -- the number that is stored is the one that was made, since it is not cut
    refine (Decides.ofExcept fun number hnumber s hs => And.intro hnumber hs).bind fun number => ?_
    refine Decides.assume fun hnumber => ?_
    obtain ⟨-, rfl⟩ := storeWhole_eq_ok_iff.1 hnumber
    refine (Decides.ofExcept fun _ _ _ hs => hs).bind fun totalAmount => ?_
    exact (Oms.decides_insertOrder _ (by rfl) (by rfl)).bind fun _ => Decides.ret fun _ hs => hs
  refine hall.conseq (fun _ hs => hs) (fun _ _ => ?_) fun _ _ h => h
  rw [exists_storeWhole_iff, exists_storeNumeric_iff, and_true]
  exact ⟨fun ⟨hn, ht, hf⟩ => ⟨hn, hf, ht⟩, fun h => ⟨h.number, h.total, h.free⟩⟩

theorem decides_addHistory (id : Uuid) (payload : Oms.OrderCreated) :
    Decides (Room d created?) (addHistory draws id payload) True fun _ => Room d created? := by
  refine (Oms.decides_insertNew .statusLog (fun logId =>
    .statusLog ⟨logId, id, "", "pending", "Order created", draws.now⟩)
    fun id => by simp [Oms.idKeys]).bind_true fun _ => ?_
  exact Oms.decides_insertNew .outboxEvent (fun eventId => .outboxEvent {
    id := eventId, aggregateType := "Order", aggregateId := id, eventType := "order.created",
    payload }) fun id => by simp [Oms.idKeys]

theorem outcome_addAll (data : OrderData) (customer : Oms.Customer) (lines : List Line) :
    Outcome (fun s => Room d none s ∧ Oms.Numbers d s) (addAll draws data customer lines)
      (OrderFits d draws lines ∧ ∀ line ∈ lines, LineStorable d line)
      (OrderFits d draws lines ∧ StopsAt (LineStorable d) (fun line => Refused line.sku) lines)
      fun id => Room d (some id) := by
  have hlines (id : Uuid) : Outcome (Room d (some id)) (Prog.forEach lines (createLine id))
      (∀ line ∈ lines, LineStorable d line)
      (StopsAt (LineStorable d) (fun line => Refused line.sku) lines) fun _ => Room d (some id) :=
    Sorts.forEach (J := fun _ => Room d (some id)) (fun line _ => outcome_createLine id line) lines
  have hend (id : Uuid) : Outcome (Room d (some id))
      (((addHistory draws id ⟨id, draws.orderNo, totalOf lines, data.customerId⟩).mapError
        .service).bind fun _ => return id) (True ∧ True) (¬ True ∧ False ∨ True ∧ False)
      fun id => Room d (some id) :=
    (outcome_service (decides_addHistory draws id _) (flushes_addHistory draws id _)).bind
      fun _ => Sorts.ret fun _ hs => hs
  refine ((outcome_service (decides_addOrder draws data customer lines)
    (flushes_addOrder draws data customer _)).bind fun id => (hlines id).bind fun _ =>
      hend id).conseq (fun _ hs => hs) (fun _ _ => ?_) (fun _ _ _ => ?_) fun _ _ hs => hs
  · simp
  · simpa using fun _ hstops => (hstops : StopsAt _ _ lines).not_forall

variable {c : OmsDb} {ids : ℕ → ℕ} {data : OrderData} {row : CsvRow}

/-- The code of the customer is stripped, so that it is not cut. -/
theorem customerObtainable_iff (hread : readOrder py row = .ok data) :
    Oms.CustomerObtainable d data.customerId ↔ CustomerStorable d data := by
  refine Oms.customerObtainable_iff ?_
  unfold readOrder at hread
  obtain ⟨customerId, hstripped, hread⟩ := bind_eq_ok_iff.1 hread
  have hcustomer : data.customerId = customerId := by
    dsimp only at hread
    split_ifs at hread
    obtain ⟨itemsRaw, -, hread⟩ := bind_eq_ok_iff.1 hread
    split_ifs at hread
    all_goals
      obtain ⟨items, -, hread⟩ := bind_eq_ok_iff.1 hread
      obtain ⟨priority, -, hread⟩ := bind_eq_ok_iff.1 hread
      obtain ⟨notes, -, hread⟩ := bind_eq_ok_iff.1 hread
      cases hread
      rfl
  rw [hcustomer]
  unfold stripped at hstripped
  split at hstripped
  · cases hstripped
    exact Text.getLast?_strip rfl
  · cases hstripped

/-- **How `create_order` ends** before its commit. -/
theorem outcome_writeOrder (hids : FreshIds ids d) (hread : readOrder py row = .ok data) :
    Outcome (fun s => s = ⟨c, d, ids⟩) (writeOrder py draws data) (OrderStorable py draws d data)
      (Interrupted py draws d data) fun id => Room d (some id) := by
  have hcustomer : Outcome (fun s => s = ⟨c, d, ids⟩)
      ((Oms.getOrCreateCustomer data.customerId).mapError .service) (CustomerStorable d data) False
      fun _ s => Room d none s ∧ Oms.Numbers d s :=
    outcome_service ((Oms.decides_customer c data.customerId hids).conseq (fun _ hs => hs)
      (fun _ _ => customerObtainable_iff py hread) fun _ _ hs => hs)
      (flushes_getOrCreateCustomer data.customerId)
  cases hlines : readLines py data.items with
  | error e =>
    have hthrow (customer : Oms.Customer) :
        Outcome (fun s => Room d none s ∧ Oms.Numbers d s)
          ((Prog.ofExcept ((readLines py data.items).mapError .python)).bind
            (addAll draws data customer)) False True fun id => Room d (some id) := by
      rw [hlines]
      exact Sorts.throw rfl
    refine (hcustomer.bind hthrow).conseq (fun _ hs => hs) (fun _ _ => ?_) (fun _ _ _ => ?_)
      fun _ _ hs => hs
    · simp [OrderStorable, hlines]
    · simp [Interrupted, hlines]
  | ok lines =>
    have hadd (customer : Oms.Customer) :
        Outcome (fun s => Room d none s ∧ Oms.Numbers d s)
          ((Prog.ofExcept ((readLines py data.items).mapError .python)).bind
            (addAll draws data customer))
          (OrderFits d draws lines ∧ ∀ line ∈ lines, LineStorable d line)
          (OrderFits d draws lines ∧ StopsAt (LineStorable d) (fun line => Refused line.sku) lines)
          fun id => Room d (some id) := by
      rw [hlines]
      exact outcome_addAll draws data customer lines
    refine (hcustomer.bind hadd).conseq (fun _ hs => hs) (fun _ _ => ?_) (fun _ _ _ => ?_)
      fun _ _ hs => hs
    · simp [OrderStorable, hlines]
    · simp [Interrupted, hlines]

end Outcome

end Imports

end OmsWmsTms
