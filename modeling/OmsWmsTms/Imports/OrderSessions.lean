import OmsWmsTms.Imports.OrderRows

/-!
# What a row of orders leaves in the session

* `Own`, `OwnRow` : the rows of an identifier, and those of a row of the file.
* `importRow_storable`, `importRow_interrupted`, `importRow_aborts` : a row whose order is stored,
  one that leaves what it has written, and one that loses the transaction.
* `importRow_unwritten`, `importRow_pending` : whether an interrupted row has written something.
-/

namespace OmsWmsTms

namespace Imports

open Oms (OmsDb OmsKey OmsRow OmsProg Obtainable FreshIds Room)
open Txn (Prog Owned Grown StopsAt)

/-! ### Whose rows they are -/

/-- The rows of an identifier: its own, and those that a code or a number leads to. -/
def Own (orderNo : String) (id : Uuid) : OmsKey → OmsRow → Prop
  | .customer code, .customer row => row.id = id ∧ code.length ≤ 50
  | .sku code, .sku row => row.id = id ∧ code.length ≤ 50
  | .orderNo number, .orderNo id' => number = orderNo ∧ id' = id
  | .order id', .order _ | .orderItem id', .orderItem _ | .statusLog id', .statusLog _
  | .outboxEvent id', .outboxEvent _ => id' = id
  | _, _ => False

variable (py : Stdlib) (draws : Draws)

/-- The rows of a row of the file. -/
def OwnRow (key : OmsKey) (row : OmsRow) : Prop :=
  ∃ n ∈ Set.range draws.ids, Own draws.orderNo n key row

section Owned

variable {orderNo : String} {ids : Set ℕ}

theorem owned_getOrCreateCustomer (code : String) :
    Owned (Own orderNo) ids (Oms.getOrCreateCustomer code) := by
  refine (Owned.query _).bind fun rows => ?_
  dsimp only
  split
  · exact Owned.ret _
  · refine Owned.newId fun id => Owned.ofExcept fun stored hstored => Owned.ofExcept fun name _ =>
      (Owned.insertOr (Set.mem_insert id ids) ⟨rfl, ?_⟩).bind fun _ => Owned.ret _
    exact Text.length_le_of_varchar? (storeText_eq_ok_iff.1 hstored)

theorem owned_getOrCreateSku (code : String) :
    Owned (Own orderNo) ids (Oms.getOrCreateSku code) := by
  refine (Owned.query _).bind fun rows => ?_
  dsimp only
  split
  · exact Owned.ret _
  · refine Owned.newId fun id => Owned.ofExcept fun stored hstored => Owned.ofExcept fun name _ =>
      (Owned.insertOr (Set.mem_insert id ids) ⟨rfl, ?_⟩).bind fun _ => Owned.ret _
    obtain ⟨hlength, rfl⟩ := storeWhole_eq_ok_iff.1 hstored
    exact hlength

theorem owned_lineSku (sku : Json) : Owned (Own orderNo) ids (lineSku sku) := by
  unfold lineSku
  split
  · refine Owned.mapError ?_
    unfold Oms.createItemSku
    split_ifs
    · exact Owned.ret _
    · exact (owned_getOrCreateSku _).bind fun sku => Owned.ret _
  · split_ifs
    · trivial
    · exact Owned.ret _

theorem owned_addLine (orderId : Uuid) (line : Line) (skuId : Option Uuid) :
    Owned (Own orderNo) ids (addLine orderId line skuId) :=
  Owned.ofExcept fun _ _ => Owned.ofExcept fun _ _ => Owned.newId fun id =>
    Owned.ofExcept fun _ _ => Owned.ofExcept fun _ _ => Owned.ofExcept fun _ _ =>
      Owned.ofExcept fun _ _ => Owned.insertOr (Set.mem_insert id ids) rfl

theorem owned_addOrder (data : OrderData) (customer : Oms.Customer) (total : ℚ) :
    Owned (Own draws.orderNo) ids (addOrder draws data customer total) := by
  refine Owned.newId fun id => Owned.ofExcept fun number hnumber => Owned.ofExcept fun _ _ => ?_
  obtain ⟨-, rfl⟩ := storeWhole_eq_ok_iff.1 hnumber
  exact ((Owned.insertOr (Set.mem_insert id ids) ⟨rfl, rfl⟩).bind fun _ =>
    Owned.insertOr (Set.mem_insert id ids) rfl).bind fun _ => Owned.ret _

theorem owned_addHistory (id : Uuid) (payload : Oms.OrderCreated) :
    Owned (Own orderNo) ids (addHistory draws id payload) := by
  have hlog : Owned (Own orderNo) ids
      (Oms.insertLog draws.now id "" "pending" "Order created") :=
    Owned.newId fun logId => Owned.insertOr (Set.mem_insert logId ids) rfl
  have hevent : Owned (Own orderNo) ids (Oms.appendOrderCreated id payload) :=
    Owned.newId fun eventId => Owned.insertOr (Set.mem_insert eventId ids) rfl
  exact hlog.bind fun _ => hevent

/-- What follows the row of the order. -/
theorem owned_addLines (data : OrderData) (lines : List Line) (id : Uuid) :
    Owned (Own draws.orderNo) ids ((Prog.forEach lines (createLine id)).bind fun _ =>
      ((addHistory draws id ⟨id, draws.orderNo, totalOf lines, data.customerId⟩).mapError
        .service).bind fun _ => (return id : ImportProg Uuid)) :=
  (Owned.forEach fun line => (owned_lineSku line.sku).bind fun skuId =>
    (owned_addLine id line skuId).mapError).bind fun _ =>
      (owned_addHistory draws id _).mapError.bind fun _ => Owned.ret _

/-- `create_order` behind the look-up of the customer: the row of the order, and what follows it. -/
theorem addAll_eq (data : OrderData) (customer : Oms.Customer) (lines : List Line) :
    addAll draws data customer lines =
      ((addOrder draws data customer (totalOf lines)).mapError .service).bind fun id =>
        (Prog.forEach lines (createLine id)).bind fun _ =>
          ((addHistory draws id ⟨id, draws.orderNo, totalOf lines, data.customerId⟩).mapError
            .service).bind fun _ => (return id : ImportProg Uuid) := rfl

theorem owned_addAll (data : OrderData) (customer : Oms.Customer) (lines : List Line) :
    Owned (Own draws.orderNo) ids (addAll draws data customer lines) := by
  rw [addAll_eq]
  exact (owned_addOrder draws data customer _).mapError.bind (owned_addLines draws data lines)

/-- **Up to its commit `create_order` writes rows of its own identifiers.** -/
theorem owned_writeOrder (data : OrderData) :
    Owned (Own draws.orderNo) ids (writeOrder py draws data) :=
  (owned_getOrCreateCustomer data.customerId).mapError.bind fun customer =>
    Owned.ofExcept fun lines _ => owned_addAll draws data customer lines

end Owned

/-! ### Rows in a session -/

/-- The order of a row can be stored. -/
def Storable (d : OmsDb) (row : CsvRow) : Prop :=
  ∃ data, readOrder py row = .ok data ∧ OrderStorable py draws d data

/-- The row fails in the database, and its transaction is lost. -/
def Aborts (d : OmsDb) (row : CsvRow) : Prop :=
  ∃ data, readOrder py row = .ok data ∧ ¬ OrderStorable py draws d data ∧
    ¬ Interrupted py draws d data

/-- The customer of a row is there. -/
def CustomerThere (d : OmsDb) (data : OrderData) : Prop :=
  ((d.get? (.customer data.customerId)).bind OmsRow.customer?).isSome = true

/-- The row fails before it writes anything: it is malformed, or its items are and its customer is
there. -/
def WritesNothing (d : OmsDb) (row : CsvRow) : Prop :=
  (∃ e, readOrder py row = .error e) ∨ ∃ data, readOrder py row = .ok data ∧
    CustomerThere d data ∧ ∃ e, readLines py data.items = .error e

/-- The row fails behind its order, which is left without some of its items. -/
def LeavesOrder (d : OmsDb) (row : CsvRow) : Prop :=
  ∃ data lines, readOrder py row = .ok data ∧ CustomerStorable d data ∧
    readLines py data.items = .ok lines ∧ OrderFits d draws lines ∧
    StopsAt (LineStorable d) (fun line => Refused line.sku) lines

/-- The number of the order that a row leaves. -/
def leftNumbers (d : OmsDb) (row : CsvRow) : Set String :=
  {number | LeavesOrder py draws d row ∧ number = draws.orderNo}

/-- What `create_order` leaves up to its commit. -/
theorem exec_writeOrder (data : OrderData) (s : Txn.Session OmsKey OmsRow)
    (hids : s.ids = draws.ids) :
    ((writeOrder py draws data).exec s).2.committed = s.committed ∧
      Grown (OwnRow draws) s.working ((writeOrder py draws data).exec s).2.working :=
  (owned_writeOrder py draws data).exec (Set.empty_subset (Set.range draws.ids))
    fun n => ⟨n, by rw [hids]⟩

/-- The orders of `w` have the numbers of those of `d`, and the numbers in `taken`. -/
def Numbered (d w : OmsDb) (taken : Set String) : Prop :=
  ∀ number, w.get? (.orderNo number) ≠ none ↔ d.get? (.orderNo number) ≠ none ∨ number ∈ taken

section Session

variable {py draws} {c w : OmsDb} {row : CsvRow} {data : OrderData} {e : RowError}

theorem importRow_deactive {s : Session} (h : s.deactive = true) :
    ∃ e, importRow py draws row s = (.error e, s) := by
  unfold importRow
  cases readOrder py row with
  | error e => exact ⟨_, rfl⟩
  | ok data => exact ⟨.pendingRollback, by simp [h]⟩

theorem importRow_unread {e : PyError} (h : readOrder py row = .error e) (s : Session) :
    importRow py draws row s = (.error (.python e), s) := by
  rw [importRow, h]

theorem importRow_ok {t : Txn.Session OmsKey OmsRow}
    (hread : readOrder py row = .ok data)
    (hexec : (createOrder py draws data).exec ⟨c, w, draws.ids⟩ = (.ok (), t)) :
    importRow py draws row ⟨c, w, false⟩ = (.ok (), ⟨t.committed, t.working, false⟩) := by
  simp only [importRow, hread, hexec, Bool.false_eq_true, if_false]

theorem importRow_error {t : Txn.Session OmsKey OmsRow} (hread : readOrder py row = .ok data)
    (hexec : (createOrder py draws data).exec ⟨c, w, draws.ids⟩ = (.error e, t)) :
    importRow py draws row ⟨c, w, false⟩ =
      if e.aborts then (.error e, ⟨t.committed, t.committed, true⟩)
      else (.error e, ⟨t.committed, t.working, false⟩) := by
  simp only [importRow, hread, hexec, Bool.false_eq_true, if_false]

/-- **A row whose order can be stored** is committed. -/
theorem importRow_storable (hids : FreshIds draws.ids w) (h : Storable py draws w row) :
    ∃ w', importRow py draws row ⟨c, w, false⟩ = (.ok (), ⟨w', w', false⟩) ∧
      Grown (OwnRow draws) w w' := by
  obtain ⟨data, hread, hstorable⟩ := h
  obtain ⟨hok, -⟩ := outcome_writeOrder py draws hids hread ⟨c, w, draws.ids⟩ rfl
  obtain ⟨id, t, hexec, hroom⟩ := hok hstorable
  have hleft := exec_writeOrder py draws data ⟨c, w, draws.ids⟩ rfl
  rw [hexec] at hleft
  have hpublish : (publish id).exec t = (.ok (), { t with committed := t.working }) := by
    obtain ⟨⟨⟩, hanswer⟩ := @Oms.exec_readBack _ id { t with committed := t.working }
      (fun order => (Oms.orderToDict order order.totalAmount).bind fun _ => .ret ())
      (hroom.order id rfl) fun _ => ⟨_, rfl⟩
    exact hanswer
  have hcreate : (createOrder py draws data).exec ⟨c, w, draws.ids⟩ =
      (.ok (), { t with committed := t.working }) := by
    rw [createOrder, Prog.bind_eq, Prog.exec_bind_of_ok hexec]
    exact Prog.exec_mapError_of_ok RowError.service hpublish
  exact ⟨t.working, importRow_ok hread hcreate, hleft.2⟩

/-- What `create_order` leaves when it raises. -/
theorem exec_createOrder_error (hids : FreshIds draws.ids w) (hread : readOrder py row = .ok data)
    (h : ¬ OrderStorable py draws w data) :
    ∃ e t, (createOrder py draws data).exec ⟨c, w, draws.ids⟩ = (.error e, t) ∧
      (writeOrder py draws data).exec ⟨c, w, draws.ids⟩ = (.error e, t) ∧
      t.committed = c ∧ Grown (OwnRow draws) w t.working ∧
      (e.aborts = false ↔ Interrupted py draws w data) := by
  obtain ⟨-, herror⟩ := outcome_writeOrder py draws hids hread ⟨c, w, draws.ids⟩ rfl
  obtain ⟨e, t, hexec, he⟩ := herror h
  obtain ⟨hcommitted, hgrown⟩ := exec_writeOrder py draws data ⟨c, w, draws.ids⟩ rfl
  rw [hexec] at hcommitted hgrown
  exact ⟨e, t, Prog.exec_bind_of_error hexec, hexec, hcommitted, hgrown, he⟩

/-! ### What has been written -/

theorem exec_getOrCreateCustomer_there {s : Txn.Session OmsKey OmsRow}
    (h : CustomerThere s.working data) : ∃ customer,
      (Oms.getOrCreateCustomer data.customerId).exec s = (.ok customer, s) := by
  obtain ⟨customer, hcustomer⟩ := Option.isSome_iff_exists.1 h
  refine ⟨customer, ?_⟩
  rw [Oms.getOrCreateCustomer, Prog.bind_eq, Prog.exec_bind_of_ok (Prog.exec_query _ s),
    Txn.findSome?_select_keyQuery, hcustomer]
  rfl

/-- A customer that is not there is written. -/
theorem exec_getOrCreateCustomer_new {s : Txn.Session OmsKey OmsRow}
    (hfree : s.working.get? (.customer data.customerId) = none)
    (hlength : data.customerId.length ≤ 50) : ∃ customer,
      (Oms.getOrCreateCustomer data.customerId).exec s = (.ok customer,
        Oms.written (.customer data.customerId) (.customer customer) (Oms.drawn s)) := by
  have hcode : storeText 50 data.customerId = .ok data.customerId := storeText_of_length_le hlength
  have hname : storeText 200 data.customerId = .ok data.customerId :=
    storeText_of_length_le (by omega)
  refine ⟨⟨s.ids 0, data.customerId, data.customerId⟩, ?_⟩
  rw [Oms.getOrCreateCustomer, Prog.bind_eq, Prog.exec_bind_of_ok (Prog.exec_query _ s),
    Txn.findSome?_select_keyQuery, hfree]
  simp only [Option.bind_none]
  rw [Prog.bind_eq, Prog.exec_bind_of_ok (Prog.exec_newId s), hcode, hname]
  exact Prog.exec_bind_of_ok (Prog.exec_insertOr_none (s := Oms.drawn s) hfree)

/-- The row of an order is written, with its number. -/
theorem exec_addOrder {s : Txn.Session OmsKey OmsRow} {lines : List Line}
    (h : OrderFits s.working draws lines)
    (hfree : s.working.get? (.order (s.ids 0)) = none) (data : OrderData)
    (customer : Oms.Customer) : ∃ s',
      (addOrder draws data customer (totalOf lines)).exec s = (.ok (s.ids 0), s') ∧
      s'.working.get? (.orderNo draws.orderNo) ≠ none := by
  have hnumber : storeWhole 50 draws.orderNo = .ok draws.orderNo := if_pos h.number
  obtain ⟨total, htotal⟩ := Option.isSome_iff_exists.1 h.total
  have hstored : (storeNumeric (totalOf lines) : Except _ (Numeric 18 2)) = .ok total :=
    storeNumeric_eq_ok_iff.2 htotal
  let order : Oms.Order := {
    id := s.ids 0, orderNo := draws.orderNo, status := .pending, customerId := customer.id
    warehouseId := none, totalAmount := total
    priority := (Oms.priorityMap data.priority).getD .medium, notes := data.notes
    isDeleted := false, deletedAt := none, createdAt := draws.now, updatedAt := draws.now }
  let indexed := Oms.written (.orderNo draws.orderNo) (.orderNo order.id) (Oms.drawn s)
  have hrow : indexed.working.get? (.order order.id) = none := by
    change (s.working.set (.orderNo draws.orderNo) (.orderNo order.id)).get? _ = none
    rw [Dict.get?_set, if_neg (by simp)]
    exact hfree
  refine ⟨Oms.written (.order order.id) (.order order) indexed, ?_, ?_⟩
  · rw [addOrder, Prog.bind_eq, Prog.exec_bind_of_ok (Prog.exec_newId s), hnumber, hstored]
    have hindex : (Prog.insertOr .integrityError (.orderNo draws.orderNo) (.orderNo order.id) :
        OmsProg Unit).exec (Oms.drawn s) = (.ok (), indexed) := Prog.exec_insertOr_none h.free
    exact Prog.exec_bind_of_ok
      ((Prog.exec_bind_of_ok hindex).trans (Prog.exec_insertOr_none hrow))
  · change ((s.working.set (.orderNo draws.orderNo) (.orderNo order.id)).set (.order order.id)
      (.order order)).get? _ ≠ none
    rw [Dict.get?_set, if_neg (by simp), Dict.get?_set, if_pos rfl]
    exact Option.some_ne_none _

/-- A row whose items cannot be read writes no order. -/
theorem get?_orderNo_of_malformed {e : PyError} (hlines : readLines py data.items = .error e)
    (s : Txn.Session OmsKey OmsRow) (number : String) :
    ((writeOrder py draws data).exec s).2.working.get? (.orderNo number) =
      s.working.get? (.orderNo number) := by
  -- what it writes may be of any number
  have howned : Owned (Own (number ++ "x")) ∅ (writeOrder py draws data) := by
    refine (owned_getOrCreateCustomer data.customerId).mapError.bind fun customer => ?_
    rw [hlines]
    trivial
  have hgrown := (howned.exec (Set.empty_subset Set.univ) fun n => Set.mem_univ (s.ids n)).2
  refine hgrown.get?_eq fun row => ?_
  rintro ⟨id, -, hown⟩
  have hnumber : number = number ++ "x" := by
    cases row with
    | orderNo id' => exact hown.1
    | _ => exact hown.elim
  have hlength : number.length = number.length + 1 := by
    rw [← String.length_push 'x']
    exact congrArg String.length hnumber
  omega

/-- A row that fails at an item has written its order. -/
theorem get?_orderNo_of_lines {lines : List Line} (hids : FreshIds draws.ids w)
    (hread : readOrder py row = .ok data) (hcustomer : CustomerStorable w data)
    (hlines : readLines py data.items = .ok lines) (hfits : OrderFits w draws lines) :
    ((writeOrder py draws data).exec ⟨c, w, draws.ids⟩).2.working.get?
      (.orderNo draws.orderNo) ≠ none := by
  obtain ⟨customer, s, hexec, hroom, hnumbers⟩ :=
    (Oms.decides_customer c data.customerId hids ⟨c, w, draws.ids⟩ rfl).1
      ((customerObtainable_iff py hread).2 hcustomer)
  have hfits' : OrderFits s.working draws lines :=
    ⟨hfits.number, (hnumbers draws.orderNo).trans hfits.free, hfits.total⟩
  have hfree : s.working.get? (.order (s.ids 0)) = none :=
    hroom.fresh.unused 0 _ (by simp [Oms.idKeys])
  obtain ⟨s', hadd, hkey⟩ := exec_addOrder hfits' hfree data customer
  rw [writeOrder, Prog.bind_eq,
    Prog.exec_bind_of_ok (Prog.exec_mapError_of_ok RowError.service hexec), hlines, Prog.bind_eq,
    Prog.exec_bind_of_ok rfl, addAll_eq]
  exact Owned.get?_ne_none_of_bind (Prog.exec_mapError_of_ok RowError.service hadd)
    (owned_addLines draws data lines _) hkey

/-- **Which orders a row leaves** that fails otherwise. -/
theorem numbered_writeOrder (hids : FreshIds draws.ids w) (hread : readOrder py row = .ok data)
    (h : Interrupted py draws w data) :
    Numbered w ((writeOrder py draws data).exec ⟨c, w, draws.ids⟩).2.working
      (leftNumbers py draws w row) := by
  intro number
  obtain ⟨hcustomer, ⟨e, herror⟩ | ⟨lines, hlines, hfits, hstops⟩⟩ := h
  · rw [get?_orderNo_of_malformed herror, or_iff_left]
    rintro ⟨⟨data', lines, hread', -, hlines, -⟩, -⟩
    rw [hread] at hread'
    cases hread'
    rw [herror] at hlines
    cases hlines
  · obtain ⟨-, hgrown⟩ := exec_writeOrder py draws data ⟨c, w, draws.ids⟩ rfl
    by_cases hnumber : number = draws.orderNo
    · subst hnumber
      refine iff_of_true (get?_orderNo_of_lines hids hread hcustomer hlines hfits) (.inr ⟨?_, rfl⟩)
      exact ⟨data, lines, hread, hcustomer, hlines, hfits, hstops⟩
    · rw [or_iff_left fun hmem => hnumber hmem.2, hgrown.get?_eq]
      rintro value ⟨id, -, hown⟩
      cases value <;> simp_all [Own]

/-! ### How a row ends -/

/-- **A row that fails in the database** loses the transaction. -/
theorem importRow_aborts (hids : FreshIds draws.ids w) (h : Aborts py draws w row) :
    ∃ e, importRow py draws row ⟨c, w, false⟩ = (.error e, ⟨c, c, true⟩) := by
  obtain ⟨data, hread, hnot, habort⟩ := h
  obtain ⟨e, t, hexec, -, rfl, -, he⟩ := exec_createOrder_error (c := c) hids hread hnot
  refine ⟨e, (importRow_error hread hexec).trans (if_pos ?_)⟩
  exact Bool.not_eq_false _ ▸ mt he.1 habort

/-- **A row that fails otherwise** leaves what it has written. -/
theorem importRow_interrupted (hids : FreshIds draws.ids w) (hread : readOrder py row = .ok data)
    (hnot : ¬ OrderStorable py draws w data) (h : Interrupted py draws w data) :
    ∃ e t, (writeOrder py draws data).exec ⟨c, w, draws.ids⟩ = (.error e, t) ∧
      importRow py draws row ⟨c, w, false⟩ = (.error e, ⟨c, t.working, false⟩) ∧
      Grown (OwnRow draws) w t.working ∧ Numbered w t.working (leftNumbers py draws w row) := by
  obtain ⟨e, t, hexec, hwrite, rfl, hgrown, he⟩ := exec_createOrder_error (c := c) hids hread hnot
  have hnumbered := numbered_writeOrder (c := t.committed) hids hread h
  rw [hwrite] at hnumbered
  refine ⟨e, t, hwrite, (importRow_error hread hexec).trans (if_neg ?_), hgrown, hnumbered⟩
  rw [he.2 h]
  exact Bool.false_ne_true

/-- From its commit on, `create_order` only reads. -/
theorem exec_publish (id : Uuid) (t : Txn.Session OmsKey OmsRow) :
    ∃ answer, (publish id).exec t = (answer, { t with committed := t.working }) := by
  rw [publish, Prog.bind_eq, Prog.exec_bind_of_ok (Prog.exec_commitOr _ t), Oms.refreshOrder,
    Prog.bind_eq, Prog.bind_eq, Prog.bind_assoc, Prog.exec_bind_of_ok (Oms.exec_selectOrder id _)]
  cases Oms.orderAt t.working (.order id) with
  | none => exact ⟨_, rfl⟩
  | some order => exact ⟨_, rfl⟩

/-- **What a row does to the session**, however it ends. -/
theorem importRow_session (py : Stdlib) (draws : Draws) (row : CsvRow) (s : Session) : ∃ w',
    Grown (OwnRow draws) s.working w' ∧
    ((importRow py draws row s).2.committed = s.committed ∨
      (importRow py draws row s).2.committed = w') ∧
    ((importRow py draws row s).2.working = s.committed ∨
      (importRow py draws row s).2.working = s.working ∨
      (importRow py draws row s).2.working = w') := by
  obtain ⟨c, w, deactive⟩ := s
  cases hread : readOrder py row with
  | error e =>
    rw [importRow_unread hread]
    exact ⟨w, .refl _ w, .inl rfl, .inr (.inl rfl)⟩
  | ok data =>
    cases deactive with
    | true =>
      obtain ⟨e, he⟩ := importRow_deactive (s := ⟨c, w, true⟩) rfl
      rw [he]
      exact ⟨w, .refl _ w, .inl rfl, .inr (.inl rfl)⟩
    | false =>
      obtain ⟨hcommitted, hgrown⟩ := exec_writeOrder py draws data ⟨c, w, draws.ids⟩ rfl
      rcases hwrite : (writeOrder py draws data).exec ⟨c, w, draws.ids⟩ with ⟨e | id, t⟩
      · -- it raises before its commit
        rw [hwrite] at hcommitted hgrown
        refine ⟨t.working, hgrown, ?_⟩
        rw [importRow_error hread (Prog.exec_bind_of_error hwrite)]
        split
        · exact ⟨.inl hcommitted, .inl hcommitted⟩
        · exact ⟨.inl hcommitted, .inr (.inr rfl)⟩
      · -- everything is committed, whatever is read then
        rw [hwrite] at hgrown
        refine ⟨t.working, hgrown, ?_⟩
        obtain ⟨answer, hanswer⟩ := exec_publish id t
        have hcreate : (createOrder py draws data).exec ⟨c, w, draws.ids⟩ =
            (answer.mapError .service, { t with committed := t.working }) := by
          rw [createOrder, Prog.bind_eq, Prog.exec_bind_of_ok hwrite, Prog.exec_mapError, hanswer]
        cases answer with
        | ok answer =>
          rw [importRow_ok hread hcreate]
          exact ⟨.inr rfl, .inr (.inr rfl)⟩
        | error e =>
          rw [importRow_error hread hcreate]
          split
          · exact ⟨.inr rfl, .inr (.inr rfl)⟩
          · exact ⟨.inr rfl, .inr (.inr rfl)⟩

/-- A row that is there, and stays there if the transaction is lost, is there behind any row. -/
theorem importRow_keeps {key : OmsKey} {value : OmsRow} {s : Session} (row : CsvRow)
    (hcommitted : s.committed.get? key = some value) (hworking : s.working.get? key = some value) :
    (importRow py draws row s).2.committed.get? key = some value ∧
      (importRow py draws row s).2.working.get? key = some value := by
  obtain ⟨w', hgrown, hc, hw⟩ := importRow_session py draws row s
  have hw' : w'.get? key = some value := hgrown.old key value hworking
  refine ⟨?_, ?_⟩
  · rcases hc with hc | hc <;> rw [hc] <;> assumption
  · rcases hw with hw | hw | hw <;> rw [hw] <;> assumption

/-- A row in a session of its own adds rows of its own. -/
theorem importAlone_grown {d d' : OmsDb} (h : importAlone py draws row d = .ok d') :
    Grown (OwnRow draws) d d' := by
  obtain ⟨w', hgrown, hc, hw⟩ := importRow_session py draws row (.start d)
  have hall (w'' : OmsDb) (hw'' : w'' = d ∨ w'' = w') : Grown (OwnRow draws) d w'' := by
    rcases hw'' with rfl | rfl
    · exact .refl _ _
    · exact hgrown
  unfold importAlone at h
  split at h
  next s hrow =>
    rw [hrow] at hc hw
    obtain rfl := Except.ok.inj h
    unfold Session.close
    split
    · exact hall _ hc
    · exact hall _ (or_self_left.1 hw)
  next => cases h

/-- **A row that fails before it writes anything** leaves the session as it was. -/
theorem importRow_unwritten (h : WritesNothing py w row) :
    ∃ e, importRow py draws row ⟨c, w, false⟩ = (.error e, ⟨c, w, false⟩) := by
  rcases h with ⟨e, hread⟩ | ⟨data, hread, hcustomer, e, hlines⟩
  · exact ⟨_, importRow_unread hread _⟩
  · obtain ⟨customer, hexec⟩ := exec_getOrCreateCustomer_there (s := ⟨c, w, draws.ids⟩) hcustomer
    have hwrite : (writeOrder py draws data).exec ⟨c, w, draws.ids⟩ =
        (.error (.python e), ⟨c, w, draws.ids⟩) := by
      rw [writeOrder, Prog.bind_eq,
        Prog.exec_bind_of_ok (Prog.exec_mapError_of_ok RowError.service hexec), hlines]
      rfl
    exact ⟨.python e, importRow_error hread (Prog.exec_bind_of_error hwrite)⟩

/-- **A row that fails after a write**, but not in the database, leaves something that was not
there. -/
theorem importRow_pending (hids : FreshIds draws.ids w) (hstore : ¬ Storable py draws w row)
    (habort : ¬ Aborts py draws w row) (hwrites : ¬ WritesNothing py w row) :
    ∃ e w' key, importRow py draws row ⟨c, w, false⟩ = (.error e, ⟨c, w', false⟩) ∧
      Grown (OwnRow draws) w w' ∧ Numbered w w' (leftNumbers py draws w row) ∧
      w.get? key = none ∧ w'.get? key ≠ none := by
  cases hread : readOrder py row with
  | error e => exact absurd (.inl ⟨e, hread⟩) hwrites
  | ok data =>
    have hnot : ¬ OrderStorable py draws w data := fun h => hstore ⟨data, hread, h⟩
    have hinterrupted : Interrupted py draws w data := by
      by_contra h
      exact habort ⟨data, hread, hnot, h⟩
    obtain ⟨e, t, hwrite, himport, hgrown, hnumbered⟩ :=
      importRow_interrupted (c := c) hids hread hnot hinterrupted
    suffices h : ∃ key, w.get? key = none ∧ t.working.get? key ≠ none by
      obtain ⟨key, hfree, hkey⟩ := h
      exact ⟨e, t.working, key, himport, hgrown, hnumbered, hfree, hkey⟩
    -- what `create_order` has written before it raises
    have hleft {key : OmsKey} (h : ((writeOrder py draws data).exec
        ⟨c, w, draws.ids⟩).2.working.get? key ≠ none) : t.working.get? key ≠ none := by
      rwa [hwrite] at h
    obtain ⟨hcustomer, herror | ⟨lines, hlines, hfits, -⟩⟩ := hinterrupted
    · -- the customer is new
      obtain hfound | ⟨hfree, hlength⟩ := hcustomer
      · exact absurd (.inr ⟨data, hread, hfound, herror⟩) hwrites
      obtain ⟨customer, hexec⟩ :=
        exec_getOrCreateCustomer_new (s := ⟨c, w, draws.ids⟩) hfree hlength
      refine ⟨.customer data.customerId, hfree, hleft ?_⟩
      refine Owned.get?_ne_none_of_bind (Prog.exec_mapError_of_ok RowError.service hexec)
        (Owned.ofExcept fun lines _ => owned_addAll draws data customer lines) ?_
      rw [Oms.written, Dict.get?_set, if_pos rfl]
      exact Option.some_ne_none _
    · -- the items have been read, and the order is there
      exact ⟨.orderNo draws.orderNo, hfits.free,
        hleft (get?_orderNo_of_lines hids hread hcustomer hlines hfits)⟩

end Session

end Imports

end OmsWmsTms
