import OmsWmsTms.Oms.Effects
import OmsWmsTms.Txn.Decides

/-!
# When an order is created

* `FreshIds` : the new identifiers are not in use.
* `Storable` : the rows of an order fit their columns, and its number is not taken.
* `createOrder_returns_iff` : `create_order` returns exactly then.
-/

namespace OmsWmsTms

namespace Oms

open Txn (Prog Decides Session)

/-! ### Identifiers -/

/-- The keys of the rows that get a new identifier. -/
def idKeys (id : Uuid) : List OmsKey := [.order id, .orderItem id, .statusLog id, .outboxEvent id]

/-- The new identifiers differ from each other and from those in use. -/
structure FreshIds (ids : ℕ → ℕ) (d : OmsDb) : Prop where
  injective : Function.Injective ids
  unused : ∀ n, ∀ key ∈ idKeys (ids n), d.get? key = none

theorem eq_of_mem_idKeys {key : OmsKey} {id id' : Uuid} (h : key ∈ idKeys id)
    (h' : key ∈ idKeys id') : id = id' := by
  simp only [idKeys, List.mem_cons, List.not_mem_nil, or_false] at h h'
  rcases h with rfl | rfl | rfl | rfl <;> simpa using h'

/-! ### What is asked of the texts and numbers -/

/-- The row of a SKU is found by its code, or can be inserted. -/
def Obtainable {α : Type} (d : OmsDb) (key : OmsKey) (f : OmsRow → Option α) (code : String) :
    Prop :=
  ((d.get? key).bind f).isSome = true ∨ d.get? key = none ∧ code.length ≤ 50

/-- The row of a customer is found by its code, or can be inserted under what the column keeps of
the code. -/
def CustomerObtainable (d : OmsDb) (code : String) : Prop :=
  ((d.get? (.customer code)).bind OmsRow.customer?).isSome = true ∨
    ∃ stored, storeText 50 code = .ok stored ∧ d.get? (.customer stored) = none

/-- A code that does not end in a blank is not cut. -/
theorem customerObtainable_iff {d : OmsDb} {code : String}
    (hlast : code.toList.getLast? ≠ some ' ') :
    CustomerObtainable d code ↔ Obtainable d (.customer code) OmsRow.customer? code := by
  refine or_congr_right ⟨?_, fun ⟨hfree, hlength⟩ => ⟨code, storeText_of_length_le hlength, hfree⟩⟩
  rintro ⟨stored, hstored, hfree⟩
  have hlength : code.length ≤ 50 :=
    Text.length_le_of_fitsUpToBlanks (exists_storeText_iff.1 ⟨stored, hstored⟩) hlast
  obtain rfl := Except.ok.inj ((storeText_of_length_le hlength).symm.trans hstored)
  exact ⟨hfree, hlength⟩

/-- The line of an item can be stored. -/
structure ItemStorable (d : OmsDb) (item : ItemCreate) : Prop where
  sku : item.sku = "" ∨ Obtainable d (.sku item.sku) OmsRow.sku? item.sku
  gtin : Text.FitsUpToBlanks 13 item.gtin
  productName : Text.FitsUpToBlanks 200 item.productName
  quantity : FitsInteger item.quantity
  unitPrice : (Numeric.ofRat? item.unitPrice : Option (Numeric 18 4)).isSome = true

/-- The order can be stored. -/
structure Storable (d : OmsDb) (datePart suffix : String) (data : OrderCreate) : Prop where
  customer : CustomerObtainable d data.customerId
  number : s!"ORD-{datePart}-{suffix}".length ≤ 50
  free : d.get? (.orderNo s!"ORD-{datePart}-{suffix}") = none
  total : (Numeric.ofRat? (orderTotal data.items) : Option (Numeric 18 2)).isSome = true
  items : ∀ item ∈ data.items, ItemStorable d item

/-! ### Sessions -/

/-- The session after one more identifier. -/
def drawn (s : Session OmsKey OmsRow) : Session OmsKey OmsRow :=
  { s with ids := fun n => s.ids (n + 1) }

/-- The session after one more row. -/
def written (key : OmsKey) (row : OmsRow) (s : Session OmsKey OmsRow) : Session OmsKey OmsRow :=
  { s with working := s.working.set key row }

/-- The session of a call that began with the rows `d`: its identifiers are fresh, as many SKUs can
be had as then, and the order `created?` is there. -/
structure Room (d : OmsDb) (created? : Option Uuid) (s : Session OmsKey OmsRow) : Prop where
  fresh : FreshIds s.ids s.working
  sku : ∀ code, Obtainable s.working (.sku code) OmsRow.sku? code ↔
    Obtainable d (.sku code) OmsRow.sku? code
  order : ∀ id ∈ created?, orderAt s.working (.order id) ≠ none

/-- An identifier has been made, and no row has it. -/
structure Drawn (d : OmsDb) (created? : Option Uuid) (id : Uuid) (s : Session OmsKey OmsRow) : Prop
    extends Room d created? s where
  unused : ∀ key ∈ idKeys id, s.working.get? key = none
  ne : ∀ n, s.ids n ≠ id

section Room

variable {d : OmsDb} {created? : Option Uuid} {s : Session OmsKey OmsRow} {key : OmsKey}
  {row : OmsRow} {id : Uuid}

theorem FreshIds.drawn {ids : ℕ → ℕ} (h : FreshIds ids d) : FreshIds (fun n => ids (n + 1)) d :=
  ⟨fun _ _ hnm => Nat.succ.inj (h.injective hnm), fun n => h.unused (n + 1)⟩

theorem Room.draw (h : Room d created? s) : Drawn d created? (s.ids 0) (drawn s) where
  fresh := h.fresh.drawn
  sku := h.sku
  order := h.order
  unused := h.fresh.unused 0
  ne n hn := by cases h.fresh.injective hn

/-- **A new row**, if it is under no identifier that is still to be made and leaves the SKUs that
can be had alone. -/
theorem Room.write (h : Room d created? s) (hfree : s.working.get? key = none)
    (hids : ∀ n, key ∉ idKeys (s.ids n))
    (hsku : ∀ code, Obtainable (s.working.set key row) (.sku code) OmsRow.sku? code ↔
      Obtainable s.working (.sku code) OmsRow.sku? code) : Room d created? (written key row s) where
  fresh := by
    -- no identifier that is still to be made is the key of the row
    refine ⟨h.fresh.injective, fun n key' hkey' => ?_⟩
    rw [written, Dict.get?_set, if_neg]
    · exact h.fresh.unused n key' hkey'
    · rintro rfl
      exact hids n hkey'
  sku code := (hsku code).trans (h.sku code)
  order id hid := by
    rw [written, orderAt_set, if_neg]
    · exact h.order id hid
    · rintro rfl
      exact h.order id hid (by rw [orderAt, hfree]; rfl)

theorem obtainable_set_of_ne {α : Type} {f : OmsRow → Option α} {d : OmsDb} {key key' : OmsKey}
    {code : String} (h : key ≠ key') :
    Obtainable (d.set key row) key' f code ↔ Obtainable d key' f code := by
  rw [Obtainable, Obtainable, Dict.get?_set, if_neg h]

/-- A new SKU. -/
theorem Room.writeSku {code : String} {sku : Sku} (h : Room d created? s)
    (hfree : s.working.get? (.sku code) = none) (hlength : code.length ≤ 50) :
    Room d created? (written (.sku code) (.sku sku) s) := by
  refine h.write hfree (fun n hmem => ?_) fun code' => ?_
  · simp [idKeys] at hmem
  · by_cases hcode : code = code'
    · subst hcode
      refine iff_of_true (.inl ?_) (.inr ⟨hfree, hlength⟩)
      rw [Dict.get?_set, if_pos rfl]
      rfl
    · exact obtainable_set_of_ne (by simpa using hcode)

/-- A row under an identifier that has been made. -/
theorem Drawn.write (h : Drawn d created? id s) (hkey : key ∈ idKeys id) :
    Room d created? (written key row s) := by
  refine h.toRoom.write (h.unused key hkey) (fun n hmem => h.ne n (eq_of_mem_idKeys hmem hkey))
    fun code => obtainable_set_of_ne ?_
  rintro rfl
  simp [idKeys] at hkey

end Room

/-! ### The statements of `create_order` -/

section Statements

variable {d : OmsDb} {created? : Option Uuid} {φ : Prop} {P : Session OmsKey OmsRow → Prop}

/-- The row of a new code, of which a column keeps `x`. -/
theorem decides_insertCode {A : Type} {Q : Session OmsKey OmsRow → Prop} {code : String}
    {x : Except ServiceError String} (hx : ∀ stored, x = .ok stored → Text.FitsUpToBlanks 50 code)
    (key : String → OmsKey) (row : ℕ → String → String → OmsRow) (val : ℕ → String → String → A)
    (hφ : ∀ s, P s → (φ ↔ ∃ stored, x = .ok stored ∧ s.working.get? (key stored) = none))
    (hQ : ∀ s stored name, P s → x = .ok stored → s.working.get? (key stored) = none →
      Q (written (key stored) (row (s.ids 0) stored name) (drawn s))) :
    Decides P ((Prog.newId : OmsProg ℕ).bind fun id =>
      (Prog.ofExcept x).bind fun stored =>
        (Prog.ofExcept (storeText 200 code)).bind fun name =>
          (Prog.insertOr .integrityError (key stored) (row id stored name)).bind fun _ =>
            .ret (val id stored name)) φ fun _ => Q := by
  intro s hs
  rw [Prog.exec_bind_of_ok (Prog.exec_newId s)]
  -- a code that is too long fails before the insert, one that is taken at it
  cases hstore : x with
  | error e =>
    constructor
    · intro h
      obtain ⟨stored, hstored, -⟩ := (hφ s hs).1 h
      rw [hstore] at hstored
      cases hstored
    · exact fun _ => ⟨_, _, rfl⟩
  | ok stored =>
    obtain ⟨name, hname⟩ := exists_storeText_iff.2 ((hx stored hstore).mono (by decide : 50 ≤ 200))
    rw [hname]
    simp only [Prog.ofExcept, Prog.ret_bind]
    constructor
    · intro h
      obtain ⟨stored', hstored, hfree⟩ := (hφ s hs).1 h
      obtain rfl := Except.ok.inj (hstore.symm.trans hstored)
      exact ⟨_, _, Prog.exec_bind_of_ok (Prog.exec_insertOr_none (s := drawn s) hfree),
        hQ s stored name hs hstore hfree⟩
    · intro h
      have htaken : s.working.get? (key stored) ≠ none := fun hfree =>
        h ((hφ s hs).2 ⟨stored, hstore, hfree⟩)
      obtain ⟨row', hget⟩ := Option.ne_none_iff_exists'.1 htaken
      exact ⟨_, _, Prog.exec_bind_of_error (Prog.exec_insertOr_some (s := drawn s) hget)⟩

/-- **A customer is found or inserted** if it can be had. -/
theorem decides_getOrCreateCustomer {Q : Session OmsKey OmsRow → Prop} {code : String}
    (hφ : ∀ s, P s → (φ ↔ CustomerObtainable s.working code))
    (hfound : ∀ s, P s → Q s)
    (hinsert : ∀ s stored customer, P s → s.working.get? (.customer stored) = none →
      Q (written (.customer stored) (.customer customer) (drawn s))) :
    Decides P (getOrCreateCustomer code) φ fun _ => Q := by
  refine Decides.bind_true (Q := fun rows s => rows.findSome? (fun item => item.2.customer?) =
    (s.working.get? (.customer code)).bind OmsRow.customer? ∧ P s)
    (.query fun s hs => ⟨Txn.findSome?_select_keyQuery _, hs⟩) fun rows => ?_
  dsimp only
  cases hrows : rows.findSome? fun item => item.2.customer? with
  | some customer =>
    refine (Decides.ret fun s hs => hfound s hs.2).conseq (fun _ hs => hs) (fun s hs => ?_)
      fun _ _ h => h
    rw [hφ s hs.2, CustomerObtainable, ← hs.1]
    simp
  | none =>
    have hnew (s : Session OmsKey OmsRow)
        (hs : none = (s.working.get? (.customer code)).bind OmsRow.customer? ∧ P s) :
        φ ↔ ∃ stored, storeText 50 code = .ok stored ∧
          s.working.get? (.customer stored) = none := by
      rw [hφ s hs.2, CustomerObtainable, ← hs.1]
      simp
    exact decides_insertCode (fun stored h => exists_storeText_iff.1 ⟨stored, h⟩) OmsKey.customer
      (fun id code name => .customer ⟨id, code, name⟩) Customer.mk hnew
      fun s stored name hs _ hfree => hinsert s stored _ hs.2 hfree

/-- **A SKU is found or inserted** if it can be had. -/
theorem decides_getOrCreateSku (d : OmsDb) (created? : Option Uuid) (code : String) :
    Decides (Room d created?) (getOrCreateSku code)
      (Obtainable d (.sku code) OmsRow.sku? code) fun _ => Room d created? := by
  refine Decides.bind_true (Q := fun rows s => rows.findSome? (fun item => item.2.sku?) =
    (s.working.get? (.sku code)).bind OmsRow.sku? ∧ Room d created? s)
    (.query fun s hs => ⟨Txn.findSome?_select_keyQuery _, hs⟩) fun rows => ?_
  dsimp only
  cases hrows : rows.findSome? fun item => item.2.sku? with
  | some sku =>
    refine (Decides.ret fun s hs => hs.2).conseq (fun _ hs => hs) (fun s hs => ?_) fun _ _ h => h
    rw [← hs.2.sku, Obtainable, ← hs.1]
    simp
  | none =>
    have hnew (s : Session OmsKey OmsRow)
        (hs : none = (s.working.get? (.sku code)).bind OmsRow.sku? ∧ Room d created? s) :
        Obtainable d (.sku code) OmsRow.sku? code ↔
          ∃ stored, storeWhole 50 code = .ok stored ∧ s.working.get? (.sku stored) = none := by
      rw [← hs.2.sku, Obtainable, ← hs.1]
      simp [storeWhole_eq_ok_iff, and_comm]
    refine decides_insertCode (fun stored h => ?_) OmsKey.sku
      (fun id code name => .sku ⟨id, code, name⟩) Sku.mk hnew fun s stored name hs hstored hfree => ?_
    · exact Text.fitsUpToBlanks_of_length_le (storeWhole_eq_ok_iff.1 h).1
    · obtain ⟨hlength, rfl⟩ := storeWhole_eq_ok_iff.1 hstored
      exact hs.2.draw.toRoom.writeSku hfree hlength

/-- A row under a new identifier. -/
theorem decides_insertNew {created? : Option Uuid} (key : ℕ → OmsKey) (row : ℕ → OmsRow)
    (hkey : ∀ id, key id ∈ idKeys id) :
    Decides (Room d created?)
      ((Prog.newId : OmsProg ℕ).bind fun id => Prog.insertOr .integrityError (key id) (row id))
      True fun _ => Room d created? := by
  refine Decides.bind_true (Q := Drawn d created?) (.newId fun s hs => hs.draw) fun id => ?_
  exact .insertOr (fun s hs => iff_of_true trivial (hs.unused _ (hkey id)))
    fun s hs _ => hs.write (hkey id)

theorem decides_insertItem (orderId : Uuid) (skuId : Option Uuid) (gtin name : String)
    (quantity : ℤ) (unitPrice : ℚ) :
    Decides (Room d created?) (insertItem orderId skuId gtin name quantity unitPrice)
      (Text.FitsUpToBlanks 13 gtin ∧ Text.FitsUpToBlanks 200 name ∧ FitsInteger quantity ∧
        (Numeric.ofRat? unitPrice : Option (Numeric 18 4)).isSome = true)
      fun _ => Room d created? := by
  refine Decides.bind_true (Q := Drawn d created?) (.newId fun s hs => hs.draw) fun id => ?_
  have hinsert (gtin name : String) (quantity : ℤ) (unitPrice : Numeric 18 4) :
      Decides (Drawn d created? id)
        ((Prog.insertOr .integrityError (.orderItem id) (.orderItem
          ⟨id, orderId, skuId, gtin, name, quantity, unitPrice, false, none⟩)) : OmsProg Unit)
        True fun _ => Room d created? :=
    .insertOr (fun s hs => iff_of_true trivial (hs.unused _ (by simp [idKeys])))
      fun s hs _ => hs.write (by simp [idKeys])
  have hcolumns : Decides (Drawn d created? id) _ _ _ :=
    (Decides.ofExcept (x := storeText 13 gtin) fun _ _ _ hs => hs).bind fun gtin =>
    (Decides.ofExcept (x := storeText 200 name) fun _ _ _ hs => hs).bind fun name =>
    (Decides.ofExcept (x := storeInt quantity) fun _ _ _ hs => hs).bind fun quantity =>
    (Decides.ofExcept (x := storeNumeric unitPrice) fun _ _ _ hs => hs).bind fun unitPrice =>
    hinsert gtin name quantity unitPrice
  refine hcolumns.conseq (fun _ hs => hs) (fun _ _ => ?_) fun _ _ h => h
  rw [exists_storeText_iff, exists_storeText_iff, exists_storeInt_iff, exists_storeNumeric_iff,
    and_true]

/-- The SKU of an item is found or inserted; there may be none. -/
theorem decides_createItemSku (d : OmsDb) (created? : Option Uuid) (code : String) :
    Decides (Room d created?) (createItemSku code)
      (code = "" ∨ Obtainable d (.sku code) OmsRow.sku? code) fun _ => Room d created? := by
  unfold createItemSku
  split_ifs with hempty
  · exact (Decides.ret fun _ hs => hs).conseq (fun _ hs => hs) (fun _ _ => by simp [hempty])
      fun _ _ h => h
  · refine ((decides_getOrCreateSku d created? code).bind fun sku =>
      Decides.ret (a := some sku.id) fun _ hs => hs).conseq (fun _ hs => hs) (fun _ _ => ?_)
      fun _ _ h => h
    rw [and_true, or_iff_right hempty]

/-- **An item is stored** if its texts and numbers fit. -/
theorem decides_createItem (orderId : Uuid) (item : ItemCreate) :
    Decides (Room d created?) (createItem orderId item) (ItemStorable d item)
      fun _ => Room d created? := by
  refine ((decides_createItemSku d created? item.sku).bind fun skuId =>
    decides_insertItem orderId skuId _ _ _ _).conseq (fun _ hs => hs) (fun _ _ => ?_)
    fun _ _ h => h
  exact ⟨fun ⟨h, hg, hp, hq, hu⟩ => ⟨h, hg, hp, hq, hu⟩,
    fun h => ⟨h.sku, h.gtin, h.productName, h.quantity, h.unitPrice⟩⟩

/-- The order that a commit has written is read back. -/
theorem exec_readBack {α : Type} {id : Uuid} {s : Session OmsKey OmsRow}
    {toDict : Order → OmsProg α} (h : orderAt s.working (.order id) ≠ none)
    (hdict : ∀ order, ∃ answer, (toDict order).exec s = (.ok answer, s)) :
    ∃ answer, ((refreshOrder id).bind toDict).exec s = (.ok answer, s) := by
  obtain ⟨order, horder⟩ := Option.ne_none_iff_exists'.1 h
  have hrefresh : (refreshOrder id).exec s = (.ok order, s) := by
    rw [refreshOrder, Prog.bind_eq, Prog.exec_bind_of_ok (exec_selectOrder id s), horder]
    rfl
  rw [Prog.exec_bind_of_ok hrefresh]
  exact hdict order

/-- What follows the lines of a new order: its log, its event and the commit. -/
theorem decides_finish (now : ℤ) (id : Uuid) (payload : OrderCreated) (data : OrderCreate) :
    Decides (Room d (some id))
      ((insertLog now id "" "pending" "Order created").bind fun _ =>
        (appendOrderCreated id payload).bind fun _ =>
          (Prog.commitOr .commitFailed).bind fun _ =>
            (refreshOrder id).bind fun order => createdToDict data order)
      True fun _ _ => True := by
  refine (decides_insertNew .statusLog (fun logId =>
    .statusLog ⟨logId, id, "", "pending", "Order created", now⟩)
    fun id => by simp [idKeys]).bind_true fun _ => ?_
  refine (decides_insertNew .outboxEvent (fun eventId => .outboxEvent {
    id := eventId, aggregateType := "Order", aggregateId := id, eventType := "order.created",
    payload }) fun id => by simp [idKeys]).bind_true fun _ => ?_
  refine Decides.bind_true (Q := fun _ s => orderAt s.working (.order id) ≠ none)
    (.commitOr fun s hs => hs.order id rfl) fun _ s hs => ?_
  obtain ⟨answer, hanswer⟩ := @exec_readBack _ _ _ (createdToDict data) hs fun _ => ⟨_, rfl⟩
  exact ⟨fun _ => ⟨answer, _, hanswer, trivial⟩, fun h => absurd trivial h⟩

end Statements

/-! ### The service -/

section Service

variable {d : OmsDb} {ids : ℕ → ℕ}

/-- The session before the order is inserted: no order number is taken or free that was not. -/
def Numbers (d : OmsDb) (s : Session OmsKey OmsRow) : Prop :=
  ∀ number, s.working.get? (.orderNo number) = d.get? (.orderNo number)

/-- The customer of an order. -/
theorem decides_customer (committed : OmsDb) (code : String) (hids : FreshIds ids d) :
    Decides (fun s => s = ⟨committed, d, ids⟩) (getOrCreateCustomer code)
      (CustomerObtainable d code) fun _ s => Room d none s ∧ Numbers d s := by
  have hstart : Room d none ⟨committed, d, ids⟩ := ⟨hids, fun _ => Iff.rfl, fun id hid => by cases hid⟩
  refine decides_getOrCreateCustomer (fun s hs => by rw [hs]) (fun s hs => ?_)
    fun s stored customer hs hfree => ?_
  · rw [hs]
    exact ⟨hstart, fun _ => rfl⟩
  · rw [hs] at hfree ⊢
    refine ⟨hstart.draw.toRoom.write hfree (fun n hmem => ?_)
      fun code => obtainable_set_of_ne (by simp), fun number => ?_⟩
    · simp [idKeys] at hmem
    · rw [written, drawn, Dict.get?_set, if_neg (by simp)]

/-- An order is inserted if its number is not taken. -/
theorem decides_insertOrder {id : Uuid} {number : String} (order : Order) (hid : order.id = id)
    (hnumber : order.orderNo = number) :
    Decides (fun s => Drawn d none id s ∧ Numbers d s) (insertOrder order)
      (d.get? (.orderNo number) = none) fun _ => Room d (some id) := by
  subst hid hnumber
  have hindex : Decides (fun s => Drawn d none order.id s ∧ Numbers d s)
      (Prog.insertOr .integrityError (.orderNo order.orderNo) (.orderNo order.id) : OmsProg Unit)
      (d.get? (.orderNo order.orderNo) = none) fun _ => Drawn d none order.id := by
    refine Decides.insertOr (fun s hs => by rw [hs.2 order.orderNo]) fun s hs hfree => ?_
    refine ⟨hs.1.toRoom.write hfree (fun n hmem => ?_) fun code => obtainable_set_of_ne (by simp),
      fun key hkey => ?_, hs.1.ne⟩
    · simp [idKeys] at hmem
    · rw [Dict.get?_set, if_neg]
      · exact hs.1.unused key hkey
      · rintro rfl
        simp [idKeys] at hkey
  have hrow : Decides (Drawn d none order.id)
      (Prog.insertOr .integrityError (.order order.id) (.order order) : OmsProg Unit) True
      fun _ => Room d (some order.id) := by
    refine Decides.insertOr (fun s hs => iff_of_true trivial (hs.unused _ (by simp [idKeys])))
      fun s hs _ => ?_
    have hwritten : Room d none (written (.order order.id) (.order order) s) :=
      hs.write (by simp [idKeys])
    refine ⟨hwritten.fresh, hwritten.sku, fun id hid => ?_⟩
    cases hid
    rw [orderAt_set, if_pos rfl]
    exact Option.some_ne_none _
  exact (hindex.bind fun _ => hrow).conseq (fun _ hs => hs) (fun _ _ => by rw [and_true])
    fun _ _ h => h

/-- **An order is created exactly when it can be stored.** -/
theorem decides_createOrder (now : ℤ) (datePart suffix : String) (data : OrderCreate)
    (hids : FreshIds ids d) :
    Decides (fun s => s = ⟨d, d, ids⟩) (createOrder now datePart suffix data)
      (Storable d datePart suffix data) fun _ _ => True := by
  have hall : Decides (fun s => s = ⟨d, d, ids⟩) (createOrder now datePart suffix data)
      (CustomerObtainable d data.customerId ∧
        (∃ number, storeWhole 50 s!"ORD-{datePart}-{suffix}" = .ok number) ∧
        (∃ total : Numeric 18 2, storeNumeric (orderTotal data.items) = .ok total) ∧
        d.get? (.orderNo s!"ORD-{datePart}-{suffix}") = none ∧
        (∀ item ∈ data.items, ItemStorable d item) ∧ True) fun _ _ => True := by
    refine (decides_customer d data.customerId hids).bind fun customer => ?_
    refine Decides.bind_true (Q := fun id s => Drawn d none id s ∧ Numbers d s)
      (.newId fun s hs => ⟨hs.1.draw, hs.2⟩) fun id => ?_
    -- the number that is stored is the one that was made, since it is not cut
    refine (Decides.ofExcept fun number hnumber s hs => And.intro hnumber hs).bind fun number => ?_
    refine Decides.assume fun hnumber => ?_
    obtain ⟨-, rfl⟩ := storeWhole_eq_ok_iff.1 hnumber
    refine (Decides.ofExcept fun _ _ _ hs => hs).bind fun totalAmount => ?_
    refine (decides_insertOrder _ (by rfl) (by rfl)).bind fun _ => ?_
    exact (Decides.forEach (J := fun _ => _) (fun item _ => decides_createItem id item) _).bind
      fun _ => decides_finish now id _ data
  refine hall.conseq (fun _ hs => hs) (fun _ _ => ?_) fun _ _ h => h
  rw [exists_storeWhole_iff, exists_storeNumeric_iff, and_true]
  exact ⟨fun ⟨hc, hn, ht, hf, hi⟩ => ⟨hc, hn, hf, ht, hi⟩,
    fun h => ⟨h.customer, h.number, h.total, h.free, h.items⟩⟩

/-- **`create_order` returns exactly when the order can be stored.** -/
theorem createOrder_returns_iff (now : ℤ) (datePart suffix : String) (data : OrderCreate)
    (hids : FreshIds ids d) :
    (∃ answer d', (createOrder now datePart suffix data).run ids d = (.ok answer, d')) ↔
      Storable d datePart suffix data :=
  (decides_createOrder now datePart suffix data hids).returns_iff rfl

end Service

end Oms

end OmsWmsTms
