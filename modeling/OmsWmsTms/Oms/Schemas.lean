import OmsWmsTms.Oms.Footprint
import OmsWmsTms.Oms.Returns
import OmsWmsTms.Txn.ThrowsOnly

/-!
# The orders that the request schema admits

`src/oms/schemas.py` bounds the fields of a request, and the tables bound their columns.

* `Schemas.OrderItemSchema`, `Schemas.OrderCreate` : the requests, with the bounds of their fields.
* `RowsFit` : the rows that `create_order` builds fit their columns.
* `Schemas.OrderCreate.Stored` : no call with the request fails because of its values.
* `Schemas.OrderCreate.WithinColumns` : the bounds that the columns ask for.
* `stored_iff` : a request is stored exactly when it is within them.
-/

namespace OmsWmsTms

namespace Oms

open Txn (Prog ThrowsOnly)

namespace Schemas

/-! ### Requests -/

/-- A decimal of at most `maxDigits` digits, `decimalPlaces` of them after the point. -/
structure HasDigits (maxDigits decimalPlaces : ℕ) (x : ℚ) : Prop where
  onGrid : OnGrid decimalPlaces x
  whole : |x| < 10 ^ (maxDigits - decimalPlaces)

/-- `OrderItemSchema`. -/
structure OrderItemSchema where
  /-- The trade item number. -/
  gtin : String
  /-- The SKU code. -/
  sku : String
  /-- The product name. -/
  productName : String := ""
  /-- The quantity. -/
  quantity : ℤ
  /-- The price of one unit. -/
  unitPrice : ℚ
  /-- The price of the line. -/
  subtotal : ℚ := 0
  gtin_length : 8 ≤ gtin.length ∧ gtin.length ≤ 14
  sku_length : 1 ≤ sku.length ∧ sku.length ≤ 50
  productName_length : productName.length ≤ 200
  quantity_range : 0 < quantity ∧ quantity ≤ 99999
  unitPrice_nonneg : 0 ≤ unitPrice
  unitPrice_digits : HasDigits 18 2 unitPrice
  subtotal_nonneg : 0 ≤ subtotal
  subtotal_digits : HasDigits 18 2 subtotal

/-- `OrderCreate`. -/
structure OrderCreate where
  /-- The customer code. -/
  customerId : String
  /-- The items. -/
  items : List OrderItemSchema
  /-- The priority. -/
  priority : String := "medium"
  /-- The notes. -/
  notes : String := ""
  customerId_length : 1 ≤ customerId.length
  items_length : 1 ≤ items.length
  priority_pattern : priority ∈ ["low", "medium", "high", "urgent"]
  notes_length : notes.length ≤ 2000

/-- The item that `create_order` reads; it computes the subtotal anew. -/
def OrderItemSchema.modelDump (item : OrderItemSchema) : ItemCreate where
  gtin := item.gtin
  sku := item.sku
  productName := item.productName
  quantity := item.quantity
  unitPrice := item.unitPrice

/-- `data.model_dump()`. -/
def OrderCreate.modelDump (data : OrderCreate) : Oms.OrderCreate where
  customerId := data.customerId
  items := data.items.map OrderItemSchema.modelDump
  priority := data.priority
  notes := data.notes

end Schemas

/-! ### Rows and columns -/

/-- The line of an item, and a new SKU for it, fit their columns. -/
structure ItemFits (item : ItemCreate) : Prop where
  sku : item.sku.length ≤ 50
  gtin : Text.FitsUpToBlanks 13 item.gtin
  productName : Text.FitsUpToBlanks 200 item.productName
  quantity : FitsInteger item.quantity
  unitPrice : (Numeric.ofRat? item.unitPrice : Option (Numeric 18 4)).isSome = true

/-- The order, its lines and a new customer for it fit their columns. -/
structure RowsFit (data : OrderCreate) : Prop where
  customer : Text.FitsUpToBlanks 50 data.customerId
  total : (Numeric.ofRat? (orderTotal data.items) : Option (Numeric 18 2)).isSome = true
  items : ∀ item ∈ data.items, ItemFits item

/-- Nothing but its values stands in the way of an order: the rows are under their keys, the new
identifiers are not in use, and the order number is not taken; nor is what the column keeps of the
customer code, if it cuts blanks off. -/
structure Ready (ids : ℕ → ℕ) (d : OmsDb) (datePart suffix customerId : String) : Prop where
  keyed : Keyed d
  fresh : FreshIds ids d
  free : d.get? (.orderNo s!"ORD-{datePart}-{suffix}") = none
  customer : Text.cut 50 customerId ≠ customerId → d.get? (.customer (Text.cut 50 customerId)) = none

namespace Schemas.OrderCreate

/-- No call with the request fails because a value is too long or out of range, and one that has
nothing else in its way returns.  A date has eight characters, and so has a suffix. -/
structure Stored (data : Schemas.OrderCreate) : Prop where
  inRange : ∀ (now : ℤ) (datePart suffix : String) (ids : ℕ → ℕ) (d : OmsDb),
    datePart.length ≤ 8 → suffix.length = 8 →
      ((createOrder now datePart suffix data.modelDump).run ids d).1 ≠ .error .dataError
  returns : ∀ (now : ℤ) (datePart suffix : String) (ids : ℕ → ℕ) (d : OmsDb),
    datePart.length ≤ 8 → suffix.length = 8 → Ready ids d datePart suffix data.customerId →
      ∃ answer d', (createOrder now datePart suffix data.modelDump).run ids d = (.ok answer, d')

/-- The bounds that the columns ask for and the schema does not. -/
structure WithinColumns (data : Schemas.OrderCreate) : Prop where
  customerId : Text.FitsUpToBlanks 50 data.customerId
  gtin : ∀ item ∈ data.items, Text.FitsUpToBlanks 13 item.gtin
  unitPrice : ∀ item ∈ data.items, item.unitPrice < 10 ^ 14
  total : (data.items.map fun item => item.unitPrice * (item.quantity : ℚ)).sum < 10 ^ 16

end Schemas.OrderCreate

/-! ### What the schema leaves to the columns -/

/-- A decimal of two places in a column. -/
theorem isSome_ofRat?_iff_lt {x : ℚ} (hx : OnGrid 2 x) (hnonneg : 0 ≤ x) {p s : ℕ} (hs : 2 ≤ s)
    (hp : s ≤ p) : (Numeric.ofRat? x : Option (Numeric p s)).isSome = true ↔ x < 10 ^ (p - s) := by
  have hpow : (0 : ℚ) < 10 ^ s := by positivity
  have hsplit : (10 : ℚ) ^ p = 10 ^ (p - s) * 10 ^ s := by rw [← pow_add, Nat.sub_add_cancel hp]
  rw [Numeric.isSome_ofRat?_iff (hx.mono hs), abs_of_nonneg hnonneg, hsplit,
    mul_lt_mul_iff_left₀ hpow]

/-- Of an item, the schema leaves open whether its trade item number and its price fit. -/
theorem itemFits_iff (item : Schemas.OrderItemSchema) :
    ItemFits item.modelDump ↔
      Text.FitsUpToBlanks 13 item.gtin ∧ item.unitPrice < 10 ^ 14 := by
  have hprice : (Numeric.ofRat? item.unitPrice : Option (Numeric 18 4)).isSome = true ↔
      item.unitPrice < 10 ^ 14 :=
    isSome_ofRat?_iff_lt item.unitPrice_digits.onGrid item.unitPrice_nonneg (by omega) (by omega)
  constructor
  · intro h
    exact ⟨h.gtin, hprice.1 h.unitPrice⟩
  · rintro ⟨hgtin, hlt⟩
    obtain ⟨hpos, hmax⟩ := item.quantity_range
    refine ⟨item.sku_length.2, hgtin, Text.fitsUpToBlanks_of_length_le item.productName_length, ?_,
      hprice.2 hlt⟩
    show FitsInteger item.quantity
    constructor <;> omega

/-- The total of a request: a sum of prices of two decimals. -/
theorem orderTotal_modelDump (data : Schemas.OrderCreate) :
    orderTotal data.modelDump.items =
      (data.items.map fun item => item.unitPrice * (item.quantity : ℚ)).sum := by
  rw [orderTotal, Schemas.OrderCreate.modelDump, List.map_map]
  rfl

theorem isSome_orderTotal_iff (data : Schemas.OrderCreate) :
    (Numeric.ofRat? (orderTotal data.modelDump.items) : Option (Numeric 18 2)).isSome = true ↔
      (data.items.map fun item => item.unitPrice * (item.quantity : ℚ)).sum < 10 ^ 16 := by
  rw [orderTotal_modelDump]
  refine isSome_ofRat?_iff_lt (OnGrid.sum fun x hx => ?_) (List.sum_nonneg fun x hx => ?_)
    le_rfl (by omega)
  · obtain ⟨item, -, rfl⟩ := List.mem_map.1 hx
    exact item.unitPrice_digits.onGrid.mul_intCast _
  · obtain ⟨item, -, rfl⟩ := List.mem_map.1 hx
    exact mul_nonneg item.unitPrice_nonneg (by exact_mod_cast item.quantity_range.1.le)

/-- **The rows of a request fit exactly when it is within the bounds of the columns.** -/
theorem rowsFit_iff (data : Schemas.OrderCreate) :
    RowsFit data.modelDump ↔ data.WithinColumns := by
  have hitems : (∀ item ∈ data.modelDump.items, ItemFits item) ↔
      ∀ item ∈ data.items, Text.FitsUpToBlanks 13 item.gtin ∧ item.unitPrice < 10 ^ 14 := by
    simp only [Schemas.OrderCreate.modelDump, List.forall_mem_map, itemFits_iff]
  constructor
  · intro h
    have hbounds := hitems.1 h.items
    exact ⟨h.customer, fun item hitem => (hbounds item hitem).1,
      fun item hitem => (hbounds item hitem).2, (isSome_orderTotal_iff data).1 h.total⟩
  · intro h
    exact ⟨h.customerId, (isSome_orderTotal_iff data).2 h.total,
      hitems.2 fun item hitem => ⟨h.gtin item hitem, h.unitPrice item hitem⟩⟩

/-! ### Runs -/

section Runs

variable {data : OrderCreate} {datePart suffix : String} {ids : ℕ → ℕ} {d : OmsDb}

theorem length_orderNo_le (hdate : datePart.length ≤ 8) (hsuffix : suffix.length = 8) :
    s!"ORD-{datePart}-{suffix}".length ≤ 50 := by
  have hprefix : "ORD-".length = 4 := rfl
  have hdash : "-".length = 1 := rfl
  simp only [String.length_append, toString]
  omega

/-- The row of a code is there, or there is room for it. -/
theorem obtainable_of_keyed {α : Type} {key : OmsKey} {f : OmsRow → Option α} {code : String}
    (hd : Keyed d) (hkey : ∀ row, RowAt key row → (f row).isSome = true)
    (hlength : code.length ≤ 50) : Obtainable d key f code := by
  cases hget : d.get? key with
  | none => exact .inr ⟨hget, hlength⟩
  | some row => exact .inl (by rw [hget]; exact hkey row (hd key row hget))

/-- So it is with a customer, under what the column keeps of the code. -/
theorem Ready.customerObtainable {code : String} (h : Ready ids d datePart suffix code)
    (hfits : Text.FitsUpToBlanks 50 code) : CustomerObtainable d code := by
  have hstored : storeText 50 code = .ok (Text.cut 50 code) :=
    storeText_eq_ok_iff.2 (Text.varchar?_eq_some_iff.2 ⟨hfits, rfl⟩)
  by_cases hcut : Text.cut 50 code = code
  · rw [hcut] at hstored
    cases hget : d.get? (.customer code) with
    | none => exact .inr ⟨code, hstored, hget⟩
    | some row =>
      have hrow : RowAt (.customer code) row := h.keyed _ row hget
      refine .inl ?_
      rw [hget]
      cases row <;> first | rfl | exact hrow.elim
  · exact .inr ⟨_, hstored, h.customer hcut⟩

/-- **An order whose rows fit can be stored** if nothing else stands in its way. -/
theorem RowsFit.storable (h : RowsFit data)
    (hready : Ready ids d datePart suffix data.customerId)
    (hdate : datePart.length ≤ 8) (hsuffix : suffix.length = 8) :
    Storable d datePart suffix data where
  customer := hready.customerObtainable h.customer
  number := length_orderNo_le hdate hsuffix
  free := hready.free
  total := h.total
  items item hitem := by
    have hfits := h.items item hitem
    refine ⟨.inr ?_, hfits.gtin, hfits.productName, hfits.quantity, hfits.unitPrice⟩
    refine obtainable_of_keyed hready.keyed (fun row hrow => ?_) hfits.sku
    cases row <;> first | rfl | exact hrow.elim

end Runs

/-! ### No value out of range -/

section InRange

variable {A : Type}

/-- Every exception but that of a value that does not fit. -/
abbrev InRange (p : OmsProg A) : Prop := ThrowsOnly (· ≠ ServiceError.dataError) p

theorem inRange_storeText {limit : ℕ} {text : String} (h : Text.FitsUpToBlanks limit text) :
    InRange (Prog.ofExcept (storeText limit text)) := by
  obtain ⟨stored, hstored⟩ := exists_storeText_iff.2 h
  rw [hstored]
  trivial

theorem inRange_storeWhole {limit : ℕ} {code : String} (h : code.length ≤ limit) :
    InRange (Prog.ofExcept (storeWhole limit code)) := by
  rw [storeWhole, if_pos h]
  trivial

theorem inRange_storeInt {n : ℤ} (h : FitsInteger n) : InRange (Prog.ofExcept (storeInt n)) := by
  rw [storeInt, if_pos h]
  trivial

theorem inRange_storeNumeric {p s : ℕ} {x : ℚ}
    (h : (Numeric.ofRat? x : Option (Numeric p s)).isSome = true) :
    InRange (Prog.ofExcept (storeNumeric x : Except _ (Numeric p s))) := by
  obtain ⟨y, hy⟩ := Option.isSome_iff_exists.1 h
  rw [storeNumeric_eq_ok_iff.2 hy]
  trivial

theorem inRange_insertOr (key : OmsKey) (row : OmsRow) :
    InRange (Prog.insertOr .integrityError key row) :=
  ThrowsOnly.insertOr (fun h => by cases h) key row

theorem inRange_getOrCreateCustomer {code : String} (h : Text.FitsUpToBlanks 50 code) :
    InRange (getOrCreateCustomer code) := by
  refine (ThrowsOnly.query _).bind fun rows => ?_
  dsimp only
  split
  · exact ThrowsOnly.ret _
  · exact ThrowsOnly.newId.bind fun id => (inRange_storeText h).bind fun code' =>
      (inRange_storeText (h.mono (by decide))).bind fun name => (inRange_insertOr _ _).bind fun _ =>
        ThrowsOnly.ret _

theorem inRange_getOrCreateSku {code : String} (h : code.length ≤ 50) :
    InRange (getOrCreateSku code) := by
  refine (ThrowsOnly.query _).bind fun rows => ?_
  dsimp only
  split
  · exact ThrowsOnly.ret _
  · have hname : Text.FitsUpToBlanks 200 code := Text.fitsUpToBlanks_of_length_le (by omega)
    exact ThrowsOnly.newId.bind fun id => (inRange_storeWhole h).bind fun code' =>
      (inRange_storeText hname).bind fun name => (inRange_insertOr _ _).bind fun _ =>
        ThrowsOnly.ret _

theorem inRange_createItem (orderId : Uuid) {item : ItemCreate} (h : ItemFits item) :
    InRange (createItem orderId item) := by
  have hsku : InRange (createItemSku item.sku) := by
    unfold createItemSku
    split_ifs with hempty
    · exact ThrowsOnly.ret _
    · exact (inRange_getOrCreateSku h.sku).bind fun sku => ThrowsOnly.ret _
  exact hsku.bind fun skuId => ThrowsOnly.newId.bind fun id =>
    (inRange_storeText h.gtin).bind fun gtin => (inRange_storeText h.productName).bind fun name =>
      (inRange_storeInt h.quantity).bind fun quantity =>
        (inRange_storeNumeric h.unitPrice).bind fun unitPrice => inRange_insertOr _ _

theorem inRange_orderToDict (order : Order) (totalAmount : ℚ) :
    InRange (orderToDict order totalAmount) :=
  (ThrowsOnly.query _).bind fun _ => ((ThrowsOnly.query _).bind fun _ => ThrowsOnly.ret _).bind
    fun _ => (ThrowsOnly.query _).bind fun _ => ThrowsOnly.ret _

theorem inRange_createdToDict (data : OrderCreate) (order : Order) :
    InRange (createdToDict data order) :=
  (inRange_orderToDict order _).bind fun _ => ThrowsOnly.ret _

theorem inRange_refreshOrder (id : Uuid) : InRange (refreshOrder id) := by
  refine ((ThrowsOnly.query _).bind fun _ => ThrowsOnly.ret _).bind fun order => ?_
  split
  · exact ThrowsOnly.ret _
  · exact fun h => by cases h

/-- **An order whose rows fit raises no error about a value**, whatever is in the database. -/
theorem inRange_createOrder (now : ℤ) {datePart suffix : String} {data : OrderCreate}
    (h : RowsFit data) (hdate : datePart.length ≤ 8) (hsuffix : suffix.length = 8) :
    InRange (createOrder now datePart suffix data) := by
  refine (inRange_getOrCreateCustomer h.customer).bind fun customer =>
    ThrowsOnly.newId.bind fun id => (inRange_storeWhole (length_orderNo_le hdate hsuffix)).bind
      fun number => (inRange_storeNumeric h.total).bind fun totalAmount => ?_
  have horder (order : Order) : InRange (insertOrder order) :=
    (inRange_insertOr _ _).bind fun _ => inRange_insertOr _ _
  have hlog : InRange (insertLog now id "" "pending" "Order created") :=
    ThrowsOnly.newId.bind fun logId => inRange_insertOr _ _
  have hevent (payload : OrderCreated) : InRange (appendOrderCreated id payload) :=
    ThrowsOnly.newId.bind fun eventId => inRange_insertOr _ _
  refine (horder _).bind fun _ => (ThrowsOnly.forEach fun item hitem =>
    inRange_createItem id (h.items item hitem)).bind fun _ => hlog.bind fun _ =>
      (hevent _).bind fun _ => ?_
  exact (ThrowsOnly.commitOr fun h => by cases h).bind fun _ => (inRange_refreshOrder id).bind
    fun order => inRange_createdToDict data order

end InRange

/-! ### What the schema promises -/

/-- An order that is stored in the empty database has rows that fit. -/
theorem rowsFit_of_stored {data : Schemas.OrderCreate} (h : data.Stored) :
    RowsFit data.modelDump := by
  have hready : Ready id Dict.empty "20240101" "00000000" data.customerId :=
    ⟨fun key row hrow => by simp at hrow, ⟨Function.injective_id, fun n key _ => rfl⟩, rfl,
      fun _ => rfl⟩
  have hstorable : Storable Dict.empty "20240101" "00000000" data.modelDump :=
    (createOrder_returns_iff 0 _ _ _ hready.fresh).1 (h.returns 0 _ _ _ _ (by decide) rfl hready)
  -- nothing is there yet, so that every code has to fit as well
  have hcode {α : Type} {key : OmsKey} {f : OmsRow → Option α} {code : String}
      (hobtain : Obtainable Dict.empty key f code) : code.length ≤ 50 := by
    rcases hobtain with hfound | ⟨-, hlength⟩
    · cases hfound
    · exact hlength
  have hcustomer : Text.FitsUpToBlanks 50 data.modelDump.customerId := by
    rcases hstorable.customer with hfound | ⟨stored, hstored, -⟩
    · cases hfound
    · exact exists_storeText_iff.1 ⟨stored, hstored⟩
  refine ⟨hcustomer, hstorable.total, fun item hitem => ?_⟩
  have hfits := hstorable.items item hitem
  refine ⟨?_, hfits.gtin, hfits.productName, hfits.quantity, hfits.unitPrice⟩
  rcases hfits.sku with hempty | hobtain
  · rw [hempty]
    exact Nat.zero_le _
  · exact hcode hobtain

/-- **A request is stored exactly when it is within the bounds of the columns**, and then its rows
fit. -/
theorem stored_iff (data : Schemas.OrderCreate) :
    (RowsFit data.modelDump ↔ data.WithinColumns) ∧ (data.Stored ↔ data.WithinColumns) := by
  refine ⟨rowsFit_iff data, fun h => (rowsFit_iff data).1 (rowsFit_of_stored h), fun h => ?_⟩
  have hfit := (rowsFit_iff data).2 h
  constructor
  · intro now datePart suffix ids d hdate hsuffix herror
    exact (inRange_createOrder now hfit hdate hsuffix).run ids d herror rfl
  · intro now datePart suffix ids d hdate hsuffix hready
    exact (createOrder_returns_iff now _ _ _ hready.fresh).2
      (hfit.storable hready hdate hsuffix)

/-! ### A trade item number of fourteen digits -/

theorem hasDigits_intCast {n : ℤ} (h : |(n : ℚ)| < 10 ^ 16) : Schemas.HasDigits 18 2 n :=
  ⟨.intCast n, h⟩

theorem hasDigits_ten : Schemas.HasDigits 18 2 10 :=
  hasDigits_intCast (n := 10) (by norm_num)

theorem hasDigits_zero : Schemas.HasDigits 18 2 0 :=
  hasDigits_intCast (n := 0) (by norm_num)

/-- One case, whose number has fourteen digits. -/
def oneCase : Schemas.OrderCreate where
  customerId := "C-1"
  items := [{
    gtin := "16901234567897", sku := "SKU-001", productName := "Product A", quantity := 1
    unitPrice := 10
    gtin_length := by decide
    sku_length := by decide
    productName_length := by decide
    quantity_range := by decide
    unitPrice_nonneg := by decide
    unitPrice_digits := hasDigits_ten
    subtotal_nonneg := le_rfl
    subtotal_digits := hasDigits_zero }]
  customerId_length := by decide
  items_length := by decide
  priority_pattern := by decide
  notes_length := by decide

/-- The schema admits it, and the database does not. -/
theorem oneCase_not_stored : ¬ RowsFit oneCase.modelDump ∧ ¬ oneCase.Stored ∧
    ((createOrder 0 "20240101" "00000000" oneCase.modelDump).run id Dict.empty).1 =
      .error .dataError := by
  have hrows : ¬ RowsFit oneCase.modelDump := fun h =>
    absurd (h.items _ List.mem_cons_self).gtin (by decide)
  exact ⟨hrows, fun h => hrows (rowsFit_of_stored h), by decide +kernel⟩

end Oms

end OmsWmsTms
