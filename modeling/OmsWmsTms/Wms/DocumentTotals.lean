import OmsWmsTms.Control.Except
import OmsWmsTms.Wms.StockWriters

/-!
# The totals of purchase orders, invoices and credit memos

`create_purchase_order`, `create_invoice` and `create_credit_memo` of `src/wms/service.py`.  The
total is the sum of the products of the quantities and prices as they were given; the lines are
rounded to four decimals one by one, the total to two.

* `createDocument` : what the three have in common.
* `createPurchaseOrder`, `createInvoice`, `createCreditMemo` : the three.
* `TotalMatches` : the stored total is that of the stored lines.
* `linesTotal_eq` : the total, as the total of the stored lines and the errors of the lines.
* `StaysInCent` : the errors do not lead out of the cent.
-/

namespace OmsWmsTms

namespace Wms

/-! ### The model -/

/-- A date of a payload: its text, and the day that `datetime.fromisoformat` reads. -/
structure DateArg where
  /-- The text. -/
  text : String
  /-- The day. -/
  day? : Option ℤ

/-- An entry of `lines`. -/
structure LineData where
  /-- The entry `sku_id`, of a purchase order. -/
  skuId : Option IdArg := none
  /-- The entry `description`. -/
  description : Option String := some ""
  /-- The entry `quantity`. -/
  quantity : ℚ := 1
  /-- The entry `unit_price`. -/
  unitPrice : ℚ := 0

/-- `PurchaseOrderLine`, `InvoiceLine` and `CreditMemoLine`, of which only the first has a SKU. -/
structure Line where
  /-- The SKU. -/
  skuId : Option Uuid
  /-- The description. -/
  description : Option String
  /-- The quantity. -/
  quantity : Numeric 18 4
  /-- The price of one unit. -/
  unitPrice : Numeric 18 4

/-- A document with its lines. -/
structure Document (H : Type) where
  /-- The other columns. -/
  head : H
  /-- The total. -/
  totalAmount : Numeric 18 2
  /-- The lines. -/
  lines : List Line

/-- The rows that a new document refers to. -/
structure DocumentRefs where
  /-- The numbers that are taken. -/
  taken : String → Bool
  /-- The vendors. -/
  vendor : Uuid → Bool
  /-- The SKUs. -/
  sku : Uuid → Bool
  /-- The invoices. -/
  invoice : Uuid → Bool

/-- `_to_uuid(arg) if arg else None`. -/
def optionalUuid (arg : Option IdArg) : Except ServiceError (Option Uuid) :=
  match nonEmpty arg with
  | none => .ok none
  | some arg =>
    match arg.uuid? with
    | some id => .ok (some id)
    | none => .error .valueError

/-- `datetime.fromisoformat(arg).date() if arg else None`. -/
def optionalDate (arg : Option DateArg) : Except ServiceError (Option ℤ) :=
  match arg.filter fun arg => arg.text ≠ "" with
  | none => .ok none
  | some arg =>
    match arg.day? with
    | some day => .ok (some day)
    | none => .error .valueError

/-- The foreign key of a row. -/
def checkForeignKey (isKey : Uuid → Bool) (id : Option Uuid) : Except ServiceError Unit :=
  if id.all isKey then .ok () else .error .integrityError

/-- The unique number of a document. -/
def storeNumber (refs : DocumentRefs) (number : String) : Except ServiceError String := do
  let number ← storeText 50 number
  if refs.taken number then .error .integrityError else .ok number

/-- The SKU of a line. -/
def lineSku (hasSku : Bool) (data : LineData) : Except ServiceError (Option Uuid) :=
  if hasSku then optionalUuid data.skuId else .ok none

/-- A line of a document. -/
def newLine (refs : DocumentRefs) (hasSku : Bool) (data : LineData) : Except ServiceError Line := do
  let skuId ← lineSku hasSku data
  let description ← data.description.mapM (storeText 255)
  let quantity ← storeNumeric data.quantity
  let unitPrice ← storeNumeric data.unitPrice
  checkForeignKey refs.sku skuId
  return { skuId, description, quantity, unitPrice }

/-- `total += line.quantity * line.unit_price`, over the lines. -/
def linesTotal (lines : List LineData) : ℚ :=
  lines.foldl (fun total line => total + line.quantity * line.unitPrice) 0

/-- A document: its header is flushed first, the lines and the total are stored by the commit. -/
def createDocument {H : Type} (refs : DocumentRefs) (hasSku : Bool) (head : Except ServiceError H)
    (lines : List LineData) : Except ServiceError (Document H) := do
  let head ← head
  let stored ← lines.mapM (newLine refs hasSku)
  let totalAmount ← storeNumeric (linesTotal lines)
  return { head, totalAmount, lines := stored }

/-- The columns of a document. -/
inductive Head
  /-- `PurchaseOrder`. -/
  | purchaseOrder (poNumber : String) (vendorId : Option Uuid) (expectedDate : Option ℤ)
    (notes : Option String)
  /-- `Invoice`. -/
  | invoice (invoiceNumber entityType : String) (entityId : Option Uuid)
    (issueDate dueDate : Option ℤ) (notes : Option String)
  /-- `CreditMemo`. -/
  | creditMemo (creditMemoNumber : String) (invoiceId : Option Uuid) (entityType : String)
    (entityId : Option Uuid) (issueDate : Option ℤ) (reason : String) (notes : Option String)

/-- The payload of `create_purchase_order`. -/
structure PurchaseOrderData where
  /-- The entry `po_number`. -/
  poNumber : String
  /-- The entry `vendor_id`. -/
  vendorId : Option IdArg := none
  /-- The entry `expected_date`. -/
  expectedDate : Option DateArg := none
  /-- The entry `notes`. -/
  notes : Option String := some ""
  /-- The entry `lines`. -/
  lines : List LineData := []

/-- `create_purchase_order`. -/
def createPurchaseOrder (refs : DocumentRefs) (data : PurchaseOrderData) :
    Except ServiceError (Document Head) :=
  createDocument refs true (do
    let vendorId ← optionalUuid data.vendorId
    let expectedDate ← optionalDate data.expectedDate
    let poNumber ← storeNumber refs data.poNumber
    checkForeignKey refs.vendor vendorId
    return .purchaseOrder poNumber vendorId expectedDate data.notes) data.lines

/-- The payload of `create_invoice`. -/
structure InvoiceData where
  /-- The entry `invoice_number`. -/
  invoiceNumber : String
  /-- The entry `entity_type`. -/
  entityType : String
  /-- The entry `entity_id`. -/
  entityId : Option IdArg := none
  /-- The entry `issue_date`. -/
  issueDate : Option DateArg := none
  /-- The entry `due_date`. -/
  dueDate : Option DateArg := none
  /-- The entry `notes`. -/
  notes : Option String := some ""
  /-- The entry `lines`. -/
  lines : List LineData := []

/-- `create_invoice`. -/
def createInvoice (refs : DocumentRefs) (data : InvoiceData) :
    Except ServiceError (Document Head) :=
  createDocument refs false (do
    let entityId ← optionalUuid data.entityId
    let issueDate ← optionalDate data.issueDate
    let dueDate ← optionalDate data.dueDate
    let invoiceNumber ← storeNumber refs data.invoiceNumber
    let entityType ← storeText 20 data.entityType
    return .invoice invoiceNumber entityType entityId issueDate dueDate data.notes) data.lines

/-- The payload of `create_credit_memo`. -/
structure CreditMemoData where
  /-- The entry `credit_memo_number`. -/
  creditMemoNumber : String
  /-- The entry `invoice_id`. -/
  invoiceId : Option IdArg := none
  /-- The entry `entity_type`. -/
  entityType : String
  /-- The entry `entity_id`. -/
  entityId : Option IdArg := none
  /-- The entry `issue_date`. -/
  issueDate : Option DateArg := none
  /-- The entry `reason`. -/
  reason : String := ""
  /-- The entry `notes`. -/
  notes : Option String := some ""
  /-- The entry `lines`. -/
  lines : List LineData := []

/-- `create_credit_memo`. -/
def createCreditMemo (refs : DocumentRefs) (data : CreditMemoData) :
    Except ServiceError (Document Head) :=
  createDocument refs false (do
    let invoiceId ← optionalUuid data.invoiceId
    let entityId ← optionalUuid data.entityId
    let issueDate ← optionalDate data.issueDate
    let creditMemoNumber ← storeNumber refs data.creditMemoNumber
    let entityType ← storeText 20 data.entityType
    checkForeignKey refs.invoice invoiceId
    return .creditMemo creditMemoNumber invoiceId entityType entityId issueDate data.reason
      data.notes) data.lines

/-- A call of one of the three. -/
inductive DocumentCall
  | purchaseOrder (data : PurchaseOrderData)
  | invoice (data : InvoiceData)
  | creditMemo (data : CreditMemoData)

/-- What a call stores. -/
def DocumentCall.create (refs : DocumentRefs) : DocumentCall → Except ServiceError (Document Head)
  | purchaseOrder data => createPurchaseOrder refs data
  | invoice data => createInvoice refs data
  | creditMemo data => createCreditMemo refs data

/-- The lines of a call. -/
def DocumentCall.lines : DocumentCall → List LineData
  | purchaseOrder data => data.lines
  | invoice data => data.lines
  | creditMemo data => data.lines

/-! ### The stored total and the stored lines -/

/-- The stored total is that of the stored lines, rounded to two decimals. -/
def Document.TotalMatches {H : Type} (document : Document H) : Prop :=
  document.totalAmount.toRat = Numeric.rounded 2
    (document.lines.map fun line => line.quantity.toRat * line.unitPrice.toRat).sum

/-- The product of a line, as its quantity and its price are stored. -/
def LineData.stored (line : LineData) : ℚ :=
  Numeric.rounded 4 line.quantity * Numeric.rounded 4 line.unitPrice

/-- What the product of a line loses by the rounding of the quantity and of the price. -/
def LineData.error (line : LineData) : ℚ :=
  (line.quantity - Numeric.rounded 4 line.quantity) * line.unitPrice +
    Numeric.rounded 4 line.quantity * (line.unitPrice - Numeric.rounded 4 line.unitPrice)

/-- **The errors do not lead out of the cent**: they add up to less than what lies between the total
of the stored lines and the next half cent.  A half cent belongs to the cent that is farther from
zero. -/
def StaysInCent (lines : List LineData) : Prop :=
  let stored := (lines.map LineData.stored).sum
  let errors := (lines.map LineData.error).sum
  let cents := roundHalfAway (stored * 10 ^ 2)
  let low := (cents - 1 / 2) / 10 ^ 2 - stored
  let high := (cents + 1 / 2) / 10 ^ 2 - stored
  (if 0 < cents then low ≤ errors else low < errors) ∧
    if cents < 0 then errors ≤ high else errors < high

instance (lines : List LineData) : Decidable (StaysInCent lines) :=
  inferInstanceAs (Decidable (ite _ _ _ ∧ ite _ _ _))

/-! ### The total of the given lines -/

theorem foldl_linesTotal (lines : List LineData) (start : ℚ) :
    lines.foldl (fun total line => total + line.quantity * line.unitPrice) start =
      start + ((lines.map LineData.stored).sum + (lines.map LineData.error).sum) := by
  induction lines generalizing start with
  | nil => simp
  | cons line lines ih =>
    rw [List.foldl_cons, ih, List.map_cons, List.map_cons, List.sum_cons, List.sum_cons,
      LineData.stored, LineData.error]
    ring

/-- The total is that of the stored lines and of the errors. -/
theorem linesTotal_eq (lines : List LineData) :
    linesTotal lines = (lines.map LineData.stored).sum + (lines.map LineData.error).sum := by
  rw [linesTotal, foldl_linesTotal, zero_add]

theorem newLine_product {refs : DocumentRefs} {hasSku : Bool} {data : LineData} {line : Line}
    (h : newLine refs hasSku data = .ok line) :
    line.quantity.toRat * line.unitPrice.toRat = data.stored := by
  obtain ⟨skuId, -, h⟩ := bind_eq_ok_iff.1 h
  obtain ⟨description, -, h⟩ := bind_eq_ok_iff.1 h
  obtain ⟨quantity, hquantity, h⟩ := bind_eq_ok_iff.1 h
  obtain ⟨unitPrice, hunitPrice, h⟩ := bind_eq_ok_iff.1 h
  obtain ⟨_, -, h⟩ := bind_eq_ok_iff.1 h
  cases h
  rw [LineData.stored, Numeric.toRat_eq_rounded (storeNumeric_eq_ok_iff.1 hquantity),
    Numeric.toRat_eq_rounded (storeNumeric_eq_ok_iff.1 hunitPrice)]

theorem newLines_products {refs : DocumentRefs} {hasSku : Bool} {data : List LineData}
    {lines : List Line} (h : data.mapM (newLine refs hasSku) = .ok lines) :
    lines.map (fun line => line.quantity.toRat * line.unitPrice.toRat) =
      data.map LineData.stored := by
  induction data generalizing lines with
  | nil =>
    cases h
    rfl
  | cons line data ih =>
    rw [List.mapM_cons] at h
    obtain ⟨first, hfirst, h⟩ := bind_eq_ok_iff.1 h
    obtain ⟨rest, hrest, h⟩ := bind_eq_ok_iff.1 h
    cases h
    rw [List.map_cons, List.map_cons, newLine_product hfirst, ih hrest]

/-- The cent to which the total of the lines is rounded. -/
theorem staysInCent_iff {lines : List LineData} : StaysInCent lines ↔
    let total := (lines.map LineData.stored).sum + (lines.map LineData.error).sum
    let cents := roundHalfAway ((lines.map LineData.stored).sum * 10 ^ 2)
    (if 0 < cents then (cents : ℚ) - 1 / 2 ≤ total * 10 ^ 2
      else (cents : ℚ) - 1 / 2 < total * 10 ^ 2) ∧
      if cents < 0 then total * 10 ^ 2 ≤ (cents : ℚ) + 1 / 2
      else total * 10 ^ 2 < (cents : ℚ) + 1 / 2 := by
  have hpow : (0 : ℚ) < 10 ^ 2 := by norm_num
  unfold StaysInCent
  simp only [sub_le_iff_le_add', sub_lt_iff_lt_add', le_sub_iff_add_le', lt_sub_iff_add_lt',
    div_le_iff₀ hpow, div_lt_iff₀ hpow, le_div_iff₀ hpow, lt_div_iff₀ hpow]

/-- The stored total matches the stored lines exactly if the errors stay in the cent. -/
theorem totalMatches_createDocument {H : Type} {refs : DocumentRefs} {hasSku : Bool}
    {head : Except ServiceError H} {lines : List LineData} {document : Document H}
    (h : createDocument refs hasSku head lines = .ok document) :
    document.TotalMatches ↔ StaysInCent lines := by
  obtain ⟨_, -, h⟩ := bind_eq_ok_iff.1 h
  obtain ⟨stored, hstored, h⟩ := bind_eq_ok_iff.1 h
  obtain ⟨total, htotal, h⟩ := bind_eq_ok_iff.1 h
  cases h
  rw [Document.TotalMatches, Numeric.toRat_eq_rounded (storeNumeric_eq_ok_iff.1 htotal),
    newLines_products hstored, linesTotal_eq, Numeric.rounded_eq_rounded_iff, roundHalfAway_eq_iff]
  exact staysInCent_iff.symm

/-- The stored total of a document matches its stored lines exactly if the errors stay in the
cent. -/
theorem totalMatches_iff {refs : DocumentRefs} {call : DocumentCall} {document : Document Head}
    (h : call.create refs = .ok document) : document.TotalMatches ↔ StaysInCent call.lines := by
  cases call with
  | purchaseOrder data => exact totalMatches_createDocument h
  | invoice data => exact totalMatches_createDocument h
  | creditMemo data => exact totalMatches_createDocument h

/-- Lines with at most four decimals have no errors. -/
theorem staysInCent_of_onGrid {lines : List LineData}
    (h : ∀ line ∈ lines, OnGrid 4 line.quantity ∧ OnGrid 4 line.unitPrice) :
    StaysInCent lines := by
  have herrors : (lines.map LineData.error).sum = 0 := by
    refine List.sum_eq_zero fun x hx => ?_
    obtain ⟨line, hline, rfl⟩ := List.mem_map.1 hx
    rw [LineData.error, Numeric.rounded_of_onGrid (h line hline).1,
      Numeric.rounded_of_onGrid (h line hline).2]
    ring
  rw [staysInCent_iff, herrors, add_zero]
  exact roundHalfAway_eq_iff.1 rfl

/-! ### Two purchase orders -/

/-- The number of an order is free, and there is nothing to refer to. -/
def noRefs : DocumentRefs where
  taken := fun _ => false
  vendor := fun _ => false
  sku := fun _ => false
  invoice := fun _ => false

/-- A purchase order with one line. -/
def oneLine (quantity unitPrice : ℚ) : DocumentCall :=
  .purchaseOrder { poNumber := "PO-1", lines := [{ quantity, unitPrice }] }

theorem exists_create (call : DocumentCall) (h : (call.create noRefs).toBool = true) :
    ∃ document, call.create noRefs = .ok document := by
  cases hcreate : call.create noRefs with
  | ok document => exact ⟨document, rfl⟩
  | error e =>
    rw [hcreate] at h
    cases h

/-- Two and a half pieces. -/
theorem oneLine_totalMatches : ∃ document, (oneLine (5 / 2) 10).create noRefs = .ok document ∧
    document.TotalMatches := by
  obtain ⟨document, hcreate⟩ := exists_create (oneLine (5 / 2) 10) (by decide +kernel)
  exact ⟨document, hcreate, (totalMatches_iff hcreate).2 (by decide +kernel)⟩

/-- A quantity with five decimals: the total is 0.04, and the line has nothing. -/
theorem fiveDecimals_not_totalMatches : ∃ document,
    (oneLine (4 / 100000) 1000).create noRefs = .ok document ∧ ¬ document.TotalMatches := by
  obtain ⟨document, hcreate⟩ := exists_create (oneLine (4 / 100000) 1000) (by
    decide +kernel)
  have hlines : ¬ StaysInCent [{ quantity := 4 / 100000, unitPrice := 1000 }] := by decide +kernel
  exact ⟨document, hcreate, (totalMatches_createDocument hcreate).not.2 hlines⟩

end Wms

end OmsWmsTms
