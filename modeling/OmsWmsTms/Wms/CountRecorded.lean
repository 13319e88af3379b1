import OmsWmsTms.Wms.AuditTrail

/-!
# Counts that are recorded

`adjust_stock_count` logs the amount of a difference without its sign.  The entry says what has
happened to the stock when the count raises a row, or makes one, and not when it lowers a row.

* `CountsRecorded` : the condition on the entries of a payload, one after another, from the
  quantities at the location.
* `CountRecorded` : the condition on a call; `books_adjustStockCount` : what such a call does.
-/

namespace OmsWmsTms

namespace Wms

open Txn (Prog Keeps Triple Session)

/-! ### The condition -/

/-- What a code means: the SKU that is there, or one that will be made for it. -/
abbrev SkuRef := Uuid ⊕ String

/-- What a code means, on the rows before the call. -/
def skuRef (d : WmsDb) (code : String) : SkuRef :=
  match skuIdAt d code with
  | some id => .inl id
  | none => .inr code

/-- The rows of a SKU that a count reads. -/
def countRows (whId : Option Uuid) (locId skuId : Uuid) (d : WmsDb) : List (WmsKey × Inventory) :=
  stockOf (Txn.select (fun _ row => row.inventory?.any (countCond whId locId skuId)) d)

/-- The quantities of these rows. -/
def levelsAt (whId : Option Uuid) (locId : Uuid) (d : WmsDb) : SkuRef → List ℚ
  | .inl skuId => (countRows whId locId skuId d).map fun item => item.2.quantity.toRat
  | .inr _ => []

/-- What becomes of a count. -/
inductive CountStep
  /-- It agrees with the stock. -/
  | keep
  /-- It is refused. -/
  | refuse
  /-- It replaces a quantity. -/
  | set (level : ℚ)

/-- What becomes of a count, from the quantities of the rows. -/
def countStep (levels : List ℚ) (actual : ℚ) : CountStep :=
  match levels with
  | [] => if |actual| < tolerance then .keep else .set 0
  | [level] =>
    if |actual - level| < tolerance then .keep
    else if actual < level ∧ actual < 0 then .refuse
    else .set level
  | _ :: _ :: _ => .refuse

/-- A SKU that is not there can be made for the code. -/
def CodeFits (d : WmsDb) (code : String) : Prop := skuIdAt d code = none → code.length ≤ 50

/-- There is a warehouse for the log. -/
def HasWarehouse (d : WmsDb) (whId : Option Uuid) : Prop :=
  ∃ id row, whId = some id ∧ d.get? (.warehouse id) = some row

/-- **Every count is logged with the change that it makes**, unless one of them is refused: then the
call commits nothing.  Of the counts so far, `ok` says that they were. -/
def CountsRecorded (d : WmsDb) (whId : Option Uuid) (ok : Prop) (levels : SkuRef → List ℚ) :
    List CountItem → Prop
  | [] => ok
  | item :: items =>
    match item.actual, item.skuStr with
    | none, _ => True
    | some actual, none => |actual.value| < tolerance → CountsRecorded d whId ok levels items
    | some actual, some code =>
      match countStep (levels (skuRef d code)) actual.value with
      | .refuse => True
      | .keep => CodeFits d code → CountsRecorded d whId ok levels items
      | .set level => CodeFits d code → HasWarehouse d whId →
        ∀ (quantity : Numeric 20 4) (change : Numeric 18 4),
          Numeric.ofRat? actual.value = some quantity →
          Numeric.ofRat? |actual.value - level| = some change →
          CountsRecorded d whId
            (ok ∧ change.toRat = quantity.toRat - Numeric.rounded 4 level)
            (Function.update levels (skuRef d code) [actual.value]) items

/-- **The counts of a call are recorded**, at the warehouse and the location that it names. -/
def CountRecorded (data : CountData) (d : WmsDb) : Prop :=
  ∀ whId locId row, CountWarehouse data d whId → CountLocation data locId →
    d.get? (.location locId) = some row →
    CountsRecorded d whId True (levelsAt whId locId d) data.countResults

/-- What a column keeps of its own value. -/
theorem rounded_toRat {p s : ℕ} (x : Numeric p s) : Numeric.rounded s x.toRat = x.toRat :=
  (Numeric.toRat_eq_rounded x.ofRat?_toRat).symm

/-- **Of quantities with at most four decimals, those that do not fall are recorded.** -/
theorem change_eq_iff {actual level : ℚ} {quantity : Numeric 20 4} {change : Numeric 18 4}
    (hactual : OnGrid 4 actual) (hlevel : OnGrid 4 level)
    (hquantity : Numeric.ofRat? actual = some quantity)
    (hchange : Numeric.ofRat? |actual - level| = some change) :
    change.toRat = quantity.toRat - Numeric.rounded 4 level ↔ level ≤ actual := by
  have hrounded : Numeric.rounded 4 level = level := by
    obtain ⟨n, hn⟩ := onGrid_iff.1 hlevel
    rw [Numeric.rounded, hn, roundHalfAway_intCast, ← hn, mul_div_cancel_right₀]
    positivity
  rw [Numeric.toRat_of_ofRat? hactual hquantity,
    Numeric.toRat_of_ofRat? (hactual.sub hlevel).abs hchange, hrounded, abs_eq_self, sub_nonneg]

/-! ### The choice of a count -/

/-- What is done with the rows that were read is what becomes of the count. -/
theorem chooseCount_spec (seen : SetQuantities) (code : String) (actual : QuantityArg)
    (rows : List (WmsKey × Inventory)) :
    match chooseCount seen code actual rows,
      countStep (rows.map fun item => (systemQty seen item.1 item.2).value) actual.value with
    | .keep, step => step = .keep
    | .raise _, _ => True
    | .insert, step => rows = [] ∧ step = .set 0
    | .change key diff, step => ∃ inv, rows = [(key, inv)] ∧
        step = .set (systemQty seen key inv).value ∧
        diff = actual.value - (systemQty seen key inv).value := by
  match rows with
  | [] =>
    dsimp only [chooseCount, countStep, List.map_nil]
    split_ifs
    · trivial
    · exact ⟨rfl, rfl⟩
  | [(key, inv)] =>
    simp only [chooseCount, countStep, List.map_cons, List.map_nil]
    by_cases htolerance : |actual.value - (systemQty seen key inv).value| < tolerance
    · simp only [if_pos htolerance]
    · simp only [if_neg htolerance]
      by_cases hpos : 0 < actual.value - (systemQty seen key inv).value
      · -- an increase is never refused
        have hnot : ¬ (actual.value < (systemQty seen key inv).value ∧ actual.value < 0) :=
          fun h => (sub_pos.1 hpos).not_gt h.1
        simp only [if_pos hpos, if_neg hnot]
        exact ⟨inv, rfl, rfl, rfl⟩
      · simp only [if_neg hpos]
        by_cases hlt : (systemQty seen key inv).value <
            |actual.value - (systemQty seen key inv).value|
        · simp only [if_pos hlt]
        · have hnot : ¬ (actual.value < (systemQty seen key inv).value ∧ actual.value < 0) := by
            rw [abs_of_nonpos (not_lt.1 hpos)] at hlt
            rintro ⟨-, hneg⟩
            linarith
          simp only [if_neg hlt, if_neg hnot]
          exact ⟨inv, rfl, rfl, rfl⟩
  | _ :: _ :: _ => trivial

/-! ### The books of a count -/

section Rows

variable {whId : Option Uuid} {locId skuId : Uuid} {d : WmsDb} {key : WmsKey} {inv : Inventory}
  {row : WmsRow}

theorem mem_countRows : (key, inv) ∈ countRows whId locId skuId d ↔
    inventoryAt d key = some inv ∧ countCond whId locId skuId inv = true := by
  rw [countRows, mem_stockOf, Txn.mem_select, inventoryAt_eq_some_iff]
  rfl

theorem skuId_of_countCond (h : countCond whId locId skuId inv = true) : inv.skuId = skuId := by
  simp only [countCond, decide_eq_true_eq] at h
  exact h.2.2

theorem warehouseId_of_countCond (h : countCond whId locId skuId inv = true) :
    whId = some inv.warehouseId := by
  simp only [countCond, decide_eq_true_eq] at h
  exact h.1.symm

/-- A new row that is no stock. -/
theorem countRows_set_of_new (hfree : d.get? key = none) (hrow : row.inventory? = none) :
    countRows whId locId skuId (d.set key row) = countRows whId locId skuId d := by
  unfold countRows
  rw [Txn.select_set_of_forall_false]
  · intro r hr
    rw [hfree] at hr
    cases hr
  · rw [hrow]
    rfl

/-- A row of another SKU. -/
theorem countRows_set_of_other
    (hold : ∀ inv, d.get? key = some (.inventory inv) → inv.skuId ≠ skuId)
    (hnew : inv.skuId ≠ skuId) :
    countRows whId locId skuId (d.set key (.inventory inv)) = countRows whId locId skuId d := by
  have hfalse {inv : Inventory} (h : inv.skuId ≠ skuId) : countCond whId locId skuId inv = false :=
    Bool.eq_false_iff.2 fun hcond => h (skuId_of_countCond hcond)
  unfold countRows
  rw [Txn.select_set_of_forall_false]
  · intro r hr
    cases r with
    | inventory inv' => exact hfalse (hold inv' hr)
    | _ => rfl
  · exact hfalse hnew

/-- A row that is the only one of its SKU. -/
theorem countRows_set (honly : ∀ item ∈ countRows whId locId skuId d, item.1 = key)
    (hcounted : countCond whId locId skuId inv = true) :
    countRows whId locId skuId (d.set key (.inventory inv)) = [(key, inv)] := by
  have hselect : Txn.select (fun _ row => row.inventory?.any (countCond whId locId skuId))
      (d.set key (.inventory inv)) = [(key, .inventory inv)] := by
    refine Txn.select_eq_singleton ?_ hcounted fun k r hr hmatch => ?_
    · rw [Dict.get?_set, if_pos rfl]
    · rw [Dict.get?_set] at hr
      split_ifs at hr with hk
      · exact hk.symm
      · cases r with
        | inventory inv' =>
          exact honly (k, inv') (mem_countRows.2 ⟨inventoryAt_eq_some_iff.2 hr, hmatch⟩)
        | _ => cases hmatch
  rw [countRows, hselect]
  rfl

end Rows

/-- The books before an entry, and what the session knows: `levels` are the quantities of the rows
as the session takes them, and `off` is what the entries so far have not recorded. -/
structure CountBooks (d : WmsDb) (whId : Option Uuid) (locId : Uuid) (levels : SkuRef → List ℚ)
    (off : Holding → ℚ) (seen : SetQuantities) (s : Session WmsKey WmsRow) : Prop where
  books : Books off d s.working
  unused : Unused s.ids s.working
  rows : ∀ code skuId, skuIdAt s.working code = some skuId → levels (skuRef d code) =
    (countRows whId locId skuId s.working).map fun item => (systemQty seen item.1 item.2).value
  free : ∀ code, skuIdAt s.working code = none → levels (skuRef d code) = []
  same : ∀ code code' skuId, skuIdAt s.working code = some skuId →
    (skuRef d code = skuRef d code' ↔ skuIdAt s.working code' = some skuId)
  fits : ∀ code skuId, skuIdAt s.working code = some skuId → CodeFits d code
  rounds : ∀ key quantity inv, seen.lookup key = some quantity →
    inventoryAt s.working key = some inv → inv.quantity.toRat = Numeric.rounded 4 quantity.value
  warehouse : ∀ id, s.working.get? (.warehouse id) = d.get? (.warehouse id)

theorem skuRef_of_none {d : WmsDb} {code : String} (h : skuIdAt d code = none) :
    skuRef d code = .inr code := by
  rw [skuRef, h]

theorem skuRef_of_some {d : WmsDb} {code : String} {skuId : Uuid}
    (h : skuIdAt d code = some skuId) : skuRef d code = .inl skuId := by
  rw [skuRef, h]

theorem eq_of_skuRef_eq_inr {d : WmsDb} {code code' : String} (h : skuRef d code = .inr code') :
    code = code' := by
  unfold skuRef at h
  split at h
  · cases h
  · exact Sum.inr.inj h

/-- The books before the first entry. -/
theorem countBooks_start {s : Session WmsKey WmsRow} (hd : Keyed s.working)
    (hids : Unused s.ids s.working) (whId : Option Uuid) (locId : Uuid) :
    CountBooks s.working whId locId (levelsAt whId locId s.working) (fun _ => 0) [] s where
  books := .refl hd
  unused := hids
  rows code skuId hid := by
    rw [skuRef_of_some hid]
    rfl
  free code hnone := by
    rw [skuRef_of_none hnone]
    rfl
  same code code' skuId hid := by
    rw [skuRef_of_some hid]
    constructor
    · intro h
      cases hid' : skuIdAt s.working code' with
      | none =>
        rw [skuRef_of_none hid'] at h
        cases h
      | some skuId' =>
        rw [skuRef_of_some hid'] at h
        exact congrArg some (Sum.inl.inj h).symm
    · intro h
      rw [skuRef_of_some h]
  fits code skuId hid hnone := by
    rw [hid] at hnone
    cases hnone
  rounds _ _ _ hlookup := nomatch hlookup
  warehouse _ := rfl

namespace CountBooks

variable {d : WmsDb} {whId : Option Uuid} {locId skuId : Uuid} {levels : SkuRef → List ℚ}
  {off off' : Holding → ℚ} {seen : SetQuantities} {s : Session WmsKey WmsRow} {code : String}
  {key : WmsKey} {row : WmsRow}

theorem shift (hs : CountBooks d whId locId levels off seen s) :
    CountBooks d whId locId levels off seen { s with ids := fun n => s.ids (n + 1) } :=
  ⟨hs.books, hs.unused.shift, hs.rows, hs.free, hs.same, hs.fits, hs.rounds, hs.warehouse⟩

/-- What the session takes for the quantity of a row is rounded to the quantity. -/
theorem rounded_systemQty (hs : CountBooks d whId locId levels off seen s) {inv : Inventory}
    (hinv : inventoryAt s.working key = some inv) :
    Numeric.rounded 4 (systemQty seen key inv).value = inv.quantity.toRat := by
  unfold systemQty
  cases hlookup : seen.lookup key with
  | none => exact rounded_toRat inv.quantity
  | some quantity => exact (hs.rounds key quantity inv hlookup hinv).symm

/-- A new SKU. -/
theorem makeSku (hs : CountBooks d whId locId levels off seen s)
    (hfree : s.working.get? (.sku code) = none) (hfits : code.length ≤ 50) :
    CountBooks d whId locId levels off seen ⟨s.committed,
      s.working.set (.sku code) (.sku ⟨s.ids 0, code, code⟩), fun n => s.ids (n + 1)⟩ := by
  have hnone : skuIdAt s.working code = none := by
    rw [skuIdAt, hfree]
    rfl
  have hbefore : skuIdAt d code = none := by
    cases hid : skuIdAt d code with
    | none => rfl
    | some skuId =>
      rw [skuIdAt_of_steady hs.books.kept hid] at hnone
      cases hnone
  have hids (c : String) : skuIdAt (s.working.set (.sku code) (.sku ⟨s.ids 0, code, code⟩)) c =
      if code = c then some (s.ids 0) else skuIdAt s.working c := by
    rw [skuIdAt_set]
    exact if_congr (by simp) rfl rfl
  have hnew (c : String) : skuIdAt s.working c ≠ some (s.ids 0) := hs.unused.skuIdAt_ne c 0
  have hrows (skuId : Uuid) : countRows whId locId skuId
      (s.working.set (.sku code) (.sku ⟨s.ids 0, code, code⟩)) =
        countRows whId locId skuId s.working := countRows_set_of_new hfree rfl
  have hbooks : Books (fun _ => 0) s.working
      (s.working.set (.sku code) (.sku ⟨s.ids 0, code, code⟩)) :=
    (Books.insert hs.books.keyed (.sku _) hfree (fun _ h => (by cases h)) trivial).congr
      fun _ => sub_zero _
  refine ⟨(hs.books.trans hbooks).congr fun _ => add_zero _,
    hs.unused.shift.set (fun _ h => (by cases h)) fun sku hsku n => ?_,
    fun c skuId hid => ?_, fun c hc => ?_, fun c c' skuId hid => ?_, fun c skuId hid => ?_,
    ?_, fun id => ?_⟩
  · cases hsku
    exact hs.unused.zero_ne n
  · rw [hids] at hid
    rw [hrows]
    split_ifs at hid with hc
    · -- there is no stock of the new SKU
      subst hc
      cases hid
      rw [hs.free code hnone]
      refine (List.map_eq_nil_iff.2 (List.eq_nil_iff_forall_not_mem.2 ?_)).symm
      rintro ⟨key, inv⟩ hitem
      obtain ⟨hinv, hcounted⟩ := mem_countRows.1 hitem
      exact hs.unused.stock 0 key inv (inventoryAt_eq_some_iff.1 hinv) (skuId_of_countCond hcounted)
    · exact hs.rows c skuId hid
  · rw [hids] at hc
    split_ifs at hc
    exact hs.free c hc
  · rw [hids] at hid
    rw [hids]
    split_ifs at hid with hc
    · subst hc
      cases hid
      rw [skuRef_of_none hbefore]
      split_ifs with hc'
      · subst hc'
        exact ⟨fun _ => rfl, fun _ => (skuRef_of_none hbefore).symm⟩
      · exact ⟨fun h => absurd (eq_of_skuRef_eq_inr h.symm).symm hc',
          fun h => absurd h (hnew c')⟩
    · split_ifs with hc'
      · subst hc'
        rw [skuRef_of_none hbefore]
        refine ⟨fun h => absurd (eq_of_skuRef_eq_inr h).symm hc, fun h => ?_⟩
        cases h
        exact absurd hid (hnew c)
      · exact hs.same c c' skuId hid
  · rw [hids] at hid
    split_ifs at hid with hc
    · subst hc
      exact fun _ => hfits
    · exact hs.fits c skuId hid
  · rw [inventoryAt_set_of_new hfree rfl]
    exact hs.rounds
  · rw [Dict.get?_set, if_neg (fun h => by cases h)]
    exact hs.warehouse id

/-- **A row of the SKU is written.** -/
theorem setStock (hs : CountBooks d whId locId levels off seen s)
    (hsku : skuIdAt s.working code = some skuId) {id : Uuid} {inv : Inventory}
    {actual : QuantityArg}
    (honly : ∀ item ∈ countRows whId locId skuId s.working, item.1 = .inventory id)
    (hold : ∀ inv, s.working.get? (.inventory id) = some (.inventory inv) → inv.skuId = skuId)
    (hcounted : countCond whId locId skuId inv = true)
    (hquantity : inv.quantity.toRat = Numeric.rounded 4 actual.value)
    (hbooks : Books off' s.working (s.working.set (.inventory id) (.inventory inv))) :
    CountBooks d whId locId (Function.update levels (skuRef d code) [actual.value])
      (fun holding => off holding + off' holding) ((.inventory id, actual) :: seen)
      { s with working := s.working.set (.inventory id) (.inventory inv) } := by
  have hids : skuIdAt (s.working.set (.inventory id) (.inventory inv)) = skuIdAt s.working :=
    skuIdAt_set_of_ne fun _ h => nomatch h
  have hskuId : inv.skuId = skuId := skuId_of_countCond hcounted
  refine ⟨hs.books.trans hbooks, hs.unused.set (fun inv' hinv' n => ?_) (fun _ h => (nomatch h)),
    fun c skuId' hid => ?_, fun c hc => ?_, fun c c' skuId' => ?_, fun c skuId' => ?_,
    seen_set hs.rounds fun inv' hinv' => ?_, fun id' => ?_⟩
  · cases hinv'
    rw [hskuId]
    exact fun heq => hs.unused.skuIdAt_ne code n (heq ▸ hsku)
  · rw [hids] at hid
    by_cases hc : skuId' = skuId
    · -- a code of the same SKU: the row that is written is its only one
      subst hc
      rw [(hs.same c code skuId' hid).2 hsku, Function.update_self, countRows_set honly hcounted,
        List.map_singleton, systemQty, List.lookup_cons_self, Option.getD_some]
    · -- the rows of another SKU stay as they are
      have hne : skuRef d c ≠ skuRef d code := by
        intro h
        rw [(hs.same c code skuId' hid).1 h] at hsku
        exact hc (Option.some.inj hsku)
      rw [Function.update_of_ne hne, hs.rows c skuId' hid, countRows_set_of_other
        (fun inv' hinv' => (hold inv' hinv').trans_ne (Ne.symm hc)) (hskuId.trans_ne (Ne.symm hc))]
      refine List.map_congr_left fun item hitem => ?_
      obtain ⟨hinv', hcounted'⟩ := mem_countRows.1 hitem
      have hkey : item.1 ≠ .inventory id := by
        intro h
        rw [h] at hinv'
        refine hc ((skuId_of_countCond hcounted').symm.trans ?_)
        exact hold item.2 (inventoryAt_eq_some_iff.1 hinv')
      unfold systemQty
      rw [List.lookup_cons, beq_false_of_ne hkey]
  · rw [hids] at hc
    have hne : skuRef d c ≠ skuRef d code := by
      intro h
      rw [(hs.same code c skuId hsku).1 h.symm] at hc
      cases hc
    rw [Function.update_of_ne hne]
    exact hs.free c hc
  · rw [hids]
    exact hs.same c c' skuId'
  · rw [hids]
    exact hs.fits c skuId'
  · cases hinv'
    exact hquantity
  · rw [Dict.get?_set, if_neg (fun h => nomatch h)]
    exact hs.warehouse id'

/-- A log is written. -/
theorem insertLog (hs : CountBooks d whId locId levels off seen s)
    (hsku : skuIdAt s.working code = some skuId) {log : StockInventoryLog} {id warehouseId : Uuid}
    {change : Numeric 18 4} (hfree : s.working.get? (.stockInventoryLog id) = none)
    (htype : log.referenceType ≠ "adjust_stock") (hcode : log.sku = code)
    (hwh : log.warehouseId = warehouseId) (hchange : log.quantityChange = change) :
    CountBooks d whId locId levels (fun holding => off holding -
        if holding = ⟨warehouseId, skuId⟩ then change.toRat else 0) seen
      { s with working := s.working.set (.stockInventoryLog id) (.stockInventoryLog log) } := by
  have hids : skuIdAt (s.working.set (.stockInventoryLog id) (.stockInventoryLog log)) =
      skuIdAt s.working := skuIdAt_set_of_ne fun _ h => by cases h
  have hsettled : Settled (s.working.set (.stockInventoryLog id) (.stockInventoryLog log))
      (.stockInventoryLog log) := by
    -- the code of the entry is that of a SKU, which has been found or made
    refine .inr ?_
    rw [hids, hcode, hsku]
    exact Option.some_ne_none skuId
  have hbooks := Books.insert hs.books.keyed (.stockInventoryLog log) hfree
    (fun _ h => (by cases h)) hsettled
  refine ⟨(hs.books.trans hbooks).congr fun holding => ?_,
    hs.unused.set (fun _ h => (by cases h)) fun _ h => (by cases h),
    fun c skuId' => ?_, fun c => ?_, fun c c' skuId' => ?_, fun c skuId' => ?_, ?_, fun id' => ?_⟩
  · have hiff : log.IsOf (s.working.set (.stockInventoryLog id) (.stockInventoryLog log)) holding ↔
        holding = ⟨warehouseId, skuId⟩ := by
      obtain ⟨whId', skuId'⟩ := holding
      rw [StockInventoryLog.IsOf, if_neg htype, hids, hcode, hsku, hwh, Holding.mk.injEq,
        Option.some.injEq, eq_comm, eq_comm (a := skuId)]
    simp only [audited, hiff, hchange, quantityOf, WmsRow.inventory?, Option.map_none,
      Option.getD_none]
    ring
  · rw [hids, countRows_set_of_new hfree rfl]
    exact hs.rows c skuId'
  · rw [hids]
    exact hs.free c
  · rw [hids]
    exact hs.same c c' skuId'
  · rw [hids]
    exact hs.fits c skuId'
  · rw [inventoryAt_set_of_new hfree rfl]
    exact hs.rounds
  · rw [Dict.get?_set, if_neg (fun h => by cases h)]
    exact hs.warehouse id'

end CountBooks

/-! ### One entry after another -/

/-- What holds before the entries that are left. -/
def CountLedger (d : WmsDb) (whId : Option Uuid) (locId : Uuid) (items : List CountItem)
    (seen : SetQuantities) (s : Session WmsKey WmsRow) : Prop :=
  ∃ ok levels off, CountsRecorded d whId ok levels items ∧ (ok → ∀ holding, off holding = 0) ∧
    CountBooks d whId locId levels off seen s

/-- Between the write of a row, which has replaced the quantity `level`, and its log. -/
def CountWritten (d : WmsDb) (warehouseId locId skuId : Uuid) (code : String)
    (levels : SkuRef → List ℚ) (off : Holding → ℚ) (level : ℚ) (actual : QuantityArg)
    (quantity : Numeric 20 4) (seen : SetQuantities) (s : Session WmsKey WmsRow) : Prop :=
  skuIdAt s.working code = some skuId ∧
    CountBooks d (some warehouseId) locId (Function.update levels (skuRef d code) [actual.value])
      (fun holding => off holding + if holding = ⟨warehouseId, skuId⟩ then
        quantity.toRat - Numeric.rounded 4 level else 0) seen s

/-- The stock that the count of an entry has read. -/
structure CountReads (d : WmsDb) (whId : Option Uuid) (locId skuId : Uuid) (code : String)
    (levels : SkuRef → List ℚ) (off : Holding → ℚ) (rows : List (WmsKey × Inventory))
    (seen : SetQuantities) (s : Session WmsKey WmsRow) : Prop where
  sku : skuIdAt s.working code = some skuId
  rows_eq : rows = countRows whId locId skuId s.working
  books : CountBooks d whId locId levels off seen s

/-- The condition on the entries that are left, after what becomes of a count. -/
def RecordedAfter (d : WmsDb) (whId : Option Uuid) (ok : Prop) (levels : SkuRef → List ℚ)
    (code : String) (actual : ℚ) (items : List CountItem) : CountStep → Prop
  | .refuse => True
  | .keep => CountsRecorded d whId ok levels items
  | .set level => HasWarehouse d whId → ∀ (quantity : Numeric 20 4) (change : Numeric 18 4),
      Numeric.ofRat? actual = some quantity → Numeric.ofRat? |actual - level| = some change →
      CountsRecorded d whId (ok ∧ change.toRat = quantity.toRat - Numeric.rounded 4 level)
        (Function.update levels (skuRef d code) [actual]) items

/-- The condition on an entry with a quantity and a code. -/
theorem countsRecorded_cons_iff {d : WmsDb} {whId : Option Uuid} {ok : Prop}
    {levels : SkuRef → List ℚ} {item : CountItem} {items : List CountItem} {actual : QuantityArg}
    {code : String} (hactual : item.actual = some actual) (hcode : item.skuStr = some code) :
    CountsRecorded d whId ok levels (item :: items) ↔ (CodeFits d code →
      RecordedAfter d whId ok levels code actual.value items
        (countStep (levels (skuRef d code)) actual.value)) := by
  simp only [CountsRecorded, hactual, hcode]
  cases countStep (levels (skuRef d code)) actual.value with
  | refuse => exact iff_of_true trivial fun _ => trivial
  | keep => exact Iff.rfl
  | set level => exact Iff.rfl

section Entry

variable {I : WmsDb → Prop} {d : WmsDb} {warehouseId locId skuId : Uuid} {levels : SkuRef → List ℚ}
  {off : Holding → ℚ} {seen : SetQuantities} {code : String} {ok : Prop} {items : List CountItem}
  {actual : QuantityArg} {level diff : ℚ} {quantity : Numeric 20 4}
  {rows : List (WmsKey × Inventory)} {s : Session WmsKey WmsRow}

/-- **The log of a count** records the amount of the difference. -/
theorem triple_logWritten (hok : ok → ∀ holding, off holding = 0)
    (hrec : RecordedAfter d (some warehouseId) ok levels code actual.value items (.set level))
    (hquantity : Numeric.ofRat? actual.value = some quantity)
    (hdiff : diff = actual.value - level) :
    Triple I (CountWritten d warehouseId locId skuId code levels off level actual quantity seen)
      (logCount warehouseId code diff)
      fun _ => CountLedger d (some warehouseId) locId items seen := by
  let P := CountWritten d warehouseId locId skuId code levels off level actual quantity seen
  refine Triple.bind (Q := fun text s => code = text ∧ P s)
    (.ofExcept fun text htext s hs => ⟨(storeWhole_eq_ok_iff.1 htext).2, hs⟩) fun text =>
      Triple.assume fun htext => ?_
  refine Triple.bind (Q := fun change s => Numeric.ofRat? |diff| = some change ∧ P s)
    (.ofExcept fun change hchange s hs => ⟨storeNumeric_eq_ok_iff.1 hchange, hs⟩) fun change =>
      Triple.assume fun hchange => ?_
  refine Triple.bind (Q := fun _ s => (∃ row, d.get? (.warehouse warehouseId) = some row) ∧ P s)
    ?_ fun _ => Triple.assume fun ⟨row, hrow⟩ => ?_
  · refine Triple.bind (Q := fun rows s => (rows = [] ↔ d.get? (.warehouse warehouseId) = none) ∧
      P s) (.query fun s hs => ⟨?_, hs⟩) fun rows => Triple.assume fun hrows => ?_
    · -- no count writes a warehouse
      rw [Txn.select_keyQuery_eq_nil_iff, hs.2.warehouse]
    · split_ifs with hnil
      · exact .throw
      · exact .ret fun s hs => ⟨Option.ne_none_iff_exists'.1 (mt hrows.2 hnil), hs⟩
  · refine Triple.bind (Q := fun _ => P) (.newId fun s hs => ⟨hs.1, hs.2.shift⟩) fun id => ?_
    refine .insertOr fun s hs hfree => ⟨_, _, _, hrec ⟨warehouseId, row, rfl, hrow⟩ quantity change
      hquantity (hdiff ▸ hchange), ?_,
      hs.2.insertLog hs.1 hfree (show "stock_count" ≠ "adjust_stock" by decide) htext.symm rfl rfl⟩
    -- a count that is recorded changes the row by what its entry says
    rintro ⟨hok', hchange'⟩ holding
    rw [hok hok' holding, hchange']
    split_ifs <;> ring

/-- What a count that replaces a quantity writes. -/
theorem CountReads.written
    (hs : CountReads d (some warehouseId) locId skuId code levels off rows seen s) {id : Uuid}
    {inv : Inventory} (hquantity : Numeric.ofRat? actual.value = some quantity)
    (honly : ∀ item ∈ rows, item.1 = .inventory id)
    (hold : ∀ inv, s.working.get? (.inventory id) = some (.inventory inv) → inv.skuId = skuId)
    (hcounted : countCond (some warehouseId) locId skuId inv = true)
    (hinv : inv.quantity = quantity)
    (hbooks : Books (fun holding => if holding = ⟨warehouseId, skuId⟩ then
        quantity.toRat - Numeric.rounded 4 level else 0) s.working
      (s.working.set (.inventory id) (.inventory inv))) :
    CountWritten d warehouseId locId skuId code levels off level actual quantity
      ((.inventory id, actual) :: seen)
      { s with working := s.working.set (.inventory id) (.inventory inv) } := by
  have hids : skuIdAt (s.working.set (.inventory id) (.inventory inv)) = skuIdAt s.working :=
    skuIdAt_set_of_ne fun _ h => nomatch h
  refine ⟨?_, hs.books.setStock hs.sku (hs.rows_eq ▸ honly) hold hcounted ?_ hbooks⟩
  · rw [hids]
    exact hs.sku
  · rw [hinv]
    exact Numeric.toRat_eq_rounded hquantity

/-- A row of the SKU in the warehouse. -/
theorem isOf_iff_of_countCond {inv : Inventory} {holding : Holding}
    (h : countCond (some warehouseId) locId skuId inv = true) :
    inv.IsOf holding ↔ holding = ⟨warehouseId, skuId⟩ := by
  have hwh : warehouseId = inv.warehouseId := Option.some.inj (warehouseId_of_countCond h)
  obtain ⟨whId', skuId'⟩ := holding
  rw [Inventory.IsOf, skuId_of_countCond h, ← hwh, Holding.mk.injEq, eq_comm,
    eq_comm (a := skuId)]

theorem CountReads.inserted (now : ℤ)
    (hs : CountReads d (some warehouseId) locId skuId code levels off [] seen s) {id : Uuid}
    (hquantity : Numeric.ofRat? actual.value = some quantity)
    (hfree : s.working.get? (.inventory id) = none) :
    CountWritten d warehouseId locId skuId code levels off 0 actual quantity
      ((.inventory id, actual) :: seen) { s with
        working := s.working.set (.inventory id)
          (.inventory (countedStock now warehouseId locId skuId quantity id)) } := by
  have hcounted : countCond (some warehouseId) locId skuId
      (countedStock now warehouseId locId skuId quantity id) = true := by
    simp [countCond, countedStock]
  refine hs.written hquantity (fun _ h => (by cases h)) (fun inv hinv => ?_) hcounted rfl ?_
  · rw [hfree] at hinv
    cases hinv
  · have hstock := Books.insert hs.books.books.keyed
      (.inventory (countedStock now warehouseId locId skuId quantity id)) hfree
      (fun inv hinv => by cases hinv; rfl) trivial
    refine hstock.congr fun holding => ?_
    have hzero : Numeric.rounded 4 0 = 0 := by simpa using rounded_toRat (0 : Numeric 20 4)
    simp only [quantityOf, audited, WmsRow.inventory?, Option.map_some, Option.getD_some,
      isOf_iff_of_countCond hcounted, hzero, sub_zero]
    rfl

theorem CountReads.changed (now : ℤ) {key : WmsKey} {inv : Inventory}
    (hs : CountReads d (some warehouseId) locId skuId code levels off [(key, inv)] seen s)
    (hquantity : Numeric.ofRat? actual.value = some quantity) :
    s.working.get? key = some (.inventory inv) ∧
    CountWritten d warehouseId locId skuId code levels off (systemQty seen key inv).value actual
      quantity ((key, actual) :: seen)
      { s with working := s.working.set key (.inventory (setCount now quantity inv)) } := by
  obtain ⟨hinv, hcounted⟩ := mem_countRows.1 (hs.rows_eq ▸ List.mem_singleton_self (key, inv))
  have hget := inventoryAt_eq_some_iff.1 hinv
  refine ⟨hget, ?_⟩
  obtain rfl := hs.books.books.keyed key inv hget
  refine hs.written hquantity (fun item hitem => ?_) (fun inv' hinv' => ?_) hcounted rfl ?_
  · rw [List.mem_singleton.1 hitem]
  · rw [hget] at hinv'
    cases hinv'
    exact skuId_of_countCond hcounted
  · have hplace : SamePlace inv (setCount now quantity inv) := ⟨rfl, rfl, rfl⟩
    refine (Books.update hs.books.books.keyed hget hplace rfl).congr fun holding => ?_
    rw [hs.books.rounded_systemQty hinv]
    exact if_congr (isOf_iff_of_countCond hcounted) rfl rfl

/-- What a count does with the rows that it has read. -/
theorem triple_applyReads (now : ℤ) {whId : Option Uuid} (hok : ok → ∀ holding, off holding = 0)
    (hrec : RecordedAfter d whId ok levels code actual.value items
      (countStep (rows.map fun item => (systemQty seen item.1 item.2).value) actual.value)) :
    Triple I (CountReads d whId locId skuId code levels off rows seen)
      (applyCount now whId locId skuId code actual seen (chooseCount seen code actual rows))
      (CountLedger d whId locId items) := by
  have hspec := chooseCount_spec seen code actual rows
  cases hchoice : chooseCount seen code actual rows with
  | raise e => exact .throw
  | keep =>
    rw [hchoice] at hspec
    rw [hspec] at hrec
    exact .ret fun s hs => ⟨ok, levels, off, hrec, hok, hs.books⟩
  | insert =>
    rw [hchoice] at hspec
    obtain ⟨rfl, hstep⟩ := hspec
    rw [hstep] at hrec
    cases whId with
    | none => exact .throw
    | some warehouseId =>
      let P := CountReads d (some warehouseId) locId skuId code levels off [] seen
      refine Triple.bind (Q := fun quantity s => Numeric.ofRat? actual.value = some quantity ∧ P s)
        (.ofExcept fun quantity hquantity s hs => ⟨storeNumeric_eq_ok_iff.1 hquantity, hs⟩)
        fun quantity => Triple.assume fun hquantity => ?_
      refine Triple.bind (Q := fun _ => P)
        (.newId fun s hs => ⟨hs.sku, hs.rows_eq, hs.books.shift⟩) fun id => ?_
      refine Triple.bind (Q := fun _ => CountWritten d warehouseId locId skuId code levels off 0
        actual quantity ((.inventory id, actual) :: seen))
        (.insertOr fun s hs hfree => hs.inserted now hquantity hfree) fun _ => ?_
      exact (triple_logWritten hok hrec hquantity (sub_zero _).symm).bind
        fun _ => .ret fun _ hs => hs
  | change key diff =>
    rw [hchoice] at hspec
    obtain ⟨inv, rfl, hstep, hdiff⟩ := hspec
    rw [hstep] at hrec
    cases whId with
    | none => exact .throw
    | some warehouseId =>
      let P := CountReads d (some warehouseId) locId skuId code levels off [(key, inv)] seen
      refine Triple.bind (Q := fun quantity s => Numeric.ofRat? actual.value = some quantity ∧ P s)
        (.ofExcept fun quantity hquantity s hs => ⟨storeNumeric_eq_ok_iff.1 hquantity, hs⟩)
        fun quantity => Triple.assume fun hquantity => ?_
      refine Triple.bind (Q := fun _ => CountWritten d warehouseId locId skuId code levels off
        (systemQty seen key inv).value actual quantity ((key, actual) :: seen))
        (.updateOr fun s row hs hrow => ?_) fun _ => ?_
      · obtain ⟨hget, hwritten⟩ := hs.changed now hquantity
        rw [hget] at hrow
        cases hrow
        exact hwritten
      · exact (triple_logWritten hok hrec hquantity hdiff).bind fun _ => .ret fun _ hs => hs

/-- **One entry.** -/
theorem triple_countItem_ledger (now : ℤ) (whId : Option Uuid) (locId : Uuid) (item : CountItem)
    (items : List CountItem) (seen : SetQuantities) :
    Triple I (CountLedger d whId locId (item :: items) seen) (countItem now whId locId seen item)
      (CountLedger d whId locId items) := by
  refine Triple.exists_pre fun ok => Triple.exists_pre fun levels => Triple.exists_pre fun off =>
    Triple.assume fun hrec => Triple.assume fun hok => ?_
  unfold countItem
  cases hactual : item.actual with
  | none => exact .throw
  | some actual =>
    cases hcode : item.skuStr with
    | none =>
      simp only [CountsRecorded, hactual, hcode] at hrec
      dsimp only
      split_ifs with htolerance
      · exact .ret fun s hs => ⟨ok, levels, off, hrec htolerance, hok, hs⟩
      · exact .throw
    | some code =>
      rw [countsRecorded_cons_iff hactual hcode] at hrec
      refine Triple.bind (Q := fun answer s => skuIdAt s.working code = some answer.1.id ∧
        CountBooks d whId locId levels off seen s) ?_ fun answer => ?_
      · refine triple_sku (fun s sku hs hsku => ?_) fun s hs hfree hfits => ?_
        · exact ⟨skuIdAt_eq_some_iff.2 ⟨sku, hsku, rfl⟩, hs⟩
        · refine ⟨?_, hs.makeSku hfree hfits⟩
          rw [skuIdAt_set, if_pos rfl]
          rfl
      · obtain ⟨sku, created⟩ := answer
        refine Triple.bind (Q := fun rows s => (CodeFits d code ∧ levels (skuRef d code) =
          rows.map fun item => (systemQty seen item.1 item.2).value) ∧
            CountReads d whId locId sku.id code levels off rows seen s)
          (triple_selectInventory fun s hs => ?_) fun rows => Triple.assume fun hrows => ?_
        · exact ⟨⟨hs.2.fits code sku.id hs.1, hs.2.rows code sku.id hs.1⟩, hs.1, rfl, hs.2⟩
        · rw [hrows.2] at hrec
          exact triple_applyReads now hok (hrec hrows.1)

end Entry

/-! ### The call -/

theorem triple_checkLocation {I : WmsDb → Prop} {P : Session WmsKey WmsRow → Prop} (id : Uuid) :
    Triple I P (checkLocation id)
      fun _ s => (∃ row, s.working.get? (.location id) = some row) ∧ P s := by
  refine Triple.bind (Q := fun rows s => (rows = [] ↔ s.working.get? (.location id) = none) ∧ P s)
    (.query fun s hs => ⟨Txn.select_keyQuery_eq_nil_iff, hs⟩) fun rows => ?_
  cases rows with
  | nil => exact .throw
  | cons => exact .ret fun s hs =>
      ⟨Option.ne_none_iff_exists'.1 (mt hs.1.2 (List.cons_ne_nil _ _)), hs.2⟩

/-- **A call whose counts are recorded balances the books.** -/
theorem books_adjustStockCount {now : ℤ} {data : CountData} {d : WmsDb} {ids : ℕ → ℕ}
    (hd : Keyed d) (hids : Unused ids d) (h : CountRecorded data d) :
    Books (fun _ => 0) d ((adjustStockCount now data).run ids d).2 := by
  let P (s : Session WmsKey WmsRow) : Prop := s.working = d ∧ s.ids = ids
  refine Triple.run (I := Books (fun _ => 0) d) (P := P) (Q := fun _ _ => True) ?_ (.refl hd)
    ⟨rfl, rfl⟩
  refine (triple_countWarehouse fun s hs => hs.1).bind fun whId => Triple.assume fun hwh => ?_
  refine triple_countLocation.bind fun locId => Triple.assume fun hloc => ?_
  refine Triple.bind (Q := fun _ s => (∃ row, d.get? (.location locId) = some row) ∧ P s)
    ((triple_checkLocation locId).conseq (fun _ hs => hs) fun _ s hs => ⟨hs.2.1 ▸ hs.1, hs.2⟩)
    fun _ => Triple.assume fun ⟨row, hrow⟩ => ?_
  split_ifs
  · exact .throw
  · refine Triple.bind (Q := CountLedger d whId locId []) ?_ fun seen => ?_
    · refine (Triple.foldEach (J := fun items seen => CountLedger d whId locId items seen)
        (fun item items seen => triple_countItem_ledger now whId locId item items seen)
          data.countResults []).conseq (fun s hs => ?_) fun _ _ hs => hs
      obtain ⟨committed, working, ids'⟩ := s
      obtain ⟨rfl, rfl⟩ := hs
      exact ⟨True, _, _, h whId locId row hwh hloc hrow, fun _ _ => rfl,
        countBooks_start hd hids whId locId⟩
    · refine Triple.bind (Q := fun _ _ => True) (.commitOr fun s hs => ⟨?_, trivial⟩)
        fun _ => .ret fun _ _ => trivial
      obtain ⟨ok, levels, off, hrec, hok, hs⟩ := hs
      exact hs.books.congr (hok hrec)

end Wms

end OmsWmsTms
