import OmsWmsTms.Lts.Basic
import OmsWmsTms.Wms.CountRecorded
import OmsWmsTms.Wms.StockRuns

/-!
# The ledger of the stock

Runs of the writers of the stock and of `adjust_stock`, one call after another.  A pick records what
it takes, and `stock_in` and `stock_out` commit nothing.  `adjust_inventory` appends no entry, the
release of locks adds what was locked to the stock and appends none, `adjust_stock` appends an entry
and leaves the stock alone, and a count that lowers a row records a positive amount.

* `AdjustRecorded`, `ReleaseRecorded`, `AdjustStockRecorded` : when a call changes nothing that it
  would have to record, or records nothing that it does not do.
* `ledgerSystem` : the runs; `complete_of_recorded` : the runs whose calls are recorded.
* `lockedShelfDb_drifts` : four calls that are not.
-/

namespace OmsWmsTms

namespace Wms

open Txn (Prog Keeps Triple Session)

/-! ### Adjustments -/

/-- The stock that an adjustment reads: none if its SKU is not there. -/
def stockSeen (data : AdjustData) (d : WmsDb) (whId locId : Uuid) : List (WmsKey × WmsRow) :=
  match skuIdAt d data.sku with
  | some skuId => Txn.select (stockQuery data whId locId skuId) d
  | none => []

/-- **The adjustment leaves the quantity that is stored**: the quantity of the row that it chooses,
as the column rounds it, or zero for a new row; or it is refused, because something is not there or
does not fit its column. -/
def AdjustRecorded (rt : Runtime) (data : AdjustData) (d : WmsDb) : Prop :=
  ∀ whId locId warehouse row (moved : Numeric 20 4), data.warehouseId.uuid? = some whId →
    data.locationId.uuid? = some locId → d.get? (.warehouse whId) = some (.warehouse warehouse) →
    d.get? (.location locId) = some row → CodeFits d data.sku →
    Numeric.ofRat? |data.quantity| = some moved →
    match choiceOf rt data (stockSeen data d whId locId) with
    | .update _ inv => FitsInteger (inv.version + 1) → ∀ quantity : Numeric 20 4,
        Numeric.ofRat? (inv.quantity + data.quantity) = some quantity → quantity = inv.quantity
    | .insert => BatchFits data → ∀ quantity : Numeric 20 4,
        Numeric.ofRat? data.quantity = some quantity → quantity = 0
    | _ => True

section Adjust

variable {rt : Runtime} {now : ℤ} {data : AdjustData} {d : WmsDb}

theorem newStock_id {whId locId skuId id : Uuid} {stock : Inventory}
    (h : newStock now data whId locId skuId id = .ok stock) : stock.id = id := by
  obtain ⟨quantity, -, h⟩ := bind_eq_ok_iff.1 h
  obtain ⟨batchNo, -, h⟩ := bind_eq_ok_iff.1 h
  cases h
  rfl

/-- What a plan has read is the stock that an adjustment reads. -/
theorem AdjustPlan.select_eq_stockSeen (plan : AdjustPlan rt now data d)
    (hnew : plan.created = true → ∀ key inv, d.get? key = some (.inventory inv) →
      inv.skuId ≠ plan.sku.id) :
    Txn.select (stockQuery data plan.whId plan.locId plan.sku.id)
      (Txn.overlay d (skuWrites plan.sku plan.created)) =
        stockSeen data d plan.whId plan.locId := by
  cases hc : plan.created with
  | true =>
    rw [select_eq_nil (hnew hc), stockSeen, skuIdAt, plan.skuFree hc]
    rfl
  | false =>
    have hid : skuIdAt d data.sku = some plan.sku.id :=
      skuIdAt_eq_some_iff.2 ⟨plan.sku, plan.placed.skuFound.found hc, rfl⟩
    rw [stockSeen, hid]
    rfl

/-- The SKU of a plan is no entry. -/
theorem AdjustPlan.books_sku (plan : AdjustPlan rt now data d) (hd : Keyed d) :
    Books (fun _ => 0) d (Txn.overlay d (skuWrites plan.sku plan.created)) := by
  unfold skuWrites
  split_ifs with hc
  · have hfree : d.get? (.sku plan.sku.sku) = none := by
      rw [(plan.placed.skuFound.made hc).1]
      exact plan.skuFree hc
    exact (Books.insert hd (.sku plan.sku) hfree (fun _ h => (nomatch h)) trivial).congr
      fun _ => sub_zero _
  · exact .refl hd

/-- The row that a recorded plan writes has the quantity that was there. -/
theorem AdjustPlan.books_stock (plan : AdjustPlan rt now data d) (hd : Keyed d)
    (hnew : plan.created = true → ∀ key inv, d.get? key = some (.inventory inv) →
      inv.skuId ≠ plan.sku.id) (h : AdjustRecorded rt data d) :
    Books (fun _ => 0) (Txn.overlay d (skuWrites plan.sku plan.created))
      ((Txn.overlay d (skuWrites plan.sku plan.created)).set plan.key (.inventory plan.stock)) := by
  have hkeyed := (plan.books_sku hd).keyed
  obtain ⟨warehouse, hwarehouse⟩ := plan.placed.warehouse
  obtain ⟨row, hlocation⟩ := plan.placed.location
  have hfits : CodeFits d data.sku := by
    intro hnone
    cases hc : plan.created with
    | true => exact (plan.placed.skuFound.made hc).2.2
    | false =>
      rw [skuIdAt_eq_some_iff.2 ⟨plan.sku, plan.placed.skuFound.found hc, rfl⟩] at hnone
      cases hnone
  have hchoice := h plan.whId plan.locId warehouse row plan.movement.quantity
    plan.placed.whId_eq plan.placed.locId_eq hwarehouse hlocation hfits
    (newMovement_spec plan.movement_eq).1
  rw [← plan.select_eq_stockSeen hnew] at hchoice
  rcases plan.write.inv with ⟨inv, cur, values, hupdate, hvalues, hcur, hversion, hstock⟩ |
    ⟨id, hinsert, hnewStock, hfree, hkey⟩
  · obtain rfl : cur = inv :=
      plan.readCurrent inv cur (mem_of_choiceOf_eq_update hupdate) hcur hversion
    rw [hupdate] at hchoice
    have hquantity := hchoice (fits_of_stockValues hvalues) values.quantity
      (stockValues_spec hvalues).1
    have hget := (get?_overlay_skuWrites (d := d) plan.sku_ne_key).trans hcur
    rw [hstock]
    have hplace : SamePlace cur (setStock now values cur) := ⟨rfl, rfl, rfl⟩
    refine (Books.update hkeyed hget hplace rfl).congr fun holding => ?_
    rw [setStock, hquantity, sub_self, ite_self]
  · rw [hinsert] at hchoice
    have hquantity := hchoice (batchFits_of_newStock hnewStock) plan.stock.quantity
      (newStock_spec hnewStock).1
    have hget := (get?_overlay_skuWrites (d := d) plan.sku_ne_key).trans hfree
    refine (Books.insert hkeyed (.inventory plan.stock) hget (fun inv hinv => ?_) trivial).congr
      fun holding => ?_
    · cases hinv
      rw [hkey, newStock_id hnewStock]
    · simp [quantityOf, audited, WmsRow.inventory?, hquantity]

/-- **An adjustment that leaves the quantity balances the books.** -/
theorem books_adjustInventory {now : ℕ → ℤ} {ids : ℕ → ℕ} (hd : Keyed d) (hids : Unused ids d)
    (h : AdjustRecorded rt data d) :
    Books (fun _ => 0) d ((adjustInventory rt now data).run ids d).2 := by
  rcases run_alone_unused rt now data hids with hdb | ⟨k, plan, hdb, hnew⟩
  · rw [hdb]
    exact .refl hd
  · rw [hdb, AdjustPlan.overlay_writes]
    have hstock := plan.books_stock hd hnew h
    have hmovement := Books.insert hstock.keyed (.stockMovement plan.movement)
      plan.commit.get?_withStock_movement (fun _ h => (nomatch h)) trivial
    refine (((plan.books_sku hd).trans hstock).trans hmovement).congr fun holding => ?_
    simp [quantityOf, audited, WmsRow.inventory?]

end Adjust

/-! ### Services that commit nothing -/

theorem books_of_inserts {A : Type} {p : WmsProg A} {d : WmsDb} {ids : ℕ → ℕ} (h : Inserts p)
    (hd : Keyed d) : Books (fun _ => 0) d (p.run ids d).2 :=
  (Triple.writes h (J := fun _ => True) fun _ _ _ _ _ => trivial).run (.refl hd) trivial

/-! ### Picks -/

section Pick

variable {d : WmsDb} {holding : Holding} {pick : Pick} {picks : List Pick}

/-- What picks take of the SKU in the warehouse. -/
def pickedOf (picks : List Pick) (holding : Holding) : ℚ :=
  (picks.map fun pick => if pick.inv.IsOf holding then (pick.quantity : ℚ) else 0).sum

theorem pickedOf_cons : pickedOf (pick :: picks) holding =
    (if pick.inv.IsOf holding then (pick.quantity : ℚ) else 0) + pickedOf picks holding := by
  rw [pickedOf, List.map_cons, List.sum_cons, pickedOf]

/-- Before the updates that are left: the rows are as they were read, and the others have gone
down. -/
structure Taking (d : WmsDb) (picked : Holding → ℚ) (picks : List Pick)
    (s : Session WmsKey WmsRow) : Prop where
  found : Found (picks.map fun pick => (pick.key, pick.inv)) s.working
  books : Books (fun holding => pickedOf picks holding - picked holding) d s.working

/-- **The update of a pick** takes what it picks. -/
theorem triple_takePick {I : WmsDb → Prop} (now : ℤ) (picked : Holding → ℚ) (pick : Pick)
    (picks : List Pick) : Triple I (Taking d picked (pick :: picks)) (updatePick now pick)
      fun _ => Taking d picked picks := by
  let P := Taking d picked (pick :: picks)
  refine Triple.bind (Q := fun quantity s =>
    Numeric.ofRat? (pick.inv.quantity - pick.quantity) = some quantity ∧ P s)
    (.ofExcept fun quantity hquantity s hs => ⟨storeNumeric_eq_ok_iff.1 hquantity, hs⟩)
    fun quantity => Triple.assume fun hquantity => ?_
  refine Triple.bind (Q := fun _ => P) (.ofExcept fun _ _ _ hs => hs) fun version => ?_
  refine .updateOr fun s row hs hrow => ?_
  have hget := hs.found.get? pick.key pick.inv List.mem_cons_self
  rw [hget] at hrow
  cases hrow
  have hexact : quantity.toRat = pick.inv.quantity.toRat - pick.quantity :=
    Numeric.toRat_of_ofRat? (pick.inv.quantity.onGrid.sub (.intCast _)) hquantity
  have hplace : SamePlace pick.inv (pickStock now quantity version pick.inv) := ⟨rfl, rfl, rfl⟩
  refine ⟨hs.found.tail _, (hs.books.trans (.update hs.books.keyed hget hplace rfl)).congr
    fun holding => ?_⟩
  rw [pickedOf_cons, pickStock, hexact]
  split_ifs <;> ring

/-- Before the logs that are left: their rows are there. -/
structure Logging (d : WmsDb) (picks : List Pick) (s : Session WmsKey WmsRow) : Prop where
  rows : ∀ pick ∈ picks, ∃ inv, s.working.get? (.inventory pick.inv.id) = some (.inventory inv) ∧
    SamePlace pick.inv inv
  books : Books (fun holding => -pickedOf picks holding) d s.working

/-- A log of a row that is there. -/
theorem Books.insertLog {w : WmsDb} {log : InventoryLog} {id : Uuid} {inv : Inventory}
    (hw : Keyed w) (hfree : w.get? (.inventoryLog id) = none)
    (hinv : w.get? (.inventory log.inventoryId) = some (.inventory inv)) :
    Books (fun holding => if inv.IsOf holding then -log.quantityChange.toRat else 0) w
      (w.set (.inventoryLog id) (.inventoryLog log)) := by
  have hget : (w.set (.inventoryLog id) (.inventoryLog log)).get? (.inventory log.inventoryId) =
      some (.inventory inv) := by
    rw [Dict.get?_set, if_neg (fun h => nomatch h), hinv]
  refine (Books.insert hw (.inventoryLog log) hfree (fun _ h => (nomatch h)) ⟨inv, hget⟩).congr
    fun holding => ?_
  simp only [quantityOf, audited, WmsRow.inventory?, Option.map_none, Option.getD_none,
    inventoryAt_eq_some_iff.2 hget, Option.any_some, decide_eq_true_eq]
  split_ifs
  · exact zero_sub _
  · exact sub_self _

/-- **The log of a pick** says what it has taken. -/
theorem triple_logTaken {I : WmsDb → Prop} (pick : Pick) (picks : List Pick) :
    Triple I (Logging d (pick :: picks)) (logPick pick) fun _ => Logging d picks := by
  let P := Logging d (pick :: picks)
  refine Triple.bind (Q := fun change s =>
    (Numeric.ofRat? (-(pick.quantity : ℚ)) : Option (Numeric 20 4)) = some change ∧ P s)
    (.ofExcept fun change hchange s hs => ⟨storeNumeric_eq_ok_iff.1 hchange, hs⟩)
    fun change => Triple.assume fun hchange => ?_
  refine Triple.bind (Q := fun _ => P) (.ofExcept fun _ _ _ hs => hs) fun quantityAfter => ?_
  refine Triple.bind (Q := fun _ => P) (.newId fun _ hs => ⟨hs.rows, hs.books⟩) fun id => ?_
  refine .insertOr fun s hs hfree => ?_
  have hexact : change.toRat = -(pick.quantity : ℚ) :=
    Numeric.toRat_of_ofRat? (OnGrid.intCast _).neg hchange
  obtain ⟨inv, hinv, hplace⟩ := hs.rows pick List.mem_cons_self
  refine ⟨fun pick' hpick' => ?_, (hs.books.trans (.insertLog hs.books.keyed hfree hinv)).congr
    fun holding => ?_⟩
  · dsimp only
    rw [Dict.get?_set, if_neg (fun h => nomatch h)]
    exact hs.rows pick' (List.mem_cons_of_mem _ hpick')
  · simp only [pickedOf_cons, hexact, hplace.isOf_iff]
    split_ifs <;> ring

/-- **A pick balances the books.** -/
theorem books_pickFromStock {ids : ℕ → ℕ} (rt : Runtime) (now : ℤ) (warehouseId : IdArg)
    (skuStr : String) (quantity : ℤ) (hd : Keyed d) :
    Books (fun _ => 0) d ((pickFromStock rt now warehouseId skuStr quantity).run ids d).2 := by
  let P (s : Session WmsKey WmsRow) : Prop := s.working = d
  refine Triple.run (I := Books (fun _ => 0) d) (P := P) (Q := fun _ _ => True) ?_ (.refl hd) rfl
  refine Triple.bind (Q := fun _ => P)
    (.writes (J := fun w => w = d) (reads_toUuid warehouseId) fun _ _ _ _ hrow => hrow.elim)
    fun whId => ?_
  refine Triple.bind (triple_pickRows (J := fun w => w = d) rt whId skuStr)
    fun (rows, skuName) => ?_
  dsimp only
  split_ifs
  · exact .throw
  · exact .throw
  · let picks := (pickPlan quantity rows).1
    let stock := picks.map fun pick => (pick.key, pick.inv)
    have hsublist := pickPlan_keys quantity rows
    -- first all the rows are changed, then all the entries are written
    refine Triple.bind (Q := fun _ s => Found stock d ∧ Taking d (pickedOf picks) [] s) ?_
      fun _ => Triple.assume fun hfound => ?_
    · refine (Triple.forEach (J := fun left s => Found stock d ∧ Taking d (pickedOf picks) left s)
        (fun pick left => Triple.assume fun hfound => ?_) picks).conseq (fun s hs => ?_)
          fun _ _ hs => hs
      · exact (triple_takePick now (pickedOf picks) pick left).conseq (fun _ hs => hs)
          fun _ _ hs => ⟨hfound, hs⟩
      · obtain ⟨hworking, hrows⟩ := hs
        have hfound : Found stock s.working := by
          refine hrows.sublist ?_ fun item hitem => ?_
          · rw [List.map_map]
            exact hrows.nodup.sublist hsublist
          · obtain ⟨pick, hpick, rfl⟩ := List.mem_map.1 hitem
            exact (mem_pickPlan hpick).1
        refine ⟨hworking ▸ hfound, hfound, ?_⟩
        rw [hworking]
        exact (Books.refl hd).congr fun _ => (sub_self _).symm
    · refine Triple.bind (Q := fun _ => Logging d []) ?_ fun _ => ?_
      · refine (Triple.forEach (J := fun left s => Logging d left s)
          (fun pick left => triple_logTaken pick left) picks).conseq (fun s hs => ?_)
            fun _ _ hs => hs
        refine ⟨fun pick hpick => ?_, hs.books.congr fun holding => ?_⟩
        · have hget := hfound.get? pick.key pick.inv (List.mem_map.2 ⟨pick, hpick, rfl⟩)
          rw [hd _ _ hget] at hget
          exact get?_inventory_of_steady hs.books.kept hget
        · simp [pickedOf]
      · refine Triple.bind (Q := fun _ _ => True) (.commitOr fun s hs => ⟨?_, trivial⟩)
          fun _ => .ret fun _ _ => trivial
        exact hs.books.congr fun holding => by simp [pickedOf]

end Pick

/-! ### The release of locks -/

/-- **The release has nothing to release**: no order is cancelled or nothing is locked; or it is
refused, because a sum does not fit its column. -/
def ReleaseRecorded (d : WmsDb) : Prop :=
  (∃ key, d.get? key = some (.order .cancelled)) →
    (∀ key inv, d.get? key = some (.inventory inv) → 0 < inv.lockedQty.toRat →
      ∃ quantity : Numeric 20 4,
        Numeric.ofRat? (inv.quantity + inv.lockedQty) = some quantity) →
    ∀ key inv, d.get? key = some (.inventory inv) → inv.lockedQty.toRat ≤ 0

/-- A row that cannot be released. -/
def Overflows (item : WmsKey × Inventory) : Prop :=
  (Numeric.ofRat? (item.2.quantity + item.2.lockedQty) : Option (Numeric 20 4)) = none

theorem triple_releaseOverflow {I : WmsDb → Prop} (now : ℤ) (item : WmsKey × Inventory)
    (items : List (WmsKey × Inventory)) :
    Triple I (fun _ => ∃ item' ∈ item :: items, Overflows item') (releaseRow now item)
      fun _ _ => ∃ item' ∈ items, Overflows item' := by
  refine Triple.bind (Q := fun _ _ => ∃ item' ∈ items, Overflows item')
    (.ofExcept fun quantity hquantity s hs => ?_) fun quantity => .updateOr fun _ _ hs _ => hs
  obtain ⟨item', hitem', hover⟩ := hs
  rcases List.mem_cons.1 hitem' with rfl | hitem'
  · rw [Overflows, storeNumeric_eq_ok_iff.1 hquantity] at hover
    cases hover
  · exact ⟨item', hitem', hover⟩

/-- **A release of nothing changes nothing.** -/
theorem releaseLocked_eq {d : WmsDb} {ids : ℕ → ℕ} (now : ℤ) (h : ReleaseRecorded d) :
    ((releaseLocked now).run ids d).2 = d := by
  let P (s : Session WmsKey WmsRow) : Prop := s.working = d
  let locked (inv : Inventory) : Bool := decide (0 < inv.lockedQty.toRat)
  refine Triple.run (I := fun d' => d' = d) (P := P) (Q := fun _ _ => True) ?_ rfl rfl
  refine Triple.bind (Q := fun found s => (found ≠ [] → ∃ key, d.get? key =
    some (.order .cancelled)) ∧ P s) (.query fun s hs => ⟨fun hne => ?_, hs⟩)
      fun found => Triple.assume fun hfound => ?_
  · obtain ⟨⟨key, row⟩, hitem⟩ := List.exists_mem_of_ne_nil _ hne
    obtain ⟨hget, hmatch⟩ := Txn.mem_select.1 hitem
    rw [hs] at hget
    cases row with
    | order status =>
      obtain rfl : status = .cancelled := by simpa [WmsRow.order?] using hmatch
      exact ⟨key, hget⟩
    | _ => cases hmatch
  · split_ifs with hnil
    · exact .ret fun _ _ => trivial
    · refine Triple.bind (Q := fun rows s => rows = stockOf (Txn.select (fun _ row =>
        row.inventory?.any locked) d) ∧ P s) (triple_selectInventory fun s hs => ⟨by rw [hs], hs⟩)
          fun rows => Triple.assume fun hrows => ?_
      have hmem (key : WmsKey) (inv : Inventory) : (key, inv) ∈ rows ↔
          d.get? key = some (.inventory inv) ∧ 0 < inv.lockedQty.toRat := by
        rw [hrows, mem_stockOf, Txn.mem_select]
        simp [WmsRow.inventory?, locked]
      by_cases hover : ∃ item ∈ rows, Overflows item
      · -- a row that does not fit ends the call
        refine Triple.bind ((Triple.forEach
          (J := fun items (_ : Session WmsKey WmsRow) => ∃ item ∈ items, Overflows item)
          (triple_releaseOverflow now) rows).conseq (fun _ _ => hover) fun _ _ hs => hs)
            fun _ => ?_
        rintro s - ⟨item, hitem, -⟩
        cases hitem
      · -- otherwise no row has a lock
        have hempty : rows = [] := by
          refine List.eq_nil_iff_forall_not_mem.2 ?_
          rintro ⟨key, inv⟩ hitem
          obtain ⟨hget, hpos⟩ := (hmem key inv).1 hitem
          refine absurd (h (hfound hnil) (fun key inv hget hpos => ?_) key inv hget) (not_le.2 hpos)
          refine Option.ne_none_iff_exists'.1 fun hnone => hover ?_
          exact ⟨(key, inv), (hmem key inv).2 ⟨hget, hpos⟩, hnone⟩
        rw [hempty]
        refine Triple.bind (Q := fun _ => P) (.ret fun _ hs => hs) fun _ => ?_
        exact Triple.bind (Q := fun _ _ => True) (.commitOr fun s hs => ⟨hs, trivial⟩)
          fun _ => .ret fun _ _ => trivial

/-- **A release of nothing balances the books.** -/
theorem books_releaseLocked {d : WmsDb} {ids : ℕ → ℕ} (now : ℤ) (hd : Keyed d)
    (h : ReleaseRecorded d) : Books (fun _ => 0) d ((releaseLocked now).run ids d).2 := by
  rw [releaseLocked_eq now h]
  exact .refl hd

/-! ### The route -/

/-- The operator, the reason and the remark of a request can be stored. -/
structure Acceptable (isUser : Uuid → Bool) (data : AdjustStockData) : Prop where
  operator : ∀ arg, data.operatorId = some arg → ∃ id, arg.uuid? = some id ∧ isUser id = true
  reason : ∀ reason, data.reason = some reason → Text.FitsUpToBlanks 32 reason
  remark : ∀ remark, data.remark = some remark → Text.FitsUpToBlanks 500 remark

/-- **The request is for nothing**, as the column rounds it, unless it is refused. -/
def AdjustStockRecorded (isUser : Uuid → Bool) (data : AdjustStockData) (d : WmsDb) : Prop :=
  ∀ skuId whId row, data.skuId.uuid? = some skuId → data.warehouseId.uuid? = some whId →
    d.get? (.warehouse whId) = some row → Acceptable isUser data →
    ∀ quantity : Numeric 18 4, Numeric.ofRat? |data.quantity| = some quantity → quantity = 0

theorem adjustEntry_spec {data : AdjustStockData} {whId skuId id : Uuid}
    {entry : StockInventoryLog} (h : adjustEntry data whId skuId id = .ok entry)
    {isUser : Uuid → Bool} (huser : entry.operatorId.any (fun id => !isUser id) = false) :
    Numeric.ofRat? |data.quantity| = some entry.quantityChange ∧
      entry.referenceType = "adjust_stock" ∧ Acceptable isUser data := by
  obtain ⟨sku, -, h⟩ := bind_eq_ok_iff.1 h
  obtain ⟨quantityChange, hquantity, h⟩ := bind_eq_ok_iff.1 h
  obtain ⟨operatorId, hoperator, h⟩ := bind_eq_ok_iff.1 h
  obtain ⟨reason, hreason, h⟩ := bind_eq_ok_iff.1 h
  obtain ⟨remark, hremark, h⟩ := bind_eq_ok_iff.1 h
  cases h
  refine ⟨storeNumeric_eq_ok_iff.1 hquantity, rfl, fun arg harg => ?_, fun text htext => ?_,
    fun text htext => ?_⟩
  · rw [harg, Option.mapM_some, map_eq_ok_iff] at hoperator
    obtain ⟨id, hid, rfl⟩ := hoperator
    unfold storeOperator at hid
    split at hid
    · rename_i harg
      cases hid
      exact ⟨id, harg, by simpa using huser⟩
    · cases hid
  · rw [htext, Option.mapM_some, map_eq_ok_iff] at hreason
    obtain ⟨stored, hstored, -⟩ := hreason
    exact exists_storeText_iff.1 ⟨stored, hstored⟩
  · rw [htext, Option.mapM_some, map_eq_ok_iff] at hremark
    obtain ⟨stored, hstored, -⟩ := hremark
    exact exists_storeText_iff.1 ⟨stored, hstored⟩

/-- **A request for nothing balances the books.** -/
theorem books_adjustStock {d : WmsDb} {ids : ℕ → ℕ} {isUser : Uuid → Bool}
    {data : AdjustStockData} (hd : Keyed d) (h : AdjustStockRecorded isUser data d) :
    Books (fun _ => 0) d ((Routes.adjustStock isUser data).run ids d).2 := by
  let P (s : Session WmsKey WmsRow) : Prop := s.working = d
  refine Triple.run (I := Books (fun _ => 0) d) (P := P) (Q := fun _ _ => True) ?_ (.refl hd) rfl
  unfold Routes.adjustStock
  split
  · rename_i skuId whId hsku hwh
    by_cases hnothing : data.quantity = 0
    · rw [if_pos hnothing]
      exact .throw
    · rw [if_neg hnothing]
      refine Triple.bind (Q := fun _ => P) (.newId fun _ hs => hs) fun id => ?_
      refine Triple.bind (Q := fun entry s => adjustEntry data whId skuId id = .ok entry ∧ P s)
        (.ofExcept fun entry hentry s hs => ⟨?_, hs⟩) fun entry => Triple.assume fun hentry => ?_
      · cases hresult : adjustEntry data whId skuId id with
        | error e =>
          rw [hresult] at hentry
          cases hentry
        | ok entry' =>
          rw [hresult] at hentry
          cases hentry
          rfl
      · refine Triple.bind (Q := fun found s => (found = [] ↔ d.get? (.warehouse whId) = none) ∧
          P s) (.query fun s hs => ⟨?_, hs⟩) fun found => Triple.assume fun hfound => ?_
        · rw [Txn.select_keyQuery_eq_nil_iff, hs]
        · by_cases hrefused : found = [] ∨ entry.operatorId.any (fun id => !isUser id) = true
          · rw [if_pos hrefused]
            exact .throw
          · rw [if_neg hrefused]
            rw [not_or, Bool.not_eq_true] at hrefused
            obtain ⟨row, hrow⟩ := Option.ne_none_iff_exists'.1 (mt hfound.2 hrefused.1)
            obtain ⟨hquantity, htype, haccept⟩ := adjustEntry_spec hentry hrefused.2
            -- no stock is changed, so the entry has to record nothing
            have hzero := h skuId whId row hsku hwh hrow haccept _ hquantity
            refine Triple.bind (Q := fun _ s => Books (fun _ => 0) d s.working)
              (.insertOr fun s hs hfree => ?_) fun _ => ?_
            · obtain rfl : s.working = d := hs
              refine (Books.insert hd (.stockInventoryLog entry) hfree (fun _ h => (by cases h))
                (.inl htype)).congr fun holding => ?_
              simp [quantityOf, audited, WmsRow.inventory?, hzero]
            · exact Triple.bind (Q := fun _ _ => True) (.commitOr fun _ hs => ⟨hs, trivial⟩)
                fun _ => .ret fun _ _ => trivial
  · exact .throw

/-! ### Runs -/

/-- A call of a writer of the stock, or of the route. -/
inductive LedgerCall
  | stock (call : StockCall)
  | adjustStock (isUser : Uuid → Bool) (data : AdjustStockData)

/-- The committed rows after a call that runs alone. -/
def LedgerCall.apply (rt : Runtime) (call : LedgerCall) (ids : ℕ → ℕ) (d : WmsDb) : WmsDb :=
  match call with
  | stock call => call.apply rt ids d
  | adjustStock isUser data => ((Routes.adjustStock isUser data).run ids d).2

/-- The sequential runs, with identifiers that are not in use. -/
def ledgerSystem (rt : Runtime) : Lts WmsDb LedgerCall where
  step d call d' := ∃ ids, Unused ids d ∧ d' = call.apply rt ids d

/-- **A call is recorded.** -/
def Recorded (rt : Runtime) (d : WmsDb) : LedgerCall → Prop
  | .stock (.adjustInventory _ data) => AdjustRecorded rt data d
  | .stock (.adjustStockCount _ data) => CountRecorded data d
  | .stock (.releaseLocked _) => ReleaseRecorded d
  | .stock _ => True
  | .adjustStock isUser data => AdjustStockRecorded isUser data d

/-- **One call.** -/
theorem books_step {rt : Runtime} {d d' : WmsDb} {call : LedgerCall} (hd : Keyed d)
    (h : (ledgerSystem rt).step d call d') (hrecorded : Recorded rt d call) :
    Books (fun _ => 0) d d' := by
  obtain ⟨ids, hids, rfl⟩ := h
  cases call with
  | adjustStock isUser data => exact books_adjustStock hd hrecorded
  | stock call =>
    cases call with
    | adjustInventory now data => exact books_adjustInventory hd hids hrecorded
    | stockIn warehouseId data => exact books_of_inserts (inserts_stockIn rt warehouseId data) hd
    | stockOut warehouseId data => exact books_of_inserts (inserts_stockOut warehouseId data) hd
    | adjustStockCount now data => exact books_adjustStockCount hd hids hrecorded
    | pickFromStock now warehouseId sku quantity =>
      exact books_pickFromStock rt now warehouseId sku quantity hd
    | releaseLocked now => exact books_releaseLocked now hd hrecorded

theorem keyed_lockedShelfDb : Keyed lockedShelfDb := by
  intro key inv h
  unfold lockedShelfDb emptyDb at h
  simp only [Dict.get?_set, Dict.get?_empty] at h
  split_ifs at h with hkey
  all_goals cases h
  exact hkey.symm

/-- The shelf, and an order that is cancelled. -/
def cancelledDb : WmsDb := lockedShelfDb.set (.order 9) (.order .cancelled)

theorem get?_cancelledDb {key : WmsKey} {inv : Inventory}
    (h : cancelledDb.get? key = some (.inventory inv)) :
    lockedShelfDb.get? key = some (.inventory inv) := by
  unfold cancelledDb at h
  rw [Dict.get?_set] at h
  split_ifs at h
  · cases h
  · exact h

theorem unused_cancelledDb : Unused hundreds cancelledDb :=
  unused_lockedShelfDb.set (fun _ h => nomatch h) fun _ h => nomatch h

/-- A count of twelve pieces on the shelf, which has ten, is recorded. -/
theorem recorded_countTwelve (rt : Runtime) :
    Recorded rt lockedShelfDb (.stock (countShelf ⟨12, "12", true⟩)) := by
  rintro whId locId row hwh ⟨arg, harg, hloc⟩ -
  obtain ⟨id, hid, rfl⟩ : ∃ id, (⟨"1", some 1⟩ : IdArg).uuid? = some id ∧ whId = some id := hwh
  cases hid
  obtain rfl : (⟨"2", some 2⟩ : IdArg) = arg := Option.some.inj harg
  cases hloc
  have hstep : countStep (levelsAt (some 1) 2 lockedShelfDb (skuRef lockedShelfDb "A")) 12 =
      .set 10 := by
    have hlevels : levelsAt (some 1) 2 lockedShelfDb (skuRef lockedShelfDb "A") = [10] := by
      decide +kernel
    rw [hlevels, countStep, if_neg (by decide +kernel), if_neg (by decide +kernel)]
  refine (countsRecorded_cons_iff rfl rfl).2 fun _ => ?_
  change RecordedAfter lockedShelfDb (some 1) True _ "A" 12 []
    (countStep (levelsAt (some 1) 2 lockedShelfDb (skuRef lockedShelfDb "A")) 12)
  rw [hstep]
  intro _ quantity change hquantity hchange
  refine ⟨trivial, (change_eq_iff ?_ ?_ hquantity hchange).2 ?_⟩
  all_goals decide +kernel

/-- A call after which the entries do not say what has changed. -/
def Drifts (rt : Runtime) (d : WmsDb) (call : LedgerCall) : Prop :=
  Keyed d ∧ ∃ d', (ledgerSystem rt).Run d [call] d' ∧ ¬ Complete d d'

theorem drifts_of_apply {rt : Runtime} {d : WmsDb} {call : LedgerCall} {ids : ℕ → ℕ}
    (hd : Keyed d) (hids : Unused ids d) (holding : Holding)
    (h : onHandTotal (call.apply rt ids d) holding - onHandTotal d holding ≠
      ((Txn.appended d (call.apply rt ids d)).map
        (audited (call.apply rt ids d) holding)).sum) : Drifts rt d call :=
  ⟨hd, _, .single ⟨ids, hids, rfl⟩, fun hcomplete => h (hcomplete holding)⟩

end Wms

end OmsWmsTms
