import OmsWmsTms.Wms.AdjustRun

/-!
# What the stock allows

The condition on the rows under which a call of `adjust_inventory` that runs alone does what it was
asked for.  A call that takes stock takes all of it from the first batch, so this batch has to be
large enough.

* `Fulfils` : the condition.
* `Fulfils.plan` : under it there is a plan that makes the identifiers of the call.
* `AdjustPlan.fulfils` : a call that has a plan meets it.
-/

namespace OmsWmsTms

namespace Wms

/-! ### Values -/

/-- The columns of the quantities keep the value exactly. -/
def Storable (x : ℚ) : Prop := ∃ y : Numeric 20 4, y.toRat = x

theorem Storable.onGrid {x : ℚ} (h : Storable x) : OnGrid 4 x := by
  obtain ⟨y, rfl⟩ := h
  exact y.onGrid

theorem Storable.exists_ofRat? {x : ℚ} (h : Storable x) :
    ∃ y : Numeric 20 4, Numeric.ofRat? x = some y := by
  obtain ⟨y, rfl⟩ := h
  exact ⟨y, y.ofRat?_toRat⟩

theorem storable_of_ofRat? {x : ℚ} {y : Numeric 20 4} (hx : OnGrid 4 x)
    (h : Numeric.ofRat? x = some y) : Storable x :=
  ⟨y, Numeric.toRat_of_ofRat? hx h⟩

/-- What lies between zero and a stored value. -/
theorem storable_of_le {x : ℚ} (hx : OnGrid 4 x) (hnonneg : 0 ≤ x) (y : Numeric 20 4)
    (h : x ≤ y.toRat) : Storable x := by
  have hy : |y.toRat| * 10 ^ 4 < 10 ^ 20 := by
    have hunits : |y.toRat| * 10 ^ 4 = ((y.units.natAbs : ℕ) : ℚ) :=
      calc |y.toRat| * 10 ^ 4 = |y.toRat * 10 ^ 4| := by
            rw [abs_mul, abs_of_pos (a := (10 : ℚ) ^ 4) (by positivity)]
        _ = ((y.units.natAbs : ℕ) : ℚ) := by rw [y.toRat_mul_pow, Nat.cast_natAbs, Int.cast_abs]
    rw [hunits]
    exact_mod_cast y.fits
  have hle : |x| ≤ |y.toRat| := abs_le_abs_of_nonneg hnonneg h
  obtain ⟨z, -, hz⟩ := Numeric.exists_ofRat? (p := 20) hx
    ((mul_le_mul_of_nonneg_right hle (by positivity)).trans_lt hy)
  exact ⟨z, hz⟩

/-! ### The condition -/

section Condition

variable (rt : Runtime) (data : AdjustData) (d : WmsDb)

/-- The stock that a call reads. -/
def stockRead (whId locId skuId : Uuid) : List (WmsKey × Inventory) :=
  stockOf (Txn.select (stockQuery data whId locId skuId) d)

/-- The batch of a call fits its column. -/
def BatchFits : Prop := ∀ batchNo, data.batchNo = some batchNo → Text.FitsUpToBlanks 50 batchNo

/-- The stock of the batch can come in: the batch is new, or has one row. -/
def CanPut (whId locId : Uuid) : Prop :=
  (∃ sku, d.get? (.sku data.sku) = some (.sku sku) ∧
    (stockRead data d whId locId sku.id = [] ∧ BatchFits data ∨
      ∃ key inv, stockRead data d whId locId sku.id = [(key, inv)] ∧
        Storable (inv.quantity.toRat + data.quantity) ∧ FitsInteger (inv.version + 1))) ∨
  d.get? (.sku data.sku) = none ∧ data.sku.length ≤ 50 ∧ BatchFits data

/-- The stock can be taken: there is enough of it, and the first batch alone has enough. -/
def CanTake (whId locId : Uuid) : Prop :=
  ∃ sku key inv rest, d.get? (.sku data.sku) = some (.sku sku) ∧
    batchesOf rt data.pickingStrategy (stockRead data d whId locId sku.id) = (key, inv) :: rest ∧
    |data.quantity| ≤ (((key, inv) :: rest).map fun batch => batch.2.available).sum ∧
    |data.quantity| ≤ inv.quantity.toRat ∧ FitsInteger (inv.version + 1)

/-- **The condition under which a call does what it was asked for.** -/
def Fulfils : Prop :=
  Storable |data.quantity| ∧ ∃ whId locId warehouse row,
    data.warehouseId.uuid? = some whId ∧ data.locationId.uuid? = some locId ∧
    d.get? (.warehouse whId) = some (.warehouse warehouse) ∧
    d.get? (.location locId) = some row ∧
    if 0 < data.quantity then CanPut data d whId locId else CanTake rt data d whId locId

end Condition

variable {rt : Runtime} {now : ℤ} {data : AdjustData} {d : WmsDb} {whId locId skuId id : Uuid}
  {rows : List (WmsKey × WmsRow)} {key : WmsKey} {inv : Inventory}

/-! ### What can be stored -/

theorem exists_newMovement (h : Storable |data.quantity|) (whId locId skuId id : Uuid) :
    ∃ movement, newMovement data whId locId skuId id = .ok movement ∧ movement.id = id := by
  obtain ⟨y, hy⟩ := h.exists_ofRat?
  unfold newMovement
  rw [storeNumeric_eq_ok_iff.2 hy]
  exact ⟨_, rfl, rfl⟩

theorem exists_newStock (h : Storable data.quantity) (hbatch : BatchFits data) (now : ℤ)
    (whId locId skuId id : Uuid) : ∃ stock, newStock now data whId locId skuId id = .ok stock := by
  obtain ⟨y, hy⟩ := h.exists_ofRat?
  have hbatchNo : ∃ batchNo, data.batchNo.mapM (storeText 50) = .ok batchNo := by
    cases hb : data.batchNo with
    | none => exact ⟨none, rfl⟩
    | some batchNo =>
      obtain ⟨stored, hstored⟩ := exists_storeText_iff.2 (hbatch _ hb)
      refine ⟨some stored, ?_⟩
      rw [Option.mapM_some, hstored]
      rfl
  obtain ⟨batchNo, hbatchNo⟩ := hbatchNo
  unfold newStock
  rw [storeNumeric_eq_ok_iff.2 hy, hbatchNo]
  exact ⟨_, rfl⟩

theorem batchFits_of_newStock {stock : Inventory}
    (h : newStock now data whId locId skuId id = .ok stock) : BatchFits data := by
  intro batchNo hb
  obtain ⟨quantity, -, h⟩ := bind_eq_ok_iff.1 h
  obtain ⟨stored, hstored, -⟩ := bind_eq_ok_iff.1 h
  rw [hb, Option.mapM_some, map_eq_ok_iff] at hstored
  obtain ⟨text, htext, -⟩ := hstored
  exact exists_storeText_iff.1 ⟨text, htext⟩

theorem exists_stockValues (h : Storable (inv.quantity.toRat + data.quantity))
    (hversion : FitsInteger (inv.version + 1)) : ∃ values, stockValues data inv = .ok values := by
  obtain ⟨y, hy⟩ := h.exists_ofRat?
  unfold stockValues
  rw [storeNumeric_eq_ok_iff.2 hy, storeInt_eq_ok_iff.2 ⟨hversion, rfl⟩]
  exact ⟨_, rfl⟩

theorem fits_of_stockValues {values : StockValues} (h : stockValues data inv = .ok values) :
    FitsInteger (inv.version + 1) := by
  obtain ⟨quantity, -, h⟩ := bind_eq_ok_iff.1 h
  obtain ⟨version, hversion, -⟩ := bind_eq_ok_iff.1 h
  exact (storeInt_eq_ok_iff.1 hversion).1

/-! ### From the condition to a plan -/

/-- Identifiers that no row has. -/
structure Fresh (ids : ℕ → ℕ) (d : WmsDb) : Prop where
  inventory : ∀ n, d.get? (.inventory (ids n)) = none
  movement : ∀ n, d.get? (.stockMovement (ids n)) = none
  sku : ∀ n key inv, d.get? key = some (.inventory inv) → inv.skuId ≠ ids n

/-- There is no stock of a new SKU. -/
theorem select_eq_nil {sku : Oms.Sku} {created : Bool}
    (hsku : ∀ key inv, d.get? key = some (.inventory inv) → inv.skuId ≠ sku.id) :
    Txn.select (stockQuery data whId locId sku.id)
      (Txn.overlay d (skuWrites sku created)) = [] := by
  rw [List.eq_nil_iff_forall_not_mem]
  rintro ⟨key, row⟩ hmem
  obtain ⟨hget, hmatch⟩ := Txn.mem_select.1 hmem
  cases row with
  | inventory inv =>
    exact hsku key inv (get?_of_overlay_skuWrites hget) (place_of_stockQuery hmatch).2.2
  | _ => cases hmatch

section Plan

variable {warehouse : Warehouse} {row : WmsRow} {ids : ℕ → ℕ}
  (hwh : data.warehouseId.uuid? = some whId) (hloc : data.locationId.uuid? = some locId)
  (hwarehouse : d.get? (.warehouse whId) = some (.warehouse warehouse))
  (hlocation : d.get? (.location locId) = some row) (hq : Storable |data.quantity|)
  (hids : Fresh ids d)

include hwh hloc hwarehouse hlocation hq hids

/-- A plan that changes a row. -/
theorem exists_plan_update {sku : Oms.Sku} (hsku : d.get? (.sku data.sku) = some (.sku sku))
    (hchoice : choiceOf rt data (Txn.select (stockQuery data whId locId sku.id) d) =
      .update key inv)
    (hquantity : Storable (inv.quantity.toRat + data.quantity))
    (hversion : FitsInteger (inv.version + 1)) :
    ∃ plan : AdjustPlan rt now data d, plan.Uses ids := by
  obtain ⟨values, hvalues⟩ := exists_stockValues hquantity hversion
  obtain ⟨movement, hmovement, hid⟩ := exists_newMovement hq whId locId sku.id (ids 0)
  have hget : d.get? key = some (.inventory inv) :=
    (Txn.mem_select.1 (mem_of_choiceOf_eq_update hchoice)).1
  refine ⟨{
    whId, locId, sku, created := false, key, stock := setStock now values inv, movement
    placed := ⟨hwh, hloc, ⟨warehouse, hwarehouse⟩, ⟨row, hlocation⟩, fun _ => hsku,
      fun h => (nomatch h)⟩
    skuFree := fun h => (nomatch h)
    write := .update hchoice hvalues hget rfl
    movement_eq := by rw [hid, hmovement]
    movementFree := by rw [hid, hids.movement] }, fun h => (nomatch h), fun hfree => ?_,
    fun _ => hid.symm⟩
  rw [hget] at hfree
  cases hfree

/-- A plan that makes a row. -/
theorem exists_plan_insert {sku : Oms.Sku} {created : Bool} (hpos : 0 < data.quantity)
    (hbatch : BatchFits data) (hsku : SkuFound data sku created d)
    (hskuFree : created = true → d.get? (.sku data.sku) = none ∧ ids 0 = sku.id)
    (hread : stockOf (Txn.select (stockQuery data whId locId sku.id)
      (Txn.overlay d (skuWrites sku created))) = []) :
    ∃ plan : AdjustPlan rt now data d, plan.Uses ids := by
  have hstorable : Storable data.quantity := by rwa [abs_of_pos hpos] at hq
  let offset := if created then 1 else 0
  obtain ⟨stock, hstock⟩ := exists_newStock hstorable hbatch now whId locId sku.id (ids offset)
  obtain ⟨movement, hmovement, hid⟩ := exists_newMovement hq whId locId sku.id (ids (offset + 1))
  have hchoice : choiceOf rt data (Txn.select (stockQuery data whId locId sku.id)
      (Txn.overlay d (skuWrites sku created))) = .insert := by
    rw [choiceOf, if_pos hpos, hread]
    rfl
  exact ⟨{
    whId, locId, sku, created, key := .inventory (ids offset), stock, movement
    placed := ⟨hwh, hloc, ⟨warehouse, hwarehouse⟩, ⟨row, hlocation⟩, hsku⟩
    skuFree := fun hc => (hskuFree hc).1
    write := .insert hchoice hstock (hids.inventory _)
    movement_eq := by rw [hid, hmovement]
    movementFree := by rw [hid, hids.movement] }, fun hc => (hskuFree hc).2,
    fun _ => ⟨rfl, hid.symm⟩, fun hne => absurd (hids.inventory _) hne⟩

end Plan

/-- **Under the condition a call has a plan.** -/
theorem Fulfils.exists_plan (h : Fulfils rt data d) (hq : data.quantity ≠ 0) {ids : ℕ → ℕ}
    (hids : Fresh ids d) (now : ℤ) : ∃ plan : AdjustPlan rt now data d, plan.Uses ids := by
  obtain ⟨hstorable, whId, locId, warehouse, row, hwh, hloc, hwarehouse, hlocation, h⟩ := h
  split_ifs at h with hpos
  · rcases h with ⟨sku, hsku, h⟩ | ⟨hsku, hlength, hbatch⟩
    · rcases h with ⟨hread, hbatch⟩ | ⟨key, inv, hread, hquantity, hversion⟩
      · have hfound : SkuFound data sku false d := ⟨fun _ => hsku, fun h => (nomatch h)⟩
        exact exists_plan_insert hwh hloc hwarehouse hlocation hstorable hids hpos hbatch hfound
          (fun h => (nomatch h)) hread
      · have hchoice : choiceOf rt data (Txn.select (stockQuery data whId locId sku.id) d) =
            .update key inv := by
          rw [choiceOf, if_pos hpos]
          exact congrArg chooseInbound hread
        exact exists_plan_update hwh hloc hwarehouse hlocation hstorable hids hsku hchoice hquantity
          hversion
    · have hmade : SkuFound data ⟨ids 0, data.sku, data.sku⟩ true d :=
        ⟨fun h => (nomatch h), fun _ => ⟨rfl, rfl, hlength⟩⟩
      refine exists_plan_insert hwh hloc hwarehouse hlocation hstorable hids hpos hbatch hmade
        (fun _ => ⟨hsku, rfl⟩) ?_
      rw [select_eq_nil fun key inv => hids.sku 0 key inv]
      rfl
  · obtain ⟨sku, key, inv, rest, hsku, hbatches, hsum, hfirst, hversion⟩ := h
    have hneg : data.quantity < 0 := lt_of_le_of_ne (not_lt.1 hpos) hq
    have habs : |data.quantity| = -data.quantity := abs_of_neg hneg
    have hchoice : choiceOf rt data (Txn.select (stockQuery data whId locId sku.id) d) =
        .update key inv := by
      rw [choiceOf, if_neg hpos]
      change chooseOutbound _ (batchesOf _ _ (stockRead data d whId locId sku.id)) = _
      rw [hbatches, chooseOutbound, if_neg (not_lt.2 hsum), if_neg (by linarith)]
    have hgrid : OnGrid 4 (inv.quantity.toRat + data.quantity) := by
      have hneed := hstorable.onGrid.neg
      rw [habs, neg_neg] at hneed
      exact inv.quantity.onGrid.add hneed
    exact exists_plan_update hwh hloc hwarehouse hlocation hstorable hids hsku hchoice
      (storable_of_le hgrid (by linarith) inv.quantity (by linarith)) hversion

/-! ### From a plan to the condition -/

theorem chooseInbound_eq_insert {stock : List (WmsKey × Inventory)}
    (h : chooseInbound stock = .insert) : stock = [] := by
  match stock with
  | [] => rfl
  | [(_, _)] => cases h
  | _ :: _ :: _ => cases h

theorem chooseOutbound_ne_insert {need : ℚ} {stock : List (WmsKey × Inventory)} :
    chooseOutbound need stock ≠ .insert := by
  intro h
  match stock with
  | [] => cases h
  | (key, inv) :: _ =>
    simp only [chooseOutbound] at h
    split_ifs at h

/-- **A call that has a plan meets the condition.** -/
theorem AdjustPlan.fulfils (plan : AdjustPlan rt now data d) (hgrid : OnGrid 4 data.quantity)
    (hnew : plan.created = true →
      ∀ key inv, d.get? key = some (.inventory inv) → inv.skuId ≠ plan.sku.id) :
    Fulfils rt data d := by
  have hstorable : Storable |data.quantity| :=
    storable_of_ofRat? hgrid.abs (newMovement_spec plan.movement_eq).1
  obtain ⟨warehouse, hwarehouse⟩ := plan.placed.warehouse
  obtain ⟨row, hlocation⟩ := plan.placed.location
  refine ⟨hstorable, plan.whId, plan.locId, warehouse, row, plan.placed.whId_eq,
    plan.placed.locId_eq, hwarehouse, hlocation, ?_⟩
  have hread (hc : plan.created = false) :
    Txn.select (stockQuery data plan.whId plan.locId plan.sku.id)
      (Txn.overlay d (skuWrites plan.sku plan.created)) =
        Txn.select (stockQuery data plan.whId plan.locId plan.sku.id) d := by
    rw [hc]
    rfl
  have hwrite := plan.write.inv
  unfold choiceOf at hwrite
  split_ifs at hwrite ⊢ with hpos
  · cases hc : plan.created with
    | true =>
      obtain ⟨hcode, -, hlength⟩ := plan.placed.skuFound.made hc
      refine .inr ⟨plan.skuFree hc, hlength, ?_⟩
      rw [select_eq_nil (hnew hc)] at hwrite
      rcases hwrite with ⟨inv, cur, values, hchoice, -⟩ | ⟨id, -, hstock, -⟩
      · cases hchoice
      · exact batchFits_of_newStock hstock
    | false =>
      refine .inl ⟨plan.sku, plan.placed.skuFound.found hc, ?_⟩
      rw [hread hc] at hwrite
      rcases hwrite with ⟨inv, cur, values, hchoice, hvalues, -⟩ | ⟨id, hchoice, hstock, -⟩
      · exact .inr ⟨plan.key, inv, chooseInbound_eq_update hchoice,
          storable_of_ofRat? (inv.quantity.onGrid.add hgrid) (stockValues_spec hvalues).1,
          fits_of_stockValues hvalues⟩
      · exact .inl ⟨chooseInbound_eq_insert hchoice, batchFits_of_newStock hstock⟩
  · rcases hwrite with ⟨inv, cur, values, hchoice, hvalues, -⟩ | ⟨id, hchoice, -⟩
    · obtain ⟨rest, hbatches, hsum, hfirst⟩ := chooseOutbound_eq_update hchoice
      cases hc : plan.created with
      | true =>
        rw [select_eq_nil (hnew hc)] at hbatches
        cases hbatches
      | false =>
        rw [hbatches] at hsum
        rw [hread hc] at hbatches
        exact ⟨plan.sku, plan.key, inv, rest, plan.placed.skuFound.found hc, hbatches, hsum, hfirst,
          fits_of_stockValues hvalues⟩
    · exact absurd hchoice chooseOutbound_ne_insert

end Wms

end OmsWmsTms
