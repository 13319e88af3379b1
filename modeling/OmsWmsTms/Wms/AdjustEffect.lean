import OmsWmsTms.Wms.AdjustCommits

/-!
# The effect of an adjustment

The commit of a call changes the stock on hand at one place by its quantity and adds one movement of
that quantity, provided that the row which it has changed is still the one that it had read.

* `onHand` : the stock on hand at a place.
* `StockMovement.signed` : what a movement adds to the stock at a place.
* `AdjustEffect` : the effect of a commit; `AdjustCommit.effect` : it has this effect.
* `AdjustCommit.keeps_advances` : it advances the version of the row.
-/

namespace OmsWmsTms

namespace Wms

open Txn (Local Keeps)

/-- A warehouse, a location and a SKU. -/
structure Place where
  /-- The warehouse. -/
  warehouseId : Uuid
  /-- The location. -/
  locationId : Uuid
  /-- The SKU. -/
  skuId : Uuid
deriving DecidableEq

/-- The stock is at a place. -/
def Inventory.IsAt (inv : Inventory) (place : Place) : Prop :=
  inv.warehouseId = place.warehouseId ∧ inv.locationId = some place.locationId ∧
    inv.skuId = place.skuId

instance (inv : Inventory) (place : Place) : Decidable (inv.IsAt place) :=
  inferInstanceAs (Decidable (_ ∧ _))

/-- The quantity of a row at a place. -/
def stockAt (place : Place) (row : WmsRow) : ℚ :=
  (row.inventory?.map fun inv => if inv.IsAt place then inv.quantity.toRat else 0).getD 0

theorem stockAt_of_isAt {inv : Inventory} {place : Place} (h : inv.IsAt place) (p : Place) :
    stockAt p (.inventory inv) = if p = place then inv.quantity.toRat else 0 := by
  obtain ⟨hwh, hloc, hsku⟩ := h
  obtain ⟨whId, locId, skuId⟩ := place
  obtain ⟨whId', locId', skuId'⟩ := p
  simp only [stockAt, WmsRow.inventory?, Option.map_some, Option.getD_some, Inventory.IsAt, hwh,
    hloc,
    hsku, Place.mk.injEq, Option.some.injEq]
  refine if_congr ?_ rfl rfl
  rw [eq_comm (a := whId), eq_comm (a := locId), eq_comm (a := skuId)]

/-- The stock on hand at a place. -/
def onHand (d : WmsDb) (place : Place) : ℚ := Txn.total (stockAt place) d

/-- The movements, in the order in which they were inserted. -/
def movements (d : WmsDb) : List StockMovement := Txn.rows WmsRow.stockMovement? d

/-- What a movement adds to the stock at a place: its quantity if it enters the location, and the
opposite if it leaves it. -/
def StockMovement.signed (movement : StockMovement) (place : Place) : ℚ :=
  if movement.sourceWarehouseId = place.warehouseId ∧ movement.skuId = place.skuId then
    (if movement.targetLocationId = some place.locationId then movement.quantity.toRat else 0) -
      if movement.sourceLocationId = some place.locationId then movement.quantity.toRat else 0
  else 0

/-- The effect of the commit of a call. -/
structure AdjustEffect (data : AdjustData) (place : Place) (movement : StockMovement)
    (d d' : WmsDb) : Prop where
  onHand_eq : ∀ p, onHand d' p = onHand d p + if p = place then data.quantity else 0
  movements_eq : movements d' = movements d ++ [movement]
  quantity_eq : movement.quantity.toRat = |data.quantity|
  signed_eq : ∀ p, movement.signed p = if p = place then data.quantity else 0

section Commit

variable {rt : Runtime} {now : ℕ → ℤ} {data : AdjustData} {l : Local WmsKey WmsRow} {d : WmsDb}

/-- The row that a call changes is as the call has read it. -/
def ReadCurrent (c : AdjustCommit rt now data l d) : Prop :=
  ∀ inv cur, (c.key, .inventory inv) ∈ c.rows → d.get? c.key = some (.inventory cur) →
    cur.version = inv.version → cur = inv

/-! ### The values that are stored -/

section Values

variable {whId locId skuId id : Uuid}

theorem stockValues_spec {inv : Inventory} {values : StockValues}
    (h : stockValues data inv = .ok values) :
    Numeric.ofRat? (inv.quantity.toRat + data.quantity) = some values.quantity ∧
      values.version = inv.version + 1 := by
  obtain ⟨quantity, hquantity, h⟩ := bind_eq_ok_iff.1 h
  obtain ⟨version, hversion, h⟩ := bind_eq_ok_iff.1 h
  cases h
  exact ⟨storeNumeric_eq_ok_iff.1 hquantity, (storeInt_eq_ok_iff.1 hversion).2.symm⟩

theorem newStock_spec {now : ℤ} {stock : Inventory}
    (h : newStock now data whId locId skuId id = .ok stock) :
    Numeric.ofRat? data.quantity = some stock.quantity ∧ stock.IsAt ⟨whId, locId, skuId⟩ ∧
      stock.lockedQty = 0 := by
  obtain ⟨quantity, hquantity, h⟩ := bind_eq_ok_iff.1 h
  obtain ⟨batchNo, -, h⟩ := bind_eq_ok_iff.1 h
  cases h
  exact ⟨storeNumeric_eq_ok_iff.1 hquantity, ⟨rfl, rfl, rfl⟩, rfl⟩

theorem newMovement_spec {movement : StockMovement}
    (h : newMovement data whId locId skuId id = .ok movement) :
    Numeric.ofRat? |data.quantity| = some movement.quantity ∧
    movement.sourceWarehouseId = whId ∧ movement.skuId = skuId ∧
    movement.sourceLocationId = (if data.quantity < 0 then some locId else none) ∧
    movement.targetLocationId = if 0 < data.quantity then some locId else none := by
  obtain ⟨quantity, hquantity, h⟩ := bind_eq_ok_iff.1 h
  cases h
  exact ⟨storeNumeric_eq_ok_iff.1 hquantity, rfl, rfl, rfl, rfl⟩

/-- A movement says what the call has done, if its quantity has at most four decimals. -/
theorem newMovement_signed {movement : StockMovement}
    (h : newMovement data whId locId skuId id = .ok movement) (hq : OnGrid 4 data.quantity)
    (place : Place) : movement.signed place =
      if place = ⟨whId, locId, skuId⟩ then data.quantity else 0 := by
  obtain ⟨hquantity, hwh, hsku, hsource, htarget⟩ := newMovement_spec h
  have habs : movement.quantity.toRat = |data.quantity| := Numeric.toRat_of_ofRat? hq.abs hquantity
  obtain ⟨whId', locId', skuId'⟩ := place
  simp only [StockMovement.signed, hwh, hsku, hsource, htarget, habs, Place.mk.injEq]
  have hplace : (whId' = whId ∧ locId' = locId ∧ skuId' = skuId) ↔
      (whId = whId' ∧ skuId = skuId') ∧ locId = locId' := by
    rw [eq_comm (a := whId), eq_comm (a := skuId), eq_comm (a := locId)]
    tauto
  simp only [hplace, ite_and]
  by_cases hat : whId = whId' ∧ skuId = skuId'
  · simp only [hat.1, hat.2, if_true]
    rcases lt_trichotomy data.quantity 0 with hneg | hzero | hpos
    · by_cases hloc : locId = locId' <;> simp [hneg, hneg.le.not_gt, abs_of_neg hneg, hloc]
    · simp [hzero]
    · simp [hpos, hpos.le.not_gt, abs_of_pos hpos]
  · rw [← ite_and, if_neg hat, ← ite_and, if_neg hat]

end Values

/-! ### One row after another -/

section Rows

variable {key : WmsKey} {place : Place}

theorem onHand_set_inventory {cur stock : Inventory} (h : d.get? key = some (.inventory cur)) :
    onHand (d.set key (.inventory stock)) place = onHand d place +
      (stockAt place (.inventory stock) - stockAt place (.inventory cur)) :=
  Txn.total_set_of_get? h

theorem onHand_set_new {row : WmsRow} (h : d.get? key = none) :
    onHand (d.set key row) place = onHand d place + stockAt place row :=
  Txn.total_set_of_none h

theorem movements_set_inventory {stock : Inventory}
    (h : d.get? key = none ∨ ∃ cur, d.get? key = some (.inventory cur)) :
    movements (d.set key (.inventory stock)) = movements d := by
  refine Txn.rows_set_of_forall_none (fun r hr => ?_) rfl
  rcases h with h | ⟨cur, h⟩
  · rw [h] at hr
    cases hr
  · rw [h] at hr
    cases hr
    rfl

theorem movements_set_new {row : WmsRow} (h : d.get? key = none) :
    movements (d.set key row) = movements d ++ row.stockMovement?.toList :=
  Txn.rows_set_of_none h

end Rows

namespace AdjustCommit

variable (c : AdjustCommit rt now data l d)

/-- The place of a call. -/
def place : Place := ⟨c.whId, c.locId, c.sku.id⟩

/-- The rows with the SKU of the call. -/
def withSku : WmsDb := Txn.overlay d (skuWrites c.sku c.created)

theorem sku_ne_key (hc : c.created = true) : WmsKey.sku c.sku.sku ≠ c.key := by
  refine c.write.ne_key ?_ fun _ h => (nomatch h)
  rw [(c.placed.skuFound.made hc).1]
  exact (c.skuFree hc).2

theorem movement_ne_key : WmsKey.stockMovement c.movement.id ≠ c.key :=
  c.write.ne_key c.movementFree fun _ h => (nomatch h)

theorem get?_withSku {key : WmsKey} (h : c.created = true → WmsKey.sku c.sku.sku ≠ key) :
    c.withSku.get? key = d.get? key :=
  get?_overlay_skuWrites h

/-- The rows with the SKU and the stock of the call. -/
def withStock : WmsDb := c.withSku.set c.key (.inventory c.stock)

theorem get?_withStock_movement : c.withStock.get? (.stockMovement c.movement.id) = none := by
  have hsku : c.withSku.get? (.stockMovement c.movement.id) =
    d.get? (.stockMovement c.movement.id) :=
    c.get?_withSku fun _ h => (nomatch h)
  rw [withStock, Dict.get?_set, if_neg c.movement_ne_key.symm, hsku]
  exact c.movementFree

theorem overlay_eq : Txn.overlay d l.pending =
    c.withStock.set (.stockMovement c.movement.id) (.stockMovement c.movement) := by
  rw [c.pending, Txn.overlay_append]
  rfl

/-- A commit changes one row of the stock. -/
theorem get?_inventory (id : Uuid) : (Txn.overlay d l.pending).get? (.inventory id) =
    if c.key = .inventory id then some (.inventory c.stock) else d.get? (.inventory id) := by
  have hsku : c.withSku.get? (.inventory id) = d.get? (.inventory id) :=
    c.get?_withSku fun _ h => nomatch h
  rw [c.overlay_eq, Dict.get?_set, if_neg (fun h => nomatch h), withStock, Dict.get?_set, hsku]

theorem onHand_withSku (p : Place) : onHand c.withSku p = onHand d p := by
  unfold withSku skuWrites
  split_ifs with hc
  · rw [Txn.overlay_cons, Txn.overlay_nil, onHand_set_new]
    · exact add_zero _
    · rw [(c.placed.skuFound.made hc).1]
      exact (c.skuFree hc).2
  · rfl

theorem movements_withSku : movements c.withSku = movements d := by
  unfold withSku skuWrites
  split_ifs with hc
  · rw [Txn.overlay_cons, Txn.overlay_nil, movements_set_new]
    · exact List.append_nil _
    · rw [(c.placed.skuFound.made hc).1]
      exact (c.skuFree hc).2
  · rfl

theorem movements_withStock : movements c.withStock = movements d := by
  rw [withStock, movements_set_inventory, c.movements_withSku]
  rw [c.get?_withSku c.sku_ne_key]
  rcases c.write.inv with ⟨inv, cur, values, -, -, hcur, -⟩ | ⟨id, -, -, hfree, -⟩
  · exact .inr ⟨cur, hcur⟩
  · exact .inl hfree

/-- A commit adds its movement. -/
theorem movements_eq : movements (Txn.overlay d l.pending) = movements d ++ [c.movement] := by
  rw [c.overlay_eq, movements_set_new c.get?_withStock_movement, c.movements_withStock]
  rfl

/-- A commit changes the stock as its row changes. -/
theorem onHand_withStock (p : Place) :
    onHand (Txn.overlay d l.pending) p = onHand c.withStock p := by
  rw [c.overlay_eq, onHand_set_new c.get?_withStock_movement]
  exact add_zero _

include c in
/-- A commit keeps the other rows, and advances the version of its row. -/
theorem keeps_advances : Keeps Advances d (Txn.overlay d l.pending) := by
  have hsku : Keeps Advances d c.withSku := by
    intro key row hrow
    refine ⟨row, ?_, .refl row⟩
    rw [c.get?_withSku, hrow]
    rintro hc rfl
    rw [(c.placed.skuFound.made hc).1, (c.skuFree hc).2] at hrow
    cases hrow
  have hstock : Keeps Advances c.withSku c.withStock := by
    refine Txn.keeps_set fun row hrow => ?_
    rw [c.get?_withSku c.sku_ne_key] at hrow
    rcases c.write.inv with ⟨inv, cur, values, -, hvalues, hcur, hversion, hstock⟩ |
      ⟨id, -, -, hfree, -⟩
    · rw [hcur] at hrow
      cases hrow
      rw [hstock]
      refine .inventory ⟨rfl, rfl, rfl⟩ ?_
      rw [hversion, setStock, (stockValues_spec hvalues).2]
      exact lt_add_one _
    · rw [hfree] at hrow
      cases hrow
  have hmovement : Keeps Advances c.withStock (Txn.overlay d l.pending) := by
    rw [c.overlay_eq]
    refine Txn.keeps_set fun row hrow => ?_
    rw [c.get?_withStock_movement] at hrow
    cases hrow
  exact hsku.trans (hstock.trans hmovement)

/-- **The effect of a commit** on a row that is as the call has read it. -/
theorem effect (hread : ReadCurrent c) (hq : OnGrid 4 data.quantity) :
    AdjustEffect data c.place c.movement d (Txn.overlay d l.pending) where
  onHand_eq p := by
    rw [c.onHand_withStock, withStock, ← c.onHand_withSku p]
    rcases c.write.inv with ⟨inv, cur, values, hchoice, hvalues, hcur, hversion, hstock⟩ |
      ⟨id, -, hnew, hfree, -⟩
    · have hmem := mem_of_choiceOf_eq_update hchoice
      obtain rfl : cur = inv := hread inv cur hmem hcur hversion
      have hat : cur.IsAt c.place := place_of_stockQuery (c.matched _ hmem)
      have hat' : c.stock.IsAt c.place := by
        rw [hstock]
        exact hat
      have hquantity : values.quantity.toRat = cur.quantity.toRat + data.quantity :=
        Numeric.toRat_of_ofRat? (cur.quantity.onGrid.add hq) (stockValues_spec hvalues).1
      rw [onHand_set_inventory ((c.get?_withSku c.sku_ne_key).trans hcur), stockAt_of_isAt hat,
        stockAt_of_isAt hat', hstock, setStock, hquantity]
      split_ifs <;> ring
    · obtain ⟨hquantity, hat, -⟩ := newStock_spec hnew
      rw [onHand_set_new ((c.get?_withSku c.sku_ne_key).trans hfree), stockAt_of_isAt hat,
        Numeric.toRat_of_ofRat? hq hquantity]
      rfl
  movements_eq := c.movements_eq
  quantity_eq := Numeric.toRat_of_ofRat? hq.abs (newMovement_spec c.movement_eq).1
  signed_eq := newMovement_signed c.movement_eq hq

/-- A commit leaves no row below zero that was not. -/
theorem nonneg (hread : ReadCurrent c) {key : WmsKey} {inv : Inventory}
    (hinv : d.get? key = some (.inventory inv)) (hnonneg : 0 ≤ inv.quantity.toRat) :
    ∃ inv', (Txn.overlay d l.pending).get? key = some (.inventory inv') ∧
      0 ≤ inv'.quantity.toRat := by
  have hmovement : WmsKey.stockMovement c.movement.id ≠ key := by
    rintro rfl
    rw [c.movementFree] at hinv
    cases hinv
  rw [c.overlay_eq, Dict.get?_set, if_neg hmovement, withStock, Dict.get?_set]
  by_cases hkey : c.key = key
  · subst hkey
    refine ⟨c.stock, if_pos rfl, ?_⟩
    rcases c.write.inv with ⟨read, cur, values, hchoice, hvalues, hcur, hversion, hstock⟩ |
      ⟨id, -, -, hfree, -⟩
    · obtain rfl : cur = read := hread read cur (mem_of_choiceOf_eq_update hchoice) hcur hversion
      rw [hcur] at hinv
      cases hinv
      rw [hstock, setStock, ← Numeric.toRat_zero (p := 20) (s := 4)]
      refine Numeric.le_toRat_of_ofRat? 0 ?_ (stockValues_spec hvalues).1
      rw [Numeric.toRat_zero]
      exact nonneg_of_choiceOf_eq_update hchoice hnonneg
    · rw [hfree] at hinv
      cases hinv
  · rw [if_neg hkey, c.get?_withSku, hinv]
    · exact ⟨inv, rfl, hnonneg⟩
    · rintro hc rfl
      rw [(c.placed.skuFound.made hc).1, (c.skuFree hc).2] at hinv
      cases hinv

end AdjustCommit

end Commit

end Wms

end OmsWmsTms
