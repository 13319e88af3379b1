import Mathlib.Algebra.BigOperators.Ring.Finset
import OmsWmsTms.Txn.Decides
import OmsWmsTms.Wms.CountSpares
import OmsWmsTms.Wms.StockOutOrder

/-!
# The allocation of `pick_from_stock`

`pick_from_stock` of `src/wms/services/picking_service.py` picks whole units, from stock that may be
fractional, in FEFO order.  The name of the SKU is an attribute that its query has not loaded, so
that a session which does not hold the SKU raises at the first pick.

* `PickAllocates` : what a call is to do with the stock of the SKU.
* `PickCondition` : the session has the SKU, or there is nothing to pick.
* `FefoBefore`, `fefo_fefoStock` : the rows come by the day on which they expire, then by batch.
* `pickEach`, `pickPlan_eq` : what the loop picks, row by row.
* `decides_pickFromStock` : when a call returns, and what it has written then.
* `pickAllocates_iff` : when a call does what it is to do.
-/

namespace OmsWmsTms

namespace Wms

open Txn (Prog Decides Session)

/-! ### What is asked of a call -/

/-- The whole units that are available of a row. -/
def Inventory.units (inv : Inventory) : ℤ := ⌊max 0 inv.available⌋

/-- The stock of a SKU in a warehouse that is not deleted. -/
def skuStock (d : WmsDb) (whId skuId : Uuid) : List (WmsKey × Inventory) :=
  stockOf (Txn.select (fun _ row => row.inventory?.any (pickFromCond whId skuId)) d)

/-- The stock in the order of the query. -/
def fefoStock (rt : Runtime) (d : WmsDb) (whId skuId : Uuid) : List (WmsKey × Inventory) :=
  orderBy (fun a b => pickOrder rt a.2 b.2) (skuStock d whId skuId)

/-- First expired, first out: a row expires before another one, or on the same day and its batch
comes first.  Rows without a day, and batches without a number, come last. -/
def FefoBefore (rt : Runtime) (a b : Inventory) : Prop :=
  Precedes (· < ·) a.expiryDate b.expiryDate ∨
    a.expiryDate = b.expiryDate ∧ Precedes (CollateLt rt) a.batchNo b.batchNo

/-- A row of the stock before and after a call. -/
structure StockChange where
  /-- The key. -/
  key : WmsKey
  /-- The row before the call. -/
  before : Inventory
  /-- The row after it. -/
  after : Inventory

/-- What has been picked from a row. -/
def StockChange.picked (row : StockChange) : ℚ := row.before.quantity - row.after.quantity

/-- The rows that have been picked from. -/
def pickedFrom (rows : List StockChange) : List StockChange :=
  rows.filter fun row => decide (0 < row.picked)

/-- What a call is to do with the stock of the SKU in the warehouse, and what it is to answer. -/
structure PickAllocates (rt : Runtime) (d d' : WmsDb) (whId skuId : Uuid) (quantity : ℤ)
    (answer : List PickedBatch × ℤ) (rows : List StockChange) : Prop where
  /-- The rows are those of the SKU. -/
  before : (rows.map fun row => (row.key, row.before)).Perm (skuStock d whId skuId)
  /-- They are left with what they have after the call. -/
  after : ∀ row ∈ rows, d'.get? row.key = some (.inventory row.after)
  /-- Every other row is as it was. -/
  others : ∀ key, key ∉ rows.map StockChange.key → d.get? key ≠ none → d'.get? key = d.get? key
  /-- They are in FEFO order. -/
  fefo : rows.Pairwise fun row later => ¬ FefoBefore rt later.before row.before
  /-- What is picked and what remains is what was asked for. -/
  conserves : (rows.map StockChange.picked).sum + answer.2 = quantity
  /-- No row falls below its lock. -/
  locked : ∀ row ∈ rows, row.after.lockedQty = row.before.lockedQty ∧
    row.before.lockedQty.toRat ≤ row.after.quantity.toRat
  /-- If something remains, no row has a whole unit left. -/
  exhausted : 0 < answer.2 → ∀ row ∈ rows, row.after.available < 1
  /-- A row is picked from only if no row before it has a whole unit left. -/
  greedy : rows.Pairwise fun row later => 0 < later.picked → row.after.available < 1
  /-- The answer has an entry for each row that is picked from, with what is picked from it. -/
  answered : List.Forall₂ (fun row batch => (batch.qty : ℚ) = row.picked) (pickedFrom rows) answer.1
  /-- The new entries of the log are one for each row that is picked from, about what is picked from
  that row. -/
  logged : ∃ logs : List InventoryLog,
    List.Forall₂ (fun row log => log.inventoryId = row.before.id ∧
      (log.quantityBefore - log.quantityAfter : ℚ) = row.picked) (pickedFrom rows) logs ∧
    ∀ log : InventoryLog, log ∈ logs ↔ d.get? (.inventoryLog log.id) = none ∧
      d'.get? (.inventoryLog log.id) = some (.inventoryLog log)

/-- The call names a warehouse and a SKU of which there is stock, every row of it covers its lock,
and the identifiers that the call will make are not in use. -/
structure PickReady (ids : ℕ → ℕ) (d : WmsDb) (warehouseId : IdArg) (code : String)
    (whId skuId : Uuid) : Prop where
  warehouse : warehouseId.uuid? = some whId
  sku : skuIdAt d code = some skuId
  stock : skuStock d whId skuId ≠ []
  covered : ∀ item ∈ skuStock d whId skuId, item.2.Covered
  injective : Function.Injective ids
  unused : ∀ n, d.get? (.inventoryLog (ids n)) = none

/-- **The condition**: where a row has a whole unit and the rows before it have too few of them, the
session has the name of the SKU, and the version of the row can be counted up. -/
def PickCondition (rt : Runtime) (d : WmsDb) (whId skuId : Uuid) (quantity : ℤ) : Prop :=
  ∀ before item after, fefoStock rt d whId skuId = before ++ item :: after →
    (before.map fun item => item.2.units).sum < quantity → 1 ≤ item.2.units →
    rt.lazyLoads = true ∧ FitsInteger (item.2.version + 1)

/-- A collation puts any two texts in an order. -/
structure Collates (collate : String → String → Bool) : Prop where
  total : ∀ x y, collate x y = true ∨ collate y x = true
  trans : ∀ x y z, collate x y = true → collate y z = true → collate x z = true

/-! ### FEFO order -/

section Order

variable {α : Type} {le le' : α → α → Bool}

theorem nullsLast_total (h : ∀ a b, le a b = true ∨ le b a = true) (x y : Option α) :
    nullsLast le x y = true ∨ nullsLast le y x = true := by
  cases x with
  | none => exact .inr (by cases y <;> rfl)
  | some a =>
    cases y with
    | none => exact .inl rfl
    | some b => exact h a b

theorem nullsLast_trans (h : ∀ a b c, le a b = true → le b c = true → le a c = true)
    {x y z : Option α} (hxy : nullsLast le x y = true) (hyz : nullsLast le y z = true) :
    nullsLast le x z = true := by
  cases x <;> cases y <;> cases z <;> simp_all only [nullsLast, Bool.false_eq_true]
  exact h _ _ _ hxy hyz

theorem thenBy_eq_true_iff {a b : α} : thenBy le le' a b = true ↔
    le a b = true ∧ (le b a = true → le' a b = true) := by
  unfold thenBy
  cases le a b <;> cases le b a <;> simp

theorem thenBy_total (h : ∀ a b, le a b = true ∨ le b a = true)
    (h' : ∀ a b, le' a b = true ∨ le' b a = true) (a b : α) :
    thenBy le le' a b = true ∨ thenBy le le' b a = true := by
  simp only [thenBy_eq_true_iff]
  have hab := h a b
  have hab' := h' a b
  tauto

theorem thenBy_trans (h : ∀ a b c, le a b = true → le b c = true → le a c = true)
    (h' : ∀ a b c, le' a b = true → le' b c = true → le' a c = true) {a b c : α}
    (hab : thenBy le le' a b = true) (hbc : thenBy le le' b c = true) :
    thenBy le le' a c = true := by
  rw [thenBy_eq_true_iff] at *
  refine ⟨h a b c hab.1 hbc.1, fun hca => h' a b c (hab.2 ?_) (hbc.2 ?_)⟩
  · exact h b c a hbc.1 hca
  · exact h c a b hca hab.1

end Order

section Fefo

variable {rt : Runtime} {d : WmsDb} {whId skuId : Uuid}

theorem pickOrder_total (hcollate : Collates rt.collate) (a b : Inventory) :
    pickOrder rt a b = true ∨ pickOrder rt b a = true :=
  thenBy_total (fun a b => nullsLast_total (fun i j : ℤ => by simpa using le_total i j) _ _)
    (fun a b => nullsLast_total hcollate.total _ _) a b

theorem pickOrder_trans (hcollate : Collates rt.collate) {a b c : Inventory}
    (hab : pickOrder rt a b = true) (hbc : pickOrder rt b c = true) : pickOrder rt a c = true := by
  unfold pickOrder at *
  refine thenBy_trans (fun a b c => ?_) (fun a b c => ?_) hab hbc
  · exact nullsLast_trans fun i j k hij hjk =>
      decide_eq_true ((of_decide_eq_true hij).trans (of_decide_eq_true hjk))
  · exact nullsLast_trans hcollate.trans

/-- What comes strictly first by the query comes first by expiry, then by batch. -/
theorem fefoBefore_iff {a b : Inventory} :
    FefoBefore rt a b ↔ pickOrder rt a b = true ∧ pickOrder rt b a = false := by
  rw [pickOrder, thenBy_strict_iff, nullsLast_strict_iff, nullsLast_tied_iff, nullsLast_strict_iff]
  simp only [intLe_strict_iff]
  rfl

/-- **The stock is in FEFO order.** -/
theorem fefo_fefoStock (hcollate : Collates rt.collate) :
    (fefoStock rt d whId skuId).Pairwise fun item later => ¬ FefoBefore rt later.2 item.2 := by
  have : Std.Total fun a b : WmsKey × Inventory => pickOrder rt a.2 b.2 = true :=
    ⟨fun a b => pickOrder_total hcollate a.2 b.2⟩
  have : IsTrans (WmsKey × Inventory) fun a b => pickOrder rt a.2 b.2 = true :=
    ⟨fun a b c hab hbc => pickOrder_trans hcollate hab hbc⟩
  refine (List.pairwise_insertionSort _ (skuStock d whId skuId)).imp fun {item later} hle h => ?_
  rw [fefoBefore_iff, hle] at h
  exact Bool.true_eq_false_eq_False h.2

end Fefo

/-! ### What the loop picks -/

/-- What the loop picks from each row. -/
def pickEach (remaining : ℤ) : List (WmsKey × Inventory) → List Pick
  | [] => []
  | (key, inv) :: rest =>
    let quantity := max 0 (min remaining inv.units)
    ⟨key, inv, quantity⟩ :: pickEach (remaining - quantity) rest

/-- What is picked altogether. -/
def pickTotal (picks : List Pick) : ℤ := (picks.map Pick.quantity).sum

section Each

variable {remaining : ℤ} {rows : List (WmsKey × Inventory)} {pick : Pick} {inv : Inventory}

theorem Inventory.units_nonneg (inv : Inventory) : 0 ≤ inv.units :=
  Int.floor_nonneg.2 (le_max_left _ _)

theorem Inventory.units_le_available (h : 0 < inv.units) : (inv.units : ℚ) ≤ inv.available := by
  have hle : (inv.units : ℚ) ≤ max 0 inv.available := Int.floor_le _
  have hpos : (0 : ℚ) < inv.units := Int.cast_pos.2 h
  rcases le_max_iff.1 hle with hzero | hle
  · exact absurd hzero (not_le.2 hpos)
  · exact hle

theorem Inventory.available_sub_units_lt (inv : Inventory) : inv.available - inv.units < 1 := by
  have hlt : max 0 inv.available < inv.units + 1 := Int.lt_floor_add_one _
  have hle : inv.available ≤ max 0 inv.available := le_max_right _ _
  linarith

/-- The units that the loop picks from a row, before its test. -/
theorem floor_min_eq (remaining : ℤ) (inv : Inventory) :
    ⌊min (remaining : ℚ) (max 0 inv.available)⌋ = min remaining inv.units := by
  rw [Int.floor_mono.map_min, Int.floor_intCast]
  rfl

theorem mem_pickEach (h : pick ∈ pickEach remaining rows) :
    (pick.key, pick.inv) ∈ rows ∧ 0 ≤ pick.quantity ∧ pick.quantity ≤ pick.inv.units := by
  induction rows generalizing remaining with
  | nil => cases h
  | cons item rest ih =>
    obtain ⟨key, inv⟩ := item
    rcases List.mem_cons.1 h with rfl | h
    · have hunits := inv.units_nonneg
      refine ⟨List.mem_cons_self, le_max_left _ _, ?_⟩
      exact max_le hunits (min_le_right _ _)
    · obtain ⟨hmem, hbounds⟩ := ih h
      exact ⟨List.mem_cons_of_mem _ hmem, hbounds⟩

/-- The picks are from the rows, in their order. -/
theorem map_pickEach (remaining : ℤ) (rows : List (WmsKey × Inventory)) :
    (pickEach remaining rows).map (fun pick => (pick.key, pick.inv)) = rows := by
  induction rows generalizing remaining with
  | nil => rfl
  | cons item rest ih => rw [pickEach, List.map_cons, ih]

theorem pickTotal_cons (pick : Pick) (picks : List Pick) :
    pickTotal (pick :: picks) = pick.quantity + pickTotal picks := List.sum_cons

/-- Nothing is picked when nothing remains. -/
theorem pickEach_of_nonpos (h : remaining ≤ 0) : ∀ pick ∈ pickEach remaining rows,
    pick.quantity = 0 := by
  induction rows generalizing remaining with
  | nil => exact fun pick hpick => absurd hpick List.not_mem_nil
  | cons item rest ih =>
    have hzero : max 0 (min remaining item.2.units) = 0 :=
      max_eq_left ((min_le_left _ _).trans h)
    rw [pickEach, hzero, sub_zero, List.forall_mem_cons]
    exact ⟨rfl, ih h⟩

theorem pickTotal_eq_zero {picks : List Pick} (h : ∀ pick ∈ picks, pick.quantity = 0) :
    pickTotal picks = 0 := by
  refine List.sum_eq_zero fun n hn => ?_
  obtain ⟨pick, hpick, rfl⟩ := List.mem_map.1 hn
  exact h pick hpick

/-- **The loop** of the program skips the rows of which nothing is picked. -/
theorem pickPlan_eq (remaining : ℤ) (rows : List (WmsKey × Inventory)) :
    pickPlan remaining rows =
      ((pickEach remaining rows).filter fun pick => decide (0 < pick.quantity),
        remaining - pickTotal (pickEach remaining rows)) := by
  induction rows generalizing remaining with
  | nil => exact Prod.ext rfl (sub_zero remaining).symm
  | cons item rest ih =>
    obtain ⟨key, inv⟩ := item
    rw [pickPlan, floor_min_eq]
    by_cases hremaining : remaining ≤ 0
    · have hnone := @pickEach_of_nonpos _ ((key, inv) :: rest) hremaining
      rw [if_pos hremaining, pickTotal_eq_zero hnone, sub_zero, List.filter_eq_nil_iff.2]
      intro pick hpick
      rw [hnone pick hpick]
      decide
    · rw [if_neg hremaining]
      by_cases hskip : min remaining inv.units ≤ 0
      · have hzero : max 0 (min remaining inv.units) = 0 := max_eq_left hskip
        rw [pickEach, hzero, sub_zero, pickTotal_cons, zero_add]
        exact (if_pos hskip).trans (ih remaining)
      · have hmax : max 0 (min remaining inv.units) = min remaining inv.units :=
          max_eq_right (not_le.1 hskip).le
        rw [pickEach, hmax, pickTotal_cons, List.filter_cons_of_pos (by simpa using hskip)]
        refine (if_neg hskip).trans ?_
        rw [ih]
        exact Prod.ext rfl (by simp only; ring)

/-- If something remains, all the units of every row are picked. -/
theorem pickEach_exhausted (h : 0 < remaining - pickTotal (pickEach remaining rows)) :
    ∀ pick ∈ pickEach remaining rows, pick.quantity = pick.inv.units := by
  induction rows generalizing remaining with
  | nil => exact fun pick hpick => absurd hpick List.not_mem_nil
  | cons item rest ih =>
    obtain ⟨key, inv⟩ := item
    rw [pickEach, pickTotal_cons] at h
    dsimp only at h
    have hleft : 0 < remaining - max 0 (min remaining inv.units) := by
      by_contra hnot
      rw [pickTotal_eq_zero (pickEach_of_nonpos (not_lt.1 hnot))] at h
      omega
    rw [pickEach, List.forall_mem_cons]
    have hunits := inv.units_nonneg
    refine ⟨show max 0 (min remaining inv.units) = inv.units by omega, ih ?_⟩
    omega

/-- A row is picked from only if all the units of every row before it are picked. -/
theorem pickEach_greedy (remaining : ℤ) (rows : List (WmsKey × Inventory)) :
    (pickEach remaining rows).Pairwise fun pick later =>
      0 < later.quantity → pick.quantity = pick.inv.units := by
  induction rows generalizing remaining with
  | nil => exact List.Pairwise.nil
  | cons item rest ih =>
    obtain ⟨key, inv⟩ := item
    rw [pickEach]
    refine List.pairwise_cons.2 ⟨fun later hlater hpicked => ?_, ih _⟩
    have hleft : 0 < remaining - max 0 (min remaining inv.units) := by
      by_contra hnot
      rw [pickEach_of_nonpos (not_lt.1 hnot) later hlater] at hpicked
      exact lt_irrefl 0 hpicked
    have hunits := inv.units_nonneg
    show max 0 (min remaining inv.units) = inv.units
    omega

/-- The rows that are picked from are those with a unit where the rows before have too few. -/
theorem forall_picked_iff {C : Inventory → Prop} :
    (∀ pick ∈ pickEach remaining rows, 0 < pick.quantity → C pick.inv) ↔
      ∀ before item after, rows = before ++ item :: after →
        (before.map fun item => item.2.units).sum < remaining → 1 ≤ item.2.units → C item.2 := by
  induction rows generalizing remaining with
  | nil =>
    refine iff_of_true (fun pick hpick => absurd hpick List.not_mem_nil) ?_
    intro before item after h
    simp at h
  | cons first rest ih =>
    obtain ⟨key, inv⟩ := first
    have hunits := inv.units_nonneg
    have hsum (before : List (WmsKey × Inventory)) :
        0 ≤ (before.map fun item => item.2.units).sum := by
      refine List.sum_nonneg fun n hn => ?_
      obtain ⟨item, -, rfl⟩ := List.mem_map.1 hn
      exact item.2.units_nonneg
    rw [pickEach, List.forall_mem_cons, ih]
    constructor
    · rintro ⟨hfirst, hrest⟩ before item after h hbelow hitem
      cases before with
      | nil =>
        cases h
        simp only [List.map_nil, List.sum_nil] at hbelow
        replace hitem : 1 ≤ inv.units := hitem
        exact hfirst (show 0 < max 0 (min remaining inv.units) by omega)
      | cons first before =>
        cases h
        rw [List.map_cons, List.sum_cons] at hbelow
        dsimp only at hbelow
        have := hsum before
        exact hrest before item after rfl (by omega) hitem
    · refine fun h => ⟨fun hpos => ?_, fun before item after heq hbelow hitem => ?_⟩
      · have hpicked : 0 < max 0 (min remaining inv.units) := hpos
        refine h [] (key, inv) rest rfl ?_ (show 1 ≤ inv.units by omega)
        rw [List.map_nil, List.sum_nil]
        omega
      · refine h ((key, inv) :: before) item after (by rw [heq]; rfl) ?_ hitem
        rw [List.map_cons, List.sum_cons]
        have := hsum before
        show inv.units + _ < _
        omega

end Each

/-! ### A row after the loop -/

/-- A pick takes what its row has, of stock that covers its lock. -/
structure Pick.Fits (pick : Pick) : Prop where
  nonneg : 0 ≤ pick.quantity
  le : pick.quantity ≤ pick.inv.units
  covered : pick.inv.Covered

namespace Pick

/-- The row of a pick after the loop. -/
def taken (now : ℤ) (pick : Pick) : Inventory :=
  if 0 < pick.quantity then
    pickStock now ((Numeric.ofRat? (pick.inv.quantity - pick.quantity)).getD 0)
      (pick.inv.version + 1) pick.inv
  else pick.inv

/-- The row of a pick, before and after the loop. -/
def change (now : ℤ) (pick : Pick) : StockChange := ⟨pick.key, pick.inv, pick.taken now⟩

/-- What the `UPDATE` of a pick writes. -/
def write (now : ℤ) (pick : Pick) : WmsKey × WmsRow := (pick.key, .inventory (pick.taken now))

/-- The entry of the log. -/
def log (pick : Pick) (id : Uuid) (quantityChange quantityAfter : Numeric 20 4) : InventoryLog where
  id := id
  inventoryId := pick.inv.id
  changeType := .outbound
  quantityChange := quantityChange
  quantityBefore := pick.inv.quantity
  quantityAfter := quantityAfter
  referenceType := "picking"

/-- An entry of the log is about a pick. -/
structure IsLog (pick : Pick) (log : InventoryLog) : Prop where
  inventoryId : log.inventoryId = pick.inv.id
  quantity : (log.quantityBefore - log.quantityAfter : ℚ) = pick.quantity

variable {pick : Pick} (now : ℤ)

/-- A pick that takes something takes no more than the quantity of its row, which its column
holds. -/
theorem Fits.bounds (h : pick.Fits) (hpos : 0 < pick.quantity) :
    (0 : ℚ) < pick.quantity ∧ (pick.quantity : ℚ) ≤ pick.inv.quantity ∧
      pick.inv.quantity.toRat * 10 ^ 4 < 10 ^ 20 := by
  have hle : (pick.quantity : ℚ) ≤ pick.inv.units := Int.cast_le.2 h.le
  have hunits := Inventory.units_le_available (hpos.trans_le h.le)
  have hlocked := h.covered.nonneg
  rw [Inventory.available] at hunits
  refine ⟨Int.cast_pos.2 hpos, by linarith, ?_⟩
  have hnat := pick.inv.quantity.fits
  have hint : pick.inv.quantity.units < 10 ^ 20 := by omega
  rw [pick.inv.quantity.toRat_mul_pow]
  exact_mod_cast hint

/-- The new quantity of a row is stored as it is. -/
theorem Fits.exists_quantity (h : pick.Fits) (hpos : 0 < pick.quantity) :
    ∃ stored : Numeric 20 4, Numeric.ofRat? (pick.inv.quantity - pick.quantity) = some stored ∧
      stored.toRat = pick.inv.quantity - pick.quantity := by
  obtain ⟨hcast, hle, hfits⟩ := h.bounds hpos
  have hgrid : OnGrid 4 (pick.inv.quantity - pick.quantity : ℚ) :=
    pick.inv.quantity.onGrid.sub (.intCast _)
  have hbound : |(pick.inv.quantity - pick.quantity : ℚ)| * 10 ^ 4 < 10 ^ 20 := by
    rw [abs_of_nonneg (by linarith)]
    linarith
  exact Numeric.exists_ofRat? hgrid hbound

/-- The change of the log is stored as it is. -/
theorem Fits.exists_change (h : pick.Fits) (hpos : 0 < pick.quantity) :
    ∃ stored : Numeric 20 4, Numeric.ofRat? (-(pick.quantity : ℚ)) = some stored := by
  obtain ⟨hcast, hle, hfits⟩ := h.bounds hpos
  have hbound : |(-(pick.quantity : ℚ))| * 10 ^ 4 < 10 ^ 20 := by
    rw [abs_neg, abs_of_pos hcast]
    linarith
  obtain ⟨stored, hstored, -⟩ := Numeric.exists_ofRat? (OnGrid.intCast _).neg hbound
  exact ⟨stored, hstored⟩

theorem taken_of_pos (hpos : 0 < pick.quantity) {quantity : Numeric 20 4}
    (h : Numeric.ofRat? (pick.inv.quantity - pick.quantity) = some quantity) :
    pick.taken now = pickStock now quantity (pick.inv.version + 1) pick.inv := by
  rw [taken, if_pos hpos, h, Option.getD_some]

theorem lockedQty_taken (pick : Pick) : (pick.taken now).lockedQty = pick.inv.lockedQty := by
  unfold taken
  split_ifs <;> rfl

theorem Fits.quantity_taken (h : pick.Fits) :
    (pick.taken now).quantity.toRat = pick.inv.quantity - pick.quantity := by
  by_cases hpos : 0 < pick.quantity
  · obtain ⟨stored, hstored, heq⟩ := h.exists_quantity hpos
    rw [taken_of_pos now hpos hstored]
    exact heq
  · have hzero : pick.quantity = 0 := le_antisymm (not_lt.1 hpos) h.nonneg
    rw [taken, if_neg hpos, hzero, Int.cast_zero, sub_zero]

theorem Fits.picked_change (h : pick.Fits) : (pick.change now).picked = pick.quantity := by
  show pick.inv.quantity.toRat - (pick.taken now).quantity.toRat = _
  rw [h.quantity_taken, sub_sub_cancel]

/-- No row falls below its lock. -/
theorem Fits.locked_le (h : pick.Fits) :
    pick.inv.lockedQty.toRat ≤ (pick.taken now).quantity.toRat := by
  rw [h.quantity_taken]
  by_cases hpos : 0 < pick.quantity
  · have hle : (pick.quantity : ℚ) ≤ pick.inv.units := Int.cast_le.2 h.le
    have hunits := Inventory.units_le_available (hpos.trans_le h.le)
    rw [Inventory.available] at hunits
    linarith
  · have hzero : pick.quantity = 0 := le_antisymm (not_lt.1 hpos) h.nonneg
    rw [hzero, Int.cast_zero, sub_zero]
    exact h.covered.le

/-- When all its units are picked, a row has no whole unit left. -/
theorem Fits.available_lt (h : pick.Fits) (hall : pick.quantity = pick.inv.units) :
    (pick.taken now).available < 1 := by
  have hlt := pick.inv.available_sub_units_lt
  rw [Inventory.available] at hlt ⊢
  rw [h.quantity_taken, lockedQty_taken, hall]
  linarith

end Pick

/-! ### What the loop writes -/

section Writes

variable {now : ℤ} {d w : WmsDb} {ids : ℕ → ℕ} {picks left : List Pick} {pick : Pick}
  {s : Session WmsKey WmsRow}

/-- The rows of all the picks but those that are left are written. -/
structure PicksWritten (now : ℤ) (d : WmsDb) (ids : ℕ → ℕ) (picks left : List Pick)
    (s : Session WmsKey WmsRow) : Prop where
  working : ∃ done, picks = done ++ left ∧ s.working = Txn.overlay d (done.map (Pick.write now))
  ids_eq : s.ids = ids

/-- The picks take what their rows have. -/
structure PicksFit (d : WmsDb) (picks : List Pick) : Prop where
  found : Found (picks.map fun pick => (pick.key, pick.inv)) d
  fits : ∀ pick ∈ picks, pick.Fits
  pos : ∀ pick ∈ picks, 0 < pick.quantity

/-- A value that fits its column is stored. -/
theorem decides_storeNumeric {p q : ℕ} {x : ℚ} {P : Session WmsKey WmsRow → Prop}
    (h : ∀ s, P s → ∃ y : Numeric p q, Numeric.ofRat? x = some y) :
    Decides P (Prog.ofExcept (storeNumeric x) : WmsProg (Numeric p q)) True
      fun y s => Numeric.ofRat? x = some y ∧ P s := by
  refine Decides.conseq (Decides.ofExcept fun y hy s hs => ⟨storeNumeric_eq_ok_iff.1 hy, hs⟩)
    (fun _ hs => hs) (fun s hs => iff_of_true ?_ trivial) fun _ _ h => h
  obtain ⟨y, hy⟩ := h s hs
  exact ⟨y, storeNumeric_eq_ok_iff.2 hy⟩

/-- The `UPDATE` of a pick raises when the version cannot be counted up. -/
theorem decides_updatePick (hpicks : PicksFit d picks) (pick : Pick) (left : List Pick) :
    Decides (PicksWritten now d ids picks (pick :: left)) (updatePick now pick)
      (FitsInteger (pick.inv.version + 1)) fun _ => PicksWritten now d ids picks left := by
  let P := PicksWritten now d ids picks (pick :: left)
  have hmem (s : Session WmsKey WmsRow) (hs : P s) : pick ∈ picks := by
    obtain ⟨done, rfl, -⟩ := hs.working
    exact List.mem_append_right _ List.mem_cons_self
  have hversion : Decides P (Prog.ofExcept (storeInt (pick.inv.version + 1)))
      (FitsInteger (pick.inv.version + 1)) fun version s => pick.inv.version + 1 = version ∧ P s :=
    (Decides.ofExcept fun version h s hs => ⟨(storeInt_eq_ok_iff.1 h).2, hs⟩).conseq
      (fun _ hs => hs) (fun _ _ => exists_storeInt_iff) fun _ _ h => h
  refine (decides_storeNumeric fun s hs => ?_).bind_true fun quantity =>
    Decides.assume fun hquantity => ?_
  · obtain ⟨stored, hstored, -⟩ :=
      (hpicks.fits pick (hmem s hs)).exists_quantity (hpicks.pos pick (hmem s hs))
    exact ⟨stored, hstored⟩
  · refine (hversion.bind fun version => Decides.assume fun hversion => ?_).conseq (fun _ hs => hs)
      (fun _ _ => Iff.of_eq (and_true _)) fun _ _ h => h
    refine Decides.updateOr fun s hs => ?_
    obtain ⟨done, heq, hworking⟩ := hs.working
    have hread : d.get? pick.key = some (.inventory pick.inv) :=
      hpicks.found.get? _ _ (List.mem_map.2 ⟨pick, hmem s hs, rfl⟩)
    have hnot : pick.key ∉ (done.map (Pick.write now)).map Prod.fst := by
      have hnodup := hpicks.found.nodup
      rw [heq, List.map_map, List.map_append, List.nodup_append] at hnodup
      rw [List.map_map]
      exact fun hkey => hnodup.2.2 _ hkey _ List.mem_cons_self rfl
    refine ⟨.inventory pick.inv, ?_, ⟨done ++ [pick], by rw [heq, List.append_assoc]; rfl, ?_⟩,
      hs.ids_eq⟩
    · rw [hworking, Txn.get?_overlay_of_notMem hnot, hread]
    · rw [List.map_append, List.map_singleton, Pick.write, Txn.overlay_concat, ← hworking,
        Pick.taken_of_pos now (hpicks.pos pick (hmem s hs)) hquantity, hversion]
      rfl

/-- What the insertion of an entry of the log writes. -/
def logWrite (log : InventoryLog) : WmsKey × WmsRow := (.inventoryLog log.id, .inventoryLog log)

/-- All the picks but those that are left are logged, under new identifiers. -/
structure PicksLogged (w : WmsDb) (picks left : List Pick) (s : Session WmsKey WmsRow) :
    Prop where
  logs : ∃ done logs, picks = done ++ left ∧ List.Forall₂ Pick.IsLog done logs ∧
    (∀ log ∈ logs, w.get? (.inventoryLog log.id) = none) ∧ (logs.map InventoryLog.id).Nodup ∧
    s.working = Txn.overlay w (logs.map logWrite)
  injective : Function.Injective s.ids
  unused : ∀ n, s.working.get? (.inventoryLog (s.ids n)) = none

theorem decides_logPick (hpicks : PicksFit d picks) (pick : Pick) (left : List Pick) :
    Decides (PicksLogged w picks (pick :: left)) (logPick pick) True
      fun _ => PicksLogged w picks left := by
  let P := PicksLogged w picks (pick :: left)
  have hmem (s : Session WmsKey WmsRow) (hs : P s) : pick ∈ picks := by
    obtain ⟨done, logs, rfl, -⟩ := hs.logs
    exact List.mem_append_right _ List.mem_cons_self
  have hinsert (change after : Numeric 20 4)
      (hafter : Numeric.ofRat? (pick.inv.quantity - pick.quantity) = some after) :
      Decides P (Prog.newId.bind fun id => Prog.insertOr ServiceError.integrityError
        (.inventoryLog id) (.inventoryLog (pick.log id change after))) True
        fun _ => PicksLogged w picks left := by
    refine Decides.bind_true (Q := fun id s => s.working.get? (.inventoryLog id) = none ∧
      (∀ n, s.ids n ≠ id) ∧ P s) (.newId fun s hs => ⟨hs.unused 0, fun n h => ?_, hs.logs,
        fun n m hnm => Nat.succ.inj (hs.injective hnm), fun n => hs.unused (n + 1)⟩) fun id => ?_
    · exact absurd (hs.injective h) (Nat.succ_ne_zero n)
    · refine .insertOr (fun s hs => iff_of_true trivial hs.1) fun s ⟨_, hne, hs⟩ hfree => ?_
      obtain ⟨done, logs, heq, hlogs, hnew, hnodup, hworking⟩ := hs.logs
      rw [hworking] at hfree
      obtain ⟨hw, hnot⟩ := Txn.get?_overlay_eq_none hfree
      have hid : id ∉ logs.map InventoryLog.id := by
        rintro hid
        obtain ⟨log, hlog, rfl⟩ := List.mem_map.1 hid
        exact hnot (List.mem_map.2 ⟨_, List.mem_map.2 ⟨log, hlog, rfl⟩, rfl⟩)
      have hpick := hpicks.fits pick (hmem s hs)
      obtain ⟨stored, hstored, hrat⟩ := hpick.exists_quantity (hpicks.pos pick (hmem s hs))
      rw [hafter] at hstored
      cases hstored
      refine ⟨⟨done ++ [pick], logs ++ [pick.log id change after], by rw [heq, List.append_assoc]; rfl,
        List.rel_append hlogs (.cons ⟨rfl, ?_⟩ .nil), ?_, ?_, ?_⟩, hs.injective, fun n => ?_⟩
      · show (pick.inv.quantity - after : ℚ) = pick.quantity
        rw [hrat, sub_sub_cancel]
      · rw [List.forall_mem_append]
        exact ⟨hnew, List.forall_mem_singleton.2 hw⟩
      · rw [List.map_append, List.map_singleton]
        exact List.nodup_append'.2 ⟨hnodup, List.nodup_singleton _,
          List.disjoint_singleton.2 hid⟩
      · rw [List.map_append, List.map_singleton, logWrite, Txn.overlay_concat, ← hworking]
        rfl
      · rw [Dict.get?_set, if_neg fun hkey => hne n (WmsKey.inventoryLog.inj hkey).symm]
        exact hs.unused n
  refine (decides_storeNumeric fun s hs => ?_).bind_true fun change => Decides.assume fun _ => ?_
  · exact (hpicks.fits pick (hmem s hs)).exists_change (hpicks.pos pick (hmem s hs))
  · refine (decides_storeNumeric fun s hs => ?_).bind_true fun after =>
      Decides.assume (hinsert change after)
    obtain ⟨stored, hstored, -⟩ :=
      (hpicks.fits pick (hmem s hs)).exists_quantity (hpicks.pos pick (hmem s hs))
    exact ⟨stored, hstored⟩

end Writes

/-! ### The call -/

section Call

variable {rt : Runtime} {now : ℤ} {d w d' : WmsDb} {ids : ℕ → ℕ} {warehouseId : IdArg}
  {code : String} {whId skuId : Uuid} {quantity : ℤ}

/-- The picks of a call, one for each row. -/
def callPicks (rt : Runtime) (d : WmsDb) (whId skuId : Uuid) (quantity : ℤ) : List Pick :=
  pickEach quantity (fefoStock rt d whId skuId)

/-- The picks that take something. -/
def callPicked (rt : Runtime) (d : WmsDb) (whId skuId : Uuid) (quantity : ℤ) : List Pick :=
  (callPicks rt d whId skuId quantity).filter fun pick => decide (0 < pick.quantity)

theorem pickCondition_iff : PickCondition rt d whId skuId quantity ↔
    ∀ pick ∈ callPicked rt d whId skuId quantity,
      rt.lazyLoads = true ∧ FitsInteger (pick.inv.version + 1) := by
  simp only [callPicked, List.mem_filter, decide_eq_true_eq, and_imp]
  exact (forall_picked_iff (C := fun inv => rt.lazyLoads = true ∧
    FitsInteger (inv.version + 1))).symm

theorem found_callPicks : Found ((callPicks rt d whId skuId quantity).map fun pick =>
    (pick.key, pick.inv)) d := by
  rw [callPicks, map_pickEach]
  have hfound : Found (skuStock d whId skuId) d := found_stockOf _ _
  refine hfound.sublist ?_ fun item hitem => mem_orderBy.1 hitem
  exact ((orderBy_perm _ _).map Prod.fst).nodup_iff.2 hfound.nodup

theorem fits_callPicks (hcovered : ∀ item ∈ skuStock d whId skuId, item.2.Covered) :
    ∀ pick ∈ callPicks rt d whId skuId quantity, pick.Fits := by
  intro pick hpick
  obtain ⟨hmem, hnonneg, hle⟩ := mem_pickEach hpick
  exact ⟨hnonneg, hle, hcovered _ (mem_orderBy.1 hmem)⟩

theorem picksFit_callPicked (hcovered : ∀ item ∈ skuStock d whId skuId, item.2.Covered) :
    PicksFit d (callPicked rt d whId skuId quantity) where
  found := by
    have hsublist : (callPicked rt d whId skuId quantity).Sublist
        (callPicks rt d whId skuId quantity) := List.filter_sublist
    replace hsublist := hsublist.map fun pick => (pick.key, pick.inv)
    refine found_callPicks.sublist ?_ fun item hitem => hsublist.subset hitem
    exact found_callPicks.nodup.sublist (hsublist.map Prod.fst)
  fits pick hpick := fits_callPicks hcovered pick (List.mem_of_mem_filter hpick)
  pos pick hpick := of_decide_eq_true (List.mem_filter.1 hpick).2

/-- No two picks of a call are of one row. -/
theorem nodup_callPicks : ((callPicks rt d whId skuId quantity).map Pick.key).Nodup := by
  have hfound : Found ((callPicks rt d whId skuId quantity).map fun pick => (pick.key, pick.inv))
      d := found_callPicks
  have hkeys := hfound.nodup
  rwa [List.map_map] at hkeys

/-- The rows are those of the table. -/
theorem get?_of_mem_callPicks {pick : Pick} (hpick : pick ∈ callPicks rt d whId skuId quantity) :
    d.get? pick.key = some (.inventory pick.inv) :=
  found_callPicks.get? _ _ (List.mem_map.2 ⟨pick, hpick, rfl⟩)

/-! #### What is written -/

/-- The tables that a call leaves: the rows that are picked from are written, and the picks are
logged under new identifiers. -/
structure CallWritten (now : ℤ) (d d' : WmsDb) (picks : List Pick) (logs : List InventoryLog) :
    Prop where
  logged : List.Forall₂ Pick.IsLog picks logs
  new : ∀ log ∈ logs,
    (Txn.overlay d (picks.map (Pick.write now))).get? (.inventoryLog log.id) = none
  nodup : (logs.map InventoryLog.id).Nodup
  db : d' = Txn.overlay (Txn.overlay d (picks.map (Pick.write now))) (logs.map logWrite)

section Written

variable {picks : List Pick} {pick : Pick} {logs : List InventoryLog} {key : WmsKey}

theorem mem_writtenKeys_iff :
    key ∈ (picks.map (Pick.write now)).map Prod.fst ↔ ∃ pick ∈ picks, pick.key = key := by
  rw [List.map_map]
  exact List.mem_map

/-- A write under keys that are all different is there. -/
theorem get?_overlay_write (hnodup : (picks.map Pick.key).Nodup) (hpick : pick ∈ picks) :
    (Txn.overlay d (picks.map (Pick.write now))).get? pick.key =
      some (.inventory (pick.taken now)) := by
  obtain ⟨row, hrow, hget⟩ :=
    Txn.get?_overlay_of_mem (d := d) (mem_writtenKeys_iff.2 ⟨pick, hpick, rfl⟩)
  obtain ⟨pick', hpick', heq⟩ := List.mem_map.1 hrow
  obtain ⟨hkey', rfl⟩ := Prod.mk.inj heq
  rw [hget, List.inj_on_of_nodup_map hnodup hpick' hpick hkey']

/-- The entries of the log are under keys that were free, so that no row is overwritten. -/
theorem CallWritten.get?_of_ne_none (h : CallWritten now d d' picks logs)
    (hget : (Txn.overlay d (picks.map (Pick.write now))).get? key ≠ none) :
    d'.get? key = (Txn.overlay d (picks.map (Pick.write now))).get? key := by
  rw [h.db]
  refine Txn.get?_overlay_of_notMem fun hkey => ?_
  obtain ⟨item, hitem, rfl⟩ := List.mem_map.1 hkey
  obtain ⟨log, hlog, rfl⟩ := List.mem_map.1 hitem
  exact hget (h.new log hlog)

/-- The rows that are picked from. -/
theorem CallWritten.get?_picked (h : CallWritten now d d' picks logs)
    (hnodup : (picks.map Pick.key).Nodup) (hpick : pick ∈ picks) :
    d'.get? pick.key = some (.inventory (pick.taken now)) := by
  have hget : (Txn.overlay d (picks.map (Pick.write now))).get? pick.key =
      some (.inventory (pick.taken now)) := get?_overlay_write hnodup hpick
  rw [h.get?_of_ne_none (by rw [hget]; exact Option.some_ne_none _), hget]

/-- The other rows. -/
theorem CallWritten.get?_others (h : CallWritten now d d' picks logs)
    (hkey : ∀ pick ∈ picks, pick.key ≠ key) (hget : d.get? key ≠ none) :
    d'.get? key = d.get? key := by
  have heq : (Txn.overlay d (picks.map (Pick.write now))).get? key = d.get? key := by
    refine Txn.get?_overlay_of_notMem fun hmem => ?_
    obtain ⟨pick, hpick, hsame⟩ := mem_writtenKeys_iff.1 hmem
    exact hkey pick hpick hsame
  rw [h.get?_of_ne_none (heq ▸ hget), heq]

/-- **The new entries** are those of the picks. -/
theorem CallWritten.mem_logs_iff (h : CallWritten now d d' picks logs)
    (hread : ∀ pick ∈ picks, d.get? pick.key ≠ none) (log : InventoryLog) :
    log ∈ logs ↔ d.get? (.inventoryLog log.id) = none ∧
      d'.get? (.inventoryLog log.id) = some (.inventoryLog log) := by
  constructor
  · intro hlog
    refine ⟨(Txn.get?_overlay_eq_none (h.new log hlog)).1, ?_⟩
    have hkey : WmsKey.inventoryLog log.id ∈ (logs.map logWrite).map Prod.fst :=
      List.mem_map.2 ⟨_, List.mem_map.2 ⟨log, hlog, rfl⟩, rfl⟩
    obtain ⟨row, hrow, hget⟩ := Txn.get?_overlay_of_mem
      (d := Txn.overlay d (picks.map (Pick.write now))) hkey
    obtain ⟨log', hlog', heq⟩ := List.mem_map.1 hrow
    have hid : log'.id = log.id := WmsKey.inventoryLog.inj (congrArg Prod.fst heq)
    have hrow : WmsRow.inventoryLog log' = row := congrArg Prod.snd heq
    rw [h.db, hget, ← hrow, List.inj_on_of_nodup_map h.nodup hlog' hlog hid]
  · rintro ⟨hfree, hget⟩
    have hnot : WmsKey.inventoryLog log.id ∉ (picks.map (Pick.write now)).map Prod.fst := by
      intro hkey
      obtain ⟨pick, hpick, heq⟩ := mem_writtenKeys_iff.1 hkey
      refine hread pick hpick ?_
      rwa [← heq] at hfree
    by_cases hkey : WmsKey.inventoryLog log.id ∈ (logs.map logWrite).map Prod.fst
    · obtain ⟨row, hrow, hget'⟩ := Txn.get?_overlay_of_mem
        (d := Txn.overlay d (picks.map (Pick.write now))) hkey
      rw [h.db, hget'] at hget
      cases hget
      obtain ⟨log', hlog', heq⟩ := List.mem_map.1 hrow
      have hlogs : log' = log := WmsRow.inventoryLog.inj (congrArg Prod.snd heq)
      exact hlogs ▸ hlog'
    · rw [h.db, Txn.get?_overlay_of_notMem hkey, Txn.get?_overlay_of_notMem hnot, hfree] at hget
      cases hget

end Written

/-- The rows that are picked from, before and after the call. -/
theorem pickedFrom_map_change {picks : List Pick} (hfits : ∀ pick ∈ picks, pick.Fits) :
    pickedFrom (picks.map (Pick.change now)) =
      (picks.filter fun pick => decide (0 < pick.quantity)).map (Pick.change now) := by
  rw [pickedFrom, List.filter_map]
  refine congrArg (List.map (Pick.change now)) (List.filter_congr fun pick hpick => ?_)
  simp only [Function.comp_apply, (hfits pick hpick).picked_change now, Int.cast_pos]

/-- **The rows of the SKU after a call**, those that are not picked from included. -/
theorem get?_of_callWritten {logs : List InventoryLog}
    (h : CallWritten now d d' (callPicked rt d whId skuId quantity) logs) {pick : Pick}
    (hpick : pick ∈ callPicks rt d whId skuId quantity) :
    d'.get? pick.key = some (.inventory (pick.taken now)) := by
  by_cases hpos : 0 < pick.quantity
  · exact h.get?_picked (nodup_callPicks.sublist (List.filter_sublist.map _))
      (List.mem_filter.2 ⟨hpick, decide_eq_true hpos⟩)
  · -- a row that is not picked from is not written
    have hkey (pick' : Pick) (hpick' : pick' ∈ callPicked rt d whId skuId quantity) :
        pick'.key ≠ pick.key := by
      intro heq
      obtain ⟨hmem, hpos'⟩ := List.mem_filter.1 hpick'
      obtain rfl := List.inj_on_of_nodup_map nodup_callPicks hmem hpick heq
      exact hpos (of_decide_eq_true hpos')
    have hread := get?_of_mem_callPicks hpick
    rw [h.get?_others hkey (hread ▸ Option.some_ne_none _), hread, Pick.taken, if_neg hpos]

/-- **What a call has written** is what it is to do. -/
theorem pickAllocates_of_written (hcollate : Collates rt.collate)
    (hcovered : ∀ item ∈ skuStock d whId skuId, item.2.Covered) {skuName : String}
    {logs : List InventoryLog}
    (h : CallWritten now d d' (callPicked rt d whId skuId quantity) logs) :
    PickAllocates rt d d' whId skuId quantity
      ((callPicked rt d whId skuId quantity).map (Pick.batch skuName),
        quantity - pickTotal (callPicks rt d whId skuId quantity))
      ((callPicks rt d whId skuId quantity).map (Pick.change now)) := by
  have hfits : ∀ pick ∈ callPicks rt d whId skuId quantity, pick.Fits := fits_callPicks hcovered
  have hpicked : PicksFit d (callPicked rt d whId skuId quantity) := picksFit_callPicked hcovered
  have hrows : (callPicks rt d whId skuId quantity).map (fun pick => (pick.key, pick.inv)) =
      fefoStock rt d whId skuId := map_pickEach _ _
  constructor
  case before =>
    rw [List.map_map]
    exact (List.Perm.of_eq hrows).trans (orderBy_perm _ _)
  case after =>
    intro row hrow
    obtain ⟨pick, hpick, rfl⟩ := List.mem_map.1 hrow
    exact get?_of_callWritten h hpick
  case others =>
    intro key hkey hget
    refine h.get?_others (fun pick hpick heq => ?_) hget
    refine hkey (List.mem_map.2 ⟨pick.change now, List.mem_map.2 ⟨pick, ?_, rfl⟩, heq⟩)
    exact List.mem_of_mem_filter hpick
  case fefo =>
    have hsorted : (fefoStock rt d whId skuId).Pairwise
        fun item later => ¬ FefoBefore rt later.2 item.2 := fefo_fefoStock hcollate
    rw [← hrows, List.pairwise_map] at hsorted
    exact List.pairwise_map.2 hsorted
  case conserves =>
    have hsum : (((callPicks rt d whId skuId quantity).map (Pick.change now)).map
        StockChange.picked).sum = pickTotal (callPicks rt d whId skuId quantity) := by
      rw [List.map_map, pickTotal, Int.cast_list_sum, List.map_map]
      exact congrArg List.sum (List.map_congr_left fun pick hpick =>
        (hfits pick hpick).picked_change now)
    rw [hsum]
    push_cast
    ring
  case locked =>
    intro row hrow
    obtain ⟨pick, hpick, rfl⟩ := List.mem_map.1 hrow
    exact ⟨pick.lockedQty_taken now, (hfits pick hpick).locked_le now⟩
  case exhausted =>
    intro hremaining row hrow
    obtain ⟨pick, hpick, rfl⟩ := List.mem_map.1 hrow
    exact (hfits pick hpick).available_lt now (pickEach_exhausted hremaining pick hpick)
  case greedy =>
    refine List.pairwise_map.2 ((pickEach_greedy quantity _).imp_of_mem ?_)
    intro pick later hpick hlater hgreedy hpos
    rw [(hfits later hlater).picked_change now, Int.cast_pos] at hpos
    exact (hfits pick hpick).available_lt now (hgreedy hpos)
  case answered =>
    rw [pickedFrom_map_change hfits, List.forall₂_map_left_iff, List.forall₂_map_right_iff]
    refine List.forall₂_same.2 fun pick hpick => ?_
    exact ((hpicked.fits pick hpick).picked_change now).symm
  case logged =>
    refine ⟨logs, ?_, h.mem_logs_iff fun pick hpick => ?_⟩
    · rw [pickedFrom_map_change hfits, List.forall₂_map_left_iff]
      refine ((List.forall₂_and_left _ _).2 ⟨hpicked.fits, h.logged⟩).imp fun pick log hlog => ?_
      rw [hlog.1.picked_change now]
      exact ⟨hlog.2.inventoryId, hlog.2.quantity⟩
    · rw [get?_of_mem_callPicks (List.mem_of_mem_filter hpick)]
      exact Option.some_ne_none _

/-! #### When it returns -/

/-- The rows of the query, and the name of the SKU. -/
theorem decides_pickRows {P : Session WmsKey WmsRow → Prop} (hsku : skuIdAt d code = some skuId)
    (hP : ∀ s, P s → s.working = d) : ∃ skuName, Decides P (pickRows rt whId code) True
      fun answer s => answer = (fefoStock rt d whId skuId, skuName) ∧ P s := by
  obtain ⟨sku, hget, rfl⟩ := skuIdAt_eq_some_iff.1 hsku
  refine ⟨sku.name, Decides.bind_true (Q := fun found s =>
    (found.findSome? fun item => item.2.sku?) = some sku ∧ P s)
      (.query fun s hs => ⟨?_, hs⟩) fun found => Decides.assume fun hfound => ?_⟩
  · rw [hP s hs, Txn.findSome?_select_keyQuery, hget]
    rfl
  · rw [hfound]
    refine Decides.bind_true (Q := fun rows s => rows = skuStock d whId sku.id ∧ P s)
      (fun s hs => ⟨fun _ => ⟨_, _, rfl, ?_, hs⟩, fun h => absurd trivial h⟩) fun rows =>
        Decides.assume fun hrows => .ret fun s hs => ⟨?_, hs⟩
    · rw [hP s hs]
      rfl
    · rw [hrows]
      rfl

/-- **When a call returns**, and what it has written then. -/
theorem decides_pickFromStock (hready : PickReady ids d warehouseId code whId skuId) :
    Decides (fun s => s.working = d ∧ s.ids = ids) (pickFromStock rt now warehouseId code quantity)
      (PickCondition rt d whId skuId quantity) fun answer s => ∃ skuName logs,
        answer = ((callPicked rt d whId skuId quantity).map (Pick.batch skuName),
          quantity - pickTotal (callPicks rt d whId skuId quantity)) ∧
        CallWritten now d s.committed (callPicked rt d whId skuId quantity) logs := by
  let P (s : Session WmsKey WmsRow) : Prop := s.working = d ∧ s.ids = ids
  let picks := callPicked rt d whId skuId quantity
  have hpicked : PicksFit d picks := picksFit_callPicked hready.covered
  have hid : Decides P (toUuid warehouseId) True fun id s => id = whId ∧ P s := by
    rw [toUuid, hready.warehouse]
    exact .ret fun s hs => ⟨rfl, hs⟩
  obtain ⟨skuName, hrows⟩ : ∃ skuName, Decides P (pickRows rt whId code) True
      fun answer s => answer = (fefoStock rt d whId skuId, skuName) ∧ P s :=
    decides_pickRows hready.sku fun s hs => hs.1
  have hstock : fefoStock rt d whId skuId ≠ [] := by
    intro hnil
    obtain ⟨item, hitem⟩ := List.exists_mem_of_ne_nil _ hready.stock
    have hmem : item ∈ fefoStock rt d whId skuId := mem_orderBy.2 hitem
    rw [hnil] at hmem
    cases hmem
  refine hid.bind_true fun id => Decides.assume fun hid => ?_
  rw [hid]
  refine hrows.bind_true fun answer => Decides.assume fun heq => ?_
  subst heq
  dsimp only
  rw [if_neg hstock, pickPlan_eq, pickCondition_iff]
  split_ifs with hlazy
  · -- the name of the SKU cannot be loaded
    refine Decides.throw.conseq (fun _ hs => hs) (fun _ _ => ?_) fun _ _ h => h
    obtain ⟨pick, hpick⟩ := List.exists_mem_of_ne_nil _ hlazy.1
    refine iff_of_false not_false fun h => ?_
    have hloads := (h pick hpick).1
    rw [hlazy.2] at hloads
    cases hloads
  · have hloads (pick : Pick) (hpick : pick ∈ picks) : rt.lazyLoads = true := by
      by_contra hnot
      exact hlazy ⟨List.ne_nil_of_mem hpick, Bool.eq_false_iff.2 hnot⟩
    have hupdates : Decides P (Prog.forEach picks (updatePick now))
        (∀ pick ∈ picks, FitsInteger (pick.inv.version + 1))
        fun _ => PicksWritten now d ids picks [] :=
      (Decides.forEach (fun pick left => decides_updatePick hpicked pick left) picks).conseq
        (fun s hs => ⟨⟨[], rfl, hs.1⟩, hs.2⟩) (fun _ _ => Iff.rfl) fun _ _ h => h
    have hlogs : Decides (PicksWritten now d ids picks []) (Prog.forEach picks logPick) True
        fun _ => PicksLogged (Txn.overlay d (picks.map (Pick.write now))) picks [] := by
      refine (Decides.forEach_true (fun pick left => decides_logPick hpicked pick left)
        picks).conseq (fun s hs => ?_) (fun _ _ => Iff.rfl) fun _ _ h => h
      obtain ⟨done, heq, hworking⟩ := hs.working
      rw [List.append_nil] at heq
      subst heq
      refine ⟨⟨[], [], rfl, .nil, fun _ h => absurd h List.not_mem_nil, List.nodup_nil, hworking⟩,
        hs.ids_eq ▸ hready.injective, fun n => ?_⟩
      rw [hworking, hs.ids_eq, Txn.get?_overlay_of_notMem, hready.unused n]
      intro hkey
      obtain ⟨pick, hpick, heq⟩ := mem_writtenKeys_iff.1 hkey
      have hread := get?_of_mem_callPicks (List.mem_of_mem_filter hpick)
      rw [heq, hready.unused n] at hread
      cases hread
    refine ((hupdates.bind fun _ => hlogs.bind_true fun _ => (Decides.commitOr
      (Q := fun _ s => ∃ logs, CallWritten now d s.committed picks logs) fun s hs => ?_).bind_true
        fun _ => Decides.ret fun s hs => ?_)).conseq (fun _ hs => hs) (fun _ _ => ?_)
          fun _ _ h => h
    · obtain ⟨done, logs, heq, hlogged, hnew, hnodup, hworking⟩ := hs.logs
      rw [List.append_nil] at heq
      subst heq
      exact ⟨logs, hlogged, hnew, hnodup, hworking⟩
    · obtain ⟨logs, hwritten⟩ := hs
      exact ⟨skuName, logs, rfl, hwritten⟩
    · rw [and_true]
      exact ⟨fun h pick hpick => ⟨hloads pick hpick, h pick hpick⟩, fun h pick hpick =>
        (h pick hpick).2⟩

/-- **The allocation of `pick_from_stock`**: a call does what it is to do exactly when nothing is
picked, or the session has the SKU and the versions of the rows can be counted up. -/
theorem pickAllocates_iff (rt : Runtime) (hcollate : Collates rt.collate) (now : ℤ)
    (ids : ℕ → ℕ) (d : WmsDb) (warehouseId : IdArg) (code : String) (whId skuId : Uuid)
    (hready : PickReady ids d warehouseId code whId skuId) (quantity : ℤ) :
    (∃ answer d' rows, (pickFromStock rt now warehouseId code quantity).run ids d =
        (.ok answer, d') ∧ PickAllocates rt d d' whId skuId quantity answer rows) ↔
      PickCondition rt d whId skuId quantity := by
  constructor
  · rintro ⟨answer, d', rows, hrun, -⟩
    exact ((decides_pickFromStock hready).returns_iff ⟨rfl, rfl⟩).1 ⟨answer, d', hrun⟩
  · intro hcondition
    obtain ⟨answer, s, hrun, skuName, logs, rfl, hwritten⟩ :=
      ((decides_pickFromStock hready).run ⟨rfl, rfl⟩).1 hcondition
    exact ⟨_, _, _, hrun, pickAllocates_of_written hcollate hready.covered hwritten⟩

/-- A session that has the SKU. -/
theorem pickCondition_of_loads (hloads : rt.lazyLoads = true)
    (hversions : ∀ item ∈ skuStock d whId skuId, FitsInteger (item.2.version + 1)) :
    PickCondition rt d whId skuId quantity := by
  intro before item after heq _ _
  have hmem : item ∈ fefoStock rt d whId skuId := by
    rw [heq]
    exact List.mem_append_right _ List.mem_cons_self
  exact ⟨hloads, hversions item (mem_orderBy.1 hmem)⟩

end Call

/-! ### A shelf with five rows -/

/-- A number of pieces, as a column stores it. -/
def pieces (x : ℚ) : Numeric 20 4 := (Numeric.ofRat? x).getD 0

/-- A row of the SKU. -/
def shelfRow (id : Uuid) (batchNo : Option String) (quantity lockedQty : Numeric 20 4)
    (expiryDate : Option ℤ) : Inventory where
  id := id
  warehouseId := 1
  locationId := none
  skuId := 2
  batchNo := batchNo
  quantity := quantity
  lockedQty := lockedQty
  version := 0
  expiryDate := expiryDate
  manufacturingDate := none
  receivedAt := none
  isDeleted := false
  createdAt := 0
  updatedAt := 0

/-- Ten pieces without a day, three and a half of which a half is locked, four that are all locked,
none at all, and two of the same day and batch as the second row. -/
def fiveRows : List Inventory :=
  [shelfRow 10 (some "A") (pieces 10) 0 none,
    shelfRow 11 (some "C") (pieces 3.5) (pieces 0.5) (some 20),
    shelfRow 12 (some "B") (pieces 4) (pieces 4) (some 20),
    shelfRow 13 none 0 0 (some 10),
    shelfRow 14 (some "C") (pieces 2) 0 (some 20)]

/-- The shelf in its warehouse. -/
def fiveRowsDb : WmsDb :=
  Txn.overlay (emptyDb.set (.sku "A") (.sku ⟨2, "A", "A"⟩))
    (fiveRows.map fun inv => (.inventory inv.id, .inventory inv))

/-- A session that holds the SKU. -/
def holdingSku : Runtime := { codePoints with lazyLoads := true }

theorem collates_codePoints : Collates codePoints.collate where
  total x y := by simpa [codePoints] using le_total x y
  trans x y z hxy hyz := decide_eq_true ((of_decide_eq_true hxy).trans (of_decide_eq_true hyz))

theorem fiveRows_ready : PickReady (fun n => 100 + n) fiveRowsDb ⟨"1", some 1⟩ "A" 1 2 where
  warehouse := rfl
  sku := rfl
  stock := by decide +kernel
  covered := by decide +kernel
  injective := fun _ _ h => Nat.add_left_cancel h
  unused _ := rfl

example : (callPicks holdingSku fiveRowsDb 1 2 12).map (fun pick => (pick.inv.id, pick.quantity)) =
    [(13, 0), (12, 0), (11, 3), (14, 2), (10, 7)] := by decide +kernel

/-- Twelve pieces are picked from three of the rows. -/
theorem pickAllocates_fiveRows : ∃ answer d' rows,
    (pickFromStock holdingSku 0 ⟨"1", some 1⟩ "A" 12).run (fun n => 100 + n) fiveRowsDb =
      (.ok answer, d') ∧ PickAllocates holdingSku fiveRowsDb d' 1 2 12 answer rows :=
  (pickAllocates_iff holdingSku collates_codePoints 0 _ fiveRowsDb _ "A" 1 2 fiveRows_ready 12).2
    (pickCondition_of_loads rfl (by decide +kernel))

/-- A session that has not read the SKU raises at the first pick. -/
theorem fiveRows_not_picked : ¬ ∃ answer d' rows,
    (pickFromStock codePoints 0 ⟨"1", some 1⟩ "A" 12).run (fun n => 100 + n) fiveRowsDb =
      (.ok answer, d') ∧ PickAllocates codePoints fiveRowsDb d' 1 2 12 answer rows := by
  rintro ⟨answer, d', rows, hrun, -⟩
  have hraise : ((pickFromStock codePoints 0 ⟨"1", some 1⟩ "A" 12).run (fun n => 100 + n)
      fiveRowsDb).1 = .error .missingGreenlet := by decide +kernel
  rw [hrun] at hraise
  cases hraise

end Wms

end OmsWmsTms
