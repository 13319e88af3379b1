import OmsWmsTms.Txn.Appended
import OmsWmsTms.Wms.CountSpares

/-!
# The audit trail of the stock

`inventory_logs` and `stock_inventory_logs` are to record every change of the stock: what is on hand
of a SKU in a warehouse changes by the quantities of the entries that are appended, which are
positive for stock that comes in and negative for stock that goes out.  `adjust_stock` of
`src/routes/stock.py` appends an entry as well.

* `Routes.adjustStock` : `adjust_stock`.
* `onHandTotal` : what is on hand of a SKU in a warehouse; `audited` : what an entry says of it.
* `Complete` : the changes of the stock are those of the appended entries.
* `Books` : how far they are off; `Books.trans`, `Books.insert` and `Books.update` : one part of a
  run after another, and single writes.
-/

namespace OmsWmsTms

namespace Wms

open Txn (Prog Keeps Triple)

/-! ### The route -/

/-- What a route raises. -/
inductive RouteError
  /-- `HTTPException`. -/
  | http (status : ℕ) (detail : String)
  /-- Another exception. -/
  | service (e : ServiceError)
deriving DecidableEq

/-- The payload of `adjust_stock`. -/
structure AdjustStockData where
  /-- The SKU. -/
  skuId : IdArg
  /-- The warehouse. -/
  warehouseId : IdArg
  /-- The quantity: positive into the stock, negative out of it. -/
  quantity : ℚ
  /-- The operator. -/
  operatorId : Option IdArg := none
  /-- The reason. -/
  reason : Option String := none
  /-- The remark. -/
  remark : Option String := none

/-- The answer of `adjust_stock`. -/
structure AdjustStockAnswer where
  /-- Whether it has succeeded. -/
  success : Bool
  /-- The message. -/
  message : String
  /-- The quantity, without its sign. -/
  quantity : ℚ
  /-- The type of the entry. -/
  type : String
deriving DecidableEq

/-- What the column of the operator keeps. -/
def storeOperator (arg : IdArg) : Except ServiceError Uuid :=
  match arg.uuid? with
  | some id => .ok id
  | none => .error .dataError

/-- The entry of `adjust_stock`. -/
def adjustEntry (data : AdjustStockData) (whId skuId id : Uuid) :
    Except ServiceError StockInventoryLog := do
  let sku ← storeText 64 (Uuid.text skuId)
  let quantityChange ← storeNumeric |data.quantity|
  let operatorId ← data.operatorId.mapM storeOperator
  let reason ← data.reason.mapM (storeText 32)
  let remark ← data.remark.mapM (storeText 500)
  return {
    id, warehouseId := whId, sku
    type := if 0 < data.quantity then "ADJUSTMENT_IN" else "ADJUSTMENT_OUT"
    referenceType := "adjust_stock", quantityChange, operatorId, reason, remark }

/-- `adjust_stock`; `isUser` says which operators there are. -/
def Routes.adjustStock (isUser : Uuid → Bool) (data : AdjustStockData) :
    Prog WmsKey WmsRow RouteError AdjustStockAnswer :=
  match data.skuId.uuid?, data.warehouseId.uuid? with
  | some skuId, some whId =>
    if data.quantity = 0 then .throw (.http 400 "Quantity must be non-zero")
    else do
      let id ← Prog.newId
      let entry ← Prog.ofExcept ((adjustEntry data whId skuId id).mapError .service)
      let found ← Prog.query (Txn.keyQuery (.warehouse whId))
      if found = [] ∨ entry.operatorId.any (fun id => !isUser id) = true then
        .throw (.service .integrityError)
      else
        Prog.insertOr (.service .integrityError) (.stockInventoryLog id) (.stockInventoryLog entry)
        Prog.commitOr (.service .commitFailed)
        return {
          success := true
          message := "Stock adjusted: " ++ if 0 < data.quantity then "IN" else "OUT"
          quantity := |data.quantity|, type := entry.type }
  | _, _ => .throw (.service .valueError)

/-! ### What is on hand -/

/-- A SKU in a warehouse. -/
structure Holding where
  /-- The warehouse. -/
  warehouseId : Uuid
  /-- The SKU. -/
  skuId : Uuid
deriving DecidableEq

/-- The row is of the SKU in the warehouse. -/
def Inventory.IsOf (inv : Inventory) (holding : Holding) : Prop :=
  inv.warehouseId = holding.warehouseId ∧ inv.skuId = holding.skuId

instance (inv : Inventory) (holding : Holding) : Decidable (inv.IsOf holding) :=
  inferInstanceAs (Decidable (_ ∧ _))

/-- The quantity of a row, if it is of the SKU in the warehouse. -/
def quantityOf (holding : Holding) (row : WmsRow) : ℚ :=
  (row.inventory?.map fun inv => if inv.IsOf holding then inv.quantity.toRat else 0).getD 0

/-- What is on hand of a SKU in a warehouse. -/
def onHandTotal (d : WmsDb) (holding : Holding) : ℚ := Txn.total (quantityOf holding) d

/-! ### What the entries say -/

/-- The entry is about the SKU in the warehouse.  `adjust_stock` names the SKU by its identifier,
a count by its code. -/
def StockInventoryLog.IsOf (log : StockInventoryLog) (d : WmsDb) (holding : Holding) : Prop :=
  log.warehouseId = holding.warehouseId ∧
    if log.referenceType = "adjust_stock" then log.sku = Uuid.text holding.skuId
    else skuIdAt d log.sku = some holding.skuId

instance (log : StockInventoryLog) (d : WmsDb) (holding : Holding) :
    Decidable (log.IsOf d holding) := inferInstanceAs (Decidable (_ ∧ ite _ _ _))

/-- What a row of a log says of the SKU in the warehouse. -/
def audited (d : WmsDb) (holding : Holding) : WmsRow → ℚ
  | .inventoryLog log =>
    if (inventoryAt d (.inventory log.inventoryId)).any (fun inv => decide (inv.IsOf holding)) then
      log.quantityChange.toRat
    else 0
  | .stockInventoryLog log => if log.IsOf d holding then log.quantityChange.toRat else 0
  | _ => 0

/-- **The audit trail is complete**: what is on hand has changed by the quantities of the entries
that were appended. -/
def Complete (d d' : WmsDb) : Prop :=
  ∀ holding, onHandTotal d' holding - onHandTotal d holding =
    ((Txn.appended d d').map (audited d' holding)).sum

/-- Every row of the stock is under its primary key. -/
def Keyed (d : WmsDb) : Prop :=
  ∀ key inv, d.get? key = some (.inventory inv) → key = .inventory inv.id

/-! ### The books -/

/-- What an entry refers to is there. -/
def Settled (d : WmsDb) : WmsRow → Prop
  | .inventoryLog log => ∃ inv, d.get? (.inventory log.inventoryId) = some (.inventory inv)
  | .stockInventoryLog log => log.referenceType = "adjust_stock" ∨ skuIdAt d log.sku ≠ none
  | _ => True

section Settled

variable {d d' : WmsDb} {row : WmsRow} {holding : Holding}

theorem skuIdAt_of_steady (h : Keeps Steady d d') {code : String} {skuId : Uuid}
    (hid : skuIdAt d code = some skuId) : skuIdAt d' code = some skuId := by
  obtain ⟨sku, hsku, rfl⟩ := skuIdAt_eq_some_iff.1 hid
  exact skuIdAt_eq_some_iff.2 ⟨sku, get?_sku_of_steady h hsku, rfl⟩

theorem SamePlace.isOf_iff {inv inv' : Inventory} (h : SamePlace inv inv') :
    inv'.IsOf holding ↔ inv.IsOf holding := by
  rw [Inventory.IsOf, Inventory.IsOf, h.1, h.2.2]

theorem Settled.steady (h : Settled d row) (hsteady : Keeps Steady d d') : Settled d' row := by
  cases row with
  | inventoryLog log =>
    obtain ⟨inv, hinv⟩ := h
    obtain ⟨inv', hinv', -⟩ := get?_inventory_of_steady hsteady hinv
    exact ⟨inv', hinv'⟩
  | stockInventoryLog log =>
    refine h.imp_right fun hne => ?_
    obtain ⟨skuId, hid⟩ := Option.ne_none_iff_exists'.1 hne
    rw [skuIdAt_of_steady hsteady hid]
    exact Option.some_ne_none skuId
  | _ => trivial

/-- A settled entry says the same later on. -/
theorem Settled.audited_eq (h : Settled d row) (hsteady : Keeps Steady d d') :
    audited d' holding row = audited d holding row := by
  cases row with
  | inventoryLog log =>
    obtain ⟨inv, hinv⟩ := h
    obtain ⟨inv', hinv', hplace⟩ := get?_inventory_of_steady hsteady hinv
    simp only [audited, inventoryAt_eq_some_iff.2 hinv, inventoryAt_eq_some_iff.2 hinv',
      Option.any_some, hplace.isOf_iff]
  | stockInventoryLog log =>
    have hiff : log.IsOf d' holding ↔ log.IsOf d holding := by
      unfold StockInventoryLog.IsOf
      refine and_congr_right fun _ => ?_
      split_ifs with hroute
      · rfl
      · obtain ⟨skuId, hid⟩ := Option.ne_none_iff_exists'.1 (h.resolve_left hroute)
        rw [hid, skuIdAt_of_steady hsteady hid]
    simp only [audited, hiff]
  | _ => rfl

/-- Rows that are kept say the same as before. -/
theorem keeps_audited (h : Keeps Steady d d') (e : WmsDb) (holding : Holding) :
    Keeps (fun row row' => audited e holding row' = audited e holding row) d d' := by
  refine h.mono fun row row' hsteady => ?_
  cases hsteady <;> rfl

end Settled

/-- From `d` to `w`, rows are only added, or change in their places, and what is on hand has changed
by the appended entries and by `off`. -/
structure Books (off : Holding → ℚ) (d w : WmsDb) : Prop where
  keyed : Keyed w
  kept : Keeps Steady d w
  settled : ∀ row ∈ Txn.appended d w, Settled w row
  balance : ∀ holding, onHandTotal w holding - onHandTotal d holding =
    ((Txn.appended d w).map (audited w holding)).sum + off holding

namespace Books

variable {off off' : Holding → ℚ} {d w w' : WmsDb} {key : WmsKey} {inv inv' : Inventory}

theorem refl (hd : Keyed d) : Books (fun _ => 0) d d where
  keyed := hd
  kept := .refl d
  settled row hrow := by
    rw [Txn.appended_self] at hrow
    cases hrow
  balance holding := by
    rw [Txn.appended_self]
    simp

theorem congr (h : Books off d w) (hoff : ∀ holding, off holding = off' holding) :
    Books off' d w := by
  obtain rfl : off = off' := funext hoff
  exact h

/-- **Balanced books are a complete trail.** -/
theorem complete (h : Books (fun _ => 0) d w) : Complete d w := by
  intro holding
  rw [h.balance holding, add_zero]

/-- **One part of a run after another.** -/
theorem trans (h : Books off d w) (h' : Books off' w w') :
    Books (fun holding => off holding + off' holding) d w' where
  keyed := h'.keyed
  kept := h.kept.trans h'.kept
  settled row hrow := by
    obtain ⟨key, hfree, hget⟩ := Txn.mem_appended.1 hrow
    cases hw : w.get? key with
    | none => exact h'.settled row (Txn.mem_appended.2 ⟨key, hw, hget⟩)
    | some old =>
      obtain ⟨row', hrow', hsteady⟩ := h'.kept key old hw
      rw [hget] at hrow'
      cases hrow'
      have hold := (h.settled old (Txn.mem_appended.2 ⟨key, hfree, hw⟩)).steady h'.kept
      cases hsteady with
      | refl => exact hold
      | inventory => trivial
  balance holding := by
    -- all the entries are read as they are understood at the end
    have hfirst : ((Txn.appended d w).map (audited w holding)).sum =
        ((Txn.appended d w).map (audited w' holding)).sum := by
      congr 1
      exact List.map_congr_left fun row hrow => ((h.settled row hrow).audited_eq h'.kept).symm
    have hall := Txn.sum_appended (keeps_audited (h.kept.trans h'.kept) w' holding)
    have hpart := Txn.sum_appended (keeps_audited h.kept w' holding)
    have hpart' := Txn.sum_appended (keeps_audited h'.kept w' holding)
    have hbalance := h.balance holding
    have hbalance' := h'.balance holding
    rw [hfirst] at hbalance
    linarith

/-- **A new row.** -/
theorem insert (hw : Keyed w) (row : WmsRow) (hfree : w.get? key = none)
    (hkey : ∀ inv, row = .inventory inv → key = .inventory inv.id)
    (hsettled : Settled (w.set key row) row) :
    Books (fun holding => quantityOf holding row - audited (w.set key row) holding row)
      w (w.set key row) where
  keyed key' inv hget := by
    rw [Dict.get?_set] at hget
    split_ifs at hget with hk
    · exact hk ▸ hkey inv (Option.some.inj hget)
    · exact hw key' inv hget
  kept := Txn.keeps_set fun r hr => by
    rw [hfree] at hr
    cases hr
  settled row' hrow' := by
    obtain ⟨key', hfree', hget⟩ := Txn.mem_appended.1 hrow'
    rw [Dict.get?_set] at hget
    split_ifs at hget
    · cases hget
      exact hsettled
    · rw [hfree'] at hget
      cases hget
  balance holding := by
    rw [Txn.sum_appended (keeps_audited (Txn.keeps_set fun r hr => by rw [hfree] at hr; cases hr)
      _ holding), Txn.total_set_of_none hfree, onHandTotal, onHandTotal,
      Txn.total_set_of_none hfree]
    ring

/-- **A changed row of the stock.** -/
theorem update (hw : Keyed w) (hget : w.get? key = some (.inventory inv))
    (hplace : SamePlace inv inv') (hid : inv'.id = inv.id) :
    Books (fun holding => if inv.IsOf holding then inv'.quantity.toRat - inv.quantity.toRat else 0)
      w (w.set key (.inventory inv')) where
  keyed key' inv'' hget' := by
    rw [Dict.get?_set] at hget'
    split_ifs at hget' with hk
    · cases hget'
      rw [← hk, hid]
      exact hw key inv hget
    · exact hw key' inv'' hget'
  kept := Txn.keeps_set fun r hr => by
    rw [hget] at hr
    cases hr
    exact .inventory hplace
  settled row hrow := by
    obtain ⟨key', hfree, hget'⟩ := Txn.mem_appended.1 hrow
    rw [Dict.get?_set] at hget'
    split_ifs at hget' with hk
    · rw [← hk, hget] at hfree
      cases hfree
    · rw [hfree] at hget'
      cases hget'
  balance holding := by
    have hkept : Keeps Steady w (w.set key (.inventory inv')) := Txn.keeps_set fun r hr => by
      rw [hget] at hr
      cases hr
      exact .inventory hplace
    rw [Txn.sum_appended (keeps_audited hkept _ holding), Txn.total_set_of_get? hget, onHandTotal,
      onHandTotal, Txn.total_set_of_get? hget]
    simp only [quantityOf, audited, WmsRow.inventory?, Option.map_some, Option.getD_some,
      hplace.isOf_iff]
    split_ifs <;> ring

end Books

end Wms

end OmsWmsTms
