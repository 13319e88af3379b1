import OmsWmsTms.Lts.Basic
import OmsWmsTms.Wms.CountSpares

/-!
# Runs of the writers of the stock

Calls of the six writers, one after another, each running alone to its commit or rollback.

* `stockSystem` : the runs.
* `Spares` : the condition on a call; `sound_of_spares` : the runs whose calls meet it keep every
  row sound.
* `lockedDb_unsound` : an adjustment and a count that take what is locked.
-/

namespace OmsWmsTms

namespace Wms

/-- A call of a writer of the stock, with the clock. -/
inductive StockCall
  | adjustInventory (now : ℕ → ℤ) (data : AdjustData)
  | stockIn (warehouseId : IdArg) (data : StockInData)
  | stockOut (warehouseId : IdArg) (data : StockOutData)
  | adjustStockCount (now : ℤ) (data : CountData)
  | pickFromStock (now : ℤ) (warehouseId : IdArg) (sku : String) (quantity : ℤ)
  | releaseLocked (now : ℤ)

/-- The committed rows after a call that runs alone. -/
def StockCall.apply (rt : Runtime) (call : StockCall) (ids : ℕ → ℕ) (d : WmsDb) : WmsDb :=
  match call with
  | adjustInventory now data => ((Wms.adjustInventory rt now data).run ids d).2
  | stockIn warehouseId data => ((Wms.stockIn rt warehouseId data).run ids d).2
  | stockOut warehouseId data => ((Wms.stockOut warehouseId data).run ids d).2
  | adjustStockCount now data => ((Wms.adjustStockCount now data).run ids d).2
  | pickFromStock now warehouseId sku quantity =>
    ((Wms.pickFromStock rt now warehouseId sku quantity).run ids d).2
  | releaseLocked now => ((Wms.releaseLocked now).run ids d).2

/-- The sequential runs, with identifiers that are not in use. -/
def stockSystem (rt : Runtime) : Lts WmsDb StockCall where
  step d call d' := ∃ ids, Unused ids d ∧ d' = call.apply rt ids d

/-- **A call spares the locks.** -/
def Spares (rt : Runtime) (d : WmsDb) : StockCall → Prop
  | .adjustInventory _ data => AdjustSpares rt data d
  | .adjustStockCount _ data => CountSpares data d
  | _ => True

/-- **One call.** -/
theorem sound_step {rt : Runtime} {d d' : WmsDb} {call : StockCall} (hd : Sound d)
    (h : (stockSystem rt).step d call d') (hspares : Spares rt d call) : Sound d' := by
  obtain ⟨ids, hids, rfl⟩ := h
  cases call with
  | adjustInventory now data => exact sound_adjustInventory hd hids hspares
  | stockIn warehouseId data => exact sound_stockIn rt warehouseId data hd
  | stockOut warehouseId data => exact sound_stockOut warehouseId data hd
  | adjustStockCount now data => exact sound_adjustStockCount hd hids hspares
  | pickFromStock now warehouseId sku quantity =>
    exact sound_pickFromStock rt now warehouseId sku quantity hd
  | releaseLocked now => exact sound_releaseLocked now hd

/-- **The stock invariant.**  In every run whose calls spare the locks, every row of every state
that is reached covers its lock. -/
theorem sound_of_spares (rt : Runtime) (d d' : WmsDb) (calls : List StockCall) (hd : Sound d)
    (h : ((stockSystem rt).guard (Spares rt)).Run d calls d') : Sound d' :=
  h.invariant hd fun _ _ _ hd hstep => sound_step hd hstep.1 hstep.2

/-! ### Locked stock -/

/-- Two batches of one SKU: ten pieces that expire first, of which eight are locked, and ten pieces
that expire later. -/
def lockedDb : WmsDb :=
  (emptyDb.set (.inventory 4) (.inventory { shelf with
    lockedQty := ⟨80000, by decide⟩, expiryDate := some 1 })).set (.inventory 5)
      (.inventory { shelf with id := 5, batchNo := some "B", expiryDate := some 2 })

/-- The first batch alone. -/
def lockedShelfDb : WmsDb :=
  emptyDb.set (.inventory 4) (.inventory { shelf with lockedQty := ⟨80000, by decide⟩ })

theorem get?_lockedDb {key : WmsKey} {inv : Inventory}
    (h : lockedDb.get? key = some (.inventory inv)) : inv.skuId = 3 ∧ inv.Covered := by
  unfold lockedDb emptyDb at h
  simp only [Dict.get?_set, Dict.get?_empty] at h
  split_ifs at h
  all_goals cases h
  all_goals exact ⟨rfl, by decide +kernel⟩

theorem get?_lockedShelfDb {key : WmsKey} {inv : Inventory}
    (h : lockedShelfDb.get? key = some (.inventory inv)) : inv.skuId = 3 ∧ inv.Covered := by
  unfold lockedShelfDb emptyDb at h
  simp only [Dict.get?_set, Dict.get?_empty] at h
  split_ifs at h
  all_goals cases h
  exact ⟨rfl, by decide +kernel⟩

theorem get?_emptyDb (key : WmsKey) (inv : Inventory) :
    emptyDb.get? key ≠ some (.inventory inv) := by
  intro h
  unfold emptyDb at h
  simp only [Dict.get?_set, Dict.get?_empty] at h
  split_ifs at h
  all_goals cases h

/-- The identifiers from a hundred on are not in use when all stock is of the SKU 3. -/
theorem unused_hundreds {d : WmsDb}
    (hstock : ∀ key inv, d.get? key = some (.inventory inv) → inv.skuId = 3)
    (hsku : ∀ code sku, d.get? (.sku code) = some (.sku sku) → sku.id = 3) :
    Unused hundreds d where
  injective _ _ heq := Nat.add_right_cancel heq
  stock n key inv hget := by
    rw [hstock key inv hget]
    change 3 ≠ n + 100
    omega
  sku n code sku hget := by
    rw [hsku code sku hget]
    change 3 ≠ n + 100
    omega

theorem get?_sku_emptyDb {code : String} {sku : Oms.Sku}
    (h : emptyDb.get? (.sku code) = some (.sku sku)) : sku.id = 3 := by
  unfold emptyDb at h
  simp only [Dict.get?_set, Dict.get?_empty] at h
  split_ifs at h
  all_goals cases h
  rfl

theorem unused_lockedDb : Unused hundreds lockedDb :=
  unused_hundreds (fun _ _ h => (get?_lockedDb h).1) fun code sku h => get?_sku_emptyDb (by
    unfold lockedDb at h
    rwa [Dict.get?_set, if_neg (fun h => nomatch h), Dict.get?_set,
      if_neg (fun h => nomatch h)] at h)

theorem unused_lockedShelfDb : Unused hundreds lockedShelfDb :=
  unused_hundreds (fun _ _ h => (get?_lockedShelfDb h).1) fun code sku h => get?_sku_emptyDb (by
    unfold lockedShelfDb at h
    rwa [Dict.get?_set, if_neg (fun h => nomatch h)] at h)

theorem unused_emptyDb : Unused hundreds emptyDb :=
  unused_hundreds (fun key inv h => absurd h (get?_emptyDb key inv)) fun _ _ => get?_sku_emptyDb

/-- A count of the SKU on the shelf. -/
def countShelf (actual : QuantityArg) : StockCall :=
  .adjustStockCount 0 {
    warehouseId := some ⟨"1", some 1⟩
    locationId := some ⟨"2", some 2⟩
    countResults := [{ sku := some (some "A"), actualQty := some actual }] }

/-- A call takes sound rows to rows that are not. -/
def Breaks (rt : Runtime) (d : WmsDb) (call : StockCall) : Prop :=
  Sound d ∧ ∃ d', (stockSystem rt).Run d [call] d' ∧ ¬ Sound d'

theorem breaks_of_apply {rt : Runtime} {d : WmsDb} {call : StockCall} {ids : ℕ → ℕ} (hd : Sound d)
    (hids : Unused ids d) (key : WmsKey)
    (h : (inventoryAt (call.apply rt ids d) key).any (fun inv => ¬ inv.Covered) = true) :
    Breaks rt d call := by
  refine ⟨hd, _, .single ⟨ids, hids, rfl⟩, fun hsound => ?_⟩
  cases hinv : inventoryAt (call.apply rt ids d) key with
  | none =>
    rw [hinv] at h
    cases h
  | some inv =>
    rw [hinv] at h
    exact of_decide_eq_true h (hsound key inv (inventoryAt_eq_some_iff.1 hinv))

/-- Two pieces can be taken from the batch of which eight are locked. -/
theorem lockedDb_sound : ∃ d', (stockSystem ⟨fun _ _ => true, false⟩).Run lockedDb
    [.adjustInventory (fun _ => 0) (adjustShelf (-2)).data] d' ∧ Sound d' := by
  refine ⟨_, .single ⟨hundreds, unused_lockedDb, rfl⟩, sound_of_spares ⟨fun _ _ => true, false⟩
    lockedDb _ [.adjustInventory (fun _ => 0) (adjustShelf (-2)).data]
    (fun _ _ h => (get?_lockedDb h).2) (.single ⟨⟨hundreds, unused_lockedDb, rfl⟩, ?_⟩)⟩
  rintro ⟨whId, locId, skuId⟩ ⟨hwh, hloc, sku, hsku, hid⟩ key inv hchoice
  cases hwh
  cases hloc
  have hfound : lockedDb.get? (.sku (adjustShelf (-2)).data.sku) =
      some (.sku ⟨3, "A", "A"⟩) := by decide +kernel
  rw [hfound] at hsku
  cases hsku
  subst hid
  have hfirst : choiceOf ⟨fun _ _ => true, false⟩ (adjustShelf (-2)).data
      (Txn.select (stockQuery (adjustShelf (-2)).data 1 2 3) lockedDb) =
        .update (.inventory 4) { shelf with
          lockedQty := ⟨80000, by decide⟩, expiryDate := some 1 } := by decide +kernel
  rw [hfirst] at hchoice
  cases hchoice
  decide +kernel

/-- **What is locked is taken**: an adjustment takes five pieces from the batch of which eight are
locked, a count leaves three there, and another one makes a row with minus five. -/
theorem lockedDb_unsound :
    Breaks ⟨fun _ _ => true, false⟩ lockedDb
      (.adjustInventory (fun _ => 0) (adjustShelf (-5)).data) ∧
    Breaks ⟨fun _ _ => true, false⟩ lockedShelfDb (countShelf ⟨3, "3", true⟩) ∧
    Breaks ⟨fun _ _ => true, false⟩ emptyDb (countShelf ⟨-5, "-5", true⟩) :=
  ⟨breaks_of_apply (fun _ _ h => (get?_lockedDb h).2) unused_lockedDb (.inventory 4)
      (by decide +kernel),
    breaks_of_apply (fun _ _ h => (get?_lockedShelfDb h).2) unused_lockedShelfDb (.inventory 4)
      (by decide +kernel),
    breaks_of_apply (fun key inv h => absurd h (get?_emptyDb key inv)) unused_emptyDb
      (.inventory 100) (by decide +kernel)⟩

end Wms

end OmsWmsTms
