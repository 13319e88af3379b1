import OmsWmsTms.Wms.AdjustEffect

/-!
# Concurrent adjustments

Any number of calls of `adjust_inventory` run concurrently.  The version guard makes the row that a
call changes the one that it has read, so each commit changes the stock by the quantity of its
movement.

* `AdjustInv` : what holds of all calls in every state of a run.
* `Balanced` : the stock has changed by the new movements, and no row has fallen below zero.
* `adjust_balanced` : it has in every state of a run.
-/

namespace OmsWmsTms

namespace Wms

open Txn (Keeps)

/-- A call of `adjust_inventory`. -/
structure AdjustCall where
  /-- The clock of each attempt. -/
  now : ℕ → ℤ
  /-- The payload. -/
  data : AdjustData

/-- The program of a call. -/
def AdjustCall.prog (rt : Runtime) (call : AdjustCall) : WmsProg InventoryDict :=
  adjustInventory rt call.now call.data

/-- A state of concurrent calls. -/
abbrev AdjustState (P : Type) := Txn.State P WmsKey WmsRow ServiceError InventoryDict

/-- The calls at their start. -/
def adjustStart {P : Type} (rt : Runtime) (d : WmsDb) (calls : P → AdjustCall) : AdjustState P :=
  .start d fun p => (calls p).prog rt

/-! ### The invariant -/

/-- The row that a call changes is the one that it has read, as long as rows advance. -/
theorem AdjustCommit.readCurrent {rt : Runtime} {now : ℕ → ℤ} {data : AdjustData}
    {l : Txn.Local WmsKey WmsRow} {d : WmsDb} (c : AdjustCommit rt now data l d)
    (hreads : ∀ o ∈ l.observed, ∀ key row, (key, row) ∈ o.rows → key ∉ o.pending.map Prod.fst →
      ∃ row', d.get? key = some row' ∧ Advances row row') : ReadCurrent c := by
  intro inv cur hmem hcur hversion
  have hkey : c.key ∉ (skuWrites c.sku c.created).map Prod.fst := by
    unfold skuWrites
    split_ifs with hc
    · simpa using (c.sku_ne_key hc).symm
    · exact List.not_mem_nil
  obtain ⟨row', hrow', hadvances⟩ := hreads _ c.read c.key _ hmem hkey
  obtain rfl : WmsRow.inventory cur = row' := Option.some.inj (hcur.symm.trans hrow')
  cases hadvances with
  | refl => rfl
  | inventory _ hlt => exact absurd hversion hlt.ne'

section Run

variable {P : Type} {rt : Runtime} {calls : P → AdjustCall} {s s' : AdjustState P}
  {label : Txn.Label P} {d d' d'' : WmsDb}

/-- What holds of all calls in every state of a run. -/
structure AdjustInv (rt : Runtime) (calls : P → AdjustCall) (s : AdjustState P) : Prop where
  exclusive : Txn.Exclusive s
  safe : Txn.AllSafe (fun p => adjustContract rt (calls p).now (calls p).data)
    (fun _ _ l _ => adjustPost l) s
  reads : Txn.ReadsKept Advances s

theorem adjustInv_start (rt : Runtime) (d : WmsDb) (calls : P → AdjustCall) :
    AdjustInv rt calls (adjustStart rt d calls) where
  exclusive := Txn.exclusive_start _ _
  safe p := safe_adjustInventory rt (calls p).now (calls p).data d
  reads := Txn.readsKept_start _ _

theorem compatible_adjust (rt : Runtime) (calls : P → AdjustCall) :
    Txn.Compatible fun p => adjustContract rt (calls p).now (calls p).data := by
  rintro p q - l d ⟨-, -, ⟨c⟩⟩
  exact c.keeps_advances.mono fun _ _ => Advances.steady

/-- When a call commits, its row is the one that it has read. -/
theorem AdjustInv.commit (hs : AdjustInv rt calls s) {p : P}
    {next : Bool → WmsProg InventoryDict} (hprog : (s.procs p).prog = .commit next) :
    (s.procs p).loc.commits = [] ∧ (s.procs p).loc.rollbacks < maxRetries ∧
      ∃ c : AdjustCommit rt (calls p).now (calls p).data (s.procs p).loc s.db, ReadCurrent c := by
  obtain ⟨hcommits, hrollbacks, ⟨c⟩⟩ := hs.safe.guar hprog
  exact ⟨hcommits, hrollbacks, c, c.readCurrent (hs.reads p)⟩

variable [DecidableEq P]

theorem AdjustInv.keeps (hs : AdjustInv rt calls s) (h : Txn.system.step s label s') :
    Keeps Advances s.db s'.db := by
  rcases Txn.system_db h with hdb | ⟨p, next, n, hprog, hdb, -⟩
  · rw [hdb]
    exact .refl _
  · obtain ⟨-, -, c, -⟩ := hs.commit hprog
    rw [hdb]
    exact c.keeps_advances

theorem adjustInv_step (hs : AdjustInv rt calls s) (h : Txn.system.step s label s') :
    AdjustInv rt calls s' where
  exclusive := Txn.exclusive_step hs.exclusive h
  safe := Txn.allSafe_step (compatible_adjust rt calls) (fun _ => trivial) hs.exclusive hs.safe h
  reads := Txn.readsKept_step hs.reads h (hs.keeps h)

theorem adjustInv_run {labels : List (Txn.Label P)}
    (h : Txn.system.Run (adjustStart rt d calls) labels s) : AdjustInv rt calls s :=
  h.invariant (adjustInv_start rt d calls) fun _ _ _ => adjustInv_step

/-! ### The balance -/

/-- The stock has changed by the movements that are new, and no row has fallen below zero. -/
structure Balanced (d d' : WmsDb) : Prop where
  balance : ∃ new, movements d' = movements d ++ new ∧
    ∀ place, onHand d' place = onHand d place + (new.map fun m => m.signed place).sum
  nonneg : ∀ key inv, d.get? key = some (.inventory inv) → 0 ≤ inv.quantity.toRat →
    ∃ inv', d'.get? key = some (.inventory inv') ∧ 0 ≤ inv'.quantity.toRat

theorem Balanced.refl (d : WmsDb) : Balanced d d :=
  ⟨⟨[], by simp, fun _ => by simp⟩, fun _ inv h hnonneg => ⟨inv, h, hnonneg⟩⟩

theorem Balanced.trans (h : Balanced d d') (h' : Balanced d' d'') : Balanced d d'' := by
  obtain ⟨new, hmovements, honHand⟩ := h.balance
  obtain ⟨new', hmovements', honHand'⟩ := h'.balance
  refine ⟨⟨new ++ new', by rw [hmovements', hmovements, List.append_assoc], fun place => ?_⟩,
    fun key inv hinv hnonneg => ?_⟩
  · rw [honHand', honHand, List.map_append, List.sum_append, add_assoc]
  · obtain ⟨inv', hinv', hnonneg'⟩ := h.nonneg key inv hinv hnonneg
    exact h'.nonneg key inv' hinv' hnonneg'

/-- A step keeps the balance. -/
theorem balanced_step (hgrid : ∀ p, OnGrid 4 (calls p).data.quantity) (hs : AdjustInv rt calls s)
    (h : Txn.system.step s label s') : Balanced s.db s'.db := by
  rcases Txn.system_db h with hdb | ⟨p, next, n, hprog, hdb, -⟩
  · rw [hdb]
    exact .refl _
  · obtain ⟨-, -, c, hread⟩ := hs.commit hprog
    have heffect := c.effect hread (hgrid p)
    rw [hdb]
    refine ⟨⟨[c.movement], heffect.movements_eq, fun place => ?_⟩, fun key inv => c.nonneg hread⟩
    rw [heffect.onHand_eq, List.map_singleton, List.sum_singleton, heffect.signed_eq]

/-- **No update is lost**: whatever the order of the steps of any number of concurrent calls, the
stock on hand at every place has changed by the movements that they have committed, and no row has
fallen below zero. -/
theorem adjust_balanced (rt : Runtime) (d : WmsDb) (calls : P → AdjustCall)
    (hgrid : ∀ p, OnGrid 4 (calls p).data.quantity) (labels : List (Txn.Label P))
    (s : AdjustState P) (hrun : Txn.system.Run (adjustStart rt d calls) labels s) :
    Balanced d s.db := by
  refine (hrun.invariant (I := fun s => AdjustInv rt calls s ∧ Balanced d s.db)
    ⟨adjustInv_start rt d calls, .refl d⟩ fun s label s' hs hstep => ?_).2
  exact ⟨adjustInv_step hs.1 hstep, hs.2.trans (balanced_step hgrid hs.1 hstep)⟩

end Run

/-! ### Two calls on one row -/

theorem shelf_fits : Int.natAbs 100000 < 10 ^ 20 := by decide

/-- A shelf with ten pieces. -/
def shelf : Inventory where
  id := 4
  warehouseId := 1
  locationId := some 2
  skuId := 3
  batchNo := some "DEFAULT"
  quantity := ⟨100000, shelf_fits⟩
  lockedQty := 0
  version := 0
  expiryDate := none
  manufacturingDate := none
  receivedAt := some 0
  isDeleted := false
  createdAt := 0
  updatedAt := 0

/-- Its warehouse, its location and its SKU. -/
def emptyDb : WmsDb :=
  ((Dict.empty.set (.warehouse 1) (.warehouse ⟨1, "W", .active⟩)).set (.location 2) .location).set
    (.sku "A") (.sku ⟨3, "A", "A"⟩)

/-- The shelf in its warehouse. -/
def shelfDb : WmsDb := emptyDb.set (.inventory 4) (.inventory shelf)

/-- A call for some pieces of the SKU. -/
def adjustShelf (quantity : ℚ) : AdjustCall :=
  ⟨fun attempt => attempt, ⟨⟨"1", some 1⟩, ⟨"2", some 2⟩, "A", quantity, some "DEFAULT", none, none,
    "fefo"⟩⟩

/-- One call puts five pieces on the shelf, another one takes three. -/
def putAndTake : Bool → AdjustCall
  | true => adjustShelf 5
  | false => adjustShelf (-3)

/-- Both read the shelf; the first commits, and the second has to read it again. -/
def readTwice : List (Bool × ℕ) :=
  List.replicate 4 (true, 0) ++ List.replicate 4 (false, 0) ++
    [(true, 0), (true, 0), (true, 8), (true, 0), (true, 0)] ++
    [(false, 0), (false, 0), (false, 0), (false, 0), (false, 0), (false, 9), (false, 0), (false, 0)]

/-- **Both changes are there.** -/
theorem shelfDb_balanced : ∃ s,
    Txn.system.Run (adjustStart ⟨fun _ _ => true, true⟩ shelfDb putAndTake)
      (readTwice.map fun step => .run step.1 step.2) s ∧
    (inventoryAt s.db (.inventory 4)).map (fun inv => (inv.quantity.units, inv.version)) =
      some (120000, 2) ∧ Balanced shelfDb s.db := by
  have hschedule : ((adjustStart ⟨fun _ _ => true, true⟩ shelfDb putAndTake).schedule readTwice).map
      (fun s => (inventoryAt s.db (.inventory 4)).map fun inv =>
        (inv.quantity.units, inv.version)) =
        some (some (120000, 2)) := by decide +kernel
  obtain ⟨s, hs, hstock⟩ := Option.map_eq_some_iff.1 hschedule
  have hrun := Txn.State.run_schedule hs
  exact ⟨s, hrun, hstock, adjust_balanced _ shelfDb putAndTake
    (by rintro (_ | _) <;> decide +kernel)
    _ s hrun⟩

end Wms

end OmsWmsTms
