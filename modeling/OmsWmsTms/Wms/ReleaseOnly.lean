import OmsWmsTms.Txn.Decides
import OmsWmsTms.Wms.Ledger

/-!
# Releasing locks moves no stock

`release_locked_inventory_for_cancelled_orders` is to set locks to zero and to leave the quantities
alone.  It adds the locks to the quantities.

* `MovesNoStock` : what the task is to do.
* `releaseLocked_eq` : when it changes nothing.
* `releaseLocked_adds` : what it does otherwise.
* `movesNoStock_iff` : it moves no stock exactly if it releases nothing.
-/

namespace OmsWmsTms

namespace Wms

open Txn (Prog Decides)

/-- The task leaves the quantities alone, sets locks to zero, makes what was locked available, and
changes nothing when it is run again. -/
structure MovesNoStock (now : ℤ) (ids : ℕ → ℕ) (d : WmsDb) : Prop where
  released : ∀ key inv, d.get? key = some (.inventory inv) →
    ∃ inv', ((releaseLocked now).run ids d).2.get? key = some (.inventory inv') ∧
      inv'.quantity = inv.quantity ∧ (inv'.lockedQty = inv.lockedQty ∨ inv'.lockedQty = 0) ∧
      inv'.available = inv.available + (inv.lockedQty.toRat - inv'.lockedQty.toRat)
  again : ∀ now' ids', ((releaseLocked now').run ids' ((releaseLocked now).run ids d).2).2 =
    ((releaseLocked now).run ids d).2

/-! ### A release that adds -/

section

variable {d : WmsDb}

/-- The rows that were released, while some are left. -/
structure Releasing (d : WmsDb) (items : List (WmsKey × Inventory))
    (s : Txn.Session WmsKey WmsRow) : Prop where
  found : Found items s.working
  read : ∀ key inv, (key, inv) ∈ items → d.get? key = some (.inventory inv)
  released : ∀ key inv, d.get? key = some (.inventory inv) → 0 < inv.lockedQty.toRat →
    (key, inv) ∉ items → ∃ inv', s.working.get? key = some (.inventory inv') ∧
      inv'.quantity.toRat = inv.quantity.toRat + inv.lockedQty.toRat

theorem decides_releaseRow (now : ℤ) (item : WmsKey × Inventory)
    (items : List (WmsKey × Inventory)) :
    Decides (Releasing d (item :: items)) (releaseRow now item) (¬ Overflows item)
      fun _ => Releasing d items := by
  obtain ⟨key, inv⟩ := item
  have hstore : (∃ quantity : Numeric 20 4,
      storeNumeric (inv.quantity + inv.lockedQty) = .ok quantity) ↔ ¬ Overflows (key, inv) := by
    rw [Overflows, ← ne_eq, Option.ne_none_iff_exists']
    exact exists_congr fun quantity => storeNumeric_eq_ok_iff
  have hall : Decides (Releasing d ((key, inv) :: items)) (releaseRow now (key, inv))
      ((∃ quantity : Numeric 20 4, storeNumeric (inv.quantity + inv.lockedQty) = .ok quantity) ∧
        True) fun _ => Releasing d items := by
    refine (Decides.ofExcept fun quantity hquantity s hs => And.intro hquantity hs).bind
      fun quantity => Decides.assume fun hquantity => Decides.updateOr fun s hs => ?_
    have hget := hs.found.get? key inv List.mem_cons_self
    have hsum : quantity.toRat = inv.quantity.toRat + inv.lockedQty.toRat :=
      Numeric.toRat_of_ofRat? (inv.quantity.onGrid.add inv.lockedQty.onGrid)
        (storeNumeric_eq_ok_iff.1 hquantity)
    refine ⟨_, hget, hs.found.tail _, fun key' inv' hmem => hs.read key' inv' (.tail _ hmem), ?_⟩
    intro key' inv' hget' hlocked hnot
    by_cases hkey : key = key'
    · subst hkey
      rw [hs.read key inv List.mem_cons_self] at hget'
      cases hget'
      exact ⟨_, by rw [Dict.get?_set, if_pos rfl]; rfl, hsum⟩
    · have hnot' : (key', inv') ∉ (key, inv) :: items := by
        rintro (_ | ⟨_, hmem⟩)
        · exact hkey rfl
        · exact hnot hmem
      obtain ⟨stock, hstock, heq⟩ := hs.released key' inv' hget' hlocked hnot'
      exact ⟨stock, by rw [Dict.get?_set, if_neg hkey]; exact hstock, heq⟩
  exact hall.conseq (fun _ hs => hs) (fun _ _ => by rw [and_true, hstore]) fun _ _ h => h

/-- **The task adds the locks to the quantities**, when an order is cancelled and every sum fits
its column. -/
theorem releaseLocked_adds (now : ℤ) (ids : ℕ → ℕ)
    (hcancelled : ∃ key, d.get? key = some (.order .cancelled))
    (hfits : ∀ key inv, d.get? key = some (.inventory inv) → 0 < inv.lockedQty.toRat →
      ¬ Overflows (key, inv)) {key : WmsKey} {inv : Inventory}
    (hget : d.get? key = some (.inventory inv)) (hlocked : 0 < inv.lockedQty.toRat) :
    ∃ inv', ((releaseLocked now).run ids d).2.get? key = some (.inventory inv') ∧
      inv'.quantity.toRat = inv.quantity.toRat + inv.lockedQty.toRat := by
  let locked (inv : Inventory) : Bool := decide (0 < inv.lockedQty.toRat)
  let rows := stockOf (Txn.select (fun _ row => row.inventory?.any locked) d)
  have hmem (key : WmsKey) (inv : Inventory) : (key, inv) ∈ rows ↔
      d.get? key = some (.inventory inv) ∧ 0 < inv.lockedQty.toRat := by
    rw [mem_stockOf, Txn.mem_select]
    simp [WmsRow.inventory?, locked]
  have hstart : Releasing d rows ⟨d, d, ids⟩ := by
    refine ⟨found_stockOf _ _, fun key inv h => ((hmem key inv).1 h).1, ?_⟩
    exact fun key inv hget hlocked hnot => absurd ((hmem key inv).2 ⟨hget, hlocked⟩) hnot
  obtain ⟨hok, -⟩ := (Decides.forEach (decides_releaseRow now) rows) ⟨d, d, ids⟩ hstart
  obtain ⟨_, s, hexec, hs⟩ := hok fun item hitem =>
    hfits item.1 item.2 ((hmem item.1 item.2).1 hitem).1 ((hmem item.1 item.2).1 hitem).2
  have hne : Txn.select (fun _ row => row.order?.any fun status => status = .cancelled) d ≠ [] := by
    obtain ⟨orderKey, horder⟩ := hcancelled
    refine List.ne_nil_of_mem (a := (orderKey, .order .cancelled)) (Txn.mem_select.2 ⟨horder, ?_⟩)
    rfl
  have hall : (releaseLocked now).exec ⟨d, d, ids⟩ =
      (.ok rows.length, { s with committed := s.working }) := by
    refine (Prog.exec_bind_of_ok (Prog.exec_query _ _)).trans ?_
    rw [if_neg hne]
    refine (Prog.exec_bind_of_ok (Prog.exec_query _ _)).trans ?_
    exact (Prog.exec_bind_of_ok hexec).trans rfl
  have hrun : ((releaseLocked now).run ids d).2 = s.working := by rw [Prog.run, hall]
  rw [hrun]
  exact hs.released key inv hget hlocked List.not_mem_nil

/-- **The task moves no stock exactly if it releases nothing**: no order is cancelled, nothing is
locked, or a sum does not fit its column. -/
theorem movesNoStock_iff (now : ℤ) (ids : ℕ → ℕ) (d : WmsDb) :
    MovesNoStock now ids d ↔ ReleaseRecorded d := by
  constructor
  · intro h hcancelled hfits key inv hget
    by_contra hlocked
    rw [not_le] at hlocked
    have hfits' : ∀ key inv, d.get? key = some (.inventory inv) → 0 < inv.lockedQty.toRat →
        ¬ Overflows (key, inv) := by
      intro key inv hget hlocked
      exact Option.ne_none_iff_exists'.2 (hfits key inv hget hlocked)
    obtain ⟨inv', hget', hsum⟩ := releaseLocked_adds now ids hcancelled hfits' hget hlocked
    obtain ⟨inv'', hget'', hquantity, -⟩ := h.released key inv hget
    rw [hget'] at hget''
    cases hget''
    rw [hquantity] at hsum
    linarith
  · intro h
    refine ⟨fun key inv hget => ?_, fun now' ids' => ?_⟩
    · rw [releaseLocked_eq now h]
      exact ⟨inv, hget, rfl, .inl rfl, by rw [sub_self, add_zero]⟩
    · rw [releaseLocked_eq now h, releaseLocked_eq now' h]

end

/-! ### A locked shelf -/

theorem eightPieces_fits : Int.natAbs 80000 < 10 ^ 20 := by decide

/-- Ten pieces, eight of them locked. -/
def lockedShelf : Inventory := { shelf with lockedQty := ⟨80000, eightPieces_fits⟩ }

theorem eq_lockedShelf {key : WmsKey} {inv : Inventory}
    (h : cancelledDb.get? key = some (.inventory inv)) : inv = lockedShelf := by
  have hshelf := get?_cancelledDb h
  unfold lockedShelfDb emptyDb at hshelf
  simp only [Dict.get?_set, Dict.get?_empty] at hshelf
  split_ifs at hshelf
  all_goals cases hshelf
  rfl

theorem lockedShelf_lockedQty : lockedShelf.lockedQty.toRat = 8 := by
  norm_num [lockedShelf, Numeric.toRat]

theorem lockedShelf_quantity : lockedShelf.quantity.toRat = 10 := by
  norm_num [lockedShelf, shelf, Numeric.toRat]

/-- An order is cancelled, and the shelf is left with eighteen pieces. -/
theorem cancelledDb_moves :
    (∀ key inv, cancelledDb.get? key = some (.inventory inv) → inv.Covered) ∧
      ¬ MovesNoStock 0 (fun n => n + 10) cancelledDb := by
  constructor
  · intro key inv h
    rw [eq_lockedShelf h]
    constructor
    · rw [lockedShelf_lockedQty]
      norm_num
    · rw [lockedShelf_lockedQty, lockedShelf_quantity]
      norm_num
  · intro h
    have hget : cancelledDb.get? (.inventory 4) = some (.inventory lockedShelf) := rfl
    have hlocked : 0 < lockedShelf.lockedQty.toRat := by
      rw [lockedShelf_lockedQty]
      norm_num
    have hfits : ∀ key inv, cancelledDb.get? key = some (.inventory inv) →
        0 < inv.lockedQty.toRat → ¬ Overflows (key, inv) := by
      intro key inv hget _
      rw [eq_lockedShelf hget, Overflows, lockedShelf_lockedQty, lockedShelf_quantity]
      decide +kernel
    obtain ⟨inv', hget', hsum⟩ := releaseLocked_adds 0 (fun n => n + 10) ⟨.order 9, rfl⟩ hfits hget
      hlocked
    obtain ⟨inv'', hget'', hquantity, -⟩ := h.released _ _ hget
    rw [hget'] at hget''
    cases hget''
    rw [hquantity] at hsum
    linarith

end Wms

end OmsWmsTms
