import OmsWmsTms.Txn.Triple
import OmsWmsTms.Wms.AllOrNothing
import OmsWmsTms.Wms.StockSteady

/-!
# The stock invariant

No row of the stock is locked beyond its quantity.  `stock_in` and `stock_out` commit nothing, a
pick takes no more than what is available, and a release adds what was locked; `adjust_inventory`
keeps the invariant when it spares the lock of the batch that it takes from.

* `Sound` : every row covers its lock.
* `sound_stockIn`, `sound_stockOut`, `sound_pickFromStock`, `sound_releaseLocked` : what keeps it.
* `AdjustSpares` : the condition for an adjustment; `sound_adjustInventory`.
-/

namespace OmsWmsTms

namespace Wms

open Txn (Prog Triple)

/-- The lock of a row is within its quantity. -/
structure Inventory.Covered (inv : Inventory) : Prop where
  nonneg : 0 ≤ inv.lockedQty.toRat
  le : inv.lockedQty.toRat ≤ inv.quantity.toRat

instance (inv : Inventory) : Decidable inv.Covered :=
  decidable_of_iff (0 ≤ inv.lockedQty.toRat ∧ inv.lockedQty.toRat ≤ inv.quantity.toRat)
    ⟨fun h => ⟨h.1, h.2⟩, fun h => ⟨h.1, h.2⟩⟩

/-- Every row covers its lock. -/
def Sound (d : WmsDb) : Prop := ∀ key inv, d.get? key = some (.inventory inv) → inv.Covered

theorem Sound.set {d : WmsDb} {key : WmsKey} {row : WmsRow} (h : Sound d)
    (hrow : ∀ inv, row = .inventory inv → inv.Covered) : Sound (d.set key row) := by
  intro key' inv hget
  rw [Dict.get?_set] at hget
  split_ifs at hget
  · exact hrow inv (Option.some.inj hget)
  · exact h key' inv hget

/-- A row with nothing locked. -/
theorem Inventory.Covered.of_unlocked {inv : Inventory} (hlocked : inv.lockedQty = 0)
    (h : 0 ≤ inv.quantity.toRat) : inv.Covered := by
  refine ⟨?_, ?_⟩ <;> rw [hlocked, Numeric.toRat_zero]
  exact h

/-! ### Services that commit nothing -/

section Inserts

variable {d : WmsDb} {ids : ℕ → ℕ}

theorem sound_of_inserts {A : Type} {p : WmsProg A} (h : Inserts p) (hd : Sound d) :
    Sound (p.run ids d).2 :=
  (Triple.writes h (J := fun _ => True) fun _ _ _ _ _ => trivial).run hd trivial

/-- **`stock_in` keeps the invariant**: it commits nothing. -/
theorem sound_stockIn (rt : Runtime) (warehouseId : IdArg) (data : StockInData) (hd : Sound d) :
    Sound ((stockIn rt warehouseId data).run ids d).2 :=
  sound_of_inserts (inserts_stockIn rt warehouseId data) hd

/-- **`stock_out` keeps the invariant**: it commits nothing. -/
theorem sound_stockOut (warehouseId : IdArg) (data : StockOutData) (hd : Sound d) :
    Sound ((stockOut warehouseId data).run ids d).2 :=
  sound_of_inserts (inserts_stockOut warehouseId data) hd

end Inserts

/-! ### Picks -/

section Picks

variable {remaining : ℤ} {rows : List (WmsKey × Inventory)} {pick : Pick}

/-- A pick takes no more than what is available. -/
theorem mem_pickPlan (h : pick ∈ (pickPlan remaining rows).1) :
    (pick.key, pick.inv) ∈ rows ∧ 0 < pick.quantity ∧ (pick.quantity : ℚ) ≤ pick.inv.available := by
  induction rows generalizing remaining with
  | nil => cases h
  | cons item rows ih =>
    obtain ⟨key, inv⟩ := item
    unfold pickPlan at h
    dsimp only at h
    split_ifs at h with hremaining hquantity
    · cases h
    · exact ⟨List.mem_cons_of_mem _ (ih h).1, (ih h).2⟩
    · rcases List.mem_cons.1 h with rfl | h
      · have hpos := not_le.1 hquantity
        have hle := (Int.floor_le (min (remaining : ℚ) (max 0 inv.available))).trans
          (min_le_right _ _)
        refine ⟨List.mem_cons_self, hpos, ?_⟩
        rcases le_max_iff.1 hle with hzero | hle
        · -- a positive quantity is not taken from nothing
          exact absurd (Int.cast_nonpos.1 hzero) hquantity
        · exact hle
      · exact ⟨List.mem_cons_of_mem _ (ih h).1, (ih h).2⟩

theorem pickPlan_keys (remaining : ℤ) (rows : List (WmsKey × Inventory)) :
    ((pickPlan remaining rows).1.map Pick.key).Sublist (rows.map Prod.fst) := by
  induction rows generalizing remaining with
  | nil => exact .slnil
  | cons item rows ih =>
    obtain ⟨key, inv⟩ := item
    unfold pickPlan
    dsimp only
    split_ifs
    · exact List.nil_sublist _
    · exact (ih _).cons _
    · exact (ih _).cons_cons _

end Picks

/-- The rows of a list are there, under different keys. -/
structure Found (rows : List (WmsKey × Inventory)) (w : WmsDb) : Prop where
  nodup : (rows.map Prod.fst).Nodup
  get? : ∀ key inv, (key, inv) ∈ rows → w.get? key = some (.inventory inv)

section Found

variable {rows : List (WmsKey × Inventory)} {w : WmsDb} {key : WmsKey} {inv : Inventory}

/-- After a row of the list is changed, the rest is there. -/
theorem Found.tail (h : Found ((key, inv) :: rows) w) (row : WmsRow) :
    Found rows (w.set key row) where
  nodup := (List.nodup_cons.1 h.nodup).2
  get? key' inv' hmem := by
    have hne : key ≠ key' := by
      rintro rfl
      exact (List.nodup_cons.1 h.nodup).1 (List.mem_map.2 ⟨(key, inv'), hmem, rfl⟩)
    rw [Dict.get?_set, if_neg hne]
    exact h.get? key' inv' (List.mem_cons_of_mem _ hmem)

theorem Found.sublist {rows' : List (WmsKey × Inventory)} (h : Found rows w)
    (hkeys : (rows'.map Prod.fst).Nodup) (hmem : ∀ item ∈ rows', item ∈ rows) : Found rows' w where
  nodup := hkeys
  get? key inv hitem := h.get? key inv (hmem _ hitem)

/-- What a query reads is there. -/
theorem found_stockOf (query : Txn.Query WmsKey WmsRow) (w : WmsDb) :
    Found (stockOf (Txn.select query w)) w where
  nodup := by
    have hkeys (items : List (WmsKey × WmsRow)) :
        ((stockOf items).map Prod.fst).Sublist (items.map Prod.fst) := by
      induction items with
      | nil => exact .slnil
      | cons item items ih =>
        obtain ⟨key, row⟩ := item
        cases row with
        | inventory inv => exact ih.cons_cons key
        | _ => exact ih.cons key
    exact (Txn.nodup_select query w).sublist (hkeys _)
  get? key inv hmem := (Txn.mem_select.1 (mem_stockOf.1 hmem)).1

end Found

theorem triple_selectInventory {I : WmsDb → Prop} {P : Txn.Session WmsKey WmsRow → Prop}
    {cond : Inventory → Bool} {Q : List (WmsKey × Inventory) → Txn.Session WmsKey WmsRow → Prop}
    (h : ∀ s, P s → Q (stockOf (Txn.select (fun _ row => row.inventory?.any cond) s.working)) s) :
    Triple I P (selectInventory cond) Q :=
  fun s hI hs => ⟨hI, fun a ha => by cases ha; exact h s hs⟩

section Writers

variable {d : WmsDb} {ids : ℕ → ℕ}

/-- What is left to do on rows that were read: the rows are as they were, and an invariant of the
rows holds. -/
structure Untouched (J : WmsDb → Prop) (rows : List (WmsKey × Inventory))
    (s : Txn.Session WmsKey WmsRow) : Prop where
  holds : J s.working
  found : Found rows s.working

/-- **One row after another**: each is changed once, from what was read. -/
theorem triple_updateRead {J : WmsDb → Prop} {key : WmsKey} {inv : Inventory}
    {rows : List (WmsKey × Inventory)} {change : Inventory → Inventory}
    (h : ∀ w, J w → w.get? key = some (.inventory inv) → J (w.set key (.inventory (change inv)))) :
    Triple J (Untouched J ((key, inv) :: rows))
      (Prog.updateOr ServiceError.staleData key (WmsRow.mapInventory change))
      fun _ => Untouched J rows := by
  refine Triple.updateOr fun s row hs hrow => ?_
  have hread := hs.found.get? key inv List.mem_cons_self
  rw [hread] at hrow
  cases hrow
  exact ⟨h s.working hs.holds hread, hs.found.tail _⟩

/-- What a pick keeps of the rows: by the change of a row that it has read, and by its logs. -/
structure PickKeeps (now : ℤ) (J : WmsDb → Prop) : Prop where
  pick : ∀ w (pick : Pick) quantity version, J w → w.get? pick.key = some (.inventory pick.inv) →
    (pick.quantity : ℚ) ≤ pick.inv.available →
    Numeric.ofRat? (pick.inv.quantity - pick.quantity) = some quantity →
    version = pick.inv.version + 1 →
    J (w.set pick.key (.inventory (pickStock now quantity version pick.inv)))
  log : ∀ w key row, J w → w.get? key = none → row.inventory? = none → J (w.set key row)

section Pick

variable {J : WmsDb → Prop} {now : ℤ}

theorem triple_updatePick (hJ : PickKeeps now J) {pick : Pick} {picks : List Pick}
    (hpick : (pick.quantity : ℚ) ≤ pick.inv.available) :
    Triple J (Untouched J ((pick :: picks).map fun pick => (pick.key, pick.inv)))
      (updatePick now pick) fun _ => Untouched J (picks.map fun pick => (pick.key, pick.inv)) := by
  refine Triple.bind (Triple.ofExcept (Q := fun quantity s =>
    Numeric.ofRat? (pick.inv.quantity - pick.quantity) = some quantity ∧
      Untouched J ((pick :: picks).map fun pick => (pick.key, pick.inv)) s)
    fun quantity hquantity s hs => ⟨storeNumeric_eq_ok_iff.1 hquantity, hs⟩) fun quantity => ?_
  refine Triple.assume fun hquantity => Triple.bind (Triple.ofExcept (Q := fun version s =>
    version = pick.inv.version + 1 ∧
      Untouched J ((pick :: picks).map fun pick => (pick.key, pick.inv)) s)
    fun version hversion s hs => ⟨(storeInt_eq_ok_iff.1 hversion).2.symm, hs⟩) fun version => ?_
  refine Triple.assume fun hversion => triple_updateRead fun w hw hread => ?_
  exact hJ.pick w pick quantity version hw hread hpick hquantity hversion

theorem triple_logPick (hJ : PickKeeps now J) (pick : Pick) :
    Triple J (fun s => J s.working) (logPick pick) fun _ s => J s.working :=
  .bind (.ofExcept fun _ _ _ hs => hs) fun _ => .bind (.ofExcept fun _ _ _ hs => hs) fun _ =>
    .bind (Q := fun _ s => J s.working) (.newId fun _ hs => hs) fun _ =>
      .insertOr fun s hs hfree => hJ.log s.working _ _ hs hfree rfl

/-- The rows of a pick are there, in some order. -/
theorem triple_pickRows {I : WmsDb → Prop} (rt : Runtime) (whId : Uuid) (skuStr : String) :
    Triple I (fun s => J s.working) (pickRows rt whId skuStr)
      fun answer => Untouched J answer.1 := by
  refine Triple.bind (Q := fun _ s => J s.working) (.query fun _ hs => hs) fun found => ?_
  cases found.findSome? fun item => item.2.sku? with
  | none => exact .ret fun s hs => ⟨hs, List.nodup_nil, fun _ _ h => nomatch h⟩
  | some sku =>
    refine Triple.bind (Q := Untouched J)
      (triple_selectInventory fun s hs => ⟨hs, found_stockOf _ _⟩) fun rows => ?_
    refine .ret fun s hs => ⟨hs.holds, hs.found.sublist ?_ fun item hitem => ?_⟩
    · exact ((orderBy_perm _ rows).map Prod.fst).nodup_iff.2 hs.found.nodup
    · exact mem_orderBy.1 hitem

/-- The `UPDATE`s of a pick. -/
theorem triple_updatePicks (hJ : PickKeeps now J) {picks : List Pick}
    (h : ∀ pick ∈ picks, (pick.quantity : ℚ) ≤ pick.inv.available) :
    Triple J (Untouched J (picks.map fun pick => (pick.key, pick.inv)))
      (Prog.forEach picks (updatePick now)) fun _ s => J s.working := by
  refine (Triple.forEach (J := fun picks s =>
    (∀ pick ∈ picks, (pick.quantity : ℚ) ≤ pick.inv.available) ∧
      Untouched J (picks.map fun pick => (pick.key, pick.inv)) s)
    (fun pick picks => Triple.assume fun hpicks => ?_) picks).conseq (fun s hs => ⟨h, hs⟩)
      fun _ s hs => hs.2.holds
  refine (triple_updatePick hJ (hpicks pick List.mem_cons_self)).conseq (fun _ hs => hs)
    fun _ s hs => ⟨fun pick' hpick' => hpicks pick' (List.mem_cons_of_mem _ hpick'), hs⟩

/-- **What a pick keeps**: what its changes and its logs keep. -/
theorem triple_pickFromStock (hJ : PickKeeps now J) (rt : Runtime) (warehouseId : IdArg)
    (skuStr : String) (quantity : ℤ) : Triple J (fun s => J s.working)
      (pickFromStock rt now warehouseId skuStr quantity) fun _ s => J s.working := by
  refine Triple.bind (Q := fun _ s => J s.working)
    (.writes (reads_toUuid warehouseId) fun _ _ _ _ hrow => hrow.elim) fun whId => ?_
  refine Triple.bind (triple_pickRows rt whId skuStr) fun (rows, skuName) => ?_
  dsimp only
  split_ifs
  · exact .throw
  · exact .throw
  · have hsublist := pickPlan_keys quantity rows
    refine Triple.bind (Q := fun _ s => J s.working) ?_ fun _ => ?_
    · refine (triple_updatePicks hJ fun pick hpick => (mem_pickPlan hpick).2.2).conseq
        (fun s hs => ⟨hs.holds, hs.found.sublist ?_ fun item hitem => ?_⟩) fun _ _ hs => hs
      · rw [List.map_map]
        exact hs.found.nodup.sublist hsublist
      · obtain ⟨pick, hpick, rfl⟩ := List.mem_map.1 hitem
        exact (mem_pickPlan hpick).1
    · refine Triple.bind (Triple.forEach (J := fun _ s => J s.working)
        (fun pick _ => triple_logPick hJ pick) _) fun _ => ?_
      exact Triple.bind (Q := fun _ s => J s.working) (.commitOr fun _ hs => ⟨hs, hs⟩)
        fun _ => .ret fun _ hs => hs

end Pick

/-- What is left of a row covers its lock when no more than the available part is taken. -/
theorem covered_of_take {inv inv' : Inventory} {quantity : ℚ} (hinv : inv.Covered)
    (hlocked : inv'.lockedQty = inv.lockedQty) (hquantity : quantity ≤ inv.available)
    (hstore : Numeric.ofRat? (inv.quantity - quantity) = some inv'.quantity) : inv'.Covered where
  nonneg := hlocked ▸ hinv.nonneg
  le := by
    rw [hlocked]
    refine Numeric.le_toRat_of_ofRat? inv.lockedQty ?_ hstore
    rw [Inventory.available] at hquantity
    linarith

theorem pickKeeps_sound (now : ℤ) : PickKeeps now Sound where
  pick w pick quantity version hw hread hpick hquantity _ := hw.set fun inv hinv => by
    cases hinv
    exact covered_of_take (hw pick.key pick.inv hread) rfl hpick hquantity
  log w key row hw _ hrow := hw.set fun inv hinv => by
    rw [hinv] at hrow
    cases hrow

/-- **`pick_from_stock` keeps the invariant.** -/
theorem sound_pickFromStock (rt : Runtime) (now : ℤ) (warehouseId : IdArg) (skuStr : String)
    (quantity : ℤ) (hd : Sound d) :
    Sound ((pickFromStock rt now warehouseId skuStr quantity).run ids d).2 :=
  (triple_pickFromStock (pickKeeps_sound now) rt warehouseId skuStr quantity).run hd hd

/-! ### The release of locks -/

theorem triple_releaseRow (now : ℤ) (item : WmsKey × Inventory) (rows : List (WmsKey × Inventory)) :
    Triple Sound (Untouched Sound (item :: rows)) (releaseRow now item)
      fun _ => Untouched Sound rows := by
  obtain ⟨key, inv⟩ := item
  refine Triple.bind (Triple.ofExcept (Q := fun quantity s =>
    Numeric.ofRat? (inv.quantity + inv.lockedQty) = some quantity ∧
      Untouched Sound ((key, inv) :: rows) s)
    fun quantity hquantity s hs => ⟨storeNumeric_eq_ok_iff.1 hquantity, hs⟩) fun quantity => ?_
  refine Triple.assume fun hquantity => ?_
  have hcovered (hinv : inv.Covered) : (releaseStock now quantity inv).Covered := by
    refine .of_unlocked rfl ?_
    have hle := Numeric.le_toRat_of_ofRat? 0 (by
      rw [Numeric.toRat_zero]
      exact add_nonneg (hinv.nonneg.trans hinv.le) hinv.nonneg) hquantity
    rwa [Numeric.toRat_zero] at hle
  refine triple_updateRead fun w hw hread => hw.set fun inv' hinv' => ?_
  cases hinv'
  exact hcovered (hw key inv hread)

/-- **The task that releases the locks keeps the invariant.** -/
theorem sound_releaseLocked (now : ℤ) (hd : Sound d) : Sound ((releaseLocked now).run ids d).2 := by
  refine Triple.run (P := fun s => Sound s.working) (Q := fun _ s => Sound s.working) ?_ hd hd
  refine Triple.bind (Q := fun _ s => Sound s.working) (.query fun _ hs => hs) fun cancelled => ?_
  split_ifs
  · exact .ret fun _ hs => hs
  · refine Triple.bind (Q := Untouched Sound)
      (triple_selectInventory fun s hs => ⟨hs, found_stockOf _ _⟩) fun rows => ?_
    refine Triple.bind (Triple.forEach (J := Untouched Sound)
      (fun item rows => triple_releaseRow now item rows) rows) fun _ => ?_
    exact Triple.bind (Q := fun _ s => Sound s.working)
      (.commitOr fun _ hs => ⟨hs.holds, hs.holds⟩) fun _ => .ret fun _ hs => hs

end Writers

/-! ### Adjustments -/

/-- The identifiers that a call will make: no two of them are the same, no stock is of one of them
and no SKU has one of them. -/
structure Unused (ids : ℕ → ℕ) (d : WmsDb) : Prop where
  injective : Function.Injective ids
  stock : ∀ n key inv, d.get? key = some (.inventory inv) → inv.skuId ≠ ids n
  sku : ∀ n code sku, d.get? (.sku code) = some (.sku sku) → sku.id ≠ ids n

/-- **What an adjustment leaves of the row that it chooses**, as the column rounds it, covers the
lock of the row. -/
def AdjustSpares (rt : Runtime) (data : AdjustData) (d : WmsDb) : Prop :=
  ∀ place, Names data d place → ∀ key inv,
    choiceOf rt data (Txn.select
      (stockQuery data place.warehouseId place.locationId place.skuId) d) = .update key inv →
    inv.lockedQty.toRat ≤ Numeric.rounded 4 (inv.quantity + data.quantity)

section Adjust

variable {rt : Runtime} {now : ℕ → ℤ} {data : AdjustData} {d : WmsDb} {ids : ℕ → ℕ}

theorem Sound.overlay_skuWrites (h : Sound d) (sku : Oms.Sku) (created : Bool) :
    Sound (Txn.overlay d (skuWrites sku created)) := by
  unfold skuWrites
  split_ifs
  · exact h.set fun inv hinv => nomatch hinv
  · exact h

/-- The choice of a plan was made on the committed rows. -/
theorem AdjustPlan.names_of_update {now : ℤ} (plan : AdjustPlan rt now data d)
    (hnew : plan.created = true → ∀ key inv, d.get? key = some (.inventory inv) →
      inv.skuId ≠ plan.sku.id) {inv : Inventory}
    (h : choiceOf rt data (Txn.select (stockQuery data plan.whId plan.locId plan.sku.id)
      (Txn.overlay d (skuWrites plan.sku plan.created))) = .update plan.key inv) :
    Names data d ⟨plan.whId, plan.locId, plan.sku.id⟩ ∧
      choiceOf rt data (Txn.select (stockQuery data plan.whId plan.locId plan.sku.id) d) =
        .update plan.key inv := by
  cases hc : plan.created with
  | true =>
    -- there is no stock of a new SKU
    have hmem := mem_of_choiceOf_eq_update h
    rw [select_eq_nil (hnew hc)] at hmem
    cases hmem
  | false =>
    rw [hc] at h
    exact ⟨⟨plan.placed.whId_eq, plan.placed.locId_eq, plan.sku, plan.placed.skuFound.found hc,
      rfl⟩, h⟩

/-- The row that a plan writes covers its lock. -/
theorem AdjustPlan.covered {now : ℤ} (plan : AdjustPlan rt now data d) (hd : Sound d)
    (hnew : plan.created = true → ∀ key inv, d.get? key = some (.inventory inv) →
      inv.skuId ≠ plan.sku.id) (h : AdjustSpares rt data d) : plan.stock.Covered := by
  rcases plan.write.inv with ⟨inv, cur, values, hchoice, hvalues, hcur, hversion, hstock⟩ |
    ⟨id, hchoice, hnewStock, -, -⟩
  · obtain rfl : cur = inv :=
      plan.readCurrent inv cur (mem_of_choiceOf_eq_update hchoice) hcur hversion
    obtain ⟨hnames, hchoice⟩ := plan.names_of_update hnew hchoice
    have hle := h _ hnames plan.key cur hchoice
    rw [← Numeric.toRat_eq_rounded (stockValues_spec hvalues).1] at hle
    rw [hstock]
    exact ⟨(hd plan.key cur hcur).nonneg, hle⟩
  · obtain ⟨hquantity, -, hlocked⟩ := newStock_spec hnewStock
    refine .of_unlocked hlocked ?_
    have hpos : 0 < data.quantity := by
      by_contra hneg
      rw [choiceOf, if_neg hneg] at hchoice
      exact chooseOutbound_ne_insert hchoice
    have hle := Numeric.le_toRat_of_ofRat? 0 (by rw [Numeric.toRat_zero]; exact hpos.le) hquantity
    rwa [Numeric.toRat_zero] at hle

/-- A call that runs alone has committed nothing, or it has carried out a plan; there is no stock of
a SKU that it has made. -/
theorem run_alone_unused (rt : Runtime) (now : ℕ → ℤ) (data : AdjustData) (hids : Unused ids d) :
    ((adjustInventory rt now data).run ids d).2 = d ∨
      ∃ k, ∃ plan : AdjustPlan rt (now k) data d,
        ((adjustInventory rt now data).run ids d).2 = Txn.overlay d plan.writes ∧
        (plan.created = true → ∀ key inv, d.get? key = some (.inventory inv) →
          inv.skuId ≠ plan.sku.id) := by
  rcases run_alone rt now data d ids with hdb | ⟨⟨answer, hanswer⟩, k, plan, hdb⟩
  · exact .inl hdb
  · refine .inr ⟨k, plan, hdb, fun hc key inv hget => ?_⟩
    have hsku : plan.sku.id = ids 0 := by
      refine sku_id_of_run (plan.skuFree hc) hanswer ?_
      rw [hdb]
      exact plan.commit.get?_sku
    rw [hsku]
    exact hids.stock 0 key inv hget

/-- **An adjustment that spares the lock keeps the invariant.** -/
theorem sound_adjustInventory (hd : Sound d) (hids : Unused ids d) (h : AdjustSpares rt data d) :
    Sound ((adjustInventory rt now data).run ids d).2 := by
  rcases run_alone_unused rt now data hids with hdb | ⟨k, plan, hdb, hnew⟩
  · rwa [hdb]
  · rw [hdb, AdjustPlan.overlay_writes]
    refine ((hd.overlay_skuWrites _ _).set fun inv hinv => ?_).set fun inv hinv => nomatch hinv
    cases hinv
    exact plan.covered hd hnew h

end Adjust

end Wms

end OmsWmsTms
