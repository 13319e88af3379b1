import OmsWmsTms.Wms.StockInvariant

/-!
# Counts that spare the locks

`adjust_stock_count` sets the quantity of a row to what was counted, whatever is locked, and makes a
row with what was counted where there is none.  It keeps the invariant when no count that it carries
out is below the lock of its row, or below zero where there is no row.

* `CountsSpare` : the condition on the counts of one row, one after another.
* `ItemsSpare` : the condition on the entries of a payload; `ItemsSpare.step` : after one entry.
* `CountSpares` : the condition on a call; `sound_adjustStockCount`.
-/

namespace OmsWmsTms

namespace Wms

open Txn (Prog Triple Session)

/-! ### The counts of a row -/

/-- The counts of one row, one after another: the first one that changes the row leaves at least
what is locked, or is refused because it is negative.  There is no row yet if the quantity is
`none`. -/
def CountsSpare (locked : ℚ) : Option ℚ → List ℚ → Prop
  | _, [] => True
  | quantity, actual :: rest =>
    if |actual - quantity.getD 0| < tolerance then CountsSpare locked quantity rest
    else quantity.isSome = true ∧ actual < 0 ∨
      locked ≤ Numeric.rounded 4 actual ∧ CountsSpare locked (some actual) rest

/-- The identifier of the SKU with a code. -/
def skuIdAt (d : WmsDb) (code : String) : Option Uuid :=
  ((d.get? (.sku code)).bind WmsRow.sku?).map Oms.Sku.id

/-- Two codes are of one SKU. -/
def SameSku (skuIds : String → Option Uuid) (code code' : String) : Prop :=
  code = code' ∨ skuIds code ≠ none ∧ skuIds code = skuIds code'

instance (skuIds : String → Option Uuid) (code code' : String) :
    Decidable (SameSku skuIds code code') := inferInstanceAs (Decidable (_ ∨ _))

/-- The count of an entry, if it is about the SKU with a code. -/
def countOf (skuIds : String → Option Uuid) (code : String) (item : CountItem) : Option ℚ :=
  match item.skuStr, item.actual with
  | some code', some actual => if SameSku skuIds code code' then some actual.value else none
  | _, _ => none

/-- The counts of a payload that are about the SKU with a code. -/
def countsOf (skuIds : String → Option Uuid) (code : String) (items : List CountItem) : List ℚ :=
  items.filterMap (countOf skuIds code)

/-- A count of the SKU with a code reads the row. -/
def IsCounted (whId : Option Uuid) (locId : Uuid) (skuIds : String → Option Uuid) (code : String)
    (inv : Inventory) : Prop :=
  ∃ skuId, skuIds code = some skuId ∧ countCond whId locId skuId inv = true

/-- The counts of every row spare its lock; a SKU with several rows is refused. -/
structure ItemsSpare (whId : Option Uuid) (locId : Uuid) (skuIds : String → Option Uuid)
    (stock : WmsKey → Option Inventory) (seen : SetQuantities) (items : List CountItem) :
    Prop where
  row : ∀ code key inv, stock key = some inv → IsCounted whId locId skuIds code inv →
    (∀ key' inv', stock key' = some inv' → IsCounted whId locId skuIds code inv' → key' = key) →
    CountsSpare inv.lockedQty (some (systemQty seen key inv).value) (countsOf skuIds code items)
  free : ∀ code, (∀ key inv, stock key = some inv → ¬ IsCounted whId locId skuIds code inv) →
    CountsSpare 0 none (countsOf skuIds code items)

section Items

variable {whId : Option Uuid} {locId skuId : Uuid} {skuIds skuIds' : String → Option Uuid}
  {stock stock' : WmsKey → Option Inventory} {seen seen' : SetQuantities} {item : CountItem}
  {items : List CountItem} {code code' : String} {actual : QuantityArg} {inv : Inventory}

theorem SameSku.congr (h : SameSku skuIds code code') (hsku : skuIds code' = some skuId)
    (c : String) : SameSku skuIds code c ↔ SameSku skuIds code' c := by
  rcases h with rfl | ⟨hne, heq⟩
  · rfl
  · unfold SameSku
    rw [heq, hsku]
    constructor
    · rintro (rfl | h)
      · exact .inr ⟨Option.some_ne_none _, by rw [heq, hsku]⟩
      · exact .inr h
    · rintro (rfl | h)
      · exact .inr ⟨Option.some_ne_none _, hsku.symm⟩
      · exact .inr h

theorem SameSku.skuIds_eq (h : SameSku skuIds code code') : skuIds code = skuIds code' :=
  h.elim (congrArg skuIds) And.right

theorem SameSku.countsOf_eq (h : SameSku skuIds code code') (hsku : skuIds code' = some skuId) :
    countsOf skuIds code items = countsOf skuIds code' items := by
  unfold countsOf
  congr 1
  funext item
  unfold countOf
  split
  · exact if_congr (h.congr hsku _) rfl rfl
  · rfl

theorem countsOf_cons_of_same (hcode : item.skuStr = some code')
    (hactual : item.actual = some actual) (h : SameSku skuIds code code') :
    countsOf skuIds code (item :: items) = actual.value :: countsOf skuIds code items := by
  have hcount : countOf skuIds code item = some actual.value := by
    simp only [countOf, hcode, hactual, if_pos h]
  rw [countsOf, List.filterMap_cons, hcount]
  rfl

theorem countsOf_cons_of_other
    (h : ∀ code', item.skuStr = some code' → ¬ SameSku skuIds code code') :
    countsOf skuIds code (item :: items) = countsOf skuIds code items := by
  have hcount : countOf skuIds code item = none := by
    unfold countOf
    split
    · rename_i code' actual hcode hactual
      exact if_neg (h code' hcode)
    · rfl
  rw [countsOf, List.filterMap_cons, hcount]
  rfl

theorem SameSku.isCounted_iff (h : SameSku skuIds code code') :
    IsCounted whId locId skuIds code inv ↔ IsCounted whId locId skuIds code' inv := by
  unfold IsCounted
  rw [h.skuIds_eq]

/-- A row is counted for one SKU only. -/
theorem IsCounted.same (h : IsCounted whId locId skuIds code inv)
    (h' : IsCounted whId locId skuIds code' inv) : SameSku skuIds code code' := by
  obtain ⟨id, hid, hcond⟩ := h
  obtain ⟨id', hid', hcond'⟩ := h'
  simp only [countCond, decide_eq_true_eq] at hcond hcond'
  refine .inr ⟨by rw [hid]; exact Option.some_ne_none _, ?_⟩
  rw [hid, hid', ← hcond.2.2, ← hcond'.2.2]

/-- An entry without a code counts nothing. -/
theorem ItemsSpare.tail (h : ItemsSpare whId locId skuIds stock seen (item :: items))
    (hcode : item.skuStr = none) : ItemsSpare whId locId skuIds stock seen items := by
  have hcounts (code : String) :
      countsOf skuIds code (item :: items) = countsOf skuIds code items :=
    countsOf_cons_of_other fun code' hcode' => by rw [hcode] at hcode'; cases hcode'
  refine ⟨fun code key inv hstock hcounted honly => ?_, fun code hnone => ?_⟩
  · rw [← hcounts]
    exact h.row code key inv hstock hcounted honly
  · rw [← hcounts]
    exact h.free code hnone

/-- **After one entry**: the rows of other SKUs are as they were, and the rest of the counts of its
SKU spares what is there now. -/
theorem ItemsSpare.step (h : ItemsSpare whId locId skuIds stock seen (item :: items))
    (hcode : item.skuStr = some code) (hsku : skuIds code = some skuId)
    (hother : ∀ key inv, ¬ IsCounted whId locId skuIds code inv →
      (stock' key = some inv ↔ stock key = some inv))
    (hseen : ∀ key inv, stock key = some inv → ¬ IsCounted whId locId skuIds code inv →
      systemQty seen' key inv = systemQty seen key inv)
    (hrow : ∀ key inv, stock' key = some inv → IsCounted whId locId skuIds code inv →
      (∀ key' inv', stock' key' = some inv' → IsCounted whId locId skuIds code inv' → key' = key) →
      CountsSpare inv.lockedQty (some (systemQty seen' key inv).value) (countsOf skuIds code items))
    (hfree : (∀ key inv, stock' key = some inv → ¬ IsCounted whId locId skuIds code inv) →
      CountsSpare 0 none (countsOf skuIds code items)) :
    ItemsSpare whId locId skuIds stock' seen' items := by
  have hcounts (c : String) (hc : ¬ SameSku skuIds c code) :
      countsOf skuIds c (item :: items) = countsOf skuIds c items := by
    refine countsOf_cons_of_other fun code' hcode' => ?_
    rw [hcode] at hcode'
    cases hcode'
    exact hc
  refine ⟨fun c key inv hstock hcounted honly => ?_, fun c hnone => ?_⟩
  · by_cases hc : SameSku skuIds c code
    · rw [hc.countsOf_eq hsku]
      exact hrow key inv hstock (hc.isCounted_iff.1 hcounted) fun key' inv' hstock' hcounted' =>
        honly key' inv' hstock' (hc.isCounted_iff.2 hcounted')
    · have hnot {inv' : Inventory} (hcounted' : IsCounted whId locId skuIds c inv') :
          ¬ IsCounted whId locId skuIds code inv' := fun h' => hc (hcounted'.same h')
      have hold := (hother key inv (hnot hcounted)).1 hstock
      rw [hseen key inv hold (hnot hcounted), ← hcounts c hc]
      exact h.row c key inv hold hcounted fun key' inv' hstock' hcounted' =>
        honly key' inv' ((hother key' inv' (hnot hcounted')).2 hstock') hcounted'
  · by_cases hc : SameSku skuIds c code
    · rw [hc.countsOf_eq hsku]
      exact hfree fun key inv hstock hcounted => hnone key inv hstock (hc.isCounted_iff.2 hcounted)
    · rw [← hcounts c hc]
      refine h.free c fun key inv hstock hcounted => ?_
      have hnot : ¬ IsCounted whId locId skuIds code inv := fun h' => hc (hcounted.same h')
      exact hnone key inv ((hother key inv hnot).2 hstock) hcounted

/-- A new SKU, which has no stock and no identifier that is known, changes nothing. -/
theorem ItemsSpare.newSku (h : ItemsSpare whId locId skuIds stock seen items)
    (hfree : skuIds code = none) (hnew : ∀ c, skuIds c ≠ some skuId)
    (hstock : ∀ key inv, stock key = some inv → inv.skuId ≠ skuId)
    (hskuIds : ∀ c, skuIds' c = if code = c then some skuId else skuIds c) :
    ItemsSpare whId locId skuIds' stock seen items := by
  have hcounted {c : String} {key : WmsKey} {inv : Inventory} (hinv : stock key = some inv) :
      IsCounted whId locId skuIds' c inv ↔ IsCounted whId locId skuIds c inv := by
    unfold IsCounted
    rw [hskuIds]
    split_ifs with hc
    · subst hc
      constructor
      · rintro ⟨id, hid, hcond⟩
        cases hid
        simp only [countCond, decide_eq_true_eq] at hcond
        exact absurd hcond.2.2 (hstock key inv hinv)
      · rintro ⟨id, hid, -⟩
        rw [hfree] at hid
        cases hid
    · rfl
  have hsame (c c' : String) : SameSku skuIds' c c' ↔ SameSku skuIds c c' := by
    unfold SameSku
    refine or_congr_right' fun hne => ?_
    rw [hskuIds c, hskuIds c']
    by_cases hc : code = c
    · subst hc
      rw [if_pos rfl, if_neg hne, hfree]
      exact ⟨fun h => absurd h.2.symm (hnew c'), fun h => absurd rfl h.1⟩
    · rw [if_neg hc]
      split_ifs with hc'
      · subst hc'
        rw [hfree]
        exact ⟨fun h => absurd h.2 (hnew c), fun h => absurd h.2 h.1⟩
      · rfl
  have hcounts (c : String) : countsOf skuIds' c items = countsOf skuIds c items := by
    unfold countsOf countOf
    simp only [hsame]
  refine ⟨fun c key inv hinv hc honly => ?_, fun c hnone => ?_⟩
  · rw [hcounts]
    exact h.row c key inv hinv ((hcounted hinv).1 hc) fun key' inv' hinv' hc' =>
      honly key' inv' hinv' ((hcounted hinv').2 hc')
  · rw [hcounts]
    exact h.free c fun key inv hinv hc => hnone key inv hinv ((hcounted hinv).2 hc)

end Items

/-! ### One entry after another -/

section Set

variable {d : WmsDb} {key key' : WmsKey} {row : WmsRow} {code : String}

theorem inventoryAt_set : inventoryAt (d.set key row) key' =
    if key = key' then row.inventory? else inventoryAt d key' := by
  unfold inventoryAt
  rw [Dict.get?_set]
  split_ifs <;> rfl

theorem skuIdAt_set : skuIdAt (d.set key row) code =
    if key = .sku code then row.sku?.map Oms.Sku.id else skuIdAt d code := by
  unfold skuIdAt
  rw [Dict.get?_set]
  split_ifs <;> rfl

theorem skuIdAt_eq_some_iff {skuId : Uuid} : skuIdAt d code = some skuId ↔
    ∃ sku, d.get? (.sku code) = some (.sku sku) ∧ sku.id = skuId := by
  unfold skuIdAt
  cases d.get? (.sku code) with
  | none => simp
  | some row => cases row <;> simp [WmsRow.sku?]

/-- A row that is no SKU. -/
theorem skuIdAt_set_of_ne (h : ∀ code, key ≠ .sku code) : skuIdAt (d.set key row) = skuIdAt d := by
  funext code
  rw [skuIdAt_set, if_neg (h code)]

/-- A changed row of the stock. -/
theorem skuIdAt_set_inventory {inv inv' : Inventory} (h : d.get? key = some (.inventory inv)) :
    skuIdAt (d.set key (.inventory inv')) = skuIdAt d := by
  funext code
  rw [skuIdAt_set]
  split_ifs with hkey
  · rw [skuIdAt, ← hkey, h]
    rfl
  · rfl

/-- A new row that is no stock. -/
theorem inventoryAt_set_of_new (hfree : d.get? key = none) (hrow : row.inventory? = none) :
    inventoryAt (d.set key row) = inventoryAt d := by
  funext key'
  rw [inventoryAt_set]
  split_ifs with hkey
  · rw [hrow, ← hkey, inventoryAt, hfree]
    rfl
  · rfl

end Set

/-- **The rule for a SKU**, which is found or made. -/
theorem triple_sku {I : WmsDb → Prop} {P : Session WmsKey WmsRow → Prop} {code : String}
    {Q : Oms.Sku × Bool → Session WmsKey WmsRow → Prop}
    (hfound : ∀ s sku, P s → s.working.get? (.sku code) = some (.sku sku) → Q (sku, false) s)
    (hmade : ∀ s, P s → s.working.get? (.sku code) = none → code.length ≤ 50 →
      Q (⟨s.ids 0, code, code⟩, true) ⟨s.committed,
        s.working.set (.sku code) (.sku ⟨s.ids 0, code, code⟩), fun n => s.ids (n + 1)⟩) :
    Triple I P (getOrCreateSku code) Q := by
  intro s hI hs
  have hraise := (Triple.writes (J := fun _ => True) (inserts_getOrCreateSku code)
    (fun _ _ _ _ _ => trivial) s hI trivial).1
  by_cases hsku : ∃ sku, s.working.get? (.sku code) = some (.sku sku)
  · obtain ⟨sku, hsku⟩ := hsku
    rw [exec_getOrCreateSku_found hsku]
    refine ⟨hI, fun answer hanswer => ?_⟩
    cases hanswer
    exact hfound s sku hs hsku
  by_cases hfree : s.working.get? (.sku code) = none ∧ code.length ≤ 50
  · rw [exec_getOrCreateSku_made hfree.1 hfree.2]
    refine ⟨hI, fun answer hanswer => ?_⟩
    cases hanswer
    exact hmade s hs hfree.1 hfree.2
  · obtain ⟨e, s', hexec⟩ := exec_getOrCreateSku_error
      (fun sku h => hsku ⟨sku, h⟩) (not_and_or.1 hfree)
    rw [hexec] at hraise ⊢
    exact ⟨hraise, fun answer hanswer => nomatch hanswer⟩

section Unused

variable {d : WmsDb} {ids : ℕ → ℕ} {key : WmsKey} {row : WmsRow}

theorem Unused.shift (h : Unused ids d) : Unused (fun n => ids (n + 1)) d where
  injective _ _ heq := Nat.succ_injective (h.injective heq)
  stock n := h.stock (n + 1)
  sku n := h.sku (n + 1)

theorem Unused.zero_ne (h : Unused ids d) (n : ℕ) : ids 0 ≠ ids (n + 1) :=
  fun heq => absurd (h.injective heq) (Nat.succ_ne_zero n).symm

theorem Unused.skuIdAt_ne (h : Unused ids d) (code : String) (n : ℕ) :
    skuIdAt d code ≠ some (ids n) := by
  intro hcode
  obtain ⟨sku, hsku, hid⟩ := skuIdAt_eq_some_iff.1 hcode
  exact h.sku n code sku hsku hid

/-- Identifiers that a write does not use. -/
theorem Unused.set (h : Unused ids d)
    (hstock : ∀ inv, row = .inventory inv → ∀ n, inv.skuId ≠ ids n)
    (hsku : ∀ sku, row = .sku sku → ∀ n, sku.id ≠ ids n) : Unused ids (d.set key row) where
  injective := h.injective
  stock n key' inv hget := by
    rw [Dict.get?_set] at hget
    split_ifs at hget
    · exact hstock inv (Option.some.inj hget) n
    · exact h.stock n key' inv hget
  sku n code sku hget := by
    rw [Dict.get?_set] at hget
    split_ifs at hget
    · exact hsku sku (Option.some.inj hget) n
    · exact h.sku n code sku hget

end Unused

/-- What holds before the entries that are left: the quantities that the session has set are in the
rows, as the column rounds them. -/
structure CountState (whId : Option Uuid) (locId : Uuid) (items : List CountItem)
    (seen : SetQuantities) (s : Session WmsKey WmsRow) : Prop where
  sound : Sound s.working
  unused : Unused s.ids s.working
  spares : ItemsSpare whId locId (skuIdAt s.working) (inventoryAt s.working) seen items
  seen : ∀ key quantity inv, seen.lookup key = some quantity →
    inventoryAt s.working key = some inv → inv.quantity.toRat = Numeric.rounded 4 quantity.value

/-- The quantity of a row that is written is the one that the session has set. -/
theorem seen_set {w : WmsDb} {seen : SetQuantities} {key : WmsKey} {row : WmsRow}
    {actual : QuantityArg}
    (h : ∀ key quantity inv, seen.lookup key = some quantity → inventoryAt w key = some inv →
      inv.quantity.toRat = Numeric.rounded 4 quantity.value)
    (hrow : ∀ inv, row.inventory? = some inv →
      inv.quantity.toRat = Numeric.rounded 4 actual.value) :
    ∀ key' quantity inv, ((key, actual) :: seen).lookup key' = some quantity →
      inventoryAt (w.set key row) key' = some inv →
      inv.quantity.toRat = Numeric.rounded 4 quantity.value := by
  intro key' quantity inv hlookup hinv
  rw [inventoryAt_set] at hinv
  split_ifs at hinv with hkey
  · subst hkey
    rw [List.lookup_cons_self] at hlookup
    cases hlookup
    exact hrow inv hinv
  · rw [List.lookup_cons, beq_false_of_ne (Ne.symm hkey)] at hlookup
    exact h key' quantity inv hlookup hinv

section State

variable {whId : Option Uuid} {locId : Uuid} {items : List CountItem} {seen : SetQuantities}
  {s : Session WmsKey WmsRow} {key : WmsKey} {row : WmsRow} {code : String}

theorem CountState.shift (h : CountState whId locId items seen s) :
    CountState whId locId items seen { s with ids := fun n => s.ids (n + 1) } :=
  ⟨h.sound, h.unused.shift, h.spares, h.seen⟩

/-- A new row that is neither stock nor a SKU. -/
theorem CountState.insertOther (h : CountState whId locId items seen s)
    (hrow : row.inventory? = none) (hsku : row.sku? = none) (hfree : s.working.get? key = none)
    (hkey : ∀ code, key ≠ .sku code) :
    CountState whId locId items seen { s with working := s.working.set key row } where
  sound := h.sound.set fun inv hinv => by
    rw [hinv] at hrow
    cases hrow
  unused := by
    refine h.unused.set (fun inv hinv => ?_) fun sku hsku' => ?_
    · rw [hinv] at hrow
      cases hrow
    · rw [hsku'] at hsku
      cases hsku
  spares := by
    rw [skuIdAt_set_of_ne hkey, inventoryAt_set_of_new hfree hrow]
    exact h.spares
  seen := by
    rw [inventoryAt_set_of_new hfree hrow]
    exact h.seen

/-- A new SKU. -/
theorem CountState.makeSku (h : CountState whId locId items seen s)
    (hfree : s.working.get? (.sku code) = none) :
    CountState whId locId items seen ⟨s.committed,
      s.working.set (.sku code) (.sku ⟨s.ids 0, code, code⟩), fun n => s.ids (n + 1)⟩ where
  sound := h.sound.set fun inv hinv => nomatch hinv
  unused := by
    refine h.unused.shift.set (fun _ h => nomatch h) fun sku hsku n => ?_
    cases hsku
    exact h.unused.zero_ne n
  spares := by
    rw [inventoryAt_set_of_new hfree rfl]
    have hnone : skuIdAt s.working code = none := by
      rw [skuIdAt, hfree]
      rfl
    refine h.spares.newSku hnone (fun c => h.unused.skuIdAt_ne c 0) (fun key inv hinv => ?_)
      fun c => ?_
    · exact h.unused.stock 0 key inv (inventoryAt_eq_some_iff.1 hinv)
    · rw [skuIdAt_set]
      exact if_congr (by simp) rfl rfl
  seen := by
    rw [inventoryAt_set_of_new hfree rfl]
    exact h.seen

/-- The SKU of an entry is found or made. -/
theorem triple_getOrCreateSku (code : String) :
    Triple Sound (CountState whId locId items seen) (getOrCreateSku code)
      fun answer s => CountState whId locId items seen s ∧
        skuIdAt s.working code = some answer.1.id := by
  refine triple_sku (fun s sku hs hsku => ?_) fun s hs hfree _ => ?_
  · exact ⟨hs, skuIdAt_eq_some_iff.2 ⟨sku, hsku, rfl⟩⟩
  · refine ⟨hs.makeSku hfree, ?_⟩
    rw [skuIdAt_set, if_pos rfl]
    rfl

theorem triple_logCount (warehouseId : Uuid) (skuStr : String) (diff : ℚ) :
    Triple Sound (CountState whId locId items seen) (logCount warehouseId skuStr diff)
      fun _ => CountState whId locId items seen := by
  refine Triple.bind (.ofExcept fun _ _ _ hs => hs) fun sku => ?_
  refine Triple.bind (.ofExcept fun _ _ _ hs => hs) fun quantityChange => ?_
  refine Triple.bind (Q := fun _ => CountState whId locId items seen) ?_ fun _ => ?_
  · refine Triple.bind (Q := fun _ => CountState whId locId items seen)
      (.query fun _ hs => hs) fun rows => ?_
    split_ifs
    · exact .throw
    · exact .ret fun _ hs => hs
  · refine Triple.bind (Q := fun _ => CountState whId locId items seen)
      (.newId fun _ hs => hs.shift) fun id => ?_
    exact .insertOr fun s hs hfree => hs.insertOther rfl rfl hfree fun _ h => by cases h

/-- A quantity that is stored as no less than zero is hardly below it. -/
theorem neg_le_of_rounded_nonneg {x : ℚ} (h : 0 ≤ Numeric.rounded 4 x) : -1 / 20000 ≤ x := by
  have hround := (abs_le.1 (Numeric.abs_rounded_sub_le 4 x)).2
  norm_num at hround
  linarith

/-- What the session takes for the quantity of a row is hardly below zero. -/
theorem CountState.neg_le_systemQty (h : CountState whId locId items seen s) {inv : Inventory}
    (hinv : inventoryAt s.working key = some inv) :
    -1 / 20000 ≤ (systemQty seen key inv).value := by
  have hcovered := h.sound key inv (inventoryAt_eq_some_iff.1 hinv)
  have hnonneg : 0 ≤ inv.quantity.toRat := hcovered.nonneg.trans hcovered.le
  unfold systemQty
  cases hlookup : seen.lookup key with
  | none =>
    simp only [Option.getD_none]
    linarith
  | some quantity =>
    refine neg_le_of_rounded_nonneg ?_
    rw [Option.getD_some, ← h.seen key quantity inv hlookup hinv]
    exact hnonneg

end State

/-! ### One entry -/

/-- The stock that the count of an entry reads. -/
structure CountRead (whId : Option Uuid) (locId skuId : Uuid) (code : String)
    (rows : List (WmsKey × Inventory)) (w : WmsDb) : Prop where
  sku : skuIdAt w code = some skuId
  rows_eq : rows =
    stockOf (Txn.select (fun _ row => row.inventory?.any (countCond whId locId skuId)) w)

section Entry

variable {whId : Option Uuid} {locId skuId : Uuid} {item : CountItem} {items : List CountItem}
  {seen : SetQuantities} {s : Session WmsKey WmsRow} {code : String} {actual : QuantityArg}
  {key : WmsKey} {inv : Inventory} {rows : List (WmsKey × Inventory)} {now : ℤ} {w : WmsDb}

theorem CountRead.isCounted_iff (h : CountRead whId locId skuId code rows w) :
    IsCounted whId locId (skuIdAt w) code inv ↔ countCond whId locId skuId inv = true := by
  unfold IsCounted
  rw [h.sku]
  simp

theorem CountRead.mem_iff (h : CountRead whId locId skuId code rows w) : (key, inv) ∈ rows ↔
    inventoryAt w key = some inv ∧ IsCounted whId locId (skuIdAt w) code inv := by
  rw [h.rows_eq, mem_stockOf, Txn.mem_select, h.isCounted_iff, inventoryAt_eq_some_iff]
  rfl

/-- No row is counted when none was read. -/
theorem CountRead.not_counted (h : CountRead whId locId skuId code [] w)
    (hinv : inventoryAt w key = some inv) : ¬ IsCounted whId locId (skuIdAt w) code inv :=
  fun hcounted => nomatch h.mem_iff.2 ⟨hinv, hcounted⟩

/-- The row that was read is the only one that is counted. -/
theorem CountRead.only (h : CountRead whId locId skuId code [(key, inv)] w) {key' : WmsKey}
    {inv' : Inventory} (hinv : inventoryAt w key' = some inv')
    (hcounted : IsCounted whId locId (skuIdAt w) code inv') : key' = key ∧ inv' = inv := by
  have hmem := h.mem_iff.2 ⟨hinv, hcounted⟩
  simpa using hmem

section Spares

variable (hs : CountState whId locId (item :: items) seen s) (hcode : item.skuStr = some code)
  (hactual : item.actual = some actual)

include hs hcode hactual

/-- The counts that are left where there is no row. -/
theorem CountState.spares_free (hread : CountRead whId locId skuId code [] s.working) :
    if |actual.value| < tolerance then CountsSpare 0 none (countsOf (skuIdAt s.working) code items)
    else 0 ≤ Numeric.rounded 4 actual.value ∧
      CountsSpare 0 (some actual.value) (countsOf (skuIdAt s.working) code items) := by
  have h := hs.spares.free code fun key inv hinv => hread.not_counted hinv
  rw [countsOf_cons_of_same hcode hactual (.inl rfl)] at h
  simpa [CountsSpare] using h

/-- The counts that are left of a row. -/
theorem CountState.spares_row (hread : CountRead whId locId skuId code [(key, inv)] s.working) :
    if |actual.value - (systemQty seen key inv).value| < tolerance then
      CountsSpare inv.lockedQty (some (systemQty seen key inv).value)
        (countsOf (skuIdAt s.working) code items)
    else actual.value < 0 ∨ inv.lockedQty.toRat ≤ Numeric.rounded 4 actual.value ∧
      CountsSpare inv.lockedQty (some actual.value) (countsOf (skuIdAt s.working) code items) := by
  obtain ⟨hinv, hcounted⟩ := hread.mem_iff.1 (List.mem_singleton_self _)
  have h := hs.spares.row code key inv hinv hcounted
    fun key' inv' hinv' hcounted' => (hread.only hinv' hcounted').1
  rw [countsOf_cons_of_same hcode hactual (.inl rfl)] at h
  simpa [CountsSpare] using h

/-- A count that agrees with the stock. -/
theorem CountState.keep (hread : CountRead whId locId skuId code rows s.working)
    (hchoice : chooseCount seen code actual rows = .keep) :
    CountState whId locId items seen s := by
  refine ⟨hs.sound, hs.unused, ?_, hs.seen⟩
  match rows with
  | [] =>
    simp only [chooseCount] at hchoice
    split_ifs at hchoice with htolerance
    have hspares := hs.spares_free hcode hactual hread
    rw [if_pos htolerance] at hspares
    exact hs.spares.step hcode hread.sku (fun _ _ _ => Iff.rfl) (fun _ _ _ _ => rfl)
      (fun key inv hinv hcounted => absurd hcounted (hread.not_counted hinv)) fun _ => hspares
  | [(key, inv)] =>
    simp only [chooseCount] at hchoice
    split_ifs at hchoice with htolerance
    have hspares := hs.spares_row hcode hactual hread
    rw [if_pos htolerance] at hspares
    refine hs.spares.step hcode hread.sku (fun _ _ _ => Iff.rfl) (fun _ _ _ _ => rfl)
      (fun key' inv' hinv' hcounted' _ => ?_) fun hnone => ?_
    · obtain ⟨rfl, rfl⟩ := hread.only hinv' hcounted'
      exact hspares
    · obtain ⟨hinv, hcounted⟩ := hread.mem_iff.1 (List.mem_singleton_self _)
      exact absurd hcounted (hnone key inv hinv)
  | _ :: _ :: _ => cases hchoice

/-- A count that makes a row. -/
theorem CountState.insert {warehouseId : Uuid} {quantity : Numeric 20 4} {id : Uuid}
    (hread : CountRead whId locId skuId code rows s.working)
    (hchoice : chooseCount seen code actual rows = .insert) (hwh : whId = some warehouseId)
    (hquantity : Numeric.ofRat? actual.value = some quantity)
    (hfree : s.working.get? (.inventory id) = none) :
    CountState whId locId items ((.inventory id, actual) :: seen) { s with
      working := s.working.set (.inventory id)
        (.inventory (countedStock now warehouseId locId skuId quantity id)) } := by
  obtain ⟨rfl, htolerance⟩ : rows = [] ∧ ¬ |actual.value| < tolerance := by
    match rows with
    | [] =>
      simp only [chooseCount] at hchoice
      split_ifs at hchoice with htolerance
      exact ⟨rfl, htolerance⟩
    | [(key, inv)] =>
      simp only [chooseCount] at hchoice
      split_ifs at hchoice
    | _ :: _ :: _ => cases hchoice
  have hspares := hs.spares_free hcode hactual hread
  rw [if_neg htolerance, ← Numeric.toRat_eq_rounded hquantity] at hspares
  have hnone (inv : Inventory) : inventoryAt s.working (.inventory id) ≠ some inv := by
    rw [inventoryAt, hfree]
    exact fun h => nomatch h
  have hskuIds : skuIdAt (s.working.set (.inventory id)
      (.inventory (countedStock now warehouseId locId skuId quantity id))) = skuIdAt s.working :=
    skuIdAt_set_of_ne fun _ h => nomatch h
  have hcounted : IsCounted whId locId (skuIdAt s.working) code
      (countedStock now warehouseId locId skuId quantity id) :=
    hread.isCounted_iff.2 (by simp [countCond, countedStock, hwh])
  refine ⟨hs.sound.set fun inv hinv => ?_,
    hs.unused.set (fun inv hinv n heq => ?_) fun _ h => (nomatch h), ?_,
    seen_set hs.seen fun inv hinv => ?_⟩
  · cases hinv
    exact .of_unlocked rfl hspares.1
  · cases hinv
    exact hs.unused.skuIdAt_ne code n (heq ▸ hread.sku)
  · rw [hskuIds]
    refine hs.spares.step hcode hread.sku (fun key inv hnot => ?_) (fun key inv hinv _ => ?_)
      (fun key inv hinv hcounted' _ => ?_) fun hnot => ?_
    · rw [inventoryAt_set]
      split_ifs with hkey
      · subst hkey
        refine ⟨fun h => ?_, fun h => absurd h (hnone inv)⟩
        cases h
        exact absurd hcounted hnot
      · rfl
    · have hne : key ≠ .inventory id := fun h => hnone inv (h ▸ hinv)
      unfold systemQty
      rw [List.lookup_cons, beq_false_of_ne hne]
    · rw [inventoryAt_set] at hinv
      split_ifs at hinv with hkey
      · subst hkey
        cases hinv
        unfold systemQty
        rw [List.lookup_cons_self, Option.getD_some, countedStock, Numeric.toRat_zero]
        exact hspares.2
      · exact absurd hcounted' (hread.not_counted hinv)
    · refine absurd hcounted (hnot (.inventory id) _ ?_)
      rw [inventoryAt_set, if_pos rfl]
      rfl
  · cases hinv
    exact Numeric.toRat_eq_rounded hquantity

/-- What is known of a count that changes a row. -/
theorem CountState.change_spares {diff : ℚ}
    (hread : CountRead whId locId skuId code rows s.working)
    (hchoice : chooseCount seen code actual rows = .change key diff) :
    ∃ inv, rows = [(key, inv)] ∧ inv.lockedQty.toRat ≤ Numeric.rounded 4 actual.value ∧
      CountsSpare inv.lockedQty (some actual.value) (countsOf (skuIdAt s.working) code items) := by
  match rows with
  | [] =>
    simp only [chooseCount] at hchoice
    split_ifs at hchoice
  | [(key', inv)] =>
    have hspares := hs.spares_row hcode hactual hread
    have hge := hs.neg_le_systemQty (hread.mem_iff.1 (List.mem_singleton_self _)).1
    simp only [chooseCount] at hchoice
    split_ifs at hchoice with htolerance hpos hlt
    all_goals
      cases hchoice
      rw [if_neg htolerance] at hspares
      refine ⟨inv, rfl, hspares.resolve_left fun hneg => ?_⟩
      unfold tolerance at htolerance
    · -- a negative count is no increase
      rw [abs_of_pos hpos] at htolerance
      linarith
    · -- and a decrease by more than the stock is refused
      rw [abs_of_nonpos (not_lt.1 hpos)] at hlt
      linarith
  | _ :: _ :: _ => cases hchoice

/-- A count that changes a row. -/
theorem CountState.change {diff : ℚ} {quantity : Numeric 20 4}
    (hread : CountRead whId locId skuId code rows s.working)
    (hchoice : chooseCount seen code actual rows = .change key diff)
    (hquantity : Numeric.ofRat? actual.value = some quantity) {row : WmsRow}
    (hrow : s.working.get? key = some row) :
    CountState whId locId items ((key, actual) :: seen) { s with
      working := s.working.set key (row.mapInventory (setCount now quantity)) } := by
  obtain ⟨inv, rfl, hlocked, hspares⟩ := hs.change_spares hcode hactual hread hchoice
  obtain ⟨hinv, hcounted⟩ := hread.mem_iff.1 (List.mem_singleton_self _)
  have hget := inventoryAt_eq_some_iff.1 hinv
  rw [hrow] at hget
  cases hget
  rw [← Numeric.toRat_eq_rounded hquantity] at hlocked
  have hsku : skuIdAt (s.working.set key (.inventory (setCount now quantity inv))) =
      skuIdAt s.working := skuIdAt_set_inventory hrow
  refine ⟨hs.sound.set fun inv' hinv' => ?_,
    hs.unused.set (fun inv' hinv' n => ?_) fun _ h => (nomatch h), ?_,
    seen_set hs.seen fun inv' hinv' => ?_⟩
  · cases hinv'
    exact ⟨(hs.sound key inv hrow).nonneg, hlocked⟩
  · cases hinv'
    exact hs.unused.stock n key inv hrow
  · change ItemsSpare _ _
      (skuIdAt (s.working.set key (.inventory (setCount now quantity inv)))) _ _ _
    rw [hsku]
    refine hs.spares.step hcode hread.sku (fun key' inv' hnot => ?_)
      (fun key' inv' hinv' hnot => ?_) (fun key' inv' hinv' hcounted' _ => ?_) fun hnot => ?_
    · rw [inventoryAt_set]
      split_ifs with hkey
      · subst hkey
        refine ⟨fun h => ?_, fun h => ?_⟩
        · cases h
          exact absurd hcounted hnot
        · rw [hinv] at h
          cases h
          exact absurd hcounted hnot
      · rfl
    · have hne : key' ≠ key := by
        rintro rfl
        rw [hinv] at hinv'
        cases hinv'
        exact hnot hcounted
      unfold systemQty
      rw [List.lookup_cons, beq_false_of_ne hne]
    · rw [inventoryAt_set] at hinv'
      split_ifs at hinv' with hkey
      · subst hkey
        cases hinv'
        unfold systemQty
        rw [List.lookup_cons_self, Option.getD_some]
        exact hspares
      · exact absurd (hread.only hinv' hcounted').1.symm hkey
    · refine absurd ?_ (hnot key (setCount now quantity inv) ?_)
      · exact hread.isCounted_iff.2 (hread.isCounted_iff.1 hcounted)
      · rw [inventoryAt_set, if_pos rfl]
        rfl
  · cases hinv'
    exact Numeric.toRat_eq_rounded hquantity

end Spares

theorem triple_applyCount (hcode : item.skuStr = some code) (hactual : item.actual = some actual) :
    Triple Sound (fun s => CountRead whId locId skuId code rows s.working ∧
        CountState whId locId (item :: items) seen s)
      (applyCount now whId locId skuId code actual seen (chooseCount seen code actual rows))
      (CountState whId locId items) := by
  cases hchoice : chooseCount seen code actual rows with
  | keep => exact .ret fun s hs => hs.2.keep hcode hactual hs.1 hchoice
  | raise e => exact .throw
  | insert =>
    cases hwh : whId with
    | none => exact .throw
    | some warehouseId =>
      refine Triple.bind (Q := fun quantity s => Numeric.ofRat? actual.value = some quantity ∧
        CountRead (some warehouseId) locId skuId code rows s.working ∧
          CountState (some warehouseId) locId (item :: items) seen s)
        (.ofExcept fun quantity hquantity s hs => ⟨storeNumeric_eq_ok_iff.1 hquantity, hs⟩)
        fun quantity => Triple.assume fun hquantity => ?_
      refine Triple.bind (Q := fun _ s =>
        CountRead (some warehouseId) locId skuId code rows s.working ∧
          CountState (some warehouseId) locId (item :: items) seen s)
        (.newId fun s hs => ⟨hs.1, hs.2.shift⟩) fun id => ?_
      refine Triple.bind (Q := fun _ =>
        CountState (some warehouseId) locId items ((.inventory id, actual) :: seen))
        (.insertOr fun s hs hfree =>
          hs.2.insert hcode hactual hs.1 hchoice rfl hquantity hfree) fun _ => ?_
      exact (triple_logCount _ _ _).bind fun _ => .ret fun _ hs => hs
  | change key diff =>
    cases hwh : whId with
    | none => exact .throw
    | some warehouseId =>
      refine Triple.bind (Q := fun quantity s => Numeric.ofRat? actual.value = some quantity ∧
        CountRead (some warehouseId) locId skuId code rows s.working ∧
          CountState (some warehouseId) locId (item :: items) seen s)
        (.ofExcept fun quantity hquantity s hs => ⟨storeNumeric_eq_ok_iff.1 hquantity, hs⟩)
        fun quantity => Triple.assume fun hquantity => ?_
      refine Triple.bind (Q := fun _ =>
        CountState (some warehouseId) locId items ((key, actual) :: seen))
        (.updateOr fun s row hs hrow =>
          hs.2.change hcode hactual hs.1 hchoice hquantity hrow) fun _ => ?_
      exact (triple_logCount _ _ _).bind fun _ => .ret fun _ hs => hs

/-- **One entry.** -/
theorem triple_countItem (now : ℤ) (whId : Option Uuid) (locId : Uuid) (item : CountItem)
    (items : List CountItem) (seen : SetQuantities) :
    Triple Sound (CountState whId locId (item :: items) seen) (countItem now whId locId seen item)
      (CountState whId locId items) := by
  unfold countItem
  cases hactual : item.actual with
  | none => exact .throw
  | some actual =>
    cases hcode : item.skuStr with
    | none =>
      dsimp only
      split_ifs
      · exact .ret fun s hs => ⟨hs.sound, hs.unused, hs.spares.tail hcode, hs.seen⟩
      · exact .throw
    | some code =>
      refine (triple_getOrCreateSku code).bind fun answer => ?_
      obtain ⟨sku, created⟩ := answer
      refine Triple.bind (Q := fun rows s => CountRead whId locId sku.id code rows s.working ∧
        CountState whId locId (item :: items) seen s)
        (triple_selectInventory fun s hs => ⟨⟨hs.2, rfl⟩, hs.1⟩) fun rows => ?_
      exact triple_applyCount hcode hactual

end Entry

/-! ### The call -/

/-- The warehouse that a payload names; there may be none. -/
def CountWarehouse (data : CountData) (d : WmsDb) (whId : Option Uuid) : Prop :=
  match nonEmpty data.warehouseId with
  | some arg => ∃ id, arg.uuid? = some id ∧ whId = some id
  | none =>
    match data.sourceWarehouseCode.filter (· ≠ "") with
    | none => whId = none
    | some code => ∃ key warehouse, d.get? key = some (.warehouse warehouse) ∧
        warehouse.code = code ∧ whId = some warehouse.id

/-- The location that a payload names. -/
def CountLocation (data : CountData) (locId : Uuid) : Prop :=
  ∃ arg, (nonEmpty data.locationId).or (nonEmpty data.targetLocationId) = some arg ∧
    arg.uuid? = some locId

/-- **The counts of a payload spare the locks**, at the warehouse and the location that it names. -/
def CountSpares (data : CountData) (d : WmsDb) : Prop :=
  ∀ whId locId, CountWarehouse data d whId → CountLocation data locId →
    ItemsSpare whId locId (skuIdAt d) (inventoryAt d) [] data.countResults

section Call

variable {data : CountData} {d : WmsDb} {ids : ℕ → ℕ} {I : WmsDb → Prop}

theorem triple_oneOrNone {α : Type} {P : Session WmsKey WmsRow → Prop} (l : List α) :
    Triple I P (oneOrNone l) fun found s => (∀ a, found = some a → a ∈ l) ∧ P s := by
  match l with
  | [] => exact .ret fun s hs => ⟨fun a ha => (nomatch ha), hs⟩
  | [a] => exact .ret fun s hs => ⟨fun b hb => List.mem_singleton.2 (Option.some.inj hb).symm, hs⟩
  | _ :: _ :: _ => exact .throw

theorem triple_countWarehouse {P : Session WmsKey WmsRow → Prop} (hP : ∀ s, P s → s.working = d) :
    Triple I P (countWarehouse data) fun whId s => CountWarehouse data d whId ∧ P s := by
  unfold countWarehouse CountWarehouse
  cases nonEmpty data.warehouseId with
  | some arg =>
    dsimp only
    unfold toUuid
    cases arg.uuid? with
    | none => exact .throw
    | some id => exact .ret fun s hs => ⟨⟨id, rfl, rfl⟩, hs⟩
  | none =>
    dsimp only
    cases data.sourceWarehouseCode.filter (· ≠ "") with
    | none => exact .ret fun s hs => ⟨rfl, hs⟩
    | some code =>
      refine Triple.bind (Q := fun rows s => (∀ warehouse ∈ rows.filterMap fun item =>
        item.2.warehouse?, ∃ key, d.get? key = some (.warehouse warehouse) ∧
          warehouse.code = code) ∧ P s) (.query fun s hs => ⟨fun warehouse hmem => ?_, hs⟩)
          fun rows => Triple.assume fun hrows => ?_
      · obtain ⟨⟨key, row⟩, hitem, hrow⟩ := List.mem_filterMap.1 hmem
        obtain ⟨hget, hcode⟩ := Txn.mem_select.1 hitem
        rw [hP s hs] at hget
        cases row <;> cases hrow
        exact ⟨key, hget, by simpa [WmsRow.warehouse?] using hcode⟩
      · refine (triple_oneOrNone _).bind fun found => Triple.assume fun hfound => ?_
        cases found with
        | none => exact .throw
        | some warehouse =>
          obtain ⟨key, hget, hcode⟩ := hrows warehouse (hfound warehouse rfl)
          exact .ret fun s hs => ⟨⟨key, warehouse, hget, hcode, rfl⟩, hs⟩

theorem triple_countLocation {P : Session WmsKey WmsRow → Prop} :
    Triple I P (countLocation data) fun locId s => CountLocation data locId ∧ P s := by
  unfold countLocation CountLocation
  cases (nonEmpty data.locationId).or (nonEmpty data.targetLocationId) with
  | none => exact .throw
  | some arg =>
    dsimp only
    unfold toUuid
    cases hid : arg.uuid? with
    | none => exact .throw
    | some id => exact .ret fun s hs => ⟨⟨arg, rfl, hid⟩, hs⟩

/-- **A call whose counts spare the locks keeps the invariant.** -/
theorem sound_adjustStockCount {now : ℤ} (hd : Sound d) (hids : Unused ids d)
    (h : CountSpares data d) : Sound ((adjustStockCount now data).run ids d).2 := by
  let P (s : Session WmsKey WmsRow) : Prop := s.working = d ∧ s.ids = ids
  refine Triple.run (P := P) (Q := fun _ _ => True) ?_ hd ⟨rfl, rfl⟩
  refine (triple_countWarehouse fun s hs => hs.1).bind fun whId => Triple.assume fun hwh => ?_
  refine triple_countLocation.bind fun locId => Triple.assume fun hloc => ?_
  refine Triple.bind (Q := fun _ => P) ?_ fun _ => ?_
  · refine Triple.bind (Q := fun _ => P) (.query fun _ hs => hs) fun rows => ?_
    cases rows with
    | nil => exact .throw
    | cons => exact .ret fun _ hs => hs
  split_ifs
  · exact .throw
  · refine Triple.bind (Q := CountState whId locId []) ?_ fun seen => ?_
    · refine (Triple.foldEach (J := fun items seen => CountState whId locId items seen)
        (fun item items seen => triple_countItem now whId locId item items seen)
          data.countResults []).conseq (fun s hs => ?_) fun _ _ hs => hs
      obtain ⟨hworking, hids'⟩ := hs
      refine ⟨hworking ▸ hd, ?_, ?_, fun _ _ _ hlookup => by cases hlookup⟩
      · rw [hworking, hids']
        exact hids
      · rw [hworking]
        exact h whId locId hwh hloc
    · exact Triple.bind (Q := fun _ _ => True) (.commitOr fun _ hs => ⟨hs.sound, trivial⟩)
        fun _ => .ret fun _ _ => trivial

end Call

end Wms

end OmsWmsTms
