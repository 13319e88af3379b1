import OmsWmsTms.Txn.Decides
import OmsWmsTms.Wms.Ledger
import OmsWmsTms.Wms.StockSteady

/-!
# What a count leaves on hand

A call of `adjust_stock_count` reads the stock of each SKU at its location, and refuses the whole
list or replaces the quantities.  A number zero in `actual_qty` is taken for a missing quantity, a
SKU with two rows cannot be counted, and a negative quantity is refused only where it lowers a row.

* `CountCorrect` : the counts set the stock, and a list that is rejected changes nothing.
* `CountsAccepted`, `CountsExact` : the conditions on the entries, one after another, from the
  quantities at the location.
* `decides_adjustStockCount` : a list is accepted exactly then, and what is on hand afterwards.
* `countCorrect_iff` : when the call is correct.
-/

namespace OmsWmsTms

namespace Wms

open Txn (Prog Decides Session)

/-! ### What is asked of a call -/

/-- The quantity that an entry has counted; a zero is one. -/
def CountItem.counted (item : CountItem) : Option ℚ :=
  (item.actual.or item.actualQty).map QuantityArg.value

/-- The last quantity that was counted of a SKU. -/
def lastCount (d : WmsDb) (ref : SkuRef) : List CountItem → Option ℚ
  | [] => none
  | item :: items => (lastCount d ref items).or
      (if item.skuStr.map (skuRef d) = some ref then item.counted else none)

/-- What is on hand of a SKU at a location. -/
def placeTotal (d : WmsDb) (whId locId skuId : Uuid) : ℚ :=
  ((countRows (some whId) locId skuId d).map fun item => item.2.quantity.toRat).sum

/-- The row is of a SKU that an entry counts, at the location. -/
def IsCountedRow (whId locId : Uuid) (items : List CountItem) (d : WmsDb) (inv : Inventory) :
    Prop :=
  ∃ item ∈ items, ∃ code skuId, item.skuStr = some code ∧ skuIdAt d code = some skuId ∧
    countCond (some whId) locId skuId inv = true

/-- **The counts set the stock**: the last count of each SKU is on hand, and every other row is as
it was. -/
structure SetsStock (whId locId : Uuid) (items : List CountItem) (d d' : WmsDb) : Prop where
  totals : ∀ code q, lastCount d (skuRef d code) items = some q →
    ∃ skuId, skuIdAt d' code = some skuId ∧ |placeTotal d' whId locId skuId - q| ≤ tolerance
  others : ∀ key inv, ¬ IsCountedRow whId locId items d' inv →
    (inventoryAt d' key = some inv ↔ inventoryAt d key = some inv)

/-- Every entry has counted a quantity, and none is negative. -/
def CountsNonneg (items : List CountItem) : Prop :=
  ∀ item ∈ items, ∃ q, item.counted = some q ∧ 0 ≤ q

/-- An entry has counted a negative quantity. -/
def SomeNegative (items : List CountItem) : Prop :=
  ∃ item ∈ items, ∃ q, item.counted = some q ∧ q < 0

/-- **A call is correct**: counts that are not negative set the stock, a list with a negative one is
rejected, and a list that is rejected changes nothing. -/
structure CountCorrect (now : ℤ) (data : CountData) (whId locId : Uuid) (ids : ℕ → ℕ) (d : WmsDb) :
    Prop where
  sets : CountsNonneg data.countResults → ∃ answer d',
    (adjustStockCount now data).run ids d = (.ok answer, d') ∧
      SetsStock whId locId data.countResults d d'
  refuses : SomeNegative data.countResults → ∃ e d',
    (adjustStockCount now data).run ids d = (.error e, d')
  rejected : ∀ e d', (adjustStockCount now data).run ids d = (.error e, d') → d' = d

/-- The payload names a warehouse and a location that are there. -/
structure CountNamed (data : CountData) (d : WmsDb) (whId locId : Uuid) : Prop where
  warehouse : CountWarehouse data d (some whId)
  location : CountLocation data locId
  warehouseRow : d.get? (.warehouse whId) ≠ none
  locationRow : d.get? (.location locId) ≠ none

/-- The rows are under their keys, no two warehouses have the same code, and the identifiers that
the call will make are not in use. -/
structure CountReady (ids : ℕ → ℕ) (d : WmsDb) : Prop where
  keyed : Keyed d
  skus : ∀ code row, d.get? (.sku code) = some row → ∃ sku, row = .sku sku
  warehouses : ∀ key key' warehouse warehouse', d.get? key = some (.warehouse warehouse) →
    d.get? key' = some (.warehouse warehouse') → warehouse.code = warehouse'.code → key = key'
  unused : Unused ids d
  free : ∀ n, d.get? (.inventory (ids n)) = none ∧ d.get? (.stockInventoryLog (ids n)) = none

/-! ### The conditions -/

/-- A count that replaces the quantity `level` can be stored, and its log. -/
structure CountStored (code : String) (actual level : ℚ) : Prop where
  quantity : (Numeric.ofRat? actual : Option (Numeric 20 4)).isSome = true
  change : (Numeric.ofRat? |actual - level| : Option (Numeric 18 4)).isSome = true
  code : code.length ≤ 64

/-- The quantities at the location after an entry, as the session takes them. -/
def levelsAfter (d : WmsDb) (levels : SkuRef → List ℚ) (item : CountItem) : SkuRef → List ℚ :=
  match item.actual, item.skuStr with
  | some actual, some code =>
    match countStep (levels (skuRef d code)) actual.value with
    | .set _ => Function.update levels (skuRef d code) [actual.value]
    | _ => levels
  | _, _ => levels

/-- An entry is accepted: it has a quantity, its SKU is in one row at most, and what it writes can
be stored. -/
def ItemAccepted (d : WmsDb) (levels : SkuRef → List ℚ) (item : CountItem) : Prop :=
  match item.actual, item.skuStr with
  | none, _ => False
  | some actual, none => |actual.value| < tolerance
  | some actual, some code => CodeFits d code ∧
    match countStep (levels (skuRef d code)) actual.value with
    | .refuse => False
    | .keep => True
    | .set level => CountStored code actual.value level

/-- Every entry is accepted. -/
def CountsAccepted (d : WmsDb) (levels : SkuRef → List ℚ) : List CountItem → Prop
  | [] => True
  | item :: items => ItemAccepted d levels item ∧ CountsAccepted d (levelsAfter d levels item) items

/-- What the columns keep of quantities. -/
def storedTotal (levels : List ℚ) : ℚ := (levels.map (Numeric.rounded 4)).sum

/-- An entry that agrees with the quantity that the session has, and is the last one of its SKU,
agrees with what the column keeps of it as well. -/
def ItemExact (d : WmsDb) (levels : SkuRef → List ℚ) (item : CountItem) (items : List CountItem) :
    Prop :=
  ∀ actual code, item.actual = some actual → item.skuStr = some code →
    countStep (levels (skuRef d code)) actual.value = .keep →
    lastCount d (skuRef d code) items = none →
    |storedTotal (levels (skuRef d code)) - actual.value| ≤ tolerance

/-- Every entry is exact. -/
def CountsExact (d : WmsDb) (levels : SkuRef → List ℚ) : List CountItem → Prop
  | [] => True
  | item :: items => ItemExact d levels item items ∧ CountsExact d (levelsAfter d levels item) items

/-- **The condition**: a list of counts that are not negative is accepted, and exact; one with a
negative count is not accepted. -/
structure CountCondition (data : CountData) (d : WmsDb) (whId locId : Uuid) : Prop where
  sets : CountsNonneg data.countResults → data.countResults ≠ [] ∧
    CountsAccepted d (levelsAt (some whId) locId d) data.countResults ∧
    CountsExact d (levelsAt (some whId) locId d) data.countResults
  refuses : SomeNegative data.countResults →
    ¬ CountsAccepted d (levelsAt (some whId) locId d) data.countResults

/-! ### The quantities in the end -/

/-- The quantities at the location after all the entries. -/
def endLevels (d : WmsDb) (levels : SkuRef → List ℚ) (items : List CountItem) : SkuRef → List ℚ :=
  items.foldl (levelsAfter d) levels

section Levels

variable {d : WmsDb} {levels : SkuRef → List ℚ} {item : CountItem} {items : List CountItem}
  {actual : QuantityArg} {code : String} {ref : SkuRef}

theorem levelsAfter_of_keep (hactual : item.actual = some actual) (hcode : item.skuStr = some code)
    (h : countStep (levels (skuRef d code)) actual.value = .keep) :
    levelsAfter d levels item = levels := by
  simp only [levelsAfter, hactual, hcode, h]

theorem levelsAfter_of_set {level : ℚ} (hactual : item.actual = some actual)
    (hcode : item.skuStr = some code)
    (h : countStep (levels (skuRef d code)) actual.value = .set level) :
    levelsAfter d levels item = Function.update levels (skuRef d code) [actual.value] := by
  simp only [levelsAfter, hactual, hcode, h]

/-- An entry of another SKU. -/
theorem levelsAfter_of_ne (h : item.skuStr.map (skuRef d) ≠ some ref) :
    levelsAfter d levels item ref = levels ref := by
  cases hactual : item.actual with
  | none => simp only [levelsAfter, hactual]
  | some actual =>
    cases hcode : item.skuStr with
    | none => simp only [levelsAfter, hactual, hcode]
    | some code =>
      have hne : ref ≠ skuRef d code := by
        rintro rfl
        exact h (by rw [hcode]; rfl)
      simp only [levelsAfter, hactual, hcode]
      cases countStep (levels (skuRef d code)) actual.value with
      | set level => exact Function.update_of_ne hne _ _
      | keep => rfl
      | refuse => rfl

theorem counted_of_actual (hactual : item.actual = some actual) :
    item.counted = some actual.value := by
  rw [CountItem.counted, hactual]
  rfl

theorem skuStr_eq_of_map (h : item.skuStr.map (skuRef d) = some ref) :
    ∃ code, item.skuStr = some code ∧ skuRef d code = ref := Option.map_eq_some_iff.1 h

/-- An entry that is accepted has counted. -/
theorem actual_of_accepted (h : ItemAccepted d levels item) :
    ∃ actual, item.actual = some actual := by
  cases hactual : item.actual with
  | none =>
    simp only [ItemAccepted, hactual] at h
  | some actual => exact ⟨actual, rfl⟩

/-- **A SKU that is not counted keeps its quantities.** -/
theorem endLevels_of_uncounted (haccepted : CountsAccepted d levels items)
    (h : lastCount d ref items = none) : endLevels d levels items ref = levels ref := by
  induction items generalizing levels with
  | nil => rfl
  | cons item items ih =>
    obtain ⟨hitem, hitems⟩ := haccepted
    obtain ⟨hlast, hfirst⟩ := Option.or_eq_none_iff.1 h
    have hne : item.skuStr.map (skuRef d) ≠ some ref := by
      intro heq
      obtain ⟨actual, hactual⟩ := actual_of_accepted hitem
      rw [if_pos heq, counted_of_actual hactual] at hfirst
      cases hfirst
    exact (ih hitems hlast).trans (levelsAfter_of_ne hne)

/-- The column keeps a quantity up to half a unit of its last decimal. -/
theorem abs_storedTotal_sub_le (x : ℚ) : |storedTotal [x] - x| ≤ tolerance := by
  rw [storedTotal, List.map_singleton, List.sum_singleton, tolerance]
  exact (Numeric.abs_rounded_sub_le 4 x).trans (by norm_num)

/-- **The entries are exact when each SKU has its last count in the end.** -/
theorem countsExact_iff (haccepted : CountsAccepted d levels items) :
    CountsExact d levels items ↔ ∀ ref q, lastCount d ref items = some q →
      |storedTotal (endLevels d levels items ref) - q| ≤ tolerance := by
  induction items generalizing levels with
  | nil => exact iff_of_true trivial fun ref q h => by cases h
  | cons item items ih =>
    obtain ⟨hitem, hitems⟩ := haccepted
    obtain ⟨actual, hactual⟩ := actual_of_accepted hitem
    -- the entry is the last one of its SKU, or a later one decides
    have hend (ref : SkuRef) : endLevels d levels (item :: items) ref =
        endLevels d (levelsAfter d levels item) items ref := rfl
    rw [CountsExact, ih hitems]
    constructor
    · rintro ⟨hexact, hlater⟩ ref q hq
      rw [hend]
      cases hlast : lastCount d ref items with
      | some q' =>
        rw [lastCount, hlast, Option.some_or] at hq
        cases hq
        exact hlater ref _ hlast
      | none =>
        rw [lastCount, hlast, Option.none_or] at hq
        split_ifs at hq with href
        rw [counted_of_actual hactual] at hq
        cases hq
        obtain ⟨code, hcode, rfl⟩ := skuStr_eq_of_map href
        rw [endLevels_of_uncounted hitems hlast]
        cases hstep : countStep (levels (skuRef d code)) actual.value with
        | keep =>
          rw [levelsAfter_of_keep hactual hcode hstep]
          exact hexact actual code hactual hcode hstep hlast
        | refuse => simp [ItemAccepted, hactual, hcode, hstep] at hitem
        | set level =>
          rw [levelsAfter_of_set hactual hcode hstep, Function.update_self]
          exact abs_storedTotal_sub_le actual.value
    · intro h
      refine ⟨fun actual' code hactual' hcode hstep hlast => ?_, fun ref q hq => ?_⟩
      · have hcount : lastCount d (skuRef d code) (item :: items) = some actual'.value := by
          rw [lastCount, hlast, Option.none_or, if_pos (by rw [hcode]; rfl),
            counted_of_actual hactual']
        have hfinal := h _ _ hcount
        rwa [hend, endLevels_of_uncounted hitems hlast,
          levelsAfter_of_keep hactual' hcode hstep] at hfinal
      · refine h ref q ?_
        rw [lastCount, hq, Option.some_or]

end Levels

/-! ### The rows around a count -/

/-- What a session keeps apart from the quantities: SKUs under their codes, identifiers to make, the
rows that are not counted, and the SKUs of all the entries but those that are left. -/
structure Around (d : WmsDb) (whId locId : Uuid) (results left : List CountItem)
    (s : Session WmsKey WmsRow) : Prop where
  skus : ∀ code row, s.working.get? (.sku code) = some row → ∃ sku, row = .sku sku
  free : ∀ n, s.working.get? (.inventory (s.ids n)) = none ∧
    s.working.get? (.stockInventoryLog (s.ids n)) = none
  others : ∀ key inv, ¬ IsCountedRow whId locId results s.working inv →
    (inventoryAt s.working key = some inv ↔ inventoryAt d key = some inv)
  made : ∀ item ∈ results, item ∈ left ∨
    ∀ code, item.skuStr = some code → skuIdAt s.working code ≠ none

/-- The keys of the rows that get a new identifier. -/
def IsNewKey (ids : ℕ → ℕ) (key : WmsKey) : Prop :=
  ∃ n, key = .inventory (ids n) ∨ key = .stockInventoryLog (ids n)

namespace Around

variable {d : WmsDb} {whId locId skuId id : Uuid} {results left : List CountItem} {item : CountItem}
  {s : Session WmsKey WmsRow} {key : WmsKey} {row : WmsRow} {inv : Inventory} {code : String}

theorem start (hready : CountReady s.ids s.working) :
    Around s.working whId locId results results s :=
  ⟨hready.skus, hready.free, fun _ _ _ => Iff.rfl, fun _ hitem => .inl hitem⟩

theorem shift (h : Around d whId locId results left s) :
    Around d whId locId results left { s with ids := fun n => s.ids (n + 1) } :=
  ⟨h.skus, fun n => h.free (n + 1), h.others, h.made⟩

/-- **A write** that keeps the identifiers of the SKUs and the rows that are not counted. -/
theorem set (h : Around d whId locId results left s) (hnew : ¬ IsNewKey s.ids key)
    (hrow : ∀ code, key = .sku code → ∃ sku, row = .sku sku)
    (hids : ∀ code skuId, skuIdAt s.working code = some skuId →
      skuIdAt (s.working.set key row) code = some skuId)
    (hothers : ∀ key' inv, ¬ IsCountedRow whId locId results (s.working.set key row) inv →
      (inventoryAt (s.working.set key row) key' = some inv ↔
        inventoryAt s.working key' = some inv)) :
    Around d whId locId results left { s with working := s.working.set key row } where
  skus code row' hget := by
    rw [Dict.get?_set] at hget
    split_ifs at hget with hkey
    · cases hget
      exact hrow code hkey
    · exact h.skus code row' hget
  free n := by
    have hne (key' : WmsKey) (hkey' : key' = .inventory (s.ids n) ∨
        key' = .stockInventoryLog (s.ids n)) : key ≠ key' := by
      rintro rfl
      exact hnew ⟨n, hkey'⟩
    rw [Dict.get?_set, if_neg (hne _ (.inl rfl)), Dict.get?_set, if_neg (hne _ (.inr rfl))]
    exact h.free n
  others key' inv hinv := by
    rw [hothers key' inv hinv]
    refine h.others key' inv fun hcounted => hinv ?_
    obtain ⟨item, hitem, code, skuId, hcode, hid, hcond⟩ := hcounted
    exact ⟨item, hitem, code, skuId, hcode, hids code skuId hid, hcond⟩
  made item hitem := by
    refine (h.made item hitem).imp_right fun hmade code hcode => ?_
    obtain ⟨skuId, hid⟩ := Option.ne_none_iff_exists'.1 (hmade code hcode)
    rw [hids code skuId hid]
    exact Option.some_ne_none skuId

/-- A new row that is no stock. -/
theorem insertOther (h : Around d whId locId results left s) (hfree : s.working.get? key = none)
    (hstock : row.inventory? = none) (hnew : ¬ IsNewKey s.ids key)
    (hrow : ∀ code, key = .sku code → ∃ sku, row = .sku sku) :
    Around d whId locId results left { s with working := s.working.set key row } := by
  refine h.set hnew hrow (fun code skuId hid => ?_) fun key' inv _ => ?_
  · rw [skuIdAt_set, if_neg]
    · exact hid
    · rintro rfl
      rw [skuIdAt, hfree] at hid
      cases hid
  · rw [inventoryAt_set_of_new hfree hstock]

/-- **A row of a SKU that is counted.** -/
theorem setStock (h : Around d whId locId results left s) (hitem : item ∈ results)
    (hcode : item.skuStr = some code) (hsku : skuIdAt s.working code = some skuId)
    (hcond : countCond (some whId) locId skuId inv = true)
    (hold : ∀ inv', inventoryAt s.working (.inventory id) = some inv' →
      countCond (some whId) locId skuId inv' = true)
    (hid : ∀ n, s.ids n ≠ id) :
    Around d whId locId results left
      { s with working := s.working.set (.inventory id) (.inventory inv) } := by
  have hids : skuIdAt (s.working.set (.inventory id) (.inventory inv)) = skuIdAt s.working :=
    skuIdAt_set_of_ne fun _ h => by cases h
  have hcounted {inv' : Inventory} (hcond' : countCond (some whId) locId skuId inv' = true) :
      IsCountedRow whId locId results (s.working.set (.inventory id) (.inventory inv)) inv' :=
    ⟨item, hitem, code, skuId, hcode, by rw [hids]; exact hsku, hcond'⟩
  refine h.set ?_ (fun _ h => by cases h) (fun code skuId hid => ?_) fun key' inv' hinv' => ?_
  · rintro ⟨n, hkey | hkey⟩
    · cases hkey
      exact hid n rfl
    · cases hkey
  · rw [hids]
    exact hid
  · -- the row before and the row after are both counted
    rw [inventoryAt_set]
    split_ifs with hkey
    · subst hkey
      refine iff_of_false (fun heq => ?_) fun heq => hinv' (hcounted (hold inv' heq))
      cases heq
      exact hinv' (hcounted hcond)
    · rfl

/-- The SKU of an entry is there. -/
theorem found (h : Around d whId locId results (item :: left) s)
    (hcode : item.skuStr = some code) (hsku : skuIdAt s.working code ≠ none) :
    Around d whId locId results left s := by
  refine ⟨h.skus, h.free, h.others, fun item' hitem' => ?_⟩
  rcases h.made item' hitem' with hleft | hmade
  · rcases List.mem_cons.1 hleft with rfl | hleft
    · refine .inr fun code' hcode' => ?_
      cases hcode.symm.trans hcode'
      exact hsku
    · exact .inl hleft
  · exact .inr hmade

/-- An entry without a code. -/
theorem skip (h : Around d whId locId results (item :: left) s) (hcode : item.skuStr = none) :
    Around d whId locId results left s := by
  refine ⟨h.skus, h.free, h.others, fun item' hitem' => ?_⟩
  rcases h.made item' hitem' with hleft | hmade
  · rcases List.mem_cons.1 hleft with rfl | hleft
    · refine .inr fun code' hcode' => ?_
      rw [hcode] at hcode'
      cases hcode'
    · exact .inl hleft
  · exact .inr hmade

end Around

/-- What holds before the entries that are left. -/
structure Counting (d : WmsDb) (whId locId : Uuid) (results left : List CountItem)
    (levels : SkuRef → List ℚ) (seen : SetQuantities) (s : Session WmsKey WmsRow) : Prop where
  books : ∃ off, CountBooks d (some whId) locId levels off seen s
  around : Around d whId locId results left s

/-- The stock that an entry has read. -/
structure EntryRead (d : WmsDb) (whId locId : Uuid) (results left : List CountItem) (skuId : Uuid)
    (code : String) (levels : SkuRef → List ℚ) (rows : List (WmsKey × Inventory))
    (seen : SetQuantities) (s : Session WmsKey WmsRow) : Prop where
  reads : ∃ off, CountReads d (some whId) locId skuId code levels off rows seen s
  around : Around d whId locId results left s

/-- Between the write of a row and its log. -/
structure EntryWritten (d : WmsDb) (whId locId : Uuid) (results left : List CountItem)
    (skuId : Uuid) (code : String) (levels : SkuRef → List ℚ) (seen : SetQuantities)
    (s : Session WmsKey WmsRow) : Prop where
  sku : skuIdAt s.working code = some skuId
  books : ∃ off, CountBooks d (some whId) locId levels off seen s
  around : Around d whId locId results left s

/-! ### One entry -/

section Statements

variable {P : Session WmsKey WmsRow → Prop}

/-- **The rule for a SKU**, which is found or made. -/
theorem decides_sku {code : String} {φ : Prop} {Q : Oms.Sku × Bool → Session WmsKey WmsRow → Prop}
    (hrows : ∀ s row, P s → s.working.get? (.sku code) = some row → ∃ sku, row = .sku sku)
    (hfound : ∀ s sku, P s → s.working.get? (.sku code) = some (.sku sku) → φ ∧ Q (sku, false) s)
    (hfits : ∀ s, P s → s.working.get? (.sku code) = none → (φ ↔ code.length ≤ 50))
    (hmade : ∀ s, P s → s.working.get? (.sku code) = none → code.length ≤ 50 →
      Q (⟨s.ids 0, code, code⟩, true) ⟨s.committed,
        s.working.set (.sku code) (.sku ⟨s.ids 0, code, code⟩), fun n => s.ids (n + 1)⟩) :
    Decides P (getOrCreateSku code) φ Q := by
  intro s hs
  cases hget : s.working.get? (.sku code) with
  | some row =>
    obtain ⟨sku, rfl⟩ := hrows s row hs hget
    obtain ⟨hφ, hQ⟩ := hfound s sku hs hget
    rw [exec_getOrCreateSku_found hget]
    exact ⟨fun _ => ⟨_, _, rfl, hQ⟩, fun h => absurd hφ h⟩
  | none =>
    rw [hfits s hs hget]
    refine ⟨fun hlength => ?_, fun hlength => ?_⟩
    · rw [exec_getOrCreateSku_made hget hlength]
      exact ⟨_, _, rfl, hmade s hs hget hlength⟩
    · refine exec_getOrCreateSku_error (fun sku h => ?_) (.inr hlength)
      rw [hget] at h
      cases h

theorem decides_selectInventory {cond : Inventory → Bool}
    {Q : List (WmsKey × Inventory) → Session WmsKey WmsRow → Prop}
    (h : ∀ s, P s → Q (stockOf (Txn.select (fun _ row => row.inventory?.any cond) s.working)) s) :
    Decides P (selectInventory cond) True Q :=
  fun s hs => ⟨fun _ => ⟨_, _, rfl, h s hs⟩, fun hfalse => absurd trivial hfalse⟩

theorem decides_throw {A : Type} {e : ServiceError} {Q : A → Session WmsKey WmsRow → Prop} :
    Decides P (.throw e : WmsProg A) False Q :=
  fun s _ => ⟨fun h => h.elim, fun _ => ⟨e, s, rfl⟩⟩

/-- A reference to a row that is there. -/
theorem decides_checkReference {key : WmsKey} (h : ∀ s, P s → s.working.get? key ≠ none) :
    Decides P (checkReference key) True fun _ => P := by
  refine Decides.bind_true (Q := fun rows s => rows ≠ [] ∧ P s)
    (.query fun s hs => ⟨mt Txn.select_keyQuery_eq_nil_iff.1 (h s hs), hs⟩) fun rows => ?_
  refine Decides.assume fun hrows => ?_
  rw [if_neg hrows]
  exact .ret fun s hs => hs

end Statements

/-- What is raised is a refusal. -/
theorem countStep_of_raise {seen : SetQuantities} {code : String} {actual : QuantityArg}
    {rows : List (WmsKey × Inventory)} {e : ServiceError}
    (h : chooseCount seen code actual rows = .raise e) :
    countStep (rows.map fun item => (systemQty seen item.1 item.2).value) actual.value =
      .refuse := by
  match rows with
  | [] =>
    dsimp only [chooseCount] at h
    split_ifs at h
  | [(key, inv)] =>
    simp only [chooseCount] at h
    simp only [countStep, List.map_cons, List.map_nil]
    split_ifs at h with htolerance hpos hlt
    rw [if_neg htolerance, if_pos]
    have hdiff : actual.value - (systemQty seen key inv).value ≤ 0 := not_lt.1 hpos
    rw [abs_of_nonpos hdiff] at hlt
    refine ⟨lt_of_le_of_ne (sub_nonpos.1 hdiff) fun heq => htolerance ?_, by linarith⟩
    rw [heq, sub_self, abs_zero, tolerance]
    norm_num
  | _ :: _ :: _ => rfl

section Entry

variable {d : WmsDb} {whId locId skuId : Uuid} {results left : List CountItem} {item : CountItem}
  {levels : SkuRef → List ℚ} {seen : SetQuantities} {code : String} {actual : QuantityArg}
  {rows : List (WmsKey × Inventory)}

/-- **The log of a count.** -/
theorem decides_logCount (hwarehouse : d.get? (.warehouse whId) ≠ none) (diff : ℚ) :
    Decides (EntryWritten d whId locId results left skuId code levels seen)
      (logCount whId code diff)
      (code.length ≤ 64 ∧ (Numeric.ofRat? |diff| : Option (Numeric 18 4)).isSome = true)
      fun _ => Counting d whId locId results left levels seen := by
  let P := EntryWritten d whId locId results left skuId code levels seen
  have hinsert (text : String) (change : Numeric 18 4) (htext : text = code) :
      Decides P ((checkReference (.warehouse whId)).bind fun _ => Prog.newId.bind fun id =>
        Prog.insertOr .integrityError (.stockInventoryLog id) (.stockInventoryLog {
          id, warehouseId := whId, sku := text
          type := if 0 < diff then "ADJUSTMENT_IN" else "ADJUSTMENT_OUT"
          referenceType := "stock_count", quantityChange := change, operatorId := none
          reason := some "stock_count", remark := none }))
        True fun _ => Counting d whId locId results left levels seen := by
    refine (decides_checkReference fun s hs => ?_).bind_true fun _ => ?_
    · obtain ⟨off, hbooks⟩ := hs.books
      rw [hbooks.warehouse]
      exact hwarehouse
    refine Decides.bind_true (Q := fun id s => P s ∧ (∀ n, s.ids n ≠ id) ∧
      s.working.get? (.stockInventoryLog id) = none) (.newId fun s hs => ?_) fun id => ?_
    · obtain ⟨off, hbooks⟩ := hs.books
      exact ⟨⟨hs.sku, ⟨off, hbooks.shift⟩, hs.around.shift⟩,
        fun n heq => hbooks.unused.zero_ne n heq.symm, (hs.around.free 0).2⟩
    · refine .insertOr (fun s hs => iff_of_true trivial hs.2.2) fun s hs hfree => ?_
      obtain ⟨⟨hsku, ⟨off, hbooks⟩, haround⟩, hid, -⟩ := hs
      refine ⟨⟨_, hbooks.insertLog hsku hfree (show "stock_count" ≠ "adjust_stock" by decide)
        htext rfl rfl⟩, haround.insertOther hfree rfl ?_ fun _ h => by cases h⟩
      rintro ⟨n, hkey | hkey⟩
      · cases hkey
      · cases hkey
        exact hid n rfl
  have htext : Decides P (Prog.ofExcept (storeWhole 64 code))
      (∃ text, storeWhole 64 code = .ok text) fun text s => text = code ∧ P s :=
    .ofExcept fun text htext s hs => ⟨(storeWhole_eq_ok_iff.1 htext).2.symm, hs⟩
  have hall : Decides P (logCount whId code diff) _ _ := htext.bind fun text =>
    Decides.assume fun htext => (Decides.ofExcept (x := storeNumeric |diff|)
      fun _ _ _ hs => hs).bind fun change => hinsert text change htext
  refine hall.conseq (fun _ hs => hs) (fun _ _ => ?_) fun _ _ h => h
  rw [exists_storeWhole_iff, exists_storeNumeric_iff, and_true]

/-- **A new row.** -/
theorem decides_insertCount (now : ℤ) (hwarehouse : d.get? (.warehouse whId) ≠ none)
    (hitem : item ∈ results) (hcode : item.skuStr = some code) :
    Decides (EntryRead d whId locId results left skuId code levels [] seen)
      (applyCount now (some whId) locId skuId code actual seen .insert)
      (CountStored code actual.value 0)
      (Counting d whId locId results left
        (Function.update levels (skuRef d code) [actual.value])) := by
  let P := EntryRead d whId locId results left skuId code levels [] seen
  have hinsert (quantity : Numeric 20 4) (hquantity : Numeric.ofRat? actual.value = some quantity) :
      Decides P (Prog.newId.bind fun id =>
        (Prog.insertOr .integrityError (.inventory id)
          (.inventory (countedStock now whId locId skuId quantity id))).bind fun _ =>
        (logCount whId code actual.value).bind fun _ =>
          (.ret ((.inventory id, actual) :: seen) : WmsProg SetQuantities))
      (code.length ≤ 64 ∧ (Numeric.ofRat? |actual.value| : Option (Numeric 18 4)).isSome = true)
      (Counting d whId locId results left
        (Function.update levels (skuRef d code) [actual.value])) := by
    refine Decides.bind_true (Q := fun id s => P s ∧ (∀ n, s.ids n ≠ id) ∧
      s.working.get? (.inventory id) = none) (.newId fun s hs => ?_) fun id => ?_
    · obtain ⟨off, hreads⟩ := hs.reads
      exact ⟨⟨⟨off, hreads.sku, hreads.rows_eq, hreads.books.shift⟩, hs.around.shift⟩,
        fun n heq => hreads.books.unused.zero_ne n heq.symm, (hs.around.free 0).1⟩
    refine Decides.bind_true (Q := fun _ => EntryWritten d whId locId results left skuId code
      (Function.update levels (skuRef d code) [actual.value]) ((.inventory id, actual) :: seen))
      (.insertOr (fun s hs => iff_of_true trivial hs.2.2) fun s hs hfree => ?_) fun _ => ?_
    · obtain ⟨⟨⟨off, hreads⟩, haround⟩, hid, -⟩ := hs
      have hcounted : countCond (some whId) locId skuId
          (countedStock now whId locId skuId quantity id) = true := by
        simp [countCond, countedStock]
      obtain ⟨hsku, hbooks⟩ := hreads.inserted now hquantity hfree
      refine ⟨hsku, ⟨_, hbooks⟩, haround.setStock hitem hcode hreads.sku hcounted
        (fun inv' hinv' => ?_) hid⟩
      rw [inventoryAt, hfree] at hinv'
      cases hinv'
    · refine ((decides_logCount hwarehouse actual.value).bind fun _ =>
        Decides.ret fun _ hs => hs).conseq (fun _ hs => hs) (fun _ _ => ?_) fun _ _ h => h
      rw [and_true]
  have hall : Decides P (applyCount now (some whId) locId skuId code actual seen .insert) _ _ :=
    (Decides.ofExcept (x := storeNumeric actual.value)
      fun quantity hquantity s hs => ⟨storeNumeric_eq_ok_iff.1 hquantity, hs⟩).bind fun quantity =>
        Decides.assume (hinsert quantity)
  refine hall.conseq (fun _ hs => hs) (fun _ _ => ?_) fun _ _ h => h
  rw [exists_storeNumeric_iff]
  constructor
  · rintro ⟨hquantity, hlength, hchange⟩
    exact ⟨hquantity, by rwa [sub_zero], hlength⟩
  · rintro ⟨hquantity, hchange, hlength⟩
    exact ⟨hquantity, hlength, by rwa [sub_zero] at hchange⟩

/-- **A changed row.** -/
theorem decides_changeCount (now : ℤ) (hwarehouse : d.get? (.warehouse whId) ≠ none)
    (hitem : item ∈ results) (hcode : item.skuStr = some code) {key : WmsKey} {inv : Inventory}
    {diff : ℚ} (hdiff : diff = actual.value - (systemQty seen key inv).value) :
    Decides (EntryRead d whId locId results left skuId code levels [(key, inv)] seen)
      (applyCount now (some whId) locId skuId code actual seen (.change key diff))
      (CountStored code actual.value (systemQty seen key inv).value)
      (Counting d whId locId results left
        (Function.update levels (skuRef d code) [actual.value])) := by
  let P := EntryRead d whId locId results left skuId code levels [(key, inv)] seen
  have hchange (quantity : Numeric 20 4) (hquantity : Numeric.ofRat? actual.value = some quantity) :
      Decides P ((Prog.updateOr .staleData key (WmsRow.mapInventory (setCount now quantity))).bind
        fun _ => (logCount whId code diff).bind fun _ =>
          (.ret ((key, actual) :: seen) : WmsProg SetQuantities))
      (code.length ≤ 64 ∧ (Numeric.ofRat? |diff| : Option (Numeric 18 4)).isSome = true)
      (Counting d whId locId results left
        (Function.update levels (skuRef d code) [actual.value])) := by
    refine Decides.bind_true (Q := fun _ => EntryWritten d whId locId results left skuId code
      (Function.update levels (skuRef d code) [actual.value]) ((key, actual) :: seen))
      (.updateOr fun s hs => ?_) fun _ => ?_
    · obtain ⟨⟨off, hreads⟩, haround⟩ := hs
      obtain ⟨hget, hsku, hbooks⟩ := hreads.changed now hquantity
      obtain ⟨-, hcounted⟩ := mem_countRows.1 (hreads.rows_eq ▸ List.mem_singleton_self (key, inv))
      refine ⟨.inventory inv, hget, hsku, ⟨_, hbooks⟩, ?_⟩
      -- the row is under its own key
      obtain rfl := hreads.books.books.keyed key inv hget
      refine haround.setStock hitem hcode hreads.sku hcounted (fun inv' hinv' => ?_) fun n hid => ?_
      · rw [inventoryAt_eq_some_iff.2 hget] at hinv'
        cases hinv'
        exact hcounted
      · have hfree := (haround.free n).1
        rw [hid, hget] at hfree
        cases hfree
    · refine ((decides_logCount hwarehouse diff).bind fun _ =>
        Decides.ret fun _ hs => hs).conseq (fun _ hs => hs) (fun _ _ => ?_) fun _ _ h => h
      rw [and_true]
  have hall : Decides P
      (applyCount now (some whId) locId skuId code actual seen (.change key diff)) _ _ :=
    (Decides.ofExcept (x := storeNumeric actual.value)
      fun quantity hquantity s hs => ⟨storeNumeric_eq_ok_iff.1 hquantity, hs⟩).bind fun quantity =>
        Decides.assume (hchange quantity)
  refine hall.conseq (fun _ hs => hs) (fun _ _ => ?_) fun _ _ h => h
  rw [exists_storeNumeric_iff, hdiff]
  constructor
  · rintro ⟨hquantity, hlength, hchange⟩
    exact ⟨hquantity, hchange, hlength⟩
  · rintro ⟨hquantity, hchange, hlength⟩
    exact ⟨hquantity, hlength, hchange⟩

/-- What is accepted of a count, from the quantities of the rows. -/
def StepAccepted (code : String) (actual : ℚ) : CountStep → Prop
  | .refuse => False
  | .keep => True
  | .set level => CountStored code actual level

/-- **What a count does with the rows that it has read.** -/
theorem decides_applyCount (now : ℤ) (hwarehouse : d.get? (.warehouse whId) ≠ none)
    (hitem : item ∈ results) (hcode : item.skuStr = some code)
    (hactual : item.actual = some actual)
    (hlevels : levels (skuRef d code) =
      rows.map fun item => (systemQty seen item.1 item.2).value) :
    Decides (EntryRead d whId locId results left skuId code levels rows seen)
      (applyCount now (some whId) locId skuId code actual seen (chooseCount seen code actual rows))
      (StepAccepted code actual.value (countStep (levels (skuRef d code)) actual.value))
      (Counting d whId locId results left (levelsAfter d levels item)) := by
  have hspec := chooseCount_spec seen code actual rows
  rw [← hlevels] at hspec
  cases hchoice : chooseCount seen code actual rows with
  | raise e =>
    rw [hlevels, countStep_of_raise hchoice]
    exact decides_throw
  | keep =>
    rw [hchoice] at hspec
    rw [levelsAfter_of_keep hactual hcode hspec, hspec]
    refine .ret fun s hs => ⟨?_, hs.around⟩
    obtain ⟨off, hreads⟩ := hs.reads
    exact ⟨off, hreads.books⟩
  | insert =>
    rw [hchoice] at hspec
    obtain ⟨rfl, hstep⟩ := hspec
    rw [levelsAfter_of_set hactual hcode hstep, hstep]
    exact decides_insertCount now hwarehouse hitem hcode
  | change key diff =>
    rw [hchoice] at hspec
    obtain ⟨inv, rfl, hstep, hdiff⟩ := hspec
    rw [levelsAfter_of_set hactual hcode hstep, hstep]
    exact decides_changeCount now hwarehouse hitem hcode hdiff

/-- **One entry.** -/
theorem decides_countItem (now : ℤ) (hwarehouse : d.get? (.warehouse whId) ≠ none)
    (hitem : item ∈ results) :
    Decides (Counting d whId locId results (item :: left) levels seen)
      (countItem now (some whId) locId seen item) (ItemAccepted d levels item)
      (Counting d whId locId results left (levelsAfter d levels item)) := by
  unfold countItem ItemAccepted
  cases hactual : item.actual with
  | none => exact decides_throw
  | some actual =>
    cases hcode : item.skuStr with
    | none =>
      have hlevels : levelsAfter d levels item = levels := by
        simp only [levelsAfter, hactual, hcode]
      rw [hlevels]
      dsimp only
      split_ifs with htolerance
      · exact (Decides.ret fun s hs => ⟨hs.books, hs.around.skip hcode⟩).conseq (fun _ hs => hs)
          (fun _ _ => iff_of_true trivial htolerance) fun _ _ h => h
      · exact decides_throw.conseq (fun _ hs => hs)
          (fun _ _ => iff_of_false not_false htolerance) fun _ _ h => h
    | some code =>
      have hsku : Decides (Counting d whId locId results (item :: left) levels seen)
          (getOrCreateSku code) (CodeFits d code) fun answer s =>
            skuIdAt s.working code = some answer.1.id ∧
              Counting d whId locId results left levels seen s := by
        refine decides_sku (fun s row hs hget => hs.around.skus code row hget)
          (fun s sku hs hget => ?_) (fun s hs hfree => ?_) fun s hs hfree hlength => ?_
        · obtain ⟨off, hbooks⟩ := hs.books
          have hid : skuIdAt s.working code = some sku.id := skuIdAt_eq_some_iff.2 ⟨sku, hget, rfl⟩
          refine ⟨hbooks.fits code sku.id hid, hid, ⟨off, hbooks⟩, hs.around.found hcode ?_⟩
          rw [hid]
          exact Option.some_ne_none _
        · -- a SKU that is not there now was not there before
          obtain ⟨off, hbooks⟩ := hs.books
          have hbefore : skuIdAt d code = none := by
            by_contra hne
            obtain ⟨skuId, hid⟩ := Option.ne_none_iff_exists'.1 hne
            have hnow := skuIdAt_of_steady hbooks.books.kept hid
            rw [skuIdAt, hfree] at hnow
            cases hnow
          exact ⟨fun h => h hbefore, fun h _ => h⟩
        · obtain ⟨off, hbooks⟩ := hs.books
          have hid : skuIdAt (s.working.set (.sku code) (.sku ⟨s.ids 0, code, code⟩)) code =
              some (s.ids 0) := by
            rw [skuIdAt_set, if_pos rfl]
            rfl
          have hrow : ∀ code', (.sku code : WmsKey) = .sku code' →
              ∃ sku, WmsRow.sku ⟨s.ids 0, code, code⟩ = .sku sku := fun _ _ => ⟨_, rfl⟩
          have haround := hs.around.shift.insertOther hfree rfl
            (by rintro ⟨n, hkey | hkey⟩ <;> cases hkey) hrow
          refine ⟨hid, ⟨off, hbooks.makeSku hfree hlength⟩, haround.found hcode ?_⟩
          rw [hid]
          exact Option.some_ne_none _
      refine (hsku.bind fun answer => ?_).conseq (fun _ hs => hs)
        (ψ := CodeFits d code ∧ StepAccepted code actual.value
          (countStep (levels (skuRef d code)) actual.value)) (fun _ _ => Iff.rfl) fun _ _ h => h
      obtain ⟨sku, created⟩ := answer
      refine Decides.bind_true (Q := fun rows s => levels (skuRef d code) =
        (rows.map fun item => (systemQty seen item.1 item.2).value) ∧
          EntryRead d whId locId results left sku.id code levels rows seen s)
        (decides_selectInventory fun s hs => ?_) fun rows => ?_
      · obtain ⟨hid, ⟨off, hbooks⟩, haround⟩ := hs
        exact ⟨hbooks.rows code sku.id hid, ⟨off, hid, rfl, hbooks⟩, haround⟩
      · exact Decides.assume fun hlevels =>
          decides_applyCount now hwarehouse hitem hcode hactual hlevels

/-- **The loop.** -/
theorem decides_countItems (now : ℤ) (hwarehouse : d.get? (.warehouse whId) ≠ none)
    (hleft : ∀ item ∈ left, item ∈ results) :
    Decides (Counting d whId locId results left levels seen)
      (Prog.foldEach left seen (countItem now (some whId) locId)) (CountsAccepted d levels left)
      (Counting d whId locId results [] (endLevels d levels left)) := by
  induction left generalizing levels seen with
  | nil => exact .ret fun _ hs => hs
  | cons item items ih =>
    obtain ⟨hitem, hitems⟩ := List.forall_mem_cons.1 hleft
    exact (decides_countItem now hwarehouse hitem).bind fun seen' => ih hitems

end Entry

/-! ### The call -/

section Call

variable {data : CountData} {d : WmsDb} {whId locId : Uuid} {ids : ℕ → ℕ}
  {P : Session WmsKey WmsRow → Prop}

/-- The warehouse is the one that the payload names, since no other one has its code. -/
theorem decides_countWarehouse (hnamed : CountNamed data d whId locId) (hready : CountReady ids d)
    (hP : ∀ s, P s → s.working = d) :
    Decides P (countWarehouse data) True fun found s => found = some whId ∧ P s := by
  have hwarehouse := hnamed.warehouse
  unfold CountWarehouse at hwarehouse
  unfold countWarehouse
  cases harg : nonEmpty data.warehouseId with
  | some arg =>
    simp only [harg] at hwarehouse
    obtain ⟨id, hid, hsome⟩ := hwarehouse
    cases hsome
    simp only [toUuid, hid]
    exact .ret fun s hs => ⟨rfl, hs⟩
  | none =>
    simp only [harg] at hwarehouse
    cases hcode : data.sourceWarehouseCode.filter (· ≠ "") with
    | none =>
      simp only [hcode] at hwarehouse
      cases hwarehouse
    | some code =>
      simp only [hcode] at hwarehouse
      obtain ⟨key, warehouse, hget, hname, hsome⟩ := hwarehouse
      cases hsome
      dsimp only
      refine Decides.bind_true (Q := fun rows s => rows = [(key, .warehouse warehouse)] ∧ P s)
        (.query fun s hs => ⟨?_, hs⟩) fun rows => Decides.assume fun hrows => ?_
      · rw [hP s hs]
        refine Txn.select_eq_singleton hget (by simpa [WmsRow.warehouse?] using hname)
          fun key' row hget' hmatch => ?_
        cases row with
        | warehouse warehouse' =>
          refine hready.warehouses key' key warehouse' warehouse hget' hget ?_
          rw [hname]
          simpa [WmsRow.warehouse?] using hmatch
        | _ => cases hmatch
      · subst hrows
        exact .ret fun s hs => ⟨rfl, hs⟩

theorem decides_countLocation (hlocation : CountLocation data locId) :
    Decides P (countLocation data) True fun found s => found = locId ∧ P s := by
  obtain ⟨arg, harg, hid⟩ := hlocation
  unfold countLocation
  simp only [harg, toUuid, hid]
  exact .ret fun s hs => ⟨rfl, hs⟩

theorem decides_checkLocation (h : ∀ s, P s → s.working.get? (.location locId) ≠ none) :
    Decides P (checkLocation locId) True fun _ => P := by
  refine Decides.bind_true (Q := fun rows s => rows ≠ [] ∧ P s)
    (.query fun s hs => ⟨mt Txn.select_keyQuery_eq_nil_iff.1 (h s hs), hs⟩) fun rows => ?_
  refine Decides.assume fun hrows => ?_
  cases rows with
  | nil => exact absurd rfl hrows
  | cons row rows => exact .ret fun s hs => hs

/-- **A list of counts is accepted exactly under the condition**, and the quantities of its entries
are what the session has in the end. -/
theorem decides_adjustStockCount (now : ℤ) (hready : CountReady ids d)
    (hnamed : CountNamed data d whId locId) :
    Decides (fun s => s = ⟨d, d, ids⟩) (adjustStockCount now data)
      (data.countResults ≠ [] ∧
        CountsAccepted d (levelsAt (some whId) locId d) data.countResults)
      fun _ s => s.committed = s.working ∧ ∃ seen, Counting d whId locId data.countResults []
        (endLevels d (levelsAt (some whId) locId d) data.countResults) seen s := by
  let P (s : Session WmsKey WmsRow) : Prop := s = ⟨d, d, ids⟩
  have hworking (s : Session WmsKey WmsRow) (hs : P s) : s.working = d := by rw [hs]
  refine (decides_countWarehouse hnamed hready hworking).bind_true fun found =>
    Decides.assume ?_
  rintro rfl
  refine (decides_countLocation hnamed.location).bind_true fun found => Decides.assume ?_
  rintro rfl
  refine (decides_checkLocation fun s hs =>
    hworking s hs ▸ hnamed.locationRow).bind_true fun _ => ?_
  split_ifs with hempty
  · exact decides_throw.conseq (fun _ hs => hs)
      (fun _ _ => iff_of_false not_false fun h => h.1 hempty) fun _ _ h => h
  · have hcommit (seen : SetQuantities) : Decides
        (Counting d whId found data.countResults []
          (endLevels d (levelsAt (some whId) found d) data.countResults) seen)
        ((Prog.commitOr .commitFailed).bind fun _ =>
          (.ret s!"Stock count processed: {data.countResults.length} SKUs" : WmsProg String))
        True fun _ s => s.committed = s.working ∧ ∃ seen, Counting d whId found data.countResults []
          (endLevels d (levelsAt (some whId) found d) data.countResults) seen s := by
      refine Decides.bind_true (Q := fun _ s => s.committed = s.working ∧ ∃ seen,
        Counting d whId found data.countResults []
          (endLevels d (levelsAt (some whId) found d) data.countResults) seen s)
        (.commitOr fun s hs => ⟨rfl, seen, hs.books.imp fun off hbooks => ?_, ?_⟩)
        fun _ => .ret fun _ hs => hs
      · exact ⟨hbooks.books, hbooks.unused, hbooks.rows, hbooks.free, hbooks.same, hbooks.fits,
          hbooks.rounds, hbooks.warehouse⟩
      · exact ⟨hs.around.skus, hs.around.free, hs.around.others, hs.around.made⟩
    refine ((decides_countItems now hnamed.warehouseRow fun _ hitem => hitem).bind hcommit).conseq
      (fun s hs => ?_) (fun _ _ => ?_) fun _ _ h => h
    · rw [hs]
      exact ⟨⟨_, countBooks_start (s := ⟨d, d, ids⟩) hready.keyed hready.unused _ _⟩,
        .start (s := ⟨d, d, ids⟩) hready⟩
    · rw [and_true, and_iff_right hempty]

end Call

/-! ### What is on hand afterwards -/

section Totals

variable {d : WmsDb} {whId locId : Uuid} {results : List CountItem} {levels : SkuRef → List ℚ}
  {seen : SetQuantities} {s : Session WmsKey WmsRow}

/-- A SKU that was counted is that of an entry. -/
theorem mem_of_lastCount {ref : SkuRef} {q : ℚ} {items : List CountItem}
    (h : lastCount d ref items = some q) :
    ∃ item ∈ items, ∃ code, item.skuStr = some code ∧ skuRef d code = ref := by
  induction items with
  | nil => cases h
  | cons item items ih =>
    rw [lastCount, Option.or_eq_some_iff] at h
    rcases h with hlater | ⟨-, hfirst⟩
    · obtain ⟨item', hitem', hcode⟩ := ih hlater
      exact ⟨item', List.mem_cons_of_mem _ hitem', hcode⟩
    · split_ifs at hfirst with href
      exact ⟨item, List.mem_cons_self, skuStr_eq_of_map href⟩

/-- What the columns keep of the quantities is on hand. -/
theorem Counting.placeTotal_eq (h : Counting d whId locId results [] levels seen s) {code : String}
    {skuId : Uuid} (hid : skuIdAt s.working code = some skuId) :
    placeTotal s.working whId locId skuId = storedTotal (levels (skuRef d code)) := by
  obtain ⟨off, hbooks⟩ := h.books
  rw [storedTotal, hbooks.rows code skuId hid, List.map_map, placeTotal]
  refine congrArg List.sum (List.map_congr_left fun item hitem => ?_)
  exact (hbooks.rounded_systemQty (mem_countRows.1 hitem).1).symm

/-- The SKU of a code that was counted. -/
theorem Counting.exists_skuId (h : Counting d whId locId results [] levels seen s) {code : String}
    {q : ℚ} (hlast : lastCount d (skuRef d code) results = some q) :
    ∃ skuId, skuIdAt s.working code = some skuId := by
  obtain ⟨off, hbooks⟩ := h.books
  obtain ⟨item, hitem, code', hcode', href⟩ := mem_of_lastCount hlast
  rcases h.around.made item hitem with hleft | hmade
  · cases hleft
  · obtain ⟨skuId, hid⟩ := Option.ne_none_iff_exists'.1 (hmade code' hcode')
    exact ⟨skuId, (hbooks.same code' code skuId hid).1 href⟩

/-- **The stock is set when the quantities in the end are the last counts.** -/
theorem Counting.setsStock_iff (h : Counting d whId locId results [] levels seen s) :
    SetsStock whId locId results d s.working ↔ ∀ ref q, lastCount d ref results = some q →
      |storedTotal (levels ref) - q| ≤ tolerance := by
  constructor
  · intro hsets ref q hlast
    obtain ⟨item, hitem, code, hcode, rfl⟩ := mem_of_lastCount hlast
    obtain ⟨skuId, hid, hle⟩ := hsets.totals code q hlast
    rwa [h.placeTotal_eq hid] at hle
  · intro hexact
    refine ⟨fun code q hlast => ?_, h.around.others⟩
    obtain ⟨skuId, hid⟩ := h.exists_skuId hlast
    refine ⟨skuId, hid, ?_⟩
    rw [h.placeTotal_eq hid]
    exact hexact _ q hlast

end Totals

/-! ### When a call is correct -/

section Correct

variable {now : ℤ} {data : CountData} {d : WmsDb} {whId locId : Uuid} {ids : ℕ → ℕ}

/-- **What a call does.** -/
theorem run_adjustStockCount (now : ℤ) (hready : CountReady ids d)
    (hnamed : CountNamed data d whId locId) :
    (data.countResults ≠ [] ∧ CountsAccepted d (levelsAt (some whId) locId d) data.countResults →
      ∃ answer d', (adjustStockCount now data).run ids d = (.ok answer, d') ∧
        (SetsStock whId locId data.countResults d d' ↔
          CountsExact d (levelsAt (some whId) locId d) data.countResults)) ∧
    (¬ (data.countResults ≠ [] ∧
        CountsAccepted d (levelsAt (some whId) locId d) data.countResults) →
      ∃ e d', (adjustStockCount now data).run ids d = (.error e, d')) := by
  obtain ⟨hok, herror⟩ := (decides_adjustStockCount now hready hnamed).run rfl
  refine ⟨fun h => ?_, herror⟩
  obtain ⟨answer, s, hrun, hcommitted, seen, hcounting⟩ := hok h
  refine ⟨answer, s.working, hcommitted ▸ hrun, ?_⟩
  rw [hcounting.setsStock_iff, countsExact_iff h.2]

end Correct

/-! ### Counts of a shelf -/

/-- The count of the SKU on the shelf. -/
def shelfCount (actual : QuantityArg) : CountData where
  warehouseId := some ⟨"1", some 1⟩
  locationId := some ⟨"2", some 2⟩
  countResults := [{ sku := some (some "A"), actualQty := some actual }]

theorem countNamed_shelfCount (actual : QuantityArg) :
    CountNamed (shelfCount actual) lockedShelfDb 1 2 where
  warehouse := ⟨1, rfl, rfl⟩
  location := ⟨⟨"2", some 2⟩, rfl, rfl⟩
  warehouseRow h := by cases h
  locationRow h := by cases h

theorem countReady_lockedShelfDb : CountReady hundreds lockedShelfDb where
  keyed := keyed_lockedShelfDb
  skus code row h := by
    unfold lockedShelfDb emptyDb at h
    simp only [Dict.get?_set, Dict.get?_empty, reduceCtorEq, if_false] at h
    split_ifs at h
    cases h
    exact ⟨_, rfl⟩
  warehouses key key' warehouse warehouse' h h' _ := by
    have hkey {key : WmsKey} {warehouse : Warehouse}
        (h : lockedShelfDb.get? key = some (.warehouse warehouse)) : .warehouse 1 = key := by
      unfold lockedShelfDb emptyDb at h
      simp only [Dict.get?_set, Dict.get?_empty] at h
      split_ifs at h with h₁ h₂ h₃ h₄
      all_goals cases h
      exact h₄
    rw [← hkey h, ← hkey h']
  unused := unused_lockedShelfDb
  free n := by simp [lockedShelfDb, emptyDb, hundreds]

end Wms

end OmsWmsTms
