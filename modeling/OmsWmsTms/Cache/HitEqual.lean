import OmsWmsTms.Admin.InventoryCsv
import OmsWmsTms.Cache.RateLimit
import OmsWmsTms.Data.JsonText

/-!
# A cache hit equals the miss

`cached` of `src/cache/decorators.py` over a server that is up, with the JSON texts that it stores,
and `get_low_stock_items` of `src/analytics/service.py`, which it wraps.

* `PyResult` : a result; `pyJson` : its text in the cache.
* `Fills`, `Serves` : a call that fills the cache, and a later one that finds it filled.
* `HitEqual` : the later call returns the result itself.
* `hitEqual_iff` : so it does exactly for the results that are plain, or are never stored.
* `hitEqual_getLowStockItems_iff` : and for a list of low stock exactly when nothing is low.
-/

namespace OmsWmsTms

namespace Cache

open JsonText

/-- A result, whose dictionaries have one item for a key. -/
abbrev PyResult := { value : PyValue // Distinct value }

/-- `json.dumps` with `default=str`, and `json.loads`; the texts are in ASCII, so that `encode` and
`decode` keep them.  `parseFloat` is what the numbers with a fraction are read as. -/
def pyJson (parseFloat : List Char → PyValue) : JsonCodec PyValue String where
  dumps value := (dumps value).map String.ofList
  loads text := loads parseFloat text.toList

section

variable (parseFloat : List Char → PyValue)

section

variable {S : Type} (func : Comp (World S) Raised PyValue) (ttl : ℤ) (key : String)

/-- The wrapped function. -/
def wrapper : Comp (World S) Raised PyValue := cached redisPy (pyJson parseFloat) ttl key func

/-- **A call that fills the cache**: it finds nothing, and stores what the function returns. -/
structure Fills (w : World S) (result : PyValue) (w' : World S) : Prop where
  missed : Keyspace.get w.now key w.values = none
  stored : ∃ w₁ text, func.exec w = (.ok result, w₁) ∧ (pyJson parseFloat).dumps result = .ok text ∧
    redisPy.set key text ttl w₁ = (.ok (), w')
  returned : (wrapper parseFloat func ttl key).exec w = (.ok result, w')

/-- **A later call is served from the cache**: the key is as it was left, and has not expired. -/
structure Serves (w w' : World S) : Prop where
  kept : w'.values.get? key = w.values.get? key
  alive : (Keyspace.get w'.now key w'.values).isSome

end

/-- **A hit equals the miss**: whatever function returned the result, the calls that are served from
the cache return it as well. -/
def HitEqual (result : PyValue) : Prop :=
  ∀ (S : Type) (func : Comp (World S) Raised PyValue) (ttl : ℤ) (key : String)
    (w w' w'' : World S), Fills parseFloat func ttl key w result w' → Serves key w' w'' →
    ((wrapper parseFloat func ttl key).exec w'').1 = .ok result

variable {parseFloat}

section

variable {S : Type} {func : Comp (World S) Raised PyValue} {ttl : ℤ} {key : String}

/-- What a hit returns. -/
theorem exec_wrapper_of_get {w : World S} {text : String}
    (hget : Keyspace.get w.now key w.values = some text) {value : PyValue}
    (hloads : (pyJson parseFloat).loads text = .ok value) :
    (wrapper parseFloat func ttl key).exec w = (.ok value, w) := by
  have hprelude : (cachedDecorator redisPy (pyJson parseFloat) ttl key).prelude w =
      .answer (.ok value) w := by
    simp only [cachedDecorator, redisPy, hget, hloads]
  rw [wrapper, cached_eq]
  simp only [Decorator.apply, hprelude]

/-- A miss fills the cache with the text of a result that has one. -/
theorem fills_of_exec {w w₁ : World S} {result : PyValue} {text : String}
    (hmiss : Keyspace.get w.now key w.values = none) (hfunc : func.exec w = (.ok result, w₁))
    (htext : (pyJson parseFloat).dumps result = .ok text) :
    Fills parseFloat func ttl key w result { w₁ with
      values := Keyspace.setEx w₁.now key text (ttl * second) w₁.values } where
  missed := hmiss
  stored := ⟨w₁, text, hfunc, htext, rfl⟩
  returned := by
    have hprelude : (cachedDecorator redisPy (pyJson parseFloat) ttl key).prelude w = .call w := by
      simp only [cachedDecorator, redisPy, hmiss]
    rw [wrapper, cached_eq]
    simp only [Decorator.apply, hprelude, hfunc]
    simp only [cachedDecorator, htext, redisPy]

/-- What a hit finds is the text that was stored. -/
theorem get_of_serves {w w' w'' : World S} {result : PyValue}
    (hfills : Fills parseFloat func ttl key w result w') (hserves : Serves key w' w'') :
    ∃ text, Keyspace.get w''.now key w''.values = some text ∧
      (pyJson parseFloat).dumps result = .ok text := by
  obtain ⟨w₁, text, -, htext, hset⟩ := hfills.stored
  cases hset
  obtain ⟨found, hfound⟩ := Option.isSome_iff_exists.1 hserves.alive
  obtain ⟨expires, hget, -⟩ := Keyspace.get_eq_some.1 hfound
  have hkept := hserves.kept
  rw [hget, Keyspace.get?_setEx, if_pos rfl] at hkept
  cases hkept
  exact ⟨text, hfound, htext⟩

end

/-- **What a hit reads** of the text of a result. -/
theorem loads_pyJson {result : PyValue} {text : String}
    (h : (pyJson parseFloat).dumps result = .ok text) :
    (pyJson parseFloat).loads text = .ok (reread result) := by
  obtain ⟨chars, hchars, rfl⟩ := map_eq_ok_iff.1 h
  simp only [pyJson, String.toList_ofList]
  exact loads_dumps parseFloat hchars

theorem dumps_pyJson_iff {result : PyValue} :
    (∃ text, (pyJson parseFloat).dumps result = .ok text) ↔ Short result := by
  rw [← exists_dumps_iff]
  exact ⟨fun ⟨text, h⟩ => (map_eq_ok_iff.1 h).imp fun _ h => h.1,
    fun ⟨text, h⟩ => ⟨_, map_eq_ok_iff.2 ⟨text, h, rfl⟩⟩⟩

/-- A hit returns what is read of the result that filled the cache. -/
theorem hitEqual_iff_reread {result : PyValue} :
    HitEqual parseFloat result ↔ (Short result → reread result = result) := by
  constructor
  · intro h hshort
    obtain ⟨text, htext⟩ := dumps_pyJson_iff.2 hshort
    -- the function returns the result, and is called again at once
    have hfills : Fills parseFloat (pure result) 1 "" (World.start ()) result _ :=
      fills_of_exec rfl rfl htext
    have hget : Keyspace.get 0 "" (Keyspace.setEx 0 "" text (1 * second) .empty) = some text := by
      rw [Keyspace.get_setEx, if_pos rfl, if_pos (by decide)]
    have hequal := h Unit _ _ _ _ _ _ hfills ⟨rfl, Option.isSome_of_eq_some hget⟩
    rw [exec_wrapper_of_get hget (loads_pyJson htext)] at hequal
    exact Except.ok.inj hequal
  · intro h S func ttl key w w' w'' hfills hserves
    obtain ⟨text, hget, htext⟩ := get_of_serves hfills hserves
    rw [exec_wrapper_of_get hget (loads_pyJson htext), h (dumps_pyJson_iff.1 ⟨text, htext⟩)]

/-- **A hit equals the miss exactly when** the result has no decimal and no string in which
surrogates meet, or has an integer that is too long to be stored. -/
theorem hitEqual_iff (parseFloat : List Char → PyValue) (result : PyResult) :
    HitEqual parseFloat result.val ↔ Plain result.val ∨ ¬ Short result.val := by
  rw [hitEqual_iff_reread, reread_eq_self_iff result.val result.property, imp_iff_not_or, or_comm]

/-! ### The list of low stock -/

/-- What the driver returns for a column. -/
def decimalOf {p s : ℕ} (x : Numeric p s) : PyDecimal :=
  .finite (decide (x.units < 0)) x.units.natAbs (-s)

/-- An item of `get_low_stock_items`. -/
def lowStockItem (item : Admin.InventoryRow) : PyValue :=
  .dict [(.ofString "sku", .str (.ofString (Uuid.text item.skuId))),
    (.ofString "warehouse", .str (.ofString (Uuid.text item.warehouseId))),
    (.ofString "quantity", .decimal (decimalOf item.quantity)),
    (.ofString "min_qty", .decimal (decimalOf item.minQty))]

/-- The condition of its query. -/
def IsLow (item : Admin.InventoryRow) : Prop := item.quantity.units ≤ item.minQty.units

instance (item : Admin.InventoryRow) : Decidable (IsLow item) :=
  inferInstanceAs (Decidable (_ ≤ _))

/-- `get_low_stock_items`, on the rows in the order in which the query finds them. -/
def getLowStockItems (inventory : List Admin.InventoryRow) : PyValue :=
  .list (((inventory.filter fun item => IsLow item).take 20).map lowStockItem)

theorem shortItems_lowStockItem (items : List Admin.InventoryRow) :
    ShortItems (items.map lowStockItem) := by
  induction items with
  | nil => trivial
  | cons item items ih => exact ⟨⟨trivial, trivial, trivial, trivial, trivial⟩, ih⟩

theorem lowStockKeys_nodup :
    (["sku", "warehouse", "quantity", "min_qty"].map PyStr.ofString).Nodup := by decide +kernel

theorem distinct_lowStockItem (item : Admin.InventoryRow) : Distinct (lowStockItem item) :=
  ⟨lowStockKeys_nodup, trivial, trivial, trivial, trivial, trivial⟩

/-- **A list of low stock is the same from the cache only if nothing is low.** -/
theorem hitEqual_getLowStockItems_iff (inventory : List Admin.InventoryRow) :
    HitEqual parseFloat (getLowStockItems inventory) ↔ ∀ item ∈ inventory, ¬ IsLow item := by
  rw [hitEqual_iff_reread, getLowStockItems]
  cases hlow : inventory.filter fun item => IsLow item with
  | nil =>
    refine iff_of_true (fun _ => rfl) fun item hitem h => ?_
    have hmem : item ∈ inventory.filter fun item => IsLow item :=
      List.mem_filter.2 ⟨hitem, decide_eq_true h⟩
    rw [hlow] at hmem
    cases hmem
  | cons item items =>
    have hmem : item ∈ inventory.filter fun item => IsLow item := hlow ▸ List.mem_cons_self
    obtain ⟨hitem, hislow⟩ := List.mem_filter.1 hmem
    refine iff_of_false (fun h => ?_) fun h => h item hitem (of_decide_eq_true hislow)
    -- the quantity comes back as a string
    have hequal := h (shortItems_lowStockItem _)
    rw [List.take_succ_cons, List.map_cons, reread, rereadItems] at hequal
    have hsame := (List.cons.inj (PyValue.list.inj hequal)).1
    obtain ⟨-, -, -, -, -, hquantity, -⟩ :=
      (reread_eq_self_iff _ (distinct_lowStockItem item)).1 hsame
    exact hquantity

theorem lowRow_fits : (3 * 10 ^ 4 : ℤ).natAbs < 10 ^ 20 ∧ (0 : ℤ).natAbs < 10 ^ 20 ∧
    (5 * 10 ^ 4 : ℤ).natAbs < 10 ^ 18 := by decide

/-- Three boxes are in stock where there should be five. -/
def lowRow : Admin.InventoryRow where
  id := 1
  skuId := 2
  warehouseId := 3
  locationId := none
  batchNo := none
  quantity := ⟨3 * 10 ^ 4, lowRow_fits.1⟩
  lockedQty := ⟨0, lowRow_fits.2.1⟩
  minQty := ⟨5 * 10 ^ 4, lowRow_fits.2.2⟩
  updatedAt := none

/-- The list of low stock with this row is another one from the cache. -/
theorem lowStock_not_hitEqual : ¬ HitEqual (fun _ => .none) (getLowStockItems [lowRow]) := by
  rw [hitEqual_getLowStockItems_iff]
  intro h
  exact h lowRow List.mem_cons_self (by decide)

end

end Cache

end OmsWmsTms
