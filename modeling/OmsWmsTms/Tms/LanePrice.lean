import OmsWmsTms.Tms.RoutePlan

/-!
# The price of a lane

What `_find_best_route_plan_impl` of `src/tms/service.py` charges for a kilogram on a lane, against
the carrier routes of the lane.  `price_map` has one price for a lane and a carrier, and the routes
come newest first: of several routes of one carrier, the oldest is kept.

* `laneRoutes`, `leastPrice` : the carrier routes of a lane, and their least price.
* `Kept` : a route whose price is in `price_map`; `kept_of_oldest` : the oldest one of its carrier.
* `charges_iff` : a lane is charged at its least price exactly when a cheapest route is kept.
-/

namespace OmsWmsTms

namespace Tms

variable {db : TmsDb} {originCity destCity : String} {cr : CarrierRoute}

/-- The carrier routes of a lane. -/
def laneRoutes (db : TmsDb) (originCity destCity : String) : List CarrierRoute :=
  db.carrierRoutes.filter fun cr => cr.originCity = originCity ∧ cr.destCity = destCity

/-- The least price of a kilogram on a lane. -/
def leastPrice (db : TmsDb) (originCity destCity : String) : Option ℚ :=
  ((laneRoutes db originCity destCity).map fun cr => cr.basePricePerKg.toRat).min?

/-- The routes of the carrier of a route on its lane, newest first. -/
def sameCarrier (db : TmsDb) (cr : CarrierRoute) : List CarrierRoute :=
  (listCarrierRoutes db).filter fun cr' => (cr'.originCity, cr'.destCity, cr'.carrierCode) =
    (cr.originCity, cr.destCity, cr.carrierCode)

/-- A route is the last one of its carrier on its lane. -/
def Kept (db : TmsDb) (cr : CarrierRoute) : Prop := (sameCarrier db cr).getLast? = some cr

/-- **A lane is charged at its least price**, for every weight. -/
def ChargesLeast (db : TmsDb) (originCity destCity : String) : Prop :=
  ∀ price, leastPrice db originCity destCity = some price → ∀ weightKg conn,
    segCost (priceMap db) originCity destCity weightKg conn = weightKg * price

/-- A route of a lane, none of whose routes costs less. -/
structure Cheapest (db : TmsDb) (originCity destCity : String) (cr : CarrierRoute) : Prop where
  mem : cr ∈ laneRoutes db originCity destCity
  le : ∀ cr' ∈ laneRoutes db originCity destCity,
    cr.basePricePerKg.toRat ≤ cr'.basePricePerKg.toRat

/-! ### The routes of a lane -/

theorem mem_laneRoutes : cr ∈ laneRoutes db originCity destCity ↔
    cr ∈ db.carrierRoutes ∧ cr.originCity = originCity ∧ cr.destCity = destCity := by
  simp [laneRoutes]

theorem mem_sameCarrier {cr' : CarrierRoute} : cr' ∈ sameCarrier db cr ↔
    cr' ∈ db.carrierRoutes ∧ cr'.originCity = cr.originCity ∧ cr'.destCity = cr.destCity ∧
      cr'.carrierCode = cr.carrierCode := by
  simp [sameCarrier, listCarrierRoutes]

theorem Kept.mem (h : Kept db cr) : cr ∈ db.carrierRoutes :=
  (mem_sameCarrier.1 (List.mem_of_getLast? h)).1

theorem sameCarrier_congr {cr' : CarrierRoute} (h : cr' ∈ sameCarrier db cr) :
    sameCarrier db cr' = sameCarrier db cr := by
  obtain ⟨-, horigin, hdest, hcarrier⟩ := mem_sameCarrier.1 h
  unfold sameCarrier
  rw [horigin, hdest, hcarrier]

/-- Every route of a lane has a kept route of its carrier. -/
theorem exists_kept (h : cr ∈ db.carrierRoutes) :
    ∃ kept, Kept db kept ∧ kept.originCity = cr.originCity ∧ kept.destCity = cr.destCity := by
  have hne : sameCarrier db cr ≠ [] :=
    List.ne_nil_of_mem (mem_sameCarrier.2 ⟨h, rfl, rfl, rfl⟩)
  have hlast := List.getLast?_eq_some_getLast hne
  obtain ⟨-, horigin, hdest, -⟩ := mem_sameCarrier.1 (List.getLast_mem hne)
  refine ⟨_, ?_, horigin, hdest⟩
  rw [Kept, sameCarrier_congr (List.getLast_mem hne)]
  exact hlast

/-- **The oldest route of a carrier on a lane is kept**, when no other is as old. -/
theorem kept_of_oldest (h : cr ∈ db.carrierRoutes)
    (holdest : ∀ cr' ∈ sameCarrier db cr, cr'.createdAt ≤ cr.createdAt → cr' = cr) :
    Kept db cr := by
  have hmem : cr ∈ sameCarrier db cr := mem_sameCarrier.2 ⟨h, rfl, rfl, rfl⟩
  have hsorted : (sameCarrier db cr).Pairwise fun a b => b.createdAt ≤ a.createdAt := by
    have : IsTrans CarrierRoute fun a b => b.createdAt ≤ a.createdAt :=
      ⟨fun _ _ _ h h' => le_trans h' h⟩
    have : Std.Total fun a b : CarrierRoute => b.createdAt ≤ a.createdAt :=
      ⟨fun a b => le_total b.createdAt a.createdAt⟩
    exact (List.pairwise_insertionSort _ db.carrierRoutes).filter _
  have hne := List.ne_nil_of_mem hmem
  have hlast := List.getLast?_eq_some_getLast hne
  -- no route comes after an older one, so the last one is as old as this one
  have hle : ((sameCarrier db cr).getLast hne).createdAt ≤ cr.createdAt :=
    hsorted.rel_getLast hmem
  rw [holdest _ (List.getLast_mem hne) hle] at hlast
  exact hlast

/-! ### The prices that are kept -/

/-- The prices of a lane in `price_map` are those of its kept routes. -/
theorem mem_laneItems_priceMap {item : (String × String × CarrierCode) × ℚ} :
    item ∈ laneItems (priceMap db) originCity destCity ↔
      ∃ cr, Kept db cr ∧ item.1 = (originCity, destCity, cr.carrierCode) ∧
        cr.originCity = originCity ∧ cr.destCity = destCity ∧ cr.basePricePerKg.toRat = item.2 := by
  rw [mem_laneItems]
  constructor
  · rintro ⟨c, hlane, hget⟩
    rw [get?_priceMap] at hget
    obtain ⟨cr, hlast, hprice⟩ := Option.map_eq_some_iff.1 hget
    have hmem := List.of_mem_filter (List.mem_of_getLast? hlast)
    simp only [decide_eq_true_eq, Prod.mk.injEq] at hmem
    obtain ⟨rfl, rfl, rfl⟩ := hmem
    exact ⟨cr, hlast, hlane, rfl, rfl, hprice⟩
  · rintro ⟨cr, hkept, hlane, rfl, rfl, hprice⟩
    refine ⟨cr.carrierCode, hlane, ?_⟩
    have hlast : ((listCarrierRoutes db).filter fun cr' =>
        (cr'.originCity, cr'.destCity, cr'.carrierCode) =
          (cr.originCity, cr.destCity, cr.carrierCode)).getLast? = some cr := hkept
    rw [get?_priceMap, hlast, Option.map_some, hprice]

/-- What is charged on a lane: the least price of the kept routes. -/
theorem bestPrice_priceMap_eq_some_iff {price : ℚ} :
    bestPrice (priceMap db) originCity destCity = some price ↔
      (∃ cr, Kept db cr ∧ cr.originCity = originCity ∧ cr.destCity = destCity ∧
        cr.basePricePerKg.toRat = price) ∧
      ∀ cr, Kept db cr → cr.originCity = originCity → cr.destCity = destCity →
        price ≤ cr.basePricePerKg.toRat := by
  have hleast {p : ℚ} (h : bestPrice (priceMap db) originCity destCity = some p) :
      (∃ cr, Kept db cr ∧ cr.originCity = originCity ∧ cr.destCity = destCity ∧
        cr.basePricePerKg.toRat = p) ∧
      ∀ cr, Kept db cr → cr.originCity = originCity → cr.destCity = destCity →
        p ≤ cr.basePricePerKg.toRat := by
    obtain ⟨⟨item, hitem, rfl⟩, hle⟩ := bestPrice_least h
    obtain ⟨cr, hkept, -, horigin, hdest, hprice⟩ := mem_laneItems_priceMap.1 hitem
    refine ⟨⟨cr, hkept, horigin, hdest, hprice⟩, fun cr' hkept' horigin' hdest' => ?_⟩
    exact hle ((originCity, destCity, cr'.carrierCode), cr'.basePricePerKg.toRat)
      (mem_laneItems_priceMap.2 ⟨cr', hkept', rfl, horigin', hdest', rfl⟩)
  refine ⟨hleast, ?_⟩
  rintro ⟨⟨cr, hkept, horigin, hdest, rfl⟩, hle⟩
  cases h : bestPrice (priceMap db) originCity destCity with
  | none =>
    have hitem : ((originCity, destCity, cr.carrierCode), cr.basePricePerKg.toRat) ∈
        laneItems (priceMap db) originCity destCity :=
      mem_laneItems_priceMap.2 ⟨cr, hkept, rfl, horigin, hdest, rfl⟩
    rw [bestPrice_eq_none_iff.1 h] at hitem
    cases hitem
  | some p =>
    obtain ⟨⟨cr', hkept', horigin', hdest', rfl⟩, hle'⟩ := hleast h
    exact congrArg some (le_antisymm (hle' cr hkept horigin hdest) (hle cr' hkept' horigin' hdest'))

theorem leastPrice_eq_some_iff {price : ℚ} : leastPrice db originCity destCity = some price ↔
    ∃ cr, Cheapest db originCity destCity cr ∧ cr.basePricePerKg.toRat = price := by
  unfold leastPrice
  rw [List.min?_eq_some_iff, List.mem_map]
  constructor
  · rintro ⟨⟨cr, hcr, rfl⟩, hle⟩
    exact ⟨cr, ⟨hcr, fun cr' hcr' => hle _ (List.mem_map_of_mem hcr')⟩, rfl⟩
  · rintro ⟨cr, hcr, rfl⟩
    exact ⟨⟨cr, hcr.mem, rfl⟩, List.forall_mem_map.2 hcr.le⟩

/-! ### When the price is the least -/

/-- The lane is charged at a price for every weight exactly when that is the price found for it. -/
theorem segCost_eq_iff {price : ℚ} (hsome : (bestPrice (priceMap db) originCity destCity).isSome) :
    (∀ weightKg conn, segCost (priceMap db) originCity destCity weightKg conn =
      weightKg * price) ↔ bestPrice (priceMap db) originCity destCity = some price := by
  obtain ⟨p, hp⟩ := Option.isSome_iff_exists.1 hsome
  simp only [segCost, hp, Option.some.injEq]
  refine ⟨fun h => ?_, fun h => by rw [h]; exact fun _ _ => rfl⟩
  have hone := h 1 ⟨"", 0, 0⟩
  rwa [one_mul, one_mul] at hone

/-- **A lane is charged at its least price exactly when** it has no route, or one of its cheapest
routes is the one that is kept of its carrier. -/
theorem charges_iff (db : TmsDb) (originCity destCity : String) :
    ChargesLeast db originCity destCity ↔ laneRoutes db originCity destCity = [] ∨
      ∃ cr, Cheapest db originCity destCity cr ∧ Kept db cr := by
  by_cases hnil : laneRoutes db originCity destCity = []
  · refine iff_of_true (fun price hprice => ?_) (.inl hnil)
    rw [leastPrice, hnil] at hprice
    cases hprice
  have hsome : (bestPrice (priceMap db) originCity destCity).isSome := by
    rw [Option.isSome_iff_ne_none]
    intro hnone
    obtain ⟨cr, hcr⟩ := List.exists_mem_of_ne_nil _ hnil
    obtain ⟨hmem, rfl, rfl⟩ := mem_laneRoutes.1 hcr
    obtain ⟨kept, hkept, horigin, hdest⟩ := exists_kept hmem
    have hitem : ((cr.originCity, cr.destCity, kept.carrierCode), kept.basePricePerKg.toRat) ∈
        laneItems (priceMap db) cr.originCity cr.destCity :=
      mem_laneItems_priceMap.2 ⟨kept, hkept, rfl, horigin, hdest, rfl⟩
    rw [bestPrice_eq_none_iff.1 hnone] at hitem
    cases hitem
  simp only [ChargesLeast, segCost_eq_iff hsome, hnil, false_or]
  constructor
  · intro h
    obtain ⟨price, hprice⟩ : ∃ price, leastPrice db originCity destCity = some price := by
      refine Option.isSome_iff_exists.1 (Option.isSome_iff_ne_none.2 fun hnone => hnil ?_)
      simpa [leastPrice] using hnone
    -- the kept route whose price is charged costs as little as a cheapest one
    obtain ⟨⟨cr, hkept, horigin, hdest, heq⟩, -⟩ :=
      bestPrice_priceMap_eq_some_iff.1 (h price hprice)
    obtain ⟨cr', hcheapest, heq'⟩ := leastPrice_eq_some_iff.1 hprice
    refine ⟨cr, ⟨mem_laneRoutes.2 ⟨hkept.mem, horigin, hdest⟩, fun cr'' hcr'' => ?_⟩, hkept⟩
    rw [heq, ← heq']
    exact hcheapest.le cr'' hcr''
  · rintro ⟨cr, hcheapest, hkept⟩ price hprice
    obtain ⟨cr', hcheapest', rfl⟩ := leastPrice_eq_some_iff.1 hprice
    obtain ⟨-, horigin, hdest⟩ := mem_laneRoutes.1 hcheapest.mem
    refine bestPrice_priceMap_eq_some_iff.2 ⟨⟨cr, hkept, horigin, hdest, ?_⟩, ?_⟩
    · exact le_antisymm (hcheapest.le cr' hcheapest'.mem) (hcheapest'.le cr hcheapest.mem)
    · intro cr'' hkept'' horigin'' hdest''
      exact hcheapest'.le cr'' (mem_laneRoutes.2 ⟨hkept''.mem, horigin'', hdest''⟩)

/-- A route from A to B. -/
def routeAt (id : Uuid) (carrierCode : CarrierCode) (basePricePerKg : Numeric 18 4)
    (createdAt : ℤ) : CarrierRoute where
  id
  carrierCode
  originCity := "A"
  destCity := "B"
  distanceKm := 0
  transitHours := 0
  basePricePerKg
  expressSurcharge := 0
  minChargeWeight := 0
  createdAt

theorem twoYuan_fits : (20000 : ℤ).natAbs < 10 ^ 18 := by decide

theorem oneYuan_fits : (10000 : ℤ).natAbs < 10 ^ 18 := by decide

/-- Two yuan a kilogram. -/
def twoYuan : Numeric 18 4 := ⟨20000, twoYuan_fits⟩

/-- One yuan a kilogram. -/
def oneYuan : Numeric 18 4 := ⟨10000, oneYuan_fits⟩

/-- A carrier whose price has been lowered. -/
def loweredDb : TmsDb :=
  { TmsDb.empty with carrierRoutes := [routeAt 1 .zto twoYuan 0, routeAt 2 .zto oneYuan 1] }

/-- The lane is still charged at the old price. -/
theorem loweredDb_not_chargesLeast : ¬ ChargesLeast loweredDb "A" "B" := by
  intro h
  have hleast : leastPrice loweredDb "A" "B" = some 1 := by decide +kernel
  have hcharged := h 1 hleast 1 ⟨"", 0, 0⟩
  revert hcharged
  decide +kernel

end Tms

end OmsWmsTms
