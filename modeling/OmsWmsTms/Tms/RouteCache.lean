import OmsWmsTms.Lts.Basic
import OmsWmsTms.Tms.RoutePlan

/-!
# The cached route planner `find_best_route_plan`

`find_best_route_plan` keeps plans in Redis under a key made of the texts of the two cities and of
the weight, for 24 hours.  The services that change hubs, carrier routes and connections never
invalidate a plan, and different lanes can share a key.

* `findBestRoutePlan` : the function.
* `routeSystem` : the histories of the services, with the passing of time.
* `SafeEvent` : the events that leave the lanes of the cached plans alone, and the calls whose key
  holds no plan of another lane.
* `PlansCurrent` : the plans in the cache are what the planner would compute; `plansCurrent_step`
  shows that safe events keep it.
* `find_eq_impl_of_safe` : in a history of safe events every answer is the planner's.
-/

namespace OmsWmsTms

namespace Tms

/-! ### The function -/

/-- A plan in the cache, with the time (in milliseconds) at which Redis drops it. -/
structure CachedPlan where
  /-- The plan document. -/
  plan : PlanDoc
  /-- The time at which it expires. -/
  expiresAt : ℕ

/-- `_ROUTE_CACHE_TTL`: 24 hours. -/
def routeCacheTtl : ℕ := 86400 * 1000

/-- The database, the cache and the clock. -/
structure RouteState where
  /-- The database. -/
  db : TmsDb
  /-- The plans in Redis. -/
  cache : Dict String CachedPlan
  /-- The time. -/
  now : ℕ

/-- `r.get(key)`: a plan that has not expired. -/
def RouteState.cached? (st : RouteState) (key : String) : Option PlanDoc :=
  (st.cache.get? key).bind fun entry => if st.now < entry.expiresAt then some entry.plan else none

/-- `(order.pickup_address or {}).get("city", "")` in an f-string. -/
def cityText (address : Option Address) : String :=
  match address with
  | none => ""
  | some ⟨none⟩ => "None"
  | some ⟨some city⟩ => city

/-- `str(order.total_weight_kg or "1")`. -/
def weightText (weightKg : Option (Numeric 20 4)) : String :=
  match weightKg with
  | none => "1"
  | some w => if w = 0 then "1" else w.toText

/-- The key `route:{pickup_city}:{delivery_city}:{weight_kg}`. -/
def routeKey (pickupCity deliveryCity weightKg : String) : String :=
  s!"route:{pickupCity}:{deliveryCity}:{weightKg}"

/-- The key of an order. -/
def cacheKey (order : TransportOrder) : String :=
  routeKey (cityText order.pickupAddress) (cityText order.deliveryAddress)
    (weightText order.totalWeightKg)

/-- The planner, and the cache entry that its plan becomes. -/
def computePlan (fuel : ℕ) (st : RouteState) (orderId : IdArg) (key : String) :
    Option (Except TmsError PlanDoc × RouteState) :=
  (findBestRoutePlanImpl fuel st.db orderId).map fun
    | .ok plan => (.ok plan, { st with cache := st.cache.set key ⟨plan, st.now + routeCacheTtl⟩ })
    | .error e => (.error e, st)

/-- `find_best_route_plan`, with Redis available. -/
def findBestRoutePlan (fuel : ℕ) (st : RouteState) (orderId : IdArg) :
    Option (Except TmsError PlanDoc × RouteState) :=
  match orderId.uuid? with
  | none => some (.error (.notFound s!"TransportOrder {orderId.text} not found"), st)
  | some id =>
    match st.db.order? id with
    | none => computePlan fuel st orderId (routeKey "" "" "1")
    | some order =>
      match st.cached? (cacheKey order) with
      | some plan => some (.ok plan, st)
      | none => computePlan fuel st orderId (cacheKey order)

/-! ### Histories -/

/-- An event of a history: a call with its new identifiers and creation times, or the passing of
time.  A search carries its answer. -/
inductive RouteEvent
  | createHub (createdAt : ℤ) (newId : Uuid) (data : HubCreate)
  | updateHub (hubId : IdArg) (data : HubUpdate)
  | addCarrierRoute (createdAt : ℤ) (newId : Uuid) (data : CarrierRouteCreate)
  | addHubConnection (createdAt : ℤ) (newId : Uuid) (data : HubConnectionCreate)
  | createTransportOrder (newId : Uuid) (data : TransportOrderCreate)
  | findBestRoutePlan (orderId : IdArg) (answer : Except TmsError PlanDoc)
  | wait (milliseconds : ℕ)

/-- The database after a service: as it was, when the service raises. -/
def commitOr {α : Type*} (db : TmsDb) (result : Except TmsError (α × TmsDb)) : TmsDb :=
  match result with
  | .ok (_, db') => db'
  | .error _ => db

/-- The histories of the services that write and read routing data. -/
def routeSystem : Lts RouteState RouteEvent where
  step st event st' :=
    match event with
    | .createHub createdAt newId data =>
      st' = { st with db := commitOr st.db (createHub st.db createdAt newId data) }
    | .updateHub hubId data => st' = { st with db := commitOr st.db (updateHub st.db hubId data) }
    | .addCarrierRoute createdAt newId data =>
      st' = { st with db := commitOr st.db (addCarrierRoute st.db createdAt newId data) }
    | .addHubConnection createdAt newId data =>
      st' = { st with db := commitOr st.db (addHubConnection st.db createdAt newId data) }
    | .createTransportOrder newId data =>
      st' = { st with db := commitOr st.db (createTransportOrder st.db newId data) }
    | .findBestRoutePlan orderId answer =>
      ∃ fuel, findBestRoutePlan fuel st orderId = some (answer, st')
    | .wait milliseconds => st' = { st with now := st.now + milliseconds }

/-- The city belongs to no lane of a plan in the cache. -/
def CityUncached (st : RouteState) (city : String) : Prop :=
  ∀ key plan, st.cached? key = some plan → plan.originCity ≠ city ∧ plan.destinationCity ≠ city

/-- The events that neither change the lane of a plan in the cache nor read a plan of another lane:

* a hub is created in, or moved into or out of, a city without cached plans;
* a carrier route is added to a lane without cached plans;
* a connection is added while no plan is cached;
* a search is asked for with a well-formed identifier, and a plan cached under the key of its order
  is one for the cities of the order, which has a weight. -/
def SafeEvent (st : RouteState) : RouteEvent → Prop
  | .createHub _ _ data => CityUncached st (Text.cut 100 data.city)
  | .updateHub hubId data =>
    ∀ city, data.city.map (Text.cut 100) = some city → ∀ hub ∈ st.db.hubs, hubId.uuid? = some hub.id →
      hub.city = city ∨ CityUncached st hub.city ∧ CityUncached st city
  | .addCarrierRoute _ _ data =>
    ∀ key plan, st.cached? key = some plan →
      plan.originCity ≠ Text.cut 100 data.originCity ∨
        plan.destinationCity ≠ Text.cut 100 data.destCity
  | .addHubConnection _ _ _ => ∀ key, st.cached? key = none
  | .createTransportOrder _ _ => True
  | .findBestRoutePlan orderId _ =>
    ∃ id, orderId.uuid? = some id ∧ ∀ order, st.db.order? id = some order →
      ∀ plan, st.cached? (cacheKey order) = some plan →
        order.pickupAddress = some ⟨some plan.originCity⟩ ∧
        order.deliveryAddress = some ⟨some plan.destinationCity⟩ ∧ order.totalWeightKg ≠ none
  | .wait _ => True

/-! ### Keys -/

theorem routeKey_weight_inj {pickupCity deliveryCity w w' : String}
    (h : routeKey pickupCity deliveryCity w = routeKey pickupCity deliveryCity w') : w = w' := by
  have hlist := congrArg String.toList h
  simp only [routeKey, String.toList_append, toString] at hlist
  exact String.toList_injective (List.append_cancel_left hlist)

theorem weightText_injective : Function.Injective fun w : Numeric 20 4 => weightText (some w) := by
  have hone (w : Numeric 20 4) : w.toText ≠ "1" := fun h => by
    have hpoint : '.' ∈ w.toText.toList := by
      simp [Numeric.toText, Numeric.toChars, Numeric.unsigned]
    rw [h] at hpoint
    simp at hpoint
  intro w w' h
  simp only [weightText] at h
  split_ifs at h with hw hw' hw'
  · rw [hw, hw']
  · exact absurd h.symm (hone w')
  · exact absurd h (hone w)
  · exact Numeric.toText_injective h

/-! ### The plans in the cache -/

/-- The plans in the cache are what the planner computes for their lanes. -/
def PlansCurrent (st : RouteState) : Prop :=
  ∀ key plan, st.cached? key = some plan → ∃ w : Numeric 20 4,
    key = routeKey plan.originCity plan.destinationCity (weightText (some w)) ∧
    plan.originCity ≠ "" ∧ plan.destinationCity ≠ "" ∧
    ∃ fuel, planLane fuel st.db plan.originCity plan.destinationCity w = some (.ok plan)

section Frame

variable {st : RouteState} {db : TmsDb} {city : String}

/-- A plan stays current while its hub codes, the connections and its lane price stay the same. -/
theorem PlansCurrent.of_frame (h : PlansCurrent st) {db : TmsDb}
    (hconns : (∃ key plan, st.cached? key = some plan) →
      db.hubConnections = st.db.hubConnections)
    (hhubs : ∀ key plan, st.cached? key = some plan →
      (plan.originCity ≠ "" → hubCodes db plan.originCity = hubCodes st.db plan.originCity) ∧
      (plan.destinationCity ≠ "" →
        hubCodes db plan.destinationCity = hubCodes st.db plan.destinationCity))
    (hprices : ∀ key plan, st.cached? key = some plan →
      bestPrice (priceMap db) plan.originCity plan.destinationCity =
        bestPrice (priceMap st.db) plan.originCity plan.destinationCity) :
    PlansCurrent { st with db } := by
  intro key plan hplan
  have hplan : st.cached? key = some plan := hplan
  obtain ⟨w, hkey, hp, hd, fuel, hlane⟩ := h key plan hplan
  refine ⟨w, hkey, hp, hd, fuel, ?_⟩
  rw [← hlane]
  exact planLane_congr ((hhubs key plan hplan).1 hp) ((hhubs key plan hplan).2 hd)
    (hconns ⟨key, plan, hplan⟩) (hprices key plan hplan) fuel w

theorem bestPrice_eq_of_routes {db' : TmsDb} (h : db'.carrierRoutes = db.carrierRoutes)
    (originCity destCity : String) :
    bestPrice (priceMap db') originCity destCity = bestPrice (priceMap db) originCity destCity := by
  rw [priceMap, priceMap, listCarrierRoutes, listCarrierRoutes, h]

theorem hubCodes_eq_of_hubs {db' : TmsDb} (h : db'.hubs = db.hubs) (city : String) :
    hubCodes db' city = hubCodes db city := by
  rw [hubCodes, hubCodes, listHubs, listHubs, h]

/-- What the planner reads of a hub: its code and its place in the listing. -/
def hubListing (hub : TransferHub) : String × ℤ := (hub.code, hub.createdAt)

theorem hubCodes_eq (hcity : city ≠ "") : hubCodes db city =
    (orderByDesc Prod.snd ((db.hubs.filter (·.city = city)).map hubListing)).map Prod.fst := by
  have hmap := @map_orderByDesc _ _ TransferHub.createdAt Prod.snd hubListing fun _ => rfl
  rw [← hmap, List.map_map, hubCodes, listHubs, if_neg hcity]
  rfl

/-- A new hub is listed in its own city only. -/
theorem hubCodes_createHub {createdAt : ℤ} {newId : Uuid} {data : HubCreate}
    {hub : TransferHub} {db' : TmsDb} (h : createHub db createdAt newId data = .ok (hub, db'))
    (hne : city ≠ "") (hcity : city ≠ Text.cut 100 data.city) :
    hubCodes db' city = hubCodes db city := by
  obtain ⟨hc, hhubs, -⟩ := createHub_eq_ok h
  have hfilter : [hub].filter (·.city = city) = [] := by simp [hc, Ne.symm hcity]
  rw [hubCodes_eq hne, hubCodes_eq hne, hhubs, List.filter_append, hfilter, List.append_nil]

/-- A hub that stays in its city, or is moved between other cities, keeps the listing of a city. -/
theorem hubCodes_updateHub {hubId : IdArg} {data : HubUpdate} {hub' : TransferHub} {db' : TmsDb}
    (h : updateHub db hubId data = .ok (hub', db')) (hne : city ≠ "")
    (hcity : ∀ c, data.city.map (Text.cut 100) = some c → ∀ hub ∈ db.hubs, hubId.uuid? = some hub.id →
      hub.city = c ∨ hub.city ≠ city ∧ c ≠ city) :
    hubCodes db' city = hubCodes db city := by
  obtain ⟨hub, hhub, hid, hid', hc, hhubs, -⟩ := updateHub_eq_ok h
  have hsame : hub'.city = city ↔ hub.city = city := by
    rw [hc]
    cases hdata : data.city.map (Text.cut 100) with
    | none => rfl
    | some c =>
      rcases hcity c hdata hub hhub hid with heq | ⟨h₁, h₂⟩
      · rw [Option.getD_some, heq]
      · exact ⟨fun h => absurd h h₂, fun h => absurd h h₁⟩
  -- the row with the identifier is the hub itself, so that every row keeps its place
  have hrow : ∀ row ∈ db.hubs, row.id = hub'.id → row = hub := fun row hrow hrid =>
    List.inj_on_of_nodup_map db.hubs_id_nodup hrow hhub (hrid.trans hid')
  rw [hubCodes_eq hne, hubCodes_eq hne, hhubs, replaceHub, List.filter_map, List.map_map]
  congr 2
  have hfilter : db.hubs.filter ((fun row : TransferHub => decide (row.city = city)) ∘ fun row =>
      if row.id = hub'.id then
        { row with
          name := hub'.name, hubType := hub'.hubType, city := hub'.city,
          capacityWeightKg := hub'.capacityWeightKg, status := hub'.status }
      else row) = db.hubs.filter (·.city = city) := by
    refine List.filter_congr fun row hmem => ?_
    simp only [Function.comp]
    split_ifs with hrid
    · rw [hrow row hmem hrid]
      simp [hsame]
    · rfl
  rw [hfilter]
  refine List.map_congr_left fun row _ => ?_
  simp only [Function.comp, hubListing]
  split_ifs <;> rfl

/-- A route on another lane keeps the lane price. -/
theorem bestPrice_addCarrierRoute {createdAt : ℤ} {newId : Uuid} {data : CarrierRouteCreate}
    {route : CarrierRoute} {db' : TmsDb} {originCity destCity : String}
    (h : addCarrierRoute db createdAt newId data = .ok (route, db'))
    (hlane : originCity ≠ Text.cut 100 data.originCity ∨ destCity ≠ Text.cut 100 data.destCity) :
    bestPrice (priceMap db') originCity destCity = bestPrice (priceMap db) originCity destCity := by
  obtain ⟨ho, hd, hroutes, -⟩ := addCarrierRoute_eq_ok h
  refine bestPrice_congr fun c => ?_
  rw [get?_priceMap, get?_priceMap, listCarrierRoutes, listCarrierRoutes, filter_orderByDesc,
    filter_orderByDesc, hroutes, List.filter_append]
  have hnil : [route].filter (fun cr => decide ((cr.originCity, cr.destCity, cr.carrierCode) =
      (originCity, destCity, c))) = [] := by
    rcases hlane with hne | hne <;> simp [ho, hd, Ne.symm hne]
  rw [hnil, List.append_nil]

end Frame

/-! ### Searches -/

section Find

variable {st st' : RouteState} {orderId : IdArg} {fuel : ℕ} {answer : Except TmsError PlanDoc}

/-- A plan of the planner is the plan of a lane between cities that are not empty. -/
theorem planOrder_eq_ok {db : TmsDb} {order : TransportOrder} {plan : PlanDoc}
    (h : planOrder fuel db order = some (.ok plan)) :
    ∃ w, order.pickupAddress = some ⟨some plan.originCity⟩ ∧
      order.deliveryAddress = some ⟨some plan.destinationCity⟩ ∧
      order.totalWeightKg = some w ∧ plan.originCity ≠ "" ∧ plan.destinationCity ≠ "" ∧
      planLane fuel db plan.originCity plan.destinationCity w = some (.ok plan) := by
  unfold planOrder at h
  split at h
  · rename_i pickup delivery w hp hd hw
    split at h
    · rename_i pickupCity deliveryCity
      split_ifs at h with hempty
      · cases h
      · obtain ⟨r, segs, -, -, rfl⟩ := planLane_eq_ok h
        rw [not_or] at hempty
        exact ⟨w, hp, hd, hw, hempty.1, hempty.2, h⟩
    · cases h
  · cases h
  · cases h

/-- The plan of a lane is the plan of an order between its cities. -/
theorem planOrder_of_lane {db : TmsDb} {order : TransportOrder} {plan : PlanDoc}
    {w : Numeric 20 4} (hp : order.pickupAddress = some ⟨some plan.originCity⟩)
    (hd : order.deliveryAddress = some ⟨some plan.destinationCity⟩)
    (hw : order.totalWeightKg = some w) (hp' : plan.originCity ≠ "")
    (hd' : plan.destinationCity ≠ "")
    (h : planLane fuel db plan.originCity plan.destinationCity w = some (.ok plan)) :
    planOrder fuel db order = some (.ok plan) := by
  unfold planOrder
  rw [hp, hd, hw]
  simp only [hp', hd', or_self, if_false]
  exact h

/-- What a search answers when no plan is cached: what the planner answers; a plan is cached. -/
theorem computePlan_eq_some {key : String}
    (h : computePlan fuel st orderId key = some (answer, st')) :
    findBestRoutePlanImpl fuel st.db orderId = some answer ∧
      ((∃ plan, answer = .ok plan ∧
        st' = { st with cache := st.cache.set key ⟨plan, st.now + routeCacheTtl⟩ }) ∨
      st' = st) := by
  obtain ⟨result, hresult, heq⟩ := Option.map_eq_some_iff.1 h
  cases result with
  | error e =>
    cases heq
    exact ⟨hresult, .inr rfl⟩
  | ok plan =>
    cases heq
    exact ⟨hresult, .inl ⟨plan, rfl, rfl⟩⟩

/-- A search of an order that exists answers with a cached plan, or with the planner's answer. -/
theorem findBestRoutePlan_cases {id : Uuid} (hid : orderId.uuid? = some id)
    (h : findBestRoutePlan fuel st orderId = some (answer, st')) :
    (∃ order plan, st.db.order? id = some order ∧ st.cached? (cacheKey order) = some plan ∧
      answer = .ok plan ∧ st' = st) ∨
    (findBestRoutePlanImpl fuel st.db orderId = some answer ∧
      (st' = st ∨ ∃ order plan, st.db.order? id = some order ∧ answer = .ok plan ∧
        st' = { st with
          cache := st.cache.set (cacheKey order) ⟨plan, st.now + routeCacheTtl⟩ })) := by
  unfold findBestRoutePlan at h
  rw [hid] at h
  simp only at h
  cases horder : st.db.order? id with
  | none =>
    rw [horder] at h
    obtain ⟨himpl, ⟨plan, rfl, -⟩ | rfl⟩ := computePlan_eq_some h
    · -- without the order the planner raises
      simp [findBestRoutePlanImpl, hid, horder] at himpl
    · exact .inr ⟨himpl, .inl rfl⟩
  | some order =>
    rw [horder] at h
    simp only at h
    cases hcached : st.cached? (cacheKey order) with
    | some plan =>
      rw [hcached] at h
      cases h
      exact .inl ⟨order, plan, rfl, hcached, rfl, rfl⟩
    | none =>
      rw [hcached] at h
      obtain ⟨himpl, ⟨plan, rfl, rfl⟩ | rfl⟩ := computePlan_eq_some h
      · exact .inr ⟨himpl, .inr ⟨order, plan, rfl, rfl, rfl⟩⟩
      · exact .inr ⟨himpl, .inl rfl⟩

/-- A search that finds a plan in the cache. -/
theorem findBestRoutePlan_hit {id : Uuid} {order : TransportOrder} {plan : PlanDoc}
    (hid : orderId.uuid? = some id) (horder : st.db.order? id = some order)
    (hcached : st.cached? (cacheKey order) = some plan) :
    findBestRoutePlan fuel st orderId = some (.ok plan, st) := by
  simp only [findBestRoutePlan, hid, horder, hcached]

/-- A search that finds no plan in the cache and makes one. -/
theorem findBestRoutePlan_miss {id : Uuid} {order : TransportOrder} {plan : PlanDoc}
    (hid : orderId.uuid? = some id) (horder : st.db.order? id = some order)
    (hcached : st.cached? (cacheKey order) = none)
    (himpl : findBestRoutePlanImpl fuel st.db orderId = some (.ok plan)) :
    findBestRoutePlan fuel st orderId = some (.ok plan, { st with
      cache := st.cache.set (cacheKey order) ⟨plan, st.now + routeCacheTtl⟩ }) := by
  simp only [findBestRoutePlan, hid, horder, hcached, computePlan, himpl, Option.map_some]

/-- **With current plans in the cache, a safe search answers what the planner answers.** -/
theorem PlansCurrent.find_eq_impl (hst : PlansCurrent st)
    (hsafe : SafeEvent st (.findBestRoutePlan orderId answer))
    (h : findBestRoutePlan fuel st orderId = some (answer, st')) :
    ∃ fuel', findBestRoutePlanImpl fuel' st.db orderId = some answer := by
  obtain ⟨id, hid, hlane⟩ := hsafe
  rcases findBestRoutePlan_cases hid h with ⟨order, plan, horder, hcached, rfl, -⟩ | ⟨himpl, -⟩
  · obtain ⟨hp, hd, hw⟩ := hlane order horder plan hcached
    obtain ⟨w', hw'⟩ := Option.ne_none_iff_exists'.1 hw
    obtain ⟨w, hkey, hp', hd', fuel', hplan⟩ := hst _ _ hcached
    -- the key of the order is that of the plan, so that their weights agree
    have hkey' : cacheKey order =
        routeKey plan.originCity plan.destinationCity (weightText (some w')) := by
      rw [cacheKey, hp, hd, hw']
      rfl
    obtain rfl : w' = w := weightText_injective (routeKey_weight_inj (hkey'.symm.trans hkey))
    refine ⟨fuel', ?_⟩
    simp only [findBestRoutePlanImpl, hid, horder]
    exact planOrder_of_lane hp hd hw' hp' hd' hplan
  · exact ⟨fuel, himpl⟩

/-- A search keeps the cached plans current. -/
theorem PlansCurrent.find (hst : PlansCurrent st) {id : Uuid} (hid : orderId.uuid? = some id)
    (h : findBestRoutePlan fuel st orderId = some (answer, st')) : PlansCurrent st' := by
  rcases findBestRoutePlan_cases hid h with
    ⟨-, -, -, -, -, rfl⟩ | ⟨himpl, rfl | ⟨order, plan, horder, rfl, rfl⟩⟩
  · exact hst
  · exact hst
  · intro key plan' hplan'
    simp only [RouteState.cached?, Dict.get?_set] at hplan'
    split_ifs at hplan' with hkey
    · -- the new entry
      have hnow : st.now < st.now + routeCacheTtl := by
        unfold routeCacheTtl
        omega
      rw [Option.bind_some, if_pos hnow] at hplan'
      obtain rfl : plan = plan' := Option.some.inj hplan'
      simp only [findBestRoutePlanImpl, hid, horder] at himpl
      obtain ⟨w, hp, hd, hw, hp', hd', hlane⟩ := planOrder_eq_ok himpl
      refine ⟨w, ?_, hp', hd', fuel, hlane⟩
      rw [← hkey, cacheKey, hp, hd, hw]
      rfl
    · exact hst key plan' hplan'

end Find

/-! ### Histories of safe events -/

/-- Safe events keep the cached plans current. -/
theorem plansCurrent_step {st st' : RouteState} {event : RouteEvent} (hst : PlansCurrent st)
    (h : (routeSystem.guard SafeEvent).step st event st') : PlansCurrent st' := by
  obtain ⟨hstep, hsafe⟩ := h
  cases event with
  | createHub createdAt newId data =>
    obtain rfl : st' = _ := hstep
    cases hcall : createHub st.db createdAt newId data with
    | error e => exact hst
    | ok result =>
      obtain ⟨-, -, hconns, hroutes⟩ := createHub_eq_ok hcall
      refine hst.of_frame (fun _ => hconns) (fun key plan hplan => ?_) fun _ _ _ => ?_
      · obtain ⟨ho, hd⟩ := hsafe key plan hplan
        exact ⟨fun hne => hubCodes_createHub hcall hne ho,
          fun hne => hubCodes_createHub hcall hne hd⟩
      · exact bestPrice_eq_of_routes hroutes _ _
  | updateHub hubId data =>
    obtain rfl : st' = _ := hstep
    cases hcall : updateHub st.db hubId data with
    | error e => exact hst
    | ok result =>
      obtain ⟨-, -, -, -, -, -, hconns, hroutes⟩ := updateHub_eq_ok hcall
      refine hst.of_frame (fun _ => hconns) (fun key plan hplan => ?_) fun _ _ _ => ?_
      · refine ⟨fun hne => hubCodes_updateHub hcall hne fun c hc hub hhub hid => ?_,
          fun hne => hubCodes_updateHub hcall hne fun c hc hub hhub hid => ?_⟩
        · exact (hsafe c hc hub hhub hid).imp_right fun h =>
            ⟨(h.1 key plan hplan).1.symm, (h.2 key plan hplan).1.symm⟩
        · exact (hsafe c hc hub hhub hid).imp_right fun h =>
            ⟨(h.1 key plan hplan).2.symm, (h.2 key plan hplan).2.symm⟩
      · exact bestPrice_eq_of_routes hroutes _ _
  | addCarrierRoute createdAt newId data =>
    obtain rfl : st' = _ := hstep
    cases hcall : addCarrierRoute st.db createdAt newId data with
    | error e => exact hst
    | ok result =>
      obtain ⟨-, -, -, hhubs, hconns⟩ := addCarrierRoute_eq_ok hcall
      exact hst.of_frame (fun _ => hconns)
        (fun _ _ _ => ⟨fun _ => hubCodes_eq_of_hubs hhubs _, fun _ => hubCodes_eq_of_hubs hhubs _⟩)
        fun key plan hplan => bestPrice_addCarrierRoute hcall (hsafe key plan hplan)
  | addHubConnection createdAt newId data =>
    obtain rfl : st' = _ := hstep
    -- there is no plan in the cache
    intro key plan hplan
    have hnone : st.cached? key = none := hsafe key
    have hplan : st.cached? key = some plan := hplan
    rw [hnone] at hplan
    cases hplan
  | createTransportOrder newId data =>
    obtain rfl : st' = _ := hstep
    cases hcall : createTransportOrder st.db newId data with
    | error e => exact hst
    | ok result =>
      obtain ⟨hhubs, hconns, hroutes⟩ := createTransportOrder_eq_ok hcall
      exact hst.of_frame (fun _ => hconns)
        (fun _ _ _ => ⟨fun _ => hubCodes_eq_of_hubs hhubs _, fun _ => hubCodes_eq_of_hubs hhubs _⟩)
        fun _ _ _ => bestPrice_eq_of_routes hroutes _ _
  | findBestRoutePlan orderId answer =>
    obtain ⟨fuel, hfind⟩ := hstep
    obtain ⟨id, hid, -⟩ := hsafe
    exact hst.find hid hfind
  | wait milliseconds =>
    obtain rfl : st' = _ := hstep
    intro key plan hplan
    refine hst key plan ?_
    -- what is alive later is alive now
    obtain ⟨entry, hentry, hlive⟩ := Option.bind_eq_some_iff.1 hplan
    refine Option.bind_eq_some_iff.2 ⟨entry, hentry, ?_⟩
    simp only at hlive ⊢
    split_ifs at hlive with hlt
    rw [if_pos (by omega)]
    exact hlive

/-- **In a history of safe events that starts with an empty cache, every search answers what the
planner answers on the database of the moment.** -/
theorem find_eq_impl_of_safe {db : TmsDb} {now : ℕ} {events : List RouteEvent}
    {st st' : RouteState} {orderId : IdArg} {answer : Except TmsError PlanDoc}
    (hrun : (routeSystem.guard SafeEvent).Run ⟨db, Dict.empty, now⟩ events st)
    (hfind : (routeSystem.guard SafeEvent).step st (.findBestRoutePlan orderId answer) st') :
    ∃ fuel, findBestRoutePlanImpl fuel st.db orderId = some answer := by
  have hempty : PlansCurrent ⟨db, Dict.empty, now⟩ := by
    intro key plan hplan
    cases hplan
  have hst : PlansCurrent st := hrun.invariant hempty fun _ _ _ h hstep =>
    plansCurrent_step h hstep
  obtain ⟨⟨fuel, hfuel⟩, hsafe⟩ := hfind
  exact hst.find_eq_impl hsafe hfuel

/-! ### A history of the small network -/

/-- The small network, with an empty cache. -/
def smallState : RouteState := ⟨smallNetwork, Dict.empty, 0⟩

/-- The small network after a search of its order. -/
def smallCached : RouteState :=
  { smallState with
    cache := Dict.empty.set (cacheKey smallOrder) ⟨smallPlan, 0 + routeCacheTtl⟩ }

/-- A carrier route for the lane of the order, at 3 for a kilogram. -/
def smallRoute : CarrierRouteCreate := ⟨"zto", "X", "Y", 10, 2, 3, 0, 1⟩

/-- The small network after the search and the carrier route. -/
def smallRepriced : RouteState :=
  { smallCached with db := commitOr smallNetwork (addCarrierRoute smallNetwork 1 9 smallRoute) }

theorem smallState_find :
    findBestRoutePlan 10 smallState ⟨"7", some 7⟩ = some (.ok smallPlan, smallCached) :=
  findBestRoutePlan_miss rfl rfl rfl smallNetwork_plan

theorem smallRepriced_find :
    findBestRoutePlan 10 smallRepriced ⟨"7", some 7⟩ = some (.ok smallPlan, smallRepriced) :=
  findBestRoutePlan_hit rfl (show _ = some smallOrder by decide +kernel) (by decide +kernel)

theorem smallRepriced_plan : findBestRoutePlanImpl 10 smallRepriced.db ⟨"7", some 7⟩ =
    some (.ok { smallPlan with totalCostAmount := 3 }) := by
  decide +kernel

/-- A second order on the lane of the first. -/
def secondOrder : TransportOrder := { smallOrder with id := 8 }

/-- A safe history: a connection is added, the order is searched, and again from the cache, a hub is
created in a third city and another one renamed, a route of the way back and a second order are
added, and time passes. -/
def safeHistory : List RouteEvent :=
  [.addHubConnection 1 10 ⟨"CD", "AB", 10, 2⟩, .findBestRoutePlan ⟨"7", some 7⟩ (.ok smallPlan),
    .findBestRoutePlan ⟨"7", some 7⟩ (.ok smallPlan),
    .createHub 1 12 { code := "EF", name := "", city := "Z" },
    .updateHub ⟨"1", some 1⟩ { name := some "AB hub" },
    .addCarrierRoute 1 9 ⟨"zto", "Y", "X", 10, 2, 3, 0, 1⟩,
    .createTransportOrder 8 ⟨some ⟨some "X"⟩, some ⟨some "Y"⟩, 1⟩, .wait 1000]

/-- The network once the connection has been added. -/
def historyStart : TmsDb :=
  commitOr smallNetwork (addHubConnection smallNetwork 1 10 ⟨"CD", "AB", 10, 2⟩)

/-- The database at the end of the history. -/
def historyDb : TmsDb :=
  let db := historyStart
  let db := commitOr db (createHub db 1 12 { code := "EF", name := "", city := "Z" })
  let db := commitOr db (updateHub db ⟨"1", some 1⟩ { name := some "AB hub" })
  let db := commitOr db (addCarrierRoute db 1 9 ⟨"zto", "Y", "X", 10, 2, 3, 0, 1⟩)
  commitOr db (createTransportOrder db 8 ⟨some ⟨some "X"⟩, some ⟨some "Y"⟩, 1⟩)

/-- The plan of the small network is all that its cache holds. -/
theorem cached?_smallCached {db : TmsDb} {now : ℕ} {key : String} {plan : PlanDoc}
    (h : RouteState.cached? ⟨db, smallCached.cache, now⟩ key = some plan) : plan = smallPlan := by
  simp only [RouteState.cached?, smallCached, Dict.get?_set, Dict.get?_empty] at h
  split_ifs at h with hkey
  · rw [Option.bind_some] at h
    split_ifs at h
    exact (Option.some.inj h).symm
  · cases h

/-- A search on the lane of the small network is safe, with that cache. -/
theorem safeEvent_find {db : TmsDb} {now id : ℕ} {text : String} {answer : Except TmsError PlanDoc}
    {order : TransportOrder} (horder : db.order? id = some order)
    (hp : order.pickupAddress = some ⟨some "X"⟩) (hd : order.deliveryAddress = some ⟨some "Y"⟩)
    (hw : order.totalWeightKg ≠ none) :
    SafeEvent ⟨db, smallCached.cache, now⟩ (.findBestRoutePlan ⟨text, some id⟩ answer) := by
  refine ⟨id, rfl, fun order' horder' plan hplan => ?_⟩
  obtain rfl := Option.some.inj (horder.symm.trans horder')
  obtain rfl := cached?_smallCached hplan
  exact ⟨hp, hd, hw⟩

theorem safeHistory_run : (routeSystem.guard SafeEvent).Run smallState safeHistory
    ⟨historyDb, smallCached.cache, 1000⟩ := by
  have hfind : findBestRoutePlan 10 ⟨historyStart, Dict.empty, 0⟩ ⟨"7", some 7⟩ =
      some (.ok smallPlan, ⟨historyStart, smallCached.cache, 0⟩) :=
    findBestRoutePlan_miss rfl (show _ = some smallOrder by decide +kernel) rfl (by decide +kernel)
  refine .cons ⟨rfl, fun _ => rfl⟩ (.cons ⟨⟨10, hfind⟩, 7, rfl, fun _ _ _ hplan => by cases hplan⟩
    (.cons ⟨⟨10, findBestRoutePlan_hit rfl (show _ = some smallOrder by decide +kernel)
      (by decide +kernel)⟩, safeEvent_find (show _ = some smallOrder by decide +kernel) rfl rfl nofun⟩
    (.cons ⟨rfl, fun key plan hplan => ?_⟩ (.cons ⟨rfl, fun city hcity => by cases hcity⟩
    (.cons ⟨rfl, fun key plan hplan => ?_⟩ (.cons ⟨rfl, trivial⟩ (.single ⟨rfl, trivial⟩)))))))
  · obtain rfl := cached?_smallCached hplan
    decide
  · obtain rfl := cached?_smallCached hplan
    decide

/-- The second order is answered from the cache, with its own plan. -/
theorem safeHistory_find_eq_impl :
    ∃ fuel, findBestRoutePlanImpl fuel historyDb ⟨"8", some 8⟩ = some (.ok smallPlan) :=
  find_eq_impl_of_safe safeHistory_run
    ⟨⟨10, findBestRoutePlan_hit rfl (show _ = some secondOrder by decide +kernel)
      (by decide +kernel)⟩, safeEvent_find (show _ = some secondOrder by decide +kernel) rfl rfl nofun⟩

/-- **A carrier route does not invalidate the plans of its lane**: after a search, a lower price is
added for the lane, and the next search still answers the old plan. -/
theorem stale_plan_after_carrier_route :
    routeSystem.Run smallState
      [.findBestRoutePlan ⟨"7", some 7⟩ (.ok smallPlan), .addCarrierRoute 1 9 smallRoute]
      smallRepriced ∧
    routeSystem.step smallRepriced (.findBestRoutePlan ⟨"7", some 7⟩ (.ok smallPlan))
      smallRepriced ∧
    ∀ fuel, findBestRoutePlanImpl fuel smallRepriced.db ⟨"7", some 7⟩ ≠ some (.ok smallPlan) := by
  refine ⟨.cons ⟨10, smallState_find⟩ (.single rfl), ⟨10, smallRepriced_find⟩, fun fuel h => ?_⟩
  have heq := findBestRoutePlanImpl_det smallRepriced_plan h
  simp [smallPlan] at heq

end Tms

end OmsWmsTms
