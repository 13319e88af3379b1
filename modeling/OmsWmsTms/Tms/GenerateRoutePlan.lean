import OmsWmsTms.Tms.RouteCache

/-!
# Storing a route plan: `generate_route_plan`

`generate_route_plan` asks for a plan and stores it with one transport segment for each segment of
the plan document.

* `generateRoutePlan` : the function.
* `RouteChain` : the stored segments are a chain of connections from a pickup hub to a delivery
  hub; `IsCheapestPlan` adds the sums and the least cost.
* `SpellsRoute` : the hub codes of a path spell, letter by letter, a chain of one-letter hubs.
* `LaneReports` : the paths that the searches of a lane can report; a lane with a price has one.
* `generateRoutePlan_isCheapestPlan_iff` : a stored plan has least cost and its segments add up,
  but they are a chain when the paths that can be reported spell one, and only when one of them
  does; never, when no hub has a code of one letter.
-/

namespace OmsWmsTms

namespace Tms

/-! ### The function -/

/-- Insert a route plan; an order has at most one. -/
def TmsDb.insertPlan (db : TmsDb) (plan : RoutePlan) : Except TmsError TmsDb :=
  if horder : plan.transportOrderId ∈ db.routePlans.map RoutePlan.transportOrderId then
    .error .integrityError
  else .ok { db with
    routePlans := db.routePlans ++ [plan]
    routePlans_order_nodup := nodup_map_concat db.routePlans_order_nodup horder }

/-- The row of a segment of the plan document. -/
def PlanSegment.row (orderId : Uuid) (seg : PlanSegment) : TransportSegment :=
  ⟨orderId, seg.segmentNo, seg.fromHub, seg.toHub⟩

/-- Steps 2 and 3: the plan and its segments. -/
def storePlan (db : TmsDb) (planId orderId : Uuid) (planType : String) (route : PlanDoc) :
    Except TmsError ((RoutePlan × List TransportSegment) × TmsDb) := do
  let type ← RoutePlanType.ofValue planType
  let totalDistanceKm ← store route.totalDistanceKm
  let totalCostAmount ← store route.totalCostAmount
  let estimatedTransitHours ← store route.estimatedTransitHours
  let plan : RoutePlan :=
    ⟨planId, orderId, type, route.originCity, route.destinationCity, totalDistanceKm,
      totalCostAmount, estimatedTransitHours, route⟩
  let db ← db.insertPlan plan
  let segments := route.segments.map (PlanSegment.row orderId)
  return ((plan, segments), { db with transportSegments := db.transportSegments ++ segments })

/-- `generate_route_plan`. -/
def generateRoutePlan (fuel : ℕ) (st : RouteState) (planId : Uuid) (orderId : IdArg)
    (planType : String) :
    Option (Except TmsError (RoutePlan × List TransportSegment) × RouteState) :=
  match orderId.uuid? with
  | none => some (.error (.notFound s!"TransportOrder {orderId.text} not found"), st)
  | some id =>
    (findBestRoutePlan fuel st orderId).map fun
      | (.error e, st) => (.error e, st)
      | (.ok route, st) =>
        match storePlan st.db planId id planType route with
        | .error e => (.error e, st)
        | .ok (stored, db) => (.ok stored, { st with db })

/-! ### What a stored plan should be -/

/-- The segments, in the order of their numbers, are a chain of connections from a hub of the
pickup city to a hub of the delivery city. -/
structure RouteChain (db : TmsDb) (pickupCity deliveryCity : String)
    (segs : List TransportSegment) : Prop where
  numbered : segs.map TransportSegment.segmentNo = List.range segs.length
  first : ∃ seg hub, segs.head? = some seg ∧ hub ∈ db.hubs ∧ hub.city = pickupCity ∧
    hub.code = seg.originHubCode
  last : ∃ seg hub, segs.getLast? = some seg ∧ hub ∈ db.hubs ∧ hub.city = deliveryCity ∧
    hub.code = seg.destHubCode
  joined : ∀ i (seg next : TransportSegment), segs[i]? = some seg → segs[i + 1]? = some next →
    seg.destHubCode = next.originHubCode
  existing : ∀ seg ∈ segs, ∃ conn ∈ db.hubConnections,
    conn.pair = (seg.originHubCode, seg.destHubCode)

/-- A stored plan is a connected cheapest chain: its segments are a chain, their distances and
hours add up to the totals of the plan, and its cost is the least cost over the pairs of a pickup
hub and a delivery hub. -/
structure IsCheapestPlan (db : TmsDb) (weightKg : ℚ) (plan : RoutePlan)
    (segs : List TransportSegment) : Prop where
  chain : RouteChain db plan.originCity plan.destinationCity segs
  distance : (plan.planJson.segments.map PlanSegment.distanceKm).sum = plan.totalDistanceKm.toRat
  hours :
    (plan.planJson.segments.map PlanSegment.transitHours).sum = plan.estimatedTransitHours.toRat
  cost : IsLeast (laneCosts db plan.originCity plan.destinationCity weightKg)
    plan.planJson.totalCostAmount

/-- The codes of the hubs of a path spell a chain of hubs: there are hub codes `c₀, …, cₙ`, joined
by connections, from the pickup city to the delivery city, such that the hub `i` of the path
(the last one apart) has `cᵢ` for its letter `i` and `cᵢ₊₁` for its letter `i + 1`. -/
def SpellsRoute (db : TmsDb) (pickupCity deliveryCity : String) (path : List String) : Prop :=
  ∃ codes : List String, codes.length = path.length ∧ 1 < path.length ∧
    (∃ hub ∈ db.hubs, hub.city = pickupCity ∧ codes.head? = some hub.code) ∧
    (∃ hub ∈ db.hubs, hub.city = deliveryCity ∧ codes.getLast? = some hub.code) ∧
    ∀ i code next, codes[i]? = some code → codes[i + 1]? = some next →
      (∃ conn ∈ db.hubConnections, conn.pair = (code, next)) ∧
      ∃ hub, path[i]? = some hub ∧ charAt hub i = some code ∧ charAt hub (i + 1) = some next

/-- The paths that the searches of a lane can report: those for the first of its pairs of hubs that
have a cheapest walk. -/
def LaneReports (db : TmsDb) (pickupCity deliveryCity : String) (weightKg : ℚ)
    (path : List String) : Prop :=
  ∃ p, FirstCheapest (hubGraph db) (segCost (priceMap db) pickupCity deliveryCity weightKg)
      (hubPairs db pickupCity deliveryCity) p ∧
    Reportable (hubGraph db) (segCost (priceMap db) pickupCity deliveryCity weightKg) p.1 p.2 path

/-- A lane with a price has one such path: the ends of the first pair. -/
theorem LaneReports.subsingleton {db : TmsDb} {pickupCity deliveryCity : String}
    {weightKg price : ℚ}
    (hprice : bestPrice (priceMap db) pickupCity deliveryCity = some price) :
    {path | LaneReports db pickupCity deliveryCity weightKg path}.Subsingleton := by
  rintro path ⟨p, hfirst, hpath⟩ path' ⟨p', hfirst', hpath'⟩
  have hcost (conn : Conn) : segCost (priceMap db) pickupCity deliveryCity weightKg conn =
      weightKg * price := by
    rw [segCost, hprice]
  obtain rfl := hfirst.unique hfirst'
  rw [hpath.eq_pair hcost, hpath'.eq_pair hcost]

/-! ### Segments and letters -/

section Spell

variable {db : TmsDb} {orderId : Uuid} {r : RouteResult} {segments : List PlanSegment}
  {pickupCity deliveryCity : String}

/-- The hub codes of a chain: where each segment starts, and where the last one ends. -/
def chainCodes (segs : List TransportSegment) : List String :=
  segs.map TransportSegment.originHubCode ++
    (segs.getLast?.map TransportSegment.destHubCode).toList

theorem length_chainCodes {segs : List TransportSegment} (h : segs ≠ []) :
    (chainCodes segs).length = segs.length + 1 := by
  simp [chainCodes, List.getLast?_eq_getLast_of_ne_nil h]

/-- In a chain the segment `i` runs from the code `i` to the code `i + 1`. -/
theorem getElem?_chainCodes {segs : List TransportSegment}
    (hjoined : ∀ i (seg next : TransportSegment), segs[i]? = some seg →
      segs[i + 1]? = some next → seg.destHubCode = next.originHubCode)
    {i : ℕ} {seg : TransportSegment} (hseg : segs[i]? = some seg) :
    (chainCodes segs)[i]? = some seg.originHubCode ∧
      (chainCodes segs)[i + 1]? = some seg.destHubCode := by
  obtain ⟨hi, rfl⟩ := List.getElem?_eq_some_iff.1 hseg
  constructor
  · rw [chainCodes, List.getElem?_append_left (by simpa using hi)]
    simp [hi]
  · by_cases hlast : i + 1 < segs.length
    · have hnext : segs[i + 1]? = some segs[i + 1] := List.getElem?_eq_getElem hlast
      rw [chainCodes, List.getElem?_append_left (by simpa using hlast), hjoined i _ _ hseg hnext]
      simp [hlast]
    · have hlen : i + 1 = segs.length := by omega
      rw [chainCodes, List.getElem?_append_right (by simp [hlen])]
      have hget : segs.getLast? = some segs[i] := by
        rw [List.getLast?_eq_getElem?, ← hseg]
        congr 1
        omega
      simp [hlen, hget]

/-- **The segments of a plan are a chain exactly when the path spells one.** -/
theorem routeChain_iff_spellsRoute (h : planSegments r = .ok segments)
    (hdist : r.path.length = r.segDistances.length + 1)
    (hhours : r.path.length = r.segHours.length + 1) :
    RouteChain db pickupCity deliveryCity (segments.map (PlanSegment.row orderId)) ↔
      SpellsRoute db pickupCity deliveryCity r.path := by
  have hlen := planSegments_length h hdist hhours
  have hends {i : ℕ} {seg : TransportSegment}
      (hseg : (segments.map (PlanSegment.row orderId))[i]? = some seg) :
      ∃ hub, r.path[i]? = some hub ∧ charAt hub i = some seg.originHubCode ∧
        charAt hub (i + 1) = some seg.destHubCode := by
    rw [List.getElem?_map] at hseg
    obtain ⟨seg, hget, rfl⟩ := Option.map_eq_some_iff.1 hseg
    exact planSegments_ends h hget
  constructor
  · intro hchain
    obtain ⟨seg₀, hub₀, hhead, hhub₀, hcity₀, hcode₀⟩ := hchain.first
    obtain ⟨seg₁, hub₁, hlast, hhub₁, hcity₁, hcode₁⟩ := hchain.last
    have hne : segments.map (PlanSegment.row orderId) ≠ [] := by
      rintro hnil
      rw [hnil] at hhead
      cases hhead
    have hpos : 0 < segments.length := by
      rw [← List.length_map (PlanSegment.row orderId)]
      exact List.length_pos_iff.2 hne
    have hcodes := length_chainCodes hne
    rw [List.length_map] at hcodes
    refine ⟨chainCodes (segments.map (PlanSegment.row orderId)), by omega, by omega,
      ⟨hub₀, hhub₀, hcity₀, ?_⟩, ⟨hub₁, hhub₁, hcity₁, ?_⟩, fun i code next hcode hnext => ?_⟩
    · rw [List.head?_eq_getElem?] at hhead
      rw [List.head?_eq_getElem?, (getElem?_chainCodes hchain.joined hhead).1, hcode₀]
    · rw [chainCodes, hlast]
      simp [hcode₁]
    · have hi : i < (segments.map (PlanSegment.row orderId)).length := by
        have := (List.getElem?_eq_some_iff.1 hnext).1
        rw [List.length_map]
        omega
      have hseg := List.getElem?_eq_getElem hi
      obtain ⟨hcode', hnext'⟩ := getElem?_chainCodes hchain.joined hseg
      rw [hcode'] at hcode
      rw [hnext'] at hnext
      cases hcode
      cases hnext
      exact ⟨hchain.existing _ (List.getElem_mem hi), hends hseg⟩
  · rintro ⟨codes, hcodes, hpath, ⟨hub₀, hhub₀, hcity₀, hcode₀⟩, ⟨hub₁, hhub₁, hcity₁, hcode₁⟩,
      hspell⟩
    -- the ends of the segment `i` are the codes `i` and `i + 1`
    have hseg {i : ℕ} {seg : TransportSegment}
        (hseg : (segments.map (PlanSegment.row orderId))[i]? = some seg) :
        codes[i]? = some seg.originHubCode ∧ codes[i + 1]? = some seg.destHubCode ∧
          ∃ conn ∈ db.hubConnections, conn.pair = (seg.originHubCode, seg.destHubCode) := by
      have hi := (List.getElem?_eq_some_iff.1 hseg).1
      rw [List.length_map] at hi
      obtain ⟨code, hcode⟩ : ∃ code, codes[i]? = some code :=
        ⟨_, List.getElem?_eq_getElem (by omega)⟩
      obtain ⟨next, hnext⟩ : ∃ next, codes[i + 1]? = some next :=
        ⟨_, List.getElem?_eq_getElem (by omega)⟩
      obtain ⟨hconn, hub, hhub, hfrom, hto⟩ := hspell i code next hcode hnext
      obtain ⟨hub', hhub', hfrom', hto'⟩ := hends hseg
      rw [hhub] at hhub'
      cases hhub'
      rw [hfrom] at hfrom'
      rw [hto] at hto'
      cases hfrom'
      cases hto'
      exact ⟨hcode, hnext, hconn⟩
    have hget {i : ℕ} (hi : i < segments.length) :
        ∃ seg, (segments.map (PlanSegment.row orderId))[i]? = some seg :=
      ⟨_, List.getElem?_eq_getElem (by rwa [List.length_map])⟩
    refine ⟨?_, ?_, ?_, fun i seg next hs hn => ?_, fun seg hs => ?_⟩
    · rw [List.map_map, List.length_map]
      have hno := (planSegments_columns h hdist hhours).1
      rw [show r.segDistances.length = segments.length by omega] at hno
      exact hno
    · obtain ⟨seg, hs⟩ := hget (show 0 < segments.length by omega)
      refine ⟨seg, hub₀, by rw [List.head?_eq_getElem?, hs], hhub₀, hcity₀, ?_⟩
      rw [List.head?_eq_getElem?, (hseg hs).1] at hcode₀
      exact (Option.some.inj hcode₀).symm
    · obtain ⟨seg, hs⟩ := hget (show segments.length - 1 < segments.length by omega)
      refine ⟨seg, hub₁, by rw [List.getLast?_eq_getElem?, List.length_map, hs], hhub₁, hcity₁, ?_⟩
      have hidx : codes.length - 1 = segments.length - 1 + 1 := by omega
      rw [List.getLast?_eq_getElem?, hidx, (hseg hs).2.1] at hcode₁
      exact (Option.some.inj hcode₁).symm
    · have h₁ := (hseg hs).2.1
      rw [(hseg hn).1] at h₁
      exact (Option.some.inj h₁).symm
    · obtain ⟨i, hi⟩ := List.mem_iff_getElem?.1 hs
      exact (hseg hi).2.2

/-- The segments of a plan start and end at letters. -/
theorem RouteChain.exists_letter (h : planSegments r = .ok segments)
    (hchain : RouteChain db pickupCity deliveryCity (segments.map (PlanSegment.row orderId))) :
    ∃ hub ∈ db.hubs, hub.code.length = 1 := by
  obtain ⟨seg, hub, hhead, hhub, -, hcode⟩ := hchain.first
  rw [List.head?_eq_getElem?, List.getElem?_map] at hhead
  obtain ⟨seg, hseg, rfl⟩ := Option.map_eq_some_iff.1 hhead
  obtain ⟨code, -, hfrom, -⟩ := planSegments_ends h hseg
  refine ⟨hub, hhub, ?_⟩
  obtain ⟨c, -, hc⟩ := Option.map_eq_some_iff.1 hfrom
  rw [hcode]
  change seg.fromHub.length = 1
  rw [← hc, String.length_singleton]

end Spell

/-! ### The stored plan -/

section Stored

variable {db db' : TmsDb} {planId orderId : Uuid} {planType : String} {route : PlanDoc}
  {plan : RoutePlan} {segs : List TransportSegment}

/-- What is stored for a plan document: its cities and totals, the document itself, and a row for
each of its segments. -/
theorem storePlan_eq_ok (h : storePlan db planId orderId planType route = .ok ((plan, segs), db')) :
    plan.planJson = route ∧ plan.originCity = route.originCity ∧
    plan.destinationCity = route.destinationCity ∧
    Numeric.ofRat? route.totalDistanceKm = some plan.totalDistanceKm ∧
    Numeric.ofRat? route.totalCostAmount = some plan.totalCostAmount ∧
    Numeric.ofRat? route.estimatedTransitHours = some plan.estimatedTransitHours ∧
    segs = route.segments.map (PlanSegment.row orderId) ∧
    db'.routePlans = db.routePlans ++ [plan] ∧
    db'.transportSegments = db.transportSegments ++ segs := by
  unfold storePlan at h
  obtain ⟨type, -, h⟩ := bind_eq_ok_iff.1 h
  obtain ⟨distance, hdistance, h⟩ := bind_eq_ok_iff.1 h
  obtain ⟨cost, hcost, h⟩ := bind_eq_ok_iff.1 h
  obtain ⟨hours, hhours, h⟩ := bind_eq_ok_iff.1 h
  obtain ⟨db₁, hdb₁, h⟩ := bind_eq_ok_iff.1 h
  rw [store_eq_ok_iff] at hdistance hcost hhours
  obtain ⟨⟨rfl, rfl⟩, rfl⟩ : (_ = plan ∧ _ = segs) ∧ _ = db' := by
    simpa only [pure_eq_ok_iff, Prod.mk.injEq] using h
  unfold TmsDb.insertPlan at hdb₁
  split_ifs at hdb₁
  cases hdb₁
  exact ⟨rfl, rfl, rfl, hdistance, hcost, hhours, rfl, rfl, rfl⟩

/-- A stored plan is a connected cheapest chain exactly when the path of its search, one of those
that the searches of its lane can report, spells a chain. -/
theorem storePlan_isCheapestPlan_iff {fuel : ℕ} {weightKg : Numeric 20 4} (hdb : db.NonNegative)
    (hw : 0 ≤ weightKg.toRat)
    (hlane : planLane fuel db route.originCity route.destinationCity weightKg = some (.ok route))
    (h : storePlan db planId orderId planType route = .ok ((plan, segs), db')) :
    (∃ path, LaneReports db plan.originCity plan.destinationCity weightKg path ∧
      (IsCheapestPlan db weightKg plan segs ↔
        SpellsRoute db plan.originCity plan.destinationCity path)) ∧
    ((∀ hub ∈ db.hubs, hub.code.length ≠ 1) → ¬ IsCheapestPlan db weightKg plan segs) := by
  obtain ⟨hjson, horigin, hdest, hdistance, -, hhours, rfl, -, -⟩ := storePlan_eq_ok h
  obtain ⟨r, segments, hr, hsegments, hroute⟩ := planLane_eq_ok hlane
  have hsegs : route.segments = segments := by rw [hroute]
  obtain ⟨⟨p, -, hpair⟩, -⟩ := searchPairs_spec hr
  obtain ⟨st, hexit, -, hanswer⟩ := dijkstra_eq_some hpair
  obtain ⟨-, -, hld, hlh⟩ := sum_segments (uniquePairs_hubGraph db) hexit hanswer.symm
  have hchain := @routeChain_iff_spellsRoute db orderId r segments route.originCity
    route.destinationCity hsegments hld hlh
  obtain ⟨-, hsumd, hsumh⟩ := planLane_totals hlane
  obtain ⟨hgridd, hgridh⟩ := planLane_onGrid hlane
  have hreports : LaneReports db route.originCity route.destinationCity weightKg r.path :=
    searchPairs_reportable (hdb.nonnegCost route.originCity route.destinationCity hw) hr
  rw [horigin, hdest, hsegs]
  constructor
  · refine ⟨r.path, hreports, ?_⟩
    rw [← hchain]
    constructor
    · intro hplan
      have hroute := hplan.chain
      rwa [horigin, hdest] at hroute
    · intro hroute
      refine ⟨?_, ?_, ?_, ?_⟩
      · rwa [horigin, hdest]
      · rw [hjson, hsumd, Numeric.toRat_of_ofRat? hgridd hdistance]
      · rw [hjson, hsumh, Numeric.toRat_of_ofRat? hgridh hhours]
      · rw [horigin, hdest, hjson]
        exact planLane_isLeast hdb hw hlane
  · intro hlong hplan
    have hroute := hplan.chain
    rw [horigin, hdest] at hroute
    obtain ⟨hub, hhub, hlen⟩ := hroute.exists_letter hsegments
    exact hlong hub hhub hlen

end Stored

/-- **A stored plan is a connected cheapest chain when every path that the searches of its lane can
report spells a chain of one-letter hubs, and only when one of them does**; never, when no hub has
a code of one letter. -/
theorem generateRoutePlan_isCheapestPlan_iff {fuel : ℕ} {st st' : RouteState} {planId id : Uuid}
    {orderId : IdArg} {planType : String} {order : TransportOrder} {plan : RoutePlan}
    {segs : List TransportSegment} (hdb : st.db.NonNegative) (hid : orderId.uuid? = some id)
    (horder : st.db.order? id = some order) (hcache : st.cached? (cacheKey order) = none)
    (h : generateRoutePlan fuel st planId orderId planType = some (.ok (plan, segs), st')) :
    ∃ weightKg, order.totalWeightKg = some weightKg ∧
      order.pickupAddress = some ⟨some plan.originCity⟩ ∧
      order.deliveryAddress = some ⟨some plan.destinationCity⟩ ∧
      ((∀ path, LaneReports st.db plan.originCity plan.destinationCity weightKg path →
          SpellsRoute st.db plan.originCity plan.destinationCity path) →
        IsCheapestPlan st.db weightKg plan segs) ∧
      (IsCheapestPlan st.db weightKg plan segs →
        ∃ path, LaneReports st.db plan.originCity plan.destinationCity weightKg path ∧
          SpellsRoute st.db plan.originCity plan.destinationCity path) ∧
      ({path | LaneReports st.db plan.originCity plan.destinationCity weightKg
          path}.Subsingleton →
        (IsCheapestPlan st.db weightKg plan segs ↔
          ∃ path, LaneReports st.db plan.originCity plan.destinationCity weightKg path ∧
            SpellsRoute st.db plan.originCity plan.destinationCity path)) ∧
      ((∀ hub ∈ st.db.hubs, hub.code.length ≠ 1) →
        ¬ IsCheapestPlan st.db weightKg plan segs) := by
  simp only [generateRoutePlan, hid] at h
  obtain ⟨⟨answer, st₁⟩, hfind, heq⟩ := Option.map_eq_some_iff.1 h
  cases answer with
  | error e => cases heq
  | ok route =>
    -- nothing is cached, so that the plan is the planner's and the database is unchanged
    obtain ⟨himpl, hst₁⟩ : findBestRoutePlanImpl fuel st.db orderId = some (.ok route) ∧
        st₁.db = st.db := by
      rcases findBestRoutePlan_cases hid hfind with
        ⟨order', plan', horder', hcached, -, -⟩ | ⟨himpl, hst₁ | ⟨order', plan', -, -, hst₁⟩⟩
      · rw [horder] at horder'
        cases horder'
        rw [hcache] at hcached
        cases hcached
      · exact ⟨himpl, by rw [hst₁]⟩
      · exact ⟨himpl, by rw [hst₁]⟩
    simp only [findBestRoutePlanImpl, hid, horder] at himpl
    obtain ⟨weightKg, hp, hd, hw, -, -, hlane⟩ := planOrder_eq_ok himpl
    have hweight : 0 ≤ weightKg.toRat :=
      hdb.weight order (List.mem_of_find?_eq_some horder) weightKg hw
    simp only [hst₁] at heq
    cases hstore : storePlan st.db planId id planType route with
    | error e =>
      rw [hstore] at heq
      cases heq
    | ok result =>
      obtain ⟨⟨plan', segs'⟩, db'⟩ := result
      rw [hstore] at heq
      obtain ⟨⟨rfl, rfl⟩, -⟩ : (plan' = plan ∧ segs' = segs) ∧ _ := by
        simpa only [Prod.mk.injEq, Except.ok.injEq] using heq
      obtain ⟨-, horigin, hdest, -⟩ := storePlan_eq_ok hstore
      obtain ⟨⟨path, hpath, hiff⟩, hnever⟩ := storePlan_isCheapestPlan_iff hdb hweight hlane hstore
      have honly (hplan : IsCheapestPlan st.db weightKg plan' segs') :
          ∃ path, LaneReports st.db plan'.originCity plan'.destinationCity weightKg path ∧
            SpellsRoute st.db plan'.originCity plan'.destinationCity path :=
        ⟨path, hpath, hiff.1 hplan⟩
      refine ⟨weightKg, hw, by rw [horigin, hp], by rw [hdest, hd],
        fun hall => hiff.2 (hall path hpath), honly, fun hsingle => ⟨honly, ?_⟩, hnever⟩
      rintro ⟨path', hpath', hspells⟩
      exact hiff.2 (hsingle hpath hpath' ▸ hspells)

/-! ### Two small networks -/

theorem smallDistance_fits : Int.natAbs 100000 < 10 ^ 20 := by decide

theorem smallHours_fits : Int.natAbs 20 < 10 ^ 10 := by decide

theorem farDistance_fits : Int.natAbs 1000000 < 10 ^ 20 := by decide

theorem farHours_fits : Int.natAbs 200 < 10 ^ 10 := by decide

theorem spelledPrice_fits : Int.natAbs 30000 < 10 ^ 18 := by decide

/-- Hubs `AB` and `A` in city `X`, hub `B` in city `Y`, connections of 10 km from `AB` and of 100 km
from `A` to `B`, a price for the lane, and the order of the small network. -/
def spelledNetwork : TmsDb where
  hubs := [⟨1, "AB", "", .primary, "X", 0, .open_, 1⟩, ⟨2, "A", "", .primary, "X", 0, .open_, 0⟩,
    ⟨3, "B", "", .primary, "Y", 0, .open_, 0⟩]
  carrierRoutes := [⟨4, .zto, "X", "Y", 0, 0, ⟨30000, spelledPrice_fits⟩, 0, 0, 0⟩]
  hubConnections := [⟨5, "AB", "B", ⟨100000, smallDistance_fits⟩, ⟨20, smallHours_fits⟩, 0⟩,
    ⟨6, "A", "B", ⟨1000000, farDistance_fits⟩, ⟨200, farHours_fits⟩, 0⟩]
  transportOrders := [smallOrder]
  routePlans := []
  transportSegments := []
  hubs_id_nodup := by decide
  hubs_code_nodup := by decide
  hubConnections_pair_nodup := by decide
  transportOrders_id_nodup := smallNetwork.transportOrders_id_nodup
  routePlans_order_nodup := smallNetwork.routePlans_order_nodup

/-- The plan of its order. -/
def spelledPlan : PlanDoc := ⟨"X", "Y", 10, 2, 3, [⟨0, "A", "B", 10, 2⟩]⟩

/-- The plan that is stored for it. -/
def spelledStored : RoutePlan :=
  ⟨11, 7, .autoGen, "X", "Y", ⟨100000, smallDistance_fits⟩, ⟨300, by decide⟩,
    ⟨20, smallHours_fits⟩, spelledPlan⟩

/-- Its segments, and those of the small network. -/
def smallSegments : List TransportSegment := [⟨7, 0, "A", "B"⟩]

theorem spelledNetwork_nonNegative : spelledNetwork.NonNegative where
  distance := by decide +kernel
  price := by decide +kernel
  weight := by
    intro order horder w hw
    obtain rfl : order = smallOrder := List.mem_singleton.1 horder
    cases hw
    decide +kernel

theorem spelledNetwork_generate : ∃ st',
    generateRoutePlan 10 ⟨spelledNetwork, Dict.empty, 0⟩ 11 ⟨"7", some 7⟩ "auto_gen" =
      some (.ok (spelledStored, smallSegments), st') := by
  have horder : spelledNetwork.order? 7 = some smallOrder := rfl
  have himpl : findBestRoutePlanImpl 10 spelledNetwork ⟨"7", some 7⟩ = some (.ok spelledPlan) := by
    decide +kernel
  have hfind : findBestRoutePlan 10 ⟨spelledNetwork, Dict.empty, 0⟩ ⟨"7", some 7⟩ = some _ :=
    findBestRoutePlan_miss rfl horder rfl himpl
  have hstore : Prod.fst <$> storePlan spelledNetwork 11 7 "auto_gen" spelledPlan =
      .ok (spelledStored, smallSegments) := by
    decide +kernel
  obtain ⟨⟨stored, db'⟩, hdb', rfl⟩ := map_eq_ok_iff.1 hstore
  exact ⟨_, by simp only [generateRoutePlan, hfind, Option.map_some, hdb']; rfl⟩

/-- The path of the search spells the chain from `A` to `B`. -/
theorem spelledNetwork_spells {weightKg : Numeric 20 4} (hw : weightKg.toRat = 1) :
    LaneReports spelledNetwork "X" "Y" weightKg ["AB", "B"] ∧
    SpellsRoute spelledNetwork "X" "Y" ["AB", "B"] := by
  constructor
  · have hsearch : searchPairs (hubGraph spelledNetwork) (priceMap spelledNetwork) "X" "Y" 1 10
        (hubPairs spelledNetwork "X" "Y") =
          some (some ⟨["AB", "B"], 10, 2, 3, [10], [2]⟩) := by
      decide +kernel
    rw [hw]
    exact searchPairs_reportable
      (spelledNetwork_nonNegative.nonnegCost "X" "Y" zero_le_one) hsearch
  · refine ⟨["A", "B"], rfl, by decide, by decide, by decide, fun i code next hcode hnext => ?_⟩
    match i with
    | 0 =>
      cases hcode
      cases hnext
      decide
    | _ + 1 => cases hnext

theorem spelledStored_isCheapestPlan : ∃ weightKg : Numeric 20 4,
    smallOrder.totalWeightKg = some weightKg ∧
      IsCheapestPlan spelledNetwork weightKg spelledStored smallSegments := by
  obtain ⟨st', h⟩ := spelledNetwork_generate
  obtain ⟨weightKg, hw, -, -, -, -, hiff, -⟩ :=
    generateRoutePlan_isCheapestPlan_iff spelledNetwork_nonNegative rfl
      (show spelledNetwork.order? 7 = some smallOrder by decide +kernel) rfl h
  have hone : weightKg.toRat = 1 := by
    obtain rfl : _ = weightKg := Option.some.inj hw
    decide +kernel
  exact ⟨weightKg, hw, (hiff (LaneReports.subsingleton
    (show bestPrice (priceMap spelledNetwork) "X" "Y" = some 3 by decide +kernel))).2
    ⟨_, spelledNetwork_spells hone⟩⟩

/-- The plan stored for the order of the small network. -/
def smallStored : RoutePlan :=
  ⟨11, 7, .autoGen, "X", "Y", ⟨100000, smallDistance_fits⟩, ⟨500, by decide⟩,
    ⟨20, smallHours_fits⟩, smallPlan⟩

/-- **A plan is stored whose segment joins `A` to `B`**, in a network with the hubs `AB` and
`CD`. -/
theorem smallNetwork_stores_no_route :
    (∃ st', generateRoutePlan 10 smallState 11 ⟨"7", some 7⟩ "auto_gen" =
      some (.ok (smallStored, smallSegments), st')) ∧
    ¬ RouteChain smallNetwork "X" "Y" smallSegments := by
  constructor
  · have hstore : Prod.fst <$> storePlan smallNetwork 11 7 "auto_gen" smallPlan =
        .ok (smallStored, smallSegments) := by
      decide +kernel
    obtain ⟨⟨stored, db'⟩, hdb', rfl⟩ := map_eq_ok_iff.1 hstore
    have hdb : smallCached.db = smallNetwork := rfl
    exact ⟨{ smallCached with db := db' }, by
      simp only [generateRoutePlan, smallState_find, Option.map_some, hdb, hdb']⟩
  · intro hchain
    obtain ⟨conn, hconn, hpair⟩ := hchain.existing ⟨7, 0, "A", "B"⟩ (List.mem_singleton.2 rfl)
    obtain rfl := List.mem_singleton.1 hconn
    simp [HubConnection.pair] at hpair

end Tms

end OmsWmsTms
