import OmsWmsTms.Control.Except
import OmsWmsTms.Tms.RoutePath
import OmsWmsTms.Tms.Services

/-!
# The route planner `_find_best_route_plan_impl`

The planner reads the order, the hubs of its two cities, all connections and all carrier routes,
runs the route search for every pair of a pickup hub and a delivery hub, and makes a plan document
of the cheapest result.

* `findBestRoutePlanImpl` : the function; `planLane` is its part after the order has been read.
* `conns_hubGraph` : the graph has the connections of the table, one for each pair of hubs.
* `searchPairs_spec` : the search over the pairs keeps a result of least cost.
* `planLane_isLeast` : the cost of a plan is the least cost of a path from a pickup hub to a
  delivery hub.
* `planLane_totals` : the segments of a plan add up to its totals.
-/

namespace OmsWmsTms

namespace Tms

/-! ### The function -/

/-- `graph` : the connections by the hub they leave. -/
def hubGraph (db : TmsDb) : HubGraph :=
  (listHubConnections db).foldl (fun graph c =>
    graph.append c.fromHubCode ⟨c.toHubCode, c.distanceKm, c.transitHours⟩) Dict.empty

/-- `price_map` : the prices by lane and carrier; a route met later replaces an earlier one. -/
def priceMap (db : TmsDb) : PriceMap CarrierCode :=
  (listCarrierRoutes db).foldl (fun prices cr =>
    prices.set (cr.originCity, cr.destCity, cr.carrierCode) cr.basePricePerKg) Dict.empty

/-- `if result and result["total_cost"] < best_cost`. -/
def improve (best result : Option RouteResult) : Option RouteResult :=
  match result, best with
  | none, best => best
  | some r, none => some r
  | some r, some b => if r.totalCost < b.totalCost then some r else some b

section Pairs

variable {C : Type*} (graph : HubGraph) (prices : PriceMap C) (originCity destCity : String)
  (weightKg : ℚ) (fuel : ℕ)

/-- The loop over the pairs of hubs, with at most `fuel` rounds for each search. -/
def searchPairs (pairs : List (String × String)) : Option (Option RouteResult) :=
  pairs.foldlM (fun best p =>
    (dijkstra graph prices originCity destCity weightKg fuel p.1 p.2).map (improve best)) none

end Pairs

/-- `text[i]`. -/
def charAt (text : String) (i : ℕ) : Option String := (text.toList[i]?).map String.singleton

/-- The segment made of the `i`-th hub of the path, whose ends are the characters `i` and `i + 1`
*of the hub code*. -/
def planSegment (item : (String × ℚ × ℚ) × ℕ) : Except TmsError PlanSegment :=
  match charAt item.1.1 item.2, charAt item.1.1 (item.2 + 1) with
  | some fromHub, some toHub => .ok ⟨item.2, fromHub, toHub, item.1.2.1, item.1.2.2⟩
  | _, _ => .error .indexError

/-- The comprehension that makes the segments, over the hubs of the path with the distances and
hours of the segments. -/
def planSegments (r : RouteResult) : Except TmsError (List PlanSegment) :=
  (r.path.zip (r.segDistances.zip r.segHours)).zipIdx.mapM planSegment

/-- The plan document of a result. -/
def planDoc (pickupCity deliveryCity : String) (r : RouteResult) : Except TmsError PlanDoc := do
  let segments ← planSegments r
  return { originCity := pickupCity
           destinationCity := deliveryCity
           totalDistanceKm := r.totalDistance
           estimatedTransitHours := r.totalHours
           totalCostAmount := r.totalCost
           segments }

/-- The pairs of hub codes that the planner searches, in the order of its two loops. -/
def hubPairs (db : TmsDb) (pickupCity deliveryCity : String) : List (String × String) :=
  ((listHubs db pickupCity).map TransferHub.code).product
    ((listHubs db deliveryCity).map TransferHub.code)

/-- The planner, once it has read the order: steps 2 to 5. -/
def planLane (fuel : ℕ) (db : TmsDb) (pickupCity deliveryCity : String)
    (weightKg : Numeric 20 4) : Option (Except TmsError PlanDoc) :=
  if listHubs db pickupCity = [] then
    some (.error (.notFound s!"No transfer hub found in origin city '{pickupCity}'"))
  else if listHubs db deliveryCity = [] then
    some (.error (.notFound s!"No transfer hub found in destination city '{deliveryCity}'"))
  else
    (searchPairs (hubGraph db) (priceMap db) pickupCity deliveryCity weightKg fuel
      (hubPairs db pickupCity deliveryCity)).map fun
      | none =>
        .error (.notFound s!"No route found from '{pickupCity}' to '{deliveryCity}'")
      | some r => planDoc pickupCity deliveryCity r

/-- The planner on an order: the addresses must be documents, the weight a number and the cities
texts that are not empty, in this order. -/
def planOrder (fuel : ℕ) (db : TmsDb) (order : TransportOrder) :
    Option (Except TmsError PlanDoc) :=
  match order.pickupAddress, order.deliveryAddress, order.totalWeightKg with
  | some ⟨pickupCity⟩, some ⟨deliveryCity⟩, some weightKg =>
    match pickupCity, deliveryCity with
    | some pickupCity, some deliveryCity =>
      if pickupCity = "" ∨ deliveryCity = "" then
        some (.error (.validation "Transport order missing pickup/delivery city"))
      else planLane fuel db pickupCity deliveryCity weightKg
    | _, _ => some (.error (.validation "Transport order missing pickup/delivery city"))
  | some _, some _, none => some (.error .invalidOperation)
  | _, _, _ => some (.error .attributeError)

/-- The order with a given identifier. -/
def TmsDb.order? (db : TmsDb) (id : Uuid) : Option TransportOrder :=
  db.transportOrders.find? (·.id = id)

/-- `_find_best_route_plan_impl`. -/
def findBestRoutePlanImpl (fuel : ℕ) (db : TmsDb) (orderId : IdArg) :
    Option (Except TmsError PlanDoc) :=
  match orderId.uuid? with
  | none => some (.error .valueError)
  | some id =>
    match db.order? id with
    | none => some (.error (.notFound s!"TransportOrder {orderId.text} not found"))
    | some order => planOrder fuel db order

/-! ### The graph and the prices -/

/-- A row of `hub_connections` in the graph. -/
def HubConnection.conn (c : HubConnection) : Conn := ⟨c.toHubCode, c.distanceKm, c.transitHours⟩

theorem conns_hubGraph (db : TmsDb) (hub : String) :
    (hubGraph db).conns hub =
      ((listHubConnections db).filter (·.fromHubCode = hub)).map HubConnection.conn := by
  rw [HubGraph.conns, hubGraph, Dict.getD_get?_foldl_append]
  simp [HubConnection.conn]

theorem mem_conns_hubGraph {db : TmsDb} {hub : String} {conn : Conn} :
    conn ∈ (hubGraph db).conns hub ↔
      ∃ c ∈ db.hubConnections, c.fromHubCode = hub ∧ c.conn = conn := by
  simp [conns_hubGraph, listHubConnections, and_assoc]

/-- The unique index on connections gives a graph with one connection for each pair of hubs. -/
theorem uniquePairs_hubGraph (db : TmsDb) : (hubGraph db).UniquePairs := by
  intro hub
  rw [conns_hubGraph, List.map_map]
  have hnodup : ((listHubConnections db).map HubConnection.pair).Nodup :=
    ((orderByDesc_perm _ _).map _).nodup_iff.2 db.hubConnections_pair_nodup
  have hfilter : (((listHubConnections db).filter (·.fromHubCode = hub)).map
      HubConnection.pair).Nodup :=
    hnodup.sublist (List.filter_sublist.map _)
  have hpair : ((listHubConnections db).filter (·.fromHubCode = hub)).map
      HubConnection.pair =
      (((listHubConnections db).filter (·.fromHubCode = hub)).map
        (Conn.next ∘ HubConnection.conn)).map (hub, ·) := by
    rw [List.map_map]
    refine List.map_congr_left fun c hc => ?_
    have hfrom : c.fromHubCode = hub := by simpa using (List.mem_filter.1 hc).2
    simp [hfrom, HubConnection.conn, HubConnection.pair]
  rw [hpair] at hfilter
  exact hfilter.of_map

/-- The distances, the prices and the weights are not negative; the request schemas see to it. -/
structure TmsDb.NonNegative (db : TmsDb) : Prop where
  distance : ∀ c ∈ db.hubConnections, 0 ≤ c.distanceKm.toRat
  price : ∀ cr ∈ db.carrierRoutes, 0 ≤ cr.basePricePerKg.toRat
  weight : ∀ order ∈ db.transportOrders, ∀ w, order.totalWeightKg = some w → 0 ≤ w.toRat

theorem get?_priceMap (db : TmsDb) (lane : String × String × CarrierCode) :
    (priceMap db).get? lane = (((listCarrierRoutes db).filter fun cr =>
      (cr.originCity, cr.destCity, cr.carrierCode) = lane).getLast?).map
        fun cr => cr.basePricePerKg.toRat := by
  rw [priceMap, Dict.get?_foldl_set, Dict.get?_empty, Option.or_none]

theorem TmsDb.NonNegative.priceMap {db : TmsDb} (h : db.NonNegative) :
    ∀ item ∈ (priceMap db).items, 0 ≤ item.2 := by
  rintro ⟨lane, price⟩ hitem
  have hget := Dict.get?_of_mem_items hitem
  rw [get?_priceMap] at hget
  obtain ⟨cr, hcr, rfl⟩ := Option.map_eq_some_iff.1 hget
  have hmem := List.mem_of_mem_filter (List.mem_of_getLast? hcr)
  exact h.price cr (mem_orderByDesc.1 hmem)

theorem TmsDb.NonNegative.nonnegCost {db : TmsDb} (h : db.NonNegative)
    (originCity destCity : String)
    {weightKg : ℚ} (hw : 0 ≤ weightKg) :
    (hubGraph db).digraph.NonnegCost
      (segCost (Tms.priceMap db) originCity destCity weightKg) := by
  intro hub conn hconn
  obtain ⟨c, hc, -, rfl⟩ := mem_conns_hubGraph.1 hconn
  exact segCost_nonneg (h.distance c hc) h.priceMap hw

/-! ### The loop over the pairs -/

section Pairs

variable {C : Type*} {graph : HubGraph} {prices : PriceMap C} {originCity destCity : String}
  {weightKg : ℚ} {fuel : ℕ} {best : Option RouteResult}

theorem improve_le {b r : Option RouteResult} {r' : RouteResult} (h : b = some r' ∨ r = some r') :
    ∃ b', improve b r = some b' ∧ b'.totalCost ≤ r'.totalCost := by
  rcases r with _ | r <;> rcases b with _ | b
  · simp at h
  · obtain rfl : b = r' := by simpa using h
    exact ⟨b, rfl, le_rfl⟩
  · obtain rfl : r = r' := by simpa using h
    exact ⟨r, rfl, le_rfl⟩
  · by_cases hlt : r.totalCost < b.totalCost
    · refine ⟨r, if_pos hlt, ?_⟩
      rcases h with h | h <;> cases h
      exacts [hlt.le, le_rfl]
    · refine ⟨b, if_neg hlt, ?_⟩
      rcases h with h | h <;> cases h
      exacts [le_rfl, not_lt.1 hlt]

/-- What is kept is the earlier result, no dearer than the later one, or the later one, cheaper than
the earlier. -/
theorem improve_eq_some {b r : Option RouteResult} {r' : RouteResult} (h : improve b r = some r') :
    (b = some r' ∧ ∀ r'', r = some r'' → r'.totalCost ≤ r''.totalCost) ∨
      (r = some r' ∧ ∀ b', b = some b' → r'.totalCost < b'.totalCost) := by
  rcases r with _ | r <;> rcases b with _ | b
  · cases h
  · exact .inl ⟨h, fun _ hr => nomatch hr⟩
  · exact .inr ⟨h, fun _ hb => nomatch hb⟩
  · by_cases hlt : r.totalCost < b.totalCost
    · rw [improve, if_pos hlt] at h
      cases h
      exact .inr ⟨rfl, fun b' hb => Option.some.inj hb ▸ hlt⟩
    · rw [improve, if_neg hlt] at h
      cases h
      exact .inl ⟨rfl, fun r'' hr => Option.some.inj hr ▸ not_lt.1 hlt⟩

/-- Every pair was searched, and its result relates so to a cost. -/
def Searched (graph : HubGraph) (prices : PriceMap C) (originCity destCity : String) (weightKg : ℚ)
    (fuel : ℕ) (rel : ℚ → Prop) (pairs : List (String × String)) : Prop :=
  ∀ p ∈ pairs, ∃ answer,
    dijkstra graph prices originCity destCity weightKg fuel p.1 p.2 = some answer ∧
    ∀ r, answer = some r → rel r.totalCost

/-- The loop over the pairs, from a result found before: it keeps that result, if no pair has a
cheaper one, or that of the first pair with a cheapest one. -/
theorem foldlM_improve {pairs : List (String × String)} {best₀ : Option RouteResult}
    {r : RouteResult} (h : pairs.foldlM (fun best p =>
      (dijkstra graph prices originCity destCity weightKg fuel p.1 p.2).map (improve best)) best₀ =
        some (some r)) :
    (best₀ = some r ∧
      Searched graph prices originCity destCity weightKg fuel (r.totalCost ≤ ·) pairs) ∨
    ∃ before p after, pairs = before ++ p :: after ∧
      dijkstra graph prices originCity destCity weightKg fuel p.1 p.2 = some (some r) ∧
      (∀ b, best₀ = some b → r.totalCost < b.totalCost) ∧
      Searched graph prices originCity destCity weightKg fuel (r.totalCost < ·) before ∧
      Searched graph prices originCity destCity weightKg fuel (r.totalCost ≤ ·) after := by
  induction pairs generalizing best₀ with
  | nil => exact .inl ⟨Option.some.inj h, fun _ hp => absurd hp List.not_mem_nil⟩
  | cons p pairs ih =>
    rw [List.foldlM_cons] at h
    obtain ⟨best₁, h₁, h⟩ := Option.bind_eq_some_iff.1 h
    obtain ⟨answer, hanswer, rfl⟩ := Option.map_eq_some_iff.1 h₁
    rcases ih h with ⟨hbest, hrest⟩ | ⟨before, p', after, rfl, hp', hlt, hbefore, hafter⟩
    · rcases improve_eq_some hbest with ⟨hb, hle⟩ | ⟨hr, hlt⟩
      · exact .inl ⟨hb, List.forall_mem_cons.2 ⟨⟨answer, hanswer, hle⟩, hrest⟩⟩
      · exact .inr ⟨[], p, pairs, rfl, hr ▸ hanswer, hlt, fun _ hp => absurd hp List.not_mem_nil,
          hrest⟩
    · have hstep (r' : RouteResult) (hr' : best₀ = some r' ∨ answer = some r') :
          r.totalCost < r'.totalCost := by
        obtain ⟨b, hb, hle⟩ := improve_le hr'
        exact (hlt b hb).trans_le hle
      exact .inr ⟨p :: before, p', after, rfl, hp', fun b hb => hstep b (.inl hb),
        List.forall_mem_cons.2 ⟨⟨answer, hanswer, fun r' hr' => hstep r' (.inr hr')⟩, hbefore⟩,
        hafter⟩

/-- **The search over the pairs keeps the result of the first pair with a cheapest one.** -/
theorem searchPairs_first {pairs : List (String × String)} {r : RouteResult}
    (h : searchPairs graph prices originCity destCity weightKg fuel pairs = some (some r)) :
    ∃ before p after, pairs = before ++ p :: after ∧
      dijkstra graph prices originCity destCity weightKg fuel p.1 p.2 = some (some r) ∧
      Searched graph prices originCity destCity weightKg fuel (r.totalCost < ·) before ∧
      Searched graph prices originCity destCity weightKg fuel (r.totalCost ≤ ·) after := by
  rcases foldlM_improve h with ⟨hnone, -⟩ | ⟨before, p, after, hpairs, hp, -, hrest⟩
  · cases hnone
  · exact ⟨before, p, after, hpairs, hp, hrest⟩

/-- The search over the pairs keeps the result of a pair, and no pair has a cheaper one. -/
theorem searchPairs_spec {pairs : List (String × String)} {r : RouteResult}
    (h : searchPairs graph prices originCity destCity weightKg fuel pairs = some (some r)) :
    (∃ p ∈ pairs,
      dijkstra graph prices originCity destCity weightKg fuel p.1 p.2 = some (some r)) ∧
    Searched graph prices originCity destCity weightKg fuel (r.totalCost ≤ ·) pairs := by
  obtain ⟨before, p, after, rfl, hp, hbefore, hafter⟩ := searchPairs_first h
  refine ⟨⟨p, List.mem_append_right _ List.mem_cons_self, hp⟩, fun p' hp' => ?_⟩
  rcases List.mem_append.1 hp' with hp' | hp'
  · obtain ⟨answer, hanswer, hlt⟩ := hbefore p' hp'
    exact ⟨answer, hanswer, fun r' hr' => (hlt r' hr').le⟩
  · rcases List.mem_cons.1 hp' with rfl | hp'
    · exact ⟨some r, hp, fun r' hr' => (congrArg _ (Option.some.inj hr')).le⟩
    · exact hafter p' hp'

/-- What is known of the results of the searched pairs is known of the costs of all their walks. -/
theorem Searched.walkCost {rel : ℚ → Prop} {pairs : List (String × String)}
    (h : Searched graph prices originCity destCity weightKg fuel rel pairs)
    (hrel : ∀ c c', rel c → c ≤ c' → rel c')
    (hcost : graph.digraph.NonnegCost (segCost prices originCity destCity weightKg))
    {p : String × String} (hp : p ∈ pairs) {conns : List Conn}
    (hw : graph.digraph.Walk p.1 conns p.2) :
    rel (Digraph.walkCost (segCost prices originCity destCity weightKg) conns) := by
  obtain ⟨answer, hanswer, hall⟩ := h p hp
  obtain ⟨st, hexit, -, rfl⟩ := dijkstra_eq_some hanswer
  cases hr : searchAnswer graph p.1 p.2 st with
  | none => exact absurd ⟨conns, hw⟩ ((hexit.answer_none_iff hcost).1 hr)
  | some r =>
    exact hrel _ _ (hall r hr)
      ((hexit.isLeast hcost (searchAnswer_totalCost hr)).2 ⟨conns, hw, rfl⟩)

/-- The first of the pairs with a cheapest walk: one of its walks costs less than any of an earlier
pair, and no more than any of its own or of a later one. -/
def FirstCheapest (graph : HubGraph) (cost : Conn → ℚ) (pairs : List (String × String))
    (p : String × String) : Prop :=
  ∃ before after conns, pairs = before ++ p :: after ∧ graph.digraph.Cheapest cost p.1 p.2 conns ∧
    (∀ p' ∈ before, ∀ conns', graph.digraph.Walk p'.1 conns' p'.2 →
      Digraph.walkCost cost conns < Digraph.walkCost cost conns') ∧
    ∀ p' ∈ after, ∀ conns', graph.digraph.Walk p'.1 conns' p'.2 →
      Digraph.walkCost cost conns ≤ Digraph.walkCost cost conns'

/-- There is at most one first cheapest pair. -/
theorem FirstCheapest.unique {cost : Conn → ℚ} {pairs : List (String × String)}
    {p p' : String × String} (h : FirstCheapest graph cost pairs p)
    (h' : FirstCheapest graph cost pairs p') : p = p' := by
  obtain ⟨before, after, conns, rfl, hcheapest, hbefore, hafter⟩ := h
  obtain ⟨before', after', conns', heq, hcheapest', hbefore', hafter'⟩ := h'
  rcases List.append_eq_append_iff.1 heq with ⟨rest, rfl, hrest⟩ | ⟨rest, rfl, hrest⟩
  · rcases List.cons_eq_append_iff.1 hrest with ⟨-, hrest⟩ | ⟨rest', rfl, rfl⟩
    · exact (List.cons.inj hrest).1.symm
    · exact absurd (hbefore' p (by simp) conns hcheapest.1)
        (not_lt.2 (hafter p' (by simp) conns' hcheapest'.1))
  · rcases List.cons_eq_append_iff.1 hrest with ⟨-, hrest⟩ | ⟨rest', rfl, rfl⟩
    · exact (List.cons.inj hrest).1
    · exact absurd (hbefore p' (by simp) conns' hcheapest'.1)
        (not_lt.2 (hafter' p (by simp) conns hcheapest.1))

/-- **A result of the search over the pairs is one for the first cheapest pair**, with one of the
paths that its search can report. -/
theorem searchPairs_reportable {pairs : List (String × String)} {r : RouteResult}
    (hcost : graph.digraph.NonnegCost (segCost prices originCity destCity weightKg))
    (h : searchPairs graph prices originCity destCity weightKg fuel pairs = some (some r)) :
    ∃ p, FirstCheapest graph (segCost prices originCity destCity weightKg) pairs p ∧
      Reportable graph (segCost prices originCity destCity weightKg) p.1 p.2 r.path := by
  obtain ⟨before, p, after, hpairs, hp, hbefore, hafter⟩ := searchPairs_first h
  obtain ⟨st, hexit, -, hanswer⟩ := dijkstra_eq_some hp
  obtain ⟨⟨conns, hw, hc⟩, hleast⟩ := hexit.isLeast hcost (searchAnswer_totalCost hanswer.symm)
  refine ⟨p, ⟨before, after, conns, hpairs, ⟨hw, fun conns' hw' => ?_⟩, fun p' hp' conns' hw' => ?_,
    fun p' hp' conns' hw' => ?_⟩, dijkstra_reportable hcost hp⟩ <;> rw [hc]
  · exact hleast ⟨conns', hw', rfl⟩
  · exact hbefore.walkCost (fun _ _ => lt_of_lt_of_le) hcost hp' hw'
  · exact hafter.walkCost (fun _ _ => le_trans) hcost hp' hw'

/-- More rounds give the same result. -/
theorem searchPairs_mono {fuel' : ℕ} (hle : fuel ≤ fuel') {pairs : List (String × String)}
    (h : searchPairs graph prices originCity destCity weightKg fuel pairs = some best) :
    searchPairs graph prices originCity destCity weightKg fuel' pairs = some best := by
  unfold searchPairs at h ⊢
  generalize (none : Option RouteResult) = best₀ at h ⊢
  induction pairs generalizing best₀ with
  | nil => exact h
  | cons p pairs ih =>
    rw [List.foldlM_cons] at h ⊢
    obtain ⟨best₁, h₁, h⟩ := Option.bind_eq_some_iff.1 h
    obtain ⟨answer, hanswer, rfl⟩ := Option.map_eq_some_iff.1 h₁
    rw [dijkstra_mono hle hanswer]
    exact ih _ h

/-- Without negative costs every pair is searched to its end. -/
theorem searchPairs_total
    (hcost : graph.digraph.NonnegCost (segCost prices originCity destCity weightKg))
    (hfuel : graph.rounds < fuel) (pairs : List (String × String)) :
    ∃ best, searchPairs graph prices originCity destCity weightKg fuel pairs = some best := by
  unfold searchPairs
  generalize (none : Option RouteResult) = best₀
  induction pairs generalizing best₀ with
  | nil => exact ⟨best₀, rfl⟩
  | cons p pairs ih =>
    obtain ⟨answer, hanswer⟩ := dijkstra_total p.1 p.2 hcost hfuel
    obtain ⟨best, hbest⟩ := ih (improve best₀ answer)
    exact ⟨best, by rw [List.foldlM_cons, hanswer]; exact hbest⟩

end Pairs

/-! ### The segments -/

theorem planSegment_eq_ok {item : (String × ℚ × ℚ) × ℕ} {seg : PlanSegment}
    (h : planSegment item = .ok seg) :
    seg.segmentNo = item.2 ∧ seg.distanceKm = item.1.2.1 ∧ seg.transitHours = item.1.2.2 ∧
      charAt item.1.1 item.2 = some seg.fromHub ∧
      charAt item.1.1 (item.2 + 1) = some seg.toHub := by
  unfold planSegment at h
  split at h
  · cases h
    exact ⟨rfl, rfl, rfl, ‹_›, ‹_›⟩
  · cases h

section Segments

variable {r : RouteResult} {segs : List PlanSegment}

/-- The segments are numbered from zero and carry the distances and hours of the answer, when it
has one segment fewer than hubs. -/
theorem planSegments_columns (h : planSegments r = .ok segs)
    (hdist : r.path.length = r.segDistances.length + 1)
    (hhours : r.path.length = r.segHours.length + 1) :
    segs.map PlanSegment.segmentNo = List.range r.segDistances.length ∧
    segs.map PlanSegment.distanceKm = r.segDistances ∧
    segs.map PlanSegment.transitHours = r.segHours := by
  have hall := mapM_eq_ok_iff.1 h
  have hzip : (r.segDistances.zip r.segHours).length = r.segDistances.length := by
    rw [List.length_zip]; omega
  have hzip' : (r.path.zip (r.segDistances.zip r.segHours)).length = r.segDistances.length := by
    rw [List.length_zip, hzip]; omega
  have hsnd : ((r.path.zip (r.segDistances.zip r.segHours)).zipIdx.map Prod.fst).map Prod.snd =
      r.segDistances.zip r.segHours := by
    rw [List.zipIdx_map_fst, List.map_snd_zip (by omega)]
  refine ⟨?_, ?_, ?_⟩
  · rw [map_eq_map_of_forall₂ hall fun _ _ heq => (planSegment_eq_ok heq).1,
      List.zipIdx_map_snd, hzip', List.range_eq_range']
  · rw [map_eq_map_of_forall₂ hall fun _ _ heq => (planSegment_eq_ok heq).2.1]
    calc _ = (((r.path.zip (r.segDistances.zip r.segHours)).zipIdx.map Prod.fst).map
          Prod.snd).map Prod.fst := by rw [List.map_map, List.map_map]; rfl
      _ = r.segDistances := by rw [hsnd, List.map_fst_zip (by omega)]
  · rw [map_eq_map_of_forall₂ hall fun _ _ heq => (planSegment_eq_ok heq).2.2.1]
    calc _ = (((r.path.zip (r.segDistances.zip r.segHours)).zipIdx.map Prod.fst).map
          Prod.snd).map Prod.snd := by rw [List.map_map, List.map_map]; rfl
      _ = r.segHours := by rw [hsnd, List.map_snd_zip (by omega)]

/-- The ends of the segment `i` are two characters of the code of the hub `i`. -/
theorem planSegments_ends (h : planSegments r = .ok segs) {i : ℕ} {seg : PlanSegment}
    (hseg : segs[i]? = some seg) :
    ∃ hub, r.path[i]? = some hub ∧ charAt hub i = some seg.fromHub ∧
      charAt hub (i + 1) = some seg.toHub := by
  have hmap := congrArg (·[i]?) (map_eq_map_of_forall₂
    (g := fun seg : PlanSegment => (some seg.fromHub, some seg.toHub))
    (f := fun item => (charAt item.1.1 item.2, charAt item.1.1 (item.2 + 1)))
    (mapM_eq_ok_iff.1 h) fun item seg heq => by
      obtain ⟨-, -, -, hfrom, hto⟩ := planSegment_eq_ok heq
      rw [hfrom, hto])
  simp only [List.getElem?_map, hseg, Option.map_some, List.getElem?_zipIdx, zero_add] at hmap
  cases hzip : (r.path.zip (r.segDistances.zip r.segHours))[i]? with
  | none => rw [hzip] at hmap; simp at hmap
  | some item =>
    rw [hzip] at hmap
    obtain ⟨hpath, -⟩ := List.getElem?_zip_eq_some.1 hzip
    simp only [Option.map_some, Option.some.injEq, Prod.mk.injEq] at hmap
    exact ⟨item.1, hpath, hmap.1.symm, hmap.2.symm⟩

/-- A plan has one segment fewer than the path has hubs. -/
theorem planSegments_length (h : planSegments r = .ok segs)
    (hdist : r.path.length = r.segDistances.length + 1)
    (hhours : r.path.length = r.segHours.length + 1) : r.path.length = segs.length + 1 := by
  rw [hdist, ← (planSegments_columns h hdist hhours).2.1, List.length_map]

end Segments

/-! ### The plan of a lane -/

section Lane

variable {fuel : ℕ} {db : TmsDb} {pickupCity deliveryCity : String} {weightKg : Numeric 20 4}
  {plan : PlanDoc}

/-- What a plan of a lane is made of. -/
theorem planLane_eq_ok (h : planLane fuel db pickupCity deliveryCity weightKg = some (.ok plan)) :
    ∃ r segs, searchPairs (hubGraph db) (priceMap db) pickupCity deliveryCity weightKg fuel
        (hubPairs db pickupCity deliveryCity) = some (some r) ∧
      planSegments r = .ok segs ∧
      plan = ⟨pickupCity, deliveryCity, r.totalDistance, r.totalHours, r.totalCost, segs⟩ := by
  unfold planLane at h
  split_ifs at h
  · cases h
  · cases h
  · obtain ⟨best, hbest, hplan⟩ := Option.map_eq_some_iff.1 h
    cases best with
    | none => cases hplan
    | some r =>
      obtain ⟨segs, hsegs, hplan⟩ := bind_eq_ok_iff.1 hplan
      exact ⟨r, segs, hbest, hsegs, (pure_eq_ok_iff.1 hplan).symm⟩

/-- More rounds give the same plan. -/
theorem planLane_mono {fuel' : ℕ} (hle : fuel ≤ fuel') {answer : Except TmsError PlanDoc}
    (h : planLane fuel db pickupCity deliveryCity weightKg = some answer) :
    planLane fuel' db pickupCity deliveryCity weightKg = some answer := by
  unfold planLane at h ⊢
  split_ifs at h ⊢
  · exact h
  · exact h
  · obtain ⟨best, hbest, hplan⟩ := Option.map_eq_some_iff.1 h
    rw [searchPairs_mono hle hbest, Option.map_some, hplan]

theorem planLane_det {fuel' : ℕ} {answer answer' : Except TmsError PlanDoc}
    (h : planLane fuel db pickupCity deliveryCity weightKg = some answer)
    (h' : planLane fuel' db pickupCity deliveryCity weightKg = some answer') :
    answer = answer' := by
  have h₁ := planLane_mono (Nat.le_max_left fuel fuel') h
  have h₂ := planLane_mono (Nat.le_max_right fuel fuel') h'
  exact Option.some.inj (h₁.symm.trans h₂)

/-- The costs of the connection paths from a hub of the pickup city to one of the delivery city. -/
def laneCosts (db : TmsDb) (pickupCity deliveryCity : String) (weightKg : ℚ) : Set ℚ :=
  {c | ∃ p ∈ hubPairs db pickupCity deliveryCity,
    c ∈ pathCosts (hubGraph db)
      (segCost (priceMap db) pickupCity deliveryCity weightKg) p.1 p.2}

/-- **The cost of a plan is the least cost of a path from a pickup hub to a delivery hub.** -/
theorem planLane_isLeast (hdb : db.NonNegative) (hw : 0 ≤ weightKg.toRat)
    (h : planLane fuel db pickupCity deliveryCity weightKg = some (.ok plan)) :
    IsLeast (laneCosts db pickupCity deliveryCity weightKg) plan.totalCostAmount := by
  obtain ⟨r, segs, hr, -, rfl⟩ := planLane_eq_ok h
  have hcost := hdb.nonnegCost pickupCity deliveryCity hw
  obtain ⟨⟨p, hp, hpair⟩, hall⟩ := searchPairs_spec hr
  constructor
  · obtain ⟨st, hexit, -, hanswer⟩ := dijkstra_eq_some hpair
    exact ⟨p, hp, (hexit.isLeast hcost (searchAnswer_totalCost hanswer.symm)).1⟩
  · rintro c ⟨p', hp', conns, hw', rfl⟩
    exact hall.walkCost (fun _ _ => le_trans) hcost hp' hw'

/-- **The segments of a plan add up to its totals.** -/
theorem planLane_totals
    (h : planLane fuel db pickupCity deliveryCity weightKg = some (.ok plan)) :
    plan.segments.map PlanSegment.segmentNo = List.range plan.segments.length ∧
    (plan.segments.map PlanSegment.distanceKm).sum = plan.totalDistanceKm ∧
    (plan.segments.map PlanSegment.transitHours).sum = plan.estimatedTransitHours := by
  obtain ⟨r, segs, hr, hsegs, rfl⟩ := planLane_eq_ok h
  obtain ⟨⟨p, -, hpair⟩, -⟩ := searchPairs_spec hr
  obtain ⟨st, hexit, -, hanswer⟩ := dijkstra_eq_some hpair
  obtain ⟨hdist, hhours, hld, hlh⟩ := sum_segments (uniquePairs_hubGraph db) hexit hanswer.symm
  obtain ⟨hno, hd, hh⟩ := planSegments_columns hsegs hld hlh
  have hlen : r.segDistances.length = segs.length := by rw [← hd, List.length_map]
  exact ⟨hlen ▸ hno, by rw [hd, hdist], by rw [hh, hhours]⟩

end Lane

/-- The distance and the hours of an answer are sums over connections of the table, so that they
have no more decimals than its columns. -/
theorem searchAnswer_onGrid {db : TmsDb} {cost : Conn → ℚ} {origin destination : String}
    {st : SearchState} {r : RouteResult}
    (hexit : SearchExit (hubGraph db) cost origin destination st)
    (h : searchAnswer (hubGraph db) origin destination st = some r) :
    OnGrid 4 r.totalDistance ∧ OnGrid 1 r.totalHours := by
  have hconn {hub : String} {conn : Conn} (hc : conn ∈ (hubGraph db).conns hub) :
      OnGrid 4 conn.dist ∧ OnGrid 1 conn.hours := by
    obtain ⟨c, -, -, rfl⟩ := mem_conns_hubGraph.1 hc
    exact ⟨c.distanceKm.onGrid, c.transitHours.onGrid⟩
  have hsum {conns : List Conn} (hall : ∀ conn ∈ conns, ∃ hub, conn ∈ (hubGraph db).conns hub) :
      OnGrid 4 (conns.map Conn.dist).sum ∧ OnGrid 1 (conns.map Conn.hours).sum := by
    constructor <;>
    · refine OnGrid.sum fun x hx => ?_
      obtain ⟨conn, hc, rfl⟩ := List.mem_map.1 hx
      obtain ⟨hub, hc⟩ := hall conn hc
      first | exact (hconn hc).1 | exact (hconn hc).2
  rcases searchAnswer_cases h with ⟨item, hitem, -, -, hd, hh, -⟩ | ⟨-, -, hd, hh, -⟩
  · obtain ⟨conns, hw, -, -, hdist, hhours⟩ := hexit.traced item hitem
    rw [hd, hh, hdist, hhours]
    exact hsum fun conn hc => hw.exists_mem_out hc
  · rw [hd, hh]
    exact hsum fun conn hc => ⟨origin, List.mem_of_mem_filter hc⟩

theorem planLane_onGrid {fuel : ℕ} {db : TmsDb} {pickupCity deliveryCity : String}
    {weightKg : Numeric 20 4} {plan : PlanDoc}
    (h : planLane fuel db pickupCity deliveryCity weightKg = some (.ok plan)) :
    OnGrid 4 plan.totalDistanceKm ∧ OnGrid 1 plan.estimatedTransitHours := by
  obtain ⟨r, segs, hr, -, rfl⟩ := planLane_eq_ok h
  obtain ⟨⟨p, -, hpair⟩, -⟩ := searchPairs_spec hr
  obtain ⟨st, hexit, -, hanswer⟩ := dijkstra_eq_some hpair
  exact searchAnswer_onGrid hexit hanswer.symm

/-! ### What a plan depends on -/

/-- A search depends on the prices only through the lane price. -/
theorem searchPairs_congr {C C' : Type*} {graph : HubGraph} {prices : PriceMap C}
    {prices' : PriceMap C'} {originCity destCity : String} {weightKg : ℚ} {fuel : ℕ}
    (h : bestPrice prices originCity destCity = bestPrice prices' originCity destCity)
    (pairs : List (String × String)) :
    searchPairs graph prices originCity destCity weightKg fuel pairs =
      searchPairs graph prices' originCity destCity weightKg fuel pairs := by
  have hcost : segCost prices originCity destCity weightKg =
      segCost prices' originCity destCity weightKg := by
    funext conn
    rw [segCost, segCost, h]
  have hrelax : relaxConn prices originCity destCity weightKg =
      relaxConn prices' originCity destCity weightKg := by
    funext node st conn
    rw [relaxConn, relaxConn, hcost]
  have hround (destination : String) :
      searchRound graph prices originCity destCity weightKg destination =
        searchRound graph prices' originCity destCity weightKg destination := by
    funext st
    rw [searchRound, searchRound, hrelax]
  have hdijkstra : dijkstra graph prices originCity destCity weightKg fuel =
      dijkstra graph prices' originCity destCity weightKg fuel := by
    funext origin destination
    rw [dijkstra, dijkstra, hround]
  rw [searchPairs, searchPairs, hdijkstra]

theorem mem_laneItems {C : Type*} [DecidableEq C] {prices : PriceMap C}
    {originCity destCity : String} {item : (String × String × C) × ℚ} :
    item ∈ laneItems prices originCity destCity ↔
      ∃ c, item.1 = (originCity, destCity, c) ∧
        prices.get? (originCity, destCity, c) = some item.2 := by
  obtain ⟨⟨o, d, c⟩, price⟩ := item
  simp only [laneItems, List.mem_filter, decide_eq_true_eq, Prod.mk.injEq]
  constructor
  · rintro ⟨hitem, rfl, rfl⟩
    exact ⟨c, ⟨rfl, rfl, rfl⟩, Dict.get?_of_mem_items hitem⟩
  · rintro ⟨c', ⟨rfl, rfl, rfl⟩, hget⟩
    exact ⟨Dict.mem_items_of_get? hget, rfl, rfl⟩

/-- The lane price depends only on the prices of the lane. -/
theorem bestPrice_congr {C : Type*} [DecidableEq C] {prices prices' : PriceMap C}
    {originCity destCity : String}
    (h : ∀ c, prices.get? (originCity, destCity, c) = prices'.get? (originCity, destCity, c)) :
    bestPrice prices originCity destCity = bestPrice prices' originCity destCity := by
  have hiff (item : (String × String × C) × ℚ) : item ∈ laneItems prices originCity destCity ↔
      item ∈ laneItems prices' originCity destCity := by
    rw [mem_laneItems, mem_laneItems]
    simp only [h]
  cases hb : bestPrice prices originCity destCity with
  | none =>
    have hnil : laneItems prices' originCity destCity = [] :=
      List.eq_nil_iff_forall_not_mem.2 fun item hitem => by
        have := (hiff item).2 hitem
        rw [bestPrice_eq_none_iff.1 hb] at this
        cases this
    exact (bestPrice_eq_none_iff.2 hnil).symm
  | some price =>
    obtain ⟨⟨item, hitem, rfl⟩, hle⟩ := bestPrice_least hb
    cases hb' : bestPrice prices' originCity destCity with
    | none =>
      have := (hiff item).1 hitem
      rw [bestPrice_eq_none_iff.1 hb'] at this
      cases this
    | some price' =>
      obtain ⟨⟨item', hitem', rfl⟩, hle'⟩ := bestPrice_least hb'
      exact congrArg some (le_antisymm (hle item' ((hiff item').2 hitem'))
        (hle' item ((hiff item).1 hitem)))

/-- The codes of the hubs of a city. -/
def hubCodes (db : TmsDb) (city : String) : List String := (listHubs db city).map TransferHub.code

/-- **A plan depends on the hub codes of its two cities, the connections and the lane price.** -/
theorem planLane_congr {db db' : TmsDb} {pickupCity deliveryCity : String}
    (hpickup : hubCodes db pickupCity = hubCodes db' pickupCity)
    (hdelivery : hubCodes db deliveryCity = hubCodes db' deliveryCity)
    (hconns : db.hubConnections = db'.hubConnections)
    (hprice : bestPrice (priceMap db) pickupCity deliveryCity =
      bestPrice (priceMap db') pickupCity deliveryCity) (fuel : ℕ) (weightKg : Numeric 20 4) :
    planLane fuel db pickupCity deliveryCity weightKg =
      planLane fuel db' pickupCity deliveryCity weightKg := by
  have hnil (db : TmsDb) (city : String) : listHubs db city = [] ↔ hubCodes db city = [] := by
    rw [hubCodes, List.map_eq_nil_iff]
  have hgraph : hubGraph db = hubGraph db' := by
    rw [hubGraph, hubGraph, listHubConnections, listHubConnections, hconns]
  have hpairs : hubPairs db pickupCity deliveryCity = hubPairs db' pickupCity deliveryCity := by
    rw [hubPairs, hubPairs, ← hubCodes, ← hubCodes, hpickup, hdelivery]
    rfl
  unfold planLane
  simp only [hnil, hpickup, hdelivery, hgraph, hpairs, searchPairs_congr hprice]

/-! ### The answer of the planner -/

theorem planOrder_mono {fuel fuel' : ℕ} (hle : fuel ≤ fuel') {db : TmsDb} {order : TransportOrder}
    {answer : Except TmsError PlanDoc} (h : planOrder fuel db order = some answer) :
    planOrder fuel' db order = some answer := by
  unfold planOrder at h ⊢
  split at h
  · split at h
    · split_ifs at h ⊢
      · exact h
      · exact planLane_mono hle h
    · exact h
  · exact h
  · exact h

theorem findBestRoutePlanImpl_mono {fuel fuel' : ℕ} (hle : fuel ≤ fuel') {db : TmsDb}
    {orderId : IdArg} {answer : Except TmsError PlanDoc}
    (h : findBestRoutePlanImpl fuel db orderId = some answer) :
    findBestRoutePlanImpl fuel' db orderId = some answer := by
  unfold findBestRoutePlanImpl at h ⊢
  split at h
  · exact h
  · split at h
    · exact h
    · exact planOrder_mono hle h

/-- The planner has one answer on a database. -/
theorem findBestRoutePlanImpl_det {fuel fuel' : ℕ} {db : TmsDb} {orderId : IdArg}
    {answer answer' : Except TmsError PlanDoc}
    (h : findBestRoutePlanImpl fuel db orderId = some answer)
    (h' : findBestRoutePlanImpl fuel' db orderId = some answer') : answer = answer' := by
  have h₁ := findBestRoutePlanImpl_mono (Nat.le_max_left fuel fuel') h
  have h₂ := findBestRoutePlanImpl_mono (Nat.le_max_right fuel fuel') h'
  exact Option.some.inj (h₁.symm.trans h₂)

/-- **The planner answers**, when nothing is negative. -/
theorem findBestRoutePlanImpl_total {db : TmsDb} (hdb : db.NonNegative) (orderId : IdArg)
    {fuel : ℕ} (hfuel : (hubGraph db).rounds < fuel) :
    ∃ answer, findBestRoutePlanImpl fuel db orderId = some answer := by
  unfold findBestRoutePlanImpl
  split
  · exact ⟨_, rfl⟩
  · split
    · exact ⟨_, rfl⟩
    · rename_i order horder
      have hmem : order ∈ db.transportOrders := List.mem_of_find?_eq_some horder
      unfold planOrder
      split
      · rename_i w _ _ hw
        split
        · split_ifs
          · exact ⟨_, rfl⟩
          · unfold planLane
            split_ifs
            · exact ⟨_, rfl⟩
            · exact ⟨_, rfl⟩
            · obtain ⟨best, hbest⟩ := searchPairs_total
                (hdb.nonnegCost _ _ (hdb.weight order hmem w hw)) hfuel (hubPairs db _ _)
              exact ⟨_, by rw [hbest, Option.map_some]⟩
        · exact ⟨_, rfl⟩
      · exact ⟨_, rfl⟩
      · exact ⟨_, rfl⟩

/-! ### A small network -/

/-- An order of 1 kg from `X` to `Y`. -/
def smallOrder : TransportOrder :=
  ⟨7, some ⟨some "X"⟩, some ⟨some "Y"⟩, some ⟨10000, by decide⟩⟩

/-- Hub `AB` in city `X`, hub `CD` in city `Y`, a connection of 10 km from `AB` to `CD`, and the
order. -/
def smallNetwork : TmsDb where
  hubs := [⟨1, "AB", "", .primary, "X", 0, .open_, 0⟩, ⟨2, "CD", "", .primary, "Y", 0, .open_, 0⟩]
  carrierRoutes := []
  hubConnections := [⟨3, "AB", "CD", ⟨100000, by decide⟩, ⟨20, by decide⟩, 0⟩]
  transportOrders := [smallOrder]
  routePlans := []
  transportSegments := []
  hubs_id_nodup := by decide
  hubs_code_nodup := by decide
  hubConnections_pair_nodup := by decide
  transportOrders_id_nodup := by decide
  routePlans_order_nodup := by decide

/-- The plan of its order: the ends of the segment are the letters of the first hub code. -/
def smallPlan : PlanDoc := ⟨"X", "Y", 10, 2, 5, [⟨0, "A", "B", 10, 2⟩]⟩

theorem smallNetwork_plan :
    findBestRoutePlanImpl 10 smallNetwork ⟨"7", some 7⟩ = some (.ok smallPlan) := by
  decide +kernel

end Tms

end OmsWmsTms
