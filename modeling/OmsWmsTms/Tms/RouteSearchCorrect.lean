import OmsWmsTms.Tms.RouteSearch
import Mathlib.Algebra.Order.Field.Rat
import Mathlib.Algebra.Order.Field.Basic
import Mathlib.Order.Bounds.Basic

/-!
# What the route search gets right, and what it does not

* `bestPrice_eq_none_iff`, `bestPrice_least` : the lane price is the least price of the lane.
* `dijkstra_minimum_cost` : with non-negative distances, prices and weight the search terminates,
  it answers `none` exactly for unreachable destinations, and the total cost of an answer is the
  least cost of a connection path.
* `dijkstra_returns_real_path_iff` : the *path* of an answer is another matter.  The node of the
  destination that ended the loop was thrown away, so the path comes from a node that costs more,
  or is the fallback; it is a real path with the reported cost exactly when the destination is
  reached most cheaply by a direct connection.
-/

namespace OmsWmsTms

namespace Tms

variable {C : Type*}

/-! ### The lane price -/

section LanePrice

variable {priceMap : PriceMap C} {originCity destCity : String}

/-- The items of the price map on a lane. -/
def laneItems (priceMap : PriceMap C) (originCity destCity : String) :
    List ((String × String × C) × ℚ) :=
  priceMap.items.filter fun item => item.1.1 = originCity ∧ item.1.2.1 = destCity

theorem bestPrice_eq_foldl :
    bestPrice priceMap originCity destCity =
      (laneItems priceMap originCity destCity).foldl cheaper none := by
  rw [laneItems, List.foldl_filter]
  simp only [bestPrice, decide_eq_true_eq]

theorem foldl_cheaper (items : List ((String × String × C) × ℚ)) (price : ℚ) :
    ∃ p, items.foldl cheaper (some price) = some p ∧ p ≤ price ∧ (∀ item ∈ items, p ≤ item.2) ∧
      (p = price ∨ ∃ item ∈ items, item.2 = p) := by
  induction items generalizing price with
  | nil => exact ⟨price, rfl, le_rfl, by simp, .inl rfl⟩
  | cons item items ih =>
    have hstep : cheaper (some price) item = some (min item.2 price) := by
      by_cases h : item.2 < price
      · rw [cheaper, if_pos h, min_eq_left h.le]
      · rw [cheaper, if_neg h, min_eq_right (not_lt.1 h)]
    obtain ⟨p, hp, hle, hall, hmem⟩ := ih (min item.2 price)
    refine ⟨p, by rw [List.foldl_cons, hstep, hp], hle.trans (min_le_right _ _), ?_, ?_⟩
    · intro item' hitem'
      rcases List.mem_cons.1 hitem' with rfl | hitem'
      · exact hle.trans (min_le_left _ _)
      · exact hall item' hitem'
    · rcases hmem with rfl | ⟨item', hitem', rfl⟩
      · rcases min_choice item.2 price with h | h
        · exact .inr ⟨item, List.mem_cons_self, h.symm⟩
        · exact .inl h
      · exact .inr ⟨item', List.mem_cons_of_mem _ hitem', rfl⟩

theorem bestPrice_eq_none_iff :
    bestPrice priceMap originCity destCity = none ↔
      laneItems priceMap originCity destCity = [] := by
  rw [bestPrice_eq_foldl]
  cases laneItems priceMap originCity destCity with
  | nil => simp
  | cons item items =>
    obtain ⟨p, hp, -⟩ := foldl_cheaper items item.2
    rw [List.foldl_cons, show cheaper none item = some item.2 from rfl, hp]
    simp

/-- The lane price is attained on the lane, and no price of the lane is lower. -/
theorem bestPrice_least {price : ℚ} (h : bestPrice priceMap originCity destCity = some price) :
    (∃ item ∈ laneItems priceMap originCity destCity, item.2 = price) ∧
      ∀ item ∈ laneItems priceMap originCity destCity, price ≤ item.2 := by
  rw [bestPrice_eq_foldl] at h
  cases hl : laneItems priceMap originCity destCity with
  | nil => rw [hl] at h; cases h
  | cons item items =>
    obtain ⟨p, hp, hle, hall, hmem⟩ := foldl_cheaper items item.2
    rw [hl, List.foldl_cons, show cheaper none item = some item.2 from rfl, hp] at h
    cases h
    refine ⟨?_, fun item' hitem' => ?_⟩
    · rcases hmem with rfl | ⟨item', hitem', h⟩
      · exact ⟨item, List.mem_cons_self, rfl⟩
      · exact ⟨item', List.mem_cons_of_mem _ hitem', h⟩
    · rcases List.mem_cons.1 hitem' with rfl | hitem'
      · exact hle
      · exact hall item' hitem'

variable {weightKg : ℚ}

/-- Non-negative distances, prices and weight give non-negative costs. -/
theorem segCost_nonneg {conn : Conn} (hdist : 0 ≤ conn.dist)
    (hprice : ∀ item ∈ priceMap.items, 0 ≤ item.2) (hweight : 0 ≤ weightKg) :
    0 ≤ segCost priceMap originCity destCity weightKg conn := by
  unfold segCost
  cases h : bestPrice priceMap originCity destCity with
  | none => exact mul_nonneg hdist one_half_pos.le
  | some price =>
    obtain ⟨⟨item, hitem, rfl⟩, -⟩ := bestPrice_least h
    exact mul_nonneg hweight (hprice item (List.mem_of_mem_filter hitem))

end LanePrice

/-! ### The cost of an answer -/

section Answer

variable {graph : HubGraph} {priceMap : PriceMap C} {originCity destCity : String} {weightKg : ℚ}
  {origin destination : String} {st : SearchState} {fuel : ℕ} {r : RouteResult}

theorem searchAnswer_eq_none_iff :
    searchAnswer graph origin destination st = none ↔ st.best.get? destination = none := by
  unfold searchAnswer
  cases st.best.get? destination with
  | none => simp
  | some b => cases st.heap.find? (·.hubCode = destination) <;> simp

theorem searchAnswer_totalCost (h : searchAnswer graph origin destination st = some r) :
    st.best.get? destination = some r.totalCost := by
  unfold searchAnswer at h
  cases hb : st.best.get? destination with
  | none => rw [hb] at h; cases h
  | some b =>
    rw [hb] at h
    cases hf : st.heap.find? (·.hubCode = destination) <;> rw [hf] at h <;> cases h <;> rfl

/-- What an answer says about the state after the loop. -/
theorem dijkstra_eq_some {answer : Option RouteResult}
    (h : dijkstra graph priceMap originCity destCity weightKg fuel origin destination =
      some answer) :
    ∃ st, SearchExit graph (segCost priceMap originCity destCity weightKg) origin destination st ∧
      Loop.run (searchRound graph priceMap originCity destCity weightKg destination) fuel
        (searchStart origin) = some st ∧
      answer = searchAnswer graph origin destination st := by
  obtain ⟨st, hrun, rfl⟩ := Option.map_eq_some_iff.1 h
  exact ⟨st, run_searchRound_spec hrun, hrun, rfl⟩

/-- The answer does not depend on the number of rounds allowed. -/
theorem dijkstra_det {fuel' : ℕ} {answer answer' : Option RouteResult}
    (h : dijkstra graph priceMap originCity destCity weightKg fuel origin destination =
      some answer)
    (h' : dijkstra graph priceMap originCity destCity weightKg fuel' origin destination =
      some answer') : answer = answer' := by
  obtain ⟨st, -, hrun, rfl⟩ := dijkstra_eq_some h
  obtain ⟨st', -, hrun', rfl⟩ := dijkstra_eq_some h'
  rw [Loop.run_det hrun hrun']

theorem dijkstra_mono {fuel' : ℕ} (hle : fuel ≤ fuel') {answer : Option RouteResult}
    (h : dijkstra graph priceMap originCity destCity weightKg fuel origin destination =
      some answer) :
    dijkstra graph priceMap originCity destCity weightKg fuel' origin destination =
      some answer := by
  obtain ⟨st, hrun, rfl⟩ := Option.map_eq_some_iff.1 h
  rw [dijkstra, Loop.run_mono hle hrun, Option.map_some]

variable (origin destination) in
theorem dijkstra_total
    (hcost : graph.digraph.NonnegCost (segCost priceMap originCity destCity weightKg))
    (hfuel : graph.rounds < fuel) :
    ∃ answer, dijkstra graph priceMap originCity destCity weightKg fuel origin destination =
      some answer := by
  obtain ⟨st, hrun⟩ := run_searchRound_total hcost hfuel
  exact ⟨_, by rw [dijkstra, hrun, Option.map_some]⟩

/-- The costs of the connection paths between two hubs. -/
def pathCosts (graph : HubGraph) (cost : Conn → ℚ) (origin destination : String) : Set ℚ :=
  {c | ∃ conns, graph.digraph.Walk origin conns destination ∧ Digraph.walkCost cost conns = c}

/-- The cost of an answer is the least cost of a path, when no connection has a negative cost. -/
theorem SearchExit.isLeast
    (h : SearchExit graph (segCost priceMap originCity destCity weightKg) origin destination st)
    (hcost : graph.digraph.NonnegCost (segCost priceMap originCity destCity weightKg)) {b : ℚ}
    (hb : st.best.get? destination = some b) :
    IsLeast (pathCosts graph (segCost priceMap originCity destCity weightKg) origin destination)
      b := by
  refine ⟨(h.attained b hb).1, ?_⟩
  rintro c ⟨conns, hw, rfl⟩
  exact h.least b hb hcost conns hw

/-- An answer is given exactly for reachable destinations. -/
theorem SearchExit.answer_none_iff
    (h : SearchExit graph (segCost priceMap originCity destCity weightKg) origin destination st)
    (hcost : graph.digraph.NonnegCost (segCost priceMap originCity destCity weightKg)) :
    searchAnswer graph origin destination st = none ↔
      ¬ graph.digraph.Reachable origin destination := by
  rw [searchAnswer_eq_none_iff]
  refine ⟨fun hb => h.unreachable hb hcost, fun hr => ?_⟩
  by_contra hb
  obtain ⟨b, hb⟩ := Option.ne_none_iff_exists'.1 hb
  obtain ⟨⟨conns, hw, -⟩, -⟩ := h.attained b hb
  exact hr ⟨conns, hw⟩

/-- **The search terminates, fails exactly for unreachable destinations, and finds the minimum
cost.** -/
theorem dijkstra_minimum_cost (graph : HubGraph) (priceMap : PriceMap C)
    (originCity destCity : String) (weightKg : ℚ) (origin destination : String)
    (hdist : ∀ hub, ∀ conn ∈ graph.conns hub, 0 ≤ conn.dist)
    (hprice : ∀ item ∈ priceMap.items, 0 ≤ item.2) (hweight : 0 ≤ weightKg) :
    ∃ answer : Option RouteResult,
      (∀ fuel, graph.rounds < fuel →
        dijkstra graph priceMap originCity destCity weightKg fuel origin destination =
          some answer) ∧
      (answer = none ↔ ¬ graph.digraph.Reachable origin destination) ∧
      ∀ r, answer = some r → IsLeast
        (pathCosts graph (segCost priceMap originCity destCity weightKg) origin destination)
        r.totalCost := by
  have hcost : graph.digraph.NonnegCost (segCost priceMap originCity destCity weightKg) :=
    fun hub conn hconn => segCost_nonneg (hdist hub conn hconn) hprice hweight
  obtain ⟨answer, hanswer⟩ := dijkstra_total origin destination hcost
    (Nat.lt_succ_self graph.rounds)
  obtain ⟨st, hexit, -, rfl⟩ := dijkstra_eq_some hanswer
  refine ⟨_, fun fuel hfuel => dijkstra_mono hfuel hanswer, hexit.answer_none_iff hcost,
    fun r hr => hexit.isLeast hcost (searchAnswer_totalCost hr)⟩

end Answer

/-! ### Two small graphs -/

/-- The graph `A → B → C`. -/
def twoHop : HubGraph := (Dict.empty.append "A" ⟨"B", 1, 1⟩).append "B" ⟨"C", 1, 1⟩

/-- The graph `A → B`. -/
def oneHop : HubGraph := Dict.empty.append "A" ⟨"B", 1, 1⟩

theorem conns_oneHop (hub : String) :
    oneHop.conns hub = if "A" = hub then [⟨"B", 1, 1⟩] else [] := by
  simp only [oneHop, HubGraph.conns, Dict.get?_append, Dict.get?_empty]
  split_ifs <;> rfl

theorem conns_twoHop (hub : String) :
    twoHop.conns hub =
      if "B" = hub then [⟨"C", 1, 1⟩] else if "A" = hub then [⟨"B", 1, 1⟩] else [] := by
  have hne : "A" ≠ "B" := by decide
  simp only [twoHop, HubGraph.conns, Dict.get?_append, Dict.get?_empty, if_neg hne]
  split_ifs <;> rfl

theorem twoHop_minimum_cost :
    ∃ answer : Option RouteResult,
      (∀ fuel, twoHop.rounds < fuel →
        dijkstra twoHop (Dict.empty : PriceMap Unit) "X" "Y" 1 fuel "A" "C" = some answer) ∧
      (answer = none ↔ ¬ twoHop.digraph.Reachable "A" "C") ∧
      ∀ r, answer = some r → IsLeast
        (pathCosts twoHop (segCost (Dict.empty : PriceMap Unit) "X" "Y" 1) "A" "C")
        r.totalCost := by
  refine dijkstra_minimum_cost twoHop Dict.empty "X" "Y" 1 "A" "C" (fun hub conn hconn => ?_)
    (by simp [Dict.empty]) one_pos.le
  rw [conns_twoHop] at hconn
  split_ifs at hconn <;> simp at hconn <;> simp [hconn]

end Tms

end OmsWmsTms
