import OmsWmsTms.Control.Loop
import OmsWmsTms.Data.Dict
import OmsWmsTms.Data.Heapq
import OmsWmsTms.Graph.BestFirst
import Mathlib.Algebra.Order.Ring.Rat

/-!
# The route search `_dijkstra`

`_dijkstra` of `src/tms/service.py`, over exact decimals.  The search keeps a `heapq` of
`_PriorityNode`s and a dictionary `best`; it never removes an outdated node from the heap, and it
stops when a node of the destination is popped.  The popped node is thrown away: the path of the
answer is read off a node of the destination still in the heap, or else made up of the origin and
the destination.

* `dijkstra` : the function, with a bound on the rounds of its `while` loop (`none` when the bound
  is reached).
* `SearchState.search` : the state of the loop as a state of best-first search, on the graph
  `HubGraph.digraph`.
* `search_relaxConn` : following a connection is following an edge of the abstract search.
* `SearchInv` : the invariant of the loop; `SearchExit` : what holds when it is left.
* `run_searchRound_spec`, `run_searchRound_total` : the loop keeps the invariant, and with
  non-negative costs it is left.
-/

namespace OmsWmsTms

namespace Tms

/-- A connection of the hub graph, `(next_hub, dist, hours)`. -/
structure Conn where
  /-- The hub it leads to. -/
  next : String
  /-- Its distance. -/
  dist : ℚ
  /-- Its transit hours. -/
  hours : ℚ
deriving DecidableEq

/-- `dict[str, list[tuple[str, Decimal, Decimal]]]`: the connections that leave each hub. -/
abbrev HubGraph := Dict String (List Conn)

/-- Prices per kilogram by origin city, destination city and carrier `C`. -/
abbrev PriceMap (C : Type*) := Dict (String × String × C) ℚ

/-- An entry of the priority queue; only the priority is compared. -/
structure PriorityNode where
  /-- The cost of the path. -/
  priority : ℚ
  /-- The hub it reaches. -/
  hubCode : String
  /-- The hubs on the way, the origin first. -/
  path : List String
  /-- The distance of the path. -/
  totalDistance : ℚ
  /-- The hours of the path. -/
  totalHours : ℚ

/-- What `_dijkstra` returns. -/
structure RouteResult where
  /-- The hub path. -/
  path : List String
  /-- The distance reported for it. -/
  totalDistance : ℚ
  /-- The hours reported for it. -/
  totalHours : ℚ
  /-- The cost reported for it. -/
  totalCost : ℚ
  /-- The distances of its segments. -/
  segDistances : List ℚ
  /-- The hours of its segments. -/
  segHours : List ℚ
deriving DecidableEq

/-- The local variables of the loop. -/
structure SearchState where
  /-- The priority queue. -/
  heap : List PriorityNode
  /-- The best cost so far, by hub. -/
  best : Dict String ℚ

/-! ### The function -/

/-- `graph.get(hub, [])`. -/
def HubGraph.conns (graph : HubGraph) (hub : String) : List Conn := (graph.get? hub).getD []

section Search

variable {C : Type*} (graph : HubGraph) (priceMap : PriceMap C) (originCity destCity : String)
  (weightKg : ℚ)

/-- `if best_price is None or price < best_price: best_price = price`. -/
def cheaper (bestPrice : Option ℚ) (item : (String × String × C) × ℚ) : Option ℚ :=
  match bestPrice with
  | none => some item.2
  | some price => if item.2 < price then some item.2 else some price

/-- The least price of the lane from the origin city to the destination city, over all carriers. -/
def bestPrice : Option ℚ :=
  priceMap.items.foldl (fun bestPrice item =>
    if item.1.1 = originCity ∧ item.1.2.1 = destCity then cheaper bestPrice item
    else bestPrice) none

/-- The cost of a connection: the lane price of the whole shipment if the lane has a price, and
half of the distance otherwise. -/
def segCost (conn : Conn) : ℚ :=
  match bestPrice priceMap originCity destCity with
  | some price => weightKg * price
  | none => conn.dist * (1 / 2)

/-- Follow one connection from a popped node. -/
def relaxConn (node : PriorityNode) (st : SearchState) (conn : Conn) : SearchState :=
  let newCost := node.priority + segCost priceMap originCity destCity weightKg conn
  -- `new_cost < best.get(next_hub, inf)`
  if (st.best.get? conn.next).all (newCost < ·) then
    { heap := Heapq.heappush PriorityNode.priority st.heap
        { priority := newCost
          hubCode := conn.next
          path := node.path ++ [conn.next]
          totalDistance := node.totalDistance + conn.dist
          totalHours := node.totalHours + conn.hours }
      best := st.best.set conn.next newCost }
  else st

/-- One round of the `while` loop: it leaves the loop when the heap is empty or a node of the
destination is popped, and skips a node above the best cost of its hub. -/
def searchRound (destination : String) (st : SearchState) : SearchState ⊕ SearchState :=
  match Heapq.heappop PriorityNode.priority st.heap with
  | none => .inr st
  | some (node, heap) =>
    if node.hubCode = destination then .inr { st with heap }
    else if (st.best.get? node.hubCode).any (· < node.priority) then .inl { st with heap }
    else .inl ((graph.conns node.hubCode).foldl
      (relaxConn priceMap originCity destCity weightKg node) { st with heap })

/-- The state before the loop: the origin at cost zero. -/
def searchStart (origin : String) : SearchState where
  heap := [⟨0, origin, [origin], 0, 0⟩]
  best := Dict.empty.set origin 0

/-- The connections that join consecutive hubs of a path. -/
def pathConns : List String → List Conn
  | hub :: next :: path =>
    (graph.conns hub).filter (·.next = next) ++ pathConns (next :: path)
  | _ => []

/-- The answer, from the state after the loop. -/
def searchAnswer (origin destination : String) (st : SearchState) : Option RouteResult :=
  match st.best.get? destination with
  | none => none
  | some totalCost =>
    match st.heap.find? (·.hubCode = destination) with
    | some item =>
      some { path := item.path
             totalDistance := item.totalDistance
             totalHours := item.totalHours
             totalCost := totalCost
             segDistances := (pathConns graph item.path).map Conn.dist
             segHours := (pathConns graph item.path).map Conn.hours }
    | none =>
      -- the fallback: the direct path, whether or not there is a connection
      let direct := (graph.conns origin).filter (·.next = destination)
      some { path := [origin, destination]
             totalDistance := (direct.map Conn.dist).sum
             totalHours := (direct.map Conn.hours).sum
             totalCost := totalCost
             segDistances := [(direct.map Conn.dist).sum]
             segHours := [(direct.map Conn.hours).sum] }

/-- `_dijkstra`, with at most `fuel` rounds of its loop. -/
def dijkstra (fuel : ℕ) (origin destination : String) : Option (Option RouteResult) :=
  (Loop.run (searchRound graph priceMap originCity destCity weightKg destination) fuel
    (searchStart origin)).map (searchAnswer graph origin destination)

end Search

/-! ### The loop as a best-first search -/

/-- The hub graph as a directed multigraph. -/
def HubGraph.digraph (graph : HubGraph) : Digraph String Conn := ⟨graph.conns, Conn.next⟩

/-- The state of the loop as a state of best-first search. -/
def SearchState.search (st : SearchState) : BestFirst.Search String ℚ where
  frontier := (st.heap.map fun node => (node.priority, node.hubCode) : List (ℚ × String))
  best hub := (st.best.get? hub).elim ⊤ (fun b => (b : WithTop ℚ))

theorem all_lt_iff {x : ℚ} {b : Option ℚ} :
    b.all (x < ·) = true ↔ (x : WithTop ℚ) < b.elim ⊤ (fun b => (b : WithTop ℚ)) := by
  cases b <;> simp

theorem any_lt_iff {x : ℚ} {b : Option ℚ} :
    b.any (· < x) = true ↔ b.elim ⊤ (fun b => (b : WithTop ℚ)) < (x : WithTop ℚ) := by
  cases b <;> simp

theorem search_best_eq_coe {st : SearchState} {hub : String} {b : ℚ} :
    st.search.best hub = b ↔ st.best.get? hub = some b := by
  simp only [SearchState.search]
  cases h : st.best.get? hub <;> simp

theorem search_best_eq_top {st : SearchState} {hub : String} :
    st.search.best hub = ⊤ ↔ st.best.get? hub = none := by
  simp only [SearchState.search]
  cases h : st.best.get? hub <;> simp

theorem mem_search_frontier {st : SearchState} {node : PriorityNode} (h : node ∈ st.heap) :
    (node.priority, node.hubCode) ∈ st.search.frontier :=
  Multiset.mem_coe.2 (List.mem_map_of_mem h)

section Invariant

variable {C : Type*} {graph : HubGraph} {priceMap : PriceMap C} {originCity destCity : String}
  {weightKg : ℚ} {origin destination : String} {st : SearchState} {S : Finset String}

variable (priceMap originCity destCity weightKg) in
/-- Following a connection is following an edge of the abstract search. -/
theorem search_relaxConn (graph : HubGraph) (node : PriorityNode) (st : SearchState)
    (conn : Conn) :
    (relaxConn priceMap originCity destCity weightKg node st conn).search =
      BestFirst.relax graph.digraph (segCost priceMap originCity destCity weightKg) node.priority
        st.search conn := by
  have hiff : (st.best.get? conn.next).all
      (node.priority + segCost priceMap originCity destCity weightKg conn < ·) = true ↔
      ((node.priority + segCost priceMap originCity destCity weightKg conn : ℚ) : WithTop ℚ) <
        st.search.best (graph.digraph.head conn) := all_lt_iff
  unfold relaxConn BestFirst.relax
  by_cases h : (st.best.get? conn.next).all
      (node.priority + segCost priceMap originCity destCity weightKg conn < ·) = true
  · rw [if_pos h, if_pos (hiff.1 h)]
    simp only [SearchState.search, BestFirst.Search.mk.injEq]
    constructor
    · exact Multiset.coe_eq_coe.2 ((Heapq.heappush_perm _ _ _).map _)
    · funext hub
      by_cases hh : hub = conn.next
      · subst hh; simp [HubGraph.digraph]
      · simp [HubGraph.digraph, hh, Ne.symm hh]
  · rw [if_neg h, if_neg (fun hlt => h (hiff.2 hlt))]

variable (graph) in
theorem search_foldl_relaxConn (node : PriorityNode) (conns : List Conn) (st : SearchState) :
    (conns.foldl (relaxConn priceMap originCity destCity weightKg node) st).search =
      conns.foldl (BestFirst.relax graph.digraph
        (segCost priceMap originCity destCity weightKg) node.priority) st.search := by
  induction conns generalizing st with
  | nil => rfl
  | cons conn conns ih => rw [List.foldl_cons, ih, search_relaxConn _ _ _ _ graph]; rfl

/-- The path, distance, hours and priority of a node are those of a walk from the origin. -/
def Traced (graph : HubGraph) (cost : Conn → ℚ) (origin : String) (node : PriorityNode) : Prop :=
  ∃ conns, graph.digraph.Walk origin conns node.hubCode ∧
    node.path = graph.digraph.vertices origin conns ∧
    node.priority = Digraph.walkCost cost conns ∧
    node.totalDistance = (conns.map Conn.dist).sum ∧ node.totalHours = (conns.map Conn.hours).sum

/-- The invariant of the loop, once the hubs `S` have been expanded. -/
structure SearchInv (graph : HubGraph) (cost : Conn → ℚ) (origin destination : String)
    (st : SearchState) (S : Finset String) : Prop where
  heap : Heapq.IsHeap PriorityNode.priority st.heap
  traced : ∀ node ∈ st.heap, Traced graph cost origin node
  labels : BestFirst.Labels graph.digraph cost origin destination st.search S
  ordered : graph.digraph.NonnegCost cost → BestFirst.Ordered graph.digraph cost origin st.search S

/-- What holds when the loop is left. -/
structure SearchExit (graph : HubGraph) (cost : Conn → ℚ) (origin destination : String)
    (st : SearchState) : Prop where
  traced : ∀ node ∈ st.heap, Traced graph cost origin node
  /-- Without a best cost the destination is unreachable. -/
  unreachable : st.best.get? destination = none → graph.digraph.NonnegCost cost →
    ¬ graph.digraph.Reachable origin destination
  /-- A best cost is the cost of a walk, and nodes left for the destination are above it. -/
  attained : ∀ b, st.best.get? destination = some b →
    (∃ conns, graph.digraph.Walk origin conns destination ∧ Digraph.walkCost cost conns = b) ∧
    ∀ node ∈ st.heap, node.hubCode = destination → b < node.priority
  /-- No walk is cheaper. -/
  least : ∀ b, st.best.get? destination = some b → graph.digraph.NonnegCost cost →
    ∀ conns, graph.digraph.Walk origin conns destination → b ≤ Digraph.walkCost cost conns

theorem Traced.relaxConn {cost : Conn → ℚ} {node : PriorityNode}
    (h : Traced graph cost origin node) {conn : Conn} (hconn : conn ∈ graph.conns node.hubCode) :
    Traced graph cost origin ⟨node.priority + cost conn, conn.next, node.path ++ [conn.next],
      node.totalDistance + conn.dist, node.totalHours + conn.hours⟩ := by
  obtain ⟨conns, hw, hpath, hcost, hdist, hhours⟩ := h
  refine ⟨conns ++ [conn], hw.snoc hconn, ?_, ?_, ?_, ?_⟩
  · rw [Digraph.vertices_snoc, ← hpath]; rfl
  · rw [Digraph.walkCost_snoc, ← hcost]
  · simp [hdist]
  · simp [hhours]

variable (priceMap originCity destCity weightKg) in
/-- Following a connection leaves the heap as it is or pushes one node. -/
theorem relaxConn_heap (node : PriorityNode) (st : SearchState) (conn : Conn) :
    (relaxConn priceMap originCity destCity weightKg node st conn).heap = st.heap ∨
    (relaxConn priceMap originCity destCity weightKg node st conn).heap =
      Heapq.heappush PriorityNode.priority st.heap
        ⟨node.priority + segCost priceMap originCity destCity weightKg conn, conn.next,
          node.path ++ [conn.next], node.totalDistance + conn.dist,
          node.totalHours + conn.hours⟩ := by
  simp only [relaxConn]
  split
  · exact .inr rfl
  · exact .inl rfl

/-- Following connections keeps the heap order and the traces. -/
theorem foldl_relaxConn_heap {node : PriorityNode}
    (hnode : Traced graph (segCost priceMap originCity destCity weightKg) origin node)
    (st : SearchState) {conns : List Conn}
    (hconns : ∀ conn ∈ conns, conn ∈ graph.conns node.hubCode)
    (hheap : Heapq.IsHeap PriorityNode.priority st.heap)
    (htraced : ∀ n ∈ st.heap,
      Traced graph (segCost priceMap originCity destCity weightKg) origin n) :
    Heapq.IsHeap PriorityNode.priority
        (conns.foldl (relaxConn priceMap originCity destCity weightKg node) st).heap ∧
      ∀ n ∈ (conns.foldl (relaxConn priceMap originCity destCity weightKg node) st).heap,
        Traced graph (segCost priceMap originCity destCity weightKg) origin n := by
  induction conns generalizing st with
  | nil => exact ⟨hheap, htraced⟩
  | cons conn conns ih =>
    have hconn := hnode.relaxConn (hconns conn List.mem_cons_self)
    have hrest : ∀ c ∈ conns, c ∈ graph.conns node.hubCode := fun c hc =>
      hconns c (List.mem_cons_of_mem _ hc)
    rw [List.foldl_cons]
    rcases relaxConn_heap priceMap originCity destCity weightKg node st conn with h | h
    · exact ih _ hrest (h ▸ hheap) (h ▸ htraced)
    · refine ih _ hrest (h ▸ Heapq.isHeap_heappush hheap _) fun n hn => ?_
      rw [h] at hn
      rcases List.mem_cons.1 ((Heapq.heappush_perm _ _ _).mem_iff.1 hn) with rfl | hn
      · exact hconn
      · exact htraced n hn

variable (graph priceMap originCity destCity weightKg) in
/-- What a round does: the heap is empty and the loop is left, or a least node is popped, which is
one of the destination and ends the loop, or is outdated and dropped, or is expanded. -/
theorem searchRound_cases (destination : String) (st : SearchState) :
    (st.heap = [] ∧
      searchRound graph priceMap originCity destCity weightKg destination st = .inr st) ∨
    ∃ node heap, Heapq.heappop PriorityNode.priority st.heap = some (node, heap) ∧
      ((node.hubCode = destination ∧
          searchRound graph priceMap originCity destCity weightKg destination st =
            .inr { st with heap }) ∨
        (node.hubCode ≠ destination ∧ st.search.best node.hubCode < (node.priority : WithTop ℚ) ∧
          searchRound graph priceMap originCity destCity weightKg destination st =
            .inl { st with heap }) ∨
        (node.hubCode ≠ destination ∧
          ¬ st.search.best node.hubCode < (node.priority : WithTop ℚ) ∧
          searchRound graph priceMap originCity destCity weightKg destination st =
            .inl ((graph.conns node.hubCode).foldl
              (relaxConn priceMap originCity destCity weightKg node) { st with heap }))) := by
  cases hpop : Heapq.heappop PriorityNode.priority st.heap with
  | none =>
    exact .inl ⟨(Heapq.heappop_eq_none_iff _).1 hpop, by simp only [searchRound, hpop]⟩
  | some p =>
    obtain ⟨node, heap⟩ := p
    refine .inr ⟨node, heap, rfl, ?_⟩
    simp only [searchRound, hpop]
    by_cases hd : node.hubCode = destination
    · exact .inl ⟨hd, if_pos hd⟩
    · rw [if_neg hd]
      by_cases hlt : (st.best.get? node.hubCode).any (· < node.priority) = true
      · exact .inr (.inl ⟨hd, any_lt_iff.1 hlt, if_pos hlt⟩)
      · exact .inr (.inr ⟨hd, fun h => hlt (any_lt_iff.2 h), if_neg hlt⟩)

/-- The state before the loop satisfies the invariant. -/
theorem searchInv_start (graph : HubGraph) (cost : Conn → ℚ) (origin destination : String) :
    SearchInv graph cost origin destination (searchStart origin) ∅ := by
  have hsearch : (searchStart origin).search = BestFirst.start origin := by
    simp only [searchStart, SearchState.search, BestFirst.start, BestFirst.Search.mk.injEq]
    refine ⟨rfl, funext fun hub => ?_⟩
    by_cases h : hub = origin
    · subst h; simp
    · simp [h, Ne.symm h]
  refine ⟨Heapq.isHeap_singleton _, fun node hnode => ?_, ?_, fun _ => ?_⟩
  · obtain rfl := List.mem_singleton.1 hnode
    exact ⟨[], .nil _, rfl, rfl, rfl, rfl⟩
  · rw [hsearch]; exact BestFirst.labels_start _ _
  · rw [hsearch]; exact BestFirst.ordered_start _

namespace SearchInv

variable {cost : Conn → ℚ} {node : PriorityNode} {heap : List PriorityNode}

/-- The popped node in the abstract frontier. -/
theorem frontier_eq (hpop : Heapq.heappop PriorityNode.priority st.heap = some (node, heap)) :
    st.search.frontier =
      (node.priority, node.hubCode) ::ₘ (SearchState.search { st with heap }).frontier :=
  Multiset.coe_eq_coe.2 ((Heapq.heappop_perm _ hpop).map _)

theorem least (h : SearchInv graph cost origin destination st S)
    (hpop : Heapq.heappop PriorityNode.priority st.heap = some (node, heap)) :
    ∀ p ∈ st.search.frontier, node.priority ≤ p.1 := by
  intro p hp
  obtain ⟨n, hn, rfl⟩ := List.mem_map.1 (Multiset.mem_coe.1 hp)
  exact Heapq.heappop_le h.heap hpop n hn

theorem traced_node (h : SearchInv graph cost origin destination st S)
    (hpop : Heapq.heappop PriorityNode.priority st.heap = some (node, heap)) :
    Traced graph cost origin node ∧ ∀ n ∈ heap, Traced graph cost origin n := by
  have hperm := Heapq.heappop_perm _ hpop
  exact ⟨h.traced node (hperm.mem_iff.2 List.mem_cons_self), fun n hn =>
    h.traced n (hperm.mem_iff.2 (List.mem_cons_of_mem _ hn))⟩

/-- Dropping an outdated node keeps the invariant. -/
theorem drop (h : SearchInv graph cost origin destination st S)
    (hpop : Heapq.heappop PriorityNode.priority st.heap = some (node, heap))
    (hlt : st.search.best node.hubCode < (node.priority : WithTop ℚ)) :
    SearchInv graph cost origin destination { st with heap } S where
  heap := Heapq.isHeap_heappop h.heap hpop
  traced := (h.traced_node hpop).2
  labels := h.labels.drop (frontier_eq hpop) hlt
  ordered hcost := (h.ordered hcost).drop (frontier_eq hpop)

/-- Expanding a node keeps the invariant. -/
theorem expand (h : SearchInv graph (segCost priceMap originCity destCity weightKg) origin
      destination st S)
    (hpop : Heapq.heappop PriorityNode.priority st.heap = some (node, heap))
    (hd : node.hubCode ≠ destination)
    (hlt : ¬ st.search.best node.hubCode < (node.priority : WithTop ℚ)) :
    SearchInv graph (segCost priceMap originCity destCity weightKg) origin destination
      ((graph.conns node.hubCode).foldl (relaxConn priceMap originCity destCity weightKg node)
        { st with heap }) (insert node.hubCode S) := by
  obtain ⟨hheap, htraced⟩ := foldl_relaxConn_heap (h.traced_node hpop).1 { st with heap }
    (fun _ hc => hc) (Heapq.isHeap_heappop h.heap hpop) (h.traced_node hpop).2
  refine ⟨hheap, htraced, ?_, fun hcost => ?_⟩
  · rw [search_foldl_relaxConn graph]
    exact h.labels.expanded (frontier_eq hpop) hlt hd
  · rw [search_foldl_relaxConn graph]
    exact (h.ordered hcost).expanded h.labels hcost (frontier_eq hpop) (h.least hpop) hlt hd

/-- Leaving the loop with an empty heap. -/
theorem exit_nil (h : SearchInv graph cost origin destination st S) (hnil : st.heap = []) :
    SearchExit graph cost origin destination st := by
  have hf : st.search.frontier = 0 := by rw [SearchState.search, hnil]; rfl
  have htop : st.best.get? destination = none := search_best_eq_top.1 (h.labels.best_top hf)
  refine ⟨h.traced, fun _ hcost => (h.ordered hcost).not_reachable h.labels hcost hf,
    fun b hb => ?_, fun b hb => ?_⟩ <;>
  · rw [htop] at hb; cases hb

/-- Leaving the loop with a node of the destination. -/
theorem exit_pop (h : SearchInv graph cost origin destination st S)
    (hpop : Heapq.heappop PriorityNode.priority st.heap = some (node, heap))
    (hd : node.hubCode = destination) :
    SearchExit graph cost origin destination { st with heap } := by
  subst hd
  obtain ⟨hbest, habove⟩ := h.labels.best_eq_of_least (frontier_eq hpop) (h.least hpop)
  have hget : st.best.get? node.hubCode = some node.priority := search_best_eq_coe.1 hbest
  refine ⟨(h.traced_node hpop).2, fun hb => ?_, fun b hb => ⟨?_, fun n hn hnd => ?_⟩,
    fun b hb hcost conns hw => ?_⟩
  · rw [hget] at hb; cases hb
  · exact h.labels.sound _ _ (search_best_eq_coe.2 hb)
  · obtain rfl : node.priority = b := Option.some.inj (hget.symm.trans hb)
    have hmem : (n.priority, n.hubCode) ∈ (SearchState.search { st with heap }).frontier :=
      mem_search_frontier hn
    rw [hnd] at hmem
    exact habove _ hmem
  · obtain rfl : node.priority = b := Option.some.inj (hget.symm.trans hb)
    exact (h.ordered hcost).le_walkCost h.labels hcost (h.least hpop) hw

end SearchInv

/-- **The loop keeps its invariant until it is left.** -/
theorem run_searchRound_spec {fuel : ℕ} {st : SearchState}
    (h : Loop.run (searchRound graph priceMap originCity destCity weightKg destination) fuel
      (searchStart origin) = some st) :
    SearchExit graph (segCost priceMap originCity destCity weightKg) origin destination st := by
  refine Loop.run_rule (I := fun st => ∃ S, SearchInv graph
    (segCost priceMap originCity destCity weightKg) origin destination st S) ?_ ?_
    ⟨∅, searchInv_start _ _ _ _⟩ h
  · rintro st st' ⟨S, hI⟩ hround
    rcases searchRound_cases graph priceMap originCity destCity weightKg destination st with
      ⟨-, h'⟩ | ⟨node, heap, hpop, ⟨-, h'⟩ | ⟨-, hlt, h'⟩ | ⟨hd, hlt, h'⟩⟩ <;>
      rw [h'] at hround <;> cases hround
    · exact ⟨S, hI.drop hpop hlt⟩
    · exact ⟨_, hI.expand hpop hd hlt⟩
  · rintro st st' ⟨S, hI⟩ hround
    rcases searchRound_cases graph priceMap originCity destCity weightKg destination st with
      ⟨hnil, h'⟩ | ⟨node, heap, hpop, ⟨hd, h'⟩ | ⟨-, hlt, h'⟩ | ⟨hd, hlt, h'⟩⟩ <;>
      rw [h'] at hround <;> cases hround
    · exact hI.exit_nil hnil
    · exact hI.exit_pop hpop hd

/-- The hubs with outgoing connections. -/
def HubGraph.hubs (graph : HubGraph) : Finset String := graph.keys.toFinset

theorem HubGraph.conns_eq_nil {hub : String} (h : hub ∉ graph.hubs) : graph.conns hub = [] := by
  have hnone : graph.get? hub = none :=
    Dict.get?_eq_none_iff.2 fun hm => h (List.mem_toFinset.2 hm)
  rw [HubGraph.conns, hnone, Option.getD_none]

/-- The rounds that a search may take: one for every connection, and one for the origin. -/
def HubGraph.rounds (graph : HubGraph) : ℕ :=
  ∑ hub ∈ graph.hubs, (graph.conns hub).length + 1

/-- **With non-negative costs the loop is left.** -/
theorem run_searchRound_total
    (hcost : graph.digraph.NonnegCost (segCost priceMap originCity destCity weightKg)) {fuel : ℕ}
    (hfuel : graph.rounds < fuel) :
    ∃ st, Loop.run (searchRound graph priceMap originCity destCity weightKg destination) fuel
      (searchStart origin) = some st := by
  refine Loop.run_total (I := fun n st => ∃ S, SearchInv graph
    (segCost priceMap originCity destCity weightKg) origin destination st S ∧
    BestFirst.workLeft graph.digraph graph.hubs st.search S = n) ?_
    ⟨∅, searchInv_start _ _ _ _, rfl⟩ ?_
  · rintro n st st' ⟨S, hI, rfl⟩ hround
    rcases searchRound_cases graph priceMap originCity destCity weightKg destination st with
      ⟨-, h'⟩ | ⟨node, heap, hpop, ⟨-, h'⟩ | ⟨-, hlt, h'⟩ | ⟨hd, hlt, h'⟩⟩ <;>
      rw [h'] at hround <;> cases hround
    · exact ⟨_, BestFirst.workLeft_drop _ (SearchInv.frontier_eq hpop), S, hI.drop hpop hlt, rfl⟩
    · refine ⟨_, ?_, _, hI.expand hpop hd hlt, rfl⟩
      rw [search_foldl_relaxConn graph]
      exact (hI.ordered hcost).workLeft_expand (fun _ => HubGraph.conns_eq_nil) hI.labels
        (SearchInv.frontier_eq hpop) hlt
  · refine lt_of_eq_of_lt ?_ hfuel
    simp only [BestFirst.workLeft, Finset.sdiff_empty, HubGraph.rounds]
    exact add_comm _ _

end Invariant

end Tms

end OmsWmsTms
