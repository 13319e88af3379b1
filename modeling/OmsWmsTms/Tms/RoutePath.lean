import OmsWmsTms.Tms.RouteSearchCorrect

/-!
# The path of a route search

The node of the destination that ends the search is popped and thrown away.  The path of the
answer is then read off another node of the destination that is still in the heap, whose path
costs more than the answer says, or, when there is none, it is the pair of the origin and the
destination, connected or not.

* `IsRealPath` : the path of an answer is a path of connections with the reported sums.
* `DirectCheapest` : a direct connection is a cheapest path.
* `dijkstra_path_isRealPath_iff` : the first holds when the second does, and, without negative
  costs, only then.
* `Reportable` : the paths, in terms of the graph, that the search can report.
* `dijkstra_reportable` : without negative costs the path of an answer is one of them.
* `sum_segments` : for any answer the reported segments add up to the reported distance and hours.
-/

namespace OmsWmsTms

namespace Tms

variable {C : Type*} {graph : HubGraph} {priceMap : PriceMap C} {originCity destCity : String}
  {weightKg : ℚ} {origin destination : String} {st : SearchState} {fuel : ℕ} {r : RouteResult}
  {cost : Conn → ℚ}

/-- At most one connection for each ordered pair of hubs. -/
def HubGraph.UniquePairs (graph : HubGraph) : Prop :=
  ∀ hub, ((graph.conns hub).map Conn.next).Nodup

/-- The hub path of an answer leads from the origin to the destination along connections, the
answer has one segment for each of them, and its totals are their sums. -/
def IsRealPath (graph : HubGraph) (cost : Conn → ℚ) (origin destination : String)
    (r : RouteResult) : Prop :=
  ∃ conns, graph.digraph.Walk origin conns destination ∧
    r.path = graph.digraph.vertices origin conns ∧
    r.segDistances.length = conns.length ∧ r.segHours.length = conns.length ∧
    r.totalCost = Digraph.walkCost cost conns ∧
    r.totalDistance = (conns.map Conn.dist).sum ∧ r.totalHours = (conns.map Conn.hours).sum

/-- A direct connection from the origin to the destination that no path undercuts (and that costs
nothing when it leads from a hub to itself). -/
def DirectCheapest (graph : HubGraph) (cost : Conn → ℚ) (origin destination : String) : Prop :=
  ∃ conn ∈ graph.conns origin, conn.next = destination ∧
    (∀ conns, graph.digraph.Walk origin conns destination →
      cost conn ≤ Digraph.walkCost cost conns) ∧
    (origin = destination → 0 ≤ cost conn)

/-! ### Graphs with one connection for a pair -/

theorem HubGraph.UniquePairs.eq_of_next (h : graph.UniquePairs) {hub : String} {conn conn' : Conn}
    (hc : conn ∈ graph.conns hub) (hc' : conn' ∈ graph.conns hub)
    (hn : conn.next = conn'.next) : conn = conn' :=
  List.inj_on_of_nodup_map (h hub) hc hc' hn

theorem HubGraph.UniquePairs.simple (h : graph.UniquePairs) : graph.digraph.Simple :=
  fun _ _ he _ he' hn => h.eq_of_next he he' hn

/-- The connections to the next hub are one connection. -/
theorem HubGraph.UniquePairs.filter_eq (h : graph.UniquePairs) {hub : String} {conn : Conn}
    (hc : conn ∈ graph.conns hub) : (graph.conns hub).filter (·.next = conn.next) = [conn] := by
  have hfilter : (graph.conns hub).filter (·.next = conn.next) =
      (graph.conns hub).filter (· == conn) :=
    List.filter_congr fun conn' hc' => by
      rw [Bool.eq_iff_iff, decide_eq_true_eq, beq_iff_eq]
      exact ⟨fun hn => h.eq_of_next hc' hc hn, fun heq => heq ▸ rfl⟩
  rw [hfilter, List.filter_beq, (h hub).of_map.count, if_pos hc]
  rfl

/-- The segments that the answer collects for the path of a walk are those of the walk. -/
theorem pathConns_vertices (h : graph.UniquePairs) {conns : List Conn} {hub : String}
    (hw : graph.digraph.Walk origin conns hub) :
    pathConns graph (graph.digraph.vertices origin conns) = conns := by
  induction hw with
  | nil => rfl
  | @cons hub _ conn conns hc _ ih =>
    have hfilter : (graph.conns hub).filter (·.next = conn.next) = [conn] := h.filter_eq hc
    have hpath : pathConns graph (graph.digraph.vertices hub (conn :: conns)) =
        (graph.conns hub).filter (·.next = conn.next) ++
          pathConns graph (graph.digraph.vertices conn.next conns) := rfl
    rw [hpath, hfilter]
    exact congrArg (conn :: ·) ih

/-! ### The two kinds of answer -/

/-- An answer is read off a node left in the heap, or is the fallback. -/
theorem searchAnswer_cases (h : searchAnswer graph origin destination st = some r) :
    (∃ item ∈ st.heap, item.hubCode = destination ∧ r.path = item.path ∧
      r.totalDistance = item.totalDistance ∧ r.totalHours = item.totalHours ∧
      r.segDistances = (pathConns graph item.path).map Conn.dist ∧
      r.segHours = (pathConns graph item.path).map Conn.hours) ∨
    ((∀ item ∈ st.heap, item.hubCode ≠ destination) ∧ r.path = [origin, destination] ∧
      r.totalDistance =
        (((graph.conns origin).filter (·.next = destination)).map Conn.dist).sum ∧
      r.totalHours =
        (((graph.conns origin).filter (·.next = destination)).map Conn.hours).sum ∧
      r.segDistances = [r.totalDistance] ∧ r.segHours = [r.totalHours]) := by
  unfold searchAnswer at h
  cases hb : st.best.get? destination with
  | none => rw [hb] at h; cases h
  | some b =>
    rw [hb] at h
    cases hf : st.heap.find? (·.hubCode = destination) with
    | some item =>
      rw [hf] at h
      cases h
      exact .inl ⟨item, List.mem_of_find?_eq_some hf, by simpa using List.find?_some hf,
        rfl, rfl, rfl, rfl, rfl⟩
    | none =>
      rw [hf] at h
      cases h
      exact .inr ⟨by simpa using List.find?_eq_none.1 hf, rfl, rfl, rfl, rfl, rfl⟩

/-- **The segments of an answer add up to its totals.** -/
theorem sum_segments (huniq : graph.UniquePairs)
    (hexit : SearchExit graph cost origin destination st)
    (h : searchAnswer graph origin destination st = some r) :
    r.segDistances.sum = r.totalDistance ∧ r.segHours.sum = r.totalHours ∧
      r.path.length = r.segDistances.length + 1 ∧ r.path.length = r.segHours.length + 1 := by
  rcases searchAnswer_cases h with
    ⟨item, hitem, -, hpath, hdist, hhours, hsd, hsh⟩ | ⟨-, hpath, -, -, hsd, hsh⟩
  · obtain ⟨conns, hw, hvert, -, hd, hh⟩ := hexit.traced item hitem
    have hconns : pathConns graph item.path = conns := hvert ▸ pathConns_vertices huniq hw
    rw [hsd, hsh, hpath, hdist, hhours, hconns, hd, hh]
    simp [hvert]
  · rw [hsd, hsh, hpath]
    simp

/-- A node left in the heap does not carry a real path with the reported cost: it costs more. -/
theorem not_isRealPath_of_mem_heap (huniq : graph.UniquePairs)
    (hexit : SearchExit graph cost origin destination st) {b : ℚ}
    (hb : st.best.get? destination = some b) (hcost : r.totalCost = b) {item : PriorityNode}
    (hitem : item ∈ st.heap) (hhub : item.hubCode = destination) (hpath : r.path = item.path) :
    ¬ IsRealPath graph cost origin destination r := by
  rintro ⟨conns, hw, hvert, -, -, hc, -⟩
  obtain ⟨conns', hw', hvert', hc', -⟩ := hexit.traced item hitem
  have hconns : conns = conns' :=
    huniq.simple.walk_unique hw hw' (by rw [← hvert, hpath, hvert'])
  have hlt := (hexit.attained b hb).2 item hitem hhub
  rw [hc', ← hconns, ← hc, hcost] at hlt
  exact absurd hlt (lt_irrefl b)

/-! ### A direct connection that is cheapest -/

/-- The first round: the origin is popped. -/
theorem searchRound_start (hne : origin ≠ destination) :
    searchRound graph priceMap originCity destCity weightKg destination (searchStart origin) =
      .inl ((graph.conns origin).foldl
        (relaxConn priceMap originCity destCity weightKg ⟨0, origin, [origin], 0, 0⟩)
        { searchStart origin with heap := [] }) := by
  have hget : (searchStart origin).best.get? origin = some 0 := by simp [searchStart]
  have hpop : Heapq.heappop PriorityNode.priority (searchStart origin).heap =
      some (⟨0, origin, [origin], 0, 0⟩, []) := rfl
  simp only [searchRound, hpop]
  rw [if_neg hne, if_neg (by simp [hget])]

theorem searchRound_start_self :
    searchRound graph priceMap originCity destCity weightKg origin (searchStart origin) =
      .inr { searchStart origin with heap := [] } := by
  have hpop : Heapq.heappop PriorityNode.priority (searchStart origin).heap =
      some (⟨0, origin, [origin], 0, 0⟩, []) := rfl
  simp [searchRound, hpop]

section Direct

variable {conn : Conn}

/-- The invariant of a search whose destination is pinned at the cost `c`. -/
def PinnedInv (graph : HubGraph) (cost : Conn → ℚ) (origin destination : String) (c : ℚ)
    (st : SearchState) : Prop :=
  ∃ S, SearchInv graph cost origin destination st S ∧ BestFirst.Pinned destination c st.search

/-- The first round pins the destination at the cost of the direct connection. -/
theorem pinnedInv_first (huniq : graph.UniquePairs) (hne : origin ≠ destination)
    (hconn : conn ∈ graph.conns origin) (hnext : conn.next = destination) :
    PinnedInv graph (segCost priceMap originCity destCity weightKg) origin destination
      (segCost priceMap originCity destCity weightKg conn)
      ((graph.conns origin).foldl
        (relaxConn priceMap originCity destCity weightKg ⟨0, origin, [origin], 0, 0⟩)
        { searchStart origin with heap := [] }) := by
  have hstart := searchInv_start graph (segCost priceMap originCity destCity weightKg) origin
    destination
  have hbest : (searchStart origin).search.best = (BestFirst.start origin).best := by
    funext hub
    by_cases h : hub = origin
    · subst h; simp [searchStart, SearchState.search, BestFirst.start]
    · simp [searchStart, SearchState.search, BestFirst.start, h, Ne.symm h]
  have hpop : Heapq.heappop PriorityNode.priority (searchStart origin).heap =
      some (⟨0, origin, [origin], 0, 0⟩, []) := rfl
  refine ⟨_, hstart.expand hpop hne ?_, ?_⟩
  · simp [searchStart, SearchState.search]
  · rw [search_foldl_relaxConn graph]
    have hpin := BestFirst.pinned_expand_start (G := graph.digraph) hne hconn hnext
      fun conn' hconn' hnext' => congrArg (segCost priceMap originCity destCity weightKg)
        (huniq.eq_of_next hconn' hconn (hnext'.trans hnext.symm))
    rw [← hbest] at hpin
    exact hpin

/-- A pinned destination stays pinned until the loop is left, with no node of it in the heap. -/
theorem run_searchRound_pinned {c : ℚ} {st₀ : SearchState}
    (hleast : ∀ conns, graph.digraph.Walk origin conns destination →
      c ≤ Digraph.walkCost (segCost priceMap originCity destCity weightKg) conns)
    (h₀ : PinnedInv graph (segCost priceMap originCity destCity weightKg) origin destination c st₀)
    (h : Loop.run (searchRound graph priceMap originCity destCity weightKg destination) fuel st₀ =
      some st) :
    st.best.get? destination = some c ∧ ∀ item ∈ st.heap, item.hubCode ≠ destination := by
  have hexit {st : SearchState} (hpin : BestFirst.Pinned destination c st.search)
      (hexit : SearchExit graph (segCost priceMap originCity destCity weightKg) origin destination
        st) :
      st.best.get? destination = some c ∧ ∀ item ∈ st.heap, item.hubCode ≠ destination := by
    have hbest := search_best_eq_coe.1 hpin.best_eq
    refine ⟨hbest, fun item hitem hhub => ?_⟩
    -- every node of the destination costs `c`, and none that is left does
    have hmem := mem_search_frontier hitem
    rw [hhub] at hmem
    have hlt := (hexit.attained c hbest).2 item hitem hhub
    rw [hpin.entry_eq _ hmem] at hlt
    exact lt_irrefl c hlt
  refine Loop.run_rule (I := PinnedInv graph (segCost priceMap originCity destCity weightKg)
    origin destination c) (Q := fun st => st.best.get? destination = some c ∧
    ∀ item ∈ st.heap, item.hubCode ≠ destination) ?_ ?_ h₀ h
  · rintro st st' ⟨S, hI, hpin⟩ hround
    rcases searchRound_cases graph priceMap originCity destCity weightKg destination st with
      ⟨-, h'⟩ | ⟨node, heap, hpop, ⟨-, h'⟩ | ⟨-, hlt, h'⟩ | ⟨hd, hlt, h'⟩⟩ <;>
      rw [h'] at hround <;> cases hround
    · exact ⟨S, hI.drop hpop hlt, hpin.drop (SearchInv.frontier_eq hpop)⟩
    · refine ⟨_, hI.expand hpop hd hlt, ?_⟩
      rw [search_foldl_relaxConn graph]
      exact hpin.expand hI.labels hleast (SearchInv.frontier_eq hpop) hlt
  · rintro st st' ⟨S, hI, hpin⟩ hround
    rcases searchRound_cases graph priceMap originCity destCity weightKg destination st with
      ⟨hnil, h'⟩ | ⟨node, heap, hpop, ⟨hd, h'⟩ | ⟨-, hlt, h'⟩ | ⟨hd, hlt, h'⟩⟩ <;>
      rw [h'] at hround <;> cases hround
    · exact hexit hpin (hI.exit_nil hnil)
    · exact hexit (hpin.drop (SearchInv.frontier_eq hpop)) (hI.exit_pop hpop hd)

/-- A direct connection that is cheapest gives the answer its cost, and leaves no node of the
destination in the heap. -/
theorem run_searchRound_direct (huniq : graph.UniquePairs) (hconn : conn ∈ graph.conns origin)
    (hnext : conn.next = destination)
    (hleast : ∀ conns, graph.digraph.Walk origin conns destination →
      segCost priceMap originCity destCity weightKg conn ≤
        Digraph.walkCost (segCost priceMap originCity destCity weightKg) conns)
    (hself : origin = destination → 0 ≤ segCost priceMap originCity destCity weightKg conn)
    (h : Loop.run (searchRound graph priceMap originCity destCity weightKg destination) fuel
      (searchStart origin) = some st) :
    st.best.get? destination = some (segCost priceMap originCity destCity weightKg conn) ∧
      ∀ item ∈ st.heap, item.hubCode ≠ destination := by
  cases fuel with
  | zero => cases h
  | succ fuel =>
    rw [Loop.run] at h
    by_cases hne : origin = destination
    · -- the origin itself ends the loop at once, at cost zero
      subst hne
      have hzero : segCost priceMap originCity destCity weightKg conn = 0 :=
        le_antisymm (hleast [] (.nil _)) (hself rfl)
      rw [searchRound_start_self] at h
      cases h
      exact ⟨by simp [searchStart, hzero], by simp⟩
    · rw [searchRound_start hne] at h
      exact run_searchRound_pinned hleast (pinnedInv_first huniq hne hconn hnext) h

end Direct

/-! ### When the path is real -/

/-- A cheapest direct connection is answered by its real path. -/
theorem DirectCheapest.isRealPath (huniq : graph.UniquePairs)
    (hdirect : DirectCheapest graph (segCost priceMap originCity destCity weightKg) origin
      destination)
    (h : dijkstra graph priceMap originCity destCity weightKg fuel origin destination =
      some (some r)) :
    IsRealPath graph (segCost priceMap originCity destCity weightKg) origin destination r := by
  obtain ⟨conn, hconn, hnext, hleast, hself⟩ := hdirect
  obtain ⟨st, -, hrun, hanswer⟩ := dijkstra_eq_some h
  obtain ⟨hbest, hnone⟩ := run_searchRound_direct huniq hconn hnext hleast hself hrun
  have hcost := searchAnswer_totalCost hanswer.symm
  rw [hbest] at hcost
  have hfilter : (graph.conns origin).filter (·.next = destination) = [conn] :=
    hnext ▸ huniq.filter_eq hconn
  rcases searchAnswer_cases hanswer.symm with ⟨item, hitem, hhub, -⟩ | ⟨-, hpath, hd, hh, hsd, hsh⟩
  · exact absurd hhub (hnone item hitem)
  · rw [hfilter] at hd hh
    refine ⟨[conn], hnext ▸ Digraph.Walk.single hconn, ?_, ?_, ?_, ?_, hd, hh⟩
    · rw [hpath, ← hnext]; rfl
    · rw [hsd]; rfl
    · rw [hsh]; rfl
    · rw [← Option.some.inj hcost, Digraph.walkCost_cons, Digraph.walkCost_nil, add_zero]

/-- Without negative costs, an answer with a real path is a cheapest direct connection. -/
theorem IsRealPath.directCheapest (huniq : graph.UniquePairs)
    (hnonneg : graph.digraph.NonnegCost (segCost priceMap originCity destCity weightKg))
    (h : dijkstra graph priceMap originCity destCity weightKg fuel origin destination =
      some (some r))
    (hreal : IsRealPath graph (segCost priceMap originCity destCity weightKg) origin destination
      r) :
    DirectCheapest graph (segCost priceMap originCity destCity weightKg) origin destination := by
  obtain ⟨st, hexit, -, hanswer⟩ := dijkstra_eq_some h
  have hbest := searchAnswer_totalCost hanswer.symm
  have hleast := hexit.isLeast hnonneg hbest
  rcases searchAnswer_cases hanswer.symm with ⟨item, hitem, hhub, hpath, -⟩ | ⟨-, hpath, -⟩
  · exact absurd hreal (not_isRealPath_of_mem_heap huniq hexit hbest rfl hitem hhub hpath)
  · -- the fallback path is real, so that its two hubs are joined by one connection
    obtain ⟨conns, hw, hvert, -, -, hcost, -⟩ := hreal
    rw [hpath] at hvert
    cases hw with
    | nil => simp [Digraph.vertices] at hvert
    | @cons _ _ conn conns hconn hw =>
      obtain rfl : conns = [] := by
        have := congrArg List.length hvert
        simpa [Digraph.vertices] using this
      have hnext : conn.next = destination := Digraph.walk_nil_iff.1 hw
      rw [Digraph.walkCost_cons, Digraph.walkCost_nil, add_zero] at hcost
      exact ⟨conn, hconn, hnext, fun conns hw => hcost ▸ hleast.2 ⟨conns, hw, rfl⟩,
        fun _ => hnonneg _ conn hconn⟩

/-- **The path of an answer is real when a direct connection is a cheapest path, and, without
negative costs, only then.** -/
theorem dijkstra_path_isRealPath_iff (huniq : graph.UniquePairs)
    (h : dijkstra graph priceMap originCity destCity weightKg fuel origin destination =
      some (some r)) :
    (DirectCheapest graph (segCost priceMap originCity destCity weightKg) origin destination →
      IsRealPath graph (segCost priceMap originCity destCity weightKg) origin destination r) ∧
    (graph.digraph.NonnegCost (segCost priceMap originCity destCity weightKg) →
      (IsRealPath graph (segCost priceMap originCity destCity weightKg) origin destination r ↔
        DirectCheapest graph (segCost priceMap originCity destCity weightKg) origin
          destination)) :=
  ⟨fun hdirect => hdirect.isRealPath huniq h, fun hnonneg =>
    ⟨fun hreal => hreal.directCheapest huniq hnonneg h, fun hdirect =>
      hdirect.isRealPath huniq h⟩⟩

/-! ### The paths that a search can report -/

section Reports

/-- A walk that enters the destination: a cheapest walk to one of some hubs, and a connection from
there to the destination. -/
def Enters (graph : HubGraph) (cost : Conn → ℚ) (origin destination : String) (hubs : Set String)
    (conns : List Conn) (last : Conn) : Prop :=
  ∃ hub ∈ hubs, graph.digraph.Cheapest cost origin hub conns ∧ last ∈ graph.conns hub ∧
    last.next = destination

/-- The nearest hub with a connection to the destination gives a cheapest walk: the search finds no
other node of the destination. -/
structure FoundFirst (graph : HubGraph) (cost : Conn → ℚ) (origin destination : String)
    (conns : List Conn) (last : Conn) : Prop where
  entry : Enters graph cost origin destination {destination}ᶜ conns last
  cheapest : graph.digraph.Cheapest cost origin destination (conns ++ [last])
  nearest : ∀ conns' last', Enters graph cost origin destination {destination}ᶜ conns' last' →
    Digraph.walkCost cost conns ≤ Digraph.walkCost cost conns'

/-- A walk that enters the destination is better than those by nearer hubs, but one by a hub that is
no nearer is cheapest: its node is left in the heap. -/
structure Overtaken (graph : HubGraph) (cost : Conn → ℚ) (origin destination : String)
    (conns : List Conn) (last : Conn) : Prop where
  entry : Enters graph cost origin destination {destination}ᶜ conns last
  better : ∀ conns' last', Enters graph cost origin destination {destination}ᶜ conns' last' →
    Digraph.walkCost cost conns' < Digraph.walkCost cost conns →
    Digraph.walkCost cost (conns ++ [last]) < Digraph.walkCost cost (conns' ++ [last'])
  overtaken : ∃ conns' last', Enters graph cost origin destination {destination}ᶜ conns' last' ∧
    graph.digraph.Cheapest cost origin destination (conns' ++ [last']) ∧
    Digraph.walkCost cost conns ≤ Digraph.walkCost cost conns' ∧
    Digraph.walkCost cost (conns' ++ [last']) < Digraph.walkCost cost (conns ++ [last])

/-- **The paths that a search can report**: the origin and the destination, when they are the same
hub or the destination is found once, or the path of a node that was overtaken. -/
def Reportable (graph : HubGraph) (cost : Conn → ℚ) (origin destination : String)
    (path : List String) : Prop :=
  (path = [origin, destination] ∧
    (origin = destination ∨ ∃ conns last, FoundFirst graph cost origin destination conns last)) ∨
  ∃ conns last, Overtaken graph cost origin destination conns last ∧
    path = graph.digraph.vertices origin (conns ++ [last])

/-- A node of the destination, found by an expanded hub, where it was better than those found by
nearer hubs. -/
structure EntryNode (graph : HubGraph) (cost : Conn → ℚ) (origin destination : String)
    (S : Finset String) (node : PriorityNode) (conns : List Conn) (last : Conn) : Prop where
  entry : Enters graph cost origin destination S conns last
  path : node.path = graph.digraph.vertices origin (conns ++ [last])
  priority : node.priority = Digraph.walkCost cost (conns ++ [last])
  better : ∀ conns' last', Enters graph cost origin destination S conns' last' →
    Digraph.walkCost cost conns' < Digraph.walkCost cost conns →
    Digraph.walkCost cost (conns ++ [last]) < Digraph.walkCost cost (conns' ++ [last'])

/-- The best cost of the destination was found by an expanded hub no nearer than some walk. -/
def BestFrom (graph : HubGraph) (cost : Conn → ℚ) (origin destination : String)
    (S : Finset String) (best : WithTop ℚ) (conns : List Conn) : Prop :=
  ∃ conns' last', Enters graph cost origin destination S conns' last' ∧
    best = Digraph.walkCost cost (conns' ++ [last']) ∧
    Digraph.walkCost cost conns ≤ Digraph.walkCost cost conns'

/-- The nodes of the destination in the heap, once the hubs `S` have been expanded: where a hub of
`S` has a connection to the destination, the node that was found first is among them. -/
structure EntryInv (graph : HubGraph) (cost : Conn → ℚ) (origin destination : String)
    (st : SearchState) (S : Finset String) : Prop where
  nodes : ∀ node ∈ st.heap, node.hubCode = destination →
    ∃ conns last, EntryNode graph cost origin destination S node conns last ∧
      BestFrom graph cost origin destination S (st.search.best destination) conns
  first : (∀ hub ∈ S, ∀ conn ∈ graph.conns hub, conn.next ≠ destination) ∨
    ∃ node ∈ st.heap, node.hubCode = destination ∧
      ∃ conns last, EntryNode graph cost origin destination S node conns last ∧
        ∀ conns' last', Enters graph cost origin destination S conns' last' →
          Digraph.walkCost cost conns ≤ Digraph.walkCost cost conns'

/-- The nodes of the destination while the hub `hub`, which a walk `conns₀` reaches most cheaply, is
being expanded after the hubs `S`. -/
structure Expanding (graph : HubGraph) (cost : Conn → ℚ) (origin destination : String)
    (st : SearchState) (S : Finset String) (hub : String) (conns₀ : List Conn) : Prop where
  nodes : ∀ node ∈ st.heap, node.hubCode = destination →
    ∃ conns last, EntryNode graph cost origin destination (insert hub S) node conns last ∧
      Digraph.walkCost cost conns ≤ Digraph.walkCost cost conns₀ ∧
      BestFrom graph cost origin destination (insert hub S) (st.search.best destination) conns
  closed : ∀ conns' last', Enters graph cost origin destination S conns' last' →
    Digraph.walkCost cost conns' < Digraph.walkCost cost conns₀ →
    st.search.best destination ≤ (Digraph.walkCost cost (conns' ++ [last']) : ℚ)
  first : (st.search.best destination = ⊤ ∧
      ∀ hub ∈ S, ∀ conn ∈ graph.conns hub, conn.next ≠ destination) ∨
    ∃ node ∈ st.heap, node.hubCode = destination ∧
      ∃ conns last, EntryNode graph cost origin destination (insert hub S) node conns last ∧
        ∀ conns' last', Enters graph cost origin destination (insert hub S : Finset String) conns'
          last' → Digraph.walkCost cost conns ≤ Digraph.walkCost cost conns'

variable {S : Finset String} {node : PriorityNode} {heap : List PriorityNode} {hub : String}
  {conns conns₀ conns' : List Conn} {last last' conn : Conn}

theorem Enters.mono {hubs hubs' : Set String}
    (h : Enters graph cost origin destination hubs conns last)
    (hsub : hubs ⊆ hubs') : Enters graph cost origin destination hubs' conns last := by
  obtain ⟨hub, hhub, hrest⟩ := h
  exact ⟨hub, hsub hhub, hrest⟩

theorem Enters.walk {hubs : Set String} (h : Enters graph cost origin destination hubs conns last) :
    graph.digraph.Walk origin (conns ++ [last]) destination := by
  obtain ⟨hub, -, hcheapest, hlast, rfl⟩ := h
  exact hcheapest.1.snoc hlast

/-- An entry by the hub that is being expanded, or by one that has been. -/
theorem Enters.of_insert (h₀ : graph.digraph.Cheapest cost origin hub conns₀)
    (h : Enters graph cost origin destination (insert hub S : Finset String) conns last) :
    Digraph.walkCost cost conns = Digraph.walkCost cost conns₀ ∨
      Enters graph cost origin destination S conns last := by
  obtain ⟨hub', hhub', hcheapest, hrest⟩ := h
  rcases Finset.mem_insert.1 hhub' with rfl | hmem
  · exact .inl (hcheapest.walkCost_eq h₀)
  · exact .inr ⟨hub', hmem, hcheapest, hrest⟩

/-- A node stays an entry while a hub that is no nearer is expanded. -/
theorem EntryNode.insert (h : EntryNode graph cost origin destination S node conns last)
    (h₀ : graph.digraph.Cheapest cost origin hub conns₀)
    (hle : Digraph.walkCost cost conns ≤ Digraph.walkCost cost conns₀) :
    EntryNode graph cost origin destination (insert hub S) node conns last where
  entry := h.entry.mono (Finset.coe_subset.2 (Finset.subset_insert _ _))
  path := h.path
  priority := h.priority
  better conns' last' hentry hlt := by
    rcases hentry.of_insert h₀ with heq | hentry
    · exact absurd (heq ▸ hlt) (not_lt.2 hle)
    · exact h.better conns' last' hentry hlt

theorem BestFrom.insert {best : WithTop ℚ}
    (h : BestFrom graph cost origin destination S best conns) :
    BestFrom graph cost origin destination (insert hub S) best conns := by
  obtain ⟨conns', last', hentry, hrest⟩ := h
  exact ⟨conns', last', hentry.mono (Finset.coe_subset.2 (Finset.subset_insert _ _)), hrest⟩

variable (priceMap originCity destCity weightKg) in
/-- Following a connection pushes a node that improves on the best cost of its hub, or does
nothing. -/
theorem relaxConn_cases (node : PriorityNode) (st : SearchState) (conn : Conn) :
    (((node.priority + segCost priceMap originCity destCity weightKg conn : ℚ) : WithTop ℚ) <
        st.search.best conn.next ∧
      (relaxConn priceMap originCity destCity weightKg node st conn).heap =
        Heapq.heappush PriorityNode.priority st.heap
          ⟨node.priority + segCost priceMap originCity destCity weightKg conn, conn.next,
            node.path ++ [conn.next], node.totalDistance + conn.dist,
            node.totalHours + conn.hours⟩ ∧
      ∀ hub, (relaxConn priceMap originCity destCity weightKg node st conn).search.best hub =
        if hub = conn.next then
          ((node.priority + segCost priceMap originCity destCity weightKg conn : ℚ) : WithTop ℚ)
        else st.search.best hub) ∨
    (st.search.best conn.next ≤
        ((node.priority + segCost priceMap originCity destCity weightKg conn : ℚ) : WithTop ℚ) ∧
      relaxConn priceMap originCity destCity weightKg node st conn = st) := by
  by_cases h : (st.best.get? conn.next).all
      (node.priority + segCost priceMap originCity destCity weightKg conn < ·) = true
  · refine .inl ⟨all_lt_iff.1 h, ?_, fun hub => ?_⟩
    · rw [relaxConn, if_pos h]
    · rw [relaxConn, if_pos h]
      simp only [SearchState.search, Dict.get?_set]
      by_cases hhub : hub = conn.next
      · rw [if_pos hhub, if_pos hhub.symm]
        rfl
      · rw [if_neg hhub, if_neg (Ne.symm hhub)]
  · exact .inr ⟨not_lt.1 fun hlt => h (all_lt_iff.2 hlt), by rw [relaxConn, if_neg h]⟩

/-- A node of another hub is pushed. -/
theorem Expanding.push_other {st' : SearchState} {new : PriorityNode}
    (h : Expanding graph cost origin destination st S hub conns₀)
    (hnew : new.hubCode ≠ destination) (hmem : ∀ n, n ∈ st'.heap ↔ n ∈ new :: st.heap)
    (hbest : st'.search.best destination = st.search.best destination) :
    Expanding graph cost origin destination st' S hub conns₀ where
  nodes n hn hdest := by
    rw [hbest]
    rcases List.mem_cons.1 ((hmem n).1 hn) with rfl | hn
    · exact absurd hdest hnew
    · exact h.nodes n hn hdest
  closed := by
    rw [hbest]
    exact h.closed
  first := by
    rw [hbest]
    rcases h.first with hnone | ⟨n, hn, hdest, hfirst⟩
    · exact .inl hnone
    · exact .inr ⟨n, (hmem n).2 (List.mem_cons_of_mem _ hn), hdest, hfirst⟩

/-- A node of the destination is pushed, the best one so far. -/
theorem Expanding.push_dest {st' : SearchState} {new : PriorityNode}
    (h : Expanding graph cost origin destination st S hub conns₀)
    (h₀ : graph.digraph.Cheapest cost origin hub conns₀)
    (hnew : EntryNode graph cost origin destination (insert hub S) new conns₀ conn)
    (hdest : new.hubCode = destination) (hmem : ∀ n, n ∈ st'.heap ↔ n ∈ new :: st.heap)
    (hbest : st'.search.best destination = (Digraph.walkCost cost (conns₀ ++ [conn]) : ℚ))
    (hlt : ((Digraph.walkCost cost (conns₀ ++ [conn]) : ℚ) : WithTop ℚ) <
      st.search.best destination) :
    Expanding graph cost origin destination st' S hub conns₀ where
  nodes n hn hhub := by
    rw [hbest]
    rcases List.mem_cons.1 ((hmem n).1 hn) with rfl | hn
    · exact ⟨conns₀, conn, hnew, le_rfl, conns₀, conn, hnew.entry, rfl, le_rfl⟩
    · obtain ⟨conns, last, hold, hle, -⟩ := h.nodes n hn hhub
      exact ⟨conns, last, hold, hle, conns₀, conn, hnew.entry, rfl, hle⟩
  closed conns' last' hentry hless := by
    rw [hbest]
    exact hlt.le.trans (h.closed conns' last' hentry hless)
  first := by
    rcases h.first with ⟨-, hnone⟩ | ⟨n, hn, hhub, hfirst⟩
    · -- no hub before had a connection to the destination
      refine .inr ⟨new, (hmem _).2 List.mem_cons_self, hdest, conns₀, conn, hnew,
        fun conns' last' hentry => ?_⟩
      rcases hentry.of_insert h₀ with heq | ⟨hub', hhub', -, hlast', hdest'⟩
      · exact heq.ge
      · exact absurd hdest' (hnone hub' hhub' last' hlast')
    · exact .inr ⟨n, (hmem n).2 (List.mem_cons_of_mem _ hn), hhub, hfirst⟩

/-- **One connection** of the hub that is being expanded. -/
theorem Expanding.relaxConn (hcost : ∀ conn, segCost priceMap originCity destCity weightKg conn =
      cost conn) (h₀ : graph.digraph.Cheapest cost origin hub conns₀)
    (hpath : node.path = graph.digraph.vertices origin conns₀)
    (hpriority : node.priority = Digraph.walkCost cost conns₀) (hconn : conn ∈ graph.conns hub)
    (h : Expanding graph cost origin destination st S hub conns₀) :
    Expanding graph cost origin destination
        (Tms.relaxConn priceMap originCity destCity weightKg node st conn) S hub conns₀ ∧
      (conn.next = destination →
        (Tms.relaxConn priceMap originCity destCity weightKg node st conn).search.best
          destination ≠ ⊤) := by
  rcases relaxConn_cases priceMap originCity destCity weightKg node st conn with
    ⟨hlt, hheap, hbest⟩ | ⟨hle, heq⟩
  swap
  · rw [heq]
    refine ⟨h, fun hnext htop => ?_⟩
    rw [hnext, htop] at hle
    exact absurd hle (not_le.2 (WithTop.coe_lt_top _))
  have hmem (n : PriorityNode) := (Heapq.heappush_perm PriorityNode.priority st.heap
    ⟨node.priority + segCost priceMap originCity destCity weightKg conn, conn.next,
      node.path ++ [conn.next], node.totalDistance + conn.dist,
      node.totalHours + conn.hours⟩).mem_iff (a := n)
  rw [← hheap] at hmem
  by_cases hnext : conn.next = destination
  · have hpushed : (Tms.relaxConn priceMap originCity destCity weightKg node st conn).search.best
        destination = ((Digraph.walkCost cost (conns₀ ++ [conn]) : ℚ) : WithTop ℚ) := by
      rw [hbest, if_pos hnext.symm, hpriority, hcost, Digraph.walkCost_snoc]
    rw [hpriority, hcost, ← Digraph.walkCost_snoc, hnext] at hlt
    refine ⟨h.push_dest h₀ ?_ hnext hmem hpushed hlt, fun _ => ?_⟩
    · refine ⟨⟨hub, Finset.mem_insert_self _ _, h₀, hconn, hnext⟩, ?_, ?_,
        fun conns' last' hentry hless => ?_⟩
      · rw [hpath, Digraph.vertices_snoc]
        rfl
      · rw [hpriority, hcost, Digraph.walkCost_snoc]
      · rcases hentry.of_insert h₀ with heq | hentry
        · exact absurd heq hless.ne
        · exact WithTop.coe_lt_coe.1 (hlt.trans_le (h.closed conns' last' hentry hless))
    · rw [hpushed]
      exact WithTop.coe_ne_top
  · have hsame : (Tms.relaxConn priceMap originCity destCity weightKg node st conn).search.best
        destination = st.search.best destination := by
      rw [hbest, if_neg (Ne.symm hnext)]
    exact ⟨h.push_other hnext hmem hsame, fun hdest => absurd hdest hnext⟩

/-- **The connections** of the hub that is being expanded. -/
theorem Expanding.foldl (hcost : ∀ conn, segCost priceMap originCity destCity weightKg conn =
      cost conn) (h₀ : graph.digraph.Cheapest cost origin hub conns₀)
    (hpath : node.path = graph.digraph.vertices origin conns₀)
    (hpriority : node.priority = Digraph.walkCost cost conns₀)
    (hconns : ∀ conn ∈ conns, conn ∈ graph.conns hub)
    (h : Expanding graph cost origin destination st S hub conns₀) :
    Expanding graph cost origin destination
        (conns.foldl (Tms.relaxConn priceMap originCity destCity weightKg node) st) S hub conns₀ ∧
      ∀ conn ∈ conns, conn.next = destination →
        (conns.foldl (Tms.relaxConn priceMap originCity destCity weightKg node) st).search.best
          destination ≠ ⊤ := by
  induction conns generalizing st with
  | nil => exact ⟨h, fun _ hmem => absurd hmem List.not_mem_nil⟩
  | cons conn conns ih =>
    obtain ⟨hconn, hrest⟩ := List.forall_mem_cons.1 hconns
    obtain ⟨hstep, hfound⟩ := h.relaxConn hcost h₀ hpath hpriority hconn
    obtain ⟨hfold, hlater⟩ := ih hrest hstep
    refine ⟨hfold, List.forall_mem_cons.2 ⟨fun hnext htop => ?_, hlater⟩⟩
    -- the best cost only goes down
    rw [List.foldl_cons, search_foldl_relaxConn graph] at htop
    have hle := BestFirst.foldl_relax_best_le graph.digraph
      (segCost priceMap originCity destCity weightKg) conns node.priority
      (Tms.relaxConn priceMap originCity destCity weightKg node st conn).search destination
    rw [htop] at hle
    exact hfound hnext (top_le_iff.1 hle)

/-- The start, when the destination is another hub. -/
theorem entryInv_start (hne : origin ≠ destination) :
    EntryInv graph cost origin destination (searchStart origin) ∅ where
  nodes node hnode hdest := by
    obtain rfl := List.mem_singleton.1 hnode
    exact absurd hdest hne
  first := .inl fun _ hhub => absurd hhub (Finset.notMem_empty _)

/-- Dropping a node of another hub. -/
theorem EntryInv.drop (h : EntryInv graph cost origin destination st S)
    (hpop : Heapq.heappop PriorityNode.priority st.heap = some (node, heap))
    (hne : node.hubCode ≠ destination) :
    EntryInv graph cost origin destination { st with heap } S := by
  have hperm := Heapq.heappop_perm _ hpop
  refine ⟨fun n hn => h.nodes n (hperm.mem_iff.2 (List.mem_cons_of_mem _ hn)), ?_⟩
  rcases h.first with hnone | ⟨n, hn, hdest, hfirst⟩
  · exact .inl hnone
  · refine .inr ⟨n, ?_, hdest, hfirst⟩
    exact (List.mem_cons.1 (hperm.mem_iff.1 hn)).resolve_left fun heq => hne (heq ▸ hdest)

/-- **Expanding a hub.** -/
theorem EntryInv.expand (hcost : ∀ conn, segCost priceMap originCity destCity weightKg conn =
      cost conn) (hnonneg : graph.digraph.NonnegCost cost)
    (hI : SearchInv graph cost origin destination st S)
    (h : EntryInv graph cost origin destination st S)
    (hpop : Heapq.heappop PriorityNode.priority st.heap = some (node, heap))
    (hne : node.hubCode ≠ destination)
    (hlt : ¬ st.search.best node.hubCode < (node.priority : WithTop ℚ)) :
    EntryInv graph cost origin destination
      ((graph.conns node.hubCode).foldl (relaxConn priceMap originCity destCity weightKg node)
        { st with heap }) (insert node.hubCode S) := by
  have hO := hI.ordered hnonneg
  have hfrontier := SearchInv.frontier_eq hpop
  obtain ⟨conns₀, hw₀, hpath, hpriority, -⟩ := (hI.traced_node hpop).1
  have h₀ : graph.digraph.Cheapest cost origin node.hubCode conns₀ :=
    hO.cheapest_of_least hI.labels hnonneg hfrontier (hI.least hpop) hlt hw₀ hpriority.symm
  have hmem : (node.priority, node.hubCode) ∈ st.search.frontier :=
    hfrontier ▸ Multiset.mem_cons_self _ _
  -- what has been expanded before is no farther
  have hle {conns : List Conn} {last : Conn}
      (hentry : Enters graph cost origin destination S conns last) :
      Digraph.walkCost cost conns ≤ Digraph.walkCost cost conns₀ := by
    obtain ⟨hub, hhub, hcheapest, -⟩ := hentry
    rw [← hpriority]
    exact hO.walkCost_le_of_mem hI.labels hhub hcheapest hmem
  have hdrop := h.drop hpop hne
  have hstart : Expanding graph cost origin destination { st with heap } S node.hubCode conns₀ := by
    refine ⟨fun n hn hdest => ?_, fun conns' last' hentry hless => ?_, ?_⟩
    · obtain ⟨conns, last, hnode, hbest⟩ := hdrop.nodes n hn hdest
      exact ⟨conns, last, hnode.insert h₀ (hle hnode.entry), hle hnode.entry, hbest.insert⟩
    · obtain ⟨hub, hhub, hcheapest, hlast, rfl⟩ := hentry
      rw [← hpriority] at hless
      exact hO.best_le_snoc hI.labels hnonneg (hI.least hpop) hhub hcheapest.1 hless hlast
    · rcases hdrop.first with hnone | ⟨n, hn, hdest, conns, last, hnode, hfirst⟩
      · refine .inl ⟨?_, hnone⟩
        by_contra htop
        obtain ⟨b, hb⟩ := WithTop.ne_top_iff_exists.1 htop
        have hlive := (hI.labels.live destination b hb.symm).resolve_right hI.labels.dest
        obtain ⟨n, hn, hn'⟩ := List.mem_map.1 (Multiset.mem_coe.1 hlive)
        obtain ⟨-, hdest⟩ := Prod.mk.inj hn'
        obtain ⟨conns, last, hnode, -⟩ := h.nodes n hn hdest
        obtain ⟨hub, hhub, -, hlast, hdest'⟩ := hnode.entry
        exact hnone hub hhub last hlast hdest'
      · refine .inr ⟨n, hn, hdest, conns, last, hnode.insert h₀ (hle hnode.entry),
          fun conns' last' hentry => ?_⟩
        rcases hentry.of_insert h₀ with heq | hentry
        · exact heq ▸ hle hnode.entry
        · exact hfirst conns' last' hentry
  obtain ⟨hfold, hfound⟩ := hstart.foldl hcost h₀ hpath hpriority fun _ hconn => hconn
  refine ⟨fun n hn hdest => ?_, ?_⟩
  · obtain ⟨conns, last, hnode, -, hbest⟩ := hfold.nodes n hn hdest
    exact ⟨conns, last, hnode, hbest⟩
  · rcases hfold.first with ⟨htop, hnone⟩ | hfirst
    · refine .inl fun hub hhub conn hconn hnext => ?_
      rcases Finset.mem_insert.1 hhub with rfl | hhub
      · exact hfound conn hconn hnext htop
      · exact hnone hub hhub conn hconn hnext
    · exact .inr hfirst

/-- An entry by any hub is by an expanded one, or no better than a least node of the heap. -/
theorem Enters.of_least (hnonneg : graph.digraph.NonnegCost cost)
    (hI : SearchInv graph cost origin destination st S)
    (hpop : Heapq.heappop PriorityNode.priority st.heap = some (node, heap))
    (h : Enters graph cost origin destination {destination}ᶜ conns last) :
    node.priority ≤ Digraph.walkCost cost conns ∨
      Enters graph cost origin destination S conns last := by
  obtain ⟨hub, -, hcheapest, hrest⟩ := h
  rcases (hI.ordered hnonneg).le_walkCost_or_expanded hI.labels hnonneg (hI.least hpop)
      hcheapest.1 with hle | ⟨hmem, -⟩
  · exact .inl hle
  · exact .inr ⟨hub, hmem, hcheapest, hrest⟩

/-- **Leaving the loop** with a node of the destination: what is left of its nodes was overtaken,
and if nothing is left, the node was found first. -/
theorem EntryInv.exit_pop (hnonneg : graph.digraph.NonnegCost cost)
    (hI : SearchInv graph cost origin destination st S)
    (h : EntryInv graph cost origin destination st S)
    (hpop : Heapq.heappop PriorityNode.priority st.heap = some (node, heap))
    (hdest : node.hubCode = destination) :
    (∀ item ∈ heap, item.hubCode = destination →
      ∃ conns last, Overtaken graph cost origin destination conns last ∧
        item.path = graph.digraph.vertices origin (conns ++ [last])) ∧
    ((∀ item ∈ heap, item.hubCode ≠ destination) →
      ∃ conns last, FoundFirst graph cost origin destination conns last) := by
  have hO := hI.ordered hnonneg
  have hfrontier := SearchInv.frontier_eq hpop
  have hperm := Heapq.heappop_perm _ hpop
  have hleast := hI.least hpop
  have hsub : ((S : Finset String) : Set String) ⊆ {destination}ᶜ := by
    rintro hub hhub rfl
    exact hI.labels.dest hhub
  have hmem : (node.priority, node.hubCode) ∈ st.search.frontier :=
    hfrontier ▸ Multiset.mem_cons_self _ _
  -- an entry by an expanded hub is from no farther than the node that is popped
  have hle {conns : List Conn} {last : Conn}
      (hentry : Enters graph cost origin destination S conns last) :
      Digraph.walkCost cost conns ≤ node.priority := by
    obtain ⟨hub, hhub, hcheapest, -⟩ := hentry
    exact hO.walkCost_le_of_mem hI.labels hhub hcheapest hmem
  rw [hdest] at hfrontier
  obtain ⟨hbest, habove⟩ := hI.labels.best_eq_of_least hfrontier hleast
  have hcheapest {conns : List Conn} {last : Conn}
      (hentry : Enters graph cost origin destination S conns last)
      (hcost : node.priority = Digraph.walkCost cost (conns ++ [last])) :
      graph.digraph.Cheapest cost origin destination (conns ++ [last]) :=
    ⟨hentry.walk, fun _ hw => hcost ▸ hO.le_walkCost hI.labels hnonneg hleast hw⟩
  constructor
  · intro item hitem hhub
    obtain ⟨conns, last, hnode, conns', last', hentry', hbest', hfarther⟩ :=
      h.nodes item (hperm.mem_iff.2 (List.mem_cons_of_mem _ hitem)) hhub
    rw [hbest] at hbest'
    have hpriority := WithTop.coe_inj.1 hbest'
    have hlt : node.priority < item.priority := by
      refine habove _ ?_
      rw [← hhub]
      exact @mem_search_frontier { st with heap } _ hitem
    refine ⟨conns, last, ⟨hnode.entry.mono hsub, fun conns'' last'' hentry hless => ?_,
      conns', last', hentry'.mono hsub, hcheapest hentry' hpriority, hfarther, ?_⟩, hnode.path⟩
    · rcases hentry.of_least hnonneg hI hpop with hfar | hentry
      · exact absurd ((hle hnode.entry).trans hfar) (not_le.2 hless)
      · exact hnode.better conns'' last'' hentry hless
    · rw [← hpriority, ← hnode.priority]
      exact hlt
  · intro hnone
    obtain ⟨conns', last', hentry'⟩ : ∃ conns' last',
        Enters graph cost origin destination S conns' last' := by
      obtain ⟨conns, last, hnode, -⟩ := h.nodes node (hperm.mem_iff.2 List.mem_cons_self) hdest
      exact ⟨conns, last, hnode.entry⟩
    rcases h.first with hnever | ⟨n, hn, hhub, conns, last, hnode, hfirst⟩
    · obtain ⟨hub, hmem, -, hlast, hnext⟩ := hentry'
      exact absurd hnext (hnever hub hmem last' hlast)
    · -- the node that was found first is the one that is popped
      have heq : n = node :=
        (List.mem_cons.1 (hperm.mem_iff.1 hn)).resolve_right fun hmem => hnone n hmem hhub
      subst heq
      refine ⟨conns, last, hnode.entry.mono hsub, hcheapest hnode.entry hnode.priority,
        fun conns'' last'' hentry => ?_⟩
      rcases hentry.of_least hnonneg hI hpop with hfar | hentry
      · exact (hle hnode.entry).trans hfar
      · exact hfirst conns'' last'' hentry

/-- **An answer reports one of these paths.** -/
theorem dijkstra_reportable
    (hnonneg : graph.digraph.NonnegCost (segCost priceMap originCity destCity weightKg))
    (h : dijkstra graph priceMap originCity destCity weightKg fuel origin destination =
      some (some r)) :
    Reportable graph (segCost priceMap originCity destCity weightKg) origin destination r.path := by
  obtain ⟨st, -, hrun, hanswer⟩ := dijkstra_eq_some h
  by_cases hne : origin = destination
  · -- the loop is left at once, with an empty heap
    subst hne
    cases fuel with
    | zero => cases hrun
    | succ fuel =>
      rw [Loop.run, searchRound_start_self] at hrun
      cases hrun
      rcases searchAnswer_cases hanswer.symm with ⟨item, hitem, -⟩ | ⟨-, hpath, -⟩
      · cases hitem
      · exact .inl ⟨hpath, .inl rfl⟩
  · have hexit : st.best.get? destination = none ∨
        (∀ item ∈ st.heap, item.hubCode = destination →
          ∃ conns last, Overtaken graph (segCost priceMap originCity destCity weightKg) origin
            destination conns last ∧
            item.path = graph.digraph.vertices origin (conns ++ [last])) ∧
        ((∀ item ∈ st.heap, item.hubCode ≠ destination) →
          ∃ conns last, FoundFirst graph (segCost priceMap originCity destCity weightKg) origin
            destination conns last) := by
      refine Loop.run_rule (I := fun st => ∃ S, SearchInv graph
        (segCost priceMap originCity destCity weightKg) origin destination st S ∧
        EntryInv graph (segCost priceMap originCity destCity weightKg) origin destination st S)
        (Q := fun st : SearchState => st.best.get? destination = none ∨
          (∀ item ∈ st.heap, item.hubCode = destination →
            ∃ conns last, Overtaken graph (segCost priceMap originCity destCity weightKg) origin
              destination conns last ∧
              item.path = graph.digraph.vertices origin (conns ++ [last])) ∧
          ((∀ item ∈ st.heap, item.hubCode ≠ destination) →
            ∃ conns last, FoundFirst graph (segCost priceMap originCity destCity weightKg) origin
              destination conns last))
        ?_ ?_ ⟨∅, searchInv_start _ _ _ _, entryInv_start hne⟩ hrun
      · rintro st st' ⟨S, hI, hE⟩ hround
        rcases searchRound_cases graph priceMap originCity destCity weightKg destination st with
          ⟨-, h'⟩ | ⟨node, heap, hpop, ⟨-, h'⟩ | ⟨hd, hlt, h'⟩ | ⟨hd, hlt, h'⟩⟩ <;>
          rw [h'] at hround <;> cases hround
        · exact ⟨S, hI.drop hpop hlt, hE.drop hpop hd⟩
        · exact ⟨_, hI.expand hpop hd hlt, hE.expand (fun _ => rfl) hnonneg hI hpop hd hlt⟩
      · rintro st st' ⟨S, hI, hE⟩ hround
        rcases searchRound_cases graph priceMap originCity destCity weightKg destination st with
          ⟨hnil, h'⟩ | ⟨node, heap, hpop, ⟨hd, h'⟩ | ⟨-, hlt, h'⟩ | ⟨hd, hlt, h'⟩⟩ <;>
          rw [h'] at hround <;> cases hround
        · refine .inl (search_best_eq_top.1 (hI.labels.best_top ?_))
          rw [SearchState.search, hnil]
          rfl
        · exact .inr (hE.exit_pop hnonneg hI hpop hd)
    have hbest := searchAnswer_totalCost hanswer.symm
    rcases hexit with hnone | ⟨hleft, hfirst⟩
    · rw [hnone] at hbest
      cases hbest
    · rcases searchAnswer_cases hanswer.symm with ⟨item, hitem, hhub, hpath, -⟩ | ⟨hnone, hpath, -⟩
      · obtain ⟨conns, last, hovertaken, heq⟩ := hleft item hitem hhub
        exact .inr ⟨conns, last, hovertaken, hpath.trans heq⟩
      · exact .inl ⟨hpath, .inr (hfirst hnone)⟩

/-- Where all connections cost the same, no node of the destination is overtaken. -/
theorem Reportable.eq_pair {c : ℚ} (hcost : ∀ conn, cost conn = c) {path : List String}
    (h : Reportable graph cost origin destination path) : path = [origin, destination] := by
  rcases h with ⟨hpath, -⟩ | ⟨conns, last, hovertaken, -⟩
  · exact hpath
  · obtain ⟨conns', last', -, -, hle, hlt⟩ := hovertaken.overtaken
    rw [Digraph.walkCost_snoc, Digraph.walkCost_snoc, hcost, hcost] at hlt
    exact absurd (lt_of_add_lt_add_right hlt) (not_lt.2 hle)

end Reports

/-! ### The two small graphs -/

theorem oneHop_uniquePairs : oneHop.UniquePairs := by
  intro hub
  rw [conns_oneHop]
  split_ifs <;> simp

theorem twoHop_uniquePairs : twoHop.UniquePairs := by
  intro hub
  rw [conns_twoHop]
  split_ifs <;> simp

theorem oneHop_directCheapest :
    DirectCheapest oneHop (segCost (Dict.empty : PriceMap Unit) "X" "Y" 1) "A" "B" := by
  refine ⟨⟨"B", 1, 1⟩, by simp [conns_oneHop], rfl, fun conns hw => ?_, by decide⟩
  cases conns with
  | nil => exact absurd (Digraph.walk_nil_iff.1 hw) (by decide)
  | cons conn conns =>
    obtain ⟨hconn, hw⟩ := Digraph.walk_cons_iff.1 hw
    obtain rfl : conn = ⟨"B", 1, 1⟩ := by
      simpa [HubGraph.digraph, conns_oneHop] using hconn
    cases conns with
    | nil => simp
    | cons conn' conns =>
      have hconn' := (Digraph.walk_cons_iff.1 hw).1
      simp [HubGraph.digraph, conns_oneHop] at hconn'

/-- The search of one connection returns it. -/
theorem oneHop_isRealPath :
    IsRealPath oneHop (segCost (Dict.empty : PriceMap Unit) "X" "Y" 1) "A" "B"
      ⟨["A", "B"], 1, 1, 1 / 2, [1], [1]⟩ :=
  (dijkstra_path_isRealPath_iff (r := ⟨["A", "B"], 1, 1, 1 / 2, [1], [1]⟩) oneHop_uniquePairs
    (show dijkstra oneHop Dict.empty "X" "Y" 1 3 "A" "B" = _ by decide +kernel)).1
    oneHop_directCheapest

/-- The search of two connections returns the origin and the destination, which no connection
joins. -/
theorem twoHop_not_isRealPath :
    twoHop.UniquePairs ∧
    dijkstra twoHop (Dict.empty : PriceMap Unit) "X" "Y" 1 5 "A" "C" =
      some (some ⟨["A", "C"], 0, 0, 1, [0], [0]⟩) ∧
    ¬ IsRealPath twoHop (segCost (Dict.empty : PriceMap Unit) "X" "Y" 1) "A" "C"
      ⟨["A", "C"], 0, 0, 1, [0], [0]⟩ := by
  refine ⟨twoHop_uniquePairs, by decide +kernel, ?_⟩
  rintro ⟨conns, hw, hvert, -⟩
  cases conns with
  | nil => simp [Digraph.vertices] at hvert
  | cons conn conns =>
    have hconn : conn = ⟨"B", 1, 1⟩ := by
      simpa [HubGraph.digraph, conns_twoHop] using (Digraph.walk_cons_iff.1 hw).1
    simp [Digraph.vertices, HubGraph.digraph, hconn] at hvert

end Tms

end OmsWmsTms
