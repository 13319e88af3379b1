import Mathlib.Algebra.BigOperators.Group.List.Basic
import Mathlib.Algebra.Order.Monoid.Defs
import Mathlib.Data.List.Basic

/-!
# Walks of a weighted directed multigraph

A multigraph is given by the list of edges that leave each vertex, so that parallel edges and
loops are allowed and an edge is reached only from the vertex it leaves.  A walk is recorded by
its edges; the cost of a walk is the sum of the costs of its edges.
-/

namespace OmsWmsTms

/-- A directed multigraph: the edges leaving each vertex, and the vertex each edge leads to. -/
structure Digraph (V E : Type*) where
  /-- The edges leaving a vertex. -/
  out : V → List E
  /-- The vertex an edge leads to. -/
  head : E → V

namespace Digraph

variable {V E K : Type*} (G : Digraph V E)

/-- `G.Walk u es v` : the edges `es`, in this order, lead from `u` to `v`. -/
inductive Walk : V → List E → V → Prop
  | nil (v : V) : Walk v [] v
  | cons {u v : V} {e : E} {es : List E} : e ∈ G.out u → Walk (G.head e) es v → Walk u (e :: es) v

/-- Some walk leads from `u` to `v`. -/
def Reachable (u v : V) : Prop := ∃ es, G.Walk u es v

/-- The vertices of a walk from `u` along the edges `es`. -/
def vertices (u : V) (es : List E) : List V := u :: es.map G.head

/-- The cost of a walk. -/
def walkCost [AddMonoid K] (cost : E → K) (es : List E) : K := (es.map cost).sum

/-- A walk that no other one between its ends undercuts. -/
def Cheapest [AddMonoid K] [LE K] (cost : E → K) (u v : V) (es : List E) : Prop :=
  G.Walk u es v ∧ ∀ es', G.Walk u es' v → walkCost cost es ≤ walkCost cost es'

/-- No edge that leaves a vertex has a negative cost. -/
def NonnegCost [Zero K] [LE K] (cost : E → K) : Prop := ∀ v, ∀ e ∈ G.out v, 0 ≤ cost e

/-- At most one edge leads from a vertex to another. -/
def Simple : Prop := ∀ u, ∀ e ∈ G.out u, ∀ e' ∈ G.out u, G.head e = G.head e' → e = e'

variable {G}

theorem Walk.snoc {u v : V} {es : List E} (h : G.Walk u es v) {e : E} (he : e ∈ G.out v) :
    G.Walk u (es ++ [e]) (G.head e) := by
  induction h with
  | nil => exact .cons he (.nil _)
  | cons he' _ ih => exact .cons he' (ih he)

theorem Walk.single {u : V} {e : E} (he : e ∈ G.out u) : G.Walk u [e] (G.head e) :=
  .cons he (.nil _)

/-- The edges of a walk are edges of the graph. -/
theorem Walk.exists_mem_out {u v : V} {es : List E} (h : G.Walk u es v) {e : E} (he : e ∈ es) :
    ∃ w, e ∈ G.out w := by
  induction h with
  | nil => cases he
  | cons he' _ ih =>
    rcases List.mem_cons.1 he with rfl | he
    · exact ⟨_, he'⟩
    · exact ih he

@[simp] theorem walk_nil_iff {u v : V} : G.Walk u [] v ↔ u = v :=
  ⟨fun h => by cases h; rfl, fun h => h ▸ .nil u⟩

theorem walk_cons_iff {u v : V} {e : E} {es : List E} :
    G.Walk u (e :: es) v ↔ e ∈ G.out u ∧ G.Walk (G.head e) es v :=
  ⟨fun h => by cases h; exact ⟨‹_›, ‹_›⟩, fun h => .cons h.1 h.2⟩

theorem vertices_snoc (u : V) (es : List E) (e : E) :
    G.vertices u (es ++ [e]) = G.vertices u es ++ [G.head e] := by
  simp [vertices]

@[simp] theorem length_vertices (u : V) (es : List E) :
    (G.vertices u es).length = es.length + 1 := by
  simp [vertices]

@[simp] theorem walkCost_nil [AddMonoid K] (cost : E → K) : walkCost cost [] = 0 := rfl

@[simp] theorem walkCost_cons [AddMonoid K] (cost : E → K) (e : E) (es : List E) :
    walkCost cost (e :: es) = cost e + walkCost cost es := by
  simp [walkCost]

theorem walkCost_snoc [AddMonoid K] (cost : E → K) (e : E) (es : List E) :
    walkCost cost (es ++ [e]) = walkCost cost es + cost e := by
  simp [walkCost]

theorem NonnegCost.walkCost_nonneg [AddCommMonoid K] [LinearOrder K] [IsOrderedAddMonoid K]
    {cost : E → K} (h : G.NonnegCost cost) {u v : V} {es : List E} (hw : G.Walk u es v) :
    0 ≤ walkCost cost es := by
  induction hw with
  | nil => exact le_rfl
  | cons he _ ih => rw [walkCost_cons]; exact add_nonneg (h _ _ he) ih

/-- Cheapest walks between the same ends cost the same. -/
theorem Cheapest.walkCost_eq [AddMonoid K] [PartialOrder K] {cost : E → K} {u v : V}
    {es es' : List E} (h : G.Cheapest cost u v es) (h' : G.Cheapest cost u v es') :
    walkCost cost es = walkCost cost es' :=
  le_antisymm (h.2 es' h'.1) (h'.2 es h.1)

/-- In a simple graph the vertices of a walk determine its edges. -/
theorem Simple.walk_unique (hG : G.Simple) {u v v' : V} {es es' : List E} (h : G.Walk u es v)
    (h' : G.Walk u es' v') (hv : G.vertices u es = G.vertices u es') : es = es' := by
  induction h generalizing es' with
  | nil =>
    cases h' with
    | nil => rfl
    | cons => simp [vertices] at hv
  | cons he _ ih =>
    cases h' with
    | nil => simp [vertices] at hv
    | cons he' h' =>
      simp only [vertices, List.map_cons, List.cons.injEq, true_and] at hv
      obtain ⟨hhead, hrest⟩ := hv
      obtain rfl := hG _ _ he _ he' hhead
      rw [ih h' (by simp only [vertices, hrest])]

end Digraph

end OmsWmsTms
