import OmsWmsTms.Graph.Walk
import Mathlib.Algebra.Order.BigOperators.Group.Finset
import Mathlib.Algebra.Order.Monoid.WithTop
import Mathlib.Data.Multiset.Count

/-!
# Best-first search with lazy duplicates

The search behind an implementation of Dijkstra's algorithm that never removes outdated entries
from its priority queue.  A state holds the *frontier*, a multiset of priorities and vertices,
and the *best* cost found so far for each vertex (`⊤` when there is none).  A round takes an entry
of least priority; an entry above its vertex's best cost is dropped, any other one has its
vertex expanded, and an edge that improves its head's best cost adds an entry.

* `Labels` : what holds for arbitrary costs.  A best cost is the cost of a walk, no entry is
  below the best cost of its vertex, and a best cost is in the frontier, exactly once, until its
  vertex has been expanded.
* `Ordered` : what holds in addition when no cost is negative.  An expanded vertex has its edges
  relaxed and lies below the whole frontier.
* `Labels.best_eq_of_least`, `Ordered.le_walkCost` : an entry of least priority for the
  destination carries its best cost, and no walk to the destination is cheaper.
* `Ordered.not_reachable` : when the frontier is empty, the destination is unreachable.
* `Pinned` : a destination that no walk reaches more cheaply than a direct edge keeps the cost of
  that edge.
* `workLeft` : a measure that every round decreases, zero-cost cycles included.
-/

namespace OmsWmsTms

namespace BestFirst

open OmsWmsTms.Digraph

variable {V E K : Type*} [DecidableEq V] [AddCommMonoid K] [LinearOrder K]

/-- A state of the search. -/
structure Search (V K : Type*) where
  /-- The entries waiting to be taken: a priority and a vertex. -/
  frontier : Multiset (K × V)
  /-- The least cost found so far. -/
  best : V → WithTop K

/-- The search starts at the origin, at cost zero. -/
def start (o : V) : Search V K where
  frontier := {(0, o)}
  best := Function.update (fun _ => ⊤) o 0

variable (G : Digraph V E) (cost : E → K)

/-- Follow the edge `e` from an entry of priority `x`. -/
def relax (x : K) (st : Search V K) (e : E) : Search V K :=
  if ((x + cost e : K) : WithTop K) < st.best (G.head e) then
    { frontier := (x + cost e, G.head e) ::ₘ st.frontier
      best := Function.update st.best (G.head e) (x + cost e : K) }
  else st

/-- Follow every edge that leaves `v`, from an entry of priority `x`. -/
def expand (x : K) (v : V) (st : Search V K) : Search V K :=
  (G.out v).foldl (relax G cost x) st

/-- The invariant of a search from `o` to `d` that has expanded the vertices `S`, for arbitrary
costs. -/
structure Labels (o d : V) (st : Search V K) (S : Finset V) : Prop where
  sound : ∀ v b, st.best v = (b : K) → ∃ es, G.Walk o es v ∧ walkCost cost es = b
  entry : ∀ x v, (x, v) ∈ st.frontier → st.best v ≤ (x : K)
  live : ∀ v b, st.best v = (b : K) → (b, v) ∈ st.frontier ∨ v ∈ S
  once : ∀ v b, st.best v = (b : K) → st.frontier.count (b, v) ≤ 1
  dest : d ∉ S

/-- The invariant that non-negative costs add: expanded vertices have their edges relaxed and lie
below the frontier. -/
structure Ordered (o : V) (st : Search V K) (S : Finset V) : Prop where
  origin : st.best o = (0 : K)
  closed : ∀ v ∈ S, ∃ b : K, st.best v = b ∧
    ∀ e ∈ G.out v, st.best (G.head e) ≤ ((b + cost e : K) : WithTop K)
  below : ∀ v ∈ S, ∀ x u, (x, u) ∈ st.frontier → st.best v ≤ (x : K)

/-- The rounds that may still follow: the waiting entries and the edges of the vertices of `T`
not yet expanded. -/
def workLeft (T : Finset V) (st : Search V K) (S : Finset V) : ℕ :=
  st.frontier.card + ∑ v ∈ T \ S, (G.out v).length

variable {G} {cost} {o d v : V} {st : Search V K} {S : Finset V} {x : K}

/-! ### One edge -/

variable (G cost) in
/-- What relaxing an edge does: it improves the head, which was above the new cost, or it changes
nothing. -/
theorem relax_cases (x : K) (st : Search V K) (e : E) :
    (((x + cost e : K) : WithTop K) < st.best (G.head e) ∧ relax G cost x st e =
      ⟨(x + cost e, G.head e) ::ₘ st.frontier,
        Function.update st.best (G.head e) (x + cost e : K)⟩) ∨
    (st.best (G.head e) ≤ ((x + cost e : K) : WithTop K) ∧ relax G cost x st e = st) := by
  by_cases h : ((x + cost e : K) : WithTop K) < st.best (G.head e)
  · exact .inl ⟨h, by rw [relax, if_pos h]⟩
  · exact .inr ⟨not_lt.1 h, by rw [relax, if_neg h]⟩

variable (G cost) in
theorem relax_best_le (x : K) (st : Search V K) (e : E) (u : V) :
    (relax G cost x st e).best u ≤ st.best u := by
  rcases relax_cases G cost x st e with ⟨hlt, h⟩ | ⟨-, h⟩
  · rw [h]
    by_cases hu : u = G.head e
    · subst hu; simpa using hlt.le
    · simp [hu]
  · rw [h]

variable (G cost) in
theorem relax_best_head (x : K) (st : Search V K) (e : E) :
    (relax G cost x st e).best (G.head e) ≤ ((x + cost e : K) : WithTop K) := by
  rcases relax_cases G cost x st e with ⟨-, h⟩ | ⟨hle, h⟩
  · rw [h]; simp
  · rw [h]; exact hle

variable (G cost) in
theorem card_relax_le (x : K) (st : Search V K) (e : E) :
    (relax G cost x st e).frontier.card ≤ st.frontier.card + 1 := by
  rcases relax_cases G cost x st e with ⟨-, h⟩ | ⟨-, h⟩ <;> rw [h] <;> simp

theorem Labels.relaxed (hL : Labels G cost o d st S) {es : List E} (hw : G.Walk o es v)
    (hx : walkCost cost es = x) {e : E} (he : e ∈ G.out v) :
    Labels G cost o d (relax G cost x st e) S := by
  rcases relax_cases G cost x st e with ⟨hlt, h⟩ | ⟨-, h⟩
  swap
  · rw [h]; exact hL
  rw [h]
  -- the head has no entry at the new cost: its entries are not below its old best cost
  have hnew : (x + cost e, G.head e) ∉ st.frontier := fun hm =>
    absurd hlt (not_lt.2 (hL.entry _ _ hm))
  refine ⟨fun u b hb => ?_, fun y u hy => ?_, fun u b hb => ?_, fun u b hb => ?_, hL.dest⟩
  · by_cases hu : u = G.head e
    · subst hu
      simp only [Function.update_self, WithTop.coe_inj] at hb
      exact ⟨es ++ [e], hw.snoc he, by rw [walkCost_snoc, hx, hb]⟩
    · simp only [Function.update_of_ne hu] at hb
      exact hL.sound u b hb
  · rcases Multiset.mem_cons.1 hy with hy | hy
    · cases hy; simp
    · by_cases hu : u = G.head e
      · subst hu
        simp only [Function.update_self]
        exact hlt.le.trans (hL.entry y _ hy)
      · simp only [Function.update_of_ne hu]
        exact hL.entry y u hy
  · by_cases hu : u = G.head e
    · subst hu
      simp only [Function.update_self, WithTop.coe_inj] at hb
      exact .inl (by simp [← hb])
    · simp only [Function.update_of_ne hu] at hb
      exact (hL.live u b hb).imp_left (Multiset.mem_cons_of_mem)
  · by_cases hu : u = G.head e
    · subst hu
      simp only [Function.update_self, WithTop.coe_inj] at hb
      rw [← hb, Multiset.count_cons_self, Multiset.count_eq_zero_of_notMem hnew]
    · simp only [Function.update_of_ne hu] at hb
      rw [Multiset.count_cons_of_ne (by simp [hu])]
      exact hL.once u b hb

theorem Labels.foldl_relax (hL : Labels G cost o d st S) {es : List E} (hw : G.Walk o es v)
    (hx : walkCost cost es = x) {l : List E} (hl : ∀ e ∈ l, e ∈ G.out v) :
    Labels G cost o d (l.foldl (relax G cost x) st) S := by
  induction l generalizing st with
  | nil => exact hL
  | cons e l ih =>
    exact ih (hL.relaxed hw hx (hl e List.mem_cons_self))
      fun e' he' => hl e' (List.mem_cons_of_mem _ he')

variable (G cost) in
theorem foldl_relax_best_le (l : List E) (x : K) (st : Search V K) (u : V) :
    (l.foldl (relax G cost x) st).best u ≤ st.best u := by
  induction l generalizing st with
  | nil => exact le_rfl
  | cons e l ih => exact (ih _).trans (relax_best_le G cost x st e u)

variable (G cost) in
theorem foldl_relax_best_head {l : List E} (x : K) (st : Search V K) {e : E} (he : e ∈ l) :
    (l.foldl (relax G cost x) st).best (G.head e) ≤ ((x + cost e : K) : WithTop K) := by
  induction l generalizing st with
  | nil => cases he
  | cons e' l ih =>
    rcases List.mem_cons.1 he with rfl | he
    · exact (foldl_relax_best_le G cost l x _ _).trans (relax_best_head G cost x st e)
    · exact ih _ he

variable (G cost) in
theorem card_foldl_relax_le (l : List E) (x : K) (st : Search V K) :
    (l.foldl (relax G cost x) st).frontier.card ≤ st.frontier.card + l.length := by
  induction l generalizing st with
  | nil => simp
  | cons e l ih =>
    have h := card_relax_le G cost x st e
    have := ih (relax G cost x st e)
    simp only [List.foldl_cons, List.length_cons]
    omega

/-- Edges that improve nothing change nothing. -/
theorem foldl_relax_eq_self {l : List E} {x : K} {st : Search V K}
    (h : ∀ e ∈ l, st.best (G.head e) ≤ ((x + cost e : K) : WithTop K)) :
    l.foldl (relax G cost x) st = st := by
  induction l with
  | nil => rfl
  | cons e l ih =>
    have he : relax G cost x st e = st := if_neg (not_lt.2 (h e List.mem_cons_self))
    rw [List.foldl_cons, he]
    exact ih fun e' he' => h e' (List.mem_cons_of_mem _ he')

/-- A vertex below `x` keeps its best cost when edges of non-negative cost are followed from an
entry of priority `x`, and every entry stays above it. -/
theorem foldl_relax_of_le [IsOrderedAddMonoid K] {l : List E} (hl : ∀ e ∈ l, 0 ≤ cost e) {u : V}
    (hu : st.best u ≤ (x : K)) (hf : ∀ y w, (y, w) ∈ st.frontier → st.best u ≤ (y : K)) :
    (l.foldl (relax G cost x) st).best u = st.best u ∧
      ∀ y w, (y, w) ∈ (l.foldl (relax G cost x) st).frontier → st.best u ≤ (y : K) := by
  induction l generalizing st with
  | nil => exact ⟨rfl, hf⟩
  | cons e l ih =>
    have hxe : x ≤ x + cost e := le_add_of_nonneg_right (hl e List.mem_cons_self)
    have hstep : (relax G cost x st e).best u = st.best u ∧
        ∀ y w, (y, w) ∈ (relax G cost x st e).frontier → st.best u ≤ (y : K) := by
      rcases relax_cases G cost x st e with ⟨hlt, h⟩ | ⟨-, h⟩
      · have hne : u ≠ G.head e := by
          rintro rfl
          exact absurd (hlt.trans_le hu) (not_lt.2 (WithTop.coe_le_coe.2 hxe))
        rw [h]
        refine ⟨by simp [hne], fun y w hy => ?_⟩
        rcases Multiset.mem_cons.1 hy with hy | hy
        · cases hy; exact hu.trans (WithTop.coe_le_coe.2 hxe)
        · exact hf y w hy
      · rw [h]; exact ⟨rfl, hf⟩
    obtain ⟨hbest, hfront⟩ := hstep
    have hrest := @ih (relax G cost x st e) (fun e' he' => hl e' (List.mem_cons_of_mem _ he'))
      (hbest ▸ hu) (fun y w hy => hbest ▸ hfront y w hy)
    rwa [hbest] at hrest

/-! ### One round -/

section Round

variable {rest : Multiset (K × V)}

theorem labels_start (o d : V) : Labels G cost o d (start o : Search V K) ∅ := by
  have hb (v : V) (b : K) (h : (start o : Search V K).best v = b) : v = o ∧ b = 0 := by
    by_cases hv : v = o
    · subst hv
      refine ⟨rfl, ?_⟩
      have h' : ((0 : K) : WithTop K) = b := by simpa [start] using h
      exact (WithTop.coe_inj.1 h').symm
    · simp [start, hv] at h
  refine ⟨fun v b h => ?_, fun x v h => ?_, fun v b h => ?_, fun v b h => ?_, by simp⟩
  · obtain ⟨rfl, rfl⟩ := hb v b h
    exact ⟨[], .nil _, rfl⟩
  · simp only [start, Multiset.mem_singleton, Prod.mk.injEq] at h
    obtain ⟨rfl, rfl⟩ := h
    simp [start]
  · obtain ⟨rfl, rfl⟩ := hb v b h
    exact .inl (by simp [start])
  · obtain ⟨rfl, rfl⟩ := hb v b h
    simp [start]

theorem ordered_start (o : V) : Ordered G cost o (start o : Search V K) ∅ :=
  ⟨by simp [start], by simp, by simp⟩

/-- Dropping an entry above its vertex's best cost. -/
theorem Labels.drop (hL : Labels G cost o d st S) (hf : st.frontier = (x, v) ::ₘ rest)
    (hst : st.best v < (x : K)) : Labels G cost o d ⟨rest, st.best⟩ S := by
  refine ⟨hL.sound, fun y u hy => hL.entry y u (hf ▸ Multiset.mem_cons_of_mem hy),
    fun u b hb => ?_, fun u b hb => ?_, hL.dest⟩
  · refine (hL.live u b hb).imp_left fun hm => ?_
    rw [hf] at hm
    rcases Multiset.mem_cons.1 hm with hm | hm
    · cases hm
      exact absurd hst (by rw [show st.best v = (x : WithTop K) from hb]; exact lt_irrefl _)
    · exact hm
  · have := hL.once u b hb
    rw [hf] at this
    exact (Multiset.count_le_count_cons _ _ _).trans this

omit [DecidableEq V] in
theorem Ordered.drop (hO : Ordered G cost o st S) (hf : st.frontier = (x, v) ::ₘ rest) :
    Ordered G cost o ⟨rest, st.best⟩ S :=
  ⟨hO.origin, hO.closed, fun u hu y w hy => hO.below u hu y w (hf ▸ Multiset.mem_cons_of_mem hy)⟩

/-- An entry that is not above its vertex's best cost carries it. -/
theorem Labels.best_eq (hL : Labels G cost o d st S) (hf : st.frontier = (x, v) ::ₘ rest)
    (hst : ¬ st.best v < (x : K)) : st.best v = (x : K) :=
  le_antisymm (hL.entry x v (hf ▸ Multiset.mem_cons_self _ _)) (not_lt.1 hst)

/-- Taking an entry that carries its vertex's best cost, and calling the vertex expanded. -/
theorem Labels.take (hL : Labels G cost o d st S) (hf : st.frontier = (x, v) ::ₘ rest)
    (hv : v ≠ d) : Labels G cost o d ⟨rest, st.best⟩ (insert v S) := by
  refine ⟨hL.sound, fun y u hy => hL.entry y u (hf ▸ Multiset.mem_cons_of_mem hy),
    fun u b hb => ?_, fun u b hb => ?_, by simp [hL.dest, hv.symm]⟩
  · rcases hL.live u b hb with hm | hm
    · rw [hf] at hm
      rcases Multiset.mem_cons.1 hm with hm | hm
      · cases hm; exact .inr (Finset.mem_insert_self _ _)
      · exact .inl hm
    · exact .inr (Finset.mem_insert_of_mem hm)
  · have := hL.once u b hb
    rw [hf] at this
    exact (Multiset.count_le_count_cons _ _ _).trans this

theorem Labels.expanded (hL : Labels G cost o d st S) (hf : st.frontier = (x, v) ::ₘ rest)
    (hst : ¬ st.best v < (x : K)) (hv : v ≠ d) :
    Labels G cost o d (expand G cost x v ⟨rest, st.best⟩) (insert v S) := by
  obtain ⟨es, hw, hx⟩ := hL.sound v x (hL.best_eq hf hst)
  exact (hL.take hf hv).foldl_relax hw hx fun _ he => he

theorem Ordered.expanded [IsOrderedAddMonoid K] (hO : Ordered G cost o st S)
    (hL : Labels G cost o d st S) (hcost : G.NonnegCost cost) (hf : st.frontier = (x, v) ::ₘ rest)
    (hleast : ∀ p ∈ st.frontier, x ≤ p.1) (hst : ¬ st.best v < (x : K)) (hvd : v ≠ d) :
    Ordered G cost o (expand G cost x v ⟨rest, st.best⟩) (insert v S) := by
  have hv : st.best v = (x : K) := hL.best_eq hf hst
  have hmem : (x, v) ∈ st.frontier := hf ▸ Multiset.mem_cons_self _ _
  -- the vertex itself and every vertex expanded before lie below the entry
  have hbelow : ∀ u ∈ insert v S, st.best u ≤ (x : K) ∧
      ∀ y w, (y, w) ∈ rest → st.best u ≤ (y : K) := by
    intro u hu
    rcases Finset.mem_insert.1 hu with rfl | hu
    · refine ⟨hv.le, fun y w hy => ?_⟩
      rw [hv]
      exact WithTop.coe_le_coe.2 (hleast _ (hf ▸ Multiset.mem_cons_of_mem hy))
    · exact ⟨hO.below u hu x v hmem, fun y w hy =>
        hO.below u hu y w (hf ▸ Multiset.mem_cons_of_mem hy)⟩
  have hkeep : ∀ u ∈ insert v S, (expand G cost x v ⟨rest, st.best⟩).best u = st.best u ∧
      ∀ y w, (y, w) ∈ (expand G cost x v ⟨rest, st.best⟩).frontier →
        st.best u ≤ (y : K) := by
    intro u hu
    have hst : (⟨rest, st.best⟩ : Search V K).best u ≤ (x : K) := (hbelow u hu).1
    exact foldl_relax_of_le (hcost v) hst (hbelow u hu).2
  refine ⟨?_, fun u hu => ?_, fun u hu y w hy => (hkeep u hu).1 ▸ (hkeep u hu).2 y w hy⟩
  · -- no walk is cheaper than the empty one
    have hle := foldl_relax_best_le G cost (G.out v) x ⟨rest, st.best⟩ o
    have hle' : (expand G cost x v ⟨rest, st.best⟩).best o ≤ (0 : K) :=
      hle.trans_eq hO.origin
    obtain ⟨b, hb⟩ := WithTop.ne_top_iff_exists.1 (ne_top_of_le_ne_top WithTop.coe_ne_top hle')
    obtain ⟨es, hw, hb'⟩ := (hL.expanded hf hst hvd).sound o b hb.symm
    have h0 : 0 ≤ b := hb' ▸ hcost.walkCost_nonneg hw
    rw [← hb] at hle' ⊢
    exact le_antisymm hle' (WithTop.coe_le_coe.2 h0)
  · rcases Finset.mem_insert.1 hu with rfl | hu'
    · exact ⟨x, (hkeep u hu).1.trans hv, fun e he => foldl_relax_best_head G cost x _ he⟩
    · obtain ⟨b, hb, he⟩ := hO.closed u hu'
      exact ⟨b, (hkeep u hu).1.trans hb, fun e hmem' =>
        (foldl_relax_best_le G cost _ x ⟨rest, st.best⟩ _).trans (he e hmem')⟩

/-- **A least entry for the destination carries its best cost**, and the other entries for the
destination are strictly above it. -/
theorem Labels.best_eq_of_least (hL : Labels G cost o d st S)
    (hf : st.frontier = (x, d) ::ₘ rest) (hleast : ∀ p ∈ st.frontier, x ≤ p.1) :
    st.best d = (x : K) ∧ ∀ y, (y, d) ∈ rest → x < y := by
  have hle : st.best d ≤ (x : K) := hL.entry x d (hf ▸ Multiset.mem_cons_self _ _)
  obtain ⟨b, hb⟩ := WithTop.ne_top_iff_exists.1 (ne_top_of_le_ne_top WithTop.coe_ne_top hle)
  have hxb : x ≤ b := hleast _ ((hL.live d b hb.symm).resolve_right hL.dest)
  have hbx : st.best d = (x : K) := le_antisymm hle (hb ▸ WithTop.coe_le_coe.2 hxb)
  refine ⟨hbx, fun y hy => ?_⟩
  have hxy : x ≤ y := hleast _ (hf ▸ Multiset.mem_cons_of_mem hy)
  refine hxy.lt_of_ne ?_
  rintro rfl
  have honce := hL.once d x hbx
  rw [hf, Multiset.count_cons_self] at honce
  have := Multiset.count_pos.2 hy
  omega

/-- With an empty frontier the destination has no best cost. -/
theorem Labels.best_top (hL : Labels G cost o d st S) (hf : st.frontier = 0) :
    st.best d = ⊤ := by
  by_contra h
  obtain ⟨b, hb⟩ := WithTop.ne_top_iff_exists.1 h
  rcases hL.live d b hb.symm with hm | hm
  · rw [hf] at hm; simp at hm
  · exact hL.dest hm

/-- Along a walk from an expanded vertex, either the end is expanded at no more than the cost of
the walk, or the frontier holds an entry no more expensive than it. -/
theorem Ordered.frontier_or_expanded [IsOrderedAddMonoid K] (hO : Ordered G cost o st S)
    (hL : Labels G cost o d st S) (hcost : G.NonnegCost cost) {u v : V} {es : List E}
    (hw : G.Walk u es v) (hu : u ∈ S) {b c : K} (hb : st.best u = (b : K)) (hbc : b ≤ c) :
    (∃ p ∈ st.frontier, p.1 ≤ c + walkCost cost es) ∨
      v ∈ S ∧ st.best v ≤ ((c + walkCost cost es : K) : WithTop K) := by
  induction hw generalizing b c with
  | nil =>
    rw [walkCost_nil, add_zero, hb]
    exact .inr ⟨hu, WithTop.coe_le_coe.2 hbc⟩
  | @cons u v e es he hw ih =>
    obtain ⟨b', hb', hclosed⟩ := hO.closed u hu
    obtain rfl : b = b' := WithTop.coe_inj.1 (hb.symm.trans hb')
    have hle := hclosed e he
    obtain ⟨h, hh⟩ := WithTop.ne_top_iff_exists.1 (ne_top_of_le_ne_top WithTop.coe_ne_top hle)
    have hhc : h ≤ c + cost e :=
      (WithTop.coe_le_coe.1 (hh ▸ hle)).trans (add_le_add_left hbc _)
    rcases hL.live _ h hh.symm with hm | hm
    · refine .inl ⟨_, hm, ?_⟩
      rw [walkCost_cons, ← add_assoc]
      exact hhc.trans (le_add_of_nonneg_right (hcost.walkCost_nonneg hw))
    · rw [walkCost_cons, ← add_assoc]
      exact ih hm hh.symm hhc

/-- A walk that is cheaper than a least entry of the frontier leads to an expanded vertex, the best
cost of which is no more. -/
theorem Ordered.le_walkCost_or_expanded [IsOrderedAddMonoid K] (hO : Ordered G cost o st S)
    (hL : Labels G cost o d st S) (hcost : G.NonnegCost cost)
    (hleast : ∀ p ∈ st.frontier, x ≤ p.1) {v : V} {es : List E} (hw : G.Walk o es v) :
    x ≤ walkCost cost es ∨ v ∈ S ∧ st.best v ≤ ((walkCost cost es : K) : WithTop K) := by
  rcases hL.live o 0 hO.origin with hm | hm
  · exact .inl ((hleast _ hm).trans (hcost.walkCost_nonneg hw))
  · have hor := hO.frontier_or_expanded hL hcost hw hm hO.origin le_rfl
    rw [zero_add] at hor
    rcases hor with ⟨p, hp, hle⟩ | hv
    · exact .inl ((hleast p hp).trans hle)
    · exact .inr hv

/-- **No walk to the destination is cheaper than a least entry of the frontier.** -/
theorem Ordered.le_walkCost [IsOrderedAddMonoid K] (hO : Ordered G cost o st S)
    (hL : Labels G cost o d st S) (hcost : G.NonnegCost cost)
    (hleast : ∀ p ∈ st.frontier, x ≤ p.1) {es : List E} (hw : G.Walk o es d) :
    x ≤ walkCost cost es :=
  (hO.le_walkCost_or_expanded hL hcost hleast hw).resolve_right fun hd => hL.dest hd.1

/-- A least entry that is not outdated carries the cost of a cheapest walk to its vertex. -/
theorem Ordered.cheapest_of_least [IsOrderedAddMonoid K] (hO : Ordered G cost o st S)
    (hL : Labels G cost o d st S) (hcost : G.NonnegCost cost)
    (hf : st.frontier = (x, v) ::ₘ rest) (hleast : ∀ p ∈ st.frontier, x ≤ p.1)
    (hst : ¬ st.best v < (x : K)) {es : List E} (hw : G.Walk o es v)
    (hes : walkCost cost es = x) : G.Cheapest cost o v es := by
  refine ⟨hw, fun es' hw' => ?_⟩
  rw [hes]
  rcases hO.le_walkCost_or_expanded hL hcost hleast hw' with hle | ⟨-, hle⟩
  · exact hle
  · rw [hL.best_eq hf hst] at hle
    exact WithTop.coe_le_coe.1 hle

/-- A cheapest walk to an expanded vertex is below every entry. -/
theorem Ordered.walkCost_le_of_mem (hO : Ordered G cost o st S) (hL : Labels G cost o d st S)
    (hv : v ∈ S) {es : List E} (hes : G.Cheapest cost o v es) {y : K} {u : V}
    (hy : (y, u) ∈ st.frontier) : walkCost cost es ≤ y := by
  obtain ⟨b, hb, -⟩ := hO.closed v hv
  obtain ⟨es', hw', rfl⟩ := hL.sound v b hb
  have hbelow := hO.below v hv y u hy
  rw [hb] at hbelow
  exact (hes.2 es' hw').trans (WithTop.coe_le_coe.1 hbelow)

/-- What an edge from an expanded vertex gives its head, when the vertex lies below every entry. -/
theorem Ordered.best_le_snoc [IsOrderedAddMonoid K] (hO : Ordered G cost o st S)
    (hL : Labels G cost o d st S) (hcost : G.NonnegCost cost)
    (hleast : ∀ p ∈ st.frontier, x ≤ p.1) (hv : v ∈ S) {es : List E} (hw : G.Walk o es v)
    (hlt : walkCost cost es < x) {e : E} (he : e ∈ G.out v) :
    st.best (G.head e) ≤ ((walkCost cost (es ++ [e]) : K) : WithTop K) := by
  obtain ⟨b, hb, hclosed⟩ := hO.closed v hv
  have hle := ((hO.le_walkCost_or_expanded hL hcost hleast hw).resolve_left (not_le.2 hlt)).2
  rw [hb] at hle
  rw [walkCost_snoc]
  exact (hclosed e he).trans
    (WithTop.coe_le_coe.2 (add_le_add_left (WithTop.coe_le_coe.1 hle) (cost e)))

/-- **With an empty frontier the destination is unreachable.** -/
theorem Ordered.not_reachable [IsOrderedAddMonoid K] (hO : Ordered G cost o st S)
    (hL : Labels G cost o d st S) (hcost : G.NonnegCost cost) (hf : st.frontier = 0) :
    ¬ G.Reachable o d := by
  rintro ⟨es, hw⟩
  rcases hL.live o 0 hO.origin with hm | hm
  · rw [hf] at hm; simp at hm
  · rcases hO.frontier_or_expanded hL hcost hw hm hO.origin le_rfl with ⟨p, hp, -⟩ | ⟨hd, -⟩
    · rw [hf] at hp; simp at hp
    · exact hL.dest hd

/-! ### A pinned destination -/

/-- The best cost of `d` is `c`, and so is the priority of every entry for `d`. -/
structure Pinned (d : V) (c : K) (st : Search V K) : Prop where
  best_eq : st.best d = (c : K)
  entry_eq : ∀ x, (x, d) ∈ st.frontier → x = c

omit [DecidableEq V] [AddCommMonoid K] [LinearOrder K] in
theorem Pinned.drop {c : K} (h : Pinned d c st) (hf : st.frontier = (x, v) ::ₘ rest) :
    Pinned d c ⟨rest, st.best⟩ :=
  ⟨h.best_eq, fun y hy => h.entry_eq y (hf ▸ Multiset.mem_cons_of_mem hy)⟩

/-- Edges that do not lead to `d` below `c` keep it pinned. -/
theorem Pinned.foldl_relax {c : K} (h : Pinned d c st) {l : List E}
    (hl : ∀ e ∈ l, G.head e = d → c ≤ x + cost e) : Pinned d c (l.foldl (relax G cost x) st) := by
  induction l generalizing st with
  | nil => exact h
  | cons e l ih =>
    refine ih ?_ fun e' he' => hl e' (List.mem_cons_of_mem _ he')
    rcases relax_cases G cost x st e with ⟨hlt, heq⟩ | ⟨-, heq⟩
    · have hne : G.head e ≠ d := fun hd => by
        rw [hd, h.best_eq] at hlt
        exact absurd (WithTop.coe_lt_coe.1 hlt) (not_lt.2 (hl e List.mem_cons_self hd))
      rw [heq]
      refine ⟨by simp [hne.symm, h.best_eq], fun y hy => ?_⟩
      rcases Multiset.mem_cons.1 hy with hy | hy
      · exact absurd (Prod.ext_iff.1 hy).2.symm hne
      · exact h.entry_eq y hy
    · rw [heq]; exact h

/-- Edges among which one leads to `d` at cost `c`, and none below `c`, pin it, when `d` had no
entry. -/
theorem pinned_foldl_relax {c : K} {l : List E} (htop : st.best d = ⊤)
    (hnone : ∀ y, (y, d) ∉ st.frontier) (hl : ∀ e ∈ l, G.head e = d → x + cost e = c) {e : E}
    (he : e ∈ l) (hd : G.head e = d) : Pinned d c (l.foldl (relax G cost x) st) := by
  induction l generalizing st with
  | nil => cases he
  | cons e' l ih =>
    by_cases hd' : G.head e' = d
    · have hc := hl e' List.mem_cons_self hd'
      have hst : relax G cost x st e' =
          ⟨(c, d) ::ₘ st.frontier, Function.update st.best d (c : K)⟩ := by
        rw [relax, hd', hc, htop, if_pos (WithTop.coe_lt_top c)]
      have hpin : Pinned d c (relax G cost x st e') := by
        rw [hst]
        refine ⟨by simp, fun y hy => ?_⟩
        rcases Multiset.mem_cons.1 hy with hy | hy
        · exact (Prod.ext_iff.1 hy).1
        · exact absurd hy (hnone y)
      exact hpin.foldl_relax fun e₂ he₂ hd₂ => (hl e₂ (List.mem_cons_of_mem _ he₂) hd₂).ge
    · have he' : e ∈ l := (List.mem_cons.1 he).resolve_left fun h => hd' (h ▸ hd)
      refine ih ?_ (fun y hy => ?_) (fun e'' he'' => hl e'' (List.mem_cons_of_mem _ he'')) he'
      · rcases relax_cases G cost x st e' with ⟨-, heq⟩ | ⟨-, heq⟩ <;> rw [heq]
        · simp [Ne.symm hd', htop]
        · exact htop
      · rcases relax_cases G cost x st e' with ⟨-, heq⟩ | ⟨-, heq⟩ <;> rw [heq] at hy
        · rcases Multiset.mem_cons.1 hy with hy | hy
          · exact hd' (Prod.ext_iff.1 hy).2.symm
          · exact hnone y hy
        · exact hnone y hy

/-- **A destination that no walk reaches below the cost `c` of a direct edge is pinned at `c`** once
the origin has been expanded. -/
theorem pinned_expand_start {c : K} (hne : o ≠ d) {e : E} (he : e ∈ G.out o) (hd : G.head e = d)
    (hc : ∀ e' ∈ G.out o, G.head e' = d → cost e' = c) :
    Pinned d c (expand G cost 0 o ⟨0, (start o : Search V K).best⟩) :=
  pinned_foldl_relax (by simp [start, hne.symm]) (by simp)
    (fun e' he' hd' => (zero_add _).trans (hc e' he' hd')) he hd

/-- Expanding a vertex keeps a destination pinned that no walk reaches below `c`. -/
theorem Pinned.expand {c : K} (h : Pinned d c st) (hL : Labels G cost o d st S)
    (hc : ∀ es, G.Walk o es d → c ≤ walkCost cost es) (hf : st.frontier = (x, v) ::ₘ rest)
    (hst : ¬ st.best v < (x : K)) : Pinned d c (expand G cost x v ⟨rest, st.best⟩) := by
  obtain ⟨es, hw, hx⟩ := hL.sound v x (hL.best_eq hf hst)
  refine (h.drop hf).foldl_relax fun e he hd => ?_
  have hwalk := hw.snoc he
  rw [hd] at hwalk
  exact (hc _ hwalk).trans_eq (by rw [walkCost_snoc, hx])

/-! ### Termination -/

omit [AddCommMonoid K] [LinearOrder K] in
theorem workLeft_drop (T : Finset V) (hf : st.frontier = (x, v) ::ₘ rest) :
    workLeft G T ⟨rest, st.best⟩ S < workLeft G T st S := by
  simp only [workLeft, hf, Multiset.card_cons]
  omega

/-- **Every round does some of the work left**, because a vertex is expanded to any effect at most
once. -/
theorem Ordered.workLeft_expand (hO : Ordered G cost o st S) {T : Finset V}
    (hT : ∀ v ∉ T, G.out v = []) (hL : Labels G cost o d st S)
    (hf : st.frontier = (x, v) ::ₘ rest) (hst : ¬ st.best v < (x : K)) :
    workLeft G T (expand G cost x v ⟨rest, st.best⟩) (insert v S) < workLeft G T st S := by
  have hv : st.best v = (x : K) := hL.best_eq hf hst
  by_cases hvS : v ∈ S
  · obtain ⟨b, hb, he⟩ := hO.closed v hvS
    obtain rfl : x = b := WithTop.coe_inj.1 (hv.symm.trans hb)
    have heq : expand G cost x v ⟨rest, st.best⟩ = ⟨rest, st.best⟩ := foldl_relax_eq_self he
    rw [heq, Finset.insert_eq_of_mem hvS]
    exact workLeft_drop T hf
  · have hcard : (expand G cost x v ⟨rest, st.best⟩).frontier.card ≤ _ :=
      card_foldl_relax_le G cost (G.out v) x ⟨rest, st.best⟩
    have hsum : ∑ u ∈ T \ insert v S, (G.out u).length + (G.out v).length ≤
        ∑ u ∈ T \ S, (G.out u).length := by
      by_cases hvT : v ∈ T
      · rw [← Finset.sum_erase_add _ _ (Finset.mem_sdiff.2 ⟨hvT, hvS⟩), Finset.sdiff_insert]
      · rw [hT v hvT, List.length_nil, add_zero]
        exact Finset.sum_le_sum_of_subset
          (Finset.sdiff_subset_sdiff (Finset.Subset.refl _) (Finset.subset_insert _ _))
    simp only [workLeft, hf, Multiset.card_cons] at hcard ⊢
    omega

end Round

end BestFirst

end OmsWmsTms
