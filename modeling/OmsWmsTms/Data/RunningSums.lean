import Mathlib.Algebra.Order.BigOperators.Group.List
import Mathlib.Algebra.Order.Monoid.Defs
import Mathlib.Algebra.Order.Group.Defs

/-!
# Running sums

The sums that a loop accumulates, each rounded as it is computed, and the classes that thresholds
make of them.

* `runningSums` : the running sums of numbers.
* `pairwise_runningSums` : exact sums of nonnegative numbers do not decrease.
* `getLast?_runningSums` : the last one is the sum.
* `exists_runs` : two thresholds cut a list that does not decrease into three runs.
-/

namespace OmsWmsTms

variable {K α : Type*}

section Rounded

variable [Add K] (round : K → K)

/-- The running sums of numbers, each rounded. -/
def runningSums : K → List K → List K
  | _, [] => []
  | start, x :: xs => round (start + x) :: runningSums (round (start + x)) xs

end Rounded

section Exact

variable [AddCommMonoid K] {start : K} {xs : List K}

/-- The last running sum is the sum. -/
theorem getLast?_runningSums (hne : xs ≠ []) :
    (runningSums id start xs).getLast? = some (start + xs.sum) := by
  induction xs generalizing start with
  | nil => exact absurd rfl hne
  | cons x xs ih =>
    rw [runningSums, id_eq, List.sum_cons, ← add_assoc]
    by_cases hxs : xs = []
    · subst hxs
      simp [runningSums]
    · rw [List.getLast?_cons, ih hxs, Option.getD_some]

variable [LinearOrder K] [IsOrderedAddMonoid K]

theorem le_of_mem_runningSums (h : ∀ x ∈ xs, 0 ≤ x) :
    ∀ y ∈ runningSums id start xs, start ≤ y := by
  induction xs generalizing start with
  | nil => intro y hy; cases hy
  | cons x xs ih =>
    obtain ⟨hx, hxs⟩ := List.forall_mem_cons.1 h
    have hfirst : start ≤ start + x := le_add_of_nonneg_right hx
    intro y hy
    rcases List.mem_cons.1 hy with rfl | hy
    · exact hfirst
    · exact hfirst.trans (ih hxs y hy)

/-- **Sums of nonnegative numbers do not decrease.** -/
theorem pairwise_runningSums (h : ∀ x ∈ xs, 0 ≤ x) :
    (runningSums id start xs).Pairwise (· ≤ ·) := by
  induction xs generalizing start with
  | nil => exact .nil
  | cons x xs ih =>
    have hxs := (List.forall_mem_cons.1 h).2
    exact List.pairwise_cons.2 ⟨le_of_mem_runningSums hxs, ih hxs⟩

end Exact

/-! ### Thresholds -/

/-- A function that is constant on a list. -/
theorem map_eq_replicate {xs : List K} {f : K → α} {a : α} (h : ∀ x ∈ xs, f x = a) :
    xs.map f = List.replicate xs.length a :=
  List.eq_replicate_iff.2 ⟨List.length_map f, by simpa using h⟩

section Thresholds

variable [LinearOrder K] {xs : List K}

/-- A threshold cuts a list that does not decrease in two. -/
theorem filter_le_append_filter_lt (h : xs.Pairwise (· ≤ ·)) (t : K) :
    xs.filter (· ≤ t) ++ xs.filter (t < ·) = xs := by
  induction xs with
  | nil => rfl
  | cons x xs ih =>
    obtain ⟨hx, hxs⟩ := List.pairwise_cons.1 h
    by_cases hxt : x ≤ t
    · simp [hxt, not_lt.2 hxt, ih hxs]
    · -- everything from here on is above the threshold
      have hall : ∀ y ∈ xs, t < y := fun y hy => (not_le.1 hxt).trans_le (hx y hy)
      have hnone : xs.filter (· ≤ t) = [] :=
        List.filter_eq_nil_iff.2 fun y hy => by simpa using hall y hy
      have hrest := ih hxs
      rw [hnone, List.nil_append] at hrest
      simp [hxt, not_le.1 hxt, hnone, hrest]

/-- **Two thresholds make three runs.** -/
theorem exists_runs (h : xs.Pairwise (· ≤ ·)) {s t : K} {f : K → α} {a b c : α}
    (ha : ∀ x, x ≤ s → f x = a) (hb : ∀ x, s < x → x ≤ t → f x = b)
    (hc : ∀ x, s < x → t < x → f x = c) :
    ∃ i j k, xs.map f = List.replicate i a ++ List.replicate j b ++ List.replicate k c := by
  have hlow := filter_le_append_filter_lt h s
  have hhigh := filter_le_append_filter_lt (h.filter (s < ·)) t
  have hfirst : (xs.filter (· ≤ s)).map f = List.replicate (xs.filter (· ≤ s)).length a := by
    refine map_eq_replicate fun x hx => ha x ?_
    simpa using (List.mem_filter.1 hx).2
  have hsecond : ((xs.filter (s < ·)).filter (· ≤ t)).map f =
      List.replicate ((xs.filter (s < ·)).filter (· ≤ t)).length b := by
    refine map_eq_replicate fun x hx => ?_
    obtain ⟨hx, hxt⟩ := List.mem_filter.1 hx
    exact hb x (by simpa using (List.mem_filter.1 hx).2) (by simpa using hxt)
  have hthird : ((xs.filter (s < ·)).filter (t < ·)).map f =
      List.replicate ((xs.filter (s < ·)).filter (t < ·)).length c := by
    refine map_eq_replicate fun x hx => ?_
    obtain ⟨hx, hxt⟩ := List.mem_filter.1 hx
    exact hc x (by simpa using (List.mem_filter.1 hx).2) (by simpa using hxt)
  refine ⟨(xs.filter (· ≤ s)).length, ((xs.filter (s < ·)).filter (· ≤ t)).length,
    ((xs.filter (s < ·)).filter (t < ·)).length, ?_⟩
  rw [← hfirst, ← hsecond, ← hthird, ← List.map_append, ← List.map_append, List.append_assoc,
    hhigh, hlow]

end Thresholds

end OmsWmsTms
