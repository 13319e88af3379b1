import Mathlib.Data.List.Count
import Mathlib.Data.List.Nodup

/-!
# Iterating over a list that changes

An iteration keeps the index of its next element.  Between two of its steps others may take elements
out of the list or add some at its end: an element that is taken out before the index lets those
after it pass the index unvisited.

* `Cursor` : an iteration, with what it has visited, which elements have been there from its start,
  and which of them it has been overtaken by.
* `Cursor.visit`, `Cursor.change` : its steps, and those of the others.
* `Cursor.Sound` : what holds of it all the time.
* `Cursor.Sound.visited_once_iff` : in the end, what has stayed was visited once unless it has
  overtaken the iteration.
-/

namespace OmsWmsTms

/-- An iteration over a list. -/
structure Cursor (α : Type*) where
  /-- The index of the next element. -/
  next : ℕ := 0
  /-- The elements that it has come to, in this order. -/
  visited : List α := []
  /-- The elements that have been in the list since it started. -/
  stayed : List α
  /-- The elements that have moved from its index or after it to a place before it. -/
  overtaken : List α := []

namespace Cursor

variable {α : Type*}

/-- The start of an iteration. -/
def start (l : List α) : Cursor α := { stayed := l }

/-- The next element, if there is one. -/
def visit (c : Cursor α) (l : List α) : Option (α × Cursor α) :=
  l[c.next]?.map fun x => (x, { c with next := c.next + 1, visited := c.visited ++ [x] })

/-- An iteration ends when its index has passed the list. -/
theorem visit_eq_none_iff {c : Cursor α} {l : List α} : c.visit l = none ↔ l.length ≤ c.next := by
  simp [Cursor.visit]

/-- The ways of a list: elements are taken out, or a new one is added at the end. -/
inductive Changes (l : List α) : List α → Prop
  | erased {l' : List α} (h : l'.Sublist l) : Changes l l'
  | added {x : α} (h : x ∉ l) : Changes l (l ++ [x])

section Lists

variable {l l' : List α} {x : α}

theorem mem_take_or_drop (n : ℕ) (h : x ∈ l) : x ∈ l.take n ∨ x ∈ l.drop n := by
  rwa [← List.mem_append, List.take_append_drop]

theorem not_mem_drop_of_mem_take {n : ℕ} (hnodup : l.Nodup) (h : x ∈ l.take n) : x ∉ l.drop n := by
  rw [← List.take_append_drop n l] at hnodup
  exact fun hdrop => (List.nodup_append.1 hnodup).2.2 x h x hdrop rfl

theorem Changes.mem_drop {n : ℕ} (h : Changes l l') (hmem : x ∈ l) (hdrop : x ∈ l'.drop n) :
    x ∈ l.drop n := by
  cases h with
  | erased hsub => exact (hsub.drop n).subset hdrop
  | @added y hy =>
    rw [List.drop_append] at hdrop
    rcases List.mem_append.1 hdrop with hold | hnew
    · exact hold
    · obtain rfl := List.mem_singleton.1 (List.mem_of_mem_drop hnew)
      exact absurd hmem hy

end Lists

variable [DecidableEq α]

/-- The list changes. -/
def change (c : Cursor α) (l l' : List α) : Cursor α where
  next := c.next
  visited := c.visited
  stayed := c.stayed.filter (· ∈ l')
  overtaken := c.overtaken ++ (l.drop c.next).filter (· ∈ l'.take c.next)

/-- Only the elements of another list are said to have stayed. -/
def keep (c : Cursor α) (l : List α) : Cursor α := { c with stayed := c.stayed.filter (· ∈ l) }

/-- What holds of an iteration: of the elements that have stayed, those before its index were
visited, once, or have overtaken it, and those after it are still to be visited. -/
structure Sound (c : Cursor α) (l : List α) : Prop where
  mem : ∀ x ∈ c.stayed, x ∈ l
  before : ∀ x ∈ c.stayed, x ∈ l.take c.next → x ∈ c.visited ∨ x ∈ c.overtaken
  after : ∀ x ∈ c.stayed, x ∈ l.drop c.next → x ∉ c.visited
  overtaken : ∀ x ∈ c.stayed, x ∈ c.overtaken → x ∈ l.take c.next ∧ x ∉ c.visited
  once : ∀ x ∈ c.stayed, c.visited.count x ≤ 1

variable {c c' : Cursor α} {l l' : List α} {x : α}

theorem sound_start (l : List α) : (start l).Sound l where
  mem _ hx := hx
  before _ _ hx := by simp [start] at hx
  after _ _ _ := by simp [start]
  overtaken _ _ hx := by simp [start] at hx
  once _ _ := by simp [start]

/-- A step of the iteration. -/
theorem Sound.visit (h : c.Sound l) (hnodup : l.Nodup) (hvisit : c.visit l = some (x, c')) :
    c'.Sound l := by
  obtain ⟨y, hy, heq⟩ := Option.map_eq_some_iff.1 hvisit
  obtain ⟨rfl, rfl⟩ := Prod.mk.inj heq
  obtain ⟨hlt, hget⟩ := List.getElem?_eq_some_iff.1 hy
  -- the element is the first after the index, and the last before the new one
  have htake : l.take (c.next + 1) = l.take c.next ++ [y] := by
    rw [List.take_add_one, hy]
    rfl
  have hdrop : l.drop c.next = y :: l.drop (c.next + 1) := by
    rw [List.drop_eq_getElem_cons hlt, hget]
  have hnot : y ∉ l.drop (c.next + 1) := by
    have hsuffix := hnodup.sublist (List.drop_sublist c.next l)
    rw [hdrop] at hsuffix
    exact (List.nodup_cons.1 hsuffix).1
  refine ⟨h.mem, fun z hz hbefore => ?_, fun z hz hafter => ?_, fun z hz hover => ?_,
    fun z hz => ?_⟩
  · simp only [htake] at hbefore
    rcases List.mem_append.1 hbefore with hold | hnew
    · exact (h.before z hz hold).imp (fun hz => List.mem_append_left _ hz) id
    · exact .inl (List.mem_append_right _ hnew)
  · intro hvisited
    rcases List.mem_append.1 hvisited with hold | hnew
    · exact h.after z hz (hdrop ▸ List.mem_cons_of_mem _ hafter) hold
    · exact hnot (List.mem_singleton.1 hnew ▸ hafter)
  · obtain ⟨hbefore, hvisited⟩ := h.overtaken z hz hover
    refine ⟨htake ▸ List.mem_append_left _ hbefore, fun hvisited' => ?_⟩
    rcases List.mem_append.1 hvisited' with hold | hnew
    · exact hvisited hold
    · refine not_mem_drop_of_mem_take hnodup hbefore ?_
      rw [hdrop, List.mem_singleton.1 hnew]
      exact List.mem_cons_self
  · simp only [List.count_append]
    by_cases hzy : z = y
    · subst hzy
      have hnew : z ∉ c.visited := h.after z hz (hdrop ▸ List.mem_cons_self)
      simp [List.count_eq_zero_of_not_mem hnew]
    · have hcount : [y].count z = 0 := List.count_eq_zero_of_not_mem (by simpa using hzy)
      rw [hcount]
      exact h.once z hz

/-- A step of the others. -/
theorem Sound.change (h : c.Sound l) (hnodup : l.Nodup) (hchanges : Changes l l') :
    (c.change l l').Sound l' := by
  have hstayed : ∀ x ∈ (c.change l l').stayed, x ∈ c.stayed ∧ x ∈ l' := by
    intro x hx
    simpa [Cursor.change] using hx
  refine ⟨fun x hx => (hstayed x hx).2, fun x hx hbefore => ?_, fun x hx hafter => ?_,
    fun x hx hover => ?_, fun x hx => h.once x (hstayed x hx).1⟩
  · obtain ⟨hx, -⟩ := hstayed x hx
    rcases mem_take_or_drop c.next (h.mem x hx) with hold | hnew
    · exact (h.before x hx hold).imp id fun hover => List.mem_append_left _ hover
    · exact .inr (List.mem_append_right _ (List.mem_filter.2 ⟨hnew, decide_eq_true hbefore⟩))
  · obtain ⟨hx, -⟩ := hstayed x hx
    exact h.after x hx (hchanges.mem_drop (h.mem x hx) hafter)
  · obtain ⟨hx, hmem⟩ := hstayed x hx
    rcases List.mem_append.1 hover with hold | hnew
    · obtain ⟨hbefore, hvisited⟩ := h.overtaken x hx hold
      refine ⟨?_, hvisited⟩
      rcases mem_take_or_drop c.next hmem with hbefore' | hafter
      · exact hbefore'
      · exact absurd (hchanges.mem_drop (h.mem x hx) hafter)
          (not_mem_drop_of_mem_take hnodup hbefore)
    · obtain ⟨hafter, hbefore⟩ := List.mem_filter.1 hnew
      exact ⟨of_decide_eq_true hbefore, h.after x hx hafter⟩

theorem Sound.keep (h : c.Sound l) (l' : List α) : (c.keep l').Sound l := by
  have hstayed : ∀ x ∈ (c.keep l').stayed, x ∈ c.stayed := fun x hx => (List.mem_filter.1 hx).1
  exact ⟨fun x hx => h.mem x (hstayed x hx), fun x hx => h.before x (hstayed x hx),
    fun x hx => h.after x (hstayed x hx), fun x hx => h.overtaken x (hstayed x hx),
    fun x hx => h.once x (hstayed x hx)⟩

/-- **In the end** every element that has stayed was visited once, if and only if none of them has
overtaken the iteration. -/
theorem Sound.visited_once_iff (h : c.Sound l) (hend : c.visit l = none) :
    (∀ x ∈ c.stayed, c.visited.count x = 1) ↔ ∀ x ∈ c.stayed, x ∉ c.overtaken := by
  refine forall₂_congr fun x hx => ?_
  have htake : x ∈ l.take c.next := by
    rw [List.take_of_length_le (visit_eq_none_iff.1 hend)]
    exact h.mem x hx
  constructor
  · intro hcount hover
    rw [List.count_eq_zero_of_not_mem (h.overtaken x hx hover).2] at hcount
    cases hcount
  · intro hover
    have hvisited := (h.before x hx htake).resolve_right hover
    exact Nat.le_antisymm (h.once x hx) (List.count_pos_iff.2 hvisited)

end Cursor

end OmsWmsTms
