import OmsWmsTms.Data.OrderBy
import Mathlib.Data.List.Pairwise

/-!
# Pages of a sorted query

`ORDER BY` leaves the order of the rows that compare equal to the database, which may choose another
one for the next query.  A walk through the pages asks a query for each.

* `Arranged` : the rows of a query in an order that `ORDER BY` allows.
* `page`, `walk` : a page of `LIMIT` and `OFFSET`, and some pages one after another.
* `Splits` : a place is inside a group of rows that compare equal.
* `walk_perm_iff` : whatever the choices, a walk returns each row once exactly when it is long enough
  and no page ends inside a group.
-/

namespace OmsWmsTms

namespace Paging

variable {α β : Type*} (r : α → α → Prop)

/-- The rows of a query, in an order that `ORDER BY` allows. -/
structure Arranged (rows l : List α) : Prop where
  perm : l.Perm rows
  sorted : l.Pairwise r

/-- A page, counted from zero. -/
def page (size k : ℕ) (l : List α) : List α := (l.drop (k * size)).take size

/-- The first pages, each from a query of its own. -/
def walk (size : ℕ) (choice : ℕ → List α) (pages : ℕ) : List α :=
  (List.range pages).flatMap fun k => page size k (choice k)

section

variable [DecidableRel r]

/-- A place has a row of a group before it and one after it. -/
def Splits (rows : List α) (n : ℕ) : Prop :=
  ∃ a ∈ rows, rows.countP (fun b => r b a ∧ ¬ r a b) < n ∧ n < rows.countP fun b => r b a

instance (rows : List α) (n : ℕ) : Decidable (Splits r rows n) :=
  inferInstanceAs (Decidable (∃ a ∈ rows, _ ∧ _))

end

variable {r} {rows l l' : List α} {p : α → Bool} {size pages : ℕ} {choice : ℕ → List α}

/-! ### Sorted rows -/

/-- What is closed downwards comes first. -/
theorem getElem_iff_lt_countP (hl : l.Pairwise r) (hp : ∀ a b, r a b → p b = true → p a = true)
    {i : ℕ} (hi : i < l.length) : p l[i] = true ↔ i < l.countP p := by
  induction l generalizing i with
  | nil => exact absurd hi (Nat.not_lt_zero i)
  | cons a l ih =>
    obtain ⟨ha, hl⟩ := List.pairwise_cons.1 hl
    by_cases hpa : p a = true
    · rw [List.countP_cons_of_pos hpa]
      cases i with
      | zero => exact iff_of_true hpa (Nat.succ_pos _)
      | succ i =>
        rw [List.getElem_cons_succ, ih hl (Nat.lt_of_succ_lt_succ hi), Nat.succ_lt_succ_iff]
    · -- then nothing after it is in
      have hnone : ∀ b ∈ l, ¬ p b = true := fun b hb hpb => hpa (hp a b (ha b hb) hpb)
      have hcount : (a :: l).countP p = 0 :=
        List.countP_eq_zero.2 (List.forall_mem_cons.2 ⟨hpa, hnone⟩)
      rw [hcount]
      refine iff_of_false (fun h => ?_) (Nat.not_lt_zero i)
      rcases List.mem_cons.1 (List.getElem_mem hi) with heq | hmem
      · exact hpa (heq ▸ h)
      · exact hnone _ hmem h

/-- The first rows are what is closed downwards, if they are as many. -/
theorem take_countP (hl : l.Pairwise r) (hp : ∀ a b, r a b → p b = true → p a = true) :
    l.take (l.countP p) = l.filter p := by
  have htake : ∀ a ∈ l.take (l.countP p), p a = true := by
    intro a ha
    obtain ⟨i, hi, rfl⟩ := List.mem_take_iff_getElem.1 ha
    exact (getElem_iff_lt_countP hl hp (by omega)).2 (by omega)
  have hdrop : ∀ a ∈ l.drop (l.countP p), ¬ p a = true := by
    intro a ha hpa
    obtain ⟨i, hi, rfl⟩ := List.mem_drop_iff_getElem.1 ha
    have hlt := (getElem_iff_lt_countP hl hp _).1 hpa
    omega
  conv => rhs; rw [← List.take_append_drop (l.countP p) l]
  rw [List.filter_append, List.filter_eq_self.2 htake, List.filter_eq_nil_iff.2 hdrop,
    List.append_nil]

/-! ### Pages -/

/-- Some pages of one order are its first rows. -/
theorem take_append_page (size k : ℕ) (l : List α) :
    l.take (k * size) ++ page size k l = l.take ((k + 1) * size) := by
  rw [page, Nat.succ_mul, List.take_add]

theorem walk_succ (size : ℕ) (choice : ℕ → List α) (pages : ℕ) :
    walk size choice (pages + 1) = walk size choice pages ++ page size pages (choice pages) := by
  rw [walk, List.range_succ, List.flatMap_append, List.flatMap_singleton]
  rfl

theorem walk_const (size : ℕ) (l : List α) (pages : ℕ) :
    walk size (fun _ => l) pages = l.take (pages * size) := by
  induction pages with
  | zero => rw [Nat.zero_mul, List.take_zero]; rfl
  | succ pages ih => rw [walk_succ, ih, take_append_page]

theorem mem_page {a : α} {i k : ℕ} (ha : l[i]? = some a) (hle : k * size ≤ i)
    (hlt : i < (k + 1) * size) : a ∈ page size k l := by
  rw [Nat.succ_mul] at hlt
  refine List.mem_of_getElem? (i := i - k * size) ?_
  rw [page, List.getElem?_take_of_lt (by omega), List.getElem?_drop, Nat.add_sub_cancel' hle, ha]

/-- Two pages of a walk that returns nothing twice have nothing in common. -/
theorem not_mem_page_of_nodup {f : α → β} (hnodup : ((walk size choice pages).map f).Nodup)
    {a : α} {j k : ℕ} (hj : j < pages) (hk : k < pages) (hne : j ≠ k)
    (haj : a ∈ page size j (choice j)) : a ∉ page size k (choice k) := by
  intro hak
  rw [walk, List.map_flatMap, List.nodup_flatMap] at hnodup
  have : Std.Symm (Function.onFun List.Disjoint fun k => (page size k (choice k)).map f) :=
    ⟨fun _ _ h _ ha hb => h hb ha⟩
  have hdisjoint := hnodup.2.forall (List.mem_range.2 hj) (List.mem_range.2 hk) hne
  exact hdisjoint (List.mem_map_of_mem haj) (List.mem_map_of_mem hak)

/-! ### Choices -/

section

variable [DecidableRel r] [IsTrans α r]

/-- What compares below a row, or equal to it, is closed downwards. -/
theorem below_closed (c a b : α) (hab : r a b) (hb : decide (r b c) = true) :
    decide (r a c) = true := decide_eq_true (trans_of r hab (of_decide_eq_true hb))

/-- So is what compares below it. -/
theorem strictlyBelow_closed (c a b : α) (hab : r a b)
    (hb : decide (r b c ∧ ¬ r c b) = true) : decide (r a c ∧ ¬ r c a) = true := by
  obtain ⟨hbc, hcb⟩ := of_decide_eq_true hb
  exact decide_eq_true ⟨trans_of r hab hbc, fun hca => hcb (trans_of r hca hab)⟩

/-- The group of a row: the places that come after what compares below it, and not after what
compares below it or equal. -/
theorem group_iff (h : Arranged r rows l) (a : α) {i : ℕ} (hi : i < l.length) :
    r l[i] a ∧ r a l[i] ↔
      rows.countP (fun b => r b a ∧ ¬ r a b) ≤ i ∧ i < rows.countP fun b => r b a := by
  have hbelow := getElem_iff_lt_countP h.sorted (below_closed a) hi
  have hstrictly := getElem_iff_lt_countP h.sorted (strictlyBelow_closed a) hi
  rw [h.perm.countP_eq, decide_eq_true_eq] at hbelow hstrictly
  rw [← hbelow, ← Nat.not_lt, ← hstrictly]
  exact ⟨fun h => ⟨fun h' => h'.2 h.2, h.1⟩, fun h => ⟨h.2, not_not.1 fun h' => h.1 ⟨h.2, h'⟩⟩⟩

variable [Std.Total r]

theorem arranged_orderBy (rows : List α) : Arranged r rows (orderBy r rows) :=
  ⟨orderBy_perm r rows, List.pairwise_insertionSort r rows⟩

/-- The rows before a place that splits no group. -/
theorem exists_countP_eq {n : ℕ} (hn : n ≤ rows.length) (hsplits : ¬ Splits r rows n) :
    ∃ p : α → Bool, (∀ a b, r a b → p b = true → p a = true) ∧ rows.countP p = n := by
  have h := arranged_orderBy (r := r) rows
  cases n with
  | zero =>
    refine ⟨fun _ => false, fun _ _ _ h => h, ?_⟩
    exact List.countP_eq_zero.2 fun _ _ h => by cases h
  | succ n =>
    have hlt : n < (orderBy r rows).length := by rw [h.perm.length_eq]; omega
    have hself := refl_of r (orderBy r rows)[n]
    obtain ⟨hstrict, hbelow⟩ := (group_iff h _ hlt).1 ⟨hself, hself⟩
    refine ⟨_, below_closed (orderBy r rows)[n], ?_⟩
    have hmem : (orderBy r rows)[n] ∈ rows := h.perm.mem_iff.1 (List.getElem_mem hlt)
    have hle := Nat.not_lt.1 fun hover => hsplits ⟨_, hmem, Nat.lt_succ_of_le hstrict, hover⟩
    omega

/-- Where no group is split, the rows before a place are the same in every order. -/
theorem take_perm (h : Arranged r rows l) (h' : Arranged r rows l') {n : ℕ}
    (hsplits : ¬ Splits r rows n) : (l.take n).Perm (l'.take n) := by
  by_cases hn : n ≤ rows.length
  · obtain ⟨p, hp, rfl⟩ := exists_countP_eq hn hsplits
    have hl := take_countP h.sorted hp
    have hl' := take_countP h'.sorted hp
    rw [h.perm.countP_eq] at hl
    rw [h'.perm.countP_eq] at hl'
    rw [hl, hl']
    exact (h.perm.trans h'.perm.symm).filter p
  · rw [List.take_of_length_le (by rw [h.perm.length_eq]; omega),
      List.take_of_length_le (by rw [h'.perm.length_eq]; omega)]
    exact h.perm.trans h'.perm.symm

/-- **Where no page ends inside a group, the choices do not matter.** -/
theorem walk_perm_take (hchoice : ∀ k, Arranged r rows (choice k)) (h : Arranged r rows l)
    (hsplits : ∀ k, ¬ Splits r rows (k * size)) (pages : ℕ) :
    (walk size choice pages).Perm (l.take (pages * size)) := by
  induction pages with
  | zero => rw [Nat.zero_mul, List.take_zero]; exact .nil
  | succ pages ih =>
    have hfirst := ih.trans (take_perm h (hchoice pages) (hsplits pages))
    rw [walk_succ]
    refine (hfirst.append_right _).trans ?_
    rw [take_append_page]
    exact take_perm (hchoice pages) h (hsplits (pages + 1))

/-- Two orders that disagree on which row of a group comes before a place. -/
theorem exists_swapped {n : ℕ} (hsplits : Splits r rows (n + 1)) :
    ∃ l l' a, Arranged r rows l ∧ Arranged r rows l' ∧ l[n]? = some a ∧ l'[n + 1]? = some a := by
  obtain ⟨c, -, hbefore, hafter⟩ := hsplits
  have h := arranged_orderBy (r := r) rows
  generalize orderBy r rows = l at h
  have hlength : n + 1 < l.length := by
    rw [h.perm.length_eq]
    exact lt_of_lt_of_le hafter List.countP_le_length
  obtain ⟨hxc, hcx⟩ := (group_iff h c (by omega : n < l.length)).2 ⟨by omega, by omega⟩
  obtain ⟨hyc, hcy⟩ := (group_iff h c hlength).2 ⟨by omega, hafter⟩
  have hdrop : l.drop n = l[n] :: l[n + 1] :: l.drop (n + 2) := by
    rw [List.drop_eq_getElem_cons (by omega), List.drop_eq_getElem_cons hlength]
  have hx : l[n]? = some l[n] := List.getElem?_eq_getElem (by omega)
  have htake : (l.take n).length = n := List.length_take_of_le (by omega)
  have hperm := h.perm
  have hsorted := h.sorted
  rw [← List.take_append_drop n l, hdrop] at hperm hsorted
  refine ⟨l, l.take n ++ l[n + 1] :: l[n] :: l.drop (n + 2), l[n], h, ⟨?_, ?_⟩, hx, ?_⟩
  · exact ((List.Perm.swap _ _ _).append_left _).trans hperm
  · -- the two rows compare equal
    rw [List.pairwise_append, List.pairwise_cons, List.pairwise_cons, List.forall_mem_cons] at *
    obtain ⟨hfirst, ⟨⟨-, hxrest⟩, hyrest, hrest⟩, hcross⟩ := hsorted
    refine ⟨hfirst, ⟨⟨trans_of r hyc hcx, hyrest⟩, hxrest, hrest⟩, fun a ha b hb => ?_⟩
    exact hcross a ha b ((List.Perm.swap _ _ _).mem_iff.1 hb)
  · rw [List.getElem?_append_right (by omega), htake, Nat.add_sub_cancel_left]
    rfl

/-- **Whatever the choices, a walk returns each row once exactly when** it is long enough and no
page ends inside a group. -/
theorem walk_perm_iff {f : α → β} (hsize : 0 < size) (hnodup : (rows.map f).Nodup) (pages : ℕ) :
    (∀ choice, (∀ k, Arranged r rows (choice k)) →
        ((walk size choice pages).map f).Perm (rows.map f)) ↔
      rows.length ≤ pages * size ∧ ∀ k, ¬ Splits r rows (k * size) := by
  have hsorted := arranged_orderBy (r := r) rows
  constructor
  · intro h
    have hlength : rows.length ≤ pages * size := by
      have hperm := (h _ fun _ => hsorted).length_eq
      rw [walk_const, List.length_map, List.length_map, List.length_take] at hperm
      omega
    refine ⟨hlength, fun k hsplits => ?_⟩
    obtain ⟨c, -, hbefore, hafter⟩ := id hsplits
    have hle : rows.countP (fun b => r b c) ≤ rows.length := List.countP_le_length
    obtain ⟨n, hn⟩ := Nat.exists_eq_succ_of_ne_zero (by omega : k * size ≠ 0)
    have hk : 0 < k := Nat.pos_of_ne_zero fun hk => by rw [hk, Nat.zero_mul] at hn; omega
    have hpages : k < pages := Nat.lt_of_mul_lt_mul_right (by omega : k * size < pages * size)
    rw [hn] at hsplits
    obtain ⟨l, l', a, hl, hl', ha, ha'⟩ := exists_swapped hsplits
    -- the page before the place and the page after it return the same row
    have hwalk := h (fun j => if j < k then l else l') fun j => by
      split_ifs <;> assumption
    have hmem : a ∈ page size (k - 1) (if k - 1 < k then l else l') := by
      rw [if_pos (by omega)]
      have hprev : (k - 1 + 1) * size = (k - 1) * size + size := Nat.succ_mul _ _
      rw [Nat.sub_add_cancel hk] at hprev
      exact mem_page ha (by omega) (by rw [Nat.sub_add_cancel hk]; omega)
    refine not_mem_page_of_nodup (hwalk.nodup_iff.2 hnodup) (by omega) hpages (by omega) hmem ?_
    rw [if_neg (Nat.lt_irrefl k)]
    exact mem_page ha' (by omega) (by rw [Nat.succ_mul]; omega)
  · rintro ⟨hlength, hsplits⟩ choice hchoice
    have hperm := walk_perm_take hchoice hsorted hsplits pages
    rw [List.take_of_length_le (by rw [hsorted.perm.length_eq]; exact hlength)] at hperm
    exact (hperm.trans hsorted.perm).map f

end

end Paging

end OmsWmsTms
