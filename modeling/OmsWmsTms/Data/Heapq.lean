import Mathlib.Data.List.Basic
import Mathlib.Data.Nat.Init
import Mathlib.Order.Lattice
import Mathlib.Order.Nat

/-!
# Binary heaps in a list, as Python's `heapq` keeps them

A heap is a list in which the children of position `i` are the positions `2 * i + 1` and
`2 * i + 2`.  Entries are compared by a key alone, so that two entries with one key are not
ordered; which of them is popped first is decided by the layout, and `heappush` and `heappop`
therefore move the entries exactly as `heapq` does.

* `siftdown` moves an entry from a hole towards the root, `siftup` moves the hole to a leaf by
  lifting the smaller child and then sifts the entry down from there (the names are `heapq`'s).
* `IsHeap key heap` : no entry has a smaller key than its parent.
* `heappush_perm`, `heappop_perm` : the operations keep the entries.
* `isHeap_heappush`, `isHeap_heappop` : they keep the heap order.
* `heappop_le` : the popped entry has a least key.
-/

namespace OmsWmsTms

namespace Heapq

variable {α K : Type*} [LinearOrder K] (key : α → K)

/-- `heapq._siftdown` with start position `0`: the hole `pos` climbs while the entry is smaller
than the parent.  The first argument bounds the number of moves. -/
def siftdown (newitem : α) : ℕ → List α → ℕ → List α
  | 0, heap, pos => heap.set pos newitem
  | fuel + 1, heap, pos =>
    if 0 < pos then
      match heap[(pos - 1) / 2]? with
      | some parent =>
        if key newitem < key parent then
          siftdown newitem fuel (heap.set pos parent) ((pos - 1) / 2)
        else heap.set pos newitem
      | none => heap.set pos newitem
    else heap.set pos newitem

/-- `heapq._siftup`: the hole `pos` sinks to a leaf, each time lifting the smaller child (the
right one on a tie), and the entry is then sifted down from the leaf. -/
def siftup (newitem : α) : ℕ → List α → ℕ → List α
  | 0, heap, pos => siftdown key newitem pos heap pos
  | fuel + 1, heap, pos =>
    match heap[2 * pos + 1]?, heap[2 * pos + 2]? with
    | none, _ => siftdown key newitem pos heap pos
    | some left, none => siftup newitem fuel (heap.set pos left) (2 * pos + 1)
    | some left, some right =>
      if key left < key right then siftup newitem fuel (heap.set pos left) (2 * pos + 1)
      else siftup newitem fuel (heap.set pos right) (2 * pos + 2)

/-- `heapq.heappush`. -/
def heappush (heap : List α) (item : α) : List α :=
  siftdown key item heap.length (heap ++ [item]) heap.length

/-- `heapq.heappop`: the smallest entry and the remaining heap; `none` on an empty heap. -/
def heappop (heap : List α) : Option (α × List α) :=
  match heap.getLast? with
  | none => none
  | some lastelt =>
    match heap.dropLast with
    | [] => some (lastelt, [])
    | returnitem :: rest => some (returnitem, siftup key lastelt rest.length (lastelt :: rest) 0)

/-- The heap order: no entry has a smaller key than its parent. -/
def IsHeap (heap : List α) : Prop :=
  ∀ i a b, heap[(i - 1) / 2]? = some a → heap[i]? = some b → key a ≤ key b

/-! ### The entries are kept -/

/-- Moving the entry at `j` into the hole `i` and the new entry into `j` keeps the entries. -/
theorem set_set_perm_set {heap : List α} {i j : ℕ} {a x : α} (hi : i < heap.length)
    (hj : heap[j]? = some a) : ((heap.set i a).set j x).Perm (heap.set i x) := by
  obtain ⟨hjl, rfl⟩ := List.getElem?_eq_some_iff.1 hj
  by_cases hij : i = j
  · subst hij; simp
  · have h := @List.set_set_perm _ (heap.set i x) i j (by simpa using hi) (by simpa using hjl)
    simpa [List.getElem_set_ne hij] using h

theorem siftdown_perm (newitem : α) (fuel : ℕ) {heap : List α} {pos : ℕ}
    (hpos : pos < heap.length) :
    (siftdown key newitem fuel heap pos).Perm (heap.set pos newitem) := by
  induction fuel generalizing heap pos with
  | zero => exact .refl _
  | succ fuel ih =>
    unfold siftdown
    split
    · split
      · rename_i parent hparent
        split
        · refine (ih ?_).trans (set_set_perm_set hpos hparent)
          rw [List.length_set]; omega
        · exact .refl _
      · exact .refl _
    · exact .refl _

theorem siftup_perm (newitem : α) (fuel : ℕ) {heap : List α} {pos : ℕ}
    (hpos : pos < heap.length) :
    (siftup key newitem fuel heap pos).Perm (heap.set pos newitem) := by
  induction fuel generalizing heap pos with
  | zero => exact siftdown_perm key newitem pos hpos
  | succ fuel ih =>
    have hlt {i : ℕ} {a : α} (h : heap[i]? = some a) : i < (heap.set pos a).length := by
      rw [List.length_set]; exact (List.getElem?_eq_some_iff.1 h).1
    unfold siftup
    split
    · exact siftdown_perm key newitem pos hpos
    · rename_i left hl _
      exact (ih (hlt hl)).trans (set_set_perm_set hpos hl)
    · rename_i left right hl hr
      split
      · exact (ih (hlt hl)).trans (set_set_perm_set hpos hl)
      · exact (ih (hlt hr)).trans (set_set_perm_set hpos hr)

theorem heappush_perm (heap : List α) (item : α) :
    (heappush key heap item).Perm (item :: heap) := by
  refine (siftdown_perm key item _ (by simp)).trans ?_
  rw [List.set_append_right _ _ le_rfl]
  simp

/-- What `heappop` answers, by the shape of the heap: nothing on the empty one, the only entry of
a singleton, and otherwise the root, with the last entry sifted up from the root. -/
theorem heappop_cases (heap : List α) :
    (heap = [] ∧ heappop key heap = none) ∨
    (∃ x, heap = [x] ∧ heappop key heap = some (x, [])) ∨
    ∃ x rest last, heap = x :: (rest ++ [last]) ∧
      heappop key heap = some (x, siftup key last rest.length (last :: rest) 0) := by
  rcases List.eq_nil_or_concat heap with rfl | ⟨init, last, rfl⟩
  · exact .inl ⟨rfl, rfl⟩
  · cases init with
    | nil => exact .inr (.inl ⟨last, rfl, rfl⟩)
    | cons x rest =>
      refine .inr (.inr ⟨x, rest, last, by simp, ?_⟩)
      have hd : (List.concat (x :: rest) last).dropLast = x :: rest := by
        rw [List.concat_eq_append, List.dropLast_concat]
      have hl : (List.concat (x :: rest) last).getLast? = some last := by
        rw [List.concat_eq_append, List.getLast?_concat]
      unfold heappop
      rw [hl, hd]

theorem heappop_perm {heap heap' : List α} {item : α}
    (h : heappop key heap = some (item, heap')) : heap.Perm (item :: heap') := by
  rcases heappop_cases key heap with ⟨-, he⟩ | ⟨x, rfl, he⟩ | ⟨x, rest, last, rfl, he⟩
  · rw [he] at h; cases h
  · rw [he] at h; cases h; exact .refl _
  · rw [he] at h
    simp only [Option.some.injEq, Prod.mk.injEq] at h
    obtain ⟨rfl, rfl⟩ := h
    refine .cons _ ((@List.perm_append_comm _ rest [last]).trans ?_)
    have hpos : 0 < (last :: rest).length := Nat.succ_pos _
    exact (siftup_perm key last rest.length hpos).symm

theorem heappop_eq_none_iff {heap : List α} : heappop key heap = none ↔ heap = [] := by
  rcases heappop_cases key heap with ⟨rfl, he⟩ | ⟨x, rfl, he⟩ | ⟨x, rest, last, rfl, he⟩ <;>
    simp [he]

/-! ### The heap order is kept -/

/-- The order of a heap whose entry at `pos` is a hole: every other parent and child are in
order, and the hole's children are not below its parent. -/
structure HoleOrder (heap : List α) (pos : ℕ) : Prop where
  except : ∀ i a b, i ≠ pos → (i - 1) / 2 ≠ pos → heap[(i - 1) / 2]? = some a →
    heap[i]? = some b → key a ≤ key b
  grand : ∀ i a b, 0 < pos → i ≠ pos → (i - 1) / 2 = pos → heap[(pos - 1) / 2]? = some a →
    heap[i]? = some b → key a ≤ key b

variable {key}

theorem isHeap_nil : IsHeap key ([] : List α) := by
  intro i a b ha
  simp at ha

theorem isHeap_singleton (x : α) : IsHeap key [x] := by
  intro i a b ha hb
  have hi : i = 0 := by
    have := (List.getElem?_eq_some_iff.1 hb).1
    simpa using this
  subst hi
  rw [show (0 - 1) / 2 = 0 from rfl] at ha
  rw [ha] at hb
  cases hb
  exact le_rfl

/-- Off the root, the parent comes earlier in the list. -/
theorem parent_lt {i : ℕ} (h : 0 < i) : (i - 1) / 2 < i := by omega

theorem getElem?_set_of_ne {heap : List α} {i j : ℕ} (x : α) (h : i ≠ j) :
    (heap.set j x)[i]? = heap[i]? := by
  rw [List.getElem?_set_ne h.symm]

theorem getElem?_set_same {heap : List α} {i : ℕ} (x : α) (h : i < heap.length) :
    (heap.set i x)[i]? = some x := by
  simp [h]

/-- Filling the hole ends in a heap when the entry is neither below the hole's parent nor above
its children. -/
theorem HoleOrder.fill {heap : List α} {pos : ℕ} {x : α} (ho : HoleOrder key heap pos)
    (hpos : pos < heap.length)
    (habove : ∀ a, 0 < pos → heap[(pos - 1) / 2]? = some a → key a ≤ key x)
    (hbelow : ∀ i b, i ≠ pos → (i - 1) / 2 = pos → heap[i]? = some b → key x ≤ key b) :
    IsHeap key (heap.set pos x) := by
  intro i a b ha hb
  by_cases hi : i = pos
  · subst hi
    rw [getElem?_set_same x hpos] at hb
    cases hb
    by_cases hp : 0 < i
    · rw [getElem?_set_of_ne x (parent_lt hp).ne] at ha
      exact habove a hp ha
    · obtain rfl : i = 0 := by omega
      rw [show (0 - 1) / 2 = 0 from rfl, getElem?_set_same x hpos] at ha
      cases ha
      exact le_rfl
  · rw [getElem?_set_of_ne x hi] at hb
    by_cases hpi : (i - 1) / 2 = pos
    · rw [hpi, getElem?_set_same x hpos] at ha
      cases ha
      exact hbelow i b hi hpi hb
    · rw [getElem?_set_of_ne x hpi] at ha
      exact ho.except i a b hi hpi ha hb

/-- Moving the hole to the parent, where it leaves the parent's entry behind. -/
theorem HoleOrder.climb {heap : List α} {pos : ℕ} {parent : α} (ho : HoleOrder key heap pos)
    (hpos : pos < heap.length) (h0 : 0 < pos) (hp : heap[(pos - 1) / 2]? = some parent) :
    HoleOrder key (heap.set pos parent) ((pos - 1) / 2) := by
  have hlt := parent_lt h0
  refine ⟨fun i a b hi hpi ha hb => ?_, fun i a b h0' hi hpi ha hb => ?_⟩
  · by_cases hip : i = pos
    · exact absurd (congrArg (fun n => (n - 1) / 2) hip) hpi
    · rw [getElem?_set_of_ne _ hip] at hb
      by_cases hpp : (i - 1) / 2 = pos
      · rw [hpp, getElem?_set_same _ hpos] at ha
        cases ha
        exact ho.grand i parent b h0 hip hpp hp hb
      · rw [getElem?_set_of_ne _ hpp] at ha
        exact ho.except i a b hip hpp ha hb
  · have hgp : ((pos - 1) / 2 - 1) / 2 < pos := (parent_lt h0').trans hlt
    rw [getElem?_set_of_ne _ hgp.ne] at ha
    have hap : key a ≤ key parent :=
      ho.except _ a parent hlt.ne hgp.ne ha hp
    by_cases hip : i = pos
    · subst hip
      rw [getElem?_set_same _ hpos] at hb
      cases hb
      exact hap
    · rw [getElem?_set_of_ne _ hip] at hb
      exact hap.trans (ho.except i parent b hip (hpi ▸ hlt.ne) (hpi ▸ hp) hb)

/-- `siftdown` restores the heap order when the entry is not above the hole's children. -/
theorem isHeap_siftdown {newitem : α} {fuel : ℕ} {heap : List α} {pos : ℕ}
    (ho : HoleOrder key heap pos) (hpos : pos < heap.length) (hfuel : pos ≤ fuel)
    (hbelow : ∀ i b, i ≠ pos → (i - 1) / 2 = pos → heap[i]? = some b → key newitem ≤ key b) :
    IsHeap key (siftdown key newitem fuel heap pos) := by
  induction fuel generalizing heap pos with
  | zero => exact ho.fill hpos (fun _ h0 => absurd hfuel (by omega)) hbelow
  | succ fuel ih =>
    unfold siftdown
    split
    · rename_i h0
      have hlt := parent_lt h0
      split
      · rename_i parent hp
        split
        · rename_i hkey
          refine ih (ho.climb hpos h0 hp) (by rw [List.length_set]; omega) (by omega) ?_
          intro i b hi hpi hb
          by_cases hip : i = pos
          · subst hip
            rw [getElem?_set_same _ hpos] at hb
            cases hb
            exact hkey.le
          · rw [getElem?_set_of_ne _ hip] at hb
            exact hkey.le.trans (ho.except i parent b hip (hpi ▸ hlt.ne) (hpi ▸ hp) hb)
        · rename_i hkey
          refine ho.fill hpos (fun a _ ha => ?_) hbelow
          rw [hp] at ha
          cases ha
          exact not_lt.1 hkey
      · rename_i hnone
        rw [List.getElem?_eq_none_iff] at hnone
        omega
    · rename_i h0
      exact ho.fill hpos (fun a h => absurd h h0) hbelow

/-- Moving the hole to a least child, which takes the hole's place. -/
theorem HoleOrder.sink {heap : List α} {pos child : ℕ} {x : α} (ho : HoleOrder key heap pos)
    (hpos : pos < heap.length) (hc : heap[child]? = some x) (hlt : pos < child)
    (hchild : (child - 1) / 2 = pos)
    (hleast : ∀ i b, i ≠ pos → (i - 1) / 2 = pos → heap[i]? = some b → key x ≤ key b) :
    HoleOrder key (heap.set pos x) child := by
  refine ⟨fun i a b hi hpi ha hb => ?_, fun i a b _ hi hpi ha hb => ?_⟩
  · by_cases hip : i = pos
    · subst hip
      rw [getElem?_set_same _ hpos] at hb
      cases hb
      by_cases h0 : 0 < i
      · rw [getElem?_set_of_ne _ (parent_lt h0).ne] at ha
        exact ho.grand child a x h0 hlt.ne' hchild ha hc
      · obtain rfl : i = 0 := by omega
        rw [show (0 - 1) / 2 = 0 from rfl, getElem?_set_same _ hpos] at ha
        cases ha
        exact le_rfl
    · rw [getElem?_set_of_ne _ hip] at hb
      by_cases hpp : (i - 1) / 2 = pos
      · rw [hpp, getElem?_set_same _ hpos] at ha
        cases ha
        exact hleast i b hip hpp hb
      · rw [getElem?_set_of_ne _ hpp] at ha
        exact ho.except i a b hip hpp ha hb
  · rw [hchild, getElem?_set_same _ hpos] at ha
    cases ha
    have hip : i ≠ pos := by omega
    rw [getElem?_set_of_ne _ hip] at hb
    exact ho.except i _ b hip (by omega) (hpi ▸ hc) hb

/-- The positions below `pos` are its two children. -/
theorem child_eq {i pos : ℕ} (hi : i ≠ pos) (h : (i - 1) / 2 = pos) :
    i = 2 * pos + 1 ∨ i = 2 * pos + 2 := by omega

/-- `siftup` restores the heap order. -/
theorem isHeap_siftup {newitem : α} {fuel : ℕ} {heap : List α} {pos : ℕ}
    (ho : HoleOrder key heap pos) (hpos : pos < heap.length)
    (hfuel : heap.length ≤ fuel + pos + 1) :
    IsHeap key (siftup key newitem fuel heap pos) := by
  induction fuel generalizing heap pos with
  | zero =>
    refine isHeap_siftdown ho hpos le_rfl fun i b hi hpi hb => ?_
    have := (List.getElem?_eq_some_iff.1 hb).1
    omega
  | succ fuel ih =>
    have hlen {i : ℕ} {a : α} (h : heap[i]? = some a) : i < heap.length :=
      (List.getElem?_eq_some_iff.1 h).1
    unfold siftup
    split
    · rename_i hnone
      rw [List.getElem?_eq_none_iff] at hnone
      refine isHeap_siftdown ho hpos le_rfl fun i b hi hpi hb => ?_
      have := hlen hb
      omega
    · rename_i left hl hr
      rw [List.getElem?_eq_none_iff] at hr
      refine ih (ho.sink hpos hl (by omega) (by omega) fun i b hi hpi hb => ?_)
        (by rw [List.length_set]; exact hlen hl) (by rw [List.length_set]; omega)
      have := hlen hb
      obtain rfl : i = 2 * pos + 1 := by omega
      rw [hl] at hb
      cases hb
      exact le_rfl
    · rename_i left right hl hr
      have hleast (x : α) (hxl : key x ≤ key left) (hxr : key x ≤ key right) :
          ∀ i b, i ≠ pos → (i - 1) / 2 = pos → heap[i]? = some b → key x ≤ key b := by
        intro i b hi hpi hb
        rcases child_eq hi hpi with rfl | rfl
        · rw [hl] at hb; cases hb; exact hxl
        · rw [hr] at hb; cases hb; exact hxr
      split
      · rename_i hkey
        exact ih (ho.sink hpos hl (by omega) (by omega) (hleast left le_rfl hkey.le))
          (by rw [List.length_set]; exact hlen hl) (by rw [List.length_set]; omega)
      · rename_i hkey
        exact ih (ho.sink hpos hr (by omega) (by omega) (hleast right (not_lt.1 hkey) le_rfl))
          (by rw [List.length_set]; exact hlen hr) (by rw [List.length_set]; omega)

theorem isHeap_heappush {heap : List α} (h : IsHeap key heap) (item : α) :
    IsHeap key (heappush key heap item) := by
  have hold {i : ℕ} (hi : i ≠ heap.length) {b : α} (hb : (heap ++ [item])[i]? = some b) :
      heap[i]? = some b := by
    have := (List.getElem?_eq_some_iff.1 hb).1
    rw [List.length_append, List.length_singleton] at this
    rwa [List.getElem?_append_left (by omega)] at hb
  have hno (i : ℕ) (b : α) (hpi : (i - 1) / 2 = heap.length) :
      (heap ++ [item])[i]? = some b → i = heap.length := by
    intro hb
    have := (List.getElem?_eq_some_iff.1 hb).1
    rw [List.length_append, List.length_singleton] at this
    omega
  refine isHeap_siftdown ⟨fun i a b hi hpi ha hb => h i a b (hold hpi ha) (hold hi hb),
    fun i a b _ hi hpi _ hb => absurd (hno i b hpi hb) hi⟩ (by simp) le_rfl
    fun i b hi hpi hb => absurd (hno i b hpi hb) hi

theorem isHeap_heappop {heap heap' : List α} {item : α} (h : IsHeap key heap)
    (hpop : heappop key heap = some (item, heap')) : IsHeap key heap' := by
  rcases heappop_cases key heap with ⟨-, he⟩ | ⟨x, rfl, he⟩ | ⟨x, rest, last, rfl, he⟩
  · rw [he] at hpop; cases hpop
  · rw [he] at hpop; cases hpop; exact isHeap_nil
  · rw [he] at hpop
    simp only [Option.some.injEq, Prod.mk.injEq] at hpop
    obtain ⟨rfl, rfl⟩ := hpop
    -- off the root, the shortened heap has the entries of the old one
    have hold {i : ℕ} (hi : i ≠ 0) {b : α} (hb : (last :: rest)[i]? = some b) :
        (x :: (rest ++ [last]))[i]? = some b := by
      obtain ⟨n, rfl⟩ := Nat.exists_eq_succ_of_ne_zero hi
      have := (List.getElem?_eq_some_iff.1 hb).1
      simp only [List.length_cons, Nat.succ_eq_add_one] at this
      simp only [Nat.succ_eq_add_one, List.getElem?_cons_succ] at hb ⊢
      rw [List.getElem?_append_left (by omega)]
      exact hb
    refine isHeap_siftup ⟨fun i a b hi hpi ha hb => h i a b (hold hpi ha) (hold hi hb),
      fun i a b h0 => absurd h0 (lt_irrefl 0)⟩ (by simp) (by simp)

/-- The root has a least key. -/
theorem IsHeap.root_le {heap : List α} (h : IsHeap key heap) {r : α} (hr : heap[0]? = some r) :
    ∀ (i : ℕ) (b : α), heap[i]? = some b → key r ≤ key b := by
  intro i
  induction i using Nat.strong_induction_on with
  | _ i ih =>
    intro b hb
    by_cases h0 : i = 0
    · subst h0; rw [hr] at hb; cases hb; exact le_rfl
    · have hlt := parent_lt (Nat.pos_of_ne_zero h0)
      have hlen := (List.getElem?_eq_some_iff.1 hb).1
      obtain ⟨a, ha⟩ : ∃ a, heap[(i - 1) / 2]? = some a :=
        ⟨_, List.getElem?_eq_getElem (by omega)⟩
      exact (ih _ hlt a ha).trans (h i a b ha hb)

/-- **The popped entry has a least key.** -/
theorem heappop_le {heap heap' : List α} {item : α} (h : IsHeap key heap)
    (hpop : heappop key heap = some (item, heap')) : ∀ x ∈ heap, key item ≤ key x := by
  intro x hx
  obtain ⟨i, hi⟩ := List.mem_iff_getElem?.1 hx
  refine h.root_le ?_ i x hi
  rcases heappop_cases key heap with ⟨-, he⟩ | ⟨y, rfl, he⟩ | ⟨y, rest, last, rfl, he⟩ <;>
  · rw [he] at hpop
    cases hpop
    try rfl

example : heappop id (heappush id (heappush id (heappush id [] 5) 3) 4) = some (3, [4, 5]) := by
  decide

end Heapq

end OmsWmsTms
