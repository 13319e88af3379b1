import OmsWmsTms.Wms.StockOutOrder

/-!
# The allocation of `stock_out`

The part of `stock_out` of `src/wms/service.py` between the query of the rows and the log: the
batches are sorted by the strategy, and what is needed is taken from one after another.  The
decimals are exact, the clock is read once.

* `HeldRow`, `hold` : a row in the session.
* `deduct` : the loop.
* `allocate` : the selection, the sort and the loop.
* `Allocates` : what they are to do.
* `deduct_conserves`, `deduct_remaining`, `deduct_greedy` : the laws of the loop.
-/

namespace OmsWmsTms

namespace Wms

/-! ### The model -/

/-- A row in the session: as it was read, and what the call has set. -/
structure HeldRow where
  /-- The row as it was read. -/
  inv : Inventory
  /-- The quantity. -/
  quantity : ℚ
  /-- When it was last changed. -/
  updatedAt : ℤ
deriving DecidableEq

/-- A row that has been read. -/
def hold (inv : Inventory) : HeldRow := ⟨inv, inv.quantity, inv.updatedAt⟩

@[simp] theorem hold_inv (inv : Inventory) : (hold inv).inv = inv := rfl

/-- What is available of a row. -/
def HeldRow.available (row : HeldRow) : ℚ := row.quantity - row.inv.lockedQty

/-- The call has changed the row. -/
def HeldRow.Touched (row : HeldRow) : Prop := row ≠ hold row.inv

/-- The deduction loop: the rows, and what remains to be taken. -/
def deduct (now : ℤ) (remaining : ℚ) : List Inventory → List HeldRow × ℚ
  | [] => ([], remaining)
  | inv :: rest =>
    let take := min remaining inv.available
    if 0 < take then
      let (rows, left) := deduct now (remaining - take) rest
      (⟨inv, inv.quantity - take, now⟩ :: rows, left)
    else
      let (rows, left) := deduct now remaining rest
      (hold inv :: rows, left)

/-- The row is a batch. -/
def isBatch (inv : Inventory) : Bool :=
  decide (0 < inv.available) && decide (0 < inv.quantity.toRat)

/-- The rows of the SKU in the warehouse after the selection, the sort and the loop, and what
remains to be taken or the exception. -/
def allocate (now : ℤ) (strategy : String) (need : ℚ) (rows : List Inventory) :
    List HeldRow × Except ServiceError ℚ :=
  let selected := rows.filter fun inv => decide (0 < inv.quantity.toRat)
  if selected = [] then
    (rows.map hold,
      .error (.validation "No stock available for this SKU in this warehouse" none))
  else
    let batches := selected.filter fun inv => decide (0 < inv.available)
    match sortBatches strategy batches with
    | none => (rows.map hold, .error .typeError)
    | some sorted =>
      if (batches.map Inventory.available).sum < need then
        (rows.map hold, .error (.validation "Insufficient stock" none))
      else
        let (taken, remaining) := deduct now need sorted
        (taken ++ (rows.filter fun inv => !isBatch inv).map hold, .ok remaining)

/-! ### What it is to do -/

/-- What is available of the rows. -/
def availableTotal (rows : List Inventory) : ℚ := (rows.map Inventory.available).sum

/-- The quantities of the rows. -/
def quantityTotal (rows : List HeldRow) : ℚ := (rows.map HeldRow.quantity).sum

/-- A row is touched only if nothing is left of those before it. -/
def Greedy (rows : List HeldRow) : Prop :=
  rows.Pairwise fun row later => later.Touched → row.available = 0

/-- The allocation takes what is needed if there is enough, and otherwise nothing. -/
structure Allocates (now : ℤ) (strategy : String) (need : ℚ) (rows : List Inventory) : Prop where
  /-- Nothing remains. -/
  done : need ≤ availableTotal rows → (allocate now strategy need rows).2 = .ok 0
  /-- The total drops by what is needed. -/
  total : need ≤ availableTotal rows →
    quantityTotal (allocate now strategy need rows).1 = quantityTotal (rows.map hold) - need
  /-- No row falls below its lock. -/
  locked : need ≤ availableTotal rows → ∀ row ∈ (allocate now strategy need rows).1,
    row.inv.lockedQty.toRat ≤ row.quantity
  /-- In the order of the strategy, a row is touched only if nothing is left of those before it. -/
  greedy : need ≤ availableTotal rows → ∃ ordered,
    ordered.Perm (allocate now strategy need rows).1 ∧
    ordered.map HeldRow.inv = orderBy (keyLe strategy) rows ∧ Greedy ordered
  /-- If there is not enough, it raises and changes nothing. -/
  refused : availableTotal rows < need → (∃ e, (allocate now strategy need rows).2 = .error e) ∧
    (allocate now strategy need rows).1 = rows.map hold

/-! ### The loop -/

variable {now : ℤ}

theorem deduct_of_take {remaining : ℚ} {inv : Inventory} {rest : List Inventory}
    (h : 0 < min remaining inv.available) :
    deduct now remaining (inv :: rest) =
      (⟨inv, inv.quantity - min remaining inv.available, now⟩ ::
        (deduct now (remaining - min remaining inv.available) rest).1,
      (deduct now (remaining - min remaining inv.available) rest).2) := by
  rw [deduct, if_pos h]

theorem deduct_of_not_take {remaining : ℚ} {inv : Inventory} {rest : List Inventory}
    (h : ¬ 0 < min remaining inv.available) :
    deduct now remaining (inv :: rest) =
      (hold inv :: (deduct now remaining rest).1, (deduct now remaining rest).2) := by
  rw [deduct, if_neg h]

/-- The loop keeps the rows and their order. -/
theorem deduct_map_inv (remaining : ℚ) (rows : List Inventory) :
    (deduct now remaining rows).1.map HeldRow.inv = rows := by
  induction rows generalizing remaining with
  | nil => rfl
  | cons inv rest ih =>
    by_cases h : 0 < min remaining inv.available
    · rw [deduct_of_take h, List.map_cons, ih]
    · rw [deduct_of_not_take h, List.map_cons, ih]
      rfl

/-- When nothing is to be taken, nothing is touched. -/
theorem deduct_of_nonpos {remaining : ℚ} (h : remaining ≤ 0) (rows : List Inventory) :
    deduct now remaining rows = (rows.map hold, remaining) := by
  induction rows with
  | nil => rfl
  | cons inv rest ih =>
    have htake : ¬ 0 < min remaining inv.available := not_lt.2 ((min_le_left _ _).trans h)
    rw [deduct_of_not_take htake, ih, List.map_cons]

/-- What is taken from the rows no longer remains. -/
theorem deduct_conserves (now : ℤ) (remaining : ℚ) (rows : List Inventory) :
    quantityTotal (deduct now remaining rows).1 + remaining =
      quantityTotal (rows.map hold) + (deduct now remaining rows).2 := by
  induction rows generalizing remaining with
  | nil => rfl
  | cons inv rest ih =>
    unfold quantityTotal at *
    by_cases h : 0 < min remaining inv.available
    · have hrest := ih (remaining - min remaining inv.available)
      rw [deduct_of_take h, List.map_cons, List.map_cons, List.map_cons, List.sum_cons,
        List.sum_cons]
      simp only [hold] at *
      linarith
    · have hrest := ih remaining
      rw [deduct_of_not_take h, List.map_cons, List.map_cons, List.map_cons, List.sum_cons,
        List.sum_cons]
      linarith

/-- The loop takes all that is available, or all that is needed. -/
theorem deduct_remaining {remaining : ℚ} (hremaining : 0 ≤ remaining) {rows : List Inventory}
    (hrows : ∀ inv ∈ rows, 0 ≤ inv.available) :
    (deduct now remaining rows).2 = max 0 (remaining - availableTotal rows) := by
  induction rows generalizing remaining with
  | nil =>
    show remaining = max 0 (remaining - 0)
    rw [sub_zero, max_eq_right hremaining]
  | cons inv rest ih =>
    obtain ⟨hinv, hrest⟩ := List.forall_mem_cons.1 hrows
    have htotal : 0 ≤ availableTotal rest := by
      refine List.sum_nonneg fun x hx => ?_
      obtain ⟨row, hrow, rfl⟩ := List.mem_map.1 hx
      exact hrest row hrow
    have hsum : availableTotal (inv :: rest) = inv.available + availableTotal rest := by
      rw [availableTotal, List.map_cons, List.sum_cons, availableTotal]
    rw [hsum]
    by_cases h : 0 < min remaining inv.available
    · rw [deduct_of_take h]
      rcases le_total remaining inv.available with hle | hle
      · rw [min_eq_left hle, sub_self, deduct_of_nonpos le_rfl, max_eq_left]
        linarith
      · rw [min_eq_right hle, ih (sub_nonneg.2 hle) hrest, sub_sub]
    · rw [deduct_of_not_take h]
      rcases lt_min_iff.not.1 h |> not_and_or.1 with hle | hle
      · have hzero : remaining = 0 := le_antisymm (not_lt.1 hle) hremaining
        rw [hzero, deduct_of_nonpos le_rfl, max_eq_left]
        linarith
      · have hzero : inv.available = 0 := le_antisymm (not_lt.1 hle) hinv
        rw [ih hremaining hrest, hzero, zero_add]

/-- The loop takes no more than what is not locked. -/
theorem deduct_locked {remaining : ℚ} {rows : List Inventory}
    (hrows : ∀ inv ∈ rows, inv.lockedQty.toRat ≤ inv.quantity) :
    ∀ row ∈ (deduct now remaining rows).1, row.inv.lockedQty.toRat ≤ row.quantity := by
  induction rows generalizing remaining with
  | nil => exact fun row hrow => absurd hrow List.not_mem_nil
  | cons inv rest ih =>
    obtain ⟨hinv, hrest⟩ := List.forall_mem_cons.1 hrows
    by_cases h : 0 < min remaining inv.available
    · rw [deduct_of_take h, List.forall_mem_cons]
      refine ⟨?_, ih hrest⟩
      have htake : min remaining inv.available ≤ inv.quantity - inv.lockedQty := min_le_right _ _
      show inv.lockedQty.toRat ≤ inv.quantity - min remaining inv.available
      linarith
    · rw [deduct_of_not_take h, List.forall_mem_cons]
      exact ⟨hinv, ih hrest⟩

/-- The loop uses a row up before it touches a later one. -/
theorem deduct_greedy {remaining : ℚ} {rows : List Inventory}
    (hrows : ∀ inv ∈ rows, 0 ≤ inv.available) : Greedy (deduct now remaining rows).1 := by
  induction rows generalizing remaining with
  | nil => exact List.Pairwise.nil
  | cons inv rest ih =>
    obtain ⟨hinv, hrest⟩ := List.forall_mem_cons.1 hrows
    have huntouched : ∀ {left : ℚ}, left ≤ 0 → ∀ row ∈ (deduct now left rest).1, ¬ row.Touched := by
      intro left hleft row hrow
      rw [deduct_of_nonpos hleft] at hrow
      obtain ⟨inv', -, rfl⟩ := List.mem_map.1 hrow
      exact not_not.2 rfl
    by_cases h : 0 < min remaining inv.available
    · rw [deduct_of_take h]
      refine List.pairwise_cons.2 ⟨fun row hrow htouched => ?_, ih hrest⟩
      rcases le_total remaining inv.available with hle | hle
      · rw [min_eq_left hle, sub_self] at hrow
        exact absurd htouched (huntouched le_rfl row hrow)
      · show inv.quantity - min remaining inv.available - inv.lockedQty = 0
        rw [min_eq_right hle, Inventory.available]
        ring
    · rw [deduct_of_not_take h]
      refine List.pairwise_cons.2 ⟨fun row hrow htouched => ?_, ih hrest⟩
      rcases lt_min_iff.not.1 h |> not_and_or.1 with hle | hle
      · exact absurd htouched (huntouched (not_lt.1 hle) row hrow)
      · exact le_antisymm (not_lt.1 hle) hinv

/-- Rows without anything available are passed over. -/
theorem deduct_filter (now : ℤ) (remaining : ℚ) {rows : List Inventory}
    (hrows : ∀ inv ∈ rows, isBatch inv = false → inv.available = 0) :
    (deduct now remaining rows).1.filter (fun row => isBatch row.inv) =
        (deduct now remaining (rows.filter isBatch)).1 ∧
      (deduct now remaining rows).1.filter (fun row => !isBatch row.inv) =
        (rows.filter fun inv => !isBatch inv).map hold := by
  induction rows generalizing remaining with
  | nil => exact ⟨rfl, rfl⟩
  | cons inv rest ih =>
    obtain ⟨hinv, hrest⟩ := List.forall_mem_cons.1 hrows
    by_cases hbatch : isBatch inv = true
    · rw [List.filter_cons_of_pos hbatch, List.filter_cons_of_neg (by simp [hbatch])]
      by_cases h : 0 < min remaining inv.available
      · obtain ⟨hpos, hneg⟩ := ih (remaining - min remaining inv.available) hrest
        rw [deduct_of_take h, deduct_of_take h, List.filter_cons_of_pos (by simpa using hbatch),
          List.filter_cons_of_neg (by simpa using hbatch), hpos, hneg]
        exact ⟨rfl, rfl⟩
      · obtain ⟨hpos, hneg⟩ := ih remaining hrest
        rw [deduct_of_not_take h, deduct_of_not_take h,
          List.filter_cons_of_pos (by simpa using hbatch),
          List.filter_cons_of_neg (by simpa using hbatch), hpos, hneg]
        exact ⟨rfl, rfl⟩
    · have hzero : inv.available = 0 := hinv (Bool.not_eq_true _ ▸ hbatch)
      have h : ¬ 0 < min remaining inv.available := by
        rw [hzero]
        exact not_lt.2 (min_le_right _ _)
      obtain ⟨hpos, hneg⟩ := ih remaining hrest
      rw [List.filter_cons_of_neg hbatch, List.filter_cons_of_pos (by simpa using hbatch),
        deduct_of_not_take h, List.filter_cons_of_neg (by simpa using hbatch),
        List.filter_cons_of_pos (by simpa using hbatch), hpos, hneg]
      exact ⟨rfl, rfl⟩

/-! ### The allocation -/

section

variable {strategy : String} {need : ℚ} {rows : List Inventory}

/-- The rows that the sort is about. -/
theorem batches_eq (rows : List Inventory) :
    ((rows.filter fun inv => decide (0 < inv.quantity.toRat)).filter fun inv =>
      decide (0 < inv.available)) = rows.filter isBatch := by
  rw [List.filter_filter]
  rfl

/-- The allocation, with the batches in one selection. -/
theorem allocate_eq (strategy : String) (need : ℚ) (rows : List Inventory) :
    allocate now strategy need rows =
      if (rows.filter fun inv => decide (0 < inv.quantity.toRat)) = [] then
        (rows.map hold,
          .error (.validation "No stock available for this SKU in this warehouse" none))
      else match sortBatches strategy (rows.filter isBatch) with
        | none => (rows.map hold, .error .typeError)
        | some sorted =>
          if availableTotal (rows.filter isBatch) < need then
            (rows.map hold, .error (.validation "Insufficient stock" none))
          else ((deduct now need sorted).1 ++ (rows.filter fun inv => !isBatch inv).map hold,
            .ok (deduct now need sorted).2) := by
  rw [← batches_eq]
  rfl

theorem isBatch_iff {inv : Inventory} (hinv : 0 ≤ inv.lockedQty.toRat) :
    isBatch inv = true ↔ 0 < inv.available := by
  rw [isBatch, Bool.and_eq_true, decide_eq_true_eq, decide_eq_true_eq]
  refine and_iff_left_of_imp fun h => ?_
  rw [Inventory.available] at h
  linarith

theorem availableTotal_filter (hrows : ∀ inv ∈ rows, isBatch inv = false → inv.available = 0) :
    availableTotal (rows.filter isBatch) = availableTotal rows := by
  induction rows with
  | nil => rfl
  | cons inv rest ih =>
    obtain ⟨hinv, hrest⟩ := List.forall_mem_cons.1 hrows
    unfold availableTotal at *
    by_cases hbatch : isBatch inv = true
    · rw [List.filter_cons_of_pos hbatch, List.map_cons, List.sum_cons, ih hrest, List.map_cons,
        List.sum_cons]
    · rw [List.filter_cons_of_neg hbatch, List.map_cons, List.sum_cons, ih hrest,
        hinv (Bool.not_eq_true _ ▸ hbatch), zero_add]

/-- The rows of an allocation that does not raise. -/
def allocated (now : ℤ) (strategy : String) (need : ℚ) (rows : List Inventory) : List HeldRow :=
  (deduct now need (orderBy (keyLe strategy) (rows.filter isBatch))).1 ++
    (rows.filter fun inv => !isBatch inv).map hold

/-- The allocation, when the keys of the batches can be compared and there is enough. -/
theorem allocate_eq_allocated (hstock : ∃ inv ∈ rows, 0 < inv.quantity.toRat)
    (hkeys : ∀ a ∈ rows.filter isBatch, ∀ b ∈ rows.filter isBatch, KeysCompare strategy a b)
    (henough : need ≤ availableTotal (rows.filter isBatch)) :
    allocate now strategy need rows = (allocated now strategy need rows,
      .ok (deduct now need (orderBy (keyLe strategy) (rows.filter isBatch))).2) := by
  have hselected : (rows.filter fun inv => decide (0 < inv.quantity.toRat)) ≠ [] := by
    obtain ⟨inv, hinv, hquantity⟩ := hstock
    exact List.ne_nil_of_mem (List.mem_filter.2 ⟨hinv, decide_eq_true hquantity⟩)
  rw [allocate_eq, if_neg hselected, sortBatches_eq_orderBy hkeys]
  exact if_neg (not_lt.2 henough)

/-- Nothing remains when there is enough. -/
theorem remaining_eq_zero (hrows : ∀ inv ∈ rows, 0 ≤ inv.available) (hneed : 0 ≤ need)
    (henough : need ≤ availableTotal (rows.filter isBatch)) :
    (deduct now need (orderBy (keyLe strategy) (rows.filter isBatch))).2 = 0 := by
  have hperm := orderBy_perm (keyLe strategy) (rows.filter isBatch)
  have htotal : availableTotal (orderBy (keyLe strategy) (rows.filter isBatch)) =
      availableTotal (rows.filter isBatch) := (hperm.map Inventory.available).sum_eq
  rw [deduct_remaining hneed fun inv hinv =>
    hrows inv (List.mem_of_mem_filter (hperm.mem_iff.1 hinv)), htotal]
  exact max_eq_left (sub_nonpos.2 henough)

/-- The rows keep what is not taken. -/
theorem quantityTotal_allocated (now : ℤ) (strategy : String) (need : ℚ) (rows : List Inventory) :
    quantityTotal (allocated now strategy need rows) + need = quantityTotal (rows.map hold) +
      (deduct now need (orderBy (keyLe strategy) (rows.filter isBatch))).2 := by
  have hconserves := deduct_conserves now need
    (orderBy (keyLe strategy) (rows.filter isBatch))
  have hperm : (orderBy (keyLe strategy) (rows.filter isBatch) ++
      rows.filter fun inv => !isBatch inv).Perm rows :=
    ((orderBy_perm _ _).append_right _).trans (List.filter_append_perm isBatch rows)
  have hsum := ((hperm.map hold).map HeldRow.quantity).sum_eq
  rw [List.map_append, List.map_append, List.sum_append] at hsum
  rw [allocated]
  unfold quantityTotal at *
  rw [List.map_append, List.sum_append]
  linarith

/-- The rows in the order of the strategy, each of them used up before a later one is touched. -/
theorem exists_greedy_allocated (now : ℤ) (strategy : String) (need : ℚ)
    (hrows : ∀ inv ∈ rows, 0 ≤ inv.available)
    (hzero : ∀ inv ∈ rows, isBatch inv = false → inv.available = 0) :
    ∃ ordered, ordered.Perm (allocated now strategy need rows) ∧
      ordered.map HeldRow.inv = orderBy (keyLe strategy) rows ∧ Greedy ordered := by
  -- the loop passes over the rows that are no batches
  have hordered : ∀ inv ∈ orderBy (keyLe strategy) rows, isBatch inv = false →
      inv.available = 0 := fun inv hinv => hzero inv (mem_orderBy.1 hinv)
  obtain ⟨hbatches, hothers⟩ := deduct_filter now need hordered
  refine ⟨(deduct now need (orderBy (keyLe strategy) rows)).1, ?_, deduct_map_inv need _,
    deduct_greedy fun inv hinv => hrows inv (mem_orderBy.1 hinv)⟩
  have hperm := (orderBy_perm (keyLe strategy) rows).filter fun inv => !isBatch inv
  rw [allocated, ← filter_orderBy, ← hbatches]
  refine (List.filter_append_perm (fun row => isBatch row.inv) _).symm.trans ?_
  rw [hothers]
  exact (hperm.map hold).append_left _

/-- The allocation raises when there is not enough, and then nothing has been changed. -/
theorem allocate_of_lt (h : availableTotal (rows.filter isBatch) < need) :
    (∃ e, (allocate now strategy need rows).2 = .error e) ∧
      (allocate now strategy need rows).1 = rows.map hold := by
  rw [allocate_eq]
  by_cases hselected : (rows.filter fun inv => decide (0 < inv.quantity.toRat)) = []
  · rw [if_pos hselected]
    exact ⟨⟨_, rfl⟩, rfl⟩
  · rw [if_neg hselected]
    cases sortBatches strategy (rows.filter isBatch) with
    | none => exact ⟨⟨_, rfl⟩, rfl⟩
    | some sorted =>
      show (∃ e, (ite _ _ _ : List HeldRow × Except ServiceError ℚ).2 = .error e) ∧
        (ite _ _ _ : List HeldRow × Except ServiceError ℚ).1 = rows.map hold
      rw [if_pos h]
      exact ⟨⟨_, rfl⟩, rfl⟩

/-- What it takes for the allocation not to raise. -/
theorem of_allocate_ok {left : ℚ} (h : (allocate now strategy need rows).2 = .ok left) :
    (∃ inv ∈ rows, 0 < inv.quantity.toRat) ∧
      ∀ a ∈ rows.filter isBatch, ∀ b ∈ rows.filter isBatch, KeysCompare strategy a b := by
  rw [allocate_eq] at h
  by_cases hselected : (rows.filter fun inv => decide (0 < inv.quantity.toRat)) = []
  · rw [if_pos hselected] at h
    exact absurd h (by simp)
  · constructor
    · obtain ⟨inv, hinv⟩ := List.exists_mem_of_ne_nil _ hselected
      obtain ⟨hmem, hquantity⟩ := List.mem_filter.1 hinv
      exact ⟨inv, hmem, of_decide_eq_true hquantity⟩
    · by_contra hkeys
      rw [if_neg hselected, sortBatches_eq_none_iff.2 hkeys] at h
      exact absurd h (by simp)

/-- `stock_out` allocates as it should exactly if, when there is enough, some row has a positive
quantity and the keys of the batches can be compared. -/
theorem allocates_iff (hrows : ∀ inv ∈ rows, 0 ≤ inv.lockedQty.toRat ∧
    inv.lockedQty.toRat ≤ inv.quantity.toRat) (hneed : 0 ≤ need) :
    Allocates now strategy need rows ↔ (need ≤ availableTotal rows →
      (∃ inv ∈ rows, 0 < inv.quantity.toRat) ∧
        ∀ a ∈ rows, ∀ b ∈ rows, 0 < a.available → 0 < b.available → KeysCompare strategy a b) := by
  have hnonneg : ∀ inv ∈ rows, 0 ≤ inv.available := fun inv hinv => sub_nonneg.2 (hrows inv hinv).2
  have hzero : ∀ inv ∈ rows, isBatch inv = false → inv.available = 0 := by
    intro inv hinv hbatch
    refine le_antisymm (not_lt.1 fun h => ?_) (hnonneg inv hinv)
    rw [(isBatch_iff (hrows inv hinv).1).2 h] at hbatch
    exact Bool.false_ne_true hbatch.symm
  have hsum := availableTotal_filter hzero
  constructor
  · intro h henough
    obtain ⟨hstock, hkeys⟩ := of_allocate_ok (h.done henough)
    refine ⟨hstock, fun a ha b hb hposA hposB => hkeys a ?_ b ?_⟩
    · exact List.mem_filter.2 ⟨ha, (isBatch_iff (hrows a ha).1).2 hposA⟩
    · exact List.mem_filter.2 ⟨hb, (isBatch_iff (hrows b hb).1).2 hposB⟩
  · intro h
    have hok : need ≤ availableTotal rows → allocate now strategy need rows =
        (allocated now strategy need rows, .ok 0) := by
      intro henough
      obtain ⟨hstock, hkeys⟩ := h henough
      have henough' : need ≤ availableTotal (rows.filter isBatch) := hsum.symm ▸ henough
      rw [allocate_eq_allocated hstock ?_ henough', remaining_eq_zero hnonneg hneed henough']
      intro a ha b hb
      obtain ⟨hmemA, hbatchA⟩ := List.mem_filter.1 ha
      obtain ⟨hmemB, hbatchB⟩ := List.mem_filter.1 hb
      exact hkeys a hmemA b hmemB ((isBatch_iff (hrows a hmemA).1).1 hbatchA)
        ((isBatch_iff (hrows b hmemB).1).1 hbatchB)
    refine ⟨fun henough => ?_, fun henough => ?_, fun henough => ?_, fun henough => ?_,
      fun hlt => allocate_of_lt (hsum.symm ▸ hlt)⟩
    · rw [hok henough]
    · have htotal := quantityTotal_allocated now strategy need rows
      rw [remaining_eq_zero hnonneg hneed (hsum.symm ▸ henough), add_zero] at htotal
      rw [hok henough]
      exact eq_sub_of_add_eq htotal
    · rw [hok henough]
      intro row hrow
      rcases List.mem_append.1 hrow with htaken | hother
      · refine deduct_locked (fun inv hinv => ?_) row htaken
        exact (hrows inv (List.mem_of_mem_filter (mem_orderBy.1 hinv))).2
      · obtain ⟨inv, hinv, rfl⟩ := List.mem_map.1 hother
        exact (hrows inv (List.mem_of_mem_filter hinv)).2
    · rw [hok henough]
      exact exists_greedy_allocated now strategy need hnonneg hzero

end

/-! ### Batches -/

theorem tenPieces_quantity (id : Uuid) (batchNo : Option String) (receivedAt : Option ℤ) :
    (tenPieces id batchNo receivedAt).quantity.toRat = 10 := by
  norm_num [tenPieces, Numeric.toRat]

theorem tenPieces_lockedQty (id : Uuid) (batchNo : Option String) (receivedAt : Option ℤ) :
    (tenPieces id batchNo receivedAt).lockedQty.toRat = 0 := Numeric.toRat_zero

theorem tenPieces_available (id : Uuid) (batchNo : Option String) (receivedAt : Option ℤ) :
    (tenPieces id batchNo receivedAt).available = 10 := by
  rw [Inventory.available, tenPieces_quantity, tenPieces_lockedQty, sub_zero]

theorem isBatch_tenPieces (id : Uuid) (batchNo : Option String) (receivedAt : Option ℤ) :
    isBatch (tenPieces id batchNo receivedAt) = true := by
  rw [isBatch_iff (tenPieces_lockedQty id batchNo receivedAt).ge, tenPieces_available]
  norm_num

/-- Two batches that compare equal, one that is all locked, one that is empty, and one that expires
and is locked in part. -/
def fiveBatches : List Inventory :=
  [tenPieces 3 (some "A") (some 0), tenPieces 4 (some "B") (some 0),
    { tenPieces 5 (some "C") none with lockedQty := ⟨100000, tenPieces_fits⟩ },
    { tenPieces 6 none none with quantity := 0 },
    { tenPieces 7 (some "D") none with expiryDate := some 20, lockedQty := ⟨35000, by decide⟩ }]

/-- Fifteen pieces are taken from two of the batches. -/
theorem allocates_fiveBatches : Allocates 0 "fefo" 15 fiveBatches :=
  (allocates_iff (by decide +kernel) (by norm_num)).2 fun _ => by decide +kernel

/-- Twenty pieces, five of which cannot be taken. -/
theorem unknownReceipt_not_allocates : (∀ inv ∈ unknownReceipt, 0 ≤ inv.lockedQty.toRat ∧
      inv.lockedQty.toRat ≤ inv.quantity.toRat) ∧
    ¬ Allocates 0 "fefo" 5 unknownReceipt := by
  constructor
  · intro inv hinv
    rcases List.mem_cons.1 hinv with rfl | hinv
    · rw [tenPieces_quantity, tenPieces_lockedQty]
      norm_num
    · rw [List.mem_singleton.1 hinv, tenPieces_quantity, tenPieces_lockedQty]
      norm_num
  · intro h
    have henough : 5 ≤ availableTotal unknownReceipt := by
      rw [availableTotal, unknownReceipt, List.map_cons, List.map_cons, List.sum_cons,
        List.sum_cons, tenPieces_available, tenPieces_available]
      norm_num
    have hbatch : ∀ inv ∈ unknownReceipt, inv ∈ unknownReceipt.filter isBatch := by
      intro inv hinv
      refine List.mem_filter.2 ⟨hinv, ?_⟩
      rcases List.mem_cons.1 hinv with rfl | hinv
      · exact isBatch_tenPieces 3 (some "A") (some 0)
      · rw [List.mem_singleton.1 hinv, isBatch_tenPieces]
    obtain ⟨-, hkeys⟩ := of_allocate_ok (h.done henough)
    have hreceived := hkeys _ (hbatch _ (.head _)) _ (hbatch _ (.tail _ (.head _)))
    exact absurd ((hreceived rfl).2 rfl) (Option.some_ne_none 0)

end Wms

end OmsWmsTms
