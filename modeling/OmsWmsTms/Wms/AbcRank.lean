import Mathlib.Tactic.NormNum
import OmsWmsTms.Data.RunningSums
import OmsWmsTms.Wms.Analysis

/-!
# The classes of the ABC analysis

What `compute_abc_analysis` makes of the rows of its statement: shares of the total, their running
sums, and the classes that the thresholds of `_abc_category` make of these.

* `abcReport` : the report on rows; `computeAbcAnalysis_eq` : it is that of `compute_abc_analysis`.
* `abcShare` : the share of a row; `sharePcts_eq`, `cumulPcts_eq`, `categories_eq` : the columns.
* `RankedTotals` : the rows that the statement can give; `abcRanked` : it gives them;
  `computeAbcAnalysis_exact` : the sum of their totals is exact.
* `abc_runs`, `sum_abcShares`, `abcHead_iff` : the classes, the shares, and the first class.
* `abc_follows` : the report on any rows; `single_not_classA` : one SKU alone is in class C.
* `RankedRows`, `abcTop` : the rows that are left under a limit, ties in any order, and the report on
  them; `computeAbcAnalysis_eq_abcTop` : it is the one of `compute_abc_analysis`.
* `abc_last`, `abc_limited_last` : a report ends in class C, and so does one that is limited.
-/

namespace OmsWmsTms

namespace Wms

variable (float : ℚ → ℚ)

/-! ### The report -/

/-- `total_value`. -/
def abcTotal (sum : List ℚ → ℚ) (rows : List (Uuid × ℚ)) : ℚ :=
  let total := |sum (rows.map Prod.snd)|
  if total = 0 then 1 else total

/-- The report on rows. -/
def abcReport (sum : List ℚ → ℚ) (skus : List Oms.Sku) (rows : List (Uuid × ℚ)) : List AbcEntry :=
  abcEntries float skus (abcTotal sum rows) 1 0 rows

/-- `share`. -/
def abcShare (totalValue total : ℚ) : ℚ := float (|float total| / float totalValue)

/-- The shares of rows. -/
def abcShares (totalValue : ℚ) (rows : List (Uuid × ℚ)) : List ℚ :=
  rows.map fun row => abcShare float totalValue row.2

/-- A share in percent. -/
def percent (share : ℚ) : ℚ := round2 float (float (share * 100))

/-- **The report of the code** is the one on the rows of the statement. -/
theorem computeAbcAnalysis_eq (now months : ℤ) (topN : Option ℕ) (skus : List Oms.Sku)
    (movements : List MovementRow) : computeAbcAnalysis float now months topN skus movements =
      abcReport float (Decimal.runningSum 0) skus
        (abcRows (now - 30 * months * day) topN movements) := rfl

/-! ### Columns -/

section Columns

variable {float} {skus : List Oms.Sku} {totalValue : ℚ}

theorem sharePcts_eq (rank : ℕ) (cumulative : ℚ) (rows : List (Uuid × ℚ)) :
    (abcEntries float skus totalValue rank cumulative rows).map AbcEntry.sharePct =
      (abcShares float totalValue rows).map (percent float) := by
  induction rows generalizing rank cumulative with
  | nil => rfl
  | cons row rows ih =>
    obtain ⟨skuId, total⟩ := row
    rw [abcEntries, List.map_cons, ih]
    rfl

theorem cumulPcts_eq (rank : ℕ) (cumulative : ℚ) (rows : List (Uuid × ℚ)) :
    (abcEntries float skus totalValue rank cumulative rows).map AbcEntry.cumulPct =
      (runningSums float cumulative (abcShares float totalValue rows)).map (percent float) := by
  induction rows generalizing rank cumulative with
  | nil => rfl
  | cons row rows ih =>
    obtain ⟨skuId, total⟩ := row
    rw [abcEntries, List.map_cons, ih]
    rfl

theorem categories_eq (rank : ℕ) (cumulative : ℚ) (rows : List (Uuid × ℚ)) :
    (abcEntries float skus totalValue rank cumulative rows).map AbcEntry.abcCategory =
      (runningSums float cumulative (abcShares float totalValue rows)).map
        (abcCategory float) := by
  induction rows generalizing rank cumulative with
  | nil => rfl
  | cons row rows ih =>
    obtain ⟨skuId, total⟩ := row
    rw [abcEntries, List.map_cons, ih]
    rfl

end Columns

/-! ### Ranked totals -/

theorem sum_map_neg_eq {α : Type*} (f : α → ℚ) (rows : List α) :
    (rows.map fun row => -f row).sum = -(rows.map f).sum := by
  induction rows with
  | nil => simp
  | cons row rows ih => rw [List.map_cons, List.sum_cons, ih, List.map_cons, List.sum_cons, neg_add]

/-- SKUs with their totals, the largest amount first: the statement sums negative quantities. -/
structure RankedTotals where
  rows : List (Uuid × ℚ)
  ne_nil : rows ≠ []
  neg : ∀ row ∈ rows, row.2 < 0
  ranked : rows.Pairwise fun a b => |b.2| ≤ |a.2|

namespace RankedTotals

/-- The first row. -/
def first (ranked : RankedTotals) : Uuid × ℚ := ranked.rows.head ranked.ne_nil

/-- The sum of the amounts. -/
def amount (ranked : RankedTotals) : ℚ := (ranked.rows.map fun row => |row.2|).sum

variable {ranked : RankedTotals}

theorem amount_pos : 0 < ranked.amount := by
  refine List.sum_pos _ (fun x hx => ?_) (by simpa using ranked.ne_nil)
  obtain ⟨row, hrow, rfl⟩ := List.mem_map.1 hx
  exact abs_pos.2 (ranked.neg row hrow).ne

/-- Negative totals have the sum of their amounts. -/
theorem abs_sum : |(ranked.rows.map Prod.snd).sum| = ranked.amount := by
  have hneg : ranked.rows.map (fun row => |row.2|) = ranked.rows.map fun row => -row.2 :=
    List.map_congr_left fun row hrow => abs_of_neg (ranked.neg row hrow)
  have hamount : ranked.amount = -(ranked.rows.map Prod.snd).sum := by
    rw [amount, hneg, sum_map_neg_eq]
  have hpos := ranked.amount_pos
  rw [hamount] at hpos ⊢
  exact abs_of_neg (neg_pos.1 hpos)

theorem abcTotal_eq : abcTotal List.sum ranked.rows = ranked.amount := by
  rw [abcTotal, abs_sum]
  exact if_neg ranked.amount_pos.ne'

end RankedTotals

section Statement

variable {cutoff : ℤ} {movements : List MovementRow}

/-- Negative quantities have a negative sum. -/
theorem sum_quantity_neg {rows : List MovementRow} (hneg : ∀ row ∈ rows, row.quantity.toRat < 0)
    (hne : rows ≠ []) : (rows.map fun row => row.quantity.toRat).sum < 0 := by
  have hpos : 0 < (rows.map fun row => -row.quantity.toRat).sum := by
    refine List.sum_pos _ (fun x hx => ?_) (by simpa using hne)
    obtain ⟨row, hrow, rfl⟩ := List.mem_map.1 hx
    exact neg_pos.2 (hneg row hrow)
  rw [sum_map_neg_eq] at hpos
  exact neg_pos.1 hpos

theorem abcRows_neg : ∀ row ∈ abcRows cutoff none movements, row.2 < 0 := by
  intro row hrow
  obtain ⟨id, hid, rfl⟩ := List.mem_map.1 (mem_orderBy.1 hrow)
  obtain ⟨movement, hmovement, hsku⟩ := List.mem_map.1 (List.mem_dedup.1 hid)
  refine sum_quantity_neg (fun row hrow => ?_) (List.ne_nil_of_mem (List.mem_filter.2
    ⟨hmovement, by simpa using hsku⟩))
  have houtbound := (List.mem_filter.1 (List.mem_of_mem_filter hrow)).2
  simp only [decide_eq_true_eq] at houtbound
  exact houtbound.2

theorem abcRows_sorted : (abcRows cutoff none movements).Pairwise fun a b => a.2 ≤ b.2 := by
  have : IsTrans (Uuid × ℚ) fun a b => a.2 ≤ b.2 := ⟨fun _ _ _ h h' => h.trans h'⟩
  have : Std.Total fun a b : Uuid × ℚ => a.2 ≤ b.2 := ⟨fun a b => le_total a.2 b.2⟩
  exact List.pairwise_insertionSort _ _

/-- The rows of the statement, when there is one. -/
def abcRanked (cutoff : ℤ) (movements : List MovementRow)
    (h : abcRows cutoff none movements ≠ []) : RankedTotals where
  rows := abcRows cutoff none movements
  ne_nil := h
  neg := abcRows_neg
  ranked := abcRows_sorted.imp_of_mem fun ha hb hab => by
    rw [abs_of_neg (abcRows_neg _ ha), abs_of_neg (abcRows_neg _ hb)]
    exact neg_le_neg hab

/-- **The sum of the code is exact** while its digits fit a decimal: the report on exact totals is
then that of `compute_abc_analysis`. -/
theorem computeAbcAnalysis_exact (now months : ℤ) (skus : List Oms.Sku)
    (hfit : ((abcRows (now - 30 * months * day) none movements).map fun row => |row.2|).sum *
      10 ^ 4 < 10 ^ Decimal.prec) :
    computeAbcAnalysis float now months none skus movements =
      abcReport float List.sum skus (abcRows (now - 30 * months * day) none movements) := by
  have hgrid : ∀ x ∈ (abcRows (now - 30 * months * day) none movements).map Prod.snd,
      OnGrid 4 x := by
    intro x hx
    obtain ⟨row, hrow, rfl⟩ := List.mem_map.1 hx
    obtain ⟨id, -, rfl⟩ := List.mem_map.1 (mem_orderBy.1 hrow)
    refine OnGrid.sum fun y hy => ?_
    obtain ⟨movement, -, rfl⟩ := List.mem_map.1 hy
    exact movement.quantity.onGrid
  have hzero : OnGrid 4 (0 : ℚ) := onGrid_iff.2 ⟨0, by simp⟩
  have hsum := Decimal.runningSum_of_onGrid hzero hgrid
    (by rw [List.map_map, abs_zero, zero_add]; exact hfit)
  rw [computeAbcAnalysis_eq, abcReport, abcReport, abcTotal, abcTotal, hsum, zero_add]

end Statement

/-! ### Classes -/

variable {skus : List Oms.Sku} {ranked : RankedTotals}

theorem abcShare_nonneg (hT : 0 ≤ totalValue) (total : ℚ) : 0 ≤ abcShare id totalValue total :=
  div_nonneg (abs_nonneg _) hT

/-- **A run of A, a run of B and a run of C**, whatever the rows. -/
theorem abc_runs (sum : List ℚ → ℚ) (skus : List Oms.Sku) (rows : List (Uuid × ℚ)) :
    ∃ a b c, (abcReport id sum skus rows).map AbcEntry.abcCategory =
      List.replicate a "A" ++ List.replicate b "B" ++ List.replicate c "C" := by
  have hT : 0 ≤ abcTotal sum rows := by
    unfold abcTotal
    dsimp only
    split_ifs
    · exact zero_le_one
    · exact abs_nonneg _
  rw [abcReport, categories_eq]
  refine exists_runs (pairwise_runningSums fun share hshare => ?_) (s := 0.80 + 1e-10)
    (t := 0.95 + 1e-10) (fun x hx => if_pos hx) (fun x hx hx' => ?_) fun x hx hx' => ?_
  · obtain ⟨row, -, rfl⟩ := List.mem_map.1 hshare
    exact abcShare_nonneg hT row.2
  · exact (if_neg (not_le.2 hx)).trans (if_pos hx')
  · exact (if_neg (not_le.2 hx)).trans (if_neg (not_le.2 hx'))

/-- **The shares add up to 1.** -/
theorem sum_abcShares (ranked : RankedTotals) :
    (abcShares id (abcTotal List.sum ranked.rows) ranked.rows).sum = 1 := by
  have hsum (totalValue : ℚ) : (abcShares id totalValue ranked.rows).sum =
      ranked.amount / totalValue := by
    rw [RankedTotals.amount, abcShares]
    induction ranked.rows with
    | nil => simp
    | cons row rows ih =>
      rw [List.map_cons, List.sum_cons, ih, List.map_cons, List.sum_cons, add_div]
      rfl
  rw [hsum, RankedTotals.abcTotal_eq]
  exact div_self ranked.amount_pos.ne'

/-- The first class, and the share that it is made from. -/
theorem abcHead_eq (ranked : RankedTotals) :
    ((abcReport id List.sum skus ranked.rows).map AbcEntry.abcCategory).head? =
      some (abcCategory id (|ranked.first.2| / ranked.amount)) := by
  obtain ⟨row, rows, hrows⟩ := List.exists_cons_of_ne_nil ranked.ne_nil
  have hfirst : ranked.first = row := by simp [RankedTotals.first, hrows]
  rw [abcReport, categories_eq, RankedTotals.abcTotal_eq, hfirst, hrows]
  simp [abcShares, abcShare, runningSums]

theorem abcCategory_eq_A_iff {cumulRatio : ℚ} :
    abcCategory id cumulRatio = "A" ↔ cumulRatio ≤ 0.80 + 1e-10 := by
  unfold abcCategory
  simp only [id_eq]
  split_ifs with hlow hhigh
  · exact iff_of_true rfl hlow
  · exact iff_of_false (by decide) hlow
  · exact iff_of_false (by decide) hlow

/-- **Classes follow the rank**: they are a run of A, a run of B and a run of C, the shares add up
to 1, and the first SKU is in class A exactly when its share is at most 0.80 (and 1e-10). -/
theorem abc_follows (skus : List Oms.Sku) (ranked : RankedTotals) :
    let report := abcReport id List.sum skus ranked.rows
    let shares := abcShares id (abcTotal List.sum ranked.rows) ranked.rows
    (∃ a b c, report.map AbcEntry.abcCategory =
      List.replicate a "A" ++ List.replicate b "B" ++ List.replicate c "C") ∧
    (report.map AbcEntry.sharePct = shares.map (percent id) ∧ shares.sum = 1) ∧
    ((report.map AbcEntry.abcCategory).head? = some "A" ↔
      |ranked.first.2| / ranked.amount ≤ 0.80 + 1e-10) := by
  refine ⟨abc_runs _ _ _, ⟨sharePcts_eq _ _ _, sum_abcShares ranked⟩, ?_⟩
  rw [abcHead_eq, Option.some_inj]
  exact abcCategory_eq_A_iff

/-! ### The last class -/

/-- **A report ends with 100 % and in class C.** -/
theorem abc_last (skus : List Oms.Sku) (ranked : RankedTotals) :
    let report := abcReport id List.sum skus ranked.rows
    (report.map AbcEntry.cumulPct).getLast? = some 100 ∧
      (report.map AbcEntry.abcCategory).getLast? = some "C" := by
  have hne : abcShares id (abcTotal List.sum ranked.rows) ranked.rows ≠ [] := by
    simpa [abcShares] using ranked.ne_nil
  have hlast : (runningSums id 0
      (abcShares id (abcTotal List.sum ranked.rows) ranked.rows)).getLast? =
        some (0 + (abcShares id (abcTotal List.sum ranked.rows) ranked.rows).sum) :=
    getLast?_runningSums hne
  rw [sum_abcShares, zero_add] at hlast
  dsimp only
  rw [abcReport, cumulPcts_eq, categories_eq, List.getLast?_map, List.getLast?_map, hlast]
  decide +kernel

/-! ### Limited reports -/

/-- `LIMIT`; `if top_n` leaves 0 out. -/
def limitRows {α : Type*} (topN : Option ℕ) (rows : List α) : List α :=
  match topN with
  | none | some 0 => rows
  | some n => rows.take n

/-- The rows that are left under a limit are ranked totals themselves. -/
def RankedTotals.take (ranked : RankedTotals) (k : ℕ) (hk : 1 ≤ k) : RankedTotals where
  rows := ranked.rows.take k
  ne_nil := by
    rw [Ne, List.take_eq_nil_iff, not_or]
    exact ⟨Nat.one_le_iff_ne_zero.1 hk, ranked.ne_nil⟩
  neg row hrow := ranked.neg row (List.mem_of_mem_take hrow)
  ranked := ranked.ranked.sublist (List.take_sublist k ranked.rows)

theorem limitRows_some {α : Type*} {k : ℕ} (hk : 1 ≤ k) (rows : List α) :
    limitRows (some k) rows = rows.take k := by
  obtain ⟨n, rfl⟩ := Nat.exists_eq_succ_of_ne_zero (Nat.one_le_iff_ne_zero.1 hk)
  rfl

/-- **A limited report ends in class C** too, whatever the class of its last SKU in the whole. -/
theorem abc_limited_last (skus : List Oms.Sku) (ranked : RankedTotals) {k : ℕ} (hk : 1 ≤ k) :
    ((abcReport id List.sum skus (limitRows (some k) ranked.rows)).map
      AbcEntry.abcCategory).getLast? = some "C" := by
  rw [limitRows_some hk]
  exact (abc_last skus (ranked.take k hk)).2

/-- The groups of the statement. -/
def abcGroups (cutoff : ℤ) (rows : List MovementRow) : List (Uuid × ℚ) :=
  let outbound := rows.filter fun row => cutoff ≤ row.createdAt ∧ row.quantity.toRat < 0
  (outbound.map MovementRow.skuId).dedup.map fun id => (id, skuTotal outbound id)

/-- What the statement returns: the groups with the smallest total first, ties in some order. -/
structure RankedRows (groups : List (Uuid × ℚ)) where
  rows : List (Uuid × ℚ)
  perm : rows.Perm groups
  ranked : rows.Pairwise fun a b => a.2 ≤ b.2

/-- The report on what the statement returns. -/
def abcTop {groups : List (Uuid × ℚ)} (float : ℚ → ℚ) (skus : List Oms.Sku) (topN : Option ℕ)
    (result : RankedRows groups) : List AbcEntry :=
  abcReport float (Decimal.runningSum 0) skus (limitRows topN result.rows)

/-- Ties in the order of the table. -/
def RankedRows.stable (cutoff : ℤ) (movements : List MovementRow) :
    RankedRows (abcGroups cutoff movements) where
  rows := abcRows cutoff none movements
  perm := orderBy_perm _ _
  ranked := abcRows_sorted

theorem computeAbcAnalysis_eq_abcTop (float : ℚ → ℚ) (now months : ℤ) (topN : Option ℕ)
    (skus : List Oms.Sku) (movements : List MovementRow) :
    computeAbcAnalysis float now months topN skus movements =
      abcTop float skus topN (.stable (now - 30 * months * day) movements) := by
  rw [computeAbcAnalysis_eq]
  rcases topN with _ | _ | n <;> rfl

/-! ### One SKU -/

/-- Two hundred pieces of SKU 3 went out. -/
def singleTotal : RankedTotals where
  rows := [(3, -200)]
  ne_nil := nofun
  neg := by decide +kernel
  ranked := by simp

/-- **One SKU alone** has all of the total, and is in class C. -/
theorem single_not_classA :
    (abcReport id List.sum [] singleTotal.rows).map AbcEntry.abcCategory = ["C"] ∧
    ¬ ∀ ranked : RankedTotals,
      ((abcReport id List.sum [] ranked.rows).map AbcEntry.abcCategory).head? = some "A" := by
  have hsingle : (abcReport id List.sum [] singleTotal.rows).map AbcEntry.abcCategory = ["C"] := by
    decide +kernel
  refine ⟨hsingle, fun h => ?_⟩
  have hfirst := h singleTotal
  rw [hsingle] at hfirst
  exact absurd hfirst (by decide)

end Wms

end OmsWmsTms
