import OmsWmsTms.Data.Dict
import OmsWmsTms.Data.Variation
import OmsWmsTms.Sql.Grouping
import OmsWmsTms.Wms.AbcRank

/-!
# The XYZ analysis

`compute_xyz_analysis` and `compute_abc_xyz_matrix` of `src/wms/analysis.py`.  The statement calls
`date_trunc("month", …)` in its list and again in its `GROUP BY`.  The two months are parameters of
their own, so that the database sees an ungrouped column and refuses the statement: neither function
ever returns.

* `xyzStatement` : the statement; `check_xyzStatement` : it is refused; `check_abcStatement` : the
  one of the ABC analysis is not.
* `computeXyzAnalysis`, `computeAbcXyzMatrix` : the two functions; `computeXyzAnalysis_eq`,
  `computeAbcXyzMatrix_eq` : they raise.
* `xyzReport`, `abcXyzMatrix` : what they would make of rows; `single_classX` : a SKU with one row is
  not in the report, and in class X of the matrix.
* `Measures`, `OnlyCuts` : what is promised of the classes and of a limit; `not_measures`,
  `not_onlyCuts` : it never holds.
-/

namespace OmsWmsTms

namespace Wms

open Sql (Expr Select QueryError)
open Variation (coefficient pad)

/-! ### The statements -/

/-- The columns of `stock_movements` that the analyses read, and the primary key. -/
inductive MovementColumn
  | id | skuId | quantity | createdAt
deriving DecidableEq

/-- A bound value. -/
inductive BoundValue
  | text (value : String)
  | time (value : ℤ)
  | number (value : ℤ)

/-- `func.date_trunc("month", StockMovement.created_at)`. -/
def monthOf : Expr MovementColumn BoundValue :=
  .call "date_trunc" (.param (.text "month")) (.column .createdAt)

/-- `func.sum(StockMovement.quantity)`. -/
def sumOf : Expr MovementColumn BoundValue := .aggregate "sum" (.column .quantity)

/-- `StockMovement.created_at >= cutoff, StockMovement.quantity < 0`. -/
def outboundSince (cutoff : ℤ) : List (Expr MovementColumn BoundValue) :=
  [.call ">=" (.column .createdAt) (.param (.time cutoff)),
    .call "<" (.column .quantity) (.param (.number 0))]

/-- `if top_n: stmt = stmt.limit(top_n)`. -/
def limitOf (topN : Option ℕ) : Option BoundValue :=
  match topN with
  | none | some 0 => none
  | some n => some (.number n)

/-- The statement of `compute_abc_analysis`. -/
def abcStatement (cutoff : ℤ) (topN : Option ℕ) : Select MovementColumn BoundValue where
  columns := [.column .skuId, sumOf]
  conditions := outboundSince cutoff
  groupBy := [.column .skuId]
  orderBy := [sumOf]
  limit := limitOf topN

/-- The statement of `compute_xyz_analysis`. -/
def xyzStatement (cutoff : ℤ) (topN : Option ℕ) : Select MovementColumn BoundValue where
  columns := [.column .skuId, monthOf, sumOf]
  conditions := outboundSince cutoff
  groupBy := [.column .skuId, monthOf]
  orderBy := []
  limit := limitOf topN

theorem check_abcStatement (cutoff : ℤ) (topN : Option ℕ) :
    (abcStatement cutoff topN).check [.id] = .ok () := by
  refine Select.check_of_passes fun e he => ?_
  simp only [abcStatement, List.cons_append, List.nil_append, List.mem_cons, List.not_mem_nil,
    or_false] at he ⊢
  rcases he with rfl | rfl | rfl
  · exact .inl (List.mem_singleton_self _)
  · trivial
  · trivial

/-- **The statement is refused**: the month of its list is not the month of its `GROUP BY`, and the
time of a movement is not grouped. -/
theorem check_xyzStatement (cutoff : ℤ) (topN : Option ℕ) :
    (xyzStatement cutoff topN).check [.id] = .error .programmingError := by
  refine Select.check_of_not_groupedBy (e := monthOf) (by simp [xyzStatement]) ?_
  simp [xyzStatement, monthOf, Expr.GroupedBy, Expr.ValueFree]

/-! ### The report -/

/-- A row of the statement. -/
structure MonthlyRow where
  skuId : Uuid
  month : ℤ
  monthlyQty : ℚ
deriving DecidableEq

/-- The groups that the statement asks for; `truncate` is `date_trunc("month", …)`. -/
def monthlyGroups (truncate : ℤ → ℤ) (cutoff : ℤ) (rows : List MovementRow) : List MonthlyRow :=
  let outbound := rows.filter fun row => cutoff ≤ row.createdAt ∧ row.quantity.toRat < 0
  (outbound.map fun row => (row.skuId, truncate row.createdAt)).dedup.map fun key => {
    skuId := key.1
    month := key.2
    monthlyQty := ((outbound.filter fun row =>
      row.skuId = key.1 ∧ truncate row.createdAt = key.2).map fun row => row.quantity.toRat).sum }

/-- What a statement without `ORDER BY` returns: its groups in some order. -/
structure AnyOrder {α : Type*} (groups : List α) where
  rows : List α
  perm : rows.Perm groups

/-- The arithmetic of doubles: the nearest double, and what `sum` and `math.sqrt` make of doubles. -/
structure Doubles where
  float : ℚ → ℚ
  sum : List ℚ → ℚ
  sqrt : ℚ → ℚ

/-- `_cv_category`. -/
def cvCategory {K : Type*} [Field K] [LinearOrder K] (cv : K) : String :=
  if cv < (0.5 : ℚ) then "X"
  else if cv < (1 : ℚ) then "Y"
  else "Z"

/-- An entry of the report. -/
structure XyzEntry where
  skuId : String
  skuCode : String
  skuName : String
  monthlyValues : List ℚ
  mean : ℚ
  stdDev : ℚ
  cv : ℚ
  xyzCategory : String

section Report

variable (d : Doubles)

/-- `sku_monthly`. -/
def skuMonthly (rows : List MonthlyRow) : Dict String (List ℚ) :=
  rows.foldl (fun monthly row => monthly.append row.skuId.text |d.float row.monthlyQty|) Dict.empty

/-- The entry of a SKU. -/
def xyzEntry (skus : List Oms.Sku) (skuId : String) (monthlyQties : List ℚ) : XyzEntry :=
  let n := monthlyQties.length
  let mean := d.float (d.sum monthlyQties / n)
  let variance := d.float
    (d.sum (monthlyQties.map fun v => d.float (d.float (v - mean) ^ 2)) / (n - 1))
  let stdDev := d.sqrt variance
  let cv := if 0 < mean then d.float (stdDev / mean) else 0
  let sku? := skus.find? fun sku => Uuid.text sku.id = skuId
  { skuId
    skuCode := (sku?.map Oms.Sku.sku).getD ""
    skuName := (sku?.map Oms.Sku.name).getD ""
    monthlyValues := monthlyQties
    mean := d.float (roundDigits 2 mean)
    stdDev := d.float (roundDigits 2 stdDev)
    cv := d.float (roundDigits 4 cv)
    xyzCategory := cvCategory cv }

/-- The report on rows. -/
def xyzReport (skus : List Oms.Sku) (rows : List MonthlyRow) : List XyzEntry :=
  let output := (skuMonthly d rows).items.filterMap fun item =>
    if item.2.length < 2 then none else some (xyzEntry d skus item.1 item.2)
  orderBy (fun a b => a.cv ≤ b.cv) output

/-- `compute_xyz_analysis`. -/
def computeXyzAnalysis (truncate : ℤ → ℤ) (now months : ℤ) (topN : Option ℕ)
    (skus : List Oms.Sku) (movements : List MovementRow)
    (result : AnyOrder (monthlyGroups truncate (now - 30 * months * day) movements)) :
    Except QueryError (List XyzEntry) := do
  (xyzStatement (now - 30 * months * day) topN).check [.id]
  return xyzReport d skus (limitRows topN result.rows)

/-! ### The matrix -/

/-- An item of the matrix. -/
structure MatrixItem where
  skuId : String
  skuCode : String
  skuName : String
  sharePct : ℚ
  cv : ℚ
  abc : String
  xyz : String

/-- `xyz_map`. -/
def xyzMap (xyz : List XyzEntry) : Dict String XyzEntry :=
  xyz.foldl (fun map entry => map.set entry.skuId entry) Dict.empty

/-- The item of an entry of the ABC report; a SKU that is not in the XYZ report is in class X. -/
def matrixItem (xyz : List XyzEntry) (item : AbcEntry) : MatrixItem :=
  let xyzItem? := (xyzMap xyz).get? item.skuId
  { skuId := item.skuId
    skuCode := item.skuCode
    skuName := item.skuName
    sharePct := item.sharePct
    cv := (xyzItem?.map XyzEntry.cv).getD 0
    abc := item.abcCategory
    xyz := (xyzItem?.map XyzEntry.xyzCategory).getD "X" }

/-- The nine cells. -/
def cells : List String :=
  ["A", "B", "C"].flatMap fun a => ["X", "Y", "Z"].map fun z => a ++ z

/-- The matrix of two reports. -/
def abcXyzMatrix (abc : List AbcEntry) (xyz : List XyzEntry) : Dict String (List MatrixItem) :=
  let matrix := cells.foldl (fun matrix cell => matrix.set cell []) Dict.empty
  abc.foldl (fun matrix item => matrix.append
    ((matrixItem xyz item).abc ++ (matrixItem xyz item).xyz) (matrixItem xyz item)) matrix

/-- `compute_abc_xyz_matrix`, with both reports at one time. -/
def computeAbcXyzMatrix (truncate : ℤ → ℤ) (now months : ℤ) (skus : List Oms.Sku)
    (movements : List MovementRow)
    (result : AnyOrder (monthlyGroups truncate (now - 30 * months * day) movements)) :
    Except QueryError (Dict String (List MatrixItem)) := do
  let abc := computeAbcAnalysis d.float now months none skus movements
  let xyz ← computeXyzAnalysis d truncate now months none skus movements result
  return abcXyzMatrix abc xyz

/-- An item is in some cell of a matrix. -/
def InMatrix (matrix : Dict String (List MatrixItem)) (item : MatrixItem) : Prop :=
  ∃ cell items, matrix.get? cell = some items ∧ item ∈ items

end Report

/-! ### What is promised -/

/-- The demands of a SKU in the months of some rows. -/
def monthlyValues (rows : List MonthlyRow) (skuId : String) : List ℚ :=
  (rows.filter fun row => row.skuId.text = skuId).map fun row => |row.monthlyQty|

/-- The class of a SKU in a window of some months, with zeros for the months without demand. -/
noncomputable def windowClass (months : ℕ) (groups : List MonthlyRow) (skuId : String) : String :=
  cvCategory (coefficient Real.sqrt (pad months (monthlyValues groups skuId)))

/-- **The classes are those of the full window**, for all SKUs with demand in it: both calls return,
and put each of them into that class. -/
structure Measures (months : ℕ) (groups : List MonthlyRow) (xyz : Except QueryError (List XyzEntry))
    (matrix : Except QueryError (Dict String (List MatrixItem))) : Prop where
  report : ∃ entries, xyz = .ok entries ∧
    (∀ row ∈ groups, ∃ entry ∈ entries, entry.skuId = row.skuId.text) ∧
    ∀ entry ∈ entries, entry.xyzCategory = windowClass months groups entry.skuId
  matrix : ∃ cells, matrix = .ok cells ∧
    (∀ row ∈ groups, ∃ item, InMatrix cells item ∧ item.skuId = row.skuId.text) ∧
    ∀ item, InMatrix cells item → item.xyz = windowClass months groups item.skuId

/-- **The limit only cuts**: the limited ABC report is the first part of the whole one, and the XYZ
report, limited and whole, is returned; the limited one has no more SKUs than asked for, each in the
class that it has in the whole. -/
structure OnlyCuts (k : ℕ) (abcTop abc : List AbcEntry)
    (xyzTop xyz : Except QueryError (List XyzEntry)) : Prop where
  abc : abcTop = abc.take k
  xyz : ∃ top whole, xyzTop = .ok top ∧ xyz = .ok whole ∧ top.length ≤ k ∧
    ∀ entry ∈ top, ∃ other ∈ whole, other.skuId = entry.skuId ∧
      other.xyzCategory = entry.xyzCategory

theorem Measures.returned {months : ℕ} {groups : List MonthlyRow}
    {xyz : Except QueryError (List XyzEntry)}
    {matrix : Except QueryError (Dict String (List MatrixItem))}
    (h : Measures months groups xyz matrix) {e : QueryError} : xyz ≠ .error e := by
  obtain ⟨entries, rfl, -⟩ := h.report
  exact nofun

theorem OnlyCuts.returned {k : ℕ} {abcTop abc : List AbcEntry}
    {xyzTop xyz : Except QueryError (List XyzEntry)} (h : OnlyCuts k abcTop abc xyzTop xyz)
    {e : QueryError} : xyzTop ≠ .error e := by
  obtain ⟨top, whole, rfl, -⟩ := h.xyz
  exact nofun

/-! ### What the report and the matrix make of rows -/

section Rows

variable {d : Doubles} {skus : List Oms.Sku} {rows groups : List MonthlyRow} {skuId : String}

/-- What the loop has collected for a SKU. -/
theorem getD_skuMonthly : ((skuMonthly d rows).get? skuId).getD [] =
    (rows.filter fun row => row.skuId.text = skuId).map fun row => |d.float row.monthlyQty| := by
  unfold skuMonthly
  rw [Dict.getD_get?_foldl_append, Dict.get?_empty]
  rfl

/-- The report has only SKUs with two rows or more. -/
theorem two_le_of_mem_xyzReport {entry : XyzEntry} (h : entry ∈ xyzReport d skus rows) :
    2 ≤ (monthlyValues rows entry.skuId).length := by
  unfold xyzReport at h
  obtain ⟨⟨skuId, values⟩, hitem, hentry⟩ := List.mem_filterMap.1 (mem_orderBy.1 h)
  split_ifs at hentry with hlength
  obtain rfl := Option.some.inj hentry
  have hvalues := @getD_skuMonthly d rows skuId
  rw [Dict.get?_of_mem_items hitem, Option.getD_some] at hvalues
  rw [not_lt] at hlength
  dsimp only at hvalues hlength
  rw [hvalues, List.length_map] at hlength
  rw [monthlyValues, List.length_map]
  exact hlength

/-- **A SKU with one row** is not in the report, and in class X of the matrix. -/
theorem single_classX (d : Doubles) (skus : List Oms.Sku)
    (h : (monthlyValues rows skuId).length < 2) :
    (∀ entry ∈ xyzReport d skus rows, entry.skuId ≠ skuId) ∧
      ∀ item : AbcEntry, item.skuId = skuId → (matrixItem (xyzReport d skus rows) item).xyz = "X" := by
  have hreport : ∀ entry ∈ xyzReport d skus rows, entry.skuId ≠ skuId := by
    rintro entry hentry rfl
    exact absurd (two_le_of_mem_xyzReport hentry) (not_le.2 h)
  refine ⟨hreport, fun item hid => ?_⟩
  have hnone : ((xyzReport d skus rows).filter fun entry => entry.skuId = skuId) = [] :=
    List.filter_eq_nil_iff.2 fun entry hentry => by simpa using hreport entry hentry
  unfold matrixItem xyzMap
  dsimp only
  rw [Dict.get?_foldl_set XyzEntry.skuId fun entry => entry, Dict.get?_empty, hid, hnone]
  rfl

/-- One month with demand gives class Z. -/
theorem cvCategory_single {m : ℕ} (hm : 2 ≤ m) {x : ℚ} (hx : 0 < x) :
    cvCategory (coefficient Real.sqrt (pad m [x])) = "Z" := by
  have hlength : 2 ≤ (pad m [x]).length := by simp [hm]
  have hsum : 0 < (pad m [x]).sum := by simpa using hx
  have hone : ¬ coefficient Real.sqrt (pad m [x]) < (1 : ℚ) := by
    rw [Variation.coefficient_lt_iff one_pos hlength hsum, Variation.length_pad,
      Variation.sum_pad, Variation.sumSq_pad, List.length_singleton, max_eq_right (by omega)]
    simpa [Variation.sumSq] using Variation.not_variesLess_single hm hx
  have hhalf : ¬ coefficient Real.sqrt (pad m [x]) < (0.5 : ℚ) :=
    fun h => hone (h.trans (by norm_num))
  unfold cvCategory
  rw [if_neg hhalf, if_neg hone]

/-- A group has a negative quantity. -/
theorem monthlyQty_neg {truncate : ℤ → ℤ} {cutoff : ℤ} {movements : List MovementRow}
    {row : MonthlyRow} (h : row ∈ monthlyGroups truncate cutoff movements) : row.monthlyQty < 0 := by
  obtain ⟨key, hkey, rfl⟩ := List.mem_map.1 h
  obtain ⟨movement, hmovement, hmovementKey⟩ := List.mem_map.1 (List.mem_dedup.1 hkey)
  refine sum_quantity_neg (fun other hother => ?_) (List.ne_nil_of_mem (List.mem_filter.2
    ⟨hmovement, by simp [← hmovementKey]⟩))
  have houtbound := (List.mem_filter.1 (List.mem_of_mem_filter hother)).2
  simp only [decide_eq_true_eq] at houtbound
  exact houtbound.2

/-- **A SKU with demand in one month** of the window is in class Z of the window. -/
theorem windowClass_single {truncate : ℤ → ℤ} {cutoff : ℤ} {movements : List MovementRow}
    {months : ℕ} (hm : 2 ≤ months)
    (h : (monthlyValues (monthlyGroups truncate cutoff movements) skuId).length = 1) :
    windowClass months (monthlyGroups truncate cutoff movements) skuId = "Z" := by
  obtain ⟨x, hx⟩ := List.length_eq_one_iff.1 h
  have hdemand : 0 < x := by
    have hmem : x ∈ monthlyValues (monthlyGroups truncate cutoff movements) skuId :=
      hx ▸ List.mem_singleton_self x
    obtain ⟨row, hrow, rfl⟩ := List.mem_map.1 hmem
    exact abs_pos.2 (monthlyQty_neg (List.mem_of_mem_filter hrow)).ne
  rw [windowClass, hx]
  exact cvCategory_single hm hdemand

end Rows

/-! ### What the calls do -/

section Calls

variable (d : Doubles) (truncate : ℤ → ℤ) (now months : ℤ) (skus : List Oms.Sku)
  (movements : List MovementRow)

/-- **`compute_xyz_analysis` raises.** -/
theorem computeXyzAnalysis_eq (topN : Option ℕ)
    (result : AnyOrder (monthlyGroups truncate (now - 30 * months * day) movements)) :
    computeXyzAnalysis d truncate now months topN skus movements result =
      .error .programmingError := by
  rw [computeXyzAnalysis, check_xyzStatement]
  rfl

/-- **`compute_abc_xyz_matrix` raises.** -/
theorem computeAbcXyzMatrix_eq
    (result : AnyOrder (monthlyGroups truncate (now - 30 * months * day) movements)) :
    computeAbcXyzMatrix d truncate now months skus movements result =
      .error .programmingError := by
  rw [computeAbcXyzMatrix, computeXyzAnalysis_eq]
  rfl

/-- **The classes never are those of the full window**: there are none. -/
theorem not_measures (months : ℕ)
    (result result' : AnyOrder (monthlyGroups truncate (now - 30 * months * day) movements)) :
    ¬ Measures months (monthlyGroups truncate (now - 30 * months * day) movements)
      (computeXyzAnalysis d truncate now months none skus movements result)
      (computeAbcXyzMatrix d truncate now months skus movements result') := by
  intro h
  exact h.returned (computeXyzAnalysis_eq d truncate now months skus movements none result)

/-- **A limit never only cuts the two reports**: one of them is not returned. -/
theorem not_onlyCuts (k : ℕ)
    (limited whole : RankedRows (abcGroups (now - 30 * months * day) movements))
    (limited' whole' : AnyOrder (monthlyGroups truncate (now - 30 * months * day) movements)) :
    ¬ OnlyCuts k (abcTop d.float skus (some k) limited) (abcTop d.float skus none whole)
      (computeXyzAnalysis d truncate now months (some k) skus movements limited')
      (computeXyzAnalysis d truncate now months none skus movements whole') := by
  intro h
  exact h.returned (computeXyzAnalysis_eq d truncate now months skus movements (some k) limited')

end Calls

/-! ### Three months -/

/-- A movement that takes five pieces of SKU 3 out. -/
def fiveOut (createdAt : ℤ) : MovementRow := ⟨3, ⟨-50000, by decide⟩, createdAt⟩

/-- Months of thirty days. -/
def thirtyDays (time : ℤ) : ℤ := time / (30 * day)

/-- The groups of movements from day 0 to day 90, in their order. -/
def quarterGroups (movements : List MovementRow) :
    AnyOrder (monthlyGroups thirtyDays (90 * day - 30 * (3 : ℕ) * day) movements) := ⟨_, .refl _⟩

/-- Numbers of 52 binary places, in the place of doubles. -/
def binaryPlaces : Doubles where
  float x := roundHalfEven (x * 2 ^ 52) / 2 ^ 52
  sum xs := xs.foldl (fun s x => roundHalfEven ((s + x) * 2 ^ 52) / 2 ^ 52) 0
  sqrt x := Nat.sqrt ⌊x * 2 ^ 104⌋.toNat / 2 ^ 52

/-- **Demand in one of three months** is in class Z of the window.  The calls raise, and the rows that
the statement asks for would leave the SKU out of the report and put it into class X of the
matrix. -/
theorem oneMonth_not_measures :
    windowClass 3 (quarterGroups [fiveOut (40 * day)]).rows (Uuid.text 3) = "Z" ∧
    (∀ item : AbcEntry, item.skuId = Uuid.text 3 →
      (matrixItem (xyzReport binaryPlaces [] (quarterGroups [fiveOut (40 * day)]).rows) item).xyz =
        "X") ∧
    computeXyzAnalysis binaryPlaces thirtyDays (90 * day) (3 : ℕ) none [] [fiveOut (40 * day)]
      (quarterGroups _) = .error .programmingError ∧
    computeAbcXyzMatrix binaryPlaces thirtyDays (90 * day) (3 : ℕ) [] [fiveOut (40 * day)]
      (quarterGroups _) = .error .programmingError ∧
    ¬ Measures 3 (quarterGroups [fiveOut (40 * day)]).rows
      (computeXyzAnalysis binaryPlaces thirtyDays (90 * day) (3 : ℕ) none []
        [fiveOut (40 * day)] (quarterGroups _))
      (computeAbcXyzMatrix binaryPlaces thirtyDays (90 * day) (3 : ℕ) [] [fiveOut (40 * day)]
        (quarterGroups _)) := by
  have hone : (monthlyValues (quarterGroups [fiveOut (40 * day)]).rows
      (Uuid.text 3)).length = 1 := by decide +kernel
  have hraises := computeXyzAnalysis_eq binaryPlaces thirtyDays (90 * day) (3 : ℕ) []
    [fiveOut (40 * day)] none (quarterGroups _)
  exact ⟨windowClass_single (by decide) hone,
    (single_classX binaryPlaces [] (by rw [hone]; decide)).2, hraises,
    computeAbcXyzMatrix_eq .., fun h => h.returned hraises⟩

/-- SKU 3 takes 5, 5 and 50 pieces in three months, SKUs 4 and 5 take 20 each. -/
def threeSkus : List MovementRow := [
  fiveOut (5 * day), fiveOut (40 * day), ⟨3, ⟨-500000, by decide⟩, 70 * day⟩,
  ⟨4, ⟨-200000, by decide⟩, 5 * day⟩, ⟨5, ⟨-200000, by decide⟩, 5 * day⟩]

/-- The rows of the ABC statement on day 90, for three months. -/
def quarterRanked (movements : List MovementRow) :
    RankedRows (abcGroups (90 * day - 30 * (3 : ℕ) * day) movements) := .stable _ _

/-- **Under a limit of two**, the second SKU falls from class A to class C, and the XYZ report is not
returned. -/
theorem topTwo_not_onlyCuts :
    (abcTop binaryPlaces.float [] (some 2) (quarterRanked threeSkus)).map AbcEntry.abcCategory =
      ["A", "C"] ∧
    ((abcTop binaryPlaces.float [] none (quarterRanked threeSkus)).take 2).map
      AbcEntry.abcCategory = ["A", "A"] ∧
    computeXyzAnalysis binaryPlaces thirtyDays (90 * day) (3 : ℕ) (some 2) [] threeSkus
      (quarterGroups _) = .error .programmingError ∧
    ¬ OnlyCuts 2 (abcTop binaryPlaces.float [] (some 2) (quarterRanked threeSkus))
      (abcTop binaryPlaces.float [] none (quarterRanked threeSkus))
      (computeXyzAnalysis binaryPlaces thirtyDays (90 * day) (3 : ℕ) (some 2) [] threeSkus
        (quarterGroups _))
      (computeXyzAnalysis binaryPlaces thirtyDays (90 * day) (3 : ℕ) none [] threeSkus
        (quarterGroups _)) := by
  have hraises := computeXyzAnalysis_eq binaryPlaces thirtyDays (90 * day) (3 : ℕ) [] threeSkus
    (some 2) (quarterGroups _)
  exact ⟨by decide +kernel, by decide +kernel, hraises, fun h => h.returned hraises⟩

end Wms

end OmsWmsTms
