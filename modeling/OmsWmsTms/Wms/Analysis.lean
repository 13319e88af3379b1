import OmsWmsTms.Core.Clock
import OmsWmsTms.Data.Decimal
import OmsWmsTms.Data.OrderBy
import OmsWmsTms.Wms.AllOrNothing

/-!
# The ABC analysis

`compute_abc_analysis` of `src/wms/analysis.py`, and the runs of `adjust_inventory` that write what
it reads.  The analysis sums the movements with a negative quantity; `adjust_inventory` writes the
amount of an adjustment, and its direction as the location that the stock leaves.

* `computeAbcAnalysis` : `compute_abc_analysis`.
* `adjustSystem` : the calls of `adjust_inventory`, and the adjustments that are committed.
* `Counts` : what the report is to say of them.
* `recorded_run` : the movements of a run are its adjustments, as amounts.
* `counts_iff` : the report is right exactly when no outbound adjustment is in its window.
-/

namespace OmsWmsTms

namespace Wms

open Txn (Prog)

/-! ### The report -/

/-- A row of `stock_movements`, as far as the analysis reads it. -/
structure MovementRow where
  skuId : Uuid
  quantity : Numeric 20 4
  createdAt : ℤ

/-- An entry of the report. -/
structure AbcEntry where
  rank : ℕ
  skuId : String
  skuCode : String
  skuName : String
  totalQty : ℚ
  sharePct : ℚ
  cumulPct : ℚ
  abcCategory : String
deriving DecidableEq

variable (float : ℚ → ℚ)

/-- `_abc_category`. -/
def abcCategory (cumulRatio : ℚ) : String :=
  if cumulRatio ≤ float (float 0.80 + float 1e-10) then "A"
  else if cumulRatio ≤ float (float 0.95 + float 1e-10) then "B"
  else "C"

/-- `round(x, 2)`. -/
def round2 (x : ℚ) : ℚ := float (roundHalfEven (x * 100) / 100)

/-- The quantities of a SKU. -/
def skuTotal (rows : List MovementRow) (skuId : Uuid) : ℚ :=
  ((rows.filter fun row => row.skuId = skuId).map fun row => row.quantity.toRat).sum

/-- The rows of the statement: the SKUs with their totals, the smallest total first. -/
def abcRows (cutoff : ℤ) (topN : Option ℕ) (rows : List MovementRow) : List (Uuid × ℚ) :=
  -- `StockMovement.quantity < 0`, while `adjust_inventory` stores absolute values
  let outbound := rows.filter fun row => cutoff ≤ row.createdAt ∧ row.quantity.toRat < 0
  let totals := (outbound.map MovementRow.skuId).dedup.map fun id => (id, skuTotal outbound id)
  let ordered := orderBy (fun a b => a.2 ≤ b.2) totals
  match topN with
  | none | some 0 => ordered
  | some n => ordered.take n

/-- The loop over the rows. -/
def abcEntries (skus : List Oms.Sku) (totalValue : ℚ) : ℕ → ℚ → List (Uuid × ℚ) → List AbcEntry
  | _, _, [] => []
  | rank, cumulative, (skuId, total) :: rows =>
    let qty := |float total|
    let share := float (qty / float totalValue)
    let cumulative := float (cumulative + share)
    let sku? := skus.find? fun sku => sku.id = skuId
    { rank
      skuId := skuId.text
      skuCode := (sku?.map Oms.Sku.sku).getD ""
      skuName := (sku?.map Oms.Sku.name).getD ""
      totalQty := qty
      sharePct := round2 float (float (share * 100))
      cumulPct := round2 float (float (cumulative * 100))
      abcCategory := abcCategory float cumulative } ::
        abcEntries skus totalValue (rank + 1) cumulative rows

/-- `compute_abc_analysis`; `float` rounds to the nearest double, and SKUs of one total are in the
order of their first movements. -/
def computeAbcAnalysis (now : ℤ) (months : ℤ) (topN : Option ℕ) (skus : List Oms.Sku)
    (movements : List MovementRow) : List AbcEntry :=
  let cutoff := now - 30 * months * day
  let rows := abcRows cutoff topN movements
  let total := |Decimal.runningSum 0 (rows.map Prod.snd)|
  let totalValue := if total = 0 then 1 else total
  abcEntries float skus totalValue 1 0 rows

/-! ### The runs -/

/-- A committed adjustment. -/
structure Adjustment where
  skuId : Uuid
  /-- The quantity of the call. -/
  quantity : ℚ
  createdAt : ℤ
deriving DecidableEq

/-- The database, the column `created_at` of its movements, and the adjustments so far. -/
structure AdjustHistory where
  db : WmsDb
  createdAt : Uuid → ℤ
  history : List Adjustment

/-- A call, the identifiers that it gets, and the time at which it inserts its movement. -/
structure AdjustRequest where
  ids : ℕ → ℕ
  now : ℕ → ℤ
  data : AdjustData
  createdAt : ℤ

variable (rt : Runtime)

/-- One call; it has committed when there is one more movement. -/
def AdjustHistory.next (s : AdjustHistory) (request : AdjustRequest) : AdjustHistory :=
  let db := ((adjustInventory rt request.now request.data).run request.ids s.db).2
  -- a call that raises or is refused inserts no movement
  match (movements db).drop (movements s.db).length with
  | [] => { s with db }
  | movement :: _ => {
    db
    createdAt := Function.update s.createdAt movement.id request.createdAt
    history := s.history ++ [⟨movement.skuId, request.data.quantity, request.createdAt⟩] }

/-- **The calls of `adjust_inventory`.** -/
def adjustSystem : Lts AdjustHistory AdjustRequest where
  step s request s' := s' = s.next rt request

/-- The start: no movement. -/
structure AdjustHistory.Start (s : AdjustHistory) : Prop where
  movements : movements s.db = []
  history : s.history = []

/-- The report of a state. -/
def AdjustHistory.report (s : AdjustHistory) (now months : ℤ) (topN : Option ℕ) : List AbcEntry :=
  computeAbcAnalysis float now months topN (Txn.rows WmsRow.sku? s.db)
    ((movements s.db).map fun movement =>
      ⟨movement.skuId, movement.quantity, s.createdAt movement.id⟩)

/-! ### What is promised -/

/-- The outbound quantities of a SKU from a time on. -/
def outboundTotal (history : List Adjustment) (cutoff : ℤ) (skuId : Uuid) : ℚ :=
  ((history.filter fun a => a.skuId = skuId ∧ a.quantity < 0 ∧ cutoff ≤ a.createdAt).map fun a =>
    |a.quantity|).sum

/-- **The report counts the outbound adjustments.** -/
structure Counts (history : List Adjustment) (cutoff : ℤ) (report : List AbcEntry) : Prop where
  total : ∀ skuId, ∀ entry ∈ report, entry.skuId = Uuid.text skuId →
    entry.totalQty = outboundTotal history cutoff skuId
  present : ∀ skuId, 0 < outboundTotal history cutoff skuId →
    ∃ entry ∈ report, entry.skuId = Uuid.text skuId

variable {float rt}

/-! ### What is written -/

/-- A movement and its adjustment. -/
def StockMovement.Records (movement : StockMovement) (adjustment : Adjustment) : Prop :=
  movement.skuId = adjustment.skuId ∧
    Numeric.ofRat? |adjustment.quantity| = some movement.quantity

/-- The movements are the adjustments. -/
def AdjustHistory.Recorded (s : AdjustHistory) : Prop :=
  List.Forall₂ StockMovement.Records (movements s.db) s.history

theorem recorded_next {s : AdjustHistory} (h : s.Recorded) (request : AdjustRequest) :
    (s.next rt request).Recorded := by
  unfold AdjustHistory.next AdjustHistory.Recorded
  dsimp only
  rcases run_alone rt request.now request.data s.db request.ids with hdb | ⟨-, k, plan, hdb⟩
  · rw [hdb, List.drop_length]
    exact h
  · have hmovements : movements (Txn.overlay s.db plan.writes) =
        movements s.db ++ [plan.movement] := plan.commit.movements_eq
    rw [hdb, hmovements, List.drop_left]
    dsimp only
    rw [hmovements]
    obtain ⟨hquantity, -, hsku, -⟩ := newMovement_spec plan.movement_eq
    exact List.rel_append h (.cons ⟨rfl, hquantity⟩ .nil)

/-- **The movements of a run are its adjustments.** -/
theorem recorded_run {s s' : AdjustHistory} {requests : List AdjustRequest} (hs : s.Start)
    (hrun : (adjustSystem rt).Run s requests s') : s'.Recorded := by
  refine hrun.invariant (I := AdjustHistory.Recorded) ?_ ?_
  · unfold AdjustHistory.Recorded
    rw [hs.movements, hs.history]
    exact .nil
  · rintro s request s' h rfl
    exact recorded_next h request

/-- **No movement is negative.** -/
theorem AdjustHistory.Recorded.nonneg {s : AdjustHistory} (h : s.Recorded) :
    ∀ movement ∈ movements s.db, 0 ≤ movement.quantity.toRat := by
  unfold AdjustHistory.Recorded at h
  intro movement hmovement
  obtain ⟨i, hi, rfl⟩ := List.getElem_of_mem hmovement
  have hrecords := (List.forall₂_iff_get.1 h).2 i hi (h.length_eq ▸ hi)
  have hle := Numeric.le_toRat_of_ofRat? (0 : Numeric 20 4)
    (by rw [Numeric.toRat_zero]; exact abs_nonneg _) hrecords.2
  rwa [Numeric.toRat_zero] at hle

/-! ### What is reported -/

/-- **The report of a run is empty.** -/
theorem report_eq_nil {s : AdjustHistory} (hs : s.Recorded) (now months : ℤ) (topN : Option ℕ) :
    s.report float now months topN = [] := by
  -- the statement asks for negative quantities, and there is none
  have houtbound (cutoff : ℤ) : ((movements s.db).map fun movement =>
      (⟨movement.skuId, movement.quantity, s.createdAt movement.id⟩ : MovementRow)).filter
        (fun row => cutoff ≤ row.createdAt ∧ row.quantity.toRat < 0) = [] := by
    refine List.filter_eq_nil_iff.2 fun row hrow => ?_
    obtain ⟨movement, hmovement, rfl⟩ := List.mem_map.1 hrow
    have hnonneg := hs.nonneg movement hmovement
    simp [hnonneg]
  have hrows : abcRows (now - 30 * months * day) topN ((movements s.db).map fun movement =>
      ⟨movement.skuId, movement.quantity, s.createdAt movement.id⟩) = [] := by
    unfold abcRows
    dsimp only
    rw [houtbound]
    split <;> simp [orderBy]
  unfold AdjustHistory.report computeAbcAnalysis
  dsimp only
  rw [hrows]
  rfl

/-- An empty report counts the outbound adjustments exactly when there are none. -/
theorem counts_nil_iff {history : List Adjustment} {cutoff : ℤ} :
    Counts history cutoff [] ↔
      ∀ adjustment ∈ history, cutoff ≤ adjustment.createdAt → 0 ≤ adjustment.quantity := by
  constructor
  · intro h adjustment hmem hcutoff
    by_contra hneg
    have hpos : 0 < outboundTotal history cutoff adjustment.skuId := by
      refine List.sum_pos _ (fun x hx => ?_) (List.ne_nil_of_mem (List.mem_map.2
        ⟨adjustment, List.mem_filter.2 ⟨hmem, by simpa [hcutoff] using hneg⟩, rfl⟩))
      obtain ⟨outbound, houtbound, rfl⟩ := List.mem_map.1 hx
      have hquantity := (List.mem_filter.1 houtbound).2
      simp only [decide_eq_true_eq] at hquantity
      exact abs_pos.2 hquantity.2.1.ne
    obtain ⟨entry, hentry, -⟩ := h.present _ hpos
    cases hentry
  · intro h
    refine ⟨fun _ _ hentry => (by cases hentry), fun skuId hpos => ?_⟩
    have hnone : (history.filter fun a => a.skuId = skuId ∧ a.quantity < 0 ∧
        cutoff ≤ a.createdAt) = [] := by
      refine List.filter_eq_nil_iff.2 fun adjustment hmem => ?_
      simp only [decide_eq_true_eq]
      rintro ⟨-, hneg, hcutoff⟩
      exact absurd (h adjustment hmem hcutoff) (not_le.2 hneg)
    rw [outboundTotal, hnone] at hpos
    exact absurd hpos (lt_irrefl _)

/-- **The report counts the outbound adjustments of a run exactly when** none is in its window. -/
theorem counts_iff {s s' : AdjustHistory} {requests : List AdjustRequest} (hs : s.Start)
    (hrun : (adjustSystem rt).Run s requests s') (now months : ℤ) (topN : Option ℕ) :
    Counts s'.history (now - 30 * months * day) (s'.report float now months topN) ↔
      ∀ adjustment ∈ s'.history, now - 30 * months * day ≤ adjustment.createdAt →
        0 ≤ adjustment.quantity := by
  rw [report_eq_nil (recorded_run hs hrun)]
  exact counts_nil_iff

/-! ### A shelf -/

/-- The shelf, with no movement. -/
def shelfStart : AdjustHistory := ⟨shelfDb, fun _ => 0, []⟩

theorem start_shelfStart : shelfStart.Start := ⟨by decide, rfl⟩

/-- An adjustment of the shelf, at 5. -/
def shelfRequest (quantity : ℚ) : AdjustRequest :=
  ⟨hundreds, fun _ => 5, (adjustShelf quantity).data, 5⟩

/-- Three pieces come in: the report is empty, as it should be. -/
theorem counts_inbound : ∃ s, (adjustSystem ⟨fun _ _ => true, false⟩).Run shelfStart
      [shelfRequest 3] s ∧ s.history = [⟨3, 3, 5⟩] ∧
    Counts s.history (5 - 30 * 6 * day) (s.report id 5 6 none) := by
  have hrun := Lts.Run.single (A := adjustSystem ⟨fun _ _ => true, false⟩) (s := shelfStart)
    (l := shelfRequest 3) rfl
  have hhistory : (shelfStart.next ⟨fun _ _ => true, false⟩ (shelfRequest 3)).history =
      [⟨3, 3, 5⟩] := by decide +kernel
  refine ⟨_, hrun, hhistory, (counts_iff start_shelfStart hrun 5 6 none).2 ?_⟩
  rw [hhistory]
  decide +kernel

/-- **Three pieces go out**, and the report is empty all the same. -/
theorem outbound_not_counted : ∃ s, (adjustSystem ⟨fun _ _ => true, false⟩).Run shelfStart
      [shelfRequest (-3)] s ∧ s.history = [⟨3, -3, 5⟩] ∧ s.report id 5 6 none = [] ∧
    ¬ Counts s.history (5 - 30 * 6 * day) (s.report id 5 6 none) := by
  have hrun := Lts.Run.single (A := adjustSystem ⟨fun _ _ => true, false⟩) (s := shelfStart)
    (l := shelfRequest (-3)) rfl
  have hhistory : (shelfStart.next ⟨fun _ _ => true, false⟩ (shelfRequest (-3))).history =
      [⟨3, -3, 5⟩] := by decide +kernel
  have hreport : (shelfStart.next ⟨fun _ _ => true, false⟩ (shelfRequest (-3))).report id 5 6
      none = [] := report_eq_nil (recorded_run start_shelfStart hrun) 5 6 none
  refine ⟨_, hrun, hhistory, hreport, ?_⟩
  rw [hreport, hhistory, counts_nil_iff]
  decide +kernel

end Wms

end OmsWmsTms
