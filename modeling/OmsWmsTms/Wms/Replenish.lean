import OmsWmsTms.Core.Ids
import OmsWmsTms.Data.Decimal
import OmsWmsTms.Lts.Basic
import OmsWmsTms.Txn.Decides
import OmsWmsTms.Txn.OneCommit
import OmsWmsTms.Wms.AuditTrail

/-!
# Replenishment

`auto_replenish` of `src/wms/services/picking_service.py` requests stock for each row of a warehouse
that is below its minimum.  It reads what is on hand, and not what has been requested before.

* `autoReplenish` : the service, on the columns that it reads and writes.
* `NoOvershoot` : what is on hand and pending does not exceed what the rows of a SKU can hold.
* `HasRoom` : the condition on a call; `run_autoReplenish` : what a call adds.
* `noOvershoot_iff` : a run does not overshoot exactly when each of its calls has room.
-/

namespace OmsWmsTms

namespace Wms

namespace Replenish

open Txn (Prog Decides OneCommit Writes Session)

/-! ### Rows -/

/-- The texts of a column `String(limit)`. -/
abbrev Varchar (limit : ℕ) := { text : String // text.length ≤ limit }

/-- `Inventory`. -/
structure Inventory where
  /-- The primary key. -/
  id : Uuid
  /-- The warehouse. -/
  warehouseId : Uuid
  /-- The SKU. -/
  skuId : Uuid
  /-- The trade item number. -/
  gtin : Option (Varchar 13)
  /-- The quantity on hand. -/
  quantity : Numeric 20 4
  /-- The quantity below which stock is requested. -/
  minQty : Option (Numeric 18 4)
  /-- The quantity that there is room for. -/
  maxQty : Option (Numeric 18 4)
  /-- Whether the row is deleted. -/
  isDeleted : Bool
deriving DecidableEq

/-- `StockMovementType`. -/
inductive StockMovementType
  | transfer | replenishment | returned
deriving DecidableEq

/-- `StockMovement`. -/
structure StockMovement where
  /-- The primary key. -/
  id : Uuid
  /-- The warehouse. -/
  sourceWarehouseId : Uuid
  /-- The SKU. -/
  skuId : Uuid
  /-- The trade item number. -/
  gtin : Varchar 13
  /-- The quantity. -/
  quantity : Numeric 20 4
  /-- The type. -/
  movementType : StockMovementType
  /-- The status. -/
  status : String
deriving DecidableEq

/-- The keys of the rows. -/
inductive Key
  | inventory (id : Uuid)
  | stockMovement (id : Uuid)
deriving DecidableEq

/-- The rows. -/
inductive Row
  | inventory (row : Inventory)
  | stockMovement (row : StockMovement)
deriving DecidableEq

/-- The stock in a row of `inventory`. -/
def Row.inventory? : Row → Option Inventory
  | inventory row => some row
  | _ => none

/-- The movement in a row of `stock_movements`. -/
def Row.stockMovement? : Row → Option StockMovement
  | stockMovement row => some row
  | _ => none

/-- The database. -/
abbrev Db := Dict Key Row

/-- The programs on it. -/
abbrev ReplenishProg := Prog Key Row ServiceError

/-! ### The service -/

/-- `int(decimal)`. -/
def truncate (x : ℚ) : ℤ := if 0 ≤ x then ⌊x⌋ else ⌈x⌉

/-- What is requested for a row, if it is below its minimum; `remaining` is
`Decimal(str(1 - threshold_pct))`. -/
def Inventory.needed (remaining : ℚ) (inv : Inventory) : Option ℤ :=
  match inv.maxQty with
  | none => none
  | some maxQty =>
    if maxQty.toRat = 0 ∨ (inv.minQty.map Numeric.toRat).getD 0 ≤ inv.quantity.toRat then none
    else
      let targetQty := significant Decimal.prec (maxQty.toRat * remaining)
      let needed := truncate (significant Decimal.prec (targetQty - inv.quantity.toRat))
      if needed ≤ 0 then none else some needed

/-- The request for a row. -/
def createMovement (whId : Uuid) (inv : Inventory) (needed : ℤ) : ReplenishProg StockMovement := do
  let id ← Prog.newId
  let quantity ← Prog.ofExcept (storeNumeric needed)
  let movement : StockMovement := {
    id, sourceWarehouseId := whId, skuId := inv.skuId, gtin := inv.gtin.getD ⟨"", Nat.zero_le _⟩
    quantity, movementType := .replenishment, status := "pending" }
  Prog.insertOr .integrityError (.stockMovement id) (.stockMovement movement)
  return movement

/-- One round of the loop of `auto_replenish`. -/
def replenishItem (remaining : ℚ) (whId : Uuid) (replenishments : List StockMovement)
    (inv : Inventory) : ReplenishProg (List StockMovement) :=
  match inv.needed remaining with
  | none => return replenishments
  | some needed => do
    let movement ← createMovement whId inv needed
    return replenishments ++ [movement]

/-- The stock that `auto_replenish` reads. -/
def replenishCond (whId : Uuid) (inv : Inventory) : Bool :=
  inv.warehouseId = whId ∧ inv.isDeleted = false

/-- `auto_replenish`. -/
def autoReplenish (warehouseId : IdArg) (remaining : ℚ) : ReplenishProg (List StockMovement) :=
  match warehouseId.uuid? with
  | none => .throw .valueError
  | some whId => do
    let rows ← Prog.query fun _ row => row.inventory?.any (replenishCond whId)
    let items := rows.filterMap fun item => item.2.inventory?
    let replenishments ← Prog.foldEach items [] (replenishItem remaining whId)
    Prog.commitOr .commitFailed
    return replenishments

/-! ### What is on hand, and what is pending -/

/-- The row is of the SKU in the warehouse, and is not deleted. -/
def Inventory.IsOf (inv : Inventory) (holding : Holding) : Prop :=
  inv.warehouseId = holding.warehouseId ∧ inv.skuId = holding.skuId ∧ inv.isDeleted = false

instance (inv : Inventory) (holding : Holding) : Decidable (inv.IsOf holding) :=
  inferInstanceAs (Decidable (_ ∧ _ ∧ _))

/-- The movement is a pending request for the SKU in the warehouse. -/
def StockMovement.IsPending (movement : StockMovement) (holding : Holding) : Prop :=
  (movement.movementType = .replenishment ∧ movement.status = "pending") ∧
    movement.sourceWarehouseId = holding.warehouseId ∧ movement.skuId = holding.skuId

instance (movement : StockMovement) (holding : Holding) : Decidable (movement.IsPending holding) :=
  inferInstanceAs (Decidable ((_ ∧ _) ∧ _ ∧ _))

/-- An amount of the rows of a SKU in a warehouse. -/
def stockAmount (amount : Inventory → ℚ) (holding : Holding) (row : Row) : ℚ :=
  (row.inventory?.map fun inv => if inv.IsOf holding then amount inv else 0).getD 0

/-- What a row adds to the pending requests. -/
def pendingAmount (holding : Holding) (row : Row) : ℚ :=
  (row.stockMovement?.map fun movement =>
    if movement.IsPending holding then movement.quantity.toRat else 0).getD 0

/-- What is on hand of a SKU in a warehouse. -/
def onHand (d : Db) (holding : Holding) : ℚ :=
  Txn.total (stockAmount (fun inv => inv.quantity.toRat) holding) d

/-- What its rows have room for. -/
def capacity (d : Db) (holding : Holding) : ℚ :=
  Txn.total (stockAmount (fun inv => (inv.maxQty.map Numeric.toRat).getD 0) holding) d

/-- What has been requested, and is pending. -/
def pending (d : Db) (holding : Holding) : ℚ := Txn.total (pendingAmount holding) d

/-- What is on hand and pending was below what the rows have room for. -/
def Below (d : Db) (holding : Holding) : Prop :=
  onHand d holding + pending d holding < capacity d holding

/-- **No SKU overshoots** that was below its capacity at the start. -/
def NoOvershoot (d d' : Db) : Prop :=
  ∀ holding, Below d holding → onHand d' holding + pending d' holding ≤ capacity d' holding

/-! ### Calls -/

/-- A call of `auto_replenish`. -/
structure ReplenishCall where
  /-- The warehouse. -/
  warehouseId : IdArg
  /-- `Decimal(str(1 - threshold_pct))`. -/
  remaining : ℚ

/-- Identifiers that no movement has. -/
structure Fresh (ids : ℕ → ℕ) (d : Db) : Prop where
  injective : Function.Injective ids
  free : ∀ n, d.get? (.stockMovement (ids n)) = none

/-- The system of the calls. -/
def replenishSystem : Lts Db ReplenishCall where
  step d call d' := ∃ ids, Fresh ids d ∧
    d' = ((autoReplenish call.warehouseId call.remaining).run ids d).2

/-- The rows of a warehouse. -/
def itemsOf (whId : Uuid) (d : Db) : List Inventory :=
  (Txn.select (fun _ row => row.inventory?.any (replenishCond whId)) d).filterMap fun item =>
    item.2.inventory?

/-- What rows of a warehouse are short of: of each row that has a maximum and is below its minimum,
the whole part of the remaining share of its maximum, less what it holds. -/
def shortage (remaining : ℚ) (whId : Uuid) (holding : Holding) (items : List Inventory) : ℚ :=
  (items.map fun inv =>
    if (⟨whId, inv.skuId⟩ : Holding) = holding then ((inv.needed remaining).getD 0 : ℚ) else 0).sum

/-- What the rows are short of fits the column of a movement. -/
def ShortagesFit (remaining : ℚ) (items : List Inventory) : Prop :=
  ∀ inv ∈ items, ∀ needed, inv.needed remaining = some needed →
    (Numeric.ofRat? (needed : ℚ) : Option (Numeric 20 4)).isSome = true

/-- **A call has room**: for each SKU of its warehouse that was below its capacity at the start, and
of which a row is short now, the pending requests and the shortages are together at most what the
rows of the SKU have room for and do not hold. -/
def HasRoom (d₀ d : Db) (call : ReplenishCall) : Prop :=
  ∀ whId, call.warehouseId.uuid? = some whId →
    ShortagesFit call.remaining (itemsOf whId d) →
    ∀ holding, holding.warehouseId = whId → Below d₀ holding →
      0 < shortage call.remaining whId holding (itemsOf whId d) →
      pending d holding + shortage call.remaining whId holding (itemsOf whId d) ≤
        capacity d holding - onHand d holding

/-! ### What a call adds -/

/-- What the loop keeps: what is on hand and the capacity are those of `d`, and what is pending adds
up with the shortages of the rows that are left. -/
structure Requesting (d : Db) (remaining : ℚ) (whId : Uuid) (items left : List Inventory)
    (s : Session Key Row) : Prop where
  fresh : Fresh s.ids s.working
  onHand : ∀ holding, onHand s.working holding = onHand d holding
  capacity : ∀ holding, capacity s.working holding = capacity d holding
  pending : ∀ holding, pending s.working holding + shortage remaining whId holding left =
    pending d holding + shortage remaining whId holding items

section Steps

variable {d : Db} {remaining : ℚ} {whId : Uuid} {items left : List Inventory} {inv : Inventory}
  {s : Session Key Row} {holding : Holding}

theorem itemsOf_eq : itemsOf whId d = (Txn.rows Row.inventory? d).filter (replenishCond whId) :=
  Txn.filterMap_select Row.inventory? (replenishCond whId) d

theorem shortage_cons : shortage remaining whId holding (inv :: left) =
    (if (⟨whId, inv.skuId⟩ : Holding) = holding then ((inv.needed remaining).getD 0 : ℚ) else 0) +
      shortage remaining whId holding left := by
  rw [shortage, List.map_cons, List.sum_cons]
  rfl

/-- A row that nothing is requested for. -/
theorem Requesting.skip (h : Requesting d remaining whId items (inv :: left) s)
    (hneeded : inv.needed remaining = none) : Requesting d remaining whId items left s := by
  refine ⟨h.fresh, h.onHand, h.capacity, fun holding => ?_⟩
  have hpending := h.pending holding
  rw [shortage_cons, hneeded] at hpending
  simpa using hpending

/-- **A request.** -/
theorem Requesting.insert {id : Uuid} {movement : StockMovement} {needed : ℤ}
    (h : Requesting d remaining whId items (inv :: left) s)
    (hneeded : inv.needed remaining = some needed)
    (hfree : s.working.get? (.stockMovement id) = none) (hid : ∀ n, s.ids n ≠ id)
    (hmovement : ∀ holding, pendingAmount holding (.stockMovement movement) =
      if (⟨whId, inv.skuId⟩ : Holding) = holding then (needed : ℚ) else 0) :
    Requesting d remaining whId items left
      { s with working := s.working.set (.stockMovement id) (.stockMovement movement) } := by
  refine ⟨⟨h.fresh.injective, fun n => ?_⟩, fun holding => ?_, fun holding => ?_,
    fun holding => ?_⟩
  · rw [Dict.get?_set, if_neg]
    · exact h.fresh.free n
    · exact fun heq => hid n (Key.stockMovement.inj heq).symm
  · rw [Replenish.onHand, Txn.total_set_of_none hfree]
    exact (add_zero _).trans (h.onHand holding)
  · rw [Replenish.capacity, Txn.total_set_of_none hfree]
    exact (add_zero _).trans (h.capacity holding)
  · rw [Replenish.pending, Txn.total_set_of_none hfree, hmovement, ← h.pending holding,
      shortage_cons, hneeded, Option.getD_some, add_assoc]
    rfl

/-- What a request adds to the pending ones. -/
theorem pendingAmount_request {id : Uuid} {gtin : Varchar 13} {quantity : Numeric 20 4}
    {needed : ℤ} (hquantity : Numeric.ofRat? (needed : ℚ) = some quantity) :
    pendingAmount holding (.stockMovement {
      id, sourceWarehouseId := whId, skuId := inv.skuId, gtin, quantity
      movementType := .replenishment, status := "pending" }) =
      if (⟨whId, inv.skuId⟩ : Holding) = holding then (needed : ℚ) else 0 := by
  rw [pendingAmount, Row.stockMovement?, Option.map_some, Option.getD_some,
    Numeric.toRat_of_ofRat? (.intCast needed) hquantity]
  refine if_congr ?_ rfl rfl
  obtain ⟨whId', skuId'⟩ := holding
  simp [StockMovement.IsPending]

/-- **One row.** -/
theorem decides_replenishItem (inv : Inventory) (left : List Inventory)
    (replenishments : List StockMovement) :
    Decides (Requesting d remaining whId items (inv :: left))
      (replenishItem remaining whId replenishments inv)
      (∀ needed, inv.needed remaining = some needed →
        (Numeric.ofRat? (needed : ℚ) : Option (Numeric 20 4)).isSome = true)
      fun _ => Requesting d remaining whId items left := by
  unfold replenishItem
  cases hneeded : inv.needed remaining with
  | none =>
    exact (Decides.ret fun s hs => hs.skip hneeded).conseq (fun _ hs => hs)
      (fun _ _ => iff_of_true trivial fun needed h => by cases h) fun _ _ h => h
  | some needed =>
    let P := Requesting d remaining whId items (inv :: left)
    have hinsert (id : ℕ) (quantity : Numeric 20 4)
        (hquantity : Numeric.ofRat? (needed : ℚ) = some quantity) :
        Decides (fun s => (s.working.get? (.stockMovement id) = none ∧ ∀ n, s.ids n ≠ id) ∧ P s)
          ((Prog.insertOr .integrityError (.stockMovement id) (.stockMovement {
            id, sourceWarehouseId := whId, skuId := inv.skuId
            gtin := inv.gtin.getD ⟨"", Nat.zero_le _⟩, quantity
            movementType := .replenishment, status := "pending" })) : ReplenishProg Unit)
          True fun _ => Requesting d remaining whId items left :=
      .insertOr (fun s hs => iff_of_true trivial hs.1.1) fun s hs hfree =>
        hs.2.insert hneeded hfree hs.1.2 fun holding => pendingAmount_request hquantity
    have hmovement : Decides P (createMovement whId inv needed)
        (∃ quantity : Numeric 20 4, storeNumeric (needed : ℚ) = .ok quantity)
        fun _ => Requesting d remaining whId items left := by
      refine Decides.bind_true (Q := fun id s =>
        (s.working.get? (.stockMovement id) = none ∧ ∀ n, s.ids n ≠ id) ∧ P s)
        (.newId fun s hs => ?_) fun id => ?_
      · refine ⟨⟨hs.fresh.free 0, fun n heq => ?_⟩, ⟨⟨fun _ _ heq => ?_, fun n => ?_⟩, hs.onHand,
          hs.capacity, hs.pending⟩⟩
        · cases hs.fresh.injective heq
        · exact Nat.succ_injective (hs.fresh.injective heq)
        · exact hs.fresh.free (n + 1)
      · refine ((Decides.ofExcept fun quantity hquantity s hs =>
          And.intro (storeNumeric_eq_ok_iff.1 hquantity) hs).bind fun quantity =>
            Decides.assume fun hquantity => (hinsert id quantity hquantity).bind_true fun _ =>
              Decides.ret (Q := fun _ => Requesting d remaining whId items left)
                fun _ hs => hs).conseq (fun _ hs => hs) (fun _ _ => ?_) fun _ _ h => h
        rw [and_true]
    refine (hmovement.bind fun movement => Decides.ret
      (Q := fun _ => Requesting d remaining whId items left) fun _ hs => hs).conseq
        (fun _ hs => hs) (fun _ _ => ?_) fun _ _ h => h
    rw [and_true, exists_storeNumeric_iff]
    constructor
    · rintro h needed' heq
      cases heq
      exact h
    · exact fun h => h needed rfl

end Steps

section Call

variable {d : Db} {ids : ℕ → ℕ} {arg : IdArg} {whId : Uuid}

theorem decides_autoReplenish (remaining : ℚ) (hwh : arg.uuid? = some whId) (hids : Fresh ids d) :
    Decides (fun s => s = ⟨d, d, ids⟩) (autoReplenish arg remaining)
      (ShortagesFit remaining (itemsOf whId d)) fun _ s => s.committed = s.working ∧
        Requesting d remaining whId (itemsOf whId d) [] s := by
  unfold autoReplenish
  simp only [hwh]
  refine Decides.bind_true (Q := fun rows s => (rows.filterMap fun item => item.2.inventory?) =
      itemsOf whId d ∧ Requesting d remaining whId (itemsOf whId d) (itemsOf whId d) s)
    (.query fun s hs => ?_) fun rows => Decides.assume fun hitems => ?_
  · subst hs
    exact ⟨rfl, hids, fun _ => rfl, fun _ => rfl, fun _ => rfl⟩
  · simp only [hitems]
    have hloop := Decides.foldEach (J := fun left (_ : List StockMovement) =>
      Requesting d remaining whId (itemsOf whId d) left)
      decides_replenishItem (itemsOf whId d) []
    have hcommit (replenishments : List StockMovement) :
        Decides (Requesting d remaining whId (itemsOf whId d) [])
          ((Prog.commitOr .commitFailed).bind fun _ =>
            (.ret replenishments : ReplenishProg (List StockMovement))) True
          fun _ s => s.committed = s.working ∧ Requesting d remaining whId (itemsOf whId d) [] s :=
      Decides.bind_true (Q := fun _ s => s.committed = s.working ∧
        Requesting d remaining whId (itemsOf whId d) [] s)
        (.commitOr fun s hs => ⟨rfl, hs.fresh, hs.onHand, hs.capacity, hs.pending⟩)
        fun _ => .ret fun _ hs => hs
    exact (hloop.bind hcommit).conseq (fun _ hs => hs) (fun _ _ => by rw [and_true]; rfl)
      fun _ _ h => h

theorem oneCommit_autoReplenish (arg : IdArg) (remaining : ℚ) :
    OneCommit (fun _ _ _ => True) (autoReplenish arg remaining) := by
  have hwrites (whId : Uuid) (replenishments : List StockMovement) (inv : Inventory) :
      Writes False (fun _ _ _ => True) (replenishItem remaining whId replenishments inv) := by
    unfold replenishItem
    cases inv.needed remaining with
    | none => trivial
    | some needed =>
      refine Writes.bind ?_ fun movement => trivial
      exact fun id => (Writes.ofExcept _).bind fun quantity => (Writes.insertOr trivial).bind
        fun _ => trivial
  unfold autoReplenish
  cases arg.uuid? with
  | none => trivial
  | some whId =>
    intro rows
    exact .bind (Writes.foldEach (hwrites whId)) fun replenishments => .commitOr _ _

/-- **What a call adds**: the shortages of the rows are pending, or nothing has changed. -/
theorem run_autoReplenish (remaining : ℚ) (hwh : arg.uuid? = some whId) (hids : Fresh ids d)
    (holding : Holding) :
    let d' := ((autoReplenish arg remaining).run ids d).2
    onHand d' holding = onHand d holding ∧ capacity d' holding = capacity d holding ∧
      (ShortagesFit remaining (itemsOf whId d) → pending d' holding =
        pending d holding + shortage remaining whId holding (itemsOf whId d)) ∧
      (¬ ShortagesFit remaining (itemsOf whId d) → d' = d) := by
  intro d'
  obtain ⟨hok, herror⟩ := (decides_autoReplenish remaining hwh hids).run rfl
  by_cases hfit : ShortagesFit remaining (itemsOf whId d)
  · obtain ⟨replenishments, s, hrun, hcommitted, hs⟩ := hok hfit
    have hd' : d' = s.working := (congrArg Prod.snd hrun).trans hcommitted
    rw [hd']
    refine ⟨hs.onHand holding, hs.capacity holding, fun _ => ?_, fun h => absurd hfit h⟩
    rw [← hs.pending holding, shortage, List.map_nil, List.sum_nil, add_zero]
  · obtain ⟨e, d'', hrun⟩ := herror hfit
    have hd' : d' = d := by
      rw [show d' = d'' from congrArg Prod.snd hrun]
      exact (oneCommit_autoReplenish arg remaining).run_error hrun
    rw [hd']
    exact ⟨rfl, rfl, fun h => absurd h hfit, fun _ => rfl⟩

end Call

/-! ### Runs -/

section Runs

variable {d₀ d d' : Db} {call : ReplenishCall} {remaining : ℚ} {whId : Uuid} {holding : Holding}
  {items : List Inventory}

theorem needed_pos {inv : Inventory} {needed : ℤ} (h : inv.needed remaining = some needed) :
    0 < needed := by
  unfold Inventory.needed at h
  split at h
  · cases h
  · dsimp only at h
    split_ifs at h with hskip hle
    cases h
    exact not_le.1 hle

theorem shortage_nonneg : 0 ≤ shortage remaining whId holding items := by
  refine List.sum_nonneg fun x hx => ?_
  obtain ⟨inv, -, rfl⟩ := List.mem_map.1 hx
  split_ifs
  · cases hneeded : inv.needed remaining with
    | none => exact le_rfl
    | some needed =>
      have hpos := needed_pos hneeded
      exact_mod_cast hpos.le
  · exact le_rfl

/-- The SKUs of other warehouses are short of nothing. -/
theorem warehouseId_of_shortage (h : 0 < shortage remaining whId holding items) :
    holding.warehouseId = whId := by
  by_contra hne
  refine h.ne' (List.sum_eq_zero fun x hx => ?_)
  obtain ⟨inv, -, rfl⟩ := List.mem_map.1 hx
  refine if_neg ?_
  rintro rfl
  exact hne rfl

/-- A call leaves the stock alone, and takes no request back. -/
theorem step_keeps (h : replenishSystem.step d call d') (holding : Holding) :
    onHand d' holding = onHand d holding ∧ capacity d' holding = capacity d holding ∧
      pending d holding ≤ pending d' holding := by
  obtain ⟨ids, hids, rfl⟩ := h
  cases hwh : call.warehouseId.uuid? with
  | none =>
    unfold autoReplenish
    simp only [hwh]
    exact ⟨rfl, rfl, le_rfl⟩
  | some whId =>
    obtain ⟨honHand, hcapacity, hfit, hunfit⟩ :=
      run_autoReplenish call.remaining hwh hids holding
    refine ⟨honHand, hcapacity, ?_⟩
    by_cases h : ShortagesFit call.remaining (itemsOf whId d)
    · rw [hfit h]
      exact le_add_of_nonneg_right shortage_nonneg
    · rw [hunfit h]

/-- **A call that finds no SKU over its capacity leaves none over it exactly when it has room.** -/
theorem step_noOvershoot_iff (h : replenishSystem.step d call d') (hd : NoOvershoot d₀ d) :
    NoOvershoot d₀ d' ↔ HasRoom d₀ d call := by
  obtain ⟨ids, hids, rfl⟩ := h
  cases hwh : call.warehouseId.uuid? with
  | none =>
    refine iff_of_true ?_ fun whId hwhId => ?_
    · unfold autoReplenish
      simp only [hwh]
      exact hd
    · rw [hwh] at hwhId
      cases hwhId
  | some whId =>
    have hrun := run_autoReplenish call.remaining hwh hids
    constructor
    · intro hafter whId' hwhId' hfit holding _ hbelow _
      rw [hwh] at hwhId'
      cases hwhId'
      obtain ⟨honHand, hcapacity, hpending, -⟩ := hrun holding
      have hle := hafter holding hbelow
      rw [honHand, hcapacity, hpending hfit] at hle
      linarith
    · intro hroom holding hbelow
      obtain ⟨honHand, hcapacity, hpending, hunfit⟩ := hrun holding
      have hbefore := hd holding hbelow
      by_cases hfit : ShortagesFit call.remaining (itemsOf whId d)
      · rw [honHand, hcapacity, hpending hfit]
        by_cases hpos : 0 < shortage call.remaining whId holding (itemsOf whId d)
        · have hle := hroom whId hwh hfit holding (warehouseId_of_shortage hpos) hbelow hpos
          linarith
        · linarith [not_lt.1 hpos]
      · rw [hunfit hfit]
        exact hbefore

/-- **A run does not overshoot exactly when each of its calls has room.** -/
theorem noOvershoot_iff {calls : List ReplenishCall} (hrun : replenishSystem.Run d₀ calls d) :
    NoOvershoot d₀ d ↔ (replenishSystem.guard (HasRoom d₀)).Run d₀ calls d := by
  refine Lts.Run.end_iff_guard (I := fun _ => True) (P := NoOvershoot d₀)
    (fun _ _ _ _ _ => trivial) (fun d call d' _ hbroken hstep hafter => hbroken ?_)
    (fun d call d' _ hd hstep => step_noOvershoot_iff hstep hd) trivial
    (fun holding hbelow => hbelow.le) hrun
  -- what has been requested stays requested
  intro holding hbelow
  obtain ⟨honHand, hcapacity, hpending⟩ := step_keeps hstep holding
  have hle := hafter holding hbelow
  rw [honHand, hcapacity] at hle
  linarith

end Runs

/-! ### Rows below their maximum -/

section Rows

variable {d₀ d : Db} {remaining : ℚ} {whId : Uuid} {holding : Holding}

theorem abs_toRat_lt {p s : ℕ} (x : Numeric p s) : |x.toRat| * 10 ^ s < 10 ^ p := by
  have hpow : (0 : ℚ) < 10 ^ s := by positivity
  have hfits : ((x.units.natAbs : ℕ) : ℚ) < 10 ^ p := by exact_mod_cast x.fits
  rwa [Nat.cast_natAbs, Int.cast_abs, ← x.toRat_mul_pow, abs_mul, abs_of_pos hpow] at hfits

/-- **A request fills its row at most to its maximum.** -/
theorem needed_le {inv : Inventory} {needed : ℤ} (h : inv.needed remaining = some needed)
    (hnonneg : 0 ≤ remaining) (hle : remaining ≤ 1)
    (hmax : 0 ≤ (inv.maxQty.map Numeric.toRat).getD 0) :
    (needed : ℚ) ≤ (inv.maxQty.map Numeric.toRat).getD 0 - inv.quantity.toRat := by
  have hpos := needed_pos h
  unfold Inventory.needed at h
  cases hmaxQty : inv.maxQty with
  | none =>
    rw [hmaxQty] at h
    cases h
  | some maxQty =>
    rw [hmaxQty] at h hmax
    dsimp only at h
    split_ifs at h with hskip hneeded
    rw [Option.map_some, Option.getD_some] at hmax ⊢
    -- twenty digits are exact in twenty-eight
    have hmaxFit := abs_toRat_lt maxQty
    have hquantityFit := abs_toRat_lt inv.quantity
    have htarget : significant Decimal.prec (maxQty.toRat * remaining) ≤ maxQty.toRat := by
      refine significant_le (mul_nonneg hmax hnonneg) (mul_le_of_le_one_right hmax hle)
        maxQty.onGrid ?_
      rw [abs_of_nonneg hmax] at hmaxFit
      exact hmaxFit.trans_le (by norm_num [Decimal.prec])
    set x := significant Decimal.prec (maxQty.toRat * remaining) - inv.quantity.toRat with hx
    have hrounded : 0 < significant Decimal.prec x := by
      by_contra hnot
      refine hneeded ?_
      rw [truncate]
      split_ifs with hzero
      · rw [le_antisymm (not_lt.1 hnot) hzero, Int.floor_zero]
      · exact Int.ceil_le.2 (by rw [Int.cast_zero]; exact not_lt.1 hnot)
    have hxpos : 0 < x := by
      by_contra hnot
      exact hrounded.not_ge (significant_nonpos (not_lt.1 hnot))
    have hxle : significant Decimal.prec x ≤ maxQty.toRat - inv.quantity.toRat := by
      refine significant_le hxpos.le (sub_le_sub_right htarget _)
        (maxQty.onGrid.sub inv.quantity.onGrid) ?_
      have hsub := (abs_sub maxQty.toRat inv.quantity.toRat)
      have hself := le_abs_self (maxQty.toRat - inv.quantity.toRat)
      norm_num [Decimal.prec] at hmaxFit hquantityFit ⊢
      linarith
    cases h
    rw [truncate, if_pos hrounded.le]
    exact (Int.floor_le _).trans hxle

/-- The rows of a warehouse hold what is on hand there. -/
theorem sum_itemsOf (amount : Inventory → ℚ) (h : holding.warehouseId = whId) :
    ((itemsOf whId d).map fun inv =>
      if (⟨whId, inv.skuId⟩ : Holding) = holding then amount inv else 0).sum =
        Txn.total (stockAmount amount holding) d := by
  obtain ⟨whId', skuId⟩ := holding
  obtain rfl : whId' = whId := h
  rw [itemsOf_eq]
  refine Eq.trans ?_ (Txn.total_rows Row.inventory? _ d).symm
  induction Txn.rows Row.inventory? d with
  | nil => rfl
  | cons inv rows ih =>
    rw [List.map_cons, List.sum_cons, ← ih]
    by_cases hcond : replenishCond whId' inv = true
    · rw [List.filter_cons_of_pos hcond, List.map_cons, List.sum_cons]
      simp only [replenishCond, decide_eq_true_eq] at hcond
      simp [Inventory.IsOf, hcond.1, hcond.2]
    · rw [List.filter_cons_of_neg hcond]
      have hnot : ¬ inv.IsOf ⟨whId', skuId⟩ := fun hof => hcond (by
        simp [replenishCond, hof.1, hof.2.2])
      simp [hnot]

/-- **A call has room when nothing is pending** for the SKUs that were below their capacity, and no
row holds more than its maximum: it fills them at most. -/
theorem hasRoom_of_nothing_pending {call : ReplenishCall} (hnonneg : 0 ≤ call.remaining)
    (hle : call.remaining ≤ 1) (hpending : ∀ holding, Below d₀ holding → pending d holding = 0)
    (hrows : ∀ whId, ∀ inv ∈ itemsOf whId d, 0 ≤ (inv.maxQty.map Numeric.toRat).getD 0 ∧
      inv.quantity.toRat ≤ (inv.maxQty.map Numeric.toRat).getD 0) : HasRoom d₀ d call := by
  rintro whId - - holding hplace hbelow -
  rw [hpending holding hbelow, zero_add, le_sub_iff_add_le, onHand, capacity,
    ← sum_itemsOf _ hplace, ← sum_itemsOf _ hplace, shortage, ← List.sum_map_add]
  refine List.sum_le_sum fun inv hinv => ?_
  obtain ⟨hmax, hquantity⟩ := hrows whId inv hinv
  split_ifs
  · cases hneeded : inv.needed call.remaining with
    | none => simpa using hquantity
    | some needed =>
      have hfill := needed_le hneeded hnonneg hle hmax
      simp only [Option.getD_some]
      linarith
  · simp

end Rows

/-! ### Two runs -/

theorem quantity_fits : Int.natAbs 20000 < 10 ^ 20 := by decide

theorem minQty_fits : Int.natAbs 50000 < 10 ^ 18 := by decide

theorem maxQty_fits : Int.natAbs 1000000 < 10 ^ 18 := by decide

theorem request_fits : Int.natAbs 780000 < 10 ^ 20 := by decide

/-- Two pieces of at least five, with room for a hundred. -/
def twoPieces : Inventory where
  id := 4
  warehouseId := 1
  skuId := 3
  gtin := none
  quantity := ⟨20000, quantity_fits⟩
  minQty := some ⟨50000, minQty_fits⟩
  maxQty := some ⟨1000000, maxQty_fits⟩
  isDeleted := false

/-- The row alone. -/
def twoPiecesDb : Db := Dict.empty.set (.inventory 4) (.inventory twoPieces)

/-- A call with the default threshold of a fifth. -/
def replenishFifth : ReplenishCall := ⟨⟨"1", some 1⟩, 4 / 5⟩

/-- The request of a call, which has room for 78 pieces. -/
def request (id : Uuid) : StockMovement where
  id := id
  sourceWarehouseId := 1
  skuId := 3
  gtin := ⟨"", Nat.zero_le _⟩
  quantity := ⟨780000, request_fits⟩
  movementType := .replenishment
  status := "pending"

theorem needed_twoPieces : twoPieces.needed (4 / 5) = some 78 := by decide +kernel

theorem store_request :
    (storeNumeric ((78 : ℤ) : ℚ) : Except _ (Numeric 20 4)) = .ok ⟨780000, request_fits⟩ :=
  storeNumeric_eq_ok_iff.2 (by decide +kernel)

section TwoRuns

variable {d : Db} {id : Uuid}

/-- A call on the row requests 78 pieces, whatever is pending. -/
theorem run_twoPieces (ids : ℕ → ℕ) (hitems : itemsOf 1 d = [twoPieces])
    (hfree : d.get? (.stockMovement (ids 0)) = none) :
    ((autoReplenish replenishFifth.warehouseId replenishFifth.remaining).run ids d).2 =
      d.set (.stockMovement (ids 0)) (.stockMovement (request (ids 0))) := by
  have hmovement : (createMovement 1 twoPieces 78).exec ⟨d, d, ids⟩ =
      (.ok (request (ids 0)), ⟨d, d.set (.stockMovement (ids 0))
        (.stockMovement (request (ids 0))), fun n => ids (n + 1)⟩) := by
    rw [createMovement, Prog.bind_eq, Prog.exec_bind_of_ok (Prog.exec_newId _), store_request]
    exact Prog.exec_bind_of_ok (Prog.exec_insertOr_none hfree)
  have hitem : (replenishItem (4 / 5) 1 [] twoPieces).exec ⟨d, d, ids⟩ =
      (.ok [request (ids 0)], ⟨d, d.set (.stockMovement (ids 0))
        (.stockMovement (request (ids 0))), fun n => ids (n + 1)⟩) := by
    rw [replenishItem, needed_twoPieces]
    exact Prog.exec_bind_of_ok hmovement
  have hloop : (Prog.foldEach (itemsOf 1 d) [] (replenishItem (4 / 5) 1)).exec ⟨d, d, ids⟩ =
      (.ok [request (ids 0)], ⟨d, d.set (.stockMovement (ids 0))
        (.stockMovement (request (ids 0))), fun n => ids (n + 1)⟩) := by
    rw [hitems]
    exact Prog.exec_bind_of_ok hitem
  rw [Prog.run, autoReplenish]
  simp only [replenishFifth]
  rw [Prog.bind_eq, Prog.exec_bind_of_ok (Prog.exec_query _ _)]
  change (((Prog.foldEach (itemsOf 1 d) [] (replenishItem (4 / 5) 1)).bind _).exec _).2.committed =
    _
  rw [Prog.exec_bind_of_ok hloop]
  rfl

/-- A request leaves the rows of a warehouse alone. -/
theorem itemsOf_set (hfree : d.get? (.stockMovement id) = none) (movement : StockMovement) :
    itemsOf 1 (d.set (.stockMovement id) (.stockMovement movement)) = itemsOf 1 d := by
  rw [itemsOf_eq, itemsOf_eq, Txn.rows_set_of_none hfree]
  exact congrArg _ (List.append_nil _)

end TwoRuns

/-- The row with the request of one call. -/
def requestedDb : Db := twoPiecesDb.set (.stockMovement 10) (.stockMovement (request 10))

theorem itemsOf_twoPiecesDb : itemsOf 1 twoPiecesDb = [twoPieces] := rfl

theorem fresh_twoPiecesDb : Fresh (fun n => n + 10) twoPiecesDb where
  injective _ _ heq := Nat.add_right_cancel heq
  free n := by simp [twoPiecesDb]

theorem fresh_requestedDb : Fresh (fun n => n + 20) requestedDb where
  injective _ _ heq := Nat.add_right_cancel heq
  free n := by simp [requestedDb, twoPiecesDb]

theorem pending_twoPiecesDb (holding : Holding) : pending twoPiecesDb holding = 0 := by
  rw [pending, twoPiecesDb, Txn.total_set_of_none (Dict.get?_empty _)]
  exact add_zero _

/-- The first call. -/
theorem step_twoPiecesDb : replenishSystem.step twoPiecesDb replenishFifth requestedDb :=
  ⟨_, fresh_twoPiecesDb,
    (run_twoPieces (fun n => n + 10) itemsOf_twoPiecesDb (fresh_twoPiecesDb.free 0)).symm⟩

/-- One call has room. -/
theorem twoPiecesDb_noOvershoot : NoOvershoot twoPiecesDb requestedDb := by
  refine (noOvershoot_iff (.single step_twoPiecesDb)).2 (.single ⟨step_twoPiecesDb, ?_⟩)
  refine hasRoom_of_nothing_pending (by norm_num [replenishFifth]) (by norm_num [replenishFifth])
    (fun holding _ => pending_twoPiecesDb holding) fun whId inv hinv => ?_
  obtain rfl : inv = twoPieces := by
    obtain ⟨⟨key, row⟩, hitem, hrow⟩ := List.mem_filterMap.1 hinv
    obtain ⟨hget, -⟩ := Txn.mem_select.1 hitem
    rw [twoPiecesDb, Dict.get?_set, Dict.get?_empty] at hget
    split_ifs at hget
    cases hget
    exact (Option.some.inj hrow).symm
  norm_num [twoPieces, Numeric.toRat]

/-- **A second call has none**: 156 pieces are pending where there is room for 98. -/
theorem twoCalls_overshoot : ∃ d,
    replenishSystem.Run twoPiecesDb [replenishFifth, replenishFifth] d ∧
    onHand d ⟨1, 3⟩ = 2 ∧ pending d ⟨1, 3⟩ = 156 ∧ capacity d ⟨1, 3⟩ = 100 ∧
    ¬ NoOvershoot twoPiecesDb d := by
  have hstep : replenishSystem.step requestedDb replenishFifth
      (requestedDb.set (.stockMovement 20) (.stockMovement (request 20))) := by
    refine ⟨_, fresh_requestedDb,
      (run_twoPieces (fun n => n + 20) ?_ (fresh_requestedDb.free 0)).symm⟩
    exact (itemsOf_set (fresh_twoPiecesDb.free 0) _).trans itemsOf_twoPiecesDb
  have honHand : onHand (requestedDb.set (.stockMovement 20) (.stockMovement (request 20))) ⟨1, 3⟩ =
      2 := by decide +kernel
  have hpending : pending (requestedDb.set (.stockMovement 20) (.stockMovement (request 20)))
      ⟨1, 3⟩ = 156 := by decide +kernel
  have hcapacity : capacity (requestedDb.set (.stockMovement 20) (.stockMovement (request 20)))
      ⟨1, 3⟩ = 100 := by decide +kernel
  refine ⟨_, .cons step_twoPiecesDb (.single hstep), honHand, hpending, hcapacity, fun h => ?_⟩
  have hle := h ⟨1, 3⟩ (by unfold Below; decide +kernel)
  rw [honHand, hpending, hcapacity] at hle
  norm_num at hle

end Replenish

end Wms

end OmsWmsTms
