import OmsWmsTms.Core.Handlers
import OmsWmsTms.Tms.Returns
import OmsWmsTms.Tms.TransportRequests

/-!
# Return requests under way at the same time

The services of `Tms/Returns` as requests: each reads its return and writes the columns that it has
changed, so that a return can be cancelled after it was refunded.

* `ReturnWrite.apply`, `returnServer` : the commits, and the server.
* `ReturnMoves` : the two states that a request asks for.
* `returns_by_history` : a refund is still reached along the way of a return, the goods leave
  `PENDING` with its end, and no receipt by the carrier is ever accepted.
-/

namespace OmsWmsTms

namespace Tms

/-! ### The model -/

/-- The tables; of the transport orders, the identifiers. -/
structure ReturnDb where
  transportOrders : List Uuid := []
  returns : List ReturnRow := []

/-- A return as it is added to a session. -/
structure NewReturn where
  id : Uuid
  returnNo : String
  reason : ReturnReason
  transportOrderId : Option Uuid
  returnTrackingNumber : Option String
  refundAmount : ℚ

/-- The columns that a commit sets in a row of `return_orders`. -/
structure ReturnChange where
  status : Option ReturnStatus
  shipmentStatus : Option ReturnShipmentStatus
deriving DecidableEq

/-- The row after the `UPDATE`. -/
def ReturnChange.write (change : ReturnChange) (row : ReturnRow) : ReturnRow :=
  { row with
    status := change.status.getD row.status
    shipmentStatus := change.shipmentStatus.getD row.shipmentStatus }

/-- The changes that a handler collects; it commits one. -/
inductive ReturnWrite
  | insert (new : NewReturn)
  | update (id : Uuid) (change : ReturnChange)

/-- The row that is inserted. -/
def NewReturn.row (d : ReturnDb) (new : NewReturn) : Except TmsError ReturnRow := do
  let _ ← storeText 50 new.returnNo
  let _ ← new.returnTrackingNumber.mapM (storeText 100)
  let refundAmount ← Tms.store new.refundAmount
  if new.id ∈ d.returns.map (·.id) ∨ new.returnNo ∈ d.returns.map (·.returnNo) ∨
      ∃ order ∈ new.transportOrderId, order ∉ d.transportOrders then throw .integrityError
  else return {
    id := new.id
    returnNo := new.returnNo
    reason := new.reason
    refundAmount := refundAmount }

/-- **A commit.** -/
def ReturnWrite.apply : ReturnWrite → ReturnDb → Except TransportError ReturnDb
  | .insert new, d =>
    match new.row d with
    | .error e => .error (.service e)
    | .ok row => .ok { d with returns := d.returns ++ [row] }
  | .update id change, d =>
    if id ∈ d.returns.map (·.id) then
      .ok { d with returns := updateRows (·.id) id change.write d.returns }
    else .error .staleData

/-- What is read of a payload before the database is asked. -/
def ReturnOrderCreate.check (data : ReturnOrderCreate) :
    Except TmsError (ReturnReason × Option Uuid) := do
  let reason ← ReturnReason.ofValue data.reason
  let transportOrderId ← readId data.transportOrderId
  let _ ← (data.carrierCode.filter (· ≠ "")).mapM CarrierCode.ofValue
  return (reason, transportOrderId)

/-- The handlers of returns. -/
abbrev ReturnProg := Uow.Prog ReturnDb ReturnWrite TransportError ReturnRow

namespace ReturnProg

/-- `AsyncSession.refresh`: read the row again. -/
def refresh (id : Uuid) : ReturnProg :=
  .read fun d =>
    match return? d.returns id with
    | some row => .ret row
    | none => .throw .invalidRequest

/-- `create_return_order`: the number of the return is that of the returns which it has counted. -/
def createReturnOrder (day : String) (newId : Uuid) (data : ReturnOrderCreate) : ReturnProg :=
  .read fun d =>
    match data.check with
    | .error e => .throw (.service e)
    | .ok (reason, transportOrderId) =>
      .commit
        (.insert ⟨newId, returnNo day d.returns.length, reason, transportOrderId,
          data.returnTrackingNumber, data.refundAmount⟩)
        (refresh newId)

/-- Read a return and commit what has been changed of its two states. -/
def edit (returnId : IdArg) (states : ReturnRow → Except TmsError (ReturnStatus ×
    ReturnShipmentStatus)) : ReturnProg :=
  .read fun d =>
    match findReturn d.returns returnId with
    | .error e => .throw (.service e)
    | .ok ret =>
      match states ret with
      | .error e => .throw (.service e)
      | .ok (status, shipmentStatus) =>
        .commit (.update ret.id
            ⟨changed ret.status status, changed ret.shipmentStatus shipmentStatus⟩)
          (refresh ret.id)

/-- `update_return_status`. -/
def updateReturnStatus (returnId : IdArg) (target : String) : ReturnProg :=
  edit returnId fun ret =>
    if target ∉ ret.status.allowedTransitions then
      throw (.validation s!"Cannot transition return from '{ret.status.value}' to '{target}'")
    else do
      let status ← ReturnStatus.store target
      return (status, ret.shipmentStatus)

/-- `mark_shipment_received`. -/
def markShipmentReceived (returnId : IdArg) : ReturnProg :=
  edit returnId fun ret =>
    match ret.shipmentStatus.allowedTransitions with
    | none => throw (.validation s!"Cannot transition shipment from '{ret.shipmentStatus.value}'")
    | some allowed =>
      if .receivedByCarrier ∉ allowed then
        throw (.validation (s!"Cannot move to RECEIVED_BY_CARRIER, expected one of " ++
          "[<ReturnShipmentStatus.IN_TRANSIT_RETURN: 'in_transit_return'>]"))
      else return (.inTransitReturn, .receivedByCarrier)

/-- `mark_return_inspected`. -/
def markReturnInspected (returnId : IdArg) (accepted : Bool) : ReturnProg :=
  edit returnId fun ret =>
    if ret.status ∉ [.returnedToWarehouse, .inTransitReturn] then
      throw (.validation s!"Cannot inspect return in status '{ret.status.value}'")
    else if accepted then return (.refunded, .returnedToWarehouse)
    else return (.closed, .returnedToWarehouse)

/-- `cancel_return_order`. -/
def cancelReturnOrder (returnId : IdArg) : ReturnProg :=
  edit returnId fun ret =>
    if ret.status ∉ [.requested, .pickupScheduled] then
      throw (.validation s!"Cannot cancel return in status '{ret.status.value}'")
    else return (.closed, .returnedToWarehouse)

/-- `get_return_order`. -/
def getReturnOrder (returnId : IdArg) : ReturnProg :=
  .read fun d =>
    match findReturn d.returns returnId with
    | .error e => .throw (.service e)
    | .ok ret => .ret ret

end ReturnProg

/-- A request, with the day and the identifier of a new return. -/
inductive ReturnRequest
  | createReturnOrder (day : String) (newId : Uuid) (data : ReturnOrderCreate)
  | updateReturnStatus (returnId : IdArg) (target : String)
  | markShipmentReceived (returnId : IdArg)
  | markReturnInspected (returnId : IdArg) (accepted : Bool)
  | cancelReturnOrder (returnId : IdArg)
  | getReturnOrder (returnId : IdArg)

/-- The handler of a request. -/
def ReturnRequest.handler : ReturnRequest → ReturnProg
  | .createReturnOrder day newId data => ReturnProg.createReturnOrder day newId data
  | .updateReturnStatus returnId target => ReturnProg.updateReturnStatus returnId target
  | .markShipmentReceived returnId => ReturnProg.markShipmentReceived returnId
  | .markReturnInspected returnId accepted => ReturnProg.markReturnInspected returnId accepted
  | .cancelReturnOrder returnId => ReturnProg.cancelReturnOrder returnId
  | .getReturnOrder returnId => ReturnProg.getReturnOrder returnId

/-- A server of returns. -/
abbrev ReturnState := Uow.State ReturnDb ReturnWrite ReturnRequest TransportError ReturnRow

/-- **The requests on returns.** -/
def returnServer : Lts ReturnState (Uow.Label ReturnRequest) :=
  Uow.system ReturnWrite.apply ReturnRequest.handler

/-! ### What a request goes by -/

open Uow (Cell Committed History Workflow lastGiven)
open Uow.Prog (justified_read)

/-- The two states that a request asks for of a return. -/
inductive ReturnMoves (ret : ReturnRow) : ReturnStatus → ReturnShipmentStatus → Prop
  | update {status : ReturnStatus} (hstatus : status.value ∈ ret.status.allowedTransitions) :
      ReturnMoves ret status ret.shipmentStatus
  | receive (hshipment : ret.shipmentStatus = .inTransitReturn) :
      ReturnMoves ret .inTransitReturn .receivedByCarrier
  | inspect {status : ReturnStatus}
      (hret : ret.status = .returnedToWarehouse ∨ ret.status = .inTransitReturn)
      (hstatus : status = .refunded ∨ status = .closed) :
      ReturnMoves ret status .returnedToWarehouse
  | cancel (hret : ret.status = .requested ∨ ret.status = .pickupScheduled) :
      ReturnMoves ret .closed .returnedToWarehouse

/-- A change is what a request asks for of a return that was once there. -/
def ReturnWrite.Goes (d₀ : ReturnDb) (ws : List ReturnWrite) : ReturnWrite → Prop
  | .insert _ => True
  | .update id change => ∃ past d ret status shipmentStatus, past <+: ws ∧
      Committed ReturnWrite.apply d₀ past d ∧ return? d.returns id = some ret ∧
      ReturnMoves ret status shipmentStatus ∧
      change = ⟨changed ret.status status, changed ret.shipmentStatus shipmentStatus⟩

/-- A receipt is answered after its commit. -/
def ReturnRequest.Answered : ReturnRequest → ReturnRow → List ReturnWrite → Prop
  | .markShipmentReceived _, _, ws =>
    ∃ id change, .update id change ∈ ws ∧ change.shipmentStatus = some .receivedByCarrier
  | _, _, _ => True

variable {d₀ d d' : ReturnDb} {ws : List ReturnWrite} {w : ReturnWrite} {id : Uuid}
  {s : ReturnState} {ls : List (Uow.Label ReturnRequest)}

theorem return?_of_findReturn {rows : List ReturnRow} {returnId : IdArg} {ret : ReturnRow}
    (h : findReturn rows returnId = .ok ret) : return? rows ret.id = some ret := by
  unfold findReturn at h
  split at h
  · cases h
  · next ret' hfind =>
    cases h
    obtain ⟨id, -, hfind⟩ := Option.bind_eq_some_iff.1 hfind
    have hid : ret.id = id := by simpa using List.find?_some hfind
    rwa [hid]

theorem justified_edit {Post : ReturnRow → List ReturnWrite → Prop} {K : List ReturnWrite → Prop}
    {returnId : IdArg}
    {states : ReturnRow → Except TmsError (ReturnStatus × ReturnShipmentStatus)}
    (hmoves : ∀ ret status shipmentStatus, states ret = .ok (status, shipmentStatus) →
      ReturnMoves ret status shipmentStatus ∧
      ∀ row ws, .update ret.id ⟨changed ret.status status,
        changed ret.shipmentStatus shipmentStatus⟩ ∈ ws → Post row ws) :
    (ReturnProg.edit returnId states).Justified ReturnWrite.apply (ReturnWrite.Goes d₀) d₀
      Post K := by
  refine justified_read fun d => ?_
  split
  · trivial
  · next ret hret =>
    split
    · trivial
    · next status shipmentStatus hstates =>
      obtain ⟨hmove, hpost⟩ := hmoves ret status shipmentStatus hstates
      refine ⟨?_, justified_read fun d' => ?_⟩
      · rintro ws ⟨past, hpast, -, hd⟩
        exact ⟨past, d, ret, status, shipmentStatus, hpast, hd, return?_of_findReturn hret, hmove,
          rfl⟩
      · split
        · rintro ws ⟨past', hpast', ⟨past, hpast, -⟩, -⟩
          exact hpost _ ws (hpast'.subset (hpast.subset (by simp)))
        · trivial

theorem ReturnRequest.justified_handler (q : ReturnRequest) :
    q.handler.Justified ReturnWrite.apply (ReturnWrite.Goes d₀) d₀ q.Answered
      fun _ => True := by
  cases q with
  | createReturnOrder day newId data =>
    refine justified_read fun d => ?_
    split
    · trivial
    · refine ⟨fun _ _ => trivial, justified_read fun d' => ?_⟩
      split
      · exact fun _ _ => trivial
      · trivial
  | updateReturnStatus returnId target =>
    refine justified_edit fun ret status shipmentStatus hstates => ⟨?_, fun _ _ _ => trivial⟩
    split_ifs at hstates with htarget
    obtain ⟨stored, hstored, hstates⟩ := bind_eq_ok_iff.1 hstates
    cases hstates
    obtain rfl := ReturnStatus.store_eq_ok hstored
    exact .update htarget
  | markShipmentReceived returnId =>
    refine justified_edit fun ret status shipmentStatus hstates => ?_
    have hshipment : ret.shipmentStatus = .inTransitReturn ∧
        (status, shipmentStatus) = (.inTransitReturn, .receivedByCarrier) := by
      cases hret : ret.shipmentStatus <;>
        simp [hret, ReturnShipmentStatus.allowedTransitions, throw, throwThe,
          MonadExceptOf.throw, pure_eq_ok_iff] at hstates ⊢
      exact ⟨hstates.1.symm, hstates.2.symm⟩
    obtain ⟨hshipment, hstates⟩ := hshipment
    cases hstates
    refine ⟨.receive hshipment, fun row ws hmem => ⟨ret.id, _, hmem, ?_⟩⟩
    rw [hshipment]
    rfl
  | markReturnInspected returnId accepted =>
    refine justified_edit fun ret status shipmentStatus hstates => ⟨?_, fun _ _ _ => trivial⟩
    by_cases hret : ret.status ∈ [.returnedToWarehouse, .inTransitReturn]
    · rw [if_neg (not_not.2 hret)] at hstates
      replace hret : ret.status = .returnedToWarehouse ∨ ret.status = .inTransitReturn := by
        simpa using hret
      split_ifs at hstates
      · cases hstates
        exact .inspect hret (.inl rfl)
      · cases hstates
        exact .inspect hret (.inr rfl)
    · rw [if_pos hret] at hstates
      cases hstates
  | cancelReturnOrder returnId =>
    refine justified_edit fun ret status shipmentStatus hstates => ⟨?_, fun _ _ _ => trivial⟩
    by_cases hret : ret.status ∈ [.requested, .pickupScheduled]
    · rw [if_neg (not_not.2 hret)] at hstates
      cases hstates
      exact .cancel (by simpa using hret)
    · rw [if_pos hret] at hstates
      cases hstates
  | getReturnOrder returnId =>
    refine justified_read fun d => ?_
    split
    · trivial
    · exact fun _ _ => trivial

/-! ### The workflow of a return -/

/-- A new return. -/
structure ReturnRow.New (row : ReturnRow) : Prop where
  status : row.status = .requested
  shipment : row.shipmentStatus = .pending

/-- What may follow a status, of the moves of all requests. -/
def ReturnStatus.next : ReturnStatus → List ReturnStatus
  | requested => [pickupScheduled, closed]
  | pickupScheduled => [inTransitReturn, closed]
  | inTransitReturn => [returnedToWarehouse, refunded, closed]
  | returnedToWarehouse => [refunded, closed]
  | refunded => []
  | closed => []

/-- The workflow of the returns. -/
def returnFlow : Workflow ReturnRow ReturnChange ReturnStatus where
  write := ReturnChange.write
  status := ReturnRow.status
  sets := ReturnChange.status
  New := ReturnRow.New
  first := .requested
  edges := ReturnStatus.next
  status_write _ _ := rfl
  status_new _ hnew := hnew.status

/-- A return. -/
def returnCell (id : Uuid) : Cell ReturnDb ReturnWrite ReturnRow ReturnChange where
  row? d := return? d.returns id
  inserts
    | .insert new => id = new.id
    | .update _ _ => false
  change?
    | .insert _ => none
    | .update other change => if id = other then some change else none

/-- The status that a write gives a return. -/
def ReturnWrite.givesReturn (id : Uuid) : ReturnWrite → Option ReturnStatus :=
  (returnCell id).gives returnFlow

/-- A write that ends a return, with its goods back in the warehouse. -/
def ReturnWrite.Ends (id : Uuid) : ReturnWrite → Prop
  | .insert _ => False
  | .update other change => id = other ∧ change.shipmentStatus = some .returnedToWarehouse ∧
      (change.status = some .refunded ∨ change.status = some .closed)

theorem NewReturn.row_eq_ok {new : NewReturn} {row : ReturnRow} (h : new.row d = .ok row) :
    new.id ∉ d.returns.map (·.id) ∧ row.id = new.id ∧ row.New := by
  unfold NewReturn.row at h
  iterate 3
    obtain ⟨_, -, h⟩ := bind_eq_ok_iff.1 h
  split_ifs at h with htaken
  cases h
  exact ⟨fun hmem => htaken (.inl hmem), rfl, rfl, rfl⟩

/-- **A commit inserts a return, changes it or keeps it.** -/
theorem returnCell_steps (id : Uuid) : (returnCell id).Steps returnFlow ReturnWrite.apply := by
  intro w d d' h
  cases w with
  | insert new =>
    simp only [ReturnWrite.apply] at h
    split at h
    · cases h
    · next row hrow =>
      cases h
      obtain ⟨hfresh, hid, hnew⟩ := NewReturn.row_eq_ok hrow
      refine Cell.step_insert ?_ (List.forall_mem_singleton.2 hnew) (by simp [returnCell, hid]) rfl
      simpa [hid] using hfresh
  | update other change =>
    simp only [ReturnWrite.apply] at h
    split_ifs at h with hid
    cases h
    exact Cell.step_update hid (fun _ => rfl) Bool.false_ne_true rfl

/-! ### The goods -/

/-- The goods are `PENDING` or back in the warehouse. -/
def ReturnRow.GoodsKept (ret : ReturnRow) : Prop :=
  ret.shipmentStatus = .pending ∨ ret.shipmentStatus = .returnedToWarehouse

/-- A change of a return whose goods were kept: a status that may follow, and the goods only go back
with the end of the return. -/
def ReturnWrite.GoesOn (d₀ : ReturnDb) (ws : List ReturnWrite) : ReturnWrite → Prop
  | .insert _ => True
  | .update id change => ∃ past d ret status, past <+: ws ∧
      Committed ReturnWrite.apply d₀ past d ∧ return? d.returns id = some ret ∧
      status ∈ ret.status.next ∧ change.status = some status ∧
      (change.shipmentStatus = none ∨ change.shipmentStatus = some .returnedToWarehouse ∧
        (status = .refunded ∨ status = .closed))

/-- **The moves of a return whose goods are kept**: its goods have not left, so that the carrier has
nothing to receive. -/
theorem ReturnMoves.next {ret : ReturnRow} {status : ReturnStatus}
    {shipmentStatus : ReturnShipmentStatus} (h : ReturnMoves ret status shipmentStatus)
    (hkept : ret.GoodsKept) : status ∈ ret.status.next ∧
      (shipmentStatus = ret.shipmentStatus ∨ shipmentStatus = .returnedToWarehouse ∧
        (status = .refunded ∨ status = .closed)) := by
  cases h with
  | update hstatus =>
    refine ⟨?_, .inl rfl⟩
    revert hstatus
    cases ret.status <;> cases status <;> decide
  | receive hshipment =>
    rcases hkept with hkept | hkept <;> rw [hshipment] at hkept <;> cases hkept
  | inspect hret hstatus =>
    refine ⟨?_, .inr ⟨rfl, hstatus⟩⟩
    rcases hret with hret | hret <;> rcases hstatus with rfl | rfl <;> rw [hret] <;> decide
  | cancel hret =>
    refine ⟨?_, .inr ⟨rfl, .inr rfl⟩⟩
    rcases hret with hret | hret <;> rw [hret] <;> decide

theorem ReturnStatus.ne_of_mem_next {status target : ReturnStatus} (h : target ∈ status.next) :
    target ≠ status := by
  rintro rfl
  revert h
  cases target <;> decide

theorem ReturnWrite.Goes.goesOn (h : w.Goes d₀ ws)
    (hpasts : ∀ past d, past <+: ws → Committed ReturnWrite.apply d₀ past d →
      ∀ id ret, return? d.returns id = some ret → ret.GoodsKept) : w.GoesOn d₀ ws := by
  cases w with
  | insert new => trivial
  | update id change =>
    obtain ⟨past, d, ret, status, shipmentStatus, hpast, hd, hret, hmoves, rfl⟩ := h
    obtain ⟨hnext, hshipment⟩ := hmoves.next (hpasts past d hpast hd id ret hret)
    refine ⟨past, d, ret, status, hpast, hd, hret, hnext,
      if_neg (ReturnStatus.ne_of_mem_next hnext), ?_⟩
    rcases hshipment with rfl | ⟨rfl, hends⟩
    · exact .inl (if_pos rfl)
    · by_cases hsame : ret.shipmentStatus = .returnedToWarehouse
      · exact .inl (if_pos hsame.symm)
      · exact .inr ⟨if_neg (Ne.symm hsame), hends⟩

theorem ReturnRow.GoodsKept.write {ret : ReturnRow} {change : ReturnChange} (h : ret.GoodsKept)
    (hchange : change.shipmentStatus = none ∨ change.shipmentStatus = some .returnedToWarehouse) :
    (change.write ret).GoodsKept := by
  rcases hchange with hsame | hback
  · simpa [ReturnRow.GoodsKept, ReturnChange.write, hsame] using h
  · right
    simp [ReturnChange.write, hback]

/-- The goods of every return are kept. -/
theorem goodsKept (h : History ReturnWrite.apply (ReturnWrite.Goes d₀) d₀ ws d)
    (h₀ : d₀.returns = []) : ∀ id ret, return? d.returns id = some ret → ret.GoodsKept := by
  refine h.strong (P := fun _ d => ∀ id ret, return? d.returns id = some ret → ret.GoodsKept) ?_ ?_
  · intro id ret hret
    rw [h₀] at hret
    cases hret
  · intro ws w d d' hrest hpasts hgoes happly id ret' hret'
    have hold := hpasts ws d List.prefix_rfl hrest.committed id
    have hstep := returnCell_steps id w d d' happly
    have hgoesOn := hgoes.goesOn hpasts
    simp only [returnCell, hret'] at hstep
    generalize return? d.returns id = row? at hstep hold
    cases hstep with
    | insert _ _ hnew => exact .inl hnew.shipment
    | @change change row _ hchange =>
      cases w with
      | insert new => cases hchange
      | update other change' =>
        obtain ⟨rfl, rfl⟩ := of_ite_eq_some hchange
        obtain ⟨-, -, -, status, -, -, -, -, -, hshipment⟩ := hgoesOn
        exact (hold row rfl).write (hshipment.imp_right And.left)
    | keep => exact hold ret' rfl

theorem goesOn_history (h : History ReturnWrite.apply (ReturnWrite.Goes d₀) d₀ ws d)
    (h₀ : d₀.returns = []) : History ReturnWrite.apply (ReturnWrite.GoesOn d₀) d₀ ws d :=
  h.imp fun _ _ _ hrest hgoes => hgoes.goesOn fun _ _ hpast hd =>
    goodsKept (hrest.at hpast hd) h₀

/-! ### The returns -/

/-- Whether the goods are back in the warehouse. -/
def ReturnRow.back? (ret : ReturnRow) : Option Unit :=
  if ret.shipmentStatus = .returnedToWarehouse then some () else none

/-- Whether a change takes the goods back. -/
def ReturnChange.back? (change : ReturnChange) : Option Unit :=
  if change.shipmentStatus = some .returnedToWarehouse then some () else none

section Returns

variable (h : History ReturnWrite.apply (ReturnWrite.GoesOn d₀) d₀ ws d) (h₀ : d₀.returns = [])
include h h₀

theorem return_walk {status : ReturnStatus}
    (hstatus : (returnCell id).status? returnFlow d = some status) :
    ∃ trail, trail.Sublist ws ∧ Cell.Walk returnFlow returnCell id trail status := by
  refine Cell.walk h (by simp [returnCell, return?, h₀]) (returnCell_steps id) ?_ hstatus
  intro ws w change target hgoes hchange htarget
  cases w with
  | insert new => cases hchange
  | update other change' =>
    obtain ⟨rfl, rfl⟩ := of_ite_eq_some hchange
    obtain ⟨past, d'', ret, status, hpast, hd'', hret, hnext, hset, -⟩ := hgoes
    cases hset.symm.trans htarget
    exact ⟨past, d'', ret, hpast, hd'', hret, hnext⟩

/-- The goods go back with the end of the return. -/
theorem return_back_iff : (returnCell id).IsSet ReturnRow.back? d ↔ ∃ w ∈ ws, w.Ends id := by
  refine Cell.time_iff (returnCell id) ReturnRow.back? ReturnChange.back? h
    (by simp [returnCell, return?, h₀]) (returnCell_steps id) ?_ ?_ ?_ ?_
  · intro row hnew
    rw [ReturnRow.back?, hnew.shipment]
    rfl
  · intro ws w change row hgoes hchange
    cases w with
    | insert new => cases hchange
    | update other change' =>
      obtain ⟨rfl, rfl⟩ := of_ite_eq_some hchange
      obtain ⟨-, -, -, status, -, -, -, -, -, hshipment⟩ := hgoes
      rcases hshipment with hsame | ⟨hback, -⟩
      · simp [ReturnRow.back?, ReturnChange.back?, returnFlow, ReturnChange.write, hsame]
      · simp [ReturnRow.back?, ReturnChange.back?, returnFlow, ReturnChange.write, hback]
  · intro ws w hgoes hends
    cases w with
    | insert new => cases hends
    | update other change =>
      obtain ⟨rfl, hback, -⟩ := hends
      exact .inl ⟨change, if_pos rfl, by simp [ReturnChange.back?, hback]⟩
  · intro ws w change hgoes hchange hback
    cases w with
    | insert new => cases hchange
    | update other change' =>
      obtain ⟨rfl, rfl⟩ := of_ite_eq_some hchange
      obtain ⟨-, -, -, status, -, -, -, -, hset, hshipment⟩ := hgoes
      have hback : change'.shipmentStatus = some .returnedToWarehouse := by
        by_contra hnot
        simp [ReturnChange.back?, hnot] at hback
      rcases hshipment with hnone | ⟨-, hends⟩
      · rw [hnone] at hback
        cases hback
      · refine ⟨rfl, hback, ?_⟩
        rcases hends with rfl | rfl
        · exact .inl hset
        · exact .inr hset

end Returns

/-- What a return has gone through. -/
def ReturnStatus.marks : ReturnStatus → List ReturnStatus
  | requested => [requested]
  | pickupScheduled => [requested, pickupScheduled]
  | inTransitReturn => [requested, pickupScheduled, inTransitReturn]
  | returnedToWarehouse => [requested, pickupScheduled, inTransitReturn, returnedToWarehouse]
  | refunded => [requested, pickupScheduled, inTransitReturn, refunded]
  | closed => [requested, closed]

/-- **Returns in every interleaving of requests**, from no returns at all: the status of a return is
the one that was given last; it is reached along the moves of the services, so that what is refunded
was picked up and on its way, although a cancellation may have come in between; the goods are back
in the warehouse exactly when a write has ended the return with them; and no receipt by the carrier
is ever answered. -/
theorem returns_by_history (h₀ : d₀.returns = []) (hrun : returnServer.Run (.init d₀) ls s) :
    (∀ id row, return? s.db.returns id = some row →
      lastGiven (ReturnWrite.givesReturn id) s.journal = some row.status ∧
      (∃ trail, trail.Sublist s.journal ∧ Cell.Walk returnFlow returnCell id trail row.status) ∧
      (row.status.marks.map some).Sublist (s.journal.map (ReturnWrite.givesReturn id)) ∧
      row.GoodsKept ∧
      (row.shipmentStatus = .returnedToWarehouse ↔ ∃ w ∈ s.journal, w.Ends id)) ∧
    ∀ returnId row, (.markShipmentReceived returnId, .ok row) ∉ s.answers := by
  have hsound := Uow.sound_run ReturnRequest.justified_handler hrun
  have hhistory := goesOn_history hsound.history h₀
  refine ⟨fun id row hrow => ?_, fun returnId row hanswer => ?_⟩
  · have hstatus : (returnCell id).status? returnFlow s.db = some row.status :=
      Cell.status?_of_row? hrow
    have hlast : (returnCell id).status? returnFlow s.db =
        lastGiven (ReturnWrite.givesReturn id) s.journal :=
      Cell.status_eq hhistory (by simp [returnCell, return?, h₀]) (returnCell_steps id)
    obtain ⟨trail, hsub, hwalk⟩ := return_walk hhistory h₀ hstatus
    refine ⟨hlast.symm.trans hstatus, ⟨trail, hsub, hwalk⟩, ?_,
      goodsKept hsound.history h₀ id row hrow, ?_⟩
    · have hmarks := Cell.Walk.marks_sublist ReturnStatus.marks (by decide)
        (fun s => by cases s <;> decide) hwalk
      exact hmarks.trans (hsub.map (ReturnWrite.givesReturn id))
    · rw [← return_back_iff hhistory h₀, Cell.isSet_iff hrow]
      simp [ReturnRow.back?]
  · obtain ⟨-, past, hpast, other, change, hmem, hreceived⟩ := hsound.answers hanswer
    obtain ⟨before, after, hsplit⟩ := List.append_of_mem (hpast.subset hmem)
    obtain ⟨hgoes, -⟩ := hhistory.justified hsplit
    obtain ⟨-, -, -, status, -, -, -, -, -, hshipment⟩ := hgoes
    rw [hreceived] at hshipment
    simp at hshipment

/-- A return that is refunded between the reading and the writing of its cancellation. -/
def cancelLate : List (Uow.Label ReturnRequest) :=
  List.flatten [
    [.call (.createReturnOrder "20260718" 7 { reason := "damaged" }), .step 0, .step 0, .step 0,
      .step 0],
    [.call (.cancelReturnOrder (.ofUuid 7)), .step 0],
    [.updateReturnStatus (.ofUuid 7) "pickup_scheduled",
      .updateReturnStatus (.ofUuid 7) "in_transit_return",
      .markReturnInspected (.ofUuid 7) true].flatMap fun q =>
        [.call q, .step 1, .step 1, .step 1, .step 1],
    [.step 0]]

/-- The return of `cancelLate` stands as closed after its refund. -/
theorem returns_by_history_late : ∃ s row, returnServer.Run (.init {}) cancelLate s ∧
    return? s.db.returns 7 = some row ∧ row.status = .closed ∧
    s.journal.map (ReturnWrite.givesReturn 7) = [some .requested, some .pickupScheduled,
      some .inTransitReturn, some .refunded, some .closed] ∧
    lastGiven (ReturnWrite.givesReturn 7) s.journal = some .closed ∧
    ∃ w ∈ s.journal, w.Ends 7 := by
  have hread : (Lts.runNext (Uow.State.next ReturnWrite.apply ReturnRequest.handler)
      (.init {}) cancelLate).map (fun s => (s.journal.map (ReturnWrite.givesReturn 7),
        (return? s.db.returns 7).map fun row => (row.status, row.shipmentStatus))) =
      some ([some .requested, some .pickupScheduled, some .inTransitReturn, some .refunded,
        some .closed], some (.closed, .returnedToWarehouse)) := by
    decide +kernel
  obtain ⟨s, hrun, hs⟩ := Lts.exists_run_of_map hread
  obtain ⟨hjournal, hs⟩ := Prod.mk.inj hs
  obtain ⟨row, hrow, hs⟩ := Option.map_eq_some_iff.1 hs
  obtain ⟨hstatus, hshipment⟩ := Prod.mk.inj hs
  obtain ⟨hrows, -⟩ := returns_by_history rfl hrun
  obtain ⟨hlast, -, -, -, hends⟩ := hrows 7 row hrow
  exact ⟨s, row, hrun, hrow, hstatus, hjournal, hlast.trans (congrArg some hstatus),
    hends.1 hshipment⟩

end Tms

end OmsWmsTms
