import OmsWmsTms.Control.Except
import OmsWmsTms.Lts.Basic
import OmsWmsTms.Tms.Tracking

/-!
# Return orders

`create_return_order`, `update_return_status`, `mark_shipment_received`, `mark_return_inspected`
and `cancel_return_order` of `src/tms/service.py`.  A return order has two states, the `status` of
the return and the `shipment_status` of the goods; the five services set them under different
guards.

* `createReturnOrder`, …, `cancelReturnOrder` : the services.
* `returnSystem` : their calls, one after another, with the earlier states of the table.
* `ReturnWrites` : what a call can do.
* `Returns.Good` : the goods are `PENDING` as long as the return is open.
* `closed_stays` : a return that is refunded or closed keeps its status.
-/

namespace OmsWmsTms

namespace Tms

/-! ### The two states -/

/-- `ReturnReason`. -/
inductive ReturnReason
  | damaged | wrongItem | qualityIssue | customerRetrieval | addressError | duplicateOrder
deriving DecidableEq

/-- `ReturnReason(value)`. -/
def ReturnReason.ofValue : String → Except TmsError ReturnReason
  | "damaged" => .ok damaged
  | "wrong_item" => .ok wrongItem
  | "quality_issue" => .ok qualityIssue
  | "customer_retrieval" => .ok customerRetrieval
  | "address_error" => .ok addressError
  | "duplicate_order" => .ok duplicateOrder
  | _ => .error .valueError

/-- `ReturnStatus`. -/
inductive ReturnStatus
  | requested | pickupScheduled | inTransitReturn | returnedToWarehouse | refunded | closed
deriving DecidableEq

namespace ReturnStatus

/-- The members, in the order of their definition. -/
def members : List ReturnStatus :=
  [requested, pickupScheduled, inTransitReturn, returnedToWarehouse, refunded, closed]

/-- `status.value`. -/
def value : ReturnStatus → String
  | requested => "requested"
  | pickupScheduled => "pickup_scheduled"
  | inTransitReturn => "in_transit_return"
  | returnedToWarehouse => "returned_to_warehouse"
  | refunded => "refunded"
  | closed => "closed"

/-- What the column keeps of a text: the database refuses one that is no member. -/
def store (text : String) : Except TmsError ReturnStatus :=
  match members.find? fun member => value member = text with
  | some member => .ok member
  | none => .error .dataError

theorem store_eq_ok {text : String} {status : ReturnStatus} (h : store text = .ok status) :
    status.value = text := by
  unfold store at h
  split at h
  next member hfind =>
    cases h
    simpa using List.find?_some hfind
  next => cases h

@[simp] theorem store_value (status : ReturnStatus) : store status.value = .ok status := by
  cases status <;> decide

/-- `allowed_transitions` of `update_return_status`: the targets are texts, of which `"cancelled"`
is no member. -/
def allowedTransitions : ReturnStatus → List String
  | requested => ["pickup_scheduled", "cancelled"]
  | pickupScheduled => ["in_transit_return", "cancelled"]
  | inTransitReturn => ["returned_to_warehouse", "cancelled"]
  | returnedToWarehouse => ["refunded", "closed"]
  | refunded => []
  | closed => []

/-- How far a return has come. -/
def rank : ReturnStatus → ℕ
  | requested => 0
  | pickupScheduled => 1
  | inTransitReturn => 2
  | returnedToWarehouse => 3
  | refunded => 4
  | closed => 4

/-- What is refunded or closed has no transitions. -/
theorem not_final_of_allowed {status target : ReturnStatus}
    (h : target.value ∈ status.allowedTransitions) : status ≠ refunded ∧ status ≠ closed := by
  cases status <;> simp [allowedTransitions] at h ⊢

/-- A transition does not go back. -/
theorem rank_le_of_allowed {status target : ReturnStatus}
    (h : target.value ∈ status.allowedTransitions) : status.rank ≤ target.rank := by
  revert h
  cases status <;> cases target <;> decide

end ReturnStatus

/-- `ReturnShipmentStatus`. -/
inductive ReturnShipmentStatus
  | pending | pickupScheduled | inTransitReturn | receivedByCarrier | returnedToWarehouse
deriving DecidableEq

namespace ReturnShipmentStatus

/-- `shipment_status.value`. -/
def value : ReturnShipmentStatus → String
  | pending => "pending"
  | pickupScheduled => "pickup_scheduled"
  | inTransitReturn => "in_transit_return"
  | receivedByCarrier => "received_by_carrier"
  | returnedToWarehouse => "returned_to_warehouse"

/-- `allowed_transitions` of `mark_shipment_received`; a status without an entry is `none`. -/
def allowedTransitions : ReturnShipmentStatus → Option (List ReturnShipmentStatus)
  | pending => some [inTransitReturn]
  | inTransitReturn => some [receivedByCarrier]
  | _ => none

end ReturnShipmentStatus

/-- A row of `return_orders`. -/
structure ReturnRow where
  id : Uuid
  returnNo : String
  status : ReturnStatus := .requested
  shipmentStatus : ReturnShipmentStatus := .pending
  reason : ReturnReason
  refundAmount : Numeric 18 2
deriving DecidableEq

/-- The return order of an identifier. -/
def return? (rows : List ReturnRow) (id : Uuid) : Option ReturnRow := rows.find? (·.id = id)

/-! ### The services -/

/-- The payload of `create_return_order`. -/
structure ReturnOrderCreate where
  reason : String
  transportOrderId : Option IdArg := none
  carrierCode : Option String := none
  returnTrackingNumber : Option String := none
  refundAmount : ℚ := 0

/-- The number of a new return on a day (`YYYYMMDD`) with some number of returns. -/
def returnNo (day : String) (count : ℕ) : String :=
  let number := String.ofList (List.leftpad 4 '0' (Nat.toDigits 10 (count + 1)))
  s!"RTN-{day}-{number}"

/-- `create_return_order`. -/
def createReturnOrder (rows : List ReturnRow) (day : String) (newId : Uuid)
    (data : ReturnOrderCreate) : Except TmsError (List ReturnRow) := do
  let reason ← ReturnReason.ofValue data.reason
  let _ ← readId data.transportOrderId
  let _ ← (data.carrierCode.filter (· ≠ "")).mapM CarrierCode.ofValue
  let _ ← data.returnTrackingNumber.mapM (storeText 100)
  let refundAmount ← Tms.store data.refundAmount
  if newId ∈ rows.map (·.id) ∨ returnNo day rows.length ∈ rows.map (·.returnNo) then
    throw .integrityError
  else return rows ++ [{
    id := newId
    returnNo := returnNo day rows.length
    reason := reason
    refundAmount := refundAmount }]

/-- The row of an identifier, or `NotFoundException`. -/
def findReturn (rows : List ReturnRow) (returnId : IdArg) : Except TmsError ReturnRow :=
  match returnId.uuid?.bind (return? rows) with
  | none => .error (.notFound s!"ReturnOrder {returnId.text} not found")
  | some ret => .ok ret

/-- The commit of a row whose two states have been set. -/
def setStates (rows : List ReturnRow) (ret : ReturnRow) (status : ReturnStatus)
    (shipmentStatus : ReturnShipmentStatus) : List ReturnRow :=
  updateRows (·.id) ret.id
    (fun row => { row with status := status, shipmentStatus := shipmentStatus }) rows

@[simp] theorem map_id_setStates (rows : List ReturnRow) (ret : ReturnRow) (status : ReturnStatus)
    (shipmentStatus : ReturnShipmentStatus) :
    (setStates rows ret status shipmentStatus).map (·.id) = rows.map (·.id) :=
  map_id_updateRows fun _ => rfl

/-- `update_return_status`. -/
def updateReturnStatus (rows : List ReturnRow) (returnId : IdArg) (target : String) :
    Except TmsError (List ReturnRow) := do
  let ret ← findReturn rows returnId
  if target ∉ ret.status.allowedTransitions then
    throw (.validation s!"Cannot transition return from '{ret.status.value}' to '{target}'")
  else
    let status ← ReturnStatus.store target
    return setStates rows ret status ret.shipmentStatus

/-- `mark_shipment_received`. -/
def markShipmentReceived (rows : List ReturnRow) (returnId : IdArg) :
    Except TmsError (List ReturnRow) := do
  let ret ← findReturn rows returnId
  match ret.shipmentStatus.allowedTransitions with
  | none => throw (.validation s!"Cannot transition shipment from '{ret.shipmentStatus.value}'")
  | some allowed =>
    if .receivedByCarrier ∉ allowed then
      throw (.validation (s!"Cannot move to RECEIVED_BY_CARRIER, expected one of " ++
        "[<ReturnShipmentStatus.IN_TRANSIT_RETURN: 'in_transit_return'>]"))
    else return setStates rows ret .inTransitReturn .receivedByCarrier

/-- `mark_return_inspected`. -/
def markReturnInspected (rows : List ReturnRow) (returnId : IdArg) (accepted : Bool) :
    Except TmsError (List ReturnRow) := do
  let ret ← findReturn rows returnId
  if ret.status ∉ [.returnedToWarehouse, .inTransitReturn] then
    throw (.validation s!"Cannot inspect return in status '{ret.status.value}'")
  else if accepted then
    return setStates rows ret .refunded .returnedToWarehouse
  else
    return setStates rows ret .closed .returnedToWarehouse

/-- `cancel_return_order`. -/
def cancelReturnOrder (rows : List ReturnRow) (returnId : IdArg) :
    Except TmsError (List ReturnRow) := do
  let ret ← findReturn rows returnId
  if ret.status ∉ [.requested, .pickupScheduled] then
    throw (.validation s!"Cannot cancel return in status '{ret.status.value}'")
  else return setStates rows ret .closed .returnedToWarehouse

/-! ### Runs -/

/-- A call. -/
inductive ReturnCall
  | createReturnOrder (day : String) (newId : Uuid) (data : ReturnOrderCreate)
  | updateReturnStatus (returnId : IdArg) (target : String)
  | markShipmentReceived (returnId : IdArg)
  | markReturnInspected (returnId : IdArg) (accepted : Bool)
  | cancelReturnOrder (returnId : IdArg)

/-- The table after a call whose commit is taken. -/
def ReturnCall.run (rows : List ReturnRow) : ReturnCall → Except TmsError (List ReturnRow)
  | .createReturnOrder day newId data => Tms.createReturnOrder rows day newId data
  | .updateReturnStatus returnId target => Tms.updateReturnStatus rows returnId target
  | .markShipmentReceived returnId => Tms.markShipmentReceived rows returnId
  | .markReturnInspected returnId accepted => Tms.markReturnInspected rows returnId accepted
  | .cancelReturnOrder returnId => Tms.cancelReturnOrder rows returnId

/-- A call, and whether the database takes its commit. -/
structure ReturnLabel where
  call : ReturnCall
  committed : Bool := true

/-- The table, with its earlier states. -/
structure Returns where
  rows : List ReturnRow := []
  past : List (List ReturnRow) := []

/-- A call.  One that raises is rolled back. -/
def Returns.next (s : Returns) (label : ReturnLabel) : Option Returns :=
  some {
    rows := match label.call.run s.rows with
      | .ok rows => if label.committed then rows else s.rows
      | .error _ => s.rows
    past := s.rows :: s.past }

/-- The runs of the services. -/
def returnSystem : Lts Returns ReturnLabel := Lts.ofNext Returns.next

/-! ### What a call can do -/

/-- What a call that does not raise does to the table. -/
inductive ReturnWrites (rows : List ReturnRow) : ReturnCall → List ReturnRow → Prop
  | create {day : String} {newId : Uuid} {data : ReturnOrderCreate} {ret : ReturnRow}
      (hcreate : createReturnOrder rows day newId data = .ok (rows ++ [ret]))
      (hid : ret.id ∉ rows.map (·.id)) (hstatus : ret.status = .requested)
      (hshipment : ret.shipmentStatus = .pending) :
      ReturnWrites rows (.createReturnOrder day newId data) (rows ++ [ret])
  | update {returnId : IdArg} {ret : ReturnRow} {status : ReturnStatus}
      (hret : findReturn rows returnId = .ok ret)
      (htarget : status.value ∈ ret.status.allowedTransitions) :
      ReturnWrites rows (.updateReturnStatus returnId status.value)
        (setStates rows ret status ret.shipmentStatus)
  | receive {returnId : IdArg} {ret : ReturnRow} (hret : findReturn rows returnId = .ok ret)
      (hshipment : ret.shipmentStatus = .inTransitReturn) :
      ReturnWrites rows (.markShipmentReceived returnId)
        (setStates rows ret .inTransitReturn .receivedByCarrier)
  | inspect {returnId : IdArg} {accepted : Bool} {ret : ReturnRow}
      (hret : findReturn rows returnId = .ok ret)
      (hstatus : ret.status = .returnedToWarehouse ∨ ret.status = .inTransitReturn) :
      ReturnWrites rows (.markReturnInspected returnId accepted)
        (setStates rows ret (if accepted then .refunded else .closed) .returnedToWarehouse)
  | cancel {returnId : IdArg} {ret : ReturnRow} (hret : findReturn rows returnId = .ok ret)
      (hstatus : ret.status = .requested ∨ ret.status = .pickupScheduled) :
      ReturnWrites rows (.cancelReturnOrder returnId)
        (setStates rows ret .closed .returnedToWarehouse)

section Spec

variable {rows rows' : List ReturnRow}

theorem mem_of_findReturn {returnId : IdArg} {ret : ReturnRow}
    (h : findReturn rows returnId = .ok ret) : ret ∈ rows := by
  unfold findReturn at h
  split at h
  next => cases h
  next ret' hfind =>
    cases h
    obtain ⟨id, -, hfind⟩ := Option.bind_eq_some_iff.1 hfind
    exact List.mem_of_find?_eq_some hfind

theorem createReturnOrder_eq_ok {day : String} {newId : Uuid} {data : ReturnOrderCreate}
    (h : createReturnOrder rows day newId data = .ok rows') :
    ∃ ret, rows' = rows ++ [ret] ∧ ret.id ∉ rows.map (·.id) ∧ ret.status = .requested ∧
      ret.shipmentStatus = .pending := by
  unfold createReturnOrder at h
  iterate 5
    obtain ⟨_, -, h⟩ := bind_eq_ok_iff.1 h
  split_ifs at h with htaken
  cases h
  exact ⟨_, rfl, fun hid => htaken (.inl hid), rfl, rfl⟩

/-- Without an entry for `RECEIVED_BY_CARRIER` the goods are not received. -/
theorem markShipmentReceived_eq_ok_iff {returnId : IdArg} :
    markShipmentReceived rows returnId = .ok rows' ↔
      ∃ ret, findReturn rows returnId = .ok ret ∧ ret.shipmentStatus = .inTransitReturn ∧
        setStates rows ret .inTransitReturn .receivedByCarrier = rows' := by
  unfold markShipmentReceived
  rw [bind_eq_ok_iff]
  refine exists_congr fun ret => and_congr_right fun _ => ?_
  cases ret.shipmentStatus <;>
    simp [ReturnShipmentStatus.allowedTransitions, throw, throwThe, MonadExceptOf.throw,
      pure_eq_ok_iff]

/-- **What the calls do.** -/
theorem run_eq_ok_iff {call : ReturnCall} :
    call.run rows = .ok rows' ↔ ReturnWrites rows call rows' := by
  constructor
  · intro h
    cases call with
    | createReturnOrder day newId data =>
      obtain ⟨ret, rfl, hid, hstatus, hshipment⟩ := createReturnOrder_eq_ok h
      exact .create h hid hstatus hshipment
    | updateReturnStatus returnId target =>
      obtain ⟨ret, hret, h⟩ := bind_eq_ok_iff.1 h
      split_ifs at h with htarget
      obtain ⟨status, hstatus, h⟩ := bind_eq_ok_iff.1 h
      cases h
      obtain rfl := ReturnStatus.store_eq_ok hstatus
      exact .update hret htarget
    | markShipmentReceived returnId =>
      obtain ⟨ret, hret, hshipment, rfl⟩ := markShipmentReceived_eq_ok_iff.1 h
      exact .receive hret hshipment
    | markReturnInspected returnId accepted =>
      obtain ⟨ret, hret, h⟩ := bind_eq_ok_iff.1 h
      by_cases hstatus : ret.status ∈ [.returnedToWarehouse, .inTransitReturn]
      · have hset : ReturnWrites rows (.markReturnInspected returnId accepted) _ :=
          .inspect hret (by simpa using hstatus)
        cases accepted <;> simp only [hstatus, not_true, if_false] at h <;> cases h <;> exact hset
      · rw [if_pos hstatus] at h
        cases h
    | cancelReturnOrder returnId =>
      obtain ⟨ret, hret, h⟩ := bind_eq_ok_iff.1 h
      split_ifs at h with hstatus
      cases h
      exact .cancel hret (by simpa using hstatus)
  · intro h
    cases h with
    | create hcreate => exact hcreate
    | @update returnId ret status hret htarget =>
      refine bind_eq_ok_iff.2 ⟨ret, hret, ?_⟩
      rw [if_neg (not_not.2 htarget), ReturnStatus.store_value]
      rfl
    | receive hret hshipment =>
      exact markShipmentReceived_eq_ok_iff.2 ⟨_, hret, hshipment, rfl⟩
    | @inspect returnId accepted ret hret hstatus =>
      refine bind_eq_ok_iff.2 ⟨ret, hret, ?_⟩
      rw [if_neg (not_not.2 (by simpa using hstatus))]
      cases accepted <;> rfl
    | @cancel returnId ret hret hstatus =>
      refine bind_eq_ok_iff.2 ⟨ret, hret, ?_⟩
      rw [if_neg (not_not.2 (by simpa using hstatus))]
      rfl

end Spec

/-! ### The reachable states of the two machines -/

/-- While a return is open its goods are `PENDING`: no service takes them out of it but those that
close the return. -/
structure ReturnRow.Sound (ret : ReturnRow) : Prop where
  shipment : ret.shipmentStatus = .pending ∨
    ret.shipmentStatus = .returnedToWarehouse ∧ (ret.status = .refunded ∨ ret.status = .closed)

/-- What happens to the status of one return: it does not go back, and stays when it is final. -/
structure ReturnRow.Advances (ret ret' : ReturnRow) : Prop where
  id : ret'.id = ret.id
  rank : ret.status.rank ≤ ret'.status.rank
  final : ret.status = .refunded ∨ ret.status = .closed → ret'.status = ret.status

namespace ReturnRow.Advances

variable {ret ret' ret'' : ReturnRow}

theorem refl (ret : ReturnRow) : Advances ret ret := ⟨rfl, le_rfl, fun _ => rfl⟩

theorem trans (h : Advances ret ret') (h' : Advances ret' ret'') : Advances ret ret'' where
  id := h'.id.trans h.id
  rank := h.rank.trans h'.rank
  final hfinal := by
    have hsame := h.final hfinal
    rw [h'.final (by rwa [hsame]), hsame]

end ReturnRow.Advances

namespace Returns

/-- The returns have different identifiers, and their two states fit. -/
structure Good (rows : List ReturnRow) : Prop where
  nodup : (rows.map (·.id)).Nodup
  sound : ∀ ret ∈ rows, ret.Sound

variable {s s' s'' : Returns} {rows rows' : List ReturnRow} {call : ReturnCall}

theorem Good.forall_setStates_iff (h : Good rows) {P : ReturnRow → Prop} (hP : ∀ ret ∈ rows, P ret)
    {ret : ReturnRow} (hret : ret ∈ rows) (status : ReturnStatus)
    (shipmentStatus : ReturnShipmentStatus) :
    (∀ ret' ∈ setStates rows ret status shipmentStatus, P ret') ↔
      P { ret with status := status, shipmentStatus := shipmentStatus } :=
  forall_mem_updateRows_iff h.nodup hP hret

theorem Good.setStates (h : Good rows) {ret : ReturnRow} (hret : ret ∈ rows)
    {status : ReturnStatus} {shipmentStatus : ReturnShipmentStatus}
    (hsound : ReturnRow.Sound { ret with status := status, shipmentStatus := shipmentStatus }) :
    Good (setStates rows ret status shipmentStatus) where
  nodup := by
    rw [map_id_setStates]
    exact h.nodup
  sound := (h.forall_setStates_iff h.sound hret status shipmentStatus).2 hsound

theorem Good.writes (h : Good rows) (hwrites : ReturnWrites rows call rows') : Good rows' := by
  cases hwrites with
  | @create day newId data ret hcreate hid hstatus hshipment =>
    refine ⟨nodup_map_concat h.nodup hid, fun ret' hret' => ?_⟩
    rcases List.mem_append.1 hret' with hold | hnew
    · exact h.sound ret' hold
    · rw [List.mem_singleton.1 hnew]
      exact ⟨.inl hshipment⟩
  | @update returnId ret status hret htarget =>
    have hmem := mem_of_findReturn hret
    refine h.setStates hmem ⟨.inl ?_⟩
    obtain ⟨hrefunded, hclosed⟩ := ReturnStatus.not_final_of_allowed htarget
    simpa [hrefunded, hclosed] using (h.sound ret hmem).shipment
  | @receive returnId ret hret hshipment =>
    have hsound := (h.sound ret (mem_of_findReturn hret)).shipment
    simp [hshipment] at hsound
  | @inspect returnId accepted ret hret hstatus =>
    refine h.setStates (mem_of_findReturn hret) ⟨.inr ⟨rfl, ?_⟩⟩
    cases accepted
    · exact .inr rfl
    · exact .inl rfl
  | @cancel returnId ret hret hstatus =>
    exact h.setStates (mem_of_findReturn hret) ⟨.inr ⟨rfl, .inr rfl⟩⟩

/-- Every return is still there, and has advanced. -/
def Advance (rows rows' : List ReturnRow) : Prop :=
  ∀ ret ∈ rows, ∃ ret' ∈ rows', ret.Advances ret'

theorem Advance.refl (rows : List ReturnRow) : Advance rows rows :=
  fun ret hret => ⟨ret, hret, .refl ret⟩

theorem Advance.trans {rows'' : List ReturnRow} (h : Advance rows rows')
    (h' : Advance rows' rows'') : Advance rows rows'' := by
  intro ret hret
  obtain ⟨ret', hret', hadvances⟩ := h ret hret
  obtain ⟨ret'', hret'', hadvances'⟩ := h' ret' hret'
  exact ⟨ret'', hret'', hadvances.trans hadvances'⟩

theorem Good.advance_setStates (h : Good rows) {ret : ReturnRow} (hret : ret ∈ rows)
    {status : ReturnStatus} (hopen : ret.status ≠ .refunded ∧ ret.status ≠ .closed)
    (hrank : ret.status.rank ≤ status.rank) (shipmentStatus : ReturnShipmentStatus) :
    Advance rows (Tms.setStates rows ret status shipmentStatus) := by
  intro ret' hret'
  refine exists_mem_updateRows h.nodup ReturnRow.Advances.refl hret ?_ hret'
  exact ⟨rfl, hrank, fun hfinal => (hfinal.elim hopen.1 hopen.2).elim⟩

/-- **No call goes back or leaves what is final**: `mark_shipment_received`, which looks at the
goods only, accepts none. -/
theorem Good.advance (h : Good rows) (hwrites : ReturnWrites rows call rows') :
    Advance rows rows' := by
  cases hwrites with
  | create => exact fun ret hret => ⟨ret, List.mem_append_left _ hret, .refl ret⟩
  | update hret htarget =>
    exact h.advance_setStates (mem_of_findReturn hret) (ReturnStatus.not_final_of_allowed htarget)
      (ReturnStatus.rank_le_of_allowed htarget) _
  | @receive returnId ret hret hshipment =>
    have hsound := (h.sound ret (mem_of_findReturn hret)).shipment
    simp [hshipment] at hsound
  | @inspect returnId accepted ret hret hstatus =>
    refine h.advance_setStates (mem_of_findReturn hret) ?_ ?_ _
    · rcases hstatus with hstatus | hstatus <;> simp [hstatus]
    · rcases hstatus with hstatus | hstatus <;> cases accepted <;> rw [hstatus] <;> decide
  | cancel hret hstatus =>
    refine h.advance_setStates (mem_of_findReturn hret) ?_ ?_ _
    · rcases hstatus with hstatus | hstatus <;> simp [hstatus]
    · rcases hstatus with hstatus | hstatus <;> rw [hstatus] <;> decide

/-- A step commits what a call does, or leaves the table as it was. -/
theorem next_cases {label : ReturnLabel} (hnext : s.next label = some s') :
    s'.past = s.rows :: s.past ∧
      ((label.committed ∧ ReturnWrites s.rows label.call s'.rows) ∨
        s'.rows = s.rows ∧ ¬ (label.committed ∧ ∃ rows, ReturnWrites s.rows label.call rows)) := by
  cases hnext
  refine ⟨rfl, ?_⟩
  cases hrun : label.call.run s.rows with
  | ok rows =>
    by_cases hcommitted : label.committed
    · simp only [if_pos hcommitted]
      exact .inl ⟨hcommitted, run_eq_ok_iff.1 hrun⟩
    · exact .inr ⟨if_neg hcommitted, fun h => hcommitted h.1⟩
  | error e =>
    refine .inr ⟨rfl, ?_⟩
    rintro ⟨-, rows, hwrites⟩
    rw [run_eq_ok_iff.2 hwrites] at hrun
    cases hrun

theorem Good.next (h : Good s.rows) {label : ReturnLabel} (hnext : s.next label = some s') :
    Good s'.rows ∧ Advance s.rows s'.rows := by
  obtain ⟨-, ⟨-, hwrites⟩ | ⟨hsame, -⟩⟩ := next_cases hnext
  · exact ⟨h.writes hwrites, h.advance hwrites⟩
  · rw [hsame]
    exact ⟨h, .refl _⟩

theorem Good.run (h : Good s.rows) {labels : List ReturnLabel}
    (hrun : returnSystem.Run s labels s') : Good s'.rows ∧ Advance s.rows s'.rows := by
  refine hrun.invariant (I := fun t => Good t.rows ∧ Advance s.rows t.rows) ⟨h, .refl _⟩
    fun t label t' ht hnext => ?_
  obtain ⟨hgood, hadvance⟩ := ht.1.next hnext
  exact ⟨hgood, ht.2.trans hadvance⟩

theorem Good.start : Good (({} : Returns).rows) :=
  ⟨List.nodup_nil, by simp⟩

end Returns

/-- **Closed returns stay closed**: in every run, a return that is refunded or closed is found with
this status ever after. -/
theorem closed_stays {labels labels' : List ReturnLabel} {s s' : Returns}
    (hrun : returnSystem.Run {} labels s) (hrun' : returnSystem.Run s labels' s')
    {ret : ReturnRow} (hret : ret ∈ s.rows)
    (hfinal : ret.status = .refunded ∨ ret.status = .closed) :
    ∃ ret', return? s'.rows ret.id = some ret' ∧ ret'.status = ret.status := by
  obtain ⟨hgood, -⟩ := Returns.Good.start.run hrun
  obtain ⟨hgood', hadvance⟩ := hgood.run hrun'
  obtain ⟨ret', hret', hadvances⟩ := hadvance ret hret
  exact ⟨ret', hadvances.id ▸ find?_id_of_mem hgood'.nodup hret', hadvances.final hfinal⟩

/-- A return that was created and cancelled. -/
def cancelledReturn : ReturnRow :=
  ⟨7, "RTN-20260718-0001", .closed, .returnedToWarehouse, .damaged, ⟨0, by decide⟩⟩

/-- After it is cancelled, it is not scheduled. -/
theorem cancelledReturn_stays : ∃ labels s s', returnSystem.Run {} labels s ∧
    returnSystem.Run s [⟨.updateReturnStatus ⟨"7", some 7⟩ "pickup_scheduled", true⟩] s' ∧
    cancelledReturn ∈ s.rows ∧ ∃ ret', return? s'.rows 7 = some ret' ∧ ret'.status = .closed := by
  have hrows : (Lts.runNext Returns.next {}
      [⟨.createReturnOrder "20260718" 7 { reason := "damaged" }, true⟩,
        ⟨.cancelReturnOrder ⟨"7", some 7⟩, true⟩]).map Returns.rows = some [cancelledReturn] := by
    decide +kernel
  obtain ⟨s, hs, hrows⟩ := Lts.exists_run_of_map hrows
  have hmem : cancelledReturn ∈ s.rows := hrows ▸ List.mem_singleton_self _
  exact ⟨_, s, _, hs, .single rfl, hmem, closed_stays hs (.single rfl) hmem (.inr rfl)⟩

end Tms

end OmsWmsTms
