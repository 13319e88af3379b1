import OmsWmsTms.Core.Handlers
import OmsWmsTms.Tms.OrderTimes
import OmsWmsTms.Tms.SegmentTimes
import OmsWmsTms.Uow.Workflow

/-!
# Transport requests under way at the same time

The requests of `src/tms/service.py` that create and move transport orders and their segments,
record tracking events and edit hubs.  A request checks the status that it has read, and its
`UPDATE` sets the columns that it has changed, without looking again: a delivered order can become
an exception, and a completed segment be dispatched once more.

* `TransportWrite.apply`, `transportSystem` : the commits, and the server.
* `TransportWrite.Goes` : a change is what a call makes of tables that were once committed.
* `transport_orders_by_history`, `transport_segments_by_history` : the statuses are still reached
  along the two state machines, and a time is set exactly when it has been asked for.
-/

namespace OmsWmsTms

namespace Tms

/-! ### The model -/

/-- What a request raises. -/
inductive TransportError
  | service (e : TmsError)
  /-- `StaleDataError`: the row of an `UPDATE` is gone. -/
  | staleData
  /-- `InvalidRequestError`: the row of a `refresh` is gone. -/
  | invalidRequest
deriving DecidableEq

/-- The changes that a handler collects; it commits them together. -/
inductive TransportWrite
  /-- With the time and the identifier that the row gets. -/
  | insertOrder (now : ℤ) (id : Uuid) (data : OrderForm)
  /-- The event of a new order. -/
  | insertEvent (event : TrackingEvent)
  | insertSegment (now : ℤ) (id : Uuid) (data : SegmentForm)
  /-- A plan and its segments, with their identifiers. -/
  | insertPlan (now : ℤ) (plan : RoutePlan) (segments : List (Uuid × TransportSegment))
  | update (change : Change)

/-- The rows of the segments of a plan. -/
def segmentRows (now : ℤ) (segments : List (Uuid × TransportSegment)) : List SegmentRow :=
  plannedRows now (segments.map Prod.fst) (segments.map Prod.snd)

/-- What the columns and the keys of an event ask for. -/
def TrackingEvent.check (d : TrackingDb) (event : TrackingEvent) : Except TmsError Unit := do
  let _ ← event.locationCode.mapM (storeText 50)
  let _ ← event.locationName.mapM (storeText 200)
  let _ ← event.latitude.mapM fun x => (store x : Except TmsError (Numeric 10 6))
  let _ ← event.longitude.mapM fun x => (store x : Except TmsError (Numeric 10 6))
  if event.transportOrderId ∉ d.transportOrders.map (·.order.id) ∨
      event.id ∈ d.trackingEvents.map (·.id) then throw .integrityError

/-- The rows of an `UPDATE` are there, and an event can be stored. -/
def Change.check (d : TrackingDb) : Change → Except TransportError Unit
  | .order id _ =>
    if id ∈ d.transportOrders.map (·.order.id) then .ok () else .error .staleData
  | .event added _ => (added.check d).mapError .service
  | .hub id _ => if id ∈ d.transferHubs.map (·.id) then .ok () else .error .staleData
  | .segment id _ _ =>
    if id ∈ d.transportSegments.map (·.id) then .ok () else .error .staleData

/-- **A commit.** -/
def TransportWrite.apply : TransportWrite → TrackingDb → Except TransportError TrackingDb
  | .insertOrder now id data, d =>
    match d.createTransportOrder now id data with
    | .error e => .error (.service e)
    | .ok row => .ok { d with transportOrders := d.transportOrders ++ [row] }
  | .insertEvent event, d =>
    match event.check d with
    | .error e => .error (.service e)
    | .ok _ => .ok { d with trackingEvents := d.trackingEvents ++ [event] }
  | .insertSegment now id data, d =>
    match createSegment (d.transportOrders.map (·.order)) d.transportSegments now id data with
    | .error e => .error (.service e)
    | .ok row => .ok { d with transportSegments := d.transportSegments ++ [row] }
  | .insertPlan now plan segments, d =>
    if plan.transportOrderId ∈ d.transportOrders.map (·.order.id) ∧
        plan.transportOrderId ∉ d.routePlans.map (·.transportOrderId) ∧
        ((d.transportSegments ++ segmentRows now segments).map (·.id)).Nodup then
      .ok { d with
        routePlans := d.routePlans ++ [plan]
        transportSegments := d.transportSegments ++ segmentRows now segments }
    else .error (.service .integrityError)
  | .update change, d =>
    match change.check d with
    | .error e => .error e
    | .ok _ => .ok (change.apply d)

/-- What a handler answers. -/
inductive TransportAnswer
  | order (row : OrderRow)
  | event (row : TrackingEvent)
  | hub (row : HubRow)
  | segment (row : SegmentRow)
  | plan (row : RoutePlan)
deriving DecidableEq

/-- The handlers. -/
abbrev TransportProg := Uow.Prog TrackingDb TransportWrite TransportError TransportAnswer

namespace TransportProg

/-- `AsyncSession.refresh`: read the row again. -/
def refresh {Row : Type} (find : TrackingDb → Option Row) (answer : Row → TransportAnswer) :
    TransportProg :=
  .read fun d =>
    match find d with
    | some row => .ret (answer row)
    | none => .throw .invalidRequest

/-- `create_transport_order`.  The event has a commit of its own; after one that fails, `refresh`
raises as well. -/
def createTransportOrder (now : ℤ) (id eventId : Uuid) (data : OrderForm) : TransportProg :=
  .commit (.insertOrder now id data) <|
    match TrackingDb.createdEvent eventId
      { order := ⟨id, data.pickupAddress, data.deliveryAddress, none⟩, updatedAt := now } with
    | none => refresh (·.order? id) .order
    | some event => .commit (.insertEvent event) (refresh (·.order? id) .order)

/-- `create_segment`. -/
def createSegment (now : ℤ) (id : Uuid) (data : SegmentForm) : TransportProg :=
  .commit (.insertSegment now id data) (refresh (·.segment? id) .segment)

/-- The end of `generate_route_plan`, with the plan that it has found. -/
def storePlan (now : ℤ) (plan : RoutePlan) (segments : List (Uuid × TransportSegment)) :
    TransportProg :=
  .commit (.insertPlan now plan segments) (refresh (·.plan? plan.id) .plan)

/-- The row of a change, read again. -/
def refreshed : Change → TransportProg
  | .order id _ => refresh (·.order? id) .order
  | .event added _ => refresh (fun d => d.trackingEvents.find? (·.id = added.id)) .event
  | .hub id _ => refresh (·.hub? id) .hub
  | .segment id _ _ => refresh (·.segment? id) .segment

/-- The services that read a row and change it. -/
def write (now : ℤ) (call : WriteCall) : TransportProg :=
  .read fun d =>
    match call.read d now with
    | .error e => .throw (.service e)
    | .ok change => .commit (.update change) (refreshed change)

/-- `get_segment`. -/
def getSegment (segId : IdArg) : TransportProg :=
  .read fun d =>
    match segId.uuid?.bind d.segment? with
    | none => .throw (.service (.notFound s!"Segment {segId.text} not found"))
    | some row => .ret (.segment row)

end TransportProg

/-- A request, with the time and the identifiers that it draws. -/
inductive TransportRequest
  | createTransportOrder (now : ℤ) (id eventId : Uuid) (data : OrderForm)
  | createSegment (now : ℤ) (id : Uuid) (data : SegmentForm)
  | storePlan (now : ℤ) (plan : RoutePlan) (segments : List (Uuid × TransportSegment))
  | write (now : ℤ) (call : WriteCall)
  | getSegment (segId : IdArg)

/-- The handler of a request. -/
def TransportRequest.handler : TransportRequest → TransportProg
  | .createTransportOrder now id eventId data =>
    TransportProg.createTransportOrder now id eventId data
  | .createSegment now id data => TransportProg.createSegment now id data
  | .storePlan now plan segments => TransportProg.storePlan now plan segments
  | .write now call => TransportProg.write now call
  | .getSegment segId => TransportProg.getSegment segId

/-- A server of transport orders. -/
abbrev TransportState :=
  Uow.State TrackingDb TransportWrite TransportRequest TransportError TransportAnswer

/-- **The requests on transport orders and segments.** -/
def transportSystem : Lts TransportState (Uow.Label TransportRequest) :=
  Uow.system TransportWrite.apply TransportRequest.handler

/-! ### What a request goes by -/

open Uow (Cell Committed History Workflow lastGiven)
open Uow.Prog (justified_read)

/-- A new segment. -/
structure SegmentRow.New (row : SegmentRow) : Prop where
  status : row.status = .draft
  departure : row.actualDepartureTime = none
  arrival : row.actualArrivalTime = none

/-- A change is what a call makes of tables that were once committed. -/
def TransportWrite.Goes (d₀ : TrackingDb) (ws : List TransportWrite) : TransportWrite → Prop
  | .update change => ∃ past d now call, past <+: ws ∧ Committed TransportWrite.apply d₀ past d ∧
      WriteCall.read d now call = .ok change
  | _ => True

/-- What a call makes of the tables. -/
inductive ChangeOf (db : TrackingDb) (now : ℤ) : Change → Prop
  | order {row : OrderRow} {target : TransportStatus} (hrow : db.order? row.order.id = some row)
      (htarget : target ∈ row.status.transitions) :
      ChangeOf db now (.order row.order.id (moveTo now row target))
  | event {row : OrderRow} {added : TrackingEvent} (hrow : db.order? row.order.id = some row)
      (horder : added.transportOrderId = row.order.id) :
      ChangeOf db now (.event added (deliverAt now row added.eventType.value))
  | hub {id : Uuid} {change : HubChange} : ChangeOf db now (.hub id change)
  | segment {row : SegmentRow} {target : TransportSegmentStatus}
      (hrow : db.segment? row.id = some row) (htarget : target ∈ row.status.transitions) :
      ChangeOf db now (.segment row.id row.segment.transportOrderId (segmentMove now target))

variable {d₀ d d' : TrackingDb} {ws : List TransportWrite} {w : TransportWrite} {id : Uuid}
  {s : TransportState} {ls : List (Uow.Label TransportRequest)}

theorem TrackingDb.order?_of_bind {row : OrderRow} {arg : IdArg}
    (h : arg.uuid?.bind d.order? = some row) : d.order? row.order.id = some row := by
  obtain ⟨i, -, hfind⟩ := Option.bind_eq_some_iff.1 h
  have hid : row.order.id = i := by simpa using List.find?_some hfind
  rwa [hid]

theorem TrackingDb.segment?_of_bind {row : SegmentRow} {arg : IdArg}
    (h : arg.uuid?.bind d.segment? = some row) : d.segment? row.id = some row := by
  obtain ⟨i, -, hfind⟩ := Option.bind_eq_some_iff.1 h
  have hid : row.id = i := by simpa using List.find?_some hfind
  rwa [hid]

theorem TrackingDb.updateHub_eq_ok {now : ℤ} {hubId : IdArg} {data : HubEdit} {change : Change}
    (h : d.updateHub now hubId data = .ok change) : ∃ id columns, change = .hub id columns := by
  unfold TrackingDb.updateHub at h
  split at h
  · cases h
  · iterate 7
      obtain ⟨_, -, h⟩ := bind_eq_ok_iff.1 h
    cases h
    exact ⟨_, _, rfl⟩

/-- **What the calls make of the tables.** -/
theorem WriteCall.changeOf {call : WriteCall} {now : ℤ} {change : Change}
    (h : call.read d now = .ok change) : ChangeOf d now change := by
  cases call with
  | changeTransportStatus orderId newStatus =>
    obtain ⟨row, target, hrow, -, htarget, rfl⟩ := TrackingDb.changeTransportStatus_eq_ok_iff.1 h
    exact .order (TrackingDb.order?_of_bind hrow) htarget
  | createTrackingEvent newId data =>
    obtain ⟨row, eventType, operatorId, hrow, htype, -, rfl⟩ :=
      TrackingDb.createTrackingEvent_eq_ok_iff.1 h
    rw [← enumOf_eq_ok htype]
    exact .event (TrackingDb.order?_of_bind hrow) rfl
  | updateHub hubId data =>
    obtain ⟨id, columns, rfl⟩ := TrackingDb.updateHub_eq_ok h
    exact .hub
  | updateSegmentStatus segId status =>
    replace h : d.updateSegmentStatus now segId status = .ok change := h
    unfold TrackingDb.updateSegmentStatus at h
    split at h
    · cases h
    · next row hrow =>
      obtain ⟨target, -, h⟩ := bind_eq_ok_iff.1 h
      by_cases htarget : target ∈ row.status.transitions
      · rw [if_pos htarget] at h
        cases h
        exact .segment (TrackingDb.segment?_of_bind hrow) htarget
      · rw [if_neg htarget] at h
        cases h

theorem createSegment_new {orders : List TransportOrder} {rows : List SegmentRow} {now : ℤ}
    {data : SegmentForm} {row : SegmentRow}
    (h : createSegment orders rows now id data = .ok row) :
    id ∉ rows.map (·.id) ∧ row.id = id ∧ row.New := by
  unfold createSegment at h
  split at h
  · cases h
  · iterate 6
      obtain ⟨_, -, h⟩ := bind_eq_ok_iff.1 h
    split_ifs at h with hno hid
    cases h
    exact ⟨fun hmem => hid (.inr hmem), rfl, rfl, rfl, rfl⟩

theorem new_of_mem_segmentRows {now : ℤ} {segments : List (Uuid × TransportSegment)}
    {row : SegmentRow} (h : row ∈ segmentRows now segments) : row.New := by
  obtain ⟨i, hi⟩ := List.mem_iff_getElem?.1 h
  obtain ⟨id, segment, -, -, rfl⟩ := List.getElem?_zipWith_eq_some.1 hi
  exact ⟨rfl, rfl, rfl⟩

theorem map_id_segmentRows (now : ℤ) (segments : List (Uuid × TransportSegment)) :
    (segmentRows now segments).map (·.id) = segments.map Prod.fst := by
  rw [segmentRows, plannedRows, List.zipWith_map, List.zipWith_self, List.map_map]
  rfl

theorem TransportRequest.justified_handler (q : TransportRequest) :
    q.handler.Justified TransportWrite.apply (TransportWrite.Goes d₀) d₀ (fun _ _ => True)
      fun _ => True := by
  have hrefresh : ∀ {Row : Type} (find : TrackingDb → Option Row) answer K,
      (TransportProg.refresh find answer).Justified TransportWrite.apply
        (TransportWrite.Goes d₀) d₀ (fun _ _ => True) K := by
    intro Row find answer K
    refine justified_read fun d => ?_
    split
    · exact fun _ _ => trivial
    · trivial
  cases q with
  | createTransportOrder now id eventId data =>
    refine ⟨fun _ _ => trivial, ?_⟩
    split
    · exact hrefresh _ _ _
    · exact ⟨fun _ _ => trivial, hrefresh _ _ _⟩
  | createSegment now id data => exact ⟨fun _ _ => trivial, hrefresh _ _ _⟩
  | storePlan now plan segments => exact ⟨fun _ _ => trivial, hrefresh _ _ _⟩
  | write now call =>
    refine justified_read fun d => ?_
    split
    · trivial
    · next change hread =>
      refine ⟨?_, ?_⟩
      · rintro ws ⟨past, hpast, -, hd⟩
        exact ⟨past, d, now, call, hpast, hd, hread⟩
      · cases change <;> exact hrefresh _ _ _
  | getSegment segId =>
    refine justified_read fun d => ?_
    split
    · trivial
    · exact fun _ _ => trivial

/-! ### What a commit does to a row -/

theorem TrackingEvent.mem_of_check {event : TrackingEvent} (h : event.check d = .ok ()) :
    event.transportOrderId ∈ d.transportOrders.map (·.order.id) := by
  unfold TrackingEvent.check at h
  iterate 4
    obtain ⟨_, -, h⟩ := bind_eq_ok_iff.1 h
  split_ifs at h with hno
  exact not_not.1 (not_or.1 hno).1

theorem Change.check_event {added : TrackingEvent} {change : Option OrderChange}
    (h : (Change.event added change).check d = .ok ()) : added.check d = .ok () := by
  cases hcheck : added.check d with
  | ok => rfl
  | error e =>
    rw [Change.check, hcheck] at h
    cases h

/-- A new order. -/
structure OrderRow.New (row : OrderRow) : Prop where
  status : row.status = .draft
  pickup : row.actualPickupTime = none
  delivery : row.actualDeliveryTime = none

/-- The workflow of the orders. -/
def orderFlow : Workflow OrderRow OrderChange TransportStatus where
  write := OrderChange.write
  status := OrderRow.status
  sets := OrderChange.status
  New := OrderRow.New
  first := .draft
  edges := TransportStatus.transitions
  status_write _ _ := rfl
  status_new _ hnew := hnew.status

/-- The workflow of the segments. -/
def segmentFlow : Workflow SegmentRow SegmentChange TransportSegmentStatus where
  write := SegmentChange.write
  status := SegmentRow.status
  sets change := some change.status
  New := SegmentRow.New
  first := .draft
  edges := TransportSegmentStatus.transitions
  status_write _ _ := rfl
  status_new _ hnew := hnew.status

/-- An order. -/
def orderCell (id : Uuid) : Cell TrackingDb TransportWrite OrderRow OrderChange where
  row? d := d.order? id
  inserts
    | .insertOrder _ other _ => id = other
    | _ => false
  change?
    | .update (.order other change) => if id = other then some change else none
    | .update (.event added change) => if id = added.transportOrderId then change else none
    | _ => none

/-- A segment. -/
def segmentCell (id : Uuid) : Cell TrackingDb TransportWrite SegmentRow SegmentChange where
  row? d := d.segment? id
  inserts
    | .insertSegment _ other _ => id = other
    | .insertPlan _ _ segments => id ∈ segments.map Prod.fst
    | _ => false
  change?
    | .update (.segment other _ change) => if id = other then some change else none
    | _ => none

namespace TransportWrite

/-- The status that a write gives an order. -/
def givesOrder (id : Uuid) : TransportWrite → Option TransportStatus :=
  (orderCell id).gives orderFlow

/-- The status that a write gives a segment. -/
def givesSegment (id : Uuid) : TransportWrite → Option TransportSegmentStatus :=
  (segmentCell id).gives segmentFlow

/-- A write by which an order is delivered: a move, or an event on its own. -/
def Delivers (id : Uuid) : TransportWrite → Prop
  | .update (.order other change) => id = other ∧ change.status = some .delivered
  | .update (.event added _) => id = added.transportOrderId ∧ added.eventType = .delivered
  | _ => False

/-- What a commit that is taken does. -/
inductive Commits (d : TrackingDb) : TransportWrite → TrackingDb → Prop
  | insertOrder {now : ℤ} {id : Uuid} {data : OrderForm} {row : OrderRow}
      (hfresh : id ∉ d.transportOrders.map (·.order.id)) (hid : row.order.id = id)
      (hnew : row.New) :
      Commits d (.insertOrder now id data) { d with transportOrders := d.transportOrders ++ [row] }
  | insertEvent {event : TrackingEvent} :
      Commits d (.insertEvent event) { d with trackingEvents := d.trackingEvents ++ [event] }
  | insertSegment {now : ℤ} {id : Uuid} {data : SegmentForm} {row : SegmentRow}
      (hfresh : id ∉ d.transportSegments.map (·.id)) (hid : row.id = id) (hnew : row.New) :
      Commits d (.insertSegment now id data)
        { d with transportSegments := d.transportSegments ++ [row] }
  | insertPlan {now : ℤ} {plan : RoutePlan} {segments : List (Uuid × TransportSegment)}
      (hfresh : ∀ row ∈ segmentRows now segments, row.id ∉ d.transportSegments.map (·.id)) :
      Commits d (.insertPlan now plan segments)
        { d with
          routePlans := d.routePlans ++ [plan]
          transportSegments := d.transportSegments ++ segmentRows now segments }
  | order {id : Uuid} {change : OrderChange} (hid : id ∈ d.transportOrders.map (·.order.id)) :
      Commits d (.update (.order id change)) ((Change.order id change).apply d)
  | event {added : TrackingEvent} {change : Option OrderChange}
      (hid : added.transportOrderId ∈ d.transportOrders.map (·.order.id)) :
      Commits d (.update (.event added change)) ((Change.event added change).apply d)
  | hub {id : Uuid} {change : HubChange} :
      Commits d (.update (.hub id change)) ((Change.hub id change).apply d)
  | segment {id orderId : Uuid} {change : SegmentChange}
      (hid : id ∈ d.transportSegments.map (·.id)) :
      Commits d (.update (.segment id orderId change)) ((Change.segment id orderId change).apply d)

theorem commits_of_apply (h : w.apply d = .ok d') : w.Commits d d' := by
  cases w with
  | insertOrder now id data =>
    simp only [TransportWrite.apply] at h
    split at h
    · cases h
    · next row hrow =>
      cases h
      obtain ⟨hfresh, hid, hstatus, hpickup, hdelivery⟩ :=
        TrackingDb.createTransportOrder_eq_ok hrow
      exact .insertOrder hfresh hid ⟨hstatus, hpickup, hdelivery⟩
  | insertEvent event =>
    simp only [TransportWrite.apply] at h
    split at h
    · cases h
    · cases h
      exact .insertEvent
  | insertSegment now id data =>
    simp only [TransportWrite.apply] at h
    split at h
    · cases h
    · next row hrow =>
      cases h
      obtain ⟨hfresh, hid, hnew⟩ := createSegment_new hrow
      exact .insertSegment hfresh hid hnew
  | insertPlan now plan segments =>
    simp only [TransportWrite.apply] at h
    split_ifs at h with hno
    cases h
    refine .insertPlan fun row hrow hmem => ?_
    have hnodup := hno.2.2
    rw [List.map_append] at hnodup
    exact (List.disjoint_of_nodup_append hnodup) hmem (List.mem_map_of_mem hrow)
  | update change =>
    simp only [TransportWrite.apply] at h
    split at h
    · cases h
    · next hcheck =>
      cases h
      cases change with
      | order id change =>
        simp only [Change.check] at hcheck
        split_ifs at hcheck with hid
        exact .order hid
      | event added change => exact .event (TrackingEvent.mem_of_check (Change.check_event hcheck))
      | hub id change => exact .hub
      | segment id orderId change =>
        simp only [Change.check] at hcheck
        split_ifs at hcheck with hid
        exact .segment hid

end TransportWrite

/-- **A commit inserts an order, changes it or keeps it.** -/
theorem orderCell_steps (id : Uuid) : (orderCell id).Steps orderFlow TransportWrite.apply := by
  intro w d d' h
  cases TransportWrite.commits_of_apply h with
  | insertOrder hfresh hid hnew =>
    subst hid
    exact Cell.step_insert (by simpa using hfresh) (List.forall_mem_singleton.2 hnew)
      (by simp [orderCell]) rfl
  | insertEvent => exact .keep Bool.false_ne_true rfl
  | insertSegment => exact .keep Bool.false_ne_true rfl
  | insertPlan => exact .keep Bool.false_ne_true rfl
  | order hid => exact Cell.step_update hid (fun _ => rfl) Bool.false_ne_true rfl
  | @event added change hid =>
    cases change with
    | none => exact .keep Bool.false_ne_true (ite_self none)
    | some change => exact Cell.step_update hid (fun _ => rfl) Bool.false_ne_true rfl
  | hub => exact .keep Bool.false_ne_true rfl
  | segment => exact .keep Bool.false_ne_true rfl

/-- **A commit inserts a segment, changes it or keeps it.** -/
theorem segmentCell_steps (id : Uuid) :
    (segmentCell id).Steps segmentFlow TransportWrite.apply := by
  intro w d d' h
  cases TransportWrite.commits_of_apply h with
  | insertOrder => exact .keep Bool.false_ne_true rfl
  | insertEvent => exact .keep Bool.false_ne_true rfl
  | insertSegment hfresh hid hnew =>
    subst hid
    exact Cell.step_insert (by simpa using hfresh) (List.forall_mem_singleton.2 hnew)
      (by simp [segmentCell]) rfl
  | @insertPlan now plan segments hfresh =>
    refine Cell.step_insert hfresh (fun row hrow => new_of_mem_segmentRows hrow) ?_ rfl
    rw [map_id_segmentRows]
    rfl
  | order => exact .keep Bool.false_ne_true rfl
  | event => exact .keep Bool.false_ne_true rfl
  | hub => exact .keep Bool.false_ne_true rfl
  | segment hid => exact Cell.step_update hid (fun _ => rfl) Bool.false_ne_true rfl

/-! ### What a change goes by -/

/-- The change of an order that a write makes of a row. -/
inductive ChangesOrder (row : OrderRow) : TransportWrite → OrderChange → Prop
  | move {now : ℤ} {target : TransportStatus} (htarget : target ∈ row.status.transitions) :
      ChangesOrder row (.update (.order row.order.id (moveTo now row target)))
        (moveTo now row target)
  | event {now : ℤ} {added : TrackingEvent} {change : OrderChange}
      (horder : added.transportOrderId = row.order.id)
      (hchange : deliverAt now row added.eventType.value = some change) :
      ChangesOrder row (.update (.event added (some change))) change

theorem TransportWrite.Goes.changesOrder {change : OrderChange} (h : w.Goes d₀ ws)
    (hw : (orderCell id).change? w = some change) : ∃ past d'' row, past <+: ws ∧
      Committed TransportWrite.apply d₀ past d'' ∧ d''.order? id = some row ∧
      ChangesOrder row w change := by
  cases w with
  | update made =>
    obtain ⟨past, d'', now, call, hpast, hd'', hread⟩ := h
    cases WriteCall.changeOf hread with
    | @order row target hrow htarget =>
      obtain ⟨rfl, rfl⟩ := of_ite_eq_some hw
      exact ⟨past, d'', row, hpast, hd'', hrow, .move htarget⟩
    | @event row added hrow horder =>
      simp only [orderCell] at hw
      split_ifs at hw with hid
      rw [hw]
      exact ⟨past, d'', row, hpast, hd'', hid ▸ horder ▸ hrow, .event horder hw⟩
    | hub => cases hw
    | segment => cases hw
  | insertOrder => cases hw
  | insertEvent => cases hw
  | insertSegment => cases hw
  | insertPlan => cases hw

theorem TransportWrite.Goes.changesSegment {change : SegmentChange} (h : w.Goes d₀ ws)
    (hw : (segmentCell id).change? w = some change) : ∃ past d'' row now target, past <+: ws ∧
      Committed TransportWrite.apply d₀ past d'' ∧ d''.segment? id = some row ∧
      target ∈ row.status.transitions ∧ change = segmentMove now target := by
  cases w with
  | update made =>
    obtain ⟨past, d'', now, call, hpast, hd'', hread⟩ := h
    cases WriteCall.changeOf hread with
    | @segment row target hrow htarget =>
      obtain ⟨rfl, rfl⟩ := of_ite_eq_some hw
      exact ⟨past, d'', row, now, target, hpast, hd'', hrow, htarget, rfl⟩
    | order => cases hw
    | event => cases hw
    | hub => cases hw
  | insertOrder => cases hw
  | insertEvent => cases hw
  | insertSegment => cases hw
  | insertPlan => cases hw

/-! ### The orders -/

theorem TrackingEventType.eq_delivered {eventType : TrackingEventType}
    (h : eventType.value = "delivered") : eventType = .delivered := by
  cases eventType with
  | delivered => rfl
  | _ => exact absurd h (by decide)

section Orders

variable (h : History TransportWrite.apply (TransportWrite.Goes d₀) d₀ ws d)
  (h₀ : d₀.transportOrders = [])
include h h₀

theorem order_walk {status : TransportStatus}
    (hstatus : (orderCell id).status? orderFlow d = some status) :
    ∃ trail, trail.Sublist ws ∧ Cell.Walk orderFlow orderCell id trail status := by
  refine Cell.walk h (by simp [orderCell, TrackingDb.order?, h₀]) (orderCell_steps id) ?_ hstatus
  intro ws w change target hgoes hw htarget
  obtain ⟨past, d'', row, hpast, hd'', hrow, hchanges⟩ := hgoes.changesOrder hw
  refine ⟨past, d'', row, hpast, hd'', hrow, ?_⟩
  cases hchanges with
  | move hmem =>
    cases htarget
    exact hmem
  | event _ hdeliver =>
    obtain ⟨-, rfl⟩ := of_ite_eq_some hdeliver
    cases htarget

/-- The pickup time is set by a move to `IN_TRANSIT`. -/
theorem order_pickup_iff : (orderCell id).IsSet OrderRow.actualPickupTime d ↔
    ∃ w ∈ ws, w.givesOrder id = some .inTransit := by
  refine Cell.time_iff (orderCell id) OrderRow.actualPickupTime OrderChange.actualPickupTime h
    (by simp [orderCell, TrackingDb.order?, h₀]) (orderCell_steps id)
    (fun row hnew => hnew.pickup) (fun _ _ _ _ _ _ => rfl) ?_ ?_
  · intro ws w hgoes hgives
    rcases Cell.of_gives_eq_some hgives with ⟨-, hfirst⟩ | ⟨change, hw, hsets⟩
    · cases hfirst
    · obtain ⟨past, d'', row, hpast, hd'', hrow, hchanges⟩ := hgoes.changesOrder hw
      cases hchanges with
      | move =>
        cases hsets
        by_cases hpickup : row.actualPickupTime = none
        · exact .inl ⟨_, hw, by simp [moveTo, hpickup]⟩
        · exact .inr ⟨past, d'', row, hpast, hd'', hrow, Option.isSome_iff_ne_none.2 hpickup⟩
      | event _ hdeliver =>
        obtain ⟨-, rfl⟩ := of_ite_eq_some hdeliver
        cases hsets
  · intro ws w change hgoes hw hsets
    obtain ⟨past, d'', row, -, -, -, hchanges⟩ := hgoes.changesOrder hw
    cases hchanges with
    | @move now target =>
      obtain ⟨time, htime⟩ := Option.isSome_iff_exists.1 hsets
      obtain ⟨⟨rfl, -⟩, -⟩ := of_ite_eq_some htime
      exact Cell.gives_of_change Bool.false_ne_true hw
    | event _ hdeliver =>
      obtain ⟨-, rfl⟩ := of_ite_eq_some hdeliver
      cases hsets

/-- The delivery time is set by a move to `DELIVERED`, and by a delivery event. -/
theorem order_delivery_iff : (orderCell id).IsSet OrderRow.actualDeliveryTime d ↔
    ∃ w ∈ ws, w.Delivers id := by
  refine Cell.time_iff (orderCell id) OrderRow.actualDeliveryTime OrderChange.actualDeliveryTime h
    (by simp [orderCell, TrackingDb.order?, h₀]) (orderCell_steps id)
    (fun row hnew => hnew.delivery) (fun _ _ _ _ _ _ => rfl) ?_ ?_
  · rintro ws w hgoes hdelivers
    cases w with
    | update made =>
      obtain ⟨past, d'', now, call, hpast, hd'', hread⟩ := hgoes
      cases WriteCall.changeOf hread with
      | @order row target hrow htarget =>
        obtain ⟨rfl, hstatus⟩ := hdelivers
        cases hstatus
        exact .inl ⟨_, if_pos rfl, rfl⟩
      | @event row added hrow horder =>
        obtain ⟨rfl, htype⟩ := hdelivers
        by_cases hdelivery : row.actualDeliveryTime = none
        · refine .inl ⟨_, (if_pos rfl).trans (if_pos ⟨?_, hdelivery⟩), rfl⟩
          rw [htype]
          rfl
        · exact .inr ⟨past, d'', row, hpast, hd'', horder ▸ hrow,
            Option.isSome_iff_ne_none.2 hdelivery⟩
      | hub => cases hdelivers
      | segment => cases hdelivers
    | insertOrder => cases hdelivers
    | insertEvent => cases hdelivers
    | insertSegment => cases hdelivers
    | insertPlan => cases hdelivers
  · intro ws w change hgoes hw hsets
    obtain ⟨past, d'', row, -, -, -, hchanges⟩ := hgoes.changesOrder hw
    cases hchanges with
    | @move now target =>
      obtain ⟨time, htime⟩ := Option.isSome_iff_exists.1 hsets
      obtain ⟨rfl, -⟩ := of_ite_eq_some htime
      exact ⟨(of_ite_eq_some hw).1, rfl⟩
    | @event now added change horder hdeliver =>
      obtain ⟨⟨hvalue, -⟩, -⟩ := of_ite_eq_some hdeliver
      exact ⟨(of_ite_eq_some hw).1, TrackingEventType.eq_delivered hvalue⟩

/-- What an order has gone through. -/
def TransportStatus.marks : TransportStatus → List TransportStatus
  | .draft => [.draft]
  | .inTransit => [.draft, .inTransit]
  | .outForDelivery => [.draft, .inTransit, .outForDelivery]
  | .exception => [.draft, .exception]
  | status => [.draft, status]

theorem order_delivered (hstatus : (orderCell id).status? orderFlow d = some .delivered) :
    ([.draft, .inTransit, .outForDelivery, .delivered].map some).Sublist
        (ws.map (TransportWrite.givesOrder id)) ∨
      ([.draft, .exception, .delivered].map some).Sublist
        (ws.map (TransportWrite.givesOrder id)) := by
  obtain ⟨trail, hsub, hwalk⟩ := order_walk h h₀ hstatus
  cases hwalk with
  | create hcreates => cases hcreates.2
  | @move trail w status _ hwalk hmoves =>
    have hmarks := Cell.Walk.marks_move TransportStatus.marks (by decide)
      (fun s => by cases s <;> decide) hwalk hmoves
    have hgiven := hmarks.trans (hsub.map (TransportWrite.givesOrder id))
    have hedge : .delivered ∈ status.transitions := hmoves.2
    cases status with
    | outForDelivery => exact .inl hgiven
    | exception => exact .inr hgiven
    | _ => exact absurd hedge (by decide)

end Orders

/-- **Transport orders in every interleaving of requests**, from no orders at all: the status of an
order is the one that was given last; it is reached along the state machine, so that a delivered
order has been on its way to the door or an exception; and its times are set exactly when a move or
an event has asked for them, whatever has become of the status since. -/
theorem transport_orders_by_history (h₀ : d₀.transportOrders = [])
    (hrun : transportSystem.Run (.init d₀) ls s) (row : OrderRow)
    (hrow : s.db.order? id = some row) :
    lastGiven (TransportWrite.givesOrder id) s.journal = some row.status ∧
      (∃ trail, trail.Sublist s.journal ∧ Cell.Walk orderFlow orderCell id trail row.status) ∧
      (row.status = .delivered →
        ([.draft, .inTransit, .outForDelivery, .delivered].map some).Sublist
            (s.journal.map (TransportWrite.givesOrder id)) ∨
          ([.draft, .exception, .delivered].map some).Sublist
            (s.journal.map (TransportWrite.givesOrder id))) ∧
      (row.actualPickupTime.isSome ↔
        ∃ w ∈ s.journal, w.givesOrder id = some .inTransit) ∧
      (row.actualDeliveryTime.isSome ↔ ∃ w ∈ s.journal, w.Delivers id) := by
  have hhistory := (Uow.sound_run TransportRequest.justified_handler hrun).history
  have hstatus : (orderCell id).status? orderFlow s.db = some row.status :=
    Cell.status?_of_row? hrow
  have hlast : (orderCell id).status? orderFlow s.db =
      lastGiven (TransportWrite.givesOrder id) s.journal :=
    Cell.status_eq hhistory (by simp [orderCell, TrackingDb.order?, h₀]) (orderCell_steps id)
  refine ⟨hlast.symm.trans hstatus, order_walk hhistory h₀ hstatus, fun hdelivered => ?_, ?_, ?_⟩
  · exact order_delivered hhistory h₀ (hdelivered ▸ hstatus)
  · exact (Cell.isSet_iff hrow).symm.trans (order_pickup_iff hhistory h₀)
  · exact (Cell.isSet_iff hrow).symm.trans (order_delivery_iff hhistory h₀)

/-- A request that is taken to its end before another comes in, beside some that wait. -/
def alone (waiting : ℕ) (call : WriteCall) : List (Uow.Label TransportRequest) :=
  [.call (.write 0 call), .step waiting, .step waiting, .step waiting, .step waiting]

/-- An order that is delivered between the reading and the writing of an exception. -/
def exceptionLate : List (Uow.Label TransportRequest) :=
  List.flatten [
    [.call (.createTransportOrder 0 1 2 {}), .step 0, .step 0, .step 0, .step 0],
    alone 0 (.changeTransportStatus (.ofUuid 1) "in_transit"),
    alone 0 (.changeTransportStatus (.ofUuid 1) "out_for_delivery"),
    [.call (.write 0 (.changeTransportStatus (.ofUuid 1) "exception")), .step 0],
    [.call (.write 1 (.changeTransportStatus (.ofUuid 1) "delivered")), .step 1, .step 1, .step 0]]

/-- The order of `exceptionLate` is an exception, with the time of its delivery. -/
theorem transport_orders_by_history_late : ∃ s row,
    transportSystem.Run (.init {}) exceptionLate s ∧ s.db.order? 1 = some row ∧
    row.status = .exception ∧ row.actualDeliveryTime = some 1 ∧
    lastGiven (TransportWrite.givesOrder 1) s.journal = some .exception ∧
    ∃ w ∈ s.journal, w.Delivers 1 := by
  have hread : (Lts.runNext (Uow.State.next TransportWrite.apply TransportRequest.handler)
      (.init {}) exceptionLate).map (fun s => (s.db.order? 1).map fun row =>
        (row.status, row.actualDeliveryTime)) = some (some (.exception, some 1)) := by
    decide +kernel
  obtain ⟨s, hrun, hs⟩ := Lts.exists_run_of_map hread
  obtain ⟨row, hrow, hs⟩ := Option.map_eq_some_iff.1 hs
  obtain ⟨hstatus, hdelivery⟩ := Prod.mk.inj hs
  obtain ⟨hlast, -, -, -, hdelivers⟩ := transport_orders_by_history rfl hrun row hrow
  refine ⟨s, row, hrun, hrow, hstatus, hdelivery, hlast.trans (congrArg some hstatus), ?_⟩
  exact hdelivers.1 (by rw [hdelivery]; rfl)

/-! ### The segments -/

section Segments

variable (h : History TransportWrite.apply (TransportWrite.Goes d₀) d₀ ws d)
  (h₀ : d₀.transportSegments = [])
include h h₀

theorem segment_walk {status : TransportSegmentStatus}
    (hstatus : (segmentCell id).status? segmentFlow d = some status) :
    ∃ trail, trail.Sublist ws ∧ Cell.Walk segmentFlow segmentCell id trail status := by
  refine Cell.walk h (by simp [segmentCell, TrackingDb.segment?, h₀]) (segmentCell_steps id) ?_
    hstatus
  intro ws w change target hgoes hw htarget
  obtain ⟨past, d'', row, now, target, hpast, hd'', hrow, hmem, rfl⟩ := hgoes.changesSegment hw
  cases htarget
  exact ⟨past, d'', row, hpast, hd'', hrow, hmem⟩

/-- A time that is set by the moves to one status. -/
theorem segment_time_iff (time : SegmentRow → Option ℤ) (sets : SegmentChange → Option ℤ)
    (status : TransportSegmentStatus) (hnew : ∀ row : SegmentRow, row.New → time row = none)
    (hwrite : ∀ (change : SegmentChange) row, time (change.write row) = (sets change).or (time row))
    (hsets : ∀ now target, (sets (segmentMove now target)).isSome ↔ target = status)
    (hstatus : status ≠ .draft) :
    (segmentCell id).IsSet time d ↔ ∃ w ∈ ws, w.givesSegment id = some status := by
  refine Cell.time_iff (segmentCell id) time sets h
    (by simp [segmentCell, TrackingDb.segment?, h₀]) (segmentCell_steps id) hnew
    (fun _ _ change row _ _ => hwrite change row) ?_ ?_
  · intro ws w hgoes hgives
    rcases Cell.of_gives_eq_some hgives with ⟨-, hfirst⟩ | ⟨change, hw, hgives⟩
    · exact absurd hfirst hstatus
    · obtain ⟨-, -, -, now, target, -, -, -, -, rfl⟩ := hgoes.changesSegment hw
      exact .inl ⟨_, hw, (hsets now target).2 (Option.some.inj hgives)⟩
  · intro ws w change hgoes hw htime
    obtain ⟨-, -, -, now, target, -, -, -, -, rfl⟩ := hgoes.changesSegment hw
    obtain rfl := (hsets now target).1 htime
    refine Cell.gives_of_change ?_ hw
    cases w with
    | update => exact Bool.false_ne_true
    | _ => cases hw

end Segments

/-- What a segment has gone through. -/
def TransportSegmentStatus.marks : TransportSegmentStatus → List TransportSegmentStatus
  | .draft => [.draft]
  | .dispatched => [.draft, .dispatched]
  | .pickup => [.draft, .dispatched, .pickup]
  | .inTransit => [.draft, .dispatched, .pickup, .inTransit]
  | .outForDelivery => [.draft, .dispatched, .pickup, .inTransit, .outForDelivery]
  | .completed => [.draft, .dispatched, .pickup, .inTransit, .outForDelivery, .completed]
  | .transitHubArrived => [.draft, .dispatched, .pickup, .inTransit, .transitHubArrived]
  | .sortingCenter =>
    [.draft, .dispatched, .pickup, .inTransit, .transitHubArrived, .sortingCenter]
  | .exception => [.draft, .dispatched, .pickup, .exception]
  | .cancelled => [.draft, .cancelled]

/-- **Segments in every interleaving of requests**, from no segments at all: the status of a segment
is the one that was given last; it is reached along the state machine, and what the machine does not
go round was given on the way, in this order; the departure is set exactly when the segment was
dispatched at some time, the arrival when it was completed, whatever has become of it since. -/
theorem transport_segments_by_history (h₀ : d₀.transportSegments = [])
    (hrun : transportSystem.Run (.init d₀) ls s) (row : SegmentRow)
    (hrow : s.db.segment? id = some row) :
    lastGiven (TransportWrite.givesSegment id) s.journal = some row.status ∧
      (∃ trail, trail.Sublist s.journal ∧
        Cell.Walk segmentFlow segmentCell id trail row.status) ∧
      (row.status.marks.map some).Sublist (s.journal.map (TransportWrite.givesSegment id)) ∧
      (row.actualDepartureTime.isSome ↔
        ∃ w ∈ s.journal, w.givesSegment id = some .dispatched) ∧
      (row.actualArrivalTime.isSome ↔
        ∃ w ∈ s.journal, w.givesSegment id = some .completed) := by
  have hhistory := (Uow.sound_run TransportRequest.justified_handler hrun).history
  have hstatus : (segmentCell id).status? segmentFlow s.db = some row.status :=
    Cell.status?_of_row? hrow
  have hlast : (segmentCell id).status? segmentFlow s.db =
      lastGiven (TransportWrite.givesSegment id) s.journal :=
    Cell.status_eq hhistory (by simp [segmentCell, TrackingDb.segment?, h₀]) (segmentCell_steps id)
  obtain ⟨trail, hsub, hwalk⟩ := segment_walk hhistory h₀ hstatus
  refine ⟨hlast.symm.trans hstatus, ⟨trail, hsub, hwalk⟩, ?_, ?_, ?_⟩
  · have hmarks := Cell.Walk.marks_sublist TransportSegmentStatus.marks (by decide)
      (fun s => by cases s <;> decide) hwalk
    exact hmarks.trans (hsub.map (TransportWrite.givesSegment id))
  · exact (Cell.isSet_iff hrow).symm.trans (segment_time_iff hhistory h₀
      SegmentRow.actualDepartureTime SegmentChange.actualDepartureTime .dispatched
      (fun row hnew => hnew.departure) (fun _ _ => rfl) (by simp [segmentMove]) (by decide))
  · exact (Cell.isSet_iff hrow).symm.trans (segment_time_iff hhistory h₀
      SegmentRow.actualArrivalTime SegmentChange.actualArrivalTime .completed
      (fun row hnew => hnew.arrival) (fun _ _ => rfl) (by simp [segmentMove]) (by decide))

/-- A segment that is completed between the reading and the writing of a second dispatch. -/
def dispatchLate : List (Uow.Label TransportRequest) :=
  List.flatten [
    [.call (.createTransportOrder 0 1 2 {}), .step 0, .step 0, .step 0, .step 0],
    [.call (.createSegment 0 3 { transportOrderId := .ofUuid 1 }), .step 0, .step 0, .step 0],
    [.call (.write 1 (.updateSegmentStatus (.ofUuid 3) "dispatched")), .step 0],
    ["dispatched", "pickup", "in_transit", "out_for_delivery", "completed"].flatMap
      fun status => alone 1 (.updateSegmentStatus (.ofUuid 3) status),
    [.step 0]]

/-- The segment of `dispatchLate` stands as dispatched once more, with the time of its arrival. -/
theorem transport_segments_by_history_late : ∃ s row,
    transportSystem.Run (.init {}) dispatchLate s ∧ s.db.segment? 3 = some row ∧
    row.status = .dispatched ∧ row.actualArrivalTime = some 0 ∧
    lastGiven (TransportWrite.givesSegment 3) s.journal = some .dispatched ∧
    ∃ w ∈ s.journal, w.givesSegment 3 = some .completed := by
  have hread : (Lts.runNext (Uow.State.next TransportWrite.apply TransportRequest.handler)
      (.init {}) dispatchLate).map (fun s => (s.db.segment? 3).map fun row =>
        (row.status, row.actualArrivalTime)) = some (some (.dispatched, some 0)) := by
    decide +kernel
  obtain ⟨s, hrun, hs⟩ := Lts.exists_run_of_map hread
  obtain ⟨row, hrow, hs⟩ := Option.map_eq_some_iff.1 hs
  obtain ⟨hstatus, harrival⟩ := Prod.mk.inj hs
  obtain ⟨hlast, -, -, -, hcompleted⟩ := transport_segments_by_history rfl hrun row hrow
  refine ⟨s, row, hrun, hrow, hstatus, harrival, hlast.trans (congrArg some hstatus), ?_⟩
  exact hcompleted.1 (by rw [harrival]; rfl)

end Tms

end OmsWmsTms
