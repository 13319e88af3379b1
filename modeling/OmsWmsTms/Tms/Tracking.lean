import OmsWmsTms.Data.Rows
import OmsWmsTms.Tms.Services

/-!
# The services that move transport orders, segments and hubs

`change_transport_status`, `create_tracking_event`, `update_hub` and `update_segment_status` of
`src/tms/service.py`.  A service reads its row, and the `UPDATE` of its commit sets the columns that
it has changed, in the row as it is by then.

* `TrackingDb` : the tables.
* `TransportStatus.transitions`, `TransportSegmentStatus.transitions` : the state machines.
* `Change` : what a commit writes; `Change.apply` : the database after it.
* `WriteCall.read` : the change of a call, or its exception.
-/

namespace OmsWmsTms

namespace Tms

/-- `Enum(value)`, for an enumeration with its members and their values. -/
def enumOf {E : Type} (members : List E) (value : E → String) (text : String) : Except TmsError E :=
  match members.find? fun member => value member = text with
  | some member => .ok member
  | none => .error .valueError

theorem enumOf_eq_ok {E : Type} {members : List E} {value : E → String} {text : String} {member : E}
    (h : enumOf members value text = .ok member) : value member = text := by
  unfold enumOf at h
  split at h
  next member' hfind =>
    cases h
    simpa using List.find?_some hfind
  next => cases h

/-- `uuid.UUID(data[key]) if data.get(key) else None`. -/
def readId (id : Option IdArg) : Except TmsError (Option Uuid) :=
  match id with
  | none => .ok none
  | some id =>
    if id.text = "" then .ok none
    else match id.uuid? with
      | some id => .ok (some id)
      | none => .error .valueError

/-! ### Transport orders -/

/-- `TransportStatus`. -/
inductive TransportStatus
  | draft | dispatched | pickupCompleted | inTransit | outForDelivery | delivered | exception
  | cancelled
deriving DecidableEq

namespace TransportStatus

/-- The members, in the order of their definition. -/
def members : List TransportStatus :=
  [draft, dispatched, pickupCompleted, inTransit, outForDelivery, delivered, exception, cancelled]

/-- `status.value`. -/
def value : TransportStatus → String
  | draft => "draft"
  | dispatched => "dispatched"
  | pickupCompleted => "pickup_completed"
  | inTransit => "in_transit"
  | outForDelivery => "out_for_delivery"
  | delivered => "delivered"
  | exception => "exception"
  | cancelled => "cancelled"

/-- `TransportStatus(value)`. -/
def ofValue : String → Except TmsError TransportStatus := enumOf members value

/-- `_transport_status_transitions`. -/
def transitions : TransportStatus → List TransportStatus
  | draft => [dispatched, inTransit, cancelled]
  | dispatched => [pickupCompleted, inTransit, cancelled]
  | pickupCompleted => [inTransit, exception]
  | inTransit => [outForDelivery, exception]
  | outForDelivery => [delivered, exception]
  | delivered => []
  | exception => [dispatched, delivered, cancelled]
  | cancelled => []

end TransportStatus

/-- A row of `transport_orders`. -/
structure OrderRow where
  /-- The columns that are set when the order is created. -/
  order : TransportOrder
  status : TransportStatus := .draft
  actualPickupTime : Option ℤ := none
  actualDeliveryTime : Option ℤ := none
  updatedAt : ℤ
deriving DecidableEq

/-- The columns that a commit sets in a row of `transport_orders`. -/
structure OrderChange where
  status : Option TransportStatus := none
  actualPickupTime : Option ℤ := none
  actualDeliveryTime : Option ℤ := none
  updatedAt : ℤ
deriving DecidableEq

/-- The row after the `UPDATE`. -/
def OrderChange.write (change : OrderChange) (row : OrderRow) : OrderRow where
  order := row.order
  status := change.status.getD row.status
  actualPickupTime := change.actualPickupTime.or row.actualPickupTime
  actualDeliveryTime := change.actualDeliveryTime.or row.actualDeliveryTime
  updatedAt := change.updatedAt

/-- `TrackingEventType`. -/
inductive TrackingEventType
  | created | dispatched | pickupCompleted | inTransit | arrivedHub | sortingCenter | outForDelivery
  | delivered | exceptionDelay | exceptionDamaged | cancelled
deriving DecidableEq

namespace TrackingEventType

/-- The members, in the order of their definition. -/
def members : List TrackingEventType :=
  [created, dispatched, pickupCompleted, inTransit, arrivedHub, sortingCenter, outForDelivery,
    delivered, exceptionDelay, exceptionDamaged, cancelled]

/-- `event_type.value`. -/
def value : TrackingEventType → String
  | created => "created"
  | dispatched => "dispatched"
  | pickupCompleted => "pickup_completed"
  | inTransit => "in_transit"
  | arrivedHub => "arrived_hub"
  | sortingCenter => "sorting_center"
  | outForDelivery => "out_for_delivery"
  | delivered => "delivered"
  | exceptionDelay => "exception_delay"
  | exceptionDamaged => "exception_damaged"
  | cancelled => "cancelled"

/-- `TrackingEventType(value)`. -/
def ofValue : String → Except TmsError TrackingEventType := enumOf members value

end TrackingEventType

/-- A row of `tracking_events`. -/
structure TrackingEvent where
  id : Uuid
  transportOrderId : Uuid
  eventType : TrackingEventType
  locationCode : Option String
  locationName : Option String
  latitude : Option ℚ
  longitude : Option ℚ
  operatorId : Option Uuid
  remark : Option String
deriving DecidableEq

/-! ### Transfer hubs -/

/-- A row of `transfer_hubs`. -/
structure HubRow where
  id : Uuid
  code : String
  name : String
  hubType : TransferHubType
  city : String
  /-- The address document. -/
  address : Option String := none
  capacityWeightKg : Numeric 20 4
  contactName : Option String := none
  contactPhone : Option String := none
  status : HubStatus
  updatedAt : ℤ
deriving DecidableEq

/-- The columns that a commit sets in a row of `transfer_hubs`. -/
structure HubChange where
  name : Option String := none
  hubType : Option TransferHubType := none
  city : Option String := none
  address : Option String := none
  capacityWeightKg : Option (Numeric 20 4) := none
  contactName : Option String := none
  contactPhone : Option String := none
  status : Option HubStatus := none
  updatedAt : ℤ
deriving DecidableEq

/-- The row after the `UPDATE`. -/
def HubChange.write (change : HubChange) (row : HubRow) : HubRow where
  id := row.id
  code := row.code
  name := change.name.getD row.name
  hubType := change.hubType.getD row.hubType
  city := change.city.getD row.city
  address := change.address.or row.address
  capacityWeightKg := change.capacityWeightKg.getD row.capacityWeightKg
  contactName := change.contactName.or row.contactName
  contactPhone := change.contactPhone.or row.contactPhone
  status := change.status.getD row.status
  updatedAt := change.updatedAt

/-! ### Segments -/

/-- `TransportSegmentStatus`. -/
inductive TransportSegmentStatus
  | draft | dispatched | pickup | inTransit | transitHubArrived | sortingCenter | outForDelivery
  | completed | exception | cancelled
deriving DecidableEq

namespace TransportSegmentStatus

/-- The members, in the order of their definition. -/
def members : List TransportSegmentStatus :=
  [draft, dispatched, pickup, inTransit, transitHubArrived, sortingCenter, outForDelivery,
    completed,
    exception, cancelled]

/-- `status.value`. -/
def value : TransportSegmentStatus → String
  | draft => "draft"
  | dispatched => "dispatched"
  | pickup => "pickup"
  | inTransit => "in_transit"
  | transitHubArrived => "transit_hub_arrived"
  | sortingCenter => "sorting_center"
  | outForDelivery => "out_for_delivery"
  | completed => "completed"
  | exception => "exception"
  | cancelled => "cancelled"

/-- `TransportSegmentStatus(value)`. -/
def ofValue : String → Except TmsError TransportSegmentStatus := enumOf members value

/-- `valid_transitions`. -/
def transitions : TransportSegmentStatus → List TransportSegmentStatus
  | draft => [dispatched, cancelled]
  | dispatched => [pickup, cancelled]
  | pickup => [inTransit, exception]
  | inTransit => [transitHubArrived, outForDelivery, exception]
  | transitHubArrived => [sortingCenter, inTransit, exception]
  | sortingCenter => [inTransit, exception]
  | outForDelivery => [completed, exception]
  | completed => []
  | exception => [cancelled]
  | cancelled => []

end TransportSegmentStatus

/-- The columns of a segment that are set when it is created. -/
structure SegmentColumns where
  transportOrderId : Uuid
  segmentNo : ℕ
  originHubCode : Option String := none
  destHubCode : Option String := none
deriving DecidableEq

/-- The columns of a segment of a plan. -/
def TransportSegment.columns (segment : TransportSegment) : SegmentColumns where
  transportOrderId := segment.transportOrderId
  segmentNo := segment.segmentNo
  originHubCode := some segment.originHubCode
  destHubCode := some segment.destHubCode

/-- A row of `transport_segments`. -/
structure SegmentRow where
  id : Uuid
  segment : SegmentColumns
  status : TransportSegmentStatus := .draft
  actualDepartureTime : Option ℤ := none
  actualArrivalTime : Option ℤ := none
  updatedAt : ℤ
deriving DecidableEq

/-- The columns that a commit sets in a row of `transport_segments`. -/
structure SegmentChange where
  status : TransportSegmentStatus
  actualDepartureTime : Option ℤ := none
  actualArrivalTime : Option ℤ := none
  updatedAt : ℤ
deriving DecidableEq

/-- The row after the `UPDATE`. -/
def SegmentChange.write (change : SegmentChange) (row : SegmentRow) : SegmentRow where
  id := row.id
  segment := row.segment
  status := change.status
  actualDepartureTime := change.actualDepartureTime.or row.actualDepartureTime
  actualArrivalTime := change.actualArrivalTime.or row.actualArrivalTime
  updatedAt := change.updatedAt

/-! ### The database and its changes -/

/-- The tables. -/
structure TrackingDb where
  transportOrders : List OrderRow := []
  trackingEvents : List TrackingEvent := []
  transferHubs : List HubRow := []
  routePlans : List RoutePlan := []
  transportSegments : List SegmentRow := []
deriving DecidableEq

namespace TrackingDb

/-- The transport order of an identifier. -/
def order? (db : TrackingDb) (id : Uuid) : Option OrderRow :=
  db.transportOrders.find? (·.order.id = id)

/-- The hub of an identifier. -/
def hub? (db : TrackingDb) (id : Uuid) : Option HubRow := db.transferHubs.find? (·.id = id)

/-- The plan of an identifier. -/
def plan? (db : TrackingDb) (id : Uuid) : Option RoutePlan := db.routePlans.find? (·.id = id)

/-- The segment of an identifier. -/
def segment? (db : TrackingDb) (id : Uuid) : Option SegmentRow :=
  db.transportSegments.find? (·.id = id)

/-- The segments of a transport order, by their position. -/
def segmentsOf (db : TrackingDb) (orderId : Uuid) : List SegmentRow :=
  orderBy (fun row row' : SegmentRow => row.segment.segmentNo ≤ row'.segment.segmentNo)
    (db.transportSegments.filter (·.segment.transportOrderId = orderId))

end TrackingDb

/-- What the commit of a service writes. -/
inductive Change
  | order (id : Uuid) (change : OrderChange)
  /-- A new event, and what it changes in its order. -/
  | event (added : TrackingEvent) (change : Option OrderChange)
  | hub (id : Uuid) (change : HubChange)
  /-- A segment of a transport order. -/
  | segment (id orderId : Uuid) (change : SegmentChange)
deriving DecidableEq

/-- The database after a commit. -/
def Change.apply (db : TrackingDb) : Change → TrackingDb
  | .order id change => { db with
      transportOrders := updateRows (·.order.id) id change.write db.transportOrders }
  | .event added change => { db with
      trackingEvents := db.trackingEvents ++ [added]
      transportOrders := change.elim db.transportOrders fun change =>
        updateRows (·.order.id) added.transportOrderId change.write db.transportOrders }
  | .hub id change => { db with
      transferHubs := updateRows (·.id) id change.write db.transferHubs }
  | .segment id _ change => { db with
      transportSegments := updateRows (·.id) id change.write db.transportSegments }

/-! ### The services -/

/-- The payload of `create_tracking_event`. -/
structure TrackingEventCreate where
  transportOrderId : IdArg
  eventType : String
  locationCode : Option String := none
  locationName : Option String := none
  latitude : Option ℚ := none
  longitude : Option ℚ := none
  operatorId : Option IdArg := none
  remark : Option String := none
deriving DecidableEq

/-- The payload of `update_hub`. -/
structure HubEdit extends HubUpdate where
  address : Option String := none
  contactName : Option String := none
  contactPhone : Option String := none

namespace TrackingDb

/-- `change_transport_status`, up to its commit. -/
def changeTransportStatus (db : TrackingDb) (now : ℤ) (orderId : IdArg) (newStatus : String) :
    Except TmsError Change :=
  match orderId.uuid?.bind db.order? with
  | none => throw (.notFound s!"TransportOrder {orderId.text} not found")
  | some row => do
    let target ← TransportStatus.ofValue newStatus
    if target ∈ row.status.transitions then
      return .order row.order.id {
        status := some target
        updatedAt := now
        actualPickupTime :=
          if target = .inTransit ∧ row.actualPickupTime = none then some now else none
        actualDeliveryTime := if target = .delivered then some now else none }
    else
      throw (.validation
        s!"Cannot transition transport order from {row.status.value} to {target.value}")

/-- `create_tracking_event`, up to its commit. -/
def createTrackingEvent (db : TrackingDb) (now : ℤ) (newId : Uuid) (data : TrackingEventCreate) :
    Except TmsError Change :=
  match data.transportOrderId.uuid?.bind db.order? with
  | none => throw (.notFound s!"TransportOrder {data.transportOrderId.text} not found")
  | some row => do
    let eventType ← TrackingEventType.ofValue data.eventType
    let operatorId ← readId data.operatorId
    return .event {
        id := newId
        transportOrderId := row.order.id
        eventType := eventType
        locationCode := data.locationCode
        locationName := data.locationName
        latitude := data.latitude
        longitude := data.longitude
        operatorId := operatorId
        remark := data.remark }
      -- an `UPDATE` of the order sets its `updated_at` as well
      (if data.eventType = "delivered" ∧ row.actualDeliveryTime = none then
        some { actualDeliveryTime := some now, updatedAt := now }
      else none)

/-- `update_hub`, up to its commit. -/
def updateHub (db : TrackingDb) (now : ℤ) (hubId : IdArg) (data : HubEdit) :
    Except TmsError Change :=
  match hubId.uuid?.bind db.hub? with
  | none => throw (.notFound s!"Hub {hubId.text} not found")
  | some row => do
    let name ← data.name.mapM (storeText 200)
    let hubType ← data.hubType.mapM TransferHubType.ofValue
    let city ← data.city.mapM (storeText 100)
    let capacity ← data.capacityWeightKg.mapM store
    let contactName ← data.contactName.mapM (storeText 100)
    let contactPhone ← data.contactPhone.mapM (storeText 30)
    let status ← data.status.mapM HubStatus.ofValue
    -- a column that is set to the value it has is not in the `UPDATE`
    return .hub row.id {
      name := name.filter (· ≠ row.name)
      hubType := hubType.filter (· ≠ row.hubType)
      city := city.filter (· ≠ row.city)
      address := data.address.filter (some · ≠ row.address)
      capacityWeightKg := capacity.filter (· ≠ row.capacityWeightKg)
      contactName := contactName.filter (some · ≠ row.contactName)
      contactPhone := contactPhone.filter (some · ≠ row.contactPhone)
      status := status.filter (· ≠ row.status)
      updatedAt := now }

/-- `update_segment_status`, up to its commit. -/
def updateSegmentStatus (db : TrackingDb) (now : ℤ) (segId : IdArg) (status : String) :
    Except TmsError Change :=
  match segId.uuid?.bind db.segment? with
  | none => throw (.notFound s!"Segment {segId.text} not found")
  | some row => do
    let newStatus ← TransportSegmentStatus.ofValue status
    if newStatus ∈ row.status.transitions then
      return .segment row.id row.segment.transportOrderId {
        status := newStatus
        updatedAt := now
        actualDepartureTime := if newStatus = .dispatched then some now else none
        actualArrivalTime := if newStatus = .completed then some now else none }
    else
      throw (.validation
        s!"Cannot transition segment from {row.status.value} to {newStatus.value}")

end TrackingDb

/-- A call of one of the services. -/
inductive WriteCall
  | changeTransportStatus (orderId : IdArg) (newStatus : String)
  | createTrackingEvent (newId : Uuid) (data : TrackingEventCreate)
  | updateHub (hubId : IdArg) (data : HubEdit)
  | updateSegmentStatus (segId : IdArg) (status : String)

/-- What a call has read, as the change that it will commit. -/
def WriteCall.read (db : TrackingDb) (now : ℤ) : WriteCall → Except TmsError Change
  | .changeTransportStatus orderId newStatus => db.changeTransportStatus now orderId newStatus
  | .createTrackingEvent newId data => db.createTrackingEvent now newId data
  | .updateHub hubId data => db.updateHub now hubId data
  | .updateSegmentStatus segId status => db.updateSegmentStatus now segId status

end Tms

end OmsWmsTms
