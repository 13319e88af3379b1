import OmsWmsTms.Control.Except
import OmsWmsTms.Core.Clock
import OmsWmsTms.Core.Errors
import OmsWmsTms.Lts.Basic
import OmsWmsTms.Tms.Tracking

/-!
# The times of a transport order

`create_transport_order`, `change_transport_status` and `create_tracking_event` of
`src/tms/service.py`, one call after another.  The delivery time is set by the status machine and,
on its own, by a tracking event; the pickup time only by a move to `IN_TRANSIT`.

* `TrackingDb.createTransportOrder` : the service that inserts an order.
* `OrderCall.run`, `orderSystem` : the calls.
* `OrderRow.TimesMatch` : the times of an order match its status.
* `Timely` : a delivery finds the time of the pickup, and a delivery event finds the delivery.
* `timesMatch_iff` : the runs in which the times match.
-/

namespace OmsWmsTms

namespace Tms

/-! ### `create_transport_order` -/

/-- `CarrierServiceType`. -/
inductive CarrierServiceType
  | standard | express | overnight | freight
deriving DecidableEq

/-- `CarrierServiceType(value)`. -/
def CarrierServiceType.ofValue : String → Except TmsError CarrierServiceType
  | "standard" => .ok standard
  | "express" => .ok express
  | "overnight" => .ok overnight
  | "freight" => .ok freight
  | _ => .error .valueError

/-- `TransportType`. -/
inductive TransportType
  | selfDelivery | carrierPickup | dropOff
deriving DecidableEq

/-- `TransportType(value)`. -/
def TransportType.ofValue : String → Except TmsError TransportType
  | "self_delivery" => .ok selfDelivery
  | "carrier_pickup" => .ok carrierPickup
  | "drop_off" => .ok dropOff
  | _ => .error .valueError

/-- The payload of `create_transport_order`. -/
structure OrderForm extends TransportOrderCreate where
  carrierCode : Option String := none
  pickupWarehouseId : Option IdArg := none
  deliveryName : Option String := some "Unknown"
  deliveryPhone : Option String := none
  shipmentId : Option IdArg := none
  packingRecordId : Option IdArg := none
  packageCount : ℤ := 1
  totalVolumeM3 : ℚ := 0
  serviceType : String := "standard"
  transportType : String := "carrier_pickup"
  driverName : Option String := none
  driverPhone : Option String := none

/-- An `Integer` column takes the number. -/
def checkInteger (n : ℤ) : Except TmsError Unit :=
  if FitsInteger n then .ok () else .error .dataError

namespace TrackingDb

/-- The row that `create_transport_order` inserts.  Of the other columns only the checks are kept:
no service reads them here.  Whether the rows that it refers to are there, and its random number is
free, is known when the commit is taken. -/
def createTransportOrder (db : TrackingDb) (now : ℤ) (newId : Uuid) (data : OrderForm) :
    Except TmsError OrderRow := do
  let _ ← (data.carrierCode.filter (· ≠ "")).mapM CarrierCode.ofValue
  let _ ← readId data.pickupWarehouseId
  let _ ← readId data.shipmentId
  let _ ← readId data.packingRecordId
  let _ ← CarrierServiceType.ofValue data.serviceType
  let _ ← TransportType.ofValue data.transportType
  let _ ← checkInteger data.packageCount
  let weight ← store data.totalWeightKg
  let _ ← (store data.totalVolumeM3 : Except TmsError (Numeric 20 6))
  let _ ← data.deliveryPhone.mapM (storeText 30)
  let _ ← data.driverName.mapM (storeText 100)
  let _ ← data.driverPhone.mapM (storeText 30)
  match data.deliveryName with
  | none => throw .integrityError
  | some deliveryName =>
    let _ ← storeText 200 deliveryName
    if newId ∈ db.transportOrders.map (·.order.id) then throw .integrityError
    else return {
      order := ⟨newId, data.pickupAddress, data.deliveryAddress, some weight⟩
      updatedAt := now }

/-- The event of a new order, in a commit of its own; an order without a pickup address has none,
because its `.get` raises. -/
def createdEvent (eventId : Uuid) (row : OrderRow) : Option TrackingEvent :=
  row.order.pickupAddress.map fun address => {
    id := eventId
    transportOrderId := row.order.id
    eventType := .created
    locationCode := none
    locationName := some (match address.city with
      | none | some "" => "Warehouse"
      | some city => city)
    latitude := none
    longitude := none
    operatorId := none
    remark := none }

end TrackingDb

/-! ### Runs -/

/-- A call. -/
inductive OrderCall
  /-- With the identifiers of the order and of its event, and whether the database takes the
  event. -/
  | createTransportOrder (newId eventId : Uuid) (data : OrderForm) (eventCommitted : Bool)
  | changeTransportStatus (orderId : IdArg) (newStatus : String)
  | createTrackingEvent (newId : Uuid) (data : TrackingEventCreate)

/-- The database after a call whose commit is taken. -/
def OrderCall.run (db : TrackingDb) (now : ℤ) : OrderCall → Except TmsError TrackingDb
  | .createTransportOrder newId eventId data eventCommitted => do
    let row ← db.createTransportOrder now newId data
    return { db with
      transportOrders := db.transportOrders ++ [row]
      trackingEvents := db.trackingEvents ++
        (if eventCommitted then (TrackingDb.createdEvent eventId row).toList else []) }
  | .changeTransportStatus orderId newStatus =>
    (Change.apply db) <$> db.changeTransportStatus now orderId newStatus
  | .createTrackingEvent newId data =>
    (Change.apply db) <$> db.createTrackingEvent now newId data

/-- A call at a time. -/
structure OrderLabel where
  now : ℤ
  call : OrderCall
  /-- The database takes the commit. -/
  committed : Bool := true

/-- The database, and the time of the last call. -/
structure OrderTimes where
  db : TrackingDb := {}
  clock : ℤ

/-- A call, at a time that does not go back.  A call that raises is rolled back. -/
def OrderTimes.next (s : OrderTimes) (label : OrderLabel) : Option OrderTimes :=
  if s.clock ≤ label.now then
    some {
      clock := label.now
      db := match label.call.run s.db label.now with
        | .ok db => if label.committed then db else s.db
        | .error _ => s.db }
  else none

/-- The runs of the three services. -/
def orderSystem : Lts OrderTimes OrderLabel := Lts.ofNext OrderTimes.next

/-- The delivery time is set exactly for a delivered order, whose pickup time is set and not
later. -/
structure OrderRow.TimesMatch (row : OrderRow) : Prop where
  delivered : row.actualDeliveryTime.isSome ↔ row.status = .delivered
  pickedUp : row.status = .delivered → ∃ pickup ∈ row.actualPickupTime,
    ∃ delivery ∈ row.actualDeliveryTime, pickup ≤ delivery

/-- The times of every order match its status. -/
def TrackingDb.TimesMatch (db : TrackingDb) : Prop := ∀ row ∈ db.transportOrders, row.TimesMatch

/-- A move to `DELIVERED` finds the pickup time set, and an event `delivered` finds its order
`DELIVERED`. -/
def Timely (s : OrderTimes) (label : OrderLabel) : Prop :=
  label.committed → match label.call with
  | .createTransportOrder .. => True
  | .changeTransportStatus orderId newStatus =>
    newStatus = "delivered" → ∀ row ∈ orderId.uuid?.bind s.db.order?,
      .delivered ∈ row.status.transitions → row.actualPickupTime.isSome
  | .createTrackingEvent _ data =>
    data.eventType = "delivered" → (readId data.operatorId).isOk →
      ∀ row ∈ data.transportOrderId.uuid?.bind s.db.order?, row.status = .delivered

/-! ### What a call writes -/

/-- The columns of a move along the status machine. -/
def moveTo (now : ℤ) (row : OrderRow) (target : TransportStatus) : OrderChange where
  status := some target
  actualPickupTime := if target = .inTransit ∧ row.actualPickupTime = none then some now else none
  actualDeliveryTime := if target = .delivered then some now else none
  updatedAt := now

/-- The columns of a delivery event, when the delivery has no time. -/
def deliverAt (now : ℤ) (row : OrderRow) (eventType : String) : Option OrderChange :=
  if eventType = "delivered" ∧ row.actualDeliveryTime = none then
    some { actualDeliveryTime := some now, updatedAt := now }
  else none

namespace TrackingDb

variable {db : TrackingDb} {now : ℤ} {row : OrderRow} {change : Change}

theorem mem_of_order? {id : IdArg} (h : id.uuid?.bind db.order? = some row) :
    row ∈ db.transportOrders := by
  obtain ⟨i, -, hfind⟩ := Option.bind_eq_some_iff.1 h
  exact List.mem_of_find?_eq_some hfind

theorem createTransportOrder_eq_ok {newId : Uuid} {data : OrderForm}
    (h : db.createTransportOrder now newId data = .ok row) :
    newId ∉ db.transportOrders.map (·.order.id) ∧ row.order.id = newId ∧ row.status = .draft ∧
      row.actualPickupTime = none ∧ row.actualDeliveryTime = none := by
  unfold TrackingDb.createTransportOrder at h
  iterate 12
    obtain ⟨_, -, h⟩ := bind_eq_ok_iff.1 h
  split at h
  next => cases h
  next deliveryName =>
    obtain ⟨_, -, h⟩ := bind_eq_ok_iff.1 h
    split_ifs at h with hid
    cases h
    exact ⟨hid, rfl, rfl, rfl, rfl⟩

/-- `change_transport_status` moves its order along the status machine. -/
theorem changeTransportStatus_eq_ok_iff {orderId : IdArg} {newStatus : String} :
    db.changeTransportStatus now orderId newStatus = .ok change ↔
      ∃ row target, orderId.uuid?.bind db.order? = some row ∧
        TransportStatus.ofValue newStatus = .ok target ∧ target ∈ row.status.transitions ∧
        .order row.order.id (moveTo now row target) = change := by
  unfold TrackingDb.changeTransportStatus
  cases orderId.uuid?.bind db.order? with
  | none => simp [throw, throwThe, MonadExceptOf.throw]
  | some row =>
    simp only [bind_eq_ok_iff]
    constructor
    · rintro ⟨target, htarget, h⟩
      by_cases hmem : target ∈ row.status.transitions
      · rw [if_pos hmem] at h
        cases h
        exact ⟨row, target, rfl, htarget, hmem, rfl⟩
      · rw [if_neg hmem] at h
        cases h
    · rintro ⟨row', target, hrow, htarget, hmem, rfl⟩
      cases hrow
      refine ⟨target, htarget, ?_⟩
      rw [if_pos hmem]
      rfl

/-- `create_tracking_event` adds an event of its order. -/
theorem createTrackingEvent_eq_ok_iff {newId : Uuid} {data : TrackingEventCreate} :
    db.createTrackingEvent now newId data = .ok change ↔
      ∃ row eventType operatorId, data.transportOrderId.uuid?.bind db.order? = some row ∧
        TrackingEventType.ofValue data.eventType = .ok eventType ∧
        readId data.operatorId = .ok operatorId ∧
        .event ⟨newId, row.order.id, eventType, data.locationCode, data.locationName,
          data.latitude, data.longitude, operatorId, data.remark⟩
          (deliverAt now row data.eventType) = change := by
  unfold TrackingDb.createTrackingEvent
  cases data.transportOrderId.uuid?.bind db.order? with
  | none => simp [throw, throwThe, MonadExceptOf.throw]
  | some row =>
    simp only [bind_eq_ok_iff]
    constructor
    · rintro ⟨eventType, htype, operatorId, hoperator, h⟩
      cases h
      exact ⟨row, eventType, operatorId, rfl, htype, hoperator, rfl⟩
    · rintro ⟨row', eventType, operatorId, hrow, htype, hoperator, rfl⟩
      cases hrow
      exact ⟨eventType, htype, operatorId, hoperator, rfl⟩

end TrackingDb

/-! ### One order -/

namespace OrderRow

variable {row : OrderRow} {now : ℤ}

@[simp] theorem id_write (change : OrderChange) : (change.write row).order.id = row.order.id := rfl

/-- A move keeps the times in order unless it delivers what was not picked up. -/
theorem timesMatch_moveTo_iff (h : row.TimesMatch) (hclock : ∀ pickup ∈ row.actualPickupTime,
    pickup ≤ now) {target : TransportStatus} (htarget : target ∈ row.status.transitions) :
    ((moveTo now row target).write row).TimesMatch ↔
      (target = .delivered → row.actualPickupTime.isSome) := by
  -- a delivered order does not move
  have hnot : row.status ≠ .delivered := by
    intro hstatus
    simp [hstatus, TransportStatus.transitions] at htarget
  have hnone : row.actualDeliveryTime = none := by
    rw [← Option.not_isSome_iff_eq_none, h.delivered]
    exact hnot
  by_cases hdelivered : target = .delivered
  · subst hdelivered
    constructor
    · intro hmatch _
      obtain ⟨pickup, hpickup, -⟩ := hmatch.pickedUp rfl
      have hsame : row.actualPickupTime = some pickup := by
        simpa [moveTo, OrderChange.write] using hpickup
      rw [hsame]
      rfl
    · intro hpickup
      obtain ⟨pickup, hpickup⟩ := Option.isSome_iff_exists.1 (hpickup rfl)
      refine ⟨by simp [moveTo, OrderChange.write], fun _ => ⟨pickup, ?_, now, ?_, ?_⟩⟩
      · simp [moveTo, OrderChange.write, hpickup]
      · simp [moveTo, OrderChange.write]
      · exact hclock pickup hpickup
  · refine iff_of_true ⟨?_, fun hstatus => ?_⟩ fun hstatus => absurd hstatus hdelivered
    · simp [moveTo, OrderChange.write, hdelivered, hnone]
    · exact absurd hstatus hdelivered

/-- A delivery event keeps the times in order only if it finds the delivery. -/
theorem timesMatch_deliverAt_iff (now : ℤ) (h : row.TimesMatch) {eventType : String} :
    (∀ change ∈ deliverAt now row eventType, (change.write row).TimesMatch) ↔
      (eventType = "delivered" → row.status = .delivered) := by
  unfold deliverAt
  split_ifs with hevent
  · obtain ⟨htype, hnone⟩ := hevent
    have hnot : row.status ≠ .delivered := by
      rw [ne_eq, ← h.delivered, hnone]
      simp
    refine iff_of_false (fun hmatch => hnot ?_) fun hstatus => hnot (hstatus htype)
    exact (hmatch _ rfl).delivered.1 rfl
  · refine iff_of_true (by simp) fun htype => h.delivered.1 ?_
    exact Option.isSome_iff_ne_none.2 fun hnone => hevent ⟨htype, hnone⟩

end OrderRow

/-! ### All orders -/

/-- The orders have different identifiers, and no pickup is later than the clock. -/
structure PickedUpBy (clock : ℤ) (rows : List OrderRow) : Prop where
  nodup : (rows.map (·.order.id)).Nodup
  pickup_le : ∀ row ∈ rows, ∀ pickup ∈ row.actualPickupTime, pickup ≤ clock

namespace PickedUpBy

variable {clock now : ℤ} {rows : List OrderRow} {row : OrderRow}

theorem mono (h : PickedUpBy clock rows) (hnow : clock ≤ now) : PickedUpBy now rows where
  nodup := h.nodup
  pickup_le row hrow pickup hpickup := (h.pickup_le row hrow pickup hpickup).trans hnow

theorem insert (h : PickedUpBy now rows) (hid : row.order.id ∉ rows.map (·.order.id))
    (hpickup : row.actualPickupTime = none) : PickedUpBy now (rows ++ [row]) where
  nodup := nodup_map_concat h.nodup hid
  pickup_le row' hrow' pickup hpickup' := by
    rcases List.mem_append.1 hrow' with hold | hnew
    · exact h.pickup_le row' hold pickup hpickup'
    · rw [List.mem_singleton.1 hnew, hpickup] at hpickup'
      cases hpickup'

theorem update (h : PickedUpBy now rows) {id : Uuid} {change : OrderChange}
    (hpickup : ∀ pickup ∈ change.actualPickupTime, pickup ≤ now) :
    PickedUpBy now (updateRows (·.order.id) id change.write rows) where
  nodup := by
    rw [map_id_updateRows fun row => OrderRow.id_write change]
    exact h.nodup
  pickup_le row' hrow' pickup hpickup' := by
    rcases mem_updateRows.1 hrow' with ⟨row, hrow, -, rfl⟩ | ⟨hold, -⟩
    · rcases Option.or_eq_some_iff.1 hpickup' with hnew | ⟨-, hold⟩
      · exact hpickup pickup hnew
      · exact h.pickup_le row hrow pickup hold
    · exact h.pickup_le row' hold pickup hpickup'

end PickedUpBy

/-- What a call that does not raise does to the orders. -/
inductive OrderWrites (now : ℤ) (db : TrackingDb) : OrderCall → TrackingDb → Prop
  | insert {newId eventId : Uuid} {data : OrderForm} {eventCommitted : Bool} {row : OrderRow}
      {events : List TrackingEvent}
      (hid : row.order.id ∉ db.transportOrders.map (·.order.id)) (hstatus : row.status = .draft)
      (hpickup : row.actualPickupTime = none) (hdelivery : row.actualDeliveryTime = none) :
      OrderWrites now db (.createTransportOrder newId eventId data eventCommitted)
        { db with transportOrders := db.transportOrders ++ [row], trackingEvents := events }
  | move {orderId : IdArg} {newStatus : String} {row : OrderRow} {target : TransportStatus}
      (hrow : orderId.uuid?.bind db.order? = some row)
      (htarget : TransportStatus.ofValue newStatus = .ok target)
      (hmem : target ∈ row.status.transitions) :
      OrderWrites now db (.changeTransportStatus orderId newStatus)
        ((Change.order row.order.id (moveTo now row target)).apply db)
  | event {newId : Uuid} {data : TrackingEventCreate} {row : OrderRow} {added : TrackingEvent}
      (hrow : data.transportOrderId.uuid?.bind db.order? = some row)
      (hadded : added.transportOrderId = row.order.id) (hoperator : (readId data.operatorId).isOk) :
      OrderWrites now db (.createTrackingEvent newId data)
        ((Change.event added (deliverAt now row data.eventType)).apply db)

theorem orderWrites_of_run {db db' : TrackingDb} {now : ℤ} {call : OrderCall}
    (h : call.run db now = .ok db') : OrderWrites now db call db' := by
  cases call with
  | createTransportOrder newId eventId data eventCommitted =>
    obtain ⟨row, hrow, hdb'⟩ := bind_eq_ok_iff.1 h
    obtain ⟨hid, rfl, hstatus, hpickup, hdelivery⟩ := TrackingDb.createTransportOrder_eq_ok hrow
    cases hdb'
    exact .insert hid hstatus hpickup hdelivery
  | changeTransportStatus orderId newStatus =>
    obtain ⟨change, hchange, rfl⟩ := map_eq_ok_iff.1 h
    obtain ⟨row, target, hrow, htarget, hmem, rfl⟩ :=
      TrackingDb.changeTransportStatus_eq_ok_iff.1 hchange
    exact .move hrow htarget hmem
  | createTrackingEvent newId data =>
    obtain ⟨change, hchange, rfl⟩ := map_eq_ok_iff.1 h
    obtain ⟨row, eventType, operatorId, hrow, -, hoperator, rfl⟩ :=
      TrackingDb.createTrackingEvent_eq_ok_iff.1 hchange
    exact .event hrow rfl (by rw [hoperator]; rfl)

theorem PickedUpBy.run {db db' : TrackingDb} {now : ℤ} {call : OrderCall}
    (h : PickedUpBy now db.transportOrders) (hwrites : OrderWrites now db call db') :
    PickedUpBy now db'.transportOrders := by
  cases hwrites with
  | insert hid hstatus hpickup hdelivery => exact h.insert hid hpickup
  | @move orderId newStatus row target hrow htarget hmem =>
    refine h.update fun pickup hpickup => ?_
    simp only [moveTo, Option.mem_ite_none_right, Option.mem_some] at hpickup
    exact hpickup.2.ge
  | @event newId data row added hrow hadded hoperator =>
    simp only [Change.apply, deliverAt]
    split_ifs
    · exact h.update (by simp)
    · exact h

/-- A call that raises would not have moved an order to `DELIVERED`, and is no delivery. -/
theorem timely_of_error {s : OrderTimes} {label : OrderLabel} {e : TmsError}
    (h : label.call.run s.db label.now = .error e) : Timely s label := by
  obtain ⟨now, call, committed⟩ := label
  intro _
  cases call with
  | createTransportOrder => exact trivial
  | changeTransportStatus orderId newStatus =>
    rintro rfl row hrow hmem
    have hchange : s.db.changeTransportStatus now orderId "delivered" = .ok _ :=
      TrackingDb.changeTransportStatus_eq_ok_iff.2 ⟨row, .delivered, hrow, rfl, hmem, rfl⟩
    simp [OrderCall.run, hchange] at h
  | createTrackingEvent newId data =>
    intro htype hoperator row hrow
    cases hread : readId data.operatorId with
    | error => simp [hread, Except.isOk, Except.toBool] at hoperator
    | ok operatorId =>
      have hchange : s.db.createTrackingEvent now newId data = .ok _ :=
        TrackingDb.createTrackingEvent_eq_ok_iff.2
          ⟨row, .delivered, operatorId, hrow, by rw [htype]; rfl, hread, rfl⟩
      simp [OrderCall.run, hchange] at h

/-- A call keeps the times in order exactly if it is timely. -/
theorem timesMatch_iff_timely {s s' : OrderTimes} {label : OrderLabel}
    (hpickup : PickedUpBy s.clock s.db.transportOrders) (hmatch : s.db.TimesMatch)
    (hnext : s.next label = some s') : s'.db.TimesMatch ↔ Timely s label := by
  obtain ⟨hclock, hs'⟩ := Option.ite_none_right_eq_some.1 hnext
  cases hs'
  have hpickup := hpickup.mono hclock
  cases hrun : label.call.run s.db label.now with
  | error e => exact iff_of_true hmatch (timely_of_error hrun)
  | ok db =>
    by_cases hcommitted : label.committed
    · simp only [if_pos hcommitted]
      obtain ⟨now, call, committed⟩ := label
      have hwrites := orderWrites_of_run hrun
      cases hwrites with
      | insert hid hstatus hpickup hdelivery =>
        refine iff_of_true (fun row hrow => ?_) fun _ => trivial
        rcases List.mem_append.1 hrow with hold | hnew
        · exact hmatch row hold
        · rw [List.mem_singleton.1 hnew]
          exact ⟨by simp [hstatus, hdelivery], by simp [hstatus]⟩
      | @move orderId newStatus row target hrow htarget hmem =>
        have hold := TrackingDb.mem_of_order? hrow
        refine (forall_mem_updateRows_iff hpickup.nodup hmatch hold).trans ?_
        rw [OrderRow.timesMatch_moveTo_iff (hmatch row hold) (hpickup.pickup_le row hold) hmem]
        constructor
        · rintro hiff - rfl row' hrow' -
          cases hrow.symm.trans hrow'
          cases htarget
          exact hiff rfl
        · rintro htimely rfl
          exact htimely hcommitted (enumOf_eq_ok htarget).symm row hrow hmem
      | @event newId data row added hrow hadded hoperator =>
        have hold := TrackingDb.mem_of_order? hrow
        trans data.eventType = "delivered" → row.status = .delivered
        · rw [← OrderRow.timesMatch_deliverAt_iff now (hmatch row hold)]
          simp only [TrackingDb.TimesMatch, Change.apply]
          cases deliverAt now row data.eventType with
          | none => exact iff_of_true hmatch (by simp)
          | some change =>
            simp only [Option.elim_some, Option.mem_some, forall_eq', hadded]
            exact forall_mem_updateRows_iff hpickup.nodup hmatch hold
        · constructor
          · rintro hiff - htype - row' hrow'
            cases hrow.symm.trans hrow'
            exact hiff htype
          · intro htimely htype
            exact htimely hcommitted htype hoperator row hrow
    · simp only [if_neg hcommitted]
      exact iff_of_true hmatch fun h => absurd h hcommitted

theorem PickedUpBy.next {s s' : OrderTimes} {label : OrderLabel}
    (h : PickedUpBy s.clock s.db.transportOrders) (hnext : s.next label = some s') :
    PickedUpBy s'.clock s'.db.transportOrders := by
  obtain ⟨hclock, hs'⟩ := Option.ite_none_right_eq_some.1 hnext
  cases hs'
  have h := h.mono hclock
  cases hrun : label.call.run s.db label.now with
  | error e => exact h
  | ok db =>
    by_cases hcommitted : label.committed
    · simpa only [if_pos hcommitted] using h.run (orderWrites_of_run hrun)
    · simpa only [if_neg hcommitted] using h

/-- **The times of the orders match their statuses** in exactly the runs whose calls are timely. -/
theorem timesMatch_iff {clock : ℤ} {labels : List OrderLabel} {s : OrderTimes} :
    (orderSystem.restrict fun _ _ s' => s'.db.TimesMatch).Run { clock := clock } labels s ↔
      (orderSystem.guard Timely).Run { clock := clock } labels s :=
  Lts.Run.restrict_iff_guard
    (I := fun s => PickedUpBy s.clock s.db.transportOrders ∧ s.db.TimesMatch)
    (fun _ _ _ h hnext htimely =>
      ⟨h.1.next hnext, (timesMatch_iff_timely h.1 h.2 hnext).2 htimely⟩)
    (fun _ _ _ h hnext => timesMatch_iff_timely h.1 h.2 hnext)
    ⟨⟨by simp, by simp⟩, by simp [TrackingDb.TimesMatch]⟩

/-- An order is created, and a second later its delivery is reported. -/
def createDeliver : List OrderLabel :=
  [⟨0, .createTransportOrder 7 8 {} true, true⟩,
    ⟨second, .createTrackingEvent 9 { transportOrderId := ⟨"7", some 7⟩, eventType := "delivered" },
      true⟩]

/-- **The draft has a delivery time.** -/
theorem createDeliver_not_timesMatch :
    ¬ ∀ labels s, orderSystem.Run { clock := 0 } labels s → s.db.TimesMatch := by
  intro h
  have hrun : (Lts.runNext OrderTimes.next { clock := 0 } createDeliver).map
      (fun s => s.db.transportOrders.map fun row => (row.status, row.actualDeliveryTime)) =
      some [(.draft, some second)] := by decide +kernel
  obtain ⟨s, hs, hread⟩ := Lts.exists_run_of_map hrun
  obtain ⟨row, hrow, hread⟩ := List.mem_map.1 (hread ▸ List.mem_singleton_self _)
  obtain ⟨hstatus, htime⟩ := Prod.mk.inj hread
  have hmatch := h _ s hs row hrow
  have hdelivered := hmatch.delivered.1 (by rw [htime]; rfl)
  rw [hstatus] at hdelivered
  cases hdelivered

end Tms

end OmsWmsTms
