import OmsWmsTms.Core.Clock
import OmsWmsTms.Core.Handlers
import OmsWmsTms.Uow.Journal
import OmsWmsTms.Wms.Picking

/-!
# From the wave to the shipment, under way at the same time

`create_picking_wave`, `start_picking`, `complete_picking`, `create_packing`, `create_shipment` and
`mark_shipped` of `src/wms/service.py`, as the requests of a server.  Each check reads a status that
another request may change before the commit; the chain from the wave to the shipment is kept all
the same.

* `ShippingWrite.apply`, `shippingSystem` : the commits, and the server.
* `wave_trail`, `packed_after_picking` : a completed wave was created, started and completed, and
  what is packed belongs to such a wave.
* `shipment_by_history` : a shipment has the number, the carrier and the time that it was given last,
  the record that it names was packed before, and it was shipped on a whole second.
-/

namespace OmsWmsTms

namespace Wms

/-! ### The model -/

/-- `ShipmentStatus`. -/
inductive ShipmentStatus
  | pending | picked | packed | shipped | delivered | cancelled
deriving DecidableEq

/-- `Shipment`. -/
structure Shipment where
  id : Uuid
  orderId : Uuid
  warehouseId : Uuid
  packingRecordId : Option Uuid
  trackingNumber : Option String
  carrier : Option String
  status : ShipmentStatus
  shippedAt : Option String := none
deriving DecidableEq

/-- The tables; of the orders, the identifiers. -/
structure ShippingDb extends PickingDb where
  orders : List Uuid := []
  shipments : List Shipment := []
deriving DecidableEq

/-- The wave of an identifier. -/
def ShippingDb.wave? (d : ShippingDb) (id : Uuid) : Option PickingWave :=
  d.pickingWaves.find? (·.id = id)

/-- The packing record of an identifier. -/
def ShippingDb.packing? (d : ShippingDb) (id : Uuid) : Option PackingRecord :=
  d.packingRecords.find? (·.id = id)

/-- The shipment of an identifier. -/
def ShippingDb.shipment? (d : ShippingDb) (id : Uuid) : Option Shipment :=
  d.shipments.find? (·.id = id)

/-- The changes that a handler commits; an `UPDATE` has the columns that differ from those loaded.
-/
inductive ShippingWrite
  | insertWave (wave : PickingWave)
  | startWave (id : Uuid) (assigneeId : Option (Option Uuid))
  | completeWave (id : Uuid) (completedItems : Option ℤ)
  | insertPacking (record : PackingRecord)
  | insertShipment (shipment : Shipment)
  | ship (id : Uuid) (trackingNumber carrier : Option (Option String)) (shippedAt : String)
deriving DecidableEq

/-- `UPDATE` a wave. -/
def ShippingDb.setWave (d : ShippingDb) (id : Uuid) (write : PickingWave → PickingWave) :
    Except ServiceError ShippingDb :=
  if id ∈ d.pickingWaves.map PickingWave.id then
    .ok { d with pickingWaves := updateRows PickingWave.id id write d.pickingWaves }
  else .error .staleData

/-- The row of a shipment after `mark_shipped`. -/
def Shipment.ship (trackingNumber carrier : Option (Option String)) (shippedAt : String)
    (row : Shipment) : Shipment :=
  { row with
    status := .shipped
    trackingNumber := trackingNumber.getD row.trackingNumber
    carrier := carrier.getD row.carrier
    shippedAt := some shippedAt }

/-- What the database makes of the changes. -/
def ShippingWrite.store (d : ShippingDb) : ShippingWrite → Except ServiceError ShippingDb
  | .insertWave wave => do
    let db ← d.insertWave wave
    return { d with toPickingDb := db }
  | .startWave id assigneeId => d.setWave id fun row =>
    { row with status := .inProgress, assigneeId := assigneeId.getD row.assigneeId }
  | .completeWave id completedItems => d.setWave id fun row =>
    { row with status := .completed, completedItems := completedItems.getD row.completedItems }
  | .insertPacking record => do
    let _ ← storeInt record.boxCount
    let _ ← constraint (record.id ∉ d.packingRecords.map PackingRecord.id)
    let _ ← constraint (record.pickingWaveId ∈ d.pickingWaves.map PickingWave.id)
    return { d with packingRecords := d.packingRecords ++ [record] }
  | .insertShipment shipment => do
    let _ ← constraint (shipment.id ∉ d.shipments.map Shipment.id)
    let _ ← constraint (shipment.orderId ∈ d.orders ∧ shipment.warehouseId ∈ d.warehouses)
    let _ ← constraint (∀ id ∈ shipment.packingRecordId,
      id ∈ d.packingRecords.map PackingRecord.id)
    return { d with shipments := d.shipments ++ [shipment] }
  | .ship id trackingNumber carrier shippedAt => do
    let _ ← storeWhole 30 shippedAt
    if id ∈ d.shipments.map Shipment.id then
      return { d with
        shipments :=
          updateRows Shipment.id id (.ship trackingNumber carrier shippedAt) d.shipments }
    else throw .staleData

/-- **A commit.** -/
def ShippingWrite.apply (w : ShippingWrite) (d : ShippingDb) : Except RequestError ShippingDb :=
  (w.store d).mapError .service

/-- The answers: the rows as they are read back. -/
inductive ShippingAnswer
  | wave (wave : PickingWave)
  | packing (record : PackingRecord)
  | shipment (shipment : Shipment)
deriving DecidableEq

/-- The handlers from the wave to the shipment. -/
abbrev ShippingProg := Uow.Prog ShippingDb ShippingWrite RequestError ShippingAnswer

open Uow.Prog (withOk refresh)

namespace ShippingProg

/-- Read a wave, or raise `NotFoundException`. -/
def findWave (waveId : IdArg) (next : PickingWave → ShippingProg) : ShippingProg :=
  withOk waveId.parse fun id =>
  .read fun d =>
    match d.wave? id with
    | none => .throw (.notFound s!"Picking wave {waveId.text} not found")
    | some wave => next wave

/-- `create_picking_wave`, with the eight digits of the code. -/
def createPickingWave (newId : Uuid) (digits : String) (warehouseId : IdArg)
    (orderIds : List String) : ShippingProg :=
  withOk warehouseId.parse fun whId =>
  .read fun d =>
    if whId ∉ d.warehouses then .throw (.notFound s!"Warehouse {Uuid.text whId} not found")
    else if orderIds = [] then .throw (.validation "At least one order required")
    else
      .commit (.insertWave { id := newId, warehouseId := whId, code := s!"WAVE-{digits}" })
        (refresh (·.wave? newId) fun row => .ret (.wave row))

/-- `start_picking`. -/
def startPicking (waveId assignee : IdArg) : ShippingProg :=
  findWave waveId fun wave =>
    if wave.status ≠ .pending then .throw (.validation s!"Wave is already {wave.status.text}")
    else
      .commit (.startWave wave.id (changed wave.assigneeId assignee.uuid?))
        (refresh (·.wave? wave.id) fun row => .ret (.wave row))

/-- `complete_picking`. -/
def completePicking (waveId : IdArg) : ShippingProg :=
  findWave waveId fun wave =>
    if wave.status ≠ .inProgress then
      .throw (.validation s!"Cannot complete wave in '{wave.status.text}' status")
    else
      .commit (.completeWave wave.id (changed wave.completedItems wave.totalItems))
        (refresh (·.wave? wave.id) fun row => .ret (.wave row))

/-- `create_packing`. -/
def createPacking (newId : Uuid) (pickingWaveId : IdArg) (packedBy : String) (boxCount : ℤ)
    (notes : String) : ShippingProg :=
  findWave pickingWaveId fun wave =>
    if wave.status ≠ .completed then .throw (.validation "Only completed waves can be packed")
    else
      withOk ((storeText 100 packedBy).mapError .service) fun packedBy =>
      .commit (.insertPacking ⟨newId, wave.id, packedBy, boxCount, notes⟩)
        (refresh (·.packing? newId) fun row => .ret (.packing row))

/-- `create_shipment`. -/
def createShipment (newId : Uuid) (orderId warehouseId : IdArg) (packingRecordId : Option IdArg)
    (trackingNumber carrier : Option String) : ShippingProg :=
  withOk warehouseId.parse fun whId =>
  .read fun d =>
    if whId ∉ d.warehouses then .throw (.notFound s!"Warehouse {warehouseId.text} not found")
    else
      withOk orderId.parse fun orderUuid =>
      withOk (IdArg.parse? packingRecordId) fun packingUuid =>
      withOk (storeText? 100 trackingNumber) fun trackingNumber =>
      withOk (storeText? 50 carrier) fun carrier =>
      .commit (.insertShipment {
          id := newId
          orderId := orderUuid
          warehouseId := whId
          packingRecordId := packingUuid
          trackingNumber := trackingNumber
          carrier := carrier
          status := if packingRecordId.isSome then .packed else .picked })
        (refresh (·.shipment? newId) fun row => .ret (.shipment row))

/-- `mark_shipped`, at a time. -/
def markShipped (now : ℤ) (shipmentId : IdArg) (trackingNumber carrier : Option String) :
    ShippingProg :=
  withOk shipmentId.parse fun id =>
  .read fun d =>
    match d.shipment? id with
    | none => .throw (.notFound s!"Shipment {shipmentId.text} not found")
    | some row =>
      withOk (storeChanged 100 (changed row.trackingNumber
        (orLoaded trackingNumber row.trackingNumber))) fun trackingNumber =>
      withOk (storeChanged 50 (changed row.carrier (orLoaded carrier row.carrier))) fun carrier =>
      -- a status that is shipped already stays what it is
      .commit (.ship id trackingNumber carrier (isoformat now))
        (refresh (·.shipment? id) fun row => .ret (.shipment row))

end ShippingProg

/-- A request. -/
inductive ShippingRequest
  | createPickingWave (newId : Uuid) (digits : String) (warehouseId : IdArg)
      (orderIds : List String)
  | startPicking (waveId assignee : IdArg)
  | completePicking (waveId : IdArg)
  | createPacking (newId : Uuid) (pickingWaveId : IdArg) (packedBy : String) (boxCount : ℤ)
      (notes : String)
  | createShipment (newId : Uuid) (orderId warehouseId : IdArg) (packingRecordId : Option IdArg)
      (trackingNumber carrier : Option String)
  | markShipped (now : ℤ) (shipmentId : IdArg) (trackingNumber carrier : Option String)

/-- The handler of a request. -/
def ShippingRequest.handler : ShippingRequest → ShippingProg
  | .createPickingWave newId digits warehouseId orderIds =>
    .createPickingWave newId digits warehouseId orderIds
  | .startPicking waveId assignee => .startPicking waveId assignee
  | .completePicking waveId => .completePicking waveId
  | .createPacking newId pickingWaveId packedBy boxCount notes =>
    .createPacking newId pickingWaveId packedBy boxCount notes
  | .createShipment newId orderId warehouseId packingRecordId trackingNumber carrier =>
    .createShipment newId orderId warehouseId packingRecordId trackingNumber carrier
  | .markShipped now shipmentId trackingNumber carrier =>
    .markShipped now shipmentId trackingNumber carrier

/-- A server of waves, packing and shipments. -/
abbrev ShippingState :=
  Uow.State ShippingDb ShippingWrite ShippingRequest RequestError ShippingAnswer

/-- **The requests from the wave to the shipment.** -/
def shippingSystem : Lts ShippingState (Uow.Label ShippingRequest) :=
  Uow.system ShippingWrite.apply ShippingRequest.handler

/-! ### What a request goes by -/

open Uow (Committed History Trail lastGiven)
open Uow.Prog (justified_read justified_withOk)

/-- The status of a wave. -/
def ShippingDb.waveStatus? (d : ShippingDb) (id : Uuid) : Option WaveStatus :=
  (d.wave? id).map PickingWave.status

/-- A wave once had a status. -/
def WaveWas (d₀ : ShippingDb) (ws : List ShippingWrite) (id : Uuid) (status : WaveStatus) : Prop :=
  ∃ past d, past <+: ws ∧ Committed ShippingWrite.apply d₀ past d ∧ d.waveStatus? id = some status

/-- Changes of a wave go by its status; the others are as they are made. -/
def ShippingWrite.Goes (d₀ : ShippingDb) (ws : List ShippingWrite) : ShippingWrite → Prop
  | .insertWave wave => wave.status = .pending
  | .startWave id _ => WaveWas d₀ ws id .pending
  | .completeWave id _ => WaveWas d₀ ws id .inProgress
  | .insertPacking record => WaveWas d₀ ws record.pickingWaveId .completed
  | .insertShipment shipment => shipment.shippedAt = none ∧
      shipment.status = if shipment.packingRecordId.isSome then .packed else .picked
  | .ship _ _ _ shippedAt => ∃ now, shippedAt = isoformat now

section

variable {d₀ d d' : ShippingDb} {ws : List ShippingWrite} {w : ShippingWrite} {id : Uuid}
  {status : WaveStatus} {s : ShippingState} {ls : List (Uow.Label ShippingRequest)}

/-- The handlers are justified: an abbreviation. -/
abbrev ShippingProg.Justified (d₀ : ShippingDb) (p : ShippingProg)
    (K : List ShippingWrite → Prop) : Prop :=
  Uow.Prog.Justified ShippingWrite.apply (ShippingWrite.Goes d₀) d₀ (fun _ _ => True) p K

theorem ShippingProg.justified_refresh {α : Type} (find : ShippingDb → Option α)
    (answer : α → ShippingAnswer) (K : List ShippingWrite → Prop) :
    ShippingProg.Justified d₀ (refresh find fun row => .ret (answer row)) K := by
  refine justified_read fun d => ?_
  split
  · exact fun _ _ => trivial
  · trivial

/-- A handler that has read a wave knows what its status was. -/
theorem ShippingProg.justified_findWave {waveId : IdArg} {next : PickingWave → ShippingProg}
    {K : List ShippingWrite → Prop}
    (h : ∀ wave, ShippingProg.Justified d₀ (next wave) fun ws =>
      WaveWas d₀ ws wave.id wave.status) :
    ShippingProg.Justified d₀ (.findWave waveId next) K := by
  refine justified_withOk fun id _ => justified_read fun d => ?_
  cases hwave : d.wave? id with
  | none => trivial
  | some wave =>
    refine (h wave).mono ?_
    rintro ws ⟨past, hpast, -, hd⟩
    have hid : wave.id = id := by simpa using List.find?_some hwave
    refine ⟨past, d, hpast, hd, ?_⟩
    rw [hid, ShippingDb.waveStatus?, hwave, Option.map_some]

theorem ShippingRequest.justified_handler (q : ShippingRequest) :
    ShippingProg.Justified d₀ q.handler fun _ => True := by
  cases q with
  | createPickingWave newId digits warehouseId orderIds =>
    refine justified_withOk fun whId _ => justified_read fun d => ?_
    split
    · trivial
    · split
      · trivial
      · exact ⟨fun _ _ => rfl, ShippingProg.justified_refresh _ _ _⟩
  | startPicking waveId assignee =>
    refine ShippingProg.justified_findWave fun wave => ?_
    split_ifs with hstatus
    · trivial
    · refine ⟨fun ws hws => ?_, ShippingProg.justified_refresh _ _ _⟩
      rw [not_not.1 hstatus] at hws
      exact hws
  | completePicking waveId =>
    refine ShippingProg.justified_findWave fun wave => ?_
    split_ifs with hstatus
    · trivial
    · refine ⟨fun ws hws => ?_, ShippingProg.justified_refresh _ _ _⟩
      rw [not_not.1 hstatus] at hws
      exact hws
  | createPacking newId pickingWaveId packedBy boxCount notes =>
    refine ShippingProg.justified_findWave fun wave => ?_
    split_ifs with hstatus
    · trivial
    · refine justified_withOk fun packedBy _ => ⟨fun ws hws => ?_, ShippingProg.justified_refresh _ _ _⟩
      rw [not_not.1 hstatus] at hws
      exact hws
  | createShipment newId orderId warehouseId packingRecordId trackingNumber carrier =>
    refine justified_withOk fun whId _ => justified_read fun d => ?_
    split
    · trivial
    · refine justified_withOk fun orderUuid _ => justified_withOk fun packingUuid hpacking => ?_
      refine justified_withOk fun trackingNumber _ => justified_withOk fun carrier _ => ?_
      refine ⟨fun _ _ => ⟨rfl, ?_⟩, ShippingProg.justified_refresh _ _ _⟩
      show _ = if packingUuid.isSome then _ else _
      rw [IdArg.isSome_of_parse? hpacking]
  | markShipped now shipmentId trackingNumber carrier =>
    refine justified_withOk fun id _ => justified_read fun d => ?_
    cases d.shipment? id with
    | none => trivial
    | some row =>
      refine justified_withOk fun trackingNumber _ => justified_withOk fun carrier _ => ?_
      exact ⟨fun _ _ => ⟨now, rfl⟩, ShippingProg.justified_refresh _ _ _⟩

/-! ### What a commit does -/

theorem ShippingWrite.store_of_apply (h : w.apply d = .ok d') : w.store d = .ok d' := by
  unfold ShippingWrite.apply at h
  cases hstore : w.store d with
  | error e => rw [hstore] at h; cases h
  | ok db => rw [hstore] at h; cases h; rfl

/-- The status that a write gives a wave. -/
def ShippingWrite.givesWave (id : Uuid) : ShippingWrite → Option WaveStatus
  | .insertWave wave => if id = wave.id then some wave.status else none
  | .startWave other _ => if id = other then some .inProgress else none
  | .completeWave other _ => if id = other then some .completed else none
  | _ => none

/-- The packing records that a write inserts. -/
def ShippingWrite.packs : ShippingWrite → List PackingRecord
  | .insertPacking record => [record]
  | _ => []

/-- What a write makes of the shipments. -/
def ShippingWrite.ships (shipments : List Shipment) : ShippingWrite → List Shipment
  | .insertShipment shipment => shipments ++ [shipment]
  | .ship id trackingNumber carrier shippedAt =>
    updateRows Shipment.id id (.ship trackingNumber carrier shippedAt) shipments
  | _ => shipments

/-- What holds of a write that the database takes. -/
def ShippingWrite.Fits (d : ShippingDb) : ShippingWrite → Prop
  | .insertShipment shipment =>
      ∀ id ∈ shipment.packingRecordId, id ∈ d.packingRecords.map PackingRecord.id
  | .ship _ _ _ shippedAt => shippedAt.length ≤ 30
  | _ => True

theorem ShippingDb.setWave_eq_ok {write : PickingWave → PickingWave}
    (h : d.setWave id write = .ok d') : id ∈ d.pickingWaves.map PickingWave.id ∧
      d' = { d with pickingWaves := updateRows PickingWave.id id write d.pickingWaves } := by
  unfold ShippingDb.setWave at h
  split_ifs at h with hid
  exact ⟨hid, (Except.ok.inj h).symm⟩

/-- The status of a wave after its `UPDATE`. -/
theorem ShippingDb.waveStatus?_setWave {write : PickingWave → PickingWave}
    (h : d.setWave id write = .ok d') (hid : ∀ row, (write row).id = row.id)
    (hstatus : ∀ row, (write row).status = status) (other : Uuid) :
    d'.waveStatus? other = (if other = id then some status else none).or (d.waveStatus? other) := by
  obtain ⟨hmem, rfl⟩ := ShippingDb.setWave_eq_ok h
  rw [ShippingDb.waveStatus?, ShippingDb.wave?, find?_updateRows hid, Option.map_map]
  split_ifs with hother
  · subst hother
    obtain ⟨row, hrow⟩ := Option.ne_none_iff_exists'.1 (mt find?_id_eq_none_iff.1 (not_not.2 hmem))
    rw [hrow, Option.map_some, Function.comp, hstatus]
    rfl
  · rfl

/-- **What a commit does**: to the statuses of the waves, to the packing records and to the
shipments. -/
theorem ShippingWrite.apply_eq_ok (h : w.apply d = .ok d') : w.Fits d ∧
    (∀ id, d'.waveStatus? id = (w.givesWave id).or (d.waveStatus? id)) ∧
    d'.packingRecords = d.packingRecords ++ w.packs ∧ d'.shipments = w.ships d.shipments := by
  replace h := ShippingWrite.store_of_apply h
  cases w with
  | insertWave wave =>
    obtain ⟨db, hdb, h⟩ := bind_eq_ok_iff.1 h
    cases h
    obtain ⟨hid, rfl⟩ := PickingDb.insertWave_eq_ok hdb
    refine ⟨trivial, fun id => ?_, (List.append_nil _).symm, rfl⟩
    rw [ShippingDb.waveStatus?, ShippingDb.wave?, find?_concat_row hid, ShippingWrite.givesWave]
    split_ifs <;> rfl
  | startWave id assigneeId =>
    have hstatus := ShippingDb.waveStatus?_setWave h (fun _ => rfl) fun _ => rfl
    obtain ⟨-, rfl⟩ := ShippingDb.setWave_eq_ok h
    exact ⟨trivial, hstatus, (List.append_nil _).symm, rfl⟩
  | completeWave id completedItems =>
    have hstatus := ShippingDb.waveStatus?_setWave h (fun _ => rfl) fun _ => rfl
    obtain ⟨-, rfl⟩ := ShippingDb.setWave_eq_ok h
    exact ⟨trivial, hstatus, (List.append_nil _).symm, rfl⟩
  | insertPacking record =>
    simp only [ShippingWrite.store, bind_eq_ok_iff, pure_eq_ok_iff] at h
    obtain ⟨-, -, -, -, -, -, rfl⟩ := h
    exact ⟨trivial, fun _ => rfl, rfl, rfl⟩
  | insertShipment shipment =>
    simp only [ShippingWrite.store, bind_eq_ok_iff, pure_eq_ok_iff] at h
    obtain ⟨-, -, -, -, _, hpacking, rfl⟩ := h
    have hfits := constraint_eq_ok_iff.1 hpacking
    exact ⟨hfits, fun _ => rfl, (List.append_nil _).symm, rfl⟩
  | ship id trackingNumber carrier shippedAt =>
    simp only [ShippingWrite.store, bind_eq_ok_iff] at h
    obtain ⟨_, hshippedAt, h⟩ := h
    split_ifs at h
    cases h
    exact ⟨(storeWhole_eq_ok_iff.1 hshippedAt).1, fun _ => rfl, (List.append_nil _).symm, rfl⟩

/-! ### The waves -/

/-- What a write creates. -/
def ShippingWrite.Creates (w : ShippingWrite) (id : Uuid) (status : WaveStatus) : Prop :=
  (∃ wave, w = .insertWave wave ∧ wave.id = id) ∧ status = .pending

/-- How a write moves a wave on. -/
def ShippingWrite.Moves (w : ShippingWrite) (id : Uuid) (status status' : WaveStatus) : Prop :=
  (status = .pending ∧ status' = .inProgress ∧ ∃ assigneeId, w = .startWave id assigneeId) ∨
    (status = .inProgress ∧ status' = .completed ∧
      ∃ completedItems, w = .completeWave id completedItems)

/-- **Every status of a wave is reached along a trail.** -/
theorem wave_trail (h : History ShippingWrite.apply (ShippingWrite.Goes d₀) d₀ ws d)
    (h₀ : d₀.pickingWaves = []) (hstatus : d.waveStatus? id = some status) :
    ∃ trail, trail.Sublist ws ∧
      Trail ShippingWrite.Creates ShippingWrite.Moves id trail status := by
  refine h.trail (by simp [ShippingDb.waveStatus?, ShippingDb.wave?, h₀]) ?_ hstatus
  intro ws w d d' status hrest hgoes happly hstatus
  rw [(ShippingWrite.apply_eq_ok happly).2.1, Option.or_eq_some_iff] at hstatus
  rcases hstatus with hgives | ⟨-, hold⟩
  · cases w with
    | insertWave wave =>
      obtain ⟨rfl, rfl⟩ := of_ite_eq_some hgives
      exact .inr (.inl ⟨⟨wave, rfl, rfl⟩, hgoes⟩)
    | startWave other assigneeId =>
      obtain ⟨rfl, rfl⟩ := of_ite_eq_some hgives
      obtain ⟨past, d'', hpast, hd'', hread⟩ := hgoes
      exact .inr (.inr ⟨_, past, d'', hpast, hd'', hread, .inl ⟨rfl, rfl, assigneeId, rfl⟩⟩)
    | completeWave other completedItems =>
      obtain ⟨rfl, rfl⟩ := of_ite_eq_some hgives
      obtain ⟨past, d'', hpast, hd'', hread⟩ := hgoes
      exact .inr (.inr ⟨_, past, d'', hpast, hd'', hread, .inr ⟨rfl, rfl, completedItems, rfl⟩⟩)
    | insertPacking record => cases hgives
    | insertShipment shipment => cases hgives
    | ship other trackingNumber carrier shippedAt => cases hgives
  · exact .inl hold

section Trails

variable {trail : List ShippingWrite}

theorem trail_pending (h : Trail ShippingWrite.Creates ShippingWrite.Moves id trail .pending) :
    ∃ wave, wave.id = id ∧ trail = [.insertWave wave] := by
  cases h with
  | create hcreates =>
    obtain ⟨⟨wave, rfl, hid⟩, -⟩ := hcreates
    exact ⟨wave, hid, rfl⟩
  | move _ hmoves => rcases hmoves with ⟨-, h, -⟩ | ⟨-, h, -⟩ <;> cases h

theorem trail_inProgress
    (h : Trail ShippingWrite.Creates ShippingWrite.Moves id trail .inProgress) :
    ∃ wave assigneeId, wave.id = id ∧ trail = [.insertWave wave, .startWave id assigneeId] := by
  cases h with
  | create hcreates => cases hcreates.2
  | move hrest hmoves =>
    rcases hmoves with ⟨rfl, -, assigneeId, rfl⟩ | ⟨-, h, -⟩
    · obtain ⟨wave, hid, rfl⟩ := trail_pending hrest
      exact ⟨wave, assigneeId, hid, rfl⟩
    · cases h

theorem trail_completed
    (h : Trail ShippingWrite.Creates ShippingWrite.Moves id trail .completed) :
    ∃ wave assigneeId completedItems, wave.id = id ∧ trail =
      [.insertWave wave, .startWave id assigneeId, .completeWave id completedItems] := by
  cases h with
  | create hcreates => cases hcreates.2
  | move hrest hmoves =>
    rcases hmoves with ⟨-, h, -⟩ | ⟨rfl, -, completedItems, rfl⟩
    · cases h
    · obtain ⟨wave, assigneeId, hid, rfl⟩ := trail_inProgress hrest
      exact ⟨wave, assigneeId, completedItems, hid, rfl⟩

end Trails

/-! ### The packing records -/

/-- A record was packed after its wave was created, started and completed. -/
def PackedAfterPicking (ws : List ShippingWrite) (record : PackingRecord) : Prop :=
  ∃ wave assigneeId completedItems, wave.id = record.pickingWaveId ∧
    [.insertWave wave, .startWave wave.id assigneeId, .completeWave wave.id completedItems,
      .insertPacking record].Sublist ws

/-- **What is packed was picked before.** -/
theorem packed_after_picking (h : History ShippingWrite.apply (ShippingWrite.Goes d₀) d₀ ws d)
    (hwaves : d₀.pickingWaves = []) (hpacking : d₀.packingRecords = []) :
    ∀ record ∈ d.packingRecords, PackedAfterPicking ws record := by
  induction h with
  | start =>
    intro record hrecord
    rw [hpacking] at hrecord
    cases hrecord
  | @commit ws w d d' hrest hgoes happly ih =>
    intro record hrecord
    rw [(ShippingWrite.apply_eq_ok happly).2.2.1, List.mem_append] at hrecord
    rcases hrecord with hold | hnew
    · obtain ⟨wave, assigneeId, completedItems, hid, hsub⟩ := ih record hold
      exact ⟨wave, assigneeId, completedItems, hid, hsub.trans (List.sublist_append_left _ _)⟩
    · cases w with
      | insertPacking packed =>
        obtain rfl := List.mem_singleton.1 hnew
        -- the wave was completed when it was read
        obtain ⟨past, d'', hpast, hd'', hread⟩ := hgoes
        obtain ⟨trail, hsub, htrail⟩ := wave_trail (hrest.at hpast hd'') hwaves hread
        obtain ⟨wave, assigneeId, completedItems, hid, rfl⟩ := trail_completed htrail
        refine ⟨wave, assigneeId, completedItems, hid, ?_⟩
        rw [hid]
        exact (hsub.trans hpast.sublist).append (List.Sublist.refl [_])
      | _ => cases hnew

/-! ### The shipments -/

/-- The time that a write gives a shipment. -/
def ShippingWrite.shipsAt (id : Uuid) : ShippingWrite → Option String
  | .ship other _ _ shippedAt => if id = other then some shippedAt else none
  | _ => none

/-- The tracking number that a write gives a shipment. -/
def ShippingWrite.tracks (id : Uuid) : ShippingWrite → Option (Option String)
  | .ship other trackingNumber _ _ => if id = other then trackingNumber else none
  | _ => none

/-- The carrier that a write gives a shipment. -/
def ShippingWrite.carries (id : Uuid) : ShippingWrite → Option (Option String)
  | .ship other _ carrier _ => if id = other then carrier else none
  | _ => none

/-- What the insertion of a shipment and the writes after it have made of the row. -/
structure ShippedAs (inserted : Shipment) (before after : List ShippingWrite) (row : Shipment) :
    Prop where
  id : inserted.id = row.id
  orderId : inserted.orderId = row.orderId
  warehouseId : inserted.warehouseId = row.warehouseId
  packingRecordId : inserted.packingRecordId = row.packingRecordId
  trackingNumber : row.trackingNumber =
    (lastGiven (ShippingWrite.tracks row.id) after).getD inserted.trackingNumber
  carrier : row.carrier = (lastGiven (ShippingWrite.carries row.id) after).getD inserted.carrier
  packed : ∀ recordId ∈ row.packingRecordId, ∃ record, record.id = recordId ∧
    PackedAfterPicking before record
  shippedAt : row.shippedAt = lastGiven (ShippingWrite.shipsAt row.id) after
  status : row.status = if row.shippedAt.isSome then .shipped
    else if row.packingRecordId.isSome then .packed else .picked
  wholeSecond : ∀ text ∈ row.shippedAt, ∃ now, text = isoformat now ∧ now % second = 0

variable {inserted row : Shipment} {before after : List ShippingWrite}

/-- A write that does not ship the row gives it nothing. -/
theorem ShippingWrite.gives_none (hw : w.shipsAt id = none) :
    w.tracks id = none ∧ w.carries id = none := by
  cases w with
  | ship other trackingNumber carrier shippedAt =>
    have hne : id ≠ other := fun heq => Option.some_ne_none _ ((if_pos heq).symm.trans hw)
    exact ⟨if_neg hne, if_neg hne⟩
  | _ => exact ⟨rfl, rfl⟩

/-- A write that does not ship the row. -/
theorem ShippedAs.concat (h : ShippedAs inserted before after row) (hw : w.shipsAt row.id = none) :
    ShippedAs inserted before (after ++ [w]) row := by
  obtain ⟨htracks, hcarries⟩ := ShippingWrite.gives_none hw
  refine { h with trackingNumber := ?_, carrier := ?_, shippedAt := ?_ }
  · rw [Uow.lastGiven_concat, htracks, Option.none_or, h.trackingNumber]
  · rw [Uow.lastGiven_concat, hcarries, Option.none_or, h.carrier]
  · rw [Uow.lastGiven_concat, hw, Option.none_or, h.shippedAt]

/-- A write that ships it, at a time whose text the column holds. -/
theorem ShippedAs.ship (h : ShippedAs inserted before after row) {now : ℤ}
    (hfits : (isoformat now).length ≤ 30) (trackingNumber carrier : Option (Option String)) :
    ShippedAs inserted before
      (after ++ [.ship row.id trackingNumber carrier (isoformat now)])
      (row.ship trackingNumber carrier (isoformat now)) where
  id := h.id
  orderId := h.orderId
  warehouseId := h.warehouseId
  packingRecordId := h.packingRecordId
  trackingNumber := by
    rw [Uow.lastGiven_concat]
    show trackingNumber.getD row.trackingNumber =
      ((if row.id = row.id then trackingNumber else none).or _).getD _
    rw [if_pos rfl, h.trackingNumber]
    cases trackingNumber <;> rfl
  carrier := by
    rw [Uow.lastGiven_concat]
    show carrier.getD row.carrier = ((if row.id = row.id then carrier else none).or _).getD _
    rw [if_pos rfl, h.carrier]
    cases carrier <;> rfl
  packed := h.packed
  shippedAt := by
    rw [Uow.lastGiven_concat]
    show some _ = (if row.id = row.id then some _ else none).or _
    rw [if_pos rfl, Option.some_or]
  status := rfl
  wholeSecond text htext := by
    obtain rfl := Option.some.inj htext
    exact ⟨now, rfl, wholeSecond_of_length hfits⟩

/-- **The shipments of a history.** -/
theorem shippedAs_of_history (h : History ShippingWrite.apply (ShippingWrite.Goes d₀) d₀ ws d)
    (hwaves : d₀.pickingWaves = []) (hpacking : d₀.packingRecords = [])
    (hshipments : d₀.shipments = []) : ∀ row ∈ d.shipments, ∃ before after inserted,
      ws = before ++ .insertShipment inserted :: after ∧ ShippedAs inserted before after row := by
  induction h with
  | start =>
    intro row hrow
    rw [hshipments] at hrow
    cases hrow
  | @commit ws w d d' hrest hgoes happly ih =>
    obtain ⟨hfits, -, -, heq⟩ := ShippingWrite.apply_eq_ok happly
    have hold : ∀ row ∈ d.shipments, w.shipsAt row.id = none → ∃ before after inserted,
        ws ++ [w] = before ++ .insertShipment inserted :: after ∧
        ShippedAs inserted before after row := by
      intro row hrow hw
      obtain ⟨before, after, inserted, rfl, hrow⟩ := ih row hrow
      exact ⟨before, after ++ [w], inserted, by simp, hrow.concat hw⟩
    intro row hrow
    rw [heq] at hrow
    cases w with
    | insertShipment shipment =>
      rcases List.mem_append.1 hrow with hrow | hnew
      · exact hold row hrow rfl
      · obtain rfl := List.mem_singleton.1 hnew
        obtain ⟨hnone, hstatus⟩ := hgoes
        refine ⟨ws, [], row, rfl, ⟨rfl, rfl, rfl, rfl, rfl, rfl, ?_, hnone, ?_, ?_⟩⟩
        · intro recordId hrecordId
          obtain ⟨record, hrecord, hid⟩ := List.mem_map.1 (hfits recordId hrecordId)
          exact ⟨record, hid, packed_after_picking hrest hwaves hpacking record hrecord⟩
        · rw [hnone, hstatus]
          rfl
        · intro text htext
          rw [hnone] at htext
          cases htext
    | ship other trackingNumber carrier shippedAt =>
      rcases mem_updateRows.1 hrow with ⟨row, hmem, rfl, rfl⟩ | ⟨hmem, hne⟩
      · obtain ⟨now, rfl⟩ := hgoes
        obtain ⟨before, after, inserted, rfl, hrow⟩ := ih row hmem
        refine ⟨before, _, inserted, ?_, hrow.ship hfits trackingNumber carrier⟩
        simp
      · exact hold row hmem (if_neg hne)
    | _ => exact hold row hrow rfl

/-- **Shipments in every interleaving of requests**, from no waves, records or shipments: a shipment
is what was inserted, with the time of the last shipping after it and the last tracking number and
carrier that one has set; the packing record that it names was packed, from a wave that was created,
started and completed, before the shipment was inserted; and it was shipped on a whole second, since
the column has no room for the text of any other time. -/
theorem shipment_by_history (hwaves : d₀.pickingWaves = []) (hpacking : d₀.packingRecords = [])
    (hshipments : d₀.shipments = []) (hrun : shippingSystem.Run (.init d₀) ls s) (row : Shipment)
    (hrow : row ∈ s.db.shipments) : ∃ before after inserted,
      s.journal = before ++ .insertShipment inserted :: after ∧
      ShippedAs inserted before after row :=
  shippedAs_of_history (Uow.sound_run ShippingRequest.justified_handler hrun).history hwaves
    hpacking hshipments row hrow

end

/-- A wave that is started twice; the second start commits after the wave is packed. -/
def startedLate : List (Uow.Label ShippingRequest) :=
  [.call (.createPickingWave 1 "0A1B2C3D" (.ofUuid 8) ["SO-1"]), .step 0, .step 0, .step 0, .step 0,
    .call (.startPicking (.ofUuid 1) (.ofUuid 7)), .step 0,
    .call (.startPicking (.ofUuid 1) (.ofUuid 6)), .step 1, .step 0, .step 0, .step 0,
    .call (.completePicking (.ofUuid 1)), .step 1, .step 1, .step 1, .step 1,
    .call (.createPacking 2 (.ofUuid 1) "alice" 1 ""), .step 1, .step 1, .step 1, .step 1,
    .step 0, .step 0, .step 0,
    .call (.createShipment 3 (.ofUuid 9) (.ofUuid 8) (some (.ofUuid 2)) (some "") (some "")),
    .step 0, .step 0, .step 0, .step 0,
    .call (.markShipped 951782400000000 (.ofUuid 3) (some "SF1") none),
    .step 0, .step 0, .step 0, .step 0]

/-- The shipment of `startedLate` has been shipped, from a wave that is in progress again. -/
theorem shipment_by_history_late : ∃ s row, shippingSystem.Run
    (.init { warehouses := [8], locations := [], orders := [9] }) startedLate s ∧
    row ∈ s.db.shipments ∧ row.status = .shipped ∧ row.trackingNumber = some "SF1" ∧
    s.db.waveStatus? 1 = some .inProgress ∧ ∃ before record, before <+: s.journal ∧
      record.id = 2 ∧ PackedAfterPicking before record := by
  have hread : (Lts.runNext (Uow.State.next ShippingWrite.apply ShippingRequest.handler)
      (.init { warehouses := [8], locations := [], orders := [9] }) startedLate).map
        (fun s => (s.db.shipments, s.db.waveStatus? 1)) =
      some ([⟨3, 9, 8, some 2, some "SF1", some "", .shipped, some "2000-02-29T00:00:00+00:00"⟩],
        some .inProgress) := by
    decide +kernel
  obtain ⟨s, hrun, hs⟩ := Lts.exists_run_of_map hread
  obtain ⟨hshipments, hwave⟩ := Prod.mk.inj hs
  have hrow := hshipments ▸ List.mem_singleton_self (Shipment.mk 3 9 8 (some 2) (some "SF1")
    (some "") .shipped (some "2000-02-29T00:00:00+00:00"))
  refine ⟨s, _, hrun, hrow, rfl, rfl, hwave, ?_⟩
  obtain ⟨before, after, inserted, hjournal, hrow⟩ :=
    shipment_by_history rfl rfl rfl hrun _ hrow
  obtain ⟨record, hid, hpacked⟩ := hrow.packed 2 rfl
  exact ⟨before, record, hjournal ▸ List.prefix_append _ _, hid, hpacked⟩

end Wms

end OmsWmsTms
