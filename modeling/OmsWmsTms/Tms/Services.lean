import OmsWmsTms.Control.Except
import OmsWmsTms.Data.OrderBy
import OmsWmsTms.Tms.Models

/-!
# The services that write the routing data, and the queries of the planner

The services of `src/tms/service.py` that fill the hub, connection, carrier route and transport
order tables.  New identifiers and the clock are arguments.  A service that raises leaves the
database as it was, because its session is rolled back.

* `createHub`, `updateHub`, `addCarrierRoute`, `addHubConnection`, `createTransportOrder` : the
  services.
* `listHubs`, `listCarrierRoutes`, `listHubConnections` : the queries of the route planner, newest
  row first.
-/

namespace OmsWmsTms

namespace Tms

/-! ### Queries -/

/-- `list_hubs(db, city=city)`. -/
def listHubs (db : TmsDb) (city : String) : List TransferHub :=
  orderByDesc TransferHub.createdAt
    (if city = "" then db.hubs else db.hubs.filter (·.city = city))

/-- `list_carrier_routes(db)`. -/
def listCarrierRoutes (db : TmsDb) : List CarrierRoute :=
  orderByDesc CarrierRoute.createdAt db.carrierRoutes

/-- `list_hub_connections(db)`. -/
def listHubConnections (db : TmsDb) : List HubConnection :=
  orderByDesc HubConnection.createdAt db.hubConnections

/-! ### Inserting rows

A row whose key is taken is refused by the index. -/

namespace TmsDb

/-- Insert a hub. -/
def insertHub (db : TmsDb) (hub : TransferHub) : Except TmsError TmsDb :=
  if hid : hub.id ∈ db.hubs.map TransferHub.id then .error .integrityError
  else if hcode : hub.code ∈ db.hubs.map TransferHub.code then .error .integrityError
  else .ok { db with
    hubs := db.hubs ++ [hub]
    hubs_id_nodup := nodup_map_concat db.hubs_id_nodup hid
    hubs_code_nodup := nodup_map_concat db.hubs_code_nodup hcode }

/-- Insert a connection. -/
def insertConnection (db : TmsDb) (conn : HubConnection) : Except TmsError TmsDb :=
  if hpair : conn.pair ∈ db.hubConnections.map HubConnection.pair then .error .integrityError
  else .ok { db with
    hubConnections := db.hubConnections ++ [conn]
    hubConnections_pair_nodup := nodup_map_concat db.hubConnections_pair_nodup hpair }

/-- Insert a transport order. -/
def insertOrder (db : TmsDb) (order : TransportOrder) : Except TmsError TmsDb :=
  if hid : order.id ∈ db.transportOrders.map TransportOrder.id then .error .integrityError
  else .ok { db with
    transportOrders := db.transportOrders ++ [order]
    transportOrders_id_nodup := nodup_map_concat db.transportOrders_id_nodup hid }

variable {db db' : TmsDb}

theorem insertHub_eq_ok {hub : TransferHub} (h : db.insertHub hub = .ok db') :
    db'.hubs = db.hubs ++ [hub] ∧ db'.hubConnections = db.hubConnections ∧
      db'.carrierRoutes = db.carrierRoutes := by
  unfold insertHub at h
  split at h
  · cases h
  · split at h
    · cases h
    · cases h
      exact ⟨rfl, rfl, rfl⟩

theorem insertOrder_eq_ok {order : TransportOrder} (h : db.insertOrder order = .ok db') :
    db'.hubs = db.hubs ∧ db'.hubConnections = db.hubConnections ∧
      db'.carrierRoutes = db.carrierRoutes := by
  unfold insertOrder at h
  split at h
  · cases h
  · cases h
    exact ⟨rfl, rfl, rfl⟩

end TmsDb

/-! ### Transfer hubs -/

/-- The payload of `create_hub`. -/
structure HubCreate where
  /-- The hub code. -/
  code : String
  /-- The display name. -/
  name : String
  /-- The type of the hub. -/
  type : String := "primary"
  /-- The city of the hub. -/
  city : String
  /-- The capacity. -/
  capacityWeightKg : ℚ := 0

/-- `create_hub`. -/
def createHub (db : TmsDb) (now : ℤ) (newId : Uuid) (data : HubCreate) :
    Except TmsError (TransferHub × TmsDb) := do
  if data.code ∈ db.hubs.map TransferHub.code then
    throw (.validation s!"Hub code '{data.code}' already exists")
  else
    let hubType ← TransferHubType.ofValue data.type
    let code ← storeText 50 data.code
    let name ← storeText 200 data.name
    let city ← storeText 100 data.city
    let capacity ← store data.capacityWeightKg
    let hub := ⟨newId, code, name, hubType, city, capacity, .open_, now⟩
    return (hub, ← db.insertHub hub)

/-- The payload of `update_hub`; a field that is absent or null is left alone. -/
structure HubUpdate where
  /-- A new display name. -/
  name : Option String := none
  /-- A new type. -/
  hubType : Option String := none
  /-- A new city. -/
  city : Option String := none
  /-- A new capacity. -/
  capacityWeightKg : Option ℚ := none
  /-- A new status. -/
  status : Option String := none

/-- The fields that `update_hub` sets. -/
def HubUpdate.apply (data : HubUpdate) (hub : TransferHub) : Except TmsError TransferHub := do
  let name ← data.name.elim (pure hub.name) (storeText 200)
  let hubType ← data.hubType.elim (pure hub.hubType) TransferHubType.ofValue
  let city ← data.city.elim (pure hub.city) (storeText 100)
  let capacity ← data.capacityWeightKg.elim (pure hub.capacityWeightKg) store
  let status ← data.status.elim (pure hub.status) HubStatus.ofValue
  return { hub with name, hubType, city, capacityWeightKg := capacity, status }

/-- Write the updatable fields of a row back to the table. -/
def replaceHub (hubs : List TransferHub) (hub : TransferHub) : List TransferHub :=
  hubs.map fun row => if row.id = hub.id then
    { row with
      name := hub.name, hubType := hub.hubType, city := hub.city,
      capacityWeightKg := hub.capacityWeightKg, status := hub.status }
  else row

theorem map_id_replaceHub (hubs : List TransferHub) (hub : TransferHub) :
    (replaceHub hubs hub).map TransferHub.id = hubs.map TransferHub.id := by
  rw [replaceHub, List.map_map]
  refine List.map_congr_left fun row _ => ?_
  simp only [Function.comp]
  split_ifs <;> rfl

theorem map_code_replaceHub (hubs : List TransferHub) (hub : TransferHub) :
    (replaceHub hubs hub).map TransferHub.code = hubs.map TransferHub.code := by
  rw [replaceHub, List.map_map]
  refine List.map_congr_left fun row _ => ?_
  simp only [Function.comp]
  split_ifs <;> rfl

/-- `update_hub`. -/
def updateHub (db : TmsDb) (hubId : IdArg) (data : HubUpdate) :
    Except TmsError (TransferHub × TmsDb) := do
  match hubId.uuid?.bind fun id => db.hubs.find? (·.id = id) with
  | none => throw (.notFound s!"Hub {hubId.text} not found")
  | some hub =>
    let hub ← data.apply hub
    return (hub, { db with
      hubs := replaceHub db.hubs hub
      hubs_id_nodup := (map_id_replaceHub db.hubs hub).symm ▸ db.hubs_id_nodup
      hubs_code_nodup := (map_code_replaceHub db.hubs hub).symm ▸ db.hubs_code_nodup })

/-! ### Carrier routes and hub connections -/

/-- The payload of `add_carrier_route`. -/
structure CarrierRouteCreate where
  /-- The carrier. -/
  carrierCode : String
  /-- Where the lane starts. -/
  originCity : String
  /-- Where it ends. -/
  destCity : String
  /-- Its length. -/
  distanceKm : ℚ
  /-- Its hours. -/
  transitHours : ℚ
  /-- The price per kilogram. -/
  basePricePerKg : ℚ
  /-- The surcharge of express service. -/
  expressSurcharge : ℚ := 0
  /-- The least weight charged. -/
  minChargeWeight : ℚ := 1

/-- `add_carrier_route`. -/
def addCarrierRoute (db : TmsDb) (now : ℤ) (newId : Uuid) (data : CarrierRouteCreate) :
    Except TmsError (CarrierRoute × TmsDb) := do
  let carrierCode ← CarrierCode.ofValue data.carrierCode
  let originCity ← storeText 100 data.originCity
  let destCity ← storeText 100 data.destCity
  let distanceKm ← store data.distanceKm
  let transitHours ← store data.transitHours
  let basePricePerKg ← store data.basePricePerKg
  let expressSurcharge ← store data.expressSurcharge
  let minChargeWeight ← store data.minChargeWeight
  let route : CarrierRoute :=
    ⟨newId, carrierCode, originCity, destCity, distanceKm, transitHours, basePricePerKg,
      expressSurcharge, minChargeWeight, now⟩
  return (route, { db with carrierRoutes := db.carrierRoutes ++ [route] })

/-- The payload of `add_hub_connection`. -/
structure HubConnectionCreate where
  /-- The hub the connection leaves. -/
  fromHubCode : String
  /-- The hub it leads to. -/
  toHubCode : String
  /-- Its distance. -/
  distanceKm : ℚ
  /-- Its hours. -/
  transitHours : ℚ

/-- `add_hub_connection`. -/
def addHubConnection (db : TmsDb) (now : ℤ) (newId : Uuid) (data : HubConnectionCreate) :
    Except TmsError (HubConnection × TmsDb) := do
  if (data.fromHubCode, data.toHubCode) ∈ db.hubConnections.map HubConnection.pair then
    throw (.validation s!"Connection {data.fromHubCode}→{data.toHubCode} already exists")
  else
    let fromHubCode ← storeText 50 data.fromHubCode
    let toHubCode ← storeText 50 data.toHubCode
    let distanceKm ← store data.distanceKm
    let transitHours ← store data.transitHours
    let conn := ⟨newId, fromHubCode, toHubCode, distanceKm, transitHours, now⟩
    return (conn, ← db.insertConnection conn)

/-! ### Transport orders -/

/-- The payload of `create_transport_order`, as far as the planner reads it. -/
structure TransportOrderCreate where
  /-- Where the shipment is picked up; an absent address is an empty document. -/
  pickupAddress : Option Address := some ⟨some ""⟩
  /-- Where it goes. -/
  deliveryAddress : Option Address := some ⟨some ""⟩
  /-- The weight. -/
  totalWeightKg : ℚ := 0

/-- `create_transport_order`. -/
def createTransportOrder (db : TmsDb) (newId : Uuid) (data : TransportOrderCreate) :
    Except TmsError (TransportOrder × TmsDb) := do
  let weight ← store data.totalWeightKg
  let order := ⟨newId, data.pickupAddress, data.deliveryAddress, some weight⟩
  return (order, ← db.insertOrder order)

/-! ### What the services write -/

section Spec

variable {db db' : TmsDb} {createdAt : ℤ} {newId : Uuid}

/-- `create_hub` appends a hub of the requested city. -/
theorem createHub_eq_ok {data : HubCreate} {hub : TransferHub}
    (h : createHub db createdAt newId data = .ok (hub, db')) :
    hub.city = Text.cut 100 data.city ∧ db'.hubs = db.hubs ++ [hub] ∧
      db'.hubConnections = db.hubConnections ∧ db'.carrierRoutes = db.carrierRoutes := by
  unfold createHub at h
  split_ifs at h
  obtain ⟨hubType, -, h⟩ := bind_eq_ok_iff.1 h
  obtain ⟨code, -, h⟩ := bind_eq_ok_iff.1 h
  obtain ⟨name, -, h⟩ := bind_eq_ok_iff.1 h
  obtain ⟨city, hcity, h⟩ := bind_eq_ok_iff.1 h
  obtain ⟨capacity, -, h⟩ := bind_eq_ok_iff.1 h
  obtain ⟨db₁, hinsert, h⟩ := bind_eq_ok_iff.1 h
  cases h
  exact ⟨eq_cut_of_storeText hcity, TmsDb.insertHub_eq_ok hinsert⟩

theorem HubUpdate.apply_eq_ok {data : HubUpdate} {hub hub' : TransferHub}
    (h : data.apply hub = .ok hub') :
    hub'.id = hub.id ∧ hub'.city = (data.city.map (Text.cut 100)).getD hub.city := by
  unfold HubUpdate.apply at h
  obtain ⟨name, -, h⟩ := bind_eq_ok_iff.1 h
  obtain ⟨hubType, -, h⟩ := bind_eq_ok_iff.1 h
  obtain ⟨city, hcity, h⟩ := bind_eq_ok_iff.1 h
  obtain ⟨capacity, -, h⟩ := bind_eq_ok_iff.1 h
  obtain ⟨status, -, h⟩ := bind_eq_ok_iff.1 h
  cases h
  refine ⟨rfl, ?_⟩
  cases hdata : data.city with
  | none => rw [hdata] at hcity; cases hcity; rfl
  | some c => rw [hdata] at hcity; exact eq_cut_of_storeText hcity

/-- `update_hub` replaces the fields of one hub, and its city by the requested one, if any. -/
theorem updateHub_eq_ok {hubId : IdArg} {data : HubUpdate} {hub' : TransferHub}
    (h : updateHub db hubId data = .ok (hub', db')) :
    ∃ hub ∈ db.hubs, hubId.uuid? = some hub.id ∧ hub'.id = hub.id ∧
      hub'.city = (data.city.map (Text.cut 100)).getD hub.city ∧
      db'.hubs = replaceHub db.hubs hub' ∧
      db'.hubConnections = db.hubConnections ∧ db'.carrierRoutes = db.carrierRoutes := by
  unfold updateHub at h
  split at h
  · cases h
  · rename_i hub hfind
    obtain ⟨id, hid, hfind⟩ := Option.bind_eq_some_iff.1 hfind
    obtain ⟨hub₁, happly, h⟩ := bind_eq_ok_iff.1 h
    cases h
    have hhub : hub.id = id := by simpa using List.find?_some hfind
    obtain ⟨hid', hcity⟩ := HubUpdate.apply_eq_ok happly
    exact ⟨hub, List.mem_of_find?_eq_some hfind, hhub ▸ hid, hid', hcity, rfl, rfl, rfl⟩

/-- `add_carrier_route` appends a route of the requested lane. -/
theorem addCarrierRoute_eq_ok {data : CarrierRouteCreate} {route : CarrierRoute}
    (h : addCarrierRoute db createdAt newId data = .ok (route, db')) :
    route.originCity = Text.cut 100 data.originCity ∧
      route.destCity = Text.cut 100 data.destCity ∧
      db'.carrierRoutes = db.carrierRoutes ++ [route] ∧ db'.hubs = db.hubs ∧
      db'.hubConnections = db.hubConnections := by
  unfold addCarrierRoute at h
  obtain ⟨carrier, -, h⟩ := bind_eq_ok_iff.1 h
  obtain ⟨originCity, ho, h⟩ := bind_eq_ok_iff.1 h
  obtain ⟨destCity, hd, h⟩ := bind_eq_ok_iff.1 h
  obtain ⟨distance, -, h⟩ := bind_eq_ok_iff.1 h
  obtain ⟨hours, -, h⟩ := bind_eq_ok_iff.1 h
  obtain ⟨price, -, h⟩ := bind_eq_ok_iff.1 h
  obtain ⟨surcharge, -, h⟩ := bind_eq_ok_iff.1 h
  obtain ⟨minWeight, -, h⟩ := bind_eq_ok_iff.1 h
  cases h
  exact ⟨eq_cut_of_storeText ho, eq_cut_of_storeText hd, rfl, rfl, rfl⟩

/-- `create_transport_order` changes nothing that the planner reads besides the orders. -/
theorem createTransportOrder_eq_ok {data : TransportOrderCreate} {order : TransportOrder}
    (h : createTransportOrder db newId data = .ok (order, db')) :
    db'.hubs = db.hubs ∧ db'.hubConnections = db.hubConnections ∧
      db'.carrierRoutes = db.carrierRoutes := by
  unfold createTransportOrder at h
  obtain ⟨weight, -, h⟩ := bind_eq_ok_iff.1 h
  obtain ⟨db₁, hinsert, h⟩ := bind_eq_ok_iff.1 h
  cases h
  exact TmsDb.insertOrder_eq_ok hinsert

end Spec

end Tms

end OmsWmsTms
