import OmsWmsTms.Core.Ids
import OmsWmsTms.Data.Dict
import OmsWmsTms.Data.Numeric
import OmsWmsTms.Data.Rows
import OmsWmsTms.Data.Text

/-!
# The transport tables

The tables of `src/tms/models.py` that route planning reads and writes.  `TmsDb` has their primary
keys and unique indexes as fields, so that a database with two hubs of one code, or two
connections of one pair of hubs, cannot be built.
-/

namespace OmsWmsTms

namespace Tms

/-- The exceptions of the transport services. -/
inductive TmsError
  /-- `NotFoundException`. -/
  | notFound (message : String)
  /-- `ValidationException`. -/
  | validation (message : String)
  /-- `ValueError`: a malformed identifier or an unknown enumeration value. -/
  | valueError
  /-- `AttributeError`: an attribute of `None`. -/
  | attributeError
  /-- `decimal.InvalidOperation`: `Decimal("None")`. -/
  | invalidOperation
  /-- `IndexError`. -/
  | indexError
  /-- A value that does not fit its column. -/
  | dataError
  /-- A violated unique index. -/
  | integrityError
deriving DecidableEq

/-! ### Enumerations -/

/-- `CarrierCode`. -/
inductive CarrierCode
  | sfExpress | zto | yunda | jdLogistics | ems
deriving DecidableEq

/-- `CarrierCode(value)`. -/
def CarrierCode.ofValue : String → Except TmsError CarrierCode
  | "sf_express" => .ok sfExpress
  | "zto" => .ok zto
  | "yunda" => .ok yunda
  | "jd_logistics" => .ok jdLogistics
  | "ems" => .ok ems
  | _ => .error .valueError

/-- `TransferHubType`. -/
inductive TransferHubType
  | primary | secondary | cargoStation
deriving DecidableEq

/-- `TransferHubType(value)`. -/
def TransferHubType.ofValue : String → Except TmsError TransferHubType
  | "primary" => .ok primary
  | "secondary" => .ok secondary
  | "cargo_station" => .ok cargoStation
  | _ => .error .valueError

/-- `HubStatus`. -/
inductive HubStatus
  | open_ | maintenance | closed
deriving DecidableEq

/-- `HubStatus(value)`. -/
def HubStatus.ofValue : String → Except TmsError HubStatus
  | "open" => .ok open_
  | "maintenance" => .ok maintenance
  | "closed" => .ok closed
  | _ => .error .valueError

/-- `RoutePlanType`. -/
inductive RoutePlanType
  | autoGen | manual
deriving DecidableEq

/-- `RoutePlanType(value)`. -/
def RoutePlanType.ofValue : String → Except TmsError RoutePlanType
  | "auto_gen" => .ok autoGen
  | "manual" => .ok manual
  | _ => .error .valueError

/-! ### Rows -/

/-- `TransferHub`. -/
structure TransferHub where
  /-- The primary key. -/
  id : Uuid
  /-- The hub code. -/
  code : String
  /-- The display name. -/
  name : String
  /-- The type of the hub. -/
  hubType : TransferHubType
  /-- The city of the hub. -/
  city : String
  /-- The capacity. -/
  capacityWeightKg : Numeric 20 4
  /-- The operational status. -/
  status : HubStatus
  /-- The time of creation. -/
  createdAt : ℤ

/-- `CarrierRoute`. -/
structure CarrierRoute where
  /-- The primary key. -/
  id : Uuid
  /-- The carrier. -/
  carrierCode : CarrierCode
  /-- Where the lane starts. -/
  originCity : String
  /-- Where the lane ends. -/
  destCity : String
  /-- The length of the lane. -/
  distanceKm : Numeric 20 4
  /-- The hours it takes. -/
  transitHours : Numeric 10 1
  /-- The price per kilogram. -/
  basePricePerKg : Numeric 18 4
  /-- The surcharge of express service. -/
  expressSurcharge : Numeric 18 4
  /-- The least weight charged. -/
  minChargeWeight : Numeric 20 4
  /-- The time of creation. -/
  createdAt : ℤ

/-- `HubConnection`. -/
structure HubConnection where
  /-- The primary key. -/
  id : Uuid
  /-- The hub the connection leaves. -/
  fromHubCode : String
  /-- The hub it leads to. -/
  toHubCode : String
  /-- Its distance. -/
  distanceKm : Numeric 20 4
  /-- Its transit hours. -/
  transitHours : Numeric 10 1
  /-- The time of creation. -/
  createdAt : ℤ

/-- The pair of hubs that a connection joins. -/
def HubConnection.pair (conn : HubConnection) : String × String :=
  (conn.fromHubCode, conn.toHubCode)

/-- The address document of a transport order, of which the planner reads the city: a text or
null; a document without a city reads as the empty text. -/
structure Address where
  /-- `address.get("city", "")`. -/
  city : Option String
deriving DecidableEq

/-- `TransportOrder`; a column that holds no document is `none`. -/
structure TransportOrder where
  /-- The primary key. -/
  id : Uuid
  /-- Where the shipment is picked up. -/
  pickupAddress : Option Address
  /-- Where it goes. -/
  deliveryAddress : Option Address
  /-- The weight, which may be null. -/
  totalWeightKg : Option (Numeric 20 4)
deriving DecidableEq

/-- One segment of a plan document. -/
structure PlanSegment where
  /-- Its position. -/
  segmentNo : ℕ
  /-- Where it starts. -/
  fromHub : String
  /-- Where it ends. -/
  toHub : String
  /-- Its distance. -/
  distanceKm : ℚ
  /-- Its hours. -/
  transitHours : ℚ
deriving DecidableEq

/-- The plan document that the planner returns; decimals travel in it as exact texts. -/
structure PlanDoc where
  /-- The pickup city. -/
  originCity : String
  /-- The delivery city. -/
  destinationCity : String
  /-- The distance of the route. -/
  totalDistanceKm : ℚ
  /-- The hours of the route. -/
  estimatedTransitHours : ℚ
  /-- The cost of the route. -/
  totalCostAmount : ℚ
  /-- The segments. -/
  segments : List PlanSegment
deriving DecidableEq

/-- `RoutePlan`. -/
structure RoutePlan where
  /-- The primary key. -/
  id : Uuid
  /-- The order the plan is for. -/
  transportOrderId : Uuid
  /-- How the plan came about. -/
  type : RoutePlanType
  /-- The pickup city. -/
  originCity : String
  /-- The delivery city. -/
  destinationCity : String
  /-- The distance of the route. -/
  totalDistanceKm : Numeric 20 4
  /-- The cost of the route. -/
  totalCostAmount : Numeric 18 2
  /-- The hours of the route. -/
  estimatedTransitHours : Numeric 10 1
  /-- The plan document. -/
  planJson : PlanDoc
deriving DecidableEq

/-- `TransportSegment`, as a plan creates it. -/
structure TransportSegment where
  /-- The order the segment belongs to. -/
  transportOrderId : Uuid
  /-- Its position in the plan. -/
  segmentNo : ℕ
  /-- Where it starts. -/
  originHubCode : String
  /-- Where it ends. -/
  destHubCode : String
deriving DecidableEq

/-- The database; the proofs are its unique indexes. -/
structure TmsDb where
  /-- `transfer_hubs`. -/
  hubs : List TransferHub
  /-- `carrier_routes`. -/
  carrierRoutes : List CarrierRoute
  /-- `hub_connections`. -/
  hubConnections : List HubConnection
  /-- `transport_orders`. -/
  transportOrders : List TransportOrder
  /-- `route_plans`. -/
  routePlans : List RoutePlan
  /-- `transport_segments`. -/
  transportSegments : List TransportSegment
  hubs_id_nodup : (hubs.map TransferHub.id).Nodup
  hubs_code_nodup : (hubs.map TransferHub.code).Nodup
  hubConnections_pair_nodup : (hubConnections.map HubConnection.pair).Nodup
  transportOrders_id_nodup : (transportOrders.map TransportOrder.id).Nodup
  routePlans_order_nodup : (routePlans.map RoutePlan.transportOrderId).Nodup

namespace TmsDb

/-- The empty database. -/
def empty : TmsDb where
  hubs := []
  carrierRoutes := []
  hubConnections := []
  transportOrders := []
  routePlans := []
  transportSegments := []
  hubs_id_nodup := List.nodup_nil
  hubs_code_nodup := List.nodup_nil
  hubConnections_pair_nodup := List.nodup_nil
  transportOrders_id_nodup := List.nodup_nil
  routePlans_order_nodup := List.nodup_nil

end TmsDb

/-- Store a decimal in a column. -/
def store {p s : ℕ} (x : ℚ) : Except TmsError (Numeric p s) :=
  match Numeric.ofRat? x with
  | some y => .ok y
  | none => .error .dataError

theorem store_eq_ok_iff {p s : ℕ} {x : ℚ} {y : Numeric p s} :
    store x = .ok y ↔ Numeric.ofRat? x = some y := by
  unfold store
  cases (Numeric.ofRat? x : Option (Numeric p s)) <;> simp

/-- Store a text in a column. -/
def storeText (limit : ℕ) (text : String) : Except TmsError String :=
  match Text.varchar? limit text with
  | some stored => .ok stored
  | none => .error .dataError

theorem eq_cut_of_storeText {limit : ℕ} {text stored : String}
    (h : storeText limit text = .ok stored) : stored = Text.cut limit text := by
  unfold storeText at h
  cases hkept : Text.varchar? limit text with
  | none =>
    rw [hkept] at h
    cases h
  | some kept =>
    rw [hkept] at h
    cases h
    exact (Text.varchar?_eq_some_iff.1 hkept).2.symm

end Tms

end OmsWmsTms
