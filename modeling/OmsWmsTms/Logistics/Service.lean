import OmsWmsTms.Core.Clock
import OmsWmsTms.Core.Errors
import OmsWmsTms.Core.Ids
import OmsWmsTms.Data.Md5
import OmsWmsTms.Data.Rows
import OmsWmsTms.Lts.Basic

/-!
# Waybills

`create_waybill`, `get_waybill`, `void_waybill` and `mark_printed` of `src/logistics/service.py`, with
the numbers of `src/logistics/carriers.py` and the table of `src/logistics/models.py`.

* `CarrierCode`, `generateTrackingNumber` : the carriers, and the number of a waybill.
* `Waybill`, `insertWaybill` : the rows, and what the table refuses.
* `createWaybill`, `getWaybill`, `voidWaybill`, `markPrinted` : the service.
* `waybillSystem` : the calls, one after another.
-/

namespace OmsWmsTms

namespace Logistics

/-! ### The carriers -/

/-- `CarrierCode`. -/
inductive CarrierCode
  | sf | zto | yto | sto | yunda | ems | jd
deriving DecidableEq

/-- The members of `CarrierCode`. -/
def validCarriers : List CarrierCode := [.sf, .zto, .yto, .sto, .yunda, .ems, .jd]

/-- The value of a member. -/
def CarrierCode.value : CarrierCode → String
  | sf => "sf"
  | zto => "zto"
  | yto => "yto"
  | sto => "sto"
  | yunda => "yunda"
  | ems => "ems"
  | jd => "jd"

/-- `CARRIER_NAMES`. -/
def carrierNames : CarrierCode → String
  | .sf => "顺丰速运"
  | .zto => "中通快递"
  | .yto => "圆通速递"
  | .sto => "申通快递"
  | .yunda => "韵达快递"
  | .ems => "EMS邮政"
  | .jd => "京东物流"

/-- `CARRIER_TRACKING_URLS`, as the parts of a template around the number. -/
def trackingUrls : CarrierCode → List String
  | .sf => ["https://www.sf-express.com/we/ow/chn/sc/waybill/waybill-detail/"]
  | .zto => ["https://track.zto.com/?nu=", ""]
  | .yto => ["https://www.yto.net.cn/tracking/", ""]
  | .sto => ["https://www.sto.cn/track?waybillNo=", ""]
  | .yunda => ["https://www.yundaex.com/track/", ""]
  | .ems => ["https://www.ems.com.cn/track?trackNum=", ""]
  | .jd => ["https://www.jdl.com/tracking?waybill=", ""]

/-- `get_tracking_url`. -/
def getTrackingUrl (carrier : CarrierCode) (trackingNumber : String) : String :=
  match trackingUrls carrier with
  | [template] => template ++ trackingNumber
  | parts => trackingNumber.intercalate parts

/-- `validate_carrier`.  Only ASCII letters have the letters of a code as their lower case. -/
def validateCarrier (carrier : String) : Option CarrierCode :=
  validCarriers.find? fun code => code.value.toList = carrier.toList.map Char.toLower

/-- `prefix_map`. -/
def prefixMap : CarrierCode → String
  | .sf => "SF"
  | .zto => "ZT"
  | .yto => "YT"
  | .sto => "ST"
  | .yunda => "YD"
  | .ems => "EM"
  | .jd => "JD"

/-- `uuid.hex`. -/
def uuidHex (id : Uuid) : List Char := List.leftpad 32 '0' (Nat.toDigits 16 id)

/-- The end of a number: a hash of the order, or random digits if it has no identifier. -/
def suffix (orderId : String) (random : Uuid) : List Char :=
  ((if orderId = "" then uuidHex random else md5 orderId).take 8).map Char.toUpper

/-- `generate_tracking_number`, at a time. -/
def generateTrackingNumber (carrier : CarrierCode) (orderId : String) (today : ℤ)
    (random : Uuid) : String :=
  prefixMap carrier ++ shortDate today ++ String.ofList (suffix orderId random)

/-! ### The table -/

/-- `Waybill`. -/
structure Waybill (Items : Type) where
  id : Uuid
  trackingNumber : String
  orderId : String
  carrierCode : String
  carrierName : String
  recipientName : String
  recipientPhone : String
  recipientAddress : String
  items : Items
  status : String
  printCount : ℤ
  lastPrintedAt : Option ℤ
  labelUrl : String
  isDeleted : Bool
  deletedAt : Option ℤ
  createdAt : ℤ
  updatedAt : ℤ

/-- `model_to_dict` of a waybill. -/
structure WaybillDict (Items : Type) where
  id : String
  trackingNumber : String
  orderId : String
  carrierCode : String
  carrierName : String
  recipientName : String
  recipientPhone : String
  recipientAddress : String
  items : Items
  status : String
  printCount : ℤ
  lastPrintedAt : Option String
  labelUrl : String
  isDeleted : Bool
  deletedAt : Option String
  createdAt : String
  updatedAt : String

variable {Items : Type}

/-- `model_to_dict`. -/
def modelToDict (wb : Waybill Items) : WaybillDict Items where
  id := Uuid.text wb.id
  trackingNumber := wb.trackingNumber
  orderId := wb.orderId
  carrierCode := wb.carrierCode
  carrierName := wb.carrierName
  recipientName := wb.recipientName
  recipientPhone := wb.recipientPhone
  recipientAddress := wb.recipientAddress
  items := wb.items
  status := wb.status
  printCount := wb.printCount
  lastPrintedAt := wb.lastPrintedAt.map isoformat
  labelUrl := wb.labelUrl
  isDeleted := wb.isDeleted
  deletedAt := wb.deletedAt.map isoformat
  createdAt := isoformat wb.createdAt
  updatedAt := isoformat wb.updatedAt

/-- The table. -/
abbrev WaybillDb (Items : Type) := List (Waybill Items)

/-- The texts of a row, with the limits of their columns. -/
def Waybill.texts (wb : Waybill Items) : List (String × Option ℕ) :=
  [(wb.trackingNumber, some 50), (wb.orderId, some 50), (wb.carrierCode, some 10),
    (wb.carrierName, some 50), (wb.recipientName, some 100), (wb.recipientPhone, some 20),
    (wb.recipientAddress, none), (wb.status, some 20), (wb.labelUrl, none)]

/-- The row, as its columns keep it. -/
def Waybill.kept (wb : Waybill Items) : Waybill Items :=
  { wb with
    trackingNumber := Text.cut 50 wb.trackingNumber
    orderId := Text.cut 50 wb.orderId
    carrierCode := Text.cut 10 wb.carrierCode
    carrierName := Text.cut 50 wb.carrierName
    recipientName := Text.cut 100 wb.recipientName
    recipientPhone := Text.cut 20 wb.recipientPhone
    status := Text.cut 20 wb.status }

section

-- what PostgreSQL keeps of the items in a `JSONB` column, if it takes them
variable (jsonb : Items → Option Items)

/-- The `INSERT` of a row with new columns, and its commit. -/
def insertWaybill (wb : Waybill Items) (db : WaybillDb Items) :
    Except ServiceError (Waybill Items) :=
  match jsonb wb.items with
  | none => .error .dataError
  | some items =>
    if ∀ column ∈ wb.texts, TextFits column then
      if wb.id ∈ db.map Waybill.id ∨ wb.kept.trackingNumber ∈ db.map Waybill.trackingNumber then
        .error .integrityError
      else .ok { wb.kept with items }
    else .error .dataError

/-! ### The service -/

/-- `CreateWaybillRequest`. -/
structure CreateWaybillRequest (Items : Type) where
  orderId : String
  recipientName : String
  recipientPhone : String
  recipientAddress : String
  items : Items
  carrierCode : String

/-- The carrier of a request. -/
def CreateWaybillRequest.carrier (req : CreateWaybillRequest Items) : CarrierCode :=
  (validateCarrier req.carrierCode).getD .zto

/-- What is drawn and read for a waybill: its identifier, random digits, and the clock, for the date
in the number and for the row. -/
structure Drawn where
  id : Uuid
  random : Uuid
  today : ℤ
  now : ℤ

/-- The number of a request. -/
def CreateWaybillRequest.tracking (req : CreateWaybillRequest Items) (drawn : Drawn) : String :=
  generateTrackingNumber req.carrier req.orderId drawn.today drawn.random

/-- The row of a request. -/
def newWaybill (req : CreateWaybillRequest Items) (drawn : Drawn) : Waybill Items where
  id := drawn.id
  trackingNumber := req.tracking drawn
  orderId := req.orderId
  carrierCode := req.carrier.value
  carrierName := carrierNames req.carrier
  recipientName := req.recipientName
  recipientPhone := req.recipientPhone
  recipientAddress := req.recipientAddress
  items := req.items
  status := "created"
  printCount := 0
  lastPrintedAt := none
  labelUrl := getTrackingUrl req.carrier (req.tracking drawn)
  isDeleted := false
  deletedAt := none
  createdAt := drawn.now
  updatedAt := drawn.now

/-- `create_waybill`. -/
def createWaybill (req : CreateWaybillRequest Items) (drawn : Drawn) (db : WaybillDb Items) :
    Except ServiceError (WaybillDict Items) × WaybillDb Items :=
  match insertWaybill jsonb (newWaybill req drawn) db with
  | .error e => (.error e, db)
  | .ok wb => (.ok (modelToDict wb), db ++ [wb])

/-- The query for a number, which takes no zero character either. -/
def selectWaybill (tracking : String) (db : WaybillDb Items) :
    Except ServiceError (Waybill Items) :=
  if Char.ofNat 0 ∈ tracking.toList then .error .dataError
  else
    match db.filter fun wb => wb.trackingNumber = tracking ∧ ¬ wb.isDeleted with
    | [] => .error (.notFound ("运单 " ++ tracking ++ " 不存在"))
    | [wb] => .ok wb
    | _ => .error .multipleResults

/-- `get_waybill`. -/
def getWaybill (tracking : String) (db : WaybillDb Items) :
    Except ServiceError (WaybillDict Items) :=
  modelToDict <$> selectWaybill tracking db

/-- A waybill that is voided. -/
def Waybill.voided (now : ℤ) (wb : Waybill Items) : Waybill Items :=
  { wb with status := "voided", updatedAt := now }

/-- `void_waybill`. -/
def voidWaybill (tracking : String) (now : ℤ) (db : WaybillDb Items) :
    Except ServiceError (WaybillDict Items) × WaybillDb Items :=
  match selectWaybill tracking db with
  | .error e => (.error e, db)
  | .ok wb =>
    if wb.status = "voided" then
      (.error (.validation ("运单 " ++ tracking ++ " 已作废") none), db)
    else
      (.ok (modelToDict (wb.voided now)), updateRows Waybill.id wb.id (Waybill.voided now) db)

/-- A waybill that is printed once more. -/
def Waybill.printed (printedAt now : ℤ) (wb : Waybill Items) : Waybill Items :=
  { wb with printCount := wb.printCount + 1, lastPrintedAt := some printedAt, updatedAt := now }

/-- `mark_printed`. -/
def markPrinted (tracking : String) (printedAt now : ℤ) (db : WaybillDb Items) :
    Except ServiceError (WaybillDict Items) × WaybillDb Items :=
  match selectWaybill tracking db with
  | .error e => (.error e, db)
  | .ok wb =>
    if FitsInteger (wb.printCount + 1) then
      (.ok (modelToDict (wb.printed printedAt now)),
        updateRows Waybill.id wb.id (Waybill.printed printedAt now) db)
    else (.error .dataError, db)

/-! ### The calls -/

/-- A call of the service. -/
inductive Call (Items : Type)
  | create (req : CreateWaybillRequest Items) (drawn : Drawn)
  | void (tracking : String) (now : ℤ)
  | print (tracking : String) (printedAt now : ℤ)

/-- What a call returns, and the table after it. -/
def Call.exec : Call Items → WaybillDb Items →
    Except ServiceError (WaybillDict Items) × WaybillDb Items
  | create req drawn => createWaybill jsonb req drawn
  | void tracking now => voidWaybill tracking now
  | print tracking printedAt now => markPrinted tracking printedAt now

/-- `uuid4` draws an identifier that is not in use. -/
def Call.Fresh (db : WaybillDb Items) : Call Items → Prop
  | create _ drawn => drawn.id ∉ db.map Waybill.id
  | _ => True

instance (db : WaybillDb Items) : (call : Call Items) → Decidable (call.Fresh db)
  | .create _ drawn => inferInstanceAs (Decidable (drawn.id ∉ db.map Waybill.id))
  | .void _ _ | .print _ _ _ => instDecidableTrue

/-- **The calls**, one after another. -/
def waybillSystem : Lts (WaybillDb Items) (Call Items) where
  step db call db' := call.Fresh db ∧ db' = (call.exec jsonb db).2

end

end Logistics

end OmsWmsTms
