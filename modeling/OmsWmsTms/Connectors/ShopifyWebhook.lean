import OmsWmsTms.Connectors.Edi
import OmsWmsTms.Connectors.Service
import OmsWmsTms.Data.Json
import OmsWmsTms.Data.Text

/-!
# Shopify webhooks

`src/connectors/shopify_webhook.py`, with the endpoint of `src/connectors/router.py`.  Of a payload
the messages keep what an import reads, and what can make the parsers raise.

* `Stdlib` : the functions of the standard library that the handlers call.
* `parseOrderCreate`, `parseFulfillment`, `handleShopifyWebhook` : the parsers.
* `handleShopifyWebhook_eq_some` : what they make a message of.
* `ShopifyPayload.toErp` : a payload, as `import_erp_order` and `create_order` read it.
* `shopifyWebhook` : `shopify_webhook`.
-/

namespace OmsWmsTms

namespace Connectors

open Oms (OmsProg)
open Txn (Prog)

/-! ### The standard library -/

/-- What `json.loads` raises. -/
inductive LoadsError
  /-- `JSONDecodeError`. -/
  | jsonDecode
  /-- `UnicodeDecodeError`. -/
  | unicodeDecode
deriving DecidableEq

/-- The functions of the standard library that the handlers call. -/
structure Stdlib where
  /-- `hmac.new(secret.encode(), body, hashlib.sha256).hexdigest()`, with the key of the
  application. -/
  hexdigest : List UInt8 → String
  /-- `json.loads(body)`. -/
  loads : List UInt8 → Except LoadsError Json
  /-- `repr` of a list or an object. -/
  repr : Json → String
  /-- `int(text)`. -/
  int? : String → Option ℤ
  /-- `Decimal(text)` of a number. -/
  decimal? : String → Option ℚ

variable (py : Stdlib)

/-- `str(value)`. -/
def Stdlib.str (value : Json) : String := value.text py.repr

/-- `verify_webhook`; `compare_digest` raises a `TypeError` for a text that is not ASCII. -/
def verifyWebhook (body : List UInt8) (hmacHeader : String) : Except ServiceError Bool :=
  let expected := py.hexdigest body
  if Text.isAscii expected ∧ Text.isAscii hmacHeader then .ok (expected = hmacHeader)
  else .error .typeError

/-! ### The messages -/

/-- A line of an order. -/
structure ShopifyLine where
  sku : String
  productName : String
  quantity : Json
  unitPrice : String
  gtin : String

/-- The payload of a message. -/
inductive ShopifyPayload
  /-- Of `orders/create`. -/
  | order (shopifyOrderId : String) (orderNumber : ℤ) (customerEmail : String)
    (items : List ShopifyLine) (notes : String)
  /-- Of `orders/fulfilled`. -/
  | fulfillment (shopifyOrderId trackingCompany trackingNumber fulfilledAt : String)

/-- `ERPMessage`, from Shopify. -/
structure ShopifyMessage where
  msgType : MessageType
  senderId : String := "shopify"
  receiverId : String := "oms"
  payload : ShopifyPayload

/-- `str(payload.get("id", ""))`. -/
def shopifyOrderId (payload : List (String × Json)) : String :=
  py.str ((Json.member? "id" payload).getD (.str ""))

/-- A line; what is no object is skipped. -/
def parseLine : Json → Option ShopifyLine
  | .dict line => some {
      sku := py.str ((Json.member? "sku" line).getD (.str ""))
      productName := py.str ((Json.member? "title" line).getD (.str ""))
      quantity := (Json.member? "quantity" line).getD (.int 1)
      unitPrice := py.str ((Json.member? "price" line).getD (.str "0"))
      gtin := py.str ((Json.member? "barcode" line).getD (.str "")) }
  | _ => none

/-- `parse_order_create`, unless it raises. -/
def parseOrderCreate (payload : List (String × Json)) : Option ShopifyMessage := do
  let lines ← ((Json.member? "line_items" payload).getD (.list [])).iterate
  let items := lines.filterMap (parseLine py)
  -- `payload.get("note") or ""`
  let note := ((Json.member? "note" payload).getD .null).orElse (.str "")
  let orderNumber ← (((Json.member? "order_number" payload).getD (.int 0)).orElse (.int 0)).int?
    py.int?
  let shown := py.str ((Json.member? "order_number" payload).getD (.str ""))
  let customerEmail := py.str (((Json.member? "email" payload).getD (.str "")).orElse (.str ""))
  let notes := if note.truthy then s!"Shopify #{shown}: {py.str note}" else s!"Shopify #{shown}"
  return { msgType := .orders
           payload := .order (shopifyOrderId py payload) orderNumber customerEmail items notes }

/-- `(payload.get("fulfillments") or [{}])[0]` of a list, and `{}` otherwise; `first.get` raises if
that is no object. -/
def firstFulfillment (payload : List (String × Json)) : Option (List (String × Json)) :=
  match (Json.member? "fulfillments" payload).getD .null with
  | .list (.dict first :: _) => some first
  | .list (_ :: _) => none
  | _ => some []

/-- `parse_fulfillment`, unless it raises. -/
def parseFulfillment (payload : List (String × Json)) : Option ShopifyMessage := do
  let first ← firstFulfillment payload
  let field (name : String) : String :=
    py.str (((Json.member? name first).getD .null).orElse (.str ""))
  return { msgType := .desadv
           payload := .fulfillment (shopifyOrderId py payload) (field "tracking_company")
             (field "tracking_number") (field "created_at") }

/-- `handle_shopify_webhook`: `none` for a message that is not signed, read or handled. -/
def handleShopifyWebhook (topic : String) (body : List UInt8) (hmacHeader : String) :
    Except ServiceError (Option ShopifyMessage) := do
  let verified ← verifyWebhook py body hmacHeader
  if !verified then return none
  else
    match py.loads body with
    -- `except json.JSONDecodeError`; a `UnicodeDecodeError` is not caught
    | .error .jsonDecode => return none
    | .error .unicodeDecode => .error .valueError
    | .ok (.dict payload) =>
      if topic = "orders/create" then return parseOrderCreate py payload
      else if topic = "orders/fulfilled" then return parseFulfillment py payload
      else return none
    | .ok _ => return none

/-- **A message that is handled** was signed and read, and its topic has a parser. -/
theorem handleShopifyWebhook_eq_some {topic : String} {body : List UInt8} {hmacHeader : String}
    {msg : ShopifyMessage} (h : handleShopifyWebhook py topic body hmacHeader = .ok (some msg)) :
    verifyWebhook py body hmacHeader = .ok true ∧ ∃ payload, py.loads body = .ok (.dict payload) ∧
      (topic = "orders/create" ∧ parseOrderCreate py payload = some msg ∨
        topic = "orders/fulfilled" ∧ parseFulfillment py payload = some msg) := by
  unfold handleShopifyWebhook at h
  cases hverify : verifyWebhook py body hmacHeader with
  | error e =>
    rw [hverify] at h
    cases h
  | ok verified =>
    rw [hverify] at h
    cases verified with
    | false => cases h
    | true =>
      refine ⟨rfl, ?_⟩
      simp only [bind, Except.bind, Bool.not_true, Bool.false_eq_true, if_false] at h
      split at h
      · cases h
      · cases h
      · rename_i payload hloads
        refine ⟨payload, hloads, ?_⟩
        split_ifs at h with hcreate hfulfilled
        · exact .inl ⟨hcreate, Except.ok.inj h⟩
        · exact .inr ⟨hfulfilled, Except.ok.inj h⟩
        · cases h
      · cases h

/-! ### The import -/

/-- A line, as `create_order` reads its numbers. -/
def ShopifyLine.toErp (line : ShopifyLine) : Option ErpLine := do
  let unitPrice ← py.decimal? line.unitPrice
  let quantity ← line.quantity.int? py.int?
  return {
    sku := line.sku, productName := line.productName, quantity, unitPrice, gtin := line.gtin }

/-- A payload, as `import_erp_order` and `create_order` read it, unless a number is malformed.  The
type of the message is not looked at. -/
def ShopifyPayload.toErp : ShopifyPayload → Option ErpPayload
  | order _ _ customerEmail items notes =>
    (items.mapM (ShopifyLine.toErp py)).map fun items =>
      { items, customerEmail := some customerEmail, source := some "shopify", notes := some notes }
  | fulfillment _ _ _ _ => some { source := some "shopify" }

/-- What the endpoint reads of a request. -/
structure ShopifyRequest where
  /-- `X-Shopify-Topic`. -/
  topic : String
  /-- `X-Shopify-Hmac-Sha256`. -/
  hmacHeader : String
  /-- The body. -/
  body : List UInt8

/-- The answers of the endpoint. -/
inductive ShopifyAnswer
  /-- 401. -/
  | unauthorized
  | skipped (topic : String)
  | imported (orderId : Uuid)

/-- `shopify_webhook`. -/
def shopifyWebhook (now : ℤ) (datePart suffix : String) (request : ShopifyRequest) :
    OmsProg ShopifyAnswer := do
  let verified ← Prog.ofExcept (verifyWebhook py request.body request.hmacHeader)
  if !verified then return .unauthorized
  else
    match ← Prog.ofExcept
      (handleShopifyWebhook py request.topic request.body request.hmacHeader) with
    | none => return .skipped request.topic
    | some msg =>
      match msg.payload.toErp py with
      | none => .throw .valueError
      | some payload =>
        let order ← importErpOrder now datePart suffix payload
        return .imported order.id

end Connectors

end OmsWmsTms
