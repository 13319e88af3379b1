import OmsWmsTms.Oms.Service

/-!
# The connector service

`src/connectors/service.py`: the payload of an external message, with the defaults that
`payload.get` gives where a field is missing, becomes an order.

* `ErpPayload.toOrder` : the translation.
* `importErpOrder` : `import_erp_order`.
-/

namespace OmsWmsTms

namespace Connectors

open Oms (ItemCreate OrderCreate OrderDict OmsProg)

/-- A line of an external order. -/
structure ErpLine where
  /-- The SKU code. -/
  sku : String := ""
  /-- The product name. -/
  productName : String := ""
  /-- The quantity. -/
  quantity : ℤ := 1
  /-- The price of one unit. -/
  unitPrice : ℚ := 0
  /-- The trade item number. -/
  gtin : String := ""
deriving DecidableEq

/-- The payload of a message; a field is `none` where the message does not have it. -/
structure ErpPayload where
  /-- The lines. -/
  items : List ErpLine := []
  /-- The customer. -/
  customerEmail : Option String := none
  /-- The system that sent the order. -/
  source : Option String := none
  /-- The notes. -/
  notes : Option String := none
deriving DecidableEq

/-- The item of `create_order` for a line. -/
def ErpLine.toItem (line : ErpLine) : ItemCreate where
  gtin := line.gtin
  sku := line.sku
  productName := line.productName
  quantity := line.quantity
  unitPrice := line.unitPrice

/-- The payload of `create_order` for an external order. -/
def ErpPayload.toOrder (payload : ErpPayload) : OrderCreate where
  customerId := payload.customerEmail.getD (payload.source.getD "unknown")
  items := payload.items.map ErpLine.toItem
  priority := "medium"
  notes := payload.notes.getD ("Imported from " ++ payload.source.getD "external")

/-- `import_erp_order`. -/
def importErpOrder (now : ℤ) (datePart suffix : String) (payload : ErpPayload) :
    OmsProg OrderDict :=
  Oms.createOrder now datePart suffix payload.toOrder

end Connectors

end OmsWmsTms
