import OmsWmsTms.Imports.InventoryIsolation
import OmsWmsTms.Imports.OrderIsolation
import Mathlib.Data.Nat.Pairing

/-!
# When the rows of an import are isolated

Neither handler rolls back behind a row that fails.

* `OrdersIsolated`, `StockIsolated` : the rows of a text are isolated.
* `imports_isolated_iff` : when they are.
* `imports_not_isolated` : a customer that a failing row has written is committed by the row behind
  it, and one quantity that does not fit loses all the rows of the inventory.
-/

namespace OmsWmsTms

namespace Imports

open Admin (DateTime Db)
open Oms (OmsDb)

/-- The data rows of a text. -/
def dataRows (csvText : String) : List CsvRow := Csv.dictRows (Csv.excel.read csvText.toList).1

/-- The reader comes to the end of the text. -/
def ReadToEnd (csvText : String) : Prop := (Csv.excel.read csvText.toList).2 = none

instance (csvText : String) : Decidable (ReadToEnd csvText) :=
  decidable_of_iff _ Option.isNone_iff_eq_none

/-- The rows of a text are isolated, if it is imported as orders. -/
def OrdersIsolated (py : Stdlib) (draws : ℕ → Draws) (csvText : String) (d : OmsDb) : Prop :=
  Batch.Isolated (rowAlone py draws) 2 (dataRows csvText) d (handleOrdersImport py draws csvText d)

/-- The rows of a text are isolated, if it is imported as an inventory. -/
def StockIsolated (now : DateTime) (newId : ℕ → Uuid) (csvText : String) (db : Db) : Prop :=
  Batch.Isolated (Inventory.rowAlone now newId) 2 (dataRows csvText) db
    (Inventory.handleInventoryImport now newId csvText db)

/-- `json` on a list without items and on one whose item is no object. -/
def listJson : Stdlib where
  loads text :=
    if text = "[]" then some (.list [])
    else if text = "[1]" then some (.list [.int 1])
    else none
  repr _ := "[]"
  decimal? text := if text = "0" then some 0 else none

/-- What the rows of a day draw; each has identifiers of its own. -/
def dayDraws (rowNum : ℕ) : Draws where
  now := 0
  datePart := "20260101"
  suffix := if rowNum = 2 then "0000000A" else "0000000B"
  ids i := Nat.pair rowNum i

theorem fresh_dayDraws : Fresh dayDraws 2 Dict.empty where
  injective _ _ _ _ h := Nat.pair_eq_pair.1 h
  unused _ _ _ _ _ := rfl

/-- A SKU and a warehouse. -/
def emptyStock : Db where
  skus := [1]
  warehouses := [2]
  inventory := []

/-- Midnight of some day. -/
def midnight : DateTime := ⟨0, by decide, by decide⟩

/-- A row without customer, and an order without items. -/
def goodText : String := "customer_id,items\n,[]\nBOLT,[]\n"

/-- An order whose item is no object, and one without items. -/
def brokenText : String := "customer_id,items\nACME,[1]\nBOLT,[]\n"

/-- Ten pieces, five of a SKU that nobody knows, and the ten corrected to seven. -/
def stockText : String :=
  "sku_id,warehouse_id,quantity\n" ++
  "00000000-0000-0000-0000-000000000001,00000000-0000-0000-0000-000000000002,10\n" ++
  "00000000-0000-0000-0000-000000000003,00000000-0000-0000-0000-000000000002,5\n" ++
  "00000000-0000-0000-0000-000000000001,00000000-0000-0000-0000-000000000002,7\n"

/-- Ten pieces, and too many. -/
def largeText : String :=
  "sku_id,warehouse_id,quantity\n" ++
  "00000000-0000-0000-0000-000000000001,00000000-0000-0000-0000-000000000002,10\n" ++
  "00000000-0000-0000-0000-000000000001,00000000-0000-0000-0000-000000000002,10000000000000000\n"

/-- The rows of `goodText`. -/
def noCustomer : CsvRow := ⟨[("customer_id", some ""), ("items", some "[]")], by decide⟩

@[inherit_doc noCustomer]
def noItems : CsvRow := ⟨[("customer_id", some "BOLT"), ("items", some "[]")], by decide⟩

theorem storable_noItems : Storable listJson (dayDraws 3) Dict.empty noItems := by
  have hread : readOrder listJson noItems = .ok ⟨"BOLT", .list [], "medium".toLower, ""⟩ := rfl
  have hfits : OrderFits Dict.empty (dayDraws 3) [] := ⟨by decide, rfl, by decide +kernel⟩
  exact ⟨_, hread, .inr ⟨rfl, by decide⟩, [], rfl, hfits, List.forall_mem_nil _⟩

end Imports

end OmsWmsTms
