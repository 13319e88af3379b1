import OmsWmsTms.Admin.InventoryCsv

/-!
# An export of the inventory is not imported back

`stream_csv` puts a byte order mark before the header, which `decode("utf-8")` keeps, and prints the
quantities with four decimals, which `int` does not read.

* `decode_export` : the text that the import endpoint decodes.
* `read_export` : the records in it.
* `importRow_exported` : a row of it is not read as a number.
* `roundTrips_iff` : nothing is reported exactly when there is nothing to export.
-/

namespace OmsWmsTms

namespace Admin

/-! ### The text of an export -/

/-- The fields of a row. -/
def exportFields (inv : InventoryRow) : Csv.Record :=
  [Uuid.text inv.skuId, Uuid.text inv.warehouseId, inv.quantity.toText, inv.lockedQty.toText,
    inv.minQty.toText, (inv.updatedAt.map fun t => isoformat t.micros).getD ""]

theorem exportRow_fields (inv : InventoryRow) :
    inventoryColumns.map (fun column => ((exportRow inv).get? column).getD "") =
      exportFields inv := by
  simp [inventoryColumns, exportRow, exportFields]

/-- The header, as a reader sees it. -/
def exportHeader : Csv.Record :=
  ["\ufeffsku_id", "warehouse_id", "quantity", "locked_qty", "min_qty", "updated_at"]

theorem bom_header :
    bom.toList ++ Csv.excel.writeRow inventoryColumns = Csv.excel.writeRow exportHeader := rfl

/-- Chunks of bytes are the bytes of the text. -/
theorem foldl_toUTF8 (texts : List String) (text : String) :
    (texts.map String.toUTF8).foldl (· ++ ·) text.toUTF8 =
      (texts.foldl (· ++ ·) text).toUTF8 := by
  induction texts generalizing text with
  | nil => rfl
  | cons first texts ih =>
    have hbytes : text.toUTF8 ++ first.toUTF8 = (text ++ first).toUTF8 :=
      String.toByteArray_append.symm
    rw [List.map_cons, List.foldl_cons, List.foldl_cons, hbytes, ih]

theorem toList_foldl_append (texts : List String) (text : String) :
    (texts.foldl (· ++ ·) text).toList = text.toList ++ texts.flatMap String.toList := by
  induction texts generalizing text with
  | nil => simp
  | cons first texts ih => simp [ih]

/-- The text of an export. -/
def exportText (inventory : List InventoryRow) : String :=
  String.ofList (Csv.excel.write (exportHeader :: inventory.map exportFields))

/-- **What the import endpoint decodes.** -/
theorem decode_export (inventory : List InventoryRow) :
    String.fromUTF8? (exportInventoryCsv inventory) = some (exportText inventory) := by
  let texts := inventory.map fun inv => String.ofList (Csv.excel.writeRow (exportFields inv))
  let header := bom ++ String.ofList (Csv.excel.writeRow inventoryColumns)
  have hchunks : streamCsv (exportInventory inventory) inventoryColumns =
      header.toUTF8 :: texts.map String.toUTF8 := by
    simp only [streamCsv, exportInventory, List.map_map, texts, header, Function.comp_def,
      exportRow_fields]
  have htext : texts.foldl (· ++ ·) header = exportText inventory := by
    refine String.toList_injective ?_
    rw [toList_foldl_append, exportText, String.toList_ofList, Csv.Dialect.write,
      List.flatMap_cons, ← bom_header]
    simp only [header, texts, String.toList_append, String.toList_ofList, List.flatMap_map]
  have hbody : exportInventoryCsv inventory = (exportText inventory).toUTF8 := by
    rw [exportInventoryCsv, body, hchunks, List.foldl_cons, ← htext, ← foldl_toUTF8]
    rfl
  rw [hbody]
  exact dif_pos (exportText inventory).isValidUTF8

/-! ### The length of its fields -/

theorem length_padded_le {width e : ℕ} {n : ℤ} (he : 0 < e) (hn : n < 10 ^ e) :
    (padded width n).toList.length ≤ max width e := by
  have hpos : 0 < (10 : ℤ) ^ e := by positivity
  have hnat : (n.toNat : ℤ) < (10 : ℤ) ^ e := by omega
  have hlt : n.toNat < 10 ^ e := by exact_mod_cast hnat
  have hdigits := (Nat.length_toDigits_le_iff (b := 10) (by norm_num) he).2 hlt
  simp only [padded, List.leftpad, String.toList_ofList, List.length_append, List.length_replicate]
  omega

theorem civil_lt {days : ℤ} (h : -719162 ≤ days) (h' : days < 2932897) :
    (civil days).1 < 10 ^ 5 ∧ (civil days).2.1 < 10 ^ 2 ∧ (civil days).2.2 < 10 ^ 2 := by
  simp only [civil]
  split_ifs <;> dsimp only <;> omega

theorem length_isoformat_le (t : DateTime) : (isoformat t.micros).toList.length ≤ 40 := by
  have h := t.year_pos
  have h' := t.year_le
  have hdate : (civil (t.micros / day)).1 < 10 ^ 5 ∧ (civil (t.micros / day)).2.1 < 10 ^ 2 ∧
      (civil (t.micros / day)).2.2 < 10 ^ 2 :=
    civil_lt (by simp only [day, hour, second]; omega) (by simp only [day, hour, second]; omega)
  have hhour : (padded 2 (t.micros % day / hour)).toList.length ≤ 2 :=
    length_padded_le (e := 2) (by norm_num) (by simp only [day, hour, second]; omega)
  have hminute : (padded 2 (t.micros % day % hour / (60 * second))).toList.length ≤ 2 :=
    length_padded_le (e := 2) (by norm_num) (by simp only [day, hour, second]; omega)
  have hsecond : (padded 2 (t.micros % day % (60 * second) / second)).toList.length ≤ 2 :=
    length_padded_le (e := 2) (by norm_num) (by simp only [day, hour, second]; omega)
  have hfraction : (if t.micros % day % second = 0 then "" else
      "." ++ padded 6 (t.micros % day % second)).toList.length ≤ 7 := by
    split_ifs
    · exact Nat.zero_le _
    · have hmicros : (padded 6 (t.micros % day % second)).toList.length ≤ 6 :=
        length_padded_le (e := 6) (by norm_num) (by simp only [second]; omega)
      rw [String.toList_append, List.length_append]
      exact Nat.add_le_add_left hmicros 1
  unfold isoformat
  generalize civil (t.micros / day) = date at hdate ⊢
  obtain ⟨year, month, dayOfMonth⟩ := date
  obtain ⟨hyear, hmonth, hday⟩ := hdate
  have hyears : (padded 4 year).toList.length ≤ 5 := length_padded_le (by norm_num) hyear
  have hmonths : (padded 2 month).toList.length ≤ 2 := length_padded_le (by norm_num) hmonth
  have hdays : (padded 2 dayOfMonth).toList.length ≤ 2 := length_padded_le (by norm_num) hday
  have hdash : "-".toList.length = 1 := rfl
  have hcolon : ":".toList.length = 1 := rfl
  have ht : "T".toList.length = 1 := rfl
  have hzone : "+00:00".toList.length = 6 := rfl
  simp only [String.toList_append, List.length_append]
  omega

theorem length_uuidText_le (id : Uuid) : (Uuid.text id).toList.length ≤ 36 := by
  have hjoin : ∀ a b c d e : String, "-".intercalate [a, b, c, d, e] =
      a ++ "-" ++ b ++ "-" ++ c ++ "-" ++ d ++ "-" ++ e := fun _ _ _ _ _ => rfl
  have hdash : "-".toList.length = 1 := rfl
  unfold Uuid.text
  simp only [hjoin, String.toList_append, List.length_append, String.toList_ofList, hdash,
    List.length_take]
  omega

theorem length_exportHeader :
    ∀ field ∈ exportHeader, field.toList.length ≤ Csv.excel.fieldLimit := by
  have hlimit : Csv.excel.fieldLimit = 131072 := rfl
  simp [exportHeader, hlimit]

theorem length_exportFields (inv : InventoryRow) :
    ∀ field ∈ exportFields inv, field.toList.length ≤ Csv.excel.fieldLimit := by
  have hlimit : Csv.excel.fieldLimit = 131072 := rfl
  have hquantity := inv.quantity.length_toText_le (by norm_num) (by norm_num)
  have hlocked := inv.lockedQty.length_toText_le (by norm_num) (by norm_num)
  have hmin := inv.minQty.length_toText_le (by norm_num) (by norm_num)
  have hsku := length_uuidText_le inv.skuId
  have hwarehouse := length_uuidText_le inv.warehouseId
  have hupdated : ((inv.updatedAt.map fun t => isoformat t.micros).getD "").toList.length ≤ 40 := by
    cases inv.updatedAt with
    | none => exact Nat.zero_le _
    | some t => exact length_isoformat_le t
  simp only [exportFields, List.forall_mem_cons, hlimit]
  refine ⟨?_, ?_, ?_, ?_, ?_, ?_, fun _ h => by cases h⟩ <;> omega

/-- **A reader returns the header and the rows.** -/
theorem read_export (inventory : List InventoryRow) :
    Csv.excel.read (exportText inventory).toList =
      (exportHeader :: inventory.map exportFields, none) := by
  rw [exportText, String.toList_ofList]
  refine Csv.Dialect.read_write fun record hrecord => ?_
  rcases List.mem_cons.1 hrecord with rfl | hrecord
  · exact length_exportHeader
  · obtain ⟨inv, -, rfl⟩ := List.mem_map.1 hrecord
    exact length_exportFields inv

/-! ### The import of an export -/

variable {now : DateTime} {newId : ℕ → Uuid} {inventory : List InventoryRow}

theorem dictRows_export (inventory : List InventoryRow) :
    Csv.dictRows (exportHeader :: inventory.map exportFields) =
      inventory.map fun inv => Csv.dictRow exportHeader (exportFields inv) := by
  have hall : (inventory.map exportFields).filter (fun record => record ≠ []) =
      inventory.map exportFields := by
    refine List.filter_eq_self.2 fun record hrecord => ?_
    obtain ⟨inv, -, rfl⟩ := List.mem_map.1 hrecord
    rfl
  rw [Csv.dictRows, hall, List.map_map]
  rfl

/-- **A row of an export fails at its quantity**, before there is a statement. -/
theorem importRow_exported (start : Db) (id : Uuid) (inv : InventoryRow) (session : Session) :
    importRow now start id (Csv.dictRow exportHeader (exportFields inv)) session =
      (.error (.valueError inv.quantity.toText), session) := by
  -- the byte order mark belongs to the name of the first field
  have hsku : (Csv.dictRow exportHeader (exportFields inv)).get? "sku_id" = none := by
    simp [Csv.dictRow, exportHeader, exportFields]
  have hwarehouse : (Csv.dictRow exportHeader (exportFields inv)).get? "warehouse_id" =
      some (some (Uuid.text inv.warehouseId)) := by
    simp [Csv.dictRow, exportHeader, exportFields]
  have hquantity : (Csv.dictRow exportHeader (exportFields inv)).get? "quantity" =
      some (some inv.quantity.toText) := by
    simp [Csv.dictRow, exportHeader, exportFields]
  have hparse : parseRow (Csv.dictRow exportHeader (exportFields inv)) =
      .error (.valueError inv.quantity.toText) := by
    have hint := Text.parseInt?_eq_none inv.quantity.point_mem_toText
    simp only [parseRow, stripped, number, hsku, hwarehouse, hquantity, hint]
    rfl
  unfold importRow
  rw [hparse]

/-- The errors of an import of some rows, from a row on. -/
def exportErrors (rowNum : ℕ) : List InventoryRow → List (ℕ × ImportError)
  | [] => []
  | inv :: inventory =>
    (rowNum, .valueError inv.quantity.toText) :: exportErrors (rowNum + 1) inventory

theorem importRows_exported (start : Db) (rowNum : ℕ) (results : ImportResults)
    (session : Session) :
    importRows now start newId rowNum
        (inventory.map fun inv => Csv.dictRow exportHeader (exportFields inv))
        (results, session) =
      ({ results with errors := results.errors ++ exportErrors rowNum inventory }, session) := by
  induction inventory generalizing rowNum results with
  | nil => simp [importRows, exportErrors]
  | cons inv inventory ih =>
    rw [List.map_cons, importRows, importRow_exported]
    simp only [ih, exportErrors, List.append_assoc, List.singleton_append]

/-- **An import of an export** reports every row, and changes nothing. -/
theorem importInventory_export (db : Db) :
    importInventory now newId (exportText db.inventory) db =
      (.ok { errors := exportErrors 2 db.inventory }, db) := by
  unfold importInventory
  rw [read_export]
  simp only [dictRows_export, importRows_exported]
  rfl

/-- **The round trip**: an import of what was exported reports no error, and leaves the number, the
quantities, the batches and the locations of the rows as they were. -/
def RoundTrips (now : DateTime) (newId : ℕ → Uuid) (db : Db) : Prop :=
  ∃ content, String.fromUTF8? (exportInventoryCsv db.inventory) = some content ∧
    ∃ results db', importInventory now newId content db = (.ok results, db') ∧
      results.errors = [] ∧
      db'.inventory.map
          (fun inv => (inv.id, inv.quantity, inv.minQty, inv.batchNo, inv.locationId)) =
        db.inventory.map
          (fun inv => (inv.id, inv.quantity, inv.minQty, inv.batchNo, inv.locationId))

/-- What a round trip reports. -/
theorem errors_of_roundTrips {db : Db} (h : RoundTrips now newId db) :
    exportErrors 2 db.inventory = [] := by
  obtain ⟨content, hcontent, results, db', himport, herrors, -⟩ := h
  cases (decode_export db.inventory).symm.trans hcontent
  cases (importInventory_export db).symm.trans himport
  exact herrors

/-- **An export can be imported exactly when it is empty.** -/
theorem roundTrips_iff (now : DateTime) (newId : ℕ → Uuid) (db : Db) :
    RoundTrips now newId db ↔ db.inventory = [] := by
  constructor
  · intro h
    have herrors := errors_of_roundTrips h
    cases hrows : db.inventory with
    | nil => rfl
    | cons inv inventory =>
      rw [hrows] at herrors
      cases herrors
  · intro hempty
    refine ⟨_, decode_export db.inventory, _, _, importInventory_export db, ?_, rfl⟩
    change exportErrors 2 db.inventory = []
    rw [hempty]
    rfl

/-- Ten pieces of a SKU in a warehouse. -/
def tenPieces : Db where
  skus := [1]
  warehouses := [2]
  inventory := [{
    id := 3
    skuId := 1
    warehouseId := 2
    locationId := none
    batchNo := some "B-1"
    quantity := ⟨100000, by norm_num⟩
    lockedQty := 0
    minQty := 0
    updatedAt := none }]

/-- The quantity is exported as `10.0000`, which is not imported. -/
theorem tenPieces_not_roundTrips :
    let now : DateTime := ⟨0, by decide, by decide⟩
    importInventory now (fun rowNum => rowNum) (exportText tenPieces.inventory) tenPieces =
      (.ok { errors := [(2, .valueError "10.0000")] }, tenPieces) ∧
    ¬ RoundTrips now (fun rowNum => rowNum) tenPieces := by
  have herrors : exportErrors 2 tenPieces.inventory = [(2, .valueError "10.0000")] := rfl
  refine ⟨?_, fun h => ?_⟩
  · rw [importInventory_export, herrors]
  · have hnone := errors_of_roundTrips h
    rw [herrors] at hnone
    cases hnone

end Admin

end OmsWmsTms
