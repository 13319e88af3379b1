import OmsWmsTms.Imports.Inventory

/-!
# When the rows of the inventory are isolated

A number that does not fit its column fails when the change is written: at the next row, which is
blamed for it, or at the commit.

* `Fits` : the numbers of a row that comes to be written fit.
* `Ahead` : the session, with its pending change, is where the rows on their own are.
* `Doomed` : the commit will fail.
* `ahead_importRows`, `doomed_of_exists` : one of the two is what the loop ends in.
* `inventory_isolated_iff` : when the rows are isolated.
-/

namespace OmsWmsTms

namespace Imports

namespace Inventory

open Admin (Change CsvRow DateTime Db ImportError)

/-- The numbers of a row fit their columns, if its warehouse and its SKU are there, with at most one
row of the inventory. -/
def Fits (db : Db) (row : CsvRow) : Prop :=
  ∀ stock, readRow row = .ok stock → stock.warehouseId ∈ db.warehouses → stock.skuId ∈ db.skus →
    (Admin.select stock.skuId stock.warehouseId db).length ≤ 1 →
    (Numeric.ofRat? stock.parsed.quantity : Option (Numeric 20 4)).isSome = true ∧
      (Numeric.ofRat? stock.parsed.minQty : Option (Numeric 18 4)).isSome = true

instance (db : Db) (row : CsvRow) : Decidable (Fits db row) :=
  match hread : readRow row with
  | .error _ => .isTrue fun _ hok => nomatch hread.symm.trans hok
  | .ok stock => decidable_of_iff
      (stock.warehouseId ∈ db.warehouses → stock.skuId ∈ db.skus →
        (Admin.select stock.skuId stock.warehouseId db).length ≤ 1 →
        (Numeric.ofRat? stock.parsed.quantity : Option (Numeric 20 4)).isSome = true ∧
          (Numeric.ofRat? stock.parsed.minQty : Option (Numeric 18 4)).isSome = true)
      ⟨fun h _ hok => Except.ok.inj (hread.symm.trans hok) ▸ h, fun h => h stock hread⟩

/-! ### One change -/

/-- What decides whether a row comes to be written is as it was. -/
structure SameShape (db db' : Db) : Prop where
  warehouses : db'.warehouses = db.warehouses
  skus : db'.skus = db.skus
  select : ∀ skuId warehouseId, (Admin.select skuId warehouseId db').length ≤ 1 ↔
    (Admin.select skuId warehouseId db).length ≤ 1

section Change

variable {now : DateTime} {newId : Uuid} {db db' start : Db} {row : CsvRow} {stock : StockRow}
  {change : Change}

theorem fits_iff_of_sameShape (h : SameShape db db') (row : CsvRow) :
    Fits db' row ↔ Fits db row := by
  unfold Fits
  simp only [h.warehouses, h.skus, h.select]

/-- **A row that comes to be written**: what has been found, and the change. -/
theorem stockChange_ok (h : stockChange newId stock db = .ok change) :
    stock.warehouseId ∈ db.warehouses ∧ stock.skuId ∈ db.skus ∧
      (Admin.select stock.skuId stock.warehouseId db = [] ∧ change = .insert newId stock.skuId
        stock.warehouseId stock.parsed.quantity stock.parsed.minQty ∨
      ∃ inv, Admin.select stock.skuId stock.warehouseId db = [inv] ∧
        change = .update inv.id stock.parsed.quantity stock.parsed.minQty) := by
  unfold stockChange at h
  split_ifs at h with hwarehouse hsku
  refine ⟨hwarehouse, hsku, ?_⟩
  unfold Admin.rowChange at h
  rcases hselect : Admin.select stock.skuId stock.warehouseId db with _ | ⟨inv, _ | ⟨inv', rest⟩⟩ <;>
    rw [hselect] at h
  · exact .inl ⟨rfl, (Except.ok.inj h).symm⟩
  · exact .inr ⟨inv, rfl, (Except.ok.inj h).symm⟩
  · cases h

theorem exists_stockChange (newId : Uuid) (hwarehouse : stock.warehouseId ∈ db.warehouses)
    (hsku : stock.skuId ∈ db.skus)
    (hselect : (Admin.select stock.skuId stock.warehouseId db).length ≤ 1) :
    ∃ change, stockChange newId stock db = .ok change := by
  rw [stockChange, if_neg (not_not.2 hwarehouse), if_neg (not_not.2 hsku), Admin.rowChange]
  rcases hrows : Admin.select stock.skuId stock.warehouseId db with _ | ⟨inv, _ | ⟨inv', rest⟩⟩
  · exact ⟨_, rfl⟩
  · exact ⟨_, rfl⟩
  · simp [hrows] at hselect

/-- It is written exactly if its numbers fit. -/
theorem writeChange_ok_iff (now : DateTime) (h : stockChange newId stock db = .ok change) :
    (∃ db', writeChange now db change = .ok db') ↔
      (Numeric.ofRat? stock.parsed.quantity : Option (Numeric 20 4)).isSome = true ∧
        (Numeric.ofRat? stock.parsed.minQty : Option (Numeric 18 4)).isSome = true := by
  obtain ⟨hwarehouse, hsku, hchange⟩ := stockChange_ok h
  have hboth : stock.skuId ∈ db.skus ∧ stock.warehouseId ∈ db.warehouses := ⟨hsku, hwarehouse⟩
  rcases hchange with ⟨-, rfl⟩ | ⟨inv, -, rfl⟩ <;>
    cases hquantity : (Numeric.ofRat? stock.parsed.quantity : Option (Numeric 20 4)) <;>
    cases hminQty : (Numeric.ofRat? stock.parsed.minQty : Option (Numeric 18 4)) <;>
    simp [writeChange, Change.write, hquantity, hminQty, hboth]

/-- What is written changes nothing about which rows come to be written. -/
theorem sameShape_of_writeChange (h : stockChange newId stock db = .ok change)
    (hwrite : writeChange now db change = .ok db') : SameShape db db' := by
  obtain ⟨hwarehouse, hsku, hchange⟩ := stockChange_ok h
  rcases hchange with ⟨hselect, rfl⟩ | ⟨inv, hselect, rfl⟩
  · -- the first row of its SKU in its warehouse
    simp only [writeChange] at hwrite
    split at hwrite
    · rw [if_pos ⟨hsku, hwarehouse⟩] at hwrite
      obtain rfl := Except.ok.inj hwrite
      refine ⟨rfl, rfl, fun skuId warehouseId => ?_⟩
      by_cases hsame : stock.skuId = skuId ∧ stock.warehouseId = warehouseId
      · obtain ⟨rfl, rfl⟩ := hsame
        rw [hselect]
        unfold Admin.select at hselect ⊢
        rw [List.filter_append, hselect]
        simp
      · unfold Admin.select
        simp [List.filter_append, hsame]
    · cases hwrite
  · -- the SKUs and the warehouses of the rows stay
    simp only [writeChange, Change.write] at hwrite
    split at hwrite
    · obtain rfl := Except.ok.inj hwrite
      refine ⟨rfl, rfl, fun skuId warehouseId => ?_⟩
      unfold Admin.select
      rw [List.filter_map, List.length_map]
      refine Iff.of_eq (congrArg (fun l => List.length l ≤ 1) (List.filter_congr fun r _ => ?_))
      simp only [Function.comp_apply]
      split <;> rfl
    · cases hwrite

theorem SameShape.refl (db : Db) : SameShape db db := ⟨rfl, rfl, fun _ _ => .rfl⟩

theorem SameShape.trans {db'' : Db} (h : SameShape db db') (h' : SameShape db' db'') :
    SameShape db db'' where
  warehouses := h'.warehouses.trans h.warehouses
  skus := h'.skus.trans h.skus
  select skuId warehouseId := (h'.select skuId warehouseId).trans (h.select skuId warehouseId)

end Change

/-! ### The session of the import -/

/-- The session, with its pending change, is where the rows on their own are. -/
structure Ahead (now : DateTime) (start d : Db) (session : Admin.Session) : Prop where
  active : session.deactive = false
  flush : Inventory.flush now start session = (.ok (), { db := d })

/-- A flush has failed, or the pending change will fail. -/
def Doomed (now : DateTime) (session : Admin.Session) : Prop :=
  session.deactive = true ∨
    ∃ change e, session.pending = some change ∧ writeChange now session.db change = .error e

section Session

variable {now : DateTime} {newId : Uuid} {start d d' : Db} {row : CsvRow} {stock : StockRow}
  {session : Admin.Session} {change : Change} {e : ImportError}

theorem ahead_self : Ahead now start d { db := d } := ⟨rfl, rfl⟩

/-- A change that can be written. -/
theorem ahead_of_writeChange (hwrite : writeChange now d change = .ok d') :
    Ahead now start d' { db := d, pending := some change } := by
  refine ⟨rfl, ?_⟩
  simp only [flush, hwrite]

theorem commit_of_ahead (h : Ahead now start d session) : commit now start session = .ok d := by
  simp only [commit, h.active, h.flush, Bool.false_eq_true, if_false]

theorem commit_of_doomed (h : Doomed now session) :
    ∃ e, commit now start session = .error e := by
  unfold commit
  by_cases hactive : session.deactive = true
  · exact ⟨_, if_pos hactive⟩
  · obtain ⟨change, e, hpending, hwrite⟩ := h.resolve_left hactive
    refine ⟨e, ?_⟩
    simp only [if_neg hactive, flush, hpending, hwrite]

/-- **A row behind a session that is ahead**: its first statement writes what is pending. -/
theorem importRow_of_ahead (newId : Uuid) (h : Ahead now start d session)
    (hread : readRow row = .ok stock) :
    importRow now start newId row session =
      match stockChange newId stock d with
      | .error e => (.error e, { db := d })
      | .ok change => (.ok (), { db := d, pending := some change }) := by
  cases hchange : stockChange newId stock d <;>
    simp [importRow, hread, h.active, h.flush, hchange]

theorem importRow_of_readRow_error (hread : readRow row = .error e) :
    importRow now start newId row session = (.error e, session) := by
  simp only [importRow, hread]

theorem importAlone_of_readRow_error (hread : readRow row = .error e) :
    importAlone now newId row d = .error e := by
  simp only [importAlone, importRow_of_readRow_error hread]

theorem importAlone_of_stockChange_error (hread : readRow row = .ok stock)
    (hchange : stockChange newId stock d = .error e) :
    importAlone now newId row d = .error e := by
  simp only [importAlone, importRow_of_ahead newId ahead_self hread, hchange]

theorem importAlone_of_writeChange (hread : readRow row = .ok stock)
    (hchange : stockChange newId stock d = .ok change)
    (hwrite : writeChange now d change = .ok d') : importAlone now newId row d = .ok d' := by
  simp only [importAlone, importRow_of_ahead newId ahead_self hread, hchange,
    commit_of_ahead (ahead_of_writeChange hwrite)]

/-- Once it is doomed, it stays so: a row fails before its first statement, or its first statement
fails. -/
theorem doomed_importRow (start : Db) (newId : Uuid) (row : CsvRow) (h : Doomed now session) :
    Doomed now (importRow now start newId row session).2 := by
  unfold importRow
  cases readRow row with
  | error e => exact h
  | ok stock =>
    by_cases hactive : session.deactive = true
    · simp only [hactive, if_true]
      exact h
    · obtain ⟨change, e, hpending, hwrite⟩ := h.resolve_left hactive
      simp only [if_neg hactive, flush, hpending, hwrite]
      exact .inl rfl

/-- **A row whose numbers do not fit** passes, and what it leaves pending will fail. -/
theorem doomed_of_not_fits (newId : Uuid) (h : Ahead now start d session) (hfits : ¬Fits d row) :
    Doomed now (importRow now start newId row session).2 := by
  simp only [Fits, not_forall] at hfits
  obtain ⟨stock, hread, hwarehouse, hsku, hselect, hnumbers⟩ := hfits
  obtain ⟨change, hchange⟩ := exists_stockChange newId hwarehouse hsku hselect
  rw [importRow_of_ahead newId h hread, hchange]
  cases hwrite : writeChange now d change with
  | error e => exact .inr ⟨change, e, rfl, hwrite⟩
  | ok d' => exact absurd ((writeChange_ok_iff now hchange).1 ⟨d', hwrite⟩) hnumbers

/-- **A row whose numbers fit** is answered as on its own, and the session stays ahead. -/
theorem ahead_importRow (newId : Uuid) (h : Ahead now start d session) (hfits : Fits d row) :
    (∃ e session', importAlone now newId row d = .error e ∧
      importRow now start newId row session = (.error e, session') ∧ Ahead now start d session') ∨
    ∃ d' session', importAlone now newId row d = .ok d' ∧ SameShape d d' ∧
      importRow now start newId row session = (.ok (), session') ∧ Ahead now start d' session' := by
  cases hread : readRow row with
  | error e =>
    exact .inl ⟨e, session, importAlone_of_readRow_error hread, importRow_of_readRow_error hread, h⟩
  | ok stock =>
    have hrow := importRow_of_ahead newId h hread
    cases hchange : stockChange newId stock d with
    | error e =>
      rw [hchange] at hrow
      exact .inl ⟨e, _, importAlone_of_stockChange_error hread hchange, hrow, ahead_self⟩
    | ok change =>
      rw [hchange] at hrow
      -- what comes to be written can be written
      obtain ⟨hwarehouse, hsku, hrows⟩ := stockChange_ok hchange
      have hselect : (Admin.select stock.skuId stock.warehouseId d).length ≤ 1 := by
        rcases hrows with ⟨hnone, -⟩ | ⟨inv, hone, -⟩
        · simp [hnone]
        · simp [hone]
      obtain ⟨d', hwrite⟩ :=
        (writeChange_ok_iff now hchange).2 (hfits stock hread hwarehouse hsku hselect)
      exact .inr ⟨d', _, importAlone_of_writeChange hread hchange hwrite,
        sameShape_of_writeChange hchange hwrite, hrow, ahead_of_writeChange hwrite⟩

end Session

/-! ### The loop -/

/-- The rows of an import, in the session of the loop. -/
def importRows (now : DateTime) (start : Db) (newId : ℕ → Uuid) :
    ℕ → List CsvRow → Admin.Session → Batch.Report ImportError × Admin.Session :=
  Batch.loop fun rowNum => importRow now start (newId rowNum)

/-- A row in a session of its own, with the identifier that it would have. -/
def rowAlone (now : DateTime) (newId : ℕ → Uuid) (rowNum : ℕ) :
    CsvRow → Db → Except ImportError Db :=
  importAlone now (newId rowNum)

section Loop

variable {now : DateTime} {newId : ℕ → Uuid} {start d : Db} {n : ℕ} {row : CsvRow}
  {rows : List CsvRow} {session session' : Admin.Session} {e : ImportError}

theorem importRows_cons_ok
    (h : importRow now start (newId n) row session = (.ok (), session')) :
    importRows now start newId n (row :: rows) session =
      ((importRows now start newId (n + 1) rows session').1.cons n (.ok ()),
        (importRows now start newId (n + 1) rows session').2) :=
  Batch.loop_cons_ok h

theorem importRows_cons_error
    (h : importRow now start (newId n) row session = (.error e, session')) :
    importRows now start newId n (row :: rows) session =
      ((importRows now start newId (n + 1) rows session').1.cons n (.error e),
        (importRows now start newId (n + 1) rows session').2) :=
  Batch.loop_cons_error h

theorem doomed_importRows (h : Doomed now session) :
    Doomed now (importRows now start newId n rows session).2 :=
  Batch.loop_invariant (fun rowNum row _ => doomed_importRow start (newId rowNum) row) n rows h

/-- **All numbers fit**: the rows are answered as on their own, and the session is ahead. -/
theorem ahead_importRows (newId : ℕ → Uuid) (n : ℕ) (h : Ahead now start d session)
    (hfits : ∀ row ∈ rows, Fits d row) :
    (importRows now start newId n rows session).1.failed =
        Batch.failing (rowAlone now newId) n rows d ∧
      Ahead now start (Batch.after (rowAlone now newId) n rows d)
        (importRows now start newId n rows session).2 := by
  induction rows generalizing n d session with
  | nil => exact ⟨rfl, h⟩
  | cons row rows ih =>
    obtain ⟨hrow, hrest⟩ := List.forall_mem_cons.1 hfits
    rcases ahead_importRow (newId n) h hrow with
      ⟨e, session', halone, hstep, hahead⟩ | ⟨d', session', halone, hshape, hstep, hahead⟩
    · have halone' : rowAlone now newId n row d = .error e := halone
      obtain ⟨hfailed, hafter⟩ := ih (n := n + 1) hahead hrest
      rw [importRows_cons_error hstep, Batch.failing_cons_error halone',
        Batch.after_cons_error halone', Batch.Report.failed_cons_error]
      exact ⟨congrArg (n :: ·) hfailed, hafter⟩
    · have halone' : rowAlone now newId n row d = .ok d' := halone
      have hrest' (row' : CsvRow) (hmem : row' ∈ rows) : Fits d' row' :=
        (fits_iff_of_sameShape hshape row').2 (hrest row' hmem)
      obtain ⟨hfailed, hafter⟩ := ih (n := n + 1) hahead hrest'
      rw [importRows_cons_ok hstep, Batch.failing_cons_ok halone', Batch.after_cons_ok halone',
        Batch.Report.failed_cons_ok]
      exact ⟨hfailed, hafter⟩

/-- **Some numbers do not fit**: the commit will fail. -/
theorem doomed_of_exists (newId : ℕ → Uuid) (n : ℕ) (h : Ahead now start d session)
    (hfits : ¬∀ row ∈ rows, Fits d row) :
    Doomed now (importRows now start newId n rows session).2 := by
  induction rows generalizing n d session with
  | nil => exact absurd (List.forall_mem_nil _) hfits
  | cons row rows ih =>
    by_cases hrow : Fits d row
    · have hrest : ¬∀ row' ∈ rows, Fits d row' := fun hall =>
        hfits (List.forall_mem_cons.2 ⟨hrow, hall⟩)
      rcases ahead_importRow (newId n) h hrow with
        ⟨e, session', -, hstep, hahead⟩ | ⟨d', session', -, hshape, hstep, hahead⟩
      · rw [importRows_cons_error hstep]
        exact ih (n := n + 1) hahead hrest
      · rw [importRows_cons_ok hstep]
        refine ih (n := n + 1) hahead fun hall => hrest fun row' hmem => ?_
        exact (fits_iff_of_sameShape hshape row').1 (hall row' hmem)
    · have hdoomed := doomed_of_not_fits (newId n) h hrow
      rcases hstep : importRow now start (newId n) row session with ⟨e | ⟨⟩, session'⟩ <;>
        rw [hstep] at hdoomed
      · rw [importRows_cons_error hstep]
        exact doomed_importRows hdoomed
      · rw [importRows_cons_ok hstep]
        exact doomed_importRows hdoomed

section Handler

variable {newId : ℕ → Uuid} {csvText : String} {db : Db} {records : List (List String)}

/-- The answer to a text that is read to its end, if the commit succeeds. -/
theorem handleInventoryImport_of_commit (hread : Csv.excel.read csvText.toList = (records, none))
    (hcommit : commit now db (importRows now db newId 2 (Csv.dictRows records) { db }).2 = .ok d) :
    handleInventoryImport now newId csvText db =
      (.ok (importRows now db newId 2 (Csv.dictRows records) { db }).1, d) := by
  unfold importRows at hcommit ⊢
  simp only [handleInventoryImport, hread, hcommit]

/-- The answer if the commit fails. -/
theorem handleInventoryImport_of_commit_error {e : ImportError}
    (hread : Csv.excel.read csvText.toList = (records, none))
    (hcommit : commit now db (importRows now db newId 2 (Csv.dictRows records) { db }).2 =
      .error e) : handleInventoryImport now newId csvText db = (.error e, db) := by
  unfold importRows at hcommit
  simp only [handleInventoryImport, hread, hcommit]

/-- The answer to a text that is not read to its end. -/
theorem handleInventoryImport_of_read_error {error : Csv.Dialect.Error}
    (hread : Csv.excel.read csvText.toList = (records, some error)) :
    handleInventoryImport now newId csvText db = (.error (.csvError error), db) := by
  simp only [handleInventoryImport, hread]

end Handler

/-- **When the rows of the inventory are isolated**: the reader reads the text to its end, and all
numbers fit. -/
theorem inventory_isolated_iff (now : DateTime) (newId : ℕ → Uuid) (csvText : String) (db : Db) :
    Batch.Isolated (rowAlone now newId) 2 (Csv.dictRows (Csv.excel.read csvText.toList).1) db
        (handleInventoryImport now newId csvText db) ↔
      (Csv.excel.read csvText.toList).2 = none ∧
        ∀ row ∈ Csv.dictRows (Csv.excel.read csvText.toList).1, Fits db row := by
  rcases hread : Csv.excel.read csvText.toList with ⟨records, _ | error⟩
  · simp only [true_and]
    by_cases hfits : ∀ row ∈ Csv.dictRows records, Fits db row
    · obtain ⟨hfailed, hahead⟩ := ahead_importRows newId 2 ahead_self hfits
      rw [handleInventoryImport_of_commit hread (commit_of_ahead hahead)]
      exact iff_of_true ⟨_, rfl, Batch.success_add_length _ _ _ _, hfailed, rfl⟩ hfits
    · obtain ⟨e, he⟩ := commit_of_doomed
        (doomed_of_exists newId 2 ahead_self hfits)
      rw [handleInventoryImport_of_commit_error hread he]
      exact iff_of_false (fun ⟨report, hanswer, _⟩ => by cases hanswer) hfits
  · rw [handleInventoryImport_of_read_error hread]
    exact iff_of_false (fun ⟨report, hanswer, _⟩ => by cases hanswer) fun h => by cases h.1

end Loop

end Inventory

end Imports

end OmsWmsTms
