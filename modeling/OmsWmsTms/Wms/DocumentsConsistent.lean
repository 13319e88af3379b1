import OmsWmsTms.Wms.StockDocuments

/-!
# The totals, lines and statuses of stock documents

A document says the sum of its lines, keeps its identifier and its lines, and goes its way from
`DRAFT`.  The endpoints check the status of a `PUT` with an object only; a `PUT` can write any total
and any new identifier, and the total of a `POST` is rounded once, its lines one by one.

* `Document.Balanced`, `Document.Follows` : what is promised of a document and of a request.
* `Harmless` : the requests that keep it.
* `consistent_iff` : the runs that keep it are those of harmless requests.
* `linesRound_of_onGrid` : lines with four decimals are harmless.
-/

namespace OmsWmsTms

namespace StockDocs

/-! ### What is promised -/

/-- The sum of the lines, as they are stored. -/
def Document.linesTotal (doc : Document) : Decimal :=
  Decimal.exactSum (doc.lines.map fun line => line.qty.toDecimal)

/-- The total is the sum of the lines. -/
def Document.Balanced (doc : Document) : Prop :=
  doc.totalQty.map Quantity.toDecimal = some doc.linesTotal

/-- The way of a document. -/
def Kind.Moves (kind : Kind) (status status' : Option String) : Prop :=
  (status = some "DRAFT" ∧ status' = some "CONFIRMED") ∨
    (status = some "CONFIRMED" ∧ status' = some kind.final)

/-- A document later on. -/
structure Document.Follows (kind : Kind) (doc doc' : Document) : Prop where
  id : doc'.id = doc.id
  lines : doc'.lines = doc.lines
  status : doc'.status = doc.status ∨ kind.Moves doc.status doc'.status

/-- The documents later on: the earlier ones, and new ones in `DRAFT`. -/
def KeptBy (kind : Kind) (docs docs' : List Document) : Prop :=
  ∃ kept new, docs' = kept ++ new ∧ List.Forall₂ (Document.Follows kind) docs kept ∧
    ∀ doc ∈ new, doc.status = some "DRAFT"

/-- **The documents stay consistent.** -/
structure Consistent (s s' : Documents) : Prop where
  balanced : ∀ kind, ∀ doc ∈ s' kind, doc.Balanced
  kept : ∀ kind, KeptBy kind (s kind) (s' kind)

/-! ### What is needed -/

/-- The lines of a `POST` are stored with the sum that is stored, or one of them is NaN. -/
def LinesRound (lines : List Body) : Prop :=
  ∀ numbers : List ℚ, (lines.mapM fun line => (line.value "qty").strDecimal?) =
    some (numbers.map .finite) → Quantity.RoundsTogether 4 numbers

/-- The `data` of a `PUT` writes no other identifier and no other total, and as a list no status but
the next. -/
structure UpdateData.Harmless (kind : Kind) (doc : Document) (data : UpdateData) : Prop where
  id : ∀ assignments ∈ data.assignments kind, ∀ value ∈ Dict.lookup .id assignments,
    value.uuid? = some doc.id
  total : ∀ assignments ∈ data.assignments kind, ∀ value ∈ Dict.lookup .totalQty assignments,
    value.quantity?.map Quantity.toDecimal = some doc.linesTotal
  status : ∀ values, data = .list values → ∀ value ∈ Dict.lookup .status (kind.columns.zip values),
    ∃ status ∈ value.varchar? 32, some status = doc.status ∨ kind.Moves doc.status (some status)

/-- **A request is harmless.** -/
def Harmless (s : Documents) : StockRequest → Prop
  | .create _ _ _ _ lines => LinesRound lines
  | .update kind id? data =>
    ∀ id ∈ id?, ∀ doc ∈ (s kind).find? (fun doc => doc.id = id), data.Harmless kind doc

variable {masters : Masters} {kind : Kind} {doc doc' : Document}

theorem Document.Follows.refl (kind : Kind) (doc : Document) : doc.Follows kind doc :=
  ⟨rfl, rfl, .inl rfl⟩

/-! ### Lists of documents -/

theorem KeptBy.refl (kind : Kind) (docs : List Document) : KeptBy kind docs docs :=
  ⟨docs, [], (List.append_nil _).symm, List.forall₂_same.2 fun doc _ => .refl kind doc,
    fun _ h => (by cases h)⟩

/-- One more document. -/
theorem KeptBy.concat (kind : Kind) (docs : List Document) (h : doc.status = some "DRAFT") :
    KeptBy kind docs (docs ++ [doc]) :=
  ⟨docs, [doc], rfl, List.forall₂_same.2 fun doc _ => .refl kind doc, List.forall_mem_singleton.2 h⟩

/-- Another document in its place. -/
theorem keptBy_replace_iff {before after : List Document} :
    KeptBy kind (before ++ doc :: after) (before ++ doc' :: after) ↔ doc.Follows kind doc' := by
  constructor
  · rintro ⟨kept, new, heq, hkept, -⟩
    have hlength := hkept.length_eq
    have hnew : new = [] := by
      have hlengths := congrArg List.length heq
      simp only [List.length_append, List.length_cons] at hlengths hlength
      exact List.eq_nil_of_length_eq_zero (by omega)
    rw [hnew, List.append_nil] at heq
    rw [← heq] at hkept
    clear heq hlength
    induction before with
    | nil => exact (List.forall₂_cons.1 hkept).1
    | cons other before ih => exact ih (List.forall₂_cons.1 hkept).2
  · intro h
    refine ⟨before ++ doc' :: after, [], (List.append_nil _).symm, ?_, fun _ h => (by cases h)⟩
    induction before with
    | nil => exact .cons h (List.forall₂_same.2 fun doc _ => .refl kind doc)
    | cons other before ih => exact .cons (.refl kind other) ih

/-! ### Writing columns -/

/-- A column leaves the fields of the others alone, and the lines. -/
theorem store_keeps {column : Column} {value : Value}
    (h : column.store masters doc value = some doc') :
    (column ≠ .id → doc'.id = doc.id) ∧ (column ≠ .totalQty → doc'.totalQty = doc.totalQty) ∧
      (column ≠ .status → doc'.status = doc.status) ∧ doc'.lines = doc.lines := by
  cases column with
  | id | warehouseId | type | referenceType | refNo | supplierId | totalQty | status | createdAt =>
    obtain ⟨written, -, rfl⟩ := Option.map_eq_some_iff.1 h
    simp

/-- A field of a document: what its column takes, and that the others leave it alone. -/
structure IsField {α : Type} (masters : Masters) (column : Column) (field : Document → α)
    (read : Value → Option α) : Prop where
  reads : ∀ {doc value doc'}, column.store masters doc value = some doc' →
    read value = some (field doc')
  keeps : ∀ {doc value doc'} {column' : Column}, column' ≠ column →
    column'.store masters doc value = some doc' → field doc' = field doc

theorem isField_id : IsField masters .id Document.id Value.uuid? where
  reads h := by
    obtain ⟨id, hid, rfl⟩ := Option.map_eq_some_iff.1 h
    exact hid
  keeps hne h := (store_keeps h).1 hne

theorem isField_totalQty : IsField masters .totalQty Document.totalQty
    (Value.nullable Value.quantity?) where
  reads h := by
    obtain ⟨totalQty, htotal, rfl⟩ := Option.map_eq_some_iff.1 h
    exact htotal
  keeps hne h := (store_keeps h).2.1 hne

theorem isField_status : IsField masters .status Document.status
    (Value.nullable (Value.varchar? 32)) where
  reads h := by
    obtain ⟨status, hstatus, rfl⟩ := Option.map_eq_some_iff.1 h
    exact hstatus
  keeps hne h := (store_keeps h).2.2.1 hne

variable {assignments : List (Column × Value)}

theorem writeColumns_cons {assignment : Column × Value} :
    writeColumns masters (assignment :: assignments) doc =
      (assignment.1.store masters doc assignment.2).bind (writeColumns masters assignments) :=
  rfl

theorem lines_writeColumns (h : writeColumns masters assignments doc = some doc') :
    doc'.lines = doc.lines := by
  induction assignments generalizing doc with
  | nil =>
    cases h
    rfl
  | cons assignment assignments ih =>
    obtain ⟨next, hnext, h⟩ := Option.bind_eq_some_iff.1 (writeColumns_cons ▸ h)
    rw [ih h, (store_keeps hnext).2.2.2]

/-- A field that is not written. -/
theorem IsField.writeColumns_of_notMem {α : Type} {column : Column} {field : Document → α}
    {read : Value → Option α} (hfield : IsField masters column field read)
    (hnot : column ∉ assignments.map Prod.fst)
    (h : writeColumns masters assignments doc = some doc') : field doc' = field doc := by
  induction assignments generalizing doc with
  | nil =>
    cases h
    rfl
  | cons assignment assignments ih =>
    obtain ⟨next, hnext, h⟩ := Option.bind_eq_some_iff.1 (writeColumns_cons ▸ h)
    rw [List.map_cons, List.mem_cons, not_or] at hnot
    rw [ih hnot.2 h, hfield.keeps (Ne.symm hnot.1) hnext]

/-- **A field after some columns are written**: what is written to its column, or what it was. -/
theorem IsField.writeColumns {α : Type} {column : Column} {field : Document → α}
    {read : Value → Option α} (hfield : IsField masters column field read)
    (hnodup : (assignments.map Prod.fst).Nodup)
    (h : writeColumns masters assignments doc = some doc') :
    (∀ value ∈ Dict.lookup column assignments, read value = some (field doc')) ∧
      (Dict.lookup column assignments = none → field doc' = field doc) := by
  refine ⟨fun value hvalue => ?_,
    fun hnone => hfield.writeColumns_of_notMem (Dict.lookup_eq_none_iff.1 hnone) h⟩
  induction assignments generalizing doc with
  | nil => cases hvalue
  | cons assignment assignments ih =>
    obtain ⟨next, hnext, h⟩ := Option.bind_eq_some_iff.1 (writeColumns_cons ▸ h)
    obtain ⟨hnot, hnodup⟩ := List.nodup_cons.1 hnodup
    rw [Dict.lookup] at hvalue
    split_ifs at hvalue with hcolumn
    · cases hvalue
      subst hcolumn
      rw [hfield.reads hnext, hfield.writeColumns_of_notMem hnot h]
    · exact ih hnodup h hvalue

/-- What holds of a field stays true exactly when it is true of what is written to its column. -/
theorem IsField.writeColumns_iff {α : Type} {column : Column} {field : Document → α}
    {read : Value → Option α} (hfield : IsField masters column field read) {P : α → Prop}
    (hP : P (field doc)) (hnodup : (assignments.map Prod.fst).Nodup)
    (h : StockDocs.writeColumns masters assignments doc = some doc') :
    P (field doc') ↔ ∀ value ∈ Dict.lookup column assignments, ∃ a ∈ read value, P a := by
  obtain ⟨hwritten, hkept⟩ := hfield.writeColumns hnodup h
  constructor
  · exact fun hP' value hvalue => ⟨_, hwritten value hvalue, hP'⟩
  · intro hall
    cases hlookup : Dict.lookup column assignments with
    | none => rwa [hkept hlookup]
    | some value =>
      obtain ⟨a, ha, hPa⟩ := hall value hlookup
      rw [Option.mem_def, hwritten value hlookup] at ha
      cases ha
      exact hPa

/-! ### What a request writes -/

/-- The columns of an object are those that its keys name. -/
theorem assignments_object {items : Body}
    (h : UpdateData.assignments kind (.object items) = some assignments) :
    assignments.map (fun a => (a.1.name, a.2)) = items.items := by
  replace h : items.items.mapM (fun item => (kind.column? item.1).map fun c => (c, item.2)) =
    some assignments := h
  generalize items.items = entries at h
  -- on the entries, since `mapM` cuts the first off
  induction entries generalizing assignments with
  | nil =>
    cases h
    rfl
  | cons entry entries ih =>
    rw [List.mapM_cons] at h
    obtain ⟨assignment, hassignment, h⟩ := Option.bind_eq_some_iff.1 h
    obtain ⟨rest, hrest, h⟩ := Option.bind_eq_some_iff.1 h
    cases h
    obtain ⟨column, hcolumn, rfl⟩ := Option.map_eq_some_iff.1 hassignment
    have hname : column.name = entry.1 := by simpa using List.find?_some hcolumn
    rw [List.map_cons, ih hrest, hname]

theorem map_fst_zip_sublist (columns : List Column) (values : List Value) :
    ((columns.zip values).map Prod.fst).Sublist columns := by
  induction columns generalizing values with
  | nil => exact .slnil
  | cons column columns ih =>
    cases values with
    | nil => exact List.nil_sublist _
    | cons value values => exact (ih values).cons_cons column

/-- A column is written once. -/
theorem nodup_assignments {data : UpdateData} (h : data.assignments kind = some assignments) :
    (assignments.map Prod.fst).Nodup := by
  cases data with
  | object items =>
    refine List.Nodup.of_map Column.name ?_
    have hnames := congrArg (List.map Prod.fst) (assignments_object h)
    rw [List.map_map] at hnames ⊢
    exact hnames ▸ items.nodup
  | list values =>
    cases h
    have hcolumns : kind.columns.Nodup := by cases kind <;> decide
    exact hcolumns.sublist (map_fst_zip_sublist _ _)

/-- The statuses of a document. -/
def Document.Known (kind : Kind) (doc : Document) : Prop :=
  doc.status = some "DRAFT" ∨ doc.status = some "CONFIRMED" ∨ doc.status = some kind.final

theorem mem_validTransitions_iff {status : Option String} {next : String} :
    next ∈ kind.validTransitions status ↔ kind.Moves status (some next) := by
  unfold Kind.validTransitions Kind.Moves
  split_ifs with hdraft hconfirmed
  · simp [hdraft]
  · simp [hconfirmed]
  · simp [hdraft, hconfirmed]

/-- The next status is known. -/
theorem Kind.Moves.known {status : Option String} (h : kind.Moves status doc.status) :
    doc.Known kind := by
  rcases h with ⟨-, h⟩ | ⟨-, h⟩
  · exact .inr (.inl h)
  · exact .inr (.inr h)

/-- The value of a known status is stored as it is. -/
theorem read_known {value : Value} (hknown : doc.Known kind)
    (hvalue : value.eqText doc.status = true) :
    value.nullable (Value.varchar? 32) = some doc.status := by
  have hlength : ∀ t, (doc.status = some t) → t.toList.length ≤ 32 := by
    intro t ht
    rcases hknown with h | h | h
    · cases h.symm.trans ht; decide
    · cases h.symm.trans ht; decide
    · cases h.symm.trans ht
      cases kind <;> decide
  -- a known status is a text of at most 32 characters, which `varchar?` does not cut
  cases hstatus : doc.status with
  | none => simp [Document.Known, hstatus] at hknown
  | some t =>
    rw [hstatus] at hvalue
    cases value with
    | null => cases hvalue
    | other truthy str? decimal? => cases hvalue
    | text s uuid? decimal? =>
      have hst : s = t := by simpa [Value.eqText] using hvalue
      subst hst
      have hle : s.length ≤ 32 := String.length_toList ▸ hlength s hstatus
      simp [Value.nullable, Value.varchar?, Text.varchar?_of_length_le hle]

/-- The check of an object: the status that is written is the old one or the next. -/
theorem status_object {items : Body} (hknown : doc.Known kind)
    (hassignments : UpdateData.assignments kind (.object items) = some assignments)
    (hchecks : UpdateData.checksStatus kind doc.status (.object items) = true) :
    ∀ value ∈ Dict.lookup .status assignments, ∃ status ∈ value.nullable (Value.varchar? 32),
      status = doc.status ∨ kind.Moves doc.status status := by
  intro value hvalue
  have hmem : ("status", value) ∈ items.items := by
    rw [← assignments_object hassignments]
    exact List.mem_map.2 ⟨_, Dict.mem_items_of_lookup hvalue, rfl⟩
  unfold UpdateData.checksStatus at hchecks
  dsimp only at hchecks
  rw [Dict.get?_of_mem_items hmem] at hchecks
  -- the value equals the old status, or one of those that may follow it
  rcases Bool.or_eq_true_iff.1 hchecks with hsame | hnext
  · exact ⟨doc.status, read_known hknown hsame, .inl rfl⟩
  · obtain ⟨next, hnext, hvalue⟩ := List.any_eq_true.1 hnext
    have hmoves := mem_validTransitions_iff.1 hnext
    have hknown' : Document.Known kind { doc with status := some next } := Kind.Moves.known hmoves
    exact ⟨some next, read_known hknown' hvalue, .inr hmoves⟩

/-- What is written to the total. -/
theorem exists_nullable_quantity_iff {value : Value} {total : Decimal} :
    (∃ totalQty ∈ value.nullable Value.quantity?, totalQty.map Quantity.toDecimal = some total) ↔
      value.quantity?.map Quantity.toDecimal = some total := by
  cases value with
  | null => simp [Value.nullable, Value.quantity?]
  | text s uuid? decimal? => simp [Value.nullable]
  | other truthy str? decimal? => simp [Value.nullable]

/-- What is written to the status. -/
theorem exists_nullable_status_iff {value : Value} (hknown : doc.Known kind) :
    (∃ status ∈ value.nullable (Value.varchar? 32),
      status = doc.status ∨ kind.Moves doc.status status) ↔
      ∃ status ∈ value.varchar? 32, some status = doc.status ∨ kind.Moves doc.status (some status)
    := by
  cases value with
  | null =>
    have hstatus : doc.status ≠ none := by
      rcases hknown with h | h | h <;> simp [h]
    simp [Value.nullable, Value.varchar?, Kind.Moves, Ne.symm hstatus]
  | text s uuid? decimal? => simp [Value.nullable]
  | other truthy str? decimal? => simp [Value.nullable]

/-- **A `PUT` keeps a document exactly when its `data` is harmless.** -/
theorem follows_and_balanced_iff {data : UpdateData} (hknown : doc.Known kind)
    (hbalanced : doc.Balanced) (hassignments : data.assignments kind = some assignments)
    (hchecks : data.checksStatus kind doc.status = true)
    (h : writeColumns masters assignments doc = some doc') :
    doc.Follows kind doc' ∧ doc'.Balanced ↔ data.Harmless kind doc := by
  have hnodup := nodup_assignments hassignments
  have hlines := lines_writeColumns h
  have hid := isField_id.writeColumns_iff (P := (· = doc.id)) rfl hnodup h
  have htotal := isField_totalQty.writeColumns_iff
    (P := fun totalQty => totalQty.map Quantity.toDecimal = some doc.linesTotal) hbalanced hnodup h
  have hstatus := isField_status.writeColumns_iff
    (P := fun status => status = doc.status ∨ kind.Moves doc.status status) (.inl rfl) hnodup h
  have hbalanced' : doc'.Balanced ↔
      doc'.totalQty.map Quantity.toDecimal = some doc.linesTotal := by
    unfold Document.Balanced Document.linesTotal
    rw [hlines]
  simp only [exists_nullable_quantity_iff] at htotal
  have hread : ∀ value : Value, (∃ id ∈ value.uuid?, id = doc.id) ↔ value.uuid? = some doc.id := by
    simp
  simp only [hread] at hid
  rw [hbalanced', htotal]
  constructor
  · rintro ⟨⟨hsame, -, hmoves⟩, hwritten⟩
    refine ⟨fun _ h' => ?_, fun _ h' => ?_, ?_⟩
    · cases hassignments.symm.trans h'
      exact hid.1 hsame
    · cases hassignments.symm.trans h'
      exact hwritten
    · rintro values rfl value hvalue
      cases hassignments
      exact (exists_nullable_status_iff hknown).1 (hstatus.1 hmoves value hvalue)
  · rintro ⟨hids, htotals, hstatuses⟩
    refine ⟨⟨hid.2 (hids _ hassignments), hlines, hstatus.2 ?_⟩, htotals _ hassignments⟩
    cases data with
    | object items => exact status_object hknown hassignments hchecks
    | list values =>
      cases hassignments
      intro value hvalue
      exact (exists_nullable_status_iff hknown).2 (hstatuses values rfl value hvalue)

/-! ### The requests -/

/-- The documents of a run that is consistent so far. -/
structure Good (kind : Kind) (docs : List Document) : Prop where
  nodup : (docs.map Document.id).Nodup
  known : ∀ doc ∈ docs, doc.Known kind
  balanced : ∀ doc ∈ docs, doc.Balanced

variable {docs docs' : List Document}

/-- **An accepted `PUT`** replaces one document. -/
theorem updateDocument_spec {id? : Option Uuid} {data : UpdateData} (hgood : Good kind docs)
    (h : updateDocument masters kind docs id? data = some docs') :
    ∃ id ∈ id?, ∃ before after doc doc', docs.find? (fun doc => doc.id = id) = some doc ∧
      docs = before ++ doc :: after ∧ docs' = before ++ doc' :: after ∧
      (doc.Follows kind doc' ∧ doc'.Balanced ↔ data.Harmless kind doc) := by
  unfold updateDocument at h
  obtain ⟨id, hid, h⟩ := Option.bind_eq_some_iff.1 h
  obtain ⟨doc, hfind, h⟩ := Option.bind_eq_some_iff.1 h
  obtain ⟨assignments, hassignments, h⟩ := Option.bind_eq_some_iff.1 h
  obtain ⟨doc', hwrite, h⟩ := Option.bind_eq_some_iff.1 h
  split_ifs at h with hchecks hempty hnew
  cases h
  have hmem := List.mem_of_find?_eq_some hfind
  have hdoc : doc.id = id := by simpa using List.find?_some hfind
  subst hdoc
  obtain ⟨before, after, rfl, hupdate⟩ := updateRows_split (fun _ => doc') hgood.nodup hmem
  refine ⟨doc.id, hid, before, after, doc, doc', hfind, rfl, hupdate, ?_⟩
  exact follows_and_balanced_iff (hgood.known doc hmem) (hgood.balanced doc hmem) hassignments
    (by simpa using hchecks) hwrite

/-- The quantities of the lines, and what is stored of them. -/
theorem mapM_newLine {bodies : List Body} {quantities : List Decimal} {lines : List Line}
    (hquantities : (bodies.mapM fun line => (line.value "qty").strDecimal?) = some quantities)
    (hlines : bodies.mapM newLine = some lines) :
    List.Forall₂ (fun d line => Quantity.ofDecimal? d = some line.qty) quantities lines := by
  induction bodies generalizing quantities lines with
  | nil =>
    cases hquantities
    cases hlines
    exact .nil
  | cons body bodies ih =>
    rw [List.mapM_cons] at hquantities hlines
    obtain ⟨d, hd, hquantities⟩ := Option.bind_eq_some_iff.1 hquantities
    obtain ⟨ds, hds, hquantities⟩ := Option.bind_eq_some_iff.1 hquantities
    cases hquantities
    obtain ⟨line, hline, hlines⟩ := Option.bind_eq_some_iff.1 hlines
    obtain ⟨rest, hrest, hlines⟩ := Option.bind_eq_some_iff.1 hlines
    cases hlines
    refine .cons ?_ (ih hds hrest)
    unfold newLine at hline
    obtain ⟨sku, -, hline⟩ := Option.bind_eq_some_iff.1 hline
    obtain ⟨d', hd', hline⟩ := Option.bind_eq_some_iff.1 hline
    obtain ⟨qty, hqty, hline⟩ := Option.bind_eq_some_iff.1 hline
    obtain ⟨batchNo, -, hline⟩ := Option.bind_eq_some_iff.1 hline
    obtain ⟨lotNo, -, hline⟩ := Option.bind_eq_some_iff.1 hline
    obtain ⟨expiryDate, -, hline⟩ := Option.bind_eq_some_iff.1 hline
    cases hline
    cases hd.symm.trans hd'
    exact hqty

/-- **The total of a new document** is the sum of its lines exactly when they round together. -/
theorem total_eq_iff {quantities : List Decimal} {lines : List Line} {total : Decimal}
    {totalQty : Quantity 18 4}
    (hlines : List.Forall₂ (fun d line => Quantity.ofDecimal? d = some line.qty) quantities lines)
    (htotal : (Decimal.sum quantities).quantize 4 = some total)
    (hstored : Quantity.ofDecimal? total = some totalQty) :
    totalQty.toDecimal = Decimal.exactSum (lines.map fun line => line.qty.toDecimal) ↔
      ∀ numbers : List ℚ, quantities = numbers.map .finite →
        Quantity.RoundsTogether 4 numbers := by
  -- with a `NaN` among the lines both sides are `NaN`; otherwise only the rounding tells them apart
  rcases Decimal.nan_mem_or_map_finite quantities with hnan | ⟨numbers, rfl⟩
  · have hline : Decimal.nan ∈ lines.map fun line => line.qty.toDecimal := by
      clear htotal
      induction hlines with
      | nil => cases hnan
      | cons hd hlines ih =>
        rcases List.mem_cons.1 hnan with rfl | hnan
        · rw [List.map_cons, Quantity.toDecimal_of_ofDecimal?_nan hd]
          exact List.mem_cons_self
        · exact List.mem_cons_of_mem _ (ih hnan)
    rw [Decimal.sum_eq_nan hnan] at htotal
    cases htotal
    rw [Quantity.toDecimal_of_ofDecimal?_nan hstored, Decimal.exactSum_eq_nan hline]
    refine iff_of_true rfl ?_
    rintro numbers rfl
    simp at hnan
  · have hread : (lines.map fun line => line.qty.toDecimal) =
        (numbers.map (Numeric.rounded 4)).map .finite := by
      clear htotal
      induction numbers generalizing lines with
      | nil =>
        cases hlines
        rfl
      | cons x numbers ih =>
        rw [List.map_cons, List.forall₂_cons_left_iff] at hlines
        obtain ⟨line, rest, hline, hrest, rfl⟩ := hlines
        rw [List.map_cons, Quantity.toDecimal_of_ofDecimal? hline, ih hrest]
        rfl
    rw [hread, Quantity.stored_sum_eq_iff htotal hstored]
    constructor
    · rintro h numbers' heq
      have hnumbers : numbers = numbers' :=
        List.map_injective_iff.2 (fun _ _ h => Decimal.finite.inj h) heq
      exact hnumbers ▸ h
    · exact fun h => h numbers rfl

/-- **An accepted `POST`** adds a document. -/
theorem createDocument_spec {id : Uuid} {now : ℤ} {data : Body} {lines : List Body}
    (h : createDocument masters kind docs id now data lines = some docs') :
    ∃ doc, docs' = docs ++ [doc] ∧ doc.id ∉ docs.map Document.id ∧ doc.status = some "DRAFT" ∧
      (doc.Balanced ↔ LinesRound lines) := by
  unfold createDocument at h
  obtain ⟨warehouseId, -, h⟩ := Option.bind_eq_some_iff.1 h
  obtain ⟨supplierId, -, h⟩ := Option.bind_eq_some_iff.1 h
  obtain ⟨quantities, hquantities, h⟩ := Option.bind_eq_some_iff.1 h
  obtain ⟨total, htotal, h⟩ := Option.bind_eq_some_iff.1 h
  obtain ⟨totalQty, hstored, h⟩ := Option.bind_eq_some_iff.1 h
  obtain ⟨type, -, h⟩ := Option.bind_eq_some_iff.1 h
  obtain ⟨refNo, -, h⟩ := Option.bind_eq_some_iff.1 h
  obtain ⟨referenceType, -, h⟩ := Option.bind_eq_some_iff.1 h
  obtain ⟨newLines, hlines, h⟩ := Option.bind_eq_some_iff.1 h
  split_ifs at h with hid
  cases h
  refine ⟨_, rfl, hid, rfl, ?_⟩
  have hiff := total_eq_iff (mapM_newLine hquantities hlines) htotal hstored
  unfold Document.Balanced LinesRound
  rw [hquantities]
  simpa [Document.linesTotal] using hiff

/-! ### The runs -/

variable {s s' : Documents} {request : StockRequest}

/-- Other documents of one kind. -/
theorem consistent_update_iff (hgood : ∀ kind, Good kind (s kind)) :
    Consistent s (Function.update s kind docs') ↔
      (∀ doc ∈ docs', doc.Balanced) ∧ KeptBy kind (s kind) docs' := by
  constructor
  · intro h
    have hbalanced := h.balanced kind
    have hkept := h.kept kind
    rw [Function.update_self] at hbalanced hkept
    exact ⟨hbalanced, hkept⟩
  · rintro ⟨hbalanced, hkept⟩
    refine ⟨fun kind' => ?_, fun kind' => ?_⟩
    · rcases eq_or_ne kind' kind with rfl | hne
      · rwa [Function.update_self]
      · rw [Function.update_of_ne hne]
        exact (hgood kind').balanced
    · rcases eq_or_ne kind' kind with rfl | hne
      · rwa [Function.update_self]
      · rw [Function.update_of_ne hne]
        exact .refl kind' _

theorem Good.update (hgood : ∀ kind, Good kind (s kind)) (h : Good kind docs') (kind' : Kind) :
    Good kind' (Function.update s kind docs' kind') := by
  rcases eq_or_ne kind' kind with rfl | hne
  · rwa [Function.update_self]
  · rw [Function.update_of_ne hne]
    exact hgood kind'

/-- **A request keeps the documents consistent exactly when it is harmless**, and then they stay
good. -/
theorem consistent_step (hgood : ∀ kind, Good kind (s kind))
    (hstep : (stockSystem masters).step s request s') :
    (Consistent s s' ↔ Harmless s request) ∧ (Consistent s s' → ∀ kind, Good kind (s' kind)) := by
  cases request with
  | create kind id now data lines =>
    obtain ⟨docs', hcreate, rfl⟩ := Option.map_eq_some_iff.1 hstep
    obtain ⟨doc, rfl, hid, hstatus, hbalanced⟩ := createDocument_spec hcreate
    rw [consistent_update_iff hgood, List.forall_mem_append, List.forall_mem_singleton]
    refine ⟨⟨fun h => hbalanced.1 h.1.2,
      fun h => ⟨⟨(hgood kind).balanced, hbalanced.2 h⟩, .concat kind _ hstatus⟩⟩, fun h => ?_⟩
    refine Good.update hgood ⟨nodup_map_concat (hgood kind).nodup hid, ?_, ?_⟩
    · exact List.forall_mem_append.2
        ⟨(hgood kind).known, List.forall_mem_singleton.2 (.inl hstatus)⟩
    · exact List.forall_mem_append.2 ⟨h.1.1, List.forall_mem_singleton.2 h.1.2⟩
  | update kind id? data =>
    obtain ⟨docs', hupdate, rfl⟩ := Option.map_eq_some_iff.1 hstep
    obtain ⟨id, hid, before, after, doc, doc', hfind, hdocs, rfl, hiff⟩ :=
      updateDocument_spec (hgood kind) hupdate
    have hold := hgood kind
    rw [hdocs] at hold
    -- the condition reads the document that the identifier finds before the request
    have hharmless : Harmless s (.update kind id? data) ↔ data.Harmless kind doc := by
      unfold Harmless
      rw [Option.mem_def.1 hid]
      simp [hfind]
    rw [consistent_update_iff hgood, hdocs, keptBy_replace_iff, hharmless, ← hiff]
    have hothers := hold.balanced
    have hknown := hold.known
    simp only [List.forall_mem_append, List.forall_mem_cons] at hothers hknown
    simp only [List.forall_mem_append, List.forall_mem_cons]
    refine ⟨⟨fun h => ⟨h.2, h.1.2.1⟩, fun h => ⟨⟨hothers.1, h.2, hothers.2.2⟩, h.1⟩⟩, ?_⟩
    rintro ⟨hbalanced, hfollows⟩
    refine Good.update hgood ⟨?_, ?_, ?_⟩
    · have hnodup := hold.nodup
      rwa [List.map_append, List.map_cons, ← hfollows.id, ← List.map_cons, ← List.map_append]
        at hnodup
    · have hmoved : doc'.Known kind := by
        rcases hfollows.status with hsame | hmoves
        · unfold Document.Known
          rw [hsame]
          exact hknown.2.1
        · exact hmoves.known
      simp only [List.forall_mem_append, List.forall_mem_cons]
      exact ⟨hknown.1, hmoved, hknown.2.2⟩
    · simp only [List.forall_mem_append, List.forall_mem_cons]
      exact hbalanced

theorem good_nil (kind : Kind) : Good kind [] where
  nodup := List.nodup_nil
  known _ h := by cases h
  balanced _ h := by cases h

/-- **The documents stay consistent in a run exactly when** each of its requests is harmless. -/
theorem consistent_iff {requests : List StockRequest} :
    ((stockSystem masters).restrict fun s _ s' => Consistent s s').Run noDocuments requests s ↔
      ((stockSystem masters).guard Harmless).Run noDocuments requests s := by
  refine Lts.Run.restrict_iff_guard (I := fun s => ∀ kind, Good kind (s kind)) ?_ ?_ good_nil
  · intro s request s' hgood hstep hharmless
    obtain ⟨hiff, hafter⟩ := consistent_step hgood hstep
    exact hafter (hiff.2 hharmless)
  · intro s request s' hgood hstep
    exact (consistent_step hgood hstep).1

/-- **Lines with four decimals are harmless** while the digits of their sum fit. -/
theorem linesRound_of_onGrid {lines : List Body} {numbers : List ℚ}
    (hlines : (lines.mapM fun line => (line.value "qty").strDecimal?) =
      some (numbers.map .finite)) (hgrid : ∀ x ∈ numbers, OnGrid 4 x)
    (hfit : (numbers.map abs).sum * 10 ^ 4 < 10 ^ Decimal.prec) : LinesRound lines := by
  intro numbers' hnumbers
  have heq : numbers' = numbers := List.map_injective_iff.2 (fun _ _ h => Decimal.finite.inj h)
    (Option.some.inj (hnumbers.symm.trans hlines))
  exact heq ▸ Quantity.roundsTogether_of_onGrid hgrid hfit

/-! ### A receipt -/

/-- One warehouse. -/
def oneWarehouse : Masters := ⟨[7], []⟩

/-- A number of a body. -/
def number (x : ℚ) : Value := .other (x ≠ 0) (some (.finite x)) (some (.finite x))

/-- An identifier of a body. -/
def identifier (id : Uuid) : Value := .text id.text (some id) none

/-- `{"warehouse_id": …}`. -/
def receiptBody : Body := Dict.empty.set "warehouse_id" (identifier 7)

/-- `{"qty": …}`. -/
def lineBody (x : ℚ) : Body := Dict.empty.set "qty" (number x)

/-- A line of a number of units of the last decimal. -/
def lineOf (units : ℤ) (fits : units.natAbs < 10 ^ 18) : Line :=
  ⟨none, .finite ⟨units, fits⟩, none, none, none⟩

/-- A receipt as it is created. -/
def receipt (totalQty : Quantity 18 4) (lines : List Line) : Document where
  id := 1
  warehouseId := 7
  type := "PURCHASE"
  referenceType := none
  refNo := none
  supplierId := none
  totalQty := some totalQty
  status := some "DRAFT"
  createdAt := some 0
  lines := lines

theorem ten_fits : (100000 : ℤ).natAbs < 10 ^ 18 := by norm_num

/-- A receipt of ten pieces. -/
def tenReceived : Document := receipt (.finite ⟨100000, ten_fits⟩) [lineOf 100000 ten_fits]

theorem createDocument_tenReceived :
    createDocument oneWarehouse .stockIn [] 1 0 receiptBody [lineBody 10] = some [tenReceived] := by
  decide +kernel

/-- A `POST`. -/
theorem step_create {id : Uuid} {now : ℤ} {data : Body} {lines : List Body}
    (h : createDocument masters kind [] id now data lines = some docs) :
    (stockSystem masters).step noDocuments (.create kind id now data lines)
      (Function.update noDocuments kind docs) :=
  congrArg (Option.map (Function.update noDocuments kind)) h

/-- A `PUT` after a `POST`. -/
theorem step_update {id? : Option Uuid} {data : UpdateData}
    (h : updateDocument masters kind docs id? data = some docs') :
    (stockSystem masters).step (Function.update noDocuments kind docs) (.update kind id? data)
      (Function.update noDocuments kind docs') := by
  have hnext : (updateDocument masters kind (Function.update noDocuments kind docs kind) id?
      data).map (Function.update (Function.update noDocuments kind docs) kind) =
      some (Function.update noDocuments kind docs') := by
    rw [Function.update_self, h, Option.map_some, Function.update_idem]
  exact hnext

instance (doc : Document) : Decidable doc.Balanced := inferInstanceAs (Decidable (_ = _))

/-- A state whose receipts are not balanced. -/
theorem not_consistent_of_not_balanced (h : ¬ ∀ doc ∈ docs', doc.Balanced) :
    ¬ Consistent s (Function.update noDocuments kind docs') := by
  intro hconsistent
  have hbalanced := hconsistent.balanced kind
  rw [Function.update_self] at hbalanced
  exact h hbalanced

/-- One document that becomes another. -/
theorem not_consistent_of_not_follows (h : ¬ doc.Follows kind doc') :
    ¬ Consistent (Function.update noDocuments kind [doc])
      (Function.update noDocuments kind [doc']) := by
  intro hconsistent
  have hkept := hconsistent.kept kind
  rw [Function.update_self, Function.update_self] at hkept
  have hplaced : KeptBy kind ([] ++ doc :: []) ([] ++ doc' :: []) := hkept
  exact h (keptBy_replace_iff.1 hplaced)

/-- A `PUT` writes a total of 999 to a receipt of ten pieces; a `PUT` of a list takes it from
`DRAFT` to `RECEIVED`; a `PUT` gives a receipt without lines another identifier; and a `POST` with
two lines of half a unit of the last decimal stores one unit for each of them, and one as their
sum. -/
theorem not_consistent :
    (∃ s s' data, (stockSystem oneWarehouse).Run noDocuments
        [.create .stockIn 1 0 receiptBody [lineBody 10]] s ∧
      data = .object (Dict.empty.set "total_qty" (number 999)) ∧
      (stockSystem oneWarehouse).step s (.update .stockIn (some 1) data) s' ∧ ¬ Consistent s s') ∧
    (∃ s s' data, (stockSystem oneWarehouse).Run noDocuments
        [.create .stockIn 1 0 receiptBody [lineBody 10]] s ∧
      data = .list [identifier 1, identifier 7, .text "PURCHASE" none none, .null, .null, .null,
        number 10, .text "RECEIVED" none none] ∧
      (stockSystem oneWarehouse).step s (.update .stockIn (some 1) data) s' ∧ ¬ Consistent s s') ∧
    (∃ s s' data, (stockSystem oneWarehouse).Run noDocuments
        [.create .stockIn 1 0 receiptBody []] s ∧
      data = .object (Dict.empty.set "id" (identifier 2)) ∧
      (stockSystem oneWarehouse).step s (.update .stockIn (some 1) data) s' ∧ ¬ Consistent s s') ∧
    ∃ s', (stockSystem oneWarehouse).step noDocuments (.create .stockIn 1 0 receiptBody
        [lineBody 0.00005, lineBody 0.00005]) s' ∧ ¬ Consistent noDocuments s' := by
  have hten := Lts.Run.single (step_create createDocument_tenReceived)
  have hempty : createDocument oneWarehouse .stockIn [] 1 0 receiptBody [] =
      some [receipt (.finite 0) []] := by decide +kernel
  have htotal : updateDocument oneWarehouse .stockIn [tenReceived] (some 1)
      (.object (Dict.empty.set "total_qty" (number 999))) =
      some [{ tenReceived with totalQty := some (.finite ⟨9990000, by norm_num⟩) }] := by
    decide +kernel
  have hlist : updateDocument oneWarehouse .stockIn [tenReceived] (some 1)
      (.list [identifier 1, identifier 7, .text "PURCHASE" none none, .null, .null, .null,
        number 10, .text "RECEIVED" none none]) =
      some [{ tenReceived with status := some "RECEIVED" }] := by decide +kernel
  have hid : updateDocument oneWarehouse .stockIn [receipt (.finite 0) []] (some 1)
      (.object (Dict.empty.set "id" (identifier 2))) =
      some [{ receipt (.finite 0) [] with id := 2 }] := by decide +kernel
  have hhalves : createDocument oneWarehouse .stockIn [] 1 0 receiptBody
      [lineBody 0.00005, lineBody 0.00005] = some [receipt (.finite ⟨1, by norm_num⟩)
        [lineOf 1 (by norm_num), lineOf 1 (by norm_num)]] := by decide +kernel
  refine ⟨⟨_, _, _, hten, rfl, step_update htotal, not_consistent_of_not_balanced ?_⟩,
    ⟨_, _, _, hten, rfl, step_update hlist, not_consistent_of_not_follows fun h => ?_⟩,
    ⟨_, _, _, .single (step_create hempty), rfl, step_update hid,
      not_consistent_of_not_follows fun h => ?_⟩,
    ⟨_, step_create hhalves, not_consistent_of_not_balanced ?_⟩⟩
  · decide +kernel
  · have hstatus := h.status
    revert hstatus
    unfold Kind.Moves
    decide +kernel
  · have hsame := h.id
    revert hsame
    decide +kernel
  · decide +kernel

end StockDocs

end OmsWmsTms
