import OmsWmsTms.Barcode.SameCode
import OmsWmsTms.Core.Handlers
import OmsWmsTms.Data.OrderBy
import OmsWmsTms.Data.Rows
import OmsWmsTms.Uow.Journal

/-!
# The registry of barcodes and label templates

`generate_barcode`, `record_scan`, `get_by_gtin`, `create_template` and `list_templates` of
`src/barcode/service.py`, behind the schemas of `src/barcode/schemas.py`.  A lookup goes by the text
of a number only: it finds the generated records of every prefix that is padded to the number, and
the scans of it.

* `RegistryWrite.apply`, `registrySystem` : the commits, and the server.
* `barcodes_by_history` : what a lookup finds, and what the prefixes of its records share.
* `templates_by_history` : the codes of the templates are unique.
-/

namespace OmsWmsTms

namespace Barcode

/-! ### Rows -/

/-- The entities of `BarcodeGenerateRequest`. -/
inductive EntityType
  | order | inventory | location | device
deriving DecidableEq

/-- The text of an entity. -/
def EntityType.text : EntityType → String
  | order => "order"
  | inventory => "inventory"
  | location => "location"
  | device => "device"

/-- The formats of `BarcodeGenerateRequest`. -/
inductive BarcodeFormat
  | ean13 | code128 | qr | datamatrix
deriving DecidableEq

/-- The text of a format. -/
def BarcodeFormat.text : BarcodeFormat → String
  | ean13 => "ean13"
  | code128 => "code128"
  | qr => "qr"
  | datamatrix => "datamatrix"

/-- `BarcodeRecord`. -/
structure BarcodeRecord where
  id : Uuid
  gtin : String
  entityType : String
  entityId : Uuid
  format : String
  rawData : String
  createdAt : ℤ
deriving DecidableEq

/-- The formats of `LabelTemplateCreate`. -/
inductive LabelFormat
  | zpl | ezpl
deriving DecidableEq

/-- The text of a format. -/
def LabelFormat.text : LabelFormat → String
  | zpl => "zpl"
  | ezpl => "ezpl"

/-- `LabelTemplate`; of its content, the JSON text. -/
structure LabelTemplate where
  id : Uuid
  name : String
  code : String
  format : String
  widthMm : ℚ
  heightMm : ℚ
  content : String
  isDefault : Bool
  createdAt : ℤ
deriving DecidableEq

/-- The tables. -/
structure RegistryDb where
  records : List BarcodeRecord := []
  templates : List LabelTemplate := []
deriving DecidableEq

/-! ### The commits -/

/-- The changes that a handler commits. -/
inductive RegistryWrite
  | insertRecord (record : BarcodeRecord)
  | insertTemplate (template : LabelTemplate)
deriving DecidableEq

/-- What the database makes of the changes. -/
def RegistryWrite.store (d : RegistryDb) : RegistryWrite → Except ServiceError RegistryDb
  | .insertRecord record => do
    let _ ← storeWhole 20 record.gtin
    let _ ← storeWhole 50 record.entityType
    let _ ← storeWhole 20 record.format
    let _ ← constraint (record.id ∉ d.records.map BarcodeRecord.id)
    return { d with records := d.records ++ [record] }
  | .insertTemplate template => do
    let _ ← storeWhole 100 template.name
    let _ ← storeWhole 50 template.code
    let _ ← storeWhole 20 template.format
    let _ ← constraint (template.id ∉ d.templates.map LabelTemplate.id)
    let _ ← constraint (template.code ∉ d.templates.map LabelTemplate.code)
    return { d with templates := d.templates ++ [template] }

/-- **A commit.** -/
def RegistryWrite.apply (w : RegistryWrite) (d : RegistryDb) : Except RequestError RegistryDb :=
  (w.store d).mapError .service

/-! ### The handlers -/

/-- The answers. -/
inductive RegistryAnswer
  | record (row : BarcodeRecord)
  | records (rows : List BarcodeRecord)
  | template (row : LabelTemplate)
  | templates (rows : List LabelTemplate)
deriving DecidableEq

/-- The handlers of the registry. -/
abbrev RegistryProg := Uow.Prog RegistryDb RegistryWrite RequestError RegistryAnswer

open Uow.Prog (withOk refresh)

/-- What the helpers raise, raised by a handler. -/
def GtinError.raised : GtinError → RequestError
  | .valueError => .service .valueError
  | .validation message => .validation message

/-- `BarcodeGenerateRequest`. -/
structure BarcodeGenerateRequest where
  gtinPrefix : String
  entityType : EntityType
  entityId : IdArg
  format : BarcodeFormat := .ean13
  length : 7 ≤ gtinPrefix.length ∧ gtinPrefix.length ≤ 12 := by decide
deriving DecidableEq

/-- `LabelTemplateCreate`. -/
structure LabelTemplateCreate where
  name : String
  code : String
  format : LabelFormat := .zpl
  widthMm : ℚ := 50
  heightMm : ℚ := 30
  content : String := "\x7b\x7d"
  isDefault : Bool := false
  nameLength : 1 ≤ name.length ∧ name.length ≤ 100 := by decide
  codeLength : 1 ≤ code.length ∧ code.length ≤ 50 := by decide
  width : 0 < widthMm ∧ widthMm ≤ 200 := by decide
  height : 0 < heightMm ∧ heightMm ≤ 200 := by decide
deriving DecidableEq

namespace RegistryProg

/-- `generate_barcode`, at a time. -/
def generateBarcode (now : ℤ) (newId : Uuid) (data : BarcodeGenerateRequest) : RegistryProg :=
  withOk ((generateGtin data.gtinPrefix).mapError GtinError.raised) fun gtin =>
  withOk data.entityId.parse fun entityId =>
  .commit (.insertRecord {
      id := newId, gtin, entityType := data.entityType.text, entityId
      format := data.format.text, rawData := gtin, createdAt := now })
    (refresh (fun d => d.records.find? (·.id = newId)) fun row => .ret (.record row))

/-- `record_scan`, at a time. -/
def recordScan (now : ℤ) (newId newEntityId : Uuid) (rawData : String) : RegistryProg :=
  .commit (.insertRecord {
      id := newId, gtin := Text.strip rawData, entityType := "scan", entityId := newEntityId
      format := "code128", rawData, createdAt := now })
    (refresh (fun d => d.records.find? (·.id = newId)) fun row => .ret (.record row))

/-- `get_by_gtin`. -/
def getByGtin (gtin : String) : RegistryProg :=
  .read fun d => .ret (.records (d.records.filter (·.gtin = gtin)))

/-- `create_template`, at a time. -/
def createTemplate (now : ℤ) (newId : Uuid) (data : LabelTemplateCreate) : RegistryProg :=
  .read fun d =>
    if data.code ∈ d.templates.map LabelTemplate.code then
      .throw (.validation s!"Template code '{data.code}' already exists")
    else
      .commit (.insertTemplate {
          id := newId, name := data.name, code := data.code, format := data.format.text
          widthMm := data.widthMm, heightMm := data.heightMm, content := data.content
          isDefault := data.isDefault, createdAt := now })
        (refresh (fun d => d.templates.find? (·.id = newId)) fun row => .ret (.template row))

/-- `list_templates`. -/
def listTemplates : RegistryProg :=
  .read fun d => .ret (.templates (orderByDesc LabelTemplate.createdAt d.templates))

end RegistryProg

/-- A request. -/
inductive RegistryRequest
  | generateBarcode (now : ℤ) (newId : Uuid) (data : BarcodeGenerateRequest)
  | recordScan (now : ℤ) (newId newEntityId : Uuid) (rawData : String)
  | getByGtin (gtin : String)
  | createTemplate (now : ℤ) (newId : Uuid) (data : LabelTemplateCreate)
  | listTemplates
deriving DecidableEq

/-- The handler of a request. -/
def RegistryRequest.handler : RegistryRequest → RegistryProg
  | .generateBarcode now newId data => .generateBarcode now newId data
  | .recordScan now newId newEntityId rawData => .recordScan now newId newEntityId rawData
  | .getByGtin gtin => .getByGtin gtin
  | .createTemplate now newId data => .createTemplate now newId data
  | .listTemplates => .listTemplates

/-- A server of the registry. -/
abbrev RegistryState :=
  Uow.State RegistryDb RegistryWrite RegistryRequest RequestError RegistryAnswer

/-- **The requests on barcodes and label templates.** -/
def registrySystem : Lts RegistryState (Uow.Label RegistryRequest) :=
  Uow.system RegistryWrite.apply RegistryRequest.handler

/-! ### What a commit does -/

open Uow (Committed History)
open Uow.Prog (justified_read justified_withOk)

/-- The records that a write inserts. -/
def RegistryWrite.records : RegistryWrite → List BarcodeRecord
  | .insertRecord record => [record]
  | _ => []

/-- The templates that a write inserts. -/
def RegistryWrite.templates : RegistryWrite → List LabelTemplate
  | .insertTemplate template => [template]
  | _ => []

/-- What holds of a write that the database takes. -/
def RegistryWrite.Fits (d : RegistryDb) : RegistryWrite → Prop
  | .insertRecord record => record.gtin.length ≤ 20
  | .insertTemplate template => template.code ∉ d.templates.map LabelTemplate.code

section

variable {d₀ d d' : RegistryDb} {ws since : List RegistryWrite} {w : RegistryWrite}
  {s : RegistryState} {ls : List (Uow.Label RegistryRequest)} {code : String}

/-- **What a commit does.** -/
theorem RegistryWrite.apply_eq_ok (h : w.apply d = .ok d') : w.Fits d ∧
    d'.records = d.records ++ w.records ∧ d'.templates = d.templates ++ w.templates := by
  have hstore : w.store d = .ok d' := by
    unfold RegistryWrite.apply at h
    cases hstore : w.store d with
    | error e => rw [hstore] at h; cases h
    | ok db => rw [hstore] at h; cases h; rfl
  cases w with
  | insertRecord record =>
    simp only [RegistryWrite.store, bind_eq_ok_iff, pure_eq_ok_iff] at hstore
    obtain ⟨_, hgtin, -, -, -, -, -, -, rfl⟩ := hstore
    exact ⟨(storeWhole_eq_ok_iff.1 hgtin).1, rfl, (List.append_nil _).symm⟩
  | insertTemplate template =>
    simp only [RegistryWrite.store, bind_eq_ok_iff, pure_eq_ok_iff] at hstore
    obtain ⟨-, -, -, -, -, -, -, -, _, hcode, rfl⟩ := hstore
    have hfits := constraint_eq_ok_iff.1 hcode
    exact ⟨hfits, (List.append_nil _).symm, rfl⟩

/-- The tables have all that was inserted. -/
theorem registry_eq (h : Committed RegistryWrite.apply d₀ ws d) :
    d.records = d₀.records ++ ws.flatMap RegistryWrite.records ∧
      d.templates = d₀.templates ++ ws.flatMap RegistryWrite.templates := by
  induction h with
  | start => simp
  | commit _ _ happly ih =>
    obtain ⟨-, hrecords, htemplates⟩ := RegistryWrite.apply_eq_ok happly
    rw [hrecords, htemplates, ih.1, ih.2]
    simp [List.flatMap_append]

theorem mem_flatMap_records {row : BarcodeRecord} :
    row ∈ ws.flatMap RegistryWrite.records ↔ .insertRecord row ∈ ws := by
  rw [List.mem_flatMap]
  constructor
  · rintro ⟨w, hw, hrow⟩
    cases w with
    | insertRecord record =>
      obtain rfl := List.mem_singleton.1 hrow
      exact hw
    | insertTemplate template => cases hrow
  · intro hrow
    exact ⟨_, hrow, List.mem_singleton_self row⟩

/-! ### What a request goes by, and what it answers -/

/-- The record was generated from a prefix. -/
structure BarcodeRecord.GeneratedFrom (row : BarcodeRecord) (gtinPrefix : String) : Prop where
  gtin : generateGtin gtinPrefix = .ok row.gtin
  rawData : row.rawData = row.gtin
  entityType : ∃ entity : EntityType, row.entityType = entity.text

/-- The record is of a scan. -/
structure BarcodeRecord.Scanned (row : BarcodeRecord) : Prop where
  gtin : row.gtin = Text.strip row.rawData
  entityType : row.entityType = "scan"

/-- Records are inserted as generated or as scanned. -/
def RegistryWrite.Goes : RegistryWrite → Prop
  | .insertRecord row => (∃ gtinPrefix, row.GeneratedFrom gtinPrefix) ∨ row.Scanned
  | _ => True

/-- What an answer says of a moment between the call and the answer. -/
def RegistryRequest.Post (d₀ : RegistryDb) (q : RegistryRequest) (since : List RegistryWrite)
    (a : RegistryAnswer) (ws : List RegistryWrite) : Prop :=
  match q, a with
  | .getByGtin gtin, .records rows => ∃ past d, since <+: past ∧ past <+: ws ∧
      Committed RegistryWrite.apply d₀ past d ∧ rows = d.records.filter (·.gtin = gtin)
  | .listTemplates, .templates rows => ∃ past d, since <+: past ∧ past <+: ws ∧
      Committed RegistryWrite.apply d₀ past d ∧
      rows = orderByDesc LabelTemplate.createdAt d.templates
  | _, _ => True

/-- The handlers are justified: an abbreviation. -/
abbrev RegistryProg.Justified (d₀ : RegistryDb) (q : RegistryRequest) (since : List RegistryWrite)
    (p : RegistryProg) (K : List RegistryWrite → Prop) : Prop :=
  Uow.Prog.Justified RegistryWrite.apply (fun _ w => w.Goes) d₀ (q.Post d₀ since) p K

/-- An answer that says nothing of the tables. -/
theorem RegistryProg.justified_refresh {q : RegistryRequest} {α : Type}
    {find : RegistryDb → Option α} {answer : α → RegistryAnswer} {K : List RegistryWrite → Prop}
    (h : ∀ a ws, q.Post d₀ since (answer a) ws) :
    RegistryProg.Justified d₀ q since (refresh find fun row => .ret (answer row)) K := by
  refine justified_read fun d => ?_
  split
  · exact fun ws _ => h _ ws
  · trivial

theorem generateGtin_of_raised {gtinPrefix gtin : String}
    (h : (generateGtin gtinPrefix).mapError GtinError.raised = .ok gtin) :
    generateGtin gtinPrefix = .ok gtin := by
  cases hgtin : generateGtin gtinPrefix with
  | error e => rw [hgtin] at h; cases h
  | ok code => rw [hgtin] at h; cases h; rfl

theorem RegistryRequest.justified_handler (q : RegistryRequest) (since : List RegistryWrite) :
    RegistryProg.Justified d₀ q since q.handler fun ws => since <+: ws := by
  cases q with
  | generateBarcode now newId data =>
    refine justified_withOk fun gtin hgtin => justified_withOk fun entityId _ => ?_
    refine ⟨fun _ _ => .inl ⟨data.gtinPrefix, ?_⟩,
      RegistryProg.justified_refresh fun _ _ => trivial⟩
    exact ⟨generateGtin_of_raised hgtin, rfl, data.entityType, rfl⟩
  | recordScan now newId newEntityId rawData =>
    exact ⟨fun _ _ => .inr ⟨rfl, rfl⟩, RegistryProg.justified_refresh fun _ _ => trivial⟩
  | getByGtin gtin =>
    refine justified_read fun d => ?_
    rintro ws ⟨past, hpast, hsince, hd⟩
    exact ⟨past, d, hsince, hpast, hd, rfl⟩
  | createTemplate now newId data =>
    refine justified_read fun d => ?_
    split
    · trivial
    · exact ⟨fun _ _ => trivial, RegistryProg.justified_refresh fun _ _ => trivial⟩
  | listTemplates =>
    refine justified_read fun d => ?_
    rintro ws ⟨past, hpast, hsince, hd⟩
    exact ⟨past, d, hsince, hpast, hd, rfl⟩

/-! ### The records -/

/-- Records of one number are those of prefixes with the same digits before the zeros at their end.
-/
theorem BarcodeRecord.GeneratedFrom.gtin_eq_iff {row row' : BarcodeRecord}
    {gtinPrefix gtinPrefix' : String} (h : row.GeneratedFrom gtinPrefix)
    (h' : row'.GeneratedFrom gtinPrefix') : row.gtin = row'.gtin ↔
      significant (digitsOf gtinPrefix) = significant (digitsOf gtinPrefix') := by
  obtain ⟨-, hle, check, hcheck, hcode⟩ := generateGtin_eq_ok_iff.1 h.gtin
  obtain ⟨-, hle', check', hcheck', hcode'⟩ := generateGtin_eq_ok_iff.1 h'.gtin
  have hlength := (length_rightpad hle).trans (length_rightpad hle').symm
  rw [hcode, hcode', code_eq_iff hlength hcheck hcheck', rightpad_eq_iff hle hle']

/-- **Barcodes in every interleaving of requests**, from none: the records are those that were
inserted, each a scan that is found under its stripped text, or generated with a number that
validates; a lookup has all those of the number at a moment between the call and the answer; and
with a generated record it has exactly the generated ones whose prefixes have the same digits before
the zeros at their end. -/
theorem barcodes_by_history (h₀ : d₀.records = []) (hrun : registrySystem.Run (.init d₀) ls s) :
    (∀ row, row ∈ s.db.records ↔ .insertRecord row ∈ s.journal) ∧
      (∀ row ∈ s.db.records, row.gtin.length ≤ 20 ∧
        ((∃ gtinPrefix, row.GeneratedFrom gtinPrefix ∧ Passes row.gtin) ∨ row.Scanned)) ∧
      ∀ gtin since till rows, ⟨.getByGtin gtin, since, till, .ok (.records rows)⟩ ∈ s.log →
        ∃ past, since <+: past ∧ past <+: till ∧ till <+: s.journal ∧
          (∀ row, row ∈ rows ↔ .insertRecord row ∈ past ∧ row.gtin = gtin) ∧
          ∀ row ∈ rows, ∀ row', .insertRecord row' ∈ past → ∀ gtinPrefix gtinPrefix',
            row.GeneratedFrom gtinPrefix → row'.GeneratedFrom gtinPrefix' →
            (row' ∈ rows ↔
              significant (digitsOf gtinPrefix) = significant (digitsOf gtinPrefix')) := by
  have hsound := Uow.sound_run_since RegistryRequest.justified_handler hrun
  have hrecords {past : List RegistryWrite} {d : RegistryDb}
      (hd : Committed RegistryWrite.apply d₀ past d) (row : BarcodeRecord) :
      row ∈ d.records ↔ .insertRecord row ∈ past := by
    rw [(registry_eq hd).1, h₀, List.nil_append, mem_flatMap_records]
  have hd := hsound.history.committed
  refine ⟨hrecords hd, fun row hrow => ?_, fun gtin since till rows hanswer => ?_⟩
  · obtain ⟨before, after, hjournal⟩ := List.append_of_mem ((hrecords hd row).1 hrow)
    obtain ⟨hgoes, d, d', -, happly⟩ := hsound.history.justified hjournal
    refine ⟨(RegistryWrite.apply_eq_ok happly).1, ?_⟩
    rcases hgoes with ⟨gtinPrefix, hgenerated⟩ | hscanned
    · exact .inl ⟨gtinPrefix, hgenerated, passes_of_generateGtin hgenerated.gtin⟩
    · exact .inr hscanned
  · obtain ⟨-, htill, hpost⟩ := hsound.log _ hanswer
    obtain ⟨past, d, hsince, hpast, hd, rfl⟩ := hpost _ rfl
    have hmem (row : BarcodeRecord) : row ∈ d.records.filter (·.gtin = gtin) ↔
        .insertRecord row ∈ past ∧ row.gtin = gtin := by
      rw [List.mem_filter, hrecords hd, decide_eq_true_iff]
    refine ⟨past, hsince, hpast, htill, hmem,
      fun row hrow row' hrow' p p' hgenerated hgenerated' => ?_⟩
    obtain ⟨-, hgtin⟩ := (hmem row).1 hrow
    rw [hmem row', and_iff_right hrow', ← hgtin, ← hgenerated.gtin_eq_iff hgenerated']
    exact eq_comm

/-- Two articles whose prefixes differ by a zero, a scan of the number with a line break after it,
and a lookup. -/
def sharedNumber : List (Uow.Label RegistryRequest) :=
  [.call (.generateBarcode 1 1 {
      gtinPrefix := "4006381", entityType := .inventory, entityId := .ofUuid 10 }),
    .step 0, .step 0, .step 0,
    .call (.generateBarcode 2 2 {
      gtinPrefix := "40063810", entityType := .order, entityId := .ofUuid 11 }),
    .step 0, .step 0, .step 0,
    .call (.recordScan 3 3 12 "4006381000000\n"), .step 0, .step 0, .step 0,
    .call (.getByGtin "4006381000000"), .step 0, .step 0]

/-- The lookup of `sharedNumber` finds all three records. -/
theorem barcodes_by_history_shared : ∃ s, registrySystem.Run (.init {}) sharedNumber s ∧
    ∃ past, past <+: s.journal ∧
      .insertRecord ⟨1, "4006381000000", "inventory", 10, "ean13", "4006381000000", 1⟩ ∈ past ∧
      .insertRecord ⟨2, "4006381000000", "order", 11, "ean13", "4006381000000", 2⟩ ∈ past ∧
      .insertRecord ⟨3, "4006381000000", "scan", 12, "code128", "4006381000000\n", 3⟩ ∈ past := by
  have hread : (Lts.runNext (Uow.State.next RegistryWrite.apply RegistryRequest.handler)
      (.init {}) sharedNumber).map (fun s => decide ((.getByGtin "4006381000000", .ok (.records [
        ⟨1, "4006381000000", "inventory", 10, "ean13", "4006381000000", 1⟩,
        ⟨2, "4006381000000", "order", 11, "ean13", "4006381000000", 2⟩,
        ⟨3, "4006381000000", "scan", 12, "code128", "4006381000000\n", 3⟩])) ∈ s.answers)) =
      some true := by
    decide +kernel
  obtain ⟨s, hrun, hs⟩ := Lts.exists_run_of_map hread
  obtain ⟨-, -, hlookups⟩ := barcodes_by_history rfl hrun
  obtain ⟨since, till, hlog⟩ := Uow.State.mem_answers.1 (of_decide_eq_true hs)
  obtain ⟨past, -, hpast, htill, hrows, -⟩ := hlookups _ _ _ _ hlog
  refine ⟨s, hrun, past, hpast.trans htill, ((hrows _).1 ?_).1, ((hrows _).1 ?_).1,
    ((hrows _).1 ?_).1⟩
  · exact List.mem_cons_self
  · exact List.mem_cons_of_mem _ List.mem_cons_self
  · exact List.mem_cons_of_mem _ (List.mem_cons_of_mem _ List.mem_cons_self)

/-! ### The templates -/

/-- **Label templates in every interleaving of requests**, from none: their codes are unique,
whatever the requests have read, and a list of them has all those of a moment between the call and
the answer, the last created first. -/
theorem templates_by_history (h₀ : d₀.templates = [])
    (hrun : registrySystem.Run (.init d₀) ls s) :
    (s.db.templates.map LabelTemplate.code).Nodup ∧
      ∀ since till rows, ⟨.listTemplates, since, till, .ok (.templates rows)⟩ ∈ s.log →
        ∃ past, since <+: past ∧ past <+: till ∧ till <+: s.journal ∧
          rows = orderByDesc LabelTemplate.createdAt (past.flatMap RegistryWrite.templates) := by
  have hsound := Uow.sound_run_since RegistryRequest.justified_handler hrun
  refine ⟨?_, fun since till rows hanswer => ?_⟩
  · refine hsound.history.invariant (I := fun d => (d.templates.map LabelTemplate.code).Nodup) ?_
      fun _ w d d' _ hnodup _ happly => ?_
    · simp [h₀]
    · obtain ⟨hfits, -, htemplates⟩ := RegistryWrite.apply_eq_ok happly
      rw [htemplates]
      cases w with
      | insertRecord record =>
        show ((d.templates ++ []).map LabelTemplate.code).Nodup
        rwa [List.append_nil]
      | insertTemplate template => exact nodup_map_concat hnodup hfits
  · obtain ⟨-, htill, hpost⟩ := hsound.log _ hanswer
    obtain ⟨past, d, hsince, hpast, hd, rfl⟩ := hpost _ rfl
    exact ⟨past, hsince, hpast, htill, by rw [(registry_eq hd).2, h₀, List.nil_append]⟩

end

end Barcode

end OmsWmsTms
