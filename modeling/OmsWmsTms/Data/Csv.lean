import OmsWmsTms.Data.Dict
import Mathlib.Data.Nat.Notation

/-!
# Comma-separated values

The reader and the writer of Python's `csv`, as state machines over characters, and the rows of
`csv.DictReader`.

* `Dialect` : how fields are separated and quoted; `excel` : the default.
* `Dialect.write` : what a writer makes of some records, quoting the fields that need it.
* `Dialect.read` : the records that a reader returns, and the error that ends them.
* `Dialect.read_write` : a reader returns what a writer has written.
* `dictRow` : a record as the dictionary of a `DictReader`.
-/

namespace OmsWmsTms

namespace Csv

/-- A row: the texts of its fields. -/
abbrev Record := List String

/-- How fields are separated and quoted. -/
structure Dialect where
  delimiter : Char
  quotechar : Char
  /-- The characters that a reader takes in one field. -/
  fieldLimit : ℕ
  delimiter_ne_quotechar : delimiter ≠ quotechar
  delimiter_ne_newline : delimiter ≠ '\r' ∧ delimiter ≠ '\n'
  quotechar_ne_newline : quotechar ≠ '\r' ∧ quotechar ≠ '\n'

theorem comma_ne_quote : ',' ≠ '"' := by decide

theorem comma_ne_newline : ',' ≠ '\r' ∧ ',' ≠ '\n' := by decide

theorem quote_ne_newline : '"' ≠ '\r' ∧ '"' ≠ '\n' := by decide

/-- `csv.excel`, with `csv.field_size_limit()`. -/
def excel : Dialect where
  delimiter := ','
  quotechar := '"'
  fieldLimit := 131072
  delimiter_ne_quotechar := comma_ne_quote
  delimiter_ne_newline := comma_ne_newline
  quotechar_ne_newline := quote_ne_newline

namespace Dialect

variable (d : Dialect)

/-! ### The writer -/

/-- The characters of the line terminator. -/
def isNewline (c : Char) : Bool := c = '\r' ∨ c = '\n'

/-- A field with one of these is quoted. -/
def isSpecial (c : Char) : Bool := c = d.delimiter ∨ c = d.quotechar ∨ isNewline c

/-- The inside of a quoted field: a quote is doubled. -/
def escape (field : List Char) : List Char :=
  field.flatMap fun c => if c = d.quotechar then [c, c] else [c]

/-- A field, quoted where it has to be; so is an empty field that is alone in its row. -/
def writeField (alone : Bool) (field : String) : List Char :=
  if field.toList.any d.isSpecial ∨ alone ∧ field = "" then
    d.quotechar :: d.escape field.toList ++ [d.quotechar]
  else field.toList

/-- The fields of a row. -/
def writeFields (alone : Bool) : Record → List Char
  | [] => []
  | [field] => d.writeField alone field
  | field :: record => d.writeField alone field ++ d.delimiter :: writeFields alone record

/-- `writerow`. -/
def writeRow (record : Record) : List Char :=
  d.writeFields (record.length = 1) record ++ ['\r', '\n']

/-- What is written for some records. -/
def write (records : List Record) : List Char := records.flatMap d.writeRow

/-! ### The reader -/

/-- Where a reader is. -/
inductive Mark
  | startRecord | startField | inField | inQuotedField | quoteInQuotedField | eatCrnl
deriving DecidableEq

/-- A reader: its state, the field that it reads, and the fields before it. -/
structure Reader where
  mark : Mark := .startRecord
  field : List Char := []
  fields : Record := []

/-- `csv.Error`. -/
inductive Error
  /-- A field is larger than the limit. -/
  | fieldLimit
  /-- A new-line character in an unquoted field. -/
  | newline
deriving DecidableEq

/-- `parse_add_char`. -/
def addChar (r : Reader) (c : Char) (mark : Mark) : Except Error Reader :=
  if d.fieldLimit ≤ r.field.length then .error .fieldLimit
  else .ok { r with mark, field := r.field ++ [c] }

/-- `parse_save_field`. -/
def saveField (r : Reader) (mark : Mark) : Reader where
  mark
  fields := r.fields ++ [String.ofList r.field]

/-- The first character of a field. -/
def startField (r : Reader) (c : Char) : Except Error Reader :=
  if isNewline c then .ok (saveField r .eatCrnl)
  else if c = d.quotechar then .ok { r with mark := .inQuotedField }
  else if c = d.delimiter then .ok (saveField r .startField)
  else d.addChar r c .inField

/-- `parse_process_char`. -/
def processChar (r : Reader) (c : Char) : Except Error Reader :=
  match r.mark with
  | .startRecord =>
    if isNewline c then .ok { r with mark := .eatCrnl } else d.startField r c
  | .startField => d.startField r c
  | .inField =>
    if isNewline c then .ok (saveField r .eatCrnl)
    else if c = d.delimiter then .ok (saveField r .startField)
    else d.addChar r c .inField
  | .inQuotedField =>
    if c = d.quotechar then .ok { r with mark := .quoteInQuotedField }
    else d.addChar r c .inQuotedField
  | .quoteInQuotedField =>
    if c = d.quotechar then d.addChar r c .inQuotedField
    else if c = d.delimiter then .ok (saveField r .startField)
    else if isNewline c then .ok (saveField r .eatCrnl)
    else d.addChar r c .inField
  | .eatCrnl => if isNewline c then .ok r else .error .newline

/-- `parse_process_char` at the end of a line. -/
def processEnd (r : Reader) : Reader :=
  match r.mark with
  | .startRecord | .inQuotedField => r
  | .eatCrnl => { r with mark := .startRecord }
  | .startField | .inField | .quoteInQuotedField => saveField r .startRecord

/-- What is left at the end of the input: an open field is saved as it is. -/
def atEnd (r : Reader) : List Record :=
  match r.mark with
  | .startRecord => []
  | .inQuotedField => [(saveField r .startRecord).fields]
  | _ => [(processEnd r).fields]

/-- **The records of a text**, line by line, and the error that ends them. -/
def readFrom (r : Reader) : List Char → List Record × Option Error
  | [] => (atEnd r, none)
  | c :: text =>
    match d.processChar r c with
    | .error error => ([], some error)
    | .ok r =>
      -- the input is an iterator of lines: behind each one the reader sees its end
      if c = '\n' then
        if (processEnd r).mark = .startRecord then
          let (records, error) := readFrom {} text
          ((processEnd r).fields :: records, error)
        else readFrom (processEnd r) text
      else readFrom r text

/-- `csv.reader` of a text. -/
def read (text : List Char) : List Record × Option Error := d.readFrom {} text

/-! ### A round trip -/

variable {d} {r r' : Reader} {c : Char} {text : List Char} {field : String}

theorem readFrom_cons (h : d.processChar r c = .ok r') (hc : c ≠ '\n') :
    d.readFrom r (c :: text) = d.readFrom r' text := by
  rw [readFrom, h]
  simp [hc]

/-- Inside of quotes a line does not end the record. -/
theorem readFrom_cons_quoted (h : d.processChar r c = .ok r') (hr : r'.mark = .inQuotedField) :
    d.readFrom r (c :: text) = d.readFrom r' text := by
  have hend : processEnd r' = r' := by simp [processEnd, hr]
  rw [readFrom, h]
  simp [hend, hr]

/-- The end of a row. -/
theorem readFrom_newline (h : d.processChar r '\r' = .ok r') (hr : r'.mark = .eatCrnl) :
    d.readFrom r ('\r' :: '\n' :: text) =
      (r'.fields :: (d.read text).1, (d.read text).2) := by
  have hprocess : d.processChar r' '\n' = .ok r' := by simp [processChar, hr, isNewline]
  rw [readFrom_cons h (by decide), readFrom, hprocess]
  simp [processEnd, hr, read]

/-- The inside of a quoted field is read back. -/
theorem readFrom_escape (chars text : List Char) (hr : r.mark = .inQuotedField)
    (hlimit : r.field.length + chars.length ≤ d.fieldLimit) :
    d.readFrom r (d.escape chars ++ text) =
      d.readFrom { r with field := r.field ++ chars } text := by
  induction chars generalizing r with
  | nil => simp [escape]
  | cons c chars ih =>
    simp only [List.length_cons] at hlimit
    have hroom : ¬ d.fieldLimit ≤ r.field.length := by omega
    have hrest := @ih { r with field := r.field ++ [c] } hr (by
      simp only [List.length_append, List.length_singleton]
      omega)
    rw [List.append_assoc, List.singleton_append] at hrest
    -- a quote is written twice and read as one, by two steps of the reader
    by_cases hc : c = d.quotechar
    · have hfirst : d.processChar r c = .ok { r with mark := .quoteInQuotedField } := by
        simp [processChar, hr, hc]
      have hsecond : d.processChar { r with mark := .quoteInQuotedField } c =
          .ok { r with field := r.field ++ [c] } := by
        simp [processChar, hc, addChar, hroom, hr]
      have hescape : d.escape (c :: chars) ++ text = c :: c :: (d.escape chars ++ text) := by
        simp [escape, hc]
      rw [hescape, readFrom_cons hfirst (hc ▸ d.quotechar_ne_newline.2),
        readFrom_cons_quoted hsecond hr]
      exact hrest
    · have hadd : d.processChar r c = .ok { r with field := r.field ++ [c] } := by
        simp [processChar, hr, hc, addChar, hroom]
      have hescape : d.escape (c :: chars) ++ text = c :: (d.escape chars ++ text) := by
        simp [escape, hc]
      rw [hescape, readFrom_cons_quoted hadd hr]
      exact hrest

/-- A field without special characters is read as it is. -/
theorem readFrom_plain (chars text : List Char) (hr : r.mark = .inField)
    (hchars : chars.any d.isSpecial = false)
    (hlimit : r.field.length + chars.length ≤ d.fieldLimit) :
    d.readFrom r (chars ++ text) = d.readFrom { r with field := r.field ++ chars } text := by
  induction chars generalizing r with
  | nil => simp
  | cons c chars ih =>
    simp only [List.length_cons] at hlimit
    simp only [List.any_cons, Bool.or_eq_false_iff] at hchars
    have hroom : ¬ d.fieldLimit ≤ r.field.length := by omega
    have hspecial := hchars.1
    simp only [isSpecial, isNewline, decide_eq_false_iff_not, not_or, decide_eq_true_eq] at hspecial
    obtain ⟨hdelimiter, -, hcr, hlf⟩ := hspecial
    have hadd : d.processChar r c = .ok { r with field := r.field ++ [c] } := by
      simp [processChar, hr, isNewline, hdelimiter, hcr, hlf, addChar, hroom]
    have hrest := @ih { r with field := r.field ++ [c] } hr hchars.2 (by
      simp only [List.length_append, List.length_singleton]
      omega)
    rw [List.append_assoc, List.singleton_append] at hrest
    rw [List.cons_append, readFrom_cons hadd hlf]
    exact hrest

/-- A reader before a field. -/
structure Ready (r : Reader) : Prop where
  mark : r.mark = .startRecord ∨ r.mark = .startField
  field : r.field = []

/-- A reader behind a field. -/
def Read (r : Reader) : Prop :=
  (r.mark = .startField ∧ r.field = []) ∨ r.mark = .inField ∨ r.mark = .quoteInQuotedField

theorem startField_delimiter (r : Reader) :
    d.startField r d.delimiter = .ok (saveField r .startField) := by
  have h := d.delimiter_ne_newline
  simp [startField, isNewline, h.1, h.2, d.delimiter_ne_quotechar]

theorem processChar_delimiter (h : Ready r ∨ Read r) :
    d.processChar r d.delimiter = .ok (saveField r .startField) := by
  have hnewline : isNewline d.delimiter = false := by
    simp [isNewline, d.delimiter_ne_newline.1, d.delimiter_ne_newline.2]
  have hquote := d.delimiter_ne_quotechar
  rcases h with ⟨hmark | hmark, -⟩ | ⟨hmark, -⟩ | hmark | hmark
  · simp [processChar, hmark, hnewline, startField_delimiter]
  · simp [processChar, hmark, startField_delimiter]
  · simp [processChar, hmark, startField_delimiter]
  · simp [processChar, hmark, hnewline]
  · simp [processChar, hmark, hquote]

theorem processChar_newline (h : Read r) :
    d.processChar r '\r' = .ok (saveField r .eatCrnl) := by
  have hnewline : isNewline '\r' = true := rfl
  have hdelimiter := d.delimiter_ne_newline.1.symm
  have hquote := d.quotechar_ne_newline.1.symm
  rcases h with ⟨hmark, -⟩ | hmark | hmark
  · simp [processChar, hmark, startField, hnewline]
  · simp [processChar, hmark, hnewline]
  · simp [processChar, hmark, hnewline, hquote, hdelimiter]

/-- Nothing is written for an empty field, unless it is alone in its row. -/
theorem writeField_eq_nil {alone : Bool} (h : d.writeField alone field = []) :
    alone = false ∧ field = "" := by
  unfold writeField at h
  split_ifs at h with hquoted
  · exact absurd (List.append_eq_nil_iff.1 h).2 (List.cons_ne_nil _ _)
  · have hempty := String.toList_eq_nil_iff.1 h
    refine ⟨?_, hempty⟩
    by_contra halone
    exact hquoted (.inr ⟨Bool.not_eq_false _ ▸ halone, hempty⟩)

/-- What a field leaves, when something is written for it. -/
theorem readFrom_writeField {alone : Bool} (hr : Ready r)
    (hne : d.writeField alone field ≠ []) (hlimit : field.toList.length ≤ d.fieldLimit) :
    ∃ mark, Read { r with mark, field := field.toList } ∧ ∀ text,
      d.readFrom r (d.writeField alone field ++ text) =
        d.readFrom { r with mark, field := field.toList } text := by
  have hfield := hr.field
  have hstart : ∀ c, isNewline c = false → d.processChar r c = d.startField r c := by
    intro c hc
    rcases hr.mark with hmark | hmark <;> simp [processChar, hmark, hc]
  unfold writeField at hne ⊢
  split_ifs at hne ⊢ with hquoted
  · -- quoted: the opening quote, the inside, the closing quote
    have hopen : d.processChar r d.quotechar = .ok { r with mark := .inQuotedField } := by
      have h := d.quotechar_ne_newline
      rw [hstart _ (by simp [isNewline, h.1, h.2])]
      simp [startField, isNewline, h.1, h.2]
    refine ⟨.quoteInQuotedField, .inr (.inr rfl), fun text => ?_⟩
    have hclose : d.processChar { r with mark := .inQuotedField, field := field.toList }
        d.quotechar = .ok { r with mark := .quoteInQuotedField, field := field.toList } := by
      simp [processChar]
    have hinside := readFrom_escape (d := d) (r := { r with mark := .inQuotedField })
      field.toList (d.quotechar :: text) rfl (by simpa [hfield] using hlimit)
    simp only [List.cons_append, List.append_assoc, List.nil_append]
    rw [readFrom_cons_quoted hopen rfl, hinside]
    simp only [hfield, List.nil_append]
    rw [readFrom_cons hclose d.quotechar_ne_newline.2]
  · -- plain: the first character opens the field
    obtain ⟨c, chars, hcons⟩ := List.exists_cons_of_ne_nil hne
    rw [not_or, hcons, List.any_cons] at hquoted
    have hall : (d.isSpecial c || chars.any d.isSpecial) = false := by simpa using hquoted.1
    obtain ⟨hc, hchars⟩ := Bool.or_eq_false_iff.1 hall
    simp only [isSpecial, isNewline, decide_eq_false_iff_not, not_or, decide_eq_true_eq] at hc
    obtain ⟨hdelimiter, hquote, hcr, hlf⟩ := hc
    rw [hcons, List.length_cons] at hlimit
    have hroom : ¬ d.fieldLimit ≤ 0 := by omega
    have hnewline : isNewline c = false := by simp [isNewline, hcr, hlf]
    have hopen : d.processChar r c = .ok { r with mark := .inField, field := [c] } := by
      rw [hstart _ hnewline]
      simp [startField, hnewline, hdelimiter, hquote, addChar, hfield, hroom]
    refine ⟨.inField, .inr (.inl rfl), fun text => ?_⟩
    have hinside := readFrom_plain (d := d) (r := { r with mark := .inField, field := [c] })
      chars text rfl hchars (by
        simp only [List.length_singleton]
        omega)
    rw [hcons, List.cons_append, readFrom_cons hopen hlf, hinside]
    rfl

/-- A field and the delimiter behind it. -/
theorem readFrom_writeField_delimiter {alone : Bool} (hr : Ready r)
    (hlimit : field.toList.length ≤ d.fieldLimit) :
    d.readFrom r (d.writeField alone field ++ d.delimiter :: text) =
      d.readFrom { mark := .startField, fields := r.fields ++ [field] } text := by
  by_cases hne : d.writeField alone field = []
  · have hempty := (writeField_eq_nil hne).2
    rw [hne, List.nil_append,
      readFrom_cons (processChar_delimiter (.inl hr)) d.delimiter_ne_newline.2]
    simp [saveField, hr.field, hempty]
  · obtain ⟨mark, hread, hfield⟩ := readFrom_writeField hr hne hlimit
    rw [hfield, readFrom_cons (processChar_delimiter (.inr hread)) d.delimiter_ne_newline.2]
    simp [saveField]

/-- The last field of a row. -/
theorem readFrom_writeField_end {alone : Bool} (hr : Ready r)
    (hnext : r.mark = .startField ∨ d.writeField alone field ≠ [])
    (hlimit : field.toList.length ≤ d.fieldLimit) :
    d.readFrom r (d.writeField alone field ++ '\r' :: '\n' :: text) =
      ((r.fields ++ [field]) :: (d.read text).1, (d.read text).2) := by
  by_cases hne : d.writeField alone field = []
  · have hmark := hnext.resolve_right (not_not_intro hne)
    have hempty := (writeField_eq_nil hne).2
    rw [hne, List.nil_append,
      readFrom_newline (processChar_newline (.inl ⟨hmark, hr.field⟩)) rfl]
    simp [saveField, hr.field, hempty]
  · obtain ⟨mark, hread, hfield⟩ := readFrom_writeField hr hne hlimit
    rw [hfield, readFrom_newline (processChar_newline hread) rfl]
    simp [saveField]

/-- The fields of a row, one after another. -/
theorem readFrom_writeFields {alone : Bool} {record : Record} (hr : Ready r)
    (hmark : r.mark = .startField) (hrecord : record ≠ [])
    (hlimit : ∀ field ∈ record, field.toList.length ≤ d.fieldLimit) :
    d.readFrom r (d.writeFields alone record ++ '\r' :: '\n' :: text) =
      ((r.fields ++ record) :: (d.read text).1, (d.read text).2) := by
  induction record generalizing r with
  | nil => exact absurd rfl hrecord
  | cons field record ih =>
    have hfirst := hlimit field List.mem_cons_self
    cases record with
    | nil => exact readFrom_writeField_end hr (.inl hmark) hfirst
    | cons next record =>
      rw [writeFields, List.append_assoc, List.cons_append, readFrom_writeField_delimiter hr hfirst,
        ih ⟨.inr rfl, rfl⟩ rfl (List.cons_ne_nil _ _)
          fun field hmem => hlimit field (List.mem_cons_of_mem _ hmem)]
      simp
      all_goals exact fun h => by cases h

/-- One row is read back. -/
theorem read_writeRow {record : Record}
    (hlimit : ∀ field ∈ record, field.toList.length ≤ d.fieldLimit) :
    d.read (d.writeRow record ++ text) = (record :: (d.read text).1, (d.read text).2) := by
  have hready : Ready {} := ⟨.inl rfl, rfl⟩
  unfold writeRow
  rw [List.append_assoc]
  cases record with
  | nil =>
    have hprocess : d.processChar {} '\r' = .ok { mark := .eatCrnl } := by
      simp [processChar, isNewline]
    exact readFrom_newline hprocess rfl
  | cons field record =>
    have hfirst := hlimit field List.mem_cons_self
    cases record with
    | nil =>
      refine readFrom_writeField_end hready (.inr fun hnil => ?_) hfirst
      exact absurd (writeField_eq_nil hnil).1 (by simp)
    | cons next record =>
      have hrest := fun field hmem => hlimit field (List.mem_cons_of_mem _ hmem)
      rw [writeFields, List.append_assoc, List.cons_append, read,
        readFrom_writeField_delimiter hready hfirst]
      · exact readFrom_writeFields ⟨.inr rfl, rfl⟩ rfl (List.cons_ne_nil _ _) hrest
      · exact fun h => by cases h

/-- **A reader returns what a writer has written.** -/
theorem read_write {records : List Record}
    (hlimit : ∀ record ∈ records, ∀ field ∈ record, field.toList.length ≤ d.fieldLimit) :
    d.read (d.write records) = (records, none) := by
  induction records with
  | nil => rfl
  | cons record records ih =>
    rw [write, List.flatMap_cons, read_writeRow (hlimit record List.mem_cons_self)]
    have hrest := ih fun record hmem => hlimit record (List.mem_cons_of_mem _ hmem)
    rw [write] at hrest
    rw [hrest]

end Dialect

/-! ### Rows as dictionaries -/

/-- A row of a `DictReader`: the texts under the names of the fields, `None` where the row is too
short. -/
def dictRow (fieldnames record : Record) : Dict String (Option String) :=
  (fieldnames.zip (record.map some ++
    List.replicate (fieldnames.length - record.length) none)).foldl
      (fun row item => row.set item.1 item.2) .empty

/-- The rows of a `DictReader`: the first record names the fields, and empty rows are skipped. -/
def dictRows : List Record → List (Dict String (Option String))
  | [] => []
  | fieldnames :: records => (records.filter fun record => record ≠ []).map (dictRow fieldnames)

end Csv

end OmsWmsTms
