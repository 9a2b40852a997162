import Mathlib.Data.List.Basic

/-!
# Reading CSV text

The reader of Python's module `csv` goes through the text one character at a time and keeps the field
and the record it is in.  Quotation marks count at the start of a field only; a doubled one stands for
itself.  A line ends with `\n`, `\r` or both, and an empty line is a record without fields.  There is
no limit here on the length of a field.

`DictReader` takes the first record for the names of the columns.

Fields that have nothing in them that the reader looks at are read back as they were written.
-/

namespace HitchOpen.CsvReader

structure Dialect where
  delimiter : Char
  quotechar : Char
  delimiter_ne : delimiter ≠ '\r' ∧ delimiter ≠ '\n'

/-- The dialect `excel`. -/
def excel : Dialect := ⟨',', '"', by decide⟩

inductive ReaderState
  | startRecord
  | startField
  | inField
  | inQuotedField
  | quoteInQuotedField
  /-- After a `\r`, which a `\n` may follow. -/
  | eatCrnl
  deriving DecidableEq

structure Reader where
  state : ReaderState
  field : List Char
  /-- The fields of the record so far. -/
  fields : List (List Char)
  records : List (List (List Char))
  deriving DecidableEq

/-- Between two records. -/
def Reader.atStart (records : List (List (List Char))) : Reader := ⟨.startRecord, [], [], records⟩

def isLineEnd (ch : Char) : Bool := ch = '\r' || ch = '\n'

/-! ### One character -/

def addChar (r : Reader) (state : ReaderState) (ch : Char) : Reader :=
  { r with state := state, field := r.field ++ [ch] }

def saveField (r : Reader) : Reader := { r with field := [], fields := r.fields ++ [r.field] }

def endRecord (r : Reader) (ch : Char) : Reader where
  state := if ch = '\r' then .eatCrnl else .startRecord
  field := []
  fields := []
  records := r.records ++ [r.fields]

def processStartField (d : Dialect) (r : Reader) (ch : Char) : Reader :=
  if isLineEnd ch then endRecord (saveField r) ch
  else if ch = d.quotechar then { r with state := .inQuotedField }
  else if ch = d.delimiter then { saveField r with state := .startField }
  else addChar r .inField ch

def processStartRecord (d : Dialect) (r : Reader) (ch : Char) : Reader :=
  if isLineEnd ch then endRecord r ch else processStartField d r ch

def processChar (d : Dialect) (r : Reader) (ch : Char) : Reader :=
  match r.state with
  | .startRecord => processStartRecord d r ch
  | .startField => processStartField d r ch
  | .inField =>
      if isLineEnd ch then endRecord (saveField r) ch
      else if ch = d.delimiter then { saveField r with state := .startField }
      else addChar r .inField ch
  | .inQuotedField =>
      if ch = d.quotechar then { r with state := .quoteInQuotedField } else addChar r .inQuotedField ch
  | .quoteInQuotedField =>
      if ch = d.quotechar then addChar r .inQuotedField ch
      else if ch = d.delimiter then { saveField r with state := .startField }
      else if isLineEnd ch then endRecord (saveField r) ch
      else addChar r .inField ch
  | .eatCrnl => if ch = '\n' then { r with state := .startRecord } else processStartRecord d r ch

/-- At the end of the text a record that has begun is complete. -/
def finish (r : Reader) : List (List (List Char)) :=
  match r.state with
  | .startRecord => r.records
  | .eatCrnl => r.records
  | _ => r.records ++ [r.fields ++ [r.field]]

/-- The records of a text. -/
def readRecords (d : Dialect) (text : List Char) : List (List (List Char)) :=
  finish (text.foldl (processChar d) (.atStart []))

example : readRecords excel "a,\"b\"\"\n,\"c\r\n\r\n,d".toList =
    [["a".toList, "b\"\n,c".toList], [], ["".toList, "d".toList]] := by decide

/-! ### Columns by their names -/

/-- A record under the names of the columns: a field that is missing is `None`.  Fields beyond the last
name have no name that a program could ask for. -/
def dictRow : List (List Char) → List (List Char) → List (List Char × Option (List Char))
  | [], _ => []
  | name :: names, [] => (name, none) :: dictRow names []
  | name :: names, field :: fields => (name, some field) :: dictRow names fields

/-- `row[name]`; the last of several columns of one name counts. -/
def dictField (row : List (List Char × Option (List Char))) (name : List Char) :
    Option (Option (List Char)) :=
  row.reverse.lookup name

/-- The rows of `DictReader`: empty records are no rows. -/
def dictRows (d : Dialect) (text : List Char) : List (List (List Char × Option (List Char))) :=
  match readRecords d text with
  | [] => []
  | names :: records => (records.filter (· ≠ [])).map (dictRow names)

theorem dictRow_names (names fields : List (List Char)) :
    (dictRow names fields).map Prod.fst = names := by
  induction names generalizing fields with
  | nil => rfl
  | cons name names ih =>
      cases fields with
      | nil => exact congrArg (name :: ·) (ih [])
      | cons field fields => exact congrArg (name :: ·) (ih fields)

/-- No column has a name that is not in the first record. -/
theorem dictField_eq_none {names : List (List Char)} {name : List Char} (h : name ∉ names)
    (fields : List (List Char)) : dictField (dictRow names fields) name = none := by
  rw [dictField, List.lookup_eq_none_iff]
  intro entry hentry
  have hname : entry.1 ∈ names := by
    rw [← dictRow_names names fields]
    exact List.mem_map_of_mem (List.mem_reverse.mp hentry)
  rw [bne_iff_ne]
  rintro rfl
  exact h hname

/-! ### Reading what was written -/

/-- Text without a character that the reader looks at. -/
structure Plain (d : Dialect) (field : List Char) : Prop where
  nonempty : field ≠ []
  noDelimiter : d.delimiter ∉ field
  noQuote : d.quotechar ∉ field
  noReturn : '\r' ∉ field
  noFeed : '\n' ∉ field

/-- A character that the reader collects without looking at it. -/
structure Ordinary (d : Dialect) (ch : Char) : Prop where
  notEnd : isLineEnd ch = false
  notQuote : ch ≠ d.quotechar
  notDelimiter : ch ≠ d.delimiter

/-- A line of a CSV file. -/
def writeRecord (d : Dialect) (fields : List (List Char)) : List Char :=
  [d.delimiter].intercalate fields ++ ['\r', '\n']

section RoundTrip

variable {d : Dialect}

theorem isLineEnd_eq_false {ch : Char} (hreturn : ch ≠ '\r') (hfeed : ch ≠ '\n') :
    isLineEnd ch = false := by
  simp [isLineEnd, hreturn, hfeed]

theorem Plain.ordinary {field : List Char} (h : Plain d field) : ∀ ch ∈ field, Ordinary d ch := by
  intro ch hch
  have hreturn := ne_of_mem_of_not_mem hch h.noReturn
  have hfeed := ne_of_mem_of_not_mem hch h.noFeed
  exact ⟨isLineEnd_eq_false hreturn hfeed, ne_of_mem_of_not_mem hch h.noQuote,
    ne_of_mem_of_not_mem hch h.noDelimiter⟩

/-- The rest of a field. -/
theorem foldl_inField {piece : List Char} (h : ∀ ch ∈ piece, Ordinary d ch) (field : List Char)
    (fields : List (List Char)) (records : List (List (List Char))) :
    piece.foldl (processChar d) ⟨.inField, field, fields, records⟩ =
      ⟨.inField, field ++ piece, fields, records⟩ := by
  induction piece generalizing field with
  | nil => rw [List.append_nil]; rfl
  | cons ch piece ih =>
      obtain ⟨hch, hpiece⟩ := List.forall_mem_cons.mp h
      have hstep : processChar d ⟨.inField, field, fields, records⟩ ch =
          ⟨.inField, field ++ [ch], fields, records⟩ := by
        simp [processChar, hch.notEnd, hch.notDelimiter, addChar]
      rw [List.foldl_cons, hstep, ih hpiece, List.append_assoc]
      rfl

/-- A field, from where the reader expects one. -/
theorem foldl_field {field : List Char} (h : Plain d field) {state : ReaderState}
    (hstate : state = .startRecord ∨ state = .startField) (fields : List (List Char))
    (records : List (List (List Char))) :
    field.foldl (processChar d) ⟨state, [], fields, records⟩ =
      ⟨.inField, field, fields, records⟩ := by
  cases field with
  | nil => exact absurd rfl h.nonempty
  | cons ch piece =>
      obtain ⟨hch, hpiece⟩ := List.forall_mem_cons.mp h.ordinary
      have hstep : processChar d ⟨state, [], fields, records⟩ ch =
          ⟨.inField, [ch], fields, records⟩ := by
        rcases hstate with rfl | rfl <;>
          simp [processChar, processStartRecord, processStartField, hch.notEnd, hch.notQuote,
            hch.notDelimiter, addChar]
      rw [List.foldl_cons, hstep, foldl_inField hpiece]
      rfl

/-- The delimiter ends a field. -/
theorem processChar_delimiter (field : List Char) (fields : List (List Char))
    (records : List (List (List Char))) :
    processChar d ⟨.inField, field, fields, records⟩ d.delimiter =
      ⟨.startField, [], fields ++ [field], records⟩ := by
  have hend := isLineEnd_eq_false d.delimiter_ne.1 d.delimiter_ne.2
  simp [processChar, hend, saveField]

/-- The end of the line ends the record. -/
theorem foldl_lineEnd (field : List Char) (fields : List (List Char))
    (records : List (List (List Char))) :
    ['\r', '\n'].foldl (processChar d) ⟨.inField, field, fields, records⟩ =
      .atStart (records ++ [fields ++ [field]]) := by
  simp [processChar, isLineEnd, saveField, endRecord, Reader.atStart]

/-- A line, of which some fields have been read. -/
theorem foldl_writeRecord {fields : List (List Char)} (h : ∀ field ∈ fields, Plain d field)
    (hne : fields ≠ []) {state : ReaderState}
    (hstate : state = .startRecord ∨ state = .startField) (before : List (List Char))
    (records : List (List (List Char))) :
    (writeRecord d fields).foldl (processChar d) ⟨state, [], before, records⟩ =
      .atStart (records ++ [before ++ fields]) := by
  induction fields generalizing state before with
  | nil => exact absurd rfl hne
  | cons field fields ih =>
      obtain ⟨hfield, hfields⟩ := List.forall_mem_cons.mp h
      by_cases hlast : fields = []
      · subst hlast
        rw [writeRecord, List.intercalate_singleton, List.foldl_append, foldl_field hfield hstate,
          foldl_lineEnd]
      · have hline : writeRecord d (field :: fields) =
            field ++ d.delimiter :: writeRecord d fields := by
          rw [writeRecord, List.intercalate_cons_of_ne_nil hlast, List.append_assoc,
            List.append_assoc]
          rfl
        rw [hline, List.foldl_append, foldl_field hfield hstate, List.foldl_cons,
          processChar_delimiter, ih hfields hlast (Or.inr rfl), List.append_assoc]
        rfl

theorem foldl_writeRecords {rows : List (List (List Char))}
    (h : ∀ fields ∈ rows, fields ≠ [] ∧ ∀ field ∈ fields, Plain d field)
    (records : List (List (List Char))) :
    (rows.flatMap (writeRecord d)).foldl (processChar d) (.atStart records) =
      .atStart (records ++ rows) := by
  induction rows generalizing records with
  | nil => rw [List.append_nil]; rfl
  | cons fields rows ih =>
      obtain ⟨⟨hne, hplain⟩, hrows⟩ := List.forall_mem_cons.mp h
      rw [List.flatMap_cons, List.foldl_append, Reader.atStart,
        foldl_writeRecord hplain hne (Or.inl rfl), ih hrows, List.append_assoc]
      rfl

/-- **Round trip.**  Records of plain fields are read back as they were written. -/
theorem readRecords_writeRecords {rows : List (List (List Char))}
    (h : ∀ fields ∈ rows, fields ≠ [] ∧ ∀ field ∈ fields, Plain d field) :
    readRecords d (rows.flatMap (writeRecord d)) = rows := by
  rw [readRecords, foldl_writeRecords h]
  exact List.nil_append rows

/-- The first record that was written names the columns of the others. -/
theorem dictRows_writeRecords {names : List (List Char)} {rows : List (List (List Char))}
    (hnames : names ≠ [] ∧ ∀ name ∈ names, Plain d name)
    (h : ∀ fields ∈ rows, fields ≠ [] ∧ ∀ field ∈ fields, Plain d field) :
    dictRows d ((names :: rows).flatMap (writeRecord d)) = rows.map (dictRow names) := by
  have hrows : rows.filter (· ≠ []) = rows := by
    rw [List.filter_eq_self]
    intro fields hfields
    exact decide_eq_true (h fields hfields).1
  rw [dictRows, readRecords_writeRecords (List.forall_mem_cons.mpr ⟨hnames, h⟩)]
  show (rows.filter (· ≠ [])).map (dictRow names) = _
  rw [hrows]

end RoundTrip

end HitchOpen.CsvReader
