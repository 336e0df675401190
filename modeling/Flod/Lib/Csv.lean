import Mathlib.Data.List.Basic

/-! Python's `csv` module in its default dialect: commas, double quotes written twice inside
quotes, and records ended by a carriage return and a line feed. The reader takes one character
at a time, as the C implementation does, and also takes either line break alone. -/

namespace Flod.Lib.Csv

abbrev Field := List Char

abbrev Row := List Field

abbrev Text := List Char

inductive Mode where
  | startRecord
  | afterReturn
  | startField
  | inField
  | inQuotedField
  | quoteInQuotedField
  deriving DecidableEq, Repr

/-- What the reader has of the current record: the field it is in and the fields before it. -/
structure Reader where
  mode : Mode
  field : Field
  fields : Row
  deriving DecidableEq, Repr

namespace Reader

def init : Reader := ⟨.startRecord, [], []⟩

def isBreak (c : Char) : Bool := c == '\r' || c == '\n'

/-- A record is over. A line feed that follows a carriage return belongs to it. -/
def endRecord (c : Char) (row : Row) : Reader × Option Row :=
  (⟨if c = '\r' then .afterReturn else .startRecord, [], []⟩, some row)

def add (r : Reader) (mode : Mode) (c : Char) : Reader × Option Row :=
  (⟨mode, r.field ++ [c], r.fields⟩, none)

/-- A character after which the field, and perhaps the record, is over. -/
def endField (r : Reader) (c : Char) : Reader × Option Row :=
  if isBreak c then endRecord c (r.fields ++ [r.field]) else (⟨.startField, [], r.fields ++ [r.field]⟩, none)

def startField (r : Reader) (c : Char) : Reader × Option Row :=
  if isBreak c || c == ',' then r.endField c
  else if c = '"' then ({ r with mode := .inQuotedField }, none)
  else r.add .inField c

/-- A line with nothing on it is a record with no field. -/
def startRecord (r : Reader) (c : Char) : Reader × Option Row :=
  if isBreak c then endRecord c [] else r.startField c

def step (r : Reader) (c : Char) : Reader × Option Row :=
  match r.mode with
  | .startRecord => r.startRecord c
  | .afterReturn => if c = '\n' then (init, none) else r.startRecord c
  | .startField => r.startField c
  | .inField => if isBreak c || c == ',' then r.endField c else r.add .inField c
  | .inQuotedField =>
      if c = '"' then ({ r with mode := .quoteInQuotedField }, none) else r.add .inQuotedField c
  | .quoteInQuotedField =>
      if c = '"' then r.add .inQuotedField c
      else if isBreak c || c == ',' then r.endField c
      else r.add .inField c

/-- The record the end of the text leaves open, if any. -/
def flush (r : Reader) : Option Row :=
  match r.mode with
  | .startRecord | .afterReturn => none
  | _ => some (r.fields ++ [r.field])

/-- The reader after a text, and the records that ended in it. -/
def scan (r : Reader) : Text → Reader × List Row
  | [] => (r, [])
  | c :: rest =>
      let next := r.step c
      let later := scan next.1 rest
      (later.1, next.2.toList ++ later.2)

theorem scan_append (r : Reader) (first second : Text) :
    r.scan (first ++ second) =
      (((r.scan first).1.scan second).1, (r.scan first).2 ++ ((r.scan first).1.scan second).2) := by
  induction first generalizing r with
  | nil => simp [scan]
  | cons c rest ih => simp [scan, ih]

end Reader

/-- All the records of a text. -/
def read (text : Text) : List Row :=
  (Reader.init.scan text).2 ++ (Reader.init.scan text).1.flush.toList

@[simp] theorem read_nil : read [] = [] := rfl

/-- The text ends where a record ends. -/
def Closed (text : Text) : Prop := (Reader.init.scan text).1 = Reader.init

theorem read_append {first : Text} (closed : Closed first) (second : Text) :
    read (first ++ second) = read first ++ read second := by
  simp only [read, Reader.scan_append]
  rw [show (Reader.init.scan first).1 = Reader.init from closed]
  simp [Reader.flush, Reader.init]

theorem Closed.append {first second : Text} (before : Closed first) (after : Closed second) :
    Closed (first ++ second) := by
  rw [Closed, Reader.scan_append]
  dsimp only
  rw [show (Reader.init.scan first).1 = Reader.init from before]
  exact after

/-- A character that has to be quoted. -/
def special (c : Char) : Bool := c == ',' || c == '"' || c == '\r' || c == '\n'

def escape (field : Field) : Text := field.flatMap (fun c => if c = '"' then ['"', '"'] else [c])

def encodeField (field : Field) : Text :=
  if field.any special then '"' :: escape field ++ ['"'] else field

def joinFields : Row → Text
  | [] => []
  | [field] => encodeField field
  | field :: next :: rest => encodeField field ++ ',' :: joinFields (next :: rest)

/-- `writerow`. A lone empty field is quoted, to tell it from a row without fields. -/
def encodeRow (row : Row) : Text :=
  (if row = [[]] then ['"', '"'] else joinFields row) ++ ['\r', '\n']

/-- `writerows`. -/
def write (rows : List Row) : Text := rows.flatMap encodeRow

section RoundTrip

open Reader

variable {field : Field} {fields : Row} {r : Reader}

theorem scan_escape (rest : Field) (field : Field) (fields : Row) :
    (⟨.inQuotedField, field, fields⟩ : Reader).scan (escape rest) =
      (⟨.inQuotedField, field ++ rest, fields⟩, []) := by
  induction rest generalizing field with
  | nil => simp [escape, scan]
  | cons c rest ih =>
    have next := ih (field ++ [c])
    rw [escape] at next
    by_cases quote : c = '"'
    · subst quote
      simp [escape, scan, step, add, next]
    · simp [escape, scan, step, add, quote, next]

theorem scan_plain {rest : Field} (plain : rest.any special = false) (field : Field) (fields : Row) :
    (⟨.inField, field, fields⟩ : Reader).scan rest = (⟨.inField, field ++ rest, fields⟩, []) := by
  induction rest generalizing field with
  | nil => simp [scan]
  | cons c rest ih =>
    simp only [List.any_cons, Bool.or_eq_false_iff] at plain
    have next := ih plain.2 (field ++ [c])
    have ordinary := plain.1
    simp only [special, Bool.or_eq_false_iff, beq_eq_false_iff_ne] at ordinary
    simp [scan, step, add, isBreak, ordinary, next]

/-- A reader that has all of a field and waits for what ends it. -/
inductive Awaits (field : Field) (fields : Row) : Reader → Prop
  | plain : Awaits field fields ⟨.inField, field, fields⟩
  | quoted : Awaits field fields ⟨.quoteInQuotedField, field, fields⟩
  | empty (none : field = []) : Awaits field fields ⟨.startField, field, fields⟩

theorem Awaits.comma (awaits : Awaits field fields r) :
    r.step ',' = (⟨.startField, [], fields ++ [field]⟩, none) := by
  cases awaits <;> simp [step, Reader.startField, endField, isBreak]

theorem Awaits.scan_break (awaits : Awaits field fields r) :
    r.scan ['\r', '\n'] = (init, [fields ++ [field]]) := by
  cases awaits <;> simp [scan, step, Reader.startField, endField, endRecord, isBreak]

theorem scan_encodeField (field : Field) (fields : Row) :
    ∃ r, (⟨.startField, [], fields⟩ : Reader).scan (encodeField field) = (r, []) ∧ Awaits field fields r := by
  cases quoted : field.any special with
  | true =>
    refine ⟨⟨.quoteInQuotedField, field, fields⟩, ?_, .quoted⟩
    have inside := scan_escape field [] fields
    simp only [encodeField, quoted, if_true, List.cons_append, scan, scan_append]
    simp [step, Reader.startField, isBreak, inside]
  | false =>
    cases field with
    | nil => exact ⟨_, rfl, .empty rfl⟩
    | cons c rest =>
      refine ⟨⟨.inField, c :: rest, fields⟩, ?_, .plain⟩
      simp only [List.any_cons, Bool.or_eq_false_iff] at quoted
      have ordinary := quoted.1
      have inside := scan_plain quoted.2 [c] fields
      simp only [special, Bool.or_eq_false_iff, beq_eq_false_iff_ne] at ordinary
      simp [encodeField, quoted, scan, step, Reader.startField, add, isBreak, ordinary, inside]

theorem scan_joinFields (field : Field) (rest : Row) (fields : Row) :
    (⟨.startField, [], fields⟩ : Reader).scan (joinFields (field :: rest) ++ ['\r', '\n']) =
      (init, [fields ++ field :: rest]) := by
  obtain ⟨r, scanned, awaits⟩ := scan_encodeField field fields
  induction rest generalizing field fields r with
  | nil =>
    rw [joinFields, scan_append, scanned]
    simp [awaits.scan_break]
  | cons next rest ih =>
    obtain ⟨r', scanned', awaits'⟩ := scan_encodeField next (fields ++ [field])
    have later := ih next (fields ++ [field]) r' scanned' awaits'
    rw [joinFields, List.append_assoc, scan_append, scanned]
    simp only [List.cons_append, scan, awaits.comma, later]
    simp

/-- The first character of a written row that is not empty. -/
theorem joinFields_head {row : Row} (some : row ≠ []) (content : row ≠ [[]]) :
    ∃ c rest, joinFields row = c :: rest ∧ isBreak c = false := by
  have written : ∀ c rest, ∃ d more, encodeField (c :: rest) = d :: more ∧ isBreak d = false := by
    intro c rest
    cases quoted : (c :: rest).any special with
    | true => exact ⟨'"', escape (c :: rest) ++ ['"'], by simp [encodeField, quoted], rfl⟩
    | false =>
      refine ⟨c, rest, by simp [encodeField, quoted], ?_⟩
      simp only [List.any_cons, special, Bool.or_eq_false_iff] at quoted
      simp [isBreak, quoted]
  cases row with
  | nil => exact absurd rfl some
  | cons field rest =>
    cases field with
    | nil =>
      cases rest with
      | nil => exact absurd rfl content
      | cons next rest => exact ⟨',', joinFields (next :: rest), rfl, rfl⟩
    | cons c more =>
      obtain ⟨d, tail, encoded, ordinary⟩ := written c more
      cases rest with
      | nil => exact ⟨d, tail, encoded, ordinary⟩
      | cons next rest =>
        exact ⟨d, tail ++ ',' :: joinFields (next :: rest), by simp [joinFields, encoded], ordinary⟩

/-- Away from line breaks a record starts as a field does. -/
theorem scan_startRecord {c : Char} (ordinary : isBreak c = false) (rest : Text) :
    init.scan (c :: rest) = (⟨.startField, [], []⟩ : Reader).scan (c :: rest) := by
  have first : init.step c = (⟨.startField, [], []⟩ : Reader).step c := by
    simp [step, init, Reader.startRecord, Reader.startField, endField, add, ordinary]
  simp only [scan, first]

theorem scan_encodeRow (row : Row) : init.scan (encodeRow row) = (init, [row]) := by
  by_cases lone : row = [[]]
  · subst lone
    rfl
  · cases row with
    | nil => rfl
    | cons field rest =>
      obtain ⟨c, more, written, ordinary⟩ := joinFields_head (List.cons_ne_nil field rest) lone
      have scanned := scan_joinFields field rest []
      rw [written, List.cons_append] at scanned
      rw [encodeRow, if_neg lone, written, List.cons_append, scan_startRecord ordinary, scanned]
      rfl

theorem scan_write (rows : List Row) : init.scan (write rows) = (init, rows) := by
  induction rows with
  | nil => rfl
  | cons row rest ih =>
    rw [write, List.flatMap_cons, scan_append, scan_encodeRow]
    rw [write] at ih
    simp [ih]

end RoundTrip

theorem closed_write (rows : List Row) : Closed (write rows) := by
  rw [Closed, scan_write]

@[simp] theorem read_write (rows : List Row) : read (write rows) = rows := by
  rw [read, scan_write]
  simp [Reader.flush, Reader.init]

end Flod.Lib.Csv
