import TypeSurvey.Files.Csv
import Mathlib.Data.List.Basic

/-!
# Records read back

A reader of records goes through a text letter by letter. Outside quotes a comma ends a field, and a
line feed, a carriage return or both end a record; inside quotes every letter belongs to the field,
and two quotes stand for one. Whatever the fields are, the reader gives back the records that were
written.
-/

namespace TypeSurvey.Csv

/-! ## A reader of records -/

/-- Where a reader stands. -/
inductive Place
  | start
  /-- Before a field that is not the first one. -/
  | field
  | plain
  | quoted
  /-- After a quote in a field in quotes, which ends the field or is the first of two. -/
  | quote
  /-- After a carriage return that ended a record. -/
  | ended
deriving DecidableEq, Repr

/-- What a reader has read. Letters, fields and rows stand in it backwards. -/
structure Reading where
  place : Place
  letters : Text
  /-- The fields before it in the record. -/
  fields : List Text
  /-- The records before this one. -/
  rows : List (List Text)
deriving DecidableEq, Repr

namespace Reading

/-- Takes a letter into the field. -/
def keep (reading : Reading) (place : Place) (letter : Char) : Reading :=
  { reading with place := place, letters := letter :: reading.letters }

def endField (reading : Reading) : Reading :=
  { reading with
    place := .field
    letters := []
    fields := reading.letters.reverse :: reading.fields }

/-- Ends the record with its last field. -/
def endRecord (reading : Reading) (place : Place) : Reading :=
  ⟨place, [], [], (reading.letters.reverse :: reading.fields).reverse :: reading.rows⟩

/-- Ends a record without fields. -/
def endLine (reading : Reading) (place : Place) : Reading :=
  { reading with place := place, rows := [] :: reading.rows }

/-- Reads a letter outside quotes. -/
def proceed (reading : Reading) (letter : Char) : Reading :=
  if letter = ',' then reading.endField
  else if letter = '\n' then reading.endRecord .start
  else if letter = '\r' then reading.endRecord .ended
  else reading.keep .plain letter

/-- Reads the first letter of a field. -/
def enter (reading : Reading) (letter : Char) : Reading :=
  if letter = '"' then { reading with place := .quoted } else reading.proceed letter

/-- Reads the first letter of a record. -/
def begin (reading : Reading) (letter : Char) : Reading :=
  if letter = '\n' then reading.endLine .start
  else if letter = '\r' then reading.endLine .ended
  else reading.enter letter

def step (reading : Reading) (letter : Char) : Reading :=
  match reading.place with
  | .start => reading.begin letter
  | .ended => if letter = '\n' then { reading with place := .start } else reading.begin letter
  | .field => reading.enter letter
  | .plain => reading.proceed letter
  | .quoted =>
    if letter = '"' then { reading with place := .quote } else reading.keep .quoted letter
  | .quote => if letter = '"' then reading.keep .quoted letter else reading.proceed letter

/-- The records when the text is at its end, which may be missing a line end. -/
def finish (reading : Reading) : List (List Text) :=
  match reading.place with
  | .start | .ended => reading.rows.reverse
  | _ => (reading.endRecord .start).rows.reverse

end Reading

def read (text : Text) : List (List Text) :=
  (text.foldl Reading.step ⟨.start, [], [], []⟩).finish

example : read "a,\"b\"\"\r\n,\"\r\n\r\nlast".toList =
    [[['a'], "b\"\r\n,".toList], [], ["last".toList]] := by decide

/-! ## Fields -/

/-- Whether a dialect puts a field in quotes wherever a reader needs them. -/
def Dialect.Covers (dialect : Dialect) (field : Text) : Prop :=
  ∀ letter ∈ field, spreadsheet.isSpecial letter = true → dialect.isSpecial letter = true

/-- Whether a reader at a place takes a comma or a line end for the end of the field. -/
def Place.IsOutside (place : Place) : Prop := place = .field ∨ place = .plain ∨ place = .quote

section Fields

variable {place : Place} {dialect : Dialect} {before : List Text} {rows : List (List Text)}

theorem step_of_isOutside (outside : place.IsOutside) {letter : Char} (noQuote : letter ≠ '"')
    (letters : Text) :
    Reading.step ⟨place, letters, before, rows⟩ letter =
      Reading.proceed ⟨place, letters, before, rows⟩ letter := by
  rcases outside with rfl | rfl | rfl <;> simp [Reading.step, Reading.enter, noQuote]

theorem foldl_step_plain {field : Text}
    (simple : ∀ letter ∈ field, spreadsheet.isSpecial letter = false) (outside : place.IsOutside)
    (letters : Text) :
    ∃ after : Place, after.IsOutside ∧
      field.foldl Reading.step ⟨place, letters, before, rows⟩ =
        ⟨after, field.reverse ++ letters, before, rows⟩ := by
  induction field generalizing place letters with
  | nil => exact ⟨place, outside, rfl⟩
  | cons letter field induction =>
    have ordinary := simple letter List.mem_cons_self
    simp only [spreadsheet, Bool.or_eq_false_iff, beq_eq_false_iff_ne] at ordinary
    obtain ⟨⟨⟨comma, quote⟩, carriage⟩, feed⟩ := ordinary
    have stepped : Reading.step ⟨place, letters, before, rows⟩ letter =
        ⟨.plain, letter :: letters, before, rows⟩ := by
      rw [step_of_isOutside outside quote]
      simp [Reading.proceed, Reading.keep, comma, carriage, feed]
    obtain ⟨after, still, read⟩ := induction
      (fun other member => simple other (List.mem_cons_of_mem _ member)) (.inr (.inl rfl))
      (letter :: letters)
    refine ⟨after, still, ?_⟩
    rw [List.foldl_cons, stepped, read]
    simp

/-- Inside quotes two quotes are read as one, and every other letter as itself. -/
theorem foldl_step_doubled (field letters : Text) :
    (field.flatMap fun letter => if letter == '"' then ['"', '"'] else [letter]).foldl
        Reading.step ⟨.quoted, letters, before, rows⟩ =
      ⟨.quoted, field.reverse ++ letters, before, rows⟩ := by
  induction field generalizing letters with
  | nil => rfl
  | cons letter field induction =>
    have front : (if letter == '"' then ['"', '"'] else [letter]).foldl Reading.step
        ⟨.quoted, letters, before, rows⟩ = ⟨.quoted, letter :: letters, before, rows⟩ := by
      by_cases mark : letter = '"' <;> simp [mark, Reading.step, Reading.keep]
    rw [List.flatMap_cons, List.foldl_append, front, induction]
    simp

theorem foldl_step_quotedField (field : Text) (outside : place = .start ∨ place = .field) :
    (quotedField field).foldl Reading.step ⟨place, [], before, rows⟩ =
      ⟨.quote, field.reverse, before, rows⟩ := by
  have opened : Reading.step ⟨place, [], before, rows⟩ '"' = ⟨.quoted, [], before, rows⟩ := by
    rcases outside with rfl | rfl <;> simp [Reading.step, Reading.begin, Reading.enter]
  rw [quotedField, List.cons_append, List.foldl_cons, opened, List.foldl_append,
    foldl_step_doubled]
  simp [Reading.step]

theorem foldl_step_field {field : Text} (covers : dialect.Covers field) (before : List Text)
    (rows : List (List Text)) :
    ∃ after : Place, after.IsOutside ∧
      (dialect.field field).foldl Reading.step ⟨.field, [], before, rows⟩ =
        ⟨after, field.reverse, before, rows⟩ := by
  unfold Dialect.field
  split_ifs with special
  · exact ⟨.quote, .inr (.inr rfl), foldl_step_quotedField field (.inr rfl)⟩
  · have simple : ∀ letter ∈ field, spreadsheet.isSpecial letter = false := by
      intro letter member
      by_contra needed
      exact special (List.any_eq_true.mpr
        ⟨letter, member, covers letter member (Bool.not_eq_false _ ▸ needed)⟩)
    simpa using foldl_step_plain simple (.inl rfl) []

end Fields

/-! ## Records -/

/-- Whether the records of a dialect end as a reader expects it. -/
def Dialect.EndsLines (dialect : Dialect) : Prop :=
  dialect.lineEnd = ['\r', '\n'] ∨ dialect.lineEnd = ['\n']

section Records

variable {dialect : Dialect} {rows : List (List Text)}

theorem foldl_step_lineEnd (ends : dialect.EndsLines) {place : Place} (outside : place.IsOutside)
    (field : Text) (before : List Text) :
    dialect.lineEnd.foldl Reading.step ⟨place, field.reverse, before, rows⟩ =
      ⟨.start, [], [], (before.reverse ++ [field]) :: rows⟩ := by
  rcases ends with crlf | feed
  · rw [crlf, List.foldl_cons, step_of_isOutside outside (by decide)]
    simp [Reading.proceed, Reading.endRecord, Reading.step]
  · rw [feed, List.foldl_cons, step_of_isOutside outside (by decide)]
    simp [Reading.proceed, Reading.endRecord]

theorem foldl_step_fields (ends : dialect.EndsLines) (field : Text) (fields before : List Text)
    (rows : List (List Text)) (covers : ∀ other ∈ field :: fields, dialect.Covers other) :
    (Text.join [','] ((field :: fields).map dialect.field) ++ dialect.lineEnd).foldl Reading.step
        ⟨.field, [], before, rows⟩ =
      ⟨.start, [], [], (before.reverse ++ field :: fields) :: rows⟩ := by
  induction fields generalizing field before with
  | nil =>
    obtain ⟨place, outside, read⟩ :=
      foldl_step_field (covers field List.mem_cons_self) before rows
    rw [List.map_cons, List.map_nil, Text.join, List.foldl_append, read,
      foldl_step_lineEnd ends outside]
  | cons second fields induction =>
    obtain ⟨place, outside, read⟩ :=
      foldl_step_field (covers field List.mem_cons_self) before rows
    have comma : Reading.step ⟨place, field.reverse, before, rows⟩ ',' =
        ⟨.field, [], field :: before, rows⟩ := by
      rw [step_of_isOutside outside (by decide)]
      simp [Reading.proceed, Reading.endField]
    have later := induction second (field :: before) fun other member =>
      covers other (List.mem_cons_of_mem _ member)
    rw [List.map_cons, List.map_cons, Text.join, List.append_assoc, List.append_assoc,
      List.foldl_append, read, List.singleton_append, List.foldl_cons, comma]
    · rw [List.map_cons] at later
      rw [later]
      simp
    · simp

/-- A record that does not begin with a line end begins as any field does. -/
theorem foldl_step_start {letter : Char} (feed : letter ≠ '\n') (carriage : letter ≠ '\r')
    (text : Text) :
    (letter :: text).foldl Reading.step ⟨.start, [], [], rows⟩ =
      (letter :: text).foldl Reading.step ⟨.field, [], [], rows⟩ := by
  have same : Reading.step ⟨.start, [], [], rows⟩ letter =
      Reading.step ⟨.field, [], [], rows⟩ letter := by
    simp [Reading.step, Reading.begin, Reading.enter, Reading.proceed, Reading.keep,
      Reading.endField, feed, carriage]
  rw [List.foldl_cons, List.foldl_cons, same]

/-- The text of a field that is not empty begins with no line end. -/
theorem field_eq_cons {field : Text} (covers : dialect.Covers field) (nonempty : field ≠ []) :
    ∃ letter text, dialect.field field = letter :: text ∧ letter ≠ '\n' ∧ letter ≠ '\r' := by
  obtain ⟨first, tail, rfl⟩ := List.exists_cons_of_ne_nil nonempty
  unfold Dialect.field
  split_ifs with special
  · exact ⟨'"', _, rfl, by decide, by decide⟩
  · have unquoted : dialect.isSpecial first ≠ true := fun needed =>
      special (List.any_eq_true.mpr ⟨first, List.mem_cons_self, needed⟩)
    refine ⟨first, tail, rfl, ?_, ?_⟩
    · rintro rfl
      exact unquoted (covers _ List.mem_cons_self rfl)
    · rintro rfl
      exact unquoted (covers _ List.mem_cons_self rfl)

/-- Between several fields there is a comma, so that even empty ones do not begin with a line
end. -/
theorem join_eq_cons {field : Text} {fields : List Text} (covers : dialect.Covers field)
    (written : field ≠ [] ∨ fields ≠ []) :
    ∃ letter text, Text.join [','] ((field :: fields).map dialect.field) = letter :: text ∧
      letter ≠ '\n' ∧ letter ≠ '\r' := by
  by_cases empty : field = []
  · obtain ⟨second, fields, rfl⟩ := List.exists_cons_of_ne_nil (written.resolve_left (· empty))
    subst empty
    exact ⟨',', _, rfl, by decide, by decide⟩
  · obtain ⟨letter, text, shape, solid⟩ := field_eq_cons covers empty
    cases fields with
    | nil => exact ⟨letter, text, shape, solid⟩
    | cons second fields =>
      refine ⟨letter, text ++ ',' :: Text.join [','] ((second :: fields).map dialect.field), ?_,
        solid⟩
      simp [Text.join, shape]

theorem foldl_step_record (ends : dialect.EndsLines) {fields : List Text}
    (covers : ∀ field ∈ fields, dialect.Covers field) :
    (dialect.record fields).foldl Reading.step ⟨.start, [], [], rows⟩ =
      ⟨.start, [], [], fields :: rows⟩ := by
  unfold Dialect.record
  split
  · -- One empty field is in quotes: without them it would be no field.
    rw [List.foldl_append, foldl_step_quotedField [] (.inl rfl),
      foldl_step_lineEnd ends (.inr (.inr rfl))]
    rfl
  · next several =>
      cases fields with
      | nil =>
        rcases ends with crlf | feed
        · simp [crlf, Text.join, Reading.step, Reading.begin, Reading.endLine]
        · simp [feed, Text.join, Reading.step, Reading.begin, Reading.endLine]
      | cons field fields =>
        have written : field ≠ [] ∨ fields ≠ [] := by
          by_contra none
          simp only [ne_eq, not_or, not_not] at none
          exact several (by rw [none.1, none.2])
        have read := foldl_step_fields ends field fields [] rows covers
        obtain ⟨letter, text, shape, feed, carriage⟩ :=
          join_eq_cons (covers field List.mem_cons_self) written
        dsimp only
        rw [shape, List.cons_append] at read ⊢
        rw [foldl_step_start feed carriage, read]
        rfl

theorem foldl_step_records (ends : dialect.EndsLines) (records rows : List (List Text))
    (covers : ∀ record ∈ records, ∀ field ∈ record, dialect.Covers field) :
    (dialect.records records).foldl Reading.step ⟨.start, [], [], rows⟩ =
      ⟨.start, [], [], records.reverse ++ rows⟩ := by
  induction records generalizing rows with
  | nil => rfl
  | cons record records induction =>
    rw [Dialect.records, List.flatMap_cons, List.foldl_append,
      foldl_step_record ends (covers record List.mem_cons_self)]
    have later := induction (record :: rows)
      fun other member => covers other (List.mem_cons_of_mem _ member)
    rw [Dialect.records] at later
    rw [later]
    simp

theorem read_records (ends : dialect.EndsLines) {records : List (List Text)}
    (covers : ∀ record ∈ records, ∀ field ∈ record, dialect.Covers field) :
    read (dialect.records records) = records := by
  rw [read, foldl_step_records ends records [] covers]
  simp [Reading.finish]

end Records

/-- Whatever the fields are, the records of a spreadsheet are read back. -/
theorem read_spreadsheet_records (records : List (List Text)) :
    read (spreadsheet.records records) = records :=
  read_records (.inl rfl) fun _ _ _ _ _ _ special => special

end TypeSurvey.Csv
