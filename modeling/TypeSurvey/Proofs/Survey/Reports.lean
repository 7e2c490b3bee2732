import TypeSurvey.Proofs.Files.Csv
import TypeSurvey.Proofs.Files.Folder
import TypeSurvey.Survey.BindingReport

/-!
# Reports read back

A report is a file of records. Where it can be written, a reader of records finds in it the names of
the columns and the rows that were reported, whatever characters they hold. So the contents of a
report determine its rows.
-/

namespace TypeSurvey

/-! ## Records in files -/

/-- The records in the file at a path. Line ends are read as they stand in the file. -/
def Folder.readRecords (folder : Folder) (path : Text) : Except ReadFault (List (List Text)) :=
  match folder.read path with
  | .error fault => .error (.path fault)
  | .ok bytes =>
    match Text.decodeUtf8 bytes with
    | .error fault => .error (.decoding fault)
    | .ok text => .ok (Csv.read text)

theorem Folder.readRecords_of_writeText {folder after : Folder} {path : Text}
    {records : List (List Text)}
    (written : folder.writeText path (Csv.spreadsheet.records records) = .ok after) :
    after.readRecords path = .ok records := by
  rw [readRecords, read_of_write written]
  simp only [Text.decodeUtf8_encodeUtf8, Csv.read_spreadsheet_records]

theorem Folder.readRecords_eq_of_read_eq {left right : Folder} {path other : Text}
    {records more : List (List Text)} (first : left.readRecords path = .ok records)
    (second : right.readRecords other = .ok more) (same : left.read path = right.read other) :
    records = more := by
  rw [readRecords, same] at first
  rw [readRecords] at second
  exact Except.ok.inj (first.symm.trans second)

namespace Survey

open Source

/-! ## Modules that can be read -/

theorem hintsOfFile_of_read [Text.SetOrder] {folder : Folder} {path source : Text}
    {module_ : Module} (read : folder.readText path = .ok source)
    (parsed : parseModule source = .ok module_) :
    hintsOfFile folder path = ([], .ok (hintRows module_)) := by
  rw [hintsOfFile, read]
  simp only [parsed, Except.map]

theorem bindingsOfFile_of_read {folder : Folder} {path source : Text} {module_ : Module}
    (read : folder.readText path = .ok source) (parsed : parseModule source = .ok module_) :
    bindingsOfFile folder path = .ok ((bindings module_).map fun entry => (path, entry)) := by
  rw [bindingsOfFile, read]
  simp only [parsed]

/-! ## Rows -/

def rowFields (row : BindingRow) : List Text := [row.1, row.2.1, row.2.2]

def rowValue (row : BindingRow) : Value := .list [.str row.1, .str row.2.1, .str row.2.2]

theorem rowFields_injective : Function.Injective rowFields := by
  rintro ⟨file, subject, type⟩ ⟨otherFile, otherSubject, otherType⟩ same
  simp only [rowFields, List.cons.injEq, and_true] at same
  obtain ⟨rfl, rfl, rfl⟩ := same
  rfl

/-- Whether a report is in the file at a path: the names of its columns, and then its rows. -/
def HoldsReport (folder : Folder) (path : Text) (columns : List Text) (rows : List BindingRow) :
    Prop :=
  folder.readRecords path = .ok (columns :: rows.map rowFields)

/-- The contents of the file of a report determine its rows. -/
theorem HoldsReport.rows_eq {left right : Folder} {path other : Text} {columns : List Text}
    {rows others : List BindingRow} (first : HoldsReport left path columns rows)
    (second : HoldsReport right other columns others)
    (same : left.read path = right.read other) : rows = others := by
  have records := Folder.readRecords_eq_of_read_eq first second same
  exact rowFields_injective.list_map (List.cons.inj records).2

/-! ## Reports on hints -/

theorem recordsOf_rowValues (rows : List BindingRow) :
    Csv.spreadsheet.recordsOf (rows.map rowValue) =
      (Csv.spreadsheet.records (rows.map rowFields), none) := by
  induction rows with
  | nil => rfl
  | cons row rows induction =>
    have iterated : (rowValue row).iterate =
        .ok [.str row.1, .str row.2.1, .str row.2.2] := rfl
    rw [List.map_cons, List.map_cons, Csv.Dialect.recordsOf, iterated]
    simp only [induction, Csv.Dialect.records, List.flatMap_cons]
    rfl

/-- A report on hints is written where it can be. -/
theorem holdsReport_of_writeHintReport {folder : Folder} {path : Text}
    (writable : folder.Writable (hintReportPath path)) (rows : List BindingRow) :
    ∃ after, writeHintReport folder path (rows.map rowValue) =
        (after, outputLine ("Annotation report generated at ".toList ++ hintReportPath path)) ∧
      HoldsReport after (hintReportPath path) hintColumns rows := by
  obtain ⟨after, written⟩ := writable.exists_write
    (Text.encodeUtf8 (Csv.spreadsheet.records (hintColumns :: rows.map rowFields)))
  have text : folder.writeText (hintReportPath path)
      (Csv.spreadsheet.record hintColumns ++ Csv.spreadsheet.records (rows.map rowFields)) =
        .ok after := written
  refine ⟨after, ?_, Folder.readRecords_of_writeText written⟩
  rw [writeHintReport, recordsOf_rowValues]
  simp only [text]

/-! ## Reports on bindings -/

/-- A report on the bindings of modules that can be read is written where it can be. -/
theorem holdsReport_of_bindingsOfFiles {folder : Folder} {paths : List Text} {target : Text}
    {rows : List BindingRow} (surveyed : bindingsOfFiles folder paths = .ok rows)
    (writable : folder.Writable target) :
    ∃ after, reportBindings folder paths target =
        .ok (after, outputLine ("✅ Annotation report generated: ".toList ++ target)) ∧
      HoldsReport after target bindingColumns rows := by
  obtain ⟨after, written⟩ := writable.exists_write (Text.encodeUtf8 (bindingReport rows))
  have text : folder.writeText target (bindingReport rows) = .ok after := written
  refine ⟨after, ?_, Folder.readRecords_of_writeText written⟩
  rw [reportBindings, surveyed, ok_bind]
  simp only [text]
  rfl

/-- A report on bindings that was written is one on modules that could be read. -/
theorem holdsReport_of_reportBindings {folder after : Folder} {paths : List Text}
    {target output : Text} (reported : reportBindings folder paths target = .ok (after, output)) :
    ∃ rows, bindingsOfFiles folder paths = .ok rows ∧
      HoldsReport after target bindingColumns rows := by
  rw [reportBindings, bind_eq_ok] at reported
  obtain ⟨rows, surveyed, rest⟩ := reported
  refine ⟨rows, surveyed, ?_⟩
  cases written : folder.writeText target (bindingReport rows) with
  | error fault => simp [written, throw, throwThe, MonadExceptOf.throw] at rest
  | ok result =>
    simp only [written] at rest
    obtain ⟨rfl, -⟩ := Prod.mk.inj (Except.ok.inj rest)
    exact Folder.readRecords_of_writeText written

/-! ## Both reports -/

/-- Reports decode to their rows. Where a report can be written, its file holds the columns and then
the rows, in their order and whatever texts they consist of. Reports with the same contents have
the same rows. -/
theorem reports_decode :
    (∀ {folder : Folder} {path : Text} (rows : List BindingRow),
      folder.Writable (hintReportPath path) →
        ∃ after, writeHintReport folder path (rows.map rowValue) =
            (after, outputLine ("Annotation report generated at ".toList ++ hintReportPath path)) ∧
          HoldsReport after (hintReportPath path) hintColumns rows) ∧
    (∀ {folder : Folder} {paths : List Text} {target : Text} {rows : List BindingRow},
      bindingsOfFiles folder paths = .ok rows → folder.Writable target →
        ∃ after, reportBindings folder paths target =
            .ok (after, outputLine ("✅ Annotation report generated: ".toList ++ target)) ∧
          HoldsReport after target bindingColumns rows) ∧
    (∀ {folder other : Folder} {path otherPath : Text} {rows others : List BindingRow},
      folder.Writable (hintReportPath path) → other.Writable (hintReportPath otherPath) →
        (writeHintReport folder path (rows.map rowValue)).1.read (hintReportPath path) =
          (writeHintReport other otherPath (others.map rowValue)).1.read
            (hintReportPath otherPath) →
        rows = others) ∧
    (∀ {folder other after otherAfter : Folder} {paths otherPaths : List Text}
        {target otherTarget output otherOutput : Text},
      reportBindings folder paths target = .ok (after, output) →
        reportBindings other otherPaths otherTarget = .ok (otherAfter, otherOutput) →
        after.read target = otherAfter.read otherTarget →
        bindingsOfFiles folder paths = bindingsOfFiles other otherPaths) := by
  refine ⟨?_, holdsReport_of_bindingsOfFiles, ?_, ?_⟩
  · intro folder path rows writable
    exact holdsReport_of_writeHintReport writable rows
  · intro folder other path otherPath rows others writable otherWritable same
    obtain ⟨after, written, holds⟩ := holdsReport_of_writeHintReport writable rows
    obtain ⟨otherAfter, otherWritten, otherHolds⟩ :=
      holdsReport_of_writeHintReport otherWritable others
    rw [written, otherWritten] at same
    exact holds.rows_eq otherHolds same
  · intro folder other after otherAfter paths otherPaths target otherTarget output otherOutput
      reported otherReported same
    obtain ⟨rows, surveyed, holds⟩ := holdsReport_of_reportBindings reported
    obtain ⟨others, otherSurveyed, otherHolds⟩ := holdsReport_of_reportBindings otherReported
    rw [surveyed, otherSurveyed, holds.rows_eq otherHolds same]

/-- The path of a module with a comma and a quote in its name. -/
def markedPath : Text := "a,\"b.py".toList

/-- A folder with a module at that path. -/
def markedFolder : Folder := ⟨[([markedPath], Text.encodeUtf8 "x = [1]\nx = y = 'a'\n".toList)]⟩

/-- The rows about that module. -/
def bindingRows : List BindingRow :=
  [(markedPath, ['x'], "str".toList), (markedPath, ['y'], "str".toList)]

/-- Rows with empty fields, and with every character that has to be quoted. -/
def markedRows : List BindingRow :=
  [([], [], []), (markedPath, "\"".toList, "\r\n".toList), ([' '], "\n\"\"".toList, ['\r'])]

theorem bindingsOfFiles_marked : bindingsOfFiles markedFolder [markedPath] = .ok bindingRows := by
  have read : (bindingsOfFiles markedFolder [markedPath]).toOption = some bindingRows := by
    decide +kernel
  cases result : bindingsOfFiles markedFolder [markedPath] with
  | error fault => simp [result, Except.toOption] at read
  | ok rows => simpa [result, Except.toOption] using read

theorem reports_decode_marked :
    (∃ after, writeHintReport markedFolder markedPath (markedRows.map rowValue) =
        (after, outputLine ("Annotation report generated at ".toList ++
          hintReportPath markedPath)) ∧
      HoldsReport after (hintReportPath markedPath) hintColumns markedRows) ∧
    (∃ after, reportBindings markedFolder [markedPath] ['r'] =
        .ok (after, outputLine ("✅ Annotation report generated: ".toList ++ ['r'])) ∧
      HoldsReport after ['r'] bindingColumns bindingRows) ∧
    (writeHintReport markedFolder markedPath (markedRows.map rowValue)).1.read
        (hintReportPath markedPath) ≠
      (writeHintReport markedFolder markedPath (bindingRows.map rowValue)).1.read
        (hintReportPath markedPath) := by
  have path : hintReportPath markedPath = "a,\"b_AST_report.csv".toList := by decide
  have writable : markedFolder.Writable (hintReportPath markedPath) := by
    rw [path]
    exact ⟨["a,\"b_AST_report.csv".toList], rfl, rfl, rfl⟩
  have free : markedFolder.Writable ['r'] := ⟨[['r']], rfl, rfl, rfl⟩
  obtain ⟨hints, bindings, distinguished, -⟩ := reports_decode
  refine ⟨hints markedRows writable, bindings bindingsOfFiles_marked free, fun same => ?_⟩
  exact absurd (distinguished writable writable same) (by decide)

end Survey

end TypeSurvey
