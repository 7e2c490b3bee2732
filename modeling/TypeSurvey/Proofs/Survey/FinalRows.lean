import TypeSurvey.Proofs.Files.Name
import TypeSurvey.Proofs.Number.Digits
import TypeSurvey.Proofs.Survey.Draft
import TypeSurvey.Proofs.Survey.Reports

/-!
# The sections of the final report

The texts of the final report come from files whose line ends are read as line feeds, so that no
field holds a carriage return and the records are read back as they were written. The rows are
numbered from one on. First come the lines of the reports on hints and on running scripts, those
that are not blank and without the blanks around them, and then the variables and the traced
signatures.
-/

namespace TypeSurvey

namespace Csv

theorem read_plain_records {records : List (List Text)}
    (clean : ∀ record ∈ records, ∀ field ∈ record, '\r' ∉ field) :
    read (plain.records records) = records := by
  refine read_records (.inr rfl) fun record member field inside letter place special => ?_
  have notReturn : letter ≠ '\r' := by
    rintro rfl
    exact clean record member field inside place
  simpa [spreadsheet, plain, notReturn] using special

end Csv

theorem Folder.readRecords_of_written {folder after : Folder} {path text : Text}
    (written : folder.writeText path text = .ok after) :
    after.readRecords path = .ok (Csv.read text) := by
  rw [readRecords, read_of_write written]
  simp only [Text.decodeUtf8_encodeUtf8]

namespace Survey

/-! ## Fields without carriage returns -/

/-- Whether a row belongs to a survey, and has no carriage return in its fields. -/
def FinalRow.IsOf (survey : Text) (row : FinalRow) : Prop :=
  row.survey = survey ∧ ∀ text ∈ row.texts, '\r' ∉ text

theorem notMem_of_subset {part whole : Text} (inside : part ⊆ whole) (clean : '\r' ∉ whole) :
    '\r' ∉ part :=
  fun member => clean (inside member)

theorem pathName_subset (path : Text) : pathName path ⊆ path := by
  unfold pathName
  cases last : ((Text.split ['/'] path).filter
      fun part => !part.isEmpty && part != ['.']).getLast? with
  | none => simp
  | some part =>
    have member := List.mem_of_mem_filter (List.mem_of_getLast? last)
    exact Text.subset_of_mem_split (by simp) member

theorem subset_of_moduleLine? {line source : Text} (named : moduleLine? line = some source) :
    source ⊆ line := by
  unfold moduleLine? at named
  split_ifs at named with ending
  rw [← Option.some.inj named]
  exact List.Subset.trans (pathName_subset _) (List.dropLast_subset line)

theorem subset_of_functionLine? {line function : Text}
    (named : functionLine? line = some function) : function ⊆ line := by
  simp only [functionLine?] at named
  split_ifs at named with marked
  obtain ⟨piece, found, rfl⟩ := Option.map_eq_some_iff.mp named
  have member := List.mem_of_getElem? found
  exact List.Subset.trans (Text.strip_subset piece) (Text.subset_of_mem_split (by decide) member)

theorem subset_of_atColon? {line name type : Text} (parts : atColon? line = some (name, type)) :
    name ⊆ line ∧ type ⊆ line := by
  unfold atColon? at parts
  split_ifs at parts with colon
  obtain ⟨rfl, rfl⟩ := Prod.mk.inj (Option.some.inj parts)
  constructor
  · exact List.Subset.trans (Text.strip_subset _) (List.takeWhile_subset _)
  · exact List.Subset.trans (Text.strip_subset _) (List.drop_subset _ _)

theorem atColon?_of_notMem {text : Text} (absent : ':' ∉ text) : atColon? text = none := by
  rw [atColon?, if_neg (by simpa using absent)]

theorem atColon?_append {before : Text} (free : ':' ∉ before) (after : Text) :
    atColon? (before ++ ':' :: after) = some (Text.strip before, Text.strip after) := by
  rw [atColon?, if_pos (by simp)]
  simp only [Text.takeWhile_bne_append free, Text.drop_mark]

/-- The rows of variables have the module and the function of lines before. -/
theorem isOf_readVariableLine {place after : VariablePlace} {line : Text} {rows : List FinalRow}
    (clean : '\r' ∉ place.source ∧ '\r' ∉ place.function) (here : '\r' ∉ line)
    (read : readVariableLine place line = .ok (after, rows)) :
    ('\r' ∉ after.source ∧ '\r' ∉ after.function) ∧
      ∀ row ∈ rows, row.IsOf "var_annotator".toList := by
  have passed {place : VariablePlace}
      (read : (.ok (place, []) : Except FinalFault _) = .ok (after, rows))
      (clean : '\r' ∉ place.source ∧ '\r' ∉ place.function) :
      ('\r' ∉ after.source ∧ '\r' ∉ after.function) ∧
        ∀ row ∈ rows, row.IsOf "var_annotator".toList := by
    cases read
    exact ⟨clean, List.forall_mem_nil _⟩
  -- A line names a module, a function or a variable, or it is passed over.
  unfold readVariableLine at read
  split_ifs at read
  · exact passed read clean
  split at read
  · next named =>
      exact passed read ⟨notMem_of_subset (subset_of_moduleLine? named) here, clean.2⟩
  split at read
  · next named =>
      exact passed read ⟨clean.1, notMem_of_subset (subset_of_functionLine? named) here⟩
  split at read
  · next name type parts =>
      obtain ⟨inName, inType⟩ := subset_of_atColon? parts
      have name_ := notMem_of_subset inName here
      have type_ := notMem_of_subset inType here
      cases read
      refine ⟨clean, List.forall_mem_singleton.mpr ?_⟩
      simp [FinalRow.IsOf, FinalRow.texts, clean, name_, type_]
  · exact passed read clean

theorem notMem_signatureArguments {text argument type : Text} (clean : '\r' ∉ text)
    (listed : (argument, type) ∈ signatureArguments text) : '\r' ∉ argument ∧ '\r' ∉ type := by
  obtain ⟨piece, member, parts⟩ := List.mem_filterMap.mp listed
  obtain ⟨whole, split, rfl⟩ := List.mem_map.mp member
  have cleanWhole := notMem_of_subset (Text.subset_of_mem_split (by decide) split) clean
  have cleanPiece := notMem_of_subset (Text.strip_subset whole) cleanWhole
  obtain ⟨inArgument, inType⟩ := subset_of_atColon? parts
  exact ⟨notMem_of_subset inArgument cleanPiece, notMem_of_subset inType cleanPiece⟩

theorem isOf_signatureRows {source signature : Text} (cleanSource : '\r' ∉ source)
    (clean : '\r' ∉ signature) {rows : List FinalRow}
    (taken : signatureRows source signature = .ok rows) :
    ∀ row ∈ rows, row.IsOf "RightTyper".toList := by
  unfold signatureRows at taken
  split at taken
  · rw [← Except.ok.inj taken]
    simp
  · rw [← Except.ok.inj taken]
    simp
  · next head result pieces =>
      have piece : ∀ part ∈ [head, result], '\r' ∉ part := by
        intro part member
        rw [← pieces] at member
        exact notMem_of_subset (Text.subset_of_mem_split (by decide) member) clean
      have cleanHead := piece head (by simp)
      have result_ := notMem_of_subset (Text.strip_subset result) (piece result (by simp))
      split_ifs at taken with opened
      have name_ := notMem_of_subset
        (List.takeWhile_subset (fun letter => letter != '(')) cleanHead
      rw [← Except.ok.inj taken]
      intro row member
      obtain ⟨⟨argument, type⟩, listed, rfl⟩ := List.mem_map.mp member
      obtain ⟨inArgument, inType⟩ := notMem_signatureArguments
        (notMem_of_subset (List.Subset.trans (Text.trimEnd_subset _ _) (List.drop_subset _ _))
          cleanHead) listed
      have subject_ := notMem_of_subset (Text.strip_subset _) name_
      simp [FinalRow.IsOf, FinalRow.texts, cleanSource, inArgument, inType, subject_, result_]
  · nomatch taken

theorem isOf_readTracedLine {source after line : Text} {rows : List FinalRow}
    (clean : '\r' ∉ source) (here : '\r' ∉ line)
    (read : readTracedLine source line = .ok (after, rows)) :
    '\r' ∉ after ∧ ∀ row ∈ rows, row.IsOf "RightTyper".toList := by
  unfold readTracedLine at read
  split at read
  · next named =>
      cases read
      exact ⟨notMem_of_subset (subset_of_moduleLine? named) here, List.forall_mem_nil _⟩
  split_ifs at read
  · obtain ⟨_, taken, ⟨⟩⟩ := bind_eq_ok.mp read
    have signature := notMem_of_subset (List.drop_subset 6 line) here
    exact ⟨clean, isOf_signatureRows clean signature (mapError_eq_ok.mp taken)⟩
  · cases read
    exact ⟨clean, List.forall_mem_nil _⟩

/-! ## Sections -/

/-- The row of a line of a report. -/
def lineRow (survey source line : Text) : FinalRow :=
  { source, subject := line, result := "Unknown".toList, survey }

/-- A report on a module gives a row for each line that is not blank. -/
theorem rowsOf_readSurveyLine (survey source : Text) (lines : List Text) :
    rowsOf (readSurveyLine survey source) () lines =
      .ok (((lines.map Text.strip).filter (!·.isEmpty)).map (lineRow survey source)) := by
  induction lines with
  | nil => rfl
  | cons line lines induction =>
    rw [rowsOf_cons rfl, induction, List.map_cons, List.filter_cons]
    cases (Text.strip line).isEmpty <;> rfl

theorem reportLines_eq_ok_iff {folder : Folder} {path : Text} {lines : List Text} :
    reportLines folder path = .ok lines ↔
      ∃ text, folder.HoldsText path text ∧ lines = Text.lines (Text.normalizeNewlines text) := by
  unfold reportLines
  cases read : folder.readText path with
  | error fault =>
    have unread := Folder.readText_eq_error_iff.mp ⟨fault, read⟩
    simp only [reduceCtorEq, false_iff]
    rintro ⟨text, holds, -⟩
    exact unread ⟨text, holds⟩
  | ok content =>
    obtain ⟨text, holds, rfl⟩ := Folder.readText_eq_ok_iff.mp read
    simp only [Except.ok.injEq]
    constructor
    · rintro rfl
      exact ⟨text, holds, rfl⟩
    · rintro ⟨other, again, rfl⟩
      rw [holds.text_eq again]

theorem return_notMem_of_mem_lines {text line : Text}
    (member : line ∈ Text.lines (Text.normalizeNewlines text)) : '\r' ∉ Text.strip line :=
  notMem_of_subset (List.Subset.trans (Text.strip_subset line) (Text.subset_of_mem_lines member))
    (Text.return_notMem_normalizeNewlines text)

theorem surveyRows_eq_ok_iff {folder : Folder} {survey ending base : Text}
    {rows : List FinalRow} :
    surveyRows folder survey ending base = .ok rows ↔
      ∃ text, folder.HoldsText (base ++ ending) text ∧
        rows = (Text.solidLines text).map
          (lineRow survey (moduleName (base ++ ending) ending)) := by
  simp only [surveyRows, bind_eq_ok, reportLines_eq_ok_iff, rowsOf_readSurveyLine]
  constructor
  · rintro ⟨_, ⟨text, holds, rfl⟩, ⟨⟩⟩
    exact ⟨text, holds, by rw [Text.solid_lines_normalizeNewlines]⟩
  · rintro ⟨text, holds, rfl⟩
    exact ⟨_, ⟨text, holds, rfl⟩, by rw [Text.solid_lines_normalizeNewlines]⟩

/-- A section of a survey has a row for each line of the two reports that is not blank. -/
theorem surveySection_eq_ok_iff {folder : Folder} {survey ending : Text} {rows : List FinalRow} :
    surveySection folder survey ending = .ok rows ↔
      ∃ first second, folder.HoldsText ("cli".toList ++ ending) first ∧
        folder.HoldsText ("task_manager".toList ++ ending) second ∧
        rows =
          (Text.solidLines first).map
              (lineRow survey (moduleName ("cli".toList ++ ending) ending)) ++
            (Text.solidLines second).map
              (lineRow survey (moduleName ("task_manager".toList ++ ending) ending)) := by
  simp only [surveySection_eq, rowsThen_eq_ok_iff, surveyRows_eq_ok_iff]
  constructor
  · rintro ⟨_, _, ⟨first, holds, rfl⟩, ⟨second, also, rfl⟩, rfl⟩
    exact ⟨first, second, holds, also, rfl⟩
  · rintro ⟨first, second, holds, also, rfl⟩
    exact ⟨_, _, ⟨first, holds, rfl⟩, ⟨second, also, rfl⟩, rfl⟩

/-- The section of the hints, with the paths of its reports and the names of their modules. -/
theorem hintSection_eq_ok_iff {folder : Folder} {rows : List FinalRow} :
    surveySection folder "AST".toList "_AST_report.txt".toList = .ok rows ↔
      ∃ first second, folder.HoldsText "cli_AST_report.txt".toList first ∧
        folder.HoldsText "task_manager_AST_report.txt".toList second ∧
        rows =
          (Text.solidLines first).map (lineRow "AST".toList "cli.py".toList) ++
            (Text.solidLines second).map (lineRow "AST".toList "task_manager.py".toList) := by
  have path : "cli".toList ++ "_AST_report.txt".toList = "cli_AST_report.txt".toList := by
    decide +kernel
  have taskPath : "task_manager".toList ++ "_AST_report.txt".toList =
      "task_manager_AST_report.txt".toList := by
    decide +kernel
  have name : moduleName "cli_AST_report.txt".toList "_AST_report.txt".toList =
      "cli.py".toList := by
    decide +kernel
  have taskName : moduleName "task_manager_AST_report.txt".toList "_AST_report.txt".toList =
      "task_manager.py".toList := by
    decide +kernel
  rw [surveySection_eq_ok_iff, path, taskPath, name, taskName]

/-- The section of running scripts, with the paths of its reports and the names of their
modules. -/
theorem runningSection_eq_ok_iff {folder : Folder} {rows : List FinalRow} :
    surveySection folder "Conditional".toList
        "_conditional_runtime_annotation_report.txt".toList = .ok rows ↔
      ∃ first second,
        folder.HoldsText "cli_conditional_runtime_annotation_report.txt".toList first ∧
        folder.HoldsText "task_manager_conditional_runtime_annotation_report.txt".toList second ∧
        rows =
          (Text.solidLines first).map (lineRow "Conditional".toList "cli.py".toList) ++
            (Text.solidLines second).map
              (lineRow "Conditional".toList "task_manager.py".toList) := by
  have path : "cli".toList ++ "_conditional_runtime_annotation_report.txt".toList =
      "cli_conditional_runtime_annotation_report.txt".toList := by
    decide +kernel
  have taskPath : "task_manager".toList ++ "_conditional_runtime_annotation_report.txt".toList =
      "task_manager_conditional_runtime_annotation_report.txt".toList := by
    decide +kernel
  have name : moduleName "cli_conditional_runtime_annotation_report.txt".toList
      "_conditional_runtime_annotation_report.txt".toList = "cli.py".toList := by
    decide +kernel
  have taskName : moduleName "task_manager_conditional_runtime_annotation_report.txt".toList
      "_conditional_runtime_annotation_report.txt".toList = "task_manager.py".toList := by
    decide +kernel
  rw [surveySection_eq_ok_iff, path, taskPath, name, taskName]

theorem isOf_variableSection {folder : Folder} {rows : List FinalRow}
    (named : variableSection folder = .ok rows) :
    ∀ row ∈ rows, row.IsOf "var_annotator".toList := by
  rw [variableSection_eq] at named
  split_ifs at named with there
  · obtain ⟨lines, read, made⟩ := bind_eq_ok.mp named
    obtain ⟨text, -, rfl⟩ := reportLines_eq_ok_iff.mp read
    exact forall_mem_rowsOf (fun _ _ _ _ => isOf_readVariableLine) made (by simp)
      fun line member => return_notMem_of_mem_lines member
  · cases named
    exact List.forall_mem_nil _

theorem isOf_tracedSection {trace : TraceFile} {rows : List FinalRow}
    (traced : tracedSection trace = .ok rows) : ∀ row ∈ rows, row.IsOf "RightTyper".toList := by
  rw [tracedSection_eq] at traced
  cases trace with
  | absent =>
    cases traced
    exact List.forall_mem_nil _
  | closed cause => nomatch traced
  | contents bytes =>
    unfold TraceFile.rows at traced
    cases decoded : Text.decodeUtf8 bytes with
    | error fault => simp [decoded] at traced
    | ok text =>
      simp only [decoded] at traced
      exact forall_mem_rowsOf (fun _ _ _ _ => isOf_readTracedLine) traced (by simp)
        fun line member => return_notMem_of_mem_lines member

/-- What the final report is made of: the texts of the four reports, and the rows of the other
sections. -/
structure Sections (folder : Folder) (trace : TraceFile) where
  /-- The report on the hints of the command line. -/
  hints : Text
  /-- The report on the hints of the task list. -/
  taskHints : Text
  /-- The report on running the command line. -/
  running : Text
  /-- The report on running the task list. -/
  taskRunning : Text
  /-- The rows on variables. -/
  named : List FinalRow
  /-- The rows on traced signatures. -/
  traced : List FinalRow
  holds_hints : folder.HoldsText "cli_AST_report.txt".toList hints
  holds_taskHints : folder.HoldsText "task_manager_AST_report.txt".toList taskHints
  holds_running :
    folder.HoldsText "cli_conditional_runtime_annotation_report.txt".toList running
  holds_taskRunning :
    folder.HoldsText "task_manager_conditional_runtime_annotation_report.txt".toList taskRunning
  named_eq : variableSection folder = .ok named
  traced_eq : tracedSection trace = .ok traced

namespace Sections

variable {folder : Folder} {trace : TraceFile}

def hintRows (sections : Sections folder trace) : List FinalRow :=
  (Text.solidLines sections.hints).map (lineRow "AST".toList "cli.py".toList) ++
    (Text.solidLines sections.taskHints).map (lineRow "AST".toList "task_manager.py".toList)

def runningRows (sections : Sections folder trace) : List FinalRow :=
  (Text.solidLines sections.running).map (lineRow "Conditional".toList "cli.py".toList) ++
    (Text.solidLines sections.taskRunning).map
      (lineRow "Conditional".toList "task_manager.py".toList)

def rows (sections : Sections folder trace) : List FinalRow :=
  sections.hintRows ++ sections.runningRows ++ sections.named ++ sections.traced

end Sections

theorem exists_sections {folder : Folder} {trace : TraceFile} {rows : List FinalRow}
    (made : finalRows folder trace = .ok rows) :
    ∃ sections : Sections folder trace, rows = sections.rows := by
  obtain ⟨_, _, named, traced, hinted, ran, found, followed, rfl⟩ := finalRows_eq_ok_iff.mp made
  obtain ⟨hints, taskHints, first, second, rfl⟩ := hintSection_eq_ok_iff.mp hinted
  obtain ⟨running, taskRunning, third, fourth, rfl⟩ := runningSection_eq_ok_iff.mp ran
  exact ⟨⟨hints, taskHints, running, taskRunning, named, traced, first, second, third, fourth,
    found, followed⟩, rfl⟩

theorem Sections.finalRows_eq {folder : Folder} {trace : TraceFile}
    (sections : Sections folder trace) : finalRows folder trace = .ok sections.rows := by
  have hinted := hintSection_eq_ok_iff.mpr
    ⟨_, _, sections.holds_hints, sections.holds_taskHints, rfl⟩
  have ran := runningSection_eq_ok_iff.mpr
    ⟨_, _, sections.holds_running, sections.holds_taskRunning, rfl⟩
  exact finalRows_eq_ok_iff.mpr
    ⟨_, _, _, _, hinted, ran, sections.named_eq, sections.traced_eq, rfl⟩

theorem isOf_lineRow {survey source : Text} (cleanSurvey : '\r' ∉ survey)
    (cleanSource : '\r' ∉ source) (text : Text) :
    ∀ row ∈ (Text.solidLines text).map (lineRow survey source), row.IsOf survey := by
  intro row member
  obtain ⟨line, inside, rfl⟩ := List.mem_map.mp member
  rw [← Text.solid_lines_normalizeNewlines] at inside
  obtain ⟨whole, place, rfl⟩ := List.mem_map.mp (List.mem_of_mem_filter inside)
  simp [FinalRow.IsOf, FinalRow.texts, lineRow, cleanSurvey, cleanSource,
    return_notMem_of_mem_lines place]

namespace Sections

variable {folder : Folder} {trace : TraceFile} (sections : Sections folder trace)

theorem isOf_hintRows : ∀ row ∈ sections.hintRows, row.IsOf "AST".toList :=
  List.forall_mem_append.mpr ⟨isOf_lineRow (by decide) (by decide) _,
    isOf_lineRow (by decide) (by decide) _⟩

theorem isOf_runningRows : ∀ row ∈ sections.runningRows, row.IsOf "Conditional".toList :=
  List.forall_mem_append.mpr ⟨isOf_lineRow (by decide) (by decide) _,
    isOf_lineRow (by decide) (by decide) _⟩

theorem exists_isOf : ∀ row ∈ sections.rows, ∃ survey, row.IsOf survey := by
  intro row member
  simp only [rows, List.mem_append] at member
  rcases member with ((hint | running) | named) | traced
  · exact ⟨_, sections.isOf_hintRows row hint⟩
  · exact ⟨_, sections.isOf_runningRows row running⟩
  · exact ⟨_, isOf_variableSection sections.named_eq row named⟩
  · exact ⟨_, isOf_tracedSection sections.traced_eq row traced⟩

end Sections

/-! ## Numbers -/

/-- The records of rows that are numbered from a number on. -/
def numberedFields (first : Nat) : List FinalRow → List (List Text)
  | [] => []
  | row :: rest => (Text.ofNat first :: row.texts) :: numberedFields (first + 1) rest

theorem getElem?_numberedFields (first : Nat) (rows : List FinalRow) (index : Nat) :
    (numberedFields first rows)[index]? =
      rows[index]?.map fun row => Text.ofNat (first + index) :: row.texts := by
  induction rows generalizing first index with
  | nil => rfl
  | cons row rows induction =>
    cases index with
    | zero => rfl
    | succ index =>
      rw [numberedFields, List.getElem?_cons_succ, List.getElem?_cons_succ, induction,
        Nat.add_assoc, Nat.add_comm 1 index]

theorem Draft.Numbered.map_fields {draft : Draft} (numbered : draft.Numbered) :
    draft.rows.map NumberedRow.fields = numberedFields 1 draft.contents := by
  apply List.ext_getElem?
  intro index
  rw [List.getElem?_map, getElem?_numberedFields, Draft.contents, List.getElem?_map,
    Option.map_map]
  cases found : draft.rows[index]? with
  | none => rfl
  | some row =>
    rw [Option.map_some, Option.map_some, NumberedRow.fields, numbered.number_eq found,
      Nat.add_comm]
    rfl

theorem map_tail_numberedFields (first : Nat) (rows : List FinalRow) :
    (numberedFields first rows).map List.tail = rows.map FinalRow.texts := by
  apply List.ext_getElem?
  intro index
  rw [List.getElem?_map, List.getElem?_map, getElem?_numberedFields, Option.map_map]
  rfl

theorem return_notMem_ofNat (number : Nat) : '\r' ∉ Text.ofNat number := by
  intro member
  have digit := Text.isDigit_of_mem_ofNat member
  nomatch digit

theorem return_notMem_numberedFields {rows : List FinalRow}
    (clean : ∀ row ∈ rows, ∃ survey, row.IsOf survey) (first : Nat) :
    ∀ record ∈ numberedFields first rows, ∀ field ∈ record, '\r' ∉ field := by
  intro record member field inside
  obtain ⟨index, found⟩ := List.mem_iff_getElem?.mp member
  rw [getElem?_numberedFields, Option.map_eq_some_iff] at found
  obtain ⟨row, place, rfl⟩ := found
  obtain ⟨survey, -, free⟩ := clean row (List.mem_of_getElem? place)
  rcases List.mem_cons.mp inside with rfl | later
  · exact return_notMem_ofNat _
  · exact free field later

/-! ## The report read back -/

theorem reportFinal_eq_ok_iff {folder after : Folder} {trace : TraceFile} {output : Text} :
    reportFinal folder trace = .ok (after, output) ↔
      ∃ draft, finalDraft folder trace = .ok draft ∧
        folder.writeText finalReportPath (finalReport draft.rows) = .ok after ∧
        output = outputLine ("✅ Final annotation report generated at: ".toList ++
          finalReportPath) := by
  rw [reportFinal, bind_eq_ok]
  refine exists_congr fun draft => and_congr_right fun _ => ?_
  cases folder.writeText finalReportPath (finalReport draft.rows) with
  | error fault => simp [throw, throwThe, MonadExceptOf.throw]
  | ok written => simp [pure, Except.pure, eq_comm]

theorem finalRows_eq_ok_iff_draft {folder : Folder} {trace : TraceFile} {rows : List FinalRow} :
    finalRows folder trace = .ok rows ↔
      ∃ draft, finalDraft folder trace = .ok draft ∧ draft.contents = rows := by
  rw [finalRows]
  cases finalDraft folder trace <;> simp [Except.map]

theorem Sections.exists_reportFinal {folder : Folder} {trace : TraceFile}
    (sections : Sections folder trace) (writable : folder.Writable finalReportPath) :
    ∃ made, reportFinal folder trace = .ok made := by
  obtain ⟨draft, made, -⟩ := finalRows_eq_ok_iff_draft.mp sections.finalRows_eq
  obtain ⟨after, written⟩ := writable.exists_write (Text.encodeUtf8 (finalReport draft.rows))
  exact ⟨_, reportFinal_eq_ok_iff.mpr ⟨draft, made, written, rfl⟩⟩

/-- The records of the final report are the names of its columns and the rows of its sections. -/
theorem readRecords_of_reportFinal {folder after : Folder} {trace : TraceFile} {output : Text}
    (reported : reportFinal folder trace = .ok (after, output)) :
    ∃ sections : Sections folder trace,
      after.readRecords finalReportPath = .ok (finalColumns :: numberedFields 1 sections.rows) := by
  obtain ⟨draft, made, written, -⟩ := reportFinal_eq_ok_iff.mp reported
  obtain ⟨sections, contents⟩ := exists_sections (finalRows_eq_ok_iff_draft.mpr ⟨draft, made, rfl⟩)
  refine ⟨sections, ?_⟩
  rw [Folder.readRecords_of_written written, finalReport,
    (numbered_finalDraft made).map_fields, contents, Csv.read_plain_records]
  intro record member
  rcases List.mem_cons.mp member with rfl | row
  · decide +kernel
  · exact return_notMem_numberedFields sections.exists_isOf 1 record row

/-- The final report numbers its rows from one on, and they come section by section: the lines of
the four reports that are not blank, then the rows on variables and on traced signatures. -/
theorem final_report_in_sections {folder after : Folder} {trace : TraceFile} {output : Text}
    (reported : reportFinal folder trace = .ok (after, output)) :
    ∃ (sections : Sections folder trace) (rows : List (List Text)),
      after.readRecords finalReportPath = .ok (finalColumns :: rows) ∧
      (∀ index row, rows[index]? = some row → row.head? = some (Text.ofNat (index + 1))) ∧
      rows.map List.tail = sections.rows.map FinalRow.texts ∧
      (∀ row ∈ sections.named, row.survey = "var_annotator".toList) ∧
      (∀ row ∈ sections.traced, row.survey = "RightTyper".toList) := by
  obtain ⟨sections, read⟩ := readRecords_of_reportFinal reported
  refine ⟨sections, _, read, ?_, map_tail_numberedFields 1 sections.rows, ?_, ?_⟩
  · intro index row found
    rw [getElem?_numberedFields, Option.map_eq_some_iff] at found
    obtain ⟨content, -, rfl⟩ := found
    rw [Nat.add_comm 1 index]
    rfl
  · intro row member
    exact (isOf_variableSection sections.named_eq row member).1
  · intro row member
    exact (isOf_tracedSection sections.traced_eq row member).1

/-- A folder whose reports have blank lines, commas, quotes and all kinds of line ends. -/
def mixedFolder : Folder :=
  ⟨[(["cli_AST_report.txt".toList], Text.encodeUtf8 "\n f(a, b) \r\n\r\n\"g\"".toList),
    (["task_manager_AST_report.txt".toList], []),
    (["cli_conditional_runtime_annotation_report.txt".toList], Text.encodeUtf8 " \r\t\r".toList),
    (["task_manager_conditional_runtime_annotation_report.txt".toList],
      Text.encodeUtf8 "x: int\ry\n".toList),
    ([variableReportPath],
      Text.encodeUtf8 "# Names\n\nsrc/cli.py:\nFunction: main\n choice : str\n".toList)]⟩

/-- A trace with two modules and a signature with two arguments. -/
def mixedTrace : TraceFile :=
  .contents (Text.encodeUtf8
    "a.py:\n\nsrc/b.py:\n- def f(x, y):\n+ def f(x: int, *, y: str) -> None:\n".toList)

theorem final_report_in_sections_mixed :
    ∃ after output, reportFinal mixedFolder mixedTrace = .ok (after, output) ∧
      ∃ (sections : Sections mixedFolder mixedTrace) (rows : List (List Text)),
        after.readRecords finalReportPath = .ok (finalColumns :: rows) ∧
        (∀ index row, rows[index]? = some row → row.head? = some (Text.ofNat (index + 1))) ∧
        rows.map List.tail = sections.rows.map FinalRow.texts ∧
        (∀ row ∈ sections.named, row.survey = "var_annotator".toList) ∧
        (∀ row ∈ sections.traced, row.survey = "RightTyper".toList) := by
  have made : (reportFinal mixedFolder mixedTrace).isOk = true := by decide +kernel
  obtain ⟨⟨after, output⟩, reported⟩ := exists_of_isOk made
  exact ⟨after, output, reported, final_report_in_sections reported⟩

end Survey

end TypeSurvey
