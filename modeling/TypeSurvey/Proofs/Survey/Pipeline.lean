import TypeSurvey.Proofs.Survey.FinalFailure
import TypeSurvey.Proofs.Survey.Independence
import TypeSurvey.Proofs.Survey.ScriptRows

/-!
# The surveys and the final report one after the other

For two scripts that run to their ends, the three surveys leave five reports. The final report looks
for the reports on hints and on bindings under other names than those under which the surveys write
them, so that it is never made. With the reports on hints under both names it is made. It then has a
row for each line of them, and so at least one for each row that was reported, but no row on
variables.
-/

namespace TypeSurvey.Survey

open Folder Source

/-! ## Scripts that run to their ends -/

/-- Whether a text is that of a script which runs to its end and leaves these variables, of which
there are some. Their types list sets in an order. -/
def RunsTo (order : Text.SetOrder) (text : Text) (types : Bindings) : Prop :=
  types ≠ [] ∧ ∃ output, runSource (Text.normalizeNewlines text) = (output, .finished types)

/-- The variables that a script leaves when it runs to its end. -/
def ScriptEnd.types? : ScriptEnd → Option Bindings
  | .finished types => some types
  | _ => none

instance (order : Text.SetOrder) (text : Text) (types : Bindings) :
    Decidable (RunsTo order text types) :=
  decidable_of_iff (types ≠ [] ∧
      (runSource (Text.normalizeNewlines text)).2.types? = some types) <| by
    refine and_congr_right fun _ => ?_
    rcases runSource (Text.normalizeNewlines text) with ⟨output, finish⟩
    cases finish <;> simp [ScriptEnd.types?]

/-- Whether a text is that of a module. -/
def IsSource (text : Text) (module_ : Module) : Prop :=
  parseModule (Text.normalizeNewlines text) = .ok module_

section Script

variable {order : Text.SetOrder} {folder : Folder} {path text : Text} {types : Bindings}

theorem RunsTo.exists_isSource (runs : RunsTo order text types) :
    ∃ module_, IsSource text module_ := by
  obtain ⟨-, output, ran⟩ := runs
  unfold runSource at ran
  cases parsed : parseModule (Text.normalizeNewlines text) with
  | error fault => simp [parsed] at ran
  | ok module_ => exact ⟨module_, parsed⟩

/-- The report on a script that runs to its end is written, and the run goes on. -/
theorem reportScript_of_runsTo (runs : RunsTo order text types)
    (holds : folder.HoldsText path text) :
    (reportScript folder path).1 = folder.written (scriptReportPath path) (scriptReport types) ∧
      (reportScript folder path).2.2 = none := by
  obtain ⟨some, output, ran⟩ := runs
  have read := readText_eq_ok_iff.mpr ⟨text, holds, rfl⟩
  have surveyed : surveyScript folder path = (output, .ok types) := by
    rw [surveyScript, readScript, read]
    simp only [ran]
  have there : folder.contains path = true := by
    obtain ⟨place, located, found⟩ := read_eq_ok_iff_file?.mp holds
    rw [contains, located]
    simp [found]
  obtain ⟨entry, others, rfl⟩ := List.exists_cons_of_ne_nil some
  rw [reportScript, if_pos there, surveyed]
  exact ⟨fst_writeScriptReport folder path _, rfl⟩

end Script

/-! ## The two scripts of the program -/

/-- The path of the script for the command line. -/
def commandPath : Text := "cli.py".toList

/-- The path of the script for the task list. -/
def taskPath : Text := "task_manager.py".toList

/-- The paths in the order of the surveys. -/
def scriptPaths : List Text := [taskPath, commandPath]

/-- The folder with two scripts and nothing else. -/
def pairFolder (command tasks : Text) : Folder :=
  ⟨[([commandPath], Text.encodeUtf8 command), ([taskPath], Text.encodeUtf8 tasks)]⟩

/-- Whether two scripts are in a folder, which has no directories. -/
structure HoldsPair (command tasks : Text) (folder : Folder) : Prop where
  flat : folder.IsFlat
  command : folder.HoldsText commandPath command
  tasks : folder.HoldsText taskPath tasks

theorem isName_commandPath : IsName commandPath := by decide

theorem isName_taskPath : IsName taskPath := by decide

section Pair

variable {command tasks commandText taskText : Text} {folder : Folder}
  {commandModule taskModule : Module} {commandTypes taskTypes : Bindings}

theorem file?_pairFolder (other : Text) :
    (pairFolder command tasks).file? [other] =
      if commandPath = other then some (Text.encodeUtf8 command)
      else if taskPath = other then some (Text.encodeUtf8 tasks) else none := by
  by_cases first : commandPath = other
  · simp [pairFolder, file?, first]
  · by_cases second : taskPath = other <;> simp [pairFolder, file?, first, second]

theorem isFlat_pairFolder : (pairFolder command tasks).IsFlat := by
  refine isFlat_of_forall fun entry member => ?_
  rcases List.mem_pair.mp member with rfl | rfl
  · exact ⟨commandPath, rfl⟩
  · exact ⟨taskPath, rfl⟩

theorem holdsPair_pairFolder : HoldsPair command tasks (pairFolder command tasks) := by
  have apart : commandPath ≠ taskPath := by decide
  refine ⟨isFlat_pairFolder, ?_, ?_⟩
  · rw [HoldsText, read_eq_ok_iff isName_commandPath, file?_pairFolder, if_pos rfl]
  · rw [HoldsText, read_eq_ok_iff isName_taskPath, file?_pairFolder, if_neg apart, if_pos rfl]

/-- A report with a name of its own leaves the scripts as they are. -/
theorem HoldsPair.written (pair : HoldsPair command tasks folder) {name : Text}
    (isName : IsName name) (other : name ∉ scriptPaths) (text : Text) :
    HoldsPair command tasks (folder.written name text) := by
  simp only [scriptPaths, List.mem_cons, List.not_mem_nil, or_false, not_or] at other
  obtain ⟨flat, holdsCommand, holdsTasks⟩ := pair
  rw [HoldsText, read_eq_ok_iff isName_commandPath] at holdsCommand
  rw [HoldsText, read_eq_ok_iff isName_taskPath] at holdsTasks
  refine ⟨flat.written name text, ?_, ?_⟩
  · rw [HoldsText, read_eq_ok_iff isName_commandPath, flat.file?_written isName,
      if_neg (Ne.symm other.2), holdsCommand]
  · rw [HoldsText, read_eq_ok_iff isName_taskPath, flat.file?_written isName,
      if_neg (Ne.symm other.1), holdsTasks]

theorem HoldsPair.holdsModules (pair : HoldsPair command tasks folder)
    (commandSource : IsSource command commandModule) (taskSource : IsSource tasks taskModule) :
    HoldsModule folder commandPath commandModule ∧ HoldsModule folder taskPath taskModule :=
  ⟨⟨_, readText_eq_ok_iff.mpr ⟨command, pair.command, rfl⟩, commandSource⟩,
    ⟨_, readText_eq_ok_iff.mpr ⟨tasks, pair.tasks, rfl⟩, taskSource⟩⟩

/-! ## The surveys -/

/-- Two texts on the scripts, under the names that the paths of the scripts are turned into. -/
def pairReports (target : Text → Text) (commandText taskText : Text) : List (Text × Text) :=
  [(target taskPath, taskText), (target commandPath, commandText)]

/-- A survey that reports on each script wherever the two are writes two reports. -/
theorem reportEach_pair {σ : Type} {report : Folder → Text → Folder × Text × Option σ}
    {target : Text → Text}
    (names : ∀ path ∈ scriptPaths, IsName (target path) ∧ target path ∉ scriptPaths)
    (onCommand : ∀ folder, HoldsPair command tasks folder →
      (report folder commandPath).1 = folder.written (target commandPath) commandText ∧
        (report folder commandPath).2.2 = none)
    (onTasks : ∀ folder, HoldsPair command tasks folder →
      (report folder taskPath).1 = folder.written (target taskPath) taskText ∧
        (report folder taskPath).2.2 = none)
    (pair : HoldsPair command tasks folder) :
    (reportEach report folder scriptPaths).1 =
        folder.writtenAll (pairReports target commandText taskText) ∧
      (reportEach report folder scriptPaths).2.2 = none ∧
      HoldsPair command tasks (folder.writtenAll (pairReports target commandText taskText)) := by
  have step : ∀ folder, HoldsPair command tasks folder →
      ∀ entry ∈ [(taskPath, taskText), (commandPath, commandText)],
        (report folder entry.1).1 = folder.written (target entry.1) entry.2 ∧
          (report folder entry.1).2.2 = none ∧
          HoldsPair command tasks (folder.written (target entry.1) entry.2) := by
    intro folder pair entry member
    rcases List.mem_pair.mp member with rfl | rfl
    · obtain ⟨isName, other⟩ := names taskPath (by simp [scriptPaths])
      obtain ⟨written, goesOn⟩ := onTasks folder pair
      exact ⟨written, goesOn, pair.written isName other taskText⟩
    · obtain ⟨isName, other⟩ := names commandPath (by simp [scriptPaths])
      obtain ⟨written, goesOn⟩ := onCommand folder pair
      exact ⟨written, goesOn, pair.written isName other commandText⟩
  exact reportEach_of_kept step pair

/-- The reports on the hints of two modules. -/
def hintReports [Text.SetOrder] (commandModule taskModule : Module) : List (Text × Text) :=
  pairReports hintReportPath (hintReport commandPath commandModule)
    (hintReport taskPath taskModule)

/-- The reports on two running scripts. -/
def scriptReports (commandTypes taskTypes : Bindings) : List (Text × Text) :=
  pairReports scriptReportPath (scriptReport commandTypes) (scriptReport taskTypes)

theorem runHints_pair [Text.SetOrder] (pair : HoldsPair command tasks folder)
    (commandSource : IsSource command commandModule) (taskSource : IsSource tasks taskModule) :
    (Program.runHints folder scriptPaths).folder =
        folder.writtenAll (hintReports commandModule taskModule) ∧
      (Program.runHints folder scriptPaths).ending = .finished ∧
      HoldsPair command tasks (folder.writtenAll (hintReports commandModule taskModule)) := by
  obtain ⟨written, goesOn, kept⟩ := reportEach_pair (by decide)
    (fun folder pair => reportHints_of_holds (pair.holdsModules commandSource taskSource).1)
    (fun folder pair => reportHints_of_holds (pair.holdsModules commandSource taskSource).2) pair
  exact ⟨(folder_runHints _ _).trans written,
    ending_runHints _ _ (List.cons_ne_nil _ _) goesOn, kept⟩

theorem runScripts_pair {order : Text.SetOrder} (pair : HoldsPair command tasks folder)
    (commandRuns : RunsTo order command commandTypes) (tasksRun : RunsTo order tasks taskTypes) :
    (Program.runScripts folder scriptPaths).folder =
        folder.writtenAll (scriptReports commandTypes taskTypes) ∧
      (Program.runScripts folder scriptPaths).ending = .finished ∧
      HoldsPair command tasks (folder.writtenAll (scriptReports commandTypes taskTypes)) := by
  obtain ⟨written, goesOn, kept⟩ := reportEach_pair (by decide)
    (fun folder pair => reportScript_of_runsTo commandRuns pair.command)
    (fun folder pair => reportScript_of_runsTo tasksRun pair.tasks) pair
  exact ⟨(folder_runScripts _ _).trans written,
    ending_runScripts _ _ (List.cons_ne_nil _ _) goesOn, kept⟩

/-- The report on the bindings of two modules. -/
def pairBindings (commandModule taskModule : Module) : Text :=
  bindingReport ((bindings taskModule).map (fun entry => (taskPath, entry)) ++
    (bindings commandModule).map fun entry => (commandPath, entry))

theorem runBindings_pair (pair : HoldsPair command tasks folder)
    (commandSource : IsSource command commandModule) (taskSource : IsSource tasks taskModule) :
    (Program.runBindings folder scriptPaths).folder =
        folder.written bindingReportPath (pairBindings commandModule taskModule) ∧
      (Program.runBindings folder scriptPaths).ending = .finished := by
  obtain ⟨onCommand, onTasks⟩ := pair.holdsModules commandSource taskSource
  have surveyed : bindingsOfFiles folder scriptPaths =
      .ok ((bindings taskModule).map (fun entry => (taskPath, entry)) ++
        (bindings commandModule).map fun entry => (commandPath, entry)) := by
    rw [scriptPaths, bindingsOfFiles, bindingsOfFiles, bindingsOfFiles,
      bindingsOfFile_eq_ok_iff.mpr ⟨_, onTasks, rfl⟩,
      bindingsOfFile_eq_ok_iff.mpr ⟨_, onCommand, rfl⟩]
    simp [ok_bind, pure, Except.pure]
  have isName : IsName bindingReportPath := by decide
  have reported : reportBindings folder scriptPaths bindingReportPath =
      .ok (folder.written bindingReportPath (pairBindings commandModule taskModule),
        outputLine ("✅ Annotation report generated: ".toList ++ bindingReportPath)) := by
    rw [reportBindings, surveyed, ok_bind, pair.flat.writeText isName]
    rfl
  rw [Program.runBindings, Program.surveyBindings, reported]
  exact ⟨rfl, rfl⟩

/-! ## The folder after the surveys -/

/-- What is written by the three surveys, one after the other. -/
def surveyReports [Text.SetOrder] (commandModule taskModule : Module)
    (commandTypes taskTypes : Bindings) : List (Text × Text) :=
  hintReports commandModule taskModule ++ scriptReports commandTypes taskTypes ++
    [(bindingReportPath, pairBindings commandModule taskModule)]

def surveyNames : List Text :=
  [hintReportPath taskPath, hintReportPath commandPath, scriptReportPath taskPath,
   scriptReportPath commandPath, bindingReportPath]

theorem map_fst_surveyReports [Text.SetOrder] :
    (surveyReports commandModule taskModule commandTypes taskTypes).map Prod.fst = surveyNames :=
  rfl

end Pair

/-! ## The pipeline -/

/-- The outcomes of programs that run one after the other. -/
structure Pipeline where
  hints : Program.Outcome
  scripts : Program.Outcome
  bindings : Program.Outcome
  final : Program.Outcome

/-- The surveys of the scripts at paths and the final report, each in the folder that the one before
leaves. The survey of hints and the survey of running scripts have their own orders of sets. -/
def pipeline (hintOrder scriptOrder : Text.SetOrder) (folder : Folder) (paths : List Text)
    (trace : TraceFile) : Pipeline :=
  let hints := @Program.runHints hintOrder folder paths
  let scripts := @Program.runScripts scriptOrder hints.folder paths
  let bindings := Program.runBindings scripts.folder paths
  ⟨hints, scripts, bindings, Program.runFinal bindings.folder trace⟩

theorem final_pipeline (hintOrder scriptOrder : Text.SetOrder) (folder : Folder)
    (paths : List Text) (trace : TraceFile) :
    (pipeline hintOrder scriptOrder folder paths trace).final =
      Program.runFinal (pipeline hintOrder scriptOrder folder paths trace).bindings.folder trace :=
  rfl

section Surveys

variable {command tasks : Text} {commandModule taskModule : Module}
  {commandTypes taskTypes : Bindings}

theorem surveys_finish (hintOrder : Text.SetOrder) {scriptOrder : Text.SetOrder}
    (commandRuns : RunsTo scriptOrder command commandTypes)
    (tasksRun : RunsTo scriptOrder tasks taskTypes)
    (commandSource : IsSource command commandModule) (taskSource : IsSource tasks taskModule)
    (trace : TraceFile) :
    let run := pipeline hintOrder scriptOrder (pairFolder command tasks) scriptPaths trace
    run.hints.ending = .finished ∧ run.scripts.ending = .finished ∧
      run.bindings.ending = .finished ∧
      run.bindings.folder = (pairFolder command tasks).writtenAll
        (@surveyReports hintOrder commandModule taskModule commandTypes taskTypes) := by
  dsimp only [pipeline]
  obtain ⟨hinted, hintsEnd, second⟩ :=
    @runHints_pair _ _ _ _ _ hintOrder holdsPair_pairFolder commandSource taskSource
  obtain ⟨ran, scriptsEnd, third⟩ := runScripts_pair second commandRuns tasksRun
  obtain ⟨bound, bindingsEnd⟩ := runBindings_pair third commandSource taskSource
  rw [hinted, ran]
  refine ⟨hintsEnd, scriptsEnd, bindingsEnd, ?_⟩
  rw [bound]
  simp only [surveyReports, writtenAll, List.foldl_append, List.foldl_cons, List.foldl_nil]

end Surveys

/-! ## Reports that are missing -/

theorem readText_of_absent {folder : Folder} {name : Text} (flat : folder.IsFlat)
    (isName : IsName name) (absent : folder.file? [name] = none) :
    folder.readText name = .error (.path ⟨.missing, name⟩) := by
  have read : folder.read name = .error ⟨.missing, name⟩ := by
    rw [Folder.read, locate_of_isName folder isName, ok_bind]
    simp only [absent, flat name]
    rfl
  rw [readText, read]

theorem contains_of_absent {folder : Folder} {name : Text} (flat : folder.IsFlat)
    (isName : IsName name) (absent : folder.file? [name] = none) :
    folder.contains name = false := by
  rw [contains, locate_of_isName folder isName]
  simp only [flat name, absent, Option.isSome_none, Bool.or_self]

/-- Without the first report on hints there is no final report. -/
theorem reportFinal_of_unread {folder : Folder} {fault : ReadFault}
    (unread : folder.readText "cli_AST_report.txt".toList = .error fault) (trace : TraceFile) :
    reportFinal folder trace = .error (.read fault) := by
  have path : "cli".toList ++ "_AST_report.txt".toList = "cli_AST_report.txt".toList := by
    decide
  have lines : reportLines folder ("cli".toList ++ "_AST_report.txt".toList) =
      .error (.read fault) := by
    rw [path, reportLines, unread]
  have stopped : ({} : Draft).addSurvey folder "AST".toList "_AST_report.txt".toList =
      .error (.read fault) := by
    rw [adds_addSurvey, surveyRows, lines]
    rfl
  rw [reportFinal, finalDraft]
  simp only [stopped]
  rfl

/-! ## Lines of reports on hints -/

theorem comma_mem_join {first second : Text} {rest : List Text} :
    ',' ∈ Text.join [','] (first :: second :: rest) := by
  simp [Text.join_cons_cons]

/-- A report has at least one line for each of its rows. -/
theorem length_le_solidLines_records {rows : List (List Text)}
    (wide : ∀ row ∈ rows, 2 ≤ row.length) :
    rows.length ≤ (Text.solidLines (Csv.spreadsheet.records rows)).length := by
  induction rows with
  | nil => simp
  | cons row rows induction =>
    obtain ⟨here, later⟩ := List.forall_mem_cons.mp wide
    obtain ⟨first, second, rest, rfl⟩ : ∃ first second rest, row = first :: second :: rest :=
      match row, here with
      | first :: second :: rest, _ => ⟨first, second, rest, rfl⟩
    have shape : Csv.spreadsheet.records ((first :: second :: rest) :: rows) =
        Text.join [','] ((first :: second :: rest).map Csv.spreadsheet.field) ++
          '\r' :: '\n' :: Csv.spreadsheet.records rows := by
      simp [Csv.Dialect.records, Csv.Dialect.record, Csv.spreadsheet]
    have solid : Text.isBlank ',' = false := by decide
    have line := Text.solidLines_ne_nil solid (@comma_mem_join
      (Csv.spreadsheet.field first) (Csv.spreadsheet.field second)
      (rest.map Csv.spreadsheet.field))
    have more := List.length_pos_iff.mpr line
    rw [shape, Text.solidLines, Text.solidPieces_append_cons _ _ rfl,
      Text.solidPieces_cons _ rfl, List.length_append, List.length_cons]
    have others := induction later
    simp only [Text.solidLines, List.map_cons] at more others ⊢
    omega

theorem length_le_solidLines_hintReport [Text.SetOrder] (path : Text) (module_ : Module) :
    (hintRows module_).length ≤ (Text.solidLines (hintReport path module_)).length := by
  have wide : ∀ row ∈ hintColumns ::
      (hintRows module_).map (fun row => [path, row.subject, row.hint]), 2 ≤ row.length := by
    rw [List.forall_mem_cons]
    refine ⟨by decide, fun row member => ?_⟩
    obtain ⟨_, -, rfl⟩ := List.mem_map.mp member
    simp
  have lines := length_le_solidLines_records wide
  rw [List.length_cons, List.length_map] at lines
  exact Nat.le_of_succ_le lines

/-! ## The final report without a report on variables -/

/-- The final report has a row for each line of the reports on hints, and no row on variables if the
report on them is not there. -/
theorem exists_reportFinal_of_holds {folder : Folder} {trace : TraceFile}
    {hints taskHints running taskRunning : Text} {traced : List FinalRow}
    (writable : folder.Writable finalReportPath)
    (holdsHints : folder.HoldsText "cli_AST_report.txt".toList hints)
    (holdsTaskHints : folder.HoldsText "task_manager_AST_report.txt".toList taskHints)
    (holdsRunning :
      folder.HoldsText "cli_conditional_runtime_annotation_report.txt".toList running)
    (holdsTaskRunning :
      folder.HoldsText "task_manager_conditional_runtime_annotation_report.txt".toList taskRunning)
    (unnamed : folder.contains variableReportPath = false)
    (followed : tracedSection trace = .ok traced) :
    ∃ after output rows, reportFinal folder trace = .ok (after, output) ∧
      after.readRecords finalReportPath = .ok (finalColumns :: rows) ∧
      (rows.filter fun row => row[6]? == some "AST".toList).length =
        (Text.solidLines hints).length + (Text.solidLines taskHints).length ∧
      (rows.filter fun row => row[6]? == some "var_annotator".toList) = [] := by
  have named : variableSection folder = .ok [] := by
    rw [variableSection_eq, unnamed]
    rfl
  let given : Sections folder trace := ⟨hints, taskHints, running, taskRunning, [], traced,
    holdsHints, holdsTaskHints, holdsRunning, holdsTaskRunning, named, followed⟩
  obtain ⟨⟨after, output⟩, reported⟩ := given.exists_reportFinal writable
  obtain ⟨sections, read⟩ := readRecords_of_reportFinal reported
  have count (survey : Text) : ((numberedFields 1 sections.rows).filter
      fun row => row[6]? == some survey).length =
        (sections.rows.filter fun row => row.survey == survey).length := by
    rw [← List.length_map List.tail, map_tail_filter_numberedFields, List.length_map]
  refine ⟨after, output, _, reported, read, ?_, List.length_eq_zero_iff.mp ?_⟩
  · rw [count, sections.filter_rows_eq, Sections.hintRows,
      sections.holds_hints.text_eq holdsHints, sections.holds_taskHints.text_eq holdsTaskHints]
    simp
  · have none : sections.named = [] := Except.ok.inj (sections.named_eq.symm.trans named)
    rw [count, sections.filter_rows_eq, none]
    simp

/-! ## The final report of the pipeline -/

/-- The paths at which the final report looks for the reports on hints. -/
def linkNames : List Text :=
  ["cli_AST_report.txt".toList, "task_manager_AST_report.txt".toList]

/-- The folder with texts at these paths. -/
def linked (folder : Folder) (commandText taskText : Text) : Folder :=
  folder.writtenAll (linkNames.zip [commandText, taskText])

theorem isName_of_mem_names : ∀ name ∈ surveyNames ++ linkNames, IsName name := by
  decide

theorem isName_of_mem_surveyNames : ∀ name ∈ surveyNames, IsName name := fun name member =>
  isName_of_mem_names name (List.mem_append_left _ member)

theorem nodup_names : (surveyNames ++ linkNames).Nodup := by decide

section Final

variable {command tasks : Text} {commandModule taskModule : Module}
  {commandTypes taskTypes : Bindings} {trace : TraceFile}

/-- A name that is neither that of a script nor that of a report is free. -/
theorem file?_of_free {texts : List (Text × Text)} {names : List Text}
    (same : texts.map Prod.fst = names) (each : ∀ name ∈ names, IsName name) {name : Text}
    (free : name ∉ names ++ scriptPaths) :
    ((pairFolder command tasks).writtenAll texts).file? [name] = none := by
  subst same
  simp only [scriptPaths, List.mem_append, List.mem_cons, List.not_mem_nil, or_false,
    not_or] at free
  rw [isFlat_pairFolder.file?_writtenAll each free.1, file?_pairFolder,
    if_neg (Ne.symm free.2.2), if_neg (Ne.symm free.2.1)]

/-- A report with a name of its own is in its file. -/
theorem holdsText_of_mem {texts : List (Text × Text)} {names : List Text}
    (same : texts.map Prod.fst = names) (each : ∀ name ∈ names, IsName name)
    (distinct : names.Nodup) {name text : Text} (member : (name, text) ∈ texts) :
    ((pairFolder command tasks).writtenAll texts).HoldsText name text := by
  subst same
  exact isFlat_pairFolder.holdsText_writtenAll each distinct member

/-- After the surveys alone, the final report is stopped by the first report that it looks for. -/
theorem runFinal_surveyed [Text.SetOrder] (trace : TraceFile) :
    let folder := (pairFolder command tasks).writtenAll
      (surveyReports commandModule taskModule commandTypes taskTypes)
    (Program.runFinal folder trace).ending =
        .failed (.final (.read (.path ⟨.missing, "cli_AST_report.txt".toList⟩))) ∧
      (Program.runFinal folder trace).folder = folder ∧
      folder.contains finalReportPath = false := by
  intro folder
  have flat : folder.IsFlat := isFlat_pairFolder.writtenAll _
  have free : ∀ name ∈ ["cli_AST_report.txt".toList, finalReportPath],
      IsName name ∧ name ∉ surveyNames ++ scriptPaths := by
    decide
  obtain ⟨linkName, noLink⟩ := free _ List.mem_cons_self
  obtain ⟨finalName, noFinal⟩ := free finalReportPath (by simp)
  have failed := reportFinal_of_unread
    (readText_of_absent flat linkName
      (file?_of_free map_fst_surveyReports isName_of_mem_surveyNames noLink)) trace
  rw [Program.runFinal, failed]
  exact ⟨rfl, rfl, contains_of_absent flat finalName
    (file?_of_free map_fst_surveyReports isName_of_mem_surveyNames noFinal)⟩

/-- With the reports on hints at the paths at which the final report looks for them, it has at least
as many rows on hints as were reported. The variables are still not found. -/
theorem reportFinal_linked [Text.SetOrder] {traced : List FinalRow} {commandText taskText : Text}
    (commandEq : commandText = hintReport commandPath commandModule)
    (taskEq : taskText = hintReport taskPath taskModule)
    (followed : tracedSection trace = .ok traced) :
    ∃ after output rows,
      reportFinal (linked ((pairFolder command tasks).writtenAll
          (surveyReports commandModule taskModule commandTypes taskTypes)) commandText taskText)
        trace = .ok (after, output) ∧
      after.readRecords finalReportPath = .ok (finalColumns :: rows) ∧
      (hintRows commandModule).length + (hintRows taskModule).length ≤
        (rows.filter fun row => row[6]? == some "AST".toList).length ∧
      (rows.filter fun row => row[6]? == some "var_annotator".toList) = [] := by
  obtain ⟨texts, texts_eq⟩ : ∃ texts, texts =
      surveyReports commandModule taskModule commandTypes taskTypes ++
        linkNames.zip [commandText, taskText] := ⟨_, rfl⟩
  have names : texts.map Prod.fst = surveyNames ++ linkNames := by rw [texts_eq]; rfl
  have shape : linked ((pairFolder command tasks).writtenAll
      (surveyReports commandModule taskModule commandTypes taskTypes)) commandText taskText =
        (pairFolder command tasks).writtenAll texts := by
    simp only [texts_eq, linked, writtenAll, List.foldl_append]
  have flat : ((pairFolder command tasks).writtenAll texts).IsFlat :=
    isFlat_pairFolder.writtenAll texts
  have free : ∀ name ∈ [variableReportPath, finalReportPath],
      IsName name ∧ name ∉ surveyNames ++ linkNames ++ scriptPaths := by
    decide
  obtain ⟨variableName, noVariables⟩ := free _ List.mem_cons_self
  obtain ⟨finalName, -⟩ := free finalReportPath (by simp)
  have holds {name text : Text} (member : (name, text) ∈ texts) :
      ((pairFolder command tasks).writtenAll texts).HoldsText name text :=
    holdsText_of_mem names isName_of_mem_names nodup_names member
  have running : (scriptReportPath commandPath, scriptReport commandTypes) ∈ texts := by
    simp [texts_eq, surveyReports, scriptReports, pairReports]
  have taskRunning : (scriptReportPath taskPath, scriptReport taskTypes) ∈ texts := by
    simp [texts_eq, surveyReports, scriptReports, pairReports]
  have commandLink : ("cli_AST_report.txt".toList, commandText) ∈ texts := by
    simp [texts_eq, linkNames]
  have taskLink : ("task_manager_AST_report.txt".toList, taskText) ∈ texts := by
    simp [texts_eq, linkNames]
  obtain ⟨after, output, rows, reported, read, count, unnamed⟩ := exists_reportFinal_of_holds
    ⟨[finalReportPath], locate_of_isName _ finalName, flat _, rfl⟩
    (holds commandLink) (holds taskLink) (scriptReportPath_cli ▸ holds running)
    (scriptReportPath_tasks ▸ holds taskRunning)
    (contains_of_absent flat variableName (file?_of_free names isName_of_mem_names noVariables))
    followed
  rw [shape]
  refine ⟨after, output, rows, reported, read, ?_, unnamed⟩
  rw [count, commandEq, taskEq]
  exact Nat.add_le_add (length_le_solidLines_hintReport _ _) (length_le_solidLines_hintReport _ _)

theorem hintReportPath_commandPath :
    hintReportPath commandPath = "cli_AST_report.csv".toList := by
  decide

theorem hintReportPath_taskPath :
    hintReportPath taskPath = "task_manager_AST_report.csv".toList := by
  decide

theorem holds_hintReports [Text.SetOrder] :
    let folder := (pairFolder command tasks).writtenAll
      (surveyReports commandModule taskModule commandTypes taskTypes)
    folder.HoldsText "cli_AST_report.csv".toList (hintReport commandPath commandModule) ∧
      folder.HoldsText "task_manager_AST_report.csv".toList (hintReport taskPath taskModule) := by
  have distinct : surveyNames.Nodup := (List.nodup_append.mp nodup_names).1
  rw [← hintReportPath_commandPath, ← hintReportPath_taskPath]
  constructor
  all_goals
    refine holdsText_of_mem map_fst_surveyReports isName_of_mem_surveyNames distinct ?_
    simp [surveyReports, hintReports, pairReports]

/-- For all scripts that run to their ends and leave variables, the three surveys finish, and the
final report fails: the report on the hints of the command line is not at the path at which it is
looked for. Nothing is written then. If the two reports on hints are copied to the paths at which
they are looked for, and the trace can be read, the final report is made and has a row on hints for
each that was reported, but it has no row on variables. -/
theorem pipeline_misses_reports (hintOrder : Text.SetOrder) {scriptOrder : Text.SetOrder}
    {command tasks : Text} {commandTypes taskTypes : Bindings}
    (commandRuns : RunsTo scriptOrder command commandTypes)
    (tasksRun : RunsTo scriptOrder tasks taskTypes) (trace : TraceFile) :
    let run := pipeline hintOrder scriptOrder (pairFolder command tasks) scriptPaths trace
    run.hints.ending = .finished ∧ run.scripts.ending = .finished ∧
      run.bindings.ending = .finished ∧
      run.final.ending =
        .failed (.final (.read (.path ⟨.missing, "cli_AST_report.txt".toList⟩))) ∧
      run.final.folder = run.bindings.folder ∧
      run.final.folder.contains finalReportPath = false ∧
      ∃ commandModule taskModule, IsSource command commandModule ∧ IsSource tasks taskModule ∧
        ∃ commandText taskText,
          run.bindings.folder.HoldsText "cli_AST_report.csv".toList commandText ∧
          run.bindings.folder.HoldsText "task_manager_AST_report.csv".toList taskText ∧
          ∀ traced, tracedSection trace = .ok traced → ∃ after output rows,
            reportFinal (linked run.bindings.folder commandText taskText) trace =
              .ok (after, output) ∧
            after.readRecords finalReportPath = .ok (finalColumns :: rows) ∧
            (@hintRows hintOrder commandModule).length +
                (@hintRows hintOrder taskModule).length ≤
              (rows.filter fun row => row[6]? == some "AST".toList).length ∧
            (rows.filter fun row => row[6]? == some "var_annotator".toList) = [] := by
  obtain ⟨commandModule, commandSource⟩ := commandRuns.exists_isSource
  obtain ⟨taskModule, taskSource⟩ := tasksRun.exists_isSource
  obtain ⟨hintsEnd, scriptsEnd, bindingsEnd, surveyed⟩ :=
    surveys_finish hintOrder commandRuns tasksRun commandSource taskSource trace
  dsimp only
  rw [final_pipeline, surveyed]
  obtain ⟨failed, kept, absent⟩ := @runFinal_surveyed _ _ _ _ _ _ hintOrder trace
  obtain ⟨commandHolds, taskHolds⟩ := @holds_hintReports _ _ _ _ _ _ hintOrder
  rw [kept]
  refine ⟨hintsEnd, scriptsEnd, bindingsEnd, failed, rfl, absent, commandModule, taskModule,
    commandSource, taskSource, _, _, commandHolds, taskHolds, fun traced followed => ?_⟩
  exact @reportFinal_linked _ _ _ _ _ _ _ hintOrder _ _ _ rfl rfl followed

end Final

attribute [local instance] Text.SetOrder.sorted

/-- A script with one variable. -/
def countingScript : Text := "total = 1\n".toList

/-- Its variable. -/
def countingTypes : Bindings := [("total".toList, "int".toList)]

/-- A script with a function. -/
def listingScript : Text := "tasks = [1, 'a']\ndef add(name):\n    return name\n".toList

/-- Its variables. -/
def listingTypes : Bindings :=
  [("tasks".toList, "List[int, str]".toList), ("add".toList, "function".toList)]

theorem runsTo_countingScript : RunsTo .sorted countingScript countingTypes := by decide +kernel

theorem runsTo_listingScript : RunsTo .sorted listingScript listingTypes := by decide +kernel

theorem pipeline_misses_reports_listing :
    RunsTo .sorted countingScript countingTypes ∧ RunsTo .sorted listingScript listingTypes ∧
      ∃ folder commandModule taskModule commandText taskText after output rows,
        IsSource countingScript commandModule ∧ IsSource listingScript taskModule ∧
        folder = (pipeline .sorted .sorted (pairFolder countingScript listingScript) scriptPaths
          .absent).final.folder ∧
        folder.contains finalReportPath = false ∧
        folder.HoldsText "cli_AST_report.csv".toList commandText ∧
        folder.HoldsText "task_manager_AST_report.csv".toList taskText ∧
        reportFinal (linked folder commandText taskText) .absent = .ok (after, output) ∧
        after.readRecords finalReportPath = .ok (finalColumns :: rows) ∧
        (hintRows commandModule).length + (hintRows taskModule).length ≤
          (rows.filter fun row => row[6]? == some "AST".toList).length ∧
        (rows.filter fun row => row[6]? == some "var_annotator".toList) = [] := by
  obtain ⟨-, -, -, -, same, absent, commandModule, taskModule, commandSource, taskSource,
    commandText, taskText, commandHolds, taskHolds, link⟩ :=
      pipeline_misses_reports .sorted runsTo_countingScript runsTo_listingScript .absent
  obtain ⟨after, output, rows, reported, read, count, unnamed⟩ := link [] rfl
  rw [← same] at commandHolds taskHolds reported
  exact ⟨runsTo_countingScript, runsTo_listingScript, _, commandModule, taskModule, commandText,
    taskText, after, output, rows, commandSource, taskSource, rfl, absent, commandHolds, taskHolds,
    reported, read, count, unnamed⟩

/-- Two scripts that run to their ends, and no final report on them. -/
theorem no_final_report_listing :
    RunsTo .sorted countingScript countingTypes ∧ RunsTo .sorted listingScript listingTypes ∧
      (pipeline .sorted .sorted (pairFolder countingScript listingScript) scriptPaths
        .absent).final.folder.contains finalReportPath = false := by
  refine ⟨runsTo_countingScript, runsTo_listingScript, ?_⟩
  obtain ⟨commandModule, commandSource⟩ := runsTo_countingScript.exists_isSource
  obtain ⟨taskModule, taskSource⟩ := runsTo_listingScript.exists_isSource
  obtain ⟨-, -, -, surveyed⟩ := surveys_finish .sorted runsTo_countingScript
    runsTo_listingScript commandSource taskSource .absent
  obtain ⟨-, kept, absent⟩ := runFinal_surveyed .absent
  rw [final_pipeline, surveyed, kept, absent]

end TypeSurvey.Survey
