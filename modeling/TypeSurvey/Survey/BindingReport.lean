import TypeSurvey.Survey.Binding
import TypeSurvey.Survey.HintReport

/-!
# Reports on bindings

One report covers the bindings of several modules. All modules are read before the report is
written, so that a module that cannot be read leaves an earlier report as it is.
-/

namespace TypeSurvey.Survey

open Source

/-- The reasons why a report on bindings cannot be made. -/
inductive BindingFault
  | read (fault : ReadFault)
  | source (fault : Source.Fault)
  | write (fault : PathFault)
deriving DecidableEq

/-- A row of a report: the path of the module, the variable and its type. -/
abbrev BindingRow := Text × Text × Text

/-- The rows about the module in a file. -/
def bindingsOfFile (folder : Folder) (path : Text) : Except BindingFault (List BindingRow) :=
  match folder.readText path with
  | .error fault => .error (.read fault)
  | .ok source =>
    match parseModule source with
    | .error fault => .error (.source fault)
    | .ok module_ => .ok ((bindings module_).map fun entry => (path, entry))

/-- The rows about the modules in files, up to the first that cannot be read. -/
def bindingsOfFiles (folder : Folder) : List Text → Except BindingFault (List BindingRow)
  | [] => .ok []
  | path :: rest => do
    let rows ← bindingsOfFile folder path
    return rows ++ (← bindingsOfFiles folder rest)

/-- The names of the columns of a report. -/
def bindingColumns : List Text := ["Filename", "Variable Name", "Inferred Type"].map String.toList

def bindingReport (rows : List BindingRow) : Text :=
  Csv.spreadsheet.records (bindingColumns :: rows.map fun row => [row.1, row.2.1, row.2.2])

/-- Reports on files at a path: the folder and the output. -/
def reportBindings (folder : Folder) (paths : List Text) (target : Text) :
    Except BindingFault (Folder × Text) := do
  let rows ← bindingsOfFiles folder paths
  match folder.writeText target (bindingReport rows) with
  | .error fault => throw (.write fault)
  | .ok folder =>
    return (folder, outputLine ("✅ Annotation report generated: ".toList ++ target))

def bindingReportPath : Text := "variable_annotation_report.csv".toList

/-- What is shown when no file is given. -/
def bindingUsage : Text :=
  outputLine "❌ Usage: python3 var_annotator.py <file1.py> <file2.py> ...".toList

end TypeSurvey.Survey
