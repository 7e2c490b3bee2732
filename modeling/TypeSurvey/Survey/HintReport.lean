import TypeSurvey.Files.Csv
import TypeSurvey.Files.Folder
import TypeSurvey.Source.Module
import TypeSurvey.Survey.Hint

/-!
# Reports on hints

A report on the hints of a module is a file of records next to the module. Modules that cannot be
read are named in the output and count as empty; a module that is no source ends the run.
-/

namespace TypeSurvey.Survey

open Source

def outputLine (text : Text) : Text := text ++ ['\n']

/-- The lines about the module in a file, and the output. -/
def hintsOfFile [Text.SetOrder] (folder : Folder) (path : Text) :
    Text × Except Source.Fault (List HintRow) :=
  match folder.readText path with
  | .error fault => (outputLine ("Error reading file: ".toList ++ fault.message), .ok [])
  | .ok source => ([], (parseModule source).map hintRows)

/-- The path of the report on a module. -/
def hintReportPath (path : Text) : Text :=
  Text.replace ".py".toList "_AST_report.csv".toList path

/-- The names of the columns of a report. -/
def hintColumns : List Text := ["File", "Variable/Function", "Type Hint"].map String.toList

/-- The row of a report about a line. -/
def HintRow.toValue (path : Text) (row : HintRow) : Value :=
  .list [.str path, .str row.subject, .str row.hint]

/-- Writes the report on a module from rows of fields: the folder and the output. A row without
fields ends the report. -/
def writeHintReport (folder : Folder) (path : Text) (rows : List Value) : Folder × Text :=
  let target := hintReportPath path
  let (body, fault) := Csv.spreadsheet.recordsOf rows
  match folder.writeText target (Csv.spreadsheet.record hintColumns ++ body) with
  | .error fault => (folder, outputLine ("Error generating report: ".toList ++ fault.message))
  | .ok folder =>
    (folder, outputLine (match fault with
      | some kind => "Error generating report: iterable expected, not ".toList ++ kind
      | none => "Annotation report generated at ".toList ++ target))

/-- Reports on one file of a run: the folder, the output and the fault that ends the run. -/
def reportHints [Text.SetOrder] (folder : Folder) (path : Text) :
    Folder × Text × Option Source.Fault :=
  if folder.contains path then
    match hintsOfFile folder path with
    | (output, .error fault) => (folder, output, some fault)
    | (output, .ok rows) =>
      let (folder, more) := writeHintReport folder path (rows.map (HintRow.toValue path))
      (folder, output ++ more, none)
  else (folder, outputLine ("File not found: ".toList ++ path), none)

/-- Reports on files one after the other, up to a fault. -/
def reportAllHints [Text.SetOrder] (folder : Folder) :
    List Text → Folder × Text × Option Source.Fault
  | [] => (folder, [], none)
  | path :: rest =>
    match reportHints folder path with
    | (folder, output, some fault) => (folder, output, some fault)
    | (folder, output, none) =>
      let (folder, more, fault) := reportAllHints folder rest
      (folder, output ++ more, fault)

/-- What is shown when no file is given. -/
def hintUsage : Text :=
  outputLine "Usage: python3 AST_Annotator.py <file1.py> <file2.py> ...".toList

end TypeSurvey.Survey
