import TypeSurvey.Script.Check
import TypeSurvey.Script.Execute
import TypeSurvey.Survey.Binding
import TypeSurvey.Survey.HintReport
import TypeSurvey.Survey.ValueType

/-!
# The survey of running scripts

A script is run, and the types of the values of its variables at its end are described. A script
that cannot be read, compiled or run to its end is named in the output and shows no variables; a
script that exits ends the survey.
-/

namespace TypeSurvey.Survey

open Source Script

variable [Text.SetOrder]

/-- How a script ends the whole survey. -/
inductive ScriptStop
  | exited (code : Value)
  /-- It is stopped by an exception of a class that is no failure. -/
  | stopped (className message : Text)

/-- How a script ends. -/
inductive ScriptEnd
  /-- It has run to its end: its variables and the descriptions of their types. -/
  | finished (types : Bindings)
  | failed (message : Text)
  /-- It ends the survey. -/
  | stopped (stop : ScriptStop)

/-- The variables that a survey shows: those whose names do not start with two underscores. -/
def describedTypes (machine : Machine) : Bindings :=
  (machine.globals.filter fun entry => !("__".toList.isPrefixOf entry.1)).map fun entry =>
    (entry.1, (machine.resolve entry.2).describedType)

/-- The code with which a script exits, from the arguments of its exit. -/
def exitCode (machine : Machine) (arguments : List Datum) : Value :=
  match arguments with
  | [] => .none
  | [code] => machine.resolve code
  | _ => .tuple (arguments.map machine.resolve)

/-- What an exception that is not handled means for a script. -/
def endOfException (machine : Machine) (exception : Datum) : ScriptEnd :=
  match machine.thingOf? exception with
  | some (.instance_ class_ _ arguments) =>
    let ancestors := machine.ancestors class_
    if ancestors.contains (.builtin "SystemExit".toList) then
      .stopped (.exited (exitCode machine arguments))
    else if ancestors.contains (.builtin "Exception".toList) then
      .failed (machine.exceptionText class_ arguments)
    else .stopped (.stopped (machine.className class_) (machine.exceptionText class_ arguments))
  | _ => .failed []

/-- Runs a module: what it prints, and how it ends. -/
def runModule (module_ : Module) : Text × ScriptEnd :=
  match scriptFault? module_ with
  | some fault => ([], .failed fault.message)
  | none =>
    match runScript module_ with
    | (.ok _, machine) => (machine.output, .finished (describedTypes machine))
    | (.error (.raised exception), machine) => (machine.output, endOfException machine exception)
    | (.error .unsupported, machine) => (machine.output, .failed [])

/-- Runs a source: what it prints, and how it ends. -/
def runSource (source : Text) : Text × ScriptEnd :=
  match parseModule source with
  | .error fault => ([], .failed fault.message)
  | .ok module_ => runModule module_

/-- The text of a script, or what is shown instead. -/
def readScript (folder : Folder) (path : Text) : Except Text Text :=
  match folder.readText path with
  | .ok source => .ok source
  | .error fault => .error (outputLine ("Error reading file: ".toList ++ fault.message))

/-- What is shown for a script that fails. -/
def failureLine (message : Text) : Text := outputLine ("Error executing file: ".toList ++ message)

/-- Surveys the script in a file: the output, and the variables of the script with the descriptions
of their types. -/
def surveyScript (folder : Folder) (path : Text) : Text × Except ScriptStop Bindings :=
  match readScript folder path with
  | .error output =>
    (output ++ failureLine "exec() arg 1 must be a string, bytes or code object".toList, .ok [])
  | .ok source =>
    match runSource source with
    | (output, .finished types) => (output, .ok types)
    | (output, .failed message) => (output ++ failureLine message, .ok [])
    | (output, .stopped stop) => (output, .error stop)

/-! ## Reports -/

def scriptReportPath (path : Text) : Text :=
  Text.replace ".py".toList "_conditional_runtime_annotation_report.txt".toList path

def scriptReport (types : Bindings) : Text :=
  types.flatMap fun entry =>
    outputLine ("Variable '".toList ++ entry.1 ++ "' is inferred as type: ".toList ++ entry.2)

/-- Writes the report on a script: the folder and the output. -/
def writeScriptReport (folder : Folder) (path : Text) (types : Bindings) : Folder × Text :=
  let target := scriptReportPath path
  match folder.writeText target (scriptReport types) with
  | .error fault => (folder, outputLine ("Error generating report: ".toList ++ fault.message))
  | .ok folder => (folder, outputLine ("Runtime annotation report generated: ".toList ++ target))

def reportScript (folder : Folder) (path : Text) : Folder × Text × Option ScriptStop :=
  if folder.contains path then
    match surveyScript folder path with
    | (output, .error stop) => (folder, output, some stop)
    | (output, .ok []) =>
      (folder, output ++
        outputLine ("No variables detected for annotation in ".toList ++ path ++ ".".toList), none)
    | (output, .ok types) =>
      let (folder, more) := writeScriptReport folder path types
      (folder, output ++ more, none)
  else (folder, outputLine ("File not found: ".toList ++ path), none)

/-- Reports on scripts one after the other, up to one that ends the survey. -/
def reportScripts (folder : Folder) : List Text → Folder × Text × Option ScriptStop
  | [] => (folder, [], none)
  | path :: rest =>
    match reportScript folder path with
    | (folder, output, some stop) => (folder, output, some stop)
    | (folder, output, none) =>
      let (folder, more, stop) := reportScripts folder rest
      (folder, output ++ more, stop)

/-- What is shown when no script is given. -/
def scriptUsage : Text :=
  outputLine "Usage: python3 conditional_annotator.py <file1.py> <file2.py> ...".toList

end TypeSurvey.Survey
