import TypeSurvey.Program.Table

/-!
# Programs

The programs of the package: the three surveys of modules, the final report, the task list and the
drawing of tables. Each works on a folder, the words of its command line and the text of its input.
-/

namespace TypeSurvey

/-- A program. -/
inductive Program
  /-- Reports on the hints of modules. -/
  | hints
  /-- Reports on the bindings of modules. -/
  | bindings
  /-- Reports on the values of running scripts. -/
  | scripts
  /-- Joins the reports. -/
  | final
  /-- Keeps a list of tasks. -/
  | tasks
  /-- Draws tables. -/
  | tables
deriving DecidableEq, Repr

namespace Program

/-- Leaves with a code after a usage message. -/
def explain (folder : Folder) (usage : Text) : Outcome := ⟨folder, usage, .exited (.int 1)⟩

def runHints [Text.SetOrder] (folder : Folder) (paths : List Text) : Outcome :=
  if paths.isEmpty then explain folder Survey.hintUsage
  else
    let (folder, output, fault) := Survey.reportAllHints folder paths
    ⟨folder, output, match fault with
      | some fault => .failed (.source fault)
      | none => .finished⟩

/-- A survey of bindings with its report at a path. -/
def surveyBindings (folder : Folder) (paths : List Text) (target : Text) : Outcome :=
  match Survey.reportBindings folder paths target with
  | .ok (folder, output) => ⟨folder, output, .finished⟩
  | .error fault => ⟨folder, [], .failed (.ofBinding fault)⟩

def runBindings (folder : Folder) (paths : List Text) : Outcome :=
  if paths.isEmpty then explain folder Survey.bindingUsage
  else surveyBindings folder paths Survey.bindingReportPath

/-- The survey of running scripts. -/
def runScripts [Text.SetOrder] (folder : Folder) (paths : List Text) : Outcome :=
  if paths.isEmpty then explain folder Survey.scriptUsage
  else
    let (folder, output, stop) := Survey.reportScripts folder paths
    ⟨folder, output, match stop with
      | none => .finished
      | some (.exited code) => .exited code
      | some (.stopped className message) => .failed (.stopped className message)⟩

def runFinal (folder : Folder) (trace : Survey.TraceFile) : Outcome :=
  match Survey.reportFinal folder trace with
  | .ok (folder, output) => ⟨folder, output, .finished⟩
  | .error fault => ⟨folder, [], .failed (.final fault)⟩

/-- A session of the task list. -/
def runTasks (folder : Folder) (input : Text) : Outcome :=
  let result := Task.session folder (Text.lines input)
  ⟨result.folder, result.output, match result.fault with
    | some fault => .failed (.session fault)
    | none => .finished⟩

/-- Runs a program. The trace is the contents of the file with traced signatures, if there is
one. -/
def run [Text.SetOrder] (program : Program) (folder : Folder) (words : List Text) (input : Text)
    (trace : Option Text.Bytes) : Outcome :=
  match program with
  | hints => runHints folder words
  | bindings => runBindings folder words
  | scripts => runScripts folder words
  | final => runFinal folder (.ofContents trace)
  | tasks => runTasks folder input
  | tables => drawTables folder words input

end Program

end TypeSurvey
