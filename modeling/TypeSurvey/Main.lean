import TypeSurvey.Program.Basic

/-!
# The command line

The first word names a program, and the others are the words of its command line. The files that the
program may read are loaded before it runs, and those that it has changed are written afterwards. A
session of the task list is shown line by line: it is run again with each further line of input, and
only the new part of its output is shown.
-/

namespace TypeSurvey.Program

def ofName? : String → Option Program
  | "hints" => some hints
  | "bindings" => some bindings
  | "scripts" => some scripts
  | "final" => some final
  | "tasks" => some tasks
  | "tables" => some tables
  | _ => none

/-- The paths of the files that programs read besides those that they are given. -/
def standingPaths : List Text :=
  [Task.storePath, Survey.variableReportPath, Survey.finalReportPath, Survey.bindingReportPath] ++
    ["cli", "task_manager"].flatMap fun base =>
      ["_AST_report.txt", "_conditional_runtime_annotation_report.txt"].map fun ending =>
        base.toList ++ ending.toList

/-- The contents of a file, if it can be read. -/
def fileContents? (path : String) : IO (Option Text.Bytes) := do
  try return some (← IO.FS.readBinFile path).toList
  catch _ => return none

/-- What is at the path of the traced signatures. -/
def traceFile : IO Survey.TraceFile := do
  try return .contents (← IO.FS.readBinFile (String.ofList Survey.tracePath)).toList
  catch
    | .noFileOrDirectory _ _ _ => return .absent
    | _ => return .closed .isDirectory

def loadFolder (paths : List Text) : IO Folder :=
  paths.foldlM (fun folder path => do
    match ← fileContents? (String.ofList path) with
    | some bytes => return folder.add path bytes
    | none => return folder) Folder.empty

/-- Writes the files that have changed between two folders. -/
def saveFolder (before after : Folder) : IO Unit :=
  after.listing.forM fun (path, bytes) => do
    if !before.listing.contains (path, bytes) then
      IO.FS.writeBinFile (String.ofList path) bytes.toByteArray

/-- The code with which a value ends a process. A value that is no code is shown. -/
def processCode (code : Value) : IO UInt32 :=
  match code with
  | .none => return 0
  | .int number => return number.toNat.toUInt32
  | .bool truth => return if truth then 1 else 0
  | other => do
    IO.eprintln (String.ofList other.toText)
    return 1

/-- Ends a process as a program has ended. -/
def finish (ending : Ending) : IO UInt32 :=
  match ending with
  | .finished => return 0
  | .exited code => processCode code
  | .failed fault => do
    IO.eprintln (String.ofList (fault.className ++ ": ".toList ++ fault.message))
    return 1

/-- Runs a session on the lines read so far, and reads on for as long as it asks for more. `shown`
is the length of the output that is shown already. -/
partial def converse (start : Folder) (saved : Folder) (lines : List Text) (shown : Nat) :
    IO UInt32 := do
  let output ← IO.getStdout
  let result := Task.session start lines
  output.putStr (String.ofList (result.output.drop shown))
  output.flush
  saveFolder saved result.folder
  match result.fault with
  | none => return 0
  | some .endOfInput =>
    let line ← (← IO.getStdin).getLine
    if line.isEmpty then finish (.failed (.session .endOfInput))
    else
      let line := line.toList
      let line := if line.getLast? == some '\n' then line.dropLast else line
      converse start result.folder (lines ++ [line]) result.output.length
  | some fault => finish (.failed (.session fault))

/-- The text of the input, up to its end. -/
partial def allInput (source : IO.FS.Stream) (before : Text) : IO Text := do
  let line ← source.getLine
  if line.isEmpty then return before else allInput source (before ++ line.toList)

/-- Runs a program on the files of the working directory. -/
def execute (program : Program) (words : List Text) : IO UInt32 := do
  let folder ← loadFolder (words ++ standingPaths)
  if program = tasks then converse folder folder [] 0
  else
    let input ← if program = tables then do allInput (← IO.getStdin) [] else pure []
    let outcome ← if program = final then do pure (runFinal folder (← traceFile))
      else pure (@run .sorted program folder words input none)
    IO.print (String.ofList outcome.output)
    saveFolder folder outcome.folder
    finish outcome.ending

/-- Runs the program that the first word names. -/
def start (words : List String) : IO UInt32 :=
  match words.head?.bind ofName? with
  | some program => program.execute (words.tail.map String.toList)
  | none => do
    IO.eprintln "usage: (hints | bindings | scripts | final | tasks | tables) [WORD ...]"
    return 2

end TypeSurvey.Program

/-- Runs the program that the first word names. -/
def main (words : List String) : IO UInt32 := TypeSurvey.Program.start words
