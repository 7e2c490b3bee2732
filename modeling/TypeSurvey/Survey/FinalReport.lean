import TypeSurvey.Survey.HintReport

/-!
# The final report

The final report joins the lines of the other reports into one table. It has a section for the lines
on hints, one for the lines on running scripts, one for variables, and one for the signatures that
were traced while a program ran. One number is counted up through all of them. All reports are read
before the final report is written.
-/

namespace TypeSurvey.Survey

/-- What a row of the final report says. -/
structure FinalRow where
  source : Text
  /-- The function, or the line of a report. -/
  subject : Text
  result : Text := []
  argument : Text := []
  argumentType : Text := []
  /-- The survey that the row comes from. -/
  survey : Text
  variableName : Text := []
  variableType : Text := []
deriving DecidableEq, Repr

/-- A row of the final report. -/
structure NumberedRow extends FinalRow where
  number : Nat
deriving DecidableEq, Repr

/-- A final report that is being made: its rows, and the number of the next one. -/
structure Draft where
  rows : List NumberedRow := []
  next : Nat := 1

namespace Draft

def append (draft : Draft) (row : FinalRow) : Draft :=
  ⟨draft.rows ++ [⟨row, draft.next⟩], draft.next + 1⟩

def extend (draft : Draft) (rows : List FinalRow) : Draft := rows.foldl append draft

end Draft

/-! ## Names of modules -/

/-- The last part of a path. Empty parts and single dots are no parts. -/
def pathName (path : Text) : Text :=
  ((Text.split ['/'] path).filter fun part => !part.isEmpty && part != ['.']).getLast?.getD []

/-- The name of the module that a report is about, from the path of the report and its ending. -/
def moduleName (path ending : Text) : Text := Text.replace ending ".py".toList (pathName path)

/-- The module that a line names: a path that ends in `.py`, and a colon. -/
def moduleLine? (line : Text) : Option Text :=
  if Text.endsWith ".py:".toList line then some (pathName line.dropLast) else none

/-! ## Lines of reports -/

/-- The parts before and after the first colon of a line. -/
def atColon? (line : Text) : Option (Text × Text) :=
  if line.contains ':' then
    let before := line.takeWhile (· != ':')
    some (Text.strip before, Text.strip (line.drop (before.length + 1)))
  else none

def functionLine? (line : Text) : Option Text :=
  let mark := "Function:".toList
  if mark.isPrefixOf line then (Text.split mark line)[1]?.map Text.strip else none

/-! ## Traced signatures -/

/-- The reasons why a signature cannot be taken apart. -/
inductive SignatureFault
  | manyArrows
  /-- It has no parenthesis before its arrow. -/
  | noParenthesis
deriving DecidableEq, Repr

/-- The arguments of a signature and their types. A piece between commas counts if it has a
colon. -/
def signatureArguments (text : Text) : List (Text × Text) :=
  ((Text.split [','] text).map Text.strip).filterMap atColon?

/-- The rows of a signature, one for each argument. -/
def signatureRows (source signature : Text) : Except SignatureFault (List FinalRow) :=
  match Text.split "->".toList signature with
  | [] | [_] => .ok []
  | [head, result] =>
    if head.contains '(' then
      let name := head.takeWhile (· != '(')
      let arguments := Text.trimEnd (· == ')') (head.drop (name.length + 1))
      .ok ((signatureArguments arguments).map fun (argument, type) =>
        { source, subject := Text.strip name, result := Text.strip result, argument,
          argumentType := type, survey := "RightTyper".toList })
    else .error .noParenthesis
  | _ => .error .manyArrows

/-! ## Faults -/

/-- The reasons why there is no final report. -/
inductive FinalFault
  | read (fault : ReadFault)
  | signature (fault : SignatureFault)
  | write (fault : PathFault)
deriving DecidableEq

namespace FinalFault

def message : FinalFault → Text
  | read fault => fault.message
  | signature .manyArrows => "too many values to unpack (expected 2)".toList
  | signature .noParenthesis => "list index out of range".toList
  | write fault => fault.message

/-- The name of the class of exceptions that a fault belongs to. -/
def className : FinalFault → Text
  | read fault => fault.className
  | signature .manyArrows => "ValueError".toList
  | signature .noParenthesis => "IndexError".toList
  | write fault => fault.className

end FinalFault

def reportLines (folder : Folder) (path : Text) : Except FinalFault (List Text) :=
  match folder.readText path with
  | .ok text => .ok (Text.lines text)
  | .error fault => .error (.read fault)

/-! ## Lines that are read one after the other -/

/-- What a line adds to what is known from the lines before it, and the rows that it gives. -/
abbrev LineReader (Known : Type) := Known → Text → Except FinalFault (Known × List FinalRow)

/-- Adds the rows of lines to a draft. Every line is read without the blanks around it. -/
def Draft.addLines {Known : Type} (read : LineReader Known) (draft : Draft) (known : Known) :
    List Text → Except FinalFault Draft
  | [] => .ok draft
  | line :: rest => do
    let (known, rows) ← read known (Text.strip line)
    (draft.extend rows).addLines read known rest

/-- A line of a report on a module gives a row unless it is blank. -/
def readSurveyLine (survey source : Text) : LineReader Unit := fun _ line =>
  .ok ((), if line.isEmpty then []
    else [{ source, subject := line, result := "Unknown".toList, survey }])

/-- The module and the function that lines of the report on variables have named last. -/
structure VariablePlace where
  source : Text := []
  function : Text := []

/-- A line of the report on variables names a module or a function, or it gives the row of a
variable. -/
def readVariableLine : LineReader VariablePlace := fun place line =>
  if line.isEmpty || line.head? == some '#' then .ok (place, [])
  else
    match moduleLine? line with
    | some source => .ok ({ place with source }, [])
    | none =>
      match functionLine? line with
      | some function => .ok ({ place with function }, [])
      | none =>
        match atColon? line with
        | some (name, type) =>
          let row : FinalRow :=
            { source := place.source, subject := place.function, survey := "var_annotator".toList,
              variableName := name, variableType := type }
          .ok (place, [row])
        | none => .ok (place, [])

/-- A line of the trace names a module, or it gives the rows of a signature. -/
def readTracedLine : LineReader Text := fun source line =>
  match moduleLine? line with
  | some source => .ok (source, [])
  | none =>
    if "+ def ".toList.isPrefixOf line then do
      return (source, ← (signatureRows source (line.drop 6)).mapError .signature)
    else .ok (source, [])

/-! ## The report -/

/-- Adds the section of a survey: the lines of the reports on the two modules of the program. -/
def Draft.addSurvey (folder : Folder) (survey ending : Text) (draft : Draft) :
    Except FinalFault Draft :=
  ["cli", "task_manager"].foldlM (fun draft base => do
    let path := base.toList ++ ending
    draft.addLines (readSurveyLine survey (moduleName path ending)) ()
      (← reportLines folder path)) draft

def variableReportPath : Text := "variable_annotation_report.txt".toList

/-- Adds the section of the variables. It is empty if there is no report on them. -/
def Draft.addVariables (folder : Folder) (draft : Draft) : Except FinalFault Draft := do
  if folder.contains variableReportPath then
    draft.addLines readVariableLine {} (← reportLines folder variableReportPath)
  else return draft

/-- The path of the file with the traced signatures. -/
def tracePath : Text := "/home/training/Final_Annotator/RightTyper/righttyper.out".toList

/-- What is at the path of the traced signatures. -/
inductive TraceFile
  | absent
  /-- Something that cannot be opened. -/
  | closed (cause : PathCause)
  | contents (bytes : Text.Bytes)
deriving DecidableEq

/-- A file of which the contents are known, or none. -/
def TraceFile.ofContents : Option Text.Bytes → TraceFile
  | none => absent
  | some bytes => contents bytes

/-- Adds the section of the traced signatures. It is empty if nothing is at their path. -/
def Draft.addTrace (trace : TraceFile) (draft : Draft) : Except FinalFault Draft :=
  match trace with
  | .absent => .ok draft
  | .closed cause => .error (.read (.path ⟨cause, tracePath⟩))
  | .contents bytes =>
    match Text.decodeUtf8 bytes with
    | .error fault => .error (.read (.decoding fault))
    | .ok text => draft.addLines readTracedLine [] (Text.lines (Text.normalizeNewlines text))

def finalDraft (folder : Folder) (trace : TraceFile) : Except FinalFault Draft := do
  let draft : Draft := {}
  let draft ← draft.addSurvey folder "AST".toList "_AST_report.txt".toList
  let draft ← draft.addSurvey folder "Conditional".toList
    "_conditional_runtime_annotation_report.txt".toList
  let draft ← draft.addVariables folder
  draft.addTrace trace

def finalColumns : List Text :=
  ["SL_No", "Module", "Function", "Function_Return_Type", "Function_Arguments",
   "Function_Argument_Type", "Annotator_Type", "Variable_Name", "Variable_Type"].map String.toList

/-- The fields of a row without its number. -/
def FinalRow.texts (row : FinalRow) : List Text :=
  [row.source, row.subject, row.result, row.argument, row.argumentType, row.survey,
    row.variableName, row.variableType]

def NumberedRow.fields (row : NumberedRow) : List Text := Text.ofNat row.number :: row.texts

def finalReport (rows : List NumberedRow) : Text :=
  Csv.plain.records (finalColumns :: rows.map NumberedRow.fields)

def finalReportPath : Text := "final_annotation_report.csv".toList

/-- Makes the final report: the folder and the output. -/
def reportFinal (folder : Folder) (trace : TraceFile) : Except FinalFault (Folder × Text) := do
  let draft ← finalDraft folder trace
  match folder.writeText finalReportPath (finalReport draft.rows) with
  | .error fault => throw (.write fault)
  | .ok folder =>
    return (folder,
      outputLine ("✅ Final annotation report generated at: ".toList ++ finalReportPath))

end TypeSurvey.Survey
