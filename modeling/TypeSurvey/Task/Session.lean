import TypeSurvey.Table.Render
import TypeSurvey.Task.Store

/-!
# Sessions

A session shows a menu, reads a choice and does what was chosen, until the choice is to leave. It is
a function of the lines of its input. A session that finds no further line, or that meets a fault,
ends there; the tasks are then as the choices before have left them.
-/

namespace TypeSurvey.Task

/-- The reasons why a session ends early. -/
inductive SessionFault
  | endOfInput
  | store (fault : StoreFault)
  /-- A number cannot be read, or the table cannot be drawn. -/
  | value (fault : TypeSurvey.Fault)

namespace SessionFault

def message : SessionFault → Text
  | endOfInput => "EOF when reading a line".toList
  | store fault => fault.message
  | value fault => fault.message

/-- The name of the class of exceptions that a fault belongs to. -/
def className : SessionFault → Text
  | endOfInput => "EOFError".toList
  | store fault => fault.className
  | value fault => fault.className

end SessionFault

/-- What a session leaves: the folder, its output, and the fault that ended it early. -/
structure SessionResult where
  folder : Folder
  output : Text
  fault : Option SessionFault

/-- The result of what follows some output. -/
def SessionResult.after (output : Text) (result : SessionResult) : SessionResult :=
  { result with output := output ++ result.output }

/-! ## Output -/

/-- Lines of output. -/
def shownLines (lines : List String) : Text := lines.flatMap fun line => line.toList ++ ['\n']

/-- The menu with the question for a choice. -/
def menu : Text :=
  shownLines ["\nTask Manager CLI", "1. Add Task", "2. List Tasks", "3. Flush Task", "4. Exit"] ++
    "\nChoose an option: ".toList

/-- The menu of ways to remove tasks, with the question for a choice. -/
def removalMenu : Text :=
  shownLines ["\nFlush Task Options", "1. Flush a specific task by ID", "2. Flush all tasks"] ++
    "Choose an option: ".toList

/-- The questions for the fields of a new task. -/
def taskQuestions : List Text :=
  ["Enter task description: ", "Enter due date (YYYY-MM-DD): ",
   "Enter category: "].map String.toList

/-- What is shown for a choice that is not in a menu. -/
def invalidChoice : Text := shownLines ["\nInvalid option, please try again."]

/-- The table of tasks. -/
def dashboard (rows : List (List Value)) : Except TypeSurvey.Fault Text :=
  Table.render
    { headers := .list (["ID", "Task", "Due Date", "Category"].map Value.ofString)
      style := .named (.ofString "grid") }
    (.list (rows.map .list))

/-- What is shown of a listing before a fault, if there is one. -/
def showListing : Except StoreFault Listing → Text × Except SessionFault Unit
  | .error fault => ([], .error (.store fault))
  | .ok .nothing => (nothingListed ++ ['\n'], .ok ())
  | .ok (.table rows) =>
    let title := shownLines ["\nTask Manager Dashboard\n"]
    match dashboard rows with
    | .error fault => (title, .error (.value fault))
    | .ok table => (title ++ table ++ ['\n'], .ok ())

/-- What the choice to list the tasks shows before a fault, if there is one. -/
def showTasks (folder : Folder) : Text × Except SessionFault Unit := showListing (list folder)

/-! ## Input -/

/-- The number that a line denotes. -/
def readId (line : Text) : Except TypeSurvey.Fault Value :=
  match Numeral.readInt line with
  | .integer value => .ok (.int value)
  | .tooLong digits => .error (.tooManyDigits digits)
  | .malformed => .error (.unreadableInt (.str line))

def confirms (line : Text) : Bool := Text.asciiLower (Text.strip line) == "yes".toList

/-! ## Sessions -/

/-- Runs a session on the lines of its input. -/
def session (folder : Folder) : List Text → SessionResult
  | [] => ⟨folder, menu, some .endOfInput⟩
  | choice :: lines =>
    if choice = ['1'] then
      match lines with
      | description :: dueDate :: category :: rest =>
        let shown := menu ++ taskQuestions.flatten
        match add folder (.str description) (.str dueDate) (.str category) with
        | (folder, .ok message) => (session folder rest).after (shown ++ message ++ ['\n'])
        | (folder, .error fault) => ⟨folder, shown, some (.store fault)⟩
      | _ => ⟨folder, menu ++ (taskQuestions.take (lines.length + 1)).flatten, some .endOfInput⟩
    else if choice = ['2'] then
      match showTasks folder with
      | (output, .ok ()) => (session folder lines).after (menu ++ output)
      | (output, .error fault) => ⟨folder, menu ++ output, some fault⟩
    else if choice = ['3'] then
      match lines with
      | [] => ⟨folder, menu ++ removalMenu, some .endOfInput⟩
      | way :: lines =>
        if way = ['1'] then
          let shown := menu ++ removalMenu ++ "Enter task ID to flush: ".toList
          match lines with
          | [] => ⟨folder, shown, some .endOfInput⟩
          | line :: rest =>
            match readId line with
            | .error fault => ⟨folder, shown, some (.value fault)⟩
            | .ok id =>
              match remove folder id with
              | (folder, .ok message) => (session folder rest).after (shown ++ message ++ ['\n'])
              | (folder, .error fault) => ⟨folder, shown, some (.store fault)⟩
        else if way = ['2'] then
          match askToClear folder with
          | .error fault => ⟨folder, menu ++ removalMenu, some (.store fault)⟩
          | .ok question =>
            let shown := menu ++ removalMenu ++ question ++ ['\n']
            match lines with
            | [] => ⟨folder, shown, some .endOfInput⟩
            | line :: rest =>
              if confirms line then
                match clear folder with
                | (folder, .ok message) => (session folder rest).after (shown ++ message ++ ['\n'])
                | (folder, .error fault) => ⟨folder, shown, some (.store fault)⟩
              else (session folder rest).after (shown ++ shownLines ["\nNo tasks were deleted."])
        else (session folder lines).after (menu ++ removalMenu ++ invalidChoice)
    else if choice = ['4'] then
      ⟨folder, menu ++ shownLines ["\nExiting Task Manager. Goodbye!"], none⟩
    else (session folder lines).after (menu ++ invalidChoice)

end TypeSurvey.Task
