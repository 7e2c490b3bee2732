import TypeSurvey.Calendar.Date
import TypeSurvey.Document.Decode
import TypeSurvey.Document.Encode
import TypeSurvey.Files.Folder

/-!
# The store of tasks

The tasks are a document in a file of a folder. Every operation reads the file, and those that
change the tasks write it as a whole. The file may hold any document; an operation that needs more
of it than is there fails and leaves the file as it is.
-/

namespace TypeSurvey.Task

def storePath : Text := "tasks.json".toList

/-- The reasons why an operation on the tasks fails. -/
inductive StoreFault
  | read (fault : ReadFault)
  | document (fault : Document.Fault)
  /-- The document does not hold what the operation needs, or a value cannot be written. -/
  | value (fault : TypeSurvey.Fault)
  | date (fault : Calendar.DateFault)
  | write (fault : PathFault)

namespace StoreFault

def message : StoreFault → Text
  | read fault => fault.message
  | document fault => fault.message
  | value fault => fault.message
  | date fault => fault.message
  | write fault => fault.message

/-- The name of the class of exceptions that a fault belongs to. -/
def className : StoreFault → Text
  | read fault => fault.className
  | document fault => fault.className
  | value fault => fault.className
  | date _ => "ValueError".toList
  | write fault => fault.className

end StoreFault

/-! ## The file -/

/-- The document in the file; without a file there are no tasks. -/
def load (folder : Folder) : Except StoreFault Value :=
  if folder.contains storePath then
    match folder.readText storePath with
    | .error fault => .error (.read fault)
    | .ok text => (Document.decode text).mapError .document
  else .ok (.list [])

/-- Writes a document to the file. A value that cannot be written leaves the part before it
there. -/
def save (folder : Folder) (tasks : Value) : Folder × Except StoreFault Unit :=
  let written := Document.encode tasks
  match folder.writeText storePath written.text with
  | .error fault => (folder, .error (.write fault))
  | .ok folder =>
    (folder, match written.fault with
      | some fault => .error (.value fault)
      | none => .ok ())

/-- Changes the tasks, and answers with a message once they are saved. -/
def update (folder : Folder) (change : Value → Except TypeSurvey.Fault Value) (message : Text) :
    Folder × Except StoreFault Text :=
  let changed : Except StoreFault Value := do (change (← load folder)).mapError .value
  match changed with
  | .error fault => (folder, .error fault)
  | .ok tasks =>
    let (folder, result) := save folder tasks
    (folder, result.map fun _ => message)

/-! ## Tasks -/

def taskOf (id : Nat) (description dueDate category : Value) : Value :=
  .dict [(.ofString "id", .int id), (.ofString "description", description),
    (.ofString "due_date", dueDate), (.ofString "category", category)]

def field (name : String) : Value → Except TypeSurvey.Fault Value
  | .dict entries =>
    match Value.field? name.toList entries with
    | some value => .ok value
    | none => .error (.missingKey (.ofString name))
  | .list _ => .error (.sequenceIndex "list".toList "str".toList)
  | .str _ | .halved _ => .error (.textIndex "str".toList)
  | value => .error (.notSubscriptable value.typeName)

/-- A task with a number for its field `id`. -/
def withId (id : Nat) : Value → Value
  | .dict entries => .dict (Value.putEntry (.ofString "id") (.int id) entries)
  | value => value

def numbered (first : Nat) : List Value → List Value
  | [] => []
  | task :: rest => withId first task :: numbered (first + 1) rest

/-! ## Operations -/

/-- The tasks with one more at the end, numbered by how many there are. -/
def append (description dueDate category tasks : Value) : Except TypeSurvey.Fault Value := do
  let count ← tasks.length
  match tasks with
  | .list items => return .list (items ++ [taskOf (count + 1) description dueDate category])
  | _ => throw (.noAttribute tasks.typeName "append".toList)

def add (folder : Folder) (description dueDate category : Value) :
    Folder × Except StoreFault Text :=
  update folder (append description dueDate category) "\nTask added successfully!".toList

/-- The tasks without those of a number, numbered anew. -/
def without (id tasks : Value) : Except TypeSurvey.Fault Value := do
  let items ← tasks.iterate
  let kept ← items.filterM fun task => do return !(← field "id" task).equals id
  return .list (numbered 1 kept)

/-- Removes the task of a number. -/
def remove (folder : Folder) (id : Value) : Folder × Except StoreFault Text :=
  update folder (without id) "\nTask removed successfully!".toList

/-- What is shown of the tasks. -/
inductive Listing
  | nothing
  /-- A row for each task: its number, description, due date and category. -/
  | table (rows : List (List Value))

def dueDate (task : Value) : Except StoreFault Calendar.Date := do
  match ← (field "due_date" task).mapError .value with
  | .str text => (Calendar.Date.parse text).mapError .date
  | .halved text => (Calendar.Date.parse text.shown).mapError .date
  | .none => throw (.value (.dateType "None".toList))
  | other => throw (.value (.dateType other.typeName))

/-- Tasks in the order of their due dates. Tasks of one date keep their order. -/
def byDueDate (tasks : List Value) : Except StoreFault (List Value) := do
  let dates ← tasks.mapM dueDate
  let sorted := (dates.zip tasks).mergeSort fun left right => left.1.le right.1
  return sorted.map Prod.snd

def row (task : Value) : Except TypeSurvey.Fault (List Value) :=
  ["id", "description", "due_date", "category"].mapM fun name => field name task

/-- The tasks in the order of their due dates. -/
def list (folder : Folder) : Except StoreFault Listing := do
  let tasks ← load folder
  if tasks.isFalsy then return .nothing
  match tasks with
  | .list items =>
    let sorted ← byDueDate items
    return .table (← (sorted.mapM row).mapError .value)
  | _ => throw (.value (.noAttribute tasks.typeName "sort".toList))

/-- What is shown if there are no tasks to list. -/
def nothingListed : Text := "\nNo tasks found.".toList

/-- The question before all tasks are deleted, or that there are none. -/
def askToClear (folder : Folder) : Except StoreFault Text := do
  let tasks ← load folder
  if tasks.isFalsy then return "\nNo tasks found to delete.".toList
  else return ("This will delete all tasks from the database. " ++
    "Do you want to proceed? (Yes/No)").toList

/-- Deletes all tasks. -/
def clear (folder : Folder) : Folder × Except StoreFault Text :=
  let (folder, result) := save folder (.list [])
  (folder, result.map fun _ => "All tasks successfully deleted.".toList)

end TypeSurvey.Task
