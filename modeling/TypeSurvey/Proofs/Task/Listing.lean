import TypeSurvey.Proofs.Task.Records

/-!
# What is listed

If the file holds records, what is listed depends on them alone: on the dates that their texts
denote, and on their places. The first text that is no date is the fault; otherwise there is a row
for each record, in the order of the dates and of the places among equal dates.
-/

namespace TypeSurvey.Task

def Record.row (number : Nat) (record : Record) : List Value :=
  [.int number, .str record.description, .str record.dueDate, .str record.category]

/-- The rows of records, with the numbers from a number on. -/
def rowsFrom (first : Nat) : List Record → List (List Value)
  | [] => []
  | record :: records => record.row first :: rowsFrom (first + 1) records

def Record.date (record : Record) : Except StoreFault Calendar.Date :=
  (Calendar.Date.parse record.dueDate).mapError .date

/-- Items in the order of their dates. Items of one date keep their order. -/
def byDate {α : Type} (dates : List Calendar.Date) (items : List α) : List α :=
  ((dates.zip items).mergeSort fun left right => left.1.le right.1).map Prod.snd

def listing (records : List Record) : Except StoreFault Listing :=
  if records.isEmpty then .ok .nothing
  else (records.mapM Record.date).map fun dates => .table (byDate dates (rowsFrom 1 records))

/-! ## Single tasks -/

/-- Whether a value is the task of a number that says what a record says. There may be other
entries. -/
structure Says (number : Nat) (record : Record) (value : Value) : Prop where
  id : field "id" value = .ok (.int number)
  description : field "description" value = .ok (.str record.description)
  dueDate : field "due_date" value = .ok (.str record.dueDate)
  category : field "category" value = .ok (.str record.category)

theorem IsTask.says {number : Nat} {record : Record} {value : Value}
    (task : IsTask number record value) : Says number record value where
  id := task.id_eq
  description := task.field_eq (by simp [Record.entries])
  dueDate := task.field_eq (by simp [Record.entries])
  category := task.field_eq (by simp [Record.entries])

theorem row_of_fields {value id description dueDate category : Value}
    (first : field "id" value = .ok id) (second : field "description" value = .ok description)
    (third : field "due_date" value = .ok dueDate)
    (fourth : field "category" value = .ok category) :
    row value = .ok [id, description, dueDate, category] := by
  rw [row, List.mapM_cons, List.mapM_cons, List.mapM_cons, List.mapM_cons, first, second, third,
    fourth]
  rfl

/-- The row of a value, if it has one. -/
def rowOf (value : Value) : List Value :=
  match row value with
  | .ok cells => cells
  | .error _ => []

section Task

variable {number : Nat} {record : Record} {value : Value}

theorem Says.dueDate_eq (task : Says number record value) :
    Task.dueDate value = record.date := by
  rw [Task.dueDate, task.dueDate]
  rfl

theorem Says.row_eq (task : Says number record value) : row value = .ok (record.row number) :=
  row_of_fields task.id task.description task.dueDate task.category

theorem Says.rowOf_eq (task : Says number record value) : rowOf value = record.row number := by
  rw [rowOf, task.row_eq]

end Task

/-! ## Numbered tasks -/

/-- Whether values say what records say, and are numbered by their places from a number on. -/
def SaysFrom (first : Nat) (records : List Record) (values : List Value) : Prop :=
  List.Forall₂ (fun entry value => Says entry.2 entry.1 value) (records.zipIdx first) values

theorem Numbered.saysFrom {first : Nat} {records : List Record} {values : List Value}
    (tasks : Numbered first records values) : SaysFrom first records values := by
  induction tasks with
  | nil => exact .nil
  | cons task _ induction => exact .cons task.says induction

namespace SaysFrom

variable {first : Nat} {record : Record} {records : List Record} {values : List Value}

theorem nil_iff : SaysFrom first [] values ↔ values = [] :=
  List.forall₂_nil_left_iff

theorem cons_iff : SaysFrom first (record :: records) values ↔
    ∃ value rest, Says first record value ∧ SaysFrom (first + 1) records rest ∧
      values = value :: rest :=
  List.forall₂_cons_left_iff

theorem exists_of_mem (tasks : SaysFrom first records values) {value : Value}
    (member : value ∈ values) : ∃ number record, Says number record value := by
  obtain ⟨index, bound, rfl⟩ := List.mem_iff_getElem.mp member
  exact ⟨_, _, tasks.get (by rwa [tasks.length_eq]) bound⟩

theorem map_rowOf (tasks : SaysFrom first records values) :
    values.map rowOf = rowsFrom first records := by
  induction records generalizing first values with
  | nil =>
    rw [nil_iff.mp tasks]
    rfl
  | cons record records induction =>
    obtain ⟨value, rest, task, others, rfl⟩ := cons_iff.mp tasks
    rw [List.map_cons, task.rowOf_eq, induction others, rowsFrom]

theorem mapM_dueDate (tasks : SaysFrom first records values) :
    values.mapM dueDate = records.mapM Record.date := by
  induction records generalizing first values with
  | nil =>
    rw [nil_iff.mp tasks]
    rfl
  | cons record records induction =>
    obtain ⟨value, rest, task, others, rfl⟩ := cons_iff.mp tasks
    rw [List.mapM_cons, List.mapM_cons, task.dueDate_eq, induction others]

end SaysFrom

/-! ## Sorting -/

theorem map_byDate {α β : Type} (change : α → β) (dates : List Calendar.Date) (items : List α) :
    (byDate dates items).map change = byDate dates (items.map change) := by
  have sorted : ((dates.zip items).mergeSort fun left right => left.1.le right.1).map
      (Prod.map id change) = ((dates.zip items).map (Prod.map id change)).mergeSort
        fun left right => left.1.le right.1 :=
    List.map_mergeSort fun _ _ _ _ => rfl
  rw [byDate, byDate, List.zip_map_right, ← sorted, List.map_map, List.map_map]
  rfl

theorem mem_of_mem_byDate {α : Type} {dates : List Calendar.Date} {items : List α} {item : α}
    (member : item ∈ byDate dates items) : item ∈ items := by
  obtain ⟨⟨date, _⟩, placed, rfl⟩ := List.mem_map.mp member
  exact (List.of_mem_zip (List.mem_mergeSort.mp placed)).2

theorem byDueDate_eq (tasks : List Value) :
    byDueDate tasks = (tasks.mapM dueDate).map fun dates => byDate dates tasks := by
  rw [byDueDate]
  cases tasks.mapM dueDate <;> rfl

theorem list_of_load {folder : Folder} {item : Value} {items : List Value}
    (loaded : load folder = .ok (.list (item :: items))) :
    list folder = byDueDate (item :: items) >>= fun sorted =>
      ((sorted.mapM row).mapError .value).map .table := by
  rw [list, loaded]
  rfl

theorem list_of_says {folder : Folder} {records : List Record} {items : List Value}
    (loaded : load folder = .ok (.list items)) (tasks : SaysFrom 1 records items) :
    list folder = listing records := by
  have made : ∀ dates, (byDate dates items).mapM row = .ok (byDate dates (rowsFrom 1 records)) := by
    intro dates
    rw [← tasks.map_rowOf, ← map_byDate]
    refine mapM_of_forall fun value member => ?_
    obtain ⟨number, record, task⟩ := tasks.exists_of_mem (mem_of_mem_byDate member)
    rw [task.row_eq, task.rowOf_eq]
  have dated := tasks.mapM_dueDate
  cases records with
  | nil =>
    rw [SaysFrom.nil_iff.mp tasks] at loaded
    rw [list, loaded]
    rfl
  | cons record records =>
    obtain ⟨value, values, -, -, rfl⟩ := SaysFrom.cons_iff.mp tasks
    rw [list_of_load loaded, byDueDate_eq, dated, listing]
    cases (record :: records).mapM Record.date with
    | error fault => rfl
    | ok dates =>
      change (((byDate dates (value :: values)).mapM row).mapError _).map _ = _
      rw [made dates]
      rfl

theorem list_of_holds {folder : Folder} {records : List Record} (holds : Holds folder records) :
    list folder = listing records := by
  obtain ⟨-, items, loaded, tasks⟩ := holds
  exact list_of_says loaded tasks.saysFrom

end TypeSurvey.Task
