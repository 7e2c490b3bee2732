import TypeSurvey.Proofs.Task.Calls

/-!
# The store refines a list of records

A command is a call with texts for the fields and an integer for the number. On a list of records it
appends at the end, deletes by place, deletes everything, or changes nothing. If the file holds
records, it holds after a command what the command makes of them, and so after every run of
commands. The numbers of the tasks are therefore the places in the list at all times.
-/

namespace TypeSurvey.Task

open Document

/-- The calls with texts for the fields of a task and an integer for its number. -/
inductive Command
  | add (record : Record)
  | remove (number : Int)
  | list
  | askToClear
  | clear
deriving DecidableEq, Repr

namespace Command

def call : Command → Call
  | add record => .add (.str record.description) (.str record.dueDate) (.str record.category)
  | remove number => .remove (.int number)
  | list => .list
  | askToClear => .askToClear
  | clear => .clear

/-- What a command makes of a list of records. -/
def apply (records : List Record) : Command → List Record
  | add record => records ++ [record]
  | remove number => removeAt number records
  | clear => []
  | _ => records

theorem length_apply_le (records : List Record) (command : Command) :
    (command.apply records).length ≤ records.length + 1 := by
  cases command with
  | add record => simp [apply]
  | remove number => exact Nat.le_succ_of_le (length_removeAt_le number records)
  | clear => simp [apply]
  | list => exact Nat.le_succ _
  | askToClear => exact Nat.le_succ _

end Command

/-- The folder after calls, whether they return or fail. -/
def afterCalls (folder : Folder) (calls : List Call) : Folder :=
  calls.foldl (fun folder call => (call.run folder).1) folder

/-! ## Single operations -/

theorem Countable.of_le {small large : Nat} (countable : Countable large) (bound : small ≤ large) :
    Countable small :=
  Nat.lt_of_le_of_lt bound countable

theorem holds_of_missing {folder : Folder} (missing : folder.contains storePath = false) :
    Holds folder [] := by
  have parts : (folder.isDirectory [storePath] || (folder.file? [storePath]).isSome) = false := by
    rw [Folder.contains, locate_storePath] at missing
    exact missing
  refine ⟨(Bool.or_eq_false_iff.mp parts).1, [], ?_, .nil 1⟩
  rw [load, missing]
  rfl

theorem holds_of_start {folder : Folder} {records : List Record}
    (start : folder.contains storePath = false ∧ records = [] ∨ Holds folder records) :
    Holds folder records := by
  rcases start with ⟨missing, rfl⟩ | holds
  · exact holds_of_missing missing
  · exact holds

/-- A change to tasks that can be saved is in the file afterwards. -/
theorem holds_of_update {folder : Folder} (accessible : Accessible folder)
    {change : Value → Except TypeSurvey.Fault Value} {items : List Value} {records : List Record}
    (worked : changed folder change = .ok (.list items)) (tasks : Numbered 1 records items)
    (countable : Countable records.length) (message : Text) :
    ∃ after, update folder change message = (after, .ok message) ∧ Holds after records := by
  have limited : 1 + records.length ≤ 10 ^ maxIntegerDigits := by
    unfold Countable at countable
    omega
  have plain : Plain (.list items) := .list items (tasks.plain limited)
  obtain ⟨after, saved, still, loaded⟩ := load_of_save accessible plain
  refine ⟨after, ?_, still, items, loaded, tasks⟩
  rw [update_of_ok worked, saved]
  rfl

section Operations

variable {folder : Folder} {records : List Record}

theorem add_of_holds (holds : Holds folder records) (record : Record)
    (countable : Countable (records.length + 1)) :
    ∃ after message, add folder (.str record.description) (.str record.dueDate)
      (.str record.category) = (after, .ok message) ∧ Holds after (records ++ [record]) := by
  obtain ⟨accessible, items, loaded, tasks⟩ := holds
  let task := taskOf (items.length + 1) (.str record.description) (.str record.dueDate)
    (.str record.category)
  have worked : changed folder (append (.str record.description) (.str record.dueDate)
      (.str record.category)) = .ok (.list (items ++ [task])) :=
    changed_eq_ok.mpr ⟨.list items, loaded, rfl⟩
  have numbered : IsTask (1 + records.length) record task := by
    rw [← tasks.length_eq, Nat.add_comm]
    exact isTask_taskOf (items.length + 1) record
  have countable : Countable (records ++ [record]).length := by
    rw [List.length_append]
    exact countable
  obtain ⟨after, updated, holds⟩ :=
    holds_of_update accessible worked (tasks.append numbered) countable _
  exact ⟨after, _, updated, holds⟩

theorem remove_of_holds (holds : Holds folder records) (number : Int)
    (countable : Countable records.length) :
    ∃ after message, remove folder (.int number) = (after, .ok message) ∧
      Holds after (removeAt number records) := by
  obtain ⟨accessible, items, loaded, tasks⟩ := holds
  have worked : changed folder (without (.int number)) =
      .ok (.list (numbered 1 (removeAt number items))) :=
    changed_eq_ok.mpr ⟨.list items, loaded, tasks.idsFrom.without_eq number⟩
  have left : Numbered 1 (removeAt number records) (numbered 1 (removeAt number items)) :=
    numbered_of_forall₂ (forall₂_removeAt tasks.forall₂ number) 1
  obtain ⟨after, updated, holds⟩ := holds_of_update accessible worked left
    (countable.of_le (length_removeAt_le number records)) _
  exact ⟨after, _, updated, holds⟩

theorem askToClear_of_holds (holds : Holds folder records) :
    ∃ question, askToClear folder = .ok question := by
  obtain ⟨-, items, loaded, -⟩ := holds
  rw [askToClear, loaded]
  cases items with
  | nil => exact ⟨_, rfl⟩
  | cons item items => exact ⟨_, rfl⟩

theorem clear_of_accessible (accessible : Accessible folder) :
    ∃ after message, clear folder = (after, .ok message) ∧ Holds after [] := by
  have plain : Plain (.list []) := .list [] (by simp)
  obtain ⟨after, saved, still, loaded⟩ := load_of_save accessible plain
  refine ⟨after, "All tasks successfully deleted.".toList, ?_, still, [], loaded, .nil 1⟩
  rw [clear, saved]
  rfl

/-- What a command does to the file is what it does to the records. -/
theorem holds_run (holds : Holds folder records) (command : Command)
    (countable : Countable (records.length + 1)) :
    Holds (command.call.run folder).1 (command.apply records) := by
  cases command with
  | add record =>
    obtain ⟨after, message, added, holds⟩ := add_of_holds holds record countable
    rw [Command.call, Call.run, added]
    exact holds
  | remove number =>
    obtain ⟨after, message, removed, holds⟩ :=
      remove_of_holds holds number (countable.of_le (Nat.le_succ _))
    rw [Command.call, Call.run, removed]
    exact holds
  | clear =>
    obtain ⟨after, message, cleared, holds⟩ := clear_of_accessible holds.1
    rw [Command.call, Call.run, cleared]
    exact holds
  | list => exact holds
  | askToClear => exact holds

/-- What commands do to the file is what they do to the records. -/
theorem holds_afterCalls (holds : Holds folder records) (commands : List Command)
    (countable : Countable (records.length + commands.length)) :
    Holds (afterCalls folder (commands.map Command.call))
      (commands.foldl Command.apply records) := by
  induction commands generalizing folder records with
  | nil => exact holds
  | cons command commands induction =>
    rw [List.length_cons, Nat.add_comm commands.length, ← Nat.add_assoc] at countable
    have step := holds_run holds command (countable.of_le (Nat.le_add_right _ _))
    have bound := Nat.add_le_add_right (Command.length_apply_le records command) commands.length
    exact induction step (countable.of_le bound)

end Operations

/-! ## Runs -/

end TypeSurvey.Task
