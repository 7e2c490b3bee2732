import TypeSurvey.Proofs.Calendar.Order
import TypeSurvey.Proofs.Sorting
import TypeSurvey.Proofs.Task.Calls
import TypeSurvey.Proofs.Task.Listing

/-!
# Removal by the number that is listed

Tasks are listed by their due dates and removed by their numbers. The number in a row is that of the
task in the row: once it is removed, the same rows are listed without that one, in the same order,
and the tasks after it in the file have moved up by one number.

Sorting is what has to be followed here. The tasks of the file are numbered by their places, and
those that are left are numbered anew; neither changes a due date, so both commute with the sort.
-/

namespace TypeSurvey.Task

open Document

/-- Whether a value is the task of a number that can be listed: it has a description, a due date
that is a date, and a category. These may be any values, and there may be other entries. -/
structure IsListable (number : Nat) (value : Value) : Prop where
  id : field "id" value = .ok (.int number)
  description : ∃ content, field "description" value = .ok content
  dueDate : ∃ text date,
    field "due_date" value = .ok (.str text) ∧ Calendar.Date.parse text = .ok date
  category : ∃ content, field "category" value = .ok content

/-- Whether values can be listed and are numbered by their places, from a number on. -/
def ListableFrom (first : Nat) (values : List Value) : Prop :=
  ∀ entry ∈ values.zipIdx first, IsListable entry.2 entry.1

def Listing.ofRows (rows : List (List Value)) : Listing :=
  if rows.isEmpty then .nothing else .table rows

/-- The number that a task has after the task of a number is removed. -/
def numberAfter (removed number : Nat) : Nat := if removed < number then number - 1 else number

/-- The row that a task has after the task of a number is removed. -/
def rowAfter (removed : Nat) : List Value → List Value
  | .int number :: cells => .int (if removed < number then number - 1 else number) :: cells
  | cells => cells

/-- The due date of a value, if it has one. -/
def dateOf (value : Value) : Calendar.Date :=
  match dueDate value with
  | .ok date => date
  | .error _ => ⟨0, 0, 0⟩

/-- The number of a value, if it has one. -/
def numberOf (value : Value) : Nat :=
  match field "id" value with
  | .ok (.int number) => number.toNat
  | _ => 0

/-- A task after the task of a number is removed. -/
def taskAfter (removed : Nat) (value : Value) : Value :=
  withId (numberAfter removed (numberOf value)) value

/-! ## Tasks with other numbers -/

theorem field_wideKeyed (name : String) (entries : List (Text.Wide × Value)) :
    field name (.dict (Value.wideKeyed entries)) =
      match entries.lookup (.whole name.toList) with
      | some content => .ok content
      | none => .error (.missingKey (.ofString name)) := by
  have found : Value.field? name.toList (Value.wideKeyed entries) =
      entries.lookup (.whole name.toList) :=
    Value.faithful_ofWide.get?_keyedBy (.whole name.toList) entries
  cases known : entries.lookup (.whole name.toList) <;> simp only [field, found, known]

theorem exists_entries_of_field {real : Binary64 → Prop} {value content : Value} {name : String}
    (storable : Storable real value) (found : field name value = .ok content) :
    ∃ entries, value = .dict (Value.wideKeyed entries) := by
  cases storable with
  | dict entries distinct each => exact ⟨entries, rfl⟩
  | _ => nomatch found

theorem field_withId {real : Binary64 → Prop} {value content : Value} {name : String}
    (storable : Storable real value) (found : field name value = .ok content) (number : Nat) :
    field name (withId number value) = .ok (if name = "id" then .int number else content) := by
  obtain ⟨entries, rfl⟩ := exists_entries_of_field storable found
  rw [withId_wideKeyed, field_wideKeyed, lookup_putNamed]
  by_cases own : name = "id"
  · rw [if_pos (congrArg (Text.Wide.whole ·.toList) own), if_pos own]
  · have other : Text.Wide.whole name.toList ≠ .whole "id".toList :=
      fun same => own (String.toList_inj.mp (Text.Wide.whole.inj same))
    rw [if_neg other, if_neg own, ← field_wideKeyed]
    exact found

section Task

variable {number : Nat} {value : Value}

/-- The row of a task that can be listed begins with its number. -/
theorem IsListable.exists_row (task : IsListable number value) :
    ∃ description text category,
      row value = .ok [.int number, description, .str text, category] := by
  obtain ⟨description, second⟩ := task.description
  obtain ⟨text, date, third, -⟩ := task.dueDate
  obtain ⟨category, fourth⟩ := task.category
  exact ⟨description, text, category, row_of_fields task.id second third fourth⟩

theorem IsListable.row_eq (task : IsListable number value) : row value = .ok (rowOf value) := by
  obtain ⟨description, text, category, made⟩ := task.exists_row
  rw [rowOf, made]

theorem IsListable.dueDate_eq (task : IsListable number value) :
    Task.dueDate value = .ok (dateOf value) := by
  obtain ⟨text, date, found, parsed⟩ := task.dueDate
  have dated : Task.dueDate value = .ok date := by
    rw [Task.dueDate, found]
    exact congrArg (Except.mapError StoreFault.date) parsed
  rw [dateOf, dated]

theorem IsListable.hasId_eq (task : IsListable number value) (other : Nat) :
    hasId other value = ((number : Int) == (other : Int)) :=
  hasId_of_field task.id other

theorem IsListable.numberOf_eq (task : IsListable number value) : numberOf value = number := by
  rw [numberOf, task.id]
  rfl

/-- A task under another number has the same due date and the same row but for the number. -/
theorem IsListable.withId {real : Binary64 → Prop} (task : IsListable number value)
    (storable : Storable real value) (other : Nat) :
    IsListable other (withId other value) ∧ dateOf (Task.withId other value) = dateOf value ∧
      rowOf (Task.withId other value) = .int other :: (rowOf value).tail := by
  obtain ⟨description, second⟩ := task.description
  obtain ⟨text, date, third, parsed⟩ := task.dueDate
  obtain ⟨category, fourth⟩ := task.category
  have first' := field_withId storable task.id other
  have second' := field_withId storable second other
  have third' := field_withId storable third other
  have fourth' := field_withId storable fourth other
  refine ⟨⟨first', ⟨_, second'⟩, ⟨text, date, third', parsed⟩, ⟨_, fourth'⟩⟩, ?_, ?_⟩
  · rw [dateOf, dateOf, Task.dueDate, Task.dueDate, third, third']
    rfl
  · rw [rowOf, rowOf, row_of_fields first' second' third' fourth',
      row_of_fields task.id second third fourth]
    rfl

theorem storable_of_field {real : Binary64 → Prop} {content : Value} {name : String}
    (storable : Storable real value) (found : field name value = .ok content) :
    Storable real content := by
  cases storable with
  | dict entries distinct each =>
    rw [field_wideKeyed] at found
    split at found
    · next known =>
        obtain rfl := Except.ok.inj found
        obtain ⟨front, back, rfl, -⟩ := List.lookup_eq_some_iff.mp known
        exact each (.whole name.toList, _) (by simp)
    · simp at found
  | _ => nomatch found

/-- A task can be saved with the number that it has after a removal. -/
theorem IsListable.storable_taskAfter {real : Binary64 → Prop} (task : IsListable number value)
    (storable : Storable real value) (removed : Nat) :
    Storable real (taskAfter removed value) := by
  have countable : Countable number := by
    cases storable_of_field storable task.id with
    | int _ short => exact short
  refine storable_withId storable (Nat.lt_of_le_of_lt ?_ countable)
  rw [task.numberOf_eq, numberAfter]
  split_ifs
  · exact Nat.sub_le number 1
  · exact Nat.le_refl number

theorem IsListable.taskAfter_eq {real : Binary64 → Prop} (task : IsListable number value)
    (storable : Storable real value) (removed : Nat) :
    IsListable (numberAfter removed number) (taskAfter removed value) ∧
      dateOf (taskAfter removed value) = dateOf value ∧
        rowOf (taskAfter removed value) = rowAfter removed (rowOf value) := by
  obtain ⟨listable, date, cells⟩ := task.withId storable (numberAfter removed number)
  obtain ⟨description, text, category, made⟩ := task.exists_row
  rw [taskAfter, task.numberOf_eq]
  refine ⟨listable, date, ?_⟩
  have same : ((numberAfter removed number : Nat) : Int) =
      if (removed : Int) < number then (number : Int) - 1 else number := by
    unfold numberAfter
    split_ifs <;> omega
  rw [cells, rowOf, made, rowAfter, same]
  rfl

end Task

/-! ## Numbered tasks -/

theorem ListableFrom.cons_iff {first : Nat} {value : Value} {values : List Value} :
    ListableFrom first (value :: values) ↔
      IsListable first value ∧ ListableFrom (first + 1) values := by
  simp only [ListableFrom, List.zipIdx_cons, List.forall_mem_cons]

theorem ListableFrom.exists_of_mem {first : Nat} {values : List Value}
    (tasks : ListableFrom first values) {value : Value} (member : value ∈ values) :
    ∃ number, first ≤ number ∧ IsListable number value := by
  induction values generalizing first with
  | nil => simp at member
  | cons other values induction =>
    obtain ⟨task, rest⟩ := ListableFrom.cons_iff.mp tasks
    rcases List.mem_cons.mp member with rfl | later
    · exact ⟨first, Nat.le_refl first, task⟩
    · obtain ⟨number, bound, found⟩ := induction rest later
      exact ⟨number, Nat.le_of_succ_le bound, found⟩

theorem ListableFrom.pairwise {first : Nat} {values : List Value}
    (tasks : ListableFrom first values) (number : Nat) :
    values.Pairwise fun left right => ¬ (hasId number left = true ∧ hasId number right = true) := by
  induction values generalizing first with
  | nil => exact .nil
  | cons value values induction =>
    obtain ⟨task, rest⟩ := ListableFrom.cons_iff.mp tasks
    refine .cons (fun other member => ?_) (induction rest)
    obtain ⟨later, bound, found⟩ := rest.exists_of_mem member
    rw [task.hasId_eq, found.hasId_eq, beq_iff_eq, beq_iff_eq]
    omega

/-- Behind the task that is removed, every number is one less. -/
theorem numbered_eq_map_of_le {removed first : Nat} {values : List Value}
    (tasks : ListableFrom (first + 1) values) (behind : removed ≤ first) :
    numbered first values = values.map (taskAfter removed) := by
  induction values generalizing first with
  | nil => rfl
  | cons value values induction =>
    obtain ⟨task, rest⟩ := ListableFrom.cons_iff.mp tasks
    have moved : numberAfter removed (first + 1) = first := if_pos (by omega)
    rw [numbered, induction rest (by omega), List.map_cons, taskAfter, task.numberOf_eq, moved]

theorem filter_hasId_of_lt {removed first : Nat} {values : List Value}
    (tasks : ListableFrom first values) (behind : removed < first) :
    values.filter (fun value => !hasId removed value) = values := by
  refine List.filter_eq_self.mpr fun value member => ?_
  obtain ⟨number, bound, task⟩ := tasks.exists_of_mem member
  rw [task.hasId_eq]
  simp
  omega

/-- The tasks that are left are numbered by their places as before, but for those behind the task
that is removed. -/
theorem numbered_filter {removed first : Nat} {values : List Value}
    (tasks : ListableFrom first values) (present : first ≤ removed) :
    numbered first (values.filter fun value => !hasId removed value) =
      (values.filter fun value => !hasId removed value).map (taskAfter removed) := by
  induction values generalizing first with
  | nil => rfl
  | cons value values induction =>
    obtain ⟨task, rest⟩ := ListableFrom.cons_iff.mp tasks
    by_cases found : first = removed
    · have gone : ¬ (!hasId removed value) = true := by
        rw [task.hasId_eq, found]
        simp
      rw [List.filter_cons, if_neg gone, filter_hasId_of_lt rest (by omega)]
      exact numbered_eq_map_of_le rest (by omega)
    · have kept : (!hasId removed value) = true := by
        rw [task.hasId_eq]
        simpa using found
      have same : numberAfter removed first = first := if_neg (by omega)
      rw [List.filter_cons, if_pos kept, numbered, induction rest (by omega), List.map_cons,
        taskAfter, task.numberOf_eq, same]

/-! ## Sorted tasks -/

/-- Values in the order of their due dates. -/
def inOrder (values : List Value) : List Value :=
  values.mergeSort fun left right => (dateOf left).le (dateOf right)

theorem byDate_map_dateOf (values : List Value) :
    byDate (values.map dateOf) values = inOrder values := by
  have sorted : (values.mergeSort fun left right => (dateOf left).le (dateOf right)).map
      (fun value => (dateOf value, value)) =
        (values.map fun value => (dateOf value, value)).mergeSort
          fun left right => left.1.le right.1 :=
    List.map_mergeSort fun _ _ _ _ => rfl
  have zipped : (values.map dateOf).zip values = values.map fun value => (dateOf value, value) := by
    have both : (values.map dateOf).zip (values.map id) = _ := List.zip_map'
    rwa [List.map_id] at both
  rw [byDate, zipped, ← sorted, List.map_map, inOrder]
  exact List.map_id _

theorem filter_inOrder (keep : Value → Bool) (values : List Value) :
    (inOrder values).filter keep = inOrder (values.filter keep) := by
  unfold inOrder
  refine filter_mergeSort ?_ ?_ keep values
  · exact fun _ _ _ => Calendar.Date.le_trans
  · exact fun left right => Calendar.Date.le_total (dateOf left) (dateOf right)

/-- A change that keeps the due dates can be made before or after sorting. -/
theorem map_inOrder {change : Value → Value} {values : List Value}
    (kept : ∀ value ∈ values, dateOf (change value) = dateOf value) :
    (inOrder values).map change = inOrder (values.map change) := by
  refine List.map_mergeSort fun left leftMember right rightMember => ?_
  rw [kept left leftMember, kept right rightMember]

theorem mem_inOrder {value : Value} {values : List Value} :
    value ∈ inOrder values ↔ value ∈ values :=
  List.mem_mergeSort

theorem ofRows_inOrder {values : List Value} (present : values ≠ []) :
    Listing.ofRows ((inOrder values).map rowOf) = .table ((inOrder values).map rowOf) := by
  obtain ⟨value, member⟩ := List.exists_mem_of_ne_nil values present
  refine if_neg ?_
  rw [List.isEmpty_iff, List.map_eq_nil_iff]
  exact List.ne_nil_of_mem (mem_inOrder.mpr member)

theorem list_of_listable {folder : Folder} {items : List Value}
    (loaded : load folder = .ok (.list items))
    (each : ∀ item ∈ items, ∃ number, IsListable number item) :
    list folder = .ok (.ofRows ((inOrder items).map rowOf)) := by
  cases items with
  | nil =>
    rw [list, loaded, inOrder, List.mergeSort_nil]
    rfl
  | cons item items =>
    have dated : (item :: items).mapM dueDate = .ok ((item :: items).map dateOf) := by
      refine mapM_of_forall fun value member => ?_
      obtain ⟨number, task⟩ := each value member
      exact task.dueDate_eq
    have made : (inOrder (item :: items)).mapM row = .ok ((inOrder (item :: items)).map rowOf) := by
      refine mapM_of_forall fun value member => ?_
      obtain ⟨number, task⟩ := each value (mem_inOrder.mp member)
      exact task.row_eq
    have shown : Listing.ofRows ((inOrder (item :: items)).map rowOf) =
        .table ((inOrder (item :: items)).map rowOf) := ofRows_inOrder (by simp)
    rw [list_of_load loaded, byDueDate_eq, dated]
    change (((byDate ((item :: items).map dateOf) (item :: items)).mapM row).mapError _).map _ = _
    rw [byDate_map_dateOf, made, shown]
    rfl

/-! ## Removal -/

/-- In a list with one item of a property, leaving out that item and leaving out its place are the
same. -/
theorem filter_eq_eraseIdx {α : Type} {test : α → Bool} {items : List α} {index : Nat} {item : α}
    (found : items[index]? = some item) (holds : test item = true)
    (unique : items.Pairwise fun left right => ¬ (test left = true ∧ test right = true)) :
    items.filter (fun item => !test item) = items.eraseIdx index := by
  induction items generalizing index with
  | nil => simp at found
  | cons first items induction =>
    obtain ⟨apart, rest⟩ := List.pairwise_cons.mp unique
    cases index with
    | zero =>
      obtain rfl : first = item := by simpa using found
      have others : items.filter (fun item => !test item) = items := by
        refine List.filter_eq_self.mpr fun other member => ?_
        simpa [holds] using apart other member
      rw [List.filter_cons, if_neg (by simp [holds]), others]
      rfl
    | succ index =>
      have later : items[index]? = some item := by simpa using found
      have kept : test first = false := by
        simpa [holds] using apart item (List.mem_of_getElem? later)
      rw [List.filter_cons, if_pos (by simp [kept]), induction later rest,
        List.eraseIdx_cons_succ]

section Removal

variable {folder : Folder} {items : List Value}

theorem without_of_listable (tasks : ListableFrom 1 items) {number : Nat} (positive : 1 ≤ number) :
    without (.int number) (.list items) =
      .ok (.list ((items.filter fun item => !hasId number item).map (taskAfter number))) := by
  have each : ∀ item ∈ items, ∃ id, field "id" item = .ok id := by
    intro item member
    obtain ⟨other, -, task⟩ := tasks.exists_of_mem member
    exact ⟨_, task.id⟩
  rw [without_of_ids each, numbered_filter tasks positive]

theorem remove_of_listable (accessible : Accessible folder)
    (loaded : load folder = .ok (.list items)) (tasks : ListableFrom 1 items) {number : Nat}
    (positive : 1 ≤ number) :
    ∃ after message, remove folder (.int number) = (after, .ok message) ∧
      load after =
        .ok (.list ((items.filter fun item => !hasId number item).map (taskAfter number))) := by
  have worked : changed folder (without (.int number)) =
      .ok (.list ((items.filter fun item => !hasId number item).map (taskAfter number))) :=
    changed_eq_ok.mpr ⟨.list items, loaded, without_of_listable tasks positive⟩
  have rounded : Rounded (.list ((items.filter fun item => !hasId number item).map
      (taskAfter number))) := by
    refine .list _ fun value member => ?_
    obtain ⟨item, kept, rfl⟩ := List.mem_map.mp member
    have old := (List.mem_filter.mp kept).1
    obtain ⟨other, -, task⟩ := tasks.exists_of_mem old
    cases rounded_of_load loaded with
    | list _ each => exact task.storable_taskAfter (each item old) number
  obtain ⟨after, saved, -, again⟩ := load_of_save_rounded accessible rounded
  refine ⟨after, "\nTask removed successfully!".toList, ?_, again⟩
  rw [remove, update_of_ok worked, saved]
  rfl

/-- The rows of the tasks that are left are those of all tasks without one. -/
theorem rows_after {real : Binary64 → Prop} (tasks : ListableFrom 1 items)
    (storable : ∀ item ∈ items, Storable real item) {index number : Nat} {item : Value}
    (found : (inOrder items)[index]? = some item) (task : IsListable number item) :
    (inOrder ((items.filter fun item => !hasId number item).map (taskAfter number))).map rowOf =
      (((inOrder items).map rowOf).eraseIdx index).map (rowAfter number) := by
  have after {value : Value} (member : value ∈ items) :
      dateOf (taskAfter number value) = dateOf value ∧
        rowOf (taskAfter number value) = rowAfter number (rowOf value) := by
    obtain ⟨other, -, task⟩ := tasks.exists_of_mem member
    exact (task.taskAfter_eq (storable value member) number).2
  have dates : ∀ value ∈ items.filter (fun item => !hasId number item),
      dateOf (taskAfter number value) = dateOf value :=
    fun value member => (after (List.mem_filter.mp member).1).1
  have unique : (inOrder items).Pairwise fun left right =>
      ¬ (hasId number left = true ∧ hasId number right = true) :=
    ((List.mergeSort_perm items _).pairwise_iff fun distinct both => distinct both.symm).mpr
      (tasks.pairwise number)
  have erased : (inOrder items).filter (fun item => !hasId number item) =
      (inOrder items).eraseIdx index := by
    refine filter_eq_eraseIdx found ?_ unique
    rw [task.hasId_eq]
    simp
  rw [← map_inOrder dates, ← filter_inOrder, erased, List.map_map, List.eraseIdx_map,
    List.map_map]
  refine List.map_congr_left fun value member => ?_
  exact (after (mem_inOrder.mp (List.mem_of_mem_eraseIdx member))).2

end Removal

/-- The number that is listed identifies the task that is removed. If the file holds tasks that are
numbered by their places and have due dates that are dates, they are listed in a table. For each of
its rows the task of the number in the row can be removed. What is listed then is the table without
that row: the others in the same order, and unchanged but for the numbers behind it, which are one
less. -/
theorem listed_number_removes_row {folder : Folder} {items : List Value}
    (accessible : Accessible folder) (loaded : load folder = .ok (.list items))
    (present : items ≠ []) (tasks : ListableFrom 1 items) :
    ∃ rows, list folder = .ok (.table rows) ∧ rows.length = items.length ∧
      ∀ (index : Nat) (cells : List Value), rows[index]? = some cells →
        ∃ (number : Nat) (description : Value) (dueDate : Text) (category : Value),
          cells = [.int number, description, .str dueDate, category] ∧
          ∃ after message, remove folder (.int number) = (after, .ok message) ∧
            list after = .ok (.ofRows ((rows.eraseIdx index).map (rowAfter number))) := by
  have storable : ∀ item ∈ items, Rounded item := by
    cases rounded_of_load loaded with
    | list _ each => exact each
  refine ⟨(inOrder items).map rowOf, ?_, ?_, ?_⟩
  · have each : ∀ item ∈ items, ∃ number, IsListable number item :=
      fun item member => (tasks.exists_of_mem member).imp fun _ => And.right
    rw [list_of_listable loaded each, ofRows_inOrder present]
  · rw [List.length_map, inOrder, List.length_mergeSort]
  · intro index cells shown
    rw [List.getElem?_map] at shown
    obtain ⟨item, found, rfl⟩ := Option.map_eq_some_iff.mp shown
    have member : item ∈ items := mem_inOrder.mp (List.mem_of_getElem? found)
    obtain ⟨number, positive, task⟩ := tasks.exists_of_mem member
    obtain ⟨description, text, category, made⟩ := task.exists_row
    obtain ⟨after, message, removed, again⟩ :=
      remove_of_listable accessible loaded tasks positive
    have each : ∀ value ∈ (items.filter fun item => !hasId number item).map (taskAfter number),
        ∃ other, IsListable other value := by
      intro value member
      obtain ⟨old, kept, rfl⟩ := List.mem_map.mp member
      have known := (List.mem_filter.mp kept).1
      obtain ⟨other, -, task⟩ := tasks.exists_of_mem known
      exact ⟨_, (task.taskAfter_eq (storable old known) number).1⟩
    refine ⟨number, description, text, category, ?_, after, message, removed, ?_⟩
    · rw [rowOf, made]
    · rw [list_of_listable again each, rows_after tasks storable found task]

/-- One tenth as it is rounded. -/
def tenth : Binary64 := .finite false 7205759403792794 (-56)

/-- Tasks out of the order of their dates, two of them on one day. -/
def crossedTasks : List Value :=
  [.dict (Value.keyed [("id".toList, .int 1), ("description".toList, .list [.float tenth]),
      ("due_date".toList, .str "2024-3-01".toList), ("category".toList, .str ['a'])]),
    .dict (Value.keyed [("due_date".toList, .str "2024-01-05".toList), ("category".toList, .none),
      ("id".toList, .int 2), ("description".toList, .str ['b']), (['x'], .dict [])]),
    .dict (Value.keyed [("id".toList, .int 3), ("description".toList, .str ['c']),
      ("due_date".toList, .str "2024-03-1".toList), ("category".toList, .str [])])]

/-- A folder with these tasks. -/
def crossedFolder : Folder := (save Folder.empty (.list crossedTasks)).1

theorem rounded_crossedTasks : Rounded (.list crossedTasks) := by
  have small (number : Int) (digit : number.natAbs < 10) : Rounded (.int number) :=
    .int number (digit.trans (by decide +kernel))
  refine .list _ fun task member => ?_
  simp only [crossedTasks, List.mem_cons, List.not_mem_nil, or_false] at member
  rcases member with rfl | rfl | rfl
  · refine .keyed (by decide) (List.forall_mem_cons.mpr ⟨small 1 (by decide), ?_⟩)
    refine List.forall_mem_cons.mpr ⟨.list _ fun item member => ?_, ?_⟩
    · rw [List.mem_singleton.mp member]
      exact .float _ ⟨by decide, by decide, by decide, .inl (by decide)⟩
    · simp [Storable.str]
  · have nothing : Rounded (.dict []) := .dict [] List.nodup_nil (by simp)
    refine .keyed (by decide) ?_
    simp [Storable.str, Storable.none, small 2 (by decide), nothing]
  · refine .keyed (by decide) ?_
    simp [Storable.str, small 3 (by decide)]

theorem listableFrom_crossedTasks : ListableFrom 1 crossedTasks := by
  refine ListableFrom.cons_iff.mpr ⟨?_, ListableFrom.cons_iff.mpr ⟨?_,
    ListableFrom.cons_iff.mpr ⟨?_, by simp [ListableFrom]⟩⟩⟩
  · exact ⟨rfl, ⟨_, rfl⟩, ⟨_, _, rfl, rfl⟩, ⟨_, rfl⟩⟩
  · exact ⟨rfl, ⟨_, rfl⟩, ⟨_, _, rfl, rfl⟩, ⟨_, rfl⟩⟩
  · exact ⟨rfl, ⟨_, rfl⟩, ⟨_, _, rfl, rfl⟩, ⟨_, rfl⟩⟩

theorem listed_number_removes_row_crossed :
    ∃ rows, list crossedFolder = .ok (.table rows) ∧ rows.length = 3 ∧
      ∃ (number : Nat) (description : Value) (dueDate : Text) (category : Value),
        rows[1]? = some [.int number, description, .str dueDate, category] ∧
        ∃ after message, remove crossedFolder (.int number) = (after, .ok message) ∧
          list after = .ok (.ofRows ((rows.eraseIdx 1).map (rowAfter number))) := by
  obtain ⟨after, saved, accessible, loaded⟩ :=
    load_of_save_rounded (show Accessible Folder.empty by decide) rounded_crossedTasks
  have same : crossedFolder = after := congrArg Prod.fst saved
  rw [← same] at accessible loaded
  obtain ⟨rows, shown, count, each⟩ := listed_number_removes_row accessible loaded
    (by simp [crossedTasks]) listableFrom_crossedTasks
  have second : 1 < rows.length := by
    rw [count]
    decide
  obtain ⟨number, description, dueDate, category, cells, removal⟩ :=
    each 1 (rows.get ⟨1, second⟩) (List.getElem?_eq_getElem second)
  refine ⟨rows, shown, count, number, description, dueDate, category, ?_, removal⟩
  rw [← cells]
  exact List.getElem?_eq_getElem second

end TypeSurvey.Task
