import TypeSurvey.Proofs.Task.Persistence

/-!
# Tasks as records

A record is what a task says: a description, a due date and a category. The file holds records if
what is loaded from it is a list of one dictionary for each of them, in their order, with the
numbers from one on. The entries of a dictionary may stand in any order.
-/

namespace TypeSurvey.Task

open Document

/-- What a task says. -/
structure Record where
  description : Text
  /-- The due date, as it was given. -/
  dueDate : Text
  category : Text
deriving DecidableEq, Repr

/-- The entries of the task of a number. -/
def Record.entries (number : Nat) (record : Record) : List (Text × Value) :=
  [("id".toList, .int number), ("description".toList, .str record.description),
    ("due_date".toList, .str record.dueDate), ("category".toList, .str record.category)]

/-- Whether a value is the task of a number that says what a record says. -/
def IsTask (number : Nat) (record : Record) (value : Value) : Prop :=
  ∃ entries, value = .dict (Value.keyed entries) ∧ entries.Perm (record.entries number)

/-- Whether values are the tasks of records, with the numbers from a number on. -/
inductive Numbered : Nat → List Record → List Value → Prop where
  | nil (number : Nat) : Numbered number [] []
  | cons {number : Nat} {record : Record} {value : Value} {records : List Record}
      {values : List Value} (task : IsTask number record value)
      (rest : Numbered (number + 1) records values) :
      Numbered number (record :: records) (value :: values)

/-- Whether the file holds records: they are what is loaded, in their order and numbered from one
on. Without a file there are none. -/
def Holds (folder : Folder) (records : List Record) : Prop :=
  Accessible folder ∧ ∃ items, load folder = .ok (.list items) ∧ Numbered 1 records items

/-- Whether so many tasks can be numbered: the digits of an integer that is written are limited. -/
def Countable (count : Nat) : Prop := count < 10 ^ maxIntegerDigits

instance (count : Nat) : Decidable (Countable count) :=
  inferInstanceAs (Decidable (count < 10 ^ maxIntegerDigits))

/-! ## Single tasks -/

theorem nodup_of_perm_entries {number : Nat} {record : Record} {entries : List (Text × Value)}
    (order : entries.Perm (record.entries number)) : (entries.map Prod.fst).Nodup := by
  have known : ((record.entries number).map Prod.fst).Nodup := by simp [Record.entries]
  exact (order.map Prod.fst).nodup_iff.mpr known

theorem withId_keyed (number : Nat) (entries : List (Text × Value)) :
    withId number (.dict (Value.keyed entries)) =
      .dict (Value.keyed (putNamed "id".toList (.int number) entries)) :=
  congrArg Value.dict
    (Value.Faithful.putEntry_keyedBy Value.equals_str "id".toList (.int number) entries)

theorem isTask_taskOf (number : Nat) (record : Record) :
    IsTask number record
      (taskOf number (.str record.description) (.str record.dueDate) (.str record.category)) :=
  ⟨record.entries number, rfl, .refl _⟩

section Task

variable {number : Nat} {record : Record} {value : Value}

theorem IsTask.field_eq (task : IsTask number record value) {name : String} {content : Value}
    (member : (name.toList, content) ∈ record.entries number) : field name value = .ok content := by
  obtain ⟨entries, rfl, order⟩ := task
  have found : Value.field? name.toList (Value.keyed entries) = some content := by
    rw [Value.field?, Value.get?_keyed,
      lookup_of_mem (nodup_of_perm_entries order) (order.mem_iff.mpr member)]
  simp only [field, found]

theorem IsTask.id_eq (task : IsTask number record value) :
    field "id" value = .ok (.int number) :=
  task.field_eq (by simp [Record.entries])

theorem IsTask.withId (task : IsTask number record value) (other : Nat) :
    IsTask other record (withId other value) := by
  obtain ⟨entries, rfl, order⟩ := task
  refine ⟨putNamed "id".toList (.int other) entries, withId_keyed other entries, ?_⟩
  have distinct := nodup_of_perm_entries order
  rw [Record.entries] at order
  exact putNamed_perm (.int number) (.int other) distinct order

theorem IsTask.plain (task : IsTask number record value) (countable : Countable number) :
    Plain value := by
  obtain ⟨entries, rfl, order⟩ := task
  refine .keyed (nodup_of_perm_entries order) fun entry member => ?_
  have known := order.mem_iff.mp member
  simp only [Record.entries, List.mem_cons, List.not_mem_nil, or_false] at known
  obtain rfl | rfl | rfl | rfl := known
  · exact .int number countable
  · exact .str record.description
  · exact .str record.dueDate
  · exact .str record.category

end Task

/-! ## Numbered tasks -/

namespace Numbered

variable {first : Nat} {records : List Record} {values : List Value}

theorem length_eq (tasks : Numbered first records values) : values.length = records.length := by
  induction tasks with
  | nil => rfl
  | cons _ _ induction => simp [induction]

theorem forall₂ (tasks : Numbered first records values) :
    List.Forall₂ (fun record value => ∃ number, IsTask number record value) records values := by
  induction tasks with
  | nil => exact .nil
  | cons task _ induction => exact .cons ⟨_, task⟩ induction

theorem append {record : Record} {value : Value} (tasks : Numbered first records values)
    (task : IsTask (first + records.length) record value) :
    Numbered first (records ++ [record]) (values ++ [value]) := by
  induction tasks with
  | nil => exact .cons task (.nil _)
  | cons other _ induction =>
    rw [List.length_cons, Nat.add_comm _ 1, ← Nat.add_assoc] at task
    exact .cons other (induction task)

theorem plain (tasks : Numbered first records values)
    (limited : first + records.length ≤ 10 ^ maxIntegerDigits) : ∀ value ∈ values, Plain value := by
  induction tasks with
  | nil => simp
  | cons task _ induction =>
    rw [List.length_cons, Nat.add_comm _ 1, ← Nat.add_assoc] at limited
    have smaller := Nat.lt_of_lt_of_le (Nat.lt_succ_self _) (Nat.le_of_add_right_le limited)
    exact List.forall_mem_cons.mpr ⟨task.plain smaller, induction limited⟩

end Numbered

theorem numbered_of_forall₂ {records : List Record} {values : List Value}
    (related : List.Forall₂ (fun record value => ∃ number, IsTask number record value)
      records values) (first : Nat) : Numbered first records (numbered first values) := by
  induction related generalizing first with
  | nil => exact .nil first
  | cons task _ induction =>
    obtain ⟨number, task⟩ := task
    exact .cons (task.withId first) (induction (first + 1))

/-! ## Removal by number -/

/-- A list without its item of a number, counted from one. Other numbers remove nothing. -/
def removeAt {α : Type} (number : Int) (items : List α) : List α :=
  if 1 ≤ number ∧ number ≤ items.length then items.eraseIdx (number.toNat - 1) else items

theorem length_removeAt_le {α : Type} (number : Int) (items : List α) :
    (removeAt number items).length ≤ items.length := by
  unfold removeAt
  split_ifs
  · exact List.length_eraseIdx_le items _
  · exact Nat.le_refl _

theorem forall₂_eraseIdx {α β : Type} {relation : α → β → Prop} {left : List α} {right : List β}
    (related : List.Forall₂ relation left right) (index : Nat) :
    List.Forall₂ relation (left.eraseIdx index) (right.eraseIdx index) := by
  induction related generalizing index with
  | nil => exact .nil
  | cons first rest induction =>
    cases index with
    | zero => exact rest
    | succ index => exact .cons first (induction index)

theorem forall₂_removeAt {α β : Type} {relation : α → β → Prop} {left : List α} {right : List β}
    (related : List.Forall₂ relation left right) (number : Int) :
    List.Forall₂ relation (removeAt number left) (removeAt number right) := by
  unfold removeAt
  rw [related.length_eq]
  split_ifs
  · exact forall₂_eraseIdx related _
  · exact related

/-- Whether a value has an entry `id` that equals a number. -/
def hasId (number : Int) (value : Value) : Bool :=
  match field "id" value with
  | .ok id => id.equals (.int number)
  | .error _ => false

theorem hasId_of_field {number : Int} {value : Value} (found : field "id" value = .ok (.int number))
    (other : Int) : hasId other value = (number == other) := by
  rw [hasId, found]
  rfl

/-- Whether values have the numbers of their places, from a number on. -/
def IdsFrom (first : Nat) (values : List Value) : Prop :=
  ∀ entry ∈ values.zipIdx first, field "id" entry.1 = .ok (.int entry.2)

theorem IdsFrom.cons_iff {first : Nat} {value : Value} {values : List Value} :
    IdsFrom first (value :: values) ↔
      field "id" value = .ok (.int first) ∧ IdsFrom (first + 1) values := by
  simp only [IdsFrom, List.zipIdx_cons, List.forall_mem_cons]

theorem Numbered.idsFrom {first : Nat} {records : List Record} {values : List Value}
    (tasks : Numbered first records values) : IdsFrom first values := by
  induction tasks with
  | nil => simp [IdsFrom]
  | cons task _ induction => exact IdsFrom.cons_iff.mpr ⟨task.id_eq, induction⟩

theorem IdsFrom.exists_of_mem {first : Nat} {values : List Value} (ids : IdsFrom first values)
    {value : Value} (member : value ∈ values) :
    ∃ number : Nat, field "id" value = .ok (.int number) := by
  rw [← List.zipIdx_map_fst first values] at member
  obtain ⟨entry, found, rfl⟩ := List.mem_map.mp member
  exact ⟨entry.2, ids entry found⟩

/-- The tasks that do not have a number are all of them but the one at its place. -/
theorem IdsFrom.filter_hasId {first : Nat} {values : List Value} (ids : IdsFrom first values)
    (number : Int) :
    values.filter (fun value => !hasId number value) =
      if first ≤ number then values.eraseIdx (number - first).toNat else values := by
  induction values generalizing first with
  | nil => simp
  | cons value values induction =>
    obtain ⟨id, rest⟩ := IdsFrom.cons_iff.mp ids
    rw [List.filter_cons, hasId_of_field id, induction rest]
    obtain lower | rfl | upper := lt_trichotomy number first
    · have kept : (!((first : Int) == number)) = true := by
        simp
        omega
      rw [if_pos kept, if_neg (by omega), if_neg (by omega)]
    · simp
    · have kept : (!((first : Int) == number)) = true := by
        simp
        omega
      have index : (number - first).toNat = (number - (first + 1 : Nat)).toNat + 1 := by omega
      rw [if_pos kept, if_pos (by omega), if_pos (by omega), index, List.eraseIdx_cons_succ]

theorem removeAt_eq_eraseIdx {α : Type} (number : Int) (items : List α) :
    removeAt number items =
      if (1 : Nat) ≤ number then items.eraseIdx (number - (1 : Nat)).toNat else items := by
  unfold removeAt
  split_ifs with range positive positive
  · rw [show number.toNat - 1 = (number - (1 : Nat)).toNat by omega]
  · omega
  · rw [List.eraseIdx_of_length_le (by omega)]
  · rfl

/-- The document without a number has the tasks that do not have it, numbered anew. -/
theorem without_of_ids {items : List Value}
    (each : ∀ item ∈ items, ∃ id, field "id" item = .ok id) (number : Int) :
    without (.int number) (.list items) =
      .ok (.list (numbered 1 (items.filter fun value => !hasId number value))) := by
  have tested : items.filterM (fun task => do return !(← field "id" task).equals (.int number)) =
      .ok (items.filter fun value => !hasId number value) := by
    refine filterM_of_forall fun value member => ?_
    obtain ⟨id, found⟩ := each value member
    rw [hasId, found]
    rfl
  have steps : without (.int number) (.list items) =
      (items.filterM fun task => do return !(← field "id" task).equals (.int number)) >>=
        fun kept => .ok (.list (numbered 1 kept)) := rfl
  rw [steps, tested]
  rfl

/-- The document without the task of a number has the others, numbered anew. -/
theorem IdsFrom.without_eq {items : List Value} (ids : IdsFrom 1 items) (number : Int) :
    without (.int number) (.list items) = .ok (.list (numbered 1 (removeAt number items))) := by
  have each : ∀ item ∈ items, ∃ id, field "id" item = .ok id := by
    intro item member
    obtain ⟨index, found⟩ := ids.exists_of_mem member
    exact ⟨_, found⟩
  rw [without_of_ids each, ids.filter_hasId, removeAt_eq_eraseIdx]

end TypeSurvey.Task
