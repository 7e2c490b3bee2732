import TypeSurvey.Proofs.Task.Removal

/-!
# Removals commute

Every removal numbers the remaining tasks anew, so that the second of two removals goes by other
numbers than the first. Removals of two tasks in either order leave the same file, if the later task
is removed by the number that it has at that time. Numbers that no task has remove nothing, and this
holds for them as well.
-/

namespace TypeSurvey.Task

open Document

/-! ## Places -/

theorem eraseIdx_eraseIdx {α : Type} (items : List α) {first second : Nat}
    (order : first ≤ second) :
    (items.eraseIdx first).eraseIdx second = (items.eraseIdx (second + 1)).eraseIdx first := by
  induction items generalizing first second with
  | nil => rfl
  | cons item items induction =>
    cases first with
    | zero => rfl
    | succ first =>
      obtain ⟨second, rfl⟩ : ∃ lower, second = lower + 1 := ⟨second - 1, by omega⟩
      exact congrArg (List.cons item) (induction (Nat.le_of_succ_le_succ order))

theorem removeAt_of_pos {α : Type} (items : List α) {number : Int} (positive : 1 ≤ number) :
    removeAt number items = items.eraseIdx (number - 1).toNat := by
  rw [removeAt_eq_eraseIdx]
  exact if_pos positive

theorem removeAt_removeAt {α : Type} (items : List α) {first second : Int} (positive : 1 ≤ first)
    (order : first ≤ second) :
    removeAt second (removeAt first items) = removeAt first (removeAt (second + 1) items) := by
  have next : (second + 1 - 1).toNat = (second - 1).toNat + 1 := by omega
  have places : (first - 1).toNat ≤ (second - 1).toNat := by omega
  rw [removeAt_of_pos _ positive, removeAt_of_pos _ (positive.trans order),
    removeAt_of_pos _ positive, removeAt_of_pos _ (by omega), next]
  exact eraseIdx_eraseIdx items places

/-! ## Numbers -/

theorem putEntry_putEntry {key : Value} (same : key.equals key = true) (old new : Value)
    (entries : List (Value × Value)) :
    Value.putEntry key new (Value.putEntry key old entries) = Value.putEntry key new entries := by
  induction entries with
  | nil => simp [Value.putEntry, same]
  | cons entry entries induction =>
    cases here : entry.1.equals key <;> simp [Value.putEntry, here, induction]

theorem get?_putEntry_self {key : Value} (same : key.equals key = true) (value : Value)
    (entries : List (Value × Value)) :
    Value.get? key (Value.putEntry key value entries) = some value := by
  induction entries with
  | nil => simp [Value.putEntry, Value.get?, same]
  | cons entry entries induction =>
    cases here : entry.1.equals key <;> simp [Value.putEntry, Value.get?, here, induction]

theorem withId_withId (number other : Nat) (value : Value) :
    withId number (withId other value) = withId number value := by
  cases value with
  | dict entries => exact congrArg Value.dict (putEntry_putEntry rfl _ _ entries)
  | _ => rfl

theorem field_id_withId {value id : Value} (found : field "id" value = .ok id) (number : Nat) :
    field "id" (withId number value) = .ok (.int number) := by
  cases value with
  | dict entries =>
    have put : Value.field? "id".toList (Value.putEntry (.ofString "id") (.int number) entries) =
        some (.int number) := get?_putEntry_self rfl _ entries
    simp only [withId, field, put]
  | _ => cases found

theorem numbered_congr {left right : List Value}
    (same : List.Forall₂ (fun left right => ∀ number, withId number left = withId number right)
      left right) (first : Nat) : numbered first left = numbered first right := by
  induction same generalizing first with
  | nil => rfl
  | cons here _ induction => rw [numbered, numbered, here, induction]

theorem forall₂_numbered (first : Nat) (values : List Value) :
    List.Forall₂ (fun left right => ∀ number, withId number left = withId number right)
      (numbered first values) values := by
  induction values generalizing first with
  | nil => exact .nil
  | cons value values induction =>
    exact .cons (fun number => withId_withId number first value) (induction (first + 1))

/-- Two removals number the tasks that are left as one numbering does. -/
theorem numbered_removeAt_numbered (number : Int) (values : List Value) :
    numbered 1 (removeAt number (numbered 1 values)) = numbered 1 (removeAt number values) :=
  numbered_congr (forall₂_removeAt (forall₂_numbered 1 values) number) 1

theorem mem_of_mem_removeAt {α : Type} {number : Int} {items : List α} {item : α}
    (member : item ∈ removeAt number items) : item ∈ items := by
  unfold removeAt at member
  split_ifs at member
  · exact List.mem_of_mem_eraseIdx member
  · exact member

theorem idsFrom_numbered {first : Nat} {values : List Value}
    (each : ∀ value ∈ values, ∃ id, field "id" value = .ok id) :
    IdsFrom first (numbered first values) := by
  induction values generalizing first with
  | nil => simp [IdsFrom, numbered]
  | cons value values induction =>
    obtain ⟨⟨id, found⟩, rest⟩ := List.forall_mem_cons.mp each
    exact IdsFrom.cons_iff.mpr ⟨field_id_withId found first, induction rest⟩

/-- Numbers that were loaded can be written, and so can the number of tasks that have them. -/
theorem IdsFrom.countable {real : Binary64 → Prop} {values : List Value} (ids : IdsFrom 1 values)
    (storable : ∀ value ∈ values, Storable real value) : Countable values.length := by
  rcases eq_or_ne values [] with rfl | nonempty
  · exact Nat.pow_pos (by decide)
  · have last : (values.getLast nonempty, values.length) ∈ values.zipIdx 1 := by
      rw [List.mk_mem_zipIdx_iff_le_and_getElem?_sub, ← List.getLast?_eq_getElem?,
        List.getLast?_eq_some_getLast nonempty]
      exact ⟨List.length_pos_iff.mpr nonempty, rfl⟩
    cases storable_of_field (storable _ (List.getLast_mem nonempty)) (ids _ last) with
    | int _ short => exact short

/-! ## The file -/

/-- A folder with a document in the file of the tasks. -/
def stored (folder : Folder) (document : Value) : Folder :=
  ⟨putNamed [storePath] (Text.encodeUtf8 (encode document).text) folder.files⟩

theorem putFile_putFile (place : Path) (old new : Text.Bytes) (files : List (Path × Text.Bytes)) :
    putNamed place new (putNamed place old files) = putNamed place new files := by
  induction files with
  | nil => simp [putNamed]
  | cons entry files induction =>
    by_cases here : entry.1 = place <;> simp [putNamed, here, induction]

theorem stored_stored (folder : Folder) (old new : Value) :
    stored (stored folder old) new = stored folder new :=
  congrArg Folder.mk (putFile_putFile _ _ _ folder.files)

theorem read_stored (folder : Folder) (document : Value) :
    (stored folder document).read storePath = .ok (Text.encodeUtf8 (encode document).text) := by
  rw [Folder.read, locate_storePath, ok_bind, stored, Folder.file?_putFile]
  rfl

theorem eq_stored_of_save {folder after : Folder} {document : Value}
    (saved : save folder document = (after, .ok ())) : after = stored folder document := by
  unfold save at saved
  cases written : folder.writeText storePath (encode document).text with
  | error fault => simp [written] at saved
  | ok opened =>
    simp only [written, Prod.mk.injEq] at saved
    obtain ⟨place, located, -, rfl⟩ := Folder.write_eq_ok written
    obtain rfl := Except.ok.inj (located.symm.trans (locate_storePath folder))
    exact saved.1.symm

/-- After a removal the file holds the tasks that are left, numbered anew. -/
theorem remove_of_idsFrom {folder : Folder} {items : List Value} (accessible : Accessible folder)
    (loaded : load folder = .ok (.list items)) (ids : IdsFrom 1 items) (number : Int) :
    ∃ after, remove folder (.int number) = (after, .ok "\nTask removed successfully!".toList) ∧
      after = stored folder (.list (numbered 1 (removeAt number items))) ∧ Accessible after ∧
      load after = .ok (.list (numbered 1 (removeAt number items))) ∧
      IdsFrom 1 (numbered 1 (removeAt number items)) := by
  have each : ∀ item ∈ items, Rounded item := by
    cases rounded_of_load loaded with
    | list _ each => exact each
  have limited : 1 + (removeAt number items).length ≤ 10 ^ maxIntegerDigits := by
    have countable := ids.countable each
    have shorter := length_removeAt_le number items
    unfold Countable at countable
    omega
  have rounded : Rounded (.list (numbered 1 (removeAt number items))) :=
    .list _ (storable_numbered (fun item member => each item (mem_of_mem_removeAt member)) limited)
  have worked : changed folder (without (.int number)) =
      .ok (.list (numbered 1 (removeAt number items))) :=
    changed_eq_ok.mpr ⟨.list items, loaded, ids.without_eq number⟩
  obtain ⟨after, saved, still, again⟩ := load_of_save_rounded accessible rounded
  refine ⟨after, ?_, eq_stored_of_save saved, still, again, idsFrom_numbered fun item member => ?_⟩
  · rw [remove, update_of_ok worked, saved]
    rfl
  · obtain ⟨index, found⟩ := ids.exists_of_mem (mem_of_mem_removeAt member)
    exact ⟨_, found⟩

/-- After two removals the file holds the tasks that are left of both, numbered once. -/
theorem remove_remove_of_idsFrom {folder : Folder} {items : List Value}
    (accessible : Accessible folder) (loaded : load folder = .ok (.list items))
    (ids : IdsFrom 1 items) (first second : Int) :
    ∃ between after, remove folder (.int first) =
        (between, .ok "\nTask removed successfully!".toList) ∧
      remove between (.int second) = (after, .ok "\nTask removed successfully!".toList) ∧
      after = stored folder (.list (numbered 1 (removeAt second (removeAt first items)))) := by
  obtain ⟨between, removed, rfl, accessible, loaded, ids⟩ :=
    remove_of_idsFrom accessible loaded ids first
  obtain ⟨after, again, rfl, -⟩ := remove_of_idsFrom accessible loaded ids second
  refine ⟨_, _, removed, again, ?_⟩
  rw [stored_stored, numbered_removeAt_numbered]

/-- Removals commute. If the file holds tasks that are numbered by their places, the removal of one
number and then of one that is not less leaves the same folder as the removal of the next number
after the second one and then of the first. No removal fails, and the file holds the tasks without
the two, numbered anew. -/
theorem removals_commute {folder : Folder} {items : List Value} (accessible : Accessible folder)
    (loaded : load folder = .ok (.list items)) (ids : IdsFrom 1 items) {first second : Int}
    (positive : 1 ≤ first) (order : first ≤ second) :
    ∃ lower upper after message,
      remove folder (.int first) = (lower, .ok message) ∧
      remove lower (.int second) = (after, .ok message) ∧
      remove folder (.int (second + 1)) = (upper, .ok message) ∧
      remove upper (.int first) = (after, .ok message) ∧
      after.read storePath = .ok (Text.encodeUtf8
        (encode (.list (numbered 1 (removeAt first (removeAt (second + 1) items))))).text) := by
  obtain ⟨lower, after, removed, again, left⟩ :=
    remove_remove_of_idsFrom accessible loaded ids first second
  obtain ⟨upper, other, removed', again', right⟩ :=
    remove_remove_of_idsFrom accessible loaded ids (second + 1) first
  obtain rfl : after = other := by rw [left, right, removeAt_removeAt items positive order]
  refine ⟨lower, upper, after, _, removed, again, removed', again', ?_⟩
  rw [right]
  exact read_stored folder _

theorem removals_commute_crossed :
    (∃ lower upper after message,
      remove crossedFolder (.int 1) = (lower, .ok message) ∧
      remove lower (.int 2) = (after, .ok message) ∧
      remove crossedFolder (.int 3) = (upper, .ok message) ∧
      remove upper (.int 1) = (after, .ok message) ∧
      after.read storePath = .ok (Text.encodeUtf8 (encode (.list [.dict (Value.keyed
        [("due_date".toList, .str "2024-01-05".toList), ("category".toList, .none),
          ("id".toList, .int 1), ("description".toList, .str ['b']), (['x'], .dict [])])])).text)) ∧
    ∃ lower upper after message,
      remove crossedFolder (.int 3) = (lower, .ok message) ∧
      remove lower (.int 3) = (after, .ok message) ∧
      remove crossedFolder (.int 4) = (upper, .ok message) ∧
      remove upper (.int 3) = (after, .ok message) := by
  obtain ⟨after, saved, accessible, loaded⟩ :=
    load_of_save_rounded (show Accessible Folder.empty by decide) rounded_crossedTasks
  have same : crossedFolder = after := congrArg Prod.fst saved
  rw [← same] at accessible loaded
  have ids : IdsFrom 1 crossedTasks := fun entry member =>
    (listableFrom_crossedTasks entry member).id
  refine ⟨?_, ?_⟩
  · have order : (1 : Int) ≤ 1 ∧ (1 : Int) ≤ 2 := by decide
    exact removals_commute accessible loaded ids order.1 order.2
  · have order : (1 : Int) ≤ 3 ∧ (3 : Int) ≤ 3 := by decide
    obtain ⟨lower, upper, after, message, removed, again, removed', again', -⟩ :=
      removals_commute accessible loaded ids order.1 order.2
    exact ⟨lower, upper, after, message, removed, again, removed', again'⟩

end TypeSurvey.Task
