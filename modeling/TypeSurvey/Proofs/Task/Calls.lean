import TypeSurvey.Proofs.Task.Records

/-!
# Failed calls keep the file

The operations on the store are calls. Those that change the tasks work out a document first and
write it last. Whatever the file holds, a document that was worked out can be written: it consists
of values that were loaded, of values that the caller gave, and of numbers. So only a file that
cannot be opened is left to fail, and a call that fails leaves the folder as it was.
-/

namespace TypeSurvey.Task

open Document

/-- The calls on the store. -/
inductive Call
  | load
  | add (description dueDate category : Value)
  | list
  | remove (id : Value)
  | askToClear
  | clear

/-- What a call returns. -/
inductive Answer
  | tasks (document : Value)
  | listing (shown : Listing)
  | message (text : Text)

/-- A message as the answer of a call. -/
def answered (result : Folder × Except StoreFault Text) : Folder × Except StoreFault Answer :=
  (result.1, result.2.map .message)

namespace Call

/-- Makes a call: the folder after it, and what it returns. -/
def run (folder : Folder) : Call → Folder × Except StoreFault Answer
  | load => (folder, (Task.load folder).map .tasks)
  | add description dueDate category => answered (Task.add folder description dueDate category)
  | list => (folder, (Task.list folder).map .listing)
  | remove id => answered (Task.remove folder id)
  | askToClear => (folder, (Task.askToClear folder).map .message)
  | clear => answered (Task.clear folder)

/-- Whether the values that a call puts into a document can be written. -/
def Accepted : Call → Prop
  | add description dueDate category =>
    Accepts description ∧ Accepts dueDate ∧ Accepts category
  | _ => True

end Call

/-- The document that a change makes of the tasks. -/
def changed (folder : Folder) (change : Value → Except TypeSurvey.Fault Value) :
    Except StoreFault Value :=
  load folder >>= fun tasks => (change tasks).mapError .value

/-- The document that a call writes, unless it fails before. -/
def Call.document? (folder : Folder) : Call → Option Value
  | add description dueDate category =>
    (changed folder (append description dueDate category)).toOption
  | remove id => (changed folder (without id)).toOption
  | clear => some (.list [])
  | _ => none

theorem changed_eq_ok {folder : Folder} {change : Value → Except TypeSurvey.Fault Value}
    {document : Value} :
    changed folder change = .ok document ↔
      ∃ tasks, load folder = .ok tasks ∧ change tasks = .ok document := by
  simp only [changed, bind_eq_ok, mapError_eq_ok]

theorem update_of_error {folder : Folder} {change : Value → Except TypeSurvey.Fault Value}
    {fault : StoreFault} (failed : changed folder change = .error fault) (message : Text) :
    update folder change message = (folder, .error fault) := by
  have steps : (load folder >>= fun tasks => (change tasks).mapError .value) = .error fault :=
    failed
  simp only [update, steps]

theorem update_of_ok {folder : Folder} {change : Value → Except TypeSurvey.Fault Value}
    {document : Value} (worked : changed folder change = .ok document) (message : Text) :
    update folder change message =
      ((save folder document).1, (save folder document).2.map fun _ => message) := by
  have steps : (load folder >>= fun tasks => (change tasks).mapError .value) = .ok document :=
    worked
  simp only [update, steps]

/-! ## Changes -/

theorem append_eq_ok {description dueDate category tasks document : Value}
    (appended : append description dueDate category tasks = .ok document) :
    ∃ items, tasks = .list items ∧
      document = .list (items ++ [taskOf (items.length + 1) description dueDate category]) := by
  obtain ⟨count, counted, rest⟩ := bind_eq_ok.mp appended
  split at rest
  case h_1 items =>
      obtain rfl : items.length = count := Except.ok.inj counted
      exact ⟨items, rfl, (Except.ok.inj rest).symm⟩
  case h_2 => simp [throw, throwThe, MonadExceptOf.throw] at rest

/-- What is left without a number are some of the items, numbered anew. All items have a number. -/
theorem without_eq_ok {id tasks document : Value} (removed : without id tasks = .ok document) :
    ∃ items kept, tasks.iterate = .ok items ∧ kept.Sublist items ∧
      document = .list (numbered 1 kept) ∧
        ∀ item ∈ items, ∃ number, field "id" item = .ok number := by
  obtain ⟨items, iterated, rest⟩ := bind_eq_ok.mp removed
  obtain ⟨kept, filtered, rest⟩ := bind_eq_ok.mp rest
  obtain ⟨keep, rfl, tested⟩ := exists_of_filterM filtered
  refine ⟨items, items.filter keep, iterated, List.filter_sublist, (Except.ok.inj rest).symm, ?_⟩
  intro item member
  obtain ⟨number, found, -⟩ := bind_eq_ok.mp (tested item member)
  exact ⟨number, found⟩

/-! ## What is written can be written -/

/-- The items of a value of the format are those of a list, or texts. -/
theorem items_of_iterate {value : Value} {items : List Value} (loadable : Loadable value)
    (iterated : value.iterate = .ok items) :
    value = .list items ∨ ∀ item ∈ items, ∃ text, item = .ofWide text := by
  cases loadable with
  | list items each =>
    left
    exact congrArg Value.list (Except.ok.inj iterated)
  | str text =>
    right
    obtain rfl := Except.ok.inj iterated
    intro item member
    obtain ⟨letter, -, rfl⟩ := List.mem_map.mp member
    exact ⟨.whole [letter], rfl⟩
  | halved text =>
    right
    obtain rfl := Except.ok.inj iterated
    intro item member
    obtain ⟨point, -, rfl⟩ := List.mem_map.mp member
    exact ⟨.ofPoint point, rfl⟩
  | dict entries distinct each =>
    right
    obtain rfl := Except.ok.inj iterated
    intro item member
    obtain ⟨_, placed, rfl⟩ := List.mem_map.mp member
    obtain ⟨entry, -, rfl⟩ := List.mem_map.mp placed
    exact ⟨entry.1, rfl⟩
  | _ => nomatch iterated

theorem withId_wideKeyed (number : Nat) (entries : List (Text.Wide × Value)) :
    withId number (.dict (Value.wideKeyed entries)) =
      .dict (Value.wideKeyed (putNamed (.whole "id".toList) (.int number) entries)) :=
  congrArg Value.dict
    (Value.faithful_ofWide.putEntry_keyedBy (.whole "id".toList) (.int number) entries)

theorem storable_withId {real : Binary64 → Prop} {value : Value} (storable : Storable real value)
    {number : Nat} (countable : Countable number) : Storable real (withId number value) := by
  cases storable with
  | none => exact .none
  | bool value => exact .bool value
  | int value short => exact .int value short
  | float value allowed => exact .float value allowed
  | str text => exact .str text
  | halved text => exact .halved text
  | list items each => exact .list items each
  | dict entries distinct each =>
    rw [withId_wideKeyed]
    refine .dict _ (nodup_putNamed _ _ distinct) fun entry member => ?_
    rcases mem_putNamed member with rfl | old
    · exact .int number countable
    · exact each entry old

theorem storable_numbered {real : Binary64 → Prop} {values : List Value}
    (each : ∀ value ∈ values, Storable real value) {first : Nat}
    (limited : first + values.length ≤ 10 ^ maxIntegerDigits) :
    ∀ value ∈ numbered first values, Storable real value := by
  induction values generalizing first with
  | nil => simp [numbered]
  | cons value values induction =>
    rw [List.length_cons, Nat.add_comm _ 1, ← Nat.add_assoc] at limited
    have smaller := Nat.lt_of_lt_of_le (Nat.lt_succ_self _) (Nat.le_of_add_right_le limited)
    have later := induction
      (fun value member => each value (List.mem_cons_of_mem _ member)) limited
    exact List.forall_mem_cons.mpr
      ⟨storable_withId (each value List.mem_cons_self) smaller, later⟩

theorem accepts_taskOf {number : Nat} (countable : Countable number)
    {description dueDate category : Value} (first : Accepts description) (second : Accepts dueDate)
    (third : Accepts category) : Accepts (taskOf number description dueDate category) := by
  have written : Accepts (.int number) :=
    (Storable.int number countable : Loadable (.int number)).accepts
  have entries : Accepts (.dict (Value.wideKeyed [(.whole "id".toList, .int number),
      (.whole "description".toList, description), (.whole "due_date".toList, dueDate),
      (.whole "category".toList, category)])) := by
    refine accepts_wideKeyed fun entry member => ?_
    simp only [List.mem_cons, List.not_mem_nil, or_false] at member
    rcases member with rfl | rfl | rfl | rfl
    · exact written
    · exact first
    · exact second
    · exact third
  exact entries

section Documents

variable {tasks document : Value}

theorem accepts_append (loadable : Loadable tasks)
    (room : ∀ items, tasks = .list items → Countable (items.length + 1))
    {description dueDate category : Value} (first : Accepts description) (second : Accepts dueDate)
    (third : Accepts category)
    (appended : append description dueDate category tasks = .ok document) : Accepts document := by
  obtain ⟨items, rfl, rfl⟩ := append_eq_ok appended
  cases loadable with
  | list _ each =>
    refine accepts_list fun item member => ?_
    rcases List.mem_append.mp member with old | new
    · exact (each item old).accepts
    · rw [List.mem_singleton.mp new]
      exact accepts_taskOf (room items rfl) first second third

theorem accepts_without (loadable : Loadable tasks)
    (room : ∀ items, tasks = .list items → Countable (items.length + 1)) {id : Value}
    (removed : without id tasks = .ok document) : Accepts document := by
  obtain ⟨items, kept, iterated, sublist, rfl, fields⟩ := without_eq_ok removed
  rcases items_of_iterate loadable iterated with rfl | texts
  · cases loadable with
    | list _ each =>
      have countable := room items rfl
      have shorter := sublist.length_le
      have limited : 1 + kept.length ≤ 10 ^ maxIntegerDigits := by
        unfold Countable at countable
        omega
      have storable := storable_numbered (fun value member => each value (sublist.subset member))
        limited
      exact accepts_list fun item member => (storable item member).accepts
  · -- A text has no field, so there was none.
    cases items with
    | nil =>
      rw [List.sublist_nil.mp sublist]
      exact accepts_list (by simp [numbered])
    | cons item items =>
      obtain ⟨text, rfl⟩ := texts item List.mem_cons_self
      obtain ⟨number, found⟩ := fields _ List.mem_cons_self
      cases text <;> nomatch found

end Documents

/-! ## Failures -/

/-- A document that can be written fails to be saved only where a directory stands in the way, and
nothing has changed then. -/
theorem save_eq_error {folder after : Folder} {document : Value} {fault : StoreFault}
    (accepts : Accepts document) (failed : save folder document = (after, .error fault)) :
    after = folder ∧ fault = .write ⟨.isDirectory, storePath⟩ ∧ ¬ Accessible folder := by
  by_cases accessible : Accessible folder
  · obtain ⟨written, opened, -⟩ := writeText_storePath accessible (encode document).text
    have faultless : (encode document).fault = none := accepts
    simp only [save, opened, faultless, Prod.mk.injEq, reduceCtorEq, and_false] at failed
  · have closed : folder.writeText storePath (encode document).text =
        .error ⟨.isDirectory, storePath⟩ := by
      rw [Folder.writeText, Folder.write, locate_storePath]
      have occupied : folder.isDirectory [storePath] = true := by
        simpa [Accessible] using accessible
      change (if folder.isDirectory [storePath] = true then _ else _) = _
      rw [occupied]
      rfl
    simp only [save, closed, Prod.mk.injEq, Except.error.injEq] at failed
    exact ⟨failed.1.symm, failed.2.symm, accessible⟩

/-- A change to what is returned changes no failure. -/
theorem eq_error_of_map {α β : Type} {result : Folder × Except StoreFault α} {change : α → β}
    {after : Folder} {fault : StoreFault}
    (failed : (result.1, result.2.map change) = (after, .error fault)) :
    result = (after, .error fault) := by
  obtain ⟨folders, results⟩ := Prod.mk.inj failed
  exact Prod.ext folders (map_eq_error.mp results)

theorem update_eq_error {folder after : Folder} {change : Value → Except TypeSurvey.Fault Value}
    {message : Text} {fault : StoreFault}
    (accepts : ∀ document, changed folder change = .ok document → Accepts document)
    (failed : update folder change message = (after, .error fault)) :
    after = folder ∧ ((changed folder change).toOption ≠ none →
      fault = .write ⟨.isDirectory, storePath⟩ ∧ ¬ Accessible folder) := by
  cases worked : changed folder change with
  | error early =>
    rw [update_of_error worked] at failed
    exact ⟨(Prod.mk.inj failed).1.symm, fun written => absurd rfl written⟩
  | ok document =>
    rw [update_of_ok worked] at failed
    obtain ⟨same, cause⟩ := save_eq_error (accepts document worked) (eq_error_of_map failed)
    exact ⟨same, fun _ => cause⟩

theorem clear_eq_error {folder after : Folder} {fault : StoreFault}
    (failed : clear folder = (after, .error fault)) :
    after = folder ∧ fault = .write ⟨.isDirectory, storePath⟩ ∧ ¬ Accessible folder :=
  save_eq_error (accepts_list (by simp)) (eq_error_of_map failed)

/-- Whatever the file holds, a call that fails leaves the folder as it was. If the call had a
document to write, it failed because a directory stands in the place of the file; so no call fails
once the file is open. The numbers of the tasks must not outgrow what can be written. -/
theorem failed_call_keeps_folder {folder after : Folder} {call : Call} {fault : StoreFault}
    (accepted : call.Accepted)
    (room : ∀ items, load folder = .ok (.list items) → Countable (items.length + 1))
    (failed : call.run folder = (after, .error fault)) :
    after = folder ∧ (call.document? folder ≠ none →
      fault = .write ⟨.isDirectory, storePath⟩ ∧ ¬ Accessible folder) := by
  cases call with
  | add description dueDate category =>
    obtain ⟨first, second, third⟩ := accepted
    refine update_eq_error (fun document worked => ?_) (eq_error_of_map failed)
    obtain ⟨tasks, loaded, appended⟩ := changed_eq_ok.mp worked
    refine accepts_append (loadable_of_load loaded) ?_ first second third appended
    rintro items rfl
    exact room items loaded
  | remove id =>
    refine update_eq_error (fun document worked => ?_) (eq_error_of_map failed)
    obtain ⟨tasks, loaded, removed⟩ := changed_eq_ok.mp worked
    refine accepts_without (loadable_of_load loaded) ?_ removed
    rintro items rfl
    exact room items loaded
  | clear =>
    obtain ⟨same, cause⟩ := clear_eq_error (eq_error_of_map failed)
    exact ⟨same, fun _ => cause⟩
  | load => exact ⟨(Prod.mk.inj failed).1.symm, fun written => absurd rfl written⟩
  | list => exact ⟨(Prod.mk.inj failed).1.symm, fun written => absurd rfl written⟩
  | askToClear => exact ⟨(Prod.mk.inj failed).1.symm, fun written => absurd rfl written⟩

/-- A folder whose file holds a list of other things than tasks. -/
def mixedFolder : Folder := ⟨[([storePath], Text.encodeUtf8 "[null, [5]]".toList)]⟩

/-- A folder with a directory in the place of the file. -/
def blockedFolder : Folder := ⟨[([storePath, ['a']], [])]⟩

theorem failed_call_keeps_mixed_and_blocked :
    (∃ after fault, (Call.remove (.int 1)).run mixedFolder = (after, .error fault) ∧
      after = mixedFolder) ∧
    ∃ after fault, Call.clear.run blockedFolder = (after, .error fault) ∧ after = blockedFolder ∧
      fault = .write ⟨.isDirectory, storePath⟩ := by
  have mixed : load mixedFolder = .ok (.list [.none, .list [.int 5]]) := rfl
  have removal : (Call.remove (.int 1)).run mixedFolder =
      (mixedFolder, .error (.value (.notSubscriptable "NoneType".toList))) := by
    rw [Call.run, Task.remove, update, mixed]
    rfl
  have clearing : Call.clear.run blockedFolder =
      (blockedFolder, .error (.write ⟨.isDirectory, storePath⟩)) := rfl
  have room : ∀ items, load mixedFolder = .ok (.list items) → Countable (items.length + 1) := by
    intro items loaded
    obtain rfl := Value.list.inj (Except.ok.inj (mixed.symm.trans loaded))
    decide +kernel
  have unread : ∀ items, load blockedFolder = .ok (.list items) → Countable (items.length + 1) :=
    fun items loaded => nomatch loaded
  have accepted : (Call.remove (.int 1)).Accepted ∧ Call.clear.Accepted := ⟨trivial, trivial⟩
  refine ⟨⟨_, _, removal, (failed_call_keeps_folder accepted.1 room removal).1⟩, _, _, clearing, ?_⟩
  obtain ⟨same, cause⟩ := failed_call_keeps_folder accepted.2 unread clearing
  exact ⟨same, (cause (by simp [Call.document?])).1⟩

end TypeSurvey.Task
