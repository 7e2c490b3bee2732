import TypeSurvey.Proofs.Table.Grid
import TypeSurvey.Proofs.Task.Listing
import TypeSurvey.Proofs.Task.Refinement
import TypeSurvey.Task.Session
import Mathlib.Tactic.MkIffOfInductiveProp

/-!
# When the dashboard is drawn

A listing has a row for each task. The numbers and the due dates of the tasks can always be written.
The descriptions are a column of texts, and so are the categories; a column of texts cannot be
written if it has a name of a truth value and a real number, and no text that is neither. A task
that has the mark of a separating line for its description is such a line. If all tasks are, there
is no last row to draw.
-/

namespace TypeSurvey.Task

open Table (Mixed IsCell)

/-- The records that are no separating lines. -/
def rowRecords (records : List Record) : List Record :=
  records.filter fun record => record.description != Table.separatorMark

/-- Whether the dashboard of records can be drawn. -/
@[mk_iff]
structure Drawable (records : List Record) : Prop where
  nonempty : rowRecords records ≠ []
  /-- The descriptions can be written. -/
  descriptions : ¬ Mixed ((rowRecords records).map Record.description)
  /-- The categories can be written. -/
  categories : ¬ Mixed ((rowRecords records).map Record.category)

instance (records : List Record) : Decidable (Drawable records) :=
  decidable_of_iff' _ (drawable_iff records)

/-- Whether a dashboard can be drawn does not depend on the order of the records. -/
theorem drawable_of_perm {left right : List Record} (order : left.Perm right) :
    Drawable left ↔ Drawable right := by
  have rows : (rowRecords left).Perm (rowRecords right) := order.filter _
  have nonempty : rowRecords left = [] ↔ rowRecords right = [] := by
    rw [← List.length_eq_zero_iff, ← List.length_eq_zero_iff, rows.length_eq]
  rw [drawable_iff, drawable_iff, Ne, nonempty, Table.mixed_of_perm (rows.map _),
    Table.mixed_of_perm (rows.map _)]

/-! ## Due dates -/

theorem exists_digit_of_parse {text : Text} {date : Calendar.Date}
    (parsed : Calendar.Date.parse text = .ok date) :
    ∃ digit rest, text = digit :: rest ∧ Text.isDecimalDigit digit = true := by
  have some : (Calendar.year? text).isSome = true := by
    by_contra none
    rw [Bool.not_eq_true, Option.isSome_eq_false_iff, Option.isNone_iff_eq_none] at none
    rw [Calendar.Date.parse, Calendar.fields?, none] at parsed
    nomatch parsed
  match text with
  | first :: second :: third :: fourth :: rest =>
    refine ⟨first, _, rfl, ?_⟩
    by_contra other
    rw [Text.isDecimalDigit, Bool.not_eq_true, Option.isSome_eq_false_iff,
      Option.isNone_iff_eq_none] at other
    rw [Calendar.year?, other] at some
    nomatch some

theorem textKind_ne_truth_of_parse {text : Text} {date : Calendar.Date}
    (parsed : Calendar.Date.parse text = .ok date) : Table.textKind text ≠ .truth := by
  obtain ⟨digit, rest, rfl, decimal⟩ := exists_digit_of_parse parsed
  have shown : digit ≠ Text.escape := by
    rintro rfl
    revert decimal
    decide
  have first := Text.head?_visible shown rest
  intro truth
  have named : Text.visible (digit :: rest) = "True".toList ∨
      Text.visible (digit :: rest) = "False".toList := by
    by_contra other
    rw [Table.textKind, if_neg other] at truth
    split_ifs at truth
  rcases named with name | name
  · rw [name] at first
    obtain rfl : 'T' = digit := Option.some.inj first
    revert decimal
    decide
  · rw [name] at first
    obtain rfl : 'F' = digit := Option.some.inj first
    revert decimal
    decide

/-! ## The rows -/

/-- The row of a record with its number. -/
def entryRow (entry : Record × Nat) : List Value := entry.1.row entry.2

theorem rowsFrom_eq (first : Nat) (records : List Record) :
    rowsFrom first records = (records.zipIdx first).map entryRow := by
  induction records generalizing first with
  | nil => rfl
  | cons record records induction =>
    rw [rowsFrom, induction, List.zipIdx_cons, List.map_cons, entryRow]

section Entries

variable {entries : List (Record × Nat)}

theorem isSeparator_entryRow (entry : Record × Nat) :
    Table.isSeparator (entryRow entry) = (entry.1.description == Table.separatorMark) := by
  change (false || (entry.1.description == Table.separatorMark || false)) = _
  rw [Bool.false_or, Bool.or_false]

theorem isCell_of_mem_entryRow : ∀ row ∈ entries.map entryRow, ∀ cell ∈ row, IsCell cell := by
  intro row member cell inside
  obtain ⟨entry, -, rfl⟩ := List.mem_map.mp member
  simp only [entryRow, Record.row, List.mem_cons, List.not_mem_nil, or_false] at inside
  obtain rfl | rfl | rfl | rfl := inside <;> trivial

theorem length_of_mem_entryRow : ∀ row ∈ entries.map entryRow, row.length = 4 := by
  intro row member
  obtain ⟨entry, -, rfl⟩ := List.mem_map.mp member
  rfl

/-- The entries that are no separating lines. -/
def rowEntries (entries : List (Record × Nat)) : List (Record × Nat) :=
  entries.filter fun entry => entry.1.description != Table.separatorMark

theorem keptRows_entries :
    Table.keptRows (entries.map entryRow) = (rowEntries entries).map entryRow := by
  rw [Table.keptRows, List.filter_map, rowEntries]
  refine congrArg (List.map entryRow) (List.filter_congr fun entry _ => ?_)
  rw [Function.comp_apply, isSeparator_entryRow]
  rfl

theorem map_fst_rowEntries :
    (rowEntries entries).map Prod.fst = rowRecords (entries.map Prod.fst) := by
  rw [rowRecords, List.filter_map]
  rfl

/-- The columns of the numbers, the descriptions, the due dates and the categories. -/
theorem transpose_entries (nonempty : entries ≠ []) : Table.transpose (entries.map entryRow) =
    [(entries.map fun entry => (entry.2 : Int)).map .int,
      ((entries.map Prod.fst).map Record.description).map .str,
      ((entries.map Prod.fst).map Record.dueDate).map .str,
      ((entries.map Prod.fst).map Record.category).map .str] := by
  have rows : entries.map entryRow ≠ [] := by simpa using nonempty
  rw [Table.transpose_eq rows length_of_mem_entryRow]
  simp only [List.map_map]
  rfl

def dashboardHeaders : List Text := ["ID", "Task", "Due Date", "Category"].map String.toList

theorem dashboard_eq (rows : List (List Value)) :
    dashboard rows = Table.render (Table.gridOptions dashboardHeaders) (.list (rows.map .list)) :=
  rfl

/-- The rows of entries with dates are drawn if and only if their records can be. -/
theorem exists_dashboard_iff (nonempty : entries ≠ [])
    (dated : ∀ entry ∈ entries, ∃ date, Calendar.Date.parse entry.1.dueDate = .ok date) :
    (∃ table, dashboard (entries.map entryRow) = .ok table) ↔ Drawable (entries.map Prod.fst) := by
  have rows : entries.map entryRow ≠ [] := by simpa using nonempty
  have wide : dashboardHeaders ≠ [] := List.cons_ne_nil _ _
  simp only [dashboard_eq]
  rw [Table.exists_render_iff wide rows length_of_mem_entryRow isCell_of_mem_entryRow,
    keptRows_entries, drawable_iff, ← map_fst_rowEntries, Ne, Ne, List.map_eq_nil_iff,
    List.map_eq_nil_iff]
  refine and_congr_right fun kept => ?_
  -- No date is a name of a truth value, so that the due dates are never mixed.
  have dates : ¬ Mixed (((rowEntries entries).map Prod.fst).map Record.dueDate) := by
    rintro ⟨⟨text, member, truth⟩, -⟩
    obtain ⟨record, inside, rfl⟩ := List.mem_map.mp member
    obtain ⟨entry, place, rfl⟩ := List.mem_map.mp inside
    obtain ⟨date, parsed⟩ := dated entry (List.mem_of_mem_filter place)
    exact textKind_ne_truth_of_parse parsed truth
  rw [transpose_entries kept]
  simp only [List.forall_mem_cons, List.not_mem_nil, false_imp_iff, implies_true,
    Table.not_clashes_int, Table.clashes_str_iff, dates, not_false_eq_true, true_and, and_true]

end Entries

/-! ## The dashboard in a session -/

theorem byDate_perm {α : Type} {dates : List Calendar.Date} {items : List α}
    (same : dates.length = items.length) : (byDate dates items).Perm items := by
  have sorted := (List.mergeSort_perm (dates.zip items) fun left right => left.1.le right.1).map
    Prod.snd
  rwa [List.map_snd_zip same.ge] at sorted

theorem byDate_of_pairwise {α : Type} {dates : List Calendar.Date} {items : List α}
    (same : dates.length = items.length)
    (sorted : (dates.zip items).Pairwise fun left right => left.1.le right.1) :
    byDate dates items = items := by
  rw [byDate, List.mergeSort_of_pairwise sorted, List.map_snd_zip same.ge]

def dashboardTitle : Text := shownLines ["\nTask Manager Dashboard\n"]

/-- A choice to list the tasks shows them and goes on, or ends the session. -/
theorem session_list (folder : Folder) (lines : List Text) :
    session folder (['2'] :: lines) =
      match showTasks folder with
      | (output, .ok ()) => (session folder lines).after (menu ++ output)
      | (output, .error fault) => ⟨folder, menu ++ output, some fault⟩ := by
  rw [session.eq_def]
  rfl

section Session

variable {folder : Folder} {records : List Record} {rows : List (List Value)}

theorem session_of_drawn {table : Text} (listed : list folder = .ok (.table rows))
    (drawn : dashboard rows = .ok table) (lines : List Text) :
    session folder (['2'] :: lines) =
      (session folder lines).after (menu ++ (dashboardTitle ++ table ++ ['\n'])) := by
  rw [session_list, showTasks, listed]
  simp only [showListing, drawn]
  rfl

theorem session_of_not_drawn {fault : TypeSurvey.Fault} (listed : list folder = .ok (.table rows))
    (failed : dashboard rows = .error fault) (lines : List Text) :
    session folder (['2'] :: lines) = ⟨folder, menu ++ dashboardTitle, some (.value fault)⟩ := by
  rw [session_list, showTasks, listed]
  simp only [showListing, failed]
  rfl

theorem list_of_dates {dates : List Calendar.Date} (holds : Holds folder records)
    (nonempty : records ≠ []) (dated : records.mapM Record.date = .ok dates) :
    list folder = .ok (.table (byDate dates (rowsFrom 1 records))) := by
  have some : records.isEmpty = false := by simpa using nonempty
  rw [list_of_holds holds, listing, some, dated]
  rfl

theorem exists_entries_of_holds (holds : Holds folder records) (nonempty : records ≠ [])
    (dated : ∀ record ∈ records, ∃ date, Calendar.Date.parse record.dueDate = .ok date) :
    ∃ entries : List (Record × Nat), list folder = .ok (.table (entries.map entryRow)) ∧
      entries.Perm (records.zipIdx 1) := by
  have parsed : ∃ dates, records.mapM Record.date = .ok dates := by
    rw [exists_mapM_iff]
    intro record member
    obtain ⟨date, parsed⟩ := dated record member
    exact ⟨date, by rw [Record.date, parsed]; rfl⟩
  obtain ⟨dates, parsed⟩ := parsed
  have same : dates.length = (records.zipIdx 1).length := by
    rw [List.length_zipIdx]
    exact (mapM_eq_ok_iff.mp parsed).length_eq.symm
  refine ⟨byDate dates (records.zipIdx 1), ?_, byDate_perm same⟩
  rw [list_of_dates holds nonempty parsed, map_byDate, rowsFrom_eq]

section Order

variable {entries : List (Record × Nat)} (order : entries.Perm (records.zipIdx 1))

include order

theorem map_fst_perm : (entries.map Prod.fst).Perm records := by
  simpa using order.map Prod.fst

theorem entries_ne_nil (nonempty : records ≠ []) : entries ≠ [] := by
  rintro rfl
  exact nonempty (map_fst_perm order).nil_eq.symm

end Order

/-- Tasks with dates are listed, and the rows are drawn if and only if the records can be. -/
theorem exists_rows_of_holds (holds : Holds folder records) (nonempty : records ≠ [])
    (dated : ∀ record ∈ records, ∃ date, Calendar.Date.parse record.dueDate = .ok date) :
    ∃ rows, list folder = .ok (.table rows) ∧ rows.Perm (rowsFrom 1 records) ∧
      ((∃ table, dashboard rows = .ok table) ↔ Drawable records) := by
  obtain ⟨entries, listed, order⟩ := exists_entries_of_holds holds nonempty dated
  have same := map_fst_perm order
  have entryDates : ∀ entry ∈ entries, ∃ date, Calendar.Date.parse entry.1.dueDate = .ok date :=
    fun entry member => dated entry.1 (same.mem_iff.mp (List.mem_map_of_mem member))
  refine ⟨entries.map entryRow, listed, ?_, ?_⟩
  · rw [rowsFrom_eq]
    exact order.map entryRow
  · exact (exists_dashboard_iff (entries_ne_nil order nonempty) entryDates).trans
      (drawable_of_perm same)

/-- If all tasks have dates, they are listed, each in a row of its own. The dashboard of these rows
is drawn and the session goes on if the records can be drawn; otherwise the session ends there. -/
theorem dashboard_drawn_exactly (holds : Holds folder records) (nonempty : records ≠ [])
    (dated : ∀ record ∈ records, ∃ date, Calendar.Date.parse record.dueDate = .ok date) :
    ∃ rows, list folder = .ok (.table rows) ∧ rows.Perm (rowsFrom 1 records) ∧
      (Drawable records → ∃ table, dashboard rows = .ok table ∧ ∀ lines,
        session folder (['2'] :: lines) =
          (session folder lines).after (menu ++ (dashboardTitle ++ table ++ ['\n']))) ∧
      (¬ Drawable records → ∃ fault, dashboard rows = .error fault ∧ ∀ lines,
        session folder (['2'] :: lines) =
          ⟨folder, menu ++ dashboardTitle, some (.value fault)⟩) := by
  obtain ⟨rows, listed, order, drawn⟩ := exists_rows_of_holds holds nonempty dated
  refine ⟨rows, listed, order, fun drawable => ?_, fun broken => ?_⟩
  · obtain ⟨table, made⟩ := drawn.mpr drawable
    exact ⟨table, made, session_of_drawn listed made⟩
  · cases made : dashboard rows with
    | ok table => exact absurd (drawn.mp ⟨table, made⟩) broken
    | error fault => exact ⟨fault, rfl, session_of_not_drawn listed made⟩

end Session

/-! ## Stores -/

/-- A store to which records were added one by one. -/
def storeOf (records : List Record) : Folder :=
  afterCalls Folder.empty ((records.map Command.add).map Command.call)

theorem foldl_apply_add (before records : List Record) :
    (records.map Command.add).foldl Command.apply before = before ++ records := by
  induction records generalizing before with
  | nil => exact (List.append_nil before).symm
  | cons record records induction =>
    rw [List.map_cons, List.foldl_cons, induction, Command.apply, List.append_assoc]
    rfl

theorem holds_storeOf {records : List Record} (countable : Countable records.length) :
    Holds (storeOf records) records := by
  have missing : Folder.empty.contains storePath = false := by decide
  have added := holds_afterCalls (holds_of_missing missing) (records.map Command.add)
    (by simpa using countable)
  rwa [foldl_apply_add] at added

/-- Records of which a description is a truth value, one a real number, and one the mark of a
separating line. -/
def variedRecords : List Record :=
  [⟨"True".toList, "2024-2-29".toList, "1.5".toList⟩, ⟨"1.5".toList, "2024-01-02".toList, []⟩,
    ⟨Table.separatorMark, "2023-12-31".toList, "False".toList⟩,
    ⟨"\x1b[31mmilk\x1b[0m".toList, "2024-01-02".toList, "inf".toList⟩]

theorem dashboard_drawn_exactly_variedRecords :
    Holds (storeOf variedRecords) variedRecords ∧ Drawable variedRecords ∧
      ∃ rows, list (storeOf variedRecords) = .ok (.table rows) ∧ rows.length = 4 ∧
        ∃ table, dashboard rows = .ok table ∧ ∀ lines,
          session (storeOf variedRecords) (['2'] :: lines) =
            (session (storeOf variedRecords) lines).after
              (menu ++ (dashboardTitle ++ table ++ ['\n'])) := by
  have holds : Holds (storeOf variedRecords) variedRecords := holds_storeOf (by decide +kernel)
  have drawable : Drawable variedRecords := by decide +kernel
  have dated : ∀ record ∈ variedRecords, (Calendar.Date.parse record.dueDate).isOk = true := by
    decide +kernel
  obtain ⟨rows, listed, order, drawn, -⟩ := dashboard_drawn_exactly holds (List.cons_ne_nil _ _)
    fun record member => exists_of_isOk (dated record member)
  exact ⟨holds, drawable, rows, listed, order.length_eq, drawn drawable⟩

/-- Whether the tasks of a store of records are listed, and the choice to show them ends every
session with a message. -/
def BreaksWith (records : List Record) (message : Text) : Prop :=
  ∃ folder rows, Holds folder records ∧ list folder = .ok (.table rows) ∧
    ∃ fault : SessionFault, fault.message = message ∧ ∀ lines,
      session folder (['2'] :: lines) = ⟨folder, menu ++ dashboardTitle, some fault⟩

/-- Records in the order of their dates are listed as they are. -/
theorem list_storeOf {records : List Record} {dates : List Calendar.Date}
    (countable : Countable records.length) (nonempty : records ≠ [])
    (dated : records.mapM Record.date = .ok dates)
    (sorted : (dates.zip (rowsFrom 1 records)).Pairwise fun left right => left.1.le right.1) :
    list (storeOf records) = .ok (.table (rowsFrom 1 records)) := by
  have same : dates.length = (rowsFrom 1 records).length := by
    rw [rowsFrom_eq, List.length_map, List.length_zipIdx]
    exact (mapM_eq_ok_iff.mp dated).length_eq.symm
  rw [list_of_dates (holds_storeOf countable) nonempty dated, byDate_of_pairwise same sorted]

/-- Where records are in the order of their dates, a fault of the dashboard of their rows ends a
session. -/
theorem breaksWith_of_failed {records : List Record} {dates : List Calendar.Date} {message : Text}
    (countable : Countable records.length) (nonempty : records ≠ [])
    (dated : records.mapM Record.date = .ok dates)
    (sorted : (dates.zip (rowsFrom 1 records)).Pairwise fun left right => left.1.le right.1)
    (failed : (dashboard (rowsFrom 1 records)).mapError Fault.message = .error message) :
    BreaksWith records message := by
  have listed := list_storeOf countable nonempty dated sorted
  cases made : dashboard (rowsFrom 1 records) with
  | ok table =>
    rw [made] at failed
    nomatch failed
  | error fault =>
    rw [made] at failed
    exact ⟨storeOf records, _, holds_storeOf countable, listed, .value fault,
      Except.error.inj failed, session_of_not_drawn listed made⟩

/-- A name of a truth value and a real number. -/
def truthAndReal : List Record :=
  [⟨"True".toList, "2024-01-01".toList, ['a']⟩, ⟨"1.5".toList, "2024-01-02".toList, ['b']⟩]

/-- A separating line. -/
def markOnly : List Record := [⟨Table.separatorMark, "2024-01-01".toList, ['a']⟩]

theorem dashboard_breaks_truthAndReal_markOnly :
    BreaksWith truthAndReal "could not convert string to float: 'True'".toList ∧
      BreaksWith markOnly "list index out of range".toList := by
  have dates : truthAndReal.mapM Record.date = .ok [⟨2024, 1, 1⟩, ⟨2024, 1, 2⟩] := rfl
  have date : markOnly.mapM Record.date = .ok [⟨2024, 1, 1⟩] := rfl
  constructor
  · exact breaksWith_of_failed (by decide +kernel) (List.cons_ne_nil _ _) dates
      (by simp [truthAndReal, rowsFrom, Calendar.Date.le]) (by decide +kernel)
  · exact breaksWith_of_failed (by decide +kernel) (List.cons_ne_nil _ _) date
      (List.pairwise_singleton _ _) (by decide +kernel)

end TypeSurvey.Task
