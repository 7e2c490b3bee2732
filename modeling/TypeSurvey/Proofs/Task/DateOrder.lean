import TypeSurvey.Proofs.Calendar.Order
import TypeSurvey.Proofs.Sorting
import TypeSurvey.Proofs.Task.Dashboard

/-!
# Tasks are listed in the order of their dates

A listing has a row for each task. The dates that the texts of the due dates denote never go back
from one row to the next, however they are written, and tasks of one date stand as they stand in the
file. If some due date is no date, nothing is listed. The folder stays as it is.
-/

namespace TypeSurvey.Task

/-- Whether the due date of a record is no date. -/
def Undated (record : Record) : Prop :=
  ∃ fault, Calendar.Date.parse record.dueDate = .error fault

/-- Whether a record with its number goes before another one: the due dates are dates, the first is
not later, and for one date the numbers decide. -/
def Precedes (left right : Record × Nat) : Prop :=
  ∃ earlier later, Calendar.Date.parse left.1.dueDate = .ok earlier ∧
    Calendar.Date.parse right.1.dueDate = .ok later ∧ earlier.le later = true ∧
      (earlier = later → left.2 < right.2)

theorem Precedes.asymm {left right : Record × Nat} (before : Precedes left right)
    (after : Precedes right left) : False := by
  obtain ⟨earlier, later, first, second, lower, number⟩ := before
  obtain ⟨later', earlier', second', first', upper, number'⟩ := after
  obtain rfl := Except.ok.inj (first.symm.trans first')
  obtain rfl := Except.ok.inj (second.symm.trans second')
  have same := Calendar.Date.le_antisymm lower upper
  exact Nat.lt_asymm (number same) (number' same.symm)

/-! ## Dates -/

theorem Record.date_eq_ok {record : Record} {date : Calendar.Date} :
    record.date = .ok date ↔ Calendar.Date.parse record.dueDate = .ok date :=
  mapError_eq_ok

theorem not_undated_iff {record : Record} : ¬ Undated record ↔ ∃ date, record.date = .ok date := by
  simp only [Undated, Record.date_eq_ok]
  cases Calendar.Date.parse record.dueDate <;> simp

theorem exists_dates_iff {records : List Record} :
    (∃ dates, records.mapM Record.date = .ok dates) ↔ ∀ record ∈ records, ¬ Undated record := by
  simp only [exists_mapM_iff, not_undated_iff]

theorem exists_error_of_undated {records : List Record} {record : Record}
    (member : record ∈ records) (undated : Undated record) :
    ∃ fault, records.mapM Record.date = .error (.date fault) := by
  cases dated : records.mapM Record.date with
  | ok dates => exact absurd undated (exists_dates_iff.mp ⟨dates, dated⟩ record member)
  | error fault =>
    obtain ⟨-, first, -, -, -, failed⟩ := mapM_eq_error_iff.mp dated
    rw [Record.date] at failed
    cases parsed : Calendar.Date.parse first.dueDate with
    | ok date => simp [parsed, Except.mapError] at failed
    | error cause =>
      rw [parsed] at failed
      exact ⟨cause, congrArg Except.error (Except.error.inj failed).symm⟩

/-! ## Order -/

section Order

variable {records : List Record} {dates : List Calendar.Date}

theorem parse_of_mem_zip (dated : records.mapM Record.date = .ok dates) (first : Nat)
    {pair : Calendar.Date × (Record × Nat)} (member : pair ∈ dates.zip (records.zipIdx first)) :
    Calendar.Date.parse pair.2.1.dueDate = .ok pair.1 := by
  induction mapM_eq_ok_iff.mp dated generalizing first with
  | nil => simp at member
  | cons here rest induction =>
    rcases List.mem_cons.mp member with rfl | later
    · exact Record.date_eq_ok.mp here
    · exact induction (mapM_eq_ok_iff.mpr rest) (first + 1) later

theorem pairwise_zipIdx (records : List Record) (first : Nat) :
    (records.zipIdx first).Pairwise fun left right => left.2 < right.2 := by
  have numbers : ((records.zipIdx first).map Prod.snd).Pairwise (· < ·) := by
    rw [List.zipIdx_map_snd]
    exact List.pairwise_lt_range'
  exact List.pairwise_map.mp numbers

theorem pairwise_byDate (dated : records.mapM Record.date = .ok dates) (first : Nat) :
    (byDate dates (records.zipIdx first)).Pairwise Precedes := by
  have same : (records.zipIdx first).length ≤ dates.length := by
    rw [List.length_zipIdx]
    exact (mapM_eq_ok_iff.mp dated).length_eq.le
  have numbers : (dates.zip (records.zipIdx first)).Pairwise fun left right =>
      left.2.2 < right.2.2 := by
    have order := pairwise_zipIdx records first
    rwa [← List.map_snd_zip same, List.pairwise_map] at order
  have sorted : ((dates.zip (records.zipIdx first)).mergeSort fun left right =>
      left.1.le right.1).Pairwise fun left right => left.1.le right.1 = true ∧
        (right.1.le left.1 = true → left.2.2 < right.2.2) := by
    refine pairwise_mergeSort_stable ?_ ?_ numbers
    · exact fun _ _ _ => Calendar.Date.le_trans
    · exact fun left right => Calendar.Date.le_total left.1 right.1
  refine List.pairwise_map.mpr (sorted.imp_of_mem fun {left right} left_mem right_mem order => ?_)
  refine ⟨left.1, right.1, parse_of_mem_zip dated first (List.mem_mergeSort.mp left_mem),
    parse_of_mem_zip dated first (List.mem_mergeSort.mp right_mem), order.1, fun equal => ?_⟩
  refine order.2 ?_
  rw [equal]
  exact Calendar.Date.le_refl right.1

end Order

/-- Listing sorts by the date and touches nothing. If the file holds tasks that are numbered by
their places and say what records say, the folder is the same after they are listed. Listing fails,
with a `ValueError`, if and only if some due date is no date. Otherwise there is a row for each
task, and each row precedes those after it. -/
theorem list_sorts_by_date {folder : Folder} {records : List Record} {items : List Value}
    (loaded : load folder = .ok (.list items)) (tasks : SaysFrom 1 records items)
    (present : records ≠ []) :
    (Call.list.run folder).1 = folder ∧
    ((∃ fault, (Call.list.run folder).2 = .error fault ∧
      fault.className = "ValueError".toList) ↔ ∃ record ∈ records, Undated record) ∧
    ((∀ record ∈ records, ¬ Undated record) →
      ∃ entries : List (Record × Nat),
        (Call.list.run folder).2 = .ok (.listing (.table (entries.map entryRow))) ∧
          entries.Perm (records.zipIdx 1) ∧ entries.Pairwise Precedes) := by
  have nonempty : records.isEmpty = false := by simpa using present
  have result : (Call.list.run folder).2 = ((records.mapM Record.date).map fun dates =>
      Listing.table (byDate dates (rowsFrom 1 records))).map .listing := by
    rw [Call.run, list_of_says loaded tasks, listing, nonempty]
    rfl
  refine ⟨rfl, ⟨?_, ?_⟩, ?_⟩
  · rintro ⟨fault, failed, -⟩
    by_contra undated
    obtain ⟨dates, dated⟩ := exists_dates_iff.mpr fun record member refused =>
      undated ⟨record, member, refused⟩
    rw [result, dated] at failed
    cases failed
  · rintro ⟨record, member, undated⟩
    obtain ⟨fault, failed⟩ := exists_error_of_undated member undated
    refine ⟨.date fault, ?_, rfl⟩
    rw [result, failed]
    rfl
  · intro dated
    obtain ⟨dates, dated⟩ := exists_dates_iff.mpr dated
    have same : dates.length = (records.zipIdx 1).length := by
      rw [List.length_zipIdx]
      exact (mapM_eq_ok_iff.mp dated).length_eq.symm
    refine ⟨byDate dates (records.zipIdx 1), ?_, byDate_perm same, pairwise_byDate dated 1⟩
    rw [result, dated, map_byDate, ← rowsFrom_eq]
    rfl

/-- Records out of the order of their dates, two of which are one date that is written in two
ways. -/
def shuffledRecords : List Record :=
  [⟨['a'], "2024-1-5".toList, ['x']⟩, ⟨['b'], "2023-12-31".toList, []⟩,
    ⟨['c'], "2024-01-05".toList, ['x']⟩]

/-- Records of which one has no date. -/
def leaplessRecords : List Record :=
  [⟨['a'], "2024-02-29".toList, []⟩, ⟨['b'], "2023-02-29".toList, []⟩]

theorem list_sorts_shuffledRecords :
    (Call.list.run (storeOf shuffledRecords)).2 = .ok (.listing (.table
      [Record.row 2 ⟨['b'], "2023-12-31".toList, []⟩,
        Record.row 1 ⟨['a'], "2024-1-5".toList, ['x']⟩,
        Record.row 3 ⟨['c'], "2024-01-05".toList, ['x']⟩])) ∧
    ∃ fault, (Call.list.run (storeOf leaplessRecords)).2 = .error fault ∧
      fault.className = "ValueError".toList := by
  constructor
  · obtain ⟨-, items, loaded, tasks⟩ : Holds (storeOf shuffledRecords) shuffledRecords :=
      holds_storeOf (by decide +kernel)
    have dated : ∀ record ∈ shuffledRecords, ¬ Undated record := by
      refine exists_dates_iff.mp ⟨[⟨2024, 1, 5⟩, ⟨2023, 12, 31⟩, ⟨2024, 1, 5⟩], ?_⟩
      rfl
    obtain ⟨entries, listed, order, sorted⟩ :=
      (list_sorts_by_date loaded tasks.saysFrom (List.cons_ne_nil _ _)).2.2 dated
    -- The order of the entries is the only one in which they precede each other.
    have expected : List.Pairwise Precedes [(⟨['b'], "2023-12-31".toList, []⟩, 2),
        (⟨['a'], "2024-1-5".toList, ['x']⟩, 1), (⟨['c'], "2024-01-05".toList, ['x']⟩, 3)] := by
      simp only [List.pairwise_cons, List.mem_cons, List.not_mem_nil, or_false, forall_eq_or_imp,
        forall_eq, false_imp_iff, implies_true, List.Pairwise.nil, and_true]
      refine ⟨⟨?_, ?_⟩, ?_⟩
      · exact ⟨⟨2023, 12, 31⟩, ⟨2024, 1, 5⟩, rfl, rfl, rfl, by decide⟩
      · exact ⟨⟨2023, 12, 31⟩, ⟨2024, 1, 5⟩, rfl, rfl, rfl, by decide⟩
      · exact ⟨⟨2024, 1, 5⟩, ⟨2024, 1, 5⟩, rfl, rfl, rfl, by decide⟩
    rw [listed, List.Perm.eq_of_pairwise (fun _ _ _ _ before after => (before.asymm after).elim)
      sorted expected (order.trans (.swap _ _ _))]
    rfl
  · obtain ⟨-, items, loaded, tasks⟩ : Holds (storeOf leaplessRecords) leaplessRecords :=
      holds_storeOf (by decide +kernel)
    refine (list_sorts_by_date loaded tasks.saysFrom (List.cons_ne_nil _ _)).2.1.mpr ?_
    exact ⟨⟨['b'], "2023-02-29".toList, []⟩, by simp [leaplessRecords], .dayRange, rfl⟩

end TypeSurvey.Task
