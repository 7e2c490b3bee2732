import TypeSurvey.Proofs.Table.Rectangle
import TypeSurvey.Proofs.Task.Dashboard

/-!
# Rectangular dashboards

The dashboard is a grid of the numbers, descriptions, due dates and categories of the tasks. So it
is a rectangle with five borders, whatever the store holds, if the texts of the tasks have no stray
control characters.
-/

namespace TypeSurvey.Task

open Table

theorem gridOptions_eq (headers : List Text) :
    gridOptions headers = namedOptions (.list (textValues headers)) "grid" := rfl

theorem rows_of_list {folder : Folder} {rows : List (List Value)}
    (listed : list folder = .ok (.table rows)) : rows ≠ [] ∧ ∀ row ∈ rows, row.length = 4 := by
  obtain ⟨tasks, -, shown⟩ := bind_eq_ok.mp listed
  split_ifs at shown with empty
  · nomatch Except.ok.inj shown
  split at shown
  · next items =>
      obtain ⟨sorted, ordered, rest⟩ := bind_eq_ok.mp shown
      obtain ⟨made, done, same⟩ := bind_eq_ok.mp rest
      obtain rfl : made = rows := Listing.table.inj (Except.ok.inj same)
      have each := mapM_eq_ok_iff.mp (mapError_eq_ok.mp done)
      constructor
      · obtain ⟨dates, parsed, last⟩ := bind_eq_ok.mp ordered
        obtain rfl : byDate dates items = sorted := Except.ok.inj last
        have count := (byDate_perm (mapM_eq_ok_iff.mp parsed).length_eq.symm).length_eq
        rw [each.length_eq] at count
        rw [← List.length_pos_iff, count, List.length_pos_iff]
        exact fun none => empty (List.isEmpty_iff.mpr none)
      · intro row member
        obtain ⟨task, -, fields⟩ := exists_of_mem_mapM (mapError_eq_ok.mp done) member
        exact (mapM_eq_ok_iff.mp fields).length_eq.symm
  · nomatch shown

/-- The dashboard of simple fields without stray control characters is a rectangle. -/
theorem rectangular_of_dashboard {folder : Folder} {rows : List (List Value)} {table : Text}
    (listed : list folder = .ok (.table rows)) (simple : ∀ row ∈ rows, ∀ cell ∈ row, IsSimple cell)
    (tame : ∀ text ∈ tableTexts [] rows, IsTame text) (drawn : dashboard rows = .ok table) :
    Rectangular (styleNamed "grid") 4 table := by
  obtain ⟨nonempty, uniform⟩ := rows_of_list listed
  have headers : ∀ header ∈ dashboardHeaders, IsTame header := by decide +kernel
  have all : ∀ text ∈ tableTexts dashboardHeaders rows, IsTame text := by
    intro text member
    rcases List.mem_append.mp member with header | inside
    · exact headers text header
    · exact tame text inside
  rw [dashboard_eq, gridOptions_eq] at drawn
  exact rectangular_of_render (.inl List.mem_cons_self) (by decide) nonempty uniform
    (by decide) simple all drawn

/-- Tables in styles with a frame are rectangles with borders below each other, and so is every
dashboard that is shown. -/
theorem tables_rectangular :
    (∀ {name : String} {headers : List Text} {rows : List (List Value)} {width : Nat}
      {text : Text}, DrawsFrame name (tableTexts headers rows) → 0 < width → rows ≠ [] →
      (∀ row ∈ rows, row.length = width) → headers.length ≤ width →
      (∀ row ∈ rows, ∀ cell ∈ row, IsSimple cell) →
      (∀ text ∈ tableTexts headers rows, IsTame text) →
      render (namedOptions (.list (textValues headers)) name) (.list (rows.map .list)) =
        .ok text → Rectangular (styleNamed name) width text) ∧
    ∀ {folder : Folder} {rows : List (List Value)} {table : Text},
      list folder = .ok (.table rows) → (∀ row ∈ rows, ∀ cell ∈ row, IsSimple cell) →
      (∀ text ∈ tableTexts [] rows, IsTame text) → dashboard rows = .ok table →
      (∀ lines, session folder (['2'] :: lines) =
        (session folder lines).after (menu ++ (dashboardTitle ++ table ++ ['\n']))) ∧
      Rectangular (styleNamed "grid") 4 table :=
  ⟨fun frame wide nonempty uniform short simple tame drawn =>
      rectangular_of_render frame wide nonempty uniform short simple tame drawn,
    fun listed simple tame drawn =>
      ⟨session_of_drawn listed drawn, rectangular_of_dashboard listed simple tame drawn⟩⟩

/-- Rows with cells of several lines, numbers and truth values in one column, and a missing
value. -/
def mixedRows : List (List Value) :=
  [[.str "first\r\n  second\n".toList, .int (-12), .none],
    [.str [], .bool true, .str "1.5".toList],
    [.none, .str "\r".toList, .str "12e3".toList]]

/-- The headers of these rows: the first column has none. -/
def mixedHeaders : List Text := [['n'], "size\nof it".toList]

/-- Tasks with a description of two lines. -/
def longRecords : List Record :=
  [⟨"buy\nmilk".toList, "2024-01-01".toList, []⟩, ⟨['2'], "2024-01-02".toList, ['b']⟩]

/-- Rows of several kinds of cells are drawn as a rectangle in all styles that have a frame and
cells of several lines, and so are tasks. -/
theorem tables_rectangular_mixedRows :
    (∀ name ∈ gridNames, ∃ text,
      render (namedOptions (.list (textValues mixedHeaders)) name) (.list (mixedRows.map .list)) =
        .ok text ∧ Rectangular (styleNamed name) 3 text) ∧
    ∃ rows table, list (storeOf longRecords) = .ok (.table rows) ∧ dashboard rows = .ok table ∧
      Rectangular (styleNamed "grid") 4 table := by
  constructor
  · intro name member
    have nonempty : mixedRows ≠ [] := List.cons_ne_nil _ _
    have simple : ∀ row ∈ mixedRows, ∀ cell ∈ row, IsSimple cell := by simp [mixedRows, IsSimple]
    have shown : ∀ name ∈ gridNames, (render (namedOptions (.list (textValues mixedHeaders)) name)
      (.list (mixedRows.map .list))).isOk = true := by decide +kernel
    obtain ⟨text, drawn⟩ := exists_of_isOk (shown name member)
    exact ⟨text, drawn, tables_rectangular.1 (.inl member) (by decide) nonempty (by decide)
      (by decide) simple (by decide +kernel) drawn⟩
  · have nonempty : longRecords ≠ [] := List.cons_ne_nil _ _
    have dates : longRecords.mapM Record.date = .ok [⟨2024, 1, 1⟩, ⟨2024, 1, 2⟩] := rfl
    have listed := list_storeOf (by decide +kernel) nonempty dates
      (by simp [longRecords, rowsFrom, Calendar.Date.le])
    have simple : ∀ row ∈ rowsFrom 1 longRecords, ∀ cell ∈ row, IsSimple cell := by
      simp [longRecords, rowsFrom, Record.row, IsSimple]
    have shown : (dashboard (rowsFrom 1 longRecords)).isOk = true := by decide +kernel
    obtain ⟨table, drawn⟩ := exists_of_isOk shown
    exact ⟨_, table, listed, drawn,
      (tables_rectangular.2 listed simple (by decide +kernel) drawn).2⟩

end TypeSurvey.Task
