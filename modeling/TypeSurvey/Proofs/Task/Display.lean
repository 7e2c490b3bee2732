import TypeSurvey.Proofs.Calendar.Written
import TypeSurvey.Proofs.Table.Drawing
import TypeSurvey.Proofs.Task.Dashboard

/-!
# What the dashboard shows

The row of a task shows its number, its description, its due date and its category, each between two
bars with nothing but blanks around it. Numbers and due dates are shown as they are. So are the
descriptions, unless all of them denote numbers and one of these is not written as an integer: then
each is shown as its number with six significant digits. The same holds of the categories.
-/

namespace TypeSurvey.Task

open Table (IsPlain IsRealColumn LineShows gridText plainMeasure writtenText)

/-- Whether a text is a line without blanks around it, escape characters or marks of separating
lines. -/
@[mk_iff]
structure Presentable (text : Text) : Prop where
  stripped : Text.strip text = text
  plain : IsPlain text
  unmarked : ¬ Table.separatorMark <:+: text

instance (text : Text) : Decidable (Presentable text) :=
  decidable_of_iff' _ (presentable_iff text)

/-- What the columns of a listing of records show for an entry. -/
def columnTexts (records : List Record) : List (Record × Nat → Text) :=
  [fun entry => Text.ofNat entry.2,
    fun entry => writtenText (records.map Record.description) entry.1.description,
    fun entry => entry.1.dueDate,
    fun entry => writtenText (records.map Record.category) entry.1.category]

/-- The texts that are shown for an entry of a listing of records. -/
def shownTexts (records : List Record) (entry : Record × Nat) : List Text :=
  (columnTexts records).map fun text => text entry

/-! ## Cells -/

theorem isPlain_of_digits {text : Text}
    (digits : ∀ letter ∈ text, letter = '-' ∨ letter = ' ' ∨ Text.isDecimalDigit letter = true) :
    IsPlain text := by
  intro letter member
  obtain rfl | rfl | digit := digits letter member
  · decide
  · decide
  · have differs (other : Char) (plain : Text.isDecimalDigit other = false) : letter ≠ other := by
      rintro rfl
      rw [plain] at digit
      nomatch digit
    refine ⟨differs _ (by decide), ?_⟩
    rw [Table.isLineBreak, Bool.or_eq_false_iff, beq_eq_false_iff_ne, beq_eq_false_iff_ne]
    exact ⟨differs _ (by decide), differs _ (by decide)⟩

theorem isDecimalDigit_of_mem_ofNat {number : Nat} {digit : Char}
    (member : digit ∈ Text.ofNat number) : Text.isDecimalDigit digit = true := by
  have range := Text.isDigit_of_mem_ofNat member
  simp only [Char.isDigit, Bool.and_eq_true, decide_eq_true_eq] at range
  exact Text.isDecimalDigit_of_range range.1 range.2

theorem isPlain_of_parse {text : Text} {date : Calendar.Date}
    (parsed : Calendar.Date.parse text = .ok date) : IsPlain text := by
  obtain ⟨first, middle, last, rfl, -, digits, lastDigit, between⟩ :=
    Calendar.exists_shape_of_parse parsed
  refine isPlain_of_digits fun letter member => ?_
  simp only [List.mem_append, List.mem_cons, List.not_mem_nil, or_false] at member
  rcases member with inside | rfl | inside | rfl
  · exact .inr (.inr (digits letter inside))
  · exact .inl rfl
  · exact between letter inside
  · exact .inr (.inr lastDigit)

theorem textKind_ne_real_of_parse {text : Text} {date : Calendar.Date}
    (parsed : Calendar.Date.parse text = .ok date) : Table.textKind text ≠ .real := by
  have shown : Text.visible text = text :=
    Text.visible_of_not_isStyled (Table.isStyled_of_isPlain (isPlain_of_parse parsed))
  obtain ⟨first, middle, last, rfl, nonempty, digits, -⟩ := Calendar.exists_shape_of_parse parsed
  have unread : Table.denotesReal (first ++ '-' :: (middle ++ [last])) = false := by
    rw [Table.denotesReal, Numeral.toBinary64?_eq_none nonempty digits]
  intro real
  rw [Table.textKind, shown] at real
  split_ifs at real with _ _ number
  rw [unread] at number
  cases number

theorem writtenText_dates {records : List Record}
    (dated : ∀ record ∈ records, ∃ date, Calendar.Date.parse record.dueDate = .ok date)
    (text : Text) : writtenText (records.map Record.dueDate) text = text := by
  refine if_neg ?_
  rintro ⟨⟨due, member, real⟩, -⟩
  obtain ⟨record, inside, rfl⟩ := List.mem_map.mp member
  obtain ⟨date, parsed⟩ := dated record inside
  exact textKind_ne_real_of_parse parsed real

theorem strip_ofNat (number : Nat) : Text.strip (Text.ofNat number) = Text.ofNat number := by
  have solid : ∀ digit ∈ Text.ofNat number, Text.isBlank digit = false :=
    fun digit member => Text.isBlank_of_isDecimalDigit (isDecimalDigit_of_mem_ofNat member)
  exact Text.strip_eq_self (fun digit head => solid digit (List.mem_of_mem_head? head))
    fun digit last => solid digit (List.mem_of_getLast? last)

/-! ## Columns -/

section Entries

variable {entries : List (Record × Nat)}

/-- Whether the entries of a listing have dates and presentable texts. -/
def AllPresentable (entries : List (Record × Nat)) : Prop :=
  ∀ entry ∈ entries, (∃ date, Calendar.Date.parse entry.1.dueDate = .ok date) ∧
    Presentable entry.1.description ∧ Presentable entry.1.category

theorem isSeparator_of_presentable (presentable : AllPresentable entries) :
    ∀ row ∈ entries.map entryRow, Table.isSeparator row = false := by
  intro row member
  obtain ⟨entry, inside, rfl⟩ := List.mem_map.mp member
  rw [isSeparator_entryRow, beq_eq_false_iff_ne]
  intro marked
  apply (presentable entry inside).2.1.unmarked
  rw [marked]

theorem gridMeasure_of_presentable (presentable : AllPresentable entries) :
    Table.gridMeasure dashboardHeaders (entries.map entryRow) = plainMeasure := by
  apply Table.gridMeasure_eq
  have headers : ∀ text ∈ dashboardHeaders, IsPlain text := by decide
  intro text member
  rcases List.mem_append.mp member with header | inside
  · exact headers text header
  · obtain ⟨cell, place, rfl⟩ := List.mem_map.mp inside
    obtain ⟨row, kept, here⟩ := List.mem_flatten.mp place
    obtain ⟨entry, among, rfl⟩ := List.mem_map.mp (List.mem_of_mem_filter kept)
    obtain ⟨⟨date, parsed⟩, description, category⟩ := presentable entry among
    simp only [entryRow, Record.row, List.mem_cons, List.not_mem_nil, or_false] at here
    obtain rfl | rfl | rfl | rfl := here
    · exact isPlain_of_digits fun letter digit => .inr (.inr (isDecimalDigit_of_mem_ofNat digit))
    · exact description.plain
    · exact isPlain_of_parse parsed
    · exact category.plain

theorem writtenColumns_eq (nonempty : entries ≠ []) (presentable : AllPresentable entries)
    {columns : List (List Value)}
    (written : Table.writtenColumns dashboardHeaders (entries.map entryRow) = .ok columns) :
    columns = ((columnTexts (entries.map Prod.fst)).map fun text => entries.map text).map
      fun texts => texts.map .str := by
  have kept := Table.keptRows_of_forall (isSeparator_of_presentable presentable)
  rw [Table.writtenColumns, kept, transpose_entries nonempty,
    gridMeasure_of_presentable presentable, mapM_eq_ok_iff] at written
  simp only [List.forall₂_cons_left_iff, List.forall₂_nil_left_iff] at written
  obtain ⟨numbers, _, number, ⟨descriptions, _, description, ⟨dates, _, date, ⟨categories, _,
    category, rfl, rfl⟩, rfl⟩, rfl⟩, rfl⟩ := written
  have ids := Except.ok.inj (number.symm.trans (Table.mapM_formatCell_int _))
  have dated : ∀ record ∈ entries.map Prod.fst,
      ∃ date, Calendar.Date.parse record.dueDate = .ok date := by
    intro record member
    obtain ⟨entry, inside, rfl⟩ := List.mem_map.mp member
    exact (presentable entry inside).1
  rw [ids, Table.eq_map_writtenText description, Table.eq_map_writtenText date,
    Table.eq_map_writtenText category,
    List.map_congr_left fun text _ => writtenText_dates dated text]
  simp only [columnTexts, List.map_map, List.map_cons, List.map_nil]
  rfl

theorem keeps_columnTexts (nonempty : entries ≠ []) (presentable : AllPresentable entries) :
    List.Forall₂ Table.Keeps (Table.gridAlignments dashboardHeaders (entries.map entryRow))
      ((columnTexts (entries.map Prod.fst)).map fun text => entries.map text) := by
  -- A column that is not aligned by its points is no column of real numbers.
  have kept (part : Record → Text)
      (stripped : ∀ entry ∈ entries, Text.strip (part entry.1) = part entry.1) :
      (Table.kindOfCells (((entries.map Prod.fst).map part).map .str)).isNumeric = false →
      ∀ text ∈ entries.map fun entry => writtenText ((entries.map Prod.fst).map part)
        (part entry.1), Text.strip text = text := by
    intro other text member
    obtain ⟨entry, inside, rfl⟩ := List.mem_map.mp member
    have unreal : ¬ IsRealColumn ((entries.map Prod.fst).map part) := by
      intro real
      rw [(Table.kindOfCells_str _).mpr real] at other
      nomatch other
    simp only [writtenText, if_neg unreal]
    exact stripped entry inside
  rw [Table.gridAlignments, Table.keptRows_of_forall (isSeparator_of_presentable presentable),
    transpose_entries nonempty]
  refine .cons (Table.keeps_of_stripped fun _ text member => ?_)
    (.cons (Table.keeps_of_stripped ?_) (.cons (Table.keeps_of_stripped fun _ text member => ?_)
      (.cons (Table.keeps_of_stripped ?_) .nil)))
  · obtain ⟨entry, -, rfl⟩ := List.mem_map.mp member
    exact strip_ofNat entry.2
  · exact kept Record.description fun entry inside => (presentable entry inside).2.1.stripped
  · obtain ⟨entry, inside, rfl⟩ := List.mem_map.mp member
    obtain ⟨date, parsed⟩ := (presentable entry inside).1
    exact Calendar.strip_of_parse parsed
  · exact kept Record.category fun entry inside => (presentable entry inside).2.2.stripped

/-- A dashboard that is drawn shows each entry in a line of its own. -/
theorem exists_gridText_of_dashboard (nonempty : entries ≠ [])
    (presentable : AllPresentable entries) {table : Text}
    (drawn : dashboard (entries.map entryRow) = .ok table) :
    ∃ widths header lines, table = gridText widths header lines ∧
      List.Forall₂ (fun entry line => LineShows widths (shownTexts (entries.map Prod.fst) entry)
        line) entries lines := by
  have wide : dashboardHeaders ≠ [] := List.cons_ne_nil _ _
  have rows : entries.map entryRow ≠ [] := by simpa using nonempty
  have separated := isSeparator_of_presentable presentable
  rw [dashboard_eq] at drawn
  obtain ⟨columns, written⟩ : ∃ columns, Table.writtenColumns dashboardHeaders
      (entries.map entryRow) = .ok columns :=
    (Table.exists_writtenColumns_iff length_of_mem_entryRow isCell_of_mem_entryRow).mpr
      ((Table.exists_render_iff wide rows length_of_mem_entryRow isCell_of_mem_entryRow).mp
        ⟨table, drawn⟩).2
  obtain rfl := writtenColumns_eq nonempty presentable written
  obtain ⟨widths, header, lines, shown, each⟩ := Table.exists_render_eq wide rows
    length_of_mem_entryRow isCell_of_mem_entryRow separated
    (gridMeasure_of_presentable presentable) written (keeps_columnTexts nonempty presentable)
  refine ⟨widths, header, lines, Except.ok.inj (drawn.symm.trans shown), ?_⟩
  have some : columnTexts (entries.map Prod.fst) ≠ [] := List.cons_ne_nil _ _
  rw [Table.rowsOf_map_map some, List.forall₂_map_left_iff] at each
  exact each

end Entries

/-! ## Sessions -/

/-- Tasks with dates and presentable texts are listed, each in a row of its own. If the dashboard of
these rows is drawn, it is what a session shows, and it has a line for each task, with its number,
its due date and the texts that its description and its category are written as. -/
theorem dashboard_shows_tasks {folder : Folder} {records : List Record}
    (holds : Holds folder records) (nonempty : records ≠ [])
    (dated : ∀ record ∈ records, ∃ date, Calendar.Date.parse record.dueDate = .ok date)
    (presentable : ∀ record ∈ records,
      Presentable record.description ∧ Presentable record.category) :
    ∃ entries : List (Record × Nat), entries.Perm (records.zipIdx 1) ∧
      list folder = .ok (.table (entries.map entryRow)) ∧
      ∀ table, dashboard (entries.map entryRow) = .ok table →
        (∀ lines, session folder (['2'] :: lines) =
          (session folder lines).after (menu ++ (dashboardTitle ++ table ++ ['\n']))) ∧
        ∃ widths header rows, table = gridText widths header rows ∧
          List.Forall₂ (fun entry row => LineShows widths (shownTexts records entry) row)
            entries rows := by
  obtain ⟨entries, listed, order⟩ := exists_entries_of_holds holds nonempty dated
  have same := map_fst_perm order
  have all : AllPresentable entries := fun entry member =>
    have inside := same.mem_iff.mp (List.mem_map_of_mem member)
    ⟨dated entry.1 inside, presentable entry.1 inside⟩
  have shown : shownTexts (entries.map Prod.fst) = shownTexts records := by
    funext entry
    rw [shownTexts, columnTexts, Table.writtenText_of_perm (same.map _),
      Table.writtenText_of_perm (same.map _)]
    rfl
  refine ⟨entries, order, listed, fun table drawn => ⟨session_of_drawn listed drawn, ?_⟩⟩
  rw [← shown]
  exact exists_gridText_of_dashboard (entries_ne_nil order nonempty) all drawn

/-- Records with a bar in a description, a blank in a due date, and numbers for categories. -/
def pricedRecords : List Record :=
  [⟨"café | 1.50".toList, "2024-1- 9".toList, "1.50".toList⟩,
    ⟨"007".toList, "2023-12-31".toList, ['2']⟩]

theorem dashboard_shows_pricedRecords :
    Holds (storeOf pricedRecords) pricedRecords ∧
      (∀ record ∈ pricedRecords, Presentable record.description ∧ Presentable record.category) ∧
      ∃ entries : List (Record × Nat), entries.Perm (pricedRecords.zipIdx 1) ∧
        ∃ table, dashboard (entries.map entryRow) = .ok table ∧
          ∃ widths header rows, table = gridText widths header rows ∧
            List.Forall₂ (fun entry row => LineShows widths (shownTexts pricedRecords entry) row)
              entries rows := by
  have holds : Holds (storeOf pricedRecords) pricedRecords := holds_storeOf (by decide +kernel)
  have presentable : ∀ record ∈ pricedRecords,
      Presentable record.description ∧ Presentable record.category := by decide +kernel
  have parsed : ∀ record ∈ pricedRecords, (Calendar.Date.parse record.dueDate).isOk = true := by
    decide +kernel
  have dated := fun record member => exists_of_isOk (parsed record member)
  obtain ⟨entries, order, -, shows⟩ :=
    dashboard_shows_tasks holds (List.cons_ne_nil _ _) dated presentable
  have same := map_fst_perm order
  have some := entries_ne_nil order (List.cons_ne_nil _ _)
  have drawable : Drawable pricedRecords := by decide +kernel
  obtain ⟨table, drawn⟩ := (exists_dashboard_iff some fun entry member =>
    dated entry.1 (same.mem_iff.mp (List.mem_map_of_mem member))).mpr
      ((drawable_of_perm same).mpr drawable)
  exact ⟨holds, presentable, entries, order, table, drawn, (shows table drawn).2⟩

/-- Two numbers, of which one is not written as an integer. -/
def realAndInteger : List Record :=
  [⟨"1.50".toList, "2024-01-01".toList, ['a']⟩, ⟨['2'], "2024-01-02".toList, ['b']⟩]

/-- The dashboard of the two numbers. -/
def shortenedTable : Text :=
  Text.join ['\n'] (["+------+--------+------------+------------+",
    "|   ID |   Task | Due Date   | Category   |",
    "+======+========+============+============+",
    "|    1 |    1.5 | 2024-01-01 | a          |",
    "+------+--------+------------+------------+",
    "|    2 |    2   | 2024-01-02 | b          |",
    "+------+--------+------------+------------+"].map String.toList)

/-- A description that denotes a number need not be shown as it is. -/
theorem dashboard_shortens_realAndInteger :
    Holds (storeOf realAndInteger) realAndInteger ∧
      (∀ record ∈ realAndInteger, (Calendar.Date.parse record.dueDate).isOk = true ∧
        Presentable record.description ∧ Presentable record.category) ∧
      (∀ lines, session (storeOf realAndInteger) (['2'] :: lines) =
        (session (storeOf realAndInteger) lines).after
          (menu ++ (dashboardTitle ++ shortenedTable ++ ['\n']))) ∧
      ¬ "1.50".toList <:+: shortenedTable := by
  have countable : Countable realAndInteger.length := by decide +kernel
  have dates : realAndInteger.mapM Record.date = .ok [⟨2024, 1, 1⟩, ⟨2024, 1, 2⟩] := rfl
  have drawn : (dashboard (rowsFrom 1 realAndInteger)).toOption = some shortenedTable := by
    decide +kernel
  have listed := list_storeOf countable (List.cons_ne_nil _ _) dates
    (by simp [realAndInteger, rowsFrom, Calendar.Date.le])
  exact ⟨holds_storeOf countable, by decide +kernel,
    session_of_drawn listed (eq_ok_of_toOption drawn), by decide +kernel⟩

end TypeSurvey.Task
