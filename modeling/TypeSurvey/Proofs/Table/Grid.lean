import TypeSurvey.Proofs.Table.Columns
import TypeSurvey.Table.Render

/-!
# Grids of integers and texts

A table of rows that are as long as its header is drawn as a grid if it has a row that is no
separating line, and if no column of the other rows clashes. Everything else about such a grid, the
separating lines and the cells of several lines included, can always be drawn.
-/

namespace TypeSurvey.Table

/-! ## Drawing -/

abbrev gridStyle : Style := Style.plainBox true

section Drawing

variable (widths : List Nat) (alignments : List Alignment)

theorem exists_rowLines (style : Style) (marks : RowMarks) (multiline : Bool) (vertical : Value)
    (cells : List Text) :
    ∃ lines, rowLines style (.marks marks) multiline widths alignments vertical cells =
      .ok lines := by
  cases multiline with
  | false => exact ⟨_, rfl⟩
  | true => exact exists_mapM_iff.mpr fun line _ => ⟨_, rfl⟩

theorem exists_ruleLines (marks : RuleMarks) (hidden : Bool) :
    ∃ lines, ruleLines (some (.marks marks)) hidden widths alignments = .ok lines := by
  cases hidden <;> exact ⟨_, rfl⟩

theorem lastOf_eq_ok_iff (values : List Value) :
    (∃ last, lastOf values = .ok last) ↔ values ≠ [] := by
  unfold lastOf
  cases last : values.getLast? with
  | none => simp [List.getLast?_eq_none_iff.mp last]
  | some value =>
    have nonempty : values ≠ [] := by
      rintro rfl
      nomatch last
    simp [nonempty]

theorem exists_rowsBefore (marks : RuleMarks) (multiline : Bool) (verticals : List Value)
    (rows : List Row) :
    ∃ before, (rows.dropLast.zip verticals).mapM (fun (row, vertical) => do
      return (← rowLines gridStyle gridStyle.row multiline widths alignments vertical row.texts) ++
        [marks.draw (widths.map (· + 2 * gridStyle.padding))]) = .ok before := by
  refine exists_mapM_iff.mpr fun part _ => ?_
  obtain ⟨lines, here⟩ :=
    exists_rowLines widths alignments gridStyle _ multiline part.2 part.1.texts
  exact ⟨_, bind_eq_ok.mpr ⟨lines, here, rfl⟩⟩

theorem exists_rowsWithRules_iff (marks : RuleMarks) (multiline : Bool) (verticals : List Value)
    (rows : List Row) :
    (∃ lines, rowsWithRules gridStyle (.marks marks) multiline widths alignments verticals rows =
      .ok lines) ↔ verticals ≠ [] := by
  rw [← lastOf_eq_ok_iff]
  simp only [rowsWithRules, bind_eq_ok]
  constructor
  · rintro ⟨_, _, _, _, _, last, found, -⟩
    exact ⟨last, found⟩
  · rintro ⟨last, found⟩
    obtain ⟨before, drawn⟩ :=
      exists_rowsBefore widths alignments marks multiline verticals rows
    obtain ⟨lines, final⟩ := exists_rowLines widths alignments gridStyle _ multiline last
      ((rows.getLast?.map Row.texts).getD [])
    exact ⟨_, _, rfl, before, drawn, last, found, lines, final, rfl⟩

end Drawing

section Layout

variable (table : Layout)

theorem exists_headerLines : ∃ lines, table.headerLines gridStyle = .ok lines := by
  unfold Layout.headerLines
  split_ifs
  · exact ⟨[], rfl⟩
  · obtain ⟨row, drawn⟩ := exists_rowLines table.widths table.alignments gridStyle _
      table.multiline .none table.headers
    obtain ⟨rule, ruled⟩ := exists_ruleLines (table.paddedWidths gridStyle) table.alignments _ false
    exact ⟨_, bind_eq_ok.mpr ⟨row, drawn, bind_eq_ok.mpr ⟨rule, ruled, rfl⟩⟩⟩

theorem exists_bodyLines_iff :
    (∃ lines, table.bodyLines gridStyle = .ok lines) ↔
      table.rows = [] ∨ table.verticals ≠ [] := by
  unfold Layout.bodyLines
  cases rows : table.rows with
  | nil => exact iff_of_true ⟨[], rfl⟩ (.inl rfl)
  | cons row others =>
    refine (exists_rowsWithRules_iff table.widths table.alignments _ table.multiline
      table.verticals (row :: others)).trans ?_
    simp

/-- A grid is drawn unless it has rows and no alignment for the last of them. -/
theorem exists_draw_iff :
    (∃ text, table.draw gridStyle = .ok text) ↔ table.rows = [] ∨ table.verticals ≠ [] := by
  rw [← exists_bodyLines_iff]
  simp only [Layout.draw, Layout.lines, bind_eq_ok]
  constructor
  · rintro ⟨_, _, ⟨_, _, _, _, body, drawn, -⟩, -⟩
    exact ⟨body, drawn⟩
  · rintro ⟨body, drawn⟩
    obtain ⟨above, ruledAbove⟩ := exists_ruleLines (table.paddedWidths gridStyle) table.alignments _
      (!table.headers.isEmpty && gridStyle.headerHidesAbove)
    obtain ⟨header, headed⟩ := exists_headerLines table
    obtain ⟨below, ruledBelow⟩ := exists_ruleLines (table.paddedWidths gridStyle) table.alignments _
      (!table.headers.isEmpty && gridStyle.headerHidesBelow)
    split_ifs
    · exact ⟨_, _, ⟨above, ruledAbove, header, headed, body, drawn, below, ruledBelow, rfl⟩, rfl⟩
    · exact ⟨_, _, ⟨above, ruledAbove, header, headed, body, drawn, below, ruledBelow, rfl⟩, rfl⟩

end Layout

/-! ## Preparation -/

/-- How a grid with these headers is rendered. -/
def gridOptions (headers : List Text) : Options :=
  { headers := .list (textValues headers), style := .named (.ofString "grid") }

theorem map_toText_textValues (texts : List Text) :
    (textValues texts).map Value.toText = texts := by
  rw [textValues, List.map_map]
  exact List.map_id texts

theorem texts_textValues (texts : List Text) : Table.texts (.list (textValues texts)) = .ok texts :=
  congrArg Except.ok (map_toText_textValues texts)

theorem addLabels_default (rows : List Value) :
    addLabels rows (.ofString "default") = .ok rows := by
  have word : ("default".toList == "always".toList) = false := by decide
  simp only [addLabels, Value.ofString, word]
  rfl

theorem mapM_keep_rows (rows : List (List Value)) :
    (rows.map Value.list).mapM (fun row => if isSeparatorRow row = true then pure row
      else do
        let cells ← row.iterate
        pure (.list cells)) = Except.ok (rows.map Value.list) := by
  have each : ∀ row ∈ rows.map Value.list, (if isSeparatorRow row = true then pure row
      else do
        let cells ← row.iterate
        pure (.list cells) : Except Fault Value) = .ok (id row) := by
    intro row member
    obtain ⟨cells, -, rfl⟩ := List.mem_map.mp member
    split_ifs <;> rfl
  rw [mapM_of_forall each, List.map_id]

/-- Rows in a list are kept, and get their labels and headers. -/
theorem normalize_list {rows : List Value} {headers : Value} {names : List Text}
    (given : normalizeRows rows headers = .ok (rows, headers))
    (notFirst : isText "firstrow" headers = false) (named : texts headers = .ok names)
    (kept : rows.mapM (fun row => if isSeparatorRow row = true then pure row
      else do
        let cells ← row.iterate
        pure (.list cells)) = Except.ok rows) (showIndex : Value) :
    normalize (.list rows) headers showIndex =
      addLabels rows showIndex >>= withHeaders names := by
  have noEntries : entries? (.list rows) = none := rfl
  have iterated : (Value.list rows).iterate = .ok rows := rfl
  simp only [normalize, noEntries, iterated, ok_bind, given, notFirst, named, pure_bind, kept,
    map_toText_textValues]

section Rows

variable {headers : List Text} {rows : List (List Value)}

theorem normalize_eq (nonempty : rows ≠ [])
    (uniform : ∀ row ∈ rows, row.length = headers.length) :
    normalize (.list (rows.map .list)) (.list (textValues headers)) (.ofString "default") =
      .ok (rows.map .list, headers) := by
  obtain ⟨first, rest, rfl⟩ := List.exists_cons_of_ne_nil nonempty
  have counted : (Value.list first).length = .ok first.length := rfl
  have same : first.length = headers.length := uniform first List.mem_cons_self
  rw [normalize_list rfl rfl (texts_textValues headers) (mapM_keep_rows _), addLabels_default,
    ok_bind]
  cases headers with
  | nil => rfl
  | cons header headers =>
    simp only [withHeaders, List.map_cons, counted, ok_bind, same, Nat.sub_self,
      List.replicate_zero, List.nil_append]
    rfl

/-- The rows that are no separating lines. -/
def keptRows (rows : List (List Value)) : List (List Value) :=
  rows.filter fun row => !isSeparator row

def separatorPlaces (rows : List (List Value)) : List Nat :=
  (removeSeparators (rows.map .list)).2

theorem removeSeparators_eq (rows : List (List Value)) :
    removeSeparators (rows.map .list) = ((keptRows rows).map .list, separatorPlaces rows) := by
  refine Prod.ext ?_ rfl
  exact List.filter_map

theorem separatorPlaces_ne_nil (nonempty : rows ≠ []) (none : keptRows rows = []) :
    separatorPlaces rows ≠ [] := by
  obtain ⟨first, rest, rfl⟩ := List.exists_cons_of_ne_nil nonempty
  have separator : isSeparatorRow (.list first) = true := by
    change isSeparator first = true
    simpa using List.filter_eq_nil_iff.mp none first List.mem_cons_self
  simp [separatorPlaces, removeSeparators, List.zipIdx_cons, separator]

theorem prepare_eq (nonempty : rows ≠ [])
    (uniform : ∀ row ∈ rows, row.length = headers.length) :
    prepare (gridOptions headers) (.list (rows.map .list)) =
      .ok (keptRows rows, separatorPlaces rows, textValues headers) := by
  have iterated : ((keptRows rows).map Value.list).mapM Value.iterate = .ok (keptRows rows) :=
    mapM_eq_ok_iff.mpr (List.forall₂_map_left_iff.mpr (List.forall₂_same.mpr fun row _ => rfl))
  simp only [prepare, gridOptions, normalize_eq nonempty uniform, ok_bind, removeSeparators_eq,
    iterated, pure_bind]
  rfl

end Rows

/-! ## Columns -/

section Columns

variable {columns : List (List Value)}

theorem zip_settings {α β γ : Type} (kind : α → β) (items : List α) (real integer missing : γ) :
    items.zip ((items.map kind).zip ((List.replicate items.length real).zip
      ((List.replicate items.length integer).zip (List.replicate items.length missing)))) =
        items.map fun item => (item, kind item, real, integer, missing) := by
  simp only [← List.map_const', List.zip_map', List.map_prod_left_eq_zip]

theorem mapM_columnKind (each : ∀ cells ∈ columns, ∀ cell ∈ cells, IsCell cell) :
    (columns.zip (List.replicate columns.length true)).mapM
      (fun (cells, reads) => columnKind cells true reads) = .ok (columns.map kindOfCells) := by
  rw [← List.map_const', ← List.map_prod_left_eq_zip, List.mapM_map]
  exact mapM_of_forall fun cells member => columnKind_eq (each cells member)

theorem formatColumns_eq (headers : List Text) (styled : Bool)
    (each : ∀ cells ∈ columns, ∀ cell ∈ cells, IsCell cell) :
    formatColumns (gridOptions headers) (.bool false) styled columns =
      (columns.mapM fun cells =>
        cells.mapM (formatCell (plainFormat (kindOfCells cells) styled))) >>=
          fun shown => .ok (shown, columns.map kindOfCells) := by
  have reading : expandNumberReading (.bool false) columns.length =
      .ok (List.replicate columns.length true) := rfl
  have kinds := mapM_columnKind each
  have reals : perColumn (gridOptions headers).realFormat columns.length (.ofString "g") =
      .ok (List.replicate columns.length (.ofString "g")) := rfl
  have integers : perColumn (gridOptions headers).integerFormat columns.length (.ofString "") =
      .ok (List.replicate columns.length (.ofString "")) := rfl
  have missing : perColumn (gridOptions headers).missing columns.length (.ofString "") =
      .ok (List.replicate columns.length (.ofString "")) := rfl
  simp only [formatColumns, reading, kinds, reals, integers, missing, ok_bind, zip_settings,
    List.mapM_map]
  rfl

theorem length_alignColumn (alignment : Alignment) (measure : Measure) (least : Nat)
    (cells : List Text) : (alignColumn alignment measure least cells).length = cells.length := by
  have prepared : (alignment.prepare measure.ignoresStyle cells).length = cells.length := by
    cases alignment <;> simp [Alignment.prepare, padDecimals]
  unfold alignColumn
  dsimp only
  split_ifs <;> rw [List.length_map, prepared]

theorem alignable_eq {cells : List Value} (texts : ∀ cell ∈ cells, ∃ text, cell = .str text)
    (alignment : Alignment) : alignable alignment cells = .ok (cells.map Value.toText) := by
  refine mapM_of_forall fun cell member => ?_
  obtain ⟨text, rfl⟩ := texts cell member
  rfl

theorem alignColumns_eq (filled : ∀ cells ∈ columns, cells ≠ [])
    (texts : ∀ cells ∈ columns, ∀ cell ∈ cells, ∃ text, cell = .str text) (measure : Measure)
    (alignments : List Alignment) (least : List Nat) :
    alignColumns measure alignments least columns =
      .ok ((columns.zip (alignments.zip least)).map fun (cells, alignment, width) =>
        alignColumn alignment measure width (cells.map Value.toText)) := by
  refine mapM_of_forall fun ⟨cells, alignment, width⟩ member => ?_
  have inside := (List.of_mem_zip member).1
  have nonempty : (cells.map Value.toText).isEmpty = false := by
    simpa using filled cells inside
  simp only [alignable_eq (texts cells inside), ok_bind, alignCells, nonempty]
  rfl

theorem rowsOf_ne_nil {measure : Measure} {alignments : List Alignment} {least : List Nat}
    (filled : ∀ cells ∈ columns, cells ≠ []) (some : columns ≠ [])
    (aligned : alignments ≠ []) (wide : least ≠ []) :
    rowsOf ((columns.zip (alignments.zip least)).map fun (cells, alignment, width) =>
      alignColumn alignment measure width (cells.map Value.toText)) ≠ [] := by
  obtain ⟨cells, columns, rfl⟩ := List.exists_cons_of_ne_nil some
  obtain ⟨alignment, alignments, rfl⟩ := List.exists_cons_of_ne_nil aligned
  obtain ⟨width, least, rfl⟩ := List.exists_cons_of_ne_nil wide
  have nonempty := filled cells List.mem_cons_self
  simp [rowsOf, length_alignColumn, nonempty]

end Columns

/-! ## Rows and columns -/

theorem foldl_max_of_forall {width start : Nat} {numbers : List Nat} (low : start ≤ width)
    (nonempty : numbers ≠ []) (each : ∀ number ∈ numbers, number = width) :
    numbers.foldl max start = width := by
  induction numbers generalizing start with
  | nil => exact absurd rfl nonempty
  | cons number numbers induction =>
    obtain ⟨rfl, later⟩ := List.forall_mem_cons.mp each
    rw [List.foldl_cons, max_eq_right low]
    cases numbers with
    | nil => rfl
    | cons second others => exact induction le_rfl (List.cons_ne_nil _ _) later

theorem transpose_eq {width : Nat} {rows : List (List Value)} (nonempty : rows ≠ [])
    (uniform : ∀ row ∈ rows, row.length = width) :
    transpose rows =
      (List.range width).map fun column => rows.map fun row => row.getD column .none := by
  have widest : (rows.map List.length).foldl max 0 = width := by
    refine foldl_max_of_forall (Nat.zero_le _) (by simpa using nonempty) fun length member => ?_
    obtain ⟨row, inside, rfl⟩ := List.mem_map.mp member
    exact uniform row inside
  simp only [transpose, widest]

theorem transpose_ne_nil {width : Nat} {rows : List (List Value)} (nonempty : rows ≠ [])
    (uniform : ∀ row ∈ rows, row.length = width) (wide : 0 < width) : transpose rows ≠ [] := by
  rw [transpose_eq nonempty uniform]
  simp
  omega

theorem ne_nil_of_mem_transpose {rows : List (List Value)} (nonempty : rows ≠ [])
    {cells : List Value} (member : cells ∈ transpose rows) : cells ≠ [] := by
  obtain ⟨column, -, rfl⟩ := List.mem_map.mp member
  simpa using nonempty

theorem exists_row_of_mem_transpose {width : Nat} {rows : List (List Value)}
    (uniform : ∀ row ∈ rows, row.length = width) {cells : List Value} {cell : Value}
    (member : cells ∈ transpose rows) (inside : cell ∈ cells) : ∃ row ∈ rows, cell ∈ row := by
  by_cases nonempty : rows = []
  · subst nonempty
    nomatch member
  · rw [transpose_eq nonempty uniform] at member
    obtain ⟨column, bounded, rfl⟩ := List.mem_map.mp member
    obtain ⟨row, place, rfl⟩ := List.mem_map.mp inside
    have present : column < row.length := by
      rw [uniform row place]
      exact List.mem_range.mp bounded
    refine ⟨row, place, ?_⟩
    rw [List.getD_eq_getElem?_getD, List.getElem?_eq_getElem present]
    exact List.getElem_mem present

theorem insertAt_ne_nil {α : Type} (item : α) (position : Nat) (items : List α) :
    insertAt item position items ≠ [] := by
  cases position <;> cases items <;> exact List.cons_ne_nil _ _

theorem reinsertSeparators_ne_nil {α : Type} (line : α) {places : List Nat} {items : List α}
    (some : places ≠ [] ∨ items ≠ []) : reinsertSeparators line places items ≠ [] := by
  unfold reinsertSeparators
  induction places generalizing items with
  | nil => exact some.resolve_left fun absent => absent rfl
  | cons place places induction => exact induction (.inr (insertAt_ne_nil line place items))

/-! ## Grids -/

theorem map_plainText_textValues (texts : List Text) :
    (textValues texts).map plainText = texts := by
  rw [textValues, List.map_map]
  exact List.map_id texts

section Grid

variable {headers : List Text} {rows : List (List Value)}

theorem sheet_eq (nonempty : rows ≠ []) (uniform : ∀ row ∈ rows, row.length = headers.length) :
    Sheet.ofData (gridOptions headers) (.list (rows.map .list)) =
      .ok ⟨headers, keptRows rows, separatorPlaces rows⟩ := by
  have otherName : (gridOptions headers).isNamed "rst" = false := by
    change (some "grid".toList == some "rst".toList) = false
    decide
  rw [Sheet.ofData, prepare_eq nonempty uniform, ok_bind]
  simp only [otherName, map_plainText_textValues]
  rfl

def gridSheet (headers : List Text) (rows : List (List Value)) : Sheet :=
  ⟨headers, keptRows rows, separatorPlaces rows⟩

/-- How the widths of a grid are measured. -/
def gridMeasure (headers : List Text) (rows : List (List Value)) : Measure :=
  (gridSheet headers rows).measure (gridOptions headers).style

/-- The columns of a grid as they are written. -/
def writtenColumns (headers : List Text) (rows : List (List Value)) :
    Except Fault (List (List Value)) :=
  (transpose (keptRows rows)).mapM fun cells => cells.mapM
    (formatCell (plainFormat (kindOfCells cells) (gridMeasure headers rows).ignoresStyle))

/-- The alignments of the columns of a grid. -/
def gridAlignments (headers : List Text) (rows : List (List Value)) : List Alignment :=
  (transpose (keptRows rows)).map fun cells => Alignment.ofValue
    (if (kindOfCells cells).isNumeric then (gridOptions headers).standingNumber
      else (gridOptions headers).standingText)

theorem length_of_mem_keptRows (uniform : ∀ row ∈ rows, row.length = headers.length) :
    ∀ row ∈ keptRows rows, row.length = headers.length :=
  fun row kept => uniform row (List.mem_of_mem_filter kept)

theorem isCell_of_mem_transpose (uniform : ∀ row ∈ rows, row.length = headers.length)
    (each : ∀ row ∈ rows, ∀ cell ∈ row, IsCell cell) :
    ∀ cells ∈ transpose (keptRows rows), ∀ cell ∈ cells, IsCell cell := by
  intro cells member cell inside
  obtain ⟨row, kept, place⟩ :=
    exists_row_of_mem_transpose (length_of_mem_keptRows uniform) member inside
  exact each row (List.mem_of_mem_filter kept) cell place

theorem isNamed_pretty_gridOptions (headers : List Text) :
    (gridOptions headers).isNamed "pretty" = false := by
  change (some "grid".toList == some "pretty".toList) = false
  decide

/-- Once its columns are written, a grid is laid out by aligning them. -/
theorem layOut_eq (nonempty : rows ≠ []) (uniform : ∀ row ∈ rows, row.length = headers.length)
    (each : ∀ row ∈ rows, ∀ cell ∈ row, IsCell cell) :
    layOut (gridOptions headers) (.list (rows.map .list)) = do
      let columns ← writtenColumns headers rows
      let least := (gridSheet headers rows).leastWidths (gridMeasure headers rows) false
        columns.length
      let aligned ← alignColumns (gridMeasure headers rows) (gridAlignments headers rows) least
        columns
      return (gridSheet headers rows).layout (gridMeasure headers rows)
        (.ofValue (gridOptions headers).standingText) (gridAlignments headers rows) least aligned
        (List.replicate (rowsOf aligned).length .none) := by
  have checked : (gridOptions headers).style.check = .ok () := rfl
  have keeps : (gridOptions headers).keepsTexts = .bool false := rfl
  have aligned (kinds : List CellKind) : (gridOptions headers).alignments kinds =
      .ok (kinds.map fun kind => Alignment.ofValue (if kind.isNumeric then
        (gridOptions headers).standingNumber else (gridOptions headers).standingText)) := rfl
  have standing (count : Nat) : (gridOptions headers).verticals count =
      .ok (List.replicate count .none) := rfl
  rw [layOut, sheet_eq nonempty uniform, ok_bind, checked, ok_bind]
  have written := fun styled =>
    formatColumns_eq headers styled (isCell_of_mem_transpose uniform each)
  simp only [isNamed_pretty_gridOptions, keeps, Bool.false_eq_true, if_false, written, aligned,
    standing, bind_assoc, ok_bind, List.map_map]
  rfl

theorem not_isStyled_of_mem (uniform : ∀ row ∈ rows, row.length = headers.length)
    (plain : (gridMeasure headers rows).ignoresStyle = false) {cells : List Value}
    (member : cells ∈ transpose (keptRows rows)) {text : Text} (inside : .str text ∈ cells) :
    Text.isStyled text = false := by
  obtain ⟨row, kept, place⟩ :=
    exists_row_of_mem_transpose (length_of_mem_keptRows uniform) member inside
  have among : .str text ∈ (keptRows rows).flatten := List.mem_flatten.mpr ⟨row, kept, place⟩
  have shown : text ∈ headers ++ (keptRows rows).flatten.map plainText :=
    List.mem_append_right _ (List.mem_map.mpr ⟨.str text, among, rfl⟩)
  by_contra styled
  have whole : (gridMeasure headers rows).ignoresStyle = true :=
    Text.isStyled_join shown (Bool.not_eq_false _ ▸ styled)
  rw [plain] at whole
  nomatch whole

theorem exists_writtenColumns_iff (uniform : ∀ row ∈ rows, row.length = headers.length)
    (each : ∀ row ∈ rows, ∀ cell ∈ row, IsCell cell) :
    (∃ columns, writtenColumns headers rows = .ok columns) ↔
      ∀ cells ∈ transpose (keptRows rows), ¬ Clashes cells := by
  rw [writtenColumns, exists_mapM_iff]
  refine forall₂_congr fun cells member => ?_
  exact exists_mapM_formatCell_iff (isCell_of_mem_transpose uniform each cells member)
    fun plain text inside => not_isStyled_of_mem uniform plain member inside

section Written

variable {columns : List (List Value)}

theorem ne_nil_of_written (written : writtenColumns headers rows = .ok columns) :
    ∀ shown ∈ columns, shown ≠ [] := by
  intro shown member
  obtain ⟨cells, inside, done⟩ := exists_of_mem_mapM written member
  have same := (mapM_eq_ok_iff.mp done).length_eq
  have some : keptRows rows ≠ [] := by
    intro none
    rw [none] at inside
    nomatch inside
  have filled := List.length_pos_iff.mpr (ne_nil_of_mem_transpose some inside)
  exact List.length_pos_iff.mp (same ▸ filled)

theorem exists_str_of_written (uniform : ∀ row ∈ rows, row.length = headers.length)
    (each : ∀ row ∈ rows, ∀ cell ∈ row, IsCell cell)
    (written : writtenColumns headers rows = .ok columns) :
    ∀ shown ∈ columns, ∀ cell ∈ shown, ∃ text, cell = .str text := by
  intro shown member cell inside
  obtain ⟨cells, place, done⟩ := exists_of_mem_mapM written member
  obtain ⟨given, among, format⟩ := exists_of_mem_mapM done inside
  refine exists_str_of_formatCell (isCell_of_mem_transpose uniform each cells place given among)
    ?_ format
  rintro plain text rfl
  exact not_isStyled_of_mem uniform plain place among

end Written

/-- A table with separating lines only has no vertical alignment for its last line. -/
theorem exists_draw_layout_iff (sheet : Sheet) (measure : Measure) (standing : Alignment)
    (alignments : List Alignment) (least : List Nat) (aligned : List (List Text)) :
    (∃ text, (sheet.layout measure standing alignments least aligned
      (List.replicate (rowsOf aligned).length .none)).draw gridStyle = .ok text) ↔
      sheet.separators = [] ∨ rowsOf aligned ≠ [] := by
  rw [exists_draw_iff]
  have verticals :
      List.replicate (rowsOf aligned).length Value.none ≠ [] ↔ rowsOf aligned ≠ [] := by
    simp
  refine (or_congr_right verticals).trans ⟨?_, ?_⟩
  · rintro (none | some)
    · by_contra absent
      rw [not_or] at absent
      have some : reinsertSeparators Row.separator sheet.separators
          ((rowsOf aligned).map .cells) ≠ [] :=
        reinsertSeparators_ne_nil Row.separator (.inl absent.1)
      exact some none
    · exact .inr some
  · rintro (none | some)
    · by_cases empty : rowsOf aligned = []
      · left
        simp [Sheet.layout, none, empty, reinsertSeparators]
      · exact .inr empty
    · exact .inr some

/-- A grid is drawn if and only if it has a row that is no separating line, and no column of such
rows clashes. -/
theorem exists_render_iff (wide : headers ≠ []) (nonempty : rows ≠ [])
    (uniform : ∀ row ∈ rows, row.length = headers.length)
    (each : ∀ row ∈ rows, ∀ cell ∈ row, IsCell cell) :
    (∃ text, render (gridOptions headers) (.list (rows.map .list)) = .ok text) ↔
      keptRows rows ≠ [] ∧ ∀ cells ∈ transpose (keptRows rows), ¬ Clashes cells := by
  have style : (gridOptions headers).style.style = gridStyle := rfl
  rw [← exists_writtenColumns_iff uniform each, render, layOut_eq nonempty uniform each, style]
  cases written : writtenColumns headers rows with
  | error fault => simp [bind, Except.bind]
  | ok columns =>
    have filled := ne_nil_of_written written
    have same := (mapM_eq_ok_iff.mp written).length_eq
    simp only [ok_bind, alignColumns_eq filled (exists_str_of_written uniform each written),
      pure_bind, exists_draw_layout_iff, Except.ok.injEq, exists_eq', and_true]
    constructor
    · rintro bottom none
      have places : separatorPlaces rows ≠ [] := separatorPlaces_ne_nil nonempty none
      have noColumns : columns = [] := by
        rw [none] at same
        exact List.eq_nil_of_length_eq_zero same.symm
      rcases bottom with absent | some
      · exact places absent
      · subst noColumns
        exact some rfl
    · intro kept
      have across := List.length_pos_iff.mpr
        (transpose_ne_nil kept (length_of_mem_keptRows uniform) (List.length_pos_iff.mpr wide))
      have some : columns ≠ [] := List.length_pos_iff.mp (same ▸ across)
      have aligned : gridAlignments headers rows ≠ [] := by
        rw [gridAlignments, ← List.length_pos_iff, List.length_map]
        exact across
      have least : (gridSheet headers rows).leastWidths (gridMeasure headers rows) false
          columns.length ≠ [] := by
        simp [Sheet.leastWidths, gridSheet, wide]
      exact .inr (rowsOf_ne_nil filled some aligned least)

end Grid

end TypeSurvey.Table
