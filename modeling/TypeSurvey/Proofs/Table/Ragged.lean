import TypeSurvey.Proofs.Table.Ink
import TypeSurvey.Proofs.Table.Rectangle

/-!
# Grids of ragged rows

Rows may have different numbers of cells. Headers are filled up from the left to the length of the
first row, and columns behind the headers are left out. So a grid has as many columns as there are
headers, or as the first row has cells if these are more. In each column stand its header and its
cells. What other rows have behind these columns is in no line of the grid.
-/

namespace TypeSurvey.Table

open Text (ink)

/-! ## What columns show -/

/-- What lines in pieces show in a column. -/
def columnInk (lines : List (List Text)) (column : Nat) : Text :=
  lines.flatMap fun line => ink (line.getD column [])

/-- Whether something is what a text shows. If both escape sequences are measured and cells have
several lines, it may be a part of this from its front. -/
def IsInkOf (measure : Measure) (text shown : Text) : Prop :=
  shown <+: ink text ∧
    (measure.ignoresStyle = false ∨ measure.multiline = false → shown = ink text)

theorem map_getD_range {α : Type} {items : List α} {count : Nat} (length : items.length = count)
    (other : α) : (List.range count).map (fun index => items.getD index other) = items := by
  refine List.ext_getElem (by simp [length]) fun index _ bound => ?_
  simp [bound]

section Pieces

variable {multiline : Bool} {widths : List Nat} {cells : List Text}
  (same : cells.length = widths.length)

include same

theorem length_of_mem_rowPieces {line : List Text}
    (member : line ∈ rowPieces multiline widths cells) : line.length = widths.length := by
  cases multiline with
  | false => rw [List.mem_singleton.mp member, same]
  | true =>
    obtain ⟨index, -, rfl⟩ := List.mem_map.mp member
    simp [same]

/-- A column of a row shows what its cell shows. -/
theorem columnInk_rowPieces {column : Nat} (bound : column < widths.length) :
    columnInk (rowPieces multiline widths cells) column = ink (cells.getD column []) := by
  have inside : column < cells.length := same ▸ bound
  cases multiline with
  | false => exact List.append_nil _
  | true =>
    have high : (Text.splitLines cells[column]).length ≤
        greatest ((cells.map Text.splitLines).map List.length) :=
      le_greatest (List.mem_map_of_mem (List.mem_map_of_mem (List.getElem_mem inside)))
    rw [columnInk, rowPieces, if_pos rfl]
    dsimp only
    generalize greatest ((cells.map Text.splitLines).map List.length) = count at high
    obtain ⟨filled, shape⟩ : ∃ filled, filled =
        alignVertically (Text.splitLines cells[column]) count widths[column] .none := ⟨_, rfl⟩
    have lines : filled = Text.splitLines cells[column] ++ List.replicate
        (count - (Text.splitLines cells[column]).length) (List.replicate widths[column] ' ') :=
      shape
    have height : filled.length = count := by
      rw [lines, List.length_append, List.length_replicate]
      omega
    calc _ = ((List.range count).map fun line => filled.getD line []).flatMap ink := by
          rw [List.flatMap_map, List.flatMap_map, shape]
          refine List.flatMap_congr fun line _ => ?_
          simp [bound, inside]
      _ = (Text.splitLines cells[column]).flatMap ink := by
          rw [map_getD_range height, lines]
          simp
      _ = ink (cells.getD column []) := by
          rw [Text.flatMap_ink_splitLines]
          simp [inside]

end Pieces

theorem ink_alignHeader (alignment : Alignment) (measure : Measure) (width : Nat) (header : Text) :
    ink (alignHeader alignment measure width header) = ink header := by
  have line (visible : Nat) (line : Text) :
      ink (padHeaderLine alignment width visible line) = ink line := by
    cases alignment <;> simp [padHeaderLine, padLeft, padRight, padBoth]
  unfold alignHeader
  split_ifs
  · simp only [Text.ink_join, List.flatMap_map, line]
    exact flatMap_ink_pieces header
  · exact line _ header

/-- The aligned cells of a strip show what its texts show. -/
theorem forall₂_isInkOf_aligned (measure : Measure) (strip : Strip) :
    List.Forall₂ (fun text shown => IsInkOf measure text (ink shown)) strip.texts
      (strip.aligned measure) := by
  obtain ⟨ready, prepared, keeps, -⟩ :=
    exists_prepare_eq strip.alignment measure.ignoresStyle strip.texts
  rw [Strip.aligned, alignColumn, prepared]
  generalize columnWidth measure strip.least (strip.texts.map ready) = width
  split_ifs with multiline
  · rw [List.map_map, List.forall₂_map_right_iff, List.forall₂_same]
    intro text _
    obtain ⟨part, whole⟩ := ink_padLines strip.alignment measure width (ready text)
    rw [keeps] at part whole
    exact ⟨part, fun known => whole (by simpa [multiline] using known)⟩
  · rw [List.map_map, List.forall₂_map_right_iff, List.forall₂_same]
    intro text _
    have same : ink (strip.alignment.padLine measure width (ready text)) = ink text := by
      rw [Alignment.padLine, ink_pad, keeps]
    exact ⟨same ▸ List.prefix_rfl, fun _ => same⟩

/-! ## Grids of strips -/

section Strips

variable {sheet : Sheet} {measure : Measure} {standing : Alignment} {alignments : List Alignment}
  {strips : List Strip} {count : Nat} {text : Text}

/-- A sheet with a strip below each of its headers is drawn as a grid whose columns show the headers
and the strips. -/
theorem exists_gridBlocks_of_draw (headed : sheet.headers ≠ [])
    (unseparated : sheet.separators = []) (below : strips.length = sheet.headers.length)
    (aligned : sheet.headers.length ≤ alignments.length) (filled : 0 < count)
    (lengths : ∀ strip ∈ strips, (strip.aligned measure).length = count)
    (drawn : (sheet.layout measure standing alignments (strips.map Strip.least)
        (strips.map (Strip.aligned measure)) (List.replicate
          (rowsOf (strips.map (Strip.aligned measure))).length .none)).draw gridStyle = .ok text) :
    ∃ widths header blocks, text = gridBlocks widths header blocks ∧
      widths.length = sheet.headers.length ∧
      (∀ line ∈ header ++ blocks.flatten, line.length = widths.length) ∧
      ∀ column < widths.length, columnInk header column = ink (sheet.headers.getD column []) ∧
        ∀ strip ∈ strips[column]?, blocks.map (columnInk · column) =
          (strip.aligned measure).map ink := by
  have some : strips ≠ [] := by
    rw [← List.length_pos_iff, below]
    exact List.length_pos_iff.mpr headed
  have shape := rowsOf_map some lengths
  generalize tableEq : Sheet.layout _ _ _ _ _ _ _ = table at drawn
  have widths : table.widths.length = sheet.headers.length := by
    rw [← tableEq, ← below]
    simp [Sheet.layout, headed, some]
  have headers : table.headers = (sheet.headers.zip (alignments.zip table.widths)).map
      fun entry => alignHeader entry.2.1 measure entry.2.2 entry.1 := by
    rw [← tableEq]
    simp [Sheet.layout, some]
  have headerCount : table.headers.length = table.widths.length := by
    rw [headers]
    simp [widths, aligned]
  have cells : table.rows = (rowsOf (strips.map (Strip.aligned measure))).map .cells := by
    rw [← tableEq]
    simp [Sheet.layout, unseparated, reinsertSeparators]
  have wide : ∀ row ∈ rowsOf (strips.map (Strip.aligned measure)),
      row.length = table.widths.length := by
    rw [shape]
    intro row member
    obtain ⟨index, -, rfl⟩ := List.mem_map.mp member
    rw [List.length_map, widths, below]
  have positive : 0 < table.widths.length := widths ▸ List.length_pos_iff.mpr headed
  have drawing := draw_grid (List.length_pos_iff.mp (headerCount ▸ positive))
    (List.length_pos_iff.mp positive)
    (by simpa [shape] using filled.ne')
    (fun row member => List.length_pos_iff.mp (wide row member ▸ positive)) cells
    (by rw [← tableEq]; rfl)
  refine ⟨_, _, _, Except.ok.inj (drawn.symm.trans drawing), widths, ?_,
    fun column bound => ⟨?_, ?_⟩⟩
  · intro line member
    rcases List.mem_append.mp member with header | inside
    · exact length_of_mem_rowPieces headerCount header
    · obtain ⟨block, place, inside⟩ := List.mem_flatten.mp inside
      obtain ⟨row, among, rfl⟩ := List.mem_map.mp place
      exact length_of_mem_rowPieces (wide row among) inside
  · rw [columnInk_rowPieces headerCount bound, headers]
    have header : column < sheet.headers.length := widths ▸ bound
    simp [bound, header, header.trans_le aligned, ink_alignHeader]
  · intro strip found
    obtain ⟨place, rfl⟩ := List.getElem?_eq_some_iff.mp found
    have rows := map_getD_range (lengths strips[column] (List.getElem_mem place)) []
    calc _ = (rowsOf (strips.map (Strip.aligned measure))).map fun row =>
            ink (row.getD column []) := by
          rw [List.map_map]
          exact List.map_congr_left fun row member => columnInk_rowPieces (wide row member) bound
      _ = ((List.range count).map fun index =>
            (strips[column].aligned measure).getD index []).map ink := by
          rw [shape, List.map_map, List.map_map]
          exact List.map_congr_left fun index _ => by simp [place]
      _ = _ := by rw [rows]

end Strips

/-! ## Ragged rows -/

theorem forall₂_comp {α β γ : Type} {first : α → β → Prop} {second : β → γ → Prop}
    {items : List α} {middle : List β} {others : List γ} (front : List.Forall₂ first items middle)
    (back : List.Forall₂ second middle others) :
    List.Forall₂ (fun item other => ∃ between, first item between ∧ second between other) items
      others := by
  induction front generalizing others with
  | nil =>
    cases back
    exact .nil
  | cons here _ induction =>
    cases back with
    | cons there later => exact .cons ⟨_, here, there⟩ (induction later)

/-- The sheet of rows of texts, with headers filled up to the length of the first row. -/
def raggedSheet (headers : List Text) (rows : List (List Text)) : Sheet :=
  ⟨filledHeaders (rows.headD []).length headers, rows.map textValues, []⟩

def cellAt (column : Nat) (row : List Text) : Value := (textValues row).getD column .none

/-- Whether a text is a grid with a column for each header, after the headers have been filled up to
the length of the first row. Each column shows its header, and the cells of the rows as they are
written in the format of the column. -/
def IsRaggedGrid (headers : List Text) (rows : List (List Text)) (text : Text) : Prop :=
  let measure := (raggedSheet headers rows).measure (.named (.ofString "grid"))
  ∃ widths header blocks, text = gridBlocks widths header blocks ∧
    widths.length = max headers.length (rows.headD []).length ∧
    (∀ line ∈ header ++ blocks.flatten, line.length = widths.length) ∧
    ∀ column < widths.length,
      columnInk header column =
        ink ((filledHeaders (rows.headD []).length headers).getD column []) ∧
      ∃ kind, columnKind (rows.map (cellAt column)) true true = .ok kind ∧
        List.Forall₂ (fun row block => ∃ written,
          formatCell (plainFormat kind measure.ignoresStyle) (cellAt column row) =
            .ok (.str written) ∧ IsInkOf measure written (columnInk block column)) rows blocks

section Ragged

variable {headers : List Text} {rows : List (List Text)} {text : Text}

theorem length_filledHeaders (headed : headers ≠ []) (width : Nat) :
    (filledHeaders width headers).length = max headers.length width := by
  simp only [filledHeaders, List.isEmpty_eq_false_iff.mpr headed, Bool.false_eq_true, if_false,
    List.length_append, List.length_replicate]
  omega

theorem transpose_ragged :
    transpose (rows.map textValues) = (List.range (greatest (rows.map List.length))).map
      fun column => rows.map (cellAt column) := by
  simp only [transpose, greatest, List.map_map, textValues, Function.comp_def, List.length_map]
  rfl

theorem ofData_ragged (nonempty : rows ≠ [])
    (unmarked : ∀ row ∈ rows, isSeparator (textValues row) = false) :
    Sheet.ofData (namedOptions (.list (textValues headers)) "grid")
      (.list (rows.map fun row => .list (textValues row))) = .ok (raggedSheet headers rows) := by
  have shape : (rows.map fun row => Value.list (textValues row)) =
      (rows.map textValues).map .list := (List.map_map).symm
  rw [shape]
  refine ofData_rows (by simpa using nonempty) (fun row first => ?_) ?_ (by decide)
  · obtain ⟨row, others, rfl⟩ := List.exists_cons_of_ne_nil nonempty
    obtain rfl := Option.some.inj first
    exact List.length_map _
  · simpa using unmarked

/-- If headers are no more than the cells of some row, rows of texts that are drawn as a grid are
drawn in the columns below the headers. -/
theorem isRaggedGrid_of_render (headed : headers ≠ [])
    (short : ∃ row ∈ rows, headers.length ≤ row.length)
    (unmarked : ∀ row ∈ rows, isSeparator (textValues row) = false)
    (drawn : render (namedOptions (.list (textValues headers)) "grid")
      (.list (rows.map fun row => .list (textValues row))) = .ok text) :
    IsRaggedGrid headers rows text := by
  unfold IsRaggedGrid
  intro measure
  obtain ⟨longest, member, enough⟩ := short
  have nonempty : rows ≠ [] := List.ne_nil_of_mem member
  have counted := length_filledHeaders headed (rows.headD []).length
  have few : (raggedSheet headers rows).headers.length ≤
      (transpose (raggedSheet headers rows).rows).length := by
    obtain ⟨first, others, rfl⟩ := List.exists_cons_of_ne_nil nonempty
    simp only [raggedSheet, transpose_ragged, List.length_map, List.length_range, counted]
    exact Nat.max_le.mpr ⟨enough.trans (le_greatest (List.mem_map_of_mem member)),
      le_greatest List.mem_cons_self⟩
  obtain ⟨table, laid, made⟩ := bind_eq_ok.mp drawn
  obtain ⟨strips, alignments, written, least, aligned, -, standing, rfl⟩ :=
    exists_strips_of_short (ofData_ragged nonempty unmarked) (isSimple_of_mem_textValues rows)
      laid few
  have headers_ne : (raggedSheet headers rows).headers ≠ [] := by
    rw [← List.length_pos_iff]
    exact lt_of_lt_of_eq (lt_max_of_lt_left (List.length_pos_iff.mpr headed)) counted.symm
  have below : strips.length = (raggedSheet headers rows).headers.length := by
    rw [← List.length_map (f := Strip.least), least]
    simp [Sheet.leastWidths, headers_ne]
  have lengths : ∀ strip ∈ strips, (strip.aligned measure).length = rows.length := by
    intro strip inside
    obtain ⟨cells, place, kind, -, -, formatted⟩ := exists_of_mem_right written inside
    obtain ⟨column, -, rfl⟩ := List.mem_map.mp (List.mem_of_mem_take place)
    rw [Strip.aligned, length_alignColumn, ← formatted.length_eq]
    simp [raggedSheet]
  obtain ⟨widths, header, blocks, shape, width, lines, columns⟩ := exists_gridBlocks_of_draw
    headers_ne rfl below (few.trans_eq aligned.symm) (List.length_pos_iff.mpr nonempty) lengths made
  refine ⟨widths, header, blocks, shape, width.trans counted, lines, fun column bound => ?_⟩
  obtain ⟨headerInk, cellInk⟩ := columns column bound
  have place : column < strips.length := below ▸ width ▸ bound
  have cells := written.get (by simpa [place] using place.trans_le (below ▸ few)) place
  simp only [raggedSheet, transpose_ragged, List.get_eq_getElem, List.getElem_take,
    List.getElem_map, List.getElem_range] at cells
  obtain ⟨kind, known, -, formatted⟩ := cells
  refine ⟨headerInk, kind, known, ?_⟩
  have shown := List.forall₂_map_right_iff.mpr (forall₂_isInkOf_aligned measure strips[column])
  rw [← cellInk strips[column] (List.getElem?_eq_getElem place)] at shown
  exact forall₂_comp (List.forall₂_map_left_iff.mp formatted) (List.forall₂_map_right_iff.mp shown)

end Ragged

/-- A row of three cells after one of two and one of one. -/
def raggedRows : List (List Text) := [[['x'], "1.5".toList], [['y']], [['z'], ['2'], ['w']]]

theorem isRaggedGrid_raggedRows :
    ∃ text, render (namedOptions (.list (textValues [['h']])) "grid")
      (.list (raggedRows.map fun row => .list (textValues row))) = .ok text ∧
        IsRaggedGrid [['h']] raggedRows text := by
  have shown : (render (namedOptions (.list (textValues [['h']])) "grid")
      (.list (raggedRows.map fun row => .list (textValues row)))).isOk = true := by decide +kernel
  obtain ⟨text, drawn⟩ := exists_of_isOk shown
  refine ⟨text, drawn, isRaggedGrid_of_render (List.cons_ne_nil _ _) ?_ ?_ drawn⟩
  · exact ⟨_, List.mem_cons_self, by decide⟩
  · decide

/-- The second cell of the second row is left out below a header and a first row of one cell. -/
theorem render_ragged_cut :
    render (namedOptions (.list (textValues [['h']])) "grid")
        (.list [.list (textValues [['a']]), .list (textValues [['b'], ['c']])]) =
      .ok "+-----+\n| h   |\n+=====+\n| a   |\n+-----+\n| b   |\n+-----+".toList :=
  eq_ok_of_toOption (by decide +kernel)

end TypeSurvey.Table
