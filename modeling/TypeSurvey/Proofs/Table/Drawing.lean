import TypeSurvey.Proofs.Table.Alignment

/-!
# The lines of a grid

A grid of cells of one line each has a rule, the line of the header, another rule, and then a line
and a rule for each row. The line of a row shows its texts between bars, which stand below each
other and below the corners of the rules.
-/

namespace TypeSurvey.Table

/-! ## Lines -/

/-- A rule over columns of these widths, with corners between them. -/
def gridRule (fill : Char) (widths : List Nat) : Text :=
  '+' :: widths.flatMap fun width => List.replicate (width + 2) fill ++ ['+']

/-- The line of a row of cells, with blanks around them and bars between them. -/
def gridLine (cells : List Text) : Text :=
  '|' :: cells.flatMap fun cell => ' ' :: cell ++ [' ', '|']

def gridText (widths : List Nat) (header : Text) (lines : List Text) : Text :=
  Text.join ['\n'] (gridRule '-' widths :: header :: gridRule '=' widths ::
    lines.flatMap fun line => [line, gridRule '-' widths])

/-- The lines of a row in pieces, one for each column. -/
def rowPieces (multiline : Bool) (widths : List Nat) (cells : List Text) : List (List Text) :=
  if multiline then
    let columns := cells.map Text.splitLines
    let count := greatest (columns.map List.length)
    let filled := columns.zipWith
      (fun lines width => alignVertically lines count width .none) widths
    (List.range count).map fun line => filled.map fun column => column.getD line []
  else [cells]

/-- A grid of rows whose lines are in pieces. -/
def gridBlocks (widths : List Nat) (header : List (List Text)) (blocks : List (List (List Text))) :
    Text :=
  Text.join ['\n'] (gridRule '-' widths :: (header.map gridLine ++ gridRule '=' widths ::
    blocks.flatMap fun block => block.map gridLine ++ [gridRule '-' widths]))

/-- Whether a line shows texts between bars, in columns of these widths. -/
inductive LineShows : List Nat → List Text → Text → Prop
  | nil : LineShows [] [] ['|']
  | cons {width : Nat} {widths : List Nat} {text cell rest : Text} {texts : List Text}
      (here : Shows (width + 2) text cell) (later : LineShows widths texts rest) :
      LineShows (width :: widths) (text :: texts) ('|' :: cell ++ rest)

theorem lineShows_gridLine {widths : List Nat} {texts cells : List Text}
    (same : widths.length = texts.length)
    (each : List.Forall₂ (fun (shown : Nat × Text) cell => Shows shown.1 shown.2 cell)
      (widths.zip texts) cells) : LineShows widths texts (gridLine cells) := by
  induction widths generalizing texts cells with
  | nil =>
    obtain rfl : texts = [] := List.eq_nil_of_length_eq_zero same.symm
    obtain rfl := List.forall₂_nil_left_iff.mp each
    exact .nil
  | cons width widths induction =>
    obtain ⟨text, texts, rfl⟩ := List.exists_cons_of_length_eq_add_one same.symm
    rw [List.zip_cons_cons, List.forall₂_cons_left_iff] at each
    obtain ⟨cell, cells, here, later, rfl⟩ := each
    have shape : gridLine (cell :: cells) = '|' :: (' ' :: cell ++ [' ']) ++ gridLine cells := by
      simp [gridLine]
    rw [shape]
    exact .cons here.padded (induction (Nat.succ.inj same) later)

theorem join_concat {bar : Char} {cells : List Text} (nonempty : cells ≠ []) :
    Text.join [bar] cells ++ [bar] = cells.flatMap fun cell => cell ++ [bar] := by
  induction cells with
  | nil => exact absurd rfl nonempty
  | cons cell cells induction =>
    cases cells with
    | nil => simp [Text.join]
    | cons second cells =>
      rw [Text.join_cons_cons, List.append_assoc, induction (List.cons_ne_nil _ _)]
      rfl

/-- A row that is drawn with one mark has it before, between and after its cells. -/
theorem draw_marks {bar : Char} (solid : Text.isBlank bar = false) {cells : List Text}
    (nonempty : cells ≠ []) :
    RowMarks.draw ⟨[bar], [bar], [bar]⟩ cells = bar :: cells.flatMap fun cell => cell ++ [bar] := by
  rw [RowMarks.draw, List.append_assoc, join_concat nonempty, Text.stripEnd,
    Text.trimEnd_eq_rdropWhile, ← join_concat nonempty, ← List.append_assoc,
    List.rdropWhile_concat_neg _ _ _ (by simp [solid])]
  rfl

theorem draw_gridLine {cells : List Text} (nonempty : cells ≠ []) :
    RowMarks.draw ⟨['|'], ['|'], ['|']⟩ (padRow 1 cells) = gridLine cells := by
  rw [draw_marks (by decide) (by simpa [padRow] using nonempty), gridLine, padRow,
    List.flatMap_map]
  simp

theorem draw_gridRule {fill : Char} {widths : List Nat} (nonempty : widths ≠ []) :
    RuleMarks.draw ⟨['+'], [fill], ['+'], ['+']⟩ (widths.map (· + 2)) = gridRule fill widths := by
  have repeated (count : Nat) : Text.times count [fill] = List.replicate count fill := by
    simp [Text.times]
  rw [RuleMarks.draw, draw_marks (by decide) (by simpa using nonempty), gridRule,
    List.map_map, List.flatMap_map]
  simp only [Function.comp_apply, repeated]

/-! ## Layouts -/

section Layout

variable {multiline : Bool} {widths : List Nat} {alignments : List Alignment} {cells : List Text}

theorem rowLines_grid (wide : widths ≠ []) (nonempty : cells ≠ []) :
    rowLines gridStyle gridStyle.row multiline widths alignments .none cells =
      .ok ((rowPieces multiline widths cells).map gridLine) := by
  cases multiline with
  | false => exact congrArg (fun line => Except.ok [line]) (draw_gridLine nonempty)
  | true =>
    rw [rowPieces, if_pos rfl, List.map_map]
    refine mapM_of_forall fun line _ => congrArg Except.ok (draw_gridLine ?_)
    simp [wide, nonempty]

theorem zip_replicate_right {α β : Type} (items : List α) (count : Nat) (value : β) :
    items.zip (List.replicate count value) = (items.take count).map fun item => (item, value) := by
  induction items generalizing count with
  | nil => simp
  | cons item items induction =>
    cases count with
    | zero => rfl
    | succ count => simp [List.replicate_succ, induction]

theorem rowsWithRules_grid {rows : List (List Text)} {last : List Text} (wide : widths ≠ [])
    (each : ∀ row ∈ rows ++ [last], row ≠ []) :
    rowsWithRules gridStyle (.marks ⟨['+'], ['-'], ['+'], ['+']⟩) multiline widths alignments
        (List.replicate (rows ++ [last]).length .none) ((rows ++ [last]).map .cells) =
      .ok ((rows.flatMap fun row => (rowPieces multiline widths row).map gridLine ++
        [gridRule '-' widths]) ++ (rowPieces multiline widths last).map gridLine) := by
  have rule : (RuleStyle.marks ⟨['+'], ['-'], ['+'], ['+']⟩).draw
      (widths.map (· + 2 * gridStyle.padding)) alignments = .ok (gridRule '-' widths) :=
    congrArg Except.ok (draw_gridRule wide)
  have init : ((rows ++ [last]).map Row.cells).dropLast = rows.map .cells := by simp
  have final : ((rows ++ [last]).map Row.cells).getLast?.map Row.texts = some last := by
    simp [Row.texts]
  have verticals : lastOf (List.replicate (rows ++ [last]).length .none) = .ok .none := by
    simp [lastOf, List.getLast?_replicate]
  have rest : (rows.map Row.cells).zip (List.replicate (rows ++ [last]).length Value.none) =
      rows.map fun row => (.cells row, .none) := by
    rw [zip_replicate_right, List.take_of_length_le (by simp), List.map_map]
    rfl
  have ending : rowLines gridStyle gridStyle.row multiline widths alignments .none last =
      .ok ((rowPieces multiline widths last).map gridLine) :=
    rowLines_grid wide (each last (by simp))
  simp only [rowsWithRules, rule, ok_bind, init, rest, verticals, final, Option.getD_some, ending]
  rw [List.mapM_map, List.flatMap_def]
  refine bind_eq_ok.mpr ⟨_, mapM_of_forall fun row member => bind_eq_ok.mpr ⟨_, ?_, rfl⟩, rfl⟩
  exact rowLines_grid wide (each row (List.mem_append_left _ member))

theorem draw_grid {table : Layout} {rows : List (List Text)} (headed : table.headers ≠ [])
    (wide : table.widths ≠ []) (nonempty : rows ≠ []) (each : ∀ row ∈ rows, row ≠ [])
    (cells : table.rows = rows.map .cells)
    (verticals : table.verticals = List.replicate rows.length .none) :
    table.draw gridStyle = .ok (gridBlocks table.widths
      (rowPieces table.multiline table.widths table.headers)
      (rows.map (rowPieces table.multiline table.widths))) := by
  obtain ⟨init, last, rfl⟩ := (List.eq_nil_or_concat rows).resolve_left nonempty
  rw [List.concat_eq_append] at each cells verticals ⊢
  have some : table.headers.isEmpty = false := by simpa using headed
  have rule (fill : Char) : RuleStyle.draw (.marks ⟨['+'], [fill], ['+'], ['+']⟩)
      (table.paddedWidths gridStyle) table.alignments = .ok (gridRule fill table.widths) :=
    congrArg Except.ok (draw_gridRule wide)
  have edge : ruleLines gridStyle.above false (table.paddedWidths gridStyle) table.alignments =
      .ok [gridRule '-' table.widths] :=
    bind_eq_ok.mpr ⟨_, rule '-', rfl⟩
  have below : ruleLines gridStyle.belowHeader false (table.paddedWidths gridStyle)
      table.alignments = .ok [gridRule '=' table.widths] :=
    bind_eq_ok.mpr ⟨_, rule '=', rfl⟩
  have header : table.headerLines gridStyle =
      .ok ((rowPieces table.multiline table.widths table.headers).map gridLine ++
        [gridRule '=' table.widths]) := by
    have row : rowLines gridStyle gridStyle.header table.multiline table.widths table.alignments
        .none table.headers = .ok ((rowPieces table.multiline table.widths table.headers).map
          gridLine) := rowLines_grid wide headed
    rw [Layout.headerLines, some]
    simp only [Bool.false_eq_true, if_false, row, below, ok_bind]
    rfl
  have body : table.bodyLines gridStyle = .ok ((init.flatMap fun row =>
      (rowPieces table.multiline table.widths row).map gridLine ++ [gridRule '-' table.widths]) ++
        (rowPieces table.multiline table.widths last).map gridLine) := by
    have filled : ((init ++ [last]).map Row.cells).isEmpty = false := by simp
    rw [Layout.bodyLines, cells, verticals, filled]
    exact rowsWithRules_grid wide each
  have lines : table.lines gridStyle = .ok (gridRule '-' table.widths ::
      ((rowPieces table.multiline table.widths table.headers).map gridLine ++
        gridRule '=' table.widths :: (init ++ [last]).flatMap fun row =>
          (rowPieces table.multiline table.widths row).map gridLine ++
            [gridRule '-' table.widths])) := by
    have hidden : (!table.headers.isEmpty && gridStyle.headerHidesAbove) = false := by
      rw [some]
      rfl
    have same : gridStyle.below = gridStyle.above := rfl
    have also : gridStyle.headerHidesBelow = gridStyle.headerHidesAbove := rfl
    simp only [Layout.lines, same, also, hidden, edge, header, body, ok_bind]
    simp [pure, Except.pure]
  rw [Layout.draw, lines, ok_bind, some]
  simp only [Bool.false_and, Bool.false_eq_true, if_false, gridBlocks, List.flatMap_map]
  rfl

end Layout

/-! ## Columns and rows -/

theorem rowsOf_map {α : Type} {sources : List α} {cellsOf : α → List Text} {count : Nat}
    (some : sources ≠ []) (each : ∀ source ∈ sources, (cellsOf source).length = count) :
    rowsOf (sources.map cellsOf) = (List.range count).map fun index =>
      sources.map fun source => (cellsOf source).getD index [] := by
  obtain ⟨first, rest, rfl⟩ := List.exists_cons_of_ne_nil some
  simp only [rowsOf, List.map_cons, each first List.mem_cons_self, List.map_map]
  rfl

/-- Where each column has a text for each item, so has each row. -/
theorem rowsOf_map_map {α : Type} {texts : List (α → Text)} (some : texts ≠ []) (items : List α) :
    rowsOf (texts.map fun text => items.map text) =
      items.map fun item => texts.map fun text => text item := by
  rw [rowsOf_map some fun text _ => List.length_map text]
  refine List.ext_getElem (by simp) fun index _ bound => ?_
  rw [List.length_map] at bound
  simp [bound]

/-- The texts of a column, with its alignment and the width that its header needs. -/
structure Strip where
  texts : List Text
  alignment : Alignment
  /-- The width for the header. -/
  least : Nat

namespace Strip

def width (strip : Strip) : Nat := alignedWidth strip.alignment strip.least strip.texts

/-- The cells of a strip, aligned by a measure. -/
def aligned (measure : Measure) (strip : Strip) : List Text :=
  alignColumn strip.alignment measure strip.least strip.texts

def cells (strip : Strip) : List Text :=
  alignColumn strip.alignment plainMeasure strip.least strip.texts

/-- Whether a strip has so many texts, and shows them. -/
def Fits (count : Nat) (strip : Strip) : Prop :=
  strip.texts.length = count ∧ Keeps strip.alignment strip.texts

end Strip

section Strips

variable {strips : List Strip} {count : Nat}

/-- The lines of strips show the texts that are next to each other. -/
theorem forall₂_lineShows (some : strips ≠ []) (fits : ∀ strip ∈ strips, strip.Fits count) :
    List.Forall₂ (LineShows (strips.map Strip.width)) (rowsOf (strips.map Strip.texts))
      ((rowsOf (strips.map Strip.cells)).map gridLine) := by
  have aligned : ∀ strip ∈ strips, strip.cells.length = count := by
    intro strip member
    rw [Strip.cells, length_alignColumn, (fits strip member).1]
  rw [rowsOf_map some fun strip member => (fits strip member).1, rowsOf_map some aligned,
    List.map_map, List.forall₂_map_left_iff, List.forall₂_map_right_iff, List.forall₂_same]
  intro index member
  refine lineShows_gridLine (by simp) ?_
  rw [List.zip_map', List.forall₂_map_left_iff, List.forall₂_map_right_iff, List.forall₂_same]
  intro strip place
  obtain ⟨length, keeps⟩ := fits strip place
  have bound := List.mem_range.mp member
  have here : index < strip.texts.length := by rwa [length]
  have there : index < strip.cells.length := by rwa [aligned strip place]
  simp only [List.getD_eq_getElem?_getD, List.getElem?_eq_getElem here,
    List.getElem?_eq_getElem there, Option.getD_some]
  exact (forall₂_alignColumn keeps).get here there

/-- Strips are as wide as their cells, and no strip is narrower than its header. -/
theorem zipWith_max_widths (filled : 0 < count) (fits : ∀ strip ∈ strips, strip.Fits count) :
    (strips.map Strip.least).zipWith max ((strips.map Strip.cells).map fun cells =>
      greatest (cells.map plainMeasure.width)) = strips.map Strip.width := by
  rw [List.map_map, List.zipWith_map, List.zipWith_self]
  refine List.map_congr_left fun strip member => ?_
  obtain ⟨length, keeps⟩ := fits strip member
  refine max_greatest_alignColumn ?_ keeps
  rw [← List.length_pos_iff, length]
  exact filled

end Strips

/-! ## Grids -/

def stripsOf (alignments : List Alignment) (least : List Nat) (columns : List (List Text)) :
    List Strip :=
  (columns.zip (alignments.zip least)).map fun (texts, alignment, width) =>
    ⟨texts, alignment, width⟩

theorem zip_take_left {α β : Type} (items : List α) (others : List β) :
    (items.take others.length).zip others = items.zip others := by
  induction items generalizing others with
  | nil => simp
  | cons item items induction =>
    cases others with
    | nil => rfl
    | cons other others => simp [induction]

section Grid

variable {headers : List Text} {rows : List (List Value)} {columns : List (List Text)}
  {alignments : List Alignment} {least : List Nat}

theorem alignColumns_aligned (filled : ∀ texts ∈ columns, texts ≠ []) (measure : Measure) :
    alignColumns measure alignments least (columns.map fun texts => texts.map .str) =
      .ok ((stripsOf alignments least columns).map (Strip.aligned measure)) := by
  have nonempty : ∀ cells ∈ columns.map fun texts => texts.map Value.str, cells ≠ [] := by
    intro cells member
    obtain ⟨texts, inside, rfl⟩ := List.mem_map.mp member
    simpa using filled texts inside
  have shown : ∀ cells ∈ columns.map fun texts => texts.map Value.str,
      ∀ cell ∈ cells, ∃ text, cell = .str text := by
    intro cells member cell inside
    obtain ⟨texts, -, rfl⟩ := List.mem_map.mp member
    obtain ⟨text, -, rfl⟩ := List.mem_map.mp inside
    exact ⟨text, rfl⟩
  rw [alignColumns_eq nonempty shown, List.zip_map_left, stripsOf, List.map_map, List.map_map]
  refine congrArg Except.ok (List.map_congr_left fun part _ => ?_)
  simp only [Function.comp_apply, Prod.map, Strip.aligned, id]
  exact congrArg _ (map_toText_textValues part.1)

theorem alignColumns_strips (filled : ∀ texts ∈ columns, texts ≠ []) :
    alignColumns plainMeasure alignments least (columns.map fun texts => texts.map .str) =
      .ok ((stripsOf alignments least columns).map Strip.cells) :=
  alignColumns_aligned filled plainMeasure

/-- Columns without a width for their header make no strips. -/
theorem stripsOf_take (aligned : least.length ≤ alignments.length) :
    stripsOf alignments least columns =
      stripsOf (alignments.take least.length) least (columns.take least.length) := by
  have counted : (alignments.zip least).length = least.length := by simp [aligned]
  rw [stripsOf, stripsOf, zip_take_left, ← counted, zip_take_left]

section Strips

variable (aligned : alignments.length = columns.length) (headed : least.length = columns.length)

include aligned headed

theorem map_texts_stripsOf : (stripsOf alignments least columns).map Strip.texts = columns := by
  rw [stripsOf, List.map_map]
  exact List.map_fst_zip (by simp [aligned, headed])

theorem map_alignment_stripsOf :
    (stripsOf alignments least columns).map Strip.alignment = alignments := by
  have behind : (columns.zip (alignments.zip least)).map Prod.snd = alignments.zip least :=
    List.map_snd_zip (by simp [aligned, headed])
  have first : (alignments.zip least).map Prod.fst = alignments :=
    List.map_fst_zip (by simp [aligned, headed])
  rw [stripsOf, List.map_map]
  conv_rhs => rw [← first, ← behind, List.map_map]
  rfl

theorem map_least_stripsOf : (stripsOf alignments least columns).map Strip.least = least := by
  have behind : (columns.zip (alignments.zip least)).map Prod.snd = alignments.zip least :=
    List.map_snd_zip (by simp [aligned, headed])
  have last : (alignments.zip least).map Prod.snd = least :=
    List.map_snd_zip (by simp [aligned, headed])
  rw [stripsOf, List.map_map]
  conv_rhs => rw [← last, ← behind, List.map_map]
  rfl

end Strips

theorem fits_of_mem_stripsOf {count : Nat} (keeps : List.Forall₂ Keeps alignments columns)
    (lengths : ∀ texts ∈ columns, texts.length = count) :
    ∀ strip ∈ stripsOf alignments least columns, strip.Fits count := by
  intro strip member
  obtain ⟨part, place, rfl⟩ := List.mem_map.mp member
  obtain ⟨index, bound, rfl⟩ := List.mem_iff_getElem.mp place
  rw [List.length_zip, List.length_zip, lt_min_iff, lt_min_iff] at bound
  simp only [List.getElem_zip]
  exact ⟨lengths _ (List.getElem_mem _), keeps.get bound.2.1 bound.1⟩

theorem keptRows_of_forall (kept : ∀ row ∈ rows, isSeparator row = false) : keptRows rows = rows :=
  List.filter_eq_self.mpr fun row member => by rw [kept row member]; rfl

theorem separatorPlaces_of_forall (kept : ∀ row ∈ rows, isSeparator row = false) :
    separatorPlaces rows = [] := by
  have none : ((rows.map Value.list).zipIdx.filter fun row => isSeparatorRow row.1) = [] := by
    refine List.filter_eq_nil_iff.mpr fun entry member => ?_
    obtain ⟨row, inside, same⟩ := List.mem_map.mp (List.fst_mem_of_mem_zipIdx member)
    rw [← same]
    change ¬ isSeparator row = true
    simp [kept row inside]
  exact congrArg (List.map Prod.snd) none

/-- A layout of strips is drawn with their lines. -/
theorem draw_layout_strips {sheet : Sheet} {standing : Alignment} {strips : List Strip}
    {count : Nat} (headed : sheet.headers ≠ []) (unseparated : sheet.separators = [])
    (some : strips ≠ []) (filled : 0 < count) (fits : ∀ strip ∈ strips, strip.Fits count)
    (aligned : alignments ≠ []) :
    ∃ header, (sheet.layout plainMeasure standing alignments (strips.map Strip.least)
        (strips.map Strip.cells)
        (List.replicate (rowsOf (strips.map Strip.cells)).length .none)).draw gridStyle =
      .ok (gridText (strips.map Strip.width) header
        ((rowsOf (strips.map Strip.cells)).map gridLine)) := by
  have lengths : ∀ strip ∈ strips, strip.cells.length = count := by
    intro strip member
    rw [Strip.cells, length_alignColumn, (fits strip member).1]
  have rows := rowsOf_map some lengths
  have nonempty : rowsOf (strips.map Strip.cells) ≠ [] := by
    rw [rows, ← List.length_pos_iff, List.length_map, List.length_range]
    exact filled
  have each : ∀ row ∈ rowsOf (strips.map Strip.cells), row ≠ [] := by
    intro row member
    rw [rows] at member
    obtain ⟨index, -, rfl⟩ := List.mem_map.mp member
    simpa using some
  generalize shape : sheet.layout plainMeasure standing alignments (strips.map Strip.least)
    (strips.map Strip.cells) (List.replicate (rowsOf (strips.map Strip.cells)).length .none) = table
  have widths : table.widths = strips.map Strip.width := by
    rw [← zipWith_max_widths filled fits, ← shape]
    simp [Sheet.layout, headed, some]
  have headers : table.headers ≠ [] := by
    rw [← shape]
    simp [Sheet.layout, headed, some, aligned, List.zip_eq_nil_iff]
  have cells : table.rows = (rowsOf (strips.map Strip.cells)).map .cells := by
    rw [← shape]
    simp [Sheet.layout, unseparated, reinsertSeparators]
  have single : table.multiline = false := by
    rw [← shape]
    rfl
  have drawn := draw_grid headers (by simpa [widths] using some) nonempty each cells
    (by rw [← shape]; rfl)
  rw [widths, single] at drawn
  refine ⟨gridLine table.headers, drawn.trans (congrArg Except.ok ?_)⟩
  simp [gridBlocks, gridText, rowPieces, List.flatMap_map]

theorem length_of_written
    (written : writtenColumns headers rows = .ok (columns.map fun texts => texts.map .str)) :
    ∀ texts ∈ columns, texts.length = (keptRows rows).length := by
  intro texts member
  obtain ⟨cells, inside, done⟩ := exists_of_mem_mapM written (List.mem_map_of_mem member)
  have same := (mapM_eq_ok_iff.mp done).length_eq
  obtain ⟨index, -, rfl⟩ := List.mem_map.mp inside
  simpa using same.symm

/-- A grid without separating lines, whose cells have one line each, shows the texts that its
columns are written as. -/
theorem exists_render_eq (wide : headers ≠ []) (nonempty : rows ≠ [])
    (uniform : ∀ row ∈ rows, row.length = headers.length)
    (each : ∀ row ∈ rows, ∀ cell ∈ row, IsCell cell)
    (kept : ∀ row ∈ rows, isSeparator row = false)
    (plain : gridMeasure headers rows = plainMeasure)
    (written : writtenColumns headers rows = .ok (columns.map fun texts => texts.map .str))
    (keeps : List.Forall₂ Keeps (gridAlignments headers rows) columns) :
    ∃ widths header lines,
      render (gridOptions headers) (.list (rows.map .list)) =
        .ok (gridText widths header lines) ∧
      List.Forall₂ (LineShows widths) (rowsOf columns) lines := by
  have lengths := length_of_written written
  have rowCount : 0 < (keptRows rows).length := by
    rw [keptRows_of_forall kept]
    exact List.length_pos_iff.mpr nonempty
  have width : columns.length = headers.length := by
    have across := (mapM_eq_ok_iff.mp written).length_eq
    rw [keptRows_of_forall kept, transpose_eq nonempty uniform] at across
    simpa using across.symm
  have some : columns ≠ [] := by
    rw [← List.length_pos_iff, width]
    exact List.length_pos_iff.mpr wide
  have filled : ∀ texts ∈ columns, texts ≠ [] := fun texts member => by
    rw [← List.length_pos_iff, lengths texts member]
    exact rowCount
  obtain ⟨least, least_eq⟩ : ∃ least, least =
      (gridSheet headers rows).leastWidths plainMeasure false columns.length := ⟨_, rfl⟩
  have headed : least.length = columns.length := by
    simp [least_eq, Sheet.leastWidths, gridSheet, wide, width]
  have texts := map_texts_stripsOf keeps.length_eq headed
  have leasts := map_least_stripsOf keeps.length_eq headed
  have strips : stripsOf (gridAlignments headers rows) least columns ≠ [] := by
    intro none
    rw [none] at texts
    exact some texts.symm
  have fits : ∀ strip ∈ stripsOf (gridAlignments headers rows) least columns,
      strip.Fits (keptRows rows).length := fits_of_mem_stripsOf keeps lengths
  have aligned : gridAlignments headers rows ≠ [] := by
    rw [← List.length_pos_iff, keeps.length_eq]
    exact List.length_pos_iff.mpr some
  obtain ⟨header, drawn⟩ := @draw_layout_strips _ (gridSheet headers rows)
    (.ofValue (gridOptions headers).standingText) _ _ wide (separatorPlaces_of_forall kept) strips
    rowCount fits aligned
  rw [leasts] at drawn
  have lines := forall₂_lineShows strips fits
  rw [texts] at lines
  refine ⟨_, header, _, ?_, lines⟩
  rw [render, layOut_eq nonempty uniform each, written, ok_bind, plain, List.length_map, ← least_eq]
  dsimp only
  rw [alignColumns_strips filled]
  exact drawn

end Grid

end TypeSurvey.Table
