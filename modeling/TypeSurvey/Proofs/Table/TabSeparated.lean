import TypeSurvey.Proofs.Table.Bare
import TypeSurvey.Proofs.Table.Ragged

/-!
# Rows between tabs

In the style `tsv` the cells of a row stand between tabs, and blanks at the end of a line go. Tabs
are blank. So where the last cells of a row are blank, the tabs before them go too, and the line has
no fields for them. All other cells are found again between the tabs.
-/

namespace TypeSurvey.Table

open Text (IsBlank strip stripEnd)

/-! ## Fields of a line -/

/-- The fields of a line between tabs, without the blanks around them. -/
def tabFields (line : Text) : List Text := (Text.splitWhere (· == '\t') line).map strip

/-- The fields of a row up to the last that is not empty. The first is always there. -/
def upToSolid : List Text → List Text
  | [] => []
  | field :: rest => field :: if ∀ later ∈ rest, later = [] then [] else upToSolid rest

/-- The line of cells between tabs. -/
def tabLine (cells : List Text) : Text := RowMarks.draw ⟨[], ['\t'], []⟩ cells

section Fields

variable {cell text : Text} {cells : List Text}

theorem tabFields_of_notMem (free : '\t' ∉ text) : tabFields text = [strip text] := by
  rw [tabFields, Text.splitWhere_eq_splitOnP,
    List.splitOnP_eq_singleton (Text.beq_eq_false_of_notMem free)]
  rfl

theorem tabFields_append_tab (free : '\t' ∉ cell) (text : Text) :
    tabFields (cell ++ '\t' :: text) = strip cell :: tabFields text := by
  simp only [tabFields, Text.splitWhere_eq_splitOnP]
  rw [List.splitOnP_append_cons_of_forall_mem (Text.beq_eq_false_of_notMem free) _ rfl]
  rfl

/-- Blanks at the end of a text that is not blank are found in the text itself. -/
theorem stripEnd_append_of_not_isBlank (solid : ¬ IsBlank text) (front : Text) :
    stripEnd (front ++ text) = front ++ stripEnd text := by
  obtain ⟨letter, inside, stays⟩ := Text.not_isBlank_iff.mp solid
  obtain ⟨before, after, rfl⟩ := List.append_of_mem inside
  have split (lead : Text) := Text.trimEnd_append_cons stays lead after
  rw [← List.append_assoc]
  exact (split _).trans ((List.append_assoc ..).trans (congrArg _ (split before).symm))

theorem tabLine_cons_cons (cell second : Text) (rest : List Text) :
    tabLine (cell :: second :: rest) =
      stripEnd (cell ++ '\t' :: Text.join ['\t'] (second :: rest)) := by
  rw [tabLine, RowMarks.draw, Text.join_cons_cons]
  simp

theorem tabLine_eq (cells : List Text) : tabLine cells = stripEnd (Text.join ['\t'] cells) := by
  simp [tabLine, RowMarks.draw]

/-- The line of a row has the fields of the row up to the last that is not empty. -/
theorem tabFields_tabLine (nonempty : cells ≠ []) (free : ∀ cell ∈ cells, '\t' ∉ cell) :
    tabFields (tabLine cells) = upToSolid (cells.map strip) := by
  induction cells with
  | nil => exact absurd rfl nonempty
  | cons cell rest induction =>
    rw [List.forall_mem_cons] at free
    have alone : tabFields (stripEnd cell) = [strip cell] := by
      have subset : stripEnd cell ⊆ cell := Text.trimEnd_subset Text.isBlank cell
      rw [tabFields_of_notMem fun tab => free.1 (subset tab), Text.strip_stripEnd]
    cases rest with
    | nil => simpa [tabLine_eq, Text.join, upToSolid] using alone
    | cons second others =>
      rw [tabLine_cons_cons, List.map_cons, upToSolid]
      simp only [List.forall_mem_map, Text.strip_eq_nil_iff]
      split_ifs with blank
      · have dropped : IsBlank ('\t' :: Text.join ['\t'] (second :: others)) := by
          refine List.forall_mem_cons.mpr ⟨rfl, fun letter inside => ?_⟩
          rcases Text.mem_of_mem_join inside with tab | ⟨piece, listed, here⟩
          · rw [List.mem_singleton.mp tab]
            rfl
          · exact blank piece listed letter here
        rw [stripEnd, Text.trimEnd_append_of_forall dropped]
        exact alone
      · have solid : ¬ IsBlank (Text.join ['\t'] (second :: others)) := fun all =>
          blank fun later listed letter inside => all letter (Text.mem_join listed inside)
        have tab := stripEnd_append_of_not_isBlank solid (cell ++ ['\t'])
        rw [List.append_assoc, List.append_assoc, List.singleton_append,
          List.singleton_append] at tab
        rw [tab, tabFields_append_tab free.1, ← tabLine_eq,
          induction (List.cons_ne_nil _ _) free.2]

/-- No field is lost if and only if there is one at most, or the last is not empty. -/
theorem upToSolid_eq_self_iff (fields : List Text) :
    upToSolid fields = fields ↔ fields.length ≤ 1 ∨ ∃ last ∈ fields.getLast?, last ≠ [] := by
  induction fields with
  | nil => simp [upToSolid]
  | cons field rest induction =>
    cases rest with
    | nil => simp [upToSolid]
    | cons second others =>
      have longer : ¬ (field :: second :: others).length ≤ 1 := by simp
      rw [upToSolid, List.cons.injEq, List.getLast?_cons_cons, or_iff_right longer]
      split_ifs with empty
      · simp only [true_and, false_iff]
        rintro ⟨last, found, solid⟩
        exact solid (empty last (List.mem_of_getLast? found))
      · rw [eq_self, true_and, induction]
        refine or_iff_right_of_imp fun short => ?_
        obtain rfl : others = [] := by simpa using short
        exact ⟨second, rfl, by simpa using empty⟩

end Fields

/-! ## Columns that are kept -/

/-- The kind of a cell whose text is not read as a number. -/
def keptKind (cell : Value) : CellKind := if isTruth (unstyled cell) then .truth else .text

theorem kindOf_kept (text : Text) : kindOf (.str text) true false = .ok (keptKind (.str text)) := by
  unfold kindOf keptKind
  simp only [unstyled_str, if_true, Value.underived, Bool.and_false, Bool.false_eq_true, if_false,
    isNumber_str, ok_bind]
  exact (apply_ite Except.ok _ _ _).symm

theorem foldl_join_mem (start : CellKind) (kinds : List CellKind) :
    kinds.foldl CellKind.join start ∈ start :: kinds := by
  induction kinds generalizing start with
  | nil => exact List.mem_cons_self
  | cons kind kinds induction =>
    rw [List.foldl_cons]
    have joined : start.join kind = start ∨ start.join kind = kind := by
      unfold CellKind.join
      split_ifs <;> simp
    rcases List.mem_cons.mp (induction (start.join kind)) with same | later
    · rw [same]
      rcases joined with same | same <;> simp [same]
    · exact List.mem_cons_of_mem _ (List.mem_cons_of_mem _ later)

/-- The kind of a column whose texts are not read as numbers. -/
def keptColumnKind (cells : List Value) : CellKind :=
  (cells.map keptKind).foldl CellKind.join .truth

theorem keptColumnKind_cases (cells : List Value) :
    keptColumnKind cells = .truth ∨ keptColumnKind cells = .text := by
  rcases List.mem_cons.mp (foldl_join_mem .truth (cells.map keptKind)) with same | later
  · exact .inl same
  · obtain ⟨cell, -, same⟩ := List.mem_map.mp later
    rw [keptColumnKind, ← same, keptKind]
    split_ifs <;> simp

/-- Columns of texts that are not read as numbers are written as they are. -/
theorem formatColumns_kept {headers : Value} {name : String} {columns : List (List Value)}
    (texts : ∀ cells ∈ columns, ∀ cell ∈ cells, ∃ text, cell = .str text) :
    formatColumns (namedOptions headers name) (.bool true) false columns =
      .ok (columns, columns.map keptColumnKind) := by
  rw [formatColumns_eq_ok_iff, List.forall₂_map_right_iff, List.forall₂_same]
  constructor
  · intro cells member
    have kinds : cells.mapM (fun cell => kindOf cell true false) = .ok (cells.map keptKind) := by
      refine mapM_of_forall fun cell inside => ?_
      obtain ⟨text, rfl⟩ := texts cells member cell inside
      exact kindOf_kept text
    rw [columnKind, Bool.not_true, kinds]
    rfl
  · rw [← List.map_prod_left_eq_zip, List.forall₂_map_left_iff, List.forall₂_same]
    intro cells member
    have other : keptColumnKind cells ≠ .real := by
      rcases keptColumnKind_cases cells with kind | kind <;> simp [kind]
    refine (mapM_of_forall fun cell inside => ?_).trans (congrArg _ (List.map_id cells))
    obtain ⟨text, rfl⟩ := texts cells member cell inside
    exact formatCell_str other text

/-! ## Tables of texts -/

/-- Whether a text has no tabs, escape characters, marks of separating lines and line boundaries. -/
def IsField (text : Text) : Prop :=
  ∀ letter ∈ text, letter ≠ '\t' ∧ letter ≠ Text.escape ∧ letter ∉ separatorMark ∧
    Text.isLineBoundary letter = false

instance (text : Text) : Decidable (IsField text) :=
  List.decidableBAll (fun letter => letter ≠ '\t' ∧ letter ≠ Text.escape ∧
    letter ∉ separatorMark ∧ Text.isLineBoundary letter = false) text

section Table

variable {rows : List (List Text)} {width : Nat}

/-- The style of rows between tabs has no rules and no blanks around cells. -/
abbrev tabStyle : Style := Style.ruled none none none none (Style.bars "" "\t" "") 0

theorem draw_tabLines {table : Layout} {lines : List (List Text)} (bare : table.headers = [])
    (single : table.multiline = false) (cells : table.rows = lines.map .cells)
    (nonempty : lines ≠ []) (unmarked : ∀ line ∈ lines, ∀ cell ∈ line, cell ≠ separatorMark) :
    table.draw tabStyle = .ok (Text.join ['\n'] (lines.map tabLine)) := by
  have body : table.bodyLines tabStyle = .ok (lines.map tabLine) := by
    change plainRows tabStyle table.multiline table.widths table.alignments table.rows = _
    rw [single, cells]
    refine bind_eq_ok.mpr ⟨lines.map fun line => [tabLine line], ?_, ?_⟩
    · rw [mapM_eq_ok_iff, List.forall₂_map_left_iff, List.forall₂_map_right_iff, List.forall₂_same]
      intro line member
      have unpadded : padRow 0 line = line := by simp [padRow]
      have rule : (Row.cells line).isRule tabStyle false = false := by
        change ((padRow 0 line).take 2).any (· == separatorMark) = false
        rw [unpadded, List.any_eq_false]
        intro cell found same
        exact unmarked line member cell (List.mem_of_mem_take found) (eq_of_beq same)
      simp only [rule, Bool.false_eq_true, if_false]
      change Except.ok [tabLine (padRow 0 line)] = _
      rw [unpadded]
    · exact congrArg Except.ok (List.map_eq_flatMap ..).symm
  have header : table.headerLines tabStyle = .ok [] := by
    rw [Layout.headerLines, bare]
    rfl
  have all : table.lines tabStyle = .ok (lines.map tabLine) := by
    rw [Layout.lines, header, body]
    change Except.ok ([] ++ [] ++ lines.map tabLine ++ []) = _
    simp
  rw [Layout.draw, all, ok_bind, cells]
  simp [nonempty, pure, Except.pure]

/-- The cells of a row, flush left in their columns. -/
def flushCells (rows : List (List Text)) (width : Nat) (row : List Text) : List Text :=
  (List.range width).map fun column => padRight
    (alignedWidth .left 0 (rows.map fun row => row.getD column [])) (strip (row.getD column []))

theorem map_strip_flushCells {row : List Text} (length : row.length = width) :
    (flushCells rows width row).map strip = row.map strip := by
  conv_rhs => rw [← map_getD_range length []]
  rw [flushCells, List.map_map, List.map_map]
  refine List.map_congr_left fun column _ => ?_
  change strip (padRight _ _) = strip _
  rw [padRight, Text.strip_append_right, Text.strip_strip]
  intro letter blank
  rw [List.eq_of_mem_replicate blank]
  rfl

theorem mem_of_mem_flushCells {row : List Text} {cell : Text} {letter : Char}
    (member : cell ∈ flushCells rows width row) (inside : letter ∈ cell) :
    letter = ' ' ∨ ∃ text ∈ row, letter ∈ text := by
  obtain ⟨column, -, rfl⟩ := List.mem_map.mp member
  rcases List.mem_append.mp inside with shown | padding
  · have found := Text.strip_subset _ shown
    rw [List.getD_eq_getElem?_getD] at found
    cases known : row[column]? with
    | none => simp [known] at found
    | some text => exact .inr ⟨text, List.mem_of_getElem? known, by simpa [known] using found⟩
  · exact .inl (List.eq_of_mem_replicate padding)

theorem length_of_mem_textValues (uniform : ∀ row ∈ rows, row.length = width) :
    ∀ row ∈ rows.map textValues, row.length = width := by
  intro row member
  obtain ⟨texts, inside, rfl⟩ := List.mem_map.mp member
  exact (List.length_map _).trans (uniform texts inside)

theorem tableTexts_textValues (rows : List (List Text)) :
    tableTexts [] (rows.map textValues) = rows.flatten := by
  have values : (rows.map textValues).flatten = textValues rows.flatten := List.map_flatten.symm
  rw [tableTexts, values, textValues, List.filterMap_map]
  exact List.filterMap_some

/-- Fields are measured by their lengths. -/
theorem measure_tabs (fields : ∀ text ∈ rows.flatten, IsField text) :
    Sheet.measure ⟨[], rows.map textValues, []⟩ (.named (.ofString "tsv")) = plainMeasure := by
  have values : (rows.map textValues).flatten = textValues rows.flatten := List.map_flatten.symm
  have narrow : Style.isMultiline "tsv".toList = false := by decide
  have plain : Text.escape ∉ Text.join ['\t'] rows.flatten := by
    intro inside
    rcases Text.mem_of_mem_join inside with tab | ⟨text, member, here⟩
    · exact absurd tab (by decide)
    · exact (fields text member _ here).2.1 rfl
  have named : (StyleChoice.named (.ofString "tsv")).name? = some "tsv".toList := rfl
  simp only [Sheet.measure, List.nil_append, values, map_plainText_textValues,
    Text.isStyled_of_notMem plain, named, Option.map_some, Option.getD_some, narrow,
    Bool.false_and, plainMeasure]

theorem alignColumns_left {columns : List (List Value)} (filled : ∀ cells ∈ columns, cells ≠ [])
    (texts : ∀ cells ∈ columns, ∀ cell ∈ cells, ∃ text, cell = .str text) :
    alignColumns plainMeasure ((columns.map keptColumnKind).map (columnAlignment false))
        (List.replicate columns.length 0) columns =
      .ok (columns.map fun cells => alignColumn .left plainMeasure 0 (cells.map Value.toText)) := by
  have left (cells : List Value) : columnAlignment false (keptColumnKind cells) = .left := by
    rcases keptColumnKind_cases cells with kind | kind <;> rw [kind] <;> rfl
  rw [alignColumns_eq filled texts, List.map_map, ← List.map_const', List.zip_map',
    ← List.map_prod_left_eq_zip, List.map_map]
  refine congrArg Except.ok (List.map_congr_left fun cells _ => ?_)
  exact congrArg (alignColumn · plainMeasure 0 _) (left cells)

theorem rowsOf_left (nonempty : rows ≠ []) (wide : 0 < width)
    (uniform : ∀ row ∈ rows, row.length = width) :
    rowsOf ((transpose (rows.map textValues)).map fun cells =>
      alignColumn .left plainMeasure 0 (cells.map Value.toText)) =
        rows.map (flushCells rows width) := by
  rw [transpose_eq (by simpa using nonempty) (length_of_mem_textValues uniform), List.map_map]
  have columns : ∀ column ∈ List.range width,
      alignColumn .left plainMeasure 0 (((rows.map textValues).map fun row =>
        row.getD column .none).map Value.toText) = rows.map fun row => padRight
          (alignedWidth .left 0 (rows.map fun row => row.getD column []))
            (strip (row.getD column [])) := by
    intro column bound
    have texts : (((rows.map textValues).map fun row => row.getD column .none).map Value.toText) =
        rows.map fun row => row.getD column [] := by
      rw [List.map_map, List.map_map]
      refine List.map_congr_left fun row member => ?_
      have inside : column < row.length := uniform row member ▸ List.mem_range.mp bound
      simp [textValues, inside, Value.toText]
    rw [texts, alignColumn_plainMeasure]
    simp only [Alignment.prepare, List.map_map]
    rfl
  refine (congrArg rowsOf (List.map_congr_left columns)).trans ?_
  have some : (List.range width).map (fun column (row : List Text) => padRight
      (alignedWidth .left 0 (rows.map fun row => row.getD column []))
        (strip (row.getD column []))) ≠ [] := by
    simpa using wide.ne'
  have across := rowsOf_map_map some rows
  rw [List.map_map] at across
  refine across.trans (List.map_congr_left fun row _ => ?_)
  rw [List.map_map]
  rfl

theorem layOut_tabs (nonempty : rows ≠ []) (wide : 0 < width)
    (uniform : ∀ row ∈ rows, row.length = width) (fields : ∀ text ∈ rows.flatten, IsField text) :
    ∃ table, layOut (bareOptions "tsv" true .none) (.list ((rows.map textValues).map .list)) =
      .ok table ∧ table.headers = [] ∧ table.multiline = false ∧
        table.rows = (rows.map (flushCells rows width)).map .cells := by
  have kept := @isSeparator_of_tame [] (rows.map textValues) (isSimple_of_mem_textValues rows) (by
    rw [tableTexts_textValues]
    intro text member letter inside
    obtain ⟨-, plain, unmarked, free⟩ := fields text member letter inside
    exact ⟨plain, unmarked, fun boundary => absurd boundary (by simp [free])⟩)
  have given : rows.map textValues ≠ [] := by simpa using nonempty
  have sheet := @ofData_bare "tsv" true (rows.map textValues) (by decide) given
  rw [keptRows_of_forall kept, separatorPlaces_of_forall kept] at sheet
  have texts : ∀ cells ∈ transpose (rows.map textValues), ∀ cell ∈ cells,
      ∃ text, cell = .str text := by
    intro cells member cell inside
    obtain ⟨row, given, found⟩ :=
      exists_row_of_mem_transpose (length_of_mem_textValues uniform) member inside
    obtain ⟨texts, -, rfl⟩ := List.mem_map.mp given
    obtain ⟨text, -, rfl⟩ := List.mem_map.mp found
    exact ⟨text, rfl⟩
  have filled : ∀ cells ∈ transpose (rows.map textValues), cells ≠ [] :=
    fun cells => ne_nil_of_mem_transpose given
  have laid := layOut_bare (by decide) sheet rfl
  simp only [measure_tabs fields, show plainMeasure.ignoresStyle = false from rfl,
    formatColumns_kept texts, ok_bind, alignColumns_left filled texts] at laid
  refine ⟨_, laid, rfl, rfl, ?_⟩
  exact congrArg (List.map Row.cells) (rowsOf_left nonempty wide uniform)

/-- A table of fields is drawn with a line for each row. Its fields are the stripped cells of the
row up to the last that is not empty. So no cell is lost if and only if there is one column, or the
last cell is not blank. -/
theorem tab_fields_iff (nonempty : rows ≠ []) (wide : 0 < width)
    (uniform : ∀ row ∈ rows, row.length = width) (fields : ∀ text ∈ rows.flatten, IsField text) :
    ∃ text, render (bareOptions "tsv" true .none) (.list ((rows.map textValues).map .list)) =
        .ok text ∧
      List.Forall₂ (fun row line => tabFields line = upToSolid (row.map strip) ∧
        (tabFields line = row.map strip ↔
          width = 1 ∨ ∃ last ∈ (row.map strip).getLast?, last ≠ []))
        rows (Text.splitWhere (· == '\n') text) := by
  obtain ⟨table, laid, bare, single, cells⟩ := layOut_tabs nonempty wide uniform fields
  have letters : ∀ row ∈ rows, ∀ cell ∈ flushCells rows width row, ∀ letter ∈ cell,
      letter ≠ '\t' ∧ letter ∉ separatorMark ∧ letter ≠ '\n' := by
    intro row member cell listed letter inside
    rcases mem_of_mem_flushCells listed inside with rfl | ⟨text, found, here⟩
    · decide
    · obtain ⟨noTab, -, unmarked, free⟩ :=
        fields text (List.mem_flatten.mpr ⟨row, member, found⟩) letter here
      refine ⟨noTab, unmarked, ?_⟩
      rintro rfl
      exact absurd free (by decide)
  have drawn : table.draw tabStyle = _ :=
    draw_tabLines bare single cells (by simpa using nonempty) (by
      intro line member cell listed same
      obtain ⟨row, given, rfl⟩ := List.mem_map.mp member
      exact (letters row given cell listed '\x01' (same ▸ List.mem_cons_self)).2.1
        List.mem_cons_self)
  refine ⟨_, bind_eq_ok.mpr ⟨table, laid, drawn⟩, ?_⟩
  have apart : ∀ line ∈ (rows.map (flushCells rows width)).map tabLine, ∀ letter ∈ line,
      (letter == '\n') = false := by
    intro line member letter inside
    obtain ⟨flush, listed, rfl⟩ := List.mem_map.mp member
    obtain ⟨row, given, rfl⟩ := List.mem_map.mp listed
    rw [tabLine_eq] at inside
    rcases Text.mem_of_mem_join (Text.trimEnd_subset _ _ inside) with tab | ⟨cell, found, here⟩
    · rw [List.mem_singleton.mp tab]
      rfl
    · exact beq_eq_false_iff_ne.mpr (letters row given cell found letter here).2.2
  rw [Text.splitWhere_eq_splitOnP, Text.splitOnP_join rfl (by simpa using nonempty) apart,
    List.forall₂_map_right_iff, List.forall₂_map_right_iff, List.forall₂_same]
  intro row member
  have length := uniform row member
  have some : flushCells rows width row ≠ [] := by
    simpa [flushCells] using wide.ne'
  have one : (row.map strip).length ≤ 1 ↔ width = 1 := by
    rw [List.length_map]
    omega
  rw [tabFields_tabLine some fun cell listed tab => (letters row member cell listed _ tab).1 rfl,
    map_strip_flushCells length, upToSolid_eq_self_iff, one]
  exact ⟨rfl, Iff.rfl⟩

end Table

/-- A row with an empty cell inside. -/
def spacedRow : List Text := ["1e5".toList, [], " b ".toList]

theorem tab_fields_spacedRow :
    (∀ text ∈ [spacedRow].flatten, IsField text) ∧
      ∃ text, render (bareOptions "tsv" true .none) (.list [.list (textValues spacedRow)]) =
        .ok text ∧ (Text.splitWhere (· == '\n') text).map tabFields = [spacedRow.map strip] := by
  have fields : ∀ text ∈ [spacedRow].flatten, IsField text := by decide
  obtain ⟨text, drawn, lines⟩ := @tab_fields_iff [spacedRow] 3 (List.cons_ne_nil _ _) (by decide)
    (List.forall_mem_singleton.mpr rfl) fields
  refine ⟨fields, text, drawn, ?_⟩
  generalize Text.splitWhere (· == '\n') text = pieces at lines
  cases lines with
  | cons here later =>
    cases later
    exact congrArg (fun fields => [fields]) (here.2.mpr (.inr ⟨['b'], rfl, by decide⟩))

/-- A blank cell at the end of a row is no field of its line. -/
theorem blank_last_field_lost :
    render (bareOptions "tsv" true .none) (.list [.list (textValues [['a'], []])]) =
      .ok ['a'] ∧ tabFields ['a'] ≠ [['a'], []].map strip :=
  ⟨eq_ok_of_toOption (by decide +kernel), by decide⟩

end TypeSurvey.Table
