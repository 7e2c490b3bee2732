import TypeSurvey.Proofs.Table.Bare
import TypeSurvey.Proofs.Table.Rectangle
import TypeSurvey.Proofs.Text.Layout

/-!
# Grids within a width

If the widths of columns are limited, cells are wrapped before the columns are written. Numbers are
kept, and other texts are broken into lines. Some cells cannot be wrapped: those without a value,
integers that are too large for real numbers, texts for such integers, and the names of truth
values. A text with such a name and blanks behind it can, but then it is the name alone, which
cannot be written in a column of real numbers. All other grids are drawn within the width.
-/

namespace TypeSurvey.Table

open Text (ofWidth)

/-! ## Wrapping cells -/

/-- Whether a cell is no value, a truth value, an integer, or a text of one line without escape
characters. -/
def IsFlat : Value → Prop
  | .none | .bool _ | .int _ => True
  | .str text => IsQuiet text
  | _ => False

/-- Whether a cell can be wrapped: a truth value, an integer with a real number next to it, or a
text that denotes a number or neither an integer nor a truth value. -/
def Wraps : Value → Prop
  | .bool _ => True
  | .int number => ∃ real, (Value.int number).toFloat = .ok real
  | .str text => denotesReal text = true ∨ textKind text = .text
  | _ => False

/-- A cell that is wrapped to a width. -/
def wrappedCell (limit : Int) : Value → Value
  | .str text =>
    if denotesReal text then .str text
    else .str (Text.join ['\n'] ((Text.wrap (ofWidth limit) text).toOption.getD []))
  | cell => cell

section Cell

variable {limit : Int} {cell : Value} {text : Text}

/-- A text of one line without escape characters is wrapped into such texts within the width. -/
theorem exists_quiet_lines (positive : 1 ≤ limit) (quiet : IsQuiet text) :
    ∃ lines, Text.wrap (ofWidth limit) text = .ok lines ∧
      ∀ line ∈ lines, IsQuiet line ∧ (line.length : Int) ≤ limit := by
  obtain ⟨final, returned, reached, -⟩ := Text.exists_wrap_ofWidth text positive
  have start : ∀ chunk ∈ Text.chunks (Text.smooth (ofWidth limit) text), IsQuiet chunk := by
    intro chunk member letter inside
    have smoothed : letter ∈ Text.smooth (ofWidth limit) text := by
      rw [← Text.flatten_chunks (Text.smooth (ofWidth limit) text)]
      exact List.mem_flatten.mpr ⟨chunk, member, inside⟩
    rcases Text.mem_or_of_mem_smooth smoothed with rfl | given
    · decide
    · exact quiet letter given
  have keeps : ∀ wrapping, Text.Wrapping.KeepsCut limit IsQuiet wrapping := by
    intro wrapping chunk room cut _ _ quiet
    exact ⟨fun letter inside => quiet letter (List.mem_of_mem_take inside),
      fun letter inside => quiet letter (List.mem_of_mem_drop inside)⟩
  obtain ⟨-, laid, shown, composed, -, -⟩ :=
    (Text.laidOut_unwrapped limit text start).run positive (fun wrapping _ => keeps wrapping)
      reached
  have bounds : ∀ line ∈ laid, IsQuiet line ∧ (line.length : Int) ≤ limit := by
    intro line member
    obtain ⟨pieces, -, rfl, fits, each⟩ := composed line member
    refine ⟨fun letter inside => ?_, ?_⟩
    · obtain ⟨piece, found, here⟩ := List.mem_flatten.mp inside
      exact (each piece found).2 letter here
    · rwa [← Text.totalWidth_of_notMem fun piece found inside =>
        ((each piece found).2 _ inside).1 rfl]
  rw [Text.coloured_of_notMem fun line member inside =>
    ((bounds line member).1 _ inside).1 rfl] at shown
  obtain ⟨lines, -⟩ := Prod.mk.inj shown
  refine ⟨_, returned, fun line member => bounds line ?_⟩
  rwa [List.mem_reverse, ← lines] at member

theorem isNumber_int {number : Int} {real : Binary64}
    (read : (Value.int number).toFloat = .ok real) : isNumber (.int number) = .ok true := by
  simp only [isNumber, readsAsFloat, read, ok_bind]
  split_ifs <;> rfl

theorem wrapCell_int (cell : Value) (limit : Int) :
    wrapCell cell (.int limit) true = do
      if ← isNumber cell then return cell
      let text ← wrappable cell true
      let lines ← (Text.wrap (ofWidth limit) text).mapError (wrapFault (.int limit))
      return .str (Text.join ['\n'] lines) := by
  simp only [wrapCell, Bool.and_true]
  rfl

theorem wrapCell_of_wraps (positive : 1 ≤ limit) (flat : IsFlat cell) (wraps : Wraps cell) :
    wrapCell cell (.int limit) true = .ok (wrappedCell limit cell) := by
  rw [wrapCell_int]
  cases cell with
  | bool truth => cases truth <;> rfl
  | int number =>
    obtain ⟨real, read⟩ := wraps
    rw [isNumber_int read]
    rfl
  | str text =>
    rw [isNumber_str, ok_bind, wrappedCell]
    by_cases number : denotesReal text = true
    · rw [if_pos number, if_pos number]
      rfl
    · obtain ⟨lines, wrapped, -⟩ := exists_quiet_lines positive flat
      have shown : wrappable (.str text) true = .ok text := by
        rw [wrappable, isNumber_str, ok_bind, if_neg number, kindOf_str, wraps.resolve_left number]
        rfl
      rw [if_neg number, if_neg number, shown, ok_bind, wrapped]
      rfl
  | _ => exact wraps.elim

theorem wraps_of_wrapCell (flat : IsFlat cell) {wrapped : Value}
    (done : wrapCell cell (.int limit) true = .ok wrapped) : Wraps cell := by
  rw [wrapCell_int] at done
  obtain ⟨answer, known, rest⟩ := bind_eq_ok.mp done
  cases cell with
  | none =>
    cases known
    cases rest
  | bool truth => trivial
  | int number =>
    obtain ⟨found, read, -⟩ := bind_eq_ok.mp known
    have shape : (Value.int number).toFloat = if (Binary64.ofInt number).isInfinite then
        .error .integerTooLarge else .ok (Binary64.ofInt number) := rfl
    by_cases large : (Binary64.ofInt number).isInfinite = true
    · rw [readsAsFloat, shape, if_pos large] at read
      cases read
    · exact ⟨_, shape.trans (if_neg large)⟩
  | str text =>
    obtain rfl := Except.ok.inj ((isNumber_str text).symm.trans known)
    by_cases number : denotesReal text = true
    · exact .inl number
    · rw [if_neg number] at rest
      obtain ⟨shown, wraps, -⟩ := bind_eq_ok.mp rest
      rw [wrappable, isNumber_str, ok_bind, if_neg number, kindOf_str, ok_bind] at wraps
      cases kind : textKind text with
      | text => exact .inr kind
      | integer =>
        rw [kind] at wraps
        split_ifs at wraps
      | _ =>
        rw [kind] at wraps
        cases wraps
  | _ => exact flat.elim

end Cell

/-! ## Wrapping rows -/

section Rows

variable {limit : Int} {rows : List (List Value)} {width : Nat}

theorem exists_wrapTo_iff (nonempty : rows ≠ []) (uniform : ∀ row ∈ rows, row.length = width)
    (positive : 1 ≤ limit) (flat : ∀ row ∈ rows, ∀ cell ∈ row, IsFlat cell) :
    ((∃ wrapped, wrapTo (.int limit) (.bool false) width rows = .ok wrapped) ↔
      ∀ row ∈ rows, ∀ cell ∈ row, Wraps cell) ∧
    ((∀ row ∈ rows, ∀ cell ∈ row, Wraps cell) →
      wrapTo (.int limit) (.bool false) width rows =
        .ok (rows.map fun row => row.map (wrappedCell limit))) := by
  have widths : expand (.int limit) width (.int limit) =
      .ok (List.replicate width (.int limit)) := rfl
  have reading : expandNumberReading (.bool false) width = .ok (List.replicate width true) := rfl
  have counted : (rows.head?.map List.length).getD 0 = width := by
    obtain ⟨first, rest, rfl⟩ := List.exists_cons_of_ne_nil nonempty
    exact uniform first List.mem_cons_self
  have zipped : ∀ row ∈ rows, row.zip ((List.replicate width (Value.int limit)).zip
      (List.replicate width true)) = row.map fun cell => (cell, .int limit, true) := by
    intro row member
    rw [← uniform row member, ← List.map_const', ← List.map_const', List.zip_map',
      List.map_prod_left_eq_zip]
  have shape : wrapTo (.int limit) (.bool false) width rows =
      wrapRows rows (List.replicate width (.int limit)) (List.replicate width true) := by
    simp only [wrapTo, Value.underived, widths, reading, ok_bind, counted, List.length_replicate,
      Nat.sub_self, List.replicate_zero, List.append_nil]
  rw [shape, wrapRows, exists_mapM_iff]
  constructor
  · refine forall₂_congr fun row member => ?_
    rw [zipped row member, List.mapM_map, exists_mapM_iff]
    refine forall₂_congr fun cell inside => ⟨?_, ?_⟩
    · rintro ⟨wrapped, done⟩
      exact wraps_of_wrapCell (flat row member cell inside) done
    · exact fun wraps => ⟨_, wrapCell_of_wraps positive (flat row member cell inside) wraps⟩
  · intro wraps
    refine mapM_of_forall fun row member => ?_
    rw [zipped row member, List.mapM_map]
    exact mapM_of_forall fun cell inside =>
      wrapCell_of_wraps positive (flat row member cell inside) (wraps row member cell inside)

theorem ofData_limited (nonempty : rows ≠ []) (some : keptRows rows ≠ [])
    (uniform : ∀ row ∈ rows, row.length = width) :
    Sheet.ofData (bareOptions "grid" false (.int limit)) (.list (rows.map .list)) =
      wrapTo (.int limit) (.bool false) width (keptRows rows) >>= fun wrapped =>
        .ok ⟨[], wrapped, separatorPlaces rows⟩ := by
  obtain ⟨first, rest, shape⟩ := List.exists_cons_of_ne_nil some
  have member : first ∈ keptRows rows := shape ▸ List.mem_cons_self
  have length : first.length = width := uniform first (List.mem_of_mem_filter member)
  have named : (bareOptions "grid" false (.int limit)).isNamed "rst" = false :=
    (isNamed_namedOptions (.tuple []) "grid" "rst").trans (by decide)
  have prepared : prepare (bareOptions "grid" false (.int limit)) (.list (rows.map .list)) =
      wrapTo (.int limit) (.bool false) width (keptRows rows) >>= fun wrapped =>
        .ok (wrapped, separatorPlaces rows, []) := by
    simp only [prepare, bareOptions, namedOptions, normalize_bare nonempty, ok_bind,
      removeSeparators_eq, mapM_iterate_list, shape, length]
    rfl
  rw [Sheet.ofData, prepared, bind_assoc]
  simp only [ok_bind, named, Bool.false_eq_true, if_false]
  rfl

end Rows

/-! ## Writing columns -/

/-- Whether a column can be written in the format of its kind. -/
def Writable (styled : Bool) (cells : List Value) : Prop :=
  ∃ kind, columnKind cells true true = .ok kind ∧
    ∃ written, cells.mapM (formatCell (plainFormat kind styled)) = .ok written

/-- Whether a column is one of real numbers and has a name of a truth value. -/
def MixesTruth (cells : List Value) : Prop :=
  columnKind cells true true = .ok .real ∧ ∃ text, .str text ∈ cells ∧ textKind text = .truth

/-- Whether a cell is a truth value, an integer with a real number next to it, or a text without
escape sequences. -/
def IsWrapped : Value → Prop
  | .bool _ => True
  | .int number => ∃ real, (Value.int number).toFloat = .ok real
  | .str text => Text.isStyled text = false
  | _ => False

theorem exists_forall₂_zip_iff {α β γ : Type} {first : α → β → Prop} {second : α × β → γ → Prop}
    {items : List α} :
    (∃ others results, List.Forall₂ first items others ∧
      List.Forall₂ second (items.zip others) results) ↔
      ∀ item ∈ items, ∃ other, first item other ∧ ∃ result, second (item, other) result := by
  induction items with
  | nil => simp
  | cons item items induction =>
    rw [List.forall_mem_cons, ← induction]
    constructor
    · rintro ⟨others, results, related, made⟩
      cases related with
      | cons here later =>
        cases made with
        | cons result rest => exact ⟨⟨_, here, _, result⟩, _, _, later, rest⟩
    · rintro ⟨⟨other, here, result, made⟩, others, results, later, rest⟩
      exact ⟨_, _, .cons here later, .cons made rest⟩

theorem exists_formatColumns_iff {headers : Value} {name : String} {styled : Bool}
    {columns : List (List Value)} :
    (∃ result, formatColumns (namedOptions headers name) (.bool false) styled columns =
      .ok result) ↔ ∀ cells ∈ columns, Writable styled cells := by
  rw [Prod.exists]
  simp only [formatColumns_eq_ok_iff]
  rw [exists_comm]
  exact exists_forall₂_zip_iff

section Column

variable {styled : Bool} {cells : List Value} {limit : Int}

/-- In a column of real numbers a text is a number or the name of a truth value. -/
theorem textKind_ne_text (real : columnKind cells true true = .ok .real) {text : Text}
    (member : .str text ∈ cells) : textKind text ≠ .text := by
  obtain ⟨kinds, known, joined⟩ := bind_eq_ok.mp real
  have low : (kinds.foldl CellKind.join .truth).rank ≤ 3 := by
    rw [Except.ok.inj joined]
    decide
  obtain ⟨kind, found, here⟩ := exists_of_mem_right (mapM_eq_ok_iff.mp known).flip member
  obtain rfl := Except.ok.inj ((kindOf_str text).symm.trans here)
  have bound := ((rank_foldl_join_le_iff _ _ _).mp low).2 _ found
  intro same
  rw [same] at bound
  exact absurd bound (by decide)

/-- A column of plain cells can be written unless it is one of real numbers with a name of a truth
value. -/
theorem writable_iff (plain : ∀ cell ∈ cells, IsWrapped cell) :
    Writable styled cells ↔ ¬ MixesTruth cells := by
  have each : ∀ cell ∈ cells, ∃ kind, kindOf cell true true = .ok kind := by
    intro cell member
    have known := plain cell member
    cases cell with
    | bool _ | int _ => exact ⟨_, rfl⟩
    | str text => exact ⟨_, kindOf_str text⟩
    | _ => exact known.elim
  obtain ⟨kinds, known⟩ := exists_mapM_iff.mpr each
  have column : columnKind cells true true = .ok (kinds.foldl CellKind.join .truth) := by
    rw [columnKind, known]
    rfl
  generalize kinds.foldl CellKind.join .truth = kind at column
  simp only [Writable, MixesTruth, column, Except.ok.injEq, exists_eq_left', exists_mapM_iff]
  have text {text : Text} (member : .str text ∈ cells) :
      (∃ shown, formatCell (plainFormat kind styled) (.str text) = .ok shown) ↔
        (kind = .real → textKind text ≠ .truth) := by
    have unstyled : Text.isStyled text = false := plain _ member
    rw [exists_formatCell_iff (show IsCell (.str text) from trivial)
      fun _ other same => Value.str.inj same ▸ unstyled]
    refine forall_congr' fun real => ?_
    subst real
    exact exists_visibleReal_iff (textKind_ne_text column member)
  constructor
  · rintro written ⟨real, shown, member, truth⟩
    exact (text member).mp (written _ member) real truth
  · intro fits cell member
    have known := plain cell member
    cases cell with
    | bool truth =>
      cases kind with
      | real => cases styled <;> exact (exists_writeReal_iff _ id).mpr ⟨_, rfl⟩
      | _ => exact ⟨_, rfl⟩
    | int number =>
      refine (exists_formatCell_iff (show IsCell (.int number) from trivial) ?_).mpr fun _ => known
      rintro - text same
      cases same
    | str shown => exact (text member).mpr fun real truth => fits ⟨real, shown, member, truth⟩
    | _ => exact known.elim

end Column

/-! ## Drawing grids -/

/-- A sheet without headers is drawn as a grid if and only if it has rows and each column can be
written. -/
theorem exists_render_sheet_iff {widths data : Value} {sheet : Sheet} {width : Nat}
    (given : Sheet.ofData (bareOptions "grid" false widths) data = .ok sheet)
    (bare : sheet.headers = []) (simple : ∀ row ∈ sheet.rows, ∀ cell ∈ row, IsSimple cell)
    (uniform : ∀ row ∈ sheet.rows, row.length = width) (wide : 0 < width)
    (separated : sheet.rows = [] → sheet.separators ≠ []) :
    (∃ text, render (bareOptions "grid" false widths) data = .ok text) ↔
      sheet.rows ≠ [] ∧ ∀ cells ∈ transpose sheet.rows,
        Writable (sheet.measure (.named (.ofString "grid"))).ignoresStyle cells := by
  have style : (bareOptions "grid" false widths).style.style = gridStyle := rfl
  rw [render, layOut_bare (by decide) given bare, style,
    ← @exists_formatColumns_iff (.tuple []) "grid"]
  cases done : formatColumns (namedOptions (.tuple []) "grid") (.bool false)
      (sheet.measure (.named (.ofString "grid"))).ignoresStyle (transpose sheet.rows) with
  | error fault => simp [bind, Except.bind]
  | ok result =>
    obtain ⟨shown, kinds⟩ := result
    have kindCount := (formatColumns_eq_ok_iff.mp done).1.length_eq
    obtain ⟨columns, rfl, count, solid, -⟩ := exists_texts_of_formatColumns simple done
    have filled : ∀ cells ∈ columns.map fun texts => texts.map Value.str, cells ≠ [] := by
      simpa only [List.forall_mem_map, ne_eq, List.map_eq_nil_iff] using solid
    have texts : ∀ cells ∈ columns.map fun texts => texts.map Value.str, ∀ cell ∈ cells,
        ∃ text, cell = .str text := by
      rw [List.forall_mem_map]
      intro texts _
      rw [List.forall_mem_map]
      exact fun text _ => ⟨text, rfl⟩
    simp only [ok_bind, alignColumns_eq filled texts, pure_bind, exists_draw_layout_iff,
      Except.ok.injEq, exists_eq', and_true]
    constructor
    · rintro bottom none
      obtain rfl : columns = [] := List.eq_nil_of_length_eq_zero (by rw [count, none]; rfl)
      rcases bottom with unseparated | some
      · exact separated none unseparated
      · exact some rfl
    · intro some
      have across := List.length_pos_iff.mpr (transpose_ne_nil some uniform wide)
      have shown : columns ≠ [] := List.length_pos_iff.mp (count ▸ across)
      have aligned : kinds ≠ [] := List.length_pos_iff.mp (kindCount ▸ across)
      exact .inr (rowsOf_ne_nil filled (by simpa using shown) (by simpa using aligned)
        (by simpa using shown))

/-! ## Grids within a width -/

section Grid

variable {rows : List (List Value)} {width : Nat} {limit : Int} {cell : Value}

theorem isSimple_of_isFlat (flat : IsFlat cell) : IsSimple cell := by
  cases cell with
  | none | bool _ | int _ | str _ => trivial
  | _ => exact flat.elim

/-- A wrapped text has no escape sequences, and no line of it exceeds the width unless it is a
number that is kept. -/
theorem wrappedCell_str (positive : 1 ≤ limit) {text : Text} (quiet : IsQuiet text) :
    ∃ shown, wrappedCell limit (.str text) = .str shown ∧ Text.isStyled shown = false ∧
      (denotesReal shown = false →
        ∀ line ∈ Text.splitLines shown, (line.length : Int) ≤ limit) := by
  rw [wrappedCell]
  split_ifs with number
  · have plain : Text.escape ∉ text := fun inside => (quiet _ inside).1 rfl
    exact ⟨text, rfl, Text.isStyled_of_notMem plain, fun other => absurd number (by simp [other])⟩
  · obtain ⟨lines, wrapped, each⟩ := exists_quiet_lines positive quiet
    rw [wrapped]
    refine ⟨_, rfl, Text.isStyled_of_notMem fun inside => ?_, fun _ line member => ?_⟩
    · rcases Text.mem_of_mem_join inside with feed | ⟨line, member, here⟩
      · exact absurd feed (by decide)
      · exact ((each line member).1 _ here).1 rfl
    · have free : ∀ line ∈ lines, Text.IsOneLine line :=
        fun line member letter inside => ((each line member).1 letter inside).2
      exact (each line (Text.splitLines_join_subset free member)).2

theorem isWrapped_wrappedCell (positive : 1 ≤ limit) (flat : IsFlat cell) (wraps : Wraps cell) :
    IsWrapped (wrappedCell limit cell) := by
  cases cell with
  | bool _ => trivial
  | int _ => exact wraps
  | str text =>
    obtain ⟨shown, same, plain, -⟩ := wrappedCell_str positive flat
    rw [same]
    exact plain
  | _ => exact wraps.elim

theorem isSimple_of_isWrapped (wrapped : IsWrapped cell) : IsSimple cell := by
  cases cell with
  | bool _ | int _ | str _ => trivial
  | _ => exact wrapped.elim

/-- Where a grid is drawn, it is drawn within a width if and only if each of its cells can be
wrapped and no wrapped column of real numbers has a name of a truth value. The wrapped cells then
stand in the sheet that is drawn. Each line of a text that is no number is within the width. -/
theorem limited_grid_iff (nonempty : rows ≠ []) (wide : 0 < width)
    (uniform : ∀ row ∈ rows, row.length = width) (flat : ∀ row ∈ rows, ∀ cell ∈ row, IsFlat cell)
    (positive : 1 ≤ limit)
    (drawn : ∃ text, render (bareOptions "grid" false .none) (.list (rows.map .list)) = .ok text) :
    let limited := bareOptions "grid" false (.int limit)
    let wrapped := (keptRows rows).map fun row => row.map (wrappedCell limit)
    ((∃ text, render limited (.list (rows.map .list)) = .ok text) ↔
      (∀ row ∈ keptRows rows, ∀ cell ∈ row, Wraps cell) ∧
        ∀ cells ∈ transpose wrapped, ¬ MixesTruth cells) ∧
    ((∀ row ∈ keptRows rows, ∀ cell ∈ row, Wraps cell) →
      Sheet.ofData limited (.list (rows.map .list)) = .ok ⟨[], wrapped, separatorPlaces rows⟩) ∧
    ∀ row ∈ wrapped, ∀ text, .str text ∈ row → denotesReal text = false →
      ∀ line ∈ Text.splitLines text, (line.length : Int) ≤ limit := by
  intro limited wrapped
  have keptFlat : ∀ row ∈ keptRows rows, ∀ cell ∈ row, IsFlat cell :=
    fun row member => flat row (List.mem_of_mem_filter member)
  have keptUniform : ∀ row ∈ keptRows rows, row.length = width :=
    fun row member => uniform row (List.mem_of_mem_filter member)
  have some : keptRows rows ≠ [] := by
    have iff := exists_render_sheet_iff (ofData_bare (by decide) nonempty) rfl
      (fun row member cell inside => isSimple_of_isFlat (keptFlat row member cell inside))
      keptUniform wide (separatorPlaces_ne_nil nonempty)
    exact (iff.mp drawn).1
  obtain ⟨exists_iff, result⟩ := exists_wrapTo_iff some keptUniform positive keptFlat
  have sheet := @ofData_limited limit rows width nonempty some uniform
  have sheetOf (wraps : ∀ row ∈ keptRows rows, ∀ cell ∈ row, Wraps cell) :
      Sheet.ofData limited (.list (rows.map .list)) = .ok ⟨[], wrapped, separatorPlaces rows⟩ := by
    rw [sheet, result wraps]
    rfl
  have columns (wraps : ∀ row ∈ keptRows rows, ∀ cell ∈ row, Wraps cell) :
      (∃ text, render limited (.list (rows.map .list)) = .ok text) ↔
        ∀ cells ∈ transpose wrapped, ¬ MixesTruth cells := by
    have each : ∀ row ∈ wrapped, ∀ cell ∈ row, IsWrapped cell := by
      simp only [wrapped, List.forall_mem_map]
      exact fun row member cell inside => isWrapped_wrappedCell positive
        (keptFlat row member cell inside) (wraps row member cell inside)
    have lengths : ∀ row ∈ wrapped, row.length = width := by
      simpa only [wrapped, List.forall_mem_map, List.length_map] using keptUniform
    have filled : wrapped ≠ [] := by simpa [wrapped] using some
    rw [exists_render_sheet_iff (sheetOf wraps) rfl
      (fun row member cell inside => isSimple_of_isWrapped (each row member cell inside)) lengths
      wide (fun none => absurd none filled), and_iff_right filled]
    refine forall₂_congr fun cells member => writable_iff fun cell inside => ?_
    obtain ⟨row, found, here⟩ := exists_row_of_mem_transpose lengths member inside
    exact each row found cell here
  refine ⟨⟨?_, fun both => (columns both.1).mpr both.2⟩, sheetOf, ?_⟩
  · rintro ⟨text, rendered⟩
    obtain ⟨table, laid, -⟩ := bind_eq_ok.mp rendered
    obtain ⟨found, given, -⟩ := bind_eq_ok.mp laid
    obtain ⟨made, done, -⟩ := bind_eq_ok.mp (sheet.symm.trans given)
    have wraps := exists_iff.mp ⟨made, done⟩
    exact ⟨wraps, (columns wraps).mp ⟨text, rendered⟩⟩
  · simp only [wrapped, List.forall_mem_map]
    intro row member text inside
    obtain ⟨cell, given, same⟩ := List.mem_map.mp inside
    have known := keptFlat row member cell given
    cases cell with
    | str original =>
      obtain ⟨shown, made, -, within⟩ := wrappedCell_str positive known
      obtain rfl := Value.str.inj (made.symm.trans same)
      exact within
    | none | bool _ | int _ => cases same
    | _ => exact known.elim

end Grid

/-- A text of two words above a truth value. -/
def wordRows : List (List Value) := [[.ofString "ab cd"], [.bool true]]

theorem limited_grid_wordRows :
    (∃ text, render (bareOptions "grid" false .none) (.list (wordRows.map .list)) = .ok text) ∧
      ∃ text, render (bareOptions "grid" false (.int 3)) (.list (wordRows.map .list)) =
        .ok text := by
  have shown : (render (bareOptions "grid" false .none) (.list (wordRows.map .list))).toOption =
      some "+-------+\n| ab cd |\n+-------+\n| True  |\n+-------+".toList := by
    decide +kernel
  have drawn := eq_ok_of_toOption shown
  have flat : ∀ row ∈ wordRows, ∀ cell ∈ row, IsFlat cell := by
    have quiet : IsQuiet "ab cd".toList := by decide
    simpa [wordRows, Value.ofString, IsFlat] using quiet
  have both := @limited_grid_iff wordRows 1 3 (List.cons_ne_nil _ _) Nat.one_pos (by decide) flat
    (by decide) ⟨_, drawn⟩
  refine ⟨⟨_, drawn⟩, both.1.mpr ⟨?_, ?_⟩⟩
  · have word : textKind "ab cd".toList = .text := by decide +kernel
    have kept : keptRows wordRows = wordRows := rfl
    rw [kept]
    simp only [wordRows, List.forall_mem_cons, List.not_mem_nil, false_implies, implies_true,
      and_true]
    exact ⟨.inr word, trivial⟩
  · have column : transpose ((keptRows wordRows).map fun row => row.map (wrappedCell 3)) =
        [[wrappedCell 3 (.ofString "ab cd"), .bool true]] := rfl
    have text : columnKind [wrappedCell 3 (.ofString "ab cd"), .bool true] true true = .ok .text :=
      eq_ok_of_toOption (by decide +kernel)
    rw [column, List.forall_mem_singleton]
    rintro ⟨real, -⟩
    cases text.symm.trans real

/-- The name of a truth value cannot be wrapped. -/
theorem truth_name_not_wrapped :
    render (bareOptions "grid" false .none) (.list [.list [.ofString "True"]]) =
        .ok "+------+\n| True |\n+------+".toList ∧
      render (bareOptions "grid" false (.int 5)) (.list [.list [.ofString "True"]]) =
        .error (.noAttribute "bool".toList "expandtabs".toList) :=
  ⟨eq_ok_of_toOption (by decide +kernel), rfl⟩

end TypeSurvey.Table
