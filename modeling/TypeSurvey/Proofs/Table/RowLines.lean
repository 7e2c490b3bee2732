import TypeSurvey.Proofs.Table.Arrangement
import TypeSurvey.Proofs.Table.Frame

/-!
# Lines of rows

The lines of a table are drawn row after row. A row gets no lines of its own in three cases. In a
style with rules between rows, only as many lines of the table are drawn as there are rows of texts,
and the last one. If some cell has several lines, then blank cells have none. In a style without
blanks around cells, a cell of which only the mark of separating lines is left makes a separating
line of its row. All other rows are drawn, in their order.
-/

namespace TypeSurvey.Table

open Text (IsBlank)

/-! ## Parts of the body -/

/-- The rule that a style has for separating lines. -/
def Style.separatorRule (style : Style) : Option RuleStyle :=
  ((style.betweenRows.orElse fun _ => style.belowHeader).orElse fun _ =>
    style.below).orElse fun _ => style.above

/-- The rule that stands for a separating line; in a style without rules it is an empty line. -/
def Layout.ruleLine (style : Style) (table : Layout) : Text :=
  match style.separatorRule with
  | some rule => (rule.draw (table.paddedWidths style) table.alignments).toOption.getD []
  | none => []

/-- The lines that show some cells. -/
def Layout.ownLines (style : Style) (marks : RowMarks) (table : Layout) (cells : List Text) :
    List Text :=
  markedLines marks style.padding table.multiline table.widths cells

section Body

variable {style : Style} {marks : RowMarks} {table : Layout} {body : List Text}

/-- A part for each item, of which those behind a number of items are empty. -/
theorem getElem?_cut {α β : Type} (items : List α) (count place : Nat) (part : α → List β) :
    ((items.take count).map part ++ (items.drop count).map fun _ => [])[place]? =
      items[place]?.map fun item => if place < count then part item else [] := by
  induction items generalizing count place with
  | nil => simp
  | cons item items induction =>
    cases count with
    | zero =>
      simp only [List.take_zero, List.drop_zero, List.map_nil, List.nil_append,
        List.getElem?_map, Nat.not_lt_zero, if_false]
    | succ count =>
      cases place with
      | zero => simp
      | succ place => simpa using induction count place

theorem eq_none_of_lastOf {count : Nat} {last : Value}
    (found : lastOf (List.replicate count .none) = .ok last) : last = .none := by
  unfold lastOf at found
  split at found
  · next value there =>
      obtain rfl := Except.ok.inj found
      exact List.eq_of_mem_replicate (List.mem_of_getLast? there)
  · nomatch found

/-- In a style with rules between rows, as many rows are drawn as there are alignments, with a rule
after each, and then the last row. -/
theorem body_of_ruled {rule : RuleStyle} {count : Nat} {front : List Row} {final : Row}
    (drawing : style.row = .marks marks) (ruled : style.betweenRows = some rule)
    (shape : table.rows = front ++ [final])
    (verticals : table.verticals = List.replicate count .none)
    (made : table.bodyLines style = .ok body) :
    body = ((front.take count).map fun row =>
      table.ownLines style marks row.texts ++ [table.ruleLine style]).flatten ++
        table.ownLines style marks final.texts := by
  have some : table.rows.isEmpty = false := by simp [shape]
  simp only [Layout.bodyLines, ruled, some, rowsWithRules] at made
  obtain ⟨line, lineDrawn, rest⟩ := bind_eq_ok.mp made
  obtain ⟨before, frontDrawn, rest⟩ := bind_eq_ok.mp rest
  obtain ⟨vertical, found, rest⟩ := bind_eq_ok.mp rest
  obtain ⟨last, lastDrawn, same⟩ := bind_eq_ok.mp rest
  obtain rfl : before.flatten ++ last = body := Except.ok.inj same
  have isRule : table.ruleLine style = line := by
    have first : style.separatorRule = Option.some rule := by
      rw [Style.separatorRule, ruled]
      rfl
    rw [Layout.ruleLine, first]
    change (rule.draw (table.widths.map (· + 2 * style.padding))
      table.alignments).toOption.getD [] = line
    rw [lineDrawn]
    rfl
  have lastLines : last = table.ownLines style marks final.texts := by
    rw [verticals] at found
    obtain rfl := eq_none_of_lastOf found
    rw [shape, List.getLast?_concat, drawing, rowLines_marks] at lastDrawn
    exact (Except.ok.inj lastDrawn).symm
  have frontLines : before = (front.take count).map fun row =>
      table.ownLines style marks row.texts ++ [line] := by
    rw [shape, List.dropLast_concat, verticals, zip_replicate_right, List.mapM_map] at frontDrawn
    refine Except.ok.inj (frontDrawn.symm.trans (mapM_of_forall fun row _ => ?_))
    rw [Function.comp_apply, drawing, rowLines_marks]
    rfl
  rw [frontLines, lastLines, isRule]

/-- In a style with rules between rows, rows at the end are left out, except the last one. -/
theorem exists_parts_of_ruled {rule : RuleStyle} {count : Nat} (drawing : style.row = .marks marks)
    (ruled : style.betweenRows = some rule) (nonempty : table.rows ≠ [])
    (verticals : table.verticals = List.replicate count .none)
    (made : table.bodyLines style = .ok body) :
    ∃ parts : List (List Text), body = parts.flatten ∧ parts.length = table.rows.length ∧
      ∀ place row, table.rows[place]? = some row → parts[place]? = some
        (if place + 1 = table.rows.length then table.ownLines style marks row.texts
        else if place < count then table.ownLines style marks row.texts ++ [table.ruleLine style]
        else []) := by
  obtain ⟨front, final, shape⟩ : ∃ front final, table.rows = front ++ [final] :=
    ⟨_, _, (List.dropLast_concat_getLast nonempty).symm⟩
  obtain ⟨before, whole⟩ : ∃ before, before = (front.take count).map (fun row =>
      table.ownLines style marks row.texts ++ [table.ruleLine style]) ++
        (front.drop count).map fun _ => [] := ⟨_, rfl⟩
  have room : before.length = front.length := by
    simp only [whole, List.length_append, List.length_map, List.length_take, List.length_drop]
    omega
  refine ⟨before ++ [table.ownLines style marks final.texts], ?_, ?_, ?_⟩
  · rw [body_of_ruled drawing ruled shape verticals made, whole]
    simp
  · rw [shape, List.length_append, List.length_append, room]
    rfl
  · intro place row there
    rw [shape] at there ⊢
    rw [List.length_append, List.length_singleton]
    by_cases ending : place = front.length
    · subst ending
      rw [List.getElem?_concat_length] at there
      rw [if_pos rfl, ← room, List.getElem?_concat_length, Option.some.inj there]
    · have bound : place < front.length := by
        have inside := (List.getElem?_eq_some_iff.mp there).1
        rw [List.length_append, List.length_singleton] at inside
        omega
      rw [List.getElem?_append_left bound] at there
      rw [if_neg (by omega), List.getElem?_append_left (by rwa [room]), whole, getElem?_cut, there]
      rfl

/-- In a style without rules between rows each row is drawn, or is a separating line. -/
theorem body_of_unruled (drawing : style.row = .marks marks)
    (unruled : style.betweenRows = none) (made : table.bodyLines style = .ok body) :
    body = (table.rows.map fun row => if row.isRule style table.multiline
      then [table.ruleLine style] else table.ownLines style marks row.texts).flatten := by
  have chosen : (((none : Option RuleStyle).orElse fun _ => style.belowHeader).orElse fun _ =>
      style.below).orElse (fun _ => style.above) = style.separatorRule := by
    rw [Style.separatorRule, unruled]
  simp only [Layout.bodyLines, plainRows, unruled, chosen] at made
  obtain ⟨lines, drawn, same⟩ := bind_eq_ok.mp made
  obtain rfl : lines.flatten = body := Except.ok.inj same
  rw [mapM_eq_ok_iff] at drawn
  refine congrArg List.flatten ?_
  rw [← List.forall₂_eq_eq_eq, List.forall₂_map_right_iff]
  refine (drawn.imp fun row part here => ?_).flip
  change part = if row.isRule style table.multiline then _ else _
  split_ifs at here ⊢ with separating
  · cases known : style.separatorRule with
    | none =>
      rw [known] at here
      rw [Layout.ruleLine, known]
      exact (Except.ok.inj here).symm
    | some rule =>
      rw [known] at here
      obtain ⟨line, lineDrawn, done⟩ := bind_eq_ok.mp here
      obtain rfl : [line] = part := Except.ok.inj done
      rw [Layout.ruleLine, known]
      change [line] =
        [(rule.draw (table.widths.map (· + 2 * style.padding)) table.alignments).toOption.getD []]
      rw [lineDrawn]
      rfl
  · rw [drawing, rowLines_marks] at here
    exact (Except.ok.inj here).symm

end Body

/-! ## Rows without lines -/

section Lost

variable {style : Style} {marks : RowMarks} {table : Layout} {shown : List Text}

/-- Cells are drawn in no line if and only if they may have several lines and none of them has
any. -/
theorem ownLines_eq_nil_iff :
    table.ownLines style marks shown = [] ↔
      table.multiline = true ∧ ∀ cell ∈ shown, cell = [] := by
  unfold Layout.ownLines markedLines
  cases table.multiline with
  | false => simp
  | true =>
    have height : greatest ((shown.map Text.splitLines).map List.length) = 0 ↔
        ∀ cell ∈ shown, cell = [] := by
      rw [← Nat.le_zero, greatest_le_iff]
      simp [Text.splitLines_eq_nil_iff]
    simpa using height

/-- A row of cells is drawn as a separating line if and only if cells have one line and no blanks
around them, and one of the first two is the mark. -/
theorem isRule_cells_iff {multiline : Bool} :
    (Row.cells shown).isRule style multiline = true ↔
      multiline = false ∧ style.padding = 0 ∧ separatorMark ∈ shown.take 2 := by
  have marked (cell : Text) : List.replicate style.padding ' ' ++ cell ++
      List.replicate style.padding ' ' = separatorMark ↔
        style.padding = 0 ∧ cell = separatorMark := by
    cases style.padding with
    | zero => simp
    | succ padding => simp [List.replicate_succ, separatorMark]
  simp only [Row.isRule, padRow, ← List.map_take, List.any_map, Bool.and_eq_true,
    Bool.not_eq_true', List.any_eq_true, Function.comp_apply, beq_iff_eq, marked]
  refine and_congr_right fun _ => ?_
  constructor
  · rintro ⟨cell, member, bare, rfl⟩
    exact ⟨bare, member⟩
  · rintro ⟨bare, member⟩
    exact ⟨_, member, bare, rfl⟩

end Lost

/-- The ways in which a row at a place gets no lines, where there are so many rows that are no
separating lines. -/
inductive IsLost (style : Style) (table : Layout) (count place : Nat) (cells shown : List Text) :
    Prop
  /-- Rules are drawn between rows, and the row is not among the first lines nor the last one. -/
  | skipped (ruled : style.betweenRows ≠ none) (behind : count ≤ place)
    (before : place + 1 < table.rows.length)
  /-- Cells may have several lines, and all of these cells are blank. -/
  | blank (multiline : table.multiline = true) (empty : ∀ cell ∈ cells, IsBlank cell)
  /-- The row looks like a separating line. -/
  | marked (unruled : style.betweenRows = none) (single : table.multiline = false)
    (bare : style.padding = 0) (found : separatorMark ∈ shown.take 2)

section Parts

variable {style : Style} {marks : RowMarks} {table : Layout} {body : List Text} {count : Nat}

/-- The body of a table has a part for each row, in their order. -/
theorem exists_parts (drawing : style.row = .marks marks) (nonempty : table.rows ≠ [])
    (verticals : table.verticals = List.replicate count .none)
    (made : table.bodyLines style = .ok body) :
    ∃ parts : List (List Text), body = parts.flatten ∧ parts.length = table.rows.length ∧
      ∀ place shown, table.rows[place]? = some (.cells shown) → ∃ own rule,
        parts[place]? = some (own ++ rule) ∧ (rule = [] ∨ rule = [table.ruleLine style]) ∧
        (own = [] ∨ own = table.ownLines style marks shown) ∧
        (own = [] ↔ style.betweenRows ≠ none ∧ count ≤ place ∧ place + 1 < table.rows.length ∨
          table.ownLines style marks shown = [] ∨
          style.betweenRows = none ∧ (Row.cells shown).isRule style table.multiline = true) := by
  cases between : style.betweenRows with
  | none =>
    refine ⟨_, body_of_unruled drawing between made, List.length_map _, ?_⟩
    intro place shown there
    rw [List.getElem?_map, there, Option.map_some]
    by_cases separating : (Row.cells shown).isRule style table.multiline = true
    · exact ⟨[], [table.ruleLine style], by rw [if_pos separating]; rfl, .inr rfl, .inl rfl,
        by simp [separating]⟩
    · exact ⟨table.ownLines style marks shown, [], by rw [if_neg separating, List.append_nil]; rfl,
        .inl rfl, .inr rfl, by simp [separating]⟩
  | some rule =>
    obtain ⟨parts, whole, length, each⟩ :=
      exists_parts_of_ruled drawing between nonempty verticals made
    refine ⟨parts, whole, length, fun place shown there => ?_⟩
    rw [each place _ there]
    have bound := (List.getElem?_eq_some_iff.mp there).1
    by_cases ending : place + 1 = table.rows.length
    · exact ⟨table.ownLines style marks shown, [], by rw [if_pos ending, List.append_nil]; rfl,
        .inl rfl, .inr rfl, by simp [ending]⟩
    by_cases early : place < count
    · exact ⟨table.ownLines style marks shown, [table.ruleLine style],
        by rw [if_neg ending, if_pos early]; rfl, .inr rfl, .inr rfl, by simp; omega⟩
    · refine ⟨[], [], by rw [if_neg ending, if_neg early]; rfl, .inl rfl, .inl rfl, ?_⟩
      exact iff_of_true rfl (.inl ⟨nofun, by omega, by omega⟩)

end Parts

theorem forall_empty_iff {measure : Measure} (multiline : measure.multiline = true)
    {cells shown : List Text} (stand : List.Forall₂ (Stands measure) cells shown) :
    (∀ cell ∈ shown, cell = []) ↔ ∀ cell ∈ cells, IsBlank cell := by
  induction stand with
  | nil => simp
  | cons here _ induction => simp [here.lines multiline, induction]

section Lines

variable {width : Nat}

/-- Whether a part of a table is what is drawn of a row of texts at a place: the lines of cells that
stand for the texts, unless these are lost, and a rule. -/
def DrawsRow (name : String) (lines : List (GivenLine width)) (table : Layout) (place : Nat)
    (cells part : List Text) : Prop :=
  ∃ marks shown own rule, (styleNamed name).row = .marks marks ∧
    table.rows[place]? = some (.cells shown) ∧
    List.Forall₂ (Stands ((linesSheet name lines).measure (.named (.ofString name))))
      (dotted name cells) shown ∧
    part = own ++ rule ∧ (rule = [] ∨ rule = [table.ruleLine (styleNamed name)]) ∧
    (own = [] ∨ own = table.ownLines (styleNamed name) marks shown) ∧
    (own = [] ↔ IsLost (styleNamed name) table (textRows lines).length place (dotted name cells)
      shown)

/-- Whether a text has the lines of a table in their order: what is drawn of each line, between the
rules above and below. -/
def DrawnInOrder (name : String) (lines : List (GivenLine width)) (text : Text) : Prop :=
  ∃ (table : Layout) (above : List Text) (parts : List (List Text)) (below : List Text),
    layOut (namedOptions (.tuple []) name) (.list (lines.map GivenLine.value)) = .ok table ∧
    (table.multiline = true ↔
      ∃ cells ∈ textRows lines, ∃ cell ∈ dotted name cells, hasLineBreak cell = true) ∧
    ruleLines (styleNamed name).above false (table.paddedWidths (styleNamed name))
      table.alignments = .ok above ∧
    ruleLines (styleNamed name).below false (table.paddedWidths (styleNamed name))
      table.alignments = .ok below ∧
    text = Text.join ['\n'] (above ++ parts.flatten ++ below) ∧
    parts.length = lines.length ∧
    ∀ place line cells, lines[place]? = some line → line.cells? = some cells →
      ∃ part, parts[place]? = some part ∧ DrawsRow name lines table place cells part

variable {name : String} {lines : List (GivenLine width)} {text : Text}

/-- Cells have several lines if and only if some cell has a line break. -/
theorem multiline_measure_iff (known : name ∈ Style.multilineNames) :
    ((linesSheet name lines).measure (.named (.ofString name))).multiline = true ↔
      ∃ cells ∈ textRows lines, ∃ cell ∈ dotted name cells, hasLineBreak cell = true := by
  have all : ∀ name ∈ Style.multilineNames, Style.isMultiline name.toList = true := by
    decide +kernel
  have texts : (linesSheet name lines).rows.flatten.map plainText =
      ((textRows lines).map (dotted name)).flatten := by
    rw [List.map_flatten, linesSheet, List.map_map]
    refine congrArg List.flatten (List.map_congr_left fun cells _ => ?_)
    exact map_plainText_textValues (dotted name cells)
  have measured : ((linesSheet name lines).measure (.named (.ofString name))).multiline =
      (Style.isMultiline name.toList && hasLineBreak (Text.join ['\t']
        ((linesSheet name lines).rows.flatten.map plainText))) := rfl
  rw [measured, all name known, Bool.true_and, texts, hasLineBreak, List.any_eq_true]
  constructor
  · rintro ⟨letter, member, breaks⟩
    rcases Text.mem_of_mem_join member with between | ⟨cell, inside, found⟩
    · obtain rfl := List.mem_singleton.mp between
      exact absurd breaks (by decide)
    · obtain ⟨_, row, place⟩ := List.mem_flatten.mp inside
      obtain ⟨cells, among, rfl⟩ := List.mem_map.mp row
      exact ⟨cells, among, cell, place, List.any_eq_true.mpr ⟨letter, found, breaks⟩⟩
  · rintro ⟨cells, among, cell, place, broken⟩
    obtain ⟨letter, found, breaks⟩ := List.any_eq_true.mp broken
    exact ⟨letter, Text.mem_join (List.mem_flatten.mpr ⟨_, List.mem_map_of_mem among, place⟩) found,
      breaks⟩

theorem exists_marks (known : name ∈ Style.multilineNames) :
    ∃ marks, (styleNamed name).row = .marks marks := by
  have all : ∀ name ∈ Style.multilineNames, (styleNamed name).row.border?.isSome = true := by
    decide +kernel
  have marked := all name known
  cases drawing : (styleNamed name).row with
  | marks marks => exact ⟨marks, rfl⟩
  | _ =>
    rw [drawing] at marked
    nomatch marked

/-- If a table of texts and separating lines is drawn, the rows of texts are drawn in their order,
each in lines of its own unless it is lost. -/
theorem rows_drawn_in_order (known : name ∈ Style.multilineNames) (wide : 0 < width)
    (some : textRows lines ≠ [])
    (drawn : render (namedOptions (.tuple []) name) (.list (lines.map GivenLine.value)) =
      .ok text) : DrawnInOrder name lines text := by
  obtain ⟨table, laid, made⟩ := bind_eq_ok.mp drawn
  obtain ⟨headless, multiline, verticals, stand⟩ := forall₂_rows_of_layOut wide some laid
  obtain ⟨marks, drawing⟩ := exists_marks known
  have nonempty : table.rows ≠ [] := by
    intro none
    rw [none, List.forall₂_nil_right_iff] at stand
    rw [stand] at some
    exact some rfl
  obtain ⟨shown, linesMade, rest⟩ := bind_eq_ok.mp made
  rw [List.isEmpty_eq_false_iff.mpr nonempty, Bool.and_false] at rest
  obtain rfl : Text.join ['\n'] shown = text := Except.ok.inj rest
  obtain ⟨above, aboveMade, rest⟩ := bind_eq_ok.mp linesMade
  obtain ⟨header, headerMade, rest⟩ := bind_eq_ok.mp rest
  obtain ⟨body, bodyMade, rest⟩ := bind_eq_ok.mp rest
  obtain ⟨below, belowMade, same⟩ := bind_eq_ok.mp rest
  obtain rfl : above ++ header ++ body ++ below = shown := Except.ok.inj same
  simp only [headless, List.isEmpty_nil, Bool.not_true, Bool.false_and] at aboveMade belowMade
  rw [Layout.headerLines, headless] at headerMade
  obtain rfl : [] = header := Except.ok.inj headerMade
  obtain ⟨parts, rfl, length, each⟩ := exists_parts drawing nonempty verticals bodyMade
  refine ⟨table, above, parts, below, laid, ?_, aboveMade, belowMade, by rw [List.append_nil], ?_,
    fun place line cells there found => ?_⟩
  · rw [multiline]
    exact multiline_measure_iff known
  · rw [length, stand.length_eq]
  · obtain ⟨bound, rfl⟩ := List.getElem?_eq_some_iff.mp there
    have inside : place < table.rows.length := stand.length_eq ▸ bound
    have here := stand.get bound inside
    simp only [RowStands, List.get_eq_getElem, found] at here
    obtain ⟨shown, row, cellsStand⟩ := here
    have shownThere : table.rows[place]? = Option.some (.cells shown) := by
      rw [List.getElem?_eq_getElem inside, row]
    obtain ⟨own, rule, part, ruled, drawnLines, lost⟩ := each place shown shownThere
    refine ⟨own ++ rule, part, marks, shown, own, rule, drawing, shownThere, cellsStand, rfl, ruled,
      drawnLines, lost.trans ?_⟩
    rw [ownLines_eq_nil_iff, isRule_cells_iff]
    constructor
    · rintro (⟨between, behind, before⟩ | ⟨several, empty⟩ | ⟨unruled, single, bare, marked⟩)
      · exact .skipped between behind before
      · exact .blank several ((forall_empty_iff (multiline ▸ several) cellsStand).mp empty)
      · exact .marked unruled single bare marked
    · rintro (⟨between, behind, before⟩ | ⟨several, blank⟩ | ⟨unruled, single, bare, marked⟩)
      · exact .inl ⟨between, behind, before⟩
      · exact .inr (.inl ⟨several, (forall_empty_iff (multiline ▸ several) cellsStand).mpr blank⟩)
      · exact .inr (.inr ⟨unruled, single, bare, marked⟩)

end Lines

def separatorLine {width : Nat} : GivenLine width := .separator (.str separatorMark) rfl

/-- Two rows with a separating line between them; a cell of the first has two lines. -/
def tallLines : List (GivenLine 2) :=
  [.row ["a\nb".toList, "1.5".toList] rfl rfl, separatorLine, .row [[], ['2']] rfl rfl]

theorem rows_drawn_in_order_tallLines :
    ∃ text, render (namedOptions (.tuple []) "grid") (.list (tallLines.map GivenLine.value)) =
      .ok text ∧ DrawnInOrder "grid" tallLines text := by
  have shown : (render (namedOptions (.tuple []) "grid")
      (.list (tallLines.map GivenLine.value))).isOk = true := by decide +kernel
  obtain ⟨text, drawn⟩ := exists_of_isOk shown
  exact ⟨text, drawn, rows_drawn_in_order (by decide) (by decide) (List.cons_ne_nil _ _) drawn⟩

/-- Three rows with two separating lines after the first. -/
def skippedLines : List (GivenLine 1) :=
  [.row [['a']] rfl rfl, separatorLine, separatorLine, .row [['b']] rfl rfl, .row [['c']] rfl rfl]

/-- A row of two lines, and a blank one. -/
def blankLines : List (GivenLine 1) := [.row ["x\ny".toList] rfl rfl, .row [[]] rfl rfl]

/-- A row with a cell that is the mark of separating lines but for a blank. -/
def disguisedLines : List (GivenLine 2) := [.row [" \x01".toList, ['b']] rfl rfl]

/-- Rows are lost in each of the three ways. -/
theorem rows_lost :
    (∃ text, render (namedOptions (.tuple []) "grid") (.list (skippedLines.map GivenLine.value)) =
      .ok text ∧ 'b' ∉ text) ∧
    render (namedOptions (.tuple []) "grid") (.list (blankLines.map GivenLine.value)) =
      .ok "+---+\n| x |\n| y |\n+---+\n+---+".toList ∧
    render (namedOptions (.tuple []) "plain") (.list (disguisedLines.map GivenLine.value)) =
      .ok [] := by
  have skipped : (render (namedOptions (.tuple []) "grid")
      (.list (skippedLines.map GivenLine.value))).toOption =
        some ("+---+\n| a |\n+---+\n| \x01 |\n+---+\n| \x01 |\n+---+\n| c |\n+---+".toList) := by
    decide +kernel
  exact ⟨⟨_, eq_ok_of_toOption skipped, by decide +kernel⟩, eq_ok_of_toOption (by decide +kernel),
    eq_ok_of_toOption (by decide +kernel)⟩

end TypeSurvey.Table
