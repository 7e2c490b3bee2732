import TypeSurvey.Proofs.Table.Padding

/-!
# Framed lines

A style has a frame if every rule and every row of it begins and ends with one mark and has one mark
between columns. In such a style a layout whose cells fill their columns is drawn in lines of one
length, and the marks stand at the same offsets in all of them.
-/

namespace TypeSurvey.Table

open Text (IsOneLine isBlank isLineBoundary)

/-! ## Rows drawn with marks -/

/-- Lines with blank lines below them up to a number of lines. -/
def fillLines (count width : Nat) (lines : List Text) : List Text :=
  lines ++ List.replicate (count - lines.length) (List.replicate width ' ')

/-- The lines of a row that is drawn with marks. -/
def markedLines (marks : RowMarks) (padding : Nat) (multiline : Bool) (widths : List Nat)
    (cells : List Text) : List Text :=
  if multiline then
    let columns := cells.map Text.splitLines
    let count := greatest (columns.map List.length)
    let filled := columns.zipWith (fun lines width => fillLines count width lines) widths
    (List.range count).map fun line =>
      marks.draw (padRow padding (filled.map fun column => column.getD line []))
  else [marks.draw (padRow padding cells)]

theorem rowLines_marks (style : Style) (marks : RowMarks) (multiline : Bool) (widths : List Nat)
    (alignments : List Alignment) (cells : List Text) :
    rowLines style (.marks marks) multiline widths alignments .none cells =
      .ok (markedLines marks style.padding multiline widths cells) := by
  cases multiline with
  | false => rfl
  | true => exact mapM_of_forall fun line _ => rfl

theorem getD_fillLines {count width index : Nat} {lines : List Text} (bound : index < count)
    (each : ∀ line ∈ lines, line.length = width ∧ IsOneLine line) :
    ((fillLines count width lines).getD index []).length = width ∧
      IsOneLine ((fillLines count width lines).getD index []) := by
  have short : index < (fillLines count width lines).length := by
    rw [fillLines, List.length_append, List.length_replicate]
    omega
  rw [List.getD_eq_getElem?_getD, List.getElem?_eq_getElem short, Option.getD_some]
  rcases List.mem_append.mp (List.getElem_mem short) with own | blank
  · exact each _ own
  · rw [List.eq_of_mem_replicate blank]
    refine ⟨List.length_replicate, fun letter found => ?_⟩
    rw [List.eq_of_mem_replicate found]
    rfl

/-- Where all cells fill their columns, each line of a row has a piece for each column. -/
theorem exists_pieces_of_mem_markedLines {marks : RowMarks} {padding : Nat} {multiline : Bool}
    {widths : List Nat} {cells : List Text} (fills : List.Forall₂ (Fills multiline) widths cells)
    {line : Text} (member : line ∈ markedLines marks padding multiline widths cells) :
    ∃ pieces, List.Forall₂ (fun width (piece : Text) => piece.length = width ∧ IsOneLine piece)
      widths pieces ∧ line = marks.draw (padRow padding pieces) := by
  cases multiline with
  | false =>
    refine ⟨cells, fills.imp fun width cell fill => ?_, List.mem_singleton.mp member⟩
    exact fill cell List.mem_cons_self
  | true =>
    obtain ⟨index, inside, rfl⟩ := List.mem_map.mp member
    refine ⟨_, ?_, rfl⟩
    have bound := List.mem_range.mp inside
    generalize greatest ((cells.map Text.splitLines).map List.length) = count at bound
    clear member inside
    induction fills with
    | nil => exact .nil
    | cons here _ induction => exact .cons (getD_fillLines bound here) induction

/-! ## Frames -/

/-- Whether a row or a rule has one mark, which is not blank, before, between and after its
columns. -/
def IsBorder (marks : RowMarks) : Prop :=
  (marks.opening.length = 1 ∧ marks.between.length = 1 ∧ marks.closing.length = 1) ∧
    ∀ letter ∈ marks.opening ++ marks.between ++ marks.closing, isBlank letter = false

instance (marks : RowMarks) : Decidable (IsBorder marks) :=
  have : Decidable (∀ letter ∈ marks.opening ++ marks.between ++ marks.closing,
      isBlank letter = false) := List.decidableBAll (fun letter => isBlank letter = false) _
  inferInstanceAs (Decidable (_ ∧ _))

/-- Whether a line has a segment over each column, with marks around and between them. -/
def Framed (marks : RowMarks) (widths : List Nat) (line : Text) : Prop :=
  IsBorder marks ∧ ∃ segments,
    List.Forall₂ (fun width (segment : Text) => segment.length = width + 2 ∧ IsOneLine segment)
      widths segments ∧
    line = marks.opening ++ Text.join marks.between segments ++ marks.closing

theorem isLineBoundary_of_solid {letter : Char} (solid : isBlank letter = false) :
    isLineBoundary letter = false := by
  by_contra boundary
  rw [Text.isBlank_of_isLineBoundary (Bool.not_eq_false _ ▸ boundary)] at solid
  nomatch solid

/-- Nothing is stripped from a line that ends with a mark. -/
theorem draw_of_isBorder {marks : RowMarks} (border : IsBorder marks) (segments : List Text) :
    marks.draw segments = marks.opening ++ Text.join marks.between segments ++ marks.closing := by
  obtain ⟨closing, shape⟩ := List.length_eq_one_iff.mp border.1.2.2
  have solid : isBlank closing = false := border.2 closing (by simp [shape])
  rw [RowMarks.draw, shape, Text.stripEnd, Text.trimEnd_eq_rdropWhile,
    List.rdropWhile_concat_neg _ _ _ (by simp [solid])]

theorem framed_row {marks : RowMarks} (border : IsBorder marks) {multiline : Bool}
    {widths : List Nat} {cells : List Text} (fills : List.Forall₂ (Fills multiline) widths cells)
    {line : Text} (member : line ∈ markedLines marks 1 multiline widths cells) :
    Framed marks widths line := by
  obtain ⟨pieces, each, rfl⟩ := exists_pieces_of_mem_markedLines fills member
  refine ⟨border, padRow 1 pieces, ?_, draw_of_isBorder border _⟩
  rw [padRow, List.forall₂_map_right_iff]
  refine each.imp fun width piece fitting => ⟨?_, ?_⟩
  · simp [fitting.1]
  · intro letter found
    simp only [List.replicate_one, List.mem_append, List.mem_singleton] at found
    rcases found with (rfl | inside) | rfl
    · rfl
    · exact fitting.2 letter inside
    · rfl

def RuleStyle.border? : RuleStyle → Option RowMarks
  | .marks drawing => some ⟨drawing.opening, drawing.between, drawing.closing⟩
  | .colons => some ⟨['|'], ['|'], ['|']⟩
  | _ => none

/-- Whether a rule is drawn with one mark for each column border, and one for each place between. -/
def RuleStyle.IsFrame : RuleStyle → Prop
  | .marks drawing => IsBorder ⟨drawing.opening, drawing.between, drawing.closing⟩ ∧
      drawing.fill.length = 1 ∧ IsOneLine drawing.fill
  | .colons => True
  | _ => False

instance : DecidablePred RuleStyle.IsFrame
  | .marks _ => inferInstanceAs (Decidable (_ ∧ _ ∧ _))
  | .colons => .isTrue trivial
  | .htmlTable | .latexTable _ _ | .asciidocTable => .isFalse id

theorem colonSegment_fills (alignment : Alignment) (width : Nat) :
    (colonSegment alignment (width + 2)).length = width + 2 ∧
      IsOneLine (colonSegment alignment (width + 2)) := by
  have dashes {count : Nat} {letter : Char} (member : letter ∈ List.replicate count '-') :
      isLineBoundary letter = false := by
    rw [List.eq_of_mem_replicate member]
    rfl
  cases alignment <;> refine ⟨by simp [colonSegment], fun letter member => ?_⟩
  case left => rcases List.mem_cons.mp member with rfl | inside; exacts [rfl, dashes inside]
  case center =>
    simp only [colonSegment, List.mem_append, List.mem_singleton] at member
    rcases member with (rfl | inside) | rfl
    exacts [rfl, dashes inside, rfl]
  case absent | other => exact dashes member
  case right | decimal =>
    rcases List.mem_append.mp member with inside | last
    · exact dashes inside
    · rw [List.mem_singleton.mp last]
      rfl

theorem framed_rule {rule : RuleStyle} (frame : rule.IsFrame) {widths : List Nat}
    {alignments : List Alignment} (wide : widths ≠ [])
    (aligned : alignments.length = widths.length) {line : Text}
    (drawn : rule.draw (widths.map (· + 2)) alignments = .ok line) :
    ∃ marks ∈ rule.border?, Framed marks widths line := by
  cases rule with
  | marks drawing =>
    obtain ⟨border, single, free⟩ := frame
    obtain rfl := Except.ok.inj drawn
    refine ⟨_, rfl, border, _, ?_, draw_of_isBorder border _⟩
    rw [List.map_map, List.forall₂_map_right_iff, List.forall₂_same]
    intro width _
    refine ⟨by simp [Text.times, single], fun letter member => ?_⟩
    obtain ⟨part, repeated, inside⟩ := List.mem_flatten.mp member
    rw [List.eq_of_mem_replicate repeated] at inside
    exact free letter inside
  | colons =>
    have some : alignments.isEmpty = false := by
      rw [List.isEmpty_eq_false_iff, ← List.length_pos_iff, aligned]
      exact List.length_pos_iff.mpr wide
    obtain rfl := Except.ok.inj drawn
    refine ⟨_, rfl, by decide, alignments.zipWith colonSegment (widths.map (· + 2)),
      ?_, by rw [colonRule, some]; rfl⟩
    clear drawn some wide
    induction widths generalizing alignments with
    | nil =>
      rw [List.map_nil, List.zipWith_nil_right]
      exact .nil
    | cons width widths induction =>
      obtain ⟨alignment, alignments, rfl⟩ := List.exists_cons_of_length_eq_add_one aligned
      exact .cons (colonSegment_fills alignment width) (induction (Nat.succ.inj aligned))
  | _ => exact frame.elim

/-! ## Styles with a frame -/

def RowStyle.border? : RowStyle → Option RowMarks
  | .marks drawing => some drawing
  | _ => none

/-- Whether a row is drawn with one mark for each column border. -/
def RowStyle.IsFrame : RowStyle → Prop
  | .marks drawing => IsBorder drawing
  | _ => False

instance : DecidablePred RowStyle.IsFrame
  | .marks drawing => inferInstanceAs (Decidable (IsBorder drawing))
  | .mediawiki _ | .moin _ | .html _ _ | .latex _ | .textile | .asciidoc _ => .isFalse id

namespace Style

def rules (style : Style) : List RuleStyle :=
  [style.above, style.belowHeader, style.betweenRows, style.below].reduceOption

def borders (style : Style) : List RowMarks :=
  [style.header, style.row].filterMap RowStyle.border? ++ style.rules.filterMap RuleStyle.border?

/-- Whether all lines of a style have one mark for each column border. -/
@[mk_iff]
structure IsFrame (style : Style) : Prop where
  /-- There is a blank on either side of a cell. -/
  padding : style.padding = 1
  header : style.header.IsFrame
  row : style.row.IsFrame
  rules : ∀ rule ∈ style.rules, rule.IsFrame

instance (style : Style) : Decidable style.IsFrame := decidable_of_iff' _ (isFrame_iff style)

end Style

/-- Whether a layout has rows of cells, and all its cells and headers fill its columns. -/
structure Layout.IsFilled (table : Layout) : Prop where
  wide : table.widths ≠ []
  aligned : table.alignments.length = table.widths.length
  /-- Headers fill the columns. -/
  headers : table.headers ≠ [] →
    List.Forall₂ (Fills table.multiline) table.widths table.headers
  /-- Cells fill the columns. -/
  rows : ∀ row ∈ table.rows, ∃ cells, row = .cells cells ∧
    List.Forall₂ (Fills table.multiline) table.widths cells
  /-- All rows are at the top of their lines. -/
  verticals : ∀ vertical ∈ table.verticals, vertical = .none

section Layout

variable {style : Style} {table : Layout} {lines : List Text} (frame : style.IsFrame)
  (filled : table.IsFilled)

/-- Whether all lines have a frame of a style over the columns of a layout. -/
def AllFramed (style : Style) (widths : List Nat) (lines : List Text) : Prop :=
  ∀ line ∈ lines, ∃ marks ∈ style.borders, Framed marks widths line

theorem allFramed_append {widths : List Nat} {front back : List Text}
    (first : AllFramed style widths front) (second : AllFramed style widths back) :
    AllFramed style widths (front ++ back) :=
  fun line member => (List.mem_append.mp member).elim (first line) (second line)

include frame

theorem allFramed_row {drawing : RowStyle} (known : drawing ∈ [style.header, style.row])
    {multiline : Bool} {widths : List Nat} {alignments : List Alignment} {cells : List Text}
    (fills : List.Forall₂ (Fills multiline) widths cells)
    (drawn : rowLines style drawing multiline widths alignments .none cells = .ok lines) :
    AllFramed style widths lines := by
  have bar : drawing.IsFrame := by
    simp only [List.mem_cons, List.not_mem_nil, or_false] at known
    rcases known with rfl | rfl
    · exact frame.header
    · exact frame.row
  cases drawing with
  | marks marks =>
    rw [rowLines_marks, frame.padding] at drawn
    obtain rfl := Except.ok.inj drawn
    intro line member
    refine ⟨marks, List.mem_append_left _ (List.mem_filterMap.mpr ⟨_, known, rfl⟩), ?_⟩
    exact framed_row bar fills member
  | _ => exact bar.elim

include filled

theorem framed_of_draw_rule {rule : RuleStyle} (known : rule ∈ style.rules) {line : Text}
    (drawn : rule.draw (table.paddedWidths style) table.alignments = .ok line) :
    ∃ marks ∈ style.borders, Framed marks table.widths line := by
  rw [Layout.paddedWidths, frame.padding] at drawn
  obtain ⟨marks, found, framed⟩ :=
    framed_rule (frame.rules rule known) filled.wide filled.aligned drawn
  exact ⟨marks, List.mem_append_right _ (List.mem_filterMap.mpr ⟨rule, known, found⟩), framed⟩

theorem allFramed_ruleLines {rule : Option RuleStyle}
    (known : rule ∈ [style.above, style.belowHeader, style.betweenRows, style.below])
    {hidden : Bool}
    (drawn : ruleLines rule hidden (table.paddedWidths style) table.alignments = .ok lines) :
    AllFramed style table.widths lines := by
  cases rule with
  | none =>
    obtain rfl : [] = lines := Except.ok.inj drawn
    exact nofun
  | some rule =>
    cases hidden with
    | true =>
      obtain rfl : [] = lines := Except.ok.inj drawn
      exact nofun
    | false =>
      obtain ⟨line, made, rest⟩ := bind_eq_ok.mp drawn
      obtain rfl : [line] = lines := Except.ok.inj rest
      intro other member
      obtain rfl := List.mem_singleton.mp member
      exact framed_of_draw_rule frame filled (List.mem_filterMap.mpr ⟨_, known, rfl⟩) made

theorem allFramed_headerLines (drawn : table.headerLines style = .ok lines) :
    AllFramed style table.widths lines := by
  unfold Layout.headerLines at drawn
  split_ifs at drawn with bare
  · obtain rfl : [] = lines := Except.ok.inj drawn
    exact nofun
  · obtain ⟨row, header, rest⟩ := bind_eq_ok.mp drawn
    obtain ⟨rule, ruled, rest⟩ := bind_eq_ok.mp rest
    obtain rfl : row ++ rule = lines := Except.ok.inj rest
    have some : table.headers ≠ [] := by simpa using bare
    exact allFramed_append
      (allFramed_row frame List.mem_cons_self (filled.headers some) header)
      (allFramed_ruleLines frame filled (List.mem_cons_of_mem _ List.mem_cons_self) ruled)

theorem allFramed_dataRow {row : Row} (known : row ∈ table.rows) {vertical : Value}
    (top : vertical ∈ table.verticals ∨ vertical = .none)
    (drawn : rowLines style style.row table.multiline table.widths table.alignments vertical
      row.texts = .ok lines) : AllFramed style table.widths lines := by
  obtain ⟨cells, rfl, fills⟩ := filled.rows row known
  obtain rfl := top.elim (filled.verticals vertical) id
  exact allFramed_row frame (List.mem_cons_of_mem _ List.mem_cons_self) fills drawn

theorem allFramed_rowsWithRules {rule : RuleStyle} (known : rule ∈ style.rules)
    (nonempty : table.rows ≠ [])
    (drawn : rowsWithRules style rule table.multiline table.widths table.alignments
      table.verticals table.rows = .ok lines) : AllFramed style table.widths lines := by
  obtain ⟨line, ruled, rest⟩ := bind_eq_ok.mp drawn
  obtain ⟨before, each, rest⟩ := bind_eq_ok.mp rest
  obtain ⟨vertical, lowest, rest⟩ := bind_eq_ok.mp rest
  obtain ⟨last, final, rest⟩ := bind_eq_ok.mp rest
  obtain rfl : before.flatten ++ last = lines := Except.ok.inj rest
  refine allFramed_append ?_ ?_
  · intro other member
    obtain ⟨block, place, inside⟩ := List.mem_flatten.mp member
    obtain ⟨⟨row, own⟩, among, made⟩ := exists_of_mem_mapM each place
    obtain ⟨rowLines, shown, rest⟩ := bind_eq_ok.mp made
    obtain rfl : rowLines ++ [line] = block := Except.ok.inj rest
    obtain ⟨first, second⟩ := List.of_mem_zip among
    rcases List.mem_append.mp inside with found | found
    · exact allFramed_dataRow frame filled (List.mem_of_mem_dropLast first) (.inl second) shown
        other found
    · rw [List.mem_singleton.mp found]
      exact framed_of_draw_rule frame filled known ruled
  · have ending := List.getLast?_eq_getLast_of_ne_nil nonempty
    have lowestMember : vertical ∈ table.verticals := by
      unfold lastOf at lowest
      split at lowest
      next found =>
        obtain rfl := Except.ok.inj lowest
        exact List.mem_of_getLast? found
      next => nomatch lowest
    rw [ending] at final
    exact allFramed_dataRow frame filled (List.getLast_mem nonempty) (.inl lowestMember) final

/-- In a style with a frame no row of cells is taken for a separating line. -/
theorem isRule_of_filled {row : Row} (known : row ∈ table.rows) :
    row.isRule style table.multiline = false := by
  obtain ⟨cells, rfl, -⟩ := filled.rows row known
  rw [Row.isRule, frame.padding, Bool.and_eq_false_iff, or_iff_not_imp_left]
  refine fun _ => List.any_eq_false.mpr fun cell member => ?_
  obtain ⟨text, -, rfl⟩ := List.mem_map.mp (List.mem_of_mem_take member)
  simp [separatorMark]

theorem allFramed_plainRows
    (drawn : plainRows style table.multiline table.widths table.alignments table.rows =
      .ok lines) : AllFramed style table.widths lines := by
  obtain ⟨blocks, each, rest⟩ := bind_eq_ok.mp drawn
  obtain rfl : blocks.flatten = lines := Except.ok.inj rest
  intro other member
  obtain ⟨block, place, inside⟩ := List.mem_flatten.mp member
  obtain ⟨row, among, made⟩ := exists_of_mem_mapM each place
  simp only [isRule_of_filled frame filled among, Bool.false_eq_true, if_false] at made
  exact allFramed_dataRow frame filled among (.inr rfl) made other inside

/-- All lines of a filled layout have a frame. -/
theorem allFramed_lines (nonempty : table.rows ≠ []) (drawn : table.lines style = .ok lines) :
    AllFramed style table.widths lines := by
  obtain ⟨above, ruledAbove, rest⟩ := bind_eq_ok.mp drawn
  obtain ⟨header, headed, rest⟩ := bind_eq_ok.mp rest
  obtain ⟨body, made, rest⟩ := bind_eq_ok.mp rest
  obtain ⟨below, ruledBelow, rest⟩ := bind_eq_ok.mp rest
  obtain rfl : above ++ header ++ body ++ below = lines := Except.ok.inj rest
  have bodyFramed : AllFramed style table.widths body := by
    unfold Layout.bodyLines at made
    split at made
    next rule between _ =>
      exact allFramed_rowsWithRules frame filled
        (List.mem_filterMap.mpr ⟨some rule, by simp [between], rfl⟩) nonempty made
    next => exact allFramed_plainRows frame filled made
  refine allFramed_append (allFramed_append (allFramed_append ?_ ?_) bodyFramed) ?_
  · exact allFramed_ruleLines frame filled List.mem_cons_self ruledAbove
  · exact allFramed_headerLines frame filled headed
  · exact allFramed_ruleLines frame filled (by simp) ruledBelow

end Layout

/-! ## Offsets -/

/-- The offsets of the borders of columns of these widths. -/
def borderOffsets : List Nat → List Nat
  | [] => [0]
  | width :: widths => 0 :: (borderOffsets widths).map (· + (width + 3))

/-- The marks along a line over so many columns. -/
def RowMarks.along (marks : RowMarks) (count : Nat) : Text :=
  marks.opening ++ (List.replicate (count - 1) marks.between).flatten ++ marks.closing

/-- The length of a line with a frame, and the marks at the offsets of the borders. -/
theorem marks_at_borderOffsets {opening between closing : Char} {widths : List Nat}
    {segments : List Text} (wide : widths ≠ [])
    (each : List.Forall₂ (fun width (segment : Text) => segment.length = width + 2) widths
      segments) :
    (opening :: (Text.join [between] segments ++ [closing])).length =
        (widths.map (· + 3)).sum + 1 ∧
      (borderOffsets widths).map ((opening :: (Text.join [between] segments ++ [closing]))[·]?) =
        (opening :: (List.replicate (widths.length - 1) between ++ [closing])).map some := by
  have behind (front rest : Text) {count : Nat} (length : front.length = count) :
      (fun offset => (front ++ rest)[offset]?) ∘ (· + count) = fun offset => rest[offset]? := by
    funext offset
    rw [Function.comp_apply, List.getElem?_append_right (by omega), length, Nat.add_sub_cancel]
  induction each generalizing opening with
  | nil => exact absurd rfl wide
  | @cons width segment widths segments here later induction =>
    have front : (opening :: segment).length = width + 3 := by
      rw [List.length_cons, here]
    cases later with
    | nil =>
      have shape : opening :: (Text.join [between] [segment] ++ [closing]) =
          (opening :: segment) ++ [closing] := rfl
      rw [shape]
      refine ⟨by simp [here], ?_⟩
      rw [borderOffsets, List.map_cons, List.map_map, behind _ _ front]
      rfl
    | @cons second other others rest next following =>
      have shape : opening :: (Text.join [between] (segment :: other :: rest) ++ [closing]) =
          (opening :: segment) ++ between :: (Text.join [between] (other :: rest) ++
            [closing]) := by
        rw [Text.join_cons_cons]
        simp
      obtain ⟨length, marks⟩ := @induction between (List.cons_ne_nil _ _)
      rw [shape]
      refine ⟨?_, ?_⟩
      · rw [List.length_append, length, front]
        simp only [List.map_cons, List.sum_cons]
        omega
      · rw [borderOffsets, List.map_cons, List.map_map, behind _ _ front, marks]
        simp [List.replicate_succ]

section Framed

variable {marks : RowMarks} {widths : List Nat} {line : Text} (framed : Framed marks widths line)

include framed

theorem Framed.borders (wide : widths ≠ []) :
    line.length = (widths.map (· + 3)).sum + 1 ∧
      (borderOffsets widths).map (fun offset => (line)[offset]?) =
        (marks.along widths.length).map some := by
  obtain ⟨⟨⟨first, middle, last⟩, -⟩, segments, each, rfl⟩ := framed
  obtain ⟨opening, openingMark⟩ := List.length_eq_one_iff.mp first
  obtain ⟨between, betweenMark⟩ := List.length_eq_one_iff.mp middle
  obtain ⟨closing, closingMark⟩ := List.length_eq_one_iff.mp last
  have repeated : (List.replicate (widths.length - 1) [between]).flatten =
      List.replicate (widths.length - 1) between := by simp
  rw [RowMarks.along, openingMark, betweenMark, closingMark, repeated]
  exact marks_at_borderOffsets wide (each.imp fun width segment fills => fills.1)

theorem Framed.ne_nil : line ≠ [] := by
  obtain ⟨⟨⟨first, -⟩, -⟩, segments, -, rfl⟩ := framed
  obtain ⟨opening, openingMark⟩ := List.length_eq_one_iff.mp first
  simp [openingMark]

theorem Framed.isOneLine : IsOneLine line := by
  obtain ⟨⟨-, solid⟩, segments, each, rfl⟩ := framed
  intro letter member
  simp only [List.mem_append] at member solid
  rcases member with (opening | inside) | closing
  · exact isLineBoundary_of_solid (solid letter (.inl (.inl opening)))
  · rcases Text.mem_of_mem_join inside with between | ⟨segment, place, inside⟩
    · exact isLineBoundary_of_solid (solid letter (.inl (.inr between)))
    · obtain ⟨width, -, fills⟩ := exists_of_mem_right each place
      exact fills.2 letter inside
  · exact isLineBoundary_of_solid (solid letter (.inr closing))

end Framed

end TypeSurvey.Table
