import TypeSurvey.Proofs.Table.Forms
import TypeSurvey.Proofs.Table.Frame

/-!
# Rectangular tables

In the styles that draw a grid, all lines of a table have the same length, and the borders of its
columns stand at the same offsets in all of them. This holds for cells of several lines too,
whatever mix of numbers, truth values, texts and missing values the columns have.
-/

namespace TypeSurvey.Table

open Text (IsOneLine isLineBoundary)

/-! ## Layouts of strips -/

/-- Whether a strip has so many texts, is aligned, and has no line boundaries but those between the
lines of its texts. -/
structure Strip.Suits (multiline : Bool) (count : Nat) (strip : Strip) : Prop where
  padded : ∀ given, strip.alignment ≠ .absent given
  /-- The texts have no other line boundaries. -/
  broken : ∀ text ∈ strip.texts, IsBroken multiline text
  length : strip.texts.length = count

section Strips

variable {sheet : Sheet} {standing : Alignment} {strips : List Strip} {multiline pretty : Bool}
  {count : Nat} {verticals : List Value}

def stripLayout (sheet : Sheet) (standing : Alignment) (multiline : Bool) (strips : List Strip)
    (verticals : List Value) : Layout :=
  sheet.layout (lengthMeasure multiline) standing (strips.map Strip.alignment)
    (strips.map Strip.least) (strips.map (Strip.aligned (lengthMeasure multiline))) verticals

theorem widths_stripLayout (some : strips ≠ [])
    (suits : ∀ strip ∈ strips, strip.Suits multiline count)
    (least : strips.map Strip.least =
      sheet.leastWidths (lengthMeasure multiline) pretty strips.length) :
    (stripLayout sheet standing multiline strips verticals).widths =
      strips.map (paddedWidth multiline) := by
  have width : ∀ strip ∈ strips, max strip.least (greatest
      ((strip.aligned (lengthMeasure multiline)).map (lengthMeasure multiline).width)) =
        paddedWidth multiline strip :=
    fun strip member => max_width_aligned (suits strip member).padded (suits strip member).broken
  by_cases bare : sheet.headers = []
  · have zero : ∀ strip ∈ strips, strip.least = 0 := by
      intro strip member
      have inside : strip.least ∈ strips.map Strip.least := List.mem_map_of_mem member
      rw [least, Sheet.leastWidths, bare] at inside
      exact List.eq_of_mem_replicate inside
    simp only [stripLayout, Sheet.layout, bare, List.isEmpty_nil, if_true, List.map_map]
    refine List.map_congr_left fun strip member => ?_
    rw [← width strip member, zero strip member, Nat.zero_max]
    rfl
  · simp only [stripLayout, Sheet.layout, bare, List.isEmpty_iff, List.map_eq_nil_iff, some,
      if_false, List.map_map, List.zipWith_map, List.zipWith_self]
    exact List.map_congr_left width

theorem headers_eq (some : strips ≠ [])
    (widths : (stripLayout sheet standing multiline strips verticals).widths =
      strips.map (paddedWidth multiline)) :
    (stripLayout sheet standing multiline strips verticals).headers =
      (sheet.headers.zip ((strips.map Strip.alignment).zip
        (strips.map (paddedWidth multiline)))).map fun (header, alignment, width) =>
          alignHeader alignment (lengthMeasure multiline) width header := by
  rw [← widths]
  simp only [stripLayout, Sheet.layout, List.isEmpty_map, List.isEmpty_eq_false_iff.mpr some,
    Bool.false_and, Bool.false_eq_true, if_false]

theorem headers_stripLayout (some : strips ≠ [])
    (suits : ∀ strip ∈ strips, strip.Suits multiline count)
    (widths : (stripLayout sheet standing multiline strips verticals).widths =
      strips.map (paddedWidth multiline))
    (least : strips.map Strip.least =
      sheet.leastWidths (lengthMeasure multiline) pretty strips.length)
    (broken : ∀ header ∈ sheet.headers, IsBroken multiline header)
    (nonempty : sheet.headers ≠ []) :
    List.Forall₂ (Fills multiline) (strips.map (paddedWidth multiline))
      (stripLayout sheet standing multiline strips verticals).headers := by
  have wide : strips.map Strip.least = sheet.headers.map fun header =>
      (lengthMeasure multiline).width header + (if pretty then 0 else 2) := by
    rw [least, Sheet.leastWidths, List.isEmpty_eq_false_iff.mpr nonempty]
    rfl
  have same : sheet.headers.length = strips.length := by
    rw [← List.length_map (f := Strip.least), wide, List.length_map]
  rw [headers_eq some widths, List.forall₂_iff_get]
  refine ⟨by simp [same], fun index bound inside => ?_⟩
  simp only [List.length_map] at bound
  have there : index < sheet.headers.length := same ▸ bound
  have room : (lengthMeasure multiline).width sheet.headers[index] ≤
      paddedWidth multiline strips[index] := by
    have here : (strips.map Strip.least)[index]? = (sheet.headers.map fun header =>
        (lengthMeasure multiline).width header + (if pretty then 0 else 2))[index]? := by rw [wide]
    simp only [List.getElem?_map, List.getElem?_eq_getElem bound, List.getElem?_eq_getElem there,
      Option.map_some, Option.some.injEq] at here
    have low : strips[index].least ≤ paddedWidth multiline strips[index] := Nat.le_max_right _ _
    omega
  simpa using fills_alignHeader (suits _ (List.getElem_mem bound)).padded
    (broken _ (List.getElem_mem there)) room

theorem rows_stripLayout (some : strips ≠ []) (unseparated : sheet.separators = [])
    (suits : ∀ strip ∈ strips, strip.Suits multiline count) :
    (stripLayout sheet standing multiline strips verticals).rows.length = count ∧
      ∀ row ∈ (stripLayout sheet standing multiline strips verticals).rows, ∃ cells,
        row = .cells cells ∧
          List.Forall₂ (Fills multiline) (strips.map (paddedWidth multiline)) cells := by
  have alignedLengths : ∀ strip ∈ strips,
      (strip.aligned (lengthMeasure multiline)).length = count := by
    intro strip member
    rw [Strip.aligned, length_alignColumn, (suits strip member).length]
  have shape : (stripLayout sheet standing multiline strips verticals).rows =
      (List.range count).map fun index => .cells (strips.map fun strip =>
        (strip.aligned (lengthMeasure multiline)).getD index []) := by
    simp only [stripLayout, Sheet.layout, unseparated, reinsertSeparators, List.foldl_nil,
      rowsOf_map some alignedLengths, List.map_map]
    rfl
  rw [shape]
  refine ⟨by simp, fun row member => ?_⟩
  obtain ⟨index, inside, rfl⟩ := List.mem_map.mp member
  refine ⟨_, rfl, ?_⟩
  rw [List.forall₂_map_left_iff, List.forall₂_map_right_iff, List.forall₂_same]
  intro strip place
  have bound : index < (strip.aligned (lengthMeasure multiline)).length := by
    rw [alignedLengths strip place]
    exact List.mem_range.mp inside
  rw [List.getD_eq_getElem?_getD, List.getElem?_eq_getElem bound]
  exact fills_of_mem_aligned (suits strip place).padded (suits strip place).broken
    (List.getElem_mem bound)

theorem isFilled_stripLayout (some : strips ≠ []) (unseparated : sheet.separators = [])
    (suits : ∀ strip ∈ strips, strip.Suits multiline count)
    (least : strips.map Strip.least =
      sheet.leastWidths (lengthMeasure multiline) pretty strips.length)
    (headersBroken : ∀ header ∈ sheet.headers, IsBroken multiline header)
    (top : ∀ vertical ∈ verticals, vertical = .none) :
    (stripLayout sheet standing multiline strips verticals).IsFilled := by
  have widths := @widths_stripLayout sheet standing strips multiline pretty count verticals some
    suits least
  refine ⟨by simpa [widths] using some, ?_, fun nonempty => ?_, ?_, top⟩
  · rw [widths, List.length_map]
    exact List.length_map _
  · rw [widths]
    refine headers_stripLayout some suits widths least headersBroken ?_
    rintro bare
    apply nonempty
    simp [stripLayout, Sheet.layout, bare]
  · rw [widths]
    exact (rows_stripLayout some unseparated suits).2

end Strips

/-! ## Sheets -/

/-- The names of the styles with a frame in which cells may have several lines. -/
def gridNames : List String :=
  ["grid", "simple_grid", "rounded_grid", "heavy_grid", "mixed_grid", "double_grid", "fancy_grid",
    "pipe", "orgtbl", "pretty", "psql"]

/-- The names of the styles with a frame in which cells have one line. -/
def outlineNames : List String :=
  ["outline", "simple_outline", "rounded_outline", "heavy_outline", "mixed_outline",
    "double_outline", "fancy_outline", "github"]

/-- Headers filled up from the left. -/
def filledHeaders (width : Nat) (headers : List Text) : List Text :=
  if headers.isEmpty then [] else List.replicate (width - headers.length) [] ++ headers

/-- The headers and the cells that are texts. -/
def tableTexts (headers : List Text) (rows : List (List Value)) : List Text :=
  headers ++ rows.flatten.filterMap fun
    | .str text => some text
    | _ => none

/-- Whether a text has no escape characters, no marks of separating lines, and no line boundaries
but carriage returns and line feeds. -/
def IsTame (text : Text) : Prop :=
  ∀ letter ∈ text, letter ≠ Text.escape ∧ letter ∉ separatorMark ∧
    (isLineBoundary letter = true → isLineBreak letter = true)

instance (text : Text) : Decidable (IsTame text) :=
  List.decidableBAll (fun letter => letter ≠ Text.escape ∧ letter ∉ separatorMark ∧
    (isLineBoundary letter = true → isLineBreak letter = true)) text

/-- Whether a text has no escape characters and no line boundaries. -/
def IsQuiet (text : Text) : Prop :=
  ∀ letter ∈ text, letter ≠ Text.escape ∧ isLineBoundary letter = false

instance (text : Text) : Decidable (IsQuiet text) :=
  List.decidableBAll (fun letter => letter ≠ Text.escape ∧ isLineBoundary letter = false) text

section Sheet

variable {headers : List Text} {rows : List (List Value)} {name : String} {width : Nat}

theorem isSeparator_of_tame (simple : ∀ row ∈ rows, ∀ cell ∈ row, IsSimple cell)
    (tame : ∀ text ∈ tableTexts headers rows, IsTame text) :
    ∀ row ∈ rows, isSeparator row = false := by
  intro row member
  refine List.any_eq_false.mpr fun cell found => ?_
  have inside := List.mem_of_mem_take found
  have known := simple row member cell inside
  cases cell with
  | str text =>
    have among : text ∈ tableTexts headers rows := List.mem_append_right _
      (List.mem_filterMap.mpr ⟨_, List.mem_flatten.mpr ⟨row, member, inside⟩, rfl⟩)
    rw [isSeparatorCell_str, beq_iff_eq]
    rintro rfl
    exact (tame _ among '\x01' List.mem_cons_self).2.1 List.mem_cons_self
  | derived className base => exact known.elim
  | _ => exact Bool.false_ne_true

theorem ofData_rows (nonempty : rows ≠ []) (counted : ∀ row ∈ rows.head?, row.length = width)
    (kept : ∀ row ∈ rows, isSeparator row = false) (plainName : name ≠ "rst") :
    Sheet.ofData (namedOptions (.list (textValues headers)) name) (.list (rows.map .list)) =
      .ok ⟨filledHeaders width headers, rows, []⟩ := by
  have normal : normalize (.list (rows.map .list)) (.list (textValues headers))
      (.ofString "default") = .ok (rows.map .list, filledHeaders width headers) := by
    obtain ⟨first, others, rfl⟩ := List.exists_cons_of_ne_nil nonempty
    have length : (Value.list first).length = .ok width := congrArg Except.ok (counted first rfl)
    refine (normalize_plainForm _).trans ?_
    rw [addLabels_default, ok_bind]
    cases headers with
    | nil => rfl
    | cons header headers =>
      simp only [withHeaders, List.map_cons, length, ok_bind]
      rfl
  have separated := removeSeparators_eq rows
  rw [keptRows_of_forall kept, separatorPlaces_of_forall kept] at separated
  have iterated : (removeSeparators (rows.map .list)).1.mapM Value.iterate = .ok rows := by
    rw [separated, List.mapM_map]
    exact (mapM_of_forall fun row _ => rfl).trans (congrArg _ (List.map_id rows))
  have given : Value.list (rows.map .list) ≠ .none := by
    intro none
    cases none
  rw [ofData_of_normalize given normal iterated, if_neg plainName, separated]

/-- The texts that a sheet is measured by are those of the table, and quiet ones. -/
theorem mem_tableTexts_or (simple : ∀ row ∈ rows, ∀ cell ∈ row, IsSimple cell) {text : Text}
    (member : text ∈ filledHeaders width headers ++ rows.flatten.map plainText) :
    text ∈ tableTexts headers rows ∨ IsQuiet text := by
  rcases List.mem_append.mp member with header | shown
  · unfold filledHeaders at header
    split_ifs at header
    · nomatch header
    · rcases List.mem_append.mp header with filled | given
      · right
        rw [List.eq_of_mem_replicate filled]
        exact List.forall_mem_nil _
      · exact .inl (List.mem_append_left _ given)
  · obtain ⟨cell, inside, rfl⟩ := List.mem_map.mp shown
    obtain ⟨row, place, among⟩ := List.mem_flatten.mp inside
    have known := simple row place cell among
    cases cell with
    | none => exact .inr (by decide)
    | bool truth => cases truth <;> exact .inr (by decide)
    | int number =>
      right
      have digits {count : Nat} {letter : Char} (found : letter ∈ Text.ofNat count) :
          letter ≠ Text.escape ∧ isLineBoundary letter = false := by
        have digit := Text.isDigit_of_mem_ofNat found
        refine ⟨?_, isLineBoundary_of_solid (Text.isBlank_of_isDigit digit)⟩
        rintro rfl
        exact absurd digit (by decide)
      intro letter found
      cases number with
      | ofNat count => exact digits found
      | negSucc count =>
        rcases List.mem_cons.mp found with rfl | inside
        · decide
        · exact digits inside
    | str text => exact .inl (List.mem_append_right _ (List.mem_filterMap.mpr ⟨_, inside, rfl⟩))
    | _ => exact known.elim

/-- Whether a style of this name draws frames around tables with these texts: in some styles that
have a frame, cells have one line only. -/
def DrawsFrame (name : String) (texts : List Text) : Prop :=
  name ∈ gridNames ∨ name ∈ outlineNames ∧ ∀ text ∈ texts, hasLineBreak text = false

instance (name : String) (texts : List Text) : Decidable (DrawsFrame name texts) :=
  inferInstanceAs (Decidable (_ ∨ _ ∧ _))

/-- A tame table is measured by the lengths of its lines, and has no other line boundaries. -/
theorem exists_measure_of_tame (frame : DrawsFrame name (tableTexts headers rows))
    (simple : ∀ row ∈ rows, ∀ cell ∈ row, IsSimple cell)
    (tame : ∀ text ∈ tableTexts headers rows, IsTame text) :
    ∃ multiline, Sheet.measure ⟨filledHeaders width headers, rows, []⟩ (.named (.ofString name)) =
      lengthMeasure multiline ∧
      ∀ text ∈ filledHeaders width headers ++ rows.flatten.map plainText,
        IsBroken multiline text := by
  obtain ⟨shown, whole⟩ : ∃ shown, shown =
      filledHeaders width headers ++ rows.flatten.map plainText := ⟨_, rfl⟩
  have known := fun text member =>
    @mem_tableTexts_or headers rows width simple text (whole ▸ member)
  have unstyled : Text.isStyled (Text.join ['\t'] shown) = false := by
    refine Text.isStyled_of_notMem fun member => ?_
    rcases Text.mem_of_mem_join member with between | ⟨text, place, inside⟩
    · exact absurd between (by decide)
    · rcases known text place with given | other
      · exact (tame text given _ inside).1 rfl
      · exact (other _ inside).1 rfl
  refine ⟨Style.isMultiline name.toList && hasLineBreak (Text.join ['\t'] shown), ?_, ?_⟩
  · rw [Sheet.measure, ← whole, unstyled]
    rfl
  · rw [← whole]
    intro text member letter inside
    cases boundary : isLineBoundary letter with
    | false => rw [isLineBreak_of_inside boundary, Bool.and_false]
    | true =>
      have given : text ∈ tableTexts headers rows := by
        refine (known text member).resolve_right fun other => ?_
        rw [(other letter inside).2] at boundary
        cases boundary
      have breaks := (tame text given letter inside).2.2 boundary
      have found : hasLineBreak (Text.join ['\t'] shown) = true :=
        List.any_eq_true.mpr ⟨letter, Text.mem_join member inside, breaks⟩
      rw [found, breaks, Bool.and_true, Bool.and_true]
      rcases frame with grid | ⟨-, single⟩
      · have all : ∀ name ∈ gridNames, Style.isMultiline name.toList = true := by
          decide +kernel
        exact (all name grid).symm
      · have none := List.any_eq_false.mp (single text given) letter inside
        exact absurd breaks none

end Sheet

/-! ## Tables -/

theorem isFrame_styleNamed : ∀ name ∈ gridNames ++ outlineNames, (styleNamed name).IsFrame := by
  decide +kernel

/-- Whether all lines of a text have the same length, and have marks of a style at the borders of so
many columns. -/
def Rectangular (style : Style) (count : Nat) (text : Text) : Prop :=
  ∃ widths : List Nat, widths.length = count ∧ ∀ line ∈ Text.splitLines text,
    line.length = (widths.map (· + 3)).sum + 1 ∧
      ∃ marks ∈ style.borders,
        (borderOffsets widths).map (fun offset => (line)[offset]?) = (marks.along count).map some

/-- A filled layout in a style with a frame is drawn as a rectangle. -/
theorem rectangular_of_draw {style : Style} {table : Layout} (frame : style.IsFrame)
    (filled : table.IsFilled) (nonempty : table.rows ≠ []) {text : Text}
    (drawn : table.draw style = .ok text) : Rectangular style table.widths.length text := by
  obtain ⟨lines, made, rest⟩ := bind_eq_ok.mp drawn
  have framed := allFramed_lines frame filled nonempty made
  have some : (table.headers.isEmpty && table.rows.isEmpty) = false := by
    rw [List.isEmpty_eq_false_iff.mpr nonempty, Bool.and_false]
  rw [some] at rest
  obtain rfl : Text.join ['\n'] lines = text := Except.ok.inj rest
  have single : ∀ line ∈ lines, IsOneLine line := fun line member =>
    have ⟨_, _, shape⟩ := framed line member
    shape.isOneLine
  have last : lines.getLast? ≠ Option.some [] := by
    intro ending
    obtain ⟨_, _, shape⟩ := framed [] (List.mem_of_getLast? ending)
    exact shape.ne_nil rfl
  refine ⟨table.widths, rfl, fun line member => ?_⟩
  rw [Text.splitLines_join single last] at member
  obtain ⟨marks, known, shape⟩ := framed line member
  obtain ⟨length, borders⟩ := shape.borders filled.wide
  exact ⟨length, marks, known, borders⟩

theorem plainText_of_isSimple {cell : Value} (simple : IsSimple cell) :
    plainText cell = cell.toText := by
  cases cell with
  | none | bool _ | int _ | str _ => rfl
  | _ => exact simple.elim

section Render

variable {name : String} {headers : List Text} {rows : List (List Value)} {width : Nat}

/-- The strips of a table without escape sequences have no line boundaries but those of its
cells. -/
theorem suits_of_stripOf {pretty multiline : Bool}
    (uniform : ∀ row ∈ rows, row.length = width)
    (simple : ∀ row ∈ rows, ∀ cell ∈ row, IsSimple cell)
    (broken : ∀ text ∈ rows.flatten.map plainText, IsBroken multiline text) {cells : List Value}
    (member : cells ∈ transpose rows) {strip : Strip} (written : StripOf pretty false cells strip) :
    strip.Suits multiline rows.length := by
  obtain ⟨kind, -, aligned, written⟩ := written
  refine ⟨fun given => aligned ▸ columnAlignment_ne_absent pretty kind given, ?_, ?_⟩
  · intro text inside letter found
    obtain ⟨cell, place, here⟩ := exists_of_mem_right written inside
    obtain ⟨row, among, own⟩ := exists_row_of_mem_transpose uniform member place
    have known := simple row among cell own
    obtain ⟨shown, same, writes⟩ := exists_writes_of_formatCell known here
    obtain rfl := Value.str.inj same
    rcases writes.mem_or found with given | free
    · rw [← plainText_of_isSimple known] at given
      exact broken _ (List.mem_map_of_mem (List.mem_flatten.mpr ⟨row, among, own⟩)) letter given
    · rw [free, isLineBreak_of_inside free, Bool.and_false]
  · rw [← written.length_eq]
    obtain ⟨column, -, rfl⟩ := List.mem_map.mp member
    exact List.length_map _

/-- Tables of simple cells without stray control characters are drawn as rectangles. -/
theorem rectangular_of_render (frame : DrawsFrame name (tableTexts headers rows))
    (wide : 0 < width) (nonempty : rows ≠ []) (uniform : ∀ row ∈ rows, row.length = width)
    (short : headers.length ≤ width) (simple : ∀ row ∈ rows, ∀ cell ∈ row, IsSimple cell)
    (tame : ∀ text ∈ tableTexts headers rows, IsTame text) {text : Text}
    (drawn : render (namedOptions (.list (textValues headers)) name) (.list (rows.map .list)) =
      .ok text) : Rectangular (styleNamed name) width text := by
  have listed : name ∈ gridNames ++ outlineNames :=
    List.mem_append.mpr (frame.imp_right fun outline => outline.1)
  have plainName : name ≠ "rst" := by
    have all : ∀ name ∈ gridNames ++ outlineNames, name ≠ "rst" := by decide +kernel
    exact all name listed
  have given := @ofData_rows headers rows name width nonempty
    (fun row first => uniform row (List.mem_of_mem_head? first))
    (isSeparator_of_tame simple tame) plainName
  have across : (transpose rows).length = width := by
    rw [transpose_eq nonempty uniform, List.length_map, List.length_range]
  have fits : filledHeaders width headers ≠ [] →
      (filledHeaders width headers).length = (transpose rows).length := by
    intro some
    unfold filledHeaders at some ⊢
    split_ifs at some ⊢
    · exact absurd rfl some
    · rw [across, List.length_append, List.length_replicate]
      omega
  obtain ⟨table, laid, made⟩ := bind_eq_ok.mp drawn
  obtain ⟨multiline, measured, broken⟩ :=
    @exists_measure_of_tame headers rows name width frame simple tame
  obtain ⟨strips, written, least, standing, rfl⟩ :=
    exists_strips_of_layOut given simple laid fits
  rw [measured] at written least made
  have count : strips.length = width := by rw [← written.length_eq, across]
  have some : strips ≠ [] := by
    rw [← List.length_pos_iff, count]
    exact wide
  have suits : ∀ strip ∈ strips, strip.Suits multiline rows.length := by
    intro strip member
    obtain ⟨cells, inside, here⟩ := exists_of_mem_right written member
    exact suits_of_stripOf uniform simple
      (fun text among => broken text (List.mem_append_right _ among)) inside here
  generalize shape : List.replicate (rowsOf (strips.map (Strip.aligned
    (lengthMeasure multiline)))).length Value.none = verticals at made
  have top : ∀ vertical ∈ verticals, vertical = .none :=
    shape ▸ fun vertical member => List.eq_of_mem_replicate member
  have filled : (stripLayout ⟨filledHeaders width headers, rows, []⟩ standing multiline strips
      verticals).IsFilled :=
    isFilled_stripLayout some rfl suits least
      (fun header member => broken header (List.mem_append_left _ member)) top
  have rowsDrawn : (stripLayout ⟨filledHeaders width headers, rows, []⟩ standing multiline strips
      verticals).rows ≠ [] := by
    rw [← List.length_pos_iff, (rows_stripLayout some rfl suits).1]
    exact List.length_pos_iff.mpr nonempty
  have rectangle := rectangular_of_draw (isFrame_styleNamed name listed) filled rowsDrawn made
  rwa [widths_stripLayout some suits least, List.length_map, count] at rectangle

end Render

end TypeSurvey.Table
