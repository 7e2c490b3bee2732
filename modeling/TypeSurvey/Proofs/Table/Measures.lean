import TypeSurvey.Proofs.Table.Padding

/-!
# Two ways of measuring

Cells without escape characters are as wide whether or not escape sequences are measured. In cells
of one line nothing else depends on it. A cell of several lines is taken apart twice where escape
sequences are measured: into lines, and into the pieces between single line breaks. Each line needs
a piece, and those beyond the last piece are left out. So the alignment is the same if and only if
no cell has more lines than pieces, which is a matter of counting its boundaries.
-/

namespace TypeSurvey

/-! ## The number of lines -/

namespace Text

/-- The number of carriage returns with a line feed after them. -/
def pairCount : Text → Nat
  | [] => 0
  | letter :: rest => (if letter = '\r' ∧ rest.head? = some '\n' then 1 else 0) + pairCount rest

/-- Whether a text ends with a character that is no line boundary. -/
def endsInside (text : Text) : Bool := text.getLast?.any (!isLineBoundary ·)

theorem endsInside_append {letter : Char} (boundary : isLineBoundary letter = true)
    (front rest : Text) : endsInside (front ++ letter :: rest) = endsInside rest := by
  cases rest with
  | nil => simp [endsInside, boundary]
  | cons next rest => simp [endsInside, List.getLast?_cons]

/-- A boundary ends a line, a pair of line breaks being one boundary, and so does the end of the
text unless nothing stands before it. -/
theorem length_splitLinesFrom {line : Text} (begun : IsOneLine line) (text : Text) :
    (splitLinesFrom line text).length + pairCount text =
      text.countP isLineBoundary + (endsInside (line.reverse ++ text)).toNat := by
  induction line, text using splitLinesFrom_induction with
  | nil line =>
    cases line with
    | nil => rfl
    | cons letter line =>
      have inside : isLineBoundary letter = false := begun letter List.mem_cons_self
      simp [splitLinesFrom, pairCount, endsInside, inside]
  | pair line rest induction =>
    have later := induction fun _ none => absurd none List.not_mem_nil
    have before : endsInside (line.reverse ++ '\r' :: '\n' :: rest) = endsInside rest := by
      rw [endsInside_append (by decide)]
      exact endsInside_append (by decide) [] rest
    have counted : pairCount ('\r' :: '\n' :: rest) = pairCount rest + 1 := by
      simp [pairCount, Nat.add_comm]
    have boundaries : List.countP isLineBoundary ('\r' :: '\n' :: rest) =
        rest.countP isLineBoundary + 2 := by
      rw [List.countP_cons_of_pos (by decide), List.countP_cons_of_pos (by decide)]
    rw [splitLinesFrom_pair, List.length_cons, counted, boundaries, before]
    rw [List.reverse_nil, List.nil_append] at later
    omega
  | boundary line letter rest boundary single induction =>
    have later := induction fun _ none => absurd none List.not_mem_nil
    have counted : pairCount (letter :: rest) = pairCount rest := by
      rw [pairCount, if_neg fun pair => single pair.1 pair.2, Nat.zero_add]
    rw [splitLinesFrom_boundary boundary single, List.length_cons, counted,
      List.countP_cons_of_pos boundary, endsInside_append boundary]
    rw [List.reverse_nil, List.nil_append] at later
    omega
  | inside line letter rest inside induction =>
    have free : IsOneLine (letter :: line) := List.forall_mem_cons.mpr ⟨inside, begun⟩
    have counted : pairCount (letter :: rest) = pairCount rest := by
      rw [pairCount, if_neg, Nat.zero_add]
      rintro ⟨rfl, -⟩
      exact absurd inside (by decide)
    rw [splitLinesFrom_cons inside, counted, List.countP_cons_of_neg (by simp [inside]),
      induction free, List.reverse_cons, List.append_assoc, List.singleton_append]

theorem length_splitWhere (separates : Char → Bool) (text : Text) :
    (splitWhere separates text).length = text.countP separates + 1 := by
  induction text with
  | nil => rfl
  | cons letter text induction =>
    rw [splitWhere_eq_splitOnP] at induction ⊢
    rw [List.splitOnP_cons_eq_if_modifyHead]
    split_ifs with found
    · rw [List.length_cons, induction, List.countP_cons_of_pos found]
    · rw [List.length_modifyHead, induction, List.countP_cons_of_neg found]

/-- Fewer lines make a shorter text. -/
theorem join_take_eq_iff {count : Nat} (some : 0 < count) (lines : List Text) :
    join ['\n'] (lines.take count) = join ['\n'] lines ↔ lines.length ≤ count := by
  constructor
  · intro same
    by_contra more
    have front : lines.take count ≠ [] := by
      rw [← List.length_pos_iff, List.length_take]
      omega
    have back : lines.drop count ≠ [] := by
      rw [← List.length_pos_iff, List.length_drop]
      omega
    have whole := join_append front back ['\n']
    rw [List.take_append_drop, ← same, List.append_assoc, List.self_eq_append_right] at whole
    cases whole
  · intro enough
    rw [List.take_of_length_le enough]

end Text

namespace Table

open Text (escape isLineBoundary pairCount endsInside)

/-- The number of line boundaries that are no line breaks. -/
def rareBoundaries (cell : Text) : Nat :=
  cell.countP fun letter => isLineBoundary letter && !isLineBreak letter

/-- Whether a cell has a piece between single line breaks for each of its lines. A boundary that is
no line break makes a line more than pieces, and a pair of line breaks makes a piece more than
lines. -/
def HasPieces (cell : Text) : Prop :=
  rareBoundaries cell + (endsInside cell).toNat ≤ pairCount cell + 1

instance (cell : Text) : Decidable (HasPieces cell) := inferInstanceAs (Decidable (_ ≤ _))

theorem countP_isLineBoundary (cell : Text) :
    cell.countP isLineBoundary = cell.countP isLineBreak + rareBoundaries cell := by
  rw [rareBoundaries, List.countP_eq_countP_filter_add cell isLineBoundary isLineBreak,
    List.countP_filter, List.countP_filter]
  congr 1
  · refine List.countP_congr fun letter _ => ?_
    simpa using isLineBoundary_of_isLineBreak

theorem length_splitLines_le_iff (cell : Text) :
    (Text.splitLines cell).length ≤ (Text.splitWhere isLineBreak cell).length ↔
      HasPieces cell := by
  have lines : (Text.splitLines cell).length + pairCount cell =
      cell.countP isLineBoundary + (endsInside cell).toNat :=
    Text.length_splitLinesFrom (fun _ none => absurd none List.not_mem_nil) cell
  rw [countP_isLineBoundary] at lines
  rw [Text.length_splitWhere, HasPieces]
  omega

/-! ## Cells without escape characters -/

section Plain

variable {styled multiline : Bool} {cell : Text} (plain : escape ∉ cell)

include plain

theorem lineWidth_plain : Measure.lineWidth ⟨styled, multiline⟩ cell = cell.length := by
  have same : Text.visible cell = cell :=
    Text.visible_of_not_isStyled (Text.isStyled_of_notMem plain)
  cases styled with
  | false => rfl
  | true => exact congrArg List.length same

theorem lineWidth_piece {piece : Text} (member : piece ∈ Text.splitWhere isLineBreak cell) :
    Measure.lineWidth ⟨styled, multiline⟩ piece = piece.length := by
  rw [Text.splitWhere_eq_splitOnP] at member
  exact lineWidth_plain fun inside => plain (Text.subset_of_mem_splitOnP member inside)

theorem width_plain :
    Measure.width ⟨styled, multiline⟩ cell = (lengthMeasure multiline).width cell := by
  refine congrArg greatest ?_
  cases multiline with
  | false => exact congrArg (fun width => [width]) (lineWidth_plain plain)
  | true => exact List.map_congr_left fun piece member => lineWidth_piece plain member

/-- Where escape sequences are measured, lines without a piece are left out. -/
theorem padLines_plain (alignment : Alignment) (width : Nat) :
    alignment.padLines ⟨true, multiline⟩ width cell =
      Text.join ['\n'] (((Text.splitLines cell).take (Text.splitWhere isLineBreak cell).length).map
        (alignment.pad width)) := by
  have hidden : ((Text.splitWhere isLineBreak cell).map fun piece =>
      piece.length - Measure.lineWidth ⟨true, multiline⟩ piece) =
        List.replicate (Text.splitWhere isLineBreak cell).length 0 := by
    rw [← List.map_const']
    refine List.map_congr_left fun piece member => ?_
    rw [lineWidth_piece plain member, Nat.sub_self]
  simp only [Alignment.padLines, if_true, hidden]
  rw [← List.map_uncurry_zip_eq_zipWith, zip_replicate_right, List.map_map]
  rfl

theorem padLines_eq_iff (alignment : Alignment) (width : Nat) :
    alignment.padLines ⟨true, multiline⟩ width cell =
      alignment.padLines ⟨false, multiline⟩ width cell ↔ HasPieces cell := by
  have pieces : 0 < (Text.splitWhere isLineBreak cell).length := by
    rw [Text.length_splitWhere]
    exact Nat.succ_pos _
  rw [padLines_plain plain, List.map_take]
  refine (Text.join_take_eq_iff pieces _).trans ?_
  rw [List.length_map, length_splitLines_le_iff]

end Plain

/-! ## Columns without escape characters -/

section Column

variable {multiline : Bool} {cells : List Text} (plain : ∀ cell ∈ cells, escape ∉ cell)

include plain

theorem prepare_plain (alignment : Alignment) (styled : Bool) :
    alignment.prepare styled cells = alignment.prepare false cells := by
  have places : (cells.map fun cell => afterPoint (if styled then Text.visible cell else cell)) =
      cells.map afterPoint := by
    refine List.map_congr_left fun cell member => ?_
    rw [Text.visible_of_not_isStyled (Text.isStyled_of_notMem (plain cell member)), ite_self]
  cases alignment with
  | decimal => exact congrArg (fun places => cells.zipWith (fun cell (count : Int) =>
    cell ++ List.replicate (places.foldl max (-1) - count).toNat ' ') places) places
  | _ => rfl

theorem escape_notMem_prepare {alignment : Alignment} {cell : Text}
    (member : cell ∈ alignment.prepare false cells) : escape ∉ cell := by
  intro inside
  obtain ⟨text, given, among⟩ := exists_of_mem_prepare member
  rcases among escape inside with blank | found
  · exact absurd blank (by decide)
  · exact plain text given found

theorem columnWidth_plain (styled : Bool) (least : Nat) :
    columnWidth ⟨styled, multiline⟩ least cells =
      columnWidth (lengthMeasure multiline) least cells := by
  refine congrArg (fun widths => max (greatest widths) least) ?_
  exact List.map_congr_left fun cell member => width_plain (plain cell member)

theorem alignCells_single (alignment : Alignment) (styled : Bool) (least : Nat) :
    alignCells alignment ⟨styled, false⟩ least cells =
      alignCells alignment plainMeasure least cells := by
  have free := fun cell => @escape_notMem_prepare cells plain alignment cell
  rw [alignCells, alignCells, alignColumn_plainMeasure]
  refine ite_congr rfl (fun _ => rfl) fun _ => congrArg Except.ok ?_
  simp only [alignColumn]
  rw [prepare_plain plain alignment styled, columnWidth_plain free]
  refine List.map_congr_left fun cell member => ?_
  rw [Alignment.padLine, lineWidth_plain (free cell member), Nat.add_sub_cancel]
  rfl

/-- Cells without escape characters are aligned alike by both measures if and only if they have one
line, or a piece for each of their lines. -/
theorem alignCells_agree_iff (alignment : Alignment) (least : Nat) :
    alignCells alignment ⟨true, multiline⟩ least cells =
        alignCells alignment ⟨false, multiline⟩ least cells ↔
      (multiline = true → ∀ cell ∈ alignment.prepare false cells, HasPieces cell) := by
  have free := fun cell => @escape_notMem_prepare cells plain alignment cell
  have width (styled : Bool) := @columnWidth_plain multiline _ free styled least
  cases multiline with
  | false => exact iff_of_true (alignCells_single plain alignment true least) (by simp)
  | true =>
    by_cases none : cells = []
    · subst none
      cases alignment <;> simp [alignCells, Alignment.prepare, padDecimals]
    · rw [alignCells, alignCells, if_neg (by simpa using none), if_neg (by simpa using none),
        Except.ok.injEq]
      simp only [alignColumn, prepare_plain plain alignment true, width, if_true, forall_const]
      rw [List.map_inj_left]
      exact forall₂_congr fun cell member => padLines_eq_iff (free cell member) alignment _

end Column

/-- Cells with a boundary that is no line break; a pair of line breaks makes up for it. -/
def pairedCells : List Text := ["a\x0bb\r\nc".toList, "d\r\n".toList, []]

theorem alignCells_agree_pairedCells :
    (∀ cell ∈ pairedCells, escape ∉ cell) ∧
      alignCells (.absent .none) ⟨true, true⟩ 2 pairedCells =
        alignCells (.absent .none) ⟨false, true⟩ 2 pairedCells := by
  have plain : ∀ cell ∈ pairedCells, escape ∉ cell := by decide
  exact ⟨plain, (alignCells_agree_iff plain (.absent .none) 2).mpr fun _ => by decide⟩

/-- A line behind a boundary that is no line break is left out if escape sequences are measured. -/
theorem alignCells_differ_vertical :
    alignCells .left ⟨true, true⟩ 0 ["a\x0bb".toList] = .ok ["a  ".toList] ∧
      alignCells .left ⟨false, true⟩ 0 ["a\x0bb".toList] = .ok ["a  \nb  ".toList] := by
  exact ⟨rfl, rfl⟩

end Table

end TypeSurvey
