import TypeSurvey.Proofs.Table.Sheets

/-!
# Columns of several lines

Where there are no escape sequences, and no line boundaries but those between the lines of cells,
every line of an aligned cell is as wide as its column. The width of a column is found three times:
from the header, from the cells before they are aligned, and from the aligned cells. The last two
agree, and no line of a header is wider.
-/

namespace TypeSurvey.Table

open Text (IsOneLine isLineBoundary)

/-- How cells without escape sequences are measured. -/
def lengthMeasure (multiline : Bool) : Measure := ⟨false, multiline⟩

/-- Whether a text has no line boundaries, or none but line breaks where it may have several
lines. -/
def IsBroken (multiline : Bool) (text : Text) : Prop :=
  ∀ letter ∈ text, isLineBoundary letter = (multiline && isLineBreak letter)

def cellLines (multiline : Bool) (cell : Text) : List Text :=
  if multiline then Text.splitLines cell else [cell]

/-- Whether all lines of a cell have a width. -/
def Fills (multiline : Bool) (width : Nat) (cell : Text) : Prop :=
  ∀ line ∈ cellLines multiline cell, line.length = width ∧ IsOneLine line

theorem isLineBoundary_of_isLineBreak {letter : Char} (breaks : isLineBreak letter = true) :
    isLineBoundary letter = true := by
  rw [isLineBreak, Bool.or_eq_true, beq_iff_eq, beq_iff_eq] at breaks
  rcases breaks with rfl | rfl <;> decide

theorem isLineBreak_of_inside {letter : Char} (inside : isLineBoundary letter = false) :
    isLineBreak letter = false := by
  by_contra breaks
  rw [isLineBoundary_of_isLineBreak (Bool.not_eq_false _ ▸ breaks)] at inside
  nomatch inside

theorem isBroken_of_subset {multiline : Bool} {text part : Text} (broken : IsBroken multiline text)
    (among : ∀ letter ∈ part, letter = ' ' ∨ letter ∈ text) : IsBroken multiline part := by
  intro letter member
  rcases among letter member with rfl | inside
  · cases multiline <;> rfl
  · exact broken letter inside

/-! ## Blanks around a line -/

section Pad

variable {alignment : Alignment} {width : Nat} {line : Text} {letter : Char}

theorem mem_pad (member : letter ∈ alignment.pad width line) : letter = ' ' ∨ letter ∈ line := by
  have blank {count : Nat} (inside : letter ∈ List.replicate count ' ') : letter = ' ' :=
    List.eq_of_mem_replicate inside
  cases alignment with
  | left | other _ => exact (List.mem_append.mp member).symm.imp_left blank
  | right | decimal => exact (List.mem_append.mp member).imp_left blank
  | center =>
    rcases List.mem_append.mp member with front | back
    · exact (List.mem_append.mp front).imp_left blank
    · exact .inl (blank back)
  | absent _ => exact .inr member

theorem isOneLine_pad (single : IsOneLine line) : IsOneLine (alignment.pad width line) := by
  intro letter member
  rcases mem_pad member with rfl | inside
  · rfl
  · exact single letter inside

/-- A line is padded to the width, unless it is longer. -/
theorem length_pad_eq_max (padded : ∀ given, alignment ≠ .absent given) (width : Nat)
    (line : Text) : (alignment.pad width line).length = max width line.length := by
  cases alignment with
  | absent given => exact absurd rfl (padded given)
  | left | other _ =>
    simp only [Alignment.pad, padRight, List.length_append, List.length_replicate]
    omega
  | right | decimal =>
    simp only [Alignment.pad, padLeft, List.length_append, List.length_replicate]
    omega
  | center =>
    simp only [Alignment.pad, padBoth, List.length_append, List.length_replicate]
    omega

theorem length_pad (padded : ∀ given, alignment ≠ .absent given) (fits : line.length ≤ width) :
    (alignment.pad width line).length = width := by
  rw [length_pad_eq_max padded, max_eq_left fits]

theorem columnAlignment_ne_absent (pretty : Bool) (kind : CellKind) (given : Value) :
    columnAlignment pretty kind ≠ .absent given := by
  unfold columnAlignment
  split_ifs <;> exact nofun

/-- What is made ready for an alignment has the characters of a text, and blanks. -/
theorem exists_of_mem_prepare {texts : List Text} {cell : Text}
    (member : cell ∈ alignment.prepare false texts) :
    ∃ text ∈ texts, ∀ letter ∈ cell, letter = ' ' ∨ letter ∈ text := by
  have stripped (inside : cell ∈ texts.map Text.strip) :
      ∃ text ∈ texts, ∀ letter ∈ cell, letter = ' ' ∨ letter ∈ text := by
    obtain ⟨text, place, rfl⟩ := List.mem_map.mp inside
    exact ⟨text, place, fun letter found => .inr (Text.strip_subset text found)⟩
  cases alignment with
  | decimal =>
    rw [Alignment.prepare, padDecimals_eq] at member
    obtain ⟨text, place, rfl⟩ := List.mem_map.mp member
    refine ⟨text, place, fun letter found => ?_⟩
    exact (List.mem_append.mp found).symm.imp_left List.eq_of_mem_replicate
  | absent _ => exact ⟨cell, member, fun letter found => .inr found⟩
  | left | right | center | other _ => exact stripped member

end Pad

/-! ## Widths of cells -/

section Width

variable {multiline : Bool} {cell line : Text}

theorem width_single (cell : Text) : (lengthMeasure false).width cell = cell.length :=
  Nat.max_eq_right (Nat.zero_le _)

theorem width_multi (cell : Text) :
    (lengthMeasure true).width cell =
      greatest ((cell.splitOnP isLineBreak).map List.length) := by
  rw [← Text.splitWhere_eq_splitOnP]
  rfl

theorem width_nil : (lengthMeasure multiline).width [] = 0 := by
  cases multiline <;> rfl

theorem length_le_width (broken : IsBroken multiline cell)
    (member : line ∈ cellLines multiline cell) :
    line.length ≤ (lengthMeasure multiline).width cell := by
  cases multiline with
  | false =>
    obtain rfl := List.mem_singleton.mp member
    rw [width_single]
  | true =>
    have piece := Text.mem_splitOnP_of_mem_splitLines broken member
    rw [width_multi]
    exact le_greatest (List.mem_map_of_mem piece)

theorem isOneLine_of_mem_cellLines (broken : IsBroken multiline cell)
    (member : line ∈ cellLines multiline cell) : IsOneLine line := by
  cases multiline with
  | false =>
    obtain rfl := List.mem_singleton.mp member
    exact broken
  | true => exact Text.isOneLine_of_mem_splitLines member

theorem cellLines_ne_nil (nonempty : cell ≠ []) : cellLines multiline cell ≠ [] := by
  cases multiline with
  | false => exact List.cons_ne_nil _ _
  | true => exact fun none => nonempty (Text.splitLines_eq_nil_iff.mp none)

theorem greatest_of_forall {width : Nat} {numbers : List Nat} (nonempty : numbers ≠ [])
    (each : ∀ number ∈ numbers, number = width) : greatest numbers = width :=
  foldl_max_of_forall (Nat.zero_le _) nonempty each

end Width

/-! ## Lines of one width -/

section Lines

variable {multiline : Bool} {width : Nat} {lines : List Text}
  (each : ∀ line ∈ lines, line.length = width ∧ IsOneLine line)
  (single : multiline = false → lines.length = 1)

include each single

/-- Lines of one width make a cell whose lines have this width. -/
theorem fills_join : Fills multiline width (Text.join ['\n'] lines) := by
  intro line member
  cases multiline with
  | false =>
    obtain ⟨only, rfl⟩ := List.length_eq_one_iff.mp (single rfl)
    exact each line member
  | true =>
    exact each line (Text.splitLines_join_subset (fun line inside => (each line inside).2) member)

theorem width_join (nonempty : lines ≠ []) :
    (lengthMeasure multiline).width (Text.join ['\n'] lines) = width := by
  cases multiline with
  | false =>
    obtain ⟨only, rfl⟩ := List.length_eq_one_iff.mp (single rfl)
    rw [Text.join, width_single]
    exact (each only List.mem_cons_self).1
  | true =>
    rw [width_multi, Text.splitOnP_join (by decide) nonempty
      fun line inside letter found => isLineBreak_of_inside ((each line inside).2 letter found)]
    refine greatest_of_forall (by simpa using nonempty) fun number member => ?_
    obtain ⟨line, inside, rfl⟩ := List.mem_map.mp member
    exact (each line inside).1

end Lines

/-! ## Columns -/

/-- The lines of a cell, padded and put together again. -/
def padCell (alignment : Alignment) (multiline : Bool) (width : Nat) (cell : Text) : Text :=
  Text.join ['\n'] ((cellLines multiline cell).map (alignment.pad width))

section Column

variable {alignment : Alignment} {multiline : Bool} {least : Nat} {texts : List Text}

def paddedWidth (multiline : Bool) (strip : Strip) : Nat :=
  columnWidth (lengthMeasure multiline) strip.least (strip.alignment.prepare false strip.texts)

theorem aligned_lengthMeasure (strip : Strip) :
    strip.aligned (lengthMeasure multiline) = (strip.alignment.prepare false strip.texts).map
      (padCell strip.alignment multiline (paddedWidth multiline strip)) := by
  cases multiline with
  | true => rfl
  | false =>
    refine List.map_congr_left fun cell _ => ?_
    change strip.alignment.pad (_ + cell.length - cell.length) cell = _
    rw [Nat.add_sub_cancel]
    rfl

variable {strip : Strip} (padded : ∀ given, strip.alignment ≠ .absent given)
  (broken : ∀ text ∈ strip.texts, IsBroken multiline text)

include padded broken

theorem length_of_mem_padded {cell : Text}
    (member : cell ∈ strip.alignment.prepare false strip.texts) :
    ∀ line ∈ (cellLines multiline cell).map (strip.alignment.pad (paddedWidth multiline strip)),
      line.length = paddedWidth multiline strip ∧ IsOneLine line := by
  intro line place
  obtain ⟨source, inside, rfl⟩ := List.mem_map.mp place
  obtain ⟨text, given, among⟩ := exists_of_mem_prepare member
  have cellBroken := isBroken_of_subset (broken text given) among
  have fits : source.length ≤ paddedWidth multiline strip :=
    calc source.length
        ≤ (lengthMeasure multiline).width cell := length_le_width cellBroken inside
      _ ≤ greatest ((strip.alignment.prepare false strip.texts).map
            (lengthMeasure multiline).width) := le_greatest (List.mem_map_of_mem member)
      _ ≤ paddedWidth multiline strip := Nat.le_max_left _ _
  exact ⟨length_pad padded fits, isOneLine_pad (isOneLine_of_mem_cellLines cellBroken inside)⟩

theorem fills_of_mem_aligned {cell : Text}
    (member : cell ∈ strip.aligned (lengthMeasure multiline)) :
    Fills multiline (paddedWidth multiline strip) cell := by
  rw [aligned_lengthMeasure] at member
  obtain ⟨source, inside, rfl⟩ := List.mem_map.mp member
  refine fills_join (length_of_mem_padded padded broken inside) ?_
  rintro rfl
  rfl

theorem max_width_aligned :
    max strip.least (greatest ((strip.aligned (lengthMeasure multiline)).map
      (lengthMeasure multiline).width)) = paddedWidth multiline strip := by
  have width {cell : Text} (member : cell ∈ strip.alignment.prepare false strip.texts)
      (nonempty : cellLines multiline cell ≠ []) :
      (lengthMeasure multiline).width (padCell strip.alignment multiline
        (paddedWidth multiline strip) cell) = paddedWidth multiline strip := by
    refine width_join (length_of_mem_padded padded broken member) ?_ ?_
    · rintro rfl
      rfl
    · simpa using nonempty
  rw [aligned_lengthMeasure]
  apply Nat.le_antisymm
  · rw [Nat.max_le, greatest_le_iff]
    refine ⟨Nat.le_max_right _ _, fun number member => ?_⟩
    obtain ⟨cell, inside, rfl⟩ := List.mem_map.mp member
    obtain ⟨source, place, rfl⟩ := List.mem_map.mp inside
    by_cases none : cellLines multiline source = []
    · rw [padCell, none]
      exact le_trans width_nil.le (Nat.zero_le _)
    · exact (width place none).le
  · rw [paddedWidth, columnWidth, Nat.max_le, greatest_le_iff]
    refine ⟨fun number member => ?_, Nat.le_max_left _ _⟩
    obtain ⟨cell, inside, rfl⟩ := List.mem_map.mp member
    by_cases empty : cell = []
    · rw [empty, width_nil]
      exact Nat.zero_le _
    · calc (lengthMeasure multiline).width cell
          ≤ paddedWidth multiline strip :=
            le_trans (le_greatest (List.mem_map_of_mem inside)) (Nat.le_max_left _ _)
        _ = _ := (width inside (cellLines_ne_nil empty)).symm
        _ ≤ _ := le_greatest (List.mem_map_of_mem (List.mem_map_of_mem inside))
        _ ≤ _ := Nat.le_max_right _ _

end Column

/-! ## Headers -/

section Header

variable {alignment : Alignment} {multiline : Bool} {width : Nat}

/-- The line of a header is padded as some alignment pads it. -/
theorem exists_padHeaderLine_eq (padded : ∀ given, alignment ≠ .absent given) :
    ∃ shown : Alignment, (∀ given, shown ≠ .absent given) ∧
      ∀ line : Text, padHeaderLine alignment width line.length line = shown.pad width line := by
  have same (line : Text) : width + line.length - line.length = width := Nat.add_sub_cancel _ _
  cases alignment with
  | absent given => exact absurd rfl (padded given)
  | left => exact ⟨.left, nofun, fun line => by simp only [padHeaderLine, same, Alignment.pad]⟩
  | center => exact ⟨.center, nofun, fun line => by simp only [padHeaderLine, same, Alignment.pad]⟩
  | right | decimal | other _ =>
    exact ⟨.right, nofun, fun line => by simp only [padHeaderLine, same, Alignment.pad]⟩

/-- The pieces that the width of a cell is measured by. -/
def cellPieces (multiline : Bool) (cell : Text) : List Text :=
  if multiline then Text.splitWhere isLineBreak cell else [cell]

theorem length_le_of_mem_cellPieces {cell piece : Text}
    (member : piece ∈ cellPieces multiline cell) :
    piece.length ≤ (lengthMeasure multiline).width cell := by
  refine le_greatest ?_
  cases multiline <;> exact List.mem_map_of_mem member

theorem isOneLine_of_mem_cellPieces {cell piece : Text} (broken : IsBroken multiline cell)
    (member : piece ∈ cellPieces multiline cell) : IsOneLine piece := by
  cases multiline with
  | false =>
    obtain rfl := List.mem_singleton.mp member
    exact broken
  | true =>
    intro letter inside
    rw [cellPieces, if_pos rfl, Text.splitWhere_eq_splitOnP] at member
    rw [broken letter (Text.subset_of_mem_splitOnP member inside),
      Text.free_of_mem_splitOnP member letter inside]
    rfl

theorem width_of_isOneLine {line : Text} (single : IsOneLine line) :
    (lengthMeasure multiline).width line = line.length := by
  cases multiline with
  | false => exact width_single line
  | true =>
    rw [width_multi, List.splitOnP_eq_singleton
      fun letter member => isLineBreak_of_inside (single letter member)]
    exact Nat.max_eq_right (Nat.zero_le _)

theorem alignHeader_lengthMeasure (header : Text) :
    alignHeader alignment (lengthMeasure multiline) width header =
      Text.join ['\n'] ((cellPieces multiline header).map fun line =>
        padHeaderLine alignment width ((lengthMeasure multiline).width line) line) := by
  cases multiline <;> rfl

theorem fills_alignHeader {header : Text} (padded : ∀ given, alignment ≠ .absent given)
    (broken : IsBroken multiline header)
    (fits : (lengthMeasure multiline).width header ≤ width) :
    Fills multiline width (alignHeader alignment (lengthMeasure multiline) width header) := by
  obtain ⟨shown, present, pads⟩ := @exists_padHeaderLine_eq alignment width padded
  rw [alignHeader_lengthMeasure]
  refine fills_join (fun line member => ?_) ?_
  · obtain ⟨piece, inside, rfl⟩ := List.mem_map.mp member
    have single := isOneLine_of_mem_cellPieces broken inside
    rw [width_of_isOneLine single, pads]
    exact ⟨length_pad present ((length_le_of_mem_cellPieces inside).trans fits),
      isOneLine_pad single⟩
  · rintro rfl
    rfl

end Header

end TypeSurvey.Table
