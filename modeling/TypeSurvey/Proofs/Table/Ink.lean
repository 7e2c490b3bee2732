import TypeSurvey.Proofs.Table.Padding

/-!
# What an aligned cell shows

An aligned cell shows all characters that its text is written with, but for the blank ones, and in
their order. If both escape sequences are measured and cells have several lines, the last lines of a
cell may be missing. A cell of several lines has no line at all if and only if its text is blank.
-/

namespace TypeSurvey.Table

open Text (IsBlank ink)

/-! ## Blanks around lines -/

section Lines

variable {alignment : Alignment} {measure : Measure} {width : Nat} {cell : Text}

theorem ink_pad (alignment : Alignment) (width : Nat) (line : Text) :
    ink (alignment.pad width line) = ink line := by
  cases alignment <;> simp [Alignment.pad, padLeft, padRight, padBoth]

theorem flatMap_ink_zipWith {α : Type} {change : Text → α → Text}
    (keeps : ∀ line item, ink (change line item) = ink line) (lines : List Text)
    (items : List α) :
    (lines.zipWith change items).flatMap ink = (lines.take items.length).flatMap ink := by
  induction lines generalizing items with
  | nil => simp
  | cons line lines induction =>
    cases items with
    | nil => simp
    | cons item items => simp [keeps, induction]

/-- The lines of a padded cell show what the cell shows, or a part from its front. -/
theorem ink_padLines (alignment : Alignment) (measure : Measure) (width : Nat) (cell : Text) :
    ink (alignment.padLines measure width cell) <+: ink cell ∧
      (measure.ignoresStyle = false → ink (alignment.padLines measure width cell) = ink cell) := by
  unfold Alignment.padLines
  cases measure.ignoresStyle with
  | false =>
    have same : ink (Text.join ['\n'] ((Text.splitLines cell).map (alignment.pad width))) =
        ink cell := by
      rw [Text.ink_join, List.flatMap_map, ← Text.flatMap_ink_splitLines cell]
      exact List.flatMap_congr fun line _ => ink_pad alignment width line
    exact ⟨same ▸ List.prefix_rfl, fun _ => same⟩
  | true =>
    refine ⟨?_, nofun⟩
    rw [if_pos rfl, Text.ink_join,
      flatMap_ink_zipWith fun line extra => ink_pad alignment (width + extra) line]
    conv_rhs => rw [← Text.flatMap_ink_splitLines cell]
    exact (List.take_prefix _ _).flatMap ink

theorem padLines_nil (alignment : Alignment) (measure : Measure) (width : Nat) :
    alignment.padLines measure width [] = [] := by
  unfold Alignment.padLines
  cases measure.ignoresStyle <;> rfl

theorem flatMap_ink_pieces (cell : Text) :
    (Text.splitWhere isLineBreak cell).flatMap ink = ink cell := by
  rw [Text.splitWhere_eq_splitOnP]
  exact Text.flatMap_ink_splitOnP (fun letter breaks =>
    Text.isBlank_of_isLineBoundary (isLineBoundary_of_isLineBreak breaks)) cell

theorem padLines_ne_nil (padded : ∀ given, alignment ≠ .absent given)
    (multiline : measure.multiline = true) (wide : measure.width cell ≤ width)
    (solid : ¬ IsBlank cell) : alignment.padLines measure width cell ≠ [] := by
  have shown : ink cell ≠ [] := mt Text.ink_eq_nil_iff.mp solid
  cases styled : measure.ignoresStyle with
  | false =>
    intro none
    have same := (ink_padLines alignment measure width cell).2 styled
    rw [none] at same
    exact shown same.symm
  | true =>
    have lines := Text.flatMap_ink_splitLines cell
    have pieces := flatMap_ink_pieces cell
    obtain ⟨first, others, lineShape⟩ : ∃ first others, Text.splitLines cell = first :: others :=
      List.exists_cons_of_ne_nil fun none => shown (by rw [← lines, none]; rfl)
    obtain ⟨piece, rest, pieceShape⟩ : ∃ piece rest,
        Text.splitWhere isLineBreak cell = piece :: rest :=
      List.exists_cons_of_ne_nil fun none => shown (by rw [← pieces, none]; rfl)
    have room : measure.lineWidth piece ≤ width := by
      refine le_trans (le_greatest ?_) wide
      rw [Measure.lineWidths, if_pos multiline, pieceShape]
      exact List.mem_cons_self
    -- If nothing is shown, there is one line or one piece, and it is empty.
    intro none
    simp only [Alignment.padLines, styled, if_true, lineShape, pieceShape, List.map_cons,
      List.zipWith_cons_cons] at none
    obtain ⟨padding, alone⟩ := Text.of_join_cons_eq_nil none
    have long := length_pad_eq_max padded (width + (piece.length - measure.lineWidth piece)) first
    rw [padding, List.length_nil] at long
    have firstEmpty : first = [] := List.length_eq_zero_iff.mp (by omega)
    have pieceEmpty : piece = [] := List.length_eq_zero_iff.mp (by omega)
    rcases List.zipWith_eq_nil_iff.mp alone with noLines | noPieces
    · rw [lineShape, firstEmpty, noLines] at lines
      exact shown lines.symm
    · rw [pieceShape, pieceEmpty, List.map_eq_nil_iff.mp noPieces] at pieces
      exact shown pieces.symm

end Lines

/-! ## Columns -/

/-- Whether an aligned cell stands for a text. -/
structure Stands (measure : Measure) (text shown : Text) : Prop where
  /-- The cell shows what the text is written as, or a part of this from its front. -/
  written : ∃ kind written,
    formatCell (plainFormat kind measure.ignoresStyle) (.str text) = .ok (.str written) ∧
      ink shown <+: ink written ∧
      (measure.ignoresStyle = false ∨ measure.multiline = false → ink shown = ink written)
  /-- If cells have several lines, a cell has lines unless the text is blank. -/
  lines : measure.multiline = true → (shown = [] ↔ IsBlank text)

section Stands

variable {measure : Measure} {alignment : Alignment} {kind : CellKind} {width : Nat}
  {text written cell : Text}
  (formatted : formatCell (plainFormat kind measure.ignoresStyle) (.str text) = .ok (.str written))
  (keeps : ink cell = ink written)

include formatted keeps

theorem stands_padLine (single : measure.multiline = false) :
    Stands measure text (alignment.padLine measure width cell) := by
  have same : ink (alignment.padLine measure width cell) = ink written := by
    rw [Alignment.padLine, ink_pad, keeps]
  refine ⟨⟨kind, written, formatted, same ▸ List.prefix_rfl, fun _ => same⟩, fun multiline => ?_⟩
  rw [single] at multiline
  nomatch multiline

theorem stands_padLines (padded : ∀ given, alignment ≠ .absent given)
    (multiline : measure.multiline = true) (wide : measure.width cell ≤ width)
    (blank : IsBlank text → cell = []) :
    Stands measure text (alignment.padLines measure width cell) := by
  obtain ⟨part, whole⟩ := ink_padLines alignment measure width cell
  rw [keeps] at part whole
  refine ⟨⟨kind, written, formatted, part, fun known => whole (by simpa [multiline] using known)⟩,
    fun _ => ⟨fun none => ?_, fun empty => ?_⟩⟩
  · by_contra solid
    have kept : ¬ IsBlank cell := by
      rw [← Text.ink_eq_nil_iff, keeps, Text.ink_eq_nil_iff]
      exact not_isBlank_of_formatCell formatted solid
    exact padLines_ne_nil padded multiline wide kept none
  · rw [blank empty, padLines_nil]

end Stands

/-- Cells are made ready for an alignment one by one, and show what they showed. -/
theorem exists_prepare_eq (alignment : Alignment) (ignoresStyle : Bool) (cells : List Text) :
    ∃ ready : Text → Text, alignment.prepare ignoresStyle cells = cells.map ready ∧
      (∀ cell, ink (ready cell) = ink cell) ∧
      (alignment = .left ∨ alignment = .center → ready = Text.strip) := by
  cases alignment with
  | decimal =>
    exact ⟨_, padDecimals_eq ignoresStyle cells, fun cell => by simp, nofun⟩
  | absent given => exact ⟨id, (List.map_id cells).symm, fun _ => rfl, nofun⟩
  | left | right | center | other _ => exact ⟨Text.strip, rfl, Text.ink_strip, fun _ => rfl⟩

/-- The aligned cells of a column stand for its texts. -/
theorem forall₂_stands_aligned {measure : Measure} {pretty : Bool} {texts : List Text}
    {strip : Strip} (written : StripOf pretty measure.ignoresStyle (textValues texts) strip) :
    List.Forall₂ (Stands measure) texts (strip.aligned measure) := by
  obtain ⟨kind, known, alignment, formatted⟩ := written
  have padded : ∀ given, strip.alignment ≠ .absent given :=
    fun given => alignment ▸ columnAlignment_ne_absent pretty kind given
  obtain ⟨ready, prepared, keeps, stripped⟩ :=
    exists_prepare_eq strip.alignment measure.ignoresStyle strip.texts
  obtain ⟨width, whole⟩ : ∃ width, width =
      columnWidth measure strip.least (strip.texts.map ready) := ⟨_, rfl⟩
  rw [textValues, List.forall₂_map_left_iff, List.forall₂_iff_zip] at formatted
  obtain ⟨count, each⟩ := formatted
  -- A column with a blank text is one of texts, and blank texts are stripped to nothing.
  have blank {text shown : Text} (member : (text, shown) ∈ texts.zip strip.texts)
      (empty : IsBlank text) : ready shown = [] := by
    obtain rfl : kind = .text := columnKind_of_isBlank known
      (List.mem_map_of_mem (List.of_mem_zip member).1) empty
    have flush : strip.alignment = .left ∨ strip.alignment = .center := by
      rw [alignment]
      cases pretty with
      | false => exact .inl rfl
      | true => exact .inr rfl
    rw [stripped flush, eq_of_formatCell_text (each member), Text.strip_eq_nil_iff]
    exact empty
  cases multiline : measure.multiline with
  | false =>
    have shape : strip.aligned measure =
        strip.texts.map fun text => strip.alignment.padLine measure width (ready text) := by
      simp only [Strip.aligned, alignColumn, multiline, prepared, ← whole, List.map_map]
      rfl
    rw [shape, List.forall₂_map_right_iff, List.forall₂_iff_zip]
    exact ⟨count, fun member => stands_padLine (each member) (keeps _) multiline⟩
  | true =>
    have shape : strip.aligned measure =
        strip.texts.map fun text => strip.alignment.padLines measure width (ready text) := by
      simp only [Strip.aligned, alignColumn, multiline, prepared, ← whole, List.map_map]
      rfl
    rw [shape, List.forall₂_map_right_iff, List.forall₂_iff_zip]
    refine ⟨count, fun {text shown} member => stands_padLines (each member) (keeps _) padded
      multiline ?_ (blank member)⟩
    rw [whole]
    exact le_trans (le_greatest (List.mem_map_of_mem
      (List.mem_map_of_mem (List.of_mem_zip member).2))) (Nat.le_max_left _ _)

end TypeSurvey.Table
