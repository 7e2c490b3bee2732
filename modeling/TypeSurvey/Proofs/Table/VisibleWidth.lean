import TypeSurvey.Proofs.Table.Padding

/-!
# Visible widths

Blanks around a text neither make nor destroy an escape sequence: no sequence begins with a blank or
ends with one, although a blank may stand inside. So what is visible of a padded line is the visible
part of the line, padded to the width of its column, whatever sequences the line has, complete or
not, and all cells of a column get one visible width.
-/

namespace TypeSurvey

/-! ## Blanks after a text -/

namespace Text

variable {text rest : Text}

theorem sequence?_concat {shown : Text}
    (found : sequence? isWordChar (text ++ [' ']) = some (shown, rest)) :
    ∃ before, sequence? isWordChar text = some (shown, before) := by
  obtain ⟨front, shape, -, ⟨last, ending, solid⟩, reads⟩ := exists_front_of_sequence? found
  rcases List.eq_nil_or_concat rest with rfl | ⟨before, letter, rfl⟩
  · have same := congrArg List.getLast? shape
    rw [List.append_nil, List.getLast?_concat, ending] at same
    exact absurd (Option.some.inj same).symm solid
  · rw [List.concat_eq_append, ← List.append_assoc] at shape
    obtain ⟨rfl, -⟩ := List.append_inj' shape rfl
    exact ⟨before, reads before⟩

theorem visible_of_sequence?_eq_none {letter : Char}
    (none : sequence? isWordChar (letter :: text) = none) :
    visible (letter :: text) = letter :: visible text := by
  rw [visible, List.length_cons, visibleFrom, none]
  rfl

theorem visible_concat (text : Text) : visible (text ++ [' ']) = visible text ++ [' '] := by
  induction size : text.length using Nat.strong_induction_on generalizing text with
  | _ size induction =>
    cases text with
    | nil => exact visible_cons (by decide) []
    | cons letter text =>
      rw [List.length_cons] at size
      cases found : sequence? isWordChar (letter :: text) with
      | some parts =>
        obtain ⟨shown, rest⟩ := parts
        have shorter := length_sequence?_lt found
        rw [List.length_cons] at shorter
        rw [visible_of_sequence? (sequence?_append found [' ']), visible_of_sequence? found,
          induction rest.length (by omega) rest rfl, List.append_assoc]
      | none =>
        have still : sequence? isWordChar (letter :: (text ++ [' '])) = none := by
          by_contra some
          obtain ⟨⟨shown, rest⟩, longer⟩ := Option.ne_none_iff_exists'.mp some
          obtain ⟨before, short⟩ := @sequence?_concat (letter :: text) rest shown longer
          rw [found] at short
          cases short
        rw [List.cons_append, visible_of_sequence?_eq_none still,
          visible_of_sequence?_eq_none found, induction text.length (by omega) text rfl]
        rfl

/-- Blanks around a text are visible, and nothing else changes. -/
theorem visible_blanks (before after : Nat) (text : Text) :
    visible (List.replicate before ' ' ++ text ++ List.replicate after ' ') =
      List.replicate before ' ' ++ visible text ++ List.replicate after ' ' := by
  induction before with
  | zero =>
    rw [List.replicate_zero, List.nil_append, List.nil_append]
    induction after with
    | zero => simp
    | succ after induction =>
      rw [List.replicate_succ', ← List.append_assoc, visible_concat, induction,
        List.append_assoc]
  | succ before induction =>
    rw [List.replicate_succ, List.cons_append, List.cons_append, visible_cons (by decide),
      induction]
    rfl

end Text

/-! ## Columns -/

namespace Table

open Text (visible visibleWidth)

/-- How cells of one line are measured if they may have escape sequences. -/
def visibleMeasure : Measure := ⟨true, false⟩

/-- What is visible of a padded line is the visible part of the line, padded. -/
theorem visible_padLine (alignment : Alignment) (width : Nat) (line : Text) :
    visible (alignment.padLine visibleMeasure width line) = alignment.pad width (visible line) := by
  have shorter := Text.length_visible_le line
  have missing : width + line.length - (visible line).length - line.length =
      width - (visible line).length := by omega
  have padded (before after : Nat) := Text.visible_blanks before after line
  change visible (alignment.pad (width + line.length - (visible line).length) line) = _
  cases alignment with
  | left | other _ => simpa [Alignment.pad, padRight, missing] using padded 0 _
  | right | decimal => simpa [Alignment.pad, padLeft, missing] using padded _ 0
  | center => simpa only [Alignment.pad, padBoth, missing] using padded _ _
  | absent _ => rfl

theorem width_visibleMeasure (cell : Text) : visibleMeasure.width cell = visibleWidth cell :=
  Nat.max_eq_right (Nat.zero_le _)

/-- The cells of an aligned column have one visible width: at least the width that is asked for, and
without blanks after numbers no more than that and the widest cell need. -/
theorem visible_width_of_alignCells {alignment : Alignment} {cells : List Text}
    (padded : ∀ given, alignment ≠ .absent given) (some : cells ≠ []) (least : Nat) :
    ∃ aligned width, alignCells alignment visibleMeasure least cells = .ok aligned ∧
      aligned.length = cells.length ∧ (∀ cell ∈ aligned, visibleWidth cell = width) ∧
      least ≤ width ∧ (alignment ≠ .decimal →
        width = max (greatest (cells.map fun cell => visibleWidth (Text.strip cell))) least) := by
  refine ⟨alignColumn alignment visibleMeasure least cells,
    columnWidth visibleMeasure least (alignment.prepare true cells), ?_,
    length_alignColumn alignment visibleMeasure least cells, fun cell member => ?_,
    Nat.le_max_right _ _, fun other => ?_⟩
  · rw [alignCells, if_neg (by simpa using some)]
  · obtain ⟨source, inside, rfl⟩ := List.mem_map.mp member
    have fits : (visible source).length ≤
        columnWidth visibleMeasure least (alignment.prepare true cells) :=
      calc (visible source).length
          = visibleMeasure.width source := (width_visibleMeasure source).symm
        _ ≤ greatest ((alignment.prepare true cells).map visibleMeasure.width) :=
            le_greatest (List.mem_map_of_mem inside)
        _ ≤ _ := Nat.le_max_left _ _
    change (visible (alignment.padLine visibleMeasure _ source)).length = _
    rw [visible_padLine]
    exact length_pad padded fits
  · have stripped : alignment.prepare true cells = cells.map Text.strip := by
      cases alignment with
      | decimal => exact absurd rfl other
      | absent given => exact absurd rfl (padded given)
      | left | right | center | other _ => rfl
    rw [columnWidth, stripped, List.map_map]
    refine congrArg (fun widths => max (greatest widths) least) ?_
    exact List.map_congr_left fun cell _ => width_visibleMeasure (Text.strip cell)

/-- A coloured word, an opening without an end, half of a link, and a link. -/
def brokenCells : List Text :=
  ["\x1b[31mred\x1b[0m".toList, "\x1b[1 ".toList, "\x1b]8;;a\x1b\\b".toList,
    "\x1b]8;;a\x1b\\b\x1b]8;;\x1b\\".toList]

theorem visible_width_of_brokenCells :
    brokenCells ≠ [] ∧ ∃ aligned width,
      alignCells .center visibleMeasure 5 brokenCells = .ok aligned ∧
      aligned.length = brokenCells.length ∧ (∀ cell ∈ aligned, visibleWidth cell = width) ∧
      5 ≤ width ∧ (Alignment.center ≠ .decimal → width =
        max (greatest (brokenCells.map fun cell => visibleWidth (Text.strip cell))) 5) := by
  have some : brokenCells ≠ [] := List.cons_ne_nil _ _
  refine ⟨some, visible_width_of_alignCells ?_ some 5⟩
  rintro given ⟨⟩

end Table

end TypeSurvey
