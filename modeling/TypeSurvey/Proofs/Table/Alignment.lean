import TypeSurvey.Proofs.Table.Grid
import TypeSurvey.Proofs.Text.Lines

/-!
# Aligned columns

Where cells have one line each and no escape sequences, a column is aligned by putting blanks around
its texts, so that all of its cells get the same width. The texts are kept if they have no blanks
around them, or if the column is aligned by decimal points.
-/

namespace TypeSurvey.Table

/-- How cells of one line without escape sequences are measured. -/
def plainMeasure : Measure := ⟨false, false⟩

/-- Whether a text has one line, and no escape characters. -/
def IsPlain (text : Text) : Prop :=
  ∀ letter ∈ text, letter ≠ Text.escape ∧ isLineBreak letter = false

instance (text : Text) : Decidable (IsPlain text) :=
  List.decidableBAll (fun letter => letter ≠ Text.escape ∧ isLineBreak letter = false) text

theorem isStyled_of_isPlain {text : Text} (plain : IsPlain text) : Text.isStyled text = false :=
  Text.isStyled_of_notMem fun member => (plain _ member).1 rfl

theorem gridMeasure_eq {headers : List Text} {rows : List (List Value)}
    (plain : ∀ text ∈ headers ++ (keptRows rows).flatten.map plainText, IsPlain text) :
    gridMeasure headers rows = plainMeasure := by
  have whole : IsPlain (Text.join ['\t'] (headers ++ (keptRows rows).flatten.map plainText)) := by
    intro letter member
    rcases Text.mem_of_mem_join member with between | ⟨text, place, inside⟩
    · obtain rfl := List.mem_singleton.mp between
      decide
    · exact plain text place letter inside
  have single : hasLineBreak
      (Text.join ['\t'] (headers ++ (keptRows rows).flatten.map plainText)) = false :=
    List.any_eq_false.mpr fun letter member => by simp [(whole letter member).2]
  simp only [gridMeasure, Sheet.measure, gridSheet, isStyled_of_isPlain whole, single,
    Bool.and_false, plainMeasure]

/-- Whether a cell of a width shows a text, with blanks around it. -/
def Shows (width : Nat) (text cell : Text) : Prop :=
  cell.length = width ∧
    ∃ before after, cell = List.replicate before ' ' ++ text ++ List.replicate after ' '

/-! ## Widths -/

theorem le_foldl_max_iff {α : Type} [LinearOrder α] {number start : α} {numbers : List α} :
    numbers.foldl max start ≤ number ↔ start ≤ number ∧ ∀ other ∈ numbers, other ≤ number := by
  induction numbers generalizing start with
  | nil => simp
  | cons first numbers induction =>
    rw [List.foldl_cons, induction, max_le_iff, List.forall_mem_cons, and_assoc]

theorem greatest_le_iff {number : Nat} {numbers : List Nat} :
    greatest numbers ≤ number ↔ ∀ other ∈ numbers, other ≤ number := by
  simp [greatest, le_foldl_max_iff]

theorem le_greatest {number : Nat} {numbers : List Nat} (member : number ∈ numbers) :
    number ≤ greatest numbers :=
  greatest_le_iff.mp le_rfl number member

theorem width_plainMeasure (cell : Text) : plainMeasure.width cell = cell.length :=
  Nat.max_eq_right (Nat.zero_le _)

/-! ## Padding -/

section Padding

variable {width : Nat} {text cell : Text}

theorem shows_padRight (fits : text.length ≤ width) : Shows width text (padRight width text) := by
  refine ⟨?_, 0, width - text.length, rfl⟩
  rw [padRight, List.length_append, List.length_replicate]
  omega

theorem shows_padLeft {after : Nat} (fits : (text ++ List.replicate after ' ').length ≤ width) :
    Shows width text (padLeft width (text ++ List.replicate after ' ')) := by
  refine ⟨?_, _, after, (List.append_assoc _ _ _).symm⟩
  rw [padLeft, List.length_append, List.length_replicate]
  omega

theorem Shows.padded (shows : Shows width text cell) :
    Shows (width + 2) text (' ' :: cell ++ [' ']) := by
  obtain ⟨length, before, after, rfl⟩ := shows
  refine ⟨?_, before + 1, after + 1, ?_⟩
  · rw [List.length_append, List.length_cons, length]
    rfl
  · rw [List.replicate_succ, List.replicate_succ']
    simp only [List.cons_append, List.append_assoc]

end Padding

/-! ## Columns -/

/-- Whether an alignment keeps texts. -/
def Keeps (alignment : Alignment) (texts : List Text) : Prop :=
  alignment = .decimal ∨ alignment = .left ∧ ∀ text ∈ texts, Text.strip text = text

section Standing

variable (headers : List Text)

theorem ofValue_standingNumber :
    Alignment.ofValue (gridOptions headers).standingNumber = .decimal := by
  rw [Options.standingNumber, isNamed_pretty_gridOptions]
  change Alignment.ofValue (.ofString "decimal") = .decimal
  simp [Alignment.ofValue, Value.ofString, Value.underived]

theorem ofValue_standingText : Alignment.ofValue (gridOptions headers).standingText = .left := by
  rw [Options.standingText, isNamed_pretty_gridOptions]
  change Alignment.ofValue (.ofString "left") = .left
  simp [Alignment.ofValue, Value.ofString, Value.underived]

end Standing

/-- A column of a grid keeps its texts if it has numbers, or texts without blanks around them. -/
theorem keeps_of_stripped {kind : CellKind} {headers texts : List Text}
    (stripped : kind.isNumeric = false → ∀ text ∈ texts, Text.strip text = text) :
    Keeps (.ofValue (if kind.isNumeric then (gridOptions headers).standingNumber
      else (gridOptions headers).standingText)) texts := by
  by_cases numeric : kind.isNumeric = true
  · rw [if_pos numeric]
    exact .inl (ofValue_standingNumber headers)
  · rw [if_neg numeric]
    exact .inr ⟨ofValue_standingText headers, stripped (Bool.not_eq_true _ ▸ numeric)⟩

/-- The width that a column is given. -/
def alignedWidth (alignment : Alignment) (least : Nat) (texts : List Text) : Nat :=
  columnWidth plainMeasure least (alignment.prepare false texts)

section Column

variable {alignment : Alignment} {least : Nat} {texts : List Text}

theorem length_le_alignedWidth {text : Text} (member : text ∈ alignment.prepare false texts) :
    text.length ≤ alignedWidth alignment least texts := by
  refine le_trans ?_ (Nat.le_max_left _ _)
  rw [← width_plainMeasure text]
  exact le_greatest (List.mem_map_of_mem member)

theorem alignColumn_plainMeasure :
    alignColumn alignment plainMeasure least texts =
      (alignment.prepare false texts).map (alignment.pad (alignedWidth alignment least texts)) := by
  refine List.map_congr_left fun text _ => ?_
  change alignment.pad (_ + text.length - text.length) text = _
  rw [Nat.add_sub_cancel]
  rfl

/-- Numbers that are aligned by their points get blanks after them. -/
theorem padDecimals_eq (ignoresStyle : Bool) (texts : List Text) :
    padDecimals ignoresStyle texts = texts.map fun text => text ++ List.replicate
      ((texts.map fun text => afterPoint (if ignoresStyle then Text.visible text else text)).foldl
        max (-1) - afterPoint (if ignoresStyle then Text.visible text else text)).toNat ' ' := by
  simp [padDecimals, List.zipWith_map_right]

/-- The cells of an aligned column show its texts in one width. -/
theorem forall₂_alignColumn (keeps : Keeps alignment texts) :
    List.Forall₂ (Shows (alignedWidth alignment least texts)) texts
      (alignColumn alignment plainMeasure least texts) := by
  have fits := fun text => @length_le_alignedWidth alignment least texts text
  rw [alignColumn_plainMeasure]
  rcases keeps with rfl | ⟨rfl, stripped⟩
  · simp only [Alignment.prepare, padDecimals_eq, List.map_map] at fits ⊢
    rw [List.forall₂_map_right_iff, List.forall₂_same]
    intro text member
    exact shows_padLeft (fits _ (List.mem_map_of_mem member))
  · have prepared : Alignment.left.prepare false texts = texts :=
      (List.map_congr_left stripped).trans (List.map_id' texts)
    simp only [prepared] at fits ⊢
    rw [List.forall₂_map_right_iff, List.forall₂_same]
    intro text member
    exact shows_padRight (fits text member)

/-- An aligned column is as wide as its cells. -/
theorem max_greatest_alignColumn (nonempty : texts ≠ []) (keeps : Keeps alignment texts) :
    max least (greatest ((alignColumn alignment plainMeasure least texts).map
      plainMeasure.width)) = alignedWidth alignment least texts := by
  have shows := @forall₂_alignColumn alignment least texts keeps
  have some : (alignColumn alignment plainMeasure least texts).map plainMeasure.width ≠ [] := by
    rw [← List.length_pos_iff, List.length_map, ← shows.length_eq]
    exact List.length_pos_iff.mpr nonempty
  have equal : ∀ width ∈ (alignColumn alignment plainMeasure least texts).map plainMeasure.width,
      width = alignedWidth alignment least texts := by
    intro width member
    obtain ⟨cell, inside, rfl⟩ := List.mem_map.mp member
    obtain ⟨⟨index, bound⟩, rfl⟩ := List.mem_iff_get.mp inside
    rw [width_plainMeasure]
    exact (shows.get (shows.length_eq ▸ bound) bound).1
  rw [greatest, foldl_max_of_forall (Nat.zero_le _) some equal]
  exact Nat.max_eq_right (Nat.le_max_right _ _)

end Column

end TypeSurvey.Table
