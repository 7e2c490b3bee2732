import TypeSurvey.Proofs.Number.Literal
import TypeSurvey.Proofs.Outcome
import TypeSurvey.Proofs.Text.Styled
import TypeSurvey.Table.Cell

/-!
# Columns of integers and texts

The kind of a column is the most general kind among its cells. Every cell of a column can then be
written, but in a column of real numbers only what denotes a real number can: a name of a truth
value counts as more special than a number and is none.
-/

namespace TypeSurvey.Table

/-! ## Kinds of cells -/

/-- Whether a text denotes a real number. An infinity, or what is no number, has to be spelt `inf`,
`-inf` or `nan`. -/
def denotesReal (text : Text) : Bool :=
  match Numeral.toBinary64? text with
  | none => false
  | some number =>
    !(number.isInfinite || number.isNan) ||
      ["inf".toList, "-inf".toList, "nan".toList].contains (Text.asciiLower text)

/-- The kind of a text by what is visible of it. -/
def textKind (text : Text) : CellKind :=
  let shown := Text.visible text
  if shown = "True".toList ∨ shown = "False".toList then .truth
  else if (Numeral.toInt? shown).isSome then .integer
  else if denotesReal shown then .real
  else .text

/-- The kind of a cell that is an integer or a text. -/
def cellKind : Value → CellKind
  | .str text => textKind text
  | .int _ => .integer
  | _ => .text

/-- Whether a cell is an integer or a text. -/
def IsCell : Value → Prop
  | .str _ | .int _ => True
  | _ => False

theorem toFloat_str (text : Text) :
    (Value.str text).toFloat =
      match Numeral.toBinary64? text with
      | some real => .ok real
      | none => .error (.unreadableFloat (.str text)) := rfl

theorem readsAsFloat_str (text : Text) :
    readsAsFloat (.str text) = .ok (Numeral.toBinary64? text) := by
  rw [readsAsFloat, toFloat_str]
  cases Numeral.toBinary64? text <;> rfl

theorem isNumber_str (text : Text) : isNumber (.str text) = .ok (denotesReal text) := by
  rw [isNumber, readsAsFloat_str, ok_bind, denotesReal]
  cases Numeral.toBinary64? text with
  | none => rfl
  | some number =>
    cases unusual : (number.isInfinite || number.isNan) with
    | false => simp [unusual, pure, Except.pure]
    | true => simp [unusual, pure, Except.pure, Bool.or_assoc, beq_eq_decide]

theorem kindOf_str (text : Text) : kindOf (.str text) true true = .ok (textKind text) := by
  have truth : isTruth (.str (Text.visible text)) = true ↔
      Text.visible text = "True".toList ∨ Text.visible text = "False".toList := by
    rw [isTruth_str, Bool.or_eq_true, beq_iff_eq, beq_iff_eq]
  unfold kindOf textKind
  simp only [unstyled_str, if_true, Value.underived, truth, isNumber_str, ok_bind, isInteger_str,
    Bool.and_true]
  split_ifs <;> rfl

theorem kindOf_eq {cell : Value} (isCell : IsCell cell) :
    kindOf cell true true = .ok (cellKind cell) := by
  cases cell with
  | str text => exact kindOf_str text
  | int number => rfl
  | _ => exact isCell.elim

/-! ## Kinds of columns -/

/-- The kind of a column of integers and texts. -/
def kindOfCells (cells : List Value) : CellKind := (cells.map cellKind).foldl CellKind.join .truth

theorem columnKind_eq {cells : List Value} (each : ∀ cell ∈ cells, IsCell cell) :
    columnKind cells true true = .ok (kindOfCells cells) := by
  rw [columnKind, mapM_of_forall fun cell member => kindOf_eq (each cell member)]
  rfl

theorem rank_join (left right : CellKind) :
    (left.join right).rank = max left.rank right.rank := by
  unfold CellKind.join
  split_ifs with less <;> omega

theorem rank_foldl_join_le_iff (start : CellKind) (kinds : List CellKind) (bound : Nat) :
    (kinds.foldl CellKind.join start).rank ≤ bound ↔
      start.rank ≤ bound ∧ ∀ kind ∈ kinds, kind.rank ≤ bound := by
  induction kinds generalizing start with
  | nil => simp
  | cons kind kinds induction =>
    rw [List.foldl_cons, induction, rank_join, Nat.max_le, List.forall_mem_cons, and_assoc]

theorem eq_real_iff_rank {kind : CellKind} : kind = .real ↔ kind.rank ≤ 3 ∧ ¬ kind.rank ≤ 2 := by
  cases kind <;> decide

theorem cellKind_cases (cell : Value) :
    cellKind cell = .truth ∨ cellKind cell = .integer ∨ cellKind cell = .real ∨
      cellKind cell = .text := by
  cases cell with
  | str text =>
    simp only [cellKind, textKind]
    split_ifs <;> simp
  | _ => simp [cellKind]

/-- A column is one of real numbers if it has one and no text that is neither a number nor the name
of a truth value. -/
theorem kindOfCells_eq_real_iff (cells : List Value) :
    kindOfCells cells = .real ↔
      (∃ cell ∈ cells, cellKind cell = .real) ∧ ∀ cell ∈ cells, cellKind cell ≠ .text := by
  have low (cell : Value) : (cellKind cell).rank ≤ 3 ↔ cellKind cell ≠ .text := by
    rcases cellKind_cases cell with kind | kind | kind | kind <;> rw [kind] <;> decide
  have high (cell : Value) : ¬ (cellKind cell).rank ≤ 2 ↔
      cellKind cell = .real ∨ cellKind cell = .text := by
    rcases cellKind_cases cell with kind | kind | kind | kind <;> rw [kind] <;> decide
  have start (bound : Nat) (large : 1 ≤ bound) : CellKind.truth.rank ≤ bound := large
  rw [eq_real_iff_rank, kindOfCells, rank_foldl_join_le_iff, rank_foldl_join_le_iff]
  simp only [start 3 (by decide), start 2 (by decide), true_and, List.forall_mem_map, low]
  constructor
  · rintro ⟨noText, large⟩
    push Not at large
    obtain ⟨cell, member, above⟩ := large
    refine ⟨⟨cell, member, ?_⟩, noText⟩
    exact ((high cell).mp (not_le.mpr above)).resolve_right (noText cell member)
  · rintro ⟨⟨cell, member, real⟩, noText⟩
    exact ⟨noText, fun small => (high cell).mpr (.inl real) (small cell member)⟩

/-! ## Writing cells -/

/-- The format of the cells of a column of a kind. -/
def plainFormat (kind : CellKind) (styled : Bool) : CellFormat :=
  ⟨kind, .ofString "g", .ofString "", .ofString "", styled⟩

/-- The real number that the visible part of a cell denotes. -/
def visibleReal : Value → Except Fault Binary64
  | .str text => (Value.str (Text.visible text)).toFloat
  | cell => cell.toFloat

/-- A real number that is read, written with what stands around it. -/
def writeReal (reading : Except Fault Binary64) (around : Text → Text) : Except Fault Value := do
  let number ← reading
  let text ← (Value.float number).format (.ofString "g")
  return .str (around text)

/-- A real number with six significant digits, or fewer if the last of them are zeros. -/
def generalText (number : Binary64) : Text :=
  FormatSpec.applyFloat ⟨' ', .right, none, false, false, none, none, none, some 'g'⟩ number

theorem format_real (number : Binary64) :
    (Value.float number).format (.ofString "g") = .ok (generalText number) := by
  have parsed : FormatSpec.parse "float".toList .right none "g".toList =
      .ok ⟨' ', .right, none, false, false, none, none, none, some 'g'⟩ := by
    decide +kernel
  have given : FormatSpec.formatFloat "float".toList "g".toList number =
      .ok (generalText number) := by
    rw [FormatSpec.formatFloat, parsed]
    rfl
  exact congrArg (Except.mapError Fault.format) given

theorem exists_writeReal_iff (reading : Except Fault Binary64) (around : Text → Text) :
    (∃ shown, writeReal reading around = .ok shown) ↔ ∃ number, reading = .ok number := by
  constructor
  · rintro ⟨shown, written⟩
    obtain ⟨number, read, -⟩ := bind_eq_ok.mp written
    exact ⟨number, read⟩
  · rintro ⟨number, read⟩
    exact ⟨_, bind_eq_ok.mpr ⟨number, read, bind_eq_ok.mpr ⟨_, format_real number, rfl⟩⟩⟩

theorem exists_str_of_writeReal {reading : Except Fault Binary64} {around : Text → Text}
    {shown : Value} (written : writeReal reading around = .ok shown) :
    ∃ text, shown = .str text := by
  obtain ⟨number, -, rest⟩ := bind_eq_ok.mp written
  obtain ⟨text, -, last⟩ := bind_eq_ok.mp rest
  exact ⟨around text, (Except.ok.inj last).symm⟩

section Cell

variable {cell : Value} {kind : CellKind} {styled : Bool}

/-- In a column of real numbers a cell is read and written, and in other columns it is a text
already. -/
theorem exists_formatCell_eq (isCell : IsCell cell)
    (plain : styled = false → ∀ text, cell = .str text → Text.isStyled text = false) :
    ∃ around, formatCell (plainFormat kind styled) cell =
      if kind = .real then writeReal (visibleReal cell) around else .ok (.str (around [])) := by
  cases cell with
  | str text =>
    cases kind with
    | real =>
      cases styled with
      | true => exact ⟨fun shown => Text.replace (Text.visible text) shown text, rfl⟩
      | false =>
        rw [visibleReal, Text.visible_of_not_isStyled (plain rfl text rfl)]
        exact ⟨id, rfl⟩
    | _ => exact ⟨fun _ => text, rfl⟩
  | int number =>
    cases kind with
    | real => cases styled <;> exact ⟨id, rfl⟩
    | _ => exact ⟨fun _ => Text.ofInt number, rfl⟩
  | _ => exact isCell.elim

theorem exists_formatCell_iff (isCell : IsCell cell)
    (plain : styled = false → ∀ text, cell = .str text → Text.isStyled text = false) :
    (∃ shown, formatCell (plainFormat kind styled) cell = .ok shown) ↔
      (kind = .real → ∃ number, visibleReal cell = .ok number) := by
  obtain ⟨around, written⟩ := exists_formatCell_eq isCell plain
  rw [written]
  split_ifs with real
  · simp [real, exists_writeReal_iff]
  · simp [real]

theorem exists_str_of_formatCell (isCell : IsCell cell)
    (plain : styled = false → ∀ text, cell = .str text → Text.isStyled text = false)
    {shown : Value} (done : formatCell (plainFormat kind styled) cell = .ok shown) :
    ∃ text, shown = .str text := by
  obtain ⟨around, written⟩ := exists_formatCell_eq isCell plain
  rw [written] at done
  split_ifs at done with real
  · exact exists_str_of_writeReal done
  · exact ⟨around [], (Except.ok.inj done).symm⟩

end Cell

/-! ## Writing columns -/

/-- Whether a column is one of real numbers and has a cell that denotes none. -/
def Clashes (cells : List Value) : Prop :=
  kindOfCells cells = .real ∧ ∃ cell ∈ cells, ¬ ∃ number, visibleReal cell = .ok number

theorem exists_mapM_formatCell_iff {cells : List Value} (each : ∀ cell ∈ cells, IsCell cell)
    {styled : Bool}
    (plain : styled = false → ∀ text, .str text ∈ cells → Text.isStyled text = false) :
    (∃ shown, cells.mapM (formatCell (plainFormat (kindOfCells cells) styled)) = .ok shown) ↔
      ¬ Clashes cells := by
  have cellPlain : ∀ cell ∈ cells,
      styled = false → ∀ text, cell = .str text → Text.isStyled text = false := by
    rintro _ member unstyled text rfl
    exact plain unstyled text member
  rw [exists_mapM_iff, Clashes]
  constructor
  · rintro written ⟨real, cell, member, unread⟩
    have reads := (exists_formatCell_iff (each cell member) (cellPlain cell member)).mp
      (written cell member)
    exact unread (reads real)
  · intro fits cell member
    refine (exists_formatCell_iff (each cell member) (cellPlain cell member)).mpr fun real => ?_
    by_contra unread
    exact fits ⟨real, cell, member, unread⟩

theorem kindOfCells_int_ne_real (numbers : List Int) :
    kindOfCells (numbers.map .int) ≠ .real := by
  intro real
  obtain ⟨⟨cell, member, kind⟩, -⟩ := (kindOfCells_eq_real_iff _).mp real
  obtain ⟨number, -, rfl⟩ := List.mem_map.mp member
  nomatch kind

theorem not_clashes_int (numbers : List Int) : ¬ Clashes (numbers.map .int) :=
  fun clash => kindOfCells_int_ne_real numbers clash.1

/-- Whether a column has a name of a truth value and a real number that is no integer, and no text
that is neither a number nor a name of a truth value. -/
def Mixed (texts : List Text) : Prop :=
  (∃ text ∈ texts, textKind text = .truth) ∧ (∃ text ∈ texts, textKind text = .real) ∧
    ∀ text ∈ texts, textKind text ≠ .text

instance (texts : List Text) : Decidable (Mixed texts) :=
  inferInstanceAs (Decidable ((∃ text ∈ texts, textKind text = .truth) ∧
    (∃ text ∈ texts, textKind text = .real) ∧ ∀ text ∈ texts, textKind text ≠ .text))

/-- Whether a column is mixed does not depend on the order of its texts. -/
theorem mixed_of_perm {left right : List Text} (order : left.Perm right) :
    Mixed left ↔ Mixed right := by
  simp only [Mixed, order.mem_iff]

theorem exists_visibleReal_iff {text : Text} (noText : textKind text ≠ .text) :
    (∃ number, visibleReal (.str text) = .ok number) ↔ textKind text ≠ .truth := by
  have reads : (∃ number, visibleReal (.str text) = .ok number) ↔
      (Numeral.toBinary64? (Text.visible text)).isSome = true := by
    rw [visibleReal, toFloat_str]
    cases Numeral.toBinary64? (Text.visible text) <;> simp
  rw [reads]
  simp only [textKind] at noText ⊢
  split_ifs at noText ⊢ with truth whole real
  · have unread : ∀ name ∈ ["True".toList, "False".toList],
        (Numeral.toBinary64? name).isSome = false := by
      decide +kernel
    simp [unread (Text.visible text) (by simpa using truth)]
  · simpa using Numeral.isSome_toBinary64?_of_toInt? whole
  · unfold denotesReal at real
    cases read : Numeral.toBinary64? (Text.visible text) with
    | none => simp [read] at real
    | some number => simp
  · exact absurd rfl noText

/-! ## Columns of texts as they are written -/

/-- Whether texts are a column of real numbers: one of them denotes a real number and is not written
as an integer, and all of them denote numbers or are names of truth values. -/
def IsRealColumn (texts : List Text) : Prop :=
  (∃ text ∈ texts, textKind text = .real) ∧ ∀ text ∈ texts, textKind text ≠ .text

instance (texts : List Text) : Decidable (IsRealColumn texts) :=
  inferInstanceAs (Decidable ((∃ text ∈ texts, textKind text = .real) ∧
    ∀ text ∈ texts, textKind text ≠ .text))

theorem isRealColumn_of_perm {left right : List Text} (order : left.Perm right) :
    IsRealColumn left ↔ IsRealColumn right := by
  simp only [IsRealColumn, order.mem_iff]

theorem kindOfCells_str (texts : List Text) :
    kindOfCells (texts.map .str) = .real ↔ IsRealColumn texts := by
  simp [kindOfCells_eq_real_iff, IsRealColumn, cellKind]

/-- How a text of a column is written: in a column of real numbers as the number that it denotes,
and in all others as it is. -/
def writtenText (column : List Text) (text : Text) : Text :=
  if IsRealColumn column then
    match Numeral.toBinary64? text with
    | some number => generalText number
    | none => text
  else text

theorem writtenText_of_perm {left right : List Text} (order : left.Perm right) :
    writtenText left = writtenText right := by
  funext text
  simp only [writtenText, isRealColumn_of_perm order]

theorem formatCell_str {kind : CellKind} (other : kind ≠ .real) (text : Text) :
    formatCell (plainFormat kind false) (.str text) = .ok (.str text) := by
  cases kind with
  | real => exact absurd rfl other
  | _ => rfl

theorem formatCell_int {kind : CellKind} (other : kind ≠ .real) (number : Int) :
    formatCell (plainFormat kind false) (.int number) = .ok (.str (Text.ofInt number)) := by
  cases kind with
  | real => exact absurd rfl other
  | _ => rfl

theorem formatCell_real {text : Text} {shown : Value}
    (done : formatCell (plainFormat .real false) (.str text) = .ok shown) :
    ∃ number, Numeral.toBinary64? text = some number ∧ shown = .str (generalText number) := by
  have shape : formatCell (plainFormat .real false) (.str text) =
      writeReal (Value.str text).toFloat id := rfl
  rw [shape, toFloat_str] at done
  cases read : Numeral.toBinary64? text with
  | none => simp [read, writeReal, bind, Except.bind] at done
  | some number =>
    simp only [read, writeReal, ok_bind, format_real] at done
    exact ⟨number, rfl, (Except.ok.inj done).symm⟩

theorem eq_map_writtenText {texts : List Text} {shown : List Value}
    (done : (texts.map .str).mapM (formatCell (plainFormat (kindOfCells (texts.map .str)) false)) =
      .ok shown) : shown = (texts.map (writtenText texts)).map .str := by
  rw [mapM_eq_ok_iff, List.forall₂_map_left_iff] at done
  have each : ∀ text result, formatCell (plainFormat (kindOfCells (texts.map .str)) false)
      (.str text) = .ok result → result = .str (writtenText texts text) := by
    intro text result format
    by_cases real : IsRealColumn texts
    · rw [(kindOfCells_str texts).mpr real] at format
      obtain ⟨number, read, rfl⟩ := formatCell_real format
      simp [writtenText, real, read]
    · rw [formatCell_str fun same => real ((kindOfCells_str texts).mp same)] at format
      rw [← Except.ok.inj format, writtenText, if_neg real]
  have same : List.Forall₂ (· = ·) (texts.map fun text => Value.str (writtenText texts text))
      shown :=
    List.forall₂_map_left_iff.mpr (done.imp fun text result format =>
      (each text result format).symm)
  rw [List.forall₂_eq_eq_eq] at same
  rw [List.map_map]
  exact same.symm

theorem mapM_formatCell_int (numbers : List Int) :
    (numbers.map .int).mapM (formatCell (plainFormat (kindOfCells (numbers.map .int)) false)) =
      .ok ((numbers.map Text.ofInt).map .str) := by
  rw [mapM_eq_ok_iff, List.map_map, List.forall₂_map_left_iff, List.forall₂_map_right_iff,
    List.forall₂_same]
  exact fun number _ => formatCell_int (kindOfCells_int_ne_real numbers) number

theorem clashes_str_iff (texts : List Text) : Clashes (texts.map .str) ↔ Mixed texts := by
  rw [Clashes, kindOfCells_eq_real_iff, Mixed, List.forall_mem_map]
  simp only [List.mem_map, exists_exists_and_eq_and, cellKind]
  constructor
  · rintro ⟨⟨real, noText⟩, text, member, unread⟩
    rw [exists_visibleReal_iff (noText text member), not_not] at unread
    exact ⟨⟨text, member, unread⟩, real, noText⟩
  · rintro ⟨⟨text, member, truth⟩, real, noText⟩
    refine ⟨⟨real, noText⟩, text, member, ?_⟩
    rw [exists_visibleReal_iff (noText text member), not_not]
    exact truth

end TypeSurvey.Table
