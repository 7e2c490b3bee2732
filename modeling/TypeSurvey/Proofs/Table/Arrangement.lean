import TypeSurvey.Proofs.Table.Ink

/-!
# Rows and separating lines

Separating lines are taken out of a table before its rows are written, and put back at their places
afterwards. So every line of a table is found at its place again: a separating line as such, and a
row as cells that stand for its texts.
-/

namespace TypeSurvey.Table

/-! ## Taking out and putting back -/

section Positions

variable {α β : Type} {marked : α → Bool} {relates : α → β → Prop} (mark : β)

theorem insertAt_length (item : β) (front back : List β) :
    insertAt item front.length (front ++ back) = front ++ item :: back := by
  induction front with
  | nil => cases back <;> rfl
  | cons first front induction =>
    rw [List.length_cons, List.cons_append, insertAt, induction]
    rfl

/-- The loop that puts marked items back, with the items in front of the place that it has come
to. -/
theorem exists_reinsertSeparators {items : List α} {rows : List β}
    (related : List.Forall₂ relates (items.filter (!marked ·)) rows) (front : List β) :
    ∃ arranged, reinsertSeparators mark
        (((items.zipIdx front.length).filter fun item => marked item.1).map Prod.snd)
        (front ++ rows) = front ++ arranged ∧
      List.Forall₂ (fun item row => if marked item then row = mark else relates item row) items
        arranged := by
  induction items generalizing rows front with
  | nil =>
    cases related
    exact ⟨[], rfl, .nil⟩
  | cons item items induction =>
    cases found : marked item with
    | true =>
      rw [List.filter_cons_of_neg (by simp [found])] at related
      obtain ⟨arranged, put, holds⟩ := induction related (front ++ [mark])
      refine ⟨mark :: arranged, ?_, .cons (by simp [found]) holds⟩
      rw [List.length_append, List.length_singleton, List.append_assoc, List.append_assoc] at put
      have first : (item, front.length) :: (items.zipIdx (front.length + 1)).filter
          (fun item => marked item.1) =
          ((item :: items).zipIdx front.length).filter fun item => marked item.1 := by
        simp [found]
      rw [← first, List.map_cons, reinsertSeparators, List.foldl_cons, insertAt_length]
      exact put
    | false =>
      rw [List.filter_cons_of_pos (by simp [found]), List.forall₂_cons_left_iff] at related
      obtain ⟨row, others, here, later, rfl⟩ := related
      obtain ⟨arranged, put, holds⟩ := induction later (front ++ [row])
      refine ⟨row :: arranged, ?_, .cons (by simpa [found] using here) holds⟩
      rw [List.length_append, List.length_singleton, List.append_assoc, List.append_assoc] at put
      rw [List.zipIdx_cons, List.filter_cons_of_neg (by simp [found])]
      exact put

/-- Marked items that are put back at their places stand there, and between them stand the others in
their order. -/
theorem forall₂_reinsertSeparators {items : List α} {rows : List β}
    (related : List.Forall₂ relates (items.filter (!marked ·)) rows) :
    List.Forall₂ (fun item row => if marked item then row = mark else relates item row) items
      (reinsertSeparators mark ((items.zipIdx.filter fun item => marked item.1).map Prod.snd)
        rows) := by
  obtain ⟨arranged, put, holds⟩ := exists_reinsertSeparators mark related []
  rw [List.nil_append, List.nil_append, List.length_nil] at put
  rwa [put]

end Positions

/-! ## Lines of texts -/

/-- A line of a table: a separating line, or a row of so many texts. -/
inductive GivenLine (width : Nat)
  | separator (given : Value) (marked : isSeparatorRow given = true)
  | row (cells : List Text) (length : cells.length = width)
    (unmarked : isSeparator (textValues cells) = false)

namespace GivenLine

variable {width : Nat}

def value : GivenLine width → Value
  | separator given _ => given
  | row cells _ _ => .list (textValues cells)

def cells? : GivenLine width → Option (List Text)
  | separator _ _ => none
  | row cells _ _ => some cells

theorem isSeparatorRow_value (line : GivenLine width) :
    isSeparatorRow line.value = line.cells?.isNone := by
  cases line with
  | separator given marked => exact marked
  | row cells length unmarked => exact unmarked

end GivenLine

/-- The texts of a row as a style shows them: the style `rst` shows dots for a blank first text. -/
def dotted (name : String) (cells : List Text) : List Text :=
  if name = "rst" then
    cells.modifyHead fun first => if first.all Text.isBlank then "..".toList else first
  else cells

section Lines

variable {width : Nat}

/-- The rows of texts among some lines. -/
def textRows (lines : List (GivenLine width)) : List (List Text) :=
  lines.filterMap GivenLine.cells?

def linesSheet (name : String) (lines : List (GivenLine width)) : Sheet :=
  ⟨[], (textRows lines).map fun cells => textValues (dotted name cells),
    (removeSeparators (lines.map GivenLine.value)).2⟩

variable {name : String} {lines : List (GivenLine width)}

theorem normalizeRows_lines :
    normalizeRows (lines.map GivenLine.value) (.tuple []) =
      .ok (lines.map GivenLine.value, .tuple []) := by
  cases lines with
  | nil => rfl
  | cons line lines =>
    cases line with
    | separator given marked =>
      cases given with
      | list _ | str _ => rfl
      | _ => nomatch marked
    | row cells length unmarked => rfl

theorem normalize_lines :
    normalize (.list (lines.map GivenLine.value)) (.tuple []) (.ofString "default") =
      .ok (lines.map GivenLine.value, []) := by
  have kept : (lines.map GivenLine.value).mapM (fun row =>
      if isSeparatorRow row = true then pure row
      else do
        let cells ← row.iterate
        pure (.list cells)) = Except.ok (lines.map GivenLine.value) := by
    rw [List.mapM_map]
    refine mapM_of_forall fun line _ => ?_
    simp only [Function.comp_apply, GivenLine.isSeparatorRow_value]
    cases line <;> rfl
  rw [normalize_list normalizeRows_lines rfl rfl kept, addLabels_default]
  rfl

theorem filter_lines :
    (lines.map GivenLine.value).filter (!isSeparatorRow ·) =
      (textRows lines).map fun cells => .list (textValues cells) := by
  induction lines with
  | nil => rfl
  | cons line lines induction =>
    rw [List.map_cons]
    cases line with
    | separator given marked =>
      rw [List.filter_cons_of_neg (by simp [GivenLine.value, marked]), induction]
      rfl
    | row cells length unmarked =>
      rw [List.filter_cons_of_pos (by simp [GivenLine.value, isSeparatorRow, unmarked]),
        induction]
      rfl

theorem textValues_dotted (name : String) (cells : List Text) :
    textValues (dotted name cells) =
      if name = "rst" then dotFirst (textValues cells) else textValues cells := by
  unfold dotted
  split_ifs with dots
  · cases cells with
    | nil => rfl
    | cons first rest =>
      simp only [List.modifyHead_cons, textValues, List.map_cons, dotFirst, dotsForEmpty,
        Value.underived]
      split_ifs <;> rfl
  · rfl

theorem ofData_lines :
    Sheet.ofData (namedOptions (.tuple []) name) (.list (lines.map GivenLine.value)) =
      .ok (linesSheet name lines) := by
  have given : Value.list (lines.map GivenLine.value) ≠ .none := nofun
  have iterated : (removeSeparators (lines.map GivenLine.value)).1.mapM Value.iterate =
      .ok ((textRows lines).map textValues) := by
    rw [removeSeparators, filter_lines, List.mapM_map]
    exact mapM_of_forall fun cells _ => rfl
  rw [ofData_of_normalize given normalize_lines iterated, linesSheet]
  simp only [textValues_dotted]
  split_ifs with dots
  · rw [List.map_map]
    rfl
  · rfl

/-! ## Rows of texts -/

/-- Whether a row of cells stands for a line. -/
def RowStands (name : String) (measure : Measure) (line : GivenLine width) (row : Row) : Prop :=
  match line.cells? with
  | none => row = .separator
  | some cells => ∃ shown, row = .cells shown ∧
      List.Forall₂ (Stands measure) (dotted name cells) shown

/-- The rows of aligned columns stand for rows whose columns these stand for. -/
theorem forall₂_rowsOf {relates : Text → Text → Prop} {rows : List (List Text)}
    {columns : List (List Text)} (wide : 0 < width) (uniform : ∀ row ∈ rows, row.length = width)
    (related : List.Forall₂ (fun index column => List.Forall₂ relates
      (rows.map fun row => row.getD index []) column) (List.range width) columns) :
    List.Forall₂ (List.Forall₂ relates) rows (rowsOf columns) := by
  have count : columns.length = width := by rw [← related.length_eq, List.length_range]
  have some : columns ≠ [] := by
    rw [← List.length_pos_iff, count]
    exact wide
  have lengths : ∀ column ∈ columns, (id column).length = rows.length := by
    intro column member
    obtain ⟨index, -, here⟩ := exists_of_mem_right related member
    rw [id, ← here.length_eq, List.length_map]
  have shape := rowsOf_map some lengths
  rw [List.map_id] at shape
  rw [shape, List.forall₂_iff_get]
  refine ⟨by simp, fun row bound _ => ?_⟩
  have long := uniform rows[row] (List.getElem_mem bound)
  rw [List.forall₂_iff_get]
  refine ⟨by simp [long, count], fun column inside _ => ?_⟩
  rw [List.get_eq_getElem] at inside
  have place : column < columns.length := by rwa [count, ← long]
  have stands := related.get (by rwa [List.length_range, ← count]) place
  have present : row < columns[column].length := by
    have same := stands.length_eq
    rw [List.length_map] at same
    rwa [same] at bound
  have here := stands.get (by rwa [List.length_map]) present
  simpa [List.getD_eq_getElem?_getD, present, inside] using here

theorem length_dotted (name : String) (cells : List Text) :
    (dotted name cells).length = cells.length := by
  unfold dotted
  split_ifs
  · exact List.length_modifyHead
  · rfl

theorem length_of_mem_textRows : ∀ cells ∈ textRows lines, cells.length = width := by
  intro cells member
  obtain ⟨line, -, found⟩ := List.mem_filterMap.mp member
  cases line with
  | separator given marked => nomatch found
  | row texts length unmarked => exact Option.some.inj found ▸ length

theorem transpose_textValues {rows : List (List Text)} (nonempty : rows ≠ [])
    (uniform : ∀ row ∈ rows, row.length = width) :
    transpose (rows.map textValues) =
      (List.range width).map fun index => textValues (rows.map fun row => row.getD index []) := by
  have lengths : ∀ row ∈ rows.map textValues, row.length = width := by
    intro row member
    obtain ⟨texts, inside, rfl⟩ := List.mem_map.mp member
    rw [textValues, List.length_map]
    exact uniform texts inside
  rw [transpose_eq (by simpa using nonempty) lengths]
  refine List.map_congr_left fun index inside => ?_
  rw [textValues, List.map_map, List.map_map]
  refine List.map_congr_left fun row member => ?_
  have bound : index < row.length := by
    rw [uniform row member]
    exact List.mem_range.mp inside
  simp [textValues, bound]

/-- Putting the separating lines back, the rows stand for the lines. -/
theorem forall₂_rowStands {measure : Measure} {rows : List (List Text)}
    (stand : List.Forall₂ (List.Forall₂ (Stands measure)) ((textRows lines).map (dotted name))
      rows) :
    List.Forall₂ (RowStands name measure) lines
      (reinsertSeparators .separator (removeSeparators (lines.map GivenLine.value)).2
        (rows.map .cells)) := by
  rw [List.forall₂_map_left_iff] at stand
  have related : List.Forall₂ (fun value row => ∃ cells, value = .list (textValues cells) ∧
      ∃ shown, row = .cells shown ∧ List.Forall₂ (Stands measure) (dotted name cells) shown)
      ((lines.map GivenLine.value).filter (!isSeparatorRow ·)) (rows.map Row.cells) := by
    rw [filter_lines, List.forall₂_map_left_iff, List.forall₂_map_right_iff]
    exact stand.imp fun cells shown here => ⟨cells, rfl, shown, rfl, here⟩
  have arranged := forall₂_reinsertSeparators Row.separator related
  rw [List.forall₂_map_left_iff] at arranged
  refine arranged.imp fun line row here => ?_
  cases line with
  | separator given marked => exact (if_pos marked).mp here
  | row cells length unmarked =>
    have other : ¬ isSeparatorRow (GivenLine.row cells length unmarked).value = true := by
      simp [GivenLine.value, isSeparatorRow, unmarked]
    rw [if_neg other] at here
    obtain ⟨texts, same, stands⟩ := here
    obtain rfl : cells = texts := List.map_injective_iff.mpr (fun _ _ => Value.str.inj)
      (Value.list.inj same)
    exact stands

/-- Lines are laid out without headers, and at the place of each line is a row that stands for
it. -/
theorem forall₂_rows_of_layOut {table : Layout} (wide : 0 < width) (some : textRows lines ≠ [])
    (laid : layOut (namedOptions (.tuple []) name) (.list (lines.map GivenLine.value)) =
      .ok table) :
    let measure := (linesSheet name lines).measure (.named (.ofString name))
    table.headers = [] ∧ table.multiline = measure.multiline ∧
      table.verticals = List.replicate (textRows lines).length .none ∧
      List.Forall₂ (RowStands name measure) lines table.rows := by
  intro measure
  have sheet := @ofData_lines width name lines
  have nonempty : (textRows lines).map (dotted name) ≠ [] := by simpa using some
  have uniform : ∀ row ∈ (textRows lines).map (dotted name), row.length = width := by
    intro row member
    obtain ⟨cells, inside, rfl⟩ := List.mem_map.mp member
    rw [length_dotted, length_of_mem_textRows cells inside]
  have rows : (linesSheet name lines).rows = ((textRows lines).map (dotted name)).map textValues :=
    (List.map_map).symm
  have simple : ∀ row ∈ (linesSheet name lines).rows, ∀ cell ∈ row, IsSimple cell :=
    rows ▸ isSimple_of_mem_textValues _
  obtain ⟨strips, written, -, standing, rfl⟩ :=
    exists_strips_of_layOut sheet simple laid fun headed => absurd rfl headed
  rw [rows, transpose_textValues nonempty uniform, List.forall₂_map_left_iff] at written
  have stand : List.Forall₂ (List.Forall₂ (Stands measure)) ((textRows lines).map (dotted name))
      (rowsOf (strips.map (Strip.aligned measure))) := by
    refine forall₂_rowsOf wide uniform ?_
    rw [List.forall₂_map_right_iff]
    exact written.imp fun index strip here => forall₂_stands_aligned here
  have count := stand.length_eq
  rw [List.length_map] at count
  exact ⟨rfl, rfl, congrArg (fun count => List.replicate count Value.none) count.symm,
    forall₂_rowStands stand⟩

end Lines

end TypeSurvey.Table
