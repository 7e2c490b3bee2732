import TypeSurvey.Proofs.Table.Drawing
import TypeSurvey.Proofs.Table.Written

/-!
# Sheets in a named style

If nothing but headers and the name of a style is given, each column of a sheet is written in the
format of its kind and aligned by its kind. A sheet of simple cells that is laid out is laid out in
strips, one for each column, which hold the texts that its cells are written as.
-/

namespace TypeSurvey.Table

/-- How a table with these headers in the style of a name is rendered. -/
def namedOptions (headers : Value) (name : String) : Options :=
  { headers, style := .named (.ofString name) }

def styleNamed (name : String) : Style := (StyleChoice.named (.ofString name)).style

def columnAlignment (pretty : Bool) (kind : CellKind) : Alignment :=
  if pretty then .center else if kind.isNumeric then .decimal else .left

/-- Whether a strip is written from the cells of a column. -/
def StripOf (pretty styled : Bool) (cells : List Value) (strip : Strip) : Prop :=
  ∃ kind, columnKind cells true (!pretty) = .ok kind ∧
    strip.alignment = columnAlignment pretty kind ∧
    List.Forall₂ (fun cell text => formatCell (plainFormat kind styled) cell = .ok (.str text))
      cells strip.texts

section Named

variable (headers : Value) (name : String)

theorem isNamed_namedOptions (other : String) :
    (namedOptions headers name).isNamed other = decide (name = other) := by
  change (some name.toList == some other.toList) = _
  rw [beq_eq_decide, decide_eq_decide, Option.some.injEq, String.toList_inj]

theorem ofValue_standing (kind : CellKind) :
    Alignment.ofValue (if kind.isNumeric then (namedOptions headers name).standingNumber
      else (namedOptions headers name).standingText) =
        columnAlignment (decide (name = "pretty")) kind := by
  have word : isText "default" (.ofString "default") = true := rfl
  have standingText : (namedOptions headers name).standingText =
      .ofString (if decide (name = "pretty") then "center" else "left") := by
    rw [Options.standingText, isNamed_namedOptions]
    exact if_pos word
  have standingNumber : (namedOptions headers name).standingNumber =
      .ofString (if decide (name = "pretty") then "center" else "decimal") := by
    rw [Options.standingNumber, isNamed_namedOptions]
    exact if_pos word
  rw [standingText, standingNumber, columnAlignment]
  cases decide (name = "pretty") <;> cases kind.isNumeric <;> rfl

theorem alignments_namedOptions (kinds : List CellKind) :
    (namedOptions headers name).alignments kinds =
      .ok (kinds.map (columnAlignment (decide (name = "pretty")))) := by
  refine congrArg Except.ok (List.map_congr_left fun kind _ => ?_)
  exact ofValue_standing headers name kind

variable {headers name}

/-- The sheet of data by the rows and headers that it is normalized to. The style `rst` shows dots
for an empty first cell. -/
theorem ofData_of_normalize {data : Value} {values : List Value} {texts : List Text}
    {rows : List (List Value)} (given : data ≠ .none)
    (normal : normalize data headers (.ofString "default") = .ok (values, texts))
    (iterated : (removeSeparators values).1.mapM Value.iterate = .ok rows) :
    Sheet.ofData (namedOptions headers name) data = .ok (if name = "rst" then
      ⟨(dotFirst (textValues texts)).map plainText, rows.map dotFirst, (removeSeparators values).2⟩
      else ⟨texts, rows, (removeSeparators values).2⟩) := by
  have prepared : prepare (namedOptions headers name) data =
      .ok (rows, (removeSeparators values).2, textValues texts) := by
    simp only [prepare, namedOptions, normal, ok_bind, iterated, pure_bind]
    rfl
  rw [Sheet.ofData, prepared, ok_bind, isNamed_namedOptions]
  by_cases dotted : name = "rst"
  · simp only [dotted, decide_true, if_true]
    rfl
  · simp only [dotted, decide_false, if_false, map_plainText_textValues, Bool.false_eq_true]
    rfl

/-- Columns are written in the formats of their kinds. -/
theorem formatColumns_eq_ok_iff {keeps styled : Bool} {columns shown : List (List Value)}
    {kinds : List CellKind} :
    formatColumns (namedOptions headers name) (.bool keeps) styled columns = .ok (shown, kinds) ↔
      List.Forall₂ (fun cells kind => columnKind cells true (!keeps) = .ok kind) columns kinds ∧
        List.Forall₂ (fun (part : List Value × CellKind) written =>
          part.1.mapM (formatCell (plainFormat part.2 styled)) = .ok written)
          (columns.zip kinds) shown := by
  have reading : expandNumberReading (.bool keeps) columns.length =
      .ok (List.replicate columns.length (!keeps)) := by
    cases keeps <;> rfl
  have reals : perColumn (namedOptions headers name).realFormat columns.length (.ofString "g") =
      .ok (List.replicate columns.length (.ofString "g")) := rfl
  have integers : perColumn (namedOptions headers name).integerFormat columns.length
      (.ofString "") = .ok (List.replicate columns.length (.ofString "")) := rfl
  have missing : perColumn (namedOptions headers name).missing columns.length (.ofString "") =
      .ok (List.replicate columns.length (.ofString "")) := rfl
  have settings {found : List CellKind} (same : columns.length = found.length) :
      found.zip ((List.replicate columns.length (Value.ofString "g")).zip
        ((List.replicate columns.length (Value.ofString "")).zip
          (List.replicate columns.length (Value.ofString "")))) =
      found.map fun kind => (kind, Value.ofString "g", Value.ofString "", Value.ofString "") := by
    rw [same]
    simp only [← List.map_const', List.zip_map', List.map_prod_left_eq_zip]
  simp only [formatColumns, reading, reals, integers, missing, ok_bind, bind_eq_ok]
  constructor
  · rintro ⟨found, known, written, formatted, same⟩
    obtain ⟨rfl, rfl⟩ := Prod.mk.inj (Except.ok.inj same)
    rw [← List.map_const', ← List.map_prod_left_eq_zip, List.mapM_map, mapM_eq_ok_iff] at known
    rw [settings known.length_eq, List.zip_map_right, List.mapM_map, mapM_eq_ok_iff] at formatted
    exact ⟨known, formatted⟩
  · rintro ⟨known, formatted⟩
    refine ⟨kinds, ?_, shown, ?_, rfl⟩
    · rw [← List.map_const', ← List.map_prod_left_eq_zip, List.mapM_map, mapM_eq_ok_iff]
      exact known
    · rw [settings known.length_eq, List.zip_map_right, List.mapM_map, mapM_eq_ok_iff]
      exact formatted

/-- The texts of simple columns as they are written. -/
theorem exists_texts_of_written {styled : Bool} {parts : List (List Value × CellKind)}
    {shown : List (List Value)} (simple : ∀ part ∈ parts, ∀ cell ∈ part.1, IsSimple cell)
    (written : List.Forall₂ (fun (part : List Value × CellKind) written =>
      part.1.mapM (formatCell (plainFormat part.2 styled)) = .ok written) parts shown) :
    ∃ columns : List (List Text), shown = columns.map (fun texts => texts.map .str) ∧
      List.Forall₂ (fun (part : List Value × CellKind) texts =>
        List.Forall₂ (fun cell text => formatCell (plainFormat part.2 styled) cell =
          .ok (.str text)) part.1 texts) parts columns := by
  have column {kind : CellKind} {cells written : List Value}
      (simple : ∀ cell ∈ cells, IsSimple cell)
      (done : List.Forall₂ (fun cell shown => formatCell (plainFormat kind styled) cell = .ok shown)
        cells written) :
      ∃ texts, written = texts.map .str ∧ List.Forall₂ (fun cell text =>
        formatCell (plainFormat kind styled) cell = .ok (.str text)) cells texts := by
    induction done with
    | nil => exact ⟨[], rfl, .nil⟩
    | cons here _ induction =>
      obtain ⟨first, others⟩ := List.forall_mem_cons.mp simple
      obtain ⟨text, rfl, -⟩ := exists_writes_of_formatCell first here
      obtain ⟨texts, rfl, later⟩ := induction others
      exact ⟨text :: texts, rfl, .cons here later⟩
  induction written with
  | nil => exact ⟨[], rfl, .nil⟩
  | cons here _ induction =>
    obtain ⟨first, others⟩ := List.forall_mem_cons.mp simple
    obtain ⟨texts, rfl, writes⟩ := column first (mapM_eq_ok_iff.mp here)
    obtain ⟨columns, rfl, later⟩ := induction others
    exact ⟨texts :: columns, rfl, .cons writes later⟩

theorem isSimple_of_mem_textValues (rows : List (List Text)) :
    ∀ row ∈ rows.map textValues, ∀ cell ∈ row, IsSimple cell := by
  intro row member cell inside
  obtain ⟨texts, -, rfl⟩ := List.mem_map.mp member
  obtain ⟨text, -, rfl⟩ := List.mem_map.mp inside
  trivial

theorem isSimple_of_mem_transpose {rows : List (List Value)}
    (simple : ∀ row ∈ rows, ∀ cell ∈ row, IsSimple cell) :
    ∀ cells ∈ transpose rows, ∀ cell ∈ cells, IsSimple cell := by
  intro cells member cell inside
  obtain ⟨column, -, rfl⟩ := List.mem_map.mp member
  obtain ⟨row, place, rfl⟩ := List.mem_map.mp inside
  rw [List.getD_eq_getElem?_getD]
  cases found : row[column]? with
  | none => trivial
  | some cell => exact simple row place cell (List.mem_of_getElem? found)

theorem exists_of_mem_right {α β : Type} {relates : α → β → Prop} {items : List α}
    {others : List β} (pairs : List.Forall₂ relates items others) {other : β}
    (member : other ∈ others) : ∃ item ∈ items, relates item other := by
  induction pairs with
  | nil => nomatch member
  | cons here _ induction =>
    rcases List.mem_cons.mp member with rfl | later
    · exact ⟨_, List.mem_cons_self, here⟩
    · obtain ⟨item, inside, holds⟩ := induction later
      exact ⟨item, List.mem_cons_of_mem _ inside, holds⟩

/-- The columns of simple cells are written as texts. None of them is empty. -/
theorem exists_texts_of_formatColumns {keeps styled : Bool} {rows shown : List (List Value)}
    {kinds : List CellKind} (simple : ∀ row ∈ rows, ∀ cell ∈ row, IsSimple cell)
    (formatted : formatColumns (namedOptions headers name) (.bool keeps) styled (transpose rows) =
      .ok (shown, kinds)) :
    ∃ columns : List (List Text), shown = columns.map (fun texts => texts.map .str) ∧
      columns.length = (transpose rows).length ∧ (∀ texts ∈ columns, texts ≠ []) ∧
      List.Forall₂ (fun (part : List Value × CellKind) texts =>
        List.Forall₂ (fun cell text => formatCell (plainFormat part.2 styled) cell =
          .ok (.str text)) part.1 texts) ((transpose rows).zip kinds) columns := by
  obtain ⟨known, written⟩ := formatColumns_eq_ok_iff.mp formatted
  obtain ⟨columns, rfl, writes⟩ := exists_texts_of_written (fun part member =>
    isSimple_of_mem_transpose simple part.1 (List.of_mem_zip member).1) written
  refine ⟨columns, rfl, ?_, fun texts member => ?_, writes⟩
  · rw [← writes.length_eq, List.length_zip, ← known.length_eq, Nat.min_self]
  · obtain ⟨part, inside, here⟩ := exists_of_mem_right writes member
    have cells := (List.of_mem_zip inside).1
    have some : rows ≠ [] := by
      rintro rfl
      exact absurd cells List.not_mem_nil
    rw [← List.length_pos_iff, ← here.length_eq]
    exact List.length_pos_iff.mpr (ne_nil_of_mem_transpose some cells)

section Strips

variable {data : Value} {sheet : Sheet} {table : Layout}
  (given : Sheet.ofData (namedOptions headers name) data = .ok sheet)
  (simple : ∀ row ∈ sheet.rows, ∀ cell ∈ row, IsSimple cell)
  (laid : layOut (namedOptions headers name) data = .ok table)

include given simple laid

/-- A sheet of simple cells is laid out in strips, one for each column that has a header. Columns
behind the headers are written too, but nothing is left of them except their alignments. -/
theorem exists_strips_of_short (short : sheet.headers.length ≤ (transpose sheet.rows).length) :
    let pretty := decide (name = "pretty")
    let measure := sheet.measure (.named (.ofString name))
    ∃ (strips : List Strip) (alignments : List Alignment),
      List.Forall₂ (StripOf pretty measure.ignoresStyle)
        ((transpose sheet.rows).take strips.length) strips ∧
      strips.map Strip.least = sheet.leastWidths measure pretty (transpose sheet.rows).length ∧
      alignments.length = (transpose sheet.rows).length ∧
      strips.map Strip.alignment = alignments.take strips.length ∧
      ∃ standing, table = sheet.layout measure standing alignments
        (strips.map Strip.least) (strips.map (Strip.aligned measure))
        (List.replicate (rowsOf (strips.map (Strip.aligned measure))).length .none) := by
  intro pretty measure
  have style : (namedOptions headers name).style = .named (.ofString name) := rfl
  have checked : (namedOptions headers name).style.check = .ok () := rfl
  have keeps : (if pretty then .bool true else (namedOptions headers name).keepsTexts) =
      Value.bool pretty := by
    change (if pretty then Value.bool true else .bool false) = .bool pretty
    cases pretty <;> rfl
  have verticals (count : Nat) : (namedOptions headers name).verticals count =
      .ok (List.replicate count .none) := rfl
  rw [layOut, given, ok_bind, checked, ok_bind] at laid
  simp only [isNamed_namedOptions, alignments_namedOptions, verticals, ok_bind, style] at laid
  obtain ⟨⟨shown, kinds⟩, formatted, rest⟩ := bind_eq_ok.mp laid
  rw [keeps] at formatted
  obtain ⟨known, -⟩ := formatColumns_eq_ok_iff.mp formatted
  obtain ⟨columns, rfl, count, filled, writes⟩ := exists_texts_of_formatColumns simple formatted
  have kindCount := known.length_eq
  simp only [List.length_map, alignColumns_aligned filled, ok_bind, count] at rest
  obtain rfl := Except.ok.inj rest
  generalize leastEq : sheet.leastWidths measure pretty (transpose sheet.rows).length = least
  have fewer : least.length ≤ (transpose sheet.rows).length := by
    rw [← leastEq]
    by_cases bare : sheet.headers = []
    · simp [Sheet.leastWidths, bare]
    · simpa [Sheet.leastWidths, bare] using short
  have alignmentCount : (kinds.map (columnAlignment pretty)).length =
      (transpose sheet.rows).length := by rw [List.length_map, ← kindCount]
  have cut := @stripsOf_take columns (kinds.map (columnAlignment pretty)) least
    (alignmentCount ▸ fewer)
  have aligned : ((kinds.map (columnAlignment pretty)).take least.length).length =
      (columns.take least.length).length := by
    rw [List.length_take, List.length_take, alignmentCount, count]
  have headed : least.length = (columns.take least.length).length := by
    rw [List.length_take, count, Nat.min_eq_left fewer]
  have leasts := map_least_stripsOf aligned headed
  rw [← cut] at leasts
  have total := congrArg List.length leasts
  rw [List.length_map] at total
  refine ⟨stripsOf (kinds.map (columnAlignment pretty)) least columns,
    kinds.map (columnAlignment pretty), ?_, leasts, alignmentCount, ?_,
    .ofValue (namedOptions headers name).standingText, by rw [leasts]⟩
  · rw [total, List.forall₂_iff_get]
    refine ⟨by rw [total, List.length_take, Nat.min_eq_left fewer], fun index bound inside => ?_⟩
    rw [List.length_take, lt_min_iff] at bound
    have place : index < kinds.length := kindCount ▸ bound.2
    have column : index < columns.length := count ▸ bound.2
    have kind := known.get bound.2 place
    have texts := writes.get (by simp [bound.2, place]) column
    simp only [List.get_eq_getElem, List.getElem_zip] at kind texts
    refine ⟨kinds[index], by simpa using kind, ?_, ?_⟩
    · simp [stripsOf]
    · simpa [stripsOf] using texts
  · rw [total]
    conv_lhs => rw [cut]
    exact map_alignment_stripsOf aligned headed

/-- A sheet of simple cells is laid out in strips, one for each column. -/
theorem exists_strips_of_layOut
    (fits : sheet.headers ≠ [] → sheet.headers.length = (transpose sheet.rows).length) :
    let pretty := decide (name = "pretty")
    let measure := sheet.measure (.named (.ofString name))
    ∃ strips : List Strip,
      List.Forall₂ (StripOf pretty measure.ignoresStyle) (transpose sheet.rows) strips ∧
      strips.map Strip.least = sheet.leastWidths measure pretty strips.length ∧
      ∃ standing, table = sheet.layout measure standing (strips.map Strip.alignment)
        (strips.map Strip.least) (strips.map (Strip.aligned measure))
        (List.replicate (rowsOf (strips.map (Strip.aligned measure))).length .none) := by
  intro pretty measure
  have short : sheet.headers.length ≤ (transpose sheet.rows).length := by
    by_cases bare : sheet.headers = []
    · simp [bare]
    · exact (fits bare).le
  obtain ⟨strips, alignments, written, least, aligned, own, standing, rfl⟩ :=
    exists_strips_of_short given simple laid short
  have count : strips.length = (transpose sheet.rows).length := by
    rw [← List.length_map (f := Strip.least), least]
    by_cases bare : sheet.headers = []
    · simp [Sheet.leastWidths, bare]
    · simp [Sheet.leastWidths, bare, fits bare]
  rw [List.take_of_length_le count.ge] at written
  rw [List.take_of_length_le (aligned.trans count.symm).le] at own
  exact ⟨strips, written, count ▸ least, standing, by rw [own]⟩

end Strips

end Named

end TypeSurvey.Table
