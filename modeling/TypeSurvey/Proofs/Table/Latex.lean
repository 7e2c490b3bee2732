import TypeSurvey.Proofs.Text.Lines
import TypeSurvey.Proofs.Text.Split
import TypeSurvey.Table.Style

/-!
# Rows in LaTeX

LaTeX reads a backslash together with the character after it. An ampersand that is read alone ends a
column, and two backslashes end the row. An escaped cell has neither, so the columns of a row are
its cells. No escape begins another one, so each cell is known from its column.
-/

namespace TypeSurvey.Table

/-- The characters that have an escape. -/
def latexSpecials : Text := "&%$#_\x7b\x7d^~\\<>".toList

/-- A text as it is read: a backslash takes the character after it. -/
def latexMarks : Text → List Text
  | '\\' :: letter :: rest => ['\\', letter] :: latexMarks rest
  | letter :: rest => [letter] :: latexMarks rest
  | [] => []

/-- The mark that ends a row. -/
def latexEnd : Text := "\\\\".toList

/-! ## Escapes -/

section Escapes

variable {letter other : Char}

theorem escapeLatexChar_of_notMem (plain : letter ∉ latexSpecials) :
    escapeLatexChar letter = [letter] := by
  unfold escapeLatexChar
  split_ifs with listed same same same same same
  · have few : "&%$#_\x7b\x7d".toList ⊆ latexSpecials := by decide
    exact absurd (few (List.contains_iff_mem.mp listed)) plain
  iterate 5 exact absurd (eq_of_beq same ▸ by decide) plain
  rfl

theorem head?_escapeLatexChar (letter : Char) : (escapeLatexChar letter).head? =
    some (if letter ∈ latexSpecials then '\\' else letter) := by
  have all : (latexSpecials.all fun letter => (escapeLatexChar letter).head? == '\\') = true := by
    decide
  split_ifs with special
  · exact eq_of_beq (List.all_eq_true.mp all letter special)
  · rw [escapeLatexChar_of_notMem special, List.head?_singleton]

/-- No escape begins another one. -/
theorem eq_of_escape_begins (begins : escapeLatexChar letter <+: escapeLatexChar other) :
    letter = other := by
  have all : (latexSpecials.all fun letter => latexSpecials.all fun other =>
      !(escapeLatexChar letter).isPrefixOf (escapeLatexChar other) || letter == other) = true := by
    decide
  have backslash : '\\' ∈ latexSpecials := by decide
  obtain ⟨rest, same⟩ := id begins
  have first := congrArg List.head? same
  rw [List.head?_append, head?_escapeLatexChar, head?_escapeLatexChar, Option.some_or,
    Option.some.injEq] at first
  split_ifs at first with special special' special'
  · have pair := List.all_eq_true.mp (List.all_eq_true.mp all letter special) other special'
    simpa [List.isPrefixOf_iff_prefix.mpr begins] using pair
  · exact absurd (first ▸ backslash) special'
  · exact absurd (first ▸ backslash) special
  · exact first

theorem escapeLatex_injective : Function.Injective escapeLatex := by
  intro text others same
  have filled (letter : Char) (text : Text) : escapeLatex (letter :: text) ≠ [] := by
    intro none
    have first := head?_escapeLatexChar letter
    rw [(List.append_eq_nil_iff.mp none).1] at first
    cases first
  induction text generalizing others with
  | nil =>
    cases others with
    | nil => rfl
    | cons other others => exact absurd same.symm (filled other others)
  | cons letter text induction =>
    cases others with
    | nil => exact absurd same (filled letter text)
    | cons other others =>
      simp only [escapeLatex, List.flatMap_cons] at same
      have first : letter = other :=
        (List.prefix_or_prefix_of_prefix ⟨_, rfl⟩ ⟨_, same.symm⟩).elim eq_of_escape_begins
          fun begins => (eq_of_escape_begins begins).symm
      rw [first] at same
      rw [first, induction (List.append_cancel_left same)]

end Escapes

/-! ## Marks -/

theorem flatten_latexMarks (text : Text) : (latexMarks text).flatten = text := by
  fun_induction latexMarks text <;> simp_all

theorem latexMarks_append {front : Text} (whole : ['\\'] ∉ latexMarks front) (back : Text) :
    latexMarks (front ++ back) = latexMarks front ++ latexMarks back := by
  fun_induction latexMarks front with
  | case1 letter rest induction =>
    rw [List.mem_cons, not_or] at whole
    rw [List.cons_append, List.cons_append, latexMarks, induction whole.2, List.cons_append]
  | case2 letter rest _ induction =>
    rw [List.mem_cons, not_or, List.singleton_inj] at whole
    rw [List.cons_append, latexMarks, induction whole.2, List.cons_append]
    exact fun _ _ same _ => whole.1 same.symm
  | case3 => rfl

theorem notMem_latexMarks_escapeLatexChar {mark : Text}
    (ends : mark ∈ [['\\'], ['&'], latexEnd]) (letter : Char) :
    mark ∉ latexMarks (escapeLatexChar letter) := by
  have all : (latexSpecials.all fun letter => [['\\'], ['&'], latexEnd].all fun mark =>
      !(latexMarks (escapeLatexChar letter)).contains mark) = true := by decide
  by_cases special : letter ∈ latexSpecials
  · have known := List.all_eq_true.mp (List.all_eq_true.mp all letter special) mark ends
    simpa using known
  · have read : latexMarks [letter] = [[letter]] := by simp [latexMarks]
    rw [escapeLatexChar_of_notMem special, read, List.mem_singleton]
    rintro rfl
    have among : letter = '\\' ∨ letter = '&' := by simpa [latexEnd] using ends
    rcases among with rfl | rfl <;> exact special (by decide)

/-- An escaped text is read to its end, and has none of the marks that end columns and rows. -/
theorem notMem_latexMarks_escapeLatex {mark : Text} (ends : mark ∈ [['\\'], ['&'], latexEnd])
    (text : Text) : mark ∉ latexMarks (escapeLatex text) := by
  induction text with
  | nil => exact List.not_mem_nil
  | cons letter text induction =>
    have whole := notMem_latexMarks_escapeLatexChar List.mem_cons_self letter
    rw [escapeLatex, List.flatMap_cons, latexMarks_append whole, List.mem_append, not_or]
    exact ⟨notMem_latexMarks_escapeLatexChar ends letter, induction⟩

/-! ## Rows -/

/-- Whether a text is read as columns with ampersands between them, and a row ends after them and
nowhere else. -/
def ReadsAs (columns : List Text) (text : Text) : Prop :=
  ∃ row, latexMarks text = row ++ [latexEnd] ∧ latexEnd ∉ row ∧
    (row.splitOn ['&']).map List.flatten = columns

theorem latexRow_eq (cells : List Text) :
    latexRow true cells = Text.join ['&'] (cells.map escapeLatex) ++ latexEnd :=
  Text.trimEnd_append_cons (by decide) _ ['\\']

theorem readsAs_latexRow {cells : List Text} (some : cells ≠ []) :
    ReadsAs (cells.map escapeLatex) (latexRow true cells) := by
  have free {mark} := @notMem_latexMarks_escapeLatex mark
  rw [latexRow_eq]
  induction cells with
  | nil => exact absurd rfl some
  | cons cell cells induction =>
    have whole := latexMarks_append (free (by decide) cell)
    have alone : ['&'] ∉ latexMarks (escapeLatex cell) := free (by decide) cell
    cases cells with
    | nil =>
      refine ⟨latexMarks (escapeLatex cell), whole latexEnd, free (by decide) cell, ?_⟩
      rw [List.splitOn_eq_singleton alone, List.map_singleton, flatten_latexMarks]
      rfl
    | cons second cells =>
      obtain ⟨row, read, once, shown⟩ := induction (List.cons_ne_nil _ _)
      refine ⟨latexMarks (escapeLatex cell) ++ ['&'] :: row, ?_, ?_, ?_⟩
      · rw [List.map_cons, List.map_cons, Text.join_cons_cons, List.append_assoc,
          List.append_assoc, whole, List.append_assoc]
        exact congrArg (fun later => latexMarks (escapeLatex cell) ++ ['&'] :: later) read
      · simp only [List.mem_append, List.mem_cons, not_or]
        exact ⟨free (by decide) cell, by decide, once⟩
      · rw [List.splitOn_append_cons_self_of_not_mem alone, List.map_cons, shown,
          flatten_latexMarks]
        rfl

/-- A row is read as its escaped cells, and rows of different cells are different. -/
theorem latex_rows_decode {cells others : List Text} (some : cells ≠ []) (some' : others ≠ []) :
    ReadsAs (cells.map escapeLatex) (latexRow true cells) ∧
      (latexRow true cells = latexRow true others → cells = others) := by
  refine ⟨readsAs_latexRow some, fun same => ?_⟩
  obtain ⟨row, read, -, shown⟩ := readsAs_latexRow some
  obtain ⟨row', read', -, shown'⟩ := readsAs_latexRow some'
  rw [same, read', List.append_left_inj] at read
  rw [read, shown] at shown'
  exact List.map_injective_iff.mpr escapeLatex_injective shown'

/-- Cells that look like the end of a column, the end of a row and an escape. -/
def markedCells : List Text := [['&'], latexEnd, "\\textbackslash\x7b\x7d".toList]

theorem latex_rows_decode_markedCells :
    markedCells ≠ [] ∧ [['&', '\\'], ['\\']] ≠ ([] : List Text) ∧
      ReadsAs (markedCells.map escapeLatex) (latexRow true markedCells) ∧
      latexRow true markedCells ≠ latexRow true [['&', '\\'], ['\\']] := by
  have some : markedCells ≠ [] := List.cons_ne_nil _ _
  have some' : [['&', '\\'], ['\\']] ≠ ([] : List Text) := List.cons_ne_nil _ _
  obtain ⟨columns, decoded⟩ := latex_rows_decode some some'
  exact ⟨some, some', columns, fun same => absurd (decoded same) (by decide)⟩

end TypeSurvey.Table
