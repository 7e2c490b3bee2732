import TypeSurvey.Proofs.Text.Ink
import TypeSurvey.Table.Style

/-!
# Rows in HTML

A reader of HTML takes a row apart at its tags, and reads the references in the texts between them.
An escaped text has none of the characters that begin a tag, and each of its ampersands begins a
reference. So the tags of a row are those of its columns, whatever its cells hold, and the text of
each element is read as the cell.
-/

namespace TypeSurvey.Table

/-! ## References -/

/-- What references to characters stand for. They are given without the ampersand before them. -/
structure References where
  meaning : Text → Text
  ampersand : meaning "amp;".toList = ['&']
  less : meaning "lt;".toList = ['<']
  greater : meaning "gt;".toList = ['>']
  quotation : meaning "quot;".toList = ['"']
  apostrophe : meaning "#x27;".toList = [Text.apostrophe]

/-- The length of the reference at the start of a text, without a semicolon: a decimal number, a
hexadecimal one, or a name of no more than 32 characters. It is zero if there is none. -/
def referenceLength (text : Text) : Nat :=
  let number (mark digits : Text) : Nat := if digits.isEmpty then 0 else (mark ++ digits).length
  match text with
  | '#' :: mark :: rest =>
    if mark == 'x' || mark == 'X' then
      number ['#', mark] (rest.takeWhile fun letter =>
        letter.isDigit || "abcdefABCDEF".toList.contains letter)
    else number ['#'] ((mark :: rest).takeWhile Char.isDigit)
  | _ => ((text.takeWhile fun letter => !"\t\n\x0c <&#;".toList.contains letter).take 32).length

namespace References

variable (references : References)

/-- What a text stands for that has an ampersand before it. -/
def read (text : Text) : Text :=
  let count := referenceLength text
  if count = 0 then '&' :: text
  else
    let count := if (text.drop count).head? = some ';' then count + 1 else count
    references.meaning (text.take count) ++ text.drop count

/-- A text with its references read. There is no ampersand in a reference. -/
def unescape (text : Text) : Text :=
  match Text.splitWhere (· == '&') text with
  | [] => []
  | first :: rest => first ++ rest.flatMap references.read

end References

/-! ## Pieces -/

section Pieces

variable {separates : Char → Bool} {text first : Text} {rest : List Text}

theorem exists_splitWhere (separates : Char → Bool) (text : Text) :
    ∃ first rest, Text.splitWhere separates text = first :: rest :=
  List.exists_cons_of_ne_nil
    (Text.splitWhere_eq_splitOnP separates text ▸ List.splitOnP_ne_nil separates text)

theorem splitWhere_append (shape : Text.splitWhere separates text = first :: rest) {front : Text}
    (free : ∀ letter ∈ front, separates letter = false) :
    Text.splitWhere separates (front ++ text) = (front ++ first) :: rest := by
  induction front with
  | nil => exact shape
  | cons letter front induction =>
    rw [List.forall_mem_cons] at free
    rw [List.cons_append, Text.splitWhere, induction free.2]
    exact if_neg (by simp [free.1])

theorem splitWhere_cons (shape : Text.splitWhere separates text = first :: rest) {letter : Char}
    (separator : separates letter = true) :
    Text.splitWhere separates (letter :: text) = [] :: first :: rest := by
  rw [Text.splitWhere, shape]
  exact if_pos separator

end Pieces

/-! ## Reading references -/

section Unescape

variable (references : References) {letter : Char}

theorem unescape_cons (other : letter ≠ '&') (text : Text) :
    references.unescape (letter :: text) = letter :: references.unescape text := by
  obtain ⟨first, rest, shape⟩ := exists_splitWhere (· == '&') text
  have longer : Text.splitWhere (· == '&') ([letter] ++ text) = ([letter] ++ first) :: rest :=
    splitWhere_append shape (Text.beq_eq_false_of_notMem (by simpa using other.symm))
  rw [References.unescape, References.unescape, ← List.singleton_append, longer, shape]
  rfl

theorem unescape_reference {body : Text} (free : '&' ∉ body)
    (known : references.meaning body = [letter])
    (reads : ∀ rest, references.read (body ++ rest) = references.meaning body ++ rest)
    (text : Text) :
    references.unescape ('&' :: body ++ text) = letter :: references.unescape text := by
  obtain ⟨first, rest, shape⟩ := exists_splitWhere (· == '&') text
  have parts := splitWhere_append shape (Text.beq_eq_false_of_notMem free)
  rw [References.unescape, References.unescape, List.cons_append, splitWhere_cons parts rfl, shape]
  simp only [List.flatMap_cons, reads, known, List.nil_append, List.cons_append]

theorem unescape_escapeHtml (text : Text) : references.unescape (escapeHtml text) = text := by
  have one (letter : Char) (rest : Text) :
      references.unescape (escapeHtmlChar letter ++ rest) = letter :: references.unescape rest := by
    unfold escapeHtmlChar
    split_ifs with ampersand less greater quotation apostrophe
    · obtain rfl := eq_of_beq ampersand
      exact unescape_reference references (by decide) references.ampersand (fun _ => rfl) rest
    · obtain rfl := eq_of_beq less
      exact unescape_reference references (by decide) references.less (fun _ => rfl) rest
    · obtain rfl := eq_of_beq greater
      exact unescape_reference references (by decide) references.greater (fun _ => rfl) rest
    · obtain rfl := eq_of_beq quotation
      exact unescape_reference references (by decide) references.quotation (fun _ => rfl) rest
    · obtain rfl := eq_of_beq apostrophe
      exact unescape_reference references (by decide) references.apostrophe (fun _ => rfl) rest
    · exact unescape_cons references (by simpa using ampersand) rest
  induction text with
  | nil => rfl
  | cons letter text induction =>
    rw [escapeHtml, List.flatMap_cons, one]
    exact congrArg (letter :: ·) induction

theorem less_notMem_escapeHtml (text : Text) : '<' ∉ escapeHtml text := by
  intro inside
  obtain ⟨letter, -, shown⟩ := List.mem_flatMap.mp inside
  unfold escapeHtmlChar at shown
  split_ifs at shown with _ less
  iterate 5 exact absurd shown (by decide)
  obtain rfl := List.mem_singleton.mp shown
  exact less rfl

end Unescape

/-! ## Tags -/

/-- The tags of a text, without their brackets, each with the text up to the next one. -/
def taggedTexts (text : Text) : List (Text × Text) :=
  (Text.splitWhere (· == '<') text).tail.map fun piece =>
    (piece.takeWhile (· != '>'), (piece.dropWhile (· != '>')).tail)

/-- Whether a tag begins an element of a name. -/
def opens (name : Text) (piece : Text × Text) : Bool := piece.1.takeWhile (· != ' ') == name

/-- The texts of the elements that have a name. -/
def elementTexts (name text : Text) : List Text :=
  ((taggedTexts text).filter (opens name)).map Prod.snd

/-- Tags with the texts after them. -/
def asMarkup (pieces : List (Text × Text)) : Text :=
  pieces.flatMap fun piece => '<' :: (piece.1 ++ '>' :: piece.2)

/-- Tags and texts can be told apart where no text has the mark that begins a tag. -/
theorem taggedTexts_asMarkup {pieces : List (Text × Text)}
    (clean : ∀ piece ∈ pieces, '<' ∉ piece.1 ∧ '>' ∉ piece.1 ∧ '<' ∉ piece.2) :
    taggedTexts (asMarkup pieces) = pieces := by
  have split : Text.splitWhere (· == '<') (asMarkup pieces) =
      [] :: pieces.map fun piece => piece.1 ++ '>' :: piece.2 := by
    induction pieces with
    | nil => rfl
    | cons piece pieces induction =>
      rw [List.forall_mem_cons] at clean
      have free : '<' ∉ piece.1 ++ '>' :: piece.2 := by simp [clean.1]
      have parts := splitWhere_append (induction clean.2) (Text.beq_eq_false_of_notMem free)
      rw [List.append_nil] at parts
      exact splitWhere_cons parts rfl
  rw [taggedTexts, split, List.tail_cons, List.map_map]
  refine (List.map_congr_left fun piece member => ?_).trans (List.map_id pieces)
  have front := (clean piece member).2.1
  have rest : (piece.1 ++ '>' :: piece.2).dropWhile (· != '>') = '>' :: piece.2 :=
    List.dropWhile_append_of_pos fun letter inside => by
      rw [bne_iff_ne]
      rintro rfl
      exact front inside
  exact Prod.ext (Text.takeWhile_bne_append front piece.2) (congrArg List.tail rest)

/-! ## Rows -/

/-- The tags before and after the cells of a row, with the texts after them. A header begins the
table. -/
def rowFrame (header : Bool) : List (Text × Text) × List (Text × Text) :=
  if header then
    ([("table".toList, ['\n']), ("thead".toList, ['\n']), ("tr".toList, [])],
      [("/tr".toList, ['\n']), ("/thead".toList, ['\n']), ("tbody".toList, [])])
  else ([("tr".toList, [])], [("/tr".toList, [])])

/-- The tags of a row over columns of these alignments. -/
def rowTags (header : Bool) (alignments : List Alignment) : List Text :=
  (rowFrame header).1.map Prod.fst ++ (alignments.flatMap fun alignment =>
    [openingTag header alignment, '/' :: cellTag header]) ++ (rowFrame header).2.map Prod.fst

/-- The cells of a row as tags with the texts after them. -/
def cellMarkup (header : Bool) (cells : List (Text × Alignment)) : List (Text × Text) :=
  cells.flatMap fun cell =>
    [(openingTag header cell.2, escapeHtml cell.1), ('/' :: cellTag header, [])]

/-- A row as tags with the texts after them. -/
def rowMarkup (header : Bool) (cells : List (Text × Alignment)) : List (Text × Text) :=
  (rowFrame header).1 ++ cellMarkup header cells ++ (rowFrame header).2

section Row

variable (header : Bool)

theorem openingTag_clean (alignment : Alignment) (text : Text) :
    '<' ∉ openingTag header alignment ∧ '>' ∉ openingTag header alignment ∧
      opens (cellTag header) (openingTag header alignment, text) = true := by
  have all : ∀ style ∈ [[], " style=\"text-align: right;\"".toList,
      " style=\"text-align: center;\"".toList], '<' ∉ cellTag header ++ style ∧
        '>' ∉ cellTag header ++ style ∧
        ((cellTag header ++ style).takeWhile (· != ' ') == cellTag header) = true := by
    cases header <;> decide
  refine all _ ?_
  cases alignment <;> simp [Alignment.markup]

theorem flatten_htmlCells (cells : List Text) (alignments : List Alignment) :
    (cells.zipWith (htmlCell header true) alignments).flatten =
      asMarkup (cellMarkup header (cells.zip alignments)) := by
  rw [← List.map_uncurry_zip_eq_zipWith, ← List.flatMap_def, asMarkup, cellMarkup,
    List.flatMap_assoc]
  refine List.flatMap_congr fun cell _ => ?_
  simp [Function.uncurry, htmlCell, openingTag]

/-- A row of cells ends with a tag, so that nothing is stripped from it. -/
theorem stripEnd_asMarkup (cells : List (Text × Alignment)) :
    Text.stripEnd (asMarkup (cellMarkup header cells)) = asMarkup (cellMarkup header cells) := by
  rcases List.eq_nil_or_concat cells with rfl | ⟨front, last, rfl⟩
  · rfl
  · have ending : ∃ before, asMarkup (cellMarkup header (front ++ [last])) = before ++ ['>'] :=
      ⟨asMarkup (cellMarkup header front) ++ ('<' :: (openingTag header last.2 ++
        '>' :: escapeHtml last.1) ++ '<' :: '/' :: cellTag header), by simp [asMarkup, cellMarkup]⟩
    obtain ⟨before, shape⟩ := ending
    rw [List.concat_eq_append, shape]
    exact Text.trimEnd_append_cons (by decide) before []

theorem htmlRow_eq (cells : List Text) (alignments : List Alignment) :
    htmlRow header true cells alignments = asMarkup (rowMarkup header (cells.zip alignments)) := by
  have shown : Text.stripEnd (cells.zipWith (htmlCell header true) alignments).flatten =
      asMarkup (cellMarkup header (cells.zip alignments)) := by
    rw [flatten_htmlCells, stripEnd_asMarkup]
  rw [rowMarkup, asMarkup, List.flatMap_append, List.flatMap_append, ← asMarkup, ← asMarkup,
    ← asMarkup, ← shown]
  cases header
  · rfl
  · simp [htmlRow, rowFrame, asMarkup]

theorem clean_rowMarkup (cells : List (Text × Alignment)) :
    ∀ piece ∈ rowMarkup header cells, '<' ∉ piece.1 ∧ '>' ∉ piece.1 ∧ '<' ∉ piece.2 := by
  have closing : '<' ∉ '/' :: cellTag header ∧ '>' ∉ '/' :: cellTag header := by
    cases header <;> decide
  have frame : ∀ piece ∈ (rowFrame header).1 ++ (rowFrame header).2,
      '<' ∉ piece.1 ∧ '>' ∉ piece.1 ∧ '<' ∉ piece.2 := by
    cases header <;> decide
  rw [List.forall_mem_append] at frame
  simp only [rowMarkup, List.forall_mem_append]
  refine ⟨⟨frame.1, fun piece member => ?_⟩, frame.2⟩
  obtain ⟨cell, -, here⟩ := List.mem_flatMap.mp member
  simp only [List.mem_cons, List.not_mem_nil, or_false] at here
  rcases here with rfl | rfl
  · obtain ⟨less, greater, -⟩ := openingTag_clean header cell.2 []
    exact ⟨less, greater, less_notMem_escapeHtml cell.1⟩
  · exact ⟨closing.1, closing.2, List.not_mem_nil⟩

theorem map_fst_cellMarkup (cells : List (Text × Alignment)) :
    (cellMarkup header cells).map Prod.fst = (cells.map Prod.snd).flatMap fun alignment =>
      [openingTag header alignment, '/' :: cellTag header] := by
  rw [cellMarkup, List.map_flatMap, List.flatMap_map]
  rfl

/-- The elements of a row are its cells. -/
theorem filter_rowMarkup (cells : List (Text × Alignment)) :
    ((rowMarkup header cells).filter (opens (cellTag header))).map Prod.snd =
      cells.map fun cell => escapeHtml cell.1 := by
  have frame : (rowFrame header).1.filter (opens (cellTag header)) = [] ∧
      (rowFrame header).2.filter (opens (cellTag header)) = [] ∧
      opens (cellTag header) ('/' :: cellTag header, []) = false := by
    cases header <;> decide
  rw [rowMarkup, List.filter_append, List.filter_append, frame.1, frame.2.1, List.nil_append,
    List.append_nil, cellMarkup]
  induction cells with
  | nil => rfl
  | cons cell cells induction =>
    rw [List.flatMap_cons, List.filter_append, List.map_append, induction]
    simp [(openingTag_clean header cell.2 (escapeHtml cell.1)).2.2, frame.2.2]

end Row

/-- The tags of a row are known from its columns, and its elements show its cells in their order. -/
theorem html_rows_decode (references : References) (header : Bool) {cells : List Text}
    {alignments : List Alignment} (same : cells.length = alignments.length) :
    (taggedTexts (htmlRow header true cells alignments)).map Prod.fst = rowTags header alignments ∧
      (elementTexts (cellTag header) (htmlRow header true cells alignments)).map
        references.unescape = cells := by
  have pieces : taggedTexts (htmlRow header true cells alignments) =
      rowMarkup header (cells.zip alignments) := by
    rw [htmlRow_eq]
    exact taggedTexts_asMarkup (clean_rowMarkup header _)
  rw [elementTexts, pieces, filter_rowMarkup]
  constructor
  · rw [rowMarkup, List.map_append, List.map_append, map_fst_cellMarkup,
      List.map_snd_zip same.ge, rowTags]
  · simp only [List.map_map, Function.comp_def, unescape_escapeHtml]
    exact List.map_fst_zip same.le

/-- The references that escaping uses. -/
def basicReferences : References where
  meaning body :=
    if body = "amp;".toList then ['&'] else if body = "lt;".toList then ['<']
    else if body = "gt;".toList then ['>'] else if body = "quot;".toList then ['"']
    else [Text.apostrophe]
  ampersand := rfl
  less := rfl
  greater := rfl
  quotation := rfl
  apostrophe := rfl

/-- Texts that look like a tag, a reference and an escaped reference. -/
def deceptiveCells : List Text := ["</td><b>".toList, "&lt;'".toList, "&amp;#x27;".toList]

theorem html_rows_decode_deceptiveCells :
    deceptiveCells.length = [Alignment.left, .decimal, .center].length ∧
      (elementTexts (cellTag true) (htmlRow true true deceptiveCells
        [.left, .decimal, .center])).map basicReferences.unescape = deceptiveCells :=
  ⟨rfl, (html_rows_decode basicReferences true rfl).2⟩

end TypeSurvey.Table
