import TypeSurvey.Proofs.Files.Folder
import TypeSurvey.Text.Blank
import Mathlib.Data.List.DropRight

/-!
# Lines that are not blank

A report is read line by line, and of each line only what stands between blanks counts. The lines
that are not blank are the pieces of the text between its line ends, whichever of the line ends it
uses: a carriage return and a line feed next to each other enclose a blank piece only.
-/

namespace TypeSurvey.Text

/-! ## Blanks -/

def blankCodes : List Nat :=
  [9, 10, 11, 12, 13, 28, 29, 30, 31, 32, 0x85, 0xa0, 0x1680, 0x2000, 0x2001, 0x2002, 0x2003,
   0x2004, 0x2005, 0x2006, 0x2007, 0x2008, 0x2009, 0x200a, 0x2028, 0x2029, 0x202f, 0x205f, 0x3000]

theorem toNat_mem_blankCodes {letter : Char} (blank : isBlank letter = true) :
    letter.toNat ∈ blankCodes := by
  simp only [isBlank, Bool.or_eq_true, Bool.and_eq_true, decide_eq_true_eq, beq_iff_eq] at blank
  simp only [blankCodes, List.mem_cons, List.not_mem_nil, or_false]
  omega

/-- A class of characters has no blanks in it if it has none of their codes. -/
theorem isBlank_of_class {inside : Char → Bool} {letter : Char} (member : inside letter = true)
    (none : ∀ code ∈ blankCodes, inside (Char.ofNat code) = false) : isBlank letter = false := by
  by_contra blank
  have outside := none _ (toNat_mem_blankCodes (Bool.not_eq_false _ ▸ blank))
  rw [Char.ofNat_toNat, member] at outside
  cases outside

/-! ## Blanks at either end -/

theorem trimEnd_eq_rdropWhile (drop : Char → Bool) (text : Text) :
    trimEnd drop text = text.rdropWhile drop := rfl

theorem trimEnd_subset (drop : Char → Bool) (text : Text) : trimEnd drop text ⊆ text :=
  (List.rdropWhile_prefix drop text).subset

theorem strip_subset (text : Text) : strip text ⊆ text := by
  intro letter member
  exact (List.dropWhile_suffix isBlank).subset (trimEnd_subset isBlank _ member)

theorem trim_eq_self {drop : Char → Bool} {text : Text}
    (first : ∀ letter ∈ text.head?, drop letter = false)
    (last : ∀ letter ∈ text.getLast?, drop letter = false) : trim drop text = text := by
  have front : text.dropWhile drop = text := by
    cases text with
    | nil => rfl
    | cons letter text => simp [first letter rfl]
  rw [trim, front, trimEnd_eq_rdropWhile, List.rdropWhile_eq_self_iff]
  intro nonempty
  simp [last _ (List.getLast?_eq_getLast_of_ne_nil nonempty)]

theorem strip_eq_self {text : Text} (first : ∀ letter ∈ text.head?, isBlank letter = false)
    (last : ∀ letter ∈ text.getLast?, isBlank letter = false) : strip text = text :=
  trim_eq_self first last

theorem trimEnd_append_of_forall {drop : Char → Bool} {dropped : Text}
    (each : ∀ letter ∈ dropped, drop letter = true) (text : Text) :
    trimEnd drop (text ++ dropped) = trimEnd drop text := by
  have reversed : ∀ letter ∈ dropped.reverse, drop letter = true := by
    intro letter member
    exact each letter (List.mem_reverse.mp member)
  rw [trimEnd, List.reverse_append, List.dropWhile_append_of_pos reversed]
  rfl

/-- What stands before the last character that stays is not touched. -/
theorem trimEnd_append_cons {drop : Char → Bool} {letter : Char} (stays : drop letter = false)
    (front back : Text) :
    trimEnd drop (front ++ letter :: back) = front ++ letter :: trimEnd drop back := by
  have reversed : (front ++ letter :: back).reverse = back.reverse ++ letter :: front.reverse := by
    simp
  rw [trimEnd, trimEnd, reversed, List.dropWhile_append]
  split_ifs with none
  · simp [List.isEmpty_iff.mp none, stays]
  · simp

theorem strip_append_left {lead : Text} (blank : ∀ letter ∈ lead, isBlank letter = true)
    (text : Text) : strip (lead ++ text) = strip text := by
  rw [strip, trim, List.dropWhile_append_of_pos blank]
  rfl

theorem strip_append_right {trail : Text} (blank : ∀ letter ∈ trail, isBlank letter = true)
    (text : Text) : strip (text ++ trail) = strip text := by
  rw [strip, strip, trim, trim, List.dropWhile_append]
  split_ifs with none
  · rw [List.isEmpty_iff.mp none, List.dropWhile_eq_nil_iff.mpr blank]
  · exact trimEnd_append_of_forall blank _

theorem strip_stripEnd (text : Text) : strip (stripEnd text) = strip text := by
  have shape : stripEnd text ++ text.rtakeWhile isBlank = text :=
    List.rdropWhile_append_rtakeWhile
  have blank : ∀ letter ∈ text.rtakeWhile isBlank, isBlank letter = true :=
    fun letter => List.mem_rtakeWhile_imp
  rw [← strip_append_right blank, shape]

theorem isBlank_head?_strip (text : Text) :
    ∀ letter ∈ (strip text).head?, isBlank letter = false := by
  intro letter first
  have start : strip text <+: text.dropWhile isBlank := List.rdropWhile_prefix isBlank _
  obtain ⟨rest, shape⟩ := start
  have head : (text.dropWhile isBlank).head? = some letter := by
    rw [← shape, List.head?_append, first]
    rfl
  simpa [head] using List.head?_dropWhile_not isBlank text

theorem isBlank_getLast?_strip (text : Text) :
    ∀ letter ∈ (strip text).getLast?, isBlank letter = false := by
  intro letter final
  obtain ⟨nonempty, rfl⟩ := List.mem_getLast?_eq_getLast final
  exact Bool.not_eq_true _ ▸ List.rdropWhile_last_not isBlank (text.dropWhile isBlank) nonempty

theorem strip_strip (text : Text) : strip (strip text) = strip text :=
  strip_eq_self (isBlank_head?_strip text) (isBlank_getLast?_strip text)

theorem mem_strip {text : Text} {letter : Char} (solid : isBlank letter = false)
    (member : letter ∈ text) : letter ∈ strip text := by
  have front : letter ∈ text.dropWhile isBlank := by
    rw [← List.takeWhile_append_dropWhile (p := isBlank) (l := text), List.mem_append] at member
    refine member.resolve_left fun dropped => ?_
    rw [List.mem_takeWhile_imp dropped] at solid
    nomatch solid
  rw [strip, trim, trimEnd_eq_rdropWhile]
  rw [← List.rdropWhile_append_rtakeWhile (p := isBlank) (l := text.dropWhile isBlank),
    List.mem_append] at front
  refine front.resolve_right fun dropped => ?_
  rw [List.mem_rtakeWhile_imp dropped] at solid
  nomatch solid

/-! ## Line ends -/

/-- Whether a character ends a line of a file. -/
def isLineEnd (letter : Char) : Bool := letter == '\n' || letter == '\r'

/-- The pieces of a text between separators, without the blanks around them, and without those that
are blank. -/
def solidPieces (separates : Char → Bool) (text : Text) : List Text :=
  ((text.splitOnP separates).map strip).filter (!·.isEmpty)

/-- The lines of a text that are not blank, without the blanks around them. -/
def solidLines (text : Text) : List Text := solidPieces isLineEnd text

section Pieces

variable {separates : Char → Bool}

theorem solidPieces_append_cons (front back : Text) {letter : Char}
    (separator : separates letter = true) :
    solidPieces separates (front ++ letter :: back) =
      solidPieces separates front ++ solidPieces separates back := by
  simp only [solidPieces]
  rw [List.splitOnP_append_cons front back separator, List.map_append, List.filter_append]

theorem solidPieces_of_forall {text : Text} (free : ∀ letter ∈ text, separates letter = false) :
    solidPieces separates text = [strip text].filter (!·.isEmpty) := by
  rw [solidPieces, List.splitOnP_eq_singleton free]
  rfl

theorem solidPieces_nil : solidPieces separates [] = [] := by
  rw [solidPieces_of_forall (by simp)]
  rfl

theorem solidPieces_cons (back : Text) {letter : Char} (separator : separates letter = true) :
    solidPieces separates (letter :: back) = solidPieces separates back := by
  simpa [solidPieces_nil] using solidPieces_append_cons [] back separator

theorem strip_of_mem_solidPieces {text piece : Text} (member : piece ∈ solidPieces separates text) :
    strip piece = piece := by
  obtain ⟨whole, -, rfl⟩ := List.mem_map.mp (List.mem_of_mem_filter member)
  exact strip_strip whole

/-- A piece between separators has characters of the text, and no separator. -/
theorem subset_filter_of_mem_splitOnP {text piece : Text}
    (member : piece ∈ text.splitOnP separates) :
    piece ⊆ text.filter fun letter => !separates letter := by
  induction text generalizing piece with
  | nil =>
    rw [List.splitOnP_nil, List.mem_singleton] at member
    simp [member]
  | cons letter text induction =>
    rw [List.splitOnP_cons_eq_if_modifyHead] at member
    split_ifs at member with separator
    · rw [List.filter_cons_of_neg (by simp [separator])]
      rcases List.mem_cons.mp member with rfl | later
      · exact List.nil_subset _
      · exact induction later
    · rw [List.filter_cons_of_pos (by simp [separator])]
      obtain ⟨first, others, shape⟩ :=
        List.exists_cons_of_ne_nil (List.splitOnP_ne_nil separates text)
      rw [shape] at induction
      rw [shape, List.modifyHead_cons] at member
      rcases List.mem_cons.mp member with rfl | later
      · exact List.cons_subset_cons _ (induction List.mem_cons_self)
      · exact List.subset_cons_of_subset _ (induction (List.mem_cons_of_mem _ later))

theorem subset_of_mem_splitOnP {text piece : Text} (member : piece ∈ text.splitOnP separates) :
    piece ⊆ text :=
  List.Subset.trans (subset_filter_of_mem_splitOnP member) (List.filter_subset_self text)

theorem exists_piece_of_mem {text : Text} {letter : Char} (kept : separates letter = false)
    (member : letter ∈ text) : ∃ piece ∈ text.splitOnP separates, letter ∈ piece := by
  induction text with
  | nil => nomatch member
  | cons first text induction =>
    obtain ⟨piece, others, shape⟩ :=
      List.exists_cons_of_ne_nil (List.splitOnP_ne_nil separates text)
    rw [shape] at induction
    rw [List.splitOnP_cons_eq_if_modifyHead, shape]
    rcases List.mem_cons.mp member with rfl | later
    · exact ⟨letter :: piece, by simp [kept], List.mem_cons_self⟩
    · obtain ⟨found, place, inside⟩ := induction later
      split_ifs
      · exact ⟨found, List.mem_cons_of_mem _ place, inside⟩
      · rcases List.mem_cons.mp place with rfl | rest
        · exact ⟨first :: found, List.mem_cons_self, List.mem_cons_of_mem _ inside⟩
        · exact ⟨found, List.mem_cons_of_mem _ rest, inside⟩

end Pieces

/-- A text that is not blank has a line that is not blank. -/
theorem solidLines_ne_nil {text : Text} {letter : Char} (solid : isBlank letter = false)
    (member : letter ∈ text) : solidLines text ≠ [] := by
  have inLine : isLineEnd letter = false := by
    simp only [isLineEnd, Bool.or_eq_false_iff, beq_eq_false_iff_ne]
    constructor <;> rintro rfl <;> simp [isBlank] at solid
  obtain ⟨piece, place, inside⟩ := exists_piece_of_mem inLine member
  have kept := mem_strip solid inside
  have found : strip piece ∈ solidLines text := by
    refine List.mem_filter.mpr ⟨List.mem_map_of_mem place, ?_⟩
    simpa using List.ne_nil_of_mem kept
  exact List.ne_nil_of_mem found

/-! ## Lines as they are read -/

theorem splitWhere_eq_splitOnP (separates : Char → Bool) (text : Text) :
    splitWhere separates text = text.splitOnP separates := by
  induction text with
  | nil => rfl
  | cons letter text induction =>
    obtain ⟨first, others, shape⟩ :=
      List.exists_cons_of_ne_nil (List.splitOnP_ne_nil separates text)
    rw [splitWhere, induction, List.splitOnP_cons_eq_if_modifyHead, shape]
    rfl

/-- The lines are the pieces between line feeds, but perhaps for an empty one at the end. -/
theorem lines_append (text : Text) :
    ∃ blank : List Text, (∀ line ∈ blank, line = []) ∧
      lines text ++ blank = text.splitOnP (· == '\n') := by
  simp only [lines, splitWhere_eq_splitOnP]
  split
  · next empty =>
      refine ⟨[[]], by simp, ?_⟩
      exact List.dropLast_append_getLast? [] empty
  · exact ⟨[], by simp, List.append_nil _⟩

theorem solid_lines (text : Text) :
    ((lines text).map strip).filter (!·.isEmpty) = solidPieces (· == '\n') text := by
  obtain ⟨blank, empty, pieces⟩ := lines_append text
  have dropped : (blank.map strip).filter (!·.isEmpty) = [] := by
    rw [List.filter_eq_nil_iff]
    intro line member
    obtain ⟨piece, inside, rfl⟩ := List.mem_map.mp member
    rw [empty piece inside]
    decide
  rw [solidPieces, ← pieces, List.map_append, List.filter_append, dropped, List.append_nil]

theorem subset_of_mem_lines {text line : Text} (member : line ∈ lines text) : line ⊆ text := by
  obtain ⟨blank, -, pieces⟩ := lines_append text
  have inside : line ∈ text.splitOnP (· == '\n') := by
    rw [← pieces]
    exact List.mem_append_left blank member
  exact subset_of_mem_splitOnP inside

theorem normalizeNewlines_cons {letter : Char} (notReturn : letter ≠ '\r') (text : Text) :
    normalizeNewlines (letter :: text) = letter :: normalizeNewlines text := by
  rw [normalizeNewlines]
  · exact fun _ same _ => notReturn same
  · exact notReturn

theorem return_notMem_normalizeNewlines (text : Text) : '\r' ∉ normalizeNewlines text := by
  induction text using normalizeNewlines.induct with
  | case1 => simp [normalizeNewlines]
  | case2 rest induction => simpa [normalizeNewlines] using induction
  | case3 rest _ induction => simpa [normalizeNewlines] using induction
  | case4 letter rest _ notReturn induction =>
    rw [normalizeNewlines_cons notReturn, List.mem_cons, not_or]
    exact ⟨fun same => notReturn same.symm, induction⟩

/-- It makes no difference for the lines that are not blank whether line ends are made one
character. The text in front is the line that has begun. -/
theorem solidPieces_append_normalizeNewlines {front : Text}
    (free : ∀ letter ∈ front, isLineEnd letter = false) (text : Text) :
    solidPieces (· == '\n') (front ++ normalizeNewlines text) = solidLines (front ++ text) := by
  have noFeed : ∀ {line : Text}, (∀ letter ∈ line, isLineEnd letter = false) →
      ∀ letter ∈ line, (letter == '\n') = false := by
    intro line free letter member
    exact (Bool.or_eq_false_iff.mp (free letter member)).1
  have same : ∀ {line : Text}, (∀ letter ∈ line, isLineEnd letter = false) →
      solidPieces (· == '\n') line = solidPieces isLineEnd line := by
    intro line free
    rw [solidPieces_of_forall (noFeed free), solidPieces_of_forall free]
  unfold solidLines
  induction text using normalizeNewlines.induct generalizing front with
  | case1 => simpa [normalizeNewlines] using same free
  | case2 rest induction =>
    have later := @induction [] (by simp)
    rw [normalizeNewlines, solidPieces_append_cons _ _ rfl, solidPieces_append_cons _ _ rfl,
      solidPieces_cons _ rfl, same free]
    exact congrArg _ later
  | case3 rest alone induction =>
    have later := @induction [] (by simp)
    rw [normalizeNewlines, solidPieces_append_cons _ _ rfl, solidPieces_append_cons _ _ rfl,
      same free]
    · exact congrArg _ later
    · exact alone
  | case4 letter rest _ notReturn induction =>
    rw [normalizeNewlines_cons notReturn]
    by_cases feed : letter = '\n'
    · have later := @induction [] (by simp)
      subst feed
      rw [solidPieces_append_cons _ _ rfl, solidPieces_append_cons _ _ rfl, same free]
      exact congrArg _ later
    · have inLine : isLineEnd letter = false := by
        simp only [isLineEnd, Bool.or_eq_false_iff, beq_eq_false_iff_ne]
        exact ⟨feed, notReturn⟩
      have longer : ∀ other ∈ front ++ [letter], isLineEnd other = false := by
        intro other member
        rcases List.mem_append.mp member with inside | last
        · exact free other inside
        · rw [List.mem_singleton.mp last]
          exact inLine
      simpa using induction longer

/-- The lines of a file that are not blank. -/
theorem solid_lines_normalizeNewlines (text : Text) :
    ((lines (normalizeNewlines text)).map strip).filter (!·.isEmpty) = solidLines text := by
  rw [solid_lines]
  exact @solidPieces_append_normalizeNewlines [] (by simp) text

example : solidLines " a\r\n\r\t\n b \rc".toList = [['a'], ['b'], ['c']] := by decide

end TypeSurvey.Text
