import TypeSurvey.Proofs.Text.Lines
import TypeSurvey.Proofs.Text.Split
import TypeSurvey.Text.Identifier

/-!
# Type hints

Type hints are made of names, of alternatives with bars between them, and of subscripts in brackets
with commas between them. There may be gaps between the parts. The characters of names are no blanks
and none of the marks of a signature, and so a type hint has no colon, no parenthesis and no arrow
in it, and neither begins nor ends with a blank. Commas it may have.
-/

namespace TypeSurvey

/-! ## Characters of identifiers -/

namespace Text

theorem isBlank_of_isIdentifierContinue {letter : Char}
    (continues : isIdentifierContinue letter = true) : isBlank letter = false :=
  isBlank_of_class continues (by decide +kernel)

theorem isIdentifierContinue_of_isIdentifierStart {letter : Char}
    (starts : isIdentifierStart letter = true) : isIdentifierContinue letter = true := by
  unfold isIdentifierStart at starts
  unfold isIdentifierContinue
  split_ifs at starts ⊢ with ascii
  · simp only [Bool.or_eq_true] at starts ⊢
    exact starts.imp_left fun alpha => by simp [Char.isAlphanum, alpha]
  · rw [starts, Bool.true_or]

theorem isIdentifierContinue_of_mem {name : Text} (isName : isIdentifier name = true) :
    ∀ letter ∈ name, isIdentifierContinue letter = true := by
  cases name with
  | nil => cases isName
  | cons first rest =>
    rw [isIdentifier, Bool.and_eq_true, List.all_eq_true] at isName
    exact List.forall_mem_cons.mpr
      ⟨isIdentifierContinue_of_isIdentifierStart isName.1, isName.2⟩

theorem ne_nil_of_isIdentifier {name : Text} (isName : isIdentifier name = true) : name ≠ [] := by
  rintro rfl
  cases isName

theorem notMem_of_isIdentifier {name : Text} (isName : isIdentifier name = true) {mark : Char}
    (foreign : isIdentifierContinue mark = false) : mark ∉ name := by
  intro member
  rw [isIdentifierContinue_of_mem isName mark member] at foreign
  cases foreign

theorem isBlank_of_isIdentifier {name : Text} (isName : isIdentifier name = true) :
    ∀ letter ∈ name, isBlank letter = false := by
  intro letter member
  exact isBlank_of_isIdentifierContinue (isIdentifierContinue_of_mem isName letter member)

theorem strip_of_isIdentifier {name : Text} (isName : isIdentifier name = true) :
    strip name = name := by
  have solid := isBlank_of_isIdentifier isName
  apply strip_eq_self
  · exact fun letter first => solid letter (List.mem_of_mem_head? first)
  · exact fun letter last => solid letter (List.mem_of_getLast? last)

end Text

namespace Survey

/-! ## Type hints -/

/-- Whether a character may stand in a gap between the parts of a type hint. -/
def isGap (letter : Char) : Bool := letter == ' ' || letter == '\t' || letter == '\x0c'

/-- A part of a type hint with gaps around it. -/
structure Spaced where
  /-- The gap before the part. -/
  before : Text
  part : Text
  /-- The gap behind the part. -/
  after : Text
  gaps : ∀ letter ∈ before ++ after, isGap letter = true

/-- The text of a part and the gaps around it. -/
def Spaced.text (spaced : Spaced) : Text := spaced.before ++ spaced.part ++ spaced.after

/-- Whether a text is a type hint: a name, two type hints with a bar between them, or a type hint
with a subscript of type hints. -/
inductive IsTypeHint : Text → Prop
  | name {name : Text} (isName : Text.isIdentifier name = true) : IsTypeHint name
  | union {left right : Text} {bar : Spaced} (first : IsTypeHint left)
      (second : IsTypeHint right) (isBar : bar.part = "|".toList) :
      IsTypeHint (left ++ bar.text ++ right)
  | subscript {value : Text} {opening : Spaced} {first : Spaced} {rest : List Spaced}
      (subscripted : IsTypeHint value) (opens : opening.part = "[".toList)
      (each : ∀ item ∈ first :: rest, IsTypeHint item.part) :
      IsTypeHint (value ++ opening.text ++
        Text.join ",".toList ((first :: rest).map Spaced.text) ++ "]".toList)

/-- Whether a character may stand in a type hint. -/
def isTypeHintLetter (letter : Char) : Bool :=
  Text.isIdentifierContinue letter || isGap letter || "|[],".toList.contains letter

namespace Spaced

theorem isTypeHintLetter_text {spaced : Spaced}
    (inside : ∀ letter ∈ spaced.part, isTypeHintLetter letter = true) :
    ∀ letter ∈ spaced.text, isTypeHintLetter letter = true := by
  have gap {letter : Char} (member : letter ∈ spaced.before ++ spaced.after) :
      isTypeHintLetter letter = true := by
    simp [isTypeHintLetter, spaced.gaps letter member]
  intro letter member
  rcases List.mem_append.mp member with front | after
  · rcases List.mem_append.mp front with before | part
    · exact gap (List.mem_append_left _ before)
    · exact inside letter part
  · exact gap (List.mem_append_right _ after)

theorem isTypeHintLetter_of_mark {spaced : Spaced} {mark : Char} (isMark : spaced.part = [mark])
    (marks : isTypeHintLetter mark = true) :
    ∀ letter ∈ spaced.text, isTypeHintLetter letter = true := by
  apply isTypeHintLetter_text
  rw [isMark]
  exact List.forall_mem_singleton.mpr marks

end Spaced

namespace IsTypeHint

variable {text : Text}

theorem isTypeHintLetter_of_mem (hint : IsTypeHint text) :
    ∀ letter ∈ text, isTypeHintLetter letter = true := by
  induction hint with
  | name isName =>
    intro letter member
    rw [isTypeHintLetter, Text.isIdentifierContinue_of_mem isName letter member]
    rfl
  | union first second isBar left right =>
    have bar := Spaced.isTypeHintLetter_of_mark isBar (by decide)
    exact List.forall_mem_append.mpr ⟨List.forall_mem_append.mpr ⟨left, bar⟩, right⟩
  | subscript subscripted opens each value items =>
    have opening := Spaced.isTypeHintLetter_of_mark opens (by decide)
    refine List.forall_mem_append.mpr ⟨List.forall_mem_append.mpr
      ⟨List.forall_mem_append.mpr ⟨value, opening⟩, ?_⟩, List.forall_mem_singleton.mpr (by decide)⟩
    intro letter member
    rcases Text.mem_of_mem_join member with comma | ⟨piece, listed, inside⟩
    · rw [List.mem_singleton.mp comma]
      decide
    · obtain ⟨item, place, rfl⟩ := List.mem_map.mp listed
      exact Spaced.isTypeHintLetter_text (items item place) letter inside

theorem notMem_of_mark (hint : IsTypeHint text) {mark : Char}
    (isMark : mark ∈ "():->.".toList) : mark ∉ text := by
  have apart : "():->.".toList.all (fun mark => !isTypeHintLetter mark) = true := by decide
  intro member
  have foreign := List.all_eq_true.mp apart mark isMark
  rw [hint.isTypeHintLetter_of_mem mark member] at foreign
  cases foreign

theorem exists_head? (hint : IsTypeHint text) :
    ∃ letter ∈ text.head?, Text.isIdentifierContinue letter = true := by
  induction hint with
  | @name name isName =>
    obtain ⟨first, rest, rfl⟩ := List.exists_cons_of_ne_nil (Text.ne_nil_of_isIdentifier isName)
    exact ⟨first, rfl, Text.isIdentifierContinue_of_mem isName first List.mem_cons_self⟩
  | union _ _ _ left _ =>
    obtain ⟨letter, first, continues⟩ := left
    exact ⟨letter, by simp [List.head?_append, Option.mem_def.mp first], continues⟩
  | subscript _ _ _ value _ =>
    obtain ⟨letter, first, continues⟩ := value
    exact ⟨letter, by simp [List.head?_append, Option.mem_def.mp first], continues⟩

theorem isBlank_head?_append (hint : IsTypeHint text) (rest : Text) :
    ∀ letter ∈ (text ++ rest).head?, Text.isBlank letter = false := by
  obtain ⟨first, start, continues⟩ := hint.exists_head?
  rw [List.head?_append, Option.mem_def.mp start]
  intro letter same
  rw [← Option.some.inj same]
  exact Text.isBlank_of_isIdentifierContinue continues

theorem isBlank_getLast? (hint : IsTypeHint text) :
    ∀ letter ∈ text.getLast?, Text.isBlank letter = false := by
  induction hint with
  | name isName =>
    intro letter last
    have member := List.mem_of_getLast? last
    exact Text.isBlank_of_isIdentifierContinue
      (Text.isIdentifierContinue_of_mem isName letter member)
  | union _ second _ _ right =>
    obtain ⟨letter, first, -⟩ := second.exists_head?
    have nonempty := List.ne_nil_of_mem (List.mem_of_mem_head? first)
    rwa [List.getLast?_append_of_ne_nil _ nonempty]
  | subscript _ _ _ _ _ =>
    rw [List.getLast?_append_of_ne_nil _ (by decide)]
    intro letter last
    obtain rfl := Option.some.inj last
    rfl

end IsTypeHint

end Survey

end TypeSurvey
