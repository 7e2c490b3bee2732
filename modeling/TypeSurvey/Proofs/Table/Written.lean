import TypeSurvey.Proofs.Calendar.Written
import TypeSurvey.Proofs.Table.Columns
import TypeSurvey.Proofs.Text.Ink

/-!
# How cells are written

A cell that is no value, a truth value, an integer or a text is written as its text, as nothing, or
as a real number, with the escape sequences of its text around the number. A real number is written
without blanks. So a text that is not blank is not written as a blank one, and no line boundaries
come in. A column with a blank text is a column of texts.
-/

namespace TypeSurvey

/-! ## Blank texts -/

namespace Text

theorem isBlank_of_isDigit {letter : Char} (digit : letter.isDigit = true) :
    isBlank letter = false := by
  simp only [Char.isDigit, Bool.and_eq_true, decide_eq_true_eq] at digit
  exact isBlank_of_isDecimalDigit (isDecimalDigit_of_range digit.1 digit.2)

theorem visible_of_isBlank {text : Text} (blank : IsBlank text) : visible text = text := by
  refine visible_of_not_isStyled (isStyled_of_notMem fun member => ?_)
  exact absurd (blank _ member) (by decide)

end Text

namespace Numeral

open Text (IsBlank isBlank)

/-- In a blank text numerals see characters below the digits and the letters. -/
theorem blank_of_mem_plain {text : Text} (blank : IsBlank text) {letter : Char}
    (member : letter ∈ plain text) : isBlank letter = true ∧ letter.toNat ≤ 32 := by
  have inside : letter ∈ text.map plainChar :=
    (List.dropWhile_suffix _).subset (Text.trimEnd_subset _ _ member)
  obtain ⟨source, place, rfl⟩ := List.mem_map.mp inside
  have here := blank source place
  unfold plainChar
  split_ifs with ascii
  · refine ⟨here, ?_⟩
    simp only [isBlank, Bool.or_eq_true, Bool.and_eq_true, decide_eq_true_eq, beq_iff_eq] at here
    omega
  · decide

theorem toBinary64?_of_isBlank {text : Text} (blank : IsBlank text) : toBinary64? text = none := by
  have low := fun letter member => @blank_of_mem_plain text blank letter member
  have absent (letter : Char) (solid : isBlank letter = false) : letter ∉ plain text := by
    intro member
    rw [(low letter member).1] at solid
    nomatch solid
  have dropped : dropUnderscores? false (plain text) = some (plain text) :=
    dropUnderscores?_of_notMem (absent '_' (by decide))
  have unsigned : takeSign (plain text) = (false, plain text) := by
    rcases takeSign_cases (plain text) with ⟨sign, body, first, shape, -⟩ | unsigned
    · have member : sign ∈ plain text := shape ▸ List.mem_cons_self
      rcases first with rfl | rfl
      · exact absurd member (absent _ (by decide))
      · exact absurd member (absent _ (by decide))
    · exact unsigned
  have unnamed (letter : Char) (high : 65 ≤ letter.toNat) (word : Text) :
      Text.asciiLower (plain text) ≠ letter :: word := by
    intro same
    obtain ⟨first, others, shape, head, -⟩ := List.map_eq_cons_iff.mp same
    have small := (low first (shape ▸ List.mem_cons_self)).2
    rw [toLower_of_lt (by omega)] at head
    rw [head] at small
    omega
  have noDigits : ∀ letter ∈ plain text, ¬ letter.isDigit = true := by
    intro letter member digit
    have solid := Text.isBlank_of_isDigit digit
    rw [(low letter member).1] at solid
    nomatch solid
  have unread : readDecimal? (plain text) = none := by
    have whole : (plain text).takeWhile Char.isDigit = [] := by
      cases shape : plain text with
      | nil => rfl
      | cons letter rest => simp [noDigits letter (shape ▸ List.mem_cons_self)]
    have rest : (plain text).dropWhile Char.isDigit = plain text := by
      have parts := List.takeWhile_append_dropWhile (p := Char.isDigit) (l := plain text)
      rwa [whole] at parts
    unfold readDecimal?
    simp only [whole, rest]
    split
    · next after shape => exact absurd (shape ▸ List.mem_cons_self) (absent '.' (by decide))
    · rfl
  have notInf := unnamed 'i' (by decide) "nf".toList
  have notInfinity := unnamed 'i' (by decide) "nfinity".toList
  have notNan := unnamed 'n' (by decide) "an".toList
  rw [toBinary64?, dropped]
  simp only [Option.bind_eq_bind, Option.bind_some, unsigned, readMagnitude?, unread]
  rw [if_neg, if_neg]
  · rfl
  · exact notNan
  · rw [Bool.or_eq_true, decide_eq_true_eq, decide_eq_true_eq, not_or]
    exact ⟨notInf, notInfinity⟩

theorem toInt?_of_isBlank {text : Text} (blank : IsBlank text) : toInt? text = none := by
  rw [← Option.not_isSome_iff_eq_none]
  intro whole
  have real := isSome_toBinary64?_of_toInt? whole
  rw [toBinary64?_of_isBlank blank] at real
  nomatch real

end Numeral

namespace Table

open Text (IsBlank isBlank IsOneLine)

/-! ## Real numbers -/

/-- Whether a text has characters, none of which is blank. -/
def IsSolid (text : Text) : Prop := text ≠ [] ∧ ∀ letter ∈ text, isBlank letter = false

instance (text : Text) : Decidable (IsSolid text) :=
  have : Decidable (∀ letter ∈ text, isBlank letter = false) :=
    List.decidableBAll (fun letter => isBlank letter = false) text
  inferInstanceAs (Decidable (_ ∧ _))

theorem isSolid_append {front back : Text} (first : IsSolid front)
    (second : ∀ letter ∈ back, isBlank letter = false) : IsSolid (front ++ back) := by
  refine ⟨by simp [first.1], fun letter member => ?_⟩
  rcases List.mem_append.mp member with inside | inside
  · exact first.2 letter inside
  · exact second letter inside

theorem isSolid_toDigits (number : Nat) : IsSolid (Nat.toDigits 10 number) :=
  ⟨Nat.toDigits_ne_nil, fun _ member => Text.isBlank_of_isDigit (Text.isDigit_of_mem_ofNat member)⟩

theorem isSolid_padLeft (width number : Nat) :
    IsSolid (Text.padLeft width '0' (Nat.toDigits 10 number)) := by
  refine ⟨?_, fun letter member => Text.isBlank_of_isDigit (Numeral.isDigit_of_mem_padLeft member)⟩
  simp [Text.padLeft, Nat.toDigits_ne_nil]

theorem isSolid_fixed (number : Decimal) :
    IsSolid number.fixed.1 ∧ ∀ letter ∈ number.fixed.2, isBlank letter = false := by
  obtain ⟨digits, exponent⟩ := number
  cases exponent with
  | ofNat power => exact ⟨isSolid_toDigits _, nofun⟩
  | negSucc power =>
    have padded := isSolid_padLeft (power + 1 + 1) digits
    rw [← Decimal.positional_append] at padded
    refine ⟨⟨?_, ?_⟩, fun letter member => padded.2 letter (List.mem_append_right _ member)⟩
    · rw [← List.length_pos_iff]
      change 0 < (Decimal.positional _ _).1.length
      rw [Decimal.length_whole_positional]
      omega
    · exact fun letter member => padded.2 letter (List.mem_append_left _ member)

theorem isSolid_scientific (number : Decimal) :
    IsSolid (number.scientific 'e').1 ∧
      (∀ letter ∈ (number.scientific 'e').2.1, isBlank letter = false) ∧
      ∀ letter ∈ (number.scientific 'e').2.2, isBlank letter = false := by
  have digits := isSolid_toDigits number.digits
  refine ⟨⟨?_, fun letter member => ?_⟩, fun letter member => ?_, fun letter member => ?_⟩
  · simp [Decimal.scientific, digits.1]
  · exact digits.2 letter (List.mem_of_mem_take member)
  · exact digits.2 letter (List.mem_of_mem_drop member)
  · simp only [Decimal.scientific, exponentText, List.mem_cons] at member
    rcases member with rfl | rfl | inside
    · decide
    · split_ifs <;> decide
    · exact (isSolid_padLeft 2 _).2 letter inside

theorem assemble_general (negative : Bool) (digits rest : Text) :
    FormatSpec.assemble ⟨' ', .right, none, false, false, none, none, none, some 'g'⟩ negative []
      digits rest 3 = (if negative then ['-'] else []) ++ digits ++ rest := by
  have grouped : FormatSpec.group none 3 0 digits = digits := by
    simp [FormatSpec.group, Text.padLeft]
  have kept : (if digits.isEmpty then [] else digits) = digits := by
    cases digits <;> rfl
  simp only [FormatSpec.assemble, Option.getD_none, Nat.zero_sub, List.replicate_zero,
    List.nil_append, List.append_nil, ite_self, grouped, kept]

/-- The digits after a point without zeros at their end, with the point if there are any. -/
def pointed (part : Text) : Text :=
  if (FormatSpec.dropZeros part).isEmpty then [] else '.' :: FormatSpec.dropZeros part

theorem layOut_general (count significand : Nat) (exponent : Int) :
    ∃ number : Decimal,
      FormatSpec.layOut (.general count false) false significand exponent ∈
        [((number.scientific 'e').1,
            pointed (number.scientific 'e').2.1 ++ (number.scientific 'e').2.2),
          (['0'], pointed (List.replicate (max count 1 - 1) '0')),
          (number.fixed.1, pointed number.fixed.2)] := by
  refine ⟨Decimal.toDigits (max count 1) significand exponent, ?_⟩
  simp only [FormatSpec.layOut, Bool.false_eq_true, if_false, Bool.not_false, Bool.and_true,
    Bool.false_and]
  generalize Decimal.toDigits (max count 1) significand exponent = number
  by_cases zero : number.digits = 0
  · simp only [zero, ne_eq, not_true, decide_false, Bool.false_and, Bool.false_eq_true, if_false,
      if_true]
    exact List.mem_cons_of_mem _ List.mem_cons_self
  · by_cases far : (decide (number.digits ≠ 0) && (decide (number.leading < -4) ||
        decide (number.leading ≥ (max count 1 : Nat)))) = true
    · simp only [zero, if_false, far, if_true]
      exact List.mem_cons_self
    · simp only [zero, if_false, far, Bool.false_eq_true]
      exact List.mem_cons_of_mem _ (List.mem_cons_of_mem _ List.mem_cons_self)

theorem isSolid_layOut (count significand : Nat) (exponent : Int) :
    IsSolid (FormatSpec.layOut (.general count false) false significand exponent).1 ∧
      ∀ letter ∈ (FormatSpec.layOut (.general count false) false significand exponent).2,
        isBlank letter = false := by
  have point {part : Text} (solid : ∀ letter ∈ part, isBlank letter = false) :
      ∀ letter ∈ pointed part, isBlank letter = false := by
    intro letter member
    unfold pointed at member
    split_ifs at member
    · nomatch member
    · rcases List.mem_cons.mp member with rfl | inside
      · decide
      · exact solid letter (Text.trimEnd_subset _ _ inside)
  obtain ⟨number, shape⟩ := layOut_general count significand exponent
  obtain ⟨whole, part, power⟩ := isSolid_scientific number
  simp only [List.mem_cons, List.not_mem_nil, or_false] at shape
  rcases shape with far | zero | near
  · rw [far]
    refine ⟨whole, fun letter member => ?_⟩
    rcases List.mem_append.mp member with inside | inside
    · exact point part letter inside
    · exact power letter inside
  · have single : IsSolid ['0'] := by decide
    rw [zero]
    refine ⟨single, point fun letter member => ?_⟩
    rw [List.eq_of_mem_replicate member]
    decide
  · rw [near]
    exact ⟨(isSolid_fixed number).1, point (isSolid_fixed number).2⟩

theorem isSolid_generalText (number : Binary64) : IsSolid (generalText number) := by
  have signed {negative : Bool} {text : Text} (solid : IsSolid text) :
      IsSolid ((if negative then ['-'] else []) ++ text) := by
    cases negative with
    | false => exact solid
    | true =>
      have minus : IsSolid ['-'] := by decide
      exact isSolid_append minus solid.2
  cases number with
  | nan => decide
  | infinite negative => cases negative <;> decide
  | finite negative significand exponent =>
    have parts := isSolid_layOut 6 significand exponent
    have shape : generalText (.finite negative significand exponent) =
        FormatSpec.assemble ⟨' ', .right, none, false, false, none, none, none, some 'g'⟩
          (negative && !false) []
          (FormatSpec.layOut (.general 6 false) false significand exponent).1
          ((FormatSpec.layOut (.general 6 false) false significand exponent).2 ++ []) 3 := rfl
    rw [shape, assemble_general, List.append_assoc, List.append_nil]
    exact signed (isSolid_append parts.1 parts.2)

/-! ## Cells -/

/-- Whether a cell is no value, a truth value, an integer or a text. -/
def IsSimple : Value → Prop
  | .none | .bool _ | .int _ | .str _ => True
  | _ => False

/-- The texts that a simple cell may be written as in a column of a kind. -/
inductive Writes (kind : CellKind) (styled : Bool) : Value → Text → Prop
  | missing : Writes kind styled .none []
  /-- Outside columns of real numbers a cell is written as its text. -/
  | same {cell : Value} (other : kind ≠ .real) : Writes kind styled cell cell.toText
  | number {cell : Value} (real : Binary64) : Writes kind styled cell (generalText real)
  /-- A real number in the place of the visible part of a text. -/
  | around {text : Text} (real : Binary64) (shown : styled = true) :
      Writes kind styled (.str text) (Text.replace (Text.visible text) (generalText real) text)

section Cell

variable {kind : CellKind} {styled : Bool} {cell shown : Value}

theorem exists_writes_real (simple : IsSimple cell)
    (done : formatCell (plainFormat .real styled) cell = .ok shown) :
    ∃ text, shown = .str text ∧ Writes .real styled cell text := by
  have written {reading : Except Fault Binary64} {around : Text → Text}
      (done : writeReal reading around = .ok shown) :
      ∃ number, shown = .str (around (generalText number)) := by
    obtain ⟨number, -, rest⟩ := bind_eq_ok.mp done
    rw [format_real, ok_bind] at rest
    exact ⟨number, (Except.ok.inj rest).symm⟩
  have plain (done : writeReal cell.toFloat id = .ok shown) :
      ∃ text, shown = .str text ∧ Writes .real styled cell text := by
    obtain ⟨number, rfl⟩ := written done
    exact ⟨_, rfl, .number number⟩
  cases cell with
  | none =>
    obtain rfl : Value.ofString "" = shown := Except.ok.inj done
    exact ⟨[], rfl, .missing⟩
  | bool truth => cases styled <;> exact plain done
  | int number => cases styled <;> exact plain done
  | str text =>
    cases styled with
    | false => exact plain done
    | true =>
      have shape : formatCell (plainFormat .real true) (.str text) =
          writeReal (Value.str (Text.visible text)).toFloat
            fun shown => Text.replace (Text.visible text) shown text := rfl
      rw [shape] at done
      obtain ⟨number, rfl⟩ := written done
      exact ⟨_, rfl, .around number rfl⟩
  | _ => exact simple.elim

/-- Outside columns of real numbers a cell that is a value is written as its text. -/
theorem formatCell_toText (simple : IsSimple cell) (present : cell ≠ .none)
    (other : kind ≠ .real) :
    formatCell (plainFormat kind styled) cell = .ok (.str cell.toText) := by
  cases cell with
  | none => exact absurd rfl present
  | bool _ | int _ | str _ =>
    cases kind with
    | real => exact absurd rfl other
    | _ => rfl
  | _ => exact simple.elim

/-- A simple cell is written as one of its texts. -/
theorem exists_writes_of_formatCell (simple : IsSimple cell)
    (done : formatCell (plainFormat kind styled) cell = .ok shown) :
    ∃ text, shown = .str text ∧ Writes kind styled cell text := by
  by_cases real : kind = .real
  · subst real
    exact exists_writes_real simple done
  · by_cases present : cell = .none
    · subst present
      obtain rfl : Value.ofString "" = shown := Except.ok.inj done
      exact ⟨[], rfl, .missing⟩
    · rw [formatCell_toText simple present real] at done
      exact ⟨_, (Except.ok.inj done).symm, .same real⟩

end Cell

section Writes

variable {kind : CellKind} {styled : Bool}

/-- Without escape sequences no line boundaries come in. -/
theorem Writes.mem_or {cell : Value} {text : Text} (writes : Writes kind false cell text)
    {letter : Char} (member : letter ∈ text) :
    letter ∈ cell.toText ∨ Text.isLineBoundary letter = false := by
  cases writes with
  | missing => nomatch member
  | same => exact .inl member
  | number real =>
    right
    by_contra boundary
    have solid := (isSolid_generalText real).2 letter member
    rw [Text.isBlank_of_isLineBoundary (Bool.not_eq_false _ ▸ boundary)] at solid
    nomatch solid
  | around _ shown => nomatch shown

theorem not_isBlank_of_isSolid {text : Text} (solid : IsSolid text) : ¬ IsBlank text := by
  obtain ⟨letter, rest, rfl⟩ := List.exists_cons_of_ne_nil solid.1
  exact Text.not_isBlank_iff.mpr ⟨letter, List.mem_cons_self, solid.2 letter List.mem_cons_self⟩

/-- A replacement that is not blank leaves no blank text of a text that is not blank. -/
theorem not_isBlank_replace {old new text : Text} (solid : ¬ IsBlank new)
    (present : ¬ IsBlank text) : ¬ IsBlank (Text.replace old new text) := by
  obtain ⟨letter, inside, shown⟩ := Text.not_isBlank_iff.mp solid
  unfold Text.replace
  split_ifs with empty
  · exact Text.not_isBlank_iff.mpr ⟨letter, List.mem_append_left _ inside, shown⟩
  · have some : old ≠ [] := by simpa using empty
    match pieces : Text.split old text with
    | [] => exact absurd pieces (Text.split_ne_nil some text)
    | [piece] =>
      have whole := Text.join_split some text
      rw [pieces] at whole
      rw [Text.join] at whole ⊢
      rwa [whole]
    | first :: second :: others =>
      rw [Text.join_cons_cons]
      refine Text.not_isBlank_iff.mpr ⟨letter, ?_, shown⟩
      exact List.mem_append_left _ (List.mem_append_right _ inside)

theorem Writes.not_isBlank {text written : Text} (writes : Writes kind styled (.str text) written)
    (present : ¬ IsBlank text) : ¬ IsBlank written := by
  cases writes with
  | same => exact present
  | number real => exact not_isBlank_of_isSolid (isSolid_generalText real)
  | around real =>
    exact not_isBlank_replace (not_isBlank_of_isSolid (isSolid_generalText real)) present

theorem not_isBlank_of_formatCell {text written : Text}
    (done : formatCell (plainFormat kind styled) (.str text) = .ok (.str written))
    (present : ¬ IsBlank text) : ¬ IsBlank written := by
  have simple : IsSimple (.str text) := trivial
  obtain ⟨_, same, writes⟩ := exists_writes_of_formatCell simple done
  rw [Value.str.inj same]
  exact writes.not_isBlank present

theorem eq_of_formatCell_text {text written : Text}
    (done : formatCell (plainFormat .text styled) (.str text) = .ok (.str written)) :
    written = text :=
  (Value.str.inj (Except.ok.inj done)).symm

end Writes

/-! ## Columns with blank texts -/

theorem kindOf_of_isBlank {text : Text} (blank : IsBlank text) (reads : Bool) :
    kindOf (.str text) true reads = .ok .text := by
  have named (name : Text) (solid : ¬ IsBlank name) : (text == name) = false := by
    rw [beq_eq_false_iff_ne]
    rintro rfl
    exact solid blank
  have truth : isTruth (.str text) = false := by
    rw [isTruth_str, named _ (by decide), named _ (by decide)]
    rfl
  have whole : isInteger (.str text) = false := by
    rw [isInteger_str, Numeral.toInt?_of_isBlank blank]
    rfl
  have real : denotesReal text = false := by
    rw [denotesReal, Numeral.toBinary64?_of_isBlank blank]
  simp only [kindOf, unstyled_str, if_true, Text.visible_of_isBlank blank, Value.underived, truth,
    whole, isNumber_str, real, ok_bind]
  rfl

theorem columnKind_of_isBlank {cells : List Value} {reads : Bool} {kind : CellKind}
    (known : columnKind cells true reads = .ok kind) {text : Text} (member : .str text ∈ cells)
    (blank : IsBlank text) : kind = .text := by
  obtain ⟨kinds, each, total⟩ := bind_eq_ok.mp known
  have found : CellKind.text ∈ kinds := by
    obtain ⟨index, bound, place⟩ := List.mem_iff_getElem.mp member
    have pairs := mapM_eq_ok_iff.mp each
    have there : index < kinds.length := pairs.length_eq ▸ bound
    have here := pairs.get bound there
    simp only [List.get_eq_getElem, place, kindOf_of_isBlank blank] at here
    rw [Except.ok.inj here]
    exact List.getElem_mem there
  obtain rfl : kinds.foldl CellKind.join .truth = kind := Except.ok.inj total
  have high : ¬ (kinds.foldl CellKind.join .truth).rank ≤ 4 := by
    rw [rank_foldl_join_le_iff]
    rintro ⟨-, low⟩
    exact absurd (low _ found) (by decide)
  revert high
  cases kinds.foldl CellKind.join .truth <;> decide

end Table

end TypeSurvey
