import TypeSurvey.Proofs.Text.Boundaries

/-!
# Blank and other characters

The characters of a text that are not blank, in their order. They stay the same where a text is
stripped, cut into lines or put together from lines.
-/

namespace TypeSurvey.Text

/-! ## Blank texts -/

/-- Whether all characters of a text are blank. -/
def IsBlank (text : Text) : Prop := ∀ letter ∈ text, isBlank letter = true

instance (text : Text) : Decidable (IsBlank text) :=
  List.decidableBAll (fun letter => isBlank letter = true) text

theorem not_isBlank_iff {text : Text} :
    ¬ IsBlank text ↔ ∃ letter ∈ text, isBlank letter = false := by
  simp [IsBlank]

theorem strip_eq_nil_iff {text : Text} : strip text = [] ↔ IsBlank text := by
  constructor
  · intro none letter member
    by_contra solid
    have kept := mem_strip (Bool.not_eq_true _ ▸ solid) member
    rw [none] at kept
    nomatch kept
  · intro blank
    have front : text.dropWhile isBlank = [] := List.dropWhile_eq_nil_iff.mpr blank
    rw [strip, trim, front]
    rfl

/-! ## Characters that are not blank -/

/-- The characters of a text that are not blank. -/
def ink (text : Text) : Text := text.filter fun letter => !isBlank letter

@[simp]
theorem ink_nil : ink [] = [] := rfl

@[simp]
theorem ink_append (front back : Text) : ink (front ++ back) = ink front ++ ink back :=
  List.filter_append _ _

theorem ink_eq_nil_iff {text : Text} : ink text = [] ↔ IsBlank text := by
  simp [ink, IsBlank]

@[simp]
theorem ink_replicate_blank (count : Nat) : ink (List.replicate count ' ') = [] :=
  ink_eq_nil_iff.mpr fun _ member => List.eq_of_mem_replicate member ▸ rfl

theorem ink_dropWhile (text : Text) : ink (text.dropWhile isBlank) = ink text := by
  induction text with
  | nil => rfl
  | cons letter text induction =>
    by_cases blank : isBlank letter = true
    · rw [List.dropWhile_cons_of_pos blank, induction, ink, ink, List.filter_cons_of_neg]
      simp [blank]
    · rw [List.dropWhile_cons_of_neg blank]

theorem ink_reverse (text : Text) : ink text.reverse = (ink text).reverse :=
  List.filter_reverse

@[simp]
theorem ink_strip (text : Text) : ink (strip text) = ink text := by
  rw [strip, trim, trimEnd, ink_reverse, ink_dropWhile, ink_reverse, List.reverse_reverse,
    ink_dropWhile]

theorem ink_join (lines : List Text) : ink (join ['\n'] lines) = lines.flatMap ink := by
  induction lines with
  | nil => rfl
  | cons line lines induction =>
    cases lines with
    | nil => simp [join]
    | cons next lines =>
      have feed : ink ['\n'] = [] := rfl
      rw [join_cons_cons, ink_append, ink_append, induction, feed, List.append_nil]
      exact List.flatMap_cons.symm

theorem of_join_cons_eq_nil {line : Text} {lines : List Text}
    (none : join ['\n'] (line :: lines) = []) : line = [] ∧ lines = [] := by
  cases lines with
  | nil => exact ⟨none, rfl⟩
  | cons next lines =>
    rw [join_cons_cons] at none
    simp at none

theorem flatMap_ink_splitLinesFrom (line text : Text) :
    (splitLinesFrom line text).flatMap ink = ink line.reverse ++ ink text := by
  induction line, text using splitLinesFrom_induction with
  | nil line =>
    rw [splitLinesFrom]
    split_ifs with empty
    · simp [List.isEmpty_iff.mp empty]
    · simp
  | pair line rest induction =>
    rw [splitLinesFrom_pair, List.flatMap_cons, induction]
    rfl
  | boundary line letter rest boundary single induction =>
    have blank : ink (letter :: rest) = ink rest :=
      List.filter_cons_of_neg (by simp [isBlank_of_isLineBoundary boundary])
    rw [splitLinesFrom_boundary boundary single, List.flatMap_cons, induction, blank]
    rfl
  | inside line letter rest inside induction =>
    rw [splitLinesFrom_cons inside, induction, List.reverse_cons, ink_append, List.append_assoc,
      ← ink_append]
    rfl

/-- The lines of a text show all that is not blank. -/
theorem flatMap_ink_splitLines (text : Text) : (splitLines text).flatMap ink = ink text :=
  flatMap_ink_splitLinesFrom [] text

/-- The pieces between blank characters show all that is not blank. -/
theorem flatMap_ink_splitOnP {separates : Char → Bool}
    (blank : ∀ letter, separates letter = true → isBlank letter = true) (text : Text) :
    (text.splitOnP separates).flatMap ink = ink text := by
  induction text with
  | nil => rfl
  | cons letter text induction =>
    rw [List.splitOnP_cons_eq_if_modifyHead]
    split_ifs with found
    · have hidden : ink (letter :: text) = ink text :=
        List.filter_cons_of_neg (by simp [blank letter found])
      rw [List.flatMap_cons, induction, hidden]
      rfl
    · obtain ⟨piece, pieces, shape⟩ :=
        List.exists_cons_of_ne_nil (List.splitOnP_ne_nil separates text)
      rw [shape, List.flatMap_cons] at induction
      rw [shape, List.modifyHead_cons, List.flatMap_cons, ← List.singleton_append, ink_append,
        List.append_assoc, induction, ← ink_append]
      rfl

end TypeSurvey.Text
