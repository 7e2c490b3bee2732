import TypeSurvey.Text.Basic
import Mathlib.Data.List.Infix

/-!
# Pieces between separators

A text in which a separator occurs has a first occurrence of it, and the piece before that is the
first of its pieces; a text without the separator is one piece. The pieces put together give the
text back. Where occurrences of the separator cannot overlap, the text can be taken apart at any of
them.
-/

namespace TypeSurvey.Text

variable {separator : Text}

/-! ## The first occurrence -/

/-- Whether the separator after the front of a text is the first one in it. -/
def EndsFirst (separator front : Text) : Prop := ¬ separator <:+: front ++ separator.dropLast

theorem prefix_append_dropLast (front back : Text) :
    front ++ separator.dropLast <+: front ++ separator ++ back :=
  ((List.prefix_append_right_inj front).mpr (List.dropLast_prefix separator)).trans
    (List.prefix_append _ back)

theorem not_prefix_of_endsFirst {letter : Char} {front : Text}
    (first : EndsFirst separator (letter :: front)) (back : Text) :
    ¬ separator <+: letter :: front ++ separator ++ back := by
  intro found
  apply first
  have short : separator.length ≤ (letter :: front ++ separator.dropLast).length := by
    simp only [List.length_append, List.length_cons, List.length_dropLast]
    omega
  have whole := @prefix_append_dropLast separator (letter :: front) back
  exact (List.prefix_of_prefix_length_le found whole short).isInfix

theorem EndsFirst.tail {letter : Char} {front : Text}
    (first : EndsFirst separator (letter :: front)) : EndsFirst separator front :=
  fun found => first (found.trans (List.suffix_cons letter _).isInfix)

theorem exists_endsFirst {text : Text} (occurs : separator <:+: text) (nonempty : separator ≠ []) :
    ∃ front back, text = front ++ separator ++ back ∧ EndsFirst separator front := by
  induction text with
  | nil => exact absurd (List.infix_nil.mp occurs) nonempty
  | cons letter text induction =>
    by_cases here : separator <+: letter :: text
    · obtain ⟨back, shape⟩ := here
      refine ⟨[], back, by simp [shape], fun found => ?_⟩
      have length := found.length_le
      rw [List.nil_append, List.length_dropLast] at length
      have positive := List.length_pos_iff.mpr nonempty
      omega
    · obtain ⟨front, back, rfl, first⟩ :=
        induction ((List.infix_cons_iff.mp occurs).resolve_left here)
      refine ⟨letter :: front, back, by simp, fun found => ?_⟩
      rcases List.infix_cons_iff.mp found with start | later
      · exact here (start.trans (prefix_append_dropLast (letter :: front) back))
      · exact first later

/-- What holds of texts without the separator, and of a text if it holds of the part behind the
first separator, holds of every text. -/
theorem split_induction {property : Text → Prop} (nonempty : separator ≠ [])
    (free : ∀ text, ¬ separator <:+: text → property text)
    (step : ∀ front back, EndsFirst separator front → property back →
      property (front ++ separator ++ back)) (text : Text) : property text := by
  induction bound : text.length using Nat.strong_induction_on generalizing text with
  | _ length induction =>
    by_cases occurs : separator <:+: text
    · obtain ⟨front, back, rfl, first⟩ := exists_endsFirst occurs nonempty
      have positive := List.length_pos_iff.mpr nonempty
      simp only [List.length_append] at bound
      exact step front back first (induction back.length (by omega) back rfl)
    · exact free text occurs

/-! ## Pieces -/

theorem splitFrom_of_absent {text : Text} (free : ¬ separator <:+: text) (piece : Text) :
    splitFrom separator 0 piece text = [piece.reverse ++ text] := by
  induction text generalizing piece with
  | nil => simp [splitFrom]
  | cons letter text induction =>
    rw [List.infix_cons_iff, not_or] at free
    rw [splitFrom, if_neg (by simpa [List.isPrefixOf_iff_prefix] using free.1),
      induction free.2]
    simp

theorem splitFrom_skip (piece skipped text : Text) :
    splitFrom separator skipped.length piece (skipped ++ text) =
      splitFrom separator 0 piece text := by
  induction skipped with
  | nil => rfl
  | cons letter skipped induction => rw [List.length_cons, List.cons_append, splitFrom, induction]

theorem splitFrom_endsFirst (nonempty : separator ≠ []) {front : Text}
    (first : EndsFirst separator front) (piece back : Text) :
    splitFrom separator 0 piece (front ++ separator ++ back) =
      (piece.reverse ++ front) :: split separator back := by
  induction front generalizing piece with
  | nil =>
    obtain ⟨mark, marks, rfl⟩ := List.exists_cons_of_ne_nil nonempty
    have here : (mark :: marks).isPrefixOf (mark :: (marks ++ back)) = true := by
      rw [List.isPrefixOf_iff_prefix]
      exact List.prefix_append (mark :: marks) back
    rw [List.nil_append, List.cons_append, splitFrom, if_pos here]
    simp [splitFrom_skip, split]
  | cons letter front induction =>
    have later : separator.isPrefixOf (letter :: (front ++ separator ++ back)) ≠ true := by
      rw [Ne, List.isPrefixOf_iff_prefix]
      simpa using not_prefix_of_endsFirst first back
    rw [List.cons_append, List.cons_append, splitFrom, if_neg later, induction first.tail]
    simp

theorem split_of_absent {text : Text} (free : ¬ separator <:+: text) :
    split separator text = [text] :=
  splitFrom_of_absent free []

theorem split_endsFirst (nonempty : separator ≠ []) {front : Text}
    (first : EndsFirst separator front) (back : Text) :
    split separator (front ++ separator ++ back) = front :: split separator back :=
  splitFrom_endsFirst nonempty first [] back

theorem split_ne_nil (nonempty : separator ≠ []) (text : Text) : split separator text ≠ [] := by
  induction text using split_induction nonempty with
  | free text free => simp [split_of_absent free]
  | step front back first _ =>
    rw [split_endsFirst nonempty first]
    exact List.cons_ne_nil front _

theorem join_cons_cons (piece second : Text) (pieces : List Text) :
    join separator (piece :: second :: pieces) =
      piece ++ separator ++ join separator (second :: pieces) := by
  rw [join]
  simp

/-- The characters of a text that is put together are those of the pieces and the separator. -/
theorem mem_of_mem_join {separator : Text} {pieces : List Text} {letter : Char}
    (member : letter ∈ join separator pieces) :
    letter ∈ separator ∨ ∃ piece ∈ pieces, letter ∈ piece := by
  induction pieces with
  | nil => nomatch member
  | cons first pieces induction =>
    cases pieces with
    | nil => exact .inr ⟨first, List.mem_cons_self, member⟩
    | cons second pieces =>
      rw [join_cons_cons, List.append_assoc, List.mem_append, List.mem_append] at member
      rcases member with here | between | later
      · exact .inr ⟨first, List.mem_cons_self, here⟩
      · exact .inl between
      · exact (induction later).imp_right fun ⟨piece, place, inside⟩ =>
          ⟨piece, List.mem_cons_of_mem _ place, inside⟩

theorem join_split (nonempty : separator ≠ []) (text : Text) :
    join separator (split separator text) = text := by
  induction text using split_induction nonempty with
  | free text free => rw [split_of_absent free, join]
  | step front back first induction =>
    obtain ⟨piece, pieces, shape⟩ := List.exists_cons_of_ne_nil (split_ne_nil nonempty back)
    rw [shape] at induction
    rw [split_endsFirst nonempty first, shape, join_cons_cons, induction]

theorem subset_of_mem_split (nonempty : separator ≠ []) {text piece : Text}
    (member : piece ∈ split separator text) : piece ⊆ text := by
  induction text using split_induction nonempty with
  | free text free =>
    rw [split_of_absent free, List.mem_singleton] at member
    exact member ▸ List.Subset.refl text
  | step front back first induction =>
    rw [split_endsFirst nonempty first, List.mem_cons] at member
    rw [List.append_assoc]
    rcases member with rfl | later
    · exact List.subset_append_left _ _
    · have inside := List.subset_append_of_subset_right separator (induction later)
      exact List.subset_append_of_subset_right front inside

/-! ## Separators that do not overlap -/

/-- Whether no occurrence of a separator can reach into another one. -/
def Apart (separator : Text) : Prop :=
  ∀ front : Text, ¬ separator <:+: front → EndsFirst separator front

/-- What ends in a letter that some text does not have cannot reach into that text. -/
theorem infix_of_infix_append {pattern text more : Text} {last : Char}
    (ending : pattern.getLast? = some last) (absent : last ∉ more)
    (found : pattern <:+: text ++ more) : pattern <:+: text := by
  induction more using List.reverseRecOn with
  | nil => simpa using found
  | append_singleton more letter induction =>
    rw [List.mem_append, List.mem_singleton, not_or] at absent
    rw [← List.append_assoc] at found
    rcases List.infix_concat_iff.mp found with ⟨front, shape⟩ | inside
    · have same := congrArg List.getLast? shape
      rw [List.getLast?_append, ending, List.getLast?_concat] at same
      exact absurd (Option.some.inj same) absent.2
    · exact induction absent.1 inside

/-- A separator whose last letter stands at its end only does not overlap with itself. -/
theorem apart_of_getLast? {last : Char} (ending : separator.getLast? = some last)
    (once : last ∉ separator.dropLast) : Apart separator :=
  fun _ absent found => absent (infix_of_infix_append ending once found)

theorem split_append (nonempty : separator ≠ []) (apart : Apart separator) (front back : Text) :
    split separator (front ++ separator ++ back) =
      split separator front ++ split separator back := by
  induction front using split_induction nonempty with
  | free front free =>
    rw [split_endsFirst nonempty (apart front free), split_of_absent free]
    rfl
  | step before after first induction =>
    rw [List.append_assoc (before ++ separator), List.append_assoc (before ++ separator),
      split_endsFirst nonempty first, split_endsFirst nonempty first, induction]
    rfl

/-! ## Replacement -/

theorem join_append {front back : List Text} (nonempty : front ≠ []) (nonempty' : back ≠ [])
    (between : Text) :
    join between (front ++ back) = join between front ++ between ++ join between back := by
  induction front with
  | nil => exact absurd rfl nonempty
  | cons piece pieces induction =>
    cases pieces with
    | nil =>
      obtain ⟨second, others, rfl⟩ := List.exists_cons_of_ne_nil nonempty'
      exact join_cons_cons piece second others
    | cons second pieces =>
      have later := induction (List.cons_ne_nil _ _)
      rw [List.cons_append, List.cons_append, join_cons_cons, ← List.cons_append, later,
        join_cons_cons]
      simp only [List.append_assoc]

theorem join_append_nil {pieces : List Text} (nonempty : pieces ≠ []) (between : Text) :
    join between (pieces ++ [[]]) = join between pieces ++ between := by
  rw [join_append nonempty (List.cons_ne_nil [] []), join, List.append_nil]

/-- The pieces of a text that ends with the separator are those of its front, and an empty one. -/
theorem split_append_self (nonempty : separator ≠ []) (apart : Apart separator) (front : Text) :
    split separator (front ++ separator) = split separator front ++ [[]] := by
  simpa [split, splitFrom] using split_append nonempty apart front []

theorem count_append_self (nonempty : separator ≠ []) (apart : Apart separator) (front : Text) :
    count separator (front ++ separator) = count separator front + 1 := by
  have some := List.length_pos_iff.mpr (split_ne_nil nonempty front)
  simp only [count, split_append_self nonempty apart, List.length_append, List.length_singleton]
  omega

theorem replace_append_self (nonempty : separator ≠ []) (apart : Apart separator)
    (new front : Text) :
    replace separator new (front ++ separator) = replace separator new front ++ new := by
  simp only [replace, split_append_self nonempty apart,
    join_append_nil (split_ne_nil nonempty front)]
  simp [nonempty]

theorem replace_of_count {text : Text} (nonempty : separator ≠ [])
    (absent : count separator text = 0) (new : Text) : replace separator new text = text := by
  obtain ⟨piece, single⟩ : ∃ piece, split separator text = [piece] := by
    have some := List.length_pos_iff.mpr (split_ne_nil nonempty text)
    rw [count] at absent
    exact List.length_eq_one_iff.mp (by omega)
  have whole := join_split nonempty text
  rw [single] at whole
  simp [replace, single, nonempty, join] at whole ⊢
  exact whole

/-! ## Before and behind a character -/

theorem drop_mark (front : Text) (mark : Char) (back : Text) :
    (front ++ mark :: back).drop (front.length + 1) = back := by
  rw [List.drop_length_add_append]
  rfl

theorem beq_eq_false_of_notMem {mark : Char} {text : Text} (absent : mark ∉ text) :
    ∀ letter ∈ text, (letter == mark) = false := by
  intro letter inside
  rw [beq_eq_false_iff_ne]
  rintro rfl
  exact absent inside

theorem takeWhile_bne_append {mark : Char} {front : Text} (absent : mark ∉ front) (back : Text) :
    (front ++ mark :: back).takeWhile (· != mark) = front := by
  have free : ∀ letter ∈ front, (letter != mark) = true :=
    fun letter member => congrArg not (beq_eq_false_of_notMem absent letter member)
  rw [List.takeWhile_append_of_pos free, List.takeWhile_cons_of_neg (by simp), List.append_nil]

end TypeSurvey.Text
