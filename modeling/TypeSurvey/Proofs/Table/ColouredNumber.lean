import TypeSurvey.Proofs.Table.Columns
import TypeSurvey.Proofs.Text.Colour

/-!
# Numbers between colours

A real number with a colour before and after it is written by putting its new text in the place of
the old one, wherever that occurs. It may occur among the parameters of the colours too. So the
colours stay as they are if and only if it does not, or the number is written as it was.
-/

namespace TypeSurvey

namespace Text

variable {old : Text}

/-! ## Occurrences on both sides of a mark -/

/-- A pattern without a mark occurs on one side of it. -/
theorem infix_or_infix_of_notMem {pattern front back : Text} {mark : Char} (absent : mark ∉ pattern)
    (found : pattern <:+: front ++ mark :: back) : pattern <:+: front ∨ pattern <:+: back := by
  obtain ⟨before, after, shape⟩ := found
  rw [List.append_assoc, List.append_eq_append_iff] at shape
  rcases shape with ⟨rest, rfl, shape⟩ | ⟨rest, rfl, shape⟩
  · rcases List.append_eq_append_iff.mp shape with ⟨more, rfl, -⟩ | ⟨more, rfl, inner⟩
    · exact .inl ⟨before, more, by simp⟩
    · cases more with
      | nil => exact .inl ⟨before, [], by simp⟩
      | cons letter more =>
        obtain ⟨rfl, -⟩ := List.cons.inj inner
        simp at absent
  · cases rest with
    | nil =>
      cases pattern with
      | nil => exact .inl List.nil_infix
      | cons letter pattern =>
        obtain ⟨rfl, -⟩ := List.cons.inj shape
        simp at absent
    | cons letter rest =>
      obtain ⟨-, rfl⟩ := List.cons.inj shape
      exact .inr ⟨rest, after, by simp⟩

/-! ## Replacement -/

theorem replace_of_absent {text : Text} (nonempty : old ≠ []) (free : ¬ old <:+: text)
    (new : Text) : replace old new text = text := by
  rw [replace, if_neg (by simpa using nonempty), split_of_absent free, join]

theorem replace_endsFirst (nonempty : old ≠ []) {front : Text} (first : EndsFirst old front)
    (new back : Text) :
    replace old new (front ++ old ++ back) = front ++ new ++ replace old new back := by
  obtain ⟨piece, pieces, shape⟩ := List.exists_cons_of_ne_nil (split_ne_nil nonempty back)
  simp only [replace, if_neg (show ¬ old.isEmpty = true by simpa using nonempty),
    split_endsFirst nonempty first, shape, join_cons_cons]

/-- On both sides of a mark that the old text does not have it is replaced apart. -/
theorem replace_append_cons (nonempty : old ≠ []) {mark : Char} (absent : mark ∉ old)
    (new front back : Text) :
    replace old new (front ++ mark :: back) =
      replace old new front ++ mark :: replace old new back := by
  induction front using split_induction nonempty with
  | free front free =>
    rw [replace_of_absent nonempty free]
    induction back using split_induction nonempty with
    | free back none =>
      rw [replace_of_absent nonempty none]
      exact replace_of_absent nonempty
        (fun found => (infix_or_infix_of_notMem absent found).elim free none) new
    | step before after first _ =>
      have longer : EndsFirst old (front ++ mark :: before) := by
        rw [EndsFirst, List.append_assoc, List.cons_append]
        exact fun found => (infix_or_infix_of_notMem absent found).elim free first
      have parts : front ++ mark :: (before ++ old ++ after) =
          (front ++ mark :: before) ++ old ++ after := by simp
      rw [parts, replace_endsFirst nonempty longer, replace_endsFirst nonempty first]
      simp
  | step before after first induction =>
    rw [List.append_assoc, replace_endsFirst nonempty first, induction,
      replace_endsFirst nonempty first]
    simp

/-- How much longer a text gets. -/
theorem length_replace (nonempty : old ≠ []) (new text : Text) :
    (replace old new text).length + count old text * old.length =
      text.length + count old text * new.length := by
  induction text using split_induction nonempty with
  | free text free => rw [replace_of_absent nonempty free, count, split_of_absent free]; simp
  | step front back first induction =>
    have counted : count old (front ++ old ++ back) = count old back + 1 := by
      have some := List.length_pos_iff.mpr (split_ne_nil nonempty back)
      rw [count, split_endsFirst nonempty first, List.length_cons, count]
      omega
    rw [replace_endsFirst nonempty first, counted]
    simp only [List.length_append, Nat.add_mul, Nat.one_mul]
    omega

theorem count_eq_zero_iff (nonempty : old ≠ []) {text : Text} :
    count old text = 0 ↔ ¬ old <:+: text := by
  constructor
  · intro none occurs
    obtain ⟨front, back, rfl, first⟩ := exists_endsFirst occurs nonempty
    have some := List.length_pos_iff.mpr (split_ne_nil nonempty back)
    rw [count, split_endsFirst nonempty first, List.length_cons] at none
    omega
  · intro free
    rw [count, split_of_absent free]
    rfl

/-- A text in which something is replaced by something else of the same length is changed. -/
theorem eq_of_replace_eq_self (nonempty : old ≠ []) {new text : Text} (occurs : old <:+: text)
    (long : old.length = new.length) (same : replace old new text = text) : new = old := by
  obtain ⟨front, back, rfl, first⟩ := exists_endsFirst occurs nonempty
  rw [replace_endsFirst nonempty first, List.append_assoc, List.append_assoc] at same
  exact (List.append_inj (List.append_cancel_left same) long.symm).1

/-- Two texts stay as they are in a replacement if and only if it changes nothing in either. -/
theorem replace_both_eq_iff (nonempty : old ≠ []) {new left right between : Text} :
    replace old new left ++ between ++ replace old new right = left ++ between ++ right ↔
      new = old ∨ ¬ old <:+: left ∧ ¬ old <:+: right := by
  constructor
  · intro same
    have leftLength := length_replace nonempty new left
    have rightLength := length_replace nonempty new right
    have total := congrArg List.length same
    simp only [List.length_append] at total
    have balance : (count old left + count old right) * old.length =
        (count old left + count old right) * new.length := by
      rw [Nat.add_mul, Nat.add_mul]
      omega
    rcases Nat.eq_zero_or_pos (count old left + count old right) with none | some
    · right
      rw [← count_eq_zero_iff nonempty, ← count_eq_zero_iff nonempty]
      omega
    · have long := Nat.eq_of_mul_eq_mul_left some balance
      rw [long] at leftLength
      obtain ⟨front, back⟩ := List.append_inj (by simpa using same) (by omega)
      have back := List.append_cancel_left back
      by_cases inLeft : old <:+: left
      · exact .inl (eq_of_replace_eq_self nonempty inLeft long front)
      · by_cases inRight : old <:+: right
        · exact .inl (eq_of_replace_eq_self nonempty inRight long back)
        · exact .inr ⟨inLeft, inRight⟩
  · rintro (rfl | ⟨inLeft, inRight⟩)
    · have whole (text : Text) : replace new new text = text := by
        rw [replace, if_neg (by simpa using nonempty), join_split nonempty]
      rw [whole, whole]
    · rw [replace_of_absent nonempty inLeft, replace_of_absent nonempty inRight]

end Text

namespace Table

open Text (Glyph escape isParameter replace)

/-! ## Numbers -/

/-- Whether a text has only characters that decimal numbers are written with. -/
def IsDecimal (text : Text) : Prop :=
  ∀ letter ∈ text, letter.isDigit = true ∨ letter ∈ "+-.eE_".toList

/-- A text between two colours, which are given by their parameters. -/
def between (before after text : Text) : Text :=
  [escape, '['] ++ (before ++ ('m' :: text ++ [escape, '[']) ++ after) ++ ['m']

section Colours

variable {before after number : Text}
  (beforeColour : ∀ letter ∈ before, isParameter letter = true)
  (afterColour : ∀ letter ∈ after, isParameter letter = true)

theorem between_eq (text : Text) :
    (Glyph.colour before beforeColour).text ++ text ++ (Glyph.colour after afterColour).text =
      between before after text := by
  simp [between, Glyph.text]

include beforeColour afterColour in
theorem visible_between {text : Text} (plain : escape ∉ text) :
    Text.visible (between before after text) = text := by
  have last : Text.visible (Glyph.colour after afterColour).text = [] := by
    have whole := Text.visible_written [.colour after afterColour]
    rwa [Text.written, List.flatMap_singleton] at whole
  rw [← between_eq beforeColour afterColour, List.append_assoc,
    Text.visible_of_sequence? (Text.sequence?_colour beforeColour Text.isWordChar _),
    List.nil_append]
  induction text with
  | nil => exact last
  | cons letter text induction =>
    rw [List.mem_cons, not_or] at plain
    rw [List.cons_append, Text.visible_cons (Ne.symm plain.1), induction plain.2]

theorem notMem_of_isDecimal (decimal : IsDecimal number) :
    escape ∉ number ∧ '[' ∉ number ∧ 'm' ∉ number := by
  refine ⟨fun inside => ?_, fun inside => ?_, fun inside => ?_⟩ <;>
    exact absurd (decimal _ inside) (by decide)

/-- A number is replaced between colours, and in their parameters. -/
theorem replace_between (decimal : IsDecimal number) (nonempty : number ≠ []) (shown : Text) :
    replace number shown (between before after number) =
      between (replace number shown before) (replace number shown after) shown := by
  obtain ⟨noEscape, noBracket, noEnd⟩ := notMem_of_isDecimal decimal
  have split {mark : Char} (absent : mark ∉ number) (front back : Text) :=
    Text.replace_append_cons nonempty absent shown front back
  have none : replace number shown [] = [] :=
    Text.replace_of_absent nonempty (by simpa using nonempty) shown
  have self : replace number shown number = shown := by
    have first : Text.EndsFirst number [] := fun found =>
      absurd found.length_le (by simpa using List.length_pos_iff.mpr nonempty)
    simpa [none] using Text.replace_endsFirst nonempty first shown []
  calc replace number shown (between before after number)
      = replace number shown ([] ++ escape :: ([] ++ '[' :: (before ++ 'm' :: (number ++ escape ::
          ([] ++ '[' :: (after ++ 'm' :: [])))))) := by simp [between]
    _ = between (replace number shown before) (replace number shown after) shown := by
        rw [split noEscape, split noBracket, split noEnd, split noEscape, split noBracket,
          split noEnd, self, none]
        simp [between]

/-- A number between two colours is written between them, and what is equal to it among their
parameters is replaced too. So the colours stay if and only if the number is written as it was, or
does not occur in them. -/
theorem colours_kept_iff (decimal : IsDecimal number) {value : Binary64}
    (read : Numeral.toBinary64? number = some value) {spec integer missing : Value} {shown : Text}
    (formatted : (Value.float value).format spec = .ok shown) :
    let cell := Value.str ((Glyph.colour before beforeColour).text ++ number ++
      (Glyph.colour after afterColour).text)
    let written := formatCell ⟨.real, spec, integer, missing, true⟩ cell
    written = .ok (.str (between (replace number shown before) (replace number shown after)
        shown)) ∧
      (written = .ok (.str ((Glyph.colour before beforeColour).text ++ shown ++
          (Glyph.colour after afterColour).text)) ↔
        shown = number ∨ ¬ number <:+: before ∧ ¬ number <:+: after) := by
  intro cell written
  have nonempty : number ≠ [] := by
    rintro rfl
    cases read
  have result : written = .ok (.str (between (replace number shown before)
      (replace number shown after) shown)) := by
    change formatStyled _ spec = _
    rw [between_eq, formatStyled,
      visible_between beforeColour afterColour (notMem_of_isDecimal decimal).1, toFloat_str, read]
    simp only [ok_bind, formatted, replace_between decimal nonempty]
    rfl
  refine ⟨result, ?_⟩
  rw [result, between_eq]
  simp only [Except.ok.injEq, Value.str.injEq, between, List.append_left_inj, List.append_right_inj]
  exact Text.replace_both_eq_iff nonempty

end Colours

theorem colours_kept_seven :
    let seven : Binary64 := .finite false 7881299347898368 (-50)
    (IsDecimal ['7'] ∧ Numeral.toBinary64? ['7'] = some seven ∧
      (Value.float seven).format (.ofString ".2f") = .ok "7.00".toList) ∧
      formatCell ⟨.real, .ofString ".2f", .ofString "", .ofString "", true⟩
        (.str "\x1b[31m7\x1b[0m".toList) = .ok (.str "\x1b[31m7.00\x1b[0m".toList) := by
  have decimal : IsDecimal ['7'] := List.forall_mem_singleton.mpr (.inl rfl)
  have read : Numeral.toBinary64? ['7'] = some (.finite false 7881299347898368 (-50)) := by
    decide +kernel
  have kept := @colours_kept_iff ['3', '1'] ['0'] ['7']
    (List.forall_mem_cons.mpr ⟨rfl, List.forall_mem_singleton.mpr rfl⟩)
    (List.forall_mem_singleton.mpr rfl) decimal _ read (.ofString ".2f") (.ofString "")
    (.ofString "") _ rfl
  exact ⟨⟨decimal, read, rfl⟩, kept.2.mpr (.inr (by decide))⟩

/-- The digit of a number is replaced in the colour before it. -/
theorem colour_changed_with_number :
    formatCell ⟨.real, .ofString ".2f", .ofString "", .ofString "", true⟩
      (.str "\x1b[31m1\x1b[0m".toList) = .ok (.str "\x1b[31.00m1.00\x1b[0m".toList) :=
  rfl

end Table

end TypeSurvey
