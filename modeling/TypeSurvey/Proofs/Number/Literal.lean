import TypeSurvey.Proofs.Number.Parts

/-!
# Integers as real numbers

The sign of an integer is taken off before the underscores between its digits, and that of a real
number after them. Both ways find the same digits, so that a text that denotes an integer denotes a
real number too.
-/

namespace TypeSurvey.Numeral

/-- A sign is no part of the digits between which underscores stand. -/
theorem dropUnderscores?_cons {sign : Char} (first : sign = '-' ∨ sign = '+') (text : Text) :
    dropUnderscores? false (sign :: text) = (dropUnderscores? false text).map (sign :: ·) := by
  rcases first with rfl | rfl <;> rfl

theorem isSome_readMagnitude? {digits : Text} (present : digits.isEmpty = false)
    (decimal : ∀ digit ∈ digits, digit.isDigit = true) (negative : Bool) :
    (readMagnitude? negative digits).isSome = true := by
  have read := readDecimal_of_whole present decimal stops_nil (by simp) rfl
  rw [List.append_nil] at read
  unfold readMagnitude?
  rw [read]
  dsimp only
  split_ifs <;> rfl

theorem takeSign_cons {first : Char} (decimal : first.isDigit = true) (rest : Text) :
    takeSign (first :: rest) = (false, first :: rest) := by
  unfold takeSign
  split
  · next same => exact absurd ((List.cons.inj same).1 ▸ decimal) (by decide)
  · next same => exact absurd ((List.cons.inj same).1 ▸ decimal) (by decide)
  · rfl

theorem takeSign_of_isDigit {digits : Text} (decimal : ∀ digit ∈ digits, digit.isDigit = true) :
    takeSign digits = (false, digits) := by
  cases digits with
  | nil => rfl
  | cons first rest => exact takeSign_cons (decimal first List.mem_cons_self) rest

theorem takeSign_cases (text : Text) :
    (∃ sign body, (sign = '-' ∨ sign = '+') ∧ text = sign :: body ∧
      takeSign text = (sign == '-', body)) ∨ takeSign text = (false, text) := by
  unfold takeSign
  split
  · next body => exact .inl ⟨'-', body, .inl rfl, rfl, rfl⟩
  · next body => exact .inl ⟨'+', body, .inr rfl, rfl, rfl⟩
  · exact .inr rfl

theorem takeSign_sign {sign : Char} (first : sign = '-' ∨ sign = '+') (body : Text) :
    takeSign (sign :: body) = (sign == '-', body) := by
  rcases first with rfl | rfl <;> rfl

theorem exists_digits_of_toInt? {text : Text} (whole : (toInt? text).isSome = true) :
    ∃ digits, dropUnderscores? false (takeSign (plain text)).2 = some digits ∧
      digits.isEmpty = false ∧ ∀ digit ∈ digits, digit.isDigit = true := by
  unfold toInt? readInt at whole
  cases dropped : dropUnderscores? false (takeSign (plain text)).2 with
  | none => simp [dropped] at whole
  | some digits =>
    by_cases malformed : (digits.isEmpty || !digits.all Char.isDigit) = true
    · simp [dropped, malformed] at whole
    · exact ⟨digits, rfl, by simpa using malformed⟩

theorem isSome_toBinary64?_of_toInt? {text : Text} (whole : (toInt? text).isSome = true) :
    (toBinary64? text).isSome = true := by
  obtain ⟨digits, dropped, present, decimal⟩ := exists_digits_of_toInt? whole
  unfold toBinary64?
  rcases takeSign_cases (plain text) with ⟨sign, body, first, shape, taken⟩ | unsigned
  · rw [taken] at dropped
    rw [shape, dropUnderscores?_cons first, dropped]
    simp [takeSign_sign first, isSome_readMagnitude? present decimal]
  · rw [unsigned] at dropped
    rw [dropped]
    simp [takeSign_of_isDigit decimal, isSome_readMagnitude? present decimal]

end TypeSurvey.Numeral
