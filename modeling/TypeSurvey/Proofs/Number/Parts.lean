import TypeSurvey.Proofs.Number.Digits
import TypeSurvey.Proofs.Number.Shortest

/-!
# Real numbers as they are written

A real number is written as digits, a point with more digits, and an exponent. Whether the digits
are placed around the point or before an exponent, their value is that of the decimal number. So the
shortest text of a number reads back as the number.
-/

namespace TypeSurvey

namespace Numeral

/-! ## Digits -/

theorem digitsValue_append_zero (digits : Text) :
    digitsValue (digits ++ ['0']) = digitsValue digits * 10 := by
  rw [digitsValue, List.foldl_append]
  rfl

theorem digitsValue_padLeft (width : Nat) (digits : Text) :
    digitsValue (Text.padLeft width '0' digits) = digitsValue digits := by
  rw [Text.padLeft]
  induction width - digits.length with
  | zero => rfl
  | succ count induction => exact induction

theorem isDigit_of_mem_padLeft {width number : Nat} {digit : Char}
    (member : digit ∈ Text.padLeft width '0' (Text.ofNat number)) : digit.isDigit = true := by
  rcases List.mem_append.mp member with zero | digit
  · rw [List.eq_of_mem_replicate zero]
    rfl
  · exact Text.isDigit_of_mem_ofNat digit

/-- Whether a text does not go on with a digit. -/
def Stops (text : Text) : Prop := ∀ letter ∈ text.head?, letter.isDigit = false

theorem stops_nil : Stops [] := by simp [Stops]

theorem stops_cons {letter : Char} (other : letter.isDigit = false) (rest : Text) :
    Stops (letter :: rest) := by
  simpa [Stops] using other

section Stops

variable {digits rest : Text}

theorem takeWhile_of_stops (decimal : ∀ digit ∈ digits, digit.isDigit = true)
    (stops : Stops rest) : (digits ++ rest).takeWhile Char.isDigit = digits := by
  rw [List.takeWhile_append_of_pos decimal]
  cases rest with
  | nil => exact List.append_nil digits
  | cons letter rest =>
    rw [List.takeWhile_cons_of_neg (by simp [stops letter rfl]), List.append_nil]

theorem dropWhile_of_stops (decimal : ∀ digit ∈ digits, digit.isDigit = true)
    (stops : Stops rest) : (digits ++ rest).dropWhile Char.isDigit = rest := by
  rw [List.dropWhile_append_of_pos decimal]
  cases rest with
  | nil => rfl
  | cons letter rest => rw [List.dropWhile_cons_of_neg (by simp [stops letter rfl])]

end Stops

/-! ## Parts -/

/-- The parts of a real number as it is written. Only a zero alone begins with a zero, and there is
a point or an exponent. -/
structure Parts where
  whole : Text
  /-- The digits after the point; there is no point without them. -/
  part : Text
  power : Option Int
  whole_digits : ∀ digit ∈ whole, digit.isDigit = true
  part_digits : ∀ digit ∈ part, digit.isDigit = true
  present : whole ≠ []
  leading : whole = ['0'] ∨ whole.head? ≠ some '0'
  real : part ≠ [] ∨ power ≠ none

namespace Parts

def pointText (parts : Parts) : Text := if parts.part.isEmpty then [] else '.' :: parts.part

def powerText (parts : Parts) : Text := parts.power.elim [] (exponentText 'e')

def text (parts : Parts) : Text := parts.whole ++ (parts.pointText ++ parts.powerText)

/-- The decimal number that is written. -/
def decimal (parts : Parts) : Decimal :=
  ⟨digitsValue (parts.whole ++ parts.part), parts.power.getD 0 - parts.part.length⟩

variable (parts : Parts)

theorem powerText_cases :
    parts.power = none ∧ parts.powerText = [] ∨
      ∃ power, parts.power = some power ∧ parts.powerText = exponentText 'e' power := by
  cases known : parts.power with
  | none => exact .inl ⟨rfl, by rw [powerText, known]; rfl⟩
  | some power => exact .inr ⟨power, rfl, by rw [powerText, known]; rfl⟩

theorem pointText_cases :
    parts.part = [] ∧ parts.pointText = [] ∨
      parts.part ≠ [] ∧ parts.pointText = '.' :: parts.part := by
  rw [pointText]
  cases parts.part with
  | nil => exact .inl ⟨rfl, rfl⟩
  | cons digit digits => exact .inr ⟨List.cons_ne_nil digit digits, rfl⟩

theorem stops_powerText {rest : Text} (stops : Stops rest) : Stops (parts.powerText ++ rest) := by
  obtain ⟨-, shape⟩ | ⟨power, -, shape⟩ := parts.powerText_cases
  · rw [shape]
    exact stops
  · rw [shape]
    exact stops_cons rfl _

theorem stops_pointText {rest : Text} (stops : Stops rest) :
    Stops (parts.pointText ++ (parts.powerText ++ rest)) := by
  obtain ⟨-, shape⟩ | ⟨-, shape⟩ := parts.pointText_cases
  · rw [shape]
    exact parts.stops_powerText stops
  · rw [shape]
    exact stops_cons rfl _

end Parts

/-! ## Exponents -/

def exponentDigits (power : Int) : Text := Text.padLeft 2 '0' (Text.ofNat power.natAbs)

theorem isDigit_of_mem_exponentDigits {power : Int} {digit : Char}
    (member : digit ∈ exponentDigits power) : digit.isDigit = true :=
  isDigit_of_mem_padLeft member

theorem exponentDigits_ne_nil (power : Int) : exponentDigits power ≠ [] := by
  simp [exponentDigits, Text.padLeft, Text.ofNat_ne_nil]

theorem readExponent_powerText (parts : Parts) :
    readExponent? parts.powerText = some (parts.power.getD 0) := by
  obtain ⟨known, shape⟩ | ⟨power, known, shape⟩ := parts.powerText_cases
  · rw [known, shape]
    rfl
  · have digits : (exponentDigits power).all Char.isDigit = true :=
      List.all_eq_true.mpr fun _ => isDigit_of_mem_exponentDigits
    have present : (exponentDigits power).isEmpty = false := by
      simpa using exponentDigits_ne_nil power
    have value : digitsValue (exponentDigits power) = power.natAbs := by
      rw [exponentDigits, digitsValue_padLeft, digitsValue_ofNat]
    rw [known, shape, exponentText]
    change readExponent? ('e' :: _ :: exponentDigits power) = _
    split_ifs with negative
    · simp only [readExponent?, takeSign, digits, present, value]
      change some (-(power.natAbs : Int)) = some power
      rw [Int.ofNat_natAbs_of_nonpos negative.le, neg_neg]
    · simp only [readExponent?, takeSign, digits, present, value]
      change some (power.natAbs : Int) = some power
      rw [Int.natAbs_of_nonneg (not_lt.mp negative)]

theorem readDecimal_of_whole {whole power : Text} (present : whole.isEmpty = false)
    (digits : ∀ digit ∈ whole, digit.isDigit = true) (stops : Stops power)
    (pointless : ∀ after, power ≠ '.' :: after) {exponent : Int}
    (reading : readExponent? power = some exponent) :
    readDecimal? (whole ++ power) = some (digitsValue whole, exponent) := by
  unfold readDecimal?
  rw [takeWhile_of_stops digits stops, dropWhile_of_stops digits stops]
  dsimp only
  split
  · next after => exact absurd rfl (pointless after)
  · simp only [present, reading]
    change some (digitsValue (whole ++ []), exponent - 0) = _
    rw [List.append_nil, sub_zero]

theorem readDecimal_of_point {whole part power : Text} (present : whole.isEmpty = false)
    (digits : ∀ digit ∈ whole, digit.isDigit = true)
    (partDigits : ∀ digit ∈ part, digit.isDigit = true) (stops : Stops power) {exponent : Int}
    (reading : readExponent? power = some exponent) :
    readDecimal? (whole ++ '.' :: (part ++ power)) =
      some (digitsValue (whole ++ part), exponent - part.length) := by
  have point : Stops ('.' :: (part ++ power)) := stops_cons rfl _
  unfold readDecimal?
  rw [takeWhile_of_stops digits point, dropWhile_of_stops digits point]
  simp only [takeWhile_of_stops partDigits stops, dropWhile_of_stops partDigits stops, present,
    reading]
  rfl

theorem readDecimal_text (parts : Parts) :
    readDecimal? parts.text = some (parts.decimal.digits, parts.decimal.exponent) := by
  have stops := parts.stops_powerText stops_nil
  rw [List.append_nil] at stops
  have present : parts.whole.isEmpty = false := by simpa using parts.present
  have reading := readExponent_powerText parts
  rw [Parts.text]
  obtain ⟨whole, shape⟩ | ⟨-, shape⟩ := parts.pointText_cases
  · have pointless (after : Text) : parts.powerText ≠ '.' :: after := by
      obtain ⟨-, power⟩ | ⟨_, -, power⟩ := parts.powerText_cases <;> simp [power, exponentText]
    rw [shape, List.nil_append, readDecimal_of_whole present parts.whole_digits stops pointless
      reading]
    simp [Parts.decimal, whole]
  · rw [shape, List.cons_append,
      readDecimal_of_point present parts.whole_digits parts.part_digits stops reading]
    rfl

theorem text_eq_cons (parts : Parts) :
    ∃ first rest, parts.text = first :: rest ∧ first.isDigit = true := by
  obtain ⟨first, digits, shape⟩ := List.exists_cons_of_ne_nil parts.present
  refine ⟨first, digits ++ (parts.pointText ++ parts.powerText), ?_, ?_⟩
  · rw [Parts.text, shape, List.cons_append]
  · exact parts.whole_digits first (shape ▸ List.mem_cons_self)

/-- What stands before the letters has no case. -/
theorem toLower_of_lt {letter : Char} (small : letter.toNat < 65) : letter.toLower = letter := by
  unfold Char.toLower
  rw [dif_neg]
  rintro ⟨upper, -⟩
  have least : 65 ≤ letter.toNat := UInt32.le_iff_toNat_le.mp upper
  omega

theorem toLower_of_isDigit {digit : Char} (decimal : digit.isDigit = true) :
    digit.toLower = digit := by
  simp only [Char.isDigit, Bool.and_eq_true, decide_eq_true_eq] at decimal
  have upper : digit.toNat ≤ 57 := UInt32.le_iff_toNat_le.mp decimal.2
  exact toLower_of_lt (by omega)

theorem readMagnitude?_of_isDigit {first : Char} (decimal : first.isDigit = true) (negative : Bool)
    (rest : Text) :
    readMagnitude? negative (first :: rest) = (readDecimal? (first :: rest)).map
      fun number => .ofDecimal negative number.1 number.2 := by
  have unnamed (letter : Char) (other : letter.isDigit = false) (name : Text) :
      Text.asciiLower (first :: rest) ≠ letter :: name := by
    intro same
    rw [Text.asciiLower, List.map_cons, toLower_of_isDigit decimal] at same
    obtain ⟨rfl, -⟩ := List.cons.inj same
    simp [decimal] at other
  rw [readMagnitude?, if_neg, if_neg]
  · exact unnamed 'n' rfl _
  · rw [Bool.or_eq_true, decide_eq_true_eq, decide_eq_true_eq, not_or]
    exact ⟨unnamed 'i' rfl _, unnamed 'i' rfl _⟩

theorem readMagnitude_text (negative : Bool) (parts : Parts) :
    readMagnitude? negative parts.text =
      some (.ofDecimal negative parts.decimal.digits parts.decimal.exponent) := by
  obtain ⟨first, rest, shape, decimal⟩ := text_eq_cons parts
  rw [shape, readMagnitude?_of_isDigit decimal, ← shape, readDecimal_text]
  rfl

end Numeral

namespace Decimal

open Numeral

/-! ## Decimal numbers -/

def text (number : Decimal) : Text :=
  if number.digits ≠ 0 && (number.leading < -4 || number.leading ≥ 16) then
    let (whole, part, power) := number.scientific 'e'
    whole ++ (if part.isEmpty then [] else '.' :: part) ++ power
  else
    let (whole, part) := number.fixed
    whole ++ '.' :: (if part.isEmpty then ['0'] else part)

/-- The parts of a number that is written with an exponent. -/
def scientificParts (number : Decimal) (present : number.digits ≠ 0) : Parts where
  whole := (Nat.toDigits 10 number.digits).take 1
  part := (Nat.toDigits 10 number.digits).drop 1
  power := some number.leading
  whole_digits digit member := Text.isDigit_of_mem_ofNat (List.mem_of_mem_take member)
  part_digits digit member := Text.isDigit_of_mem_ofNat (List.mem_of_mem_drop member)
  present := by simp
  leading := by
    right
    rw [List.head?_take, if_neg (by decide)]
    exact Text.head_ofNat (Nat.pos_of_ne_zero present)
  real := .inr (by simp)

theorem decimal_scientificParts (number : Decimal) (present : number.digits ≠ 0) :
    (number.scientificParts present).decimal = number := by
  have length := length_toDigits_pos number.digits
  have digits : (number.scientificParts present).decimal.digits = number.digits := by
    rw [Parts.decimal, scientificParts]
    dsimp only
    rw [List.take_append_drop]
    exact digitsValue_ofNat number.digits
  have exponent : (number.scientificParts present).decimal.exponent = number.exponent := by
    simp only [Parts.decimal, scientificParts, Option.getD_some, List.length_drop, leading]
    omega
  obtain ⟨_, _⟩ := number
  exact congrArg₂ Decimal.mk digits exponent

def wholeParts (number : Nat) : Parts where
  whole := Nat.toDigits 10 number
  part := ['0']
  power := none
  whole_digits digit member := Text.isDigit_of_mem_ofNat member
  part_digits digit member := by
    rw [List.mem_singleton.mp member]
    rfl
  present := Nat.toDigits_ne_nil
  leading := by
    rcases Nat.eq_zero_or_pos number with rfl | positive
    · exact .inl rfl
    · exact .inr (Text.head_ofNat positive)
  real := .inl (by simp)

theorem value_wholeParts (number : Nat) : (wholeParts number).decimal.value = number := by
  have digits : (wholeParts number).decimal.digits = number * 10 := by
    refine (digitsValue_append_zero _).trans ?_
    exact congrArg (· * 10) (digitsValue_ofNat number)
  have exponent : (wholeParts number).decimal.exponent = -1 := rfl
  rw [value, digits, exponent, Nat.cast_mul, mul_assoc]
  norm_num

theorem length_padLeft (width : Nat) (digits : Text) :
    (Text.padLeft width '0' digits).length = max width digits.length := by
  rw [Text.padLeft, List.length_append, List.length_replicate]
  omega

/-- What stands around the point is the digits, with zeros in front if they are too few. -/
theorem positional_append (digits : Text) (places : Nat) :
    (positional digits places).1 ++ (positional digits places).2 =
      Text.padLeft (places + 1) '0' digits :=
  List.take_append_drop _ _

theorem length_positional (digits : Text) (places : Nat) :
    (positional digits places).2.length = places := by
  have length := length_padLeft (places + 1) digits
  rw [positional, List.length_drop]
  omega

theorem length_whole_positional (digits : Text) (places : Nat) :
    (positional digits places).1.length = max (places + 1) digits.length - places := by
  rw [positional, List.length_take, length_padLeft]
  omega

/-- The first digit is a zero only if it stands alone before the point. -/
theorem leading_positional (number places : Nat) :
    (positional (Nat.toDigits 10 number) places).1 = ['0'] ∨
      (positional (Nat.toDigits 10 number) places).1.head? ≠ some '0' := by
  have length := length_toDigits_pos number
  rcases Nat.lt_or_ge places (Nat.toDigits 10 number).length with among | before
  · have padded :
        Text.padLeft (places + 1) '0' (Nat.toDigits 10 number) = Nat.toDigits 10 number := by
      rw [Text.padLeft, Nat.sub_eq_zero_of_le among]
      rfl
    rw [positional, padded]
    rcases Nat.eq_zero_or_pos number with rfl | positive
    · obtain rfl : places = 0 := by simpa using among
      exact .inl rfl
    · right
      rw [List.head?_take, if_neg (by omega)]
      exact Text.head_ofNat positive
  · left
    have single : (Text.padLeft (places + 1) '0' (Nat.toDigits 10 number)).length - places = 1 := by
      rw [length_padLeft]
      omega
    rw [positional, single, Text.padLeft,
      show places + 1 - (Nat.toDigits 10 number).length =
        places - (Nat.toDigits 10 number).length + 1 by omega]
    rfl

/-- The parts of a number with a point among its digits or before them. -/
def pointParts (number places : Nat) (positive : 0 < places) : Parts where
  whole := (positional (Nat.toDigits 10 number) places).1
  part := (positional (Nat.toDigits 10 number) places).2
  power := none
  whole_digits digit member :=
    isDigit_of_mem_padLeft (positional_append _ _ ▸ List.mem_append_left _ member)
  part_digits digit member :=
    isDigit_of_mem_padLeft (positional_append _ _ ▸ List.mem_append_right _ member)
  present := by
    rw [← List.length_pos_iff, length_whole_positional]
    omega
  leading := leading_positional number places
  real := by
    left
    rw [← List.length_pos_iff, length_positional]
    exact positive

theorem decimal_pointParts (number : Nat) {places : Nat} (positive : 0 < places) :
    (pointParts number places positive).decimal = ⟨number, -places⟩ := by
  rw [Parts.decimal, pointParts]
  dsimp only
  rw [positional_append, digitsValue_padLeft, length_positional, Option.getD_none, zero_sub]
  exact congrArg (Decimal.mk · _) (digitsValue_ofNat number)

/-- Every decimal number is written by parts of its value. -/
theorem exists_parts (number : Decimal) :
    ∃ parts : Parts, number.text = parts.text ∧ parts.decimal.value = number.value := by
  unfold text
  split_ifs with far
  · have present : number.digits ≠ 0 := by
      rw [Bool.and_eq_true, decide_eq_true_eq] at far
      exact far.1
    refine ⟨number.scientificParts present, ?_, ?_⟩
    · exact List.append_assoc _ _ _
    · rw [decimal_scientificParts]
  · obtain ⟨digits, exponent⟩ := number
    cases exponent with
    | ofNat power =>
      refine ⟨wholeParts (digits * 10 ^ power), rfl, ?_⟩
      rw [value_wholeParts, value]
      push_cast
      rfl
    | negSucc power =>
      refine ⟨pointParts digits (power + 1) power.succ_pos, ?_, ?_⟩
      · have present :
            (positional (Nat.toDigits 10 digits) (power + 1)).2.isEmpty = false := by
          simp [List.isEmpty_eq_false_iff, ← List.length_pos_iff, length_positional]
        simp [fixed, Parts.text, Parts.pointText, Parts.powerText, pointParts, present]
      · rw [decimal_pointParts]
        rfl

end Decimal

namespace Binary64

/-- The shortest text of a number is written by parts that read back as the number. -/
theorem exists_parts_magnitudeText {significand : Nat} {exponent : Int} (negative : Bool)
    (fits : Fits significand exponent) :
    ∃ parts : Numeral.Parts, magnitudeText significand exponent = parts.text ∧
      Numeral.readMagnitude? negative parts.text =
        some (.finite negative significand exponent) := by
  obtain ⟨parts, written, value⟩ := (Decimal.shortest significand exponent).exists_parts
  refine ⟨parts, written, ?_⟩
  rw [Numeral.readMagnitude_text]
  by_cases present : significand = 0
  · subst present
    obtain rfl : exponent = leastExponent := fits.full.resolve_left (by decide)
    have zero : parts.decimal.digits = 0 := by
      have product : (parts.decimal.digits : ℚ) * 10 ^ parts.decimal.exponent = 0 :=
        value.trans (zero_mul _)
      rcases mul_eq_zero.mp product with zero | power
      · exact_mod_cast zero
      · exact absurd power (zpow_ne_zero _ (by norm_num))
    rw [zero]
    rfl
  · have rounds := Decimal.roundsTo_shortest fits present
    rw [← value] at rounds
    rw [ofDecimal_of_roundsTo negative fits present rounds]

end Binary64

end TypeSurvey
