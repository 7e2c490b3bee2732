import TypeSurvey.Proofs.Table.Measures

/-!
# Decimal points

A number that is written with a sign or none, digits, and perhaps a point with digits after it
denotes a finite number if it has no more than three hundred digits before the point. So the place
of its point is known, and in a column that is aligned by decimal points all points stand below each
other. The digits of a number without a point end before this place.
-/

namespace TypeSurvey

/-! ## Finite numbers -/

namespace Binary64

variable {numerator denominator most : Nat} (few : most ≤ 300)

include few

/-- A fraction that is far below the greatest number is rounded to a number. -/
theorem exists_ofFraction_eq (negative : Bool) (positive : 0 < denominator)
    (bounded : numerator < 10 ^ most * denominator) :
    ∃ significand exponent,
      ofFraction negative numerator denominator = .finite negative significand exponent := by
  by_cases present : numerator = 0
  · exact ⟨0, leastExponent, by rw [ofFraction, if_pos present]; rfl⟩
  · have small : (numerator : ℚ) / denominator < 2 ^ (1000 : Int) := by
      rw [div_lt_iff₀ (by exact_mod_cast positive)]
      calc (numerator : ℚ) < 10 ^ most * denominator := by exact_mod_cast bounded
        _ ≤ 10 ^ 300 * denominator := by gcongr; norm_num
        _ = ((10 : ℚ) ^ 3) ^ 100 * denominator := by rw [← pow_mul]
        _ ≤ ((2 : ℚ) ^ 10) ^ 100 * denominator := by gcongr; norm_num
        _ = 2 ^ (1000 : Int) * denominator := by rw [← pow_mul]; rfl
    have low := lt_of_two_zpow (exponentOf_spec present positive).1 small
    rw [ofFraction_eq_finish negative present]
    generalize exponentOf numerator denominator = order at low
    have below : max leastExponent order ≤ 970 := max_le (by decide) (by omega)
    generalize max leastExponent order = exponent at below
    simp only [finish]
    split_ifs with carry large large
    · exact absurd large (by omega)
    · exact ⟨_, _, rfl⟩
    · exact absurd large (by omega)
    · exact ⟨_, _, rfl⟩

theorem exists_ofDecimal_eq (negative : Bool) {digits places : Nat}
    (bounded : digits < 10 ^ (most + places)) :
    ∃ significand exponent,
      ofDecimal negative digits (0 - places) = .finite negative significand exponent := by
  have short : (Nat.toDigits 10 digits).length ≤ most + places + 1 :=
    (Text.length_ofNat_le_iff (Nat.succ_pos _)).mpr
      (bounded.trans_le (Nat.pow_le_pow_right (by decide) (Nat.le_succ _)))
  unfold ofDecimal
  dsimp only
  split_ifs with little large
  · exact ⟨0, leastExponent, rfl⟩
  · omega
  · rw [pow_add] at bounded
    cases places with
    | zero =>
      refine exists_ofFraction_eq few negative Nat.one_pos ?_
      rw [pow_zero] at bounded
      exact lt_of_eq_of_lt (Nat.mul_one digits) bounded
    | succ places =>
      rw [Nat.cast_succ, zero_sub, ← Int.negSucc_eq]
      exact exists_ofFraction_eq few negative (Nat.pow_pos (by decide)) bounded

end Binary64

/-! ## Numbers with a point -/

namespace Numeral

/-- The text of a number: a sign or none, digits, and perhaps a point with digits or none after it.
The digits before a point are no more than three hundred. -/
structure PlainNumber where
  sign : Text
  whole : Text
  part : Option Text
  signed : sign = [] ∨ sign = ['+'] ∨ sign = ['-']
  present : whole ≠ []
  digits : ∀ digit ∈ whole, digit.isDigit = true
  partDigits : ∀ places ∈ part, ∀ digit ∈ places, digit.isDigit = true
  bounded : part.isSome = true → whole.length ≤ 300

namespace PlainNumber

variable (number : PlainNumber)

/-- What stands before the point. -/
def front : Text := number.sign ++ number.whole

/-- The point and what stands after it. -/
def back : Text := number.part.elim [] ('.' :: ·)

def text : Text := number.front ++ number.back

variable {number}

theorem mem_front {letter : Char} (member : letter ∈ number.front) :
    letter.isDigit = true ∨ letter = '+' ∨ letter = '-' := by
  rcases List.mem_append.mp member with inside | inside
  · rcases number.signed with none | plus | minus
    · exact absurd inside (by simp [none])
    · exact .inr (.inl (List.mem_singleton.mp (plus ▸ inside)))
    · exact .inr (.inr (List.mem_singleton.mp (minus ▸ inside)))
  · exact .inl (number.digits letter inside)

theorem point_notMem_front : '.' ∉ number.front := by
  intro member
  exact absurd (mem_front member) (by decide)

/-- The characters of a number stand between the blank and the letters. -/
theorem range_of_mem {letter : Char} (member : letter ∈ number.text) :
    32 < letter.toNat ∧ letter.toNat < 65 := by
  have range (digit : letter.isDigit = true) : 32 < letter.toNat ∧ letter.toNat < 65 := by
    simp only [Char.isDigit, Bool.and_eq_true, decide_eq_true_eq] at digit
    have least : 48 ≤ letter.toNat := digit.1
    have most : letter.toNat ≤ 57 := digit.2
    omega
  rcases List.mem_append.mp member with inside | inside
  · rcases mem_front inside with digit | rfl | rfl
    · exact range digit
    · decide
    · decide
  · cases shape : number.part with
    | none => simp [back, shape] at inside
    | some places =>
      rw [back, shape, Option.elim_some, List.mem_cons] at inside
      rcases inside with rfl | inside
      · decide
      · exact range (number.partDigits places shape letter inside)

theorem notMem_text {letter : Char} (other : letter.toNat ≤ 32 ∨ 65 ≤ letter.toNat) :
    letter ∉ number.text := by
  intro member
  have range := range_of_mem member
  omega

theorem plain_text : plain number.text = number.text := by
  have same : number.text.map plainChar = number.text := by
    refine (List.map_congr_left fun letter member => ?_).trans (List.map_id' _)
    have range := range_of_mem member
    exact if_pos (by omega)
  have solid : ∀ letter ∈ number.text, surrounds letter = false := by
    intro letter member
    have range := range_of_mem member
    have other : letter ≠ ' ' := by
      rintro rfl
      exact absurd range.1 (by decide)
    simp [surrounds, other]
    omega
  rw [plain, same]
  exact Text.trim_eq_self (fun letter head => solid letter (List.mem_of_mem_head? head))
    fun letter last => solid letter (List.mem_of_mem_getLast? last)

theorem exists_takeSign_text :
    ∃ negative, takeSign number.text = (negative, number.whole ++ number.back) := by
  obtain ⟨first, rest, shape⟩ := List.exists_cons_of_ne_nil number.present
  have digit : first.isDigit = true := number.digits first (shape ▸ List.mem_cons_self)
  rw [text, front, List.append_assoc]
  rcases number.signed with none | plus | minus
  · rw [none, shape]
    exact ⟨false, takeSign_cons digit _⟩
  · rw [plus]
    exact ⟨false, rfl⟩
  · rw [minus]
    exact ⟨true, rfl⟩

section Part

variable {places : Text} (shape : number.part = some places)

include shape

theorem back_of_part : number.back = '.' :: places := by
  rw [back, shape, Option.elim_some]

theorem exists_toBinary64?_text : ∃ negative significand exponent,
    toBinary64? number.text = some (.finite negative significand exponent) := by
  have partDigits := number.partDigits places shape
  have few : number.whole.length ≤ 300 := number.bounded (by rw [shape]; rfl)
  obtain ⟨negative, taken⟩ := number.exists_takeSign_text
  obtain ⟨first, rest, front⟩ := List.exists_cons_of_ne_nil number.present
  have digit : first.isDigit = true := number.digits first (front ▸ List.mem_cons_self)
  have read := readDecimal_of_point (by simpa using number.present) number.digits partDigits
    stops_nil rfl
  have bounded : digitsValue (number.whole ++ places) <
      10 ^ (number.whole.length + places.length) := by
    rw [← List.length_append]
    refine digitsValue_lt _ fun digit member => ?_
    exact (List.mem_append.mp member).elim (number.digits digit) (partDigits digit)
  obtain ⟨significand, exponent, finite⟩ := Binary64.exists_ofDecimal_eq few negative bounded
  refine ⟨negative, significand, exponent, ?_⟩
  rw [toBinary64?, plain_text, dropUnderscores?_of_notMem (notMem_text (by decide))]
  simp only [Option.bind_eq_bind, Option.bind_some, taken, back_of_part shape]
  rw [List.append_nil, front, List.cons_append] at read
  rw [front, List.cons_append, readMagnitude?_of_isDigit digit, read, Option.map_some, ← front,
    finite]

theorem toInt?_text : (toInt? number.text).isSome = false := by
  rw [Bool.eq_false_iff]
  intro whole
  obtain ⟨digits, dropped, -, decimal⟩ := exists_digits_of_toInt? whole
  obtain ⟨negative, taken⟩ := number.exists_takeSign_text
  have free : '_' ∉ number.whole ++ number.back := by
    intro member
    have inside : '_' ∈ number.text := by
      rw [text, front, List.append_assoc]
      exact List.mem_append_right _ member
    exact notMem_text (by decide) inside
  rw [plain_text, taken, dropUnderscores?_of_notMem free, back_of_part shape, Option.some.injEq]
    at dropped
  exact absurd (decimal '.' (dropped ▸ by simp)) (by decide)

end Part

end PlainNumber

end Numeral

namespace Table

open Numeral (PlainNumber)

variable {number : PlainNumber}

theorem lastIndex?_of_notMem {letter : Char} {text : Text} (absent : letter ∉ text) :
    Text.lastIndex? letter text = none := by
  rw [Text.lastIndex?, Option.map_eq_none_iff, List.findIdx?_eq_none_iff]
  intro other member
  simpa using fun same : other = letter => absent (same ▸ List.mem_reverse.mp member)

theorem lastIndex?_append {letter : Char} {after : Text} (absent : letter ∉ after) (before : Text) :
    Text.lastIndex? letter (before ++ letter :: after) = some before.length := by
  have found : (before ++ letter :: after).reverse.findIdx? (· == letter) = some after.length := by
    rw [List.reverse_append, List.reverse_cons, List.append_assoc, List.findIdx?_append,
      List.findIdx?_eq_none_iff.mpr]
    · simp [List.findIdx?_cons]
    · intro other member
      simpa using fun same : other = letter => absent (same ▸ List.mem_reverse.mp member)
  rw [Text.lastIndex?, found, Option.map_some, List.length_append, List.length_cons]
  congr 1
  omega

/-- The characters after the point of a number are counted. -/
theorem afterPoint_text (number : PlainNumber) :
    afterPoint number.text = (number.back.length : Int) - 1 := by
  cases shape : number.part with
  | none =>
    have empty : number.back = [] := by rw [PlainNumber.back, shape, Option.elim_none]
    have noPoint : '.' ∉ number.text := by
      rw [PlainNumber.text, empty, List.append_nil]
      exact PlainNumber.point_notMem_front
    have noMark : 'e' ∉ Text.asciiLower number.text := by
      intro member
      obtain ⟨letter, inside, lower⟩ := List.mem_map.mp member
      have small := (PlainNumber.range_of_mem inside).2
      rw [Numeral.toLower_of_lt small] at lower
      rw [lower] at small
      exact absurd small (by decide)
    unfold afterPoint
    rw [lastIndex?_of_notMem noPoint, lastIndex?_of_notMem noMark, empty]
    simp
  | some places =>
    obtain ⟨negative, significand, exponent, finite⟩ := PlainNumber.exists_toBinary64?_text shape
    have real : denotesReal number.text = true := by
      rw [denotesReal, finite]
      rfl
    have noPoint : '.' ∉ places := fun member =>
      absurd (number.partDigits places shape '.' member) (by decide)
    have length := congrArg List.length (PlainNumber.back_of_part shape)
    have place : Text.lastIndex? '.' number.text = some number.front.length := by
      rw [PlainNumber.text, PlainNumber.back_of_part shape]
      exact lastIndex?_append noPoint number.front
    unfold afterPoint
    simp only [isNumber_str, real, isInteger_str, PlainNumber.toInt?_text shape, place]
    simp [PlainNumber.text]

/-! ## Columns of numbers -/

/-- Whether the point of a cell stands at a place and the last digit before this place. A cell
without a point has only blanks from there on. -/
def PointAt (place : Nat) (cell : Text) : Prop :=
  ∃ before after, cell = before ++ after ∧ before.length = place ∧ '.' ∉ before ∧
    (∃ digit ∈ before.getLast?, digit.isDigit = true) ∧
    if '.' ∈ cell then after.head? = some '.' ∧ '.' ∉ after.tail
    else ∀ letter ∈ after, letter = ' '

theorem pointAt_text (number : PlainNumber) (before after : Nat) :
    PointAt (before + number.front.length)
      (List.replicate before ' ' ++ (number.text ++ List.replicate after ' ')) := by
  have front : '.' ∉ List.replicate before ' ' ++ number.front := by
    simpa [List.mem_append] using PlainNumber.point_notMem_front
  have noPoint : '.' ∉ List.replicate after ' ' := by simp
  refine ⟨List.replicate before ' ' ++ number.front, number.back ++ List.replicate after ' ',
    ?_, ?_, front, ?_, ?_⟩
  · simp only [PlainNumber.text, List.append_assoc]
  · rw [List.length_append, List.length_replicate]
  · refine ⟨number.whole.getLast number.present, ?_, number.digits _ (List.getLast_mem _)⟩
    rw [PlainNumber.front, ← List.append_assoc, List.getLast?_append_of_ne_nil _ number.present]
    exact List.getLast?_eq_getLast_of_ne_nil number.present
  · rw [PlainNumber.text, List.append_assoc, ← List.append_assoc]
    cases shape : number.part with
    | none =>
      have empty : number.back = [] := by rw [PlainNumber.back, shape, Option.elim_none]
      rw [empty, List.nil_append, if_neg (by simpa [List.mem_append] using front)]
      exact fun letter member => List.eq_of_mem_replicate member
    | some places =>
      have digits := number.partDigits places shape
      rw [PlainNumber.back_of_part shape, if_pos (by simp)]
      refine ⟨rfl, ?_⟩
      rw [List.cons_append, List.tail_cons, List.mem_append, not_or]
      exact ⟨fun member => absurd (digits '.' member) (by decide), noPoint⟩

/-- The points of numbers that are aligned by them stand at one place, and numbers without a point
end before it. -/
theorem alignCells_decimal_points {numbers : List PlainNumber} (some : numbers ≠ []) (styled : Bool)
    (least : Nat) :
    ∃ aligned width place,
      alignCells .decimal ⟨styled, false⟩ least (numbers.map PlainNumber.text) = .ok aligned ∧
      List.Forall₂ (fun number cell => Shows width number.text cell ∧ PointAt place cell)
        numbers aligned := by
  set texts := numbers.map PlainNumber.text with textsEq
  set most := (texts.map afterPoint).foldl max (-1) with mostEq
  have plain : ∀ text ∈ texts, Text.escape ∉ text := by
    intro text member
    obtain ⟨number, -, rfl⟩ := List.mem_map.mp member
    exact PlainNumber.notMem_text (by decide)
  have prepared : Alignment.decimal.prepare false texts =
      texts.map fun text => text ++ List.replicate (most - afterPoint text).toNat ' ' := by
    simp [Alignment.prepare, padDecimals_eq, mostEq]
  have fits := fun text => @length_le_alignedWidth .decimal least texts text
  rw [prepared] at fits
  have nonempty : ¬ texts.isEmpty = true := by simpa [textsEq] using some
  refine ⟨_, alignedWidth .decimal least texts,
    alignedWidth .decimal least texts - (most + 1).toNat,
    (alignCells_single plain .decimal styled least).trans (if_neg nonempty), ?_⟩
  rw [alignColumn_plainMeasure, prepared, List.map_map, textsEq, List.map_map,
    List.forall₂_map_right_iff, List.forall₂_same]
  intro number member
  have enough : afterPoint number.text ≤ most :=
    (le_foldl_max_iff.mp le_rfl).2 _ (List.mem_map_of_mem (List.mem_map_of_mem member))
  have room := fits _ (List.mem_map_of_mem (List.mem_map_of_mem member))
  refine ⟨shows_padLeft room, ?_⟩
  have place : alignedWidth .decimal least texts -
      (number.text ++ List.replicate (most - afterPoint number.text).toNat ' ').length +
        number.front.length = alignedWidth .decimal least texts - (most + 1).toNat := by
    rw [afterPoint_text] at enough room ⊢
    simp only [PlainNumber.text, List.length_append, List.length_replicate] at room ⊢
    omega
  exact place ▸ pointAt_text number _ _

/-- Numbers with and without a sign, a point, and digits after the point. -/
def mixedNumbers : List PlainNumber :=
  [⟨['+'], ['1', '2'], none, by simp, by simp, by simp, by simp, by simp⟩,
    ⟨[], ['3'], some [], by simp, by simp, by simp, by simp, by simp⟩,
    ⟨['-'], ['0'], some ['2', '5'], by simp, by simp, by simp, by simp, by simp⟩]

theorem alignCells_decimal_mixedNumbers :
    mixedNumbers ≠ [] ∧ ∃ aligned width place,
      alignCells .decimal ⟨true, false⟩ 8 (mixedNumbers.map PlainNumber.text) = .ok aligned ∧
      List.Forall₂ (fun number cell => Shows width number.text cell ∧ PointAt place cell)
        mixedNumbers aligned := by
  have some : mixedNumbers ≠ [] := by simp [mixedNumbers]
  exact ⟨some, alignCells_decimal_points some true 8⟩

end Table

end TypeSurvey
