import TypeSurvey.Calendar.Date
import TypeSurvey.Proofs.Number.Literal
import TypeSurvey.Proofs.Text.Lines

/-!
# How dates are written

A text that denotes a date begins with four digits and a hyphen and ends with a digit, and all
between are digits, hyphens and blanks. So it has no blanks around it and denotes no number.
-/

namespace TypeSurvey

/-! ## Digits of every script -/

namespace Text

theorem isDecimalDigit_iff {letter : Char} :
    isDecimalDigit letter = true ↔
      ∃ base ∈ digitZeros, base ≤ letter.toNat ∧ letter.toNat < base + 10 := by
  simp [isDecimalDigit, digitValue?]

theorem exists_code_of_isDecimalDigit {letter : Char} (digit : isDecimalDigit letter = true) :
    ∃ base ∈ digitZeros, ∃ offset < 10, letter = Char.ofNat (base + offset) := by
  obtain ⟨base, member, least, most⟩ := isDecimalDigit_iff.mp digit
  refine ⟨base, member, letter.toNat - base, by omega, ?_⟩
  rw [Nat.add_sub_cancel' least, Char.ofNat_toNat]

theorem isDecimalDigit_of_range {letter : Char} (least : '0' ≤ letter) (most : letter ≤ '9') :
    isDecimalDigit letter = true :=
  isDecimalDigit_iff.mpr ⟨0x30, List.mem_cons_self, least, Nat.lt_succ_of_le most⟩

theorem isBlank_of_isDecimalDigit {letter : Char} (digit : isDecimalDigit letter = true) :
    isBlank letter = false := by
  have each : ∀ base ∈ digitZeros, ∀ offset < 10, isBlank (Char.ofNat (base + offset)) = false := by
    decide +kernel
  obtain ⟨base, member, offset, bound, rfl⟩ := exists_code_of_isDecimalDigit digit
  exact each base member offset bound

theorem exists_digitValue {letter : Char} (digit : isDecimalDigit letter = true) :
    ∃ value < 10, digitValue? letter = some value := by
  obtain ⟨value, found⟩ := Option.isSome_iff_exists.mp digit
  refine ⟨value, ?_, found⟩
  obtain ⟨base, least, rfl⟩ := Option.map_eq_some_iff.mp found
  have range := List.find?_some least
  rw [Bool.and_eq_true, decide_eq_true_eq, decide_eq_true_eq] at range
  omega

theorem isDigit_of_isDecimalDigit {letter : Char} (digit : isDecimalDigit letter = true)
    (plain : letter.toNat < 127) : letter.isDigit = true := by
  obtain ⟨base, member, least, most⟩ := isDecimalDigit_iff.mp digit
  have first : ∀ base ∈ digitZeros, base < 127 → base = 48 := by decide
  obtain rfl := first base member (Nat.lt_of_le_of_lt least plain)
  have range : 48 ≤ letter.val ∧ letter.val ≤ 57 := ⟨least, Nat.le_of_lt_succ most⟩
  simpa [Char.isDigit] using range

end Text

theorem Numeral.isDigit_plainChar {letter : Char} (digit : Text.isDecimalDigit letter = true) :
    (plainChar letter).isDigit = true := by
  unfold plainChar
  split_ifs with plain blank
  · exact Text.isDigit_of_isDecimalDigit digit plain
  · rw [Text.isBlank_of_isDecimalDigit digit] at blank
    nomatch blank
  · obtain ⟨value, small, found⟩ := Text.exists_digitValue digit
    have each : ∀ value < 10, (Char.ofNat (48 + value)).isDigit = true := by decide
    rw [found]
    exact each value small

namespace Calendar

/-! ## Parts of dates -/

theorem isDecimalDigit_of_positive? {digit : Char} {value : Nat}
    (read : positive? digit = some value) : Text.isDecimalDigit digit = true := by
  unfold positive? at read
  split_ifs at read with range
  rw [Bool.and_eq_true, decide_eq_true_eq, decide_eq_true_eq] at range
  have zero : '0' ≤ '1' := by decide
  exact Text.isDecimalDigit_of_range (Char.le_trans zero range.1) range.2

theorem exists_of_year? {text rest : Text} {year : Nat} (read : year? text = some (year, rest)) :
    ∃ front, text = front ++ rest ∧ front.length = 4 ∧
      ∀ digit ∈ front, Text.isDecimalDigit digit = true := by
  match text, read with
  | first :: second :: third :: fourth :: behind, read =>
    simp only [year?, Option.bind_eq_bind, Option.bind_eq_some_iff] at read
    obtain ⟨_, one, _, two, _, three, _, four, same⟩ := read
    obtain ⟨-, rfl⟩ := Prod.mk.inj (Option.some.inj same)
    refine ⟨[first, second, third, fourth], rfl, rfl, ?_⟩
    simp [Text.isDecimalDigit, one, two, three, four]

theorem exists_of_month? {text rest : Text} {month : Nat}
    (read : month? text = some (month, rest)) :
    ∃ front, text = front ++ '-' :: rest ∧ ∀ digit ∈ front, Text.isDecimalDigit digit = true := by
  have zero : Text.isDecimalDigit '0' = true := by decide
  have one : Text.isDecimalDigit '1' = true := by decide
  unfold month? at read
  split at read
  · next digit behind =>
      obtain ⟨value, positive, same⟩ := Option.map_eq_some_iff.mp read
      obtain ⟨-, rfl⟩ := Prod.mk.inj same
      exact ⟨[digit], rfl, by simp [isDecimalDigit_of_positive? positive]⟩
  · next digit behind _ =>
      obtain ⟨value, positive, same⟩ := Option.map_eq_some_iff.mp read
      obtain ⟨-, rfl⟩ := Prod.mk.inj same
      exact ⟨['0', digit], rfl, by simp [zero, isDecimalDigit_of_positive? positive]⟩
  · next digit behind _ =>
      split_ifs at read with range
      obtain ⟨-, rfl⟩ := Prod.mk.inj (Option.some.inj read)
      rw [Bool.and_eq_true, decide_eq_true_eq, decide_eq_true_eq] at range
      have two : '2' ≤ '9' := by decide
      have decimal := Text.isDecimalDigit_of_range range.1 (Char.le_trans range.2 two)
      exact ⟨['1', digit], rfl, by simp [one, decimal]⟩
  · nomatch read

theorem exists_of_day? {text : Text} {day : Nat} (read : day? text = some (day, [])) :
    ∃ front last, text = front ++ [last] ∧ Text.isDecimalDigit last = true ∧
      ∀ letter ∈ front, letter = ' ' ∨ Text.isDecimalDigit letter = true := by
  have zero : Text.isDecimalDigit '0' = true := by decide
  have one : Text.isDecimalDigit '1' = true := by decide
  unfold day? at read
  split at read
  · nomatch read
  · next digit behind =>
      obtain ⟨value, positive, same⟩ := Option.map_eq_some_iff.mp read
      obtain ⟨-, rfl⟩ := Prod.mk.inj same
      exact ⟨['0'], digit, rfl, isDecimalDigit_of_positive? positive, by simp [zero]⟩
  · next digit behind =>
      obtain ⟨value, positive, same⟩ := Option.map_eq_some_iff.mp read
      obtain ⟨-, rfl⟩ := Prod.mk.inj same
      exact ⟨[' '], digit, rfl, isDecimalDigit_of_positive? positive, by simp⟩
  · next tens behind _ _ =>
      obtain ⟨high, positive, taken⟩ := Option.bind_eq_some_iff.mp read
      have first := isDecimalDigit_of_positive? positive
      cases behind with
      | nil => exact ⟨[], tens, rfl, first, by simp⟩
      | cons digit after =>
        -- Both digits are taken, since nothing is left.
        have both : after = [] ∧ Text.isDecimalDigit digit = true := by
          split at taken
          · next same =>
              obtain ⟨rfl, rfl⟩ := List.cons.inj same
              split_ifs at taken with last
              · obtain ⟨-, rfl⟩ := Prod.mk.inj (Option.some.inj taken)
                rcases (by simpa using last : digit = '0' ∨ digit = '1') with rfl | rfl
                · exact ⟨rfl, zero⟩
                · exact ⟨rfl, one⟩
              · nomatch taken
          · next same =>
              obtain ⟨rfl, rfl⟩ := List.cons.inj same
              split at taken
              · next low value =>
                  split_ifs at taken
                  · obtain ⟨-, rfl⟩ := Prod.mk.inj (Option.some.inj taken)
                    exact ⟨rfl, by simp [Text.isDecimalDigit, value]⟩
                  · nomatch taken
              · nomatch taken
          · next same => nomatch same
        obtain ⟨rfl, last⟩ := both
        exact ⟨[tens], digit, rfl, last, by simp [first]⟩

theorem fields?_of_parse {text : Text} {date : Date} (parsed : Date.parse text = .ok date) :
    ∃ fields, fields? text = some (fields, []) := by
  unfold Date.parse at parsed
  split at parsed
  · nomatch parsed
  · next fields found => exact ⟨fields, found⟩
  · nomatch parsed

theorem exists_shape_of_parse {text : Text} {date : Date} (parsed : Date.parse text = .ok date) :
    ∃ first middle last, text = first ++ '-' :: (middle ++ [last]) ∧ first ≠ [] ∧
      (∀ digit ∈ first, Text.isDecimalDigit digit = true) ∧ Text.isDecimalDigit last = true ∧
      ∀ letter ∈ middle, letter = '-' ∨ letter = ' ' ∨ Text.isDecimalDigit letter = true := by
  obtain ⟨fields, read⟩ := fields?_of_parse parsed
  obtain ⟨⟨year, rest⟩, yearRead, later⟩ := Option.bind_eq_some_iff.mp read
  obtain ⟨first, rfl, length, digits⟩ := exists_of_year? yearRead
  dsimp only at later
  split at later
  · next behind =>
      obtain ⟨⟨month, rest⟩, monthRead, afterMonth⟩ := Option.bind_eq_some_iff.mp later
      obtain ⟨front, rfl, monthDigits⟩ := exists_of_month? monthRead
      obtain ⟨⟨day, rest⟩, dayRead, same⟩ := Option.bind_eq_some_iff.mp afterMonth
      obtain ⟨-, rfl⟩ := Prod.mk.inj (Option.some.inj same)
      obtain ⟨blank, last, rfl, lastDigit, others⟩ := exists_of_day? dayRead
      refine ⟨first, front ++ '-' :: blank, last, by simp, ?_, digits, lastDigit, ?_⟩
      · rintro rfl
        nomatch length
      · intro letter member
        rcases List.mem_append.mp member with inMonth | behind
        · exact .inr (.inr (monthDigits letter inMonth))
        · rcases List.mem_cons.mp behind with rfl | inDay
          · exact .inl rfl
          · exact .inr (others letter inDay)
  · nomatch later

theorem strip_of_parse {text : Text} {date : Date} (parsed : Date.parse text = .ok date) :
    Text.strip text = text := by
  obtain ⟨first, middle, last, rfl, nonempty, digits, lastDigit, -⟩ := exists_shape_of_parse parsed
  apply Text.strip_eq_self
  · intro letter head
    rw [List.head?_append_of_ne_nil _ nonempty] at head
    exact Text.isBlank_of_isDecimalDigit (digits letter (List.mem_of_mem_head? head))
  · intro letter ending
    rw [← List.cons_append, ← List.append_assoc, List.getLast?_concat] at ending
    rw [← Option.some.inj ending]
    exact Text.isBlank_of_isDecimalDigit lastDigit

end Calendar

/-! ## Dates and numbers -/

namespace Numeral

section Hyphen

variable {first : Text}

theorem dropUnderscores?_append (free : '_' ∉ first) (after : Bool) (back : Text) :
    ∃ next, dropUnderscores? after (first ++ back) =
      (dropUnderscores? next back).map (first ++ ·) := by
  induction first generalizing after with
  | nil => exact ⟨after, by simp⟩
  | cons letter first induction =>
    rw [List.mem_cons, not_or] at free
    obtain ⟨next, later⟩ := induction free.2 letter.isDigit
    refine ⟨next, ?_⟩
    rw [List.cons_append, dropUnderscores?, later, Option.map_map]
    · rfl
    · exact fun _ _ same _ => free.1 same.symm
    · exact fun same _ => free.1 same.symm

theorem dropUnderscores?_of_notMem (free : '_' ∉ first) :
    dropUnderscores? false first = some first := by
  obtain ⟨next, whole⟩ := dropUnderscores?_append free false []
  simpa [dropUnderscores?] using whole

theorem exists_trim_eq {drops : Char → Bool} {mark : Char} (kept : drops mark = false)
    (front : ∀ letter ∈ first.head?, drops letter = false) (back : Text) :
    ∃ rest, Text.trim drops (first ++ mark :: back) = first ++ mark :: rest := by
  have start : (first ++ mark :: back).dropWhile drops = first ++ mark :: back := by
    cases first with
    | nil => simp [kept]
    | cons letter first => simp [front letter rfl]
  have reversed : (first ++ mark :: back).reverse = back.reverse ++ mark :: first.reverse := by simp
  rw [Text.trim, start, Text.trimEnd, reversed, List.dropWhile_append]
  split_ifs
  · exact ⟨[], by simp [kept]⟩
  · exact ⟨(back.reverse.dropWhile drops).reverse, by simp⟩

theorem readMagnitude?_eq_none (nonempty : first ≠ [])
    (digits : ∀ digit ∈ first, digit.isDigit = true) (negative : Bool) (rest : Text) :
    readMagnitude? negative (first ++ '-' :: rest) = none := by
  have stops : Stops ('-' :: rest) := stops_cons rfl rest
  have decimal : readDecimal? (first ++ '-' :: rest) = none := by
    unfold readDecimal?
    rw [takeWhile_of_stops digits stops, dropWhile_of_stops digits stops]
    simp [nonempty, readExponent?]
  obtain ⟨digit, others, rfl⟩ := List.exists_cons_of_ne_nil nonempty
  have here := digits digit List.mem_cons_self
  rw [List.cons_append] at decimal ⊢
  rw [readMagnitude?_of_isDigit here, decimal]
  rfl

theorem surrounds_of_isDigit {letter : Char} (digit : letter.isDigit = true) :
    surrounds letter = false := by
  simp only [Char.isDigit, Bool.and_eq_true, decide_eq_true_eq] at digit
  have least : 48 ≤ letter.toNat := UInt32.le_iff_toNat_le.mp digit.1
  rw [surrounds, Bool.or_eq_false_iff, beq_eq_false_iff_ne]
  constructor
  · rintro rfl
    nomatch least
  · simp
    omega

theorem toBinary64?_eq_none (nonempty : first ≠ [])
    (digits : ∀ digit ∈ first, Text.isDecimalDigit digit = true) (back : Text) :
    toBinary64? (first ++ '-' :: back) = none := by
  have plainDigits : ∀ digit ∈ first.map plainChar, digit.isDigit = true := by
    intro digit member
    obtain ⟨letter, inside, rfl⟩ := List.mem_map.mp member
    exact isDigit_plainChar (digits letter inside)
  have some : first.map plainChar ≠ [] := by simpa using nonempty
  obtain ⟨rest, trimmed⟩ : ∃ rest, plain (first ++ '-' :: back) =
      first.map plainChar ++ '-' :: rest := by
    have hyphen : plainChar '-' = '-' := by decide
    rw [plain, List.map_append, List.map_cons, hyphen]
    refine exists_trim_eq (by decide) (fun letter head => ?_) _
    exact surrounds_of_isDigit (plainDigits letter (List.mem_of_mem_head? head))
  have free : '_' ∉ first.map plainChar ++ ['-'] := by
    rw [List.mem_append, List.mem_singleton, not_or]
    refine ⟨fun member => ?_, by decide⟩
    nomatch plainDigits '_' member
  obtain ⟨next, dropped⟩ := dropUnderscores?_append free false rest
  rw [List.append_assoc, List.singleton_append] at dropped
  rw [toBinary64?, trimmed, dropped]
  cases dropUnderscores? next rest with
  | none => rfl
  | some kept =>
    have unsigned : takeSign (first.map plainChar ++ '-' :: kept) =
        (false, first.map plainChar ++ '-' :: kept) := by
      obtain ⟨digit, others, front⟩ := List.exists_cons_of_ne_nil some
      rw [front] at plainDigits ⊢
      exact takeSign_cons (plainDigits digit List.mem_cons_self) _
    simp [unsigned, readMagnitude?_eq_none some plainDigits]

end Hyphen

end Numeral

end TypeSurvey
