import TypeSurvey.Table.Cell

/-!
# Numbers in groups of digits

The digits of a number may stand in groups of three with commas between them. The rules for such
numbers say how a text is put together, and a text is recognised if and only if it follows them. One
line feed may stand at its end.
-/

namespace TypeSurvey.Text.Pattern

/-! ## What patterns take -/

/-- Whether a pattern takes exactly the texts of a kind, whatever follows them. -/
def Takes (pattern : Pattern) (IsPart : Text → Prop) : Prop :=
  ∀ spot next, next ∈ pattern spot ↔
    ∃ taken, IsPart taken ∧ spot = ⟨taken ++ next.rest, next.grouped⟩

/-- Texts of a kind one after the other. -/
inductive Repeated (IsPart : Text → Prop) : Text → Prop
  | nil : Repeated IsPart []
  | cons {part rest : Text} (first : IsPart part) (others : Repeated IsPart rest) :
      Repeated IsPart (part ++ rest)

variable {pattern first second : Pattern} {IsPart IsFirst IsSecond : Text → Prop}

theorem takes_one (accepts : Char → Bool) :
    (one accepts).Takes fun text => ∃ letter, accepts letter = true ∧ text = [letter] := by
  rintro ⟨text, grouped⟩ ⟨rest, still⟩
  cases text with
  | nil =>
    refine iff_of_false List.not_mem_nil ?_
    rintro ⟨_, ⟨letter, _, rfl⟩, same⟩
    cases same
  | cons letter text =>
    by_cases accepted : accepts letter = true
    · simp only [one, if_pos accepted, List.mem_singleton, Spot.mk.injEq]
      constructor
      · rintro ⟨rfl, rfl⟩
        exact ⟨[letter], ⟨letter, accepted, rfl⟩, rfl, rfl⟩
      · rintro ⟨_, ⟨_, _, rfl⟩, same, rfl⟩
        exact ⟨(List.cons.inj same).2.symm, rfl⟩
    · simp only [one, if_neg accepted, List.not_mem_nil, false_iff]
      rintro ⟨_, ⟨other, taken, rfl⟩, same⟩
      injection same with same
      exact accepted ((List.cons.inj same).1 ▸ taken)

theorem Takes.andThen (takes : first.Takes IsFirst) (takesNext : second.Takes IsSecond) :
    (first.andThen second).Takes fun text =>
      ∃ front back, IsFirst front ∧ IsSecond back ∧ text = front ++ back := by
  intro spot next
  rw [Pattern.andThen, List.mem_flatMap]
  constructor
  · rintro ⟨middle, reached, left⟩
    obtain ⟨front, isFirst, rfl⟩ := (takes _ _).mp reached
    obtain ⟨back, isSecond, rfl⟩ := (takesNext _ _).mp left
    exact ⟨front ++ back, ⟨front, back, isFirst, isSecond, rfl⟩, by rw [List.append_assoc]⟩
  · rintro ⟨_, ⟨front, back, isFirst, isSecond, rfl⟩, rfl⟩
    refine ⟨⟨back ++ next.rest, next.grouped⟩, (takes _ _).mpr ⟨front, isFirst, ?_⟩,
      (takesNext _ _).mpr ⟨back, isSecond, rfl⟩⟩
    rw [List.append_assoc]

theorem Takes.optional (takes : pattern.Takes IsPart) :
    pattern.optional.Takes fun text => IsPart text ∨ text = [] := by
  intro spot next
  rw [Pattern.optional, List.mem_append, takes, List.mem_singleton]
  constructor
  · rintro (⟨taken, isPart, rfl⟩ | rfl)
    · exact ⟨taken, .inl isPart, rfl⟩
    · exact ⟨[], .inr rfl, rfl⟩
  · rintro ⟨taken, isPart | rfl, rfl⟩
    · exact .inl ⟨taken, isPart, rfl⟩
    · exact .inr rfl

theorem Takes.congr (takes : pattern.Takes IsFirst) (same : ∀ text, IsFirst text ↔ IsSecond text) :
    pattern.Takes IsSecond := by
  intro spot next
  simp only [takes spot next, same]

theorem takes_nothing : Pattern.Takes (fun spot => [spot]) (· = []) := by
  intro spot next
  simp [eq_comm]

theorem Takes.afterOne (takes : second.Takes IsSecond) (accepts : Char → Bool) :
    ((one accepts).andThen second).Takes fun text =>
      ∃ letter rest, accepts letter = true ∧ IsSecond rest ∧ text = letter :: rest := by
  refine ((takes_one accepts).andThen takes).congr fun text => ⟨?_, ?_⟩
  · rintro ⟨_, rest, ⟨letter, accepted, rfl⟩, isSecond, rfl⟩
    exact ⟨letter, rest, accepted, isSecond, rfl⟩
  · rintro ⟨letter, rest, accepted, isSecond, rfl⟩
    exact ⟨[letter], rest, ⟨letter, accepted, rfl⟩, isSecond, rfl⟩

theorem takes_times_one (accepts : Char → Bool) (count : Nat) :
    ((one accepts).times count).Takes fun text =>
      text.length = count ∧ text.all accepts = true := by
  induction count with
  | zero => exact takes_nothing.congr fun text => by cases text <;> simp
  | succ count induction =>
    refine (induction.afterOne accepts).congr fun text => ?_
    cases text with
    | nil => simp
    | cons letter rest =>
      rw [List.length_cons, List.all_cons, Bool.and_eq_true]
      constructor
      · rintro ⟨_, _, accepted, ⟨length, every⟩, ⟨⟩⟩
        exact ⟨congrArg _ length, accepted, every⟩
      · rintro ⟨length, accepted, every⟩
        exact ⟨letter, rest, accepted, ⟨Nat.succ.inj length, every⟩, rfl⟩

theorem takes_atMost_one (accepts : Char → Bool) (count : Nat) :
    ((one accepts).atMost count).Takes fun text =>
      text.length ≤ count ∧ text.all accepts = true := by
  induction count with
  | zero => exact takes_nothing.congr fun text => by cases text <;> simp
  | succ count induction =>
    refine (induction.afterOne accepts).optional.congr fun text => ?_
    cases text with
    | nil => simp
    | cons letter rest =>
      rw [List.length_cons, List.all_cons, Bool.and_eq_true]
      constructor
      · rintro (⟨_, _, accepted, ⟨few, every⟩, ⟨⟩⟩ | none)
        · exact ⟨Nat.succ_le_succ few, accepted, every⟩
        · cases none
      · rintro ⟨few, accepted, every⟩
        exact .inl ⟨letter, rest, accepted, ⟨Nat.le_of_succ_le_succ few, every⟩, rfl⟩

/-- Every repetition takes a character, so as many as there are characters are all. -/
theorem Takes.mem_atMost (takes : pattern.Takes IsPart) (taken : ¬ IsPart []) {next : Spot}
    (count : Nat) (spot : Spot) (enough : spot.rest.length ≤ count) :
    next ∈ pattern.atMost count spot ↔
      ∃ taken, Repeated IsPart taken ∧ spot = ⟨taken ++ next.rest, next.grouped⟩ := by
  have positive {part : Text} (isPart : IsPart part) : part.length ≠ 0 :=
    fun none => taken (List.length_eq_zero_iff.mp none ▸ isPart)
  induction count generalizing spot with
  | zero =>
    rw [atMost, takes_nothing]
    constructor
    · rintro ⟨_, rfl, rfl⟩
      exact ⟨[], .nil, rfl⟩
    · rintro ⟨text, _, rfl⟩
      have none := (List.length_append ▸ enough : text.length + next.rest.length ≤ 0)
      exact ⟨text, List.length_eq_zero_iff.mp (by omega), rfl⟩
  | succ count induction =>
    rw [atMost, Pattern.optional, List.mem_append, List.mem_singleton, Pattern.andThen,
      List.mem_flatMap]
    constructor
    · rintro (⟨middle, reached, left⟩ | rfl)
      · obtain ⟨part, isPart, rfl⟩ := (takes _ _).mp reached
        have some := positive isPart
        simp only [List.length_append] at enough
        obtain ⟨others, repeated, rfl⟩ := (induction middle (by omega)).mp left
        exact ⟨part ++ others, .cons isPart repeated, by rw [List.append_assoc]⟩
      · exact ⟨[], .nil, rfl⟩
    · rintro ⟨_, repeated, rfl⟩
      cases repeated with
      | nil => exact .inr rfl
      | @cons part rest isPart others =>
        have some := positive isPart
        simp only [List.length_append] at enough
        refine .inl ⟨⟨rest ++ next.rest, next.grouped⟩, (takes _ _).mpr ⟨part, isPart, ?_⟩,
          (induction _ ?_).mpr ⟨rest, others, rfl⟩⟩
        · rw [List.append_assoc]
        · simp only [List.length_append]
          omega

theorem Takes.many (takes : pattern.Takes IsPart) (taken : ¬ IsPart []) :
    pattern.many.Takes (Repeated IsPart) :=
  fun spot _ => takes.mem_atMost taken _ spot (Nat.le_refl _)

theorem takes_many_one (accepts : Char → Bool) :
    (one accepts).many.Takes fun text => text.all accepts = true := by
  refine ((takes_one accepts).many fun ⟨_, _, same⟩ => nomatch same).congr fun text => ⟨?_, ?_⟩
  · intro repeated
    induction repeated with
    | nil => rfl
    | cons first _ induction =>
      obtain ⟨letter, accepted, rfl⟩ := first
      simp [accepted, induction]
  · intro every
    induction text with
    | nil => exact .nil
    | cons letter text induction =>
      rw [List.all_cons, Bool.and_eq_true] at every
      exact .cons ⟨letter, every.1, rfl⟩ (induction every.2)

end TypeSurvey.Text.Pattern

namespace TypeSurvey.Table

open Text.Pattern

/-! ## Rules -/

/-- Whether a text can follow the first digits of a number: groups of a comma and three digits, and
then perhaps a point with digits or none after it. -/
inductive IsGroupedRest : Text → Prop
  | nothing : IsGroupedRest []
  | part {digits : Text} (decimal : digits.all Char.isDigit) : IsGroupedRest ('.' :: digits)
  | group {digits rest : Text} (three : digits.length = 3) (decimal : digits.all Char.isDigit)
      (follows : IsGroupedRest rest) : IsGroupedRest (',' :: (digits ++ rest))

/-- Whether a text is a sign or none. -/
def IsSign (sign : Text) : Prop := sign = [] ∨ sign = ['+'] ∨ sign = ['-']

/-- Whether a text is empty, or a number with one to three digits before its groups, or a point with
digits after it. -/
inductive IsGroupedNumber : Text → Prop
  | empty : IsGroupedNumber []
  | number {sign digits rest : Text} (signed : IsSign sign) (some : digits ≠ [])
      (few : digits.length ≤ 3) (decimal : digits.all Char.isDigit)
      (follows : IsGroupedRest rest) : IsGroupedNumber (sign ++ (digits ++ rest))
  | part {digits : Text} (some : digits ≠ []) (decimal : digits.all Char.isDigit) :
      IsGroupedNumber ('.' :: digits)

/-! ## Parts of the pattern -/

/-- Whether a text is a comma and three digits. -/
def IsGroup (text : Text) : Prop :=
  ∃ digits : Text, digits.length = 3 ∧ digits.all Char.isDigit ∧ text = ',' :: digits

/-- Whether a text is a point and digits. -/
def IsPart (text : Text) : Prop := ∃ digits : Text, digits.all Char.isDigit ∧ text = '.' :: digits

theorem isGroupedRest_iff (text : Text) : IsGroupedRest text ↔
    ∃ groups tail, Repeated IsGroup groups ∧ (IsPart tail ∨ tail = []) ∧ text = groups ++ tail := by
  constructor
  · intro follows
    induction follows with
    | nothing => exact ⟨[], [], .nil, .inr rfl, rfl⟩
    | @part digits decimal => exact ⟨[], _, .nil, .inl ⟨digits, decimal, rfl⟩, rfl⟩
    | @group digits _ three decimal _ induction =>
      obtain ⟨groups, tail, repeated, ends, rfl⟩ := induction
      exact ⟨_, tail, .cons ⟨digits, three, decimal, rfl⟩ repeated, ends,
        by rw [List.cons_append, List.cons_append, List.append_assoc]⟩
  · rintro ⟨groups, tail, repeated, ends, rfl⟩
    induction repeated with
    | nil =>
      rcases ends with ⟨digits, decimal, rfl⟩ | rfl
      · exact .part decimal
      · exact .nothing
    | cons first _ induction =>
      obtain ⟨digits, three, decimal, rfl⟩ := first
      rw [List.append_assoc]
      exact .group three decimal induction

/-- Whether a text is made of a sign, digits and groups. -/
def IsGroupedDigits (text : Text) : Prop :=
  ∃ sign digits groups : Text, IsSign sign ∧ digits ≠ [] ∧ digits.length ≤ 3 ∧
    digits.all Char.isDigit ∧ Repeated IsGroup groups ∧ text = sign ++ (digits ++ groups)

theorem takes_sign :
    (one fun letter => letter == '+' || letter == '-').optional.Takes IsSign := by
  refine (takes_one _).optional.congr fun text => ?_
  constructor
  · rintro (⟨letter, signed, rfl⟩ | rfl)
    · exact .inr (by simpa using signed)
    · exact .inl rfl
  · rintro (rfl | rfl | rfl)
    · exact .inr rfl
    · exact .inl ⟨'+', rfl, rfl⟩
    · exact .inl ⟨'-', rfl, rfl⟩

theorem takes_group :
    ((one (· == ',')).andThen ((one Char.isDigit).times 3)).Takes IsGroup := by
  refine ((takes_times_one Char.isDigit 3).afterOne _).congr fun text => ?_
  simp [IsGroup, and_assoc]

theorem takes_groupedDigits : groupedDigits.Takes IsGroupedDigits := by
  have groups := takes_group.many fun ⟨_, _, _, same⟩ => nomatch same
  refine (takes_sign.andThen (((takes_atMost_one Char.isDigit 2).afterOne Char.isDigit).andThen
    groups)).congr fun text => ?_
  constructor
  · rintro ⟨sign, _, signed, ⟨_, groups, ⟨first, digits, digit, ⟨few, decimal⟩, rfl⟩,
      repeated, rfl⟩, rfl⟩
    exact ⟨sign, first :: digits, groups, signed, List.cons_ne_nil _ _, Nat.succ_le_succ few,
      by simp [digit, decimal], repeated, rfl⟩
  · rintro ⟨sign, digits, groups, signed, some, few, decimal, repeated, rfl⟩
    obtain ⟨first, digits, rfl⟩ := List.exists_cons_of_ne_nil some
    rw [List.all_cons, Bool.and_eq_true] at decimal
    exact ⟨sign, _, signed, ⟨_, groups, ⟨first, digits, decimal.1,
      ⟨Nat.le_of_succ_le_succ few, decimal.2⟩, rfl⟩, repeated, rfl⟩, rfl⟩

/-- What may follow the digits, whether or not there are any. -/
theorem mem_groupedPart (spot next : Text.Spot) : next ∈ groupedPart spot ↔
    ∃ digits : Text, (spot.grouped = true ∨ digits ≠ []) ∧ digits.all Char.isDigit ∧
      spot = ⟨'.' :: (digits ++ next.rest), next.grouped⟩ := by
  have any := (takes_many_one Char.isDigit).afterOne (· == '.')
  have some := ((takes_many_one Char.isDigit).afterOne Char.isDigit).afterOne (· == '.')
  rw [groupedPart, ifGrouped]
  split
  next grouped =>
    rw [any]
    constructor
    · rintro ⟨_, ⟨point, digits, isPoint, decimal, rfl⟩, same⟩
      obtain rfl := beq_iff_eq.mp isPoint
      exact ⟨digits, .inl grouped, decimal, same⟩
    · rintro ⟨digits, _, decimal, same⟩
      exact ⟨_, ⟨'.', digits, rfl, decimal, rfl⟩, same⟩
  next grouped =>
    rw [some]
    constructor
    · rintro ⟨_, ⟨point, _, isPoint, ⟨first, digits, digit, decimal, rfl⟩, rfl⟩, same⟩
      obtain rfl := beq_iff_eq.mp isPoint
      exact ⟨first :: digits, .inr (List.cons_ne_nil _ _), by simp [digit, decimal], same⟩
    · rintro ⟨digits, taken | taken, decimal, same⟩
      · exact absurd taken grouped
      · obtain ⟨first, digits, rfl⟩ := List.exists_cons_of_ne_nil taken
        rw [List.all_cons, Bool.and_eq_true] at decimal
        exact ⟨_, ⟨'.', _, rfl, ⟨first, digits, decimal.1, decimal.2, rfl⟩, rfl⟩, same⟩

/-! ## Whole texts -/

theorem mem_atEnd (spot next : Text.Spot) :
    next ∈ atEnd spot ↔ (spot.rest = [] ∨ spot.rest = ['\n']) ∧ next = spot := by
  rw [atEnd]
  split <;> simp [*]

theorem mem_group_optional (text : Text) (next : Text.Spot) :
    next ∈ groupedDigits.group.optional { rest := text } ↔
      (∃ digits, IsGroupedDigits digits ∧ text = digits ++ next.rest ∧ next.grouped = true) ∨
        next = { rest := text } := by
  rw [Text.Pattern.optional, List.mem_append, List.mem_singleton, group, List.mem_map]
  refine or_congr_left ⟨?_, ?_⟩
  · rintro ⟨middle, reached, rfl⟩
    obtain ⟨digits, isDigits, same⟩ := (takes_groupedDigits _ _).mp reached
    injection same with same
    exact ⟨digits, isDigits, same, rfl⟩
  · rintro ⟨digits, isDigits, rfl, grouped⟩
    refine ⟨⟨next.rest, false⟩, (takes_groupedDigits _ _).mpr ⟨digits, isDigits, rfl⟩, ?_⟩
    rw [← grouped]

theorem isGrouped_iff_mem (text : Text) : isGrouped text = true ↔
    ∃ middle ∈ groupedDigits.group.optional { rest := text },
      ∃ last ∈ groupedPart.optional middle, last.rest = [] ∨ last.rest = ['\n'] := by
  rw [isGrouped, accepts, Bool.not_eq_true', List.isEmpty_eq_false_iff_exists_mem]
  simp only [andThen, List.mem_flatMap, mem_atEnd]
  constructor
  · rintro ⟨_, middle, reached, last, left, ends, rfl⟩
    exact ⟨middle, reached, _, left, ends⟩
  · rintro ⟨middle, reached, last, left, ends⟩
    exact ⟨last, middle, reached, last, left, ends, rfl⟩

/-- A text is recognised if and only if it is a number before nothing or a line feed. -/
theorem isGrouped_iff_append (text : Text) : isGrouped text = true ↔
    ∃ body last, text = body ++ last ∧ (last = [] ∨ last = ['\n']) ∧ IsGroupedNumber body := by
  simp only [isGrouped_iff_mem, Text.Pattern.optional, List.mem_append (s := groupedPart _),
    List.mem_singleton, mem_groupedPart]
  constructor
  · rintro ⟨middle, reached, last, left, ends⟩
    rcases (mem_group_optional text middle).mp reached with
      ⟨_, ⟨sign, digits, groups, signed, some, few, decimal, repeated, rfl⟩, rfl, _⟩ | rfl
    · rcases left with ⟨part, _, decimals, rfl⟩ | rfl
      · refine ⟨sign ++ (digits ++ (groups ++ '.' :: part)), last.rest, by simp, ends, ?_⟩
        exact .number signed some few decimal
          ((isGroupedRest_iff _).mpr ⟨groups, _, repeated, .inl ⟨part, decimals, rfl⟩, rfl⟩)
      · refine ⟨sign ++ (digits ++ groups), last.rest, rfl, ends, ?_⟩
        exact .number signed some few decimal
          ((isGroupedRest_iff _).mpr ⟨groups, [], repeated, .inr rfl, (List.append_nil _).symm⟩)
    · rcases left with ⟨part, taken | taken, decimals, same⟩ | rfl
      · exact absurd taken Bool.false_ne_true
      · injection same with same
        exact ⟨'.' :: part, last.rest, same, ends, .part taken decimals⟩
      · exact ⟨[], text, rfl, ends, .empty⟩
  · rintro ⟨body, last, rfl, ends, number⟩
    cases number with
    | empty => exact ⟨_, (mem_group_optional _ _).mpr (.inr rfl), _, .inr rfl, ends⟩
    | part some decimal =>
      exact ⟨_, (mem_group_optional _ _).mpr (.inr rfl), { rest := last },
        .inl ⟨_, .inr some, decimal, rfl⟩, ends⟩
    | @number sign digits _ signed some few decimal follows =>
      obtain ⟨groups, tail, repeated, part, rfl⟩ := (isGroupedRest_iff _).mp follows
      refine ⟨⟨tail ++ last, true⟩, (mem_group_optional _ _).mpr (.inl ⟨_,
        ⟨sign, digits, groups, signed, some, few, decimal, repeated, rfl⟩, by simp, rfl⟩),
        ⟨last, true⟩, ?_, ends⟩
      rcases part with ⟨digits, decimals, rfl⟩ | rfl
      · exact .inl ⟨digits, .inl rfl, decimals, rfl⟩
      · exact .inr rfl

/-- A text is recognised if and only if it follows the rules, or does so without a line feed at its
end. -/
theorem isGrouped_iff (text : Text) : isGrouped text = true ↔
    IsGroupedNumber text ∨ ∃ body, text = body ++ ['\n'] ∧ IsGroupedNumber body := by
  rw [isGrouped_iff_append]
  constructor
  · rintro ⟨body, _, rfl, rfl | rfl, number⟩
    · exact .inl ((List.append_nil body).symm ▸ number)
    · exact .inr ⟨body, rfl, number⟩
  · rintro (number | ⟨body, rfl, number⟩)
    · exact ⟨text, [], (List.append_nil text).symm, .inl rfl, number⟩
    · exact ⟨body, ['\n'], rfl, .inr rfl, number⟩

end TypeSurvey.Table
