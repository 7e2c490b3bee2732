import TypeSurvey.Document.Decode
import TypeSurvey.Proofs.Document.Writing
import TypeSurvey.Proofs.Number.Parts
import TypeSurvey.Proofs.Text.Utf16

/-!
# Reading what was written

Each reader takes the text of one part as a whole and leaves what follows it. A number ends where a
comma, a line end or nothing follows, and those are what follows every value in a written document.
-/

namespace TypeSurvey.Document

/-! ## Strings -/

theorem hexValue_digitChar {digit : Nat} (small : digit < 16) :
    hexValue? digit.digitChar = some digit := by
  interval_cases digit <;> rfl

theorem unit_digits {unit : Nat} (small : unit < 0x10000) :
    unit? (unit / 4096).digitChar (unit / 256 % 16).digitChar (unit / 16 % 16).digitChar
      (unit % 16).digitChar = some unit := by
  rw [unit?, hexValue_digitChar (by omega), hexValue_digitChar (by omega),
    hexValue_digitChar (by omega), hexValue_digitChar (by omega)]
  change some ((((unit / 4096) * 16 + unit / 256 % 16) * 16 + unit / 16 % 16) * 16 + unit % 16) =
    some unit
  congr 1
  omega

/-- What a reader of units gives with more of them in front. -/
def prepend (front : List Nat) (reading : Except Failure (List Nat × Text)) :
    Except Failure (List Nat × Text) :=
  reading.map fun result => (front ++ result.1, result.2)

@[simp] theorem prepend_ok (front more : List Nat) (rest : Text) :
    prepend front (.ok (more, rest)) = .ok (front ++ more, rest) := rfl

theorem prepend_prepend (first second : List Nat) (reading : Except Failure (List Nat × Text)) :
    prepend first (prepend second reading) = prepend (first ++ second) reading := by
  cases reading <;> simp [prepend, Except.map, List.append_assoc]

theorem units_mark (start : Nat) (rest : Text) : units start ('"' :: rest) = .ok ([], rest) := by
  rw [units.eq_def]
  simp only [if_true]

theorem units_escapeUnit (start : Nat) {unit : Nat} (small : unit < 0x10000) {rest : Text}
    (follows : rest ≠ []) :
    units start (escapeUnit unit ++ rest) = prepend [unit] (units start rest) := by
  obtain ⟨letter, rest, rfl⟩ := List.exists_cons_of_ne_nil follows
  rw [escapeUnit, Text.ofNatBase_hexadecimal small]
  simp only [List.cons_append, List.nil_append]
  rw [units.eq_def]
  simp only [Char.reduceEq, if_false, if_true, unit_digits small]
  cases units start (letter :: rest) <;> rfl

theorem units_escapeUnits (start : Nat) (codes : List Nat)
    (small : ∀ unit ∈ codes, unit < 0x10000) {rest : Text} (follows : rest ≠ []) :
    units start (codes.flatMap escapeUnit ++ rest) = prepend codes (units start rest) := by
  induction codes with
  | nil =>
    rw [List.flatMap_nil, List.nil_append]
    cases units start rest <;> rfl
  | cons unit codes induction =>
    have later : codes.flatMap escapeUnit ++ rest ≠ [] := by simp [follows]
    rw [List.flatMap_cons, List.append_assoc,
      units_escapeUnit start (small unit List.mem_cons_self) later,
      induction fun other member => small other (List.mem_cons_of_mem _ member),
      prepend_prepend]
    rfl

/-- An escape of one letter is read as the unit of its character. -/
theorem units_escaped (start : Nat) {kind letter : Char} (simple : kind ≠ 'u')
    (known : escaped? kind = some letter) (rest : Text) :
    units start ('\\' :: kind :: rest) = prepend [letter.toNat] (units start rest) := by
  rw [units.eq_def]
  simp only [Char.reduceEq, if_false, if_true, if_neg simple, known]
  cases units start rest <;> rfl

/-- A character in a string is read as its units, if something follows. -/
theorem units_escapeChar (start : Nat) (letter : Char) {rest : Text} (follows : rest ≠ []) :
    units start (escapeChar letter ++ rest) =
      prepend (Text.toUnits letter) (units start rest) := by
  unfold escapeChar
  split_ifs with quote backslash feed carriage tab form back printable
  · subst quote
    exact units_escaped start (by decide) rfl rest
  · subst backslash
    exact units_escaped start (by decide) rfl rest
  · subst feed
    exact units_escaped start (by decide) rfl rest
  · subst carriage
    exact units_escaped start (by decide) rfl rest
  · subst tab
    exact units_escaped start (by decide) rfl rest
  · subst form
    exact units_escaped start (by decide) rfl rest
  · subst back
    exact units_escaped start (by decide) rfl rest
  · simp only [Bool.and_eq_true, decide_eq_true_eq] at printable
    rw [List.cons_append, List.nil_append, units.eq_def]
    simp only [if_neg quote, if_neg backslash, if_neg (Nat.not_lt.mpr printable.1)]
    cases units start rest <;> rfl
  · exact units_escapeUnits start _ (fun unit => Text.toUnits_lt letter) follows

theorem units_escapePoint (start : Nat) (point : Text.Point) {rest : Text} (follows : rest ≠ []) :
    units start (escapePoint point ++ rest) = prepend point.units (units start rest) := by
  cases point with
  | char letter => exact units_escapeChar start letter follows
  | half place => exact units_escapeUnit start (by omega) follows

theorem string_stringText (text : Text.Wide) (rest : Text) :
    string (text.points.flatMap escapePoint ++ '"' :: rest) = .ok (text, rest) := by
  have read (start : Nat) (points : List Text.Point) :
      units start (points.flatMap escapePoint ++ '"' :: rest) =
        .ok (points.flatMap Text.Point.units, rest) := by
    induction points with
    | nil => exact units_mark start rest
    | cons point points induction =>
      rw [List.flatMap_cons, List.append_assoc, units_escapePoint start point (by simp),
        induction, prepend_ok, List.flatMap_cons]
  rw [string, read]
  change Except.ok (Text.Wide.ofUnits (text.points.flatMap Text.Point.units), rest) = _
  rw [Text.Wide.ofUnits_flatMap_units]

/-! ## Numbers and names -/

/-- Whether a text can follow a value in a written document. -/
def Follows (rest : Text) : Prop := ∀ letter ∈ rest.head?, letter = ',' ∨ letter = '\n'

theorem follows_nil : Follows [] := by simp [Follows]

theorem follows_comma (rest : Text) : Follows (',' :: rest) := by simp [Follows]

theorem follows_newLine (level : Nat) (rest : Text) : Follows (newLine level ++ rest) := by
  simp [Follows, newLine]

theorem Follows.cases {rest : Text} (follows : Follows rest) :
    rest = [] ∨ ∃ letter tail, rest = letter :: tail ∧ (letter = ',' ∨ letter = '\n') := by
  cases rest with
  | nil => exact .inl rfl
  | cons letter tail => exact .inr ⟨letter, tail, rfl, follows letter rfl⟩

theorem fraction_of_follows {rest : Text} (follows : Follows rest) : fraction rest = [] := by
  obtain rfl | ⟨letter, tail, rfl, rfl | rfl⟩ := follows.cases <;> rfl

theorem exponent_of_follows {rest : Text} (follows : Follows rest) : exponent rest = [] := by
  obtain rfl | ⟨letter, tail, rfl, rfl | rfl⟩ := follows.cases <;> rfl

theorem Follows.stops {rest : Text} (follows : Follows rest) : Numeral.Stops rest := by
  intro letter first
  rcases follows letter first with rfl | rfl <;> rfl

theorem wholeDigits_append {whole rest : Text} (digits : ∀ digit ∈ whole, digit.isDigit = true)
    (present : whole ≠ []) (leading : whole = ['0'] ∨ whole.head? ≠ some '0')
    (stops : Numeral.Stops rest) : wholeDigits (whole ++ rest) = whole := by
  rcases leading with rfl | leading
  · rfl
  · have taken := Numeral.takeWhile_of_stops digits stops
    obtain ⟨first, more, rfl⟩ := List.exists_cons_of_ne_nil present
    rw [List.cons_append] at taken ⊢
    rw [wholeDigits]
    · exact taken
    · intro tail zero
      exact leading (congrArg (some ·) (List.cons.inj zero).1)

theorem wholeDigits_ofNat (number : Nat) {rest : Text} (follows : Follows rest) :
    wholeDigits (Text.ofNat number ++ rest) = Text.ofNat number := by
  refine wholeDigits_append (fun _ => Text.isDigit_of_mem_ofNat) (Text.ofNat_ne_nil number) ?_
    follows.stops
  rcases Nat.eq_zero_or_pos number with rfl | positive
  · exact .inl rfl
  · exact .inr (Text.head_ofNat positive)

theorem ofNat_eq_cons (number : Nat) :
    ∃ first digits, Text.ofNat number = first :: digits ∧ first.isDigit = true := by
  obtain ⟨first, digits, shape⟩ := List.exists_cons_of_ne_nil (Text.ofNat_ne_nil number)
  refine ⟨first, digits, shape, ?_⟩
  exact Text.isDigit_of_mem_ofNat (shape ▸ List.mem_cons_self)

/-- The reader of numbers takes the digits after the sign. -/
theorem number_of_takeMinus {digits : Nat} (short : digits < 10 ^ maxIntegerDigits)
    {rest text : Text} (follows : Follows rest) {negative : Bool}
    (sign : takeMinus text = (negative, Text.ofNat digits ++ rest)) :
    number text = .ok (.int (if negative then -(digits : Int) else digits), rest) := by
  have length : (Text.ofNat digits).length ≤ maxIntegerDigits :=
    (Text.length_ofNat_le_iff (by decide)).mpr short
  have nonempty : (Text.ofNat digits).isEmpty = false := by
    simpa using Text.ofNat_ne_nil digits
  unfold number
  simp only [sign, wholeDigits_ofNat digits follows, List.drop_left, fraction_of_follows follows,
    List.length_nil, List.drop_zero, exponent_of_follows follows, nonempty,
    Numeral.digitsValue_ofNat, if_neg (Nat.not_lt.mpr length)]
  rfl

theorem ne_of_isDigit {digit letter : Char} (decimal : digit.isDigit = true)
    (other : letter.isDigit = false) : digit ≠ letter := by
  rintro rfl
  simp [decimal] at other

theorem find_named_of_isDigit {first : Char} (decimal : first.isDigit = true) (rest : Text) :
    (named.find? fun entry => entry.1.isPrefixOf (first :: rest)) = none ∧
      (named.find? fun entry => entry.1.isPrefixOf ('-' :: first :: rest)) = none ∧
      takeMinus (first :: rest) = (false, first :: rest) := by
  have different (letter : Char) (other : letter.isDigit = false) : letter ≠ first :=
    (ne_of_isDigit decimal other).symm
  refine ⟨?_, ?_, ?_⟩
  · simp [named, List.isPrefixOf, different]
  · simp [named, List.isPrefixOf, different]
  · rw [takeMinus]
    intro tail equality
    exact different '-' rfl (List.cons.inj equality).1.symm

theorem atom_ofInt {value : Int} (short : value.natAbs < 10 ^ maxIntegerDigits) {rest : Text}
    (follows : Follows rest) : atom (Text.ofInt value ++ rest) = .ok (.int value, rest) := by
  cases value with
  | ofNat digits =>
    obtain ⟨first, tail, shape, decimal⟩ := ofNat_eq_cons digits
    have unnamed := find_named_of_isDigit decimal (tail ++ rest)
    have sign : takeMinus (first :: (tail ++ rest)) = (false, Text.ofNat digits ++ rest) := by
      rw [unnamed.2.2, shape, List.cons_append]
    rw [Text.ofInt, shape, List.cons_append, atom, unnamed.1]
    exact number_of_takeMinus short follows sign
  | negSucc digits =>
    obtain ⟨first, tail, shape, decimal⟩ := ofNat_eq_cons (digits + 1)
    have unnamed := find_named_of_isDigit decimal (tail ++ rest)
    have sign : takeMinus ('-' :: first :: (tail ++ rest)) =
        (true, Text.ofNat (digits + 1) ++ rest) := by
      rw [takeMinus, shape, List.cons_append]
    rw [Text.ofInt, shape, List.cons_append, List.cons_append, atom, unnamed.2.1]
    exact number_of_takeMinus short follows sign

/-! ## Real numbers -/

section Parts

variable (parts : Numeral.Parts) {rest : Text}

theorem fraction_pointText (follows : Follows rest) :
    fraction (parts.pointText ++ (parts.powerText ++ rest)) = parts.pointText := by
  obtain ⟨-, shape⟩ | ⟨present, shape⟩ := parts.pointText_cases
  · rw [shape]
    obtain ⟨-, power⟩ | ⟨_, -, power⟩ := parts.powerText_cases
    · rw [power]
      exact fraction_of_follows follows
    · rw [power]
      rfl
  · have taken := Numeral.takeWhile_of_stops parts.part_digits (parts.stops_powerText follows.stops)
    rw [shape, List.cons_append, fraction, taken, if_neg (by simpa using present)]

theorem exponent_powerText (follows : Follows rest) :
    exponent (parts.powerText ++ rest) = parts.powerText := by
  obtain ⟨-, shape⟩ | ⟨power, -, shape⟩ := parts.powerText_cases
  · rw [shape]
    exact exponent_of_follows follows
  · have digits : ∀ digit ∈ Numeral.exponentDigits power, digit.isDigit = true :=
      fun _ => Numeral.isDigit_of_mem_exponentDigits
    have taken := Numeral.takeWhile_of_stops digits follows.stops
    have present := Numeral.exponentDigits_ne_nil power
    rw [shape, exponentText]
    change exponent ('e' :: _ :: (Numeral.exponentDigits power ++ rest)) =
      'e' :: _ :: Numeral.exponentDigits power
    split_ifs
    · simp [exponent, signMark, taken, present]
    · simp [exponent, signMark, taken, present]

/-- The reader of numbers takes all parts of a real number after the sign. -/
theorem number_of_parts {text : Text} (follows : Follows rest) {negative : Bool}
    (sign : takeMinus text = (negative, parts.text ++ rest)) :
    number text =
      .ok (.float ((Numeral.readMagnitude? negative parts.text).getD .nan), rest) := by
  have present : parts.whole.isEmpty = false := by simpa using parts.present
  have whole := wholeDigits_append parts.whole_digits parts.present parts.leading
    (parts.stops_pointText follows.stops)
  have real : (parts.pointText.isEmpty && parts.powerText.isEmpty) = false := by
    obtain ⟨integer, -⟩ | ⟨-, point⟩ := parts.pointText_cases
    · obtain ⟨absent, -⟩ | ⟨_, -, power⟩ := parts.powerText_cases
      · exact absurd absent (parts.real.resolve_left (not_not.mpr integer))
      · simp [power, exponentText]
    · simp [point]
  rw [Numeral.Parts.text, List.append_assoc, List.append_assoc] at sign
  unfold number
  simp only [sign, whole, List.drop_left, fraction_pointText parts follows,
    exponent_powerText parts follows, present, real, List.append_assoc]
  rfl

end Parts

/-- A finite number is written by a sign and parts that read back as the number. -/
theorem exists_realText {significand : Nat} {exponent : Int} (negative : Bool)
    (fits : Binary64.Fits significand exponent) :
    ∃ parts : Numeral.Parts,
      realText (.finite negative significand exponent) =
        (if negative then ['-'] else []) ++ parts.text ∧
      Numeral.readMagnitude? negative parts.text =
        some (.finite negative significand exponent) := by
  obtain ⟨parts, written, reading⟩ := Binary64.exists_parts_magnitudeText negative fits
  refine ⟨parts, ?_, reading⟩
  rw [← written]
  rfl

theorem atom_finite {significand : Nat} {exponent : Int} {rest : Text} (negative : Bool)
    (fits : Binary64.Fits significand exponent) (follows : Follows rest) :
    atom (realText (.finite negative significand exponent) ++ rest) =
      .ok (.float (.finite negative significand exponent), rest) := by
  obtain ⟨parts, written, reading⟩ := exists_realText negative fits
  obtain ⟨first, tail, shape, decimal⟩ := Numeral.text_eq_cons parts
  have unnamed := find_named_of_isDigit decimal (tail ++ rest)
  have numeral {text : Text} (sign : takeMinus text = (negative, parts.text ++ rest)) :
      number text = .ok (.float (.finite negative significand exponent), rest) := by
    rw [number_of_parts parts follows sign, reading]
    rfl
  rw [shape, List.cons_append] at numeral
  rw [written, shape]
  cases negative with
  | false =>
    rw [if_neg (by decide), List.nil_append, List.cons_append, atom, unnamed.1]
    exact numeral unnamed.2.2
  | true =>
    rw [if_pos rfl, List.cons_append, List.nil_append, List.cons_append, List.cons_append, atom,
      unnamed.2.1]
    exact numeral rfl

theorem atom_realText {number : Binary64} (rounded : number.IsRounded) {rest : Text}
    (follows : Follows rest) : atom (realText number ++ rest) = .ok (.float number, rest) := by
  cases number with
  | nan => rfl
  | infinite negative => cases negative <;> rfl
  | finite negative significand exponent => exact atom_finite negative rounded follows

/-! ## The text before a part -/

/-- Whether a text begins as the text of a value does. -/
def Begins (text : Text) : Prop :=
  ∃ letter tail, text = letter :: tail ∧ isSpace letter = false ∧ letter ≠ ']' ∧
    letter ≠ '\ufeff'

theorem Begins.skipSpace {text : Text} (begins : Begins text) (rest : Text) :
    Document.skipSpace (text ++ rest) = text ++ rest := by
  obtain ⟨letter, tail, rfl, solid, -⟩ := begins
  rw [List.cons_append, Document.skipSpace, List.dropWhile_cons_of_neg (by simp [solid])]

theorem skipSpace_newLine (level : Nat) (rest : Text) :
    skipSpace (newLine level ++ rest) = skipSpace rest := by
  rw [skipSpace, skipSpace, newLine, List.cons_append, List.dropWhile_cons_of_pos rfl,
    List.dropWhile_append_of_pos]
  intro letter member
  rw [List.eq_of_mem_replicate member]
  rfl

theorem skipSpace_itemText {level : Nat} {item : Value} (begins : Begins (body level item))
    (rest : Text) : skipSpace (itemText level item ++ rest) = body level item ++ rest := by
  rw [itemText, List.append_assoc, skipSpace_newLine, begins.skipSpace]

theorem begins_of_isDigit {first : Char} (decimal : first.isDigit = true) (tail : Text) :
    Begins (first :: tail) := by
  have different {letter : Char} (other : letter.isDigit = false) : first ≠ letter :=
    ne_of_isDigit decimal other
  refine ⟨first, tail, rfl, ?_, different rfl, different rfl⟩
  simp [isSpace, different]

theorem begins_ofInt (value : Int) : Begins (Text.ofInt value) := by
  cases value with
  | ofNat digits =>
    obtain ⟨first, tail, shape, decimal⟩ := ofNat_eq_cons digits
    rw [Text.ofInt, shape]
    exact begins_of_isDigit decimal tail
  | negSucc digits => exact ⟨'-', Text.ofNat (digits + 1), rfl, rfl, by decide, by decide⟩

theorem begins_realText {number : Binary64} (rounded : number.IsRounded) :
    Begins (realText number) := by
  cases number with
  | nan => exact ⟨_, _, rfl, rfl, by decide, by decide⟩
  | infinite negative => cases negative <;> exact ⟨_, _, rfl, rfl, by decide, by decide⟩
  | finite negative significand exponent =>
    obtain ⟨parts, written, -⟩ := exists_realText negative rounded
    obtain ⟨first, tail, shape, decimal⟩ := Numeral.text_eq_cons parts
    rw [written, shape]
    cases negative with
    | false => exact begins_of_isDigit decimal tail
    | true => exact ⟨'-', _, rfl, rfl, by decide, by decide⟩

theorem body_int {value : Int} (short : value.natAbs < 10 ^ maxIntegerDigits) (level : Nat) :
    body level (.int value) = Text.ofInt value := by
  simp [body, write, atomText?, integerText_of_short short, Writing.done]

theorem body_list_cons {real : Binary64 → Prop} {first : Value} {rest : List Value}
    (each : ∀ item ∈ first :: rest, Storable real item) (level : Nat) :
    body level (.list (first :: rest)) =
      '[' :: (itemText (level + 1) first ++
        (rest.flatMap fun item => ',' :: itemText (level + 1) item) ++ newLine level ++ [']']) := by
  rw [body, write_list_of_written fun item member => (each item member).written]
  rfl

theorem body_dict_cons {real : Binary64 → Prop} {first : Text.Wide × Value}
    {rest : List (Text.Wide × Value)} (each : ∀ entry ∈ first :: rest, Storable real entry.2)
    (level : Nat) :
    body level (.dict (Value.wideKeyed (first :: rest))) =
      '{' :: (entryText (level + 1) first ++
        (rest.flatMap fun entry => ',' :: entryText (level + 1) entry) ++ newLine level ++
          ['}']) := by
  rw [body, write_dict_of_written fun entry member => (each entry member).written]
  rfl

theorem Storable.begins {value : Value} (rounded : Rounded value) (level : Nat) :
    Begins (body level value) := by
  cases rounded with
  | none => exact ⟨'n', _, rfl, rfl, by decide, by decide⟩
  | bool value => cases value <;> exact ⟨_, _, rfl, rfl, by decide, by decide⟩
  | int value short =>
    rw [body_int short]
    exact begins_ofInt value
  | float value allowed => exact begins_realText allowed
  | str text => exact ⟨'"', _, rfl, rfl, by decide, by decide⟩
  | halved text => exact ⟨'"', _, rfl, rfl, by decide, by decide⟩
  | list items each =>
    cases items with
    | nil => exact ⟨'[', _, rfl, rfl, by decide, by decide⟩
    | cons first rest =>
      rw [body_list_cons each]
      exact ⟨'[', _, rfl, rfl, by decide, by decide⟩
  | dict entries distinct each =>
    cases entries with
    | nil => exact ⟨'{', _, rfl, rfl, by decide, by decide⟩
    | cons first rest =>
      rw [body_dict_cons each]
      exact ⟨'{', _, rfl, rfl, by decide, by decide⟩

/-! ## Members -/

/-- The members of a list or a dictionary up to its closing mark. There is at least one, and at most
as many as the number says. -/
def membersBy {α : Type} (read : Reader α) (closing : Char) (missing : Cause) :
    Nat → Reader (List α)
  | 0, text => .error ⟨missing, text.length⟩
  | fuel + 1, text => do
    let (first, rest) ← read text
    match skipSpace rest with
    | [] => .error ⟨.comma, 0⟩
    | mark :: rest =>
      if mark = closing then return ([first], rest)
      else if mark = ',' then do
        let (more, rest) ← membersBy read closing missing fuel (skipSpace rest)
        return (first :: more, rest)
      else .error ⟨.comma, rest.length + 1⟩

theorem itemsBy_eq_membersBy (read : Reader Value) (fuel : Nat) (text : Text) :
    itemsBy read fuel text = membersBy read ']' .value fuel text := by
  induction fuel generalizing text with
  | zero => rfl
  | succ fuel induction =>
    simp only [itemsBy, membersBy, induction]
    refine bind_congr fun result => ?_
    split
    · simp_all
    · simp_all
    · cases shape : skipSpace result.2 <;> simp_all

theorem entriesBy_eq_membersBy (read : Reader Value) (fuel : Nat) (text : Text) :
    entriesBy read fuel text = membersBy (entryBy read) '}' .key fuel text := by
  induction fuel generalizing text with
  | zero => rfl
  | succ fuel induction =>
    simp only [entriesBy, membersBy, induction]
    refine bind_congr fun result => ?_
    split
    · simp_all
    · simp_all
    · cases shape : skipSpace result.2 <;> simp_all

end TypeSurvey.Document
