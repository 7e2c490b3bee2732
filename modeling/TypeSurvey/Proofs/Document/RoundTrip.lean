import TypeSurvey.Proofs.Document.Reading
import TypeSurvey.Proofs.Outcome

/-!
# Documents read back as the values they were written from

A value of the format is read back from its text, and so is every real number that a fraction is
rounded to. The readers of lists and of dictionaries are followed part by part; the depth and the
count that bound them are never reached, because every part takes at least one character.
-/

namespace TypeSurvey.Document

theorem length_le_flatMap {α : Type} (parts : List α) (text : α → Text) :
    parts.length ≤ (parts.flatMap fun part => ',' :: text part).length := by
  induction parts with
  | nil => rfl
  | cons part parts induction =>
    rw [List.flatMap_cons, List.length_append, List.length_cons, List.length_cons]
    omega

theorem membersBy_members {α : Type} {read : Reader α} {closing : Char} {missing : Cause}
    (other : closing ≠ ',') (solid : isSpace closing = false) {text lined : α → Text}
    (outer fuel : Nat) (first : α) (members : List α) (tail : Text)
    (enough : members.length < fuel)
    (starts : ∀ member ∈ members, ∀ rest, skipSpace (lined member ++ rest) = text member ++ rest)
    (reads : ∀ member ∈ first :: members, ∀ rest, Follows rest →
      read (text member ++ rest) = .ok (member, rest)) :
    membersBy read closing missing fuel
        (text first ++ ((members.flatMap fun member => ',' :: lined member) ++
          (newLine outer ++ closing :: tail))) =
      .ok (first :: members, tail) := by
  induction members generalizing first fuel with
  | nil =>
    obtain ⟨fuel, rfl⟩ := Nat.exists_eq_succ_of_ne_zero (Nat.ne_of_gt enough)
    have closed : skipSpace (newLine outer ++ closing :: tail) = closing :: tail := by
      rw [skipSpace_newLine, skipSpace, List.dropWhile_cons_of_neg (by simp [solid])]
    have reading := reads first List.mem_cons_self _ (follows_newLine outer (closing :: tail))
    simp only [List.flatMap_nil, List.nil_append, membersBy, reading, ok_bind, closed, if_pos]
    rfl
  | cons second members induction =>
    obtain ⟨fuel, rfl⟩ := Nat.exists_eq_succ_of_ne_zero (Nat.ne_of_gt (Nat.zero_lt_of_lt enough))
    have comma (rest : Text) : skipSpace (',' :: rest) = ',' :: rest := rfl
    rw [List.flatMap_cons, List.append_assoc, List.cons_append]
    simp only [membersBy, reads first List.mem_cons_self _ (follows_comma _), ok_bind, comma,
      if_neg other.symm, if_true, starts second List.mem_cons_self,
      induction fuel second (Nat.lt_of_succ_lt_succ enough)
        (fun member inside => starts member (List.mem_cons_of_mem _ inside))
        (fun member inside => reads member (List.mem_cons_of_mem _ inside))]
    rfl

/-! ## Lists -/

theorem listBy_items {read : Reader Value} (level outer : Nat) (first : Value)
    (items : List Value) (tail : Text)
    (begins : ∀ item ∈ first :: items, Begins (body level item))
    (reads : ∀ item ∈ first :: items, ∀ rest, Follows rest →
      read (body level item ++ rest) = .ok (item, rest)) :
    listBy read
        (itemText level first ++ ((items.flatMap fun item => ',' :: itemText level item) ++
          (newLine outer ++ ']' :: tail))) =
      .ok (first :: items, tail) := by
  have start := begins first List.mem_cons_self
  rw [listBy, skipSpace_itemText start]
  obtain ⟨letter, more, shape, -, notClosing, -⟩ := start
  have enough : items.length <
      (body level first ++ ((items.flatMap fun item => ',' :: itemText level item) ++
        (newLine outer ++ ']' :: tail))).length := by
    have count := length_le_flatMap items (itemText level)
    rw [shape]
    simp only [List.length_append, List.length_cons]
    omega
  have reading := (itemsBy_eq_membersBy read _ _).trans
    (membersBy_members (by decide) rfl outer _ first items tail enough
      (fun item member => skipSpace_itemText (begins item (List.mem_cons_of_mem _ member))) reads)
  rw [shape, List.cons_append] at reading ⊢
  split
  · next closing => exact absurd (List.cons.inj closing).1 notClosing
  · exact reading

/-! ## Dictionaries -/

/-- The text of an entry without the new line in front. -/
def entryBody (level : Nat) (entry : Text.Wide × Value) : Text :=
  '"' :: (entry.1.points.flatMap escapePoint ++ ('"' :: ':' :: ' ' :: body level entry.2))

theorem skipSpace_entryText (level : Nat) (entry : Text.Wide × Value) (rest : Text) :
    skipSpace (entryText level entry ++ rest) = entryBody level entry ++ rest := by
  have shape : entryText level entry = newLine level ++ entryBody level entry := by
    simp [entryText, entryBody, stringText]
  rw [shape, List.append_assoc, skipSpace_newLine]
  rfl

theorem entryBy_entry {read : Reader Value} {level : Nat} {entry : Text.Wide × Value} {rest : Text}
    (begins : Begins (body level entry.2))
    (reads : read (body level entry.2 ++ rest) = .ok (entry.2, rest)) :
    entryBy read (entryBody level entry ++ rest) = .ok (entry, rest) := by
  have key := string_stringText entry.1 (':' :: ' ' :: (body level entry.2 ++ rest))
  have value : skipSpace (' ' :: (body level entry.2 ++ rest)) = body level entry.2 ++ rest :=
    begins.skipSpace rest
  rw [entryBody, List.cons_append, List.append_assoc, List.cons_append, List.cons_append,
    List.cons_append, entryBy, key]
  change (read (skipSpace (' ' :: (body level entry.2 ++ rest))) >>= fun result =>
    pure ((entry.1, result.1), result.2)) = _
  rw [value, reads]
  rfl

theorem dictBy_entries {read : Reader Value} (level outer : Nat) (first : Text.Wide × Value)
    (entries : List (Text.Wide × Value)) (tail : Text)
    (begins : ∀ entry ∈ first :: entries, Begins (body level entry.2))
    (reads : ∀ entry ∈ first :: entries, ∀ rest, Follows rest →
      read (body level entry.2 ++ rest) = .ok (entry.2, rest)) :
    dictBy read
        (entryText level first ++ ((entries.flatMap fun entry => ',' :: entryText level entry) ++
          (newLine outer ++ '}' :: tail))) =
      .ok (first :: entries, tail) := by
  have enough : entries.length <
      (entryBody level first ++ ((entries.flatMap fun entry => ',' :: entryText level entry) ++
        (newLine outer ++ '}' :: tail))).length := by
    have count := length_le_flatMap entries (entryText level)
    rw [entryBody]
    simp only [List.length_append, List.length_cons]
    omega
  rw [dictBy, skipSpace_entryText]
  refine (entriesBy_eq_membersBy read _ _).trans ?_
  exact membersBy_members (by decide) rfl outer _ first entries tail enough
    (fun entry _ => skipSpace_entryText level entry)
    fun entry member rest follows =>
      entryBy_entry (begins entry member) (reads entry member rest follows)

/-! ## Values -/

/-- Whether a value is read back from its text wherever it stands in a written document. -/
def Reads (value : Value) : Prop :=
  ∀ level depth rest, (body level value).length ≤ depth → Follows rest →
    valueTo depth (body level value ++ rest) = .ok (value, rest)

/-- No text of a value is empty, so that reading one always has a depth to go. -/
theorem reads_of_succ {value : Value} (begins : ∀ level, Begins (body level value))
    (step : ∀ level depth rest, (body level value).length ≤ depth + 1 → Follows rest →
      valueTo (depth + 1) (body level value ++ rest) = .ok (value, rest)) : Reads value := by
  intro level depth rest deep follows
  cases depth with
  | zero =>
    obtain ⟨letter, tail, shape, -⟩ := begins level
    simp [shape] at deep
  | succ depth => exact step level depth rest deep follows

theorem valueTo_of_atom {depth : Nat} {letter : Char} {tail : Text} (noMark : letter ≠ '"')
    (noBracket : letter ≠ '[') (noBrace : letter ≠ '{') :
    valueTo (depth + 1) (letter :: tail) = atom (letter :: tail) := by
  rw [valueTo]
  · exact fun _ mark => noMark (List.cons.inj mark).1
  · exact fun _ bracket => noBracket (List.cons.inj bracket).1
  · exact fun _ brace => noBrace (List.cons.inj brace).1

theorem valueTo_of_isDigit {depth : Nat} {first : Char} (decimal : first.isDigit = true)
    (tail : Text) : valueTo (depth + 1) (first :: tail) = atom (first :: tail) :=
  valueTo_of_atom (ne_of_isDigit decimal rfl) (ne_of_isDigit decimal rfl)
    (ne_of_isDigit decimal rfl)

theorem valueTo_ofInt {depth : Nat} {value : Int} {rest : Text} :
    valueTo (depth + 1) (Text.ofInt value ++ rest) = atom (Text.ofInt value ++ rest) := by
  cases value with
  | ofNat digits =>
    obtain ⟨first, tail, shape, decimal⟩ := ofNat_eq_cons digits
    rw [Text.ofInt, shape]
    exact valueTo_of_isDigit decimal (tail ++ rest)
  | negSucc digits => exact valueTo_of_atom (by decide) (by decide) (by decide)

theorem valueTo_realText {depth : Nat} {number : Binary64} (rounded : number.IsRounded)
    {rest : Text} :
    valueTo (depth + 1) (realText number ++ rest) = atom (realText number ++ rest) := by
  cases number with
  | nan => exact valueTo_of_atom (by decide) (by decide) (by decide)
  | infinite negative =>
    cases negative <;> exact valueTo_of_atom (by decide) (by decide) (by decide)
  | finite negative significand exponent =>
    obtain ⟨parts, written, -⟩ := exists_realText negative rounded
    obtain ⟨first, tail, shape, decimal⟩ := Numeral.text_eq_cons parts
    rw [written, shape]
    cases negative with
    | false => exact valueTo_of_isDigit decimal (tail ++ rest)
    | true => exact valueTo_of_atom (by decide) (by decide) (by decide)

theorem valueTo_string (depth : Nat) (text : Text.Wide) (rest : Text) :
    valueTo (depth + 1) (stringText text ++ rest) = .ok (.ofWide text, rest) := by
  have reading := string_stringText text rest
  rw [stringText, List.cons_append, List.cons_append, List.append_assoc, List.cons_append,
    List.nil_append, valueTo, reading]
  rfl

theorem valueTo_list {real : Binary64 → Prop} {items : List Value} {level depth : Nat}
    {rest : Text} (each : ∀ item ∈ items, Storable real item)
    (begins : ∀ item ∈ items, Begins (body (level + 1) item))
    (reads : ∀ item ∈ items, ∀ rest, Follows rest →
      valueTo depth (body (level + 1) item ++ rest) = .ok (item, rest)) :
    valueTo (depth + 1) (body level (.list items) ++ rest) = .ok (.list items, rest) := by
  cases items with
  | nil => rfl
  | cons first items =>
    have reading := listBy_items (level + 1) level first items rest begins reads
    rw [body_list_cons each, List.cons_append, valueTo]
    simp only [List.append_assoc, List.cons_append, List.nil_append]
    rw [reading]
    rfl

theorem valueTo_dict {real : Binary64 → Prop} {entries : List (Text.Wide × Value)}
    {level depth : Nat} {rest : Text} (distinct : (entries.map Prod.fst).Nodup)
    (each : ∀ entry ∈ entries, Storable real entry.2)
    (begins : ∀ entry ∈ entries, Begins (body (level + 1) entry.2))
    (reads : ∀ entry ∈ entries, ∀ rest, Follows rest →
      valueTo depth (body (level + 1) entry.2 ++ rest) = .ok (entry.2, rest)) :
    valueTo (depth + 1) (body level (.dict (Value.wideKeyed entries)) ++ rest) =
      .ok (.dict (Value.wideKeyed entries), rest) := by
  cases entries with
  | nil => rfl
  | cons first entries =>
    have reading := dictBy_entries (level + 1) level first entries rest begins reads
    have same : dictOf (first :: entries) = .dict (Value.wideKeyed (first :: entries)) := by
      change Value.dictOf (Value.wideKeyed (first :: entries)) = _
      rw [Value.faithful_ofWide.dictOf_keyedBy, putAll_eq_append distinct, List.nil_append]
    rw [body_dict_cons each, List.cons_append, valueTo]
    simp only [List.append_assoc, List.cons_append, List.nil_append]
    rw [reading]
    change Except.ok (dictOf (first :: entries), rest) = _
    rw [same]

theorem length_le_of_mem {α : Type} {part : α} {parts : List α} (text : α → Text)
    (member : part ∈ parts) :
    (text part).length < (parts.flatMap fun part => ',' :: text part).length := by
  induction parts with
  | nil => simp at member
  | cons first parts induction =>
    rw [List.flatMap_cons, List.length_append, List.length_cons]
    rcases List.mem_cons.mp member with rfl | later
    · omega
    · have bound := induction later
      omega

/-- An item is nested less deep than the text of its list is long. -/
theorem length_body_item {real : Binary64 → Prop} {items : List Value} {item : Value}
    (each : ∀ item ∈ items, Storable real item) (member : item ∈ items) (level : Nat) :
    (body (level + 1) item).length < (body level (.list items)).length := by
  cases items with
  | nil => simp at member
  | cons first items =>
    rw [body_list_cons each]
    simp only [List.length_cons, List.length_append]
    rcases List.mem_cons.mp member with rfl | later
    · simp only [itemText, List.length_append]
      omega
    · have bound := length_le_of_mem (itemText (level + 1)) later
      simp only [itemText, List.length_append] at bound ⊢
      omega

/-- A value is nested less deep than the text of its dictionary is long. -/
theorem length_body_entry {real : Binary64 → Prop} {entries : List (Text.Wide × Value)}
    {entry : Text.Wide × Value} (each : ∀ entry ∈ entries, Storable real entry.2)
    (member : entry ∈ entries) (level : Nat) :
    (body (level + 1) entry.2).length < (body level (.dict (Value.wideKeyed entries))).length := by
  cases entries with
  | nil => simp at member
  | cons first entries =>
    rw [body_dict_cons each]
    simp only [List.length_cons, List.length_append]
    rcases List.mem_cons.mp member with rfl | later
    · simp only [entryText, List.length_append]
      omega
    · have bound := length_le_of_mem (entryText (level + 1)) later
      simp only [entryText, List.length_append] at bound ⊢
      omega

theorem Storable.reads {value : Value} (rounded : Rounded value) : Reads value := by
  have begins := rounded.begins
  induction rounded with
  | none => exact reads_of_succ begins fun _ _ _ _ _ => rfl
  | bool value => cases value <;> exact reads_of_succ begins fun _ _ _ _ _ => rfl
  | int value short =>
    refine reads_of_succ begins fun level depth rest _ follows => ?_
    rw [body_int short, valueTo_ofInt, atom_ofInt short follows]
  | float value allowed =>
    refine reads_of_succ begins fun level depth rest _ follows => ?_
    exact (valueTo_realText allowed).trans (atom_realText allowed follows)
  | str text =>
    exact reads_of_succ begins fun _ depth rest _ _ => valueTo_string depth (.whole text) rest
  | halved text =>
    exact reads_of_succ begins fun _ depth rest _ _ => valueTo_string depth (.halved text) rest
  | list items each induction =>
    refine reads_of_succ begins fun level depth rest deep _ => ?_
    refine valueTo_list each (fun item member => (each item member).begins _) ?_
    intro item member rest follows
    have shorter := length_body_item each member level
    exact induction item member (each item member).begins _ _ _ (by omega) follows
  | dict entries distinct each induction =>
    refine reads_of_succ begins fun level depth rest deep _ => ?_
    refine valueTo_dict distinct each (fun entry member => (each entry member).begins _) ?_
    intro entry member rest follows
    have shorter := length_body_entry each member level
    exact induction entry member (each entry member).begins _ _ _ (by omega) follows

/-! ## Line ends -/

theorem digitChar_ne_return {digit : Nat} (small : digit < 16) : digit.digitChar ≠ '\r' := by
  interval_cases digit <;> decide

theorem return_notMem_escapeUnit {unit : Nat} (small : unit < 0x10000) :
    '\r' ∉ escapeUnit unit := by
  rw [escapeUnit, Text.ofNatBase_hexadecimal small]
  simp only [List.mem_cons, List.not_mem_nil, or_false, not_or]
  refine ⟨by decide, by decide, ?_, ?_, ?_, ?_⟩ <;>
    exact (digitChar_ne_return (by omega)).symm

theorem return_notMem_stringText (text : Text.Wide) : '\r' ∉ stringText text := by
  have letters (letter : Char) : '\r' ∉ escapeChar letter := by
    unfold escapeChar
    split_ifs with _ _ _ carriage
    all_goals try decide
    · simpa using Ne.symm carriage
    · intro member
      obtain ⟨unit, unitMember, escape⟩ := List.mem_flatMap.mp member
      exact return_notMem_escapeUnit (Text.toUnits_lt letter unitMember) escape
  have points (point : Text.Point) : '\r' ∉ escapePoint point := by
    cases point with
    | char letter => exact letters letter
    | half place => exact return_notMem_escapeUnit (by omega)
  simp [stringText, points]

theorem return_notMem_newLine (level : Nat) : '\r' ∉ newLine level := by
  simp [newLine, List.mem_replicate]

theorem return_notMem_ofInt (value : Int) : '\r' ∉ Text.ofInt value := by
  have digits (number : Nat) : '\r' ∉ Text.ofNat number := fun member =>
    absurd (Text.isDigit_of_mem_ofNat member) (by decide)
  cases value with
  | ofNat number => exact digits number
  | negSucc number => simp [Text.ofInt, digits]

/-- No digit is a carriage return, and neither is a point or the mark or sign of an exponent. -/
theorem return_notMem_parts (parts : Numeral.Parts) : '\r' ∉ parts.text := by
  have digits {text : Text} (decimal : ∀ digit ∈ text, digit.isDigit = true) : '\r' ∉ text :=
    fun member => absurd (decimal _ member) (by decide)
  have point : '\r' ∉ parts.pointText := by
    obtain ⟨-, shape⟩ | ⟨-, shape⟩ := parts.pointText_cases
    · simp [shape]
    · simp [shape, digits parts.part_digits]
  have power : '\r' ∉ parts.powerText := by
    obtain ⟨-, shape⟩ | ⟨power, -, shape⟩ := parts.powerText_cases
    · simp [shape]
    · have exponent : '\r' ∉ Numeral.exponentDigits power :=
        digits fun _ => Numeral.isDigit_of_mem_exponentDigits
      rw [shape, exponentText]
      change '\r' ∉ 'e' :: _ :: Numeral.exponentDigits power
      split_ifs <;> simp [exponent]
  simp [Numeral.Parts.text, digits parts.whole_digits, point, power]

theorem return_notMem_realText {number : Binary64} (rounded : number.IsRounded) :
    '\r' ∉ realText number := by
  cases number with
  | nan => decide
  | infinite negative => cases negative <;> decide
  | finite negative significand exponent =>
    obtain ⟨parts, written, -⟩ := exists_realText negative rounded
    rw [written]
    cases negative <;> simp [return_notMem_parts]

theorem Storable.return_notMem {value : Value} (rounded : Rounded value) (level : Nat) :
    '\r' ∉ body level value := by
  induction rounded generalizing level with
  | none => simp [body, write, atomText?, Writing.done]
  | bool value => cases value <;> simp [body, write, atomText?, Writing.done]
  | int value short =>
    rw [body_int short]
    exact return_notMem_ofInt value
  | float value allowed => exact return_notMem_realText allowed
  | str text => exact return_notMem_stringText (.whole text)
  | halved text => exact return_notMem_stringText (.halved text)
  | list items each induction =>
    cases items with
    | nil => simp [body, write, writeList, Writing.done]
    | cons first rest =>
      have item {item : Value} (member : item ∈ first :: rest) :
          '\r' ∉ itemText (level + 1) item := by
        simp [itemText, return_notMem_newLine, induction item member]
      rw [body_list_cons each]
      simpa [return_notMem_newLine, item List.mem_cons_self] using
        fun other later => item (List.mem_cons_of_mem first later)
  | dict entries distinct each induction =>
    cases entries with
    | nil => simp [body, write, writeDict, Writing.done]
    | cons first rest =>
      have entry {entry : Text.Wide × Value} (member : entry ∈ first :: rest) :
          '\r' ∉ entryText (level + 1) entry := by
        simp [entryText, return_notMem_newLine, return_notMem_stringText,
          induction entry member]
      rw [body_dict_cons each]
      simpa [return_notMem_newLine, entry List.mem_cons_self] using
        fun key value later => entry (List.mem_cons_of_mem first later)

/-! ## Documents -/

theorem Storable.encode_eq {real : Binary64 → Prop} {value : Value}
    (storable : Storable real value) : encode value = .done (body 0 value) :=
  storable.written 0 []

theorem decode_encode {value : Value} (rounded : Rounded value) :
    decode (encode value).text = .ok value := by
  have begins := rounded.begins 0
  have reading := rounded.reads 0 ((body 0 value).length + 1) [] (Nat.le_succ _) follows_nil
  have start := begins.skipSpace []
  rw [List.append_nil] at reading start
  have unmarked : ((body 0 value).head? == some '\ufeff') = false := by
    obtain ⟨letter, tail, shape, -, -, noMark⟩ := begins
    simpa [shape] using noMark
  rw [rounded.encode_eq, Writing.done, decode]
  simp only [unmarked, start, reading]
  rfl

end TypeSurvey.Document
