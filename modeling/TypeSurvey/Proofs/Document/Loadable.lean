import TypeSurvey.Proofs.Document.Reading
import TypeSurvey.Proofs.Outcome
import Mathlib.Data.List.TakeWhile

/-!
# What can be read

Whatever text a document has, the value that is read from it is a value of the format: its integers
are short enough to be written, its real numbers are rounded, and the keys of its dictionaries are
distinct texts. So it can be written again, and reads back as the same value.
-/

namespace TypeSurvey.Document

/-! ## Numbers and names -/

theorem isDigit_of_mem_wholeDigits {text : Text} {digit : Char}
    (member : digit ∈ wholeDigits text) : digit.isDigit = true := by
  unfold wholeDigits at member
  split at member
  · obtain rfl := List.mem_singleton.mp member
    rfl
  · exact List.mem_takeWhile_imp member

theorem short_of_length {number length : Nat} (bound : number < 10 ^ length)
    (short : ¬ length > maxIntegerDigits) : number < 10 ^ maxIntegerDigits :=
  bound.trans_le (Nat.pow_le_pow_right (by decide) (Nat.not_lt.mp short))

theorem isRounded_readMagnitude {negative : Bool} {text : Text} {number : Binary64}
    (reading : Numeral.readMagnitude? negative text = some number) : number.IsRounded := by
  unfold Numeral.readMagnitude? at reading
  dsimp only at reading
  split_ifs at reading
  · obtain rfl := Option.some.inj reading
    trivial
  · obtain rfl := Option.some.inj reading
    trivial
  · obtain ⟨⟨digits, exponent⟩, -, rfl⟩ := Option.map_eq_some_iff.mp reading
    exact Binary64.isRounded_ofDecimal negative digits exponent

theorem rounded_of_number {text rest : Text} {value : Value}
    (reading : number text = .ok (value, rest)) : Rounded value := by
  unfold number at reading
  dsimp only at reading
  generalize (takeMinus text).2 = digits at reading
  have bound := Numeral.digitsValue_lt (wholeDigits digits) fun _ => isDigit_of_mem_wholeDigits
  split_ifs at reading with empty whole long sign
  all_goals obtain ⟨rfl, -⟩ := Prod.mk.inj (Except.ok.inj reading)
  · exact .int _ (by simpa using short_of_length bound long)
  · exact .int _ (short_of_length bound long)
  · refine .float _ ?_
    cases magnitude : Numeral.readMagnitude? _ _ with
    | none => trivial
    | some number => exact isRounded_readMagnitude magnitude

theorem rounded_of_atom {text rest : Text} {value : Value}
    (reading : atom text = .ok (value, rest)) : Rounded value := by
  unfold atom at reading
  split at reading
  · next name found =>
      obtain ⟨rfl, -⟩ := Prod.mk.inj (Except.ok.inj reading)
      have known := List.mem_of_find?_eq_some found
      simp only [named, List.mem_cons, Prod.mk.injEq, List.not_mem_nil, or_false] at known
      obtain ⟨-, rfl⟩ | ⟨-, rfl⟩ | ⟨-, rfl⟩ | ⟨-, rfl⟩ | ⟨-, rfl⟩ | ⟨-, rfl⟩ := known
      · exact .none
      · exact .bool true
      · exact .bool false
      · exact .float _ trivial
      · exact .float _ trivial
      · exact .float _ trivial
  · exact rounded_of_number reading

/-! ## Lists and dictionaries -/

/-- Members are as their reader gives them. -/
theorem forall_of_membersBy {α : Type} {read : Reader α} {closing : Char} {missing : Cause}
    {fuel : Nat} {text rest : Text} {members : List α} {property : α → Prop}
    (each : ∀ text member rest, read text = .ok (member, rest) → property member)
    (reading : membersBy read closing missing fuel text = .ok (members, rest)) :
    ∀ member ∈ members, property member := by
  induction fuel generalizing text rest members with
  | zero => simp [membersBy] at reading
  | succ fuel induction =>
    rw [membersBy, bind_eq_ok] at reading
    obtain ⟨⟨first, after⟩, firstRead, later⟩ := reading
    have firstHolds := each _ _ _ firstRead
    dsimp only at later
    split at later
    · simp at later
    · split_ifs at later
      · obtain ⟨rfl, -⟩ := Prod.mk.inj (Except.ok.inj later)
        simpa using firstHolds
      · rw [bind_eq_ok] at later
        obtain ⟨⟨more, after⟩, moreRead, result⟩ := later
        obtain ⟨rfl, -⟩ := Prod.mk.inj (Except.ok.inj result)
        exact List.forall_mem_cons.mpr ⟨firstHolds, induction moreRead⟩

theorem forall_of_listBy {read : Reader Value} {text rest : Text} {items : List Value}
    {property : Value → Prop}
    (each : ∀ text value rest, read text = .ok (value, rest) → property value)
    (reading : listBy read text = .ok (items, rest)) : ∀ item ∈ items, property item := by
  unfold listBy at reading
  split at reading
  · obtain ⟨rfl, -⟩ := Prod.mk.inj (Except.ok.inj reading)
    simp
  · rw [itemsBy_eq_membersBy] at reading
    exact forall_of_membersBy each reading

theorem property_of_entryBy {read : Reader Value} {text rest : Text} {entry : Text.Wide × Value}
    {property : Value → Prop}
    (each : ∀ text value rest, read text = .ok (value, rest) → property value)
    (reading : entryBy read text = .ok (entry, rest)) : property entry.2 := by
  unfold entryBy at reading
  split at reading
  · rw [bind_eq_ok] at reading
    obtain ⟨⟨key, after⟩, -, later⟩ := reading
    dsimp only at later
    split at later
    · rw [bind_eq_ok] at later
      obtain ⟨⟨value, after⟩, valueRead, result⟩ := later
      obtain ⟨rfl, -⟩ := Prod.mk.inj (Except.ok.inj result)
      exact each _ _ _ valueRead
    · simp at later
  · simp at reading

/-- The values of a dictionary are as their reader gives them. -/
theorem forall_of_dictBy {read : Reader Value} {text rest : Text}
    {entries : List (Text.Wide × Value)} {property : Value → Prop}
    (each : ∀ text value rest, read text = .ok (value, rest) → property value)
    (reading : dictBy read text = .ok (entries, rest)) : ∀ entry ∈ entries, property entry.2 := by
  unfold dictBy at reading
  split at reading
  · obtain ⟨rfl, -⟩ := Prod.mk.inj (Except.ok.inj reading)
    simp
  · rw [entriesBy_eq_membersBy] at reading
    exact forall_of_membersBy (fun _ _ _ => property_of_entryBy each) reading

/-- Entries in the order of a text make a dictionary with distinct keys. -/
theorem rounded_dictOf {entries : List (Text.Wide × Value)}
    (each : ∀ entry ∈ entries, Rounded entry.2) : Rounded (dictOf entries) := by
  change Rounded (Value.dictOf (Value.wideKeyed entries))
  rw [Value.faithful_ofWide.dictOf_keyedBy]
  refine .dict _ (nodup_names_putAll entries) fun entry member => each entry ?_
  exact (mem_of_mem_putAll member).resolve_left List.not_mem_nil

/-! ## Documents -/

theorem rounded_of_valueTo {depth : Nat} {text rest : Text} {value : Value}
    (reading : valueTo depth text = .ok (value, rest)) : Rounded value := by
  induction depth generalizing text value rest with
  | zero => simp [valueTo] at reading
  | succ depth induction =>
    have each (text : Text) (value : Value) (rest : Text)
        (reading : valueTo depth text = .ok (value, rest)) : Rounded value := induction reading
    rw [valueTo.eq_def] at reading
    dsimp only at reading
    split at reading
    · rw [bind_eq_ok] at reading
      obtain ⟨⟨content, after⟩, -, result⟩ := reading
      obtain ⟨rfl, -⟩ := Prod.mk.inj (Except.ok.inj result)
      exact .ofWide content
    · rw [bind_eq_ok] at reading
      obtain ⟨⟨items, after⟩, itemsRead, result⟩ := reading
      obtain ⟨rfl, -⟩ := Prod.mk.inj (Except.ok.inj result)
      exact .list items (forall_of_listBy each itemsRead)
    · rw [bind_eq_ok] at reading
      obtain ⟨⟨entries, after⟩, entriesRead, result⟩ := reading
      obtain ⟨rfl, -⟩ := Prod.mk.inj (Except.ok.inj result)
      exact rounded_dictOf (forall_of_dictBy each entriesRead)
    · exact rounded_of_atom reading

theorem rounded_of_decode {text : Text} {value : Value} (reading : decode text = .ok value) :
    Rounded value := by
  unfold decode at reading
  rw [mapError_eq_ok] at reading
  split_ifs at reading with marked
  · simp [throw, throwThe, MonadExceptOf.throw, bind, Except.bind] at reading
  · dsimp only at reading
    rw [bind_eq_ok] at reading
    obtain ⟨⟨read, rest⟩, valueRead, ended⟩ := reading
    dsimp only at ended
    split at ended
    · obtain rfl := Except.ok.inj ended
      exact rounded_of_valueTo valueRead
    · simp [throw, throwThe, MonadExceptOf.throw] at ended

end TypeSurvey.Document
