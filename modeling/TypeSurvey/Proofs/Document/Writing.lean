import TypeSurvey.Document.Encode
import TypeSurvey.Proofs.Number.Rounding
import TypeSurvey.Proofs.Number.Digits
import TypeSurvey.Proofs.Value.Keyed

/-!
# What can be written

Whether a value can be written does not depend on the level of nesting or on the text before it. A
value of the format can be written, and its text is that of its parts with brackets, commas and line
ends around them.
-/

namespace TypeSurvey.Document

/-- The values of the format, with real numbers of a class. The keys of a dictionary are distinct
texts, and an integer has no more digits than are written. -/
inductive Storable (real : Binary64 → Prop) : Value → Prop where
  | none : Storable real .none
  | bool (value : Bool) : Storable real (.bool value)
  | int (value : Int) (short : value.natAbs < 10 ^ maxIntegerDigits) : Storable real (.int value)
  | float (value : Binary64) (allowed : real value) : Storable real (.float value)
  | str (text : Text) : Storable real (.str text)
  | halved (text : Text.Halved) : Storable real (.halved text)
  | list (items : List Value) (each : ∀ item ∈ items, Storable real item) :
      Storable real (.list items)
  | dict (entries : List (Text.Wide × Value)) (distinct : (entries.map Prod.fst).Nodup)
      (each : ∀ entry ∈ entries, Storable real entry.2) :
      Storable real (.dict (Value.wideKeyed entries))

/-- The values of the format without real numbers. -/
abbrev Plain : Value → Prop := Storable fun _ => False

/-- The values of the format whose real numbers are numbers that fractions are rounded to. -/
abbrev Rounded : Value → Prop := Storable Binary64.IsRounded

/-- The values of the format. -/
abbrev Loadable : Value → Prop := Storable fun _ => True

theorem Storable.mono {real other : Binary64 → Prop} {value : Value}
    (wider : ∀ number, real number → other number) (storable : Storable real value) :
    Storable other value := by
  induction storable with
  | none => exact .none
  | bool value => exact .bool value
  | int value short => exact .int value short
  | float value allowed => exact .float value (wider value allowed)
  | str text => exact .str text
  | halved text => exact .halved text
  | list items _ induction => exact .list items induction
  | dict entries distinct _ induction => exact .dict entries distinct induction

theorem Storable.ofWide {real : Binary64 → Prop} (text : Text.Wide) :
    Storable real (.ofWide text) := by
  cases text with
  | whole text => exact .str text
  | halved text => exact .halved text

theorem Storable.keyed {real : Binary64 → Prop} {entries : List (Text × Value)}
    (distinct : (entries.map Prod.fst).Nodup) (each : ∀ entry ∈ entries, Storable real entry.2) :
    Storable real (.dict (Value.keyed entries)) := by
  rw [Value.keyed_eq_wideKeyed]
  refine .dict _ ?_ fun entry member => ?_
  · have keys : (entries.map (Prod.map Text.Wide.whole id)).map Prod.fst =
        (entries.map Prod.fst).map Text.Wide.whole := by simp
    rw [keys]
    exact distinct.map fun _ _ => Text.Wide.whole.inj
  · obtain ⟨entry, inside, rfl⟩ := List.mem_map.mp member
    exact each entry inside

theorem Storable.rounded {value : Value} (plain : Plain value) : Rounded value :=
  plain.mono fun _ => False.elim

theorem Storable.loadable {real : Binary64 → Prop} {value : Value}
    (storable : Storable real value) : Loadable value :=
  storable.mono fun _ _ => trivial

/-- Whether a value stands somewhere in another one, itself included. -/
inductive Inside (part : Value) : Value → Prop where
  | self : Inside part part
  | item {items : List Value} {item : Value} (member : item ∈ items) (inside : Inside part item) :
      Inside part (.list items)
  | entry {entries : List (Value × Value)} {entry : Value × Value} (member : entry ∈ entries)
      (inside : Inside part entry.2) : Inside part (.dict entries)

/-- Whether no real number stands in a value. -/
def FloatFree (value : Value) : Prop := ∀ real, ¬ Inside (.float real) value

theorem Storable.plain {value : Value} (loadable : Loadable value) (free : FloatFree value) :
    Plain value := by
  induction loadable with
  | none => exact .none
  | bool value => exact .bool value
  | int value short => exact .int value short
  | float value _ => exact absurd Inside.self (free value)
  | str text => exact .str text
  | halved text => exact .halved text
  | list items _ induction =>
    refine .list items fun item member => induction item member fun real inside => ?_
    exact free real (.item member inside)
  | dict entries distinct _ induction =>
    refine .dict entries distinct fun entry member => induction entry member fun real inside => ?_
    have placed : (Value.ofWide entry.1, entry.2) ∈ Value.wideKeyed entries :=
      List.mem_map_of_mem member
    exact free real (.entry placed inside)

/-! ## Writing on -/

@[simp] theorem Writing.done_andThen (text : Text) (second : Writing) :
    (Writing.done text).andThen second = ⟨text ++ second.text, second.fault⟩ := rfl

theorem Writing.done_andThen_done (first second : Text) :
    (Writing.done first).andThen (.done second) = .done (first ++ second) := rfl

theorem Writing.fault_andThen (first second : Writing) :
    (first.andThen second).fault = first.fault.or second.fault := by
  obtain ⟨text, fault⟩ := first
  cases fault <;> rfl

/-! ## Faults -/

/-- Whether a value can be written as a document. -/
def Accepts (value : Value) : Prop := (encode value).fault = none

mutual

/-- The fault of a value depends on the value alone. -/
theorem fault_write (value : Value) (level other : Nat) (lead text : Text) :
    (write level lead value).fault = (write other text value).fault := by
  cases value with
  | list items => exact fault_writeList items level other lead text
  | tuple items => exact fault_writeList items level other lead text
  | namedTuple fields items => exact fault_writeList items level other lead text
  | dict entries => exact fault_writeDict entries level other lead text
  | int value =>
    simp only [write, atomText?, Value.underived]
    cases integerText value <;> rfl
  | derived className base =>
    rw [write, write]
    split
    · exact fault_write base level other lead text
    · rfl
  | _ => rfl
termination_by structural value

theorem fault_writeList (items : List Value) (level other : Nat) (lead text : Text) :
    (writeList level lead items).fault = (writeList other text items).fault := by
  cases items with
  | nil => rfl
  | cons first rest =>
    simp only [writeList, Writing.done_andThen, Writing.fault_andThen]
    rw [fault_write first (level + 1) (other + 1) _ ('[' :: newLine (other + 1)),
      fault_writeItems rest (level + 1) (other + 1)]
    rfl
termination_by structural items

theorem fault_writeItems (items : List Value) (level other : Nat) :
    (writeItems level items).fault = (writeItems other items).fault := by
  cases items with
  | nil => rfl
  | cons first rest =>
    simp only [writeItems, Writing.fault_andThen]
    rw [fault_write first level other _ (',' :: newLine other), fault_writeItems rest level other]
termination_by structural items

theorem fault_writeDict (entries : List (Value × Value)) (level other : Nat) (lead text : Text) :
    (writeDict level lead entries).fault = (writeDict other text entries).fault := by
  cases entries with
  | nil => rfl
  | cons entry rest =>
    obtain ⟨key, value⟩ := entry
    simp only [writeDict, Writing.done_andThen]
    cases keyText key with
    | error fault => rfl
    | ok text =>
      simp only [Writing.fault_andThen]
      rw [fault_write value (level + 1) (other + 1) [] [],
        fault_writeEntries rest (level + 1) (other + 1)]
      rfl
termination_by structural entries

theorem fault_writeEntries (entries : List (Value × Value)) (level other : Nat) :
    (writeEntries level entries).fault = (writeEntries other entries).fault := by
  cases entries with
  | nil => rfl
  | cons entry rest =>
    obtain ⟨key, value⟩ := entry
    simp only [writeEntries]
    cases keyText key with
    | error fault => rfl
    | ok text =>
      simp only [Writing.done_andThen, Writing.fault_andThen]
      rw [fault_write value level other [] [], fault_writeEntries rest level other]
termination_by structural entries

end

theorem Accepts.fault_eq_none {value : Value} (accepts : Accepts value) (level : Nat)
    (lead : Text) : (write level lead value).fault = none :=
  (fault_write value level 0 lead []).trans accepts

theorem fault_writeItems_eq_none {items : List Value} (each : ∀ item ∈ items, Accepts item)
    (level : Nat) : (writeItems level items).fault = none := by
  induction items with
  | nil => rfl
  | cons first rest induction =>
    rw [writeItems, Writing.fault_andThen, (each first List.mem_cons_self).fault_eq_none,
      induction fun item member => each item (List.mem_cons_of_mem _ member)]
    rfl

theorem keyText_ofWide (key : Text.Wide) : keyText (.ofWide key) = .ok (stringText key) := by
  cases key <;> rfl

theorem fault_writeEntries_eq_none {entries : List (Text.Wide × Value)}
    (each : ∀ entry ∈ entries, Accepts entry.2) (level : Nat) :
    (writeEntries level (Value.wideKeyed entries)).fault = none := by
  induction entries with
  | nil => rfl
  | cons first rest induction =>
    simp only [Value.keyedBy_cons, writeEntries, keyText_ofWide]
    rw [Writing.fault_andThen, Writing.fault_andThen,
      (each first List.mem_cons_self).fault_eq_none,
      induction fun entry member => each entry (List.mem_cons_of_mem _ member)]
    rfl

theorem accepts_list {items : List Value} (each : ∀ item ∈ items, Accepts item) :
    Accepts (.list items) := by
  cases items with
  | nil => rfl
  | cons first rest =>
    have later : ∀ item ∈ rest, Accepts item :=
      fun item member => each item (List.mem_cons_of_mem _ member)
    change (writeList 0 [] (first :: rest)).fault = none
    rw [writeList, Writing.fault_andThen, Writing.fault_andThen, Writing.fault_andThen,
      (each first List.mem_cons_self).fault_eq_none, fault_writeItems_eq_none later]
    rfl

/-- A dictionary under texts can be written if its values can. -/
theorem accepts_wideKeyed {entries : List (Text.Wide × Value)}
    (each : ∀ entry ∈ entries, Accepts entry.2) : Accepts (.dict (Value.wideKeyed entries)) := by
  cases entries with
  | nil => rfl
  | cons first rest =>
    have later : ∀ entry ∈ rest, Accepts entry.2 :=
      fun entry member => each entry (List.mem_cons_of_mem _ member)
    change (writeDict 0 [] (Value.wideKeyed (first :: rest))).fault = none
    simp only [Value.keyedBy_cons, writeDict, keyText_ofWide]
    rw [Writing.fault_andThen, Writing.fault_andThen, Writing.fault_andThen,
      Writing.fault_andThen, (each first List.mem_cons_self).fault_eq_none,
      fault_writeEntries_eq_none later]
    rfl

theorem integerText_of_short {value : Int} (short : value.natAbs < 10 ^ maxIntegerDigits) :
    integerText value = .ok (Text.ofInt value) := by
  have digits : (Text.ofNat value.natAbs).length ≤ maxIntegerDigits :=
    (Text.length_ofNat_le_iff (by decide)).mpr short
  rw [integerText, if_neg (by omega)]

theorem Storable.accepts {real : Binary64 → Prop} {value : Value}
    (storable : Storable real value) : Accepts value := by
  induction storable with
  | int value short =>
    simp [Accepts, encode, write, atomText?, integerText_of_short short, Writing.done]
  | list items _ induction => exact accepts_list induction
  | dict entries _ _ induction => exact accepts_wideKeyed induction
  | _ => rfl

/-! ## Texts -/

/-- The text of a value at a level of nesting. -/
def body (level : Nat) (value : Value) : Text := (write level [] value).text

/-- An item on a line of its own. -/
def itemText (level : Nat) (item : Value) : Text := newLine level ++ body level item

/-- An entry on a line of its own. -/
def entryText (level : Nat) (entry : Text.Wide × Value) : Text :=
  newLine level ++ stringText entry.1 ++ [':', ' '] ++ body level entry.2

/-- Whether a value is written after any text by its own text. -/
def Written (value : Value) : Prop :=
  ∀ level lead, write level lead value = .done (lead ++ body level value)

theorem writeItems_of_written {items : List Value} (each : ∀ item ∈ items, Written item)
    (level : Nat) :
    writeItems level items = .done (items.flatMap fun item => ',' :: itemText level item) := by
  induction items with
  | nil => rfl
  | cons first rest induction =>
    rw [writeItems, each first List.mem_cons_self,
      induction fun item member => each item (List.mem_cons_of_mem _ member),
      Writing.done_andThen_done, List.flatMap_cons]
    simp [itemText]

theorem write_list_of_written {first : Value} {rest : List Value}
    (each : ∀ item ∈ first :: rest, Written item) (level : Nat) (lead : Text) :
    write level lead (.list (first :: rest)) =
      .done (lead ++ '[' :: (itemText (level + 1) first ++
        (rest.flatMap fun item => ',' :: itemText (level + 1) item) ++ newLine level ++
          [']'])) := by
  have later := writeItems_of_written
    (fun item member => each item (List.mem_cons_of_mem _ member)) (level + 1)
  rw [write, writeList, each first List.mem_cons_self, later, closing]
  simp only [Writing.done_andThen_done, itemText, List.cons_append, List.append_assoc]

theorem writeEntries_of_written {entries : List (Text.Wide × Value)}
    (each : ∀ entry ∈ entries, Written entry.2) (level : Nat) :
    writeEntries level (Value.wideKeyed entries) =
      .done (entries.flatMap fun entry => ',' :: entryText level entry) := by
  induction entries with
  | nil => rfl
  | cons first rest induction =>
    simp only [Value.keyedBy_cons, writeEntries, keyText_ofWide]
    rw [each first List.mem_cons_self,
      induction fun entry member => each entry (List.mem_cons_of_mem _ member),
      List.flatMap_cons]
    simp only [Writing.done_andThen_done, entryText, List.cons_append, List.append_assoc,
      List.nil_append]

theorem write_dict_of_written {first : Text.Wide × Value} {rest : List (Text.Wide × Value)}
    (each : ∀ entry ∈ first :: rest, Written entry.2) (level : Nat) (lead : Text) :
    write level lead (.dict (Value.wideKeyed (first :: rest))) =
      .done (lead ++ '{' :: (entryText (level + 1) first ++
        (rest.flatMap fun entry => ',' :: entryText (level + 1) entry) ++ newLine level ++
          ['}'])) := by
  have later := writeEntries_of_written
    (fun entry member => each entry (List.mem_cons_of_mem _ member)) (level + 1)
  simp only [write, Value.keyedBy_cons, writeDict, keyText_ofWide]
  rw [each first List.mem_cons_self, later, closing]
  simp only [Writing.done_andThen_done, entryText, List.cons_append, List.append_assoc,
    List.nil_append]

/-- Every value of the format is written by its own text, whatever stands before it. -/
theorem Storable.written {real : Binary64 → Prop} {value : Value}
    (storable : Storable real value) : Written value := by
  induction storable with
  | int value short =>
    intro level lead
    simp [write, body, atomText?, integerText_of_short short, Writing.done]
  | list items _ induction =>
    intro level lead
    cases items with
    | nil => rfl
    | cons first rest =>
      rw [body, write_list_of_written induction, write_list_of_written induction]
      rfl
  | dict entries _ _ induction =>
    intro level lead
    cases entries with
    | nil => rfl
    | cons first rest =>
      rw [body, write_dict_of_written induction, write_dict_of_written induction]
      rfl
  | _ => exact fun level lead => rfl

end TypeSurvey.Document
