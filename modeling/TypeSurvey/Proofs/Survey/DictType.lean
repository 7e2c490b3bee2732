import TypeSurvey.Proofs.Survey.DescribedType
import TypeSurvey.Proofs.Text.Order
import Mathlib.Data.Finset.Lattice.Lemmas

/-!
# What the type of a dictionary shows

The type of a value is a word, or a word with types in brackets, and these can be read in one way
only. The type of a dictionary has one pair of brackets for two sets: the types of its keys in
order, and then the types of its values in order. No other mark stands between them. So it can be
seen where the values begin if some type of a key does not come before all types of values; if all
of them do, only the types of keys and values together can be seen.
-/

namespace TypeSurvey.Value

attribute [local instance] Text.SetOrder.sorted

/-! ## Dictionaries with the same type -/

theorem bracketed_of_mem_shownTypes {entries : List (Value × Value)} :
    ∀ type ∈ shownTypes entries, Text.Bracketed .phrases type := by
  intro type member
  rcases mem_shownTypes.mp member with key | value
  · exact bracketed_keyTypes entries type key
  · exact bracketed_valueTypes entries type value

/-- The type of a dictionary shows the members of its brackets one by one. -/
theorem describedType_dict_eq_iff_shownTypes {left right : List (Value × Value)}
    (nonempty : left ≠ []) (nonempty' : right ≠ []) :
    (dict left).describedType = (dict right).describedType ↔
      shownTypes left = shownTypes right := by
  rw [describedType_dict nonempty, describedType_dict nonempty']
  constructor
  · intro same
    have brackets := List.append_cancel_left (List.append_cancel_left same)
    exact (Text.join_readable (fun _ => Text.Bracketed.not_closes) bracketed_of_mem_shownTypes
      (fun type member => (bracketed_of_mem_shownTypes type member).readable)
      bracketed_of_mem_shownTypes (Text.closes_bracket []) (Text.closes_bracket []) brackets).1
  · intro same
    rw [same]

def keyTypeSet (entries : List (Value × Value)) : Finset Text := (keyTypes entries).toFinset

def valueTypeSet (entries : List (Value × Value)) : Finset Text := (valueTypes entries).toFinset

/-- Whether the types of the keys of entries all come before the types of the values. -/
def KeysFirst (entries : List (Value × Value)) : Prop :=
  ∀ key ∈ keyTypeSet entries, ∀ value ∈ valueTypeSet entries, Text.before key value = true

/-- Two dictionaries that are not empty show the same type if and only if the sets of the types of
their keys and of their values are the same, or in both of them all types of keys come before all
types of values and the types of keys and values together are the same. -/
theorem describedType_dict_eq_iff {left right : List (Value × Value)}
    (nonempty : left ≠ []) (nonempty' : right ≠ []) :
    (dict left).describedType = (dict right).describedType ↔
      (keyTypeSet left = keyTypeSet right ∧ valueTypeSet left = valueTypeSet right) ∨
      (KeysFirst left ∧ KeysFirst right ∧
        keyTypeSet left ∪ valueTypeSet left = keyTypeSet right ∪ valueTypeSet right) := by
  have shape (entries : List (Value × Value)) : shownTypes entries =
      Text.sortedOnce (keyTypes entries) ++ Text.sortedOnce (valueTypes entries) := rfl
  rw [describedType_dict_eq_iff_shownTypes nonempty nonempty', shape, shape,
    Text.sortedOnce_append_eq_iff]
  simp only [KeysFirst, keyTypeSet, valueTypeSet, Finset.ext_iff, Finset.mem_union,
    List.mem_toFinset, Text.before_iff_lt]

/-- A text and a number as keys, and a dictionary and an absent value under them. -/
def nestedEntries : List (Value × Value) :=
  [(str ['a'], dict [(int 1, list []), (bool true, list [str ['c']])]), (int 2, none)]

/-- The same types under other keys, in another order and with a repetition. -/
def shuffledEntries : List (Value × Value) :=
  [(int 5, tuple []), (str [], none),
    (str ['b'], dict [(bool false, list [none]), (int 0, list [str ['c']])])]

theorem describedType_dict_eq_iff_nested :
    nestedEntries ≠ [] ∧ shuffledEntries ≠ [] ∧
      keyTypeSet nestedEntries = keyTypeSet shuffledEntries ∧
      valueTypeSet nestedEntries = valueTypeSet shuffledEntries := by
  have nonempty : nestedEntries ≠ [] := List.cons_ne_nil _ _
  have nonempty' : shuffledEntries ≠ [] := List.cons_ne_nil _ _
  have same : (dict nestedEntries).describedType = (dict shuffledEntries).describedType := by decide
  refine ⟨nonempty, nonempty', ?_⟩
  rcases (describedType_dict_eq_iff nonempty nonempty').mp same with sets | ⟨first, -, -⟩
  · exact sets
  · exact absurd (first "str".toList (by decide) "Any".toList (by decide)) (by decide)

/-- Two dictionaries of the same type. In the first the keys are of one type and the values of two,
in the second it is the other way round. -/
theorem describedType_hides_values :
    (dict [(bool true, int 1), (bool false, str ['a'])]).describedType =
        (dict [(bool true, str ['a']), (int 2, str ['b'])]).describedType ∧
      keyTypeSet [(bool true, int 1), (bool false, str ['a'])] ≠
        keyTypeSet [(bool true, str ['a']), (int 2, str ['b'])] ∧
      valueTypeSet [(bool true, int 1), (bool false, str ['a'])] ≠
        valueTypeSet [(bool true, str ['a']), (int 2, str ['b'])] := by
  decide

end TypeSurvey.Value
