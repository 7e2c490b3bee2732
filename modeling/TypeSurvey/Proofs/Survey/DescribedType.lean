import TypeSurvey.Proofs.Text.Members
import TypeSurvey.Survey.ValueType

/-!
# The types of values as words with brackets

The type of a value is a word, or a word with types in brackets. Those of a list stand in the order
of the run, and those of a dictionary too, first the types of its keys and then the types of its
values. The words are names of types, and the phrase that is shown for a value without a type.
-/

namespace TypeSurvey.Value

variable [Text.SetOrder]

open Text.SetOrder (arrange mem_arrange)

/-- The members of the brackets of a dictionary: the types of its keys, then those of its values. -/
def shownTypes (entries : List (Value × Value)) : List Text :=
  arrange (keyTypes entries) ++ arrange (valueTypes entries)

theorem describedType_list_nil : (list []).describedType = "List[Any]".toList := by
  rw [describedType]
  rfl

theorem describedType_dict_nil : (dict []).describedType = "Dict[Any, Any]".toList := by
  rw [describedType]
  rfl

theorem describedType_list {items : List Value} (nonempty : items ≠ []) :
    (list items).describedType = "List".toList ++ ("[".toList ++
      (Text.join ", ".toList (arrange (describedTypes items)) ++ "]".toList)) := by
  rw [describedType, if_neg (by simpa using nonempty), List.append_assoc]
  rfl

theorem describedType_dict {entries : List (Value × Value)} (nonempty : entries ≠ []) :
    (dict entries).describedType = "Dict".toList ++ ("[".toList ++
      (Text.join ", ".toList (shownTypes entries) ++ "]".toList)) := by
  obtain ⟨⟨key, value⟩, rest, rfl⟩ := List.exists_cons_of_ne_nil nonempty
  have keys : arrange (keyTypes ((key, value) :: rest)) ≠ [] :=
    List.ne_nil_of_mem (mem_arrange.mpr List.mem_cons_self)
  have values : arrange (valueTypes ((key, value) :: rest)) ≠ [] :=
    List.ne_nil_of_mem (mem_arrange.mpr List.mem_cons_self)
  rw [shownTypes, Text.join_append keys values, describedType, if_neg (by simp)]
  simp only [Text.members, List.append_assoc]
  rfl

theorem mem_shownTypes {entries : List (Value × Value)} {type : Text} :
    type ∈ shownTypes entries ↔ type ∈ keyTypes entries ∨ type ∈ valueTypes entries := by
  rw [shownTypes, List.mem_append, mem_arrange, mem_arrange]

omit [Text.SetOrder] in
theorem bracketed_any : Text.Bracketed .phrases "Any".toList := .word (by decide)

mutual

/-- The type of a value is a word, or a word with types in brackets. -/
theorem bracketed_describedType (value : Value) : Text.Bracketed .phrases value.describedType := by
  cases value with
  | bool _ => exact .word (by decide : Text.IsWord .phrases "bool".toList)
  | int _ => exact .word (by decide : Text.IsWord .phrases "int".toList)
  | float _ => exact .word (by decide : Text.IsWord .phrases "float".toList)
  | str _ | halved _ => exact .word (by decide : Text.IsWord .phrases "str".toList)
  | list items =>
    by_cases empty : items = []
    · have shape : "List[Any]".toList = "List".toList ++ ("[".toList ++
          (Text.join ", ".toList ["Any".toList] ++ "]".toList)) := by decide
      rw [empty, describedType_list_nil, shape]
      exact .members (by decide) (by simpa using bracketed_any)
    · rw [describedType_list empty]
      refine .members (by decide) fun type member => ?_
      exact bracketed_describedTypes items type (mem_arrange.mp member)
  | dict entries =>
    by_cases empty : entries = []
    · have shape : "Dict[Any, Any]".toList = "Dict".toList ++ ("[".toList ++
          (Text.join ", ".toList ["Any".toList, "Any".toList] ++ "]".toList)) := by decide
      rw [empty, describedType_dict_nil, shape]
      exact .members (by decide) (by simpa using bracketed_any)
    · rw [describedType_dict empty]
      refine .members (by decide) fun type member => ?_
      rcases mem_shownTypes.mp member with key | value
      · exact bracketed_keyTypes entries type key
      · exact bracketed_valueTypes entries type value
  | object kind =>
    rw [describedType]
    split_ifs
    · exact .word (by decide : Text.IsWord .phrases invalidType)
    · exact .word (by decide)
    · exact bracketed_any
  | _ => exact bracketed_any

theorem bracketed_describedTypes (items : List Value) :
    ∀ type ∈ describedTypes items, Text.Bracketed .phrases type := by
  cases items with
  | nil => exact List.forall_mem_nil _
  | cons first rest =>
    exact List.forall_mem_cons.mpr ⟨bracketed_describedType first, bracketed_describedTypes rest⟩

theorem bracketed_keyTypes (entries : List (Value × Value)) :
    ∀ type ∈ keyTypes entries, Text.Bracketed .phrases type := by
  cases entries with
  | nil => exact List.forall_mem_nil _
  | cons entry rest =>
    obtain ⟨key, value⟩ := entry
    exact List.forall_mem_cons.mpr ⟨bracketed_describedType key, bracketed_keyTypes rest⟩

theorem bracketed_valueTypes (entries : List (Value × Value)) :
    ∀ type ∈ valueTypes entries, Text.Bracketed .phrases type := by
  cases entries with
  | nil => exact List.forall_mem_nil _
  | cons entry rest =>
    obtain ⟨key, value⟩ := entry
    exact List.forall_mem_cons.mpr ⟨bracketed_describedType value, bracketed_valueTypes rest⟩

end

end TypeSurvey.Value
