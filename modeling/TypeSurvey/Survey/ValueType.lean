import TypeSurvey.Text.Order
import TypeSurvey.Value.Basic

/-!
# Types of values

The text that describes the type of a value: lists and dictionaries show the sets of the types
inside them, everything that can be called is a function, and any other value is not described. A
container that is reached from itself has no type.
-/

namespace TypeSurvey

def ObjectKind.isCallable : ObjectKind → Bool
  | builtin | function | method | userClass | builtinClass | callableInstance => true
  | _ => false

namespace Value

variable [Text.SetOrder]

/-- What is shown for a value without a type. -/
def invalidType : Text := "Invalid Type (maximum recursion depth exceeded)".toList

mutual

def describedType : Value → Text
  | int _ => "int".toList
  | float _ => "float".toList
  | str _ | halved _ => "str".toList
  | bool _ => "bool".toList
  | list items =>
    if items.isEmpty then "List[Any]".toList
    else "List[".toList ++ Text.members (describedTypes items) ++ "]".toList
  | dict entries =>
    if entries.isEmpty then "Dict[Any, Any]".toList
    else
      "Dict[".toList ++ Text.members (keyTypes entries) ++ ", ".toList ++
        Text.members (valueTypes entries) ++ "]".toList
  | object kind =>
    if kind = .endless then invalidType
    else if kind.isCallable then "function".toList
    else "Any".toList
  | _ => "Any".toList

def describedTypes : List Value → List Text
  | [] => []
  | first :: rest => describedType first :: describedTypes rest

/-- The descriptions of the types of the keys of entries. -/
def keyTypes : List (Value × Value) → List Text
  | [] => []
  | (key, _) :: rest => describedType key :: keyTypes rest

/-- The descriptions of the types of the values of entries. -/
def valueTypes : List (Value × Value) → List Text
  | [] => []
  | (_, value) :: rest => describedType value :: valueTypes rest

end

end Value

end TypeSurvey
