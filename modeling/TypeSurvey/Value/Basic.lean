import TypeSurvey.Number.Binary64
import TypeSurvey.Text.Utf16
import TypeSurvey.Text.Utf8

/-!
# Values

The dynamic values that tables show, that a task file stores and whose types are surveyed. A
dictionary is its list of entries in order of insertion.
-/

namespace TypeSurvey

/-- Objects that are told apart only by their kind. -/
inductive ObjectKind
  | builtin
  | function
  | method
  | userClass
  | builtinClass
  | plainInstance
  | callableInstance
  | moduleObject
  | bareObject
  | ellipsis
  /-- A container that is reached from itself. -/
  | endless
deriving DecidableEq, Repr

/-- A value. -/
inductive Value
  | none
  | bool (value : Bool)
  | int (value : Int)
  | float (value : Binary64)
  | complex (real imaginary : Binary64)
  | str (value : Text)
  /-- A text in which halves of characters stand alone. -/
  | halved (value : Text.Halved)
  | bytes (value : Text.Bytes)
  | list (items : List Value)
  | tuple (items : List Value)
  | set (frozen : Bool) (items : List Value)
  /-- An iterator over the items still to come. -/
  | iterator (items : List Value)
  | dict (entries : List (Value × Value))
  | date (year month day : Nat)
  | namedTuple (fields : List Text) (items : List Value)
  /-- A record of named fields that is no tuple. -/
  | record (fields : List Text) (items : List Value)
  /-- The numbers from zero on, so many of them. -/
  | range (count : Nat)
  /-- A value of a class that is derived from the class of another value. -/
  | derived (className : Text) (base : Value)
  | object (kind : ObjectKind)

namespace Value

instance : Inhabited Value := ⟨none⟩

/-- A text value from a literal. -/
def ofString (text : String) : Value := .str text.toList

def ofWide : Text.Wide → Value
  | .whole text => str text
  | .halved text => halved text

def typeName : Value → Text
  | none => "NoneType".toList
  | bool _ => "bool".toList
  | int _ => "int".toList
  | float _ => "float".toList
  | complex _ _ => "complex".toList
  | str _ => "str".toList
  | halved _ => "str".toList
  | bytes _ => "bytes".toList
  | list _ => "list".toList
  | tuple _ => "tuple".toList
  | set frozen _ => if frozen then "frozenset".toList else "set".toList
  | iterator _ => "list_iterator".toList
  | dict _ => "dict".toList
  | date _ _ _ => "datetime.date".toList
  | namedTuple _ _ => "Row".toList
  | record _ _ => "Row".toList
  | range _ => "range".toList
  | derived className _ => className
  | object kind => match kind with
    | .builtin | .method => "builtin_function_or_method".toList
    | .function => "function".toList
    | .userClass | .builtinClass => "type".toList
    | .moduleObject => "module".toList
    | .bareObject | .endless => "object".toList
    | .ellipsis => "ellipsis".toList
    | .plainInstance => "C".toList
    | .callableInstance => "Callable".toList

/-- Whether a value is the empty or zero value of its type. -/
def isFalsy : Value → Bool
  | none => true
  | bool value => !value
  | int value => value == 0
  | float value => value.isZero
  | complex real imaginary => real.isZero && imaginary.isZero
  | str value => value.isEmpty
  | bytes value => value.isEmpty
  | list items => items.isEmpty
  | tuple items => items.isEmpty
  | set _ items => items.isEmpty
  | dict entries => entries.isEmpty
  | namedTuple _ items => items.isEmpty
  | range count => count == 0
  | derived _ base => isFalsy base
  | _ => false

/-- A value as one of the class that its own class is derived from; other values are kept. -/
@[simp] def underived : Value → Value
  | derived _ base => underived base
  | value => value

/-- Whether a value is a text. -/
def isTextual (value : Value) : Bool :=
  match value.underived with
  | str _ | halved _ => true
  | _ => false

/-- The items that iterating over a value gives; none if it cannot be iterated over. -/
def items? : Value → Option (List Value)
  | str value => some (value.map fun letter => str [letter])
  | halved value => some (value.points.map fun point => ofWide (.ofPoint point))
  | bytes value => some (value.map fun byte => int byte.toNat)
  | list items => some items
  | tuple items => some items
  | set _ items => some items
  | iterator items => some items
  | dict entries => some (entries.map Prod.fst)
  | namedTuple _ items => some items
  | range count => some ((List.range count).map fun (number : Nat) => int number)
  | derived _ base => items? base
  | _ => Option.none

/-- Whether a value is known by its length. -/
def isSized (value : Value) : Bool :=
  match value.underived with
  | iterator _ => false
  | _ => value.items?.isSome

/-- The number of items of a value that has a length. -/
def length? (value : Value) : Option Nat :=
  if value.isSized then value.items?.map List.length else Option.none

end Value

end TypeSurvey
