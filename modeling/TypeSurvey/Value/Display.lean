import TypeSurvey.Number.Shortest
import TypeSurvey.Text.Quoted
import TypeSurvey.Value.Basic

/-!
# Values as text

`quoted` writes a value as source text would, with texts in quotation marks. `toText` writes it for
a reader: a text stands for itself, and what is inside a container is quoted.
-/

namespace TypeSurvey.Value

/-- A number of a complex number, without a fraction of zero. -/
def partText (number : Binary64) : Text :=
  let shown := number.toText
  if Text.endsWith ".0".toList shown then shown.take (shown.length - 2) else shown

/-- A complex number: in brackets unless its real part is the positive zero. -/
def complexText (real imaginary : Binary64) : Text :=
  if real.isZero && !real.isNegative then partText imaginary ++ ['j']
  else
    let plus : Text := if imaginary.isNegative then [] else ['+']
    ['('] ++ partText real ++ plus ++ partText imaginary ++ "j)".toList

/-- A calendar date in the order year, month, day. -/
def dateText (year month day : Nat) : Text :=
  Text.ofNatBase 10 4 year ++ ['-'] ++ Text.ofNatBase 10 2 month ++ ['-'] ++ Text.ofNatBase 10 2 day

def boolText (value : Bool) : Text := if value then "True".toList else "False".toList

/-- The text of an object that is known only by its kind. -/
def objectText : ObjectKind → Text
  | .builtin => "<built-in function len>".toList
  | .builtinClass => "<class 'int'>".toList
  | .ellipsis => "Ellipsis".toList
  | .function => "<function>".toList
  | .method => "<method>".toList
  | .userClass => "<class>".toList
  | .plainInstance | .callableInstance | .bareObject => "<object>".toList
  | .moduleObject => "<module>".toList
  | .endless => "[...]".toList

def bracketed (opening closing : Text) (items : List Text) : Text :=
  opening ++ Text.join ", ".toList items ++ closing

/-- A tuple of written items; a single item has a comma after it. -/
def tupleText : List Text → Text
  | [item] => ['('] ++ item ++ ",)".toList
  | items => bracketed ['('] [')'] items

def setText (frozen : Bool) (items : List Text) : Text :=
  if items.isEmpty then (if frozen then "frozenset()".toList else "set()".toList)
  else if frozen then bracketed "frozenset(\x7b".toList "\x7d)".toList items
  else bracketed "\x7b".toList "\x7d".toList items

def recordText (fields : List Text) (items : List Text) : Text :=
  bracketed "Row(".toList [')'] (fields.zipWith (fun name item => name ++ ['='] ++ item) items)

mutual

/-- A value as source text. -/
def quoted : Value → Text
  | none => "None".toList
  | bool value => boolText value
  | int value => Text.ofInt value
  | float value => value.toText
  | complex real imaginary => complexText real imaginary
  | str value => Text.quoted value
  | halved value => Text.quotedHalved value
  | bytes value => Text.quotedBytes value
  | list items => bracketed ['['] [']'] (quotedItems items)
  | tuple items => tupleText (quotedItems items)
  | set frozen items => setText frozen (quotedItems items)
  | iterator _ => "<list_iterator>".toList
  | dict entries => bracketed "\x7b".toList "\x7d".toList (quotedEntries entries)
  | date year month day =>
    bracketed "datetime.date(".toList [')'] [Text.ofNat year, Text.ofNat month, Text.ofNat day]
  | namedTuple fields items => recordText fields (quotedItems items)
  | record fields items => recordText fields (quotedItems items)
  | range count => bracketed "range(".toList [')'] [['0'], Text.ofNat count]
  | derived _ base => quoted base
  | object kind => objectText kind
termination_by structural value => value

/-- Every item as source text. -/
def quotedItems : List Value → List Text
  | [] => []
  | item :: rest => quoted item :: quotedItems rest
termination_by structural items => items

/-- Every entry as source text, with a colon between key and value. -/
def quotedEntries : List (Value × Value) → List Text
  | [] => []
  | (key, value) :: rest => (quoted key ++ ": ".toList ++ quoted value) :: quotedEntries rest
termination_by structural entries => entries

end

/-- A value as text for a reader. Halves of characters that stand alone cannot be shown. -/
def toText (value : Value) : Text :=
  match value.underived with
  | str value => value
  | halved value => value.shown
  | date year month day => dateText year month day
  | _ => quoted value

end TypeSurvey.Value
