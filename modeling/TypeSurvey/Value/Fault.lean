import TypeSurvey.Number.FormatSpec
import TypeSurvey.Number.Literal
import TypeSurvey.Value.Display

/-!
# Faults of operations on values

Each fault is a cause. `Fault.message` words it, and `Fault.className` names the class of exceptions
under which a script can catch it.
-/

namespace TypeSurvey

/-- The reasons for which an operation on values fails. -/
inductive Fault
  | notIterable (kind : Text)
  | noLength (kind : Text)
  | notSubscriptable (kind : Text)
  | noAttribute (kind name : Text)
  | missingKey (key : Value)
  | indexRange (sequence : Text)
  /-- An assignment to a position outside a list. -/
  | assignmentRange
  /-- A text indexed by a value that is no integer. -/
  | textIndex (kind : Text)
  /-- A sequence indexed by a value that is no integer. -/
  | sequenceIndex (sequence kind : Text)
  | notNumber (kind : Text)
  | unreadableFloat (value : Value)
  | unreadableInt (value : Value)
  /-- A text of more digits than are read. -/
  | tooManyDigits (digits : Nat)
  /-- An integer of more digits than are written. -/
  | tooLongInteger
  | integerTooLarge
  | format (cause : FormatFault)
  | bytesExpected (kind : Text)
  | concatenate (left right : Text)
  | takesNoArguments (kind : Text)
  /-- Row labels that are not as many as the rows. -/
  | labelCount (labels rows : Nat)
  /-- Headers for a list of dictionaries that name no keys. -/
  | dictHeaders
  | exhausted
  | unhashable (kind : Text)
  | assertion
  | unsupportedOperands (operator left right : Text)
  | notOrdered (operator left right : Text)
  /-- A width that is not positive. -/
  | wrapWidth (width : Int)
  /-- The value false for a width. -/
  | wrapFlag
  | placeholderTooLarge
  /-- An operation that does not end. No script can catch this. -/
  | endless
  | notInteger (kind : Text)
  /-- The greatest of no values. -/
  | emptyMaximum (function : Text)
  | notSerializable (kind : Text)
  | badKey (kind : Text)
  /-- A due date of a type other than text. -/
  | dateType (kind : Text)
  /-- Any other call whose argument has the wrong type. -/
  | textItem (index : Nat) (kind : Text)

/-- A type's name between single marks. -/
def Fault.marked (kind : Text) : Text := "'".toList ++ kind ++ "'".toList

def Fault.message : Fault → Text
  | .notIterable kind => marked kind ++ " object is not iterable".toList
  | .noLength kind => "object of type ".toList ++ marked kind ++ " has no len()".toList
  | .notSubscriptable kind => marked kind ++ " object is not subscriptable".toList
  | .noAttribute kind name => marked kind ++ " object has no attribute ".toList ++ marked name
  | .missingKey key => key.quoted
  | .indexRange sequence => sequence ++ " index out of range".toList
  | .assignmentRange => "list assignment index out of range".toList
  | .textIndex kind => "string indices must be integers, not ".toList ++ marked kind
  | .sequenceIndex sequence kind =>
    sequence ++ " indices must be integers or slices, not ".toList ++ kind
  | .notNumber kind =>
    "float() argument must be a string or a real number, not ".toList ++ marked kind
  | .unreadableFloat value => "could not convert string to float: ".toList ++ value.quoted
  | .unreadableInt value => "invalid literal for int() with base 10: ".toList ++ value.quoted
  | .tooManyDigits digits =>
    "Exceeds the limit (4300 digits) for integer string conversion: value has ".toList ++
      Text.ofNat digits ++
      " digits; use sys.set_int_max_str_digits() to increase the limit".toList
  | .tooLongInteger =>
    ("Exceeds the limit (4300 digits) for integer string conversion; " ++
      "use sys.set_int_max_str_digits() to increase the limit").toList
  | .integerTooLarge => "int too large to convert to float".toList
  | .format cause => cause.message
  | .bytesExpected kind => "a bytes-like object is required, not ".toList ++ marked kind
  | .concatenate left right =>
    "can only concatenate ".toList ++ left ++ " (not \"".toList ++ right ++ "\") to ".toList ++ left
  | .takesNoArguments kind => kind ++ " takes no arguments".toList
  | .labelCount labels rows =>
    "index must be as long as the number of data rows: len(index)=".toList ++ Text.ofNat labels ++
      " len(rows)=".toList ++ Text.ofNat rows
  | .dictHeaders => "headers for a list of dicts is not a dict or a keyword".toList
  | .exhausted => []
  | .unhashable kind => "unhashable type: ".toList ++ marked kind
  | .assertion => []
  | .unsupportedOperands operator left right =>
    "unsupported operand type(s) for ".toList ++ operator ++ ": ".toList ++ marked left ++
      " and ".toList ++ marked right
  | .notOrdered operator left right =>
    marked operator ++ " not supported between instances of ".toList ++ marked left ++
      " and ".toList ++ marked right
  | .wrapWidth width => "invalid width ".toList ++ Text.ofInt width ++ " (must be > 0)".toList
  | .wrapFlag => "invalid width False (must be > 0)".toList
  | .placeholderTooLarge => "placeholder too large for max width".toList
  | .endless => []
  | .notInteger kind => marked kind ++ " object cannot be interpreted as an integer".toList
  | .emptyMaximum function => function ++ "() arg is an empty sequence".toList
  | .notSerializable kind => "Object of type ".toList ++ kind ++ " is not JSON serializable".toList
  | .badKey kind => "keys must be str, int, float, bool or None, not ".toList ++ kind
  | .dateType kind => "strptime() argument 1 must be str, not ".toList ++ kind
  | .textItem index kind =>
    "sequence item ".toList ++ Text.ofNat index ++ ": expected str instance, ".toList ++ kind ++
      " found".toList

def FormatFault.className : FormatFault → Text
  | .integerTooLarge | .characterRange | .characterWord => "OverflowError".toList
  | .unsupported _ | .notText _ => "TypeError".toList
  | _ => "ValueError".toList

/-- The class of exceptions that a fault belongs to. -/
def Fault.className : Fault → Text
  | .noAttribute _ _ => "AttributeError".toList
  | .missingKey _ => "KeyError".toList
  | .indexRange _ | .assignmentRange => "IndexError".toList
  | .unreadableFloat _ | .unreadableInt _ | .tooManyDigits _ | .tooLongInteger | .labelCount _ _
  | .dictHeaders | .wrapWidth _ | .wrapFlag | .placeholderTooLarge | .emptyMaximum _ =>
    "ValueError".toList
  | .integerTooLarge => "OverflowError".toList
  | .format cause => cause.className
  | .exhausted => "StopIteration".toList
  | .assertion => "AssertionError".toList
  | .endless => []
  | _ => "TypeError".toList

namespace Value

/-- The items of a value that can be iterated over. -/
def iterate (value : Value) : Except Fault (List Value) :=
  match value.items? with
  | some items => .ok items
  | Option.none => .error (.notIterable value.typeName)

def length (value : Value) : Except Fault Nat :=
  match value.length? with
  | some count => .ok count
  | Option.none => .error (.noLength value.typeName)

/-- Bytes as the text of the same codes; a byte beyond ASCII is no part of a number. -/
def latin (bytes : Text.Bytes) : Text :=
  bytes.map fun byte => if byte.toNat < 128 then Char.ofNat byte.toNat else '?'

/-- The real number that a value denotes. -/
def toFloat (value : Value) : Except Fault Binary64 :=
  match value.underived with
  | bool value => .ok (Binary64.ofInt (if value then 1 else 0))
  | int value =>
    let real := Binary64.ofInt value
    if real.isInfinite then .error .integerTooLarge else .ok real
  | float value => .ok value
  | str text => match Numeral.toBinary64? text with
    | some real => .ok real
    | Option.none => .error (.unreadableFloat (str text))
  | halved text => .error (.unreadableFloat (halved text))
  | bytes content => match Numeral.toBinary64? (latin content) with
    | some real => .ok real
    | Option.none => .error (.unreadableFloat (bytes content))
  | _ => .error (.notNumber value.typeName)

def formatBy (value : Value) (spec : Text) : Except FormatFault Text :=
  match value.underived with
  | str text => FormatSpec.formatText spec text
  | halved text => FormatSpec.formatText spec text.shown
  | int number =>
    if spec.isEmpty then .ok (Text.ofInt number)
    else FormatSpec.formatInt value.typeName spec number
  | bool truth =>
    if spec.isEmpty then .ok (boolText truth)
    else FormatSpec.formatInt "bool".toList spec (if truth then 1 else 0)
  | float number => FormatSpec.formatFloat value.typeName spec number
  | _ => if spec.isEmpty then .ok value.toText else .error (.unsupported value.typeName)

/-- A value written by a specifier that has to be a text. -/
def format (value spec : Value) : Except Fault Text :=
  match spec.underived with
  | str text => (value.formatBy text).mapError .format
  | none => .error (.format (.notText "None".toList))
  | other => .error (.format (.notText other.typeName))

end Value

end TypeSurvey
