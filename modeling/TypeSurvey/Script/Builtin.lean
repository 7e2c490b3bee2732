import TypeSurvey.Script.Member
import TypeSurvey.Value.Fault

/-!
# Built-in functions and classes

Calls of the built-in functions and classes that scripts use.
-/

namespace TypeSurvey.Script

/-- Raises the exception of a fault of values. -/
def raiseFault {α : Type} (fault : Fault) : Action α :=
  fail (String.ofList fault.className) fault.message

/-- The integer that a datum is turned into. -/
def wholeFrom (datum : Datum) : Action Int := do
  let machine ← get
  match datum, quantity? datum with
  | .str text, _ =>
    match Numeral.readInt text with
    | .integer value => return value
    | .tooLong digits => raiseFault (.tooManyDigits digits)
    | .malformed => raiseFault (.unreadableInt (.str text))
  | _, some (.whole value) => return value
  | _, some (.real value) =>
    match value.truncate? with
    | some whole => return whole
    | none =>
      if value.isNan then fail "ValueError" "cannot convert float NaN to integer".toList
      else fail "OverflowError" "cannot convert float infinity to integer".toList
  | _, _ =>
    fail "TypeError"
      ("int() argument must be a string, a bytes-like object or a real number, not ".toList ++
        typeInMarks machine datum)

/-- The real number that a datum is turned into. -/
def realFrom (datum : Datum) : Action Binary64 := do
  let machine ← get
  match (machine.resolve datum).toFloat with
  | .ok value => return value
  | .error (.notNumber _) => raiseFault (.notNumber (machine.typeName datum))
  | .error fault => raiseFault fault

def lengthOf (datum : Datum) : Action Nat := do
  let machine ← get
  match machine.thingOf? datum, itemsOf? machine datum with
  | some (.iterable kind items), _ =>
    if isOneOf ["range", "dict_keys", "dict_values", "dict_items"] kind then return items.length
    else raiseFault (.noLength kind)
  | _, some items => return items.length
  | _, none => raiseFault (.noLength (machine.typeName datum))

def setOf (items : List Datum) : Action Datum := do
  for item in items do
    checkKey item
  allocate (.set (items.foldl (putMember (← get)) []))

/-- The entries of the dictionary that a datum is turned into. -/
def entriesFrom (datum : Datum) : Action (List (Datum × Datum)) := do
  let machine ← get
  match machine.thingOf? datum with
  | some (.dict entries) => return entries
  | _ =>
    let items ← itemsOf datum
    let pairs ← items.zipIdx.mapM fun (item, place) => do
      match itemsOf? (← get) item with
      | some [key, value] =>
        checkKey key
        pure (key, value)
      | some other =>
        fail "ValueError" ("dictionary update sequence element #".toList ++ Text.ofNat place ++
          " has length ".toList ++ Text.ofNat other.length ++ "; 2 is required".toList)
      | none =>
        fail "TypeError" ("cannot convert dictionary update sequence element #".toList ++
          Text.ofNat place ++ " to a sequence".toList)
    return pairs.foldl (fun found entry => putEntry machine entry.1 entry.2 found) []

def rangeItems (start stop step : Int) : List Datum :=
  let number := if step > 0 then (if start < stop then ((stop - start - 1) / step + 1).toNat else 0)
    else (if stop < start then ((start - stop - 1) / (-step) + 1).toNat else 0)
  (List.range number).map fun (turn : Nat) => .int (start + turn * step)

/-- Prints data with blanks between them and a line end after them, unless told otherwise. -/
def printData (items : List Datum) (named : Names) : Action Datum := do
  let machine ← get
  let option (name : String) (default : Text) : Text :=
    match named.get? name.toList with
    | some (.str text) => text
    | _ => default
  let separator := option "sep" [' ']
  printText (Text.join separator (items.map machine.textOf) ++ option "end" ['\n'])
  return .none

def isInstance (machine : Machine) (datum class_ : Datum) : Bool :=
  let kind : Datum := match machine.thingOf? datum with
    | some (.instance_ class_ _ _) => class_
    | _ => .builtin (machine.typeName datum)
  (machine.ancestors kind).contains class_ ||
    (kind == .builtin "bool".toList && class_ == .builtin "int".toList)

/-- The extreme of some data by an order. -/
def extreme (name : String) (op : Source.CompareOp) (items : List Datum) : Action Datum := do
  match items with
  | [] => raiseFault (.emptyMaximum name.toList)
  | first :: rest =>
    rest.foldlM (fun best item => do
      if ← compareData op item best then return item else return best) first

/-- Puts an item into its place among items in order, after those that are equal to it. -/
def insertInOrder (item : Datum) : List Datum → Action (List Datum)
  | [] => return [item]
  | first :: rest => do
    if ← compareData .lt item first then return item :: first :: rest
    else return first :: (← insertInOrder item rest)

/-- Calls a built-in function or class with arguments by position. -/
def callPositional (name : String) (arguments : List Datum) : Action Datum := do
  let machine ← get
  match name, arguments with
  | "len", [datum] => return .int (← lengthOf datum)
  | "len", _ =>
    fail "TypeError" ("len() takes exactly one argument (".toList ++
      Text.ofNat arguments.length ++ " given)".toList)
  | "int", [] => return .int 0
  | "int", [datum] => return .int (← wholeFrom datum)
  | "float", [] => return .float (Binary64.zero false)
  | "float", [datum] => return .float (← realFrom datum)
  | "str", [] => return .str []
  | "str", [datum] => return .str (machine.textOf datum)
  | "repr", [datum] => return .str (machine.resolve datum).quoted
  | "bool", [] => return .bool false
  | "bool", [datum] => return .bool (machine.truth datum)
  | "list", [] => allocate (.list [])
  | "list", [datum] => allocate (.list (← itemsOf datum))
  | "tuple", [] => allocate (.tuple [])
  | "tuple", [datum] => allocate (.tuple (← itemsOf datum))
  | "set", [] => allocate (.set [])
  | "set", [datum] => setOf (← itemsOf datum)
  | "dict", [] => allocate (.dict [])
  | "dict", [datum] => allocate (.dict (← entriesFrom datum))
  | "range", [stop] =>
    match wholeOf? stop with
    | some stop => allocate (.iterable "range".toList (rangeItems 0 stop 1))
    | none => raiseFault (.notInteger (machine.typeName stop))
  | "range", [start, stop] =>
    match wholeOf? start, wholeOf? stop with
    | some start, some stop => allocate (.iterable "range".toList (rangeItems start stop 1))
    | _, _ => throw .unsupported
  | "range", [start, stop, step] =>
    match wholeOf? start, wholeOf? stop, wholeOf? step with
    | some start, some stop, some step =>
      if step = 0 then fail "ValueError" "range() arg 3 must not be zero".toList
      allocate (.iterable "range".toList (rangeItems start stop step))
    | _, _, _ => throw .unsupported
  | "abs", [datum] =>
    match quantity? datum with
    | some (.whole value) => return .int value.natAbs
    | some (.real value) => return .float (if value.isNegative then value.neg else value)
    | _ => fail "TypeError" ("bad operand type for abs(): ".toList ++ typeInMarks machine datum)
  | "sum", [datum] =>
    (← itemsOf datum).foldlM (fun total item => operate .add "+" total item) (.int 0)
  | "max", [datum] => extreme "max" .gt (← itemsOf datum)
  | "min", [datum] => extreme "min" .lt (← itemsOf datum)
  | "max", _ :: _ => extreme "max" .gt arguments
  | "min", _ :: _ => extreme "min" .lt arguments
  | "sorted", [datum] =>
    let items ← (← itemsOf datum).foldlM (fun found item => insertInOrder item found) []
    allocate (.list items)
  | "any", [datum] => return .bool ((← itemsOf datum).any machine.truth)
  | "all", [datum] => return .bool ((← itemsOf datum).all machine.truth)
  | "enumerate", [datum] =>
    let pairs ← (← itemsOf datum).zipIdx.mapM fun (item, place) =>
      allocate (.tuple [.int place, item])
    allocate (.iterable "enumerate".toList pairs)
  | "zip", [left, right] =>
    let left ← itemsOf left
    let right ← itemsOf right
    let pairs ← (left.zip right).mapM fun pair => allocate (.tuple [pair.1, pair.2])
    allocate (.iterable "zip".toList pairs)
  | "isinstance", [datum, class_] =>
    match machine.thingOf? class_ with
    | some (.tuple classes) => return .bool (classes.any (isInstance machine datum))
    | _ => return .bool (isInstance machine datum class_)
  | "type", [datum] =>
    match machine.thingOf? datum with
    | some (.instance_ class_ _ _) => return class_
    | _ => return .builtin (machine.typeName datum)
  | "callable", [datum] =>
    return .bool ((machine.resolve datum) matches .object .function | .object .builtin
      | .object .method | .object .userClass | .object .builtinClass | .object .callableInstance)
  | "exit", _ | "quit", _ => raiseWith "SystemExit" (arguments.take 1)
  | "object", [] => allocate (.instance_ (.builtin "object".toList) [] [])
  | _, _ => throw .unsupported

/-- Calls a built-in function or class. -/
def callBuiltin (name : Text) (arguments : List Datum) (named : Names) : Action Datum := do
  let word := String.ofList name
  if (exceptionParent? name).isSome then
    if named.isEmpty then allocate (.instance_ (.builtin name) [] arguments)
    else fail "TypeError" (name ++ "() takes no keyword arguments".toList)
  else if word == "print" then printData arguments named
  else if word == "dict" && !named.isEmpty then
    let entries ← match arguments with
      | [] => pure []
      | datum :: _ => entriesFrom datum
    let machine ← get
    allocate (.dict (named.foldl (fun found entry => putEntry machine (.str entry.1) entry.2 found)
      entries))
  else if named.isEmpty then callPositional word arguments
  else if word == "len" || word == "int" || word == "float" || word == "bool" || word == "list" ||
      word == "tuple" || word == "set" then
    fail "TypeError" (name ++ "() takes no keyword arguments".toList)
  else throw .unsupported

/-- Calls a function of a module. -/
def callExternal (name : Text) (arguments : List Datum) : Action Datum := do
  if name == "sys.exit".toList then raiseWith "SystemExit" (arguments.take 1)
  else throw .unsupported

end TypeSurvey.Script
