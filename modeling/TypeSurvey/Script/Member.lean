import TypeSurvey.Script.Item
import TypeSurvey.Script.Library

/-!
# Members

The members of data: what modules, classes and instances hold, and the methods of the built-in
classes.
-/

namespace TypeSurvey.Script

/-- The methods of the built-in classes. -/
def methodNames : List (String × List String) :=
  [("list", ["append", "clear", "copy", "count", "extend", "index", "insert", "pop", "remove",
     "reverse", "sort"]),
   ("dict", ["clear", "copy", "fromkeys", "get", "items", "keys", "pop", "popitem", "setdefault",
     "update", "values"]),
   ("str", ["capitalize", "casefold", "center", "count", "encode", "endswith", "expandtabs", "find",
     "format", "format_map", "index", "isalnum", "isalpha", "isascii", "isdecimal", "isdigit",
     "isidentifier", "islower", "isnumeric", "isprintable", "isspace", "istitle", "isupper", "join",
     "ljust", "lower", "lstrip", "maketrans", "partition", "removeprefix", "removesuffix",
     "replace", "rfind", "rindex", "rjust", "rpartition", "rsplit", "rstrip", "split", "splitlines",
     "startswith", "strip", "swapcase", "title", "translate", "upper", "zfill"]),
   ("tuple", ["count", "index"]),
   ("set", ["add", "clear", "copy", "difference", "difference_update", "discard", "intersection",
     "intersection_update", "isdisjoint", "issubset", "issuperset", "pop", "remove",
     "symmetric_difference", "symmetric_difference_update", "union", "update"]),
   ("int", ["as_integer_ratio", "bit_count", "bit_length", "conjugate", "from_bytes", "to_bytes"]),
   ("bool", ["as_integer_ratio", "bit_count", "bit_length", "conjugate", "from_bytes", "to_bytes"]),
   ("float", ["as_integer_ratio", "conjugate", "fromhex", "hex", "is_integer"]),
   ("bytes", ["count", "decode", "endswith", "find", "hex", "index", "join", "lower", "replace",
     "split", "startswith", "strip", "upper"]),
   ("complex", ["conjugate"])]

/-- Whether a built-in class has a method. -/
def hasMethod (kind name : Text) : Bool :=
  methodNames.any fun entry => entry.1.toList == kind && isOneOf entry.2 name

/-- The fault of a member that is missing. -/
def missingMember {α : Type} (owner : Datum) (name : Text) : Action α := do
  let machine ← get
  let ending := " has no attribute '".toList ++ name ++ "'".toList
  fail "AttributeError" (match owner with
    | .module_ id => "module '".toList ++ id ++ "'".toList ++ ending
    | _ =>
      if machine.isClass owner then
        "type object '".toList ++ machine.className owner ++ "'".toList ++ ending
      else typeInMarks machine owner ++ " object".toList ++ ending)

/-- A member that is the function of a class is bound to the receiver. -/
def bindMember (machine : Machine) (receiver member : Datum) : Datum :=
  match machine.thingOf? member with
  | some (.function _) => .bound receiver member
  | _ => member

def getMember (owner : Datum) (name : Text) : Action Datum := do
  let machine ← get
  match owner, machine.thingOf? owner with
  | .module_ id, _ =>
    if name == "__name__".toList then return .str id
    match moduleMember? id name with
    | some datum => return datum
    | none => missingMember owner name
  | _, some (.instance_ class_ members arguments) =>
    match members.get? name, machine.classMember? class_ name with
    | some datum, _ => return datum
    | none, some member => return bindMember machine owner member
    | none, none =>
      if name == "__class__".toList then return class_
      else if name == "args".toList && machine.isExceptionClass class_ then
        allocate (.tuple arguments)
      else missingMember owner name
  | _, some (.class_ id _ _) =>
    match machine.classMember? owner name with
    | some datum => return datum
    | none => if name == "__name__".toList then return .str id else missingMember owner name
  | _, some (.function closure) =>
    if name == "__name__".toList then return .str closure.name else missingMember owner name
  | .builtin id, _ =>
    if name == "__name__".toList then return .str id
    else if hasMethod id name then return .method owner name
    else missingMember owner name
  | .external id, _ => return .external (id ++ ['.'] ++ name)
  | _, _ =>
    if hasMethod (machine.typeName owner) name then return .method owner name
    else
      match quantity? owner, name == "real".toList, name == "imag".toList with
      | some (.whole value), true, _ => return .int value
      | some (.whole _), _, true => return .int 0
      | some (.real value), true, _ => return .float value
      | some (.real _), _, true => return .float (Binary64.zero false)
      | some (.complex real _), true, _ => return .float real
      | some (.complex _ imaginary), _, true => return .float imaginary
      | _, _, _ => missingMember owner name

def setMember (owner : Datum) (name : Text) (value : Datum) : Action Unit := do
  let machine ← get
  match owner, machine.thingOf? owner with
  | .ref address, some (.instance_ class_ members arguments) =>
    store address (.instance_ class_ (putNamed name value members) arguments)
  | .ref address, some (.class_ id bases members) =>
    store address (.class_ id bases (putNamed name value members))
  | _, some (.function _) | .module_ _, _ => pure ()
  | .builtin id, _ =>
    if isClassName id then
      fail "TypeError" ("cannot set '".toList ++ name ++ "' attribute of immutable type '".toList ++
        id ++ "'".toList)
    else missingMember owner name
  | _, _ => missingMember owner name

def deleteMember (owner : Datum) (name : Text) : Action Unit := do
  let machine ← get
  match owner, machine.thingOf? owner with
  | .ref address, some (.instance_ class_ members arguments) =>
    if (members.get? name).isSome then
      store address (.instance_ class_ (members.erase name) arguments)
    else missingMember owner name
  | .ref address, some (.class_ id bases members) =>
    if (members.get? name).isSome then store address (.class_ id bases (members.erase name))
    else missingMember owner name
  | _, _ => missingMember owner name

/-- The fault of a wrong number of arguments of a method. -/
def wrongCount {α : Type} (name : String) (expected : String) (given : Nat) : Action α :=
  fail "TypeError" (name.toList ++ "() takes ".toList ++ expected.toList ++ " (".toList ++
    Text.ofNat given ++ " given)".toList)

def callListMethod (address : Nat) (items : List Datum) (name : String) (arguments : List Datum) :
    Action Datum := do
  let machine ← get
  match name, arguments with
  | "append", [item] =>
    store address (.list (items ++ [item]))
    return .none
  | "append", _ => wrongCount "list.append" "exactly one argument" arguments.length
  | "extend", [source] =>
    let more ← itemsOf source
    store address (.list (items ++ more))
    return .none
  | "insert", [index, item] =>
    match wholeOf? index with
    | some number =>
      let size : Int := items.length
      let place := (max 0 (min size (if number < 0 then number + size else number))).toNat
      store address (.list (items.take place ++ [item] ++ items.drop place))
      return .none
    | none => throw .unsupported
  | "pop", [] =>
    match items.getLast? with
    | some item =>
      store address (.list items.dropLast)
      return item
    | none => fail "IndexError" "pop from empty list".toList
  | "pop", [index] =>
    match wholeOf? index with
    | some number =>
      match place? items.length number with
      | some place =>
        store address (.list (items.eraseIdx place))
        return items.getD place .none
      | none =>
        fail "IndexError" (if items.isEmpty then "pop from empty list".toList
          else "pop index out of range".toList)
    | none => throw .unsupported
  | "remove", [item] =>
    match items.findIdx? (machine.equal item) with
    | some place =>
      store address (.list (items.eraseIdx place))
      return .none
    | none => fail "ValueError" "list.remove(x): x not in list".toList
  | "index", [item] =>
    match items.findIdx? (machine.equal item) with
    | some place => return .int place
    | none =>
      fail "ValueError" ((machine.resolve item).quoted ++ " is not in list".toList)
  | "count", [item] => return .int (items.filter (machine.equal item)).length
  | "clear", [] =>
    store address (.list [])
    return .none
  | "copy", [] => allocate (.list items)
  | "reverse", [] =>
    store address (.list items.reverse)
    return .none
  | _, _ => throw .unsupported

def callDictMethod (address : Nat) (entries : List (Datum × Datum)) (name : String)
    (arguments : List Datum) : Action Datum := do
  let machine ← get
  match name, arguments with
  | "get", [key] =>
    checkKey key
    return (entryOf? machine key entries).getD .none
  | "get", [key, other] =>
    checkKey key
    return (entryOf? machine key entries).getD other
  | "keys", [] => allocate (.iterable "dict_keys".toList (entries.map Prod.fst))
  | "values", [] => allocate (.iterable "dict_values".toList (entries.map Prod.snd))
  | "items", [] =>
    let pairs ← entries.mapM fun entry => allocate (.tuple [entry.1, entry.2])
    allocate (.iterable "dict_items".toList pairs)
  | "pop", key :: others =>
    checkKey key
    match entryOf? machine key entries, others with
    | some value, _ =>
      store address (.dict (entries.filter fun entry => !machine.equal entry.1 key))
      return value
    | none, [other] => return other
    | none, _ => raiseWith "KeyError" [key]
  | "setdefault", key :: others =>
    checkKey key
    match entryOf? machine key entries with
    | some value => return value
    | none =>
      let value := others.headD .none
      store address (.dict (putEntry machine key value entries))
      return value
  | "update", [other] =>
    match machine.thingOf? other with
    | some (.dict more) =>
      store address (.dict (more.foldl
        (fun found entry => putEntry machine entry.1 entry.2 found) entries))
      return .none
    | _ => throw .unsupported
  | "clear", [] =>
    store address (.dict [])
    return .none
  | "copy", [] => allocate (.dict entries)
  | _, _ => throw .unsupported

def callTextMethod (text : Text) (name : String) (arguments : List Datum) : Action Datum := do
  let isBlank (letter : Char) : Bool := " \t\n\r\x0b\x0c".toList.contains letter
  match name, arguments with
  | "upper", [] => return .str (text.map Char.toUpper)
  | "lower", [] => return .str (text.map Char.toLower)
  | "strip", [] => return .str (Text.trim isBlank text)
  | "lstrip", [] => return .str (text.dropWhile isBlank)
  | "rstrip", [] => return .str (Text.trimEnd isBlank text)
  | "split", [] => allocate (.list ((Text.words isBlank text).map Datum.str))
  | "split", [.str separator] =>
    if separator.isEmpty then fail "ValueError" "empty separator".toList
    allocate (.list ((Text.split separator text).map Datum.str))
  | "replace", [.str old, .str new] => return .str (Text.replace old new text)
  | "startswith", [.str start] => return .bool (start.isPrefixOf text)
  | "endswith", [.str ending] => return .bool (Text.endsWith ending text)
  | "count", [.str needle] => return .int (Text.count needle text)
  | "isdigit", [] => return .bool (!text.isEmpty && text.all Char.isDigit)
  | "join", [source] =>
    let items ← itemsOf source
    let parts ← items.mapM fun item => match item with
      | .str part => pure part
      | _ => throw .unsupported
    return .str (Text.join text parts)
  | _, _ => throw .unsupported

def callSetMethod (address : Nat) (items : List Datum) (name : String) (arguments : List Datum) :
    Action Datum := do
  let machine ← get
  let without (item : Datum) : List Datum := items.filter fun other => !machine.equal item other
  match name, arguments with
  | "add", [item] =>
    checkKey item
    store address (.set (putMember machine items item))
    return .none
  | "discard", [item] =>
    checkKey item
    store address (.set (without item))
    return .none
  | "remove", [item] =>
    checkKey item
    if items.any (machine.equal item) then
      store address (.set (without item))
      return .none
    else raiseWith "KeyError" [item]
  | "clear", [] =>
    store address (.set [])
    return .none
  | "copy", [] => allocate (.set items)
  | _, _ => throw .unsupported

/-- Calls a method of a built-in class. -/
def callMethod (receiver : Datum) (name : Text) (arguments : List Datum) : Action Datum := do
  let machine ← get
  let name := String.ofList name
  match receiver, machine.thingOf? receiver with
  | .str text, _ => callTextMethod text name arguments
  | .ref address, some (.list items) => callListMethod address items name arguments
  | .ref address, some (.dict entries) => callDictMethod address entries name arguments
  | .ref address, some (.set items) => callSetMethod address items name arguments
  | _, _ => throw .unsupported

end TypeSurvey.Script
