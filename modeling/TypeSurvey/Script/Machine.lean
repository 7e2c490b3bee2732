import TypeSurvey.Source.Stmt
import TypeSurvey.Text.Named
import TypeSurvey.Value.Display
import TypeSurvey.Value.Equality

/-!
# The state of a running script

A script works on data. Numbers, texts and the like are immediate; everything that has an identity
or parts is a thing in the store, to which data refer by its address. An action may change the store
and print, and ends with a result or with a raised exception; in either case its changes stay.
-/

namespace TypeSurvey.Script

open Source

/-- A datum of a script. -/
inductive Datum
  | none
  | bool (value : Bool)
  | int (value : Int)
  | float (value : Binary64)
  | complex (real imaginary : Binary64)
  | str (value : Text)
  | bytes (value : Text.Bytes)
  | ellipsis
  | builtin (name : Text)
  | module_ (name : Text)
  /-- A function or class of a module, by its full name. -/
  | external (name : Text)
  /-- A method of a built-in class, bound to its receiver. -/
  | method (receiver : Datum) (name : Text)
  /-- A function of the script, bound to its receiver. -/
  | bound (receiver function : Datum)
  /-- A thing in the store. -/
  | ref (address : Nat)
deriving DecidableEq

/-- Names and what they are bound to, in the order of their bindings. -/
abbrev Names := List (Text × Datum)

/-- The kinds of frames. -/
inductive FrameKind
  | script
  | function
  /-- The names of a class while its body runs. -/
  | class_
  | comprehension
deriving DecidableEq

/-- The names of a running piece of code. -/
structure Frame where
  kind : FrameKind
  names : Names
  /-- The names that belong to this frame wherever they are bound in it. -/
  locals : List Text
  /-- The names that are declared to belong to the script. -/
  globals : List Text
  /-- The names that are declared to belong to an enclosing function. -/
  nonlocals : List Text
  /-- The address of the frame around this one. -/
  outer : Nat
  /-- What stands before the names of the functions and classes that are defined in it. -/
  qualifier : Text

/-- A function of a script. -/
structure Closure where
  name : Text
  /-- The name with the names of what is around the function. -/
  qualifiedName : Text
  parameters : List Expr
  defaults : Names
  body : List Stmt
  /-- The address of the frame around it. -/
  outer : Nat

/-- A thing in the store. -/
inductive Thing
  | list (items : List Datum)
  | tuple (items : List Datum)
  | set (items : List Datum)
  | dict (entries : List (Datum × Datum))
  /-- Any other thing that gives out items, by the name of its class. -/
  | iterable (kind : Text) (items : List Datum)
  | function (closure : Closure)
  | class_ (name : Text) (bases : List Datum) (members : Names)
  /-- An instance of a class: its members and the arguments it was made with. -/
  | instance_ (class_ : Datum) (members : Names) (arguments : List Datum)
  | frame (frame : Frame)

/-- The state of a script. -/
structure Machine where
  /-- The things by their addresses. The names of the script are at address zero. -/
  things : List Thing
  output : Text
  /-- The exceptions that are being handled, the last one first. -/
  handled : List Datum

/-- Why an action did not end with a result. -/
inductive Signal
  | raised (exception : Datum)
  /-- The action is beyond what scripts can do here. -/
  | unsupported

abbrev Action := ExceptT Signal (StateM Machine)

/-- The state in which a script starts. -/
def Machine.start : Machine where
  things := [.frame ⟨.script, [], [], [], [], 0, []⟩]
  output := []
  handled := []

/-- Takes a name away. -/
def Names.erase (name : Text) (names : Names) : Names := names.filter fun entry => entry.1 ≠ name

def Names.get? (name : Text) (names : Names) : Option Datum :=
  (names.find? fun entry => entry.1 = name).map Prod.snd

namespace Machine

def thing? (machine : Machine) (address : Nat) : Option Thing := machine.things[address]?

def thingOf? (machine : Machine) : Datum → Option Thing
  | .ref address => machine.thing? address
  | _ => none

def globals (machine : Machine) : Names :=
  match machine.thing? 0 with
  | some (.frame frame) => frame.names
  | _ => []

end Machine

/-- Puts a thing into the store. -/
def allocate (thing : Thing) : Action Datum := do
  let machine ← get
  set { machine with things := machine.things ++ [thing] }
  return .ref machine.things.length

def store (address : Nat) (thing : Thing) : Action Unit :=
  modify fun machine => { machine with things := machine.things.set address thing }

/-- Raises an exception of a built-in class with arguments. -/
def raiseWith {α : Type} (className : String) (arguments : List Datum) : Action α := do
  let exception ← allocate (.instance_ (.builtin className.toList) [] arguments)
  throw (.raised exception)

/-- Raises an exception of a built-in class with a message. -/
def fail {α : Type} (className : String) (message : Text) : Action α :=
  raiseWith className [.str message]

def printText (text : Text) : Action Unit :=
  modify fun machine => { machine with output := machine.output ++ text }

/-! ## Classes -/

/-- The built-in classes other than exceptions. -/
def builtinClasses : List String :=
  ["bool", "bytearray", "bytes", "classmethod", "complex", "dict", "enumerate", "filter", "float",
   "frozenset", "int", "list", "map", "memoryview", "object", "property", "range", "reversed",
   "set", "slice", "staticmethod", "str", "super", "tuple", "type", "zip"]

def builtinFunctions : List String :=
  ["__build_class__", "__import__", "abs", "aiter", "all", "anext", "any", "ascii", "bin",
   "breakpoint", "callable", "chr", "compile", "copyright", "credits", "delattr", "dir", "divmod",
   "eval", "exec", "exit", "format", "getattr", "globals", "hasattr", "hash", "help", "hex", "id",
   "input", "isinstance", "issubclass", "iter", "len", "license", "locals", "max", "min", "next",
   "oct", "open", "ord", "pow", "print", "quit", "repr", "round", "setattr", "sorted", "sum",
   "vars"]

/-- The built-in exceptions, each with the class that it derives from. -/
def exceptionParents : List (String × String) :=
  [("BaseException", "object"), ("SystemExit", "BaseException"),
   ("KeyboardInterrupt", "BaseException"), ("GeneratorExit", "BaseException"),
   ("BaseExceptionGroup", "BaseException"), ("Exception", "BaseException"),
   ("ExceptionGroup", "Exception"),
   ("ArithmeticError", "Exception"), ("ZeroDivisionError", "ArithmeticError"),
   ("OverflowError", "ArithmeticError"), ("FloatingPointError", "ArithmeticError"),
   ("AssertionError", "Exception"), ("AttributeError", "Exception"), ("BufferError", "Exception"),
   ("EOFError", "Exception"), ("ImportError", "Exception"), ("ModuleNotFoundError", "ImportError"),
   ("LookupError", "Exception"), ("IndexError", "LookupError"), ("KeyError", "LookupError"),
   ("MemoryError", "Exception"), ("NameError", "Exception"), ("UnboundLocalError", "NameError"),
   ("OSError", "Exception"), ("BlockingIOError", "OSError"), ("ChildProcessError", "OSError"),
   ("ConnectionError", "OSError"), ("FileExistsError", "OSError"), ("FileNotFoundError", "OSError"),
   ("InterruptedError", "OSError"), ("IsADirectoryError", "OSError"),
   ("NotADirectoryError", "OSError"), ("PermissionError", "OSError"),
   ("ProcessLookupError", "OSError"), ("TimeoutError", "OSError"), ("ReferenceError", "Exception"),
   ("RuntimeError", "Exception"), ("NotImplementedError", "RuntimeError"),
   ("RecursionError", "RuntimeError"), ("StopIteration", "Exception"),
   ("StopAsyncIteration", "Exception"), ("SyntaxError", "Exception"),
   ("IndentationError", "SyntaxError"), ("TabError", "IndentationError"),
   ("SystemError", "Exception"), ("TypeError", "Exception"), ("ValueError", "Exception"),
   ("UnicodeError", "ValueError"), ("UnicodeDecodeError", "UnicodeError"),
   ("UnicodeEncodeError", "UnicodeError"), ("UnicodeTranslateError", "UnicodeError"),
   ("Warning", "Exception"), ("DeprecationWarning", "Warning"), ("UserWarning", "Warning"),
   ("RuntimeWarning", "Warning"), ("FutureWarning", "Warning"), ("SyntaxWarning", "Warning"),
   ("ImportWarning", "Warning")]

/-- Whether a name is one of some known ones. -/
def isOneOf (known : List String) (name : Text) : Bool := known.any fun word => word.toList == name

/-- The class that a built-in exception derives from. -/
def exceptionParent? (name : Text) : Option Text :=
  (exceptionParents.find? fun entry => entry.1.toList == name).map fun entry => entry.2.toList

/-- Whether a built-in name is the name of a class. -/
def isClassName (name : Text) : Bool :=
  isOneOf builtinClasses name || (exceptionParent? name).isSome

/-- The name by which an exception that has several names is known. -/
def plainName (name : Text) : Text :=
  if name == "IOError".toList || name == "EnvironmentError".toList then "OSError".toList else name

namespace Machine

/-- The classes that a class derives from. -/
def bases (machine : Machine) : Datum → List Datum
  | .builtin name => match exceptionParent? name with
    | some parent => [.builtin parent]
    | none => if name == "object".toList then [] else [.builtin "object".toList]
  | datum => match machine.thingOf? datum with
    | some (.class_ _ bases _) => if bases.isEmpty then [.builtin "object".toList] else bases
    | _ => []

/-- A class and the classes that it derives from, in the order in which members are looked up. -/
def lineage (machine : Machine) : Nat → Datum → List Datum
  | 0, class_ => [class_]
  | fuel + 1, class_ => class_ :: (machine.bases class_).flatMap (machine.lineage fuel)

/-- All classes that a class derives from, itself included. -/
def ancestors (machine : Machine) (class_ : Datum) : List Datum :=
  machine.lineage (machine.things.length + exceptionParents.length) class_

def isClass (machine : Machine) : Datum → Bool
  | .builtin name => isClassName name
  | datum => match machine.thingOf? datum with
    | some (.class_ _ _ _) => true
    | _ => false

def isExceptionClass (machine : Machine) (datum : Datum) : Bool :=
  machine.isClass datum && (machine.ancestors datum).contains (.builtin "BaseException".toList)

def className (machine : Machine) : Datum → Text
  | .builtin name => name
  | datum => match machine.thingOf? datum with
    | some (.class_ name _ _) => name
    | _ => []

/-- A member of a class or of the classes that it derives from. -/
def classMember? (machine : Machine) (class_ : Datum) (name : Text) : Option Datum :=
  (machine.ancestors class_).findSome? fun ancestor => match machine.thingOf? ancestor with
    | some (.class_ _ _ members) => members.get? name
    | _ => none

def typeName (machine : Machine) : Datum → Text
  | .none => "NoneType".toList
  | .bool _ => "bool".toList
  | .int _ => "int".toList
  | .float _ => "float".toList
  | .complex _ _ => "complex".toList
  | .str _ => "str".toList
  | .bytes _ => "bytes".toList
  | .ellipsis => "ellipsis".toList
  | .builtin name =>
    if isClassName name then "type".toList else "builtin_function_or_method".toList
  | .module_ _ => "module".toList
  | .external _ => "function".toList
  | .method _ _ => "builtin_function_or_method".toList
  | .bound _ _ => "method".toList
  | .ref address => match machine.thing? address with
    | some (.list _) => "list".toList
    | some (.tuple _) => "tuple".toList
    | some (.set _) => "set".toList
    | some (.dict _) => "dict".toList
    | some (.iterable kind _) => kind
    | some (.function _) => "function".toList
    | some (.class_ _ _ _) => "type".toList
    | some (.instance_ class_ _ _) => machine.className class_
    | _ => "object".toList

/-! ## Data as values -/

/-- The value that an immediate datum stands for. -/
def atom? : Datum → Option Value
  | .none => some .none
  | .bool value => some (.bool value)
  | .int value => some (.int value)
  | .float value => some (.float value)
  | .complex real imaginary => some (.complex real imaginary)
  | .str value => some (.str value)
  | .bytes value => some (.bytes value)
  | .ellipsis => some (.object .ellipsis)
  | _ => none

/-- The value that a datum stands for by itself, without the thing that it may refer to. -/
def flat (datum : Datum) : Value :=
  match datum with
  | .builtin name => .object (if isClassName name then .builtinClass else .builtin)
  | .module_ _ => .object .moduleObject
  | .external _ => .object .function
  | .method _ _ => .object .method
  | .bound _ _ => .object .method
  | _ => (atom? datum).getD (.object .bareObject)

/-- The value of a thing that is not looked into. -/
def closed (machine : Machine) : Thing → Value
  | .function _ => .object .function
  | .class_ _ _ _ => .object .userClass
  | .instance_ class_ _ _ =>
    .object (if (machine.classMember? class_ "__call__".toList).isSome then .callableInstance
      else .plainInstance)
  | .frame _ => .object .bareObject
  | _ => .object .endless

/-- The value that a datum stands for, with the things that it refers to down to a depth. -/
def resolveTo (machine : Machine) : Nat → Datum → Value
  | 0, .ref address => match machine.thing? address with
    | some thing => machine.closed thing
    | none => .object .bareObject
  | depth + 1, .ref address => match machine.thing? address with
    | some (.list items) => .list (items.map (machine.resolveTo depth))
    | some (.tuple items) => .tuple (items.map (machine.resolveTo depth))
    | some (.set items) => .set false (items.map (machine.resolveTo depth))
    | some (.dict entries) =>
      .dict (entries.map fun entry =>
        (machine.resolveTo depth entry.1, machine.resolveTo depth entry.2))
    | some (.iterable _ items) => .iterator (items.map (machine.resolveTo depth))
    | some thing => machine.closed thing
    | none => .object .bareObject
  | _, datum => flat datum

/-- The value that a datum stands for. No chain of distinct things is longer than the store, so a
container that is deeper is one that is reached from itself. -/
def resolve (machine : Machine) (datum : Datum) : Value :=
  machine.resolveTo (machine.things.length + 1) datum

/-- The text of an exception of a class: nothing, its only argument, or the tuple of its arguments.
A missing key is shown in quotes. -/
def exceptionText (machine : Machine) (class_ : Datum) (arguments : List Datum) : Text :=
  match arguments with
  | [] => []
  | [argument] =>
    let value := machine.resolve argument
    if (machine.ancestors class_).contains (.builtin "KeyError".toList) then value.quoted
    else value.toText
  | _ => (Value.tuple (arguments.map machine.resolve)).quoted

def textOf (machine : Machine) (datum : Datum) : Text :=
  match machine.thingOf? datum with
  | some (.instance_ class_ _ arguments) =>
    if machine.isExceptionClass class_ then machine.exceptionText class_ arguments
    else (machine.resolve datum).toText
  | _ => (machine.resolve datum).toText

/-- Whether two data are equal, looking at things down to a depth. -/
def equalTo (machine : Machine) : Nat → Datum → Datum → Bool
  | 0, left, right => left == right
  | depth + 1, left, right =>
    match atom? left, atom? right with
    | some left, some right => left.equals right
    | _, _ =>
      left == right ||
      match machine.thingOf? left, machine.thingOf? right with
      | some (.list left), some (.list right) => sameItems (machine.equalTo depth) left right
      | some (.tuple left), some (.tuple right) => sameItems (machine.equalTo depth) left right
      | some (.set left), some (.set right) =>
        left.length == right.length &&
          left.all fun item => right.any (machine.equalTo depth item)
      | some (.dict left), some (.dict right) =>
        left.length == right.length &&
          left.all fun entry => right.any fun other =>
            machine.equalTo depth entry.1 other.1 && machine.equalTo depth entry.2 other.2
      | _, _ => false
where
  /-- Whether two lists are equal item by item. -/
  sameItems (equal : Datum → Datum → Bool) (left right : List Datum) : Bool :=
    left.length == right.length && (left.zip right).all fun pair => equal pair.1 pair.2

/-- Whether two data are equal. -/
def equal (machine : Machine) (left right : Datum) : Bool :=
  machine.equalTo (machine.things.length + 1) left right

/-- Whether a datum counts as true. -/
def truth (machine : Machine) (datum : Datum) : Bool :=
  match machine.thingOf? datum with
  | some (.list items) | some (.tuple items) | some (.set items) => !items.isEmpty
  | some (.dict entries) => !entries.isEmpty
  | some _ => true
  | none => match atom? datum with
    | some value => !value.isFalsy
    | none => true

/-- The type of the first part of a datum that cannot be a key, looking at tuples down to a
depth. -/
def unhashableTo (machine : Machine) : Nat → Datum → Option Text
  | 0, _ => none
  | depth + 1, datum => match machine.thingOf? datum with
    | some (.list _) | some (.set _) | some (.dict _) => some (machine.typeName datum)
    | some (.tuple items) => items.findSome? (machine.unhashableTo depth)
    | _ => none

end Machine

/-- Refuses a datum that cannot be a key. -/
def checkKey (datum : Datum) : Action Unit := do
  let machine ← get
  match machine.unhashableTo (machine.things.length + 1) datum with
  | some kind => fail "TypeError" ("unhashable type: '".toList ++ kind ++ "'".toList)
  | none => pure ()

/-- Puts an entry into a dictionary. An equal key keeps its place and spelling. -/
def putEntry (machine : Machine) (key value : Datum) : List (Datum × Datum) → List (Datum × Datum)
  | [] => [(key, value)]
  | entry :: rest =>
    if machine.equal entry.1 key then (entry.1, value) :: rest
    else entry :: putEntry machine key value rest

/-- The value under a key. -/
def entryOf? (machine : Machine) (key : Datum) (entries : List (Datum × Datum)) : Option Datum :=
  (entries.find? fun entry => machine.equal entry.1 key).map Prod.snd

/-- Adds a member to a set. -/
def putMember (machine : Machine) (members : List Datum) (item : Datum) : List Datum :=
  if members.any (machine.equal item) then members else members ++ [item]

/-- The items that a datum gives out. -/
def itemsOf? (machine : Machine) : Datum → Option (List Datum)
  | .str value => some (value.map fun letter => .str [letter])
  | .bytes value => some (value.map fun byte => .int byte.toNat)
  | datum => match machine.thingOf? datum with
    | some (.list items) | some (.tuple items) | some (.set items) | some (.iterable _ items) =>
      some items
    | some (.dict entries) => some (entries.map Prod.fst)
    | _ => none

/-- The type of a datum in the message of a type error. -/
def typeInMarks (machine : Machine) (datum : Datum) : Text :=
  "'".toList ++ machine.typeName datum ++ "'".toList

/-- The items that a datum gives out, which has to give out some. -/
def itemsOf (datum : Datum) : Action (List Datum) := do
  let machine ← get
  match itemsOf? machine datum with
  | some items => return items
  | none => fail "TypeError" (typeInMarks machine datum ++ " object is not iterable".toList)

end TypeSurvey.Script
