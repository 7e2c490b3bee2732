import TypeSurvey.Value.Fault

/-!
# Writing documents

A value in the format JSON, in ASCII, every item and entry on a line of its own and nested four
spaces deeper. A value that the format does not have ends the document; what stands before it is
written.
-/

namespace TypeSurvey.Document

/-- What is written of a document, and the fault that ends it early. -/
structure Writing where
  text : Text
  fault : Option TypeSurvey.Fault
deriving Inhabited

namespace Writing

/-- A text without a fault. -/
def done (text : Text) : Writing := ⟨text, none⟩

/-- Nothing but a fault. -/
def stop (fault : TypeSurvey.Fault) : Writing := ⟨[], some fault⟩

/-- Writes on, unless there is a fault. -/
def andThen (first second : Writing) : Writing :=
  match first.fault with
  | some _ => first
  | none => ⟨first.text ++ second.text, second.fault⟩

end Writing

/-! ## Values that hold no others -/

def escapeUnit (unit : Nat) : Text := '\\' :: 'u' :: Text.ofNatBase 16 4 unit

def escapeChar (letter : Char) : Text :=
  if letter = '"' then ['\\', '"']
  else if letter = '\\' then ['\\', '\\']
  else if letter = '\n' then ['\\', 'n']
  else if letter = '\r' then ['\\', 'r']
  else if letter = '\t' then ['\\', 't']
  else if letter = '\x0c' then ['\\', 'f']
  else if letter = '\x08' then ['\\', 'b']
  else if 32 ≤ letter.toNat && letter.toNat ≤ 126 then [letter]
  else (Text.toUnits letter).flatMap escapeUnit

def escapePoint : Text.Point → Text
  | .char letter => escapeChar letter
  | .half place => escapeUnit (0xd800 + place)

def stringText (text : Text.Wide) : Text := '"' :: text.points.flatMap escapePoint ++ ['"']

/-- An integer, unless it has too many digits. -/
def integerText (value : Int) : Except TypeSurvey.Fault Text :=
  let digits := Text.ofNat value.natAbs
  if digits.length > maxIntegerDigits then .error .tooLongInteger else .ok (Text.ofInt value)

/-- A real number. The infinities and no number have names. -/
def realText : Binary64 → Text
  | .nan => "NaN".toList
  | .infinite negative => if negative then "-Infinity".toList else "Infinity".toList
  | number => number.toText

/-- The text of a value that holds no others; none if it may hold some. -/
def atomText? (value : Value) : Option (Except TypeSurvey.Fault Text) :=
  match value.underived with
  | .none => some (.ok "null".toList)
  | .bool value => some (.ok (if value then "true".toList else "false".toList))
  | .int value => some (integerText value)
  | .float value => some (.ok (realText value))
  | .str value => some (.ok (stringText (.whole value)))
  | .halved value => some (.ok (stringText (.halved value)))
  | _ => none

/-- The name of the type of a value without the module of the type. -/
def kindName : Value → Text
  | .date _ _ _ => "date".toList
  | value => value.typeName

def keyText (key : Value) : Except TypeSurvey.Fault Text :=
  match key.underived with
  | .str text => .ok (stringText (.whole text))
  | .halved text => .ok (stringText (.halved text))
  | _ =>
    match atomText? key with
    | some (.ok text) => .ok (stringText (.whole text))
    | some (.error fault) => .error fault
    | none => .error (.badKey (kindName key))

/-! ## Documents -/

/-- A new line at a level of nesting. -/
def newLine (level : Nat) : Text := '\n' :: List.replicate (4 * level) ' '

/-- The end of a container at a level of nesting. -/
def closing (level : Nat) (bracket : Char) : Writing := .done (newLine level ++ [bracket])

/-- Whether the format has values of the type of a value. -/
def isWritable (value : Value) : Bool :=
  match value.underived with
  | .list _ | .tuple _ | .namedTuple _ _ | .dict _ => true
  | _ => (atomText? value).isSome

mutual

/-- A value after a text that leads to it, at a level of nesting. If the value itself cannot be
written as a number, the leading text is not written either. -/
def write (level : Nat) (lead : Text) : Value → Writing
  | .list items => writeList level lead items
  | .tuple items => writeList level lead items
  | .namedTuple _ items => writeList level lead items
  | .dict entries => writeDict level lead entries
  | .derived className base =>
    if isWritable base then write level lead base
    else (Writing.done lead).andThen (.stop (.notSerializable className))
  | value =>
    match atomText? value with
    | some (.ok text) => .done (lead ++ text)
    | some (.error fault) => .stop fault
    | none => (Writing.done lead).andThen (.stop (.notSerializable (kindName value)))
termination_by structural value => value

def writeList (level : Nat) (lead : Text) : List Value → Writing
  | [] => .done (lead ++ ['[', ']'])
  | first :: rest =>
    (Writing.done lead).andThen ((write (level + 1) ('[' :: newLine (level + 1)) first).andThen
      ((writeItems (level + 1) rest).andThen (closing level ']')))
termination_by structural items => items

/-- The items of a list after the first. -/
def writeItems (level : Nat) : List Value → Writing
  | [] => .done []
  | first :: rest => (write level (',' :: newLine level) first).andThen (writeItems level rest)
termination_by structural items => items

def writeDict (level : Nat) (lead : Text) : List (Value × Value) → Writing
  | [] => .done (lead ++ ['{', '}'])
  | (key, value) :: rest =>
    (Writing.done (lead ++ '{' :: newLine (level + 1))).andThen
      (match keyText key with
        | .error fault => .stop fault
        | .ok text =>
          (Writing.done (text ++ [':', ' '])).andThen ((write (level + 1) [] value).andThen
            ((writeEntries (level + 1) rest).andThen (closing level '}'))))
termination_by structural entries => entries

/-- The entries of a dictionary after the first. -/
def writeEntries (level : Nat) : List (Value × Value) → Writing
  | [] => .done []
  | (key, value) :: rest =>
    match keyText key with
    | .error fault => .stop fault
    | .ok text =>
      (Writing.done (',' :: newLine level ++ text ++ [':', ' '])).andThen
        ((write level [] value).andThen (writeEntries level rest))
termination_by structural entries => entries

end

def encode (value : Value) : Writing := write 0 [] value

end TypeSurvey.Document
