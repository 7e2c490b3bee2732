import TypeSurvey.Value.Equality
import TypeSurvey.Value.Fault

/-!
# Reading documents

A document is a value in the format JSON. Besides the numbers of that format the names of the
infinities and of no number are read. Of two entries with one key the later value is kept, at the
place of the earlier one.

A reader works on what is left of the text. Its failures count the characters left, and become
places in the text at the end.
-/

namespace TypeSurvey.Document

/-- The reasons why a text is no document. -/
inductive Cause
  /-- A value is missing. -/
  | value
  /-- A comma is missing. -/
  | comma
  /-- A colon is missing. -/
  | colon
  /-- A key is missing. -/
  | key
  | unterminated
  | escape
  /-- An escape by a code has no four digits. -/
  | codeEscape
  | control
  | extra
  | byteOrderMark
  | tooManyDigits (digits : Nat)
deriving DecidableEq, Repr

/-- A failure of a reader: what is wrong, and how many characters are left from there. -/
structure Failure where
  cause : Cause
  /-- The number of characters left. -/
  left : Nat
deriving DecidableEq, Repr

/-- A reader gives what it reads and the text after it. -/
abbrev Reader (α : Type) := Text → Except Failure (α × Text)

/-- Whether a character may stand between the parts of a document. -/
def isSpace (letter : Char) : Bool :=
  letter == ' ' || letter == '\t' || letter == '\n' || letter == '\r'

/-- The text from the next part on. -/
def skipSpace (text : Text) : Text := text.dropWhile isSpace

/-! ## Strings -/

/-- The value of a hexadecimal digit. -/
def hexValue? (letter : Char) : Option Nat :=
  let code := letter.toNat
  if 48 ≤ code && code ≤ 57 then some (code - 48)
  else if 97 ≤ code && code ≤ 102 then some (code - 87)
  else if 65 ≤ code && code ≤ 70 then some (code - 55)
  else none

/-- The unit that four hexadecimal digits denote. -/
def unit? (first second third fourth : Char) : Option Nat := do
  let first ← hexValue? first
  let second ← hexValue? second
  let third ← hexValue? third
  let fourth ← hexValue? fourth
  return ((first * 16 + second) * 16 + third) * 16 + fourth

/-- The character that an escape of one letter stands for. -/
def escaped? : Char → Option Char
  | '"' => some '"'
  | '\\' => some '\\'
  | '/' => some '/'
  | 'b' => some '\x08'
  | 'f' => some '\x0c'
  | 'n' => some '\n'
  | 'r' => some '\r'
  | 't' => some '\t'
  | _ => none

/-- The units of a string after its opening mark. `start` characters are left from that mark on. -/
def units (start : Nat) : Reader (List Nat)
  | [] => .error ⟨.unterminated, start⟩
  | letter :: rest =>
    if letter = '"' then .ok ([], rest)
    else if letter = '\\' then
      match rest with
      | [] => .error ⟨.unterminated, start⟩
      | kind :: rest =>
        if kind = 'u' then
          match rest with
          | first :: second :: third :: fourth :: rest =>
            match unit? first second third fourth, rest with
            | some unit, _ :: _ => do
              let (more, rest) ← units start rest
              return (unit :: more, rest)
            | _, _ => .error ⟨.codeEscape, rest.length + 5⟩
          | _ => .error ⟨.codeEscape, rest.length + 1⟩
        else
          match escaped? kind with
          | some letter => do
            let (more, rest) ← units start rest
            return (letter.toNat :: more, rest)
          | none => .error ⟨.escape, rest.length + 2⟩
    else if letter.toNat < 32 then .error ⟨.control, rest.length + 1⟩
    else do
      let (more, rest) ← units start rest
      return (Text.toUnits letter ++ more, rest)

/-- A string after its opening mark. -/
def string : Reader Text.Wide := fun text => do
  let (units, rest) ← units (text.length + 1) text
  return (.ofUnits units, rest)

/-! ## Numbers and names -/

/-- The whole digits of a number: a zero alone, or digits without a zero in front. -/
def wholeDigits (text : Text) : Text :=
  match text with
  | '0' :: _ => ['0']
  | _ => text.takeWhile Char.isDigit

/-- The fraction at the front of a text: a point and at least one digit. -/
def fraction (text : Text) : Text :=
  match text with
  | '.' :: rest =>
    let digits := rest.takeWhile Char.isDigit
    if digits.isEmpty then [] else '.' :: digits
  | _ => []

def signMark (text : Text) : Text :=
  match text with
  | '+' :: _ => ['+']
  | '-' :: _ => ['-']
  | _ => []

/-- The exponent at the front of a text: its mark, a sign and at least one digit. -/
def exponent (text : Text) : Text :=
  match text with
  | mark :: rest =>
    let sign := signMark rest
    let digits := (rest.drop sign.length).takeWhile Char.isDigit
    if (mark == 'e' || mark == 'E') && !digits.isEmpty then mark :: sign ++ digits else []
  | [] => []

/-- Whether a number is negative, and the text after its sign. -/
def takeMinus : Text → Bool × Text
  | '-' :: rest => (true, rest)
  | text => (false, text)

def number : Reader Value := fun text =>
  let (negative, body) := takeMinus text
  let whole := wholeDigits body
  let afterWhole := body.drop whole.length
  let part := fraction afterWhole
  let afterPart := afterWhole.drop part.length
  let power := exponent afterPart
  let rest := afterPart.drop power.length
  if whole.isEmpty then .error ⟨.value, text.length⟩
  else if part.isEmpty && power.isEmpty then
    if whole.length > maxIntegerDigits then .error ⟨.tooManyDigits whole.length, text.length⟩
    else
      let value : Int := Numeral.digitsValue whole
      .ok (.int (if negative then -value else value), rest)
  else .ok (.float ((Numeral.readMagnitude? negative (whole ++ part ++ power)).getD .nan), rest)

def named : List (Text × Value) :=
  [("null".toList, .none), ("true".toList, .bool true), ("false".toList, .bool false),
   ("NaN".toList, .float .nan), ("Infinity".toList, .float (.infinite false)),
   ("-Infinity".toList, .float (.infinite true))]

/-- A value that holds no others: a named one, or a number. -/
def atom : Reader Value := fun text =>
  match named.find? fun entry => entry.1.isPrefixOf text with
  | some (name, value) => .ok (value, text.drop name.length)
  | none => number text

/-! ## Lists and dictionaries -/

/-- The items of a list up to its closing bracket. There is at least one, and at most as many as the
first argument says. -/
def itemsBy (read : Reader Value) : Nat → Reader (List Value)
  | 0, text => .error ⟨.value, text.length⟩
  | fuel + 1, text => do
    let (first, rest) ← read text
    match skipSpace rest with
    | ']' :: rest => return ([first], rest)
    | ',' :: rest => do
      let (more, rest) ← itemsBy read fuel (skipSpace rest)
      return (first :: more, rest)
    | rest => .error ⟨.comma, rest.length⟩

/-- A list after its opening bracket. -/
def listBy (read : Reader Value) : Reader (List Value) := fun text =>
  match skipSpace text with
  | ']' :: rest => .ok ([], rest)
  | text => itemsBy read text.length text

def entryBy (read : Reader Value) : Reader (Text.Wide × Value)
  | '"' :: text => do
    let (key, rest) ← string text
    match skipSpace rest with
    | ':' :: rest => do
      let (value, rest) ← read (skipSpace rest)
      return ((key, value), rest)
    | rest => .error ⟨.colon, rest.length⟩
  | text => .error ⟨.key, text.length⟩

/-- The entries of a dictionary up to its closing brace. There is at least one, and at most as many
as the first argument says. -/
def entriesBy (read : Reader Value) : Nat → Reader (List (Text.Wide × Value))
  | 0, text => .error ⟨.key, text.length⟩
  | fuel + 1, text => do
    let (first, rest) ← entryBy read text
    match skipSpace rest with
    | '}' :: rest => return ([first], rest)
    | ',' :: rest => do
      let (more, rest) ← entriesBy read fuel (skipSpace rest)
      return (first :: more, rest)
    | rest => .error ⟨.comma, rest.length⟩

/-- A dictionary after its opening brace. -/
def dictBy (read : Reader Value) : Reader (List (Text.Wide × Value)) := fun text =>
  match skipSpace text with
  | '}' :: rest => .ok ([], rest)
  | text => entriesBy read text.length text

/-- The dictionary of entries in the order of a text. -/
def dictOf (entries : List (Text.Wide × Value)) : Value :=
  Value.dictOf (entries.map fun entry => (.ofWide entry.1, entry.2))

/-- A value in which others are nested up to a depth. -/
def valueTo : Nat → Reader Value
  | 0, text => .error ⟨.value, text.length⟩
  | depth + 1, text =>
    match text with
    | '"' :: rest => do
      let (content, rest) ← string rest
      return (.ofWide content, rest)
    | '[' :: rest => do
      let (items, rest) ← listBy (valueTo depth) rest
      return (.list items, rest)
    | '{' :: rest => do
      let (entries, rest) ← dictBy (valueTo depth) rest
      return (dictOf entries, rest)
    | _ => atom text

/-! ## Documents -/

/-- A text that is no document: what is wrong, and after how many characters of which text. -/
structure Fault where
  cause : Cause
  /-- The text before the place. -/
  before : Text
deriving DecidableEq

/-- The value of a document. Its nesting is less deep than its text is long. -/
def decode (text : Text) : Except Fault Value :=
  let locate (failure : Failure) : Fault := ⟨failure.cause, text.take (text.length - failure.left)⟩
  let read : Except Failure Value := do
    if text.head? == some '\ufeff' then throw ⟨.byteOrderMark, text.length⟩
    let (value, rest) ← valueTo (text.length + 1) (skipSpace text)
    match skipSpace rest with
    | [] => return value
    | rest => throw ⟨.extra, rest.length⟩
  read.mapError locate

def Cause.message : Cause → Text
  | .value => "Expecting value".toList
  | .comma => "Expecting ',' delimiter".toList
  | .colon => "Expecting ':' delimiter".toList
  | .key => "Expecting property name enclosed in double quotes".toList
  | .unterminated => "Unterminated string starting at".toList
  | .escape => "Invalid \\escape".toList
  | .codeEscape => "Invalid \\uXXXX escape".toList
  | .control => "Invalid control character at".toList
  | .extra => "Extra data".toList
  | .byteOrderMark => "Unexpected UTF-8 BOM (decode using utf-8-sig)".toList
  | .tooManyDigits digits => (TypeSurvey.Fault.tooManyDigits digits).message

namespace Fault

/-- The line of the place of a fault, counted from one. -/
def line (fault : Fault) : Nat := List.count '\n' fault.before + 1

/-- The column of the place of a fault, counted from one. -/
def column (fault : Fault) : Nat := (fault.before.reverse.takeWhile (· != '\n')).length + 1

def message (fault : Fault) : Text :=
  match fault.cause with
  | .tooManyDigits _ => fault.cause.message
  | _ =>
    fault.cause.message ++ ": line ".toList ++ Text.ofNat fault.line ++ " column ".toList ++
      Text.ofNat fault.column ++ " (char ".toList ++ Text.ofNat fault.before.length ++ ")".toList

/-- The name of the class of exceptions that a fault belongs to. -/
def className (fault : Fault) : Text :=
  match fault.cause with
  | .tooManyDigits _ => "ValueError".toList
  | _ => "JSONDecodeError".toList

end Fault

end TypeSurvey.Document
