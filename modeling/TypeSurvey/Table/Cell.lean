import TypeSurvey.Text.Pattern
import TypeSurvey.Text.Styled
import TypeSurvey.Value.Equality
import TypeSurvey.Value.Fault

/-!
# Cells

A column is written by the least general kind that fits all its cells: no value, truth value,
integer, real number, bytes, text. Texts that look like numbers count as numbers, with their escape
sequences left out.
-/

namespace TypeSurvey.Table

/-- The kinds of cells, each more general than those before it. -/
inductive CellKind
  | absent
  | truth
  | integer
  | real
  | bytes
  | text
deriving DecidableEq, Repr

/-- The place of a kind from special to general. -/
def CellKind.rank : CellKind → Nat
  | absent => 0
  | truth => 1
  | integer => 2
  | real => 3
  | bytes => 4
  | text => 5

/-- The more general of two kinds. -/
def CellKind.join (left right : CellKind) : CellKind :=
  if left.rank < right.rank then right else left

/-- Whether the cells of a kind are numbers. -/
def CellKind.isNumeric : CellKind → Bool
  | integer | real => true
  | _ => false

/-- Whether a value can be read as a real number. An integer that is too large is an error. -/
def readsAsFloat (cell : Value) : Except Fault (Option Binary64) :=
  match cell.toFloat with
  | .ok number => .ok (some number)
  | .error .integerTooLarge => .error .integerTooLarge
  | .error _ => .ok none

/-- Whether a cell is a number. A text for an infinity or for no number has to be spelt `inf`,
`-inf` or `nan`. -/
def isNumber (cell : Value) : Except Fault Bool := do
  match ← readsAsFloat cell with
  | none => return false
  | some number =>
    if number.isInfinite || number.isNan then
      match cell.underived with
      | .str text =>
        let name := Text.asciiLower text
        return name == "inf".toList || name == "-inf".toList || name == "nan".toList
      | .bytes _ => return false
      | _ => return true
    else return true

/-- Whether a cell is an integer, or a text or bytes that denote one. -/
def isInteger : Value → Bool
  | .int _ => true
  | cell => match cell.underived with
    | .str text => (Numeral.toInt? text).isSome
    | .bytes content => (Numeral.toInt? (Value.latin content)).isSome
    | _ => false

@[simp] theorem isInteger_str (text : Text) :
    isInteger (.str text) = (Numeral.toInt? text).isSome := rfl

/-- Whether a cell is a truth value or the name of one. -/
def isTruth : Value → Bool
  | .bool _ => true
  | cell => match cell.underived with
    | .str text => text == "True".toList || text == "False".toList
    | _ => false

@[simp] theorem isTruth_str (text : Text) :
    isTruth (.str text) = (text == "True".toList || text == "False".toList) := rfl

/-- A text or bytes without escape sequences; other cells are kept. -/
def unstyled (cell : Value) : Value :=
  match cell.underived with
  | .str text => .str (Text.visible text)
  | .bytes content => .bytes (Text.visibleBytes content)
  | _ => cell

@[simp] theorem unstyled_str (text : Text) : unstyled (.str text) = .str (Text.visible text) := rfl

def kindOf (cell : Value) (ignoresStyle : Bool) (readsNumbers : Bool) : Except Fault CellKind := do
  let cell := if ignoresStyle then unstyled cell else cell
  match cell.underived with
  | .none => return .absent
  | .date _ _ _ => return .text
  | _ =>
    if isTruth cell then return .truth
    if isInteger cell && readsNumbers then return .integer
    if (← isNumber cell) && readsNumbers then return .real
    match cell.underived with
    | .bytes _ => return .bytes
    | _ => return .text

def columnKind (cells : List Value) (ignoresStyle readsNumbers : Bool) : Except Fault CellKind := do
  let kinds ← cells.mapM fun cell => kindOf cell ignoresStyle readsNumbers
  return kinds.foldl CellKind.join .truth

section Grouped

open Text.Pattern

/-- One to three digits with or without a sign, and groups of a comma and three digits. -/
def groupedDigits : Text.Pattern :=
  (one fun letter => letter == '+' || letter == '-').optional.andThen <|
    ((one Char.isDigit).andThen ((one Char.isDigit).atMost 2)).andThen
      ((one (· == ',')).andThen ((one Char.isDigit).times 3)).many

/-- A point and digits, of which there may be none if other digits stand before the point. -/
def groupedPart : Text.Pattern :=
  ifGrouped ((one (· == '.')).andThen (one Char.isDigit).many)
    ((one (· == '.')).andThen ((one Char.isDigit).andThen (one Char.isDigit).many))

/-- Whether a text is a number whose digits are in groups of three. The empty text counts, and one
line feed may follow. -/
def isGrouped (text : Text) : Bool :=
  (groupedDigits.group.optional.andThen (groupedPart.optional.andThen atEnd)).accepts text

end Grouped

/-- The number of characters after the decimal point, or else after the mark of the exponent, of a
text that is a number but no integer; `-1` for every other text. -/
def afterPoint (text : Text) : Int :=
  let numeric := match isNumber (.str text) with
    | .ok answer => answer
    | .error _ => false
  if (numeric || isGrouped text) && !isInteger (.str text) then
    match (Text.lastIndex? '.' text).orElse fun _ => Text.lastIndex? 'e' (Text.asciiLower text) with
    | some position => (text.length : Int) - position - 1
    | none => -1
  else -1

/-- Items with those of inner lists in their place. -/
def flatten (items : List Value) : List Value :=
  items.flatMap fun
    | .list inner => inner
    | item => [item]

/-- How the cells of a column are written. -/
structure CellFormat where
  kind : CellKind
  real : Value
  integer : Value
  missing : Value
  /-- Whether escape sequences around numbers are kept. -/
  styled : Bool

/-- A real number with the escape sequences of its text around it. -/
def formatStyled (text : Text) (spec : Value) : Except Fault Value := do
  let plain := Text.visible text
  let number ← (Value.str plain).toFloat
  let shown ← (Value.float number).format spec
  return .str (Text.replace plain shown text)

/-- A cell written in the format of its column. -/
def formatCell (format : CellFormat) (cell : Value) : Except Fault Value := do
  match cell with
  | .none => return format.missing
  | _ =>
    match format.kind with
    | .integer => return .str (← cell.format format.integer)
    | .bytes =>
      match cell.underived with
      | .bytes content =>
        if content.all (·.toNat < 128) then return .str (Value.latin content)
        else return .str cell.toText
      | _ => return .str cell.toText
    | .real =>
      match format.styled, cell.underived with
      | true, .str text => formatStyled text format.real
      | true, .bytes content => do
        let number ← (Value.bytes (Text.visibleBytes content)).toFloat
        let _ ← (Value.float number).format format.real
        throw (.bytesExpected "str".toList)
      | _, _ => do
        let number ← cell.toFloat
        return .str (← (Value.float number).format format.real)
    | _ => return .str cell.toText

end TypeSurvey.Table
