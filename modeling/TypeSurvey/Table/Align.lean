import TypeSurvey.Table.Cell
import TypeSurvey.Text.Wrap

/-!
# Alignment

The cells of a column are padded to one width. Numbers may be aligned by their decimal points: each
is first padded on the right as if all had the same number of characters after the point. Widths
count visible characters, and a cell of several lines is padded line by line.
-/

namespace TypeSurvey.Table

/-- How a column is aligned. -/
inductive Alignment
  | left
  | right
  | center
  | decimal
  /-- Not aligned, by the empty value that was given. -/
  | absent (given : Value)
  | other (given : Value)

/-- The alignment that a value asks for. -/
def Alignment.ofValue (given : Value) : Alignment :=
  match given.underived with
  | .str text =>
    if text == "left".toList then .left
    else if text == "right".toList then .right
    else if text == "center".toList then .center
    else if text == "decimal".toList then .decimal
    else if text.isEmpty then .absent given
    else .other given
  | _ => if given.isFalsy then .absent given else .other given

/-- The value that asks for an alignment. -/
def Alignment.toValue : Alignment → Value
  | left => .ofString "left"
  | right => .ofString "right"
  | center => .ofString "center"
  | decimal => .ofString "decimal"
  | absent given => given
  | other given => given

/-- Flush right in a width. -/
def padLeft (width : Nat) (text : Text) : Text := List.replicate (width - text.length) ' ' ++ text

/-- Flush left in a width. -/
def padRight (width : Nat) (text : Text) : Text := text ++ List.replicate (width - text.length) ' '

/-- Centred in a width; an odd space goes to the right. -/
def padBoth (width : Nat) (text : Text) : Text :=
  let missing := width - text.length
  List.replicate (missing / 2) ' ' ++ text ++ List.replicate (missing - missing / 2) ' '

/-- A value padded to a width by the specifier that begins with a mark. -/
def padValue (mark : Char) (width : Int) (cell : Value) : Except Fault Text :=
  (cell.formatBy (mark :: Text.ofInt width ++ ['s'])).mapError .format

/-- How widths are measured. -/
structure Measure where
  /-- Whether escape sequences take no room. -/
  ignoresStyle : Bool
  /-- Whether a cell may have several lines. -/
  multiline : Bool
deriving DecidableEq, Repr

/-- Whether a character separates lines in a cell. -/
def isLineBreak (letter : Char) : Bool := letter == '\r' || letter == '\n'

/-- Whether a text has several lines. -/
def hasLineBreak (text : Text) : Bool := text.any isLineBreak

def Measure.lineWidth (measure : Measure) (line : Text) : Nat :=
  if measure.ignoresStyle then Text.visibleWidth line else line.length

def Measure.lineWidths (measure : Measure) (cell : Text) : List Nat :=
  if measure.multiline then (Text.splitWhere isLineBreak cell).map measure.lineWidth
  else [measure.lineWidth cell]

/-- The greatest of some numbers, zero if there are none. -/
def greatest (numbers : List Nat) : Nat := numbers.foldl max 0

def Measure.width (measure : Measure) (cell : Text) : Nat := greatest (measure.lineWidths cell)

def Alignment.pad : Alignment → Nat → Text → Text
  | right, width, text => padLeft width text
  | decimal, width, text => padLeft width text
  | center, width, text => padBoth width text
  | absent _, _, text => text
  | left, width, text => padRight width text
  | other _, width, text => padRight width text

/-- The cells with the blanks after numbers that put their decimal points in line. -/
def padDecimals (ignoresStyle : Bool) (cells : List Text) : List Text :=
  let places := cells.map fun cell => afterPoint (if ignoresStyle then Text.visible cell else cell)
  let most := places.foldl max (-1)
  cells.zipWith (fun cell count => cell ++ List.replicate (most - count).toNat ' ') places

/-- The cells made ready for an alignment: blanks around them go, except around numbers that are
aligned by their points and in columns that are not aligned. -/
def Alignment.prepare (alignment : Alignment) (ignoresStyle : Bool) (cells : List Text) :
    List Text :=
  match alignment with
  | decimal => padDecimals ignoresStyle cells
  | absent _ => cells
  | _ => cells.map Text.strip

/-- One line padded to a visible width. -/
def Alignment.padLine (alignment : Alignment) (measure : Measure) (width : Nat) (line : Text) :
    Text :=
  alignment.pad (width + line.length - measure.lineWidth line) line

/-- The lines of a cell, each padded. A line end at the end of the cell adds no line. Where escape
sequences are measured, a line is padded by the sequences of the piece at its place between single
line-break characters. -/
def Alignment.padLines (alignment : Alignment) (measure : Measure) (width : Nat) (cell : Text) :
    Text :=
  let lines := Text.splitLines cell
  if measure.ignoresStyle then
    let hidden := (Text.splitWhere isLineBreak cell).map fun piece =>
      piece.length - measure.lineWidth piece
    Text.join ['\n'] (lines.zipWith (fun line extra => alignment.pad (width + extra) line) hidden)
  else
    Text.join ['\n'] (lines.map (alignment.pad width))

/-- The width of a column that holds these cells and is at least so wide. -/
def columnWidth (measure : Measure) (least : Nat) (cells : List Text) : Nat :=
  max (greatest (cells.map measure.width)) least

/-- The cells of a column padded to one width. -/
def alignColumn (alignment : Alignment) (measure : Measure) (least : Nat) (cells : List Text) :
    List Text :=
  let cells := alignment.prepare measure.ignoresStyle cells
  let width := columnWidth measure least cells
  if measure.multiline then cells.map (alignment.padLines measure width)
  else cells.map (alignment.padLine measure width)

/-- The cells of a column padded to one width; there has to be a cell. -/
def alignCells (alignment : Alignment) (measure : Measure) (least : Nat) (cells : List Text) :
    Except Fault (List Text) :=
  if cells.isEmpty then .error (.emptyMaximum "max".toList)
  else .ok (alignColumn alignment measure least cells)

/-- One line of a header padded to a width, given its visible width. -/
def padHeaderLine (alignment : Alignment) (width visible : Nat) (line : Text) : Text :=
  let width := width + line.length - visible
  match alignment with
  | .left => padRight width line
  | .center => padBoth width line
  | .absent _ => line
  | _ => padLeft width line

def alignHeader (alignment : Alignment) (measure : Measure) (width : Nat) (header : Text) : Text :=
  if measure.multiline then
    Text.join ['\n'] ((Text.splitWhere isLineBreak header).map fun line =>
      padHeaderLine alignment width (measure.width line) line)
  else padHeaderLine alignment width (measure.width header) header

/-- The lines of a cell with blank lines up to a number of lines: above them for a cell at the
bottom, on both sides for a centred one, and below them otherwise. -/
def alignVertically (lines : List Text) (count width : Nat) (alignment : Value) : List Text :=
  let missing := count - lines.length
  let blank (number : Nat) : List Text := List.replicate number (List.replicate width ' ')
  match alignment with
  | .str text =>
    if text == "bottom".toList then blank missing ++ lines
    else if text == "center".toList then
      blank (missing / 2) ++ lines ++ blank (missing - missing / 2)
    else lines ++ blank missing
  | _ => lines ++ blank missing

end TypeSurvey.Table
