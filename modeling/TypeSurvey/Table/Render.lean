import TypeSurvey.Table.Data
import TypeSurvey.Table.Style

/-!
# Tables as text

`render` normalizes the data, wraps cells to column widths where that is asked for, writes every
column in the format of its kind, aligns the columns, and draws the rows and rules of the style.
-/

namespace TypeSurvey.Table

/-- The style of a table: one that is known by a name, or columns with a separator. -/
inductive StyleChoice
  /-- The style of this name; an unknown name stands for the style `simple`. -/
  | named (name : Value)
  /-- Columns with this separator between them. -/
  | separated (separator : Text)

/-- How a table is rendered. -/
structure Options where
  /-- The headers: a list, or a word for where to take them from. -/
  headers : Value := .tuple []
  style : StyleChoice := .named (.ofString "simple")
  /-- The specifier of real numbers, or one for each column. -/
  realFormat : Value := .ofString "g"
  /-- The specifier of integers, or one for each column. -/
  integerFormat : Value := .ofString ""
  numberAlign : Value := .ofString "default"
  textAlign : Value := .ofString "default"
  /-- What stands for no value, or one text for each column. -/
  missing : Value := .ofString ""
  showIndex : Value := .ofString "default"
  /-- Whether texts are not read as numbers, or the columns in which they are not. -/
  keepsTexts : Value := .bool false
  columnAlign : Value := .none
  columnWidths : Value := .none
  rowAlign : Value := .none
  headerWidths : Value := .none

/-- The position in a list of a length that an index denotes; a negative one counts from the end. -/
def position? (length : Nat) (index : Int) : Option Nat :=
  let position := if index < 0 then index + length else index
  if 0 ≤ position && position < length then some position.toNat else none

/-- A list index as an integer. -/
def indexOf (index : Value) : Except Fault Int :=
  match index.underived with
  | .int number => .ok number
  | .bool truth => .ok (if truth then 1 else 0)
  | _ => .error (.sequenceIndex "list".toList index.typeName)

/-- For each of some columns whether its texts are read as numbers. -/
def expandNumberReading (keepsTexts : Value) (count : Nat) : Except Fault (List Bool) :=
  match keepsTexts.items? with
  | some indices =>
    indices.foldlM (fun reading index => do
      match position? count (← indexOf index) with
      | some position => return reading.set position false
      | none => throw .assignmentRange) (List.replicate count true)
  | none => .ok (List.replicate count keepsTexts.isFalsy)

/-- A list filled up with a value to a length; anything that is no collection gives the value alone.
Only a list can be filled up. -/
def expand (given : Value) (count : Nat) (default : Value) : Except Fault (List Value) :=
  if given.isTextual then .ok (List.replicate count default)
  else
    match given.items? with
    | none => .ok (List.replicate count default)
    | some items => do
      let length ← given.length
      match given.underived with
      | .list _ => return items ++ List.replicate (count - length) default
      | .tuple _ | .namedTuple _ _ => throw (.concatenate "tuple".toList "list".toList)
      | _ => throw (.unsupportedOperands ['+'] given.typeName "list".toList)

/-- The text that a cell is wrapped as. A truth value, no value, bytes and a text for an integer
that is too large cannot be wrapped. -/
def wrappable (cell : Value) (ignoresStyle : Bool) : Except Fault Text := do
  if ← isNumber cell then return cell.toText
  match ← kindOf cell ignoresStyle true with
  | .text => return cell.toText
  | .absent => throw (.takesNoArguments "NoneType".toList)
  | .truth => throw (.noAttribute "bool".toList "expandtabs".toList)
  | .bytes => throw (.bytesExpected "dict".toList)
  | .integer =>
    if isInteger cell then throw (.noAttribute "int".toList "expandtabs".toList)
    else throw (.unreadableInt cell)
  | .real => throw (.unreadableFloat cell)

def wrapWidth (width : Value) : Except Fault Int :=
  match width.underived with
  | .int number => .ok number
  | .bool truth => .ok (if truth then 1 else 0)
  | _ => .error (.notOrdered "<=".toList width.typeName "int".toList)

/-- The fault that stands for a fault of wrapping. -/
def wrapFault (width : Value) : Text.WrapFault → Fault
  | .width number => match width with
    | .bool _ => .wrapFlag
    | _ => .wrapWidth number
  | .placeholder => .placeholderTooLarge
  | .endless => .endless

/-- A cell wrapped to a width; numbers are kept. -/
def wrapCell (cell width : Value) (readsNumbers : Bool) : Except Fault Value := do
  if (← isNumber cell) && readsNumbers then return cell
  match width with
  | .none => return cell
  | _ =>
    let text ← wrappable cell readsNumbers
    let columns ← wrapWidth width
    let lines ← (Text.wrap { width := columns } text).mapError (wrapFault width)
    return .str (Text.join ['\n'] lines)

/-- Rows wrapped to the widths of the columns. A row has no more cells than there are widths. -/
def wrapRows (rows : List (List Value)) (widths : List Value) (reading : List Bool) :
    Except Fault (List (List Value)) :=
  rows.mapM fun row =>
    (row.zip (widths.zip reading)).mapM fun (cell, width, readsNumbers) =>
      wrapCell cell width readsNumbers

/-- Rows wrapped to widths, with one answer for all columns or one for each on whether its texts are
read as numbers. -/
def wrapTextTo (rows : List (List Value)) (widths : List Value) (reading : Value) :
    Except Fault (List (List Value)) := do
  match rows with
  | [] => throw (.indexRange "list".toList)
  | first :: _ =>
    let reading ← expand reading first.length (.bool true)
    wrapRows rows widths (reading.map fun reads => !reads.isFalsy)

/-- Rows wrapped as the options ask for, given the number of columns. -/
def wrapTo (widths keepsTexts : Value) (count : Nat) (rows : List (List Value)) :
    Except Fault (List (List Value)) := do
  let default := match widths.underived with
    | .int _ | .bool _ => widths
    | _ => .none
  let widths ← expand widths count default
  let reading ← expandNumberReading keepsTexts count
  let length := (rows.head?.map List.length).getD 0
  wrapRows rows widths (reading ++ List.replicate (length - reading.length) true)

/-- Two dots for an empty text. -/
def dotsForEmpty (cell : Value) : Value :=
  match cell.underived with
  | .str text => if text.all Text.isBlank then .ofString ".." else cell
  | .bytes content =>
    if content.all (fun byte => byte.toNat == 32 || (9 ≤ byte.toNat && byte.toNat ≤ 13)) then
      .ofString ".."
    else cell
  | _ => cell

/-- A row whose first cell is not empty. -/
def dotFirst : List Value → List Value
  | [] => []
  | first :: rest => dotsForEmpty first :: rest

/-- A cell as text, bytes being read as UTF-8 with what is ill-formed left out. -/
def plainText (cell : Value) : Text :=
  match cell.underived with
  | .bytes content => decodeLenient content.length content
  | _ => cell.toText
where
  /-- The loop that leaves out ill-formed bytes; it runs once for every byte at most. -/
  decodeLenient : Nat → Text.Bytes → Text
    | 0, _ => []
    | fuel + 1, bytes =>
      match Text.decodeUtf8 bytes with
      | .ok text => text
      | .error fault =>
        (match Text.decodeUtf8 (bytes.take fault.position) with
          | .ok text => text
          | .error _ => []) ++ decodeLenient fuel (bytes.drop (fault.position + fault.length))

/-- One setting for each of some columns: a text holds for all, a collection is filled up. -/
def perColumn (given : Value) (count : Nat) (default : Value) : Except Fault (List Value) :=
  if given.isTextual then .ok (List.replicate count given)
  else do
    let items ← given.iterate
    return items ++ List.replicate (count - items.length) default

/-- The alignments of the columns, with those given for the first columns put in. -/
def setAlignments (given : Value) (alignments : List Alignment) : Except Fault (List Alignment) :=
  match given with
  | .none => .ok alignments
  | _ =>
    match given.items? with
    | none => .error .assertion
    | some items =>
      if items.length > alignments.length then .error .assignmentRange
      else .ok (items.map Alignment.ofValue ++ alignments.drop items.length)

/-- The texts of a column that is to be aligned. -/
def alignable (alignment : Alignment) (cells : List Value) : Except Fault (List Text) :=
  cells.mapM fun cell =>
    if cell.isTextual then .ok cell.toText
    else match alignment with
      | .decimal => .error (.unsupportedOperands ['+'] cell.typeName "str".toList)
      | .absent _ => .error (.noLength cell.typeName)
      | _ => .error (.noAttribute cell.typeName "strip".toList)

/-- A row with blanks around its cells. -/
def padRow (padding : Nat) (cells : List Text) : List Text :=
  let blanks : Text := List.replicate padding ' '
  cells.map fun cell => blanks ++ cell ++ blanks

/-- The lines of a row. A row of cells of several lines is as high as its highest cell. -/
def rowLines (style : Style) (drawing : RowStyle) (multiline : Bool) (widths : List Nat)
    (alignments : List Alignment) (vertical : Value) (cells : List Text) :
    Except Fault (List Text) := do
  let padded := widths.map (· + 2 * style.padding)
  if multiline then
    let columns := cells.map Text.splitLines
    let count := greatest (columns.map List.length)
    let columns := columns.zipWith
      (fun lines width => alignVertically lines count width vertical) widths
    (List.range count).mapM fun line =>
      drawing.draw (padRow style.padding (columns.map fun column => column.getD line [])) widths
        alignments
  else
    return [← drawing.draw (padRow style.padding cells) padded alignments]

/-- A row of a table that is being drawn. -/
inductive Row
  | separator
  | cells (cells : List Text)

/-- The cells of a row; a separating line has its mark for a cell. -/
def Row.texts : Row → List Text
  | separator => [separatorMark]
  | cells texts => texts

def lastOf (values : List Value) : Except Fault Value :=
  match values.getLast? with
  | some value => .ok value
  | none => .error (.indexRange "list".toList)

/-- The data rows with a rule between neighbours. Rows beyond the alignments are left out, except
the last. -/
def rowsWithRules (style : Style) (rule : RuleStyle) (multiline : Bool) (widths : List Nat)
    (alignments : List Alignment) (verticals : List Value) (rows : List Row) :
    Except Fault (List Text) := do
  let line ← rule.draw (widths.map (· + 2 * style.padding)) alignments
  let before ← (rows.dropLast.zip verticals).mapM fun (row, vertical) => do
    return (← rowLines style style.row multiline widths alignments vertical row.texts) ++ [line]
  let last ← rowLines style style.row multiline widths alignments (← lastOf verticals)
    ((rows.getLast?.map Row.texts).getD [])
  return before.flatten ++ last

/-- Whether a row is drawn as a separating line. Where cells have one line only, the mark is looked
for among the first two cells with the blanks around them, so that a style with padding shows it. -/
def Row.isRule (style : Style) (multiline : Bool) : Row → Bool
  | separator => multiline || style.padding == 0
  | cells texts => !multiline && ((padRow style.padding texts).take 2).any (· == separatorMark)

/-- The data rows without rules between neighbours, and with a rule for each separating line. -/
def plainRows (style : Style) (multiline : Bool) (widths : List Nat) (alignments : List Alignment)
    (rows : List Row) : Except Fault (List Text) := do
  let separator := ((style.betweenRows.orElse fun _ => style.belowHeader).orElse fun _ =>
    style.below).orElse fun _ => style.above
  let lines ← rows.mapM fun row => do
    if row.isRule style multiline then
      match separator with
      | some rule => return [← rule.draw (widths.map (· + 2 * style.padding)) alignments]
      | none => return [[]]
    else rowLines style style.row multiline widths alignments .none row.texts
  return lines.flatten

/-- A rule as lines, unless it is hidden. -/
def ruleLines (rule : Option RuleStyle) (hidden : Bool) (widths : List Nat)
    (alignments : List Alignment) : Except Fault (List Text) :=
  match rule, hidden with
  | some rule, false => do return [← rule.draw widths alignments]
  | _, _ => .ok []

/-- A table whose cells are aligned, drawn in a style. -/
structure Layout where
  headers : List Text
  rows : List Row
  widths : List Nat
  alignments : List Alignment
  multiline : Bool
  verticals : List Value

/-- The widths of the columns with the blanks around their cells. -/
def Layout.paddedWidths (table : Layout) (style : Style) : List Nat :=
  table.widths.map (· + 2 * style.padding)

/-- The lines of the header, with the rule below it. -/
def Layout.headerLines (table : Layout) (style : Style) : Except Fault (List Text) :=
  if table.headers.isEmpty then .ok []
  else do
    let row ← rowLines style style.header table.multiline table.widths table.alignments .none
      table.headers
    let rule ← ruleLines style.belowHeader false (table.paddedWidths style) table.alignments
    return row ++ rule

def Layout.bodyLines (table : Layout) (style : Style) : Except Fault (List Text) :=
  match style.betweenRows, table.rows.isEmpty with
  | some rule, false =>
    rowsWithRules style rule table.multiline table.widths table.alignments table.verticals
      table.rows
  | _, _ => plainRows style table.multiline table.widths table.alignments table.rows

def Layout.lines (table : Layout) (style : Style) : Except Fault (List Text) := do
  let hasHeader := !table.headers.isEmpty
  let padded := table.paddedWidths style
  let above ← ruleLines style.above (hasHeader && style.headerHidesAbove) padded table.alignments
  let header ← table.headerLines style
  let body ← table.bodyLines style
  let below ← ruleLines style.below (hasHeader && style.headerHidesBelow) padded table.alignments
  return above ++ header ++ body ++ below

/-- A table as text; one without headers and rows is empty. -/
def Layout.draw (table : Layout) (style : Style) : Except Fault Text := do
  let lines ← table.lines style
  if table.headers.isEmpty && table.rows.isEmpty then return [] else return Text.join ['\n'] lines

/-- The names of a style that is given by name. -/
def StyleChoice.name? : StyleChoice → Option Text
  | named name => match name.underived with
    | .str text => some text
    | _ => none
  | separated _ => none

def StyleChoice.style : StyleChoice → Style
  | named name => match name.underived with
    | .str text => (Style.byName? text).getD Style.simple
    | _ => Style.simple
  | separated separator => Style.separated separator

/-- Whether a value can be the name of a style: collections that change cannot. -/
def StyleChoice.check : StyleChoice → Except Fault Unit
  | named name => match name.underived with
    | .list _ | .dict _ | .set false _ => .error (.unhashable name.typeName)
    | _ => .ok ()
  | separated _ => .ok ()

/-- Columns written as texts, and their kinds. -/
def formatColumns (options : Options) (keepsTexts : Value) (styled : Bool)
    (columns : List (List Value)) : Except Fault (List (List Value) × List CellKind) := do
  let count := columns.length
  let reading ← expandNumberReading keepsTexts count
  let kinds ← (columns.zip reading).mapM fun (cells, reads) => columnKind cells true reads
  let reals ← perColumn options.realFormat count (.ofString "g")
  let integers ← perColumn options.integerFormat count (.ofString "")
  let missing ← perColumn options.missing count (.ofString "")
  let settings := kinds.zip (reals.zip (integers.zip missing))
  let shown ← (columns.zip settings).mapM fun (cells, kind, real, integer, absent) =>
    cells.mapM (formatCell ⟨kind, real, integer, absent, styled⟩)
  return (shown, kinds)

/-- The alignment that stands for the word `default`. -/
def defaultAlign (given : Value) (standing : String) : Value :=
  if isText "default" given then .ofString standing else given

/-- Columns padded to their widths; each is at least as wide as its header needs. -/
def alignColumns (measure : Measure) (alignments : List Alignment) (least : List Nat)
    (columns : List (List Value)) : Except Fault (List (List Text)) :=
  (columns.zip (alignments.zip least)).mapM fun (cells, alignment, width) => do
    alignCells alignment measure width (← alignable alignment cells)

/-- The rows of aligned columns; all columns are equally long. -/
def rowsOf (columns : List (List Text)) : List (List Text) :=
  match columns with
  | [] => []
  | first :: _ =>
    (List.range first.length).map fun row => columns.map fun column => column.getD row []

/-- Tabular data as rows of cells, the positions of the separating lines, and the headers, with
everything wrapped that is to be wrapped. -/
def prepare (options : Options) (data : Value) :
    Except Fault (List (List Value) × List Nat × List Value) := do
  let data := match data with
    | .none => .list []
    | _ => data
  let (rows, headers) ← normalize data options.headers options.showIndex
  let (rows, separators) := removeSeparators rows
  let rows ← rows.mapM Value.iterate
  let columnCount : Except Fault Nat := match rows with
    | first :: _ => .ok first.length
    | [] => .error (.indexRange "list".toList)
  let rows ← match options.columnWidths with
    | .none => pure rows
    | widths => do wrapTo widths options.keepsTexts (← columnCount) rows
  let headers ← match options.headerWidths with
    | .none => pure (textValues headers)
    | widths => do
      let count := match rows with
        | first :: _ => .ok first.length
        | [] => .error (.indexRange "list".toList)
      let wrapped ← wrapTo widths options.keepsTexts (← count) [textValues headers]
      pure (wrapped.head?.getD [])
  return (rows, separators, headers)

/-- Whether the style is known by a name. -/
def Options.isNamed (options : Options) (name : String) : Bool :=
  options.style.name? == some name.toList

/-- The alignment of texts that is not given by column. -/
def Options.standingText (options : Options) : Value :=
  defaultAlign options.textAlign (if options.isNamed "pretty" then "center" else "left")

/-- The alignment of numbers that is not given by column. -/
def Options.standingNumber (options : Options) : Value :=
  defaultAlign options.numberAlign (if options.isNamed "pretty" then "center" else "decimal")

/-- The alignments of columns of these kinds. -/
def Options.alignments (options : Options) (kinds : List CellKind) :
    Except Fault (List Alignment) :=
  setAlignments options.columnAlign (kinds.map fun kind =>
    Alignment.ofValue (if kind.isNumeric then options.standingNumber else options.standingText))

/-- The vertical alignments of so many rows. -/
def Options.verticals (options : Options) (count : Nat) : Except Fault (List Value) :=
  expand options.rowAlign count (if options.rowAlign.isTextual then options.rowAlign else .none)

/-- A table before its columns are written. -/
structure Sheet where
  headers : List Text
  rows : List (List Value)
  /-- The positions of the separating lines. -/
  separators : List Nat

def Sheet.ofData (options : Options) (data : Value) : Except Fault Sheet := do
  let (rows, separators, headers) ← prepare options data
  if options.isNamed "rst" then
    return ⟨(dotFirst headers).map plainText, rows.map dotFirst, separators⟩
  else return ⟨headers.map plainText, rows, separators⟩

/-- How widths are measured: by what is found in the headers and the cells. -/
def Sheet.measure (sheet : Sheet) (style : StyleChoice) : Measure :=
  let plain := Text.join ['\t'] (sheet.headers ++ sheet.rows.flatten.map plainText)
  ⟨Text.isStyled plain, (style.name?.map Style.isMultiline).getD false && hasLineBreak plain⟩

/-- The widths that so many columns need for their headers. -/
def Sheet.leastWidths (sheet : Sheet) (measure : Measure) (pretty : Bool) (count : Nat) :
    List Nat :=
  if sheet.headers.isEmpty then List.replicate count 0
  else sheet.headers.map fun header => measure.width header + (if pretty then 0 else 2)

/-- The sheet with its columns aligned, given the widths that the headers need. -/
def Sheet.layout (sheet : Sheet) (measure : Measure) (standing : Alignment)
    (alignments : List Alignment) (least : List Nat) (columns : List (List Text))
    (verticals : List Value) : Layout :=
  let widths := columns.map fun cells => greatest (cells.map measure.width)
  let shownAlignments := if columns.isEmpty && alignments.isEmpty then
      sheet.headers.map fun _ => standing
    else alignments
  let widths := if sheet.headers.isEmpty then widths
    else if columns.isEmpty then least
    else least.zipWith max widths
  { headers := (sheet.headers.zip (shownAlignments.zip widths)).map
      fun (header, alignment, width) => alignHeader alignment measure width header
    rows := reinsertSeparators .separator sheet.separators ((rowsOf columns).map .cells)
    widths
    alignments
    multiline := measure.multiline
    verticals }

/-- The aligned cells of a table. -/
def layOut (options : Options) (data : Value) : Except Fault Layout := do
  let sheet ← Sheet.ofData options data
  options.style.check
  let pretty := options.isNamed "pretty"
  let measure := sheet.measure options.style
  let (columns, kinds) ← formatColumns options (if pretty then .bool true else options.keepsTexts)
    measure.ignoresStyle (transpose sheet.rows)
  let alignments ← options.alignments kinds
  let least := sheet.leastWidths measure pretty columns.length
  let columns ← alignColumns measure alignments least columns
  let verticals ← options.verticals (rowsOf columns).length
  return sheet.layout measure (.ofValue options.standingText) alignments least columns verticals

/-- Tabular data as a table. -/
def render (options : Options) (data : Value) : Except Fault Text := do
  (← layOut options data).draw options.style.style

end TypeSurvey.Table
