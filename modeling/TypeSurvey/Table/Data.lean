import TypeSurvey.Table.Cell

/-!
# Tabular data

A table can be given as rows, as a dictionary of columns, or as a list of dictionaries or records.
`normalize` turns every form into rows of cells and a list of headers, adds row labels where they
are asked for, and fills headers up from the left.
-/

namespace TypeSurvey.Table

/-- The cell that marks a row as a separating line. -/
def separatorMark : Text := ['\x01']

/-- Whether a cell is the mark of a separating line. -/
def isSeparatorCell (cell : Value) : Bool :=
  match cell.underived with
  | .str text => text == separatorMark
  | _ => false

@[simp] theorem isSeparatorCell_str (text : Text) :
    isSeparatorCell (.str text) = (text == separatorMark) := rfl

/-- Whether the first or the second of some cells is the mark of a separating line. -/
def isSeparator (cells : List Value) : Bool := (cells.take 2).any isSeparatorCell

/-- Whether a row given as a list or as a text is a separating line. -/
def isSeparatorRow : Value → Bool
  | .list cells => isSeparator cells
  | .str text => isSeparator (text.map fun letter => .str [letter])
  | _ => false

/-- Lists turned from rows into columns; short rows are filled up with no value. -/
def transpose (rows : List (List Value)) : List (List Value) :=
  let width := (rows.map List.length).foldl max 0
  (List.range width).map fun column => rows.map fun row => row.getD column .none

def isText (name : String) (value : Value) : Bool :=
  match value.underived with
  | .str text => text == name.toList
  | _ => false

@[simp] theorem isText_str (name : String) (text : Text) :
    isText name (.str text) = (text == name.toList) := rfl

def entries? (value : Value) : Option (List (Value × Value)) :=
  match value.underived with
  | .dict entries => some entries
  | _ => none

/-- The entries of a row that has to be a dictionary. -/
def entriesOf (row : Value) : Except Fault (List (Value × Value)) :=
  match entries? row with
  | some entries => .ok entries
  | none => .error (.noAttribute row.typeName "keys".toList)

/-- The keys with those of an entry list that are new put at the end. -/
def addKeys (keys : List Value) (entries : List (Value × Value)) : List Value :=
  entries.foldl (fun known entry =>
    if known.any (Value.equals entry.1) then known else known ++ [entry.1]) keys

def textValues (texts : List Text) : List Value := texts.map .str

/-- A list of dictionaries as rows: the headers, and the rows with one cell for each key. -/
def normalizeDicts (first : Value) (rest : List Value) (headers : Value) :
    Except Fault (List Value × Value) := do
  let byFirst := isText "firstrow" headers
  let firstEntries ← entriesOf first
  let rows := if byFirst then rest else first :: rest
  let start := if byFirst then firstEntries.map Prod.fst else []
  let keys ← rows.foldlM (fun keys row => do return addKeys keys (← entriesOf row)) start
  let named (names : List (Value × Value)) : Value :=
    .list (keys.map fun key => .str ((Value.get? key names).getD key).toText)
  let headers ←
    if isText "keys" headers then pure (.list keys)
    else if let some names := entries? headers then pure (named names)
    else if byFirst then pure (if rows.isEmpty then .list [] else named firstEntries)
    else if headers.isFalsy then pure headers
    else throw .dictHeaders
  let rows ← rows.mapM fun row => do
    let entries ← entriesOf row
    return .list (keys.map fun key => (Value.get? key entries).getD .none)
  return (rows, headers)

/-- The value of a named field of a row. -/
def fieldOf (row : Value) (name : Text) : Except Fault Value :=
  let find (fields : List Text) (items : List Value) : Except Fault Value :=
    match (fields.zip items).find? (fun field => field.1 == name) with
    | some field => .ok field.2
    | none => .error (.noAttribute row.typeName name)
  match row.underived with
  | .record fields items => find fields items
  | .namedTuple fields items => find fields items
  | _ => .error (.noAttribute row.typeName name)

/-- Rows given one after the other, and the headers. -/
def normalizeRows (rows : List Value) (headers : Value) : Except Fault (List Value × Value) := do
  let byKeys := isText "keys" headers
  match rows with
  | [] => return ([], if byKeys then .list [] else headers)
  | first :: rest =>
    match first.underived with
    | .namedTuple fields _ => return (rows, if byKeys then .list (textValues fields) else headers)
    | .record fields _ =>
      let rows ← rows.mapM fun row => do return .list (← fields.mapM (fieldOf row))
      return (rows, if byKeys then .list (textValues fields) else headers)
    | _ =>
      if (entries? first).isSome then normalizeDicts first rest headers
      else if byKeys then
        let count ← first.length
        return (rows, .list ((List.range count).map fun column => .str (Text.ofNat column)))
      else return (rows, headers)

/-- The rows without separating lines, and the positions of those. -/
def removeSeparators (rows : List Value) : List Value × List Nat :=
  (rows.filter (!isSeparatorRow ·),
   (rows.zipIdx.filter fun row => isSeparatorRow row.1).map Prod.snd)

/-- An item put in at a position; behind the end it goes to the end. -/
def insertAt {α : Type} (item : α) : Nat → List α → List α
  | 0, items => item :: items
  | _ + 1, [] => [item]
  | position + 1, first :: rest => first :: insertAt item position rest

/-- Separating lines put back at their positions, one after the other. -/
def reinsertSeparators {α : Type} (line : α) (positions : List Nat) (rows : List α) : List α :=
  positions.foldl (fun rows position => insertAt line position rows) rows

/-- Rows with labels in front; there have to be enough labels. -/
def labelRows : List Value → List Value → Except Fault (List Value)
  | [], _ => .ok []
  | _ :: _, [] => .error .exhausted
  | row :: rows, label :: labels => do
    let cells ← row.iterate
    return .list (label :: cells) :: (← labelRows rows labels)

/-- Rows with a column of labels on the left. Labels whose number is known have to be as many as the
rows, separating lines included; separating lines take none. Only rows in a list can be separating
lines. -/
def prependLabels (rows labels : Value) : Except Fault Value := do
  match labels with
  | .none => return rows
  | .bool false => return rows
  | _ =>
    if let some count := labels.length? then
      let length ← rows.length
      if count ≠ length then throw (.labelCount count length)
    let given ← rows.iterate
    let (plain, positions) := match rows with
      | .list _ => removeSeparators given
      | _ => (given, [])
    let labels ← labels.iterate
    let labelled ← labelRows plain labels
    return .list (reinsertSeparators (.str separatorMark) positions labelled)

/-- Rows with the labels that are asked for: the values of a collection, or the numbers of the rows
for `always` or any other true value. -/
def addLabels (rows : List Value) (showIndex : Value) : Except Fault (List Value) := do
  let numbers := Value.list ((List.range rows.length).map fun (number : Nat) => .int number)
  let labels ← match showIndex with
    | .str text => pure (if text == "always".toList then numbers else .none)
    | .bytes _ => pure .none
    | _ =>
      if showIndex.isSized then do pure (.list (← showIndex.iterate))
      else if showIndex.items?.isSome then pure showIndex
      else pure (if showIndex.isFalsy then .none else numbers)
  (← prependLabels (.list rows) labels).iterate

def texts (value : Value) : Except Fault (List Text) := do
  return (← value.iterate).map Value.toText

/-- Rows with their headers, which are filled up from the left. -/
def withHeaders (headers : List Text) (rows : List Value) :
    Except Fault (List Value × List Text) :=
  match headers, rows with
  | _ :: _, first :: _ => do
    let count ← first.length
    return (rows, List.replicate (count - headers.length) [] ++ headers)
  | _, _ => return (rows, headers)

/-- The rows and headers of any form of tabular data. -/
def normalize (data headers showIndex : Value) : Except Fault (List Value × List Text) := do
  let (rows, headers) ← match entries? data with
    | some entries => do
      let columns ← entries.mapM fun entry => entry.2.iterate
      let rows := (transpose columns).map Value.tuple
      let keys := Value.list (entries.map fun entry => .str entry.1.toText)
      pure (rows, if isText "keys" headers then keys else headers)
    | none => do normalizeRows (← data.iterate) headers
  let (rows, headers) ← match isText "firstrow" headers, rows with
    | true, first :: rest => do pure (rest, textValues (← texts first))
    | true, [] => pure ([], [])
    | false, _ => do pure (rows, textValues (← texts headers))
  let headers := headers.map Value.toText
  let rows ← rows.mapM fun row => do
    if isSeparatorRow row then pure row else pure (.list (← row.iterate))
  addLabels rows showIndex >>= withHeaders headers

end TypeSurvey.Table
