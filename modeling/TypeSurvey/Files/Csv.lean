import TypeSurvey.Value.Fault

/-!
# Comma-separated records

A record is a line of fields with commas between them. A field that holds a special character is put
in quotes, and a quote inside is doubled.
-/

namespace TypeSurvey.Csv

/-- The choices of a format of records. -/
structure Dialect where
  /-- What ends a record. -/
  lineEnd : Text
  /-- The characters that have to be quoted. -/
  isSpecial : Char → Bool

/-- Records as spreadsheets write them. -/
def spreadsheet : Dialect where
  lineEnd := "\r\n".toList
  isSpecial letter := letter == ',' || letter == '"' || letter == '\r' || letter == '\n'

/-- Records with plain line ends. -/
def plain : Dialect where
  lineEnd := "\n".toList
  isSpecial letter := letter == ',' || letter == '"' || letter == '\n'

def quotedField (field : Text) : Text :=
  '"' :: field.flatMap (fun letter => if letter == '"' then ['"', '"'] else [letter]) ++ ['"']

/-- A field, in quotes if it has to be. -/
def Dialect.field (dialect : Dialect) (field : Text) : Text :=
  if field.any dialect.isSpecial then quotedField field else field

/-- A record. One empty field is written in quotes, so that it is not taken for no field. -/
def Dialect.record (dialect : Dialect) (fields : List Text) : Text :=
  let body := match fields with
    | [[]] => quotedField []
    | _ => Text.join [','] (fields.map dialect.field)
  body ++ dialect.lineEnd

def Dialect.records (dialect : Dialect) (rows : List (List Text)) : Text :=
  rows.flatMap dialect.record

/-- The field for a value: nothing for the absent value, and the text of any other one. -/
def fieldOf : Value → Text
  | .none => []
  | value => value.toText

/-- The records for values that hold the fields of a row each. The records before the first value
that has no items are written; then the name of its type is given. -/
def Dialect.recordsOf (dialect : Dialect) : List Value → Text × Option Text
  | [] => ([], none)
  | row :: rest =>
    match row.iterate with
    | .ok fields =>
      let (text, fault) := dialect.recordsOf rest
      (dialect.record (fields.map fieldOf) ++ text, fault)
    | .error _ => ([], some row.typeName)

end TypeSurvey.Csv
