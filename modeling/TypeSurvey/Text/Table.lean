import TypeSurvey.Text.Basic

/-!
# Tables of characters

Data on characters is written in tables: entries with semicolons or line ends between them, and
codes in hexadecimal digits. A list of numbers is written with one character for each small one.
-/

namespace TypeSurvey.Text

/-- The value of a text of hexadecimal digits. -/
def hexValue (digits : Text) : Nat :=
  digits.foldl (fun value digit =>
    value * 16 + (if digit.isDigit then digit.toNat - 48 else digit.toUpper.toNat - 55)) 0

/-- The entries of a table, with a semicolon or a line end between them. -/
def tableEntries (table : Text) : List Text :=
  splitWhere (fun letter => letter == ';' || letter == '\n') table

/-- The code that an entry is about, which stands before a colon, and the rest of the entry. Without
a colon it is about the next code. -/
def codedEntry (next : Nat) (entry : Text) : Nat × Text :=
  match splitWhere (· == ':') entry with
  | [code, rest] => (hexValue code, rest)
  | _ => (next, entry)

/-- Entries with a code for each of them. -/
def codedEntries (next : Nat) : List Text → List (Nat × Text)
  | [] => []
  | entry :: rest =>
    let (code, entry) := codedEntry next entry
    (code, entry) :: codedEntries (code + 1) rest

/-- The characters of packed tables in the order of their values. -/
def packedLetters : Text :=
  ("ABCDEFGHIJKLMNOPQRSTUVWXYZ0123456789!#$%&()*+,-./:<=>?[]^_|;" ++
    "abcdefghijklmnopqrstuvwxyz").toList

/-- The number that some characters of a packed table stand for. -/
def packedNumber (letters : Text) : Nat :=
  letters.foldl (fun number letter => number * 86 + packedLetters.idxOf letter) 0

/-- The numbers of a list in its packed form. A tilde stands before a number of two characters and
an at sign before one of four. Its lines are ended anywhere between numbers. -/
def readNumbers : Text → List Nat
  | [] => []
  | '\n' :: rest => readNumbers rest
  | '~' :: first :: second :: rest => packedNumber [first, second] :: readNumbers rest
  | '@' :: first :: second :: third :: fourth :: rest =>
    packedNumber [first, second, third, fourth] :: readNumbers rest
  | letter :: rest => packedNumber [letter] :: readNumbers rest

end TypeSurvey.Text
