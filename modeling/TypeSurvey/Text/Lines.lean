import TypeSurvey.Text.Basic

/-!
# Lines

Two notions of a line. A file read as text has its carriage returns turned into line feeds, and a
line ends at a line feed. A block of text shown to a reader also ends a line at the other
characters that Unicode calls line boundaries.
-/

namespace TypeSurvey.Text

/-- Every carriage return, with or without a line feed after it, becomes one line feed. -/
def normalizeNewlines : Text → Text
  | [] => []
  | '\r' :: '\n' :: rest => '\n' :: normalizeNewlines rest
  | '\r' :: rest => '\n' :: normalizeNewlines rest
  | letter :: rest => letter :: normalizeNewlines rest

/-- The lines of a text, without the line feeds that end them. A final line feed begins no
further line. -/
def lines (text : Text) : List Text :=
  let pieces := splitWhere (· == '\n') text
  match pieces.getLast? with
  | some [] => pieces.dropLast
  | _ => pieces

/-- Whether a character is a line boundary of Unicode. -/
def isLineBoundary (letter : Char) : Bool :=
  let code := letter.toNat
  (10 ≤ code && code ≤ 13) || (28 ≤ code && code ≤ 30) || code == 0x85 || code == 0x2028 ||
    code == 0x2029

/-- The loop of `splitLines`; `line` holds the current line backwards. -/
def splitLinesFrom : Text → Text → List Text
  | line, [] => if line.isEmpty then [] else [line.reverse]
  | line, '\r' :: '\n' :: rest => line.reverse :: splitLinesFrom [] rest
  | line, letter :: rest =>
    if isLineBoundary letter then line.reverse :: splitLinesFrom [] rest
    else splitLinesFrom (letter :: line) rest

/-- The lines between line boundaries, a carriage return and a line feed being one boundary. -/
def splitLines (text : Text) : List Text := splitLinesFrom [] text

/-- Tabs replaced by spaces up to the next multiple of `size`; a line end starts a new count. A size
of zero drops tabs. -/
def expandTabs (size : Nat) (text : Text) : Text := go 0 text
where
  /-- The loop of `expandTabs` at a column. -/
  go (column : Nat) : Text → Text
    | [] => []
    | '\t' :: rest =>
      let width := if size = 0 then 0 else size - column % size
      List.replicate width ' ' ++ go (column + width) rest
    | letter :: rest =>
      letter :: go (if letter == '\n' || letter == '\r' then 0 else column + 1) rest

end TypeSurvey.Text
