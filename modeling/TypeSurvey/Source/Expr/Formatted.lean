import TypeSurvey.Source.Literal

/-!
# Formatted text literals

The body of a formatted literal is a sequence of literal pieces and of fields in braces. A doubled
brace stands for itself, except inside a format. A field holds the source of an expression, which
has neither a backslash nor a comment, then perhaps an equals sign that shows that source, a
conversion after an exclamation mark, and a format after a colon, which may hold fields in its turn.
-/

namespace TypeSurvey.Source

/-- A piece of a formatted literal. -/
inductive Piece
  | literal (content : Text)
  /-- A field: the source of its expression, the source to show before the value, the conversion,
  and the format if there is one. -/
  | field (source : Text) (shown : Option Text) (conversion : Option Char) (hasFormat : Bool)
      (format : List Piece)

namespace Piece

/-- The fault of a formatted literal. -/
def refused {α : Type} (detail : String) : Except Cause α := .error (.formatted detail.toList)

/-- Reads text up to the next field: the text with its escapes, whether it ended at a doubled brace,
and the rest. Braces that belong to the name of a character are not looked at. -/
def takeText (raw top : Bool) : Bool → Text → Except Cause (Text × Bool × Text)
  | _, [] => .ok ([], false, [])
  | true, letter :: rest => do
    let (text, doubled, after) ← takeText raw top (letter != '}') rest
    return (letter :: text, doubled, after)
  | false, '\\' :: letter :: rest =>
    if raw || letter == '{' || letter == '}' then do
      let (text, doubled, after) ← takeText raw top false (letter :: rest)
      return ('\\' :: text, doubled, after)
    else do
      let (text, doubled, after) ← takeText raw top (letter == 'N' && rest.head? == some '{') rest
      return ('\\' :: letter :: text, doubled, after)
  | false, letter :: rest =>
    if letter == '{' || letter == '}' then
      if top && rest.head? == some letter then .ok ([letter], true, rest.tail)
      else if top && letter == '}' then refused "single '\x7d' is not allowed"
      else .ok ([], false, letter :: rest)
    else do
      let (text, doubled, after) ← takeText raw top false rest
      return (letter :: text, doubled, after)

/-- Reads the source of an expression up to the mark that ends it, given the text literal that is
open, with three marks or with one, and the open brackets. -/
def takeSource : Option (Char × Bool) → List Char → Text → Except Cause (Text × Text)
  | some _, _, [] => refused "unterminated string"
  | none, opening :: _, [] => .error (.formatted ("unmatched ".toList ++ Cause.shown opening))
  | none, [], [] => refused "expecting '\x7d'"
  | _, _, '\\' :: _ => .error (.rule "f-string expression part cannot include a backslash".toList)
  | some (mark, long), brackets, letter :: rest =>
    if letter == mark then
      if !long then do
        let (source, after) ← takeSource none brackets rest
        return (letter :: source, after)
      else
        match rest with
        | second :: third :: more =>
          if second == mark && third == mark then do
            let (source, after) ← takeSource none brackets more
            return (letter :: second :: third :: source, after)
          else do
            let (source, after) ← takeSource (some (mark, long)) brackets (second :: third :: more)
            return (letter :: source, after)
        | _ => refused "unterminated string"
    else do
      let (source, after) ← takeSource (some (mark, long)) brackets rest
      return (letter :: source, after)
  | none, brackets, letter :: rest =>
    if letter == '"' || letter == Text.apostrophe then
      match rest with
      | second :: third :: more =>
        if second == letter && third == letter then do
          let (source, after) ← takeSource (some (letter, true)) brackets more
          return (letter :: second :: third :: source, after)
        else do
          let (source, after) ← takeSource (some (letter, false)) brackets (second :: third :: more)
          return (letter :: source, after)
      | rest => do
        let (source, after) ← takeSource (some (letter, false)) brackets rest
        return (letter :: source, after)
    else if letter == '[' || letter == '{' || letter == '(' then
      if brackets.length ≥ maxBrackets then refused "too many nested parenthesis"
      else do
        let (source, after) ← takeSource none (letter :: brackets) rest
        return (letter :: source, after)
    else if letter == '#' then
      .error (.rule "f-string expression part cannot include '#'".toList)
    else if brackets.isEmpty && "!:\x7d=<>".toList.contains letter then
      match rest with
      | '=' :: more =>
        if "!=<>".toList.contains letter then do
          let (source, after) ← takeSource none brackets more
          return (letter :: '=' :: source, after)
        else .ok ([], letter :: '=' :: more)
      | rest =>
        if letter == '<' || letter == '>' then do
          let (source, after) ← takeSource none brackets rest
          return (letter :: source, after)
        else .ok ([], letter :: rest)
    else if letter == ']' || letter == '}' || letter == ')' then
      match brackets with
      | [] => .error (.formatted ("unmatched ".toList ++ Cause.shown letter))
      | opening :: outer =>
        if openingOf letter == opening then do
          let (source, after) ← takeSource none outer rest
          return (letter :: source, after)
        else
          .error (.formatted ("closing parenthesis ".toList ++ Cause.shown letter ++
            " does not match opening parenthesis ".toList ++ Cause.shown opening))
    else do
      let (source, after) ← takeSource none brackets rest
      return (letter :: source, after)

/-- Whether a character may surround an expression. -/
def isGap (letter : Char) : Bool := " \t\n\x0c".toList.contains letter

/-- Whether a character may follow the equals sign of a field. -/
def isGapAfterEquals (letter : Char) : Bool := " \t\n\r\x0b\x0c".toList.contains letter

/-- A text piece, unless it is empty. -/
def textPieces (raw : Bool) (text : Text) : Except Cause (List Piece) := do
  if text.isEmpty then return [] else return [.literal (← unescape raw text)]

/-- Reads the pieces of a literal or, below it, of a format. -/
def takePieces (raw : Bool) : Nat → Nat → Text → Except Cause (List Piece × Text)
  | 0, _, text => .ok ([], text)
  | fuel + 1, level, text => do
    let (front, doubled, after) ← takeText raw (level == 0) false text
    let front ← textPieces raw front
    if doubled then
      let (pieces, rest) ← takePieces raw fuel level after
      return (front ++ pieces, rest)
    match after with
    | '{' :: inside =>
      if level ≥ 2 then refused "expressions nested too deeply"
      let (source, after) ← takeSource none [] inside
      if source.all isGap then refused "empty expression not allowed"
      let (shown, after) ← match after with
        | '=' :: rest =>
          let gap := rest.takeWhile isGapAfterEquals
          if gap.length = rest.length then refused "expecting '\x7d'"
          else pure (some (source ++ '=' :: gap), rest.drop gap.length)
        | _ => pure (none, after)
      let (conversion, after) ← match after with
        | '!' :: letter :: rest =>
          if "sra".toList.contains letter then pure (some letter, rest)
          else refused "invalid conversion character: expected 's', 'r', or 'a'"
        | ['!'] => refused "expecting '\x7d'"
        | _ => pure (none, after)
      let (hasFormat, format, after) ← match after with
        | ':' :: rest =>
          if rest.isEmpty then refused "expecting '\x7d'"
          let (pieces, rest) ← takePieces raw fuel (level + 1) rest
          pure (true, pieces, rest)
        | _ => pure (false, [], after)
      match after with
      | '}' :: rest =>
        let conversion :=
          if shown.isSome && conversion.isNone && !hasFormat then some 'r' else conversion
        let (pieces, rest) ← takePieces raw fuel level rest
        return (front ++ .field source shown conversion hasFormat format :: pieces, rest)
      | _ => refused "expecting '\x7d'"
    | _ => return (front, after)

/-- The pieces of the body of a formatted literal. -/
def ofBody (raw : Bool) (body : Text) : Except Cause (List Piece) := do
  let (pieces, _) ← takePieces raw (body.length + 1) 0 body
  return pieces

end Piece

end TypeSurvey.Source
