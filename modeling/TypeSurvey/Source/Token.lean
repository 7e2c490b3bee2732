import TypeSurvey.Source.Fault
import TypeSurvey.Text.Identifier
import TypeSurvey.Text.Lines

/-!
# Tokens

Source text as tokens. Line ends inside brackets are no tokens; elsewhere a change of indentation
gives tokens of its own. A source that cannot be read to its end gives the tokens before the fault,
and the fault as the last one.
-/

namespace TypeSurvey.Source

/-- A text or bytes literal, as written between its marks. -/
structure Quote where
  /-- Whether backslashes stand for themselves. -/
  raw : Bool
  bytes : Bool
  /-- Whether it holds expressions in braces. -/
  formatted : Bool
  body : Text
deriving DecidableEq, Repr

/-- The kinds of tokens. -/
inductive TokenKind
  /-- A name that is no keyword. -/
  | name (id : Text)
  | keyword (word : Text)
  | number (digits : Text)
  | quote (literal : Quote)
  | mark (text : Text)
  | newline
  | indent
  | unindent
  /-- The end of the source. -/
  | finish
  /-- The fault that stops the scanner. -/
  | fault (cause : Cause)
deriving DecidableEq, Repr

/-- A token and its line. -/
structure Token where
  kind : TokenKind
  /-- The line on which it starts. -/
  line : Nat
deriving DecidableEq, Repr

def keywords : List String :=
  ["False", "None", "True", "and", "as", "assert", "async", "await", "break", "class", "continue",
   "def", "del", "elif", "else", "except", "finally", "for", "from", "global", "if", "import", "in",
   "is", "lambda", "nonlocal", "not", "or", "pass", "raise", "return", "try", "while", "with",
   "yield"]

def isKeyword (word : Text) : Bool := keywords.any fun known => known.toList == word

/-- The marks of two and three characters, longer ones first. -/
def longMarks : List String :=
  ["**=", "//=", ">>=", "<<=", "...", "!=", "%=", "&=", "**", "*=", "+=", "-=", "->", "//", "/=",
   ":=", "<<", "<=", "<>", "==", ">=", ">>", "@=", "^=", "|="]

/-- The deepest nesting of brackets. -/
def maxBrackets : Nat := 200

/-- The greatest number of levels of indentation, the outermost included. -/
def maxIndents : Nat := 100

/-! ## Numbers -/

/-- Whether a character can belong to a word in the scanner's eyes. -/
def isWordLike (letter : Char) : Bool := letter.isAlphanum || letter == '_' || 128 ≤ letter.toNat

/-- Digits of a base with single underscores between them, and the rest. -/
def takeDigits (isDigit : Char → Bool) (cause : Text → Cause) :
    Nat → Text → Except Cause (Text × Text)
  | 0, text => .ok ([], text)
  | fuel + 1, text =>
    let digits := text.takeWhile isDigit
    match text.dropWhile isDigit with
    | '_' :: rest =>
      if (rest.head?.map isDigit).getD false then do
        let (more, after) ← takeDigits isDigit cause fuel rest
        return (digits ++ '_' :: more, after)
      else .error (cause rest)
    | rest => .ok (digits, rest)

def takeDecimal (text : Text) : Except Cause (Text × Text) :=
  takeDigits Char.isDigit (fun _ => .malformedNumber "decimal".toList) text.length text

/-- The words that may follow a number without a blank. -/
def afterNumberWords : List String := ["and", "else", "for", "if", "in", "is", "or", "not"]

/-- A number must not run into a word other than an operator. -/
def checkNumberEnd (kind : String) (rest : Text) : Except Cause Unit :=
  if afterNumberWords.any (fun word => word.toList.isPrefixOf rest) then .ok ()
  else if (rest.head?.map isWordLike).getD false then .error (.malformedNumber kind.toList)
  else .ok ()

/-- The mark of an imaginary number, if it comes next, and the end of the number. -/
def finishNumber (digits rest : Text) : Except Cause (Text × Text) :=
  match rest with
  | mark :: after =>
    if mark == 'j' || mark == 'J' then do
      checkNumberEnd "imaginary" after
      return (digits ++ ['j'], after)
    else do
      checkNumberEnd "decimal" rest
      return (digits, rest)
  | [] => .ok (digits, [])

/-- The exponent of a number, if it comes next, and the end of the number. An `e` that starts a
word that may follow a number is left. -/
def takeExponent (digits rest : Text) : Except Cause (Text × Text) :=
  match rest with
  | mark :: after =>
    if mark == 'e' || mark == 'E' then
      match after with
      | next :: more =>
        if next == '+' || next == '-' then
          if (more.head?.map Char.isDigit).getD false then do
            let (power, after) ← takeDecimal more
            finishNumber (digits ++ 'e' :: next :: power) after
          else .error (.malformedNumber "decimal".toList)
        else if next.isDigit then do
          let (power, after) ← takeDecimal after
          finishNumber (digits ++ 'e' :: power) after
        else do
          checkNumberEnd "decimal" rest
          return (digits, rest)
      | [] => do
        checkNumberEnd "decimal" rest
        return (digits, rest)
    else finishNumber digits rest
  | [] => finishNumber digits rest

/-- What follows the decimal point of a number. -/
def takeFraction (whole rest : Text) : Except Cause (Text × Text) :=
  if (rest.head?.map Char.isDigit).getD false then do
    let (part, after) ← takeDecimal rest
    takeExponent (whole ++ '.' :: part) after
  else takeExponent (whole ++ ['.']) rest

/-- Whether a character is a digit below a base up to sixteen. -/
def isBaseDigit (base : Nat) (letter : Char) : Bool :=
  let value :=
    if letter.isDigit then letter.toNat - 48
    else if 'a' ≤ letter && letter ≤ 'f' then letter.toNat - 87
    else if 'A' ≤ letter && letter ≤ 'F' then letter.toNat - 55
    else 16
  value < base

/-- The digits of a number in a base other than ten, after its mark. -/
def takeBased (mark : Char) (base : Nat) (kind : String) (rest : Text) :
    Except Cause (Text × Text) := do
  let cause (rest : Text) : Cause := match rest with
    | digit :: _ =>
      if digit.isDigit then .invalidDigit digit kind.toList else .malformedNumber kind.toList
    | [] => .malformedNumber kind.toList
  let start := match rest with
    | '_' :: after => after
    | _ => rest
  if !(start.head?.map (isBaseDigit base)).getD false then throw (cause start)
  let (digits, after) ← takeDigits (isBaseDigit base) cause start.length start
  match after with
  | digit :: _ => if digit.isDigit then throw (.invalidDigit digit kind.toList)
  | [] => pure ()
  checkNumberEnd kind after
  return ('0' :: mark :: digits, after)

/-- A number that starts with a digit. -/
def takeNumber (text : Text) : Except Cause (Text × Text) :=
  match text with
  | '0' :: mark :: rest =>
    if mark == 'x' || mark == 'X' then takeBased 'x' 16 "hexadecimal" rest
    else if mark == 'o' || mark == 'O' then takeBased 'o' 8 "octal" rest
    else if mark == 'b' || mark == 'B' then takeBased 'b' 2 "binary" rest
    else do
      let (digits, after) ← takeDecimal text
      match after with
      | '.' :: part => takeFraction digits part
      | next :: _ =>
        if "eEjJ".toList.contains next then takeExponent digits after
        else if digits.any (fun digit => digit != '0' && digit != '_') then throw .leadingZeros
        else finishNumber digits after
      | [] =>
        if digits.any (fun digit => digit != '0' && digit != '_') then throw .leadingZeros
        else return (digits, [])
  | _ => do
    let (digits, after) ← takeDecimal text
    match after with
    | '.' :: part => takeFraction digits part
    | _ => takeExponent digits after

/-! ## Text literals -/

/-- The letters before a text literal: raw, bytes, formatted, and the rest from the mark on. Each
letter occurs once, `u` alone, and `b` not with `f`. -/
def quoteLetters (raw bytes formatted unicode : Bool) : Text → Option (Bool × Bool × Bool × Text)
  | [] => none
  | letter :: rest =>
    if letter == '"' || letter == Text.apostrophe then some (raw, bytes, formatted, letter :: rest)
    else
      let small := letter.toLower
      if small == 'b' && !(bytes || unicode || formatted) then
        quoteLetters raw true formatted unicode rest
      else if small == 'u' && !(bytes || unicode || raw || formatted) then
        quoteLetters raw bytes formatted true rest
      else if small == 'r' && !(raw || unicode) then quoteLetters true bytes formatted unicode rest
      else if small == 'f' && !(formatted || bytes || unicode) then
        quoteLetters raw bytes true unicode rest
      else none

/-- The body of a literal that ends at one mark. The rest is none if a line ends first. -/
def takeShort (mark : Char) : Text → Text × Option Text
  | [] => ([], none)
  | '\\' :: letter :: rest =>
    let (body, after) := takeShort mark rest
    ('\\' :: letter :: body, after)
  | letter :: rest =>
    if letter == mark then ([], some rest)
    else if letter == '\n' then ([], none)
    else
      let (body, after) := takeShort mark rest
      (letter :: body, after)

/-- The body of a literal that ends at three marks. The rest is none if the source ends first. -/
def takeLong (mark : Char) : Text → Text × Option Text
  | [] => ([], none)
  | '\\' :: letter :: rest =>
    let (body, after) := takeLong mark rest
    ('\\' :: letter :: body, after)
  | letter :: rest =>
    if letter == mark && [mark, mark].isPrefixOf rest then ([], some (rest.drop 2))
    else
      let (body, after) := takeLong mark rest
      (letter :: body, after)

/-! ## The scanner -/

/-- The state of the scanner. -/
structure Scanner where
  rest : Text
  line : Nat
  /-- The widths of the open indentations, the innermost first: with tab stops of eight, and of
  one. -/
  indents : List (Nat × Nat)
  /-- The open brackets and their lines, the innermost first. -/
  brackets : List (Char × Nat)

/-- The indentation of a line. -/
structure Indentation where
  /-- The width with tab stops of eight. -/
  column : Nat
  /-- The width with a tab stop at every column. -/
  alternative : Nat
  /-- The width at the first mark that continues the line, if there is one. -/
  continued : Nat

/-- Reads the indentation of a line, over marks that continue it; gives the rest and its line. -/
def takeIndentation (found : Indentation) (line : Nat) :
    Text → Except Cause (Indentation × Nat × Text)
  | ' ' :: rest =>
    takeIndentation { found with column := found.column + 1, alternative := found.alternative + 1 }
      line rest
  | '\t' :: rest =>
    takeIndentation
      { found with column := (found.column / 8 + 1) * 8, alternative := found.alternative + 1 } line
      rest
  | '\x0c' :: rest => takeIndentation { found with column := 0, alternative := 0 } line rest
  | ['\\', '\n'] => .error .unexpectedEnd
  | '\\' :: '\n' :: rest =>
    takeIndentation
      { found with continued := if found.continued = 0 then found.column else found.continued }
      (line + 1) rest
  | '\\' :: _ => .error .afterContinuation
  | text => .ok (found, line, text)

/-- The tokens for the change to an indentation, and the indentations open after it. -/
def indentTokens (line : Nat) (column alternative : Nat) (open_ : List (Nat × Nat)) :
    Except Cause (List Token × List (Nat × Nat)) :=
  match open_ with
  | [] => .ok ([], [])
  | (width, other) :: outer =>
    if column = width then
      if alternative = other then .ok ([], open_) else .error .inconsistentTabs
    else if column > width then
      if open_.length ≥ maxIndents then .error .tooManyIndents
      else if alternative ≤ other then .error .inconsistentTabs
      else .ok ([⟨.indent, line⟩], (column, alternative) :: open_)
    else
      close outer
where
  /-- Closes indentations until the column is reached. -/
  close : List (Nat × Nat) → Except Cause (List Token × List (Nat × Nat))
    | [] => .error .unindentMismatch
    | (width, other) :: outer =>
      if column < width then do
        let (tokens, left) ← close outer
        return (⟨.unindent, line⟩ :: tokens, left)
      else if column = width then
        if alternative = other then .ok ([⟨.unindent, line⟩], (width, other) :: outer)
        else .error .inconsistentTabs
      else .error .unindentMismatch

/-- The mark at the start of a text: the longest that is known. -/
def takeMark (text : Text) : Text × Text :=
  match longMarks.find? fun mark => mark.toList.isPrefixOf text with
  | some mark => (mark.toList, text.drop mark.length)
  | none => (text.take 1, text.drop 1)

/-- The opening bracket of a closing one. -/
def openingOf : Char → Char
  | ')' => '('
  | ']' => '['
  | _ => '{'

def bracketsAfter (mark : Text) (line : Nat) (open_ : List (Char × Nat)) :
    Except Cause (List (Char × Nat)) :=
  match mark with
  | [letter] =>
    if "([\x7b".toList.contains letter then
      if open_.length ≥ maxBrackets then .error .tooManyBrackets
      else .ok ((letter, line) :: open_)
    else if ")]\x7d".toList.contains letter then
      match open_ with
      | [] => .error (.unmatched letter)
      | (opening, openLine) :: outer =>
        if openingOf letter == opening then .ok outer
        else
          .error (.mismatched letter opening (if openLine = line then none else some openLine))
    else .ok open_
  | _ => .ok open_

/-- The fault of a word that is no identifier, at its first character that does not fit. -/
def wordFault? (word : Text) : Option Cause :=
  let bad := match word with
    | first :: rest =>
      if Text.isIdentifierStart first then rest.find? (!Text.isIdentifierContinue ·) else some first
    | [] => none
  bad.map fun letter =>
    if Text.isPrintable letter then .invalidCharacter letter else .unprintableCharacter letter

def lineEnds (text : Text) : Nat := (text.filter (· == '\n')).length

/-- One token that is neither the end of a line nor of the source: its kind, its line, and the
state after it. -/
def nextToken (state : Scanner) (first : Char) (rest : Text) :
    Except Fault (TokenKind × Scanner) :=
  let text := first :: rest
  let fail (cause : Cause) : Except Fault (TokenKind × Scanner) := .error ⟨cause, state.line⟩
  let quoteStart :=
    if first.isAlpha || first == '"' || first == Text.apostrophe then
      quoteLetters false false false false text
    else none
  match quoteStart with
  | some (raw, bytes, formatted, mark :: body) =>
    let long := [mark, mark].isPrefixOf body
    let (inside, after) := if long then takeLong mark (body.drop 2) else takeShort mark body
    match after with
    | some after =>
      .ok (.quote ⟨raw, bytes, formatted, inside⟩,
        { state with rest := after, line := state.line + lineEnds inside })
    | none =>
      let last := if inside.getLast? == some '\n' then 1 else 0
      fail (.unterminatedText long (state.line + lineEnds inside - last))
  | _ =>
    if isWordLike first && !first.isDigit then
      let word := text.takeWhile isWordLike
      match (if word.all (·.toNat < 128) then none else wordFault? word) with
      | some cause => fail cause
      | none =>
        .ok (if isKeyword word then .keyword word else .name word,
          { state with rest := text.dropWhile isWordLike })
    else if first.isDigit then
      match takeNumber text with
      | .ok (digits, after) => .ok (.number digits, { state with rest := after })
      | .error cause => fail cause
    else if first == '.' && (rest.head?.map Char.isDigit).getD false then
      match takeFraction [] rest with
      | .ok (digits, after) => .ok (.number digits, { state with rest := after })
      | .error cause => fail cause
    else
      let (mark, after) := takeMark text
      match bracketsAfter mark state.line state.brackets with
      | .error cause => fail cause
      | .ok brackets =>
        if mark.all Text.isPrintable then .ok (.mark mark, { state with rest := after, brackets })
        else fail (.unprintableCharacter first)

/-- The last token of a source that ends here, before `line` if a line has just ended. -/
def endToken (state : Scanner) (line : Nat) : Token :=
  match state.brackets with
  | (opening, openLine) :: _ => ⟨.fault (.neverClosed opening), openLine⟩
  | [] => ⟨.finish, line⟩

/-- The tokens of a source from a place on. -/
def tokensFrom : Nat → Bool → Scanner → List Token
  | 0, _, state => [⟨.fault .unexpectedEnd, state.line⟩]
  | fuel + 1, true, state =>
    match takeIndentation ⟨0, 0, 0⟩ state.line state.rest with
    | .error cause => [⟨.fault cause, state.line⟩]
    | .ok (found, line, rest) =>
      let state := { state with rest, line }
      match rest with
      | '#' :: _ =>
        match rest.dropWhile (· != '\n') with
        | _ :: after => tokensFrom fuel true { state with rest := after, line := line + 1 }
        | [] => [endToken state line]
      | '\n' :: after => tokensFrom fuel true { state with rest := after, line := line + 1 }
      | _ =>
        if state.brackets.isEmpty then
          let here := if rest.isEmpty then line - 1 else line
          let column := if found.continued = 0 then found.column else found.continued
          let alternative := if found.continued = 0 then found.alternative else found.continued
          match indentTokens here column alternative state.indents with
          | .error cause => [⟨.fault cause, here⟩]
          | .ok (tokens, indents) =>
            if rest.isEmpty then tokens ++ [endToken state here]
            else tokens ++ tokensFrom fuel false { state with indents }
        else if rest.isEmpty then [endToken state (line - 1)]
        else tokensFrom fuel false state
  | fuel + 1, false, state =>
    match state.rest with
    | [] => [endToken state state.line]
    | '\n' :: after =>
      let next := tokensFrom fuel true { state with rest := after, line := state.line + 1 }
      if state.brackets.isEmpty then ⟨.newline, state.line⟩ :: next else next
    | '\\' :: '\n' :: [] => [⟨.fault .unexpectedEnd, state.line⟩]
    | '\\' :: '\n' :: after =>
      tokensFrom fuel false { state with rest := after, line := state.line + 1 }
    | '\\' :: _ => [⟨.fault .afterContinuation, state.line⟩]
    | '#' :: _ => tokensFrom fuel false { state with rest := state.rest.dropWhile (· != '\n') }
    | first :: rest =>
      if first == ' ' || first == '\t' || first == '\x0c' then
        tokensFrom fuel false { state with rest }
      else
        match nextToken state first rest with
        | .error fault => [⟨.fault fault.cause, fault.line⟩]
        | .ok (kind, after) => ⟨kind, state.line⟩ :: tokensFrom fuel false after

/-- The tokens of a source. Every line of a module ends with a line end, which is added to the last
one if it is missing. -/
def tokens (isModule : Bool) (source : Text) : List Token :=
  let text := Text.normalizeNewlines source
  let text := if isModule && text.getLast? != some '\n' then text ++ ['\n'] else text
  tokensFrom (2 * text.length + 2) true ⟨text, 1, [(0, 0)], []⟩

end TypeSurvey.Source
