import TypeSurvey.Number.Literal
import TypeSurvey.Source.Expr
import TypeSurvey.Source.Token
import TypeSurvey.Text.CharacterName

/-!
# Literals

The constants that number, text and bytes literals denote. A backslash starts an escape: one of the
control characters, a code in octal or hexadecimal digits, or a character by its name. A backslash
before any other character stands for itself.
-/

namespace TypeSurvey.Source

/-! ## Numbers -/

/-- The natural number that digits in a base denote. -/
def basedValue (base : Nat) (digits : Text) : Nat :=
  digits.foldl (fun value digit => value * base + Text.hexValue [digit.toUpper]) 0

/-- The constant of a number literal. A decimal integer other than zero has a limited number of
digits. -/
def numberConstant (literal : Text) : Except Cause Constant :=
  let digits := literal.filter (· != '_')
  match digits with
  | '0' :: 'x' :: rest => .ok (.int (basedValue 16 rest))
  | '0' :: 'o' :: rest => .ok (.int (basedValue 8 rest))
  | '0' :: 'b' :: rest => .ok (.int (basedValue 2 rest))
  | _ =>
    let real (text : Text) : Binary64 := (Numeral.toBinary64? text).getD (Binary64.zero false)
    if digits.getLast? == some 'j' then .ok (.imaginary (real digits.dropLast))
    else if digits.any (fun digit => digit == '.' || digit == 'e') then .ok (.float (real digits))
    else if digits.all (· == '0') then .ok (.int 0)
    else if digits.length > maxIntegerDigits then .error (.tooManyDigits digits.length)
    else .ok (.int (Numeral.digitsValue digits))

/-! ## Escapes -/

/-- The control characters that have an escape of one letter, and the marks that stand for
themselves. -/
def simpleEscape? (letter : Char) : Option Char :=
  (("\\\"\x27abfnrtv".toList).zip "\\\"\x27\x07\x08\x0c\n\r\t\x0b".toList).lookup letter

/-- The width of a character as messages about escapes count: one that is not ASCII counts as an
escape of eight digits. -/
def escapedWidth (letter : Char) : Nat := if letter.toNat < 128 then 1 else 10

/-- The cause of a malformed escape between two positions. -/
def escapeCause (start stop : Nat) (reason : String) : Cause :=
  .malformedEscape
    ("(unicode error) 'unicodeescape' codec can't decode bytes in position ".toList ++
    Text.ofNat start ++ "-".toList ++ Text.ofNat (stop - 1) ++ ": ".toList ++ reason.toList)

def isOctal (letter : Char) : Bool := isBaseDigit 8 letter

/-- Whether a character is a hexadecimal digit. -/
def isHex (letter : Char) : Bool := isBaseDigit 16 letter

/-- The character of a code. Half of a surrogate pair is no character; it is read as the
replacement character. -/
def characterOf (code : Nat) : Char :=
  if 0xd800 ≤ code && code ≤ 0xdfff then Char.ofNat 0xfffd else Char.ofNat code

/-- Reads a number of hexadecimal digits after an escape letter: the character and the rest. -/
def codeEscape (start digits : Nat) (reason : String) (rest : Text) : Except Cause (Char × Text) :=
  let found := (rest.take digits).takeWhile isHex
  let stop := start + 2 + found.length
  if found.length < digits then .error (escapeCause start stop reason)
  else
    let code := basedValue 16 found
    if code > 0x10ffff then .error (escapeCause start stop "illegal Unicode character")
    else .ok (characterOf code, rest.drop digits)

/-- Reads the name of a character in braces: the character and the rest. -/
def nameEscape (start : Nat) (rest : Text) : Except Cause (Char × Text) :=
  let malformed (stop : Nat) : Except Cause (Char × Text) :=
    .error (escapeCause start stop "malformed \\N character escape")
  match rest with
  | '{' :: inside =>
    let name := inside.takeWhile (· != '}')
    let stop := start + 3 + (name.map escapedWidth).foldl Nat.add 0
    match inside.drop name.length with
    | _ :: after =>
      if name.isEmpty then malformed stop
      else
        match Text.characterNamed? name with
        | some letter => .ok (letter, after)
        | none => .error (escapeCause start (stop + 1) "unknown Unicode character name")
    | [] => malformed stop
  | _ => malformed (start + 2)

/-- Resolves the escapes of a text literal, from a position on. -/
def unescapeFrom : Nat → Nat → Text → Except Cause Text
  | 0, _, _ => .ok []
  | _, _, [] => .ok []
  | fuel + 1, start, '\\' :: letter :: rest => do
    let continueWith (letter : Char) (after : Text) : Except Cause Text := do
      let read := ((rest.take (rest.length - after.length)).map escapedWidth).sum
      return letter :: (← unescapeFrom fuel (start + 2 + read) after)
    match simpleEscape? letter with
    | some meant => continueWith meant rest
    | none =>
      if letter == '\n' then unescapeFrom fuel (start + 2) rest
      else if isOctal letter then
        let digits := letter :: (rest.take 2).takeWhile isOctal
        continueWith (Char.ofNat (basedValue 8 digits)) (rest.drop (digits.length - 1))
      else if letter == 'x' then
        let (meant, after) ← codeEscape start 2 "truncated \\xXX escape" rest
        continueWith meant after
      else if letter == 'u' then
        let (meant, after) ← codeEscape start 4 "truncated \\uXXXX escape" rest
        continueWith meant after
      else if letter == 'U' then
        let (meant, after) ← codeEscape start 8 "truncated \\UXXXXXXXX escape" rest
        continueWith meant after
      else if letter == 'N' then
        let (meant, after) ← nameEscape start rest
        continueWith meant after
      else
        let width := if letter.toNat < 128 then 1 else 6
        return '\\' :: (← unescapeFrom fuel (start + width) (letter :: rest))
  | fuel + 1, start, letter :: rest => do
    return letter :: (← unescapeFrom fuel (start + escapedWidth letter) rest)

/-- The text that the body of a text literal denotes. -/
def unescape (raw : Bool) (body : Text) : Except Cause Text :=
  if raw then .ok body else unescapeFrom body.length 0 body

/-- Resolves the escapes of a bytes literal, from a position on. -/
def unescapeBytesFrom : Nat → Nat → Text → Except Cause Text.Bytes
  | 0, _, _ => .ok []
  | _, _, [] => .ok []
  | fuel + 1, start, '\\' :: letter :: rest => do
    match simpleEscape? letter with
    | some meant => return meant.toNat.toUInt8 :: (← unescapeBytesFrom fuel (start + 2) rest)
    | none =>
      if letter == '\n' then unescapeBytesFrom fuel (start + 2) rest
      else if isOctal letter then
        let digits := letter :: (rest.take 2).takeWhile isOctal
        let after := rest.drop (digits.length - 1)
        return (basedValue 8 digits).toUInt8 ::
          (← unescapeBytesFrom fuel (start + 1 + digits.length) after)
      else if letter == 'x' then
        let digits := (rest.take 2).takeWhile isHex
        if digits.length < 2 then
          throw (.malformedEscape
            ("(value error) invalid \\x escape at position ".toList ++ Text.ofNat start))
        return (basedValue 16 digits).toUInt8 ::
          (← unescapeBytesFrom fuel (start + 4) (rest.drop 2))
      else return '\\'.toNat.toUInt8 :: (← unescapeBytesFrom fuel (start + 1) (letter :: rest))
  | fuel + 1, start, letter :: rest => do
    return letter.toNat.toUInt8 :: (← unescapeBytesFrom fuel (start + 1) rest)

/-- The bytes that the body of a bytes literal denotes. -/
def unescapeBytes (raw : Bool) (body : Text) : Except Cause Text.Bytes :=
  if body.any (128 ≤ ·.toNat) then .error .bytesCharacter
  else if raw then .ok (body.map fun letter => letter.toNat.toUInt8)
  else unescapeBytesFrom body.length 0 body

end TypeSurvey.Source
