import TypeSurvey.Number.Binary64
import TypeSurvey.Text.Blank
import TypeSurvey.Text.Digit

/-!
# Numbers written as text

An integer is an optional sign and decimal digits of any script, with single underscores between
digits. A real number may further have a point and an exponent, or be the name of an infinity or of
no number. Blanks around either are ignored.
-/

namespace TypeSurvey

/-- The greatest number of digits of an integer that is read from text or written to it. -/
def maxIntegerDigits : Nat := 4300

namespace Numeral

/-- A character as numerals see it: digits of every script are ASCII digits, blanks beyond ASCII
are spaces, and no other character beyond ASCII occurs in a numeral. -/
def plainChar (letter : Char) : Char :=
  if letter.toNat < 127 then letter
  else if Text.isBlank letter then ' '
  else match Text.digitValue? letter with
    | some value => Char.ofNat (48 + value)
    | none => '?'

/-- Whether a character may surround a numeral. -/
def surrounds (letter : Char) : Bool :=
  letter == ' ' || (9 ≤ letter.toNat && letter.toNat ≤ 13)

/-- A numeral without what surrounds it, in ASCII. -/
def plain (text : Text) : Text := Text.trim surrounds (text.map plainChar)

/-- A sign, if there is one, and the rest. -/
def takeSign : Text → Bool × Text
  | '-' :: rest => (true, rest)
  | '+' :: rest => (false, rest)
  | text => (false, text)

/-- Removes underscores that stand between two digits; none if another underscore occurs. -/
def dropUnderscores? (afterDigit : Bool) : Text → Option Text
  | [] => some []
  | '_' :: digit :: rest =>
    if afterDigit && digit.isDigit then (dropUnderscores? true rest).map (digit :: ·) else none
  | ['_'] => none
  | letter :: rest => (dropUnderscores? letter.isDigit rest).map (letter :: ·)

def digitsValue (digits : Text) : Nat :=
  digits.foldl (fun value digit => value * 10 + (digit.toNat - 48)) 0

/-- What can be read where an integer is expected. -/
inductive Reading
  | integer (value : Int)
  /-- More digits than are read, and how many. -/
  | tooLong (digits : Nat)
  | malformed
deriving DecidableEq, Repr

def readInt (text : Text) : Reading :=
  let (negative, body) := takeSign (plain text)
  match dropUnderscores? false body with
  | none => .malformed
  | some digits =>
    if digits.isEmpty || !digits.all Char.isDigit then .malformed
    else if digits.length > maxIntegerDigits then .tooLong digits.length
    else
      let value := digitsValue digits
      .integer (if negative then -(value : Int) else value)

/-- The integer that a text denotes. -/
def toInt? (text : Text) : Option Int :=
  match readInt text with
  | .integer value => some value
  | _ => none

/-- Reads an exponent with its mark; an absent exponent is zero. -/
def readExponent? : Text → Option Int
  | [] => some 0
  | mark :: rest =>
    if mark == 'e' || mark == 'E' then
      let (negative, digits) := takeSign rest
      if digits.isEmpty || !digits.all Char.isDigit then none
      else
        let value := digitsValue digits
        some (if negative then -(value : Int) else value)
    else none

/-- Reads digits with an optional point and exponent: the digits and the power of ten. -/
def readDecimal? (text : Text) : Option (Nat × Int) := do
  let whole := text.takeWhile Char.isDigit
  let rest := text.dropWhile Char.isDigit
  let (part, rest) := match rest with
    | '.' :: after => (after.takeWhile Char.isDigit, after.dropWhile Char.isDigit)
    | other => ([], other)
  if whole.isEmpty && part.isEmpty then none
  else
    let exponent ← readExponent? rest
    return (digitsValue (whole ++ part), exponent - part.length)

/-- Reads a real number without a sign. -/
def readMagnitude? (negative : Bool) (text : Text) : Option Binary64 :=
  let name := Text.asciiLower text
  if name = "inf".toList || name = "infinity".toList then some (.infinite negative)
  else if name = "nan".toList then some .nan
  else (readDecimal? text).map fun (digits, exponent) => Binary64.ofDecimal negative digits exponent

/-- The real number that a text denotes. -/
def toBinary64? (text : Text) : Option Binary64 := do
  let digits ← dropUnderscores? false (plain text)
  let (negative, body) := takeSign digits
  readMagnitude? negative body

end Numeral

end TypeSurvey
