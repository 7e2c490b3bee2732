import TypeSurvey.Number.Shortest
import TypeSurvey.Text.Digit

/-!
# Format specifiers

The mini-language that says how a number or a text is written: fill and alignment, sign, alternate
form, width, grouping of digits, precision, and the presentation type. A specifier is read without
regard to what it is applied to; what an integer, a real number or a text does not allow is refused
when it is applied.
-/

namespace TypeSurvey

/-- Where the padding goes. -/
inductive Justify
  | left
  | right
  /-- Padding on both sides, the smaller part on the left. -/
  | center
  /-- Padding after the sign. -/
  | afterSign
deriving DecidableEq, Repr

/-- The separators between groups of digits. -/
inductive Grouping
  | comma
  | underscore
deriving DecidableEq, Repr

def Grouping.mark : Grouping → Char
  | .comma => ','
  | .underscore => '_'

/-- A format specifier. -/
structure FormatSpec where
  fill : Char
  justify : Justify
  /-- What stands for the sign of a number that is not negative: a plus, a blank, or nothing. -/
  sign : Option Char
  dropsNegativeZero : Bool
  alternate : Bool
  width : Option Nat
  grouping : Option Grouping
  precision : Option Nat
  type : Option Char
deriving DecidableEq, Repr

/-- The reasons for which a value cannot be written in a format. -/
inductive FormatFault
  /-- The specifier has characters left over. -/
  | invalid (spec : Text) (kind : Text)
  | missingPrecision
  | twoGroupings
  | groupingType (mark type : Char)
  | unknownType (type : Char) (kind : Text)
  | integerPrecision
  | integerNegativeZero
  | characterSign
  | characterAlternate
  /-- A number that is no code point. -/
  | characterRange
  /-- A number beyond a machine word. -/
  | characterWord
  /-- A blank for the sign of a text. -/
  | textSpace
  | textSign
  | textNegativeZero
  | textAlternate
  | textAfterSign
  | integerTooLarge
  /-- A width or precision beyond a machine word. -/
  | tooManyDigits
  /-- A value that has no formats. -/
  | unsupported (kind : Text)
  | notText (kind : Text)
deriving DecidableEq, Repr

/-- A character named in a message, by its code if it is not printable in ASCII. -/
def FormatFault.shownType (type : Char) : Text :=
  if 32 < type.toNat && type.toNat < 128 then [type]
  else '\\' :: 'x' :: Nat.toDigits 16 type.toNat

def FormatFault.message : FormatFault → Text
  | .invalid spec kind =>
    "Invalid format specifier '".toList ++ spec ++ "' for object of type '".toList ++ kind ++
      "'".toList
  | .missingPrecision => "Format specifier missing precision".toList
  | .twoGroupings => "Cannot specify both ',' and '_'.".toList
  | .groupingType mark type =>
    "Cannot specify '".toList ++ [mark] ++ "' with '".toList ++ shownType type ++ "'.".toList
  | .unknownType type kind =>
    "Unknown format code '".toList ++ shownType type ++ "' for object of type '".toList ++ kind ++
      "'".toList
  | .integerPrecision => "Precision not allowed in integer format specifier".toList
  | .integerNegativeZero =>
    "Negative zero coercion (z) not allowed in integer format specifier".toList
  | .characterSign => "Sign not allowed with integer format specifier 'c'".toList
  | .characterAlternate =>
    "Alternate form (#) not allowed with integer format specifier 'c'".toList
  | .characterRange => "%c arg not in range(0x110000)".toList
  | .characterWord => "Python int too large to convert to C long".toList
  | .textSpace => "Space not allowed in string format specifier".toList
  | .textSign => "Sign not allowed in string format specifier".toList
  | .textNegativeZero => "Negative zero coercion (z) not allowed in string format specifier".toList
  | .textAlternate => "Alternate form (#) not allowed in string format specifier".toList
  | .textAfterSign => "'=' alignment not allowed in string format specifier".toList
  | .integerTooLarge => "int too large to convert to float".toList
  | .tooManyDigits => "Too many decimal digits in format string".toList
  | .unsupported kind =>
    "unsupported format string passed to ".toList ++ kind ++ ".__format__".toList
  | .notText kind => "format() argument 2 must be str, not ".toList ++ kind

namespace FormatSpec

/-- The alignment that a character stands for. -/
def justify? : Char → Option Justify
  | '<' => some .left
  | '>' => some .right
  | '^' => some .center
  | '=' => some .afterSign
  | _ => none

/-- Takes a character if it comes next. -/
def takeMark (mark : Char) : Text → Bool × Text
  | [] => (false, [])
  | letter :: rest => if letter == mark then (true, rest) else (false, letter :: rest)

/-- Numbers from here on do not fit into a word. -/
def wordLimit : Nat := 0x8000000000000000

/-- Takes decimal digits. -/
def takeNumber? (text : Text) : Except FormatFault (Option Nat × Text) :=
  let digits := text.takeWhile Text.isDecimalDigit
  let value := digits.foldl (fun total digit => total * 10 + (Text.digitValue? digit).getD 0) 0
  if digits.isEmpty then .ok (none, text)
  else if value ≥ wordLimit then .error .tooManyDigits
  else .ok (some value, text.dropWhile Text.isDecimalDigit)

/-- The presentation types that allow a grouping. -/
def groups (grouping : Grouping) (type : Option Char) : Bool :=
  match type with
  | none => true
  | some letter =>
    "defgEG%F".toList.contains letter ||
      (grouping == .underscore && "boxX".toList.contains letter)

/-- Reads the fill and the alignment: the fill, whether it was given, the alignment if it was
given, and the rest. -/
def takeAlignment : Text → Char × Bool × Option Justify × Text
  | fill :: mark :: rest =>
    match justify? mark with
    | some justify => (fill, true, some justify, rest)
    | none =>
      match justify? fill with
      | some justify => (' ', false, some justify, mark :: rest)
      | none => (' ', false, none, fill :: mark :: rest)
  | [mark] =>
    match justify? mark with
    | some justify => (' ', false, some justify, [])
    | none => (' ', false, none, [mark])
  | [] => (' ', false, none, [])

def takeGrouping (text : Text) : Except FormatFault (Option Grouping × Text) :=
  let (comma, text) := takeMark ',' text
  let (underscore, text) := takeMark '_' text
  if comma && underscore then .error .twoGroupings
  else if underscore && text.head? == some ',' then .error .twoGroupings
  else .ok (if comma then some .comma else if underscore then some .underscore else none, text)

def takePrecision (text : Text) : Except FormatFault (Option Nat × Text) :=
  match text with
  | '.' :: rest => do
    let (precision, rest) ← takeNumber? rest
    if precision.isNone then .error .missingPrecision else return (precision, rest)
  | _ => .ok (none, text)

/-- Reads a specifier for a value whose type has a name, an alignment of its own, and a
presentation type that stands when none is given. -/
def parse (kind : Text) (own : Justify) (standing : Option Char) (spec : Text) :
    Except FormatFault FormatSpec := do
  let (fill, fillGiven, justify, text) := takeAlignment spec
  let (sign, text) := match text with
    | letter :: rest =>
      if letter == ' ' || letter == '+' || letter == '-' then (some letter, rest)
      else (none, letter :: rest)
    | [] => (none, [])
  let (dropsNegativeZero, text) := takeMark 'z' text
  let (alternate, text) := takeMark '#' text
  let (zeros, text) := if fillGiven then (false, text) else takeMark '0' text
  let (width, text) ← takeNumber? text
  let (grouping, text) ← takeGrouping text
  let (precision, text) ← takePrecision text
  let type ← match text with
    | [] => pure standing
    | [letter] => pure (some letter)
    | _ => throw (.invalid spec kind)
  if let some grouping := grouping then
    if !groups grouping type then throw (.groupingType grouping.mark (type.getD '\x00'))
  return {
    fill := if zeros then '0' else fill
    justify := justify.getD (if zeros && own == .right then .afterSign else own)
    sign, dropsNegativeZero, alternate, width, grouping, precision, type }

/-- Digits, held backwards, in groups of `size` with a mark between groups, and zeros up to a
least width. `room` digits may still stand in the current group; a mark is followed by a digit. -/
def groupFrom (mark : Char) (size : Nat) : Nat → Nat → Nat → Text → Text
  | 0, _, _, digits => digits
  | _, _, 0, [] => []
  | fuel + 1, 0, least, digits => mark :: groupFrom mark size fuel size (max (least - 1) 1) digits
  | fuel + 1, room + 1, least, [] => '0' :: groupFrom mark size fuel room (least - 1) []
  | fuel + 1, room + 1, least, digit :: digits =>
    digit :: groupFrom mark size fuel room (least - 1) digits

/-- Digits in groups, with zeros up to a least width that counts the marks. No mark comes first. -/
def group (grouping : Option Grouping) (size least : Nat) (digits : Text) : Text :=
  match grouping with
  | none => Text.padLeft least '0' digits
  | some grouping =>
    let backwards := groupFrom grouping.mark size (2 * (digits.length + least) + 2) size least
      digits.reverse
    backwards.reverse

/-- A number from its sign, the mark of its base, its digits and what follows them, padded to the
width of the specifier. -/
def assemble (spec : FormatSpec) (negative : Bool) (base digits rest : Text) (size : Nat) : Text :=
  let sign : Text := if negative then ['-'] else
    match spec.sign with
    | some '+' => ['+']
    | some ' ' => [' ']
    | _ => []
  let width := spec.width.getD 0
  let fixed := sign.length + base.length + rest.length
  let least := if spec.fill == '0' && spec.justify == .afterSign then width - fixed else 0
  let digits := if digits.isEmpty then [] else group spec.grouping size least digits
  let missing := width - (fixed + digits.length)
  let pad (count : Nat) : Text := List.replicate count spec.fill
  match spec.justify with
  | .left => sign ++ base ++ digits ++ rest ++ pad missing
  | .right => pad missing ++ sign ++ base ++ digits ++ rest
  | .center => pad (missing / 2) ++ sign ++ base ++ digits ++ rest ++ pad (missing - missing / 2)
  | .afterSign => sign ++ base ++ pad missing ++ digits ++ rest

/-- How the digits of a real number are laid out. -/
inductive Layout
  | fixed (places : Nat)
  /-- One digit before the point, a number of places after it, and an exponent. -/
  | exponent (places : Nat)
  /-- A number of digits, with an exponent when the number is too large or too small for them. -/
  | general (digits : Nat) (keepsPoint : Bool)
  /-- The fewest digits that read back. -/
  | shortest
deriving DecidableEq, Repr

def dropZeros (digits : Text) : Text := Text.trimEnd (· == '0') digits

/-- The digits of a finite number before the point, and the rest with the point and the exponent. -/
def layOut (layout : Layout) (alternate : Bool) (significand : Nat) (exponent : Int) :
    Text × Text :=
  let point (part : Text) : Text := if part.isEmpty && !alternate then [] else '.' :: part
  match layout with
  | .fixed places =>
    let (whole, part) := (Decimal.toPlaces places significand exponent).fixed
    (whole, point part)
  | .exponent places =>
    let number := Decimal.toDigits (places + 1) significand exponent
    if number.digits = 0 then
      (['0'], point (List.replicate places '0') ++ exponentText 'e' 0)
    else
      let (whole, part, power) := number.scientific 'e'
      (whole, point part ++ power)
  | .general count keepsPoint =>
    let count := max count 1
    let number := Decimal.toDigits count significand exponent
    let leading := if number.digits = 0 then 0 else number.leading
    let upper : Int := if keepsPoint then count - 1 else count
    let trim (part : Text) : Text := if alternate then part else dropZeros part
    if number.digits ≠ 0 && (leading < -4 || leading ≥ upper) then
      let (whole, part, power) := number.scientific 'e'
      (whole, point (trim part) ++ power)
    else
      let (whole, part) :=
        if number.digits = 0 then (['0'], List.replicate (count - 1) '0') else number.fixed
      let part := trim part
      (whole, if keepsPoint && part.isEmpty then ['.', '0'] else point part)
  | .shortest =>
    let shown := Binary64.magnitudeText significand exponent
    let whole := shown.takeWhile Char.isDigit
    (whole, shown.dropWhile Char.isDigit)

/-- The layout that a presentation type asks for. -/
def layout (spec : FormatSpec) : Layout :=
  match spec.type with
  | some 'e' | some 'E' => .exponent (spec.precision.getD 6)
  | some 'f' | some 'F' | some '%' => .fixed (spec.precision.getD 6)
  | some 'g' | some 'G' | some 'n' => .general (spec.precision.getD 6) false
  | _ => match spec.precision with
    | some digits => .general digits true
    | none => .shortest

def applyFloat (spec : FormatSpec) (number : Binary64) : Text :=
  let number := if spec.type == some '%' then number.mul (Binary64.ofInt 100) else number
  let percent : Text := if spec.type == some '%' then ['%'] else []
  let capital (text : Text) : Text :=
    if spec.type == some 'E' || spec.type == some 'F' || spec.type == some 'G' then
      text.map Char.toUpper
    else text
  match number with
  | .nan => spec.assemble false [] [] (capital "nan".toList ++ percent) 3
  | .infinite negative => spec.assemble negative [] [] (capital "inf".toList ++ percent) 3
  | .finite negative significand exponent =>
    let (whole, rest) := layOut spec.layout spec.alternate significand exponent
    let vanishes := spec.dropsNegativeZero &&
      (whole ++ rest.takeWhile (fun letter => letter != 'e')).all
        (fun letter => letter == '0' || letter == '.')
    spec.assemble (negative && !vanishes) [] whole (capital rest ++ percent) 3

/-- The types by which a real number is written. -/
def floatTypes : Text := "eEfFgGn%".toList

/-- A real number written by a specifier. -/
def formatFloat (kind spec : Text) (number : Binary64) : Except FormatFault Text := do
  if spec.isEmpty then return number.toText
  let parsed ← parse kind .right none spec
  match parsed.type with
  | none => return parsed.applyFloat number
  | some letter =>
    if floatTypes.contains letter then return parsed.applyFloat number
    else throw (.unknownType letter kind)

def applyCharacter (spec : FormatSpec) (number : Int) : Except FormatFault Text :=
  if spec.sign.isSome then .error .characterSign
  else if spec.alternate then .error .characterAlternate
  else if number ≥ wordLimit || number < -(wordLimit : Int) then .error .characterWord
  else if number < 0 || number > 0x10ffff then .error .characterRange
  else .ok (spec.assemble false [] [] [Char.ofNat number.toNat] 3)

/-- An integer in a base. -/
def applyInt (spec : FormatSpec) (number : Int) : Except FormatFault Text :=
  if spec.precision.isSome then .error .integerPrecision
  else if spec.dropsNegativeZero then .error .integerNegativeZero
  else
    let write (base : Nat) (mark : Text) (size : Nat) (capital : Bool) : Text :=
      let digits := Nat.toDigits base number.natAbs
      let mark := if spec.alternate then mark else []
      let raise (text : Text) : Text := if capital then text.map Char.toUpper else text
      spec.assemble (number < 0) (raise mark) (raise digits) [] size
    match spec.type with
    | some 'b' => .ok (write 2 "0b".toList 4 false)
    | some 'o' => .ok (write 8 "0o".toList 4 false)
    | some 'x' => .ok (write 16 "0x".toList 4 false)
    | some 'X' => .ok (write 16 "0x".toList 4 true)
    | some 'c' => spec.applyCharacter number
    | _ => .ok (write 10 [] 3 false)

/-- An integer written by a specifier that is not empty. -/
def formatInt (kind spec : Text) (number : Int) : Except FormatFault Text := do
  let parsed ← parse kind .right (some 'd') spec
  match parsed.type with
  | none => parsed.applyInt number
  | some letter =>
    if "bcdoxXn".toList.contains letter then parsed.applyInt number
    else if "eEfFgG%".toList.contains letter then
      let real := Binary64.ofInt number
      if real.isInfinite then throw .integerTooLarge else return parsed.applyFloat real
    else throw (.unknownType letter kind)

def formatText (spec text : Text) : Except FormatFault Text := do
  if spec.isEmpty then return text
  let parsed ← parse "str".toList .left (some 's') spec
  if parsed.type ≠ some 's' then throw (.unknownType (parsed.type.getD 's') "str".toList)
  if parsed.sign == some ' ' then throw .textSpace
  if parsed.sign.isSome then throw .textSign
  if parsed.dropsNegativeZero then throw .textNegativeZero
  if parsed.alternate then throw .textAlternate
  if parsed.justify == .afterSign then throw .textAfterSign
  let shown := match parsed.precision with
    | some count => text.take count
    | none => text
  let missing := parsed.width.getD 0 - shown.length
  let pad (count : Nat) : Text := List.replicate count parsed.fill
  return match parsed.justify with
    | .right => pad missing ++ shown
    | .center => pad (missing / 2) ++ shown ++ pad (missing - missing / 2)
    | _ => shown ++ pad missing

end FormatSpec

end TypeSurvey
