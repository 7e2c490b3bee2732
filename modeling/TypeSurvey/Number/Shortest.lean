import TypeSurvey.Number.Binary64
import TypeSurvey.Text.Basic

/-!
# Decimal digits of double-precision numbers

`shortest` gives the fewest digits that read back as the number, of these the nearest to it.
`toPlaces` and `toDigits` round the exact value to a number of places after the point or of digits,
ties going to the even digit.
-/

namespace TypeSurvey

/-- The decimal number `digits * 10 ^ exponent`. -/
structure Decimal where
  digits : Nat
  /-- The power of ten. -/
  exponent : Int
deriving DecidableEq, Repr

namespace Decimal

/-- A fraction divided by a power of ten. -/
def scaleTen (numerator denominator : Nat) (power : Int) : Nat × Nat :=
  match power with
  | .ofNat exponent => (numerator, denominator * Nat.pow 10 exponent)
  | .negSucc exponent => (numerator * Nat.pow 10 (exponent + 1), denominator)

/-- The exponent `k` for which a positive fraction is at least `10 ^ k` and less than
`10 ^ (k + 1)`. -/
def order (numerator denominator : Nat) : Int :=
  if denominator ≤ numerator then (Nat.toDigits 10 (numerator / denominator)).length - 1
  else
    let places := (Nat.toDigits 10 (denominator / numerator)).length
    if numerator * Nat.pow 10 (places - 1) = denominator then 1 - (places : Int)
    else -(places : Int)

/-- The interval of the fractions that round to a number, over a common denominator: its lower
end, the number itself, its upper end, the denominator, and whether the ends belong to it. -/
structure Interval where
  lower : Nat
  middle : Nat
  upper : Nat
  denominator : Nat
  /-- Whether the ends round to the number too. -/
  closed : Bool

/-- The interval of the number `significand * 2 ^ exponent`. Below a power of two the neighbour
is nearer. -/
def interval (significand : Nat) (exponent : Int) : Interval :=
  let below := if significand = Nat.pow 2 52 && exponent > Binary64.leastExponent then 1 else 2
  let (factor, denominator) := Binary64.magnitude 1 (exponent - 2)
  { lower := (4 * significand - below) * factor
    middle := 4 * significand * factor
    upper := (4 * significand + 2) * factor
    denominator := denominator
    closed := significand % 2 = 0 }

/-- Whether the fraction `digits * 10 ^ exponent` rounds to the number of the interval. -/
def Interval.holds (bounds : Interval) (digits : Nat) (exponent : Int) : Bool :=
  let (left, right) := match exponent with
    | .ofNat power => (digits * Nat.pow 10 power * bounds.denominator, 1)
    | .negSucc power => (digits * bounds.denominator, Nat.pow 10 (power + 1))
  let low := bounds.lower * right
  let high := bounds.upper * right
  if bounds.closed then low ≤ left && left ≤ high else low < left && left < high

/-- The decimal number with a count of digits that rounds to the number of the interval, the
nearer of the two neighbours on that grid. -/
def candidate? (bounds : Interval) (count : Nat) : Option Decimal :=
  let exponent := order bounds.middle bounds.denominator + 1 - count
  let (top, bottom) := scaleTen bounds.middle bounds.denominator exponent
  let below := top / bottom
  let nearest := roundDiv top bottom
  let other := if nearest = below then below + 1 else below
  if bounds.holds nearest exponent then some ⟨nearest, exponent⟩
  else if bounds.holds other exponent then some ⟨other, exponent⟩
  else none

/-- The loop of `shortest`: tries `count` digits and then more. -/
def shortestFrom (bounds : Interval) : Nat → Nat → Decimal
  | 0, count => (candidate? bounds count).getD ⟨bounds.middle / bounds.denominator, 0⟩
  | tries + 1, count =>
    match candidate? bounds count with
    | some found => found
    | none => shortestFrom bounds tries (count + 1)

/-- A decimal number without zeros at the end of its digits. -/
def dropZeros : Nat → Decimal → Decimal
  | 0, number => number
  | tries + 1, number =>
    if number.digits ≠ 0 && number.digits % 10 = 0 then
      dropZeros tries ⟨number.digits / 10, number.exponent + 1⟩
    else number

/-- The fewest digits that read back as `significand * 2 ^ exponent`, the nearest of these. -/
def shortest (significand : Nat) (exponent : Int) : Decimal :=
  if significand = 0 then ⟨0, 0⟩
  else dropZeros 20 (shortestFrom (interval significand exponent) 16 1)

/-- The number rounded to `places` digits after the point. -/
def toPlaces (places : Nat) (significand : Nat) (exponent : Int) : Decimal :=
  let (top, bottom) := Binary64.magnitude significand exponent
  ⟨roundDiv (top * Nat.pow 10 places) bottom, -(places : Int)⟩

/-- The number rounded to `count` digits, at least one. -/
def toDigits (count : Nat) (significand : Nat) (exponent : Int) : Decimal :=
  if significand = 0 then ⟨0, 1 - (count : Int)⟩
  else
    let (top, bottom) := Binary64.magnitude significand exponent
    let power := order top bottom + 1 - count
    let (scaledTop, scaledBottom) := scaleTen top bottom power
    let rounded := roundDiv scaledTop scaledBottom
    if rounded = Nat.pow 10 count then ⟨Nat.pow 10 (count - 1), power + 1⟩ else ⟨rounded, power⟩

/-- The digits with a point after `places` digits from the right, and at least one digit before
it. -/
def positional (digits : Text) (places : Nat) : Text × Text :=
  let padded := Text.padLeft (places + 1) '0' digits
  (padded.take (padded.length - places), padded.drop (padded.length - places))

end Decimal

/-- An exponent with its sign and at least two digits. -/
def exponentText (mark : Char) (exponent : Int) : Text :=
  mark :: (if exponent < 0 then '-' else '+') :: Text.padLeft 2 '0' (Text.ofNat exponent.natAbs)

namespace Decimal

/-- The exponent of the first digit. -/
def leading (number : Decimal) : Int :=
  number.exponent + (Nat.toDigits 10 number.digits).length - 1

/-- The decimal number without an exponent: the digits before the point and those after it. -/
def fixed (number : Decimal) : Text × Text :=
  match number.exponent with
  | .ofNat power => (Nat.toDigits 10 (number.digits * Nat.pow 10 power), [])
  | .negSucc power => positional (Nat.toDigits 10 number.digits) (power + 1)

/-- The decimal number with one digit before the point and an exponent. -/
def scientific (mark : Char) (number : Decimal) : Text × Text × Text :=
  let digits := Nat.toDigits 10 number.digits
  (digits.take 1, digits.drop 1, exponentText mark number.leading)

end Decimal

namespace Binary64

/-- The shortest text of the absolute value of a finite number: positional from `1e-4` up to
`1e16`, with at least one digit after the point, and with an exponent otherwise. -/
def magnitudeText (significand : Nat) (exponent : Int) : Text :=
  let number := Decimal.shortest significand exponent
  if number.digits ≠ 0 && (number.leading < -4 || number.leading ≥ 16) then
    let (whole, part, power) := number.scientific 'e'
    whole ++ (if part.isEmpty then [] else '.' :: part) ++ power
  else
    let (whole, part) := number.fixed
    whole ++ '.' :: (if part.isEmpty then ['0'] else part)

/-- The shortest text that reads back as the number. -/
def toText : Binary64 → Text
  | nan => "nan".toList
  | infinite negative => (if negative then ['-'] else []) ++ "inf".toList
  | finite negative significand exponent =>
    (if negative then ['-'] else []) ++ magnitudeText significand exponent

end Binary64

end TypeSurvey
