/-!
# Double-precision numbers

A finite number is a sign, a significand below `2 ^ 53` and a power of two. Every operation is the
exact operation on fractions followed by one rounding to the nearest number, ties going to the even
significand.
-/

namespace TypeSurvey

/-- A double-precision number. -/
inductive Binary64
  | nan
  | infinite (negative : Bool)
  /-- The number `± significand * 2 ^ exponent`. -/
  | finite (negative : Bool) (significand : Nat) (exponent : Int)
deriving DecidableEq, Repr

/-- The quotient rounded to the nearest integer, ties going to the even one. -/
def roundDiv (numerator denominator : Nat) : Nat :=
  let quotient := numerator / denominator
  let twice := 2 * (numerator % denominator)
  if twice < denominator || (twice == denominator && quotient % 2 == 0) then quotient
  else quotient + 1

namespace Binary64

def leastExponent : Int := -1074

def zero (negative : Bool) : Binary64 := .finite negative 0 leastExponent

/-- A fraction with its numerator and denominator times a power of two. -/
def scale (numerator denominator : Nat) (exponent : Int) : Nat × Nat :=
  match exponent with
  | .ofNat power => (numerator, denominator * Nat.pow 2 power)
  | .negSucc power => (numerator * Nat.pow 2 (power + 1), denominator)

/-- The nearest number to a fraction with a positive denominator, an infinity if the fraction is
too large. -/
def ofFraction (negative : Bool) (numerator denominator : Nat) : Binary64 :=
  if numerator = 0 then zero negative
  else
    let guess : Int := (numerator.log2 : Int) - denominator.log2 - 53
    let (top, bottom) := scale numerator denominator guess
    let exponent := max leastExponent (if top / bottom < Nat.pow 2 53 then guess else guess + 1)
    let (top, bottom) := scale numerator denominator exponent
    let rounded := roundDiv top bottom
    let (significand, exponent) :=
      if rounded = Nat.pow 2 53 then (Nat.pow 2 52, exponent + 1) else (rounded, exponent)
    if exponent > 971 then .infinite negative else .finite negative significand exponent

/-- The nearest number to an integer. -/
def ofInt (number : Int) : Binary64 := ofFraction (number < 0) number.natAbs 1

/-- The nearest number to `digits * 10 ^ exponent`. -/
def ofDecimal (negative : Bool) (digits : Nat) (exponent : Int) : Binary64 :=
  let magnitude := (Nat.toDigits 10 digits).length + exponent
  if digits = 0 || magnitude < -400 then zero negative
  else if magnitude > 400 then .infinite negative
  else match exponent with
    | .ofNat power => ofFraction negative (digits * Nat.pow 10 power) 1
    | .negSucc power => ofFraction negative digits (Nat.pow 10 (power + 1))

def isNegative : Binary64 → Bool
  | nan => false
  | infinite negative => negative
  | finite negative _ _ => negative

def isNan : Binary64 → Bool
  | nan => true
  | _ => false

def isInfinite : Binary64 → Bool
  | infinite _ => true
  | _ => false

/-- Whether this is a zero of either sign. -/
def isZero : Binary64 → Bool
  | finite _ 0 _ => true
  | _ => false

/-- The absolute value as a fraction. -/
def magnitude (significand : Nat) (exponent : Int) : Nat × Nat :=
  match exponent with
  | .ofNat power => (significand * Nat.pow 2 power, 1)
  | .negSucc power => (significand, Nat.pow 2 (power + 1))

/-- A number with a sign as a fraction with a positive denominator. -/
def fraction (negative : Bool) (significand : Nat) (exponent : Int) : Int × Nat :=
  let (top, bottom) := magnitude significand exponent
  (if negative then -(top : Int) else top, bottom)

/-- The nearest number to a fraction with a sign. -/
def ofSigned (top : Int) (bottom : Nat) : Binary64 := ofFraction (top < 0) top.natAbs bottom

/-- The number with its sign turned. -/
def neg : Binary64 → Binary64
  | nan => nan
  | infinite negative => infinite !negative
  | finite negative significand exponent => finite (!negative) significand exponent

/-- The sum. Opposite numbers add to the positive zero. -/
def add : Binary64 → Binary64 → Binary64
  | nan, _ => nan
  | _, nan => nan
  | infinite left, infinite right => if left = right then infinite left else nan
  | infinite left, _ => infinite left
  | _, infinite right => infinite right
  | finite leftNegative m e, finite rightNegative n f =>
    if m = 0 && n = 0 then zero (leftNegative && rightNegative)
    else
      let (a, b) := fraction leftNegative m e
      let (c, d) := fraction rightNegative n f
      ofSigned (a * d + c * b) (b * d)

def sub (left right : Binary64) : Binary64 := add left (neg right)

def mul : Binary64 → Binary64 → Binary64
  | nan, _ => nan
  | _, nan => nan
  | infinite left, right =>
    if right.isZero then nan else infinite (left != right.isNegative)
  | left, infinite right =>
    if left.isZero then nan else infinite (left.isNegative != right)
  | finite leftNegative m e, finite rightNegative n f =>
    let (a, b) := magnitude m e
    let (c, d) := magnitude n f
    ofFraction (leftNegative != rightNegative) (a * c) (b * d)

/-- The quotient by a number that is not zero. -/
def div : Binary64 → Binary64 → Binary64
  | nan, _ => nan
  | _, nan => nan
  | infinite left, right =>
    if right.isInfinite then nan else infinite (left != right.isNegative)
  | left, infinite right => zero (left.isNegative != right)
  | finite leftNegative m e, finite rightNegative n f =>
    let (a, b) := magnitude m e
    let (c, d) := magnitude n f
    ofFraction (leftNegative != rightNegative) (a * d) (b * c)

/-- The order of two numbers; none if one of them is no number. The two zeros are equal. -/
def compare? : Binary64 → Binary64 → Option Ordering
  | nan, _ => none
  | _, nan => none
  | infinite left, infinite right =>
    some (if left = right then .eq else if left then .lt else .gt)
  | infinite left, _ => some (if left then .lt else .gt)
  | _, infinite right => some (if right then .gt else .lt)
  | finite leftNegative m e, finite rightNegative n f =>
    let (a, b) := fraction leftNegative m e
    let (c, d) := fraction rightNegative n f
    some (compare (a * d) (c * b))

/-- Equality of numbers: the zeros are equal, and what is no number equals nothing. -/
def equals (left right : Binary64) : Bool := compare? left right == some .eq

/-- The integer toward zero of a finite number. -/
def truncate? : Binary64 → Option Int
  | finite negative significand exponent =>
    let (top, bottom) := fraction negative significand exponent
    some (Int.tdiv top bottom)
  | _ => none

/-- The integer that a number equals, if there is one. -/
def toInt? : Binary64 → Option Int
  | finite negative significand exponent =>
    let (top, bottom) := fraction negative significand exponent
    if top % bottom = 0 then some (top / bottom) else none
  | _ => none

end Binary64

end TypeSurvey
