import TypeSurvey.Text.Digit
import TypeSurvey.Text.Quoted

/-!
# Calendar dates

A date is written as a year of four digits, a month and a day, with hyphens between them. Month and
day may lack a zero in front, and a day of one digit may have a space there. The digits of the year,
and the second digit of a day from ten to twenty-nine, may be of any script.
-/

namespace TypeSurvey.Calendar

/-- A date. -/
structure Date where
  year : Nat
  /-- The month, from one to twelve. -/
  month : Nat
  /-- The day of the month, from one on. -/
  day : Nat
deriving DecidableEq, Repr

/-- Whether a date is not later than another one. -/
def Date.le (left right : Date) : Bool :=
  left.year < right.year ||
    (left.year == right.year &&
      (left.month < right.month || (left.month == right.month && left.day ≤ right.day)))

/-- Whether a year has a leap day. -/
def isLeap (year : Nat) : Bool := year % 4 == 0 && (year % 100 != 0 || year % 400 == 0)

def daysInMonth (year month : Nat) : Nat :=
  if month == 2 then (if isLeap year then 29 else 28)
  else if month == 4 || month == 6 || month == 9 || month == 11 then 30
  else 31

/-- The reasons why a text is no date. -/
inductive DateFault
  /-- The text does not begin with a date. -/
  | malformed (text : Text)
  | extra (rest : Text)
  /-- There is no year zero. -/
  | yearRange
  /-- The month has no such day. -/
  | dayRange
deriving DecidableEq, Repr

def DateFault.message : DateFault → Text
  | .malformed text =>
    "time data ".toList ++ Text.quoted text ++ " does not match format '%Y-%m-%d'".toList
  | .extra rest => "unconverted data remains: ".toList ++ rest
  | .yearRange => "year 0 is out of range".toList
  | .dayRange => "day is out of range for month".toList

/-- The value of an ASCII digit other than zero. -/
def positive? (digit : Char) : Option Nat :=
  if '1' ≤ digit && digit ≤ '9' then some (digit.toNat - 48) else none

def year? : Text → Option (Nat × Text)
  | first :: second :: third :: fourth :: rest => do
    let first ← Text.digitValue? first
    let second ← Text.digitValue? second
    let third ← Text.digitValue? third
    let fourth ← Text.digitValue? fourth
    return (((first * 10 + second) * 10 + third) * 10 + fourth, rest)
  | _ => none

/-- The month at the front of a text, and the text after the hyphen that follows it. -/
def month? : Text → Option (Nat × Text)
  | digit :: '-' :: rest => (positive? digit).map (·, rest)
  | '0' :: digit :: '-' :: rest => (positive? digit).map (·, rest)
  | '1' :: digit :: '-' :: rest =>
    if '0' ≤ digit && digit ≤ '2' then some (10 + (digit.toNat - 48), rest) else none
  | _ => none

/-- The day at the front of a text, and the rest. Two digits are taken if they are a day. -/
def day? : Text → Option (Nat × Text)
  | [] => none
  | '0' :: digit :: rest => (positive? digit).map (·, rest)
  | ' ' :: digit :: rest => (positive? digit).map (·, rest)
  | tens :: rest => do
    let high ← positive? tens
    match high, rest with
    | 3, digit :: after =>
      if digit == '0' || digit == '1' then return (30 + (digit.toNat - 48), after)
      else return (3, rest)
    | high, digit :: after =>
      match Text.digitValue? digit with
      | some low => if high ≤ 2 then return (high * 10 + low, after) else return (high, rest)
      | none => return (high, rest)
    | high, [] => return (high, rest)

/-- The numbers of a date at the front of a text, and the rest. -/
def fields? (text : Text) : Option (Date × Text) := do
  let (year, rest) ← year? text
  match rest with
  | '-' :: rest => do
    let (month, rest) ← month? rest
    let (day, rest) ← day? rest
    return (⟨year, month, day⟩, rest)
  | _ => none

def Date.parse (text : Text) : Except DateFault Date :=
  match fields? text with
  | none => .error (.malformed text)
  | some (date, []) =>
    if date.year = 0 then .error .yearRange
    else if date.day > daysInMonth date.year date.month then .error .dayRange
    else .ok date
  | some (_, rest) => .error (.extra rest)

end TypeSurvey.Calendar
