import TypeSurvey.Value.Basic

/-!
# Equality of values

Numbers of different types are equal when they denote the same number, and truth values count as
the numbers zero and one. Sequences are compared in order, sets and dictionaries without regard to
order. Keys of a dictionary are found by this equality.
-/

namespace TypeSurvey.Value

/-- The real and imaginary parts of a number. An integer is kept exact. -/
inductive Quantity
  | whole (value : Int)
  | parts (real imaginary : Binary64)

/-- Whether two numbers are equal. An integer equals a real number only if that is the same
integer. -/
def Quantity.equals : Quantity → Quantity → Bool
  | .whole left, .whole right => left == right
  | .whole left, .parts real imaginary => real.toInt? == some left && imaginary.isZero
  | .parts real imaginary, .whole right => real.toInt? == some right && imaginary.isZero
  | .parts left above, .parts right below => left.equals right && above.equals below

/-- The number that a value denotes. -/
def quantity? (value : Value) : Option Quantity :=
  match value.underived with
  | bool value => some (.whole (if value then 1 else 0))
  | int value => some (.whole value)
  | float value => some (.parts value (Binary64.zero false))
  | complex real imaginary => some (.parts real imaginary)
  | _ => Option.none

mutual

/-- Whether two values are equal. A value of a derived class is compared as one of the class that it
is derived from. -/
def equals (left right : Value) : Bool :=
  match left, right.underived with
  | derived _ base, _ => equals base right
  | none, none => true
  | str left, str right => left == right
  | halved left, halved right => left == right
  | bytes left, bytes right => left == right
  | list left, list right => equalItems left right
  | tuple left, tuple right => equalItems left right
  | tuple left, namedTuple _ right => equalItems left right
  | namedTuple _ left, tuple right => equalItems left right
  | namedTuple _ left, namedTuple _ right => equalItems left right
  | set _ left, set _ right => left.length == right.length && itemsIn left right
  | dict left, dict right => left.length == right.length && entriesIn left right
  | date year month day, date otherYear otherMonth otherDay =>
    year == otherYear && month == otherMonth && day == otherDay
  | record fields left, record otherFields right => fields == otherFields && equalItems left right
  | range left, range right => left == right
  | object left, object right => left == right
  | left, right => match left.quantity?, right.quantity? with
    | some left, some right => left.equals right
    | _, _ => false
termination_by structural left

/-- Equality of sequences, item by item. -/
def equalItems : List Value → List Value → Bool
  | [], [] => true
  | left :: lefts, right :: rights => equals left right && equalItems lefts rights
  | _, _ => false
termination_by structural lefts => lefts

/-- Whether every item of the first list equals one of the second. -/
def itemsIn : List Value → List Value → Bool
  | [], _ => true
  | left :: lefts, rights => rights.any (equals left) && itemsIn lefts rights
termination_by structural lefts => lefts

/-- Whether every entry of the first dictionary is one of the second. -/
def entriesIn : List (Value × Value) → List (Value × Value) → Bool
  | [], _ => true
  | (key, value) :: lefts, rights =>
    rights.any (fun entry => equals key entry.1 && equals value entry.2) && entriesIn lefts rights
termination_by structural lefts => lefts

end

def get? (key : Value) : List (Value × Value) → Option Value
  | [] => Option.none
  | (other, value) :: rest => if equals other key then some value else get? key rest

/-- An entry put into a dictionary: an equal key keeps its place and spelling and takes the new
value, a new key goes to the end. -/
def putEntry (key value : Value) : List (Value × Value) → List (Value × Value)
  | [] => [(key, value)]
  | (other, old) :: rest =>
    if equals other key then (other, value) :: rest else (other, old) :: putEntry key value rest

/-- The dictionary of entries that are put in one after the other. -/
def dictOf (entries : List (Value × Value)) : Value :=
  dict (entries.foldl (fun placed entry => putEntry entry.1 entry.2 placed) [])

/-- The items without those that equal an earlier one. -/
def distinct (items : List Value) : List Value :=
  (items.foldl (fun kept item => if kept.any (equals item) then kept else item :: kept) []).reverse

/-- The value of the entry named by a text. -/
def field? (name : Text) : List (Value × Value) → Option Value := get? (str name)

end TypeSurvey.Value
