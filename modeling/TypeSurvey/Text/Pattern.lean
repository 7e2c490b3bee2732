import TypeSurvey.Text.Basic

/-!
# Patterns

A pattern takes characters from the front of a text in all its ways, the greedy ones first. It may
ask whether its group has taken part before.
-/

namespace TypeSurvey.Text

/-- Where a pattern stands in a text. -/
structure Spot where
  /-- The text still to be matched. -/
  rest : Text
  /-- Whether the group has taken part. -/
  grouped : Bool := false
deriving DecidableEq

abbrev Pattern := Spot → List Spot

namespace Pattern

/-- One character of a kind. -/
def one (accepts : Char → Bool) : Pattern := fun spot =>
  match spot.rest with
  | letter :: rest => if accepts letter then [{ spot with rest }] else []
  | [] => []

def andThen (first second : Pattern) : Pattern := fun spot => (first spot).flatMap second

/-- The pattern or nothing. -/
def optional (pattern : Pattern) : Pattern := fun spot => pattern spot ++ [spot]

/-- The pattern a number of times. -/
def times (pattern : Pattern) : Nat → Pattern
  | 0 => fun spot => [spot]
  | count + 1 => pattern.andThen (pattern.times count)

/-- The pattern at most a number of times. -/
def atMost (pattern : Pattern) : Nat → Pattern
  | 0 => fun spot => [spot]
  | count + 1 => (pattern.andThen (pattern.atMost count)).optional

/-- The pattern any number of times. It has to take a character each time. -/
def many (pattern : Pattern) : Pattern := fun spot => pattern.atMost spot.rest.length spot

/-- The pattern as the group. -/
def group (pattern : Pattern) : Pattern := fun spot =>
  (pattern spot).map fun spot => { spot with grouped := true }

/-- One pattern if the group has taken part, and another one if it has not. -/
def ifGrouped (taken missed : Pattern) : Pattern := fun spot =>
  if spot.grouped then taken spot else missed spot

/-- Nothing, at the end of a text or before a line feed there. -/
def atEnd : Pattern := fun spot => if spot.rest = [] ∨ spot.rest = ['\n'] then [spot] else []

/-- Whether a pattern matches at the beginning of a text. -/
def accepts (pattern : Pattern) (text : Text) : Bool := !(pattern { rest := text }).isEmpty

end Pattern

end TypeSurvey.Text
