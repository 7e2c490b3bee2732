import TypeSurvey.Source.Token
import TypeSurvey.Text.Normal

/-!
# Parsers over tokens

A parser takes tokens from the front of a list, or fails. A failure tells how far the tokens were
looked at; unless it comes with a fault of its own, another way to read the same tokens may be
tried, and if all ways fail, the furthest token that was looked at is the one that fits no rule.
-/

namespace TypeSurvey.Source

/-- The reason why a parser stopped. -/
structure Failure where
  /-- The number of tokens from the last one that was looked at. -/
  left : Nat
  /-- The fault, where there is more to say than that the token fits no rule. -/
  fault : Option Fault

/-- A parser of values of a type. -/
abbrev Parser := StateT (List Token) (Except Failure)

namespace Parser

/-- The next token, which stays. -/
def peek : Parser TokenKind := fun tokens =>
  .ok ((tokens.head?.map Token.kind).getD .finish, tokens)

/-- The token after the next one. Both stay. -/
def peekSecond : Parser TokenKind := fun tokens =>
  .ok ((tokens.tail.head?.map Token.kind).getD .finish, tokens)

def line : Parser Nat := fun tokens => .ok ((tokens.head?.map Token.line).getD 0, tokens)

/-- Drops the next token. -/
def advance : Parser Unit := fun tokens => .ok ((), tokens.tail)

/-- The next token fits no rule. -/
def unexpected {α : Type} : Parser α := fun tokens => .error ⟨tokens.length, none⟩

/-- Refuses the source for a cause on a line. -/
def refuse {α : Type} (cause : Cause) (line : Nat) : Parser α := fun tokens =>
  .error ⟨tokens.length, some ⟨cause, line⟩⟩

/-- Refuses the source for a cause on the line of the next token. -/
def refuseHere {α : Type} (cause : Cause) : Parser α := do refuse cause (← line)

/-- The outcome of a check, refused on a line. -/
def checked {α : Type} (line : Nat) : Except Cause α → Parser α
  | .ok value => pure value
  | .error cause => refuse cause line

/-- Reads in a first way, or else in a second one. -/
def either {α : Type} (first second : Parser α) : Parser α := fun tokens =>
  match first tokens with
  | .ok result => .ok result
  | .error failure =>
    if failure.fault.isSome then .error failure
    else
      match second tokens with
      | .ok result => .ok result
      | .error other =>
        if other.fault.isSome then .error other
        else .error ⟨min failure.left other.left, none⟩

/-- Whether the next token is a mark. -/
def atMark (text : String) : Parser Bool := do return (← peek) == .mark text.toList

/-- Whether the next token is a keyword. -/
def atKeyword (word : String) : Parser Bool := do return (← peek) == .keyword word.toList

/-- Drops the next token if it is of a kind, and tells whether it was. -/
def take? (kind : TokenKind) : Parser Bool := do
  if (← peek) == kind then
    advance
    return true
  else return false

/-- Drops a mark if it comes next, and tells whether it did. -/
def takeMark? (text : String) : Parser Bool := take? (.mark text.toList)

/-- Drops a keyword if it comes next, and tells whether it did. -/
def takeKeyword? (word : String) : Parser Bool := take? (.keyword word.toList)

/-- Drops a token of a kind, which has to come next. -/
def token (kind : TokenKind) : Parser Unit := do
  if !(← take? kind) then unexpected

/-- Drops a mark, which has to come next. -/
def mark (text : String) : Parser Unit := token (.mark text.toList)

/-- Drops a keyword, which has to come next. -/
def keyword (word : String) : Parser Unit := token (.keyword word.toList)

/-- Drops a mark. If something else comes next, the mark is named as missing. -/
def forcedMark (text : String) : Parser Unit := do
  if !(← takeMark? text) then
    refuseHere (.expected ([Text.apostrophe] ++ text.toList ++ [Text.apostrophe]))

/-- Drops a mark. If the line ends instead, the mark is named as missing. -/
def markBeforeNewline (text : String) : Parser Unit := do
  if (← peek) == .newline then forcedMark text else mark text

/-- The name that a word stands for: words that are compatible by Unicode are one name. -/
def identifier (word : Text) : Text :=
  if word.all (·.toNat < 128) then word else Text.normalize word

def name : Parser Text := do
  match ← peek with
  | .name word =>
    advance
    return identifier word
  | _ => unexpected

/-- Takes steps from a value on, as long as they give another value. -/
def iterate {α : Type} (step : α → Parser (Option α)) : Nat → α → Parser α
  | 0, value => pure value
  | fuel + 1, value => do
    match ← step value with
    | some next => iterate step fuel next
    | none => pure value

/-- Reads items one after the other, as long as a test says that another one comes. -/
def manyWhile {α : Type} (fuel : Nat) (more : Parser Bool) (item : Parser α) : Parser (List α) := do
  let step (found : List α) : Parser (Option (List α)) := do
    if ← more then
      let next ← item
      return some (next :: found)
    else return none
  return (← iterate step fuel []).reverse

/-- Reads items with commas between them, and tells whether a comma follows the last one. A comma is
followed by another item as long as a test says so. -/
def commaItems {α : Type} (fuel : Nat) (more : Parser Bool) (item : Parser α) :
    Parser (List α × Bool) := do
  let first ← item
  let step (state : List α × Bool) : Parser (Option (List α × Bool)) := do
    if ← takeMark? "," then
      if ← more then
        let next ← item
        return some (next :: state.1, false)
      else return some (state.1, true)
    else return none
  let (found, trailing) ← iterate (fun state => if state.2 then pure none else step state) fuel
    ([first], false)
  return (found.reverse, trailing)

end Parser

end TypeSurvey.Source
