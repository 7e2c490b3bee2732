import TypeSurvey.Source.Expr.Parser

/-!
# The grammar of patterns

The patterns of a `case`: literals, captures, values, groups, sequences, mappings, instances of
classes, and alternatives of these.
-/

namespace TypeSurvey.Source

open Source.Parser

/-- Whether the word of a token is the one that matches anything. -/
def isWildcard (word : Text) : Bool := word == ['_']

/-- A name that captures a value. It is followed by nothing that makes it a value or a class. -/
def captureTarget : Parser Text := do
  match ← peek, ← peekSecond with
  | .name word, next =>
    if isWildcard word || [".", "(", "="].any (fun text => next == .mark text.toList) then
      unexpected
    else name
  | _, _ => unexpected

def signedNumber : Parser Expr := do
  let start ← line
  let negative ← takeMark? "-"
  match ← peek with
  | .number digits =>
    advance
    let value := Expr.constant (← checked start (numberConstant digits))
    return if negative then .unary .minus value else value
  | _ => unexpected

/-- Whether an expression is an imaginary number, perhaps with a sign. -/
def Expr.isImaginary : Expr → Bool
  | .constant (.imaginary _) => true
  | .unary .minus (.constant (.imaginary _)) => true
  | _ => false

/-- A number, real or complex. -/
def numberPattern : Parser Expr := do
  let start ← line
  let real ← signedNumber
  let op ← if ← takeMark? "+" then pure (some BinaryOp.add)
    else if ← takeMark? "-" then pure (some BinaryOp.sub) else pure none
  match op with
  | none => return real
  | some op =>
    if real.isImaginary then refuse (.rule "real number required in complex literal".toList) start
    match ← peek with
    | .number _ =>
      let imaginary ← signedNumber
      if !imaginary.isImaginary then
        refuse (.rule "imaginary number required in complex literal".toList) start
      return .binary op real imaginary
    | _ => unexpected

/-- A literal that is a pattern or the key of one: the expression, and the constant if it is one of
`None`, `True` and `False`. -/
def literalPattern (rules : Rules) : Parser (Expr × Option Constant) := do
  match ← peek with
  | .quote _ => return (← quoteExpression rules, none)
  | .keyword _ =>
    let constant : Constant ←
      if ← takeKeyword? "None" then pure .none
      else if ← takeKeyword? "True" then pure (.bool true)
      else if ← takeKeyword? "False" then pure (.bool false)
      else unexpected
    return (.constant constant, some constant)
  | _ => return (← numberPattern, none)

def dottedName (fuel : Nat) (start : Text) : Parser Expr :=
  iterate (fun value => do
    if ← takeMark? "." then return some (.member value (← name)) else return none)
    fuel (.name start)

/-- A pattern, or the star of a sequence. -/
def maybeStar (inner : Parser Pattern) : Parser Pattern := do
  if ← takeMark? "*" then
    match ← peek with
    | .name word =>
      if isWildcard word then
        advance
        return .star none
      else return .star (some (← captureTarget))
    | _ => unexpected
  else inner

/-- The patterns of a sequence up to its closing bracket and with it. -/
def sequencePatterns (fuel : Nat) (inner : Parser Pattern) (closer : String) :
    Parser (List Pattern × Bool) := do
  if ← takeMark? closer then return ([], true)
  let (items, trailing) ← commaItems fuel (do return !(← atMark closer)) (maybeStar inner)
  mark closer
  return (items, trailing || items.length > 1)

/-- The key of a mapping: a literal or a value. -/
def keyPattern (rules : Rules) : Parser Expr := do
  match ← peek with
  | .name _ =>
    match ← dottedName rules.fuel (← name) with
    | .name _ => unexpected
    | value => return value
  | _ => return (← literalPattern rules).1

/-- The entries of a mapping after its opening brace, up to the closing one and with it. -/
def mappingPattern (rules : Rules) (inner : Parser Pattern) : Parser Pattern := do
  let step (state : List (Expr × Pattern) × Option Text × Bool) :
      Parser (Option (List (Expr × Pattern) × Option Text × Bool)) := do
    let (found, rest, ended) := state
    if ended then return none
    else if ← takeMark? "\x7d" then return some (found, rest, true)
    else if rest.isSome then unexpected
    else
      let next ←
        if ← takeMark? "**" then pure (found, some (← captureTarget), false)
        else
          let key ← keyPattern rules
          mark ":"
          pure ((key, ← inner) :: found, none, false)
      if !(← atMark "\x7d") then mark ","
      return some next
  let (found, rest, _) ← iterate step (rules.fuel + 1) ([], none, false)
  let entries := found.reverse
  return .mapping (entries.map Prod.fst) (entries.map Prod.snd) rest

/-- The patterns of a class after its opening bracket, up to the closing one and with it. -/
def instancePattern (rules : Rules) (inner : Parser Pattern) (class_ : Expr) : Parser Pattern := do
  let item : Parser (Option Text × Pattern) := do
    match ← peek, ← peekSecond with
    | .name word, .mark ['='] =>
      advance
      advance
      return (some (identifier word), ← inner)
    | _, _ => return (none, ← inner)
  let items ←
    if ← atMark ")" then pure []
    else
      let (items, _) ← commaItems rules.fuel (do return !(← atMark ")")) item
      pure items
  let positional := items.takeWhile fun entry => entry.1.isNone
  let named := items.dropWhile fun entry => entry.1.isNone
  if named.any fun entry => entry.1.isNone then
    refuseHere (.rule "positional patterns follow keyword patterns".toList)
  mark ")"
  return .instance_ class_ (positional.map Prod.snd) (named.filterMap Prod.fst) (named.map Prod.snd)

/-- A pattern without alternatives. -/
def closedPattern (rules : Rules) (inner : Parser Pattern) : Parser Pattern := do
  match ← peek with
  | .name word =>
    if isWildcard word then
      advance
      return .capture none none
    let start ← name
    let value ← dottedName rules.fuel start
    if ← takeMark? "(" then instancePattern rules inner value
    else if ← atMark "=" then unexpected
    else
      match value with
      | .name id => return .capture none (some id)
      | value => return .value value
  | .mark text =>
    if text == ['-'] then return .value (← numberPattern)
    else if ← takeMark? "(" then
      let (items, isSequence) ← sequencePatterns rules.fuel inner ")"
      match items, isSequence with
      | [.star _], false => unexpected
      | [single], false => return single
      | _, _ => return .sequence items
    else if ← takeMark? "[" then return .sequence (← sequencePatterns rules.fuel inner "]").1
    else if ← takeMark? "\x7b" then mappingPattern rules inner
    else unexpected
  | _ =>
    match ← literalPattern rules with
    | (_, some constant) => return .singleton constant
    | (value, none) => return .value value

/-- A pattern: alternatives, and perhaps a name for what they match. -/
def anyPattern (rules : Rules) (inner : Parser Pattern) : Parser Pattern := do
  let first ← closedPattern rules inner
  let rest ← manyWhile rules.fuel (takeMark? "|") (closedPattern rules inner)
  let pattern := if rest.isEmpty then first else .oneOf (first :: rest)
  if ← takeKeyword? "as" then return .capture (some pattern) (some (← captureTarget))
  else return pattern

/-- A pattern up to a depth. -/
def patternTo (rules : Rules) : Nat → Parser Pattern
  | 0 => unexpected
  | depth + 1 => anyPattern rules (patternTo rules depth)

/-- The patterns of a case, which are a sequence if there is a comma. -/
def casePattern (rules : Rules) : Parser Pattern := do
  let inner := patternTo rules rules.fuel
  let more : Parser Bool := do return !(← atMark ":") && !(← atKeyword "if")
  let (items, trailing) ← commaItems rules.fuel more (maybeStar inner)
  match items, trailing with
  | [.star _], false => unexpected
  | [single], false => return single
  | _, _ => return .sequence items

end TypeSurvey.Source
