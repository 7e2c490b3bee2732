import TypeSurvey.Source.Expr.Formatted
import TypeSurvey.Source.Expr.Target
import TypeSurvey.Source.Parser

/-!
# The grammar of expressions

The rules of the grammar are written once, over the rules for the expressions inside; they are then
tied together to any depth. Operators bind, from the loosest to the tightest: the conditional, `or`,
`and`, `not`, comparisons, the bit operators, shifts, sums, products, signs, powers, `await`, and
calls, members and items.
-/

namespace TypeSurvey.Source

open Source.Parser

/-- The rules for the expressions inside an expression. -/
structure Rules where
  /-- A bound on the number of items of any sequence. -/
  fuel : Nat
  expression : Parser Expr
  /-- Expressions with commas between them, some perhaps starred: one expression, or a tuple. -/
  expressions : Parser Expr
  /-- An operand of a comparison. -/
  operand : Parser Expr
  /-- An expression without a conditional. -/
  disjunct : Parser Expr
  /-- An operand of a product. -/
  factor : Parser Expr

/-- Whether an expression can start with a token. -/
def TokenKind.startsExpression : TokenKind → Bool
  | .name _ | .number _ | .quote _ => true
  | .keyword word =>
    ["not", "lambda", "await", "True", "False", "None"].any fun known => known.toList == word
  | .mark text => ["(", "[", "\x7b", "-", "+", "~", "..."].any fun known => known.toList == text
  | _ => false

/-- Whether an expression comes next. -/
def atExpression : Parser Bool := do return (← peek).startsExpression

/-- Whether an expression comes next, perhaps a starred one. -/
def atStarExpression : Parser Bool := do
  let next ← peek
  return next.startsExpression || next == .mark ['*']

/-! ## Text literals -/

/-- The expression in a field of a formatted literal. -/
def fieldExpression (rules : Rules) (source : Text) : Except Cause Expr :=
  match rules.expressions (tokens true ('(' :: source ++ [')'])) with
  | .ok (value, _) => .ok value
  | .error failure =>
    .error (.formatted ((failure.fault.map fun fault => fault.cause.message).getD
      Cause.unexpectedToken.message))

/-- Texts side by side are one text. -/
def mergeTexts : List Expr → List Expr
  | [] => []
  | .constant (.str text) :: rest =>
    match mergeTexts rest with
    | .constant (.str more) :: after => .constant (.str (text ++ more)) :: after
    | after => .constant (.str text) :: after
  | part :: rest => part :: mergeTexts rest

mutual

/-- The expressions of a piece of a formatted literal. -/
def pieceExpressions (rules : Rules) : Piece → Except Cause (List Expr)
  | .literal content => .ok [.constant (.str content)]
  | .field source shown conversion hasFormat format => do
    let value ← fieldExpression rules source
    let pieces ← formattedExpressions rules format
    let spec := if hasFormat then Expr.formatted (mergeTexts pieces) else .omitted
    let front := match shown with
      | some text => [Expr.constant (.str text)]
      | none => []
    return front ++ [.placeholder value conversion spec]

/-- The expressions of the pieces of a formatted literal. -/
def formattedExpressions (rules : Rules) : List Piece → Except Cause (List Expr)
  | [] => .ok []
  | piece :: rest => do
    let front ← pieceExpressions rules piece
    return front ++ (← formattedExpressions rules rest)

end

/-- The meaning of one literal: bytes, or the parts of a text. -/
def quoteParts (rules : Rules) (quote : Quote) : Except Cause (Text.Bytes ⊕ List Expr) := do
  if quote.bytes then return .inl (← unescapeBytes quote.raw quote.body)
  else if quote.formatted then
    return .inr (← formattedExpressions rules (← Piece.ofBody quote.raw quote.body))
  else return .inr [.constant (.str (← unescape quote.raw quote.body))]

/-- The meaning of literals side by side, each of which is read before it is compared with the first
one. -/
def joinQuotes (rules : Rules) : List Quote → Except Cause (Text.Bytes ⊕ List Expr)
  | [] => .ok (.inr [])
  | [quote] => quoteParts rules quote
  | quote :: next :: rest => do
    let front ← quoteParts rules quote
    if quote.bytes != next.bytes then
      let _ ← quoteParts rules next
      throw .mixedLiterals
    match front, ← joinQuotes rules (next :: rest) with
    | .inl bytes, .inl more => return .inl (bytes ++ more)
    | .inr parts, .inr more => return .inr (parts ++ more)
    | _, _ => throw .mixedLiterals

/-- A text or bytes literal. -/
def quoteExpression (rules : Rules) : Parser Expr := do
  let more : Parser Bool := do return (← peek) matches .quote _
  let item : Parser Quote := do
    match ← peek with
    | .quote literal =>
      advance
      return literal
    | _ => unexpected
  let quotes ← manyWhile rules.fuel more item
  match ← checked (← line) (joinQuotes rules quotes) with
  | .inl bytes => return .constant (.bytes bytes)
  | .inr parts =>
    if quotes.any Quote.formatted then
      return .formatted ((mergeTexts parts).filter fun part => !(part matches .constant (.str [])))
    else
      return match mergeTexts parts with
        | [.constant value] => .constant value
        | _ => .constant (.str [])

/-! ## Operators -/

/-- The operators between operands by how tightly they bind, the loosest first. -/
def binaryLevels : List (List (String × BinaryOp)) :=
  [[("|", .bitOr)], [("^", .bitXor)], [("&", .bitAnd)], [("<<", .shiftLeft), (">>", .shiftRight)],
   [("+", .add), ("-", .sub)],
   [("*", .mul), ("/", .div), ("//", .floorDiv), ("%", .mod), ("@", .matMul)]]

def operatorOf? {α : Type} (known : List (String × α)) : TokenKind → Option α
  | .mark text => (known.find? fun entry => entry.1.toList == text).map Prod.snd
  | _ => none

/-- Operands with operators of some levels between them. Operators of one level group to the
left. -/
def binaryAt (rules : Rules) (operand : Parser Expr) :
    List (List (String × BinaryOp)) → Parser Expr
  | [] => operand
  | level :: tighter => do
    let first ← binaryAt rules operand tighter
    let step (left : Expr) : Parser (Option Expr) := do
      match operatorOf? level (← peek) with
      | some op =>
        advance
        let right ← binaryAt rules operand tighter
        return some (.binary op left right)
      | none => return none
    iterate step rules.fuel first

/-- Signs before an operand. -/
def unaryMarks : List (String × UnaryOp) := [("+", .plus), ("-", .minus), ("~", .invert)]

def junction (rules : Rules) (word : String) (isAnd : Bool) (operand : Parser Expr) :
    Parser Expr := do
  let first ← operand
  let rest ← manyWhile rules.fuel (takeKeyword? word) operand
  return if rest.isEmpty then first else .junction isAnd (first :: rest)

/-- The comparison that comes next, if one does. -/
def comparison? : Parser (Option CompareOp) := do
  let marks : List (String × CompareOp) :=
    [("==", .eq), ("!=", .ne), ("<=", .le), ("<", .lt), (">=", .ge), (">", .gt)]
  let next ← peek
  match operatorOf? marks next with
  | some op =>
    advance
    return some op
  | none =>
    if ← takeKeyword? "in" then return some .isIn
    else if ← takeKeyword? "is" then
      return some (if ← takeKeyword? "not" then .notSame else .same)
    else if next == .keyword "not".toList && (← peekSecond) == .keyword "in".toList then
      advance
      advance
      return some .notIn
    else return none

def comparison (rules : Rules) (operand : Parser Expr) : Parser Expr := do
  let first ← operand
  let step (found : List (CompareOp × Expr)) : Parser (Option (List (CompareOp × Expr))) := do
    match ← comparison? with
    | some op =>
      let right ← operand
      return some ((op, right) :: found)
    | none => return none
  let pairs := (← iterate step rules.fuel []).reverse
  return if pairs.isEmpty then first else .compare first (pairs.map Prod.fst) (pairs.map Prod.snd)

def inversion (rules : Rules) (operand : Parser Expr) : Parser Expr := do
  let negations ← manyWhile rules.fuel (takeKeyword? "not") (pure ())
  return negations.foldl (fun value _ => .unary .negate value) (← operand)

/-! ## Parts of expressions -/

/-- The mark that closes a bracket. If an expression comes instead, a comma is missing. -/
def closing (rules : Rules) (text : String) : Parser Unit := do
  if !(← takeMark? text) then
    if ← atExpression then
      let start ← line
      let _ ← rules.expression
      refuse (.rule "invalid syntax. Perhaps you forgot a comma?".toList) start
    else unexpected

/-- Refuses an equals sign after an expression where a comparison may have been meant: when one more
operand follows it, and no further sign. -/
def refuseEquals (rules : Rules) (value : Expr) (start : Nat) : Parser Unit := fun tokens =>
  match tokens with
  | ⟨.mark ['='], _⟩ :: rest =>
    match rules.operand rest with
    | .ok (_, after) =>
      let next := (after.head?.map Token.kind).getD .finish
      if next == .mark ['='] || next == .mark [':', '='] then .ok ((), tokens)
      else if value matches .name _ then
        refuse (.rule "invalid syntax. Maybe you meant '==' or ':=' instead of '='?".toList)
          start after
      else if value.looksCompared then
        refuse (.cannotAssignHere value.kindName.toList) start after
      else .ok ((), tokens)
    | .error _ => .ok ((), tokens)
  | _ => .ok ((), tokens)

/-- An expression, or an assignment to a name inside an expression. An equals sign may follow. -/
def assigningExpression (rules : Rules) : Parser Expr := do
  match ← peek, ← peekSecond with
  | .name word, .mark [':', '='] =>
    advance
    advance
    return .named (.name (identifier word)) (← rules.expression)
  | _, _ =>
    let value ← rules.expression
    if ← atMark ":=" then
      refuseHere (.rule ("cannot use assignment expressions with ".toList ++ value.kindName.toList))
    return value

/-- An expression, or an assignment to a name inside an expression. -/
def namedExpression (rules : Rules) : Parser Expr := do
  let start ← line
  let value ← assigningExpression rules
  refuseEquals rules value start
  return value

/-- Targets with commas between them, checked for their use. -/
def targets (rules : Rules) : Parser Expr := do
  let start ← line
  let item : Parser Expr := do
    if ← takeMark? "*" then return .starred (← rules.operand) else rules.operand
  let (items, trailing) ← commaItems rules.fuel atStarExpression item
  let target := match items, trailing with
    | [single], false => single
    | _, _ => .tuple items
  match target.invalidTarget? .assign with
  | some part => refuse (.cannotAssign part.kindName.toList) start
  | none => return target

def clauses (rules : Rules) : Parser (List Expr) := do
  let more : Parser Bool := do
    return (← atKeyword "for") ||
      ((← atKeyword "async") && (← peekSecond) == .keyword "for".toList)
  manyWhile rules.fuel more do
    let isAsync ← takeKeyword? "async"
    keyword "for"
    let target ← targets rules
    keyword "in"
    let source ← rules.disjunct
    let conditions ← manyWhile rules.fuel (takeKeyword? "if") rules.disjunct
    return .clause isAsync target source conditions

/-- Whether the clauses of a comprehension come next. -/
def atClause : Parser Bool := do return (← atKeyword "for") || (← atKeyword "async")

/-- A value that is given out by a generator function. -/
def yieldExpression (rules : Rules) : Parser Expr := do
  keyword "yield"
  if ← takeKeyword? "from" then return .yieldFrom (← rules.expression)
  else if ← atStarExpression then return .yield (← rules.expressions)
  else return .yield .omitted

/-- What has been read of a list of parameters. -/
structure ParameterList where
  /-- The parameters, the last one first. -/
  found : List Expr
  /-- Whether the mark that ends the parameters by position was read. -/
  slash : Bool
  star : Bool
  /-- Whether a star without a name waits for a parameter. -/
  bare : Bool
  /-- Whether a parameter by position has a default. -/
  defaulted : Bool
  /-- Whether no parameter may follow. -/
  ended : Bool

/-- The hint of a parameter, if there is one. -/
def parameterHint (hints : Bool) (item : Parser Expr) : Parser Expr := do
  if hints && (← atMark ":") then
    advance
    item
  else return .omitted

/-- Reads one parameter or mark. -/
def parameterItem (rules : Rules) (hints : Bool) (state : ParameterList) :
    Parser ParameterList := do
  let start ← line
  let starHint : Parser Expr := do
    if ← takeMark? "*" then return .starred (← rules.operand) else rules.expression
  if ← takeMark? "/" then
    if state.slash || state.star || state.found.isEmpty then
      refuse (.rule "invalid syntax".toList) start
    let positional : Expr → Expr
      | .parameter _ id hint value line => .parameter .positional id hint value line
      | other => other
    return { state with found := state.found.map positional, slash := true }
  else if ← takeMark? "**" then
    if state.bare then refuse (.rule "named arguments must follow bare *".toList) start
    let id ← name
    let hint ← parameterHint hints rules.expression
    let entry := Expr.parameter .keywords id hint .omitted start
    return { state with found := entry :: state.found, ended := true }
  else if ← takeMark? "*" then
    if state.star then unexpected
    if ← atMark "," then return { state with star := true, bare := true }
    else
      let id ← name
      let hint ← parameterHint hints starHint
      let entry := Expr.parameter .rest id hint .omitted start
      return { state with found := entry :: state.found, star := true }
  else
    let id ← name
    let hint ← parameterHint hints rules.expression
    let value ← if ← takeMark? "=" then rules.expression else pure .omitted
    if !state.star && state.defaulted && !value.isWritten then
      refuse (.rule "non-default argument follows default argument".toList) start
    let kind := if state.star then ParameterKind.keyword else .ordinary
    return { state with
      found := .parameter kind id hint value start :: state.found
      bare := false
      defaulted := state.defaulted || (!state.star && value.isWritten) }

/-- Parameters up to the mark that closes them, which stays. -/
def parameters (rules : Rules) (hints : Bool) (closer : String) : Parser (List Expr) := do
  let step (state : ParameterList) : Parser (Option ParameterList) := do
    if ← atMark closer then return none
    else if state.ended then unexpected
    else
      let next ← parameterItem rules hints state
      if !(← atMark closer) then mark ","
      return some next
  let state ← iterate step rules.fuel ⟨[], false, false, false, false, false⟩
  if state.bare then refuseHere (.rule "named arguments must follow bare *".toList)
  return state.found.reverse

/-- A function without a name. -/
def lambdaExpression (rules : Rules) : Parser Expr := do
  keyword "lambda"
  let found ← parameters rules false ":"
  forcedMark ":"
  return .lambda found (← rules.expression)

/-- What has been read of the arguments of a call. -/
structure ArgumentList where
  /-- The arguments, the last one first. -/
  found : List Expr
  named : Bool
  spread : Bool

/-- Reads one argument. A generator without brackets of its own is the only argument. -/
def argumentItem (rules : Rules) (generators : Bool)
    (state : ArgumentList) : Parser ArgumentList := do
  let start ← line
  if ← takeMark? "**" then
    let value ← rules.expression
    return { state with found := .keyword none value :: state.found, named := true, spread := true }
  else if ← takeMark? "*" then
    if state.spread then
      refuse (.rule "iterable argument unpacking follows keyword argument unpacking".toList) start
    let value ← rules.expression
    return { state with found := .starred value :: state.found }
  else
    match ← peek, ← peekSecond with
    | .name word, .mark ['='] =>
      advance
      advance
      let value ← rules.expression
      return { state with
        found := .keyword (some (identifier word)) value :: state.found, named := true }
    | _, _ =>
      let value ← assigningExpression rules
      if ← atMark "=" then
        match value with
        | .constant .none | .constant (.bool _) =>
          refuse (.cannotAssign value.kindName.toList) start
        | _ =>
          refuse (.rule "expression cannot contain assignment, perhaps you meant \"==\"?".toList)
            start
      if ← atClause then
        let found ← clauses rules
        if !generators || !state.found.isEmpty || (← atMark ",") then
          refuse (.rule "Generator expression must be parenthesized".toList) start
        return { state with found := [.generator value found] }
      if state.spread then
        refuse (.rule "positional argument follows keyword argument unpacking".toList) start
      if state.named then refuse (.rule "positional argument follows keyword argument".toList) start
      return { state with found := value :: state.found }

/-- The arguments of a call, up to the bracket that closes them and with it. -/
def arguments (rules : Rules) (generators : Bool) :
    Parser (List Expr) := do
  let step (state : ArgumentList) : Parser (Option ArgumentList) := do
    if ← takeMark? ")" then return none
    else
      let next ← argumentItem rules generators state
      if ← atMark ")" then return some next
      else if ← takeMark? "," then return some next
      else
        closing rules ")"
        return none
  let state ← iterate step rules.fuel ⟨[], false, false⟩
  return state.found.reverse

/-- A bound of a slice, if one is written. -/
def sliceBound (rules : Rules) : Parser Expr := do
  if ← atExpression then rules.expression else return .omitted

def sliceItem (rules : Rules) : Parser Expr := do
  if ← takeMark? "*" then return .starred (← rules.expression)
  let lower ← if ← atMark ":" then pure .omitted else namedExpression rules
  if (← atMark ":") && !(lower matches .named _ _) then
    advance
    let upper ← sliceBound rules
    let step ← if ← takeMark? ":" then sliceBound rules else pure .omitted
    return .slice lower upper step
  else return lower

/-- What stands between the brackets of an item. -/
def slices (rules : Rules) : Parser Expr := do
  let more : Parser Bool := do return (← atStarExpression) || (← atMark ":")
  let (items, trailing) ← commaItems rules.fuel more (sliceItem rules)
  return match items, trailing with
    | [.starred value], _ => .tuple [.starred value]
    | [single], false => single
    | _, _ => .tuple items

/-! ## Atoms -/

/-- An expression that may be starred or assign to a name. -/
def starNamed (rules : Rules) : Parser Expr := do
  if ← takeMark? "*" then return .starred (← rules.operand) else namedExpression rules

/-- Further items after a first one, up to a closing bracket and with it. Tells whether there was a
comma. -/
def itemsAfter (rules : Rules) (first : Expr) (closer : String) (item : Parser Expr) :
    Parser (List Expr × Bool) := do
  if ← takeMark? "," then
    if ← takeMark? closer then return ([first], true)
    let (rest, _) ← commaItems rules.fuel (do return !(← atMark closer)) item
    closing rules closer
    return (first :: rest, true)
  else
    closing rules closer
    return ([first], false)

/-- A tuple, a group or a generator, after its opening bracket. -/
def parenthesized (rules : Rules) : Parser Expr := do
  if ← takeMark? ")" then return .tuple []
  else if ← atKeyword "yield" then
    let value ← yieldExpression rules
    mark ")"
    return value
  else
    let first ← starNamed rules
    if (← atClause) && !(first matches .starred _) then
      let found ← clauses rules
      closing rules ")"
      return .generator first found
    let (items, isTuple) ← itemsAfter rules first ")" (starNamed rules)
    if isTuple then return .tuple items
    match first with
    | .starred _ => refuseHere (.rule "cannot use starred expression here".toList)
    | value => return value

/-- A list, after its opening bracket. -/
def bracketed (rules : Rules) : Parser Expr := do
  if ← takeMark? "]" then return .list []
  else
    let first ← starNamed rules
    if (← atClause) && !(first matches .starred _) then
      let found ← clauses rules
      closing rules "]"
      return .listComp first found
    return .list (← itemsAfter rules first "]" (starNamed rules)).1

/-- An entry of a dictionary: its key, which a spread dictionary does not have, and its value. -/
def entry (rules : Rules) : Parser (Expr × Expr) := do
  if ← takeMark? "**" then return (.omitted, ← rules.operand)
  else
    let key ← rules.expression
    mark ":"
    return (key, ← rules.expression)

/-- Further entries after a first one, up to the closing brace and with it. -/
def entriesAfter (rules : Rules) (first : Expr × Expr) : Parser Expr := do
  let rest ←
    if ← takeMark? "," then
      if ← atMark "\x7d" then pure []
      else
        let (rest, _) ← commaItems rules.fuel (do return !(← atMark "\x7d")) (entry rules)
        pure rest
    else pure []
  closing rules "\x7d"
  return .dict ((first :: rest).map Prod.fst) ((first :: rest).map Prod.snd)

/-- A dictionary or a set, after its opening brace. -/
def braced (rules : Rules) : Parser Expr := do
  if ← takeMark? "\x7d" then return .dict [] []
  else if ← atMark "**" then entriesAfter rules (← entry rules)
  else
    let first ← starNamed rules
    if (← atMark ":") && !(first matches .starred _) && !(first matches .named _ _) then
      advance
      let value ← rules.expression
      if ← atClause then
        let found ← clauses rules
        closing rules "\x7d"
        return .dictComp first value found
      entriesAfter rules (first, value)
    else if (← atClause) && !(first matches .starred _) then
      let found ← clauses rules
      closing rules "\x7d"
      return .setComp first found
    else return .set (← itemsAfter rules first "\x7d" (starNamed rules)).1

def atom (rules : Rules) : Parser Expr := do
  let start ← line
  match ← peek with
  | .name word =>
    advance
    return .name (identifier word)
  | .number digits =>
    advance
    return .constant (← checked start (numberConstant digits))
  | .quote _ => quoteExpression rules
  | .keyword _ =>
    if ← takeKeyword? "None" then return .constant .none
    else if ← takeKeyword? "True" then return .constant (.bool true)
    else if ← takeKeyword? "False" then return .constant (.bool false)
    else unexpected
  | .mark _ =>
    if ← takeMark? "(" then parenthesized rules
    else if ← takeMark? "[" then bracketed rules
    else if ← takeMark? "\x7b" then braced rules
    else if ← takeMark? "..." then return .constant .ellipsis
    else unexpected
  | _ => unexpected

/-- An atom with the calls, members and items after it. -/
def primary (rules : Rules) : Parser Expr := do
  let step (value : Expr) : Parser (Option Expr) := do
    if ← takeMark? "." then return some (.member value (← name))
    else if ← takeMark? "(" then
      return some (.call value (← arguments rules true))
    else if ← takeMark? "[" then
      let index ← slices rules
      closing rules "]"
      return some (.subscript value index)
    else return none
  iterate step rules.fuel (← atom rules)

/-- A primary, perhaps awaited, and its power. -/
def power (rules : Rules) : Parser Expr := do
  let isAwaited ← takeKeyword? "await"
  let value ← primary rules
  let base := if isAwaited then Expr.await value else value
  if ← takeMark? "**" then return .binary .pow base (← rules.factor) else return base

/-! ## The rules tied together -/

/-- An operand of a product, with its signs. -/
def signed (rules : Rules) : Parser Expr := do
  let step (found : List UnaryOp) : Parser (Option (List UnaryOp)) := do
    match operatorOf? unaryMarks (← peek) with
    | some op =>
      advance
      return some (op :: found)
    | none => return none
  let signs ← iterate step rules.fuel []
  return signs.foldl (fun value op => .unary op value) (← power rules)

/-- An operand of a comparison. -/
def bitwise (rules : Rules) : Parser Expr := binaryAt rules (signed rules) binaryLevels

/-- An expression without a conditional. -/
def disjunction (rules : Rules) : Parser Expr :=
  junction rules "or" false
    (junction rules "and" true (inversion rules (comparison rules (bitwise rules))))

def anyExpression (rules : Rules) : Parser Expr := do
  if ← atKeyword "lambda" then lambdaExpression rules
  else
    let start ← line
    let value ← disjunction rules
    if ← takeKeyword? "if" then
      let test ← rules.disjunct
      if !(← atKeyword "else") && !(← atMark ":") then
        refuse (.rule "expected 'else' after 'if' expression".toList) start
      keyword "else"
      return .conditional test value (← rules.expression)
    else return value

/-- Expressions with commas between them: the items, and whether there is a comma. -/
def expressionItems (rules : Rules) : Parser (List Expr × Bool) := do
  let item : Parser Expr := do
    if ← takeMark? "*" then return .starred (← rules.operand) else rules.expression
  let (items, trailing) ← commaItems rules.fuel atStarExpression item
  return (items, trailing || items.length > 1)

/-- One expression, or the tuple of several. -/
def ofItems : List Expr × Bool → Expr
  | ([single], false) => single
  | (items, _) => .tuple items

/-- The rules for expressions up to a depth. -/
def rulesTo : Nat → Rules
  | 0 => ⟨0, unexpected, unexpected, unexpected, unexpected, unexpected⟩
  | depth + 1 =>
    let inner := rulesTo depth
    { fuel := depth + 1
      expression := anyExpression inner
      expressions := do return ofItems (← expressionItems inner)
      operand := bitwise inner
      disjunct := disjunction inner
      factor := signed inner }

end TypeSurvey.Source
