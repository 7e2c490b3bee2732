import TypeSurvey.Source.Pattern.Parser
import TypeSurvey.Source.Stmt

/-!
# The grammar of statements

Simple statements stand on one line, with semicolons between them. A compound statement has a header
and a block, which is either the rest of the line or the indented lines below. As for expressions,
the rules are written over the rule for the statements inside, and then tied together to any depth.
-/

namespace TypeSurvey.Source

open Source.Parser

/-! ## Simple statements -/

/-- A value after an equals sign. -/
def assignedValue (rules : Rules) : Parser Expr := do
  if ← atKeyword "yield" then yieldExpression rules else rules.expressions

/-- The operators that update a target. -/
def augmentMarks : List (String × BinaryOp) :=
  [("+=", .add), ("-=", .sub), ("*=", .mul), ("@=", .matMul), ("/=", .div), ("%=", .mod),
   ("&=", .bitAnd), ("|=", .bitOr), ("^=", .bitXor), ("<<=", .shiftLeft), (">>=", .shiftRight),
   ("**=", .pow), ("//=", .floorDiv)]

/-- Refuses an expression before an equals sign unless values can be assigned to it. The last item
before the sign is looked at first: a comparison may have been meant. -/
def checkTarget (rules : Rules) (target last : Expr) (start : Nat) : Parser Unit := do
  match target.invalidTarget? .assign with
  | none => pure ()
  | some part =>
    refuseEquals rules last start
    match part with
    | .yield _ | .yieldFrom _ =>
      refuse (.rule "assignment to yield expression not possible".toList) start
    | _ => refuse (.cannotAssign part.kindName.toList) start

/-- The rest of an assignment before its first equals sign. -/
def assignment (rules : Rules) (first : Expr) (start : Nat) : Parser Stmt := do
  let step (state : List Expr × Expr) : Parser (Option (List Expr × Expr)) := do
    let (targets, value) := state
    if ← atMark "=" then
      if !targets.isEmpty then checkTarget rules value value start
      advance
      return some (value :: targets, ← assignedValue rules)
    else return none
  let (targets, value) ← iterate step rules.fuel ([], first)
  return .assign targets.reverse value

/-- The rest of a declaration after its target. -/
def declaration (rules : Rules) (target : Expr) (start : Nat) : Parser Stmt := do
  if !target.isSingleTarget then
    match target with
    | .list _ | .tuple _ =>
      refuse (.rule ("only single target (not ".toList ++ target.kindName.toList ++
        ") can be annotated".toList)) start
    | _ => refuse (.rule "illegal target for annotation".toList) start
  mark ":"
  let hint ← rules.expression
  let value ← if ← takeMark? "=" then assignedValue rules else pure .omitted
  return .declare target hint value

/-- A statement that starts with an expression. -/
def expressionStatement (rules : Rules) : Parser Stmt := do
  let start ← line
  let (first, last) ←
    if ← atKeyword "yield" then
      let value ← yieldExpression rules
      pure (value, value)
    else
      let (items, isTuple) ← expressionItems rules
      pure (ofItems (items, isTuple), items.getLast?.getD .omitted)
  if ← atMark "=" then
    checkTarget rules first last start
    assignment rules first start
  else if (← atMark ":") && !(first matches .yield _ | .yieldFrom _) then
    declaration rules first start
  else
    match operatorOf? augmentMarks (← peek) with
    | some op =>
      if !first.isSingleTarget then
        refuse (.rule ([Text.apostrophe] ++ first.kindName.toList ++
          "' is an illegal expression for augmented assignment".toList)) start
      advance
      return .augment first op (← assignedValue rules)
    | none => return .expression first

def moduleName (rules : Rules) : Parser Text := do
  let first ← name
  let rest ← manyWhile rules.fuel (takeMark? ".") name
  return Text.join ['.'] (first :: rest)

/-- The name that an import is bound to, if another one is given. -/
def alias_ (named : Parser Text) : Parser Alias := do
  let id ← named
  if ← takeKeyword? "as" then return ⟨id, some (← name)⟩ else return ⟨id, none⟩

def importStatement (rules : Rules) : Parser Stmt := do
  keyword "import"
  let first ← alias_ (moduleName rules)
  let rest ← manyWhile rules.fuel (takeMark? ",") (alias_ (moduleName rules))
  return .import_ (first :: rest)

/-- An import of names from a module. -/
def importFromStatement (rules : Rules) : Parser Stmt := do
  keyword "from"
  let step (level : Nat) : Parser (Option Nat) := do
    if ← takeMark? "." then return some (level + 1)
    else if ← takeMark? "..." then return some (level + 3)
    else return none
  let level ← iterate step rules.fuel 0
  let module_ ← if level > 0 && (← atKeyword "import") then pure [] else moduleName rules
  keyword "import"
  if ← takeMark? "*" then return .importFrom module_ level [⟨['*'], none⟩]
  else if ← takeMark? "(" then
    let (names, _) ← commaItems rules.fuel (do return !(← atMark ")")) (alias_ name)
    mark ")"
    return .importFrom module_ level names
  else
    let first ← alias_ name
    let more : Parser Bool := do
      if ← takeMark? "," then
        if (← peek) == .newline then
          refuseHere
            (.rule "trailing comma not allowed without surrounding parentheses".toList)
        return true
      else return false
    let rest ← manyWhile rules.fuel more (alias_ name)
    return .importFrom module_ level (first :: rest)

def deleteStatement (rules : Rules) : Parser Stmt := do
  keyword "del"
  let start ← line
  let (items, _) ← expressionItems rules
  match Expr.invalidAmong? .delete items with
  | some part => refuse (.cannotDelete part.kindName.toList) start
  | none => return .delete items

/-- Names with commas between them. -/
def nameList (rules : Rules) : Parser (List Text) := do
  let first ← name
  return first :: (← manyWhile rules.fuel (takeMark? ",") name)

/-- An expression, if one comes next. -/
def expression? (rules : Rules) (word : String) : Parser Expr := do
  if ← takeKeyword? word then rules.expression else return .omitted

def simpleStatement (rules : Rules) : Parser Stmt := do
  let start ← line
  let next ← peek
  let at_ (word : String) : Bool := next == .keyword word.toList
  if at_ "import" then importStatement rules
  else if at_ "from" then importFromStatement rules
  else if at_ "del" then deleteStatement rules
  else if ← takeKeyword? "return" then
    let value ← if ← atStarExpression then rules.expressions else pure .omitted
    return .return_ value start
  else if ← takeKeyword? "pass" then return .pass
  else if ← takeKeyword? "break" then return .break_ start
  else if ← takeKeyword? "continue" then return .continue_ start
  else if ← takeKeyword? "raise" then
    if ← atExpression then
      let exception ← rules.expression
      return .raise exception (← expression? rules "from")
    else return .raise .omitted .omitted
  else if ← takeKeyword? "assert" then
    let test ← rules.expression
    let message ← if ← takeMark? "," then rules.expression else pure .omitted
    return .assert test message
  else if ← takeKeyword? "global" then return .global (← nameList rules)
  else if ← takeKeyword? "nonlocal" then return .nonlocal (← nameList rules)
  else expressionStatement rules

/-- The words that were statements once and are calls now. -/
def isFormerStatement : Stmt → Option Text
  | .expression (.name id) =>
    if id == "print".toList || id == "exec".toList then some id else none
  | _ => none

/-- The end of a line after a statement. -/
def lineEnd (rules : Rules) (last : Stmt) (start : Nat) : Parser Unit := do
  if !(← take? .newline) then
    match isFormerStatement last, ← atStarExpression with
    | some id, true =>
      let _ ← rules.expressions
      refuse (.rule ("Missing parentheses in call to '".toList ++ id ++ "'. Did you mean ".toList ++
        id ++ "(...)?".toList)) start
    | _, _ => unexpected

def simpleStatements (rules : Rules) : Parser (List Stmt) := do
  let start ← line
  let first ← simpleStatement rules
  let more : Parser Bool := do
    if ← takeMark? ";" then return (← peek) != .newline else return false
  let rest ← manyWhile rules.fuel more (simpleStatement rules)
  lineEnd rules ((first :: rest).getLast?.getD first) start
  return first :: rest

/-! ## Blocks -/

/-- The block after a header of a name and line. -/
def block (rules : Rules) (statement : Parser (List Stmt)) (header : String) (start : Nat) :
    Parser (List Stmt) := do
  if ← take? .newline then
    if ← take? .indent then
      let more : Parser Bool := do
        let next ← peek
        return next != .unindent && next != .finish
      let body ← manyWhile rules.fuel more statement
      token .unindent
      return body.flatten
    else refuseHere (.expectedBlock header.toList start)
  else simpleStatements rules

/-- The block after `else`, if there is one. -/
def elseBlock (rules : Rules) (statement : Parser (List Stmt)) : Parser (List Stmt) := do
  let start ← line
  if ← takeKeyword? "else" then
    forcedMark ":"
    block rules statement "'else' statement" start
  else return []

/-- A test, the colon after it and its block. -/
def testedBlock (rules : Rules) (statement : Parser (List Stmt)) (header : String) (start : Nat) :
    Parser (Expr × List Stmt) := do
  let test ← namedExpression rules
  markBeforeNewline ":"
  return (test, ← block rules statement header start)

/-- The blocks for further tests and the last block of a conditional statement. -/
def elifBlocks (rules : Rules) (statement : Parser (List Stmt)) : Nat → Parser (List Stmt)
  | 0 => unexpected
  | fuel + 1 => do
    let start ← line
    if ← takeKeyword? "elif" then
      let (test, body) ← testedBlock rules statement "'elif' statement" start
      return [.if_ test body (← elifBlocks rules statement fuel)]
    else elseBlock rules statement

def ifStatement (rules : Rules) (statement : Parser (List Stmt)) : Parser Stmt := do
  let start ← line
  keyword "if"
  let (test, body) ← testedBlock rules statement "'if' statement" start
  return .if_ test body (← elifBlocks rules statement rules.fuel)

/-- A loop while a test holds. -/
def whileStatement (rules : Rules) (statement : Parser (List Stmt)) : Parser Stmt := do
  let start ← line
  keyword "while"
  let (test, body) ← testedBlock rules statement "'while' statement" start
  return .while_ test body (← elseBlock rules statement)

/-- A loop over items. -/
def forStatement (rules : Rules) (statement : Parser (List Stmt)) (isAsync : Bool) :
    Parser Stmt := do
  let start ← line
  keyword "for"
  let target ← targets rules
  keyword "in"
  let source ← rules.expressions
  forcedMark ":"
  let body ← block rules statement "'for' statement" start
  return .for_ isAsync target source body (← elseBlock rules statement)

def contextItem (rules : Rules) : Parser Expr := do
  let value ← rules.expression
  if ← takeKeyword? "as" then
    let start ← line
    let target ← if ← takeMark? "*" then pure (.starred (← rules.operand)) else rules.operand
    match target.invalidTarget? .assign with
    | some part => refuse (.cannotAssign part.kindName.toList) start
    | none => return .context value target
  else return .context value .omitted

/-- Reads without a fault of its own: another way may be tried. -/
def tentative {α : Type} (parser : Parser α) : Parser α := fun tokens =>
  match parser tokens with
  | .ok result => .ok result
  | .error failure => .error ⟨failure.left, none⟩

/-- A block inside contexts, which may stand in brackets. -/
def withStatement (rules : Rules) (statement : Parser (List Stmt)) (isAsync : Bool) :
    Parser Stmt := do
  let start ← line
  keyword "with"
  let bracketed : Parser (List Expr) := do
    mark "("
    let (contexts, _) ← commaItems rules.fuel (do return !(← atMark ")")) (contextItem rules)
    mark ")"
    mark ":"
    return contexts
  let plain : Parser (List Expr) := do
    let first ← contextItem rules
    let rest ← manyWhile rules.fuel (takeMark? ",") (contextItem rules)
    markBeforeNewline ":"
    return first :: rest
  let contexts ← either (tentative bracketed) plain
  return .with_ isAsync contexts (← block rules statement "'with' statement" start)

/-- A handler of exceptions, and whether it is for groups of them. -/
def handler (rules : Rules) (statement : Parser (List Stmt)) : Parser (Bool × Stmt) := do
  let start ← line
  keyword "except"
  let groups ← takeMark? "*"
  let header := if groups then "'except*' statement" else "'except' statement"
  let exceptions ← if (← atExpression) || groups then rules.expression else pure .omitted
  let bound ← if exceptions.isWritten && (← takeKeyword? "as") then pure (some (← name))
    else pure none
  if (← atMark ",") && bound.isNone then
    refuseHere (.rule "multiple exception types must be parenthesized".toList)
  markBeforeNewline ":"
  return (groups, .handler exceptions bound (← block rules statement header start))

/-- A block with handlers. -/
def tryStatement (rules : Rules) (statement : Parser (List Stmt)) : Parser Stmt := do
  let start ← line
  keyword "try"
  forcedMark ":"
  let body ← block rules statement "'try' statement" start
  let handlers ← manyWhile rules.fuel (atKeyword "except") (handler rules statement)
  if handlers.any Prod.fst && handlers.any (!·.1) then
    refuseHere (.rule "cannot have both 'except' and 'except*' on the same 'try'".toList)
  let orelse ← if handlers.isEmpty then pure [] else elseBlock rules statement
  let finalStart ← line
  let hasFinal ← takeKeyword? "finally"
  let final ←
    if hasFinal then
      forcedMark ":"
      block rules statement "'finally' statement" finalStart
    else pure []
  if handlers.isEmpty && !hasFinal then
    refuseHere (.expected "'except' or 'finally' block".toList)
  return .try_ (handlers.any Prod.fst) body (handlers.map Prod.snd) orelse final

/-! ## Choices by patterns -/

/-- The header of a choice by patterns, up to the end of its line. -/
def matchHeader (rules : Rules) : Parser Expr := do
  advance
  let (items, trailing) ← commaItems rules.fuel atStarExpression (starNamed rules)
  let subject ← match items, trailing with
    | [.starred _], false => unexpected
    | [single], false => pure single
    | _, _ => pure (.tuple items)
  mark ":"
  token .newline
  return subject

def caseStatement (rules : Rules) (statement : Parser (List Stmt)) : Parser Stmt := do
  let start ← line
  token (.name "case".toList)
  let pattern ← casePattern rules
  let condition ← if ← takeKeyword? "if" then namedExpression rules else pure .omitted
  markBeforeNewline ":"
  return .case pattern condition (← block rules statement "'case' statement" start)

/-- The cases of a choice. -/
def matchBody (rules : Rules) (statement : Parser (List Stmt)) (subject : Expr) (start : Nat) :
    Parser Stmt := do
  if !(← take? .indent) then refuseHere (.expectedBlock "'match' statement".toList start)
  let first ← caseStatement rules statement
  let more : Parser Bool := do return (← peek) == .name "case".toList
  let rest ← manyWhile rules.fuel more (caseStatement rules statement)
  token .unindent
  return .match_ subject (first :: rest)

/-- A statement that starts with the word of a choice by patterns, which is also a plain name. -/
def matchStatement (rules : Rules) (statement : Parser (List Stmt)) : Parser (List Stmt) := do
  let start ← line
  let header : Parser (Expr ⊕ List Stmt) := do return .inl (← matchHeader rules)
  let other : Parser (Expr ⊕ List Stmt) := do return .inr (← simpleStatements rules)
  match ← either (tentative header) other with
  | .inl subject => return [← matchBody rules statement subject start]
  | .inr statements => return statements

/-! ## Definitions -/

def functionStatement (rules : Rules) (statement : Parser (List Stmt)) (isAsync : Bool)
    (decorators : List Expr) : Parser Stmt := do
  let start ← line
  keyword "def"
  let id ← name
  forcedMark "("
  let found ← parameters rules true ")"
  mark ")"
  let hint ← if ← takeMark? "->" then rules.expression else pure .omitted
  forcedMark ":"
  let body ← block rules statement "function definition" start
  return .function isAsync id found body decorators hint

def classStatement (rules : Rules) (statement : Parser (List Stmt)) (decorators : List Expr) :
    Parser Stmt := do
  let start ← line
  keyword "class"
  let id ← name
  let bases ← if ← takeMark? "(" then arguments rules false else pure []
  markBeforeNewline ":"
  return .class_ id bases (← block rules statement "class definition" start) decorators

def decorated (rules : Rules) (statement : Parser (List Stmt)) : Parser Stmt := do
  let decorators ← manyWhile rules.fuel (takeMark? "@") do
    let value ← namedExpression rules
    token .newline
    return value
  if ← atKeyword "class" then classStatement rules statement decorators
  else
    let isAsync ← takeKeyword? "async"
    functionStatement rules statement isAsync decorators

/-! ## The rules tied together -/

/-- One compound statement, or the simple statements of a line. -/
def anyStatement (rules : Rules) (statement : Parser (List Stmt)) : Parser (List Stmt) := do
  let one (parser : Parser Stmt) : Parser (List Stmt) := do return [← parser]
  match ← peek with
  | .keyword word =>
    let is (known : String) : Bool := known.toList == word
    if is "if" then one (ifStatement rules statement)
    else if is "while" then one (whileStatement rules statement)
    else if is "for" then one (forStatement rules statement false)
    else if is "try" then one (tryStatement rules statement)
    else if is "with" then one (withStatement rules statement false)
    else if is "def" || is "class" then one (decorated rules statement)
    else if is "async" then
      match ← peekSecond with
      | .keyword next =>
        if next == "def".toList then one (decorated rules statement)
        else
          advance
          if next == "for".toList then one (forStatement rules statement true)
          else if next == "with".toList then one (withStatement rules statement true)
          else unexpected
      | _ =>
        advance
        unexpected
    else simpleStatements rules
  | .mark ['@'] => one (decorated rules statement)
  | .name word =>
    if word == "match".toList then matchStatement rules statement else simpleStatements rules
  | _ => simpleStatements rules

/-- A statement up to a depth. -/
def statementTo (rules : Rules) : Nat → Parser (List Stmt)
  | 0 => unexpected
  | depth + 1 => anyStatement rules (statementTo rules depth)

end TypeSurvey.Source
