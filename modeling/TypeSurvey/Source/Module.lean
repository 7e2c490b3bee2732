import TypeSurvey.Source.Stmt.Parser

/-!
# Reading source text

The module or the expression that a source denotes, or the fault for which it is refused. The
grammar is that of version 3.11 of the language. A source may nest as deep as its length allows;
there is no stack that could be used up.
-/

namespace TypeSurvey.Source

open Source.Parser

/-- The depth to which a source can nest. -/
def depthOf (source : Text) : Nat := 2 * source.length + 4

/-- The fault that a failure stands for. A token that fits no rule is a fault of indentation if it
is one of indentation. A fault that the scanner would find further on goes first, and so does a
bracket that was opened on an earlier line and is never closed. -/
def Failure.resolve (failure : Failure) (all : List Token) : Fault :=
  let here := ((all.drop (all.length - failure.left)).head?.or all.getLast?).getD ⟨.finish, 1⟩
  let last := all.getLast?.getD ⟨.finish, 1⟩
  let lexical (fault : Fault) : Fault :=
    match last.kind with
    | .fault (.neverClosed opening) =>
      if here.line > last.line then ⟨.neverClosed opening, last.line⟩ else fault
    | .fault cause => if cause.isLexical then ⟨cause, last.line⟩ else fault
    | _ => fault
  match failure.fault, here.kind with
  | some fault, _ => lexical fault
  | none, .fault cause => ⟨cause, here.line⟩
  | none, .indent => ⟨.unexpectedIndent, here.line⟩
  | none, .unindent => ⟨.unexpectedUnindent, here.line⟩
  | none, _ => lexical ⟨.unexpectedToken, here.line⟩

/-- Runs a parser on all tokens of a source. -/
def parseWith {α : Type} (isModule : Bool) (parser : Parser α) (source : Text) : Except Fault α :=
  if source.contains '\x00' then .error ⟨.nullCharacter, 1⟩
  else
    let all := tokens isModule source
    match parser all with
    | .ok (value, _) => .ok value
    | .error failure => .error (failure.resolve all)

def moduleParser (depth : Nat) : Parser Module := do
  let rules := rulesTo depth
  let body ← manyWhile depth (do return (← peek) != .finish) (statementTo rules depth)
  return body.flatten

/-- Expressions with commas between them, none of them starred, up to the end of the source. -/
def soleExpression (depth : Nat) : Parser Expr := do
  let rules := rulesTo depth
  let items ← commaItems depth atExpression rules.expression
  let _ ← manyWhile depth (take? .newline) (pure ())
  token .finish
  return ofItems (items.1, items.2 || items.1.length > 1)

def parseModule (source : Text) : Except Fault Module :=
  parseWith true (moduleParser (depthOf source)) source

def parseExpression (source : Text) : Except Fault Expr :=
  parseWith false (soleExpression (depthOf source)) source

end TypeSurvey.Source
