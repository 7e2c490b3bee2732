import TypeSurvey.Number.Binary64
import TypeSurvey.Text.Utf8

/-!
# Expressions

The expressions of Python source, together with the parts that occur only inside them: keyword
arguments, parameters, generator clauses, slices, context items, and the place of an expression that
is not written.
-/

namespace TypeSurvey.Source

/-- The constants. -/
inductive Constant
  | none
  | bool (value : Bool)
  | int (value : Nat)
  | float (value : Binary64)
  | imaginary (value : Binary64)
  | str (value : Text)
  | bytes (value : Text.Bytes)
  | ellipsis
deriving DecidableEq, Repr

/-- Operators before an operand. -/
inductive UnaryOp
  | minus
  | plus
  | invert
  /-- The other truth value. -/
  | negate
deriving DecidableEq, Repr

/-- Operators between two operands. -/
inductive BinaryOp
  | add
  | sub
  | mul
  | matMul
  | div
  | floorDiv
  | mod
  | pow
  | shiftLeft
  | shiftRight
  | bitOr
  | bitXor
  | bitAnd
deriving DecidableEq, Repr

/-- Comparisons. -/
inductive CompareOp
  | eq
  | ne
  | lt
  | le
  | gt
  | ge
  /-- The same object. -/
  | same
  | notSame
  | isIn
  | notIn
deriving DecidableEq, Repr

/-- The kinds of parameters. -/
inductive ParameterKind
  | positional
  /-- By position or by name. -/
  | ordinary
  /-- All further positions. -/
  | rest
  | keyword
  /-- All further names. -/
  | keywords
deriving DecidableEq, Repr

/-- An expression, or a part of one. -/
inductive Expr
  /-- The place of an expression that is not written. -/
  | omitted
  | constant (value : Constant)
  | name (id : Text)
  /-- A formatted text of constant pieces and placeholders. -/
  | formatted (pieces : List Expr)
  | placeholder (value : Expr) (conversion : Option Char) (spec : Expr)
  | list (items : List Expr)
  | tuple (items : List Expr)
  | set (items : List Expr)
  /-- A dictionary: as many keys as values; the key of a spread dictionary is not written. -/
  | dict (keys values : List Expr)
  | unary (op : UnaryOp) (operand : Expr)
  | binary (op : BinaryOp) (left right : Expr)
  /-- Operands joined by `and` or by `or`. -/
  | junction (isAnd : Bool) (operands : List Expr)
  | compare (first : Expr) (ops : List CompareOp) (rest : List Expr)
  | conditional (test yes no : Expr)
  | lambda (parameters : List Expr) (body : Expr)
  | call (function : Expr) (arguments : List Expr)
  /-- An argument with a name, or a spread dictionary of arguments. -/
  | keyword (name : Option Text) (value : Expr)
  /-- An expression whose items are spread. -/
  | starred (value : Expr)
  | member (value : Expr) (name : Text)
  | subscript (value index : Expr)
  | slice (lower upper step : Expr)
  | listComp (element : Expr) (clauses : List Expr)
  | setComp (element : Expr) (clauses : List Expr)
  | generator (element : Expr) (clauses : List Expr)
  | dictComp (key value : Expr) (clauses : List Expr)
  | clause (isAsync : Bool) (target source : Expr) (conditions : List Expr)
  | parameter (kind : ParameterKind) (name : Text) (hint default : Expr) (line : Nat)
  /-- A context of a `with` statement and its target. -/
  | context (value target : Expr)
  /-- An assignment inside an expression. -/
  | named (target value : Expr)
  | await (value : Expr)
  | yield (value : Expr)
  | yieldFrom (value : Expr)

/-- A pattern of a `match` statement. -/
inductive Pattern
  | value (value : Expr)
  /-- One of the constants `None`, `True` and `False`. -/
  | singleton (value : Constant)
  | sequence (patterns : List Pattern)
  /-- A mapping: keys, their patterns, and the name of the rest. -/
  | mapping (keys : List Expr) (patterns : List Pattern) (rest : Option Text)
  | instance_ (class_ : Expr) (positional : List Pattern) (names : List Text) (named : List Pattern)
  /-- The rest of a sequence. -/
  | star (name : Option Text)
  /-- A capture, or anything. -/
  | capture (pattern : Option Pattern) (name : Option Text)
  | oneOf (patterns : List Pattern)

instance : Inhabited Expr := ⟨.omitted⟩

instance : Inhabited Pattern := ⟨.star none⟩

def Expr.isWritten : Expr → Bool
  | omitted => false
  | _ => true

end TypeSurvey.Source
