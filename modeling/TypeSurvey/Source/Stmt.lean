import TypeSurvey.Source.Expr

/-!
# Statements

The statements of Python source. The handlers of a `try` statement and the cases of a `match`
statement are statements of their own kind.
-/

namespace TypeSurvey.Source

/-- A name that is imported, and the name it is bound to. -/
structure Alias where
  /-- The dotted name, or a star. -/
  name : Text
  /-- The new name. -/
  bound : Option Text
deriving DecidableEq, Repr

/-- A statement. -/
inductive Stmt
  | expression (value : Expr)
  | assign (targets : List Expr) (value : Expr)
  | augment (target : Expr) (op : BinaryOp) (value : Expr)
  /-- A target with a hint, and perhaps a value. -/
  | declare (target hint value : Expr)
  | delete (targets : List Expr)
  | pass
  | break_ (line : Nat)
  | continue_ (line : Nat)
  | return_ (value : Expr) (line : Nat)
  | raise (exception cause : Expr)
  | assert (test message : Expr)
  | global (names : List Text)
  | nonlocal (names : List Text)
  | import_ (names : List Alias)
  /-- Names imported from a module, which is given by its dotted name and its number of leading
  dots. -/
  | importFrom (module_ : Text) (level : Nat) (names : List Alias)
  | if_ (test : Expr) (body orelse : List Stmt)
  | while_ (test : Expr) (body orelse : List Stmt)
  | for_ (isAsync : Bool) (target source : Expr) (body orelse : List Stmt)
  | with_ (isAsync : Bool) (contexts : List Expr) (body : List Stmt)
  /-- A block with handlers, for groups of exceptions or for single ones. -/
  | try_ (groups : Bool) (body handlers orelse final : List Stmt)
  | handler (exceptions : Expr) (name : Option Text) (body : List Stmt)
  | match_ (subject : Expr) (cases : List Stmt)
  | case (pattern : Pattern) (condition : Expr) (body : List Stmt)
  | function (isAsync : Bool) (name : Text) (parameters : List Expr) (body : List Stmt)
      (decorators : List Expr) (hint : Expr)
  | class_ (name : Text) (bases : List Expr) (body : List Stmt) (decorators : List Expr)

instance : Inhabited Stmt := ⟨.pass⟩

/-- A module is its statements. -/
abbrev Module := List Stmt

end TypeSurvey.Source
