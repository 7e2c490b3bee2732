import TypeSurvey.Outline.Tree
import TypeSurvey.Source.Stmt

/-!
# The outline of a module

The outline keeps of a module the tree of its statements, and of each statement what a survey
reports on: the assignments and the functions. Expressions hold no statements, so they need no place
in it. A handler of a `try` statement and a case of a `match` statement are places of their own.
-/

namespace TypeSurvey.Source

/-- A place in a module on which a survey may report. -/
inductive Site
  | assignment (targets : List Expr) (value : Expr)
  /-- A function that is not asynchronous: its name, its parameters, the hint of its result, and the
  value that it returns first. -/
  | function (name : Text) (parameters : List Expr) (hint : Expr) (returned : Option Expr)
  | other

/-- The value of the first statement of a body that returns a value. Statements inside other
statements are not looked at. -/
def returned? (body : List Stmt) : Option Expr :=
  body.findSome? fun statement => match statement with
    | .return_ value _ => if value.isWritten then some value else none
    | _ => none

/-- The names and hints of the parameters that can be given by position or by name. -/
def ordinaryParameters (parameters : List Expr) : List (Text × Expr) :=
  parameters.filterMap fun parameter => match parameter with
    | .parameter .ordinary name hint _ _ => some (name, hint)
    | _ => none

def targetNames (targets : List Expr) : List Text :=
  targets.filterMap fun target => match target with
    | .name id => some id
    | _ => none

namespace Stmt

mutual

def outline : Stmt → Tree Site
  | assign targets value => .node (.assignment targets value) []
  | function isAsync name parameters body _ hint =>
    .node (if isAsync then .other else .function name parameters hint (returned? body))
      (outlines body)
  | class_ _ _ body _ => .node .other (outlines body)
  | if_ _ body orelse => .node .other (outlines body ++ outlines orelse)
  | while_ _ body orelse => .node .other (outlines body ++ outlines orelse)
  | for_ _ _ _ body orelse => .node .other (outlines body ++ outlines orelse)
  | with_ _ _ body => .node .other (outlines body)
  | try_ _ body handlers orelse final =>
    .node .other (outlines body ++ outlines handlers ++ outlines orelse ++ outlines final)
  | handler _ _ body => .node .other (outlines body)
  | match_ _ cases => .node .other (outlines cases)
  | case _ _ body => .node .other (outlines body)
  | _ => .node .other []

def outlines : List Stmt → List (Tree Site)
  | [] => []
  | first :: rest => outline first :: outlines rest

end

end Stmt

def Module.outline (module_ : Module) : Tree Site := .node .other (Stmt.outlines module_)

end TypeSurvey.Source
