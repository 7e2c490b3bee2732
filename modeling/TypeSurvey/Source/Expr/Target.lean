import TypeSurvey.Source.Expr

/-!
# Targets

The expressions to which a value can be assigned: names, members, items, and tuples and lists of
targets.
-/

namespace TypeSurvey.Source.Expr

/-- The uses of targets. -/
inductive TargetUse
  | assign
  /-- The target is deleted; no target may be starred. -/
  | delete
deriving DecidableEq

mutual

/-- The part of an expression that prevents its use as a target, if there is one. -/
def invalidTarget? (use : TargetUse) : Expr → Option Expr
  | name _ | member _ _ | subscript _ _ => none
  | list items => invalidAmong? use items
  | tuple items => invalidAmong? use items
  | starred value => if use = .delete then some (.starred value) else invalidTarget? use value
  | other => some other

/-- The first part of expressions that prevents their use as targets. -/
def invalidAmong? (use : TargetUse) : List Expr → Option Expr
  | [] => none
  | first :: rest =>
    match invalidTarget? use first with
    | some part => some part
    | none => invalidAmong? use rest

end

/-- Whether an expression is one place: a name, a member or an item. -/
def isSingleTarget : Expr → Bool
  | name _ | member _ _ | subscript _ _ => true
  | _ => false

/-- What an expression is called in messages. -/
def kindName : Expr → String
  | member _ _ => "attribute"
  | subscript _ _ => "subscript"
  | starred _ => "starred"
  | name _ => "name"
  | list _ => "list"
  | tuple _ => "tuple"
  | lambda _ _ => "lambda"
  | call _ _ => "function call"
  | junction _ _ | binary _ _ _ | unary _ _ => "expression"
  | generator _ _ => "generator expression"
  | yield _ | yieldFrom _ => "yield expression"
  | await _ => "await expression"
  | listComp _ _ => "list comprehension"
  | setComp _ _ => "set comprehension"
  | dictComp _ _ _ => "dict comprehension"
  | dict _ _ => "dict literal"
  | set _ => "set display"
  | formatted _ | placeholder _ _ _ => "f-string expression"
  | constant .none => "None"
  | constant (.bool true) => "True"
  | constant (.bool false) => "False"
  | constant .ellipsis => "ellipsis"
  | compare _ _ _ => "comparison"
  | conditional _ _ _ => "conditional expression"
  | named _ _ => "named expression"
  | _ => "literal"

/-- Whether an expression before an equals sign is taken for one side of a comparison in
messages. -/
def looksCompared : Expr → Bool
  | list _ | tuple _ | generator _ _ | constant .none | constant (.bool _) => false
  | compare _ _ _ | junction _ _ | unary .negate _ | conditional _ _ _ | lambda _ _ | starred _
  | yield _ | yieldFrom _ | named _ _ => false
  | _ => true

end TypeSurvey.Source.Expr
