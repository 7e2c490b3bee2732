import TypeSurvey.Source.Module
import TypeSurvey.Survey.Hint
import TypeSurvey.Text.Named

/-!
# The survey of bindings

The survey walks through the statements of modules in the order in which they are written, and keeps
for each variable the type of its last binding, and for each function the type of its result. Names
stand in the order in which they were first bound. However deep statements nest, the walk reaches
them: no limit is set to it.
-/

namespace TypeSurvey.Survey

open Source

/-- Names and types, in the order in which the names were first bound. -/
abbrev Bindings := List (Text × Text)

/-- The functions whose result has a known type. -/
def knownResults : List (String × String) :=
  [("input", "str"), ("int", "int"), ("float", "float"), ("list", "list"), ("dict", "dict"),
   ("tuple", "tuple"), ("set", "set"), ("generate_table", "list"), ("list_tasks", "list"),
   ("load_tasks", "list")]

/-- The type of the result of a call that is bound to a variable. The variable for the tasks always
holds a list. -/
def resultType (function variable_ : Text) : Text :=
  if variable_ = "tasks".toList then "list".toList
  else
    match knownResults.find? fun entry => entry.1.toList = function with
    | some entry => entry.2.toList
    | none => "function_call".toList

/-- The type of an expression that is bound to a variable. -/
def bindingType (value : Expr) (variable_ : Text) : Text :=
  match value with
  | .constant value => constantType value
  | .list _ | .listComp _ _ => "list".toList
  | .dict _ _ | .dictComp _ _ _ => "dict".toList
  | .tuple _ => "tuple".toList
  | .set _ => "set".toList
  | .call (.name function) _ => resultType function variable_
  | .call _ _ => "function_call".toList
  | _ => unknownType

/-- What the survey has found. -/
structure BindingSurvey where
  /-- The variables and their types. -/
  names : Bindings
  /-- The functions and the types of their results. -/
  results : Bindings
deriving DecidableEq, Repr

namespace BindingSurvey

/-- Nothing has been found. -/
def empty : BindingSurvey := ⟨[], []⟩

/-- Adds what a place shows. -/
def visit (survey : BindingSurvey) : Site → BindingSurvey
  | .assignment targets value =>
    { survey with
      names := (targetNames targets).foldl
        (fun found name => putNamed name (bindingType value name) found) survey.names }
  | .function name parameters _ returned =>
    let result := match returned with
      | some value => bindingType value []
      | none => "None".toList
    { names := (ordinaryParameters parameters).foldl
        (fun found parameter => putNamed parameter.1 "function_param".toList found) survey.names
      results := putNamed name result survey.results }
  | .other => survey

/-- Adds what a module shows. -/
def visitModule (survey : BindingSurvey) (module_ : Module) : BindingSurvey :=
  module_.outline.preorder.foldl visit survey

/-- Adds what a source shows. A source that is no module is refused and adds nothing. -/
def visitSource (survey : BindingSurvey) (source : Text) : BindingSurvey × Option Source.Fault :=
  match parseModule source with
  | .ok module_ => (survey.visitModule module_, none)
  | .error fault => (survey, some fault)

/-- Adds what sources show, one after the other. -/
def visitSources (survey : BindingSurvey) (sources : List Text) : BindingSurvey :=
  sources.foldl (fun survey source => (survey.visitSource source).1) survey

end BindingSurvey

/-- The names of a module and their types. -/
def bindings (module_ : Module) : Bindings := (BindingSurvey.empty.visitModule module_).names

end TypeSurvey.Survey
