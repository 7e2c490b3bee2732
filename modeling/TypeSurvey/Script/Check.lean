import TypeSurvey.Source.Fault
import TypeSurvey.Source.Stmt

/-!
# Checks before a script runs

A module may follow the grammar and still be refused as a script: two parameters of a function have
one name, or a statement stands where its loop or function is missing. Parameters are checked first.
-/

namespace TypeSurvey.Script

open Source

/-- The first parameter whose name an earlier one has. -/
def repeatedParameter? : List Text → List Expr → Option Fault
  | _, [] => none
  | seen, .parameter _ name _ _ line :: rest =>
    if seen.contains name then some ⟨.duplicateParameter name, line⟩
    else repeatedParameter? (name :: seen) rest
  | seen, _ :: rest => repeatedParameter? seen rest

mutual

/-- The first repeated parameter in a statement. -/
def parameterFault? : Stmt → Option Fault
  | .expression (.lambda parameters _) => repeatedParameter? [] parameters
  | .assign _ (.lambda parameters _) => repeatedParameter? [] parameters
  | .function _ _ parameters body _ _ =>
    (repeatedParameter? [] parameters).or (parameterFaultAmong? body)
  | .class_ _ _ body _ => parameterFaultAmong? body
  | .if_ _ body orelse => (parameterFaultAmong? body).or (parameterFaultAmong? orelse)
  | .while_ _ body orelse => (parameterFaultAmong? body).or (parameterFaultAmong? orelse)
  | .for_ _ _ _ body orelse => (parameterFaultAmong? body).or (parameterFaultAmong? orelse)
  | .with_ _ _ body => parameterFaultAmong? body
  | .try_ _ body handlers orelse final =>
    (parameterFaultAmong? body).or ((parameterFaultAmong? handlers).or
      ((parameterFaultAmong? orelse).or (parameterFaultAmong? final)))
  | .handler _ _ body => parameterFaultAmong? body
  | .match_ _ cases => parameterFaultAmong? cases
  | .case _ _ body => parameterFaultAmong? body
  | _ => none

/-- The first repeated parameter in statements. -/
def parameterFaultAmong? : List Stmt → Option Fault
  | [] => none
  | first :: rest => (parameterFault? first).or (parameterFaultAmong? rest)

end

mutual

/-- The first statement that stands outside its function or loop. -/
def placeFault? (inFunction inLoop : Bool) : Stmt → Option Fault
  | .return_ _ line => if inFunction then none else some ⟨.returnOutside, line⟩
  | .break_ line => if inLoop then none else some ⟨.breakOutside, line⟩
  | .continue_ line => if inLoop then none else some ⟨.continueOutside, line⟩
  | .function _ _ _ body _ _ => placeFaultAmong? true false body
  | .class_ _ _ body _ => placeFaultAmong? false false body
  | .if_ _ body orelse =>
    (placeFaultAmong? inFunction inLoop body).or (placeFaultAmong? inFunction inLoop orelse)
  | .while_ _ body orelse =>
    (placeFaultAmong? inFunction true body).or (placeFaultAmong? inFunction inLoop orelse)
  | .for_ _ _ _ body orelse =>
    (placeFaultAmong? inFunction true body).or (placeFaultAmong? inFunction inLoop orelse)
  | .with_ _ _ body => placeFaultAmong? inFunction inLoop body
  | .try_ _ body handlers orelse final =>
    (placeFaultAmong? inFunction inLoop body).or ((placeFaultAmong? inFunction inLoop handlers).or
      ((placeFaultAmong? inFunction inLoop orelse).or (placeFaultAmong? inFunction inLoop final)))
  | .handler _ _ body => placeFaultAmong? inFunction inLoop body
  | .match_ _ cases => placeFaultAmong? inFunction inLoop cases
  | .case _ _ body => placeFaultAmong? inFunction inLoop body
  | _ => none

/-- The first statement among statements that stands outside its function or loop. -/
def placeFaultAmong? (inFunction inLoop : Bool) : List Stmt → Option Fault
  | [] => none
  | first :: rest =>
    (placeFault? inFunction inLoop first).or (placeFaultAmong? inFunction inLoop rest)

end

/-- The fault for which a module is refused as a script. -/
def scriptFault? (module_ : Module) : Option Fault :=
  (parameterFaultAmong? module_).or (placeFaultAmong? false false module_)

end TypeSurvey.Script
