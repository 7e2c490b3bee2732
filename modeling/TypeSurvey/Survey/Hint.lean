import TypeSurvey.Outline.Site
import TypeSurvey.Text.Order

/-!
# The survey of hints

The survey reports, level by level, the type of the literal that is assigned to each name, and the
parameters and results of functions that have no hint. Lists and dictionaries show the sets of the
types inside them.
-/

namespace TypeSurvey.Survey

open Source

/-- The name of the type of a constant. -/
def constantType : Constant → Text
  | .none => "NoneType".toList
  | .bool _ => "bool".toList
  | .int _ => "int".toList
  | .float _ => "float".toList
  | .imaginary _ => "complex".toList
  | .str _ => "str".toList
  | .bytes _ => "bytes".toList
  | .ellipsis => "ellipsis".toList

/-- The type of an expression that is not looked into. -/
def unknownType : Text := "Unknown".toList

variable [Text.SetOrder]

mutual

/-- The type of an expression as its literals show it. -/
def literalType : Expr → Text
  | .constant value => constantType value
  | .list items => "List[".toList ++ Text.members (literalTypes items) ++ "]".toList
  | .dict keys values =>
    "Dict[".toList ++ Text.members (literalTypes keys) ++ " : ".toList ++
      Text.members (literalTypes values) ++ "]".toList
  | _ => unknownType

def literalTypes : List Expr → List Text
  | [] => []
  | first :: rest => literalType first :: literalTypes rest

end

/-- A line of the survey: what it is about, and the type or what is missing. -/
structure HintRow where
  /-- The variable, parameter or result. -/
  subject : Text
  /-- Its type, or that a hint is missing. -/
  hint : Text
deriving DecidableEq, Repr

/-- The lines about a place. -/
def hintRowsAt : Site → List HintRow
  | .assignment targets value => (targetNames targets).map fun name => ⟨name, literalType value⟩
  | .function name parameters hint _ =>
    let missing := (ordinaryParameters parameters).filter fun parameter => !parameter.2.isWritten
    (missing.map fun parameter =>
      ⟨name ++ " (arg: ".toList ++ parameter.1 ++ ")".toList, "Missing Type Hint".toList⟩) ++
    (if hint.isWritten then []
     else [⟨name ++ " (return)".toList, "Missing Return Type Hint".toList⟩])
  | .other => []

/-- The lines about a module, level by level. -/
def hintRows (module_ : Module) : List HintRow :=
  module_.outline.levelOrder.flatMap hintRowsAt

end TypeSurvey.Survey
