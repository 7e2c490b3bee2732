/-!
# Items under names

An association list keeps the order in which its names were first given an item.
-/

namespace TypeSurvey

/-- Puts an item under a name. A name that is there already keeps its place. -/
def putNamed {κ α : Type} [DecidableEq κ] (name : κ) (item : α) : List (κ × α) → List (κ × α)
  | [] => [(name, item)]
  | entry :: rest =>
    if entry.1 = name then (name, item) :: rest else entry :: putNamed name item rest

end TypeSurvey
