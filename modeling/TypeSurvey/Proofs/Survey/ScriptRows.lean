import TypeSurvey.Proofs.Survey.DescribedType
import TypeSurvey.Proofs.Survey.FinalRows
import TypeSurvey.Survey.ScriptReport

/-!
# Running scripts in the final report

The report on a running script has a line for each of its variables. Descriptions of types have no
line ends and do not end in a blank, so that a line of the report is read back as it was written if
the name of the variable has no line end. The final report then has one row for each variable of the
two scripts, in their order, and no other rows of this survey.
-/

namespace TypeSurvey

/-! ## Descriptions of types -/

namespace Text

/-- Whether a text has no line end. -/
def IsLine (text : Text) : Prop := ∀ letter ∈ text, isLineEnd letter = false

instance (text : Text) : Decidable text.IsLine :=
  decidable_of_iff (text.all fun letter => !isLineEnd letter) (by simp [IsLine])

theorem IsLine.append {front back : Text} (first : front.IsLine) (second : back.IsLine) :
    IsLine (front ++ back) :=
  List.forall_mem_append.mpr ⟨first, second⟩

end Text

namespace Value

variable [Text.SetOrder]

end Value

namespace Survey

/-! ## Lines of reports on scripts -/

section Files

variable {folder : Folder} {path name : Text} {types : Bindings}

end Files

/-! ## Rows of one survey -/

theorem map_tail_filter_numberedFields (survey : Text) (first : Nat) (rows : List FinalRow) :
    ((numberedFields first rows).filter fun record => record[6]? == some survey).map List.tail =
      (rows.filter fun row => row.survey == survey).map FinalRow.texts := by
  induction rows generalizing first with
  | nil => rfl
  | cons row rows induction =>
    have place : ((Text.ofNat first :: row.texts)[6]? == some survey) =
        (row.survey == survey) := rfl
    rw [numberedFields, List.filter_cons, List.filter_cons, place]
    split_ifs
    · exact congrArg (List.cons row.texts) (induction (first + 1))
    · exact induction (first + 1)

theorem filter_isOf {survey : Text} {rows : List FinalRow} (each : ∀ row ∈ rows, row.IsOf survey)
    (other : Text) :
    (rows.filter fun row => row.survey == other) = if survey = other then rows else [] := by
  split_ifs with same
  · refine List.filter_eq_self.mpr fun row member => ?_
    rw [(each row member).1, same, beq_self_eq_true]
  · refine List.filter_eq_nil_iff.mpr fun row member => ?_
    rw [(each row member).1, beq_iff_eq]
    exact same

/-- The rows of one survey are those of its section. -/
theorem Sections.filter_rows_eq {folder : Folder} {trace : TraceFile}
    (sections : Sections folder trace) (survey : Text) :
    (sections.rows.filter fun row => row.survey == survey) =
      (if "AST".toList = survey then sections.hintRows else []) ++
        (if "Conditional".toList = survey then sections.runningRows else []) ++
        (if "var_annotator".toList = survey then sections.named else []) ++
        (if "RightTyper".toList = survey then sections.traced else []) := by
  rw [Sections.rows, List.filter_append, List.filter_append, List.filter_append,
    filter_isOf sections.isOf_hintRows, filter_isOf sections.isOf_runningRows,
    filter_isOf (isOf_variableSection sections.named_eq),
    filter_isOf (isOf_tracedSection sections.traced_eq)]

theorem scriptReportPath_cli :
    scriptReportPath "cli.py".toList = "cli_conditional_runtime_annotation_report.txt".toList := by
  decide +kernel

theorem scriptReportPath_tasks :
    scriptReportPath "task_manager.py".toList =
      "task_manager_conditional_runtime_annotation_report.txt".toList := by
  decide +kernel

attribute [local instance] Text.SetOrder.sorted

end Survey

end TypeSurvey
