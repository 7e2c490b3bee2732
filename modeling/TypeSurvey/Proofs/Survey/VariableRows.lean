import TypeSurvey.Proofs.Survey.FinalFailure

/-!
# Rows of the report on variables

The report on variables names modules and functions in lines of their own, and the variables in the
lines below them. A row of the final report has the module and the function that were named last
before its line. A line that names a module leaves the function as it is, so a variable is taken for
one of a function of another module if its own module has named no function yet.
-/

namespace TypeSurvey.Survey

/-! ## Lines -/

/-- What a line of the report on variables says. -/
inductive VariableLine
  /-- The module of the variables below. -/
  | source (name : Text)
  /-- The function of the variables below. -/
  | function (name : Text)
  | typed (name type : Text)
  | other
deriving DecidableEq

namespace VariableLine

/-- The ending of a line that names a module. -/
def sourceEnd : Text := ".py:".toList

/-- The beginning of a line that names a function. -/
def functionMark : Text := "Function:".toList

/-- Whether a line says something. A path before a colon names a module by its last part. The name
of a function stands behind the mark, and before the next mark if there is one. The first colon of
any other line stands between the name of a variable and its type. -/
def SaidBy (line : Text) : VariableLine → Prop
  | source name => ∃ path, line = path ++ sourceEnd ∧ name = pathName (path ++ ".py".toList)
  | function name => ¬ sourceEnd <:+ line ∧
      ∃ given behind, line = functionMark ++ given ++ behind ∧ ¬ functionMark <:+: given ∧
        (behind = [] ∨ functionMark <+: behind) ∧ name = Text.strip given
  | typed name type => ¬ sourceEnd <:+ line ∧ ¬ functionMark <+: line ∧
      ∃ before after, line = before ++ ':' :: after ∧ ':' ∉ before ∧
        name = Text.strip before ∧ type = Text.strip after
  | other => ¬ sourceEnd <:+ line ∧ ¬ functionMark <+: line ∧ ':' ∉ line

def ofLine (line : Text) : VariableLine :=
  match moduleLine? line with
  | some name => source name
  | none =>
    match functionLine? line with
    | some name => function name
    | none =>
      match atColon? line with
      | some (name, type) => typed name type
      | none => other

theorem functionMark_ne_nil : functionMark ≠ [] := by
  apply List.ne_nil_of_length_pos
  decide

theorem split_functionMark (behind : Text) :
    Text.split functionMark (functionMark ++ behind) =
      [] :: Text.split functionMark behind := by
  have first : Text.EndsFirst functionMark [] := by
    intro found
    have length := found.length_le
    revert length
    decide
  exact Text.split_endsFirst functionMark_ne_nil first behind

theorem functionLine?_functionMark (text : Text) :
    functionLine? (functionMark ++ text) =
      (Text.split functionMark text)[0]?.map Text.strip := by
  have marked : functionMark.isPrefixOf (functionMark ++ text) = true :=
    List.isPrefixOf_iff_prefix.mpr (List.prefix_append _ _)
  calc
    functionLine? (functionMark ++ text) =
        if functionMark.isPrefixOf (functionMark ++ text) then
          (Text.split functionMark (functionMark ++ text))[1]?.map Text.strip
        else none := rfl
    _ = (Text.split functionMark text)[0]?.map Text.strip := by
      rw [if_pos marked, split_functionMark]
      rfl

/-- The name of a function reaches up to the next mark. -/
theorem exists_functionLine? (text : Text) :
    ∃ given behind, text = given ++ behind ∧ ¬ functionMark <:+: given ∧
      (behind = [] ∨ functionMark <+: behind) ∧
      functionLine? (functionMark ++ text) = some (Text.strip given) := by
  rw [functionLine?_functionMark]
  by_cases again : functionMark <:+: text
  · obtain ⟨given, behind, rfl, first⟩ := Text.exists_endsFirst again functionMark_ne_nil
    refine ⟨given, functionMark ++ behind, List.append_assoc _ _ _, ?_,
      .inr (List.prefix_append _ _), ?_⟩
    · intro found
      exact first (found.trans (List.prefix_append _ _).isInfix)
    · rw [Text.split_endsFirst functionMark_ne_nil first]
      rfl
  · refine ⟨text, [], (List.append_nil text).symm, again, .inl rfl, ?_⟩
    rw [Text.split_of_absent again]
    rfl

theorem functionLine?_eq_none {line : Text} (unmarked : ¬ functionMark <+: line) :
    functionLine? line = none := by
  rw [← List.isPrefixOf_iff_prefix] at unmarked
  exact if_neg unmarked

theorem saidBy_ofLine (line : Text) : SaidBy line (ofLine line) := by
  unfold ofLine
  by_cases named : sourceEnd <:+ line
  · obtain ⟨path, rfl⟩ := named
    have ends : Text.endsWith ".py:".toList (path ++ sourceEnd) = true :=
      List.isSuffixOf_iff_suffix.mpr (List.suffix_append _ _)
    have shorter : (path ++ sourceEnd).dropLast = path ++ ".py".toList := by
      rw [show sourceEnd = ".py".toList ++ [':'] from rfl, ← List.append_assoc,
        List.dropLast_concat]
    rw [moduleLine?, if_pos ends, shorter]
    exact ⟨path, rfl, rfl⟩
  · rw [moduleLine?_eq_none_iff.mpr named]
    by_cases marked : functionMark <+: line
    · obtain ⟨text, rfl⟩ := marked
      obtain ⟨given, behind, rfl, free, next, found⟩ := exists_functionLine? text
      rw [found]
      exact ⟨named, given, behind, (List.append_assoc _ _ _).symm, free, next, rfl⟩
    · rw [functionLine?_eq_none marked]
      by_cases colon : ':' ∈ line
      · obtain ⟨before, after, rfl, free⟩ := List.eq_append_cons_of_mem colon
        rw [atColon?_append free]
        exact ⟨named, marked, before, after, rfl, free, rfl, rfl⟩
      · rw [atColon?_of_notMem colon]
        exact ⟨named, marked, colon⟩

/-! ## What was named last -/

/-- The module that a line names. -/
def source? : VariableLine → Option Text
  | source name => some name
  | _ => none

/-- The function that a line names. -/
def function? : VariableLine → Option Text
  | function name => some name
  | _ => none

end VariableLine

open VariableLine

/-- The last of the names that lines give, or an empty one. -/
def lastNamed (named? : VariableLine → Option Text) (lines : List VariableLine) : Text :=
  (lines.reverse.findSome? named?).getD []

theorem lastNamed_concat (named? : VariableLine → Option Text) (lines : List VariableLine)
    (line : VariableLine) :
    lastNamed named? (lines ++ [line]) = (named? line).getD (lastNamed named? lines) := by
  rw [lastNamed, List.reverse_append, List.reverse_singleton, List.singleton_append,
    List.findSome?_cons]
  cases named? line <;> rfl

/-- The lines behind the last one that names a module. -/
def inLastSource (lines : List VariableLine) : List VariableLine :=
  lines.rtakeWhile fun line => line.source?.isNone

/-! ## Rows -/

/-- The row of a line below others. The function is found in the lines before by a rule. -/
def VariableLine.row? (functionOf : List VariableLine → Text) (before : List VariableLine) :
    VariableLine → Option FinalRow
  | typed name type => some
      { source := lastNamed source? before, subject := functionOf before,
        survey := "var_annotator".toList, variableName := name, variableType := type }
  | _ => none

/-- The rows of lines below others, in order. -/
def rowsBelow (functionOf : List VariableLine → Text) (before : List VariableLine) :
    List VariableLine → List FinalRow
  | [] => []
  | line :: rest =>
    (line.row? functionOf before).toList ++ rowsBelow functionOf (before ++ [line]) rest

/-- The rows with the function that was named last in any module. -/
def rowsInOrder : List VariableLine → List FinalRow := rowsBelow (lastNamed function?) []

/-- The rows with the function that was named last in the own module. -/
def rowsInContext : List VariableLine → List FinalRow :=
  rowsBelow (fun before => lastNamed function? (inLastSource before)) []

/-- Two rules for the function give the same rows if they agree above every variable. -/
theorem rowsBelow_eq_iff {rule rule' : List VariableLine → Text}
    {before lines : List VariableLine} :
    rowsBelow rule before lines = rowsBelow rule' before lines ↔
      ∀ front name type back, lines = front ++ .typed name type :: back →
        rule (before ++ front) = rule' (before ++ front) := by
  induction lines generalizing before with
  | nil => simp [rowsBelow]
  | cons line lines induction =>
    have here : rowsBelow rule before (line :: lines) = rowsBelow rule' before (line :: lines) ↔
        line.row? rule before = line.row? rule' before ∧
          rowsBelow rule (before ++ [line]) lines = rowsBelow rule' (before ++ [line]) lines := by
      rw [rowsBelow, rowsBelow]
      cases line <;> simp [VariableLine.row?]
    have first : line.row? rule before = line.row? rule' before ↔
        ∀ name type, line = .typed name type → rule before = rule' before := by
      cases line <;> simp [VariableLine.row?]
    rw [here, first, induction]
    constructor
    · rintro ⟨now, later⟩ front name type back shape
      cases front with
      | nil =>
        rw [List.append_nil]
        exact now name type (List.cons.inj shape).1
      | cons above front =>
        obtain ⟨rfl, below⟩ := List.cons.inj shape
        simpa using later front name type back below
    · intro each
      constructor
      · rintro name type rfl
        simpa using each [] name type lines rfl
      · rintro front name type back rfl
        simpa using each (line :: front) name type back rfl

/-- Whether a line is neither empty nor a note. -/
def isNoted (line : Text) : Bool := line.head? != some '#' && !line.isEmpty

/-- The lines of a report that are neither blank nor notes. -/
def notedLines (text : Text) : List Text :=
  (Text.solidLines text).filter fun line => line.head? != some '#'

theorem notedLines_eq (text : Text) :
    notedLines text =
      ((Text.lines (Text.normalizeNewlines text)).map Text.strip).filter isNoted := by
  rw [notedLines, ← Text.solid_lines_normalizeNewlines, List.filter_filter]
  rfl

/-- Rows have the module and the function that were named last. -/
theorem rowsOf_readVariableLine (before : List VariableLine) (lines : List Text) :
    rowsOf readVariableLine ⟨lastNamed source? before, lastNamed function? before⟩ lines =
      .ok (rowsBelow (lastNamed function?) before
        (((lines.map Text.strip).filter isNoted).map ofLine)) := by
  induction lines generalizing before with
  | nil => rfl
  | cons line lines induction =>
    have passed : ((Text.strip line).isEmpty || (Text.strip line).head? == some '#') =
        !isNoted (Text.strip line) := by
      simp [isNoted, Bool.or_comm, bne]
    rw [List.map_cons]
    cases noted : isNoted (Text.strip line) with
    | false =>
      rw [List.filter_cons_of_neg (by simp [noted]), ← induction before]
      refine rowsOf_cons_nil ?_ lines
      rw [readVariableLine, passed, noted]
      rfl
    | true =>
      -- What a line names is what stands above the next line.
      have step : readVariableLine ⟨lastNamed source? before, lastNamed function? before⟩
          (Text.strip line) =
            .ok (⟨lastNamed source? (before ++ [ofLine (Text.strip line)]),
                lastNamed function? (before ++ [ofLine (Text.strip line)])⟩,
              ((ofLine (Text.strip line)).row? (lastNamed function?) before).toList) := by
        rw [readVariableLine, passed, noted, lastNamed_concat, lastNamed_concat, ofLine]
        cases moduleLine? (Text.strip line) with
        | some name => rfl
        | none =>
          cases functionLine? (Text.strip line) with
          | some name => rfl
          | none => cases atColon? (Text.strip line) <;> rfl
      rw [List.filter_cons_of_pos noted, List.map_cons, rowsBelow, rowsOf_cons step, induction]
      rfl

theorem eq_rowsInOrder_of_variableSection {folder : Folder} {text : Text}
    (holds : folder.HoldsText variableReportPath text) {rows : List FinalRow}
    (made : variableSection folder = .ok rows) :
    rows = rowsInOrder ((notedLines text).map ofLine) := by
  have there : folder.contains variableReportPath = true := holds.contains
  rw [variableSection_eq, if_pos there] at made
  obtain ⟨lines, read, shape⟩ := bind_eq_ok.mp made
  obtain ⟨other, again, rfl⟩ := reportLines_eq_ok_iff.mp read
  rw [← holds.text_eq again] at shape
  rw [notedLines_eq]
  exact Except.ok.inj (shape.symm.trans (rowsOf_readVariableLine [] _))

/-! ## Functions of other modules -/

/-- Whether the function that was named last is one of another module than the one that was named
last. -/
def Strays (before : List VariableLine) : Prop :=
  (∀ line ∈ inLastSource before, line.function? = none) ∧ lastNamed function? before ≠ []

theorem lastNamed_eq_iff_not_strays (before : List VariableLine) :
    lastNamed function? before = lastNamed function? (inLastSource before) ↔ ¬ Strays before := by
  have parts : before.reverse = (inLastSource before).reverse ++
      (before.rdropWhile fun line => line.source?.isNone).reverse := by
    rw [← List.reverse_append, inLastSource, List.rdropWhile_append_rtakeWhile]
  cases found : (inLastSource before).reverse.findSome? function? with
  | none =>
    have unnamed : ∀ line ∈ inLastSource before, line.function? = none := by
      simpa [List.findSome?_eq_none_iff] using found
    have empty : lastNamed function? (inLastSource before) = [] := by
      rw [lastNamed, found]
      rfl
    rw [empty, Strays, and_iff_right unnamed, not_not]
  | some name =>
    have same : lastNamed function? before = lastNamed function? (inLastSource before) := by
      rw [lastNamed, lastNamed, parts, List.findSome?_append, found]
      rfl
    have named : ¬ Strays before := by
      rintro ⟨unnamed, -⟩
      obtain ⟨line, member, name_eq⟩ := List.exists_of_findSome?_eq_some found
      rw [unnamed line (List.mem_reverse.mp member)] at name_eq
      cases name_eq
    exact iff_of_true same named

/-! ## The final report -/

/-- The final report has one row for each line of the report on variables that gives a variable and
its type, in the order of the lines. The module and the function of a row are those that were named
last before. So they are the names of the variable's own place if and only if no function of another
module is the last one named above a variable. -/
theorem variable_rows_in_order {folder : Folder} {trace : TraceFile} {text : Text}
    (writable : folder.Writable finalReportPath)
    (holds : folder.HoldsText variableReportPath text) (readable : ¬ Unreported folder trace) :
    ∃ after output front back lines,
      reportFinal folder trace = .ok (after, output) ∧
      List.Forall₂ SaidBy (notedLines text) lines ∧
      after.readRecords finalReportPath =
        .ok (finalColumns :: numberedFields 1 (front ++ rowsInOrder lines ++ back)) ∧
      (∀ row ∈ front ++ back, row.survey ≠ "var_annotator".toList) ∧
      (rowsInOrder lines = rowsInContext lines ↔
        ∀ before name type behind, lines = before ++ .typed name type :: behind →
          ¬ Strays before) := by
  obtain ⟨⟨after, output⟩, reported⟩ := (exists_reportFinal_iff writable trace).mpr readable
  obtain ⟨sections, read⟩ := readRecords_of_reportFinal reported
  have said : List.Forall₂ SaidBy (notedLines text) ((notedLines text).map ofLine) := by
    rw [List.forall₂_map_right_iff, List.forall₂_same]
    exact fun line _ => saidBy_ofLine line
  refine ⟨after, output, sections.hintRows ++ sections.runningRows, sections.traced, _, reported,
    said, ?_, ?_, ?_⟩
  · rw [read, Sections.rows, eq_rowsInOrder_of_variableSection holds sections.named_eq]
  · intro row member
    rw [List.append_assoc, List.mem_append, List.mem_append] at member
    rcases member with hint | running | traced
    · rw [(sections.isOf_hintRows row hint).1]
      decide
    · rw [(sections.isOf_runningRows row running).1]
      decide
    · rw [(isOf_tracedSection sections.traced_eq row traced).1]
      decide
  · rw [rowsInOrder, rowsInContext, rowsBelow_eq_iff]
    simp only [List.nil_append, lastNamed_eq_iff_not_strays]

/-- A folder with empty reports and a report on variables. -/
def variableFolder (text : Text) : Folder :=
  ⟨(variableReportPath, Text.encodeUtf8 text) :: reportPaths.map (fun path => (path, [])) |>.map
    fun (path, bytes) => ([path], bytes)⟩

/-- A report with notes, a variable above all names, and a module that names no function. -/
def strayText : Text :=
  ("z: int\r\n# Notes:\nsrc/a.py:\nFunction: f Function: g\n x : Dict[str: int]\n\n" ++
    "b.py:\ny: str\n").toList

theorem variable_rows_in_order_strayText :
    (variableFolder strayText).HoldsText variableReportPath strayText ∧
    ∃ after output front back lines,
      reportFinal (variableFolder strayText) .absent = .ok (after, output) ∧
      List.Forall₂ SaidBy (notedLines strayText) lines ∧
      after.readRecords finalReportPath =
        .ok (finalColumns :: numberedFields 1 (front ++ rowsInOrder lines ++ back)) ∧
      (∀ row ∈ front ++ back, row.survey ≠ "var_annotator".toList) ∧
      (rowsInOrder lines = rowsInContext lines ↔
        ∀ before name type behind, lines = before ++ .typed name type :: behind →
          ¬ Strays before) := by
  have facts : ((variableFolder strayText).locate finalReportPath = .ok [finalReportPath] ∧
      (variableFolder strayText).isDirectory [finalReportPath] = false ∧
      (variableFolder strayText).isDirectory [finalReportPath].dropLast = true) ∧
      ((variableFolder strayText).read variableReportPath).toOption =
        some (Text.encodeUtf8 strayText) ∧
      (finalRows (variableFolder strayText) .absent).isOk = true := by
    decide +kernel
  obtain ⟨writable, read, made⟩ := facts
  have holds : (variableFolder strayText).HoldsText variableReportPath strayText :=
    eq_ok_of_toOption read
  have readable : ¬ Unreported (variableFolder strayText) .absent :=
    (exists_finalRows_iff _ _).mp (exists_of_isOk made)
  exact ⟨holds, variable_rows_in_order ⟨_, writable⟩ holds readable⟩

/-- A report with two modules, of which the second one names no function. -/
def carriedText : Text := "a.py:\nFunction: f\nx: int\nb.py:\ny: str\n".toList

/-- A variable of one module is shown with a function of another one, although no function is named
in its own module. -/
theorem function_carried_over :
    (do
      let made ← (reportFinal (variableFolder carriedText) .absent).toOption
      (made.1.readRecords finalReportPath).toOption) =
    some [finalColumns,
      ["1", "a.py", "f", "", "", "", "var_annotator", "x", "int"].map String.toList,
      ["2", "b.py", "f", "", "", "", "var_annotator", "y", "str"].map String.toList] ∧
    (rowsInContext ((notedLines carriedText).map ofLine)).map FinalRow.subject = [['f'], []] := by
  decide +kernel

end TypeSurvey.Survey
