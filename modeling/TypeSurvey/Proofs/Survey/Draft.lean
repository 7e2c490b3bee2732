import TypeSurvey.Proofs.Text.Lines
import TypeSurvey.Survey.FinalReport

/-!
# Drafts of the final report

A row takes the number that its draft has for the next row, and the draft then has the one after it.
This is one step, and all parts of the report are made of such steps. So the rows of a draft are
numbered from one on, without a gap, whichever parts have added them. What a part adds does not
depend on the draft: parts that follow each other add their rows one after the other.
-/

namespace TypeSurvey.Survey

namespace Draft

variable {draft : Draft}

/-! ## Numbers -/

/-- Whether the rows of a draft are numbered from one on, and the next number follows theirs. -/
structure Numbered (draft : Draft) : Prop where
  next_eq : draft.next = draft.rows.length + 1
  number_eq : ∀ {index : Nat} {row : NumberedRow},
    draft.rows[index]? = some row → row.number = index + 1

theorem numbered_empty : Numbered {} where
  next_eq := rfl
  number_eq found := by cases found

/-- The next row takes the next number. -/
theorem Numbered.append (numbered : draft.Numbered) (row : FinalRow) :
    (draft.append row).Numbered where
  next_eq := by simp [Draft.append, numbered.next_eq]
  number_eq {index other} found := by
    rw [Draft.append, List.getElem?_append] at found
    split_ifs at found with before
    · exact numbered.number_eq found
    · obtain ⟨place, rfl⟩ : index - draft.rows.length = 0 ∧ ⟨row, draft.next⟩ = other := by
        simpa [List.getElem?_singleton] using found
      change draft.next = index + 1
      rw [numbered.next_eq]
      omega

theorem Numbered.extend (numbered : draft.Numbered) (rows : List FinalRow) :
    (draft.extend rows).Numbered := by
  induction rows generalizing draft with
  | nil => exact numbered
  | cons row rows induction => exact induction (numbered.append row)

/-! ## Rows -/

/-- What the rows of a draft say. -/
def contents (draft : Draft) : List FinalRow := draft.rows.map NumberedRow.toFinalRow

theorem contents_extend (draft : Draft) (rows : List FinalRow) :
    (draft.extend rows).contents = draft.contents ++ rows := by
  induction rows generalizing draft with
  | nil => exact (List.append_nil _).symm
  | cons row rows induction =>
    have first : (draft.append row).contents = draft.contents ++ [row] := by
      simp [contents, append]
    calc
      ((draft.append row).extend rows).contents = (draft.append row).contents ++ rows :=
        induction (draft.append row)
      _ = draft.contents ++ row :: rows := by rw [first, List.append_assoc]; rfl

theorem extend_append (draft : Draft) (front back : List FinalRow) :
    draft.extend (front ++ back) = (draft.extend front).extend back :=
  List.foldl_append

end Draft

/-! ## Parts of the report -/

/-- Whether a part of the report adds rows to every draft, or fails with every draft. -/
def Adds (add : Draft → Except FinalFault Draft)
    (rows : Except FinalFault (List FinalRow)) : Prop :=
  ∀ draft, add draft = rows.map draft.extend

/-- The rows that a part of the report adds to an empty draft. -/
def rowsAdded (add : Draft → Except FinalFault Draft) : Except FinalFault (List FinalRow) :=
  (add {}).map Draft.contents

/-- The rows of two parts that follow each other. -/
def rowsThen (rows more : Except FinalFault (List FinalRow)) : Except FinalFault (List FinalRow) :=
  do return (← rows) ++ (← more)

theorem rowsThen_eq_ok_iff {rows more : Except FinalFault (List FinalRow)} {all : List FinalRow} :
    rowsThen rows more = .ok all ↔
      ∃ front back, rows = .ok front ∧ more = .ok back ∧ all = front ++ back := by
  simp only [rowsThen, bind_eq_ok]
  constructor
  · rintro ⟨front, first, back, second, joined⟩
    exact ⟨front, back, first, second, (Except.ok.inj joined).symm⟩
  · rintro ⟨front, back, first, second, rfl⟩
    exact ⟨front, first, back, second, rfl⟩

theorem rowsThen_nil (rows : Except FinalFault (List FinalRow)) :
    rowsThen (.ok []) rows = rows := by
  cases rows <;> rfl

theorem rowsThen_assoc (first second third : Except FinalFault (List FinalRow)) :
    rowsThen (rowsThen first second) third = rowsThen first (rowsThen second third) := by
  cases first with
  | error fault => rfl
  | ok first =>
    cases second with
    | error fault => rfl
    | ok second =>
      cases third with
      | error fault => rfl
      | ok third => exact congrArg Except.ok (List.append_assoc first second third)

namespace Adds

variable {add next : Draft → Except FinalFault Draft}
  {rows more : Except FinalFault (List FinalRow)}

theorem rowsAdded_eq (adds : Adds add rows) : rowsAdded add = rows := by
  rw [rowsAdded, adds]
  cases rows with
  | error fault => rfl
  | ok rows => exact congrArg Except.ok (Draft.contents_extend {} rows)

theorem numbered (adds : Adds add rows) {draft after : Draft} (before : draft.Numbered)
    (done : add draft = .ok after) : after.Numbered := by
  rw [adds] at done
  cases rows with
  | error fault => nomatch done
  | ok rows => exact Except.ok.inj done ▸ before.extend rows

theorem nothing : Adds .ok (.ok []) := fun _ => rfl

theorem bind (adds : Adds add rows) (also : Adds next more) :
    Adds (fun draft => add draft >>= next) (rowsThen rows more) := by
  intro draft
  dsimp only
  rw [adds]
  cases rows with
  | error fault => rfl
  | ok rows =>
    change next (draft.extend rows) = _
    rw [also]
    cases more with
    | error fault => rfl
    | ok more => exact congrArg Except.ok (draft.extend_append rows more).symm

theorem afterReading {α : Type} {reading : Except FinalFault α}
    {add : α → Draft → Except FinalFault Draft} {rows : α → Except FinalFault (List FinalRow)}
    (adds : ∀ found, Adds (add found) (rows found)) :
    Adds (fun draft => reading >>= fun found => add found draft) (reading >>= rows) := by
  intro draft
  cases reading with
  | error fault => rfl
  | ok found => exact adds found draft

end Adds

/-! ## Lines -/

section Lines

variable {Known : Type}

/-- The rows of lines that are read one after the other. -/
def rowsOf (read : LineReader Known) (known : Known) :
    List Text → Except FinalFault (List FinalRow)
  | [] => .ok []
  | line :: rest => do
    let (known, rows) ← read known (Text.strip line)
    rowsThen (.ok rows) (rowsOf read known rest)

theorem rowsOf_cons {read : LineReader Known} {known after : Known} {line : Text}
    {rows : List FinalRow} (step : read known (Text.strip line) = .ok (after, rows))
    (rest : List Text) :
    rowsOf read known (line :: rest) = rowsThen (.ok rows) (rowsOf read after rest) := by
  rw [rowsOf, step]
  rfl

/-- Lines that give no row are only passed on what they name. -/
theorem rowsOf_cons_nil {read : LineReader Known} {known after : Known} {line : Text}
    (step : read known (Text.strip line) = .ok (after, [])) (rest : List Text) :
    rowsOf read known (line :: rest) = rowsOf read after rest := by
  rw [rowsOf_cons step, rowsThen_nil]

/-- Lines have their rows no matter what follows them, and what follows them is read with what they
have named. -/
theorem rowsOf_append {read : LineReader Known} {name : Known → Text → Known}
    (names : ∀ known after line rows, read known line = .ok (after, rows) →
      after = name known line) (known : Known) (front back : List Text) :
    rowsOf read known (front ++ back) = rowsThen (rowsOf read known front)
      (rowsOf read (front.foldl (fun known line => name known (Text.strip line)) known) back) := by
  induction front generalizing known with
  | nil => exact (rowsThen_nil _).symm
  | cons line front induction =>
    rw [List.cons_append, List.foldl_cons]
    cases step : read known (Text.strip line) with
    | error fault =>
      rw [rowsOf, rowsOf, step]
      rfl
    | ok result =>
      obtain ⟨after, rows⟩ := result
      rw [rowsOf_cons step, rowsOf_cons step, rowsThen_assoc, induction,
        ← names known after _ rows step]

/-- Blanks at the ends of lines and blank lines make no difference. -/
theorem rowsOf_solid {read : LineReader Known} (blank : ∀ known, read known [] = .ok (known, []))
    (known : Known) (lines : List Text) :
    rowsOf read known ((lines.map Text.strip).filter (!·.isEmpty)) = rowsOf read known lines := by
  induction lines generalizing known with
  | nil => rfl
  | cons line lines induction =>
    rw [List.map_cons]
    by_cases empty : Text.strip line = []
    · rw [List.filter_cons_of_neg (by simp [empty]), induction,
        rowsOf_cons_nil (by rw [empty, blank])]
    · rw [List.filter_cons_of_pos (by simpa using empty), rowsOf, rowsOf, Text.strip_strip]
      simp only [induction]

/-- Lines are read if and only if each of them can be. -/
theorem exists_rowsOf_iff {read : LineReader Known} {fits : Text → Prop}
    (step : ∀ known line, (∃ result, read known line = .ok result) ↔ fits line) (known : Known)
    (lines : List Text) :
    (∃ rows, rowsOf read known lines = .ok rows) ↔ ∀ line ∈ lines, fits (Text.strip line) := by
  induction lines generalizing known with
  | nil => simp [rowsOf]
  | cons line lines induction =>
    rw [List.forall_mem_cons, ← step known]
    constructor
    · rintro ⟨rows, done⟩
      obtain ⟨⟨after, first⟩, here, joined⟩ := bind_eq_ok.mp done
      obtain ⟨_, others, ⟨⟩, rest, -⟩ := rowsThen_eq_ok_iff.mp joined
      exact ⟨⟨_, here⟩, (induction after).mp ⟨others, rest⟩⟩
    · rintro ⟨⟨⟨after, first⟩, here⟩, later⟩
      obtain ⟨others, rest⟩ := (induction after).mpr later
      rw [rowsOf_cons here]
      exact ⟨_, rowsThen_eq_ok_iff.mpr ⟨_, _, rfl, rest, rfl⟩⟩

theorem adds_addLines (read : LineReader Known) (known : Known) (lines : List Text) :
    Adds (fun draft => draft.addLines read known lines) (rowsOf read known lines) := by
  induction lines generalizing known with
  | nil => exact .nothing
  | cons line lines induction =>
    intro draft
    dsimp only
    rw [Draft.addLines, rowsOf]
    cases read known (Text.strip line) with
    | error fault => rfl
    | ok step =>
      have first : Adds (fun draft => .ok (draft.extend step.2)) (.ok step.2) := fun _ => rfl
      exact first.bind (induction step.1) draft

/-- What each line preserves holds of the rows of all lines. -/
theorem forall_mem_rowsOf {read : LineReader Known} {invariant : Known → Prop}
    {fits : Text → Prop} {holds : FinalRow → Prop}
    (step : ∀ known after line rows, invariant known → fits line →
      read known line = .ok (after, rows) → invariant after ∧ ∀ row ∈ rows, holds row)
    {known : Known} {lines : List Text} {rows : List FinalRow}
    (done : rowsOf read known lines = .ok rows) (start : invariant known)
    (each : ∀ line ∈ lines, fits (Text.strip line)) : ∀ row ∈ rows, holds row := by
  induction lines generalizing known rows with
  | nil =>
    rw [← Except.ok.inj done]
    exact List.forall_mem_nil _
  | cons line lines induction =>
    obtain ⟨here, later⟩ := List.forall_mem_cons.mp each
    obtain ⟨⟨after, first⟩, read_eq, joined⟩ := bind_eq_ok.mp done
    obtain ⟨_, others, ⟨⟩, rest, rfl⟩ := rowsThen_eq_ok_iff.mp joined
    obtain ⟨next, front⟩ := step known after _ first start here read_eq
    exact List.forall_mem_append.mpr ⟨front, induction rest next later⟩

end Lines

/-! ## Sections -/

section Sections

variable {folder : Folder} {trace : TraceFile} {survey ending : Text}

/-- The rows of the section of a survey. -/
def surveySection (folder : Folder) (survey ending : Text) : Except FinalFault (List FinalRow) :=
  rowsAdded (Draft.addSurvey folder survey ending)

/-- The rows of the section of the variables. -/
def variableSection (folder : Folder) : Except FinalFault (List FinalRow) :=
  rowsAdded (Draft.addVariables folder)

/-- The rows of the section of the traced signatures. -/
def tracedSection (trace : TraceFile) : Except FinalFault (List FinalRow) :=
  rowsAdded (Draft.addTrace trace)

/-- The rows of the report on a module. -/
def surveyRows (folder : Folder) (survey ending base : Text) : Except FinalFault (List FinalRow) :=
  reportLines folder (base ++ ending) >>=
    rowsOf (readSurveyLine survey (moduleName (base ++ ending) ending)) ()

theorem adds_addSurvey :
    Adds (Draft.addSurvey folder survey ending)
      (rowsThen (surveyRows folder survey ending "cli".toList)
        (surveyRows folder survey ending "task_manager".toList)) := by
  have one (base : Text) : Adds (fun draft => do
      draft.addLines (readSurveyLine survey (moduleName (base ++ ending) ending)) ()
        (← reportLines folder (base ++ ending))) (surveyRows folder survey ending base) :=
    .afterReading fun lines => adds_addLines _ () lines
  intro draft
  rw [← (one "cli".toList).bind (one "task_manager".toList) draft, Draft.addSurvey]
  simp only [List.foldlM_cons, List.foldlM_nil, bind_pure]

theorem surveySection_eq :
    surveySection folder survey ending =
      rowsThen (surveyRows folder survey ending "cli".toList)
        (surveyRows folder survey ending "task_manager".toList) :=
  adds_addSurvey.rowsAdded_eq

theorem adds_addVariables :
    Adds (Draft.addVariables folder) (
      if folder.contains variableReportPath then
        reportLines folder variableReportPath >>= rowsOf readVariableLine {}
      else .ok []) := by
  unfold Draft.addVariables
  split_ifs
  · exact .afterReading fun lines => adds_addLines readVariableLine {} lines
  · exact .nothing

theorem variableSection_eq :
    variableSection folder =
      if folder.contains variableReportPath then
        reportLines folder variableReportPath >>= rowsOf readVariableLine {}
      else .ok [] :=
  adds_addVariables.rowsAdded_eq

/-- The rows of the trace, or the fault of its file. -/
def TraceFile.rows : TraceFile → Except FinalFault (List FinalRow)
  | absent => .ok []
  | closed cause => .error (.read (.path ⟨cause, tracePath⟩))
  | contents bytes =>
    match Text.decodeUtf8 bytes with
    | .error fault => .error (.read (.decoding fault))
    | .ok text => rowsOf readTracedLine [] (Text.lines (Text.normalizeNewlines text))

theorem adds_addTrace : Adds (Draft.addTrace trace) trace.rows := by
  cases trace with
  | absent => exact .nothing
  | closed cause => exact fun _ => rfl
  | contents bytes =>
    intro draft
    simp only [Draft.addTrace, TraceFile.rows]
    cases Text.decodeUtf8 bytes with
    | error fault => rfl
    | ok text => exact adds_addLines readTracedLine [] _ draft

theorem tracedSection_eq : tracedSection trace = trace.rows := adds_addTrace.rowsAdded_eq

/-! ## The whole report -/

/-- What the rows of the final report say. -/
def finalRows (folder : Folder) (trace : TraceFile) : Except FinalFault (List FinalRow) :=
  (finalDraft folder trace).map Draft.contents

theorem adds_finalDraft :
    Adds (fun draft => do
      let draft ← draft.addSurvey folder "AST".toList "_AST_report.txt".toList
      let draft ← draft.addSurvey folder "Conditional".toList
        "_conditional_runtime_annotation_report.txt".toList
      let draft ← draft.addVariables folder
      draft.addTrace trace)
      (rowsThen (surveySection folder "AST".toList "_AST_report.txt".toList)
        (rowsThen
          (surveySection folder "Conditional".toList
            "_conditional_runtime_annotation_report.txt".toList)
          (rowsThen (variableSection folder) (tracedSection trace)))) := by
  rw [surveySection_eq, surveySection_eq, variableSection_eq, tracedSection_eq]
  exact adds_addSurvey.bind (adds_addSurvey.bind (adds_addVariables.bind adds_addTrace))

/-- The final report has its sections one after the other. -/
theorem finalRows_eq_ok_iff {rows : List FinalRow} :
    finalRows folder trace = .ok rows ↔ ∃ hints running named traced,
      surveySection folder "AST".toList "_AST_report.txt".toList = .ok hints ∧
      surveySection folder "Conditional".toList
        "_conditional_runtime_annotation_report.txt".toList = .ok running ∧
      variableSection folder = .ok named ∧ tracedSection trace = .ok traced ∧
      rows = hints ++ running ++ named ++ traced := by
  have shape : finalRows folder trace = _ := adds_finalDraft.rowsAdded_eq
  simp only [shape, rowsThen_eq_ok_iff, List.append_assoc]
  constructor
  · rintro ⟨hints, _, hinted, ⟨running, _, ran, ⟨named, traced, found, followed, rfl⟩, rfl⟩, rfl⟩
    exact ⟨hints, running, named, traced, hinted, ran, found, followed, rfl⟩
  · rintro ⟨hints, running, named, traced, hinted, ran, found, followed, rfl⟩
    exact ⟨hints, _, hinted, ⟨running, _, ran, ⟨named, traced, found, followed, rfl⟩, rfl⟩, rfl⟩

theorem numbered_finalDraft {draft : Draft} (made : finalDraft folder trace = .ok draft) :
    draft.Numbered :=
  adds_finalDraft.numbered Draft.numbered_empty made

end Sections

end TypeSurvey.Survey
