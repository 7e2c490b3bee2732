import TypeSurvey.Program.Basic
import TypeSurvey.Proofs.Files.Change

/-!
# Files that surveys keep

The survey of hints and the survey of running scripts write one report for a path at most, at a path
that they make from it. So a run changes no file but those at the places of reports. Where all paths
end in `.py`, no report goes to the place of such a path; a path without this ending is the path of
its own report.
-/

namespace TypeSurvey.Survey

open Folder

/-! ## One report after the other -/

section Each

variable {σ : Type}

/-- Reports on files one after the other, up to one that stops the run. -/
def reportEach (report : Folder → Text → Folder × Text × Option σ) (folder : Folder) :
    List Text → Folder × Text × Option σ
  | [] => (folder, [], none)
  | path :: rest =>
    match report folder path with
    | (folder, output, some stop) => (folder, output, some stop)
    | (folder, output, none) =>
      let (folder, more, stop) := reportEach report folder rest
      (folder, output ++ more, stop)

theorem reportAllHints_eq [Text.SetOrder] (folder : Folder) (paths : List Text) :
    reportAllHints folder paths = reportEach reportHints folder paths := by
  induction paths generalizing folder with
  | nil => rfl
  | cons path paths induction =>
    simp only [reportAllHints, reportEach, induction]
    rcases reportHints folder path with ⟨after, output, _ | fault⟩ <;> rfl

theorem reportScripts_eq [Text.SetOrder] (folder : Folder) (paths : List Text) :
    reportScripts folder paths = reportEach reportScript folder paths := by
  induction paths generalizing folder with
  | nil => rfl
  | cons path paths induction =>
    simp only [reportScripts, reportEach, induction]
    rcases reportScript folder path with ⟨after, output, _ | stop⟩ <;> rfl

/-- The places of the reports on files at paths. -/
def reportPlaces (target : Text → Text) (folder : Folder) (paths : List Text) (place : Path) :
    Prop :=
  ∃ path ∈ paths, folder.locate (target path) = .ok place

/-- If each report changes the file at its place only, a run changes files at the places of reports
only. -/
theorem changedOnlyAt_reportEach {report : Folder → Text → Folder × Text × Option σ}
    {target : Text → Text}
    (step : ∀ folder path, ChangedOnlyAt (fun place => folder.locate (target path) = .ok place)
      folder (report folder path).1) (folder : Folder) (paths : List Text) :
    ChangedOnlyAt (reportPlaces target folder paths) folder
      (reportEach report folder paths).1 := by
  induction paths generalizing folder with
  | nil => exact .refl _ folder
  | cons path paths induction =>
    have here : ChangedOnlyAt (reportPlaces target folder (path :: paths)) folder
        (report folder path).1 :=
      (step folder path).mono fun place located => ⟨path, List.mem_cons_self, located⟩
    rw [reportEach]
    split
    · next reported => rwa [reported] at here
    · next middle output reported =>
        rw [reported] at here
        have later := (induction middle).mono fun place reportPlace => by
          obtain ⟨other, member, located⟩ := reportPlace
          exact (⟨other, List.mem_cons_of_mem path member, here.locate_eq_ok_iff.mp located⟩ :
            reportPlaces target folder (path :: paths) place)
        exact here.trans later

/-- If each report is written in all folders of a kind, and leaves a folder of this kind, a run
writes all reports, is not stopped, and leaves a folder of this kind. -/
theorem reportEach_of_kept {report : Folder → Text → Folder × Text × Option σ}
    {target : Text → Text} {kind : Folder → Prop} {reports : List (Text × Text)}
    (step : ∀ folder, kind folder → ∀ entry ∈ reports,
      (report folder entry.1).1 = folder.written (target entry.1) entry.2 ∧
        (report folder entry.1).2.2 = none ∧ kind (folder.written (target entry.1) entry.2))
    {folder : Folder} (start : kind folder) :
    (reportEach report folder (reports.map Prod.fst)).1 =
        folder.writtenAll (reports.map fun entry => (target entry.1, entry.2)) ∧
      (reportEach report folder (reports.map Prod.fst)).2.2 = none ∧
      kind (folder.writtenAll (reports.map fun entry => (target entry.1, entry.2))) := by
  induction reports generalizing folder with
  | nil => exact ⟨rfl, rfl, start⟩
  | cons entry reports induction =>
    obtain ⟨written, goesOn, kept⟩ := step folder start entry List.mem_cons_self
    have later := induction
      (fun folder same other member => step folder same other (List.mem_cons_of_mem _ member)) kept
    rw [List.map_cons, reportEach]
    generalize report folder entry.1 = result at written goesOn
    obtain ⟨after, output, stop⟩ := result
    dsimp only at written goesOn
    subst written goesOn
    exact later

end Each

/-! ## Single reports -/

theorem fst_writeHintReport (folder : Folder) (path : Text) (rows : List Value) :
    (writeHintReport folder path rows).1 =
      folder.written (hintReportPath path)
        (Csv.spreadsheet.record hintColumns ++ (Csv.spreadsheet.recordsOf rows).1) := by
  unfold writeHintReport Folder.written
  dsimp only
  cases folder.writeText (hintReportPath path) _ <;> rfl

theorem changedOnlyAt_reportHints [Text.SetOrder] (folder : Folder) (path : Text) :
    ChangedOnlyAt (fun place => folder.locate (hintReportPath path) = .ok place) folder
      (reportHints folder path).1 := by
  unfold reportHints
  split_ifs
  · split
    · exact .refl _ folder
    · dsimp only
      rw [fst_writeHintReport]
      exact changedOnlyAt_written folder _ _
  · exact .refl _ folder

theorem fst_writeScriptReport (folder : Folder) (path : Text) (types : Bindings) :
    (writeScriptReport folder path types).1 =
      folder.written (scriptReportPath path) (scriptReport types) := by
  unfold writeScriptReport Folder.written
  dsimp only
  cases folder.writeText (scriptReportPath path) _ <;> rfl

theorem changedOnlyAt_reportScript [Text.SetOrder] (folder : Folder) (path : Text) :
    ChangedOnlyAt (fun place => folder.locate (scriptReportPath path) = .ok place) folder
      (reportScript folder path).1 := by
  unfold reportScript
  split_ifs
  · split
    · exact .refl _ folder
    · exact .refl _ folder
    · dsimp only
      rw [fst_writeScriptReport]
      exact changedOnlyAt_written folder _ _
  · exact .refl _ folder

/-! ## Runs -/

section Runs

variable [Text.SetOrder] (folder : Folder) (paths : List Text)

theorem folder_runHints :
    (Program.runHints folder paths).folder = (reportEach reportHints folder paths).1 := by
  rw [Program.runHints, reportAllHints_eq]
  cases paths <;> rfl

theorem folder_runScripts :
    (Program.runScripts folder paths).folder = (reportEach reportScript folder paths).1 := by
  rw [Program.runScripts, reportScripts_eq]
  cases paths <;> rfl

theorem ending_runHints (some : paths ≠ [])
    (goesOn : (reportEach reportHints folder paths).2.2 = none) :
    (Program.runHints folder paths).ending = .finished := by
  have given : paths.isEmpty = false := by simpa using some
  simp only [Program.runHints, reportAllHints_eq, given, goesOn, Bool.false_eq_true, if_false]

theorem ending_runScripts (some : paths ≠ [])
    (goesOn : (reportEach reportScript folder paths).2.2 = none) :
    (Program.runScripts folder paths).ending = .finished := by
  have given : paths.isEmpty = false := by simpa using some
  simp only [Program.runScripts, reportScripts_eq, given, goesOn, Bool.false_eq_true, if_false]

theorem changedOnlyAt_runHints :
    ChangedOnlyAt (reportPlaces hintReportPath folder paths) folder
      (Program.runHints folder paths).folder := by
  rw [folder_runHints]
  exact changedOnlyAt_reportEach changedOnlyAt_reportHints folder paths

theorem changedOnlyAt_runScripts :
    ChangedOnlyAt (reportPlaces scriptReportPath folder paths) folder
      (Program.runScripts folder paths).folder := by
  rw [folder_runScripts]
  exact changedOnlyAt_reportEach changedOnlyAt_reportScript folder paths

end Runs

/-! ## Paths of reports -/

def moduleEnding : Text := ".py".toList

/-- The ending of the path of a report on hints. -/
def hintEnding : Text := "_AST_report.csv".toList

/-- The ending of the path of a report on a running script. -/
def scriptEnding : Text := "_conditional_runtime_annotation_report.txt".toList

theorem moduleEnding_ne_nil : moduleEnding ≠ [] := by decide

theorem apart_moduleEnding : Text.Apart moduleEnding := by
  have last : moduleEnding.getLast? = some 'y' := by decide
  exact Text.apart_of_getLast? last (by decide)

theorem hintReportPath_append (front : Text) :
    hintReportPath (front ++ moduleEnding) = hintReportPath front ++ hintEnding :=
  Text.replace_append_self moduleEnding_ne_nil apart_moduleEnding hintEnding front

theorem scriptReportPath_append (front : Text) :
    scriptReportPath (front ++ moduleEnding) = scriptReportPath front ++ scriptEnding :=
  Text.replace_append_self moduleEnding_ne_nil apart_moduleEnding scriptEnding front

/-- A module whose path ends in `.py` is not at the place of a report on such a module. -/
theorem not_samePlace_reports (folder : Folder) {path other : Text} (first : moduleEnding <:+ path)
    (second : moduleEnding <:+ other) :
    ¬ folder.SamePlace (hintReportPath other) path ∧
      ¬ folder.SamePlace (scriptReportPath other) path := by
  obtain ⟨front, rfl⟩ := first
  obtain ⟨back, rfl⟩ := second
  rw [hintReportPath_append, scriptReportPath_append]
  have ending : IsEnding moduleEnding := by decide
  constructor
  · exact not_samePlace_of_endings (by decide) ending (by decide)
  · exact not_samePlace_of_endings (by decide) ending (by decide)

/-! ## Files of modules -/

/-- A survey of hints or of running scripts leaves every file as it was that is not at the place of
a report. If all paths end in `.py`, these are all files that it was given. -/
theorem surveys_keep_files [Text.SetOrder] (folder : Folder) (paths : List Text) :
    (∀ path bytes, folder.read path = .ok bytes →
      (∀ other ∈ paths, ¬ folder.SamePlace (hintReportPath other) path) →
        (Program.runHints folder paths).folder.read path = .ok bytes) ∧
    (∀ path bytes, folder.read path = .ok bytes →
      (∀ other ∈ paths, ¬ folder.SamePlace (scriptReportPath other) path) →
        (Program.runScripts folder paths).folder.read path = .ok bytes) ∧
    ((∀ path ∈ paths, moduleEnding <:+ path) → ∀ path ∈ paths, ∀ bytes,
      folder.read path = .ok bytes →
        (Program.runHints folder paths).folder.read path = .ok bytes ∧
          (Program.runScripts folder paths).folder.read path = .ok bytes) := by
  have hints : ∀ path bytes, folder.read path = .ok bytes →
      (∀ other ∈ paths, ¬ folder.SamePlace (hintReportPath other) path) →
        (Program.runHints folder paths).folder.read path = .ok bytes := by
    intro path bytes held apart
    refine (changedOnlyAt_runHints folder paths).read_eq_ok held ?_
    rintro place here ⟨other, member, located⟩
    exact apart other member ⟨place, located, here⟩
  have scripts : ∀ path bytes, folder.read path = .ok bytes →
      (∀ other ∈ paths, ¬ folder.SamePlace (scriptReportPath other) path) →
        (Program.runScripts folder paths).folder.read path = .ok bytes := by
    intro path bytes held apart
    refine (changedOnlyAt_runScripts folder paths).read_eq_ok held ?_
    rintro place here ⟨other, member, located⟩
    exact apart other member ⟨place, located, here⟩
  refine ⟨hints, scripts, fun modules path member bytes held => ⟨?_, ?_⟩⟩
  · refine hints path bytes held fun other among => ?_
    exact (not_samePlace_reports folder (modules path member) (modules other among)).1
  · refine scripts path bytes held fun other among => ?_
    exact (not_samePlace_reports folder (modules path member) (modules other among)).2

attribute [local instance] Text.SetOrder.sorted

/-- The path of a module without the ending of one. -/
def barePath : Text := "notes".toList

/-- A folder with modules in it and in a directory, one of which has no ending. -/
def packageFolder : Folder :=
  ⟨[(["pkg".toList, "a.py.py".toList], Text.encodeUtf8 "x = 1\n".toList),
    (["b.py".toList], Text.encodeUtf8 "y = ['a']\n".toList),
    ([barePath], Text.encodeUtf8 "z = 2\n".toList)]⟩

/-- The paths of the modules with an ending. -/
def packagePaths : List Text := ["pkg/../pkg/a.py.py".toList, "b.py".toList]

theorem surveys_keep_packageFolder :
    (packageFolder.read barePath = .ok (Text.encodeUtf8 "z = 2\n".toList) ∧
      (Program.runHints packageFolder packagePaths).folder.read barePath =
        .ok (Text.encodeUtf8 "z = 2\n".toList) ∧
      (Program.runScripts packageFolder packagePaths).folder.read barePath =
        .ok (Text.encodeUtf8 "z = 2\n".toList)) ∧
    (packageFolder.read "b.py".toList = .ok (Text.encodeUtf8 "y = ['a']\n".toList) ∧
      (Program.runHints packageFolder packagePaths).folder.read "b.py".toList =
        .ok (Text.encodeUtf8 "y = ['a']\n".toList) ∧
      (Program.runScripts packageFolder packagePaths).folder.read "b.py".toList =
        .ok (Text.encodeUtf8 "y = ['a']\n".toList)) := by
  have bare : packageFolder.read barePath = .ok (Text.encodeUtf8 "z = 2\n".toList) := by
    decide +kernel
  have named : packageFolder.read "b.py".toList =
      .ok (Text.encodeUtf8 "y = ['a']\n".toList) := by
    decide +kernel
  obtain ⟨hints, scripts, modules⟩ := surveys_keep_files packageFolder packagePaths
  refine ⟨⟨bare, hints _ _ bare (by decide +kernel), scripts _ _ bare (by decide +kernel)⟩,
    named, ?_⟩
  exact modules (by decide +kernel) _ (by decide +kernel) _ named

/-- The file of a module whose path has no ending is replaced by the report on it. -/
theorem surveys_replace_bare_module :
    barePath ∈ [barePath] ∧
      packageFolder.read barePath = .ok (Text.encodeUtf8 "z = 2\n".toList) ∧
      (Program.runHints packageFolder [barePath]).folder.read barePath =
        .ok (Text.encodeUtf8
          "File,Variable/Function,Type Hint\r\nnotes,z,int\r\n".toList) ∧
      (Program.runScripts packageFolder [barePath]).folder.read barePath =
        .ok (Text.encodeUtf8 "Variable 'z' is inferred as type: int\n".toList) := by
  refine ⟨List.mem_singleton_self barePath, ?_, ?_, ?_⟩ <;> decide +kernel

end TypeSurvey.Survey
