import TypeSurvey.Proofs.Survey.Frame
import TypeSurvey.Proofs.Survey.Reports

/-!
# Reports on hints do not depend on each other

A normal path that has `.py` at its end only is turned into the path of its report by changing the
ending. So different modules have reports at different places, and no report is at the place of a
module. A run on such modules leaves a report on each of them that is made from its own source, and
nothing else, if no directory is in the way. It makes no difference in which order, and in how many
runs, the reports are written, as long as these runs list the members of sets in one order. Runs
that list them in different orders leave different reports wherever the order shows.
-/

namespace TypeSurvey.Survey

open Folder Source

/-! ## Modules and their paths -/

/-- Whether a path is that of a module: it is normal, and has `.py` once, at its end. -/
structure IsModulePath (path : Text) : Prop where
  normal : IsNormal path
  once : Text.count moduleEnding path = 1
  ending : moduleEnding <:+ path

instance (path : Text) : Decidable (IsModulePath path) :=
  decidable_of_iff (IsNormal path ∧ Text.count moduleEnding path = 1 ∧ moduleEnding <:+ path)
    ⟨fun ⟨normal, once, ending⟩ => ⟨normal, once, ending⟩,
      fun ⟨normal, once, ending⟩ => ⟨normal, once, ending⟩⟩

/-- Whether the source of a module is in the file at a path. -/
def HoldsModule (folder : Folder) (path : Text) (module_ : Module) : Prop :=
  ∃ source, folder.readText path = .ok source ∧ parseModule source = .ok module_

/-- The path of the report on a module is its path with another ending. -/
theorem IsModulePath.exists_stem {path : Text} (isModule : IsModulePath path) :
    ∃ stem, path = stem ++ moduleEnding ∧ hintReportPath path = stem ++ hintEnding := by
  obtain ⟨stem, rfl⟩ := isModule.ending
  have once := isModule.once
  rw [Text.count_append_self moduleEnding_ne_nil apart_moduleEnding] at once
  have kept : hintReportPath stem = stem :=
    Text.replace_of_count moduleEnding_ne_nil (by omega) hintEnding
  exact ⟨stem, rfl, by rw [hintReportPath_append, kept]⟩

theorem isEnding_moduleEnding : IsEnding moduleEnding := by decide

theorem isEnding_hintEnding : IsEnding hintEnding := by decide

theorem bindingsOfFile_eq_ok_iff {folder : Folder} {path : Text} {rows : List BindingRow} :
    bindingsOfFile folder path = .ok rows ↔
      ∃ module_, HoldsModule folder path module_ ∧
        rows = (bindings module_).map fun entry => (path, entry) := by
  unfold bindingsOfFile HoldsModule
  cases read : folder.readText path with
  | error fault => simp
  | ok source =>
    cases parsed : parseModule source with
    | error fault => simp [parsed]
    | ok module_ => simp [parsed, eq_comm]

section Places

variable {folder : Folder} {path other : Text}

theorem exists_locate_of_holds {module_ : Module} (holds : HoldsModule folder path module_) :
    ∃ place bytes, folder.locate path = .ok place ∧ folder.file? place = some bytes := by
  obtain ⟨source, read, -⟩ := holds
  obtain ⟨text, held, -⟩ := readText_eq_ok_iff.mp read
  obtain ⟨place, located, found⟩ := read_eq_ok_iff_file?.mp held
  exact ⟨place, _, located, found⟩

/-- The report on a module that is there has a place, in a directory. -/
theorem exists_reportPlace {module_ : Module} (isModule : IsModulePath path)
    (holds : HoldsModule folder path module_) :
    ∃ place, folder.locate (hintReportPath path) = .ok place ∧
      folder.isDirectory place.dropLast = true := by
  obtain ⟨stem, rfl, target⟩ := isModule.exists_stem
  obtain ⟨_, _, located, -⟩ := exists_locate_of_holds holds
  obtain ⟨parent, name, rfl, directory, sibling⟩ :=
    exists_locate_append isEnding_moduleEnding located
  refine ⟨parent ++ [name ++ hintEnding], ?_, ?_⟩
  · rw [target, sibling hintEnding isEnding_hintEnding]
  · rwa [List.dropLast_concat]

/-- Different modules have their reports at different places. -/
theorem eq_of_samePlace_reports (isModule : IsModulePath path) (otherModule : IsModulePath other)
    (same : folder.SamePlace (hintReportPath path) (hintReportPath other)) : path = other := by
  obtain ⟨stem, rfl, target⟩ := isModule.exists_stem
  obtain ⟨otherStem, rfl, otherTarget⟩ := otherModule.exists_stem
  rw [target, otherTarget] at same
  obtain ⟨place, located, also⟩ := same
  obtain ⟨parent, name, rfl, -, sibling⟩ := exists_locate_append isEnding_hintEnding located
  obtain ⟨otherParent, otherName, shape, -, otherSibling⟩ :=
    exists_locate_append isEnding_hintEnding also
  obtain ⟨rfl, names⟩ := List.append_inj' shape rfl
  have name_eq : name = otherName := List.append_cancel_right (List.singleton_inj.mp names)
  refine eq_of_samePlace isModule.normal otherModule.normal
    ⟨_, sibling moduleEnding isEnding_moduleEnding, ?_⟩
  rw [otherSibling moduleEnding isEnding_moduleEnding, name_eq]

end Places

/-! ## Writing a report -/

/-- The text of the report on the module at a path. -/
def hintReport [Text.SetOrder] (path : Text) (module_ : Module) : Text :=
  Csv.spreadsheet.records
    (hintColumns :: (hintRows module_).map fun row => [path, row.subject, row.hint])

theorem recordsOf_hintRows (path : Text) (rows : List HintRow) :
    Csv.spreadsheet.recordsOf (rows.map (HintRow.toValue path)) =
      (Csv.spreadsheet.records (rows.map fun row => [path, row.subject, row.hint]), none) := by
  have written := recordsOf_rowValues (rows.map fun row => (path, row.subject, row.hint))
  rw [List.map_map, List.map_map] at written
  exact written

section Step

variable {folder : Folder} {path : Text} {module_ : Module}

theorem contains_of_holds (holds : HoldsModule folder path module_) :
    folder.contains path = true := by
  obtain ⟨place, bytes, located, found⟩ := exists_locate_of_holds holds
  rw [contains, located]
  simp [found]

theorem reportHints_of_holds [Text.SetOrder] (holds : HoldsModule folder path module_) :
    (reportHints folder path).1 = folder.written (hintReportPath path) (hintReport path module_) ∧
      (reportHints folder path).2.2 = none := by
  obtain ⟨source, read, parsed⟩ := id holds
  rw [reportHints, if_pos (contains_of_holds holds), hintsOfFile_of_read read parsed]
  refine ⟨?_, rfl⟩
  dsimp only
  rw [fst_writeHintReport, recordsOf_hintRows]
  rfl

theorem HoldsModule.module_eq {other : Module} (holds : HoldsModule folder path module_)
    (again : HoldsModule folder path other) : module_ = other := by
  obtain ⟨source, read, parsed⟩ := holds
  obtain ⟨otherSource, otherRead, otherParsed⟩ := again
  obtain rfl : source = otherSource := Except.ok.inj (read.symm.trans otherRead)
  exact Except.ok.inj (parsed.symm.trans otherParsed)

theorem HoldsModule.of_changed {places : Path → Prop} {after : Folder}
    (holds : HoldsModule folder path module_) (changed : ChangedOnlyAt places folder after)
    (apart : ∀ place, folder.locate path = .ok place → ¬ places place) :
    HoldsModule after path module_ := by
  obtain ⟨source, read, parsed⟩ := holds
  obtain ⟨text, held, rfl⟩ := readText_eq_ok_iff.mp read
  exact ⟨_, readText_eq_ok_iff.mpr ⟨text, changed.read_eq_ok held apart, rfl⟩, parsed⟩

end Step

/-! ## Runs -/

/-- Whether a folder has come from an earlier one by reports on the modules at paths: nothing but
the reports has changed, and each report is made from the path and the source of its module, in a
run that lists sets in the order that is given for the path. -/
structure Reported (orders : Text → Text.SetOrder) (before : Folder) (paths : List Text)
    (after : Folder) : Prop where
  changed : ChangedOnlyAt (reportPlaces hintReportPath before paths) before after
  report : ∀ path ∈ paths, ∀ module_, HoldsModule before path module_ →
    ∃ place, before.locate (hintReportPath path) = .ok place ∧
      after.file? place = some (Text.encodeUtf8 (@hintReport (orders path) path module_))

/-- Whether a module is in the file at a path, and no directory is at the place of the report on
it. -/
structure IsReportable (folder : Folder) (path : Text) : Prop where
  isModule : IsModulePath path
  holds : ∃ module_, HoldsModule folder path module_
  vacant : ∀ place, folder.locate (hintReportPath path) = .ok place →
    folder.isDirectory place = false

section Runs

variable {orders : Text → Text.SetOrder} {before middle : Folder} {done rest : List Text}
  {path : Text}

/-- No report is at the place of a module. -/
theorem not_reportPlaces (modules : ∀ other ∈ done, IsModulePath other)
    (isModule : IsModulePath path) {place : Path} (located : before.locate path = .ok place) :
    ¬ reportPlaces hintReportPath before done place := by
  rintro ⟨other, member, reported⟩
  exact (not_samePlace_reports before isModule.ending (modules other member).ending).1
    ⟨place, reported, located⟩

/-- A report on one more module is not at the place of an earlier one. -/
theorem not_reportPlaces_of_fresh (modules : ∀ other ∈ done, IsModulePath other)
    (isModule : IsModulePath path) (fresh : path ∉ done) {place : Path}
    (located : before.locate (hintReportPath path) = .ok place) :
    ¬ reportPlaces hintReportPath before done place := by
  rintro ⟨other, member, reported⟩
  obtain rfl := eq_of_samePlace_reports (modules other member) isModule ⟨place, reported, located⟩
  exact fresh member

/-- One more report is added to those that are there. -/
theorem Reported.step (reported : Reported orders before done middle)
    (modules : ∀ other ∈ done ++ [path], IsReportable before other) (fresh : path ∉ done) :
    Reported orders before (done ++ [path]) (@reportHints (orders path) middle path).1 ∧
      (@reportHints (orders path) middle path).2.2 = none := by
  have doneModules : ∀ other ∈ done, IsModulePath other := fun other member =>
    (modules other (List.mem_append_left _ member)).isModule
  obtain ⟨isModule, ⟨module_, holds⟩, vacant⟩ := modules path (by simp)
  obtain ⟨place, located, parent⟩ := exists_reportPlace isModule holds
  have new := not_reportPlaces_of_fresh doneModules isModule fresh located
  have still : HoldsModule middle path module_ :=
    holds.of_changed reported.changed fun _ here => not_reportPlaces doneModules isModule here
  obtain ⟨made, goesOn⟩ := @reportHints_of_holds _ _ _ (orders path) still
  have nowLocated := reported.changed.locate_eq_ok_iff.mpr located
  have here := changedOnlyAt_written middle (hintReportPath path)
    (@hintReport (orders path) path module_)
  rw [made]
  refine ⟨⟨?_, ?_⟩, goesOn⟩
  · refine (reported.changed.mono ?_).trans (here.mono ?_)
    · rintro other ⟨earlier, member, led⟩
      exact ⟨earlier, List.mem_append_left _ member, led⟩
    · intro other led
      exact ⟨path, by simp, reported.changed.locate_eq_ok_iff.mp led⟩
  · intro other member otherModule otherHolds
    rcases List.mem_append.mp member with earlier | last
    · -- An earlier report is kept, since the new one has another place.
      obtain ⟨otherPlace, led, found⟩ := reported.report other earlier otherModule otherHolds
      refine ⟨otherPlace, led, ?_⟩
      rw [here.files otherPlace, found]
      intro same
      obtain rfl : place = otherPlace := Except.ok.inj (nowLocated.symm.trans same)
      exact new ⟨other, earlier, led⟩
    · obtain rfl := List.mem_singleton.mp last
      obtain rfl := holds.module_eq otherHolds
      refine ⟨place, located, ?_⟩
      rw [file?_written nowLocated (by rw [reported.changed.directories, parent]),
        reported.changed.directories, vacant place located]
      rfl

/-- The folder after one report after the other. -/
def reportFold (orders : Text → Text.SetOrder) (folder : Folder) (paths : List Text) : Folder :=
  paths.foldl (fun folder path => (@reportHints (orders path) folder path).1) folder

/-- Reports on further modules are added to those that are there. No module stops the run. -/
theorem Reported.run (reported : Reported orders before done middle)
    (modules : ∀ other ∈ done ++ rest, IsReportable before other)
    (distinct : (done ++ rest).Nodup) :
    Reported orders before (done ++ rest) (reportFold orders middle rest) ∧
      (reportEach (fun folder path => @reportHints (orders path) folder path) middle rest).1 =
        reportFold orders middle rest := by
  induction rest generalizing done middle with
  | nil => exact ⟨by simpa [reportFold] using reported, rfl⟩
  | cons path rest induction =>
    have fresh : path ∉ done := by
      intro earlier
      exact (List.nodup_append.mp distinct).2.2 path earlier path List.mem_cons_self rfl
    rw [List.append_cons] at modules distinct ⊢
    obtain ⟨next, goesOn⟩ := reported.step
      (fun other member => modules other (List.mem_append_left _ member)) fresh
    obtain ⟨all, same⟩ := induction next modules distinct
    rw [reportEach]
    generalize step : @reportHints (orders path) middle path = result at next goesOn all same
    obtain ⟨after, output, stop⟩ := result
    dsimp only at goesOn
    subst goesOn
    rw [reportFold, List.foldl_cons, step]
    exact ⟨all, same⟩

end Runs

theorem Reported.congr {orders : Text → Text.SetOrder} {before after : Folder}
    {paths others : List Text} (reported : Reported orders before paths after)
    (same : ∀ path, path ∈ paths ↔ path ∈ others) : Reported orders before others after where
  changed := reported.changed.mono fun _ ⟨path, member, located⟩ =>
    ⟨path, (same path).mp member, located⟩
  report path member := reported.report path ((same path).mpr member)

/-- The reports on the same modules are the same files if and only if they are the same texts. -/
theorem Reported.file?_eq_iff {orders others : Text → Text.SetOrder} {before left right : Folder}
    {paths : List Text} (first : Reported orders before paths left)
    (second : Reported others before paths right)
    (modules : ∀ path ∈ paths, IsReportable before path) :
    (∀ place, left.file? place = right.file? place) ↔
      ∀ path ∈ paths, ∀ module_, HoldsModule before path module_ →
        @hintReport (orders path) path module_ = @hintReport (others path) path module_ := by
  constructor
  · intro same path member module_ holds
    obtain ⟨place, led, content⟩ := first.report path member module_ holds
    obtain ⟨_, otherLed, otherContent⟩ := second.report path member module_ holds
    obtain rfl := Except.ok.inj (led.symm.trans otherLed)
    rw [same, otherContent, Option.some.injEq] at content
    exact (Text.encodeUtf8_inj.mp content).symm
  · intro same place
    by_cases reported : reportPlaces hintReportPath before paths place
    · obtain ⟨path, member, located⟩ := reported
      obtain ⟨module_, holds⟩ := (modules path member).holds
      obtain ⟨found, led, content⟩ := first.report path member module_ holds
      obtain ⟨otherFound, otherLed, otherContent⟩ := second.report path member module_ holds
      obtain rfl : place = found := Except.ok.inj (located.symm.trans led)
      obtain rfl : place = otherFound := Except.ok.inj (located.symm.trans otherLed)
      rw [content, otherContent, same path member module_ holds]
    · rw [first.changed.files place reported, second.changed.files place reported]

/-! ## Programs -/

/-- The folder after a run of the survey of hints that lists sets in an order. -/
def afterRun (order : Text.SetOrder) (folder : Folder) (paths : List Text) : Folder :=
  (Program.runHints folder paths).folder

/-- The folder after a run for each of some paths. Each run has its own order of sets. -/
def afterSingleRuns (orders : Text → Text.SetOrder) (folder : Folder) (paths : List Text) :
    Folder :=
  paths.foldl (fun folder path => afterRun (orders path) folder [path]) folder

theorem afterRun_singleton (order : Text.SetOrder) (folder : Folder) (path : Text) :
    afterRun order folder [path] = (reportHints folder path).1 := by
  rw [afterRun, Program.runHints, reportAllHints_eq, reportEach]
  rcases reportHints folder path with ⟨after, output, _ | stop⟩ <;> rfl

theorem afterSingleRuns_eq (orders : Text → Text.SetOrder) (folder : Folder) (paths : List Text) :
    afterSingleRuns orders folder paths = reportFold orders folder paths := by
  unfold afterSingleRuns reportFold
  simp only [afterRun_singleton]

theorem reported_nil (orders : Text → Text.SetOrder) (folder : Folder) :
    Reported orders folder [] folder :=
  ⟨.refl _ folder, nofun⟩

/-- A run on modules at different paths leaves a report on each of them, made from its own path and
source, and changes nothing else. So do runs on the modules one at a time, in any sequence. They
leave the same files if and only if each report is the same text in the order of its own run as in
the order of the run on all modules, in particular if all runs list sets in one order. No report
takes the place of another one or of a module. -/
theorem hint_reports_independent {folder : Folder} {paths : List Text}
    (modules : ∀ path ∈ paths, IsReportable folder path) (distinct : paths.Nodup)
    (order : Text.SetOrder) (orders : Text → Text.SetOrder) :
    Reported (fun _ => order) folder paths (afterRun order folder paths) ∧
      (∀ sequence, sequence.Perm paths →
        Reported orders folder paths (afterSingleRuns orders folder sequence) ∧
        ((∀ place, (afterSingleRuns orders folder sequence).file? place =
            (afterRun order folder paths).file? place) ↔
          ∀ path ∈ paths, ∀ module_, HoldsModule folder path module_ →
            @hintReport (orders path) path module_ = @hintReport order path module_)) ∧
      ∀ path ∈ paths, ∀ other ∈ paths,
        (folder.SamePlace (hintReportPath path) (hintReportPath other) → path = other) ∧
          ¬ folder.SamePlace (hintReportPath other) path := by
  obtain ⟨whole, same⟩ := (reported_nil (fun _ => order) folder).run modules distinct
  have run_eq : afterRun order folder paths = reportFold (fun _ => order) folder paths := by
    rw [afterRun, folder_runHints, ← same]
  rw [run_eq]
  refine ⟨whole, fun sequence perm => ?_, fun path member other among => ⟨?_, ?_⟩⟩
  · have shuffled : ∀ path ∈ sequence, IsReportable folder path := fun path member =>
      modules path (perm.mem_iff.mp member)
    obtain ⟨single, -⟩ :=
      (reported_nil orders folder).run shuffled (perm.nodup_iff.mpr distinct)
    rw [afterSingleRuns_eq]
    have each : Reported orders folder paths (reportFold orders folder sequence) :=
      single.congr fun path => perm.mem_iff
    exact ⟨each, each.file?_eq_iff whole modules⟩
  · exact eq_of_samePlace_reports (modules path member).isModule (modules other among).isModule
  · exact (not_samePlace_reports folder (modules path member).isModule.ending
      (modules other among).isModule.ending).1

/-- The paths of three modules. -/
def branchPaths : List Text := ["pkg/a.py".toList, "a.py".toList, "b.py".toList]

/-- A folder with three modules and an old report. -/
def branchFolder : Folder :=
  ⟨[(["pkg".toList, "a.py".toList], Text.encodeUtf8 "x = [1, 'é']\r\n".toList),
    (["a.py".toList], Text.encodeUtf8 "def f(n):\n    y = n\n".toList),
    (["b.py".toList], []),
    (["a_AST_report.csv".toList], Text.encodeUtf8 "old".toList)]⟩

theorem exists_holdsModule_of_isOk {folder : Folder} {path : Text}
    (surveyed : (bindingsOfFile folder path).isOk = true) :
    ∃ module_, HoldsModule folder path module_ := by
  obtain ⟨rows, found⟩ := exists_of_isOk surveyed
  obtain ⟨module_, holds, -⟩ := bindingsOfFile_eq_ok_iff.mp found
  exact ⟨module_, holds⟩

theorem isReportable_branchFolder : ∀ path ∈ branchPaths, IsReportable branchFolder path := by
  have paths : ∀ path ∈ branchPaths, IsModulePath path := by decide +kernel
  have sources : ∀ path ∈ branchPaths, (bindingsOfFile branchFolder path).isOk = true := by
    decide +kernel
  have places : ∀ path ∈ branchPaths, ∃ place ∈ [["pkg".toList, "a_AST_report.csv".toList],
      ["a_AST_report.csv".toList], ["b_AST_report.csv".toList]],
        branchFolder.locate (hintReportPath path) = .ok place ∧
          branchFolder.isDirectory place = false := by
    decide +kernel
  intro path member
  refine ⟨paths path member, exists_holdsModule_of_isOk (sources path member), fun place here => ?_⟩
  obtain ⟨_, -, located, vacant⟩ := places path member
  rwa [Except.ok.inj (here.symm.trans located)]

theorem hint_reports_independent_branchFolder :
    (∀ path ∈ branchPaths, IsReportable branchFolder path) ∧ branchPaths.Nodup ∧
      Reported (fun _ => .sorted) branchFolder branchPaths
        (afterRun .sorted branchFolder branchPaths) ∧
      (∀ place, (afterSingleRuns (fun _ => .sorted) branchFolder branchPaths.reverse).file? place =
        (afterRun .sorted branchFolder branchPaths).file? place) ∧
      ¬ branchFolder.SamePlace (hintReportPath "pkg/a.py".toList)
        (hintReportPath "a.py".toList) := by
  have distinct : branchPaths.Nodup := by decide +kernel
  obtain ⟨reported, anySequence, apart⟩ := hint_reports_independent isReportable_branchFolder
    distinct .sorted fun _ => .sorted
  obtain ⟨-, same⟩ := anySequence _ (List.reverse_perm branchPaths)
  refine ⟨isReportable_branchFolder, distinct, reported, same.mpr fun _ _ _ _ => rfl,
    fun same => ?_⟩
  exact absurd ((apart _ (by decide +kernel) _ (by decide +kernel)).1 same) (by decide +kernel)

/-- Members by the codes of their characters, the last one first. -/
@[reducible] def reversedOrder : Text.SetOrder :=
  ⟨fun texts => (Text.sortedOnce texts).reverse, by simp [Text.mem_sortedOnce]⟩

/-- A folder with a module that has a list with members of two types. -/
def mixedListFolder : Folder :=
  ⟨[(["a.py".toList], Text.encodeUtf8 "x = [1, 'é']\n".toList)]⟩

/-- A folder with two modules, of which one is in a directory at the place of the report on the
other one. -/
def blockedFolder : Folder :=
  ⟨[(["a.py".toList], Text.encodeUtf8 "x = 1\n".toList),
    (["a_AST_report.csv".toList, "b.py".toList], Text.encodeUtf8 "y = 2\n".toList)]⟩

/-- Two runs on the same module leave different reports if they list sets in different orders, and a
run leaves no report on a module if a directory is in the way. -/
theorem hint_reports_not_always_same :
    (IsModulePath "a.py".toList ∧ (bindingsOfFile mixedListFolder "a.py".toList).isOk = true ∧
      (afterRun .sorted mixedListFolder ["a.py".toList]).file? ["a_AST_report.csv".toList] =
        some (Text.encodeUtf8
          "File,Variable/Function,Type Hint\r\na.py,x,\"List[int, str]\"\r\n".toList) ∧
      (afterRun reversedOrder mixedListFolder ["a.py".toList]).file?
          ["a_AST_report.csv".toList] =
        some (Text.encodeUtf8
          "File,Variable/Function,Type Hint\r\na.py,x,\"List[str, int]\"\r\n".toList)) ∧
    ((∀ path ∈ ["a.py".toList, "a_AST_report.csv/b.py".toList], IsModulePath path ∧
        (bindingsOfFile blockedFolder path).isOk = true) ∧
      (afterRun .sorted blockedFolder
        ["a.py".toList, "a_AST_report.csv/b.py".toList]).file? ["a_AST_report.csv".toList] =
          none) := by
  decide +kernel

end TypeSurvey.Survey
