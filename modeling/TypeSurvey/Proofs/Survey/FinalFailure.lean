import TypeSurvey.Program.Basic
import TypeSurvey.Proofs.Survey.FinalRows

/-!
# When there is no final report

A signature can be taken apart unless it has two arrows, or has one arrow and no parenthesis before
it. The final report is made unless one of the four reports does not hold a text, or the report on
variables or the trace is there and does not hold one, or the trace has a line with a signature that
cannot be taken apart. Nothing is written before everything has been read.
-/

namespace TypeSurvey.Survey

/-! ## Signatures -/

/-- The mark before the result of a signature. -/
def arrow : Text := "->".toList

/-- Whether a text has an arrow, and one more behind it. -/
def HasArrows (text : Text) : Prop :=
  ∃ front middle back, text = front ++ arrow ++ (middle ++ arrow ++ back)

/-- Whether a text has one arrow only, and no parenthesis before it. -/
def HasBareArrow (text : Text) : Prop :=
  ¬ HasArrows text ∧ ∃ front back, text = front ++ arrow ++ back ∧ '(' ∉ front

theorem arrow_eq : arrow = ['-', '>'] := by decide

theorem arrow_ne_nil : arrow ≠ [] := by simp [arrow_eq]

theorem arrow_apart : Text.Apart arrow := by
  intro front absent found
  have dash : arrow.dropLast = ['-'] := by decide
  rw [dash] at found
  rcases List.infix_concat_iff.mp found with ending | inside
  · obtain ⟨before, shape⟩ := ending
    have last := congrArg List.getLast? shape
    simp [arrow_eq] at last
  · exact absent inside

section Pieces

variable {text front back head result : Text}

theorem split_arrow (front back : Text) :
    Text.split arrow (front ++ arrow ++ back) = Text.split arrow front ++ Text.split arrow back :=
  Text.split_append arrow_ne_nil arrow_apart front back

theorem length_split_arrow_pos (text : Text) : 0 < (Text.split arrow text).length :=
  List.length_pos_iff.mpr (Text.split_ne_nil arrow_ne_nil text)

theorem not_hasArrows_of_length (short : (Text.split arrow text).length ≤ 2) :
    ¬ HasArrows text := by
  rintro ⟨front, middle, back, rfl⟩
  rw [split_arrow, split_arrow, List.length_append, List.length_append] at short
  have first := length_split_arrow_pos front
  have second := length_split_arrow_pos middle
  have third := length_split_arrow_pos back
  omega

theorem hasArrows_of_split {third : Text} {others : List Text}
    (pieces : Text.split arrow text = head :: result :: third :: others) : HasArrows text := by
  refine ⟨head, result, Text.join arrow (third :: others), ?_⟩
  rw [← Text.join_cons_cons, ← Text.join_cons_cons, ← pieces, Text.join_split arrow_ne_nil]

theorem not_hasBareArrow_of_single (pieces : Text.split arrow text = [head]) :
    ¬ HasBareArrow text := by
  rintro ⟨-, front, back, rfl, -⟩
  have length := congrArg List.length pieces
  rw [split_arrow, List.length_append, List.length_singleton] at length
  have first := length_split_arrow_pos front
  have second := length_split_arrow_pos back
  omega

/-- Where a text has one arrow, there is one way to take it apart. -/
theorem front_eq_of_split (pieces : Text.split arrow (front ++ arrow ++ back) = [head, result]) :
    front = head := by
  rw [split_arrow] at pieces
  obtain ⟨piece, single⟩ : ∃ piece, Text.split arrow front = [piece] := by
    have length := congrArg List.length pieces
    rw [List.length_append, List.length_cons, List.length_singleton] at length
    have second := length_split_arrow_pos back
    have first := length_split_arrow_pos front
    exact List.length_eq_one_iff.mp (by omega)
  rw [single, List.singleton_append, List.cons.injEq] at pieces
  have joined := Text.join_split arrow_ne_nil front
  rw [single, pieces.1] at joined
  exact joined.symm

theorem hasBareArrow_iff_of_split (pieces : Text.split arrow text = [head, result]) :
    HasBareArrow text ↔ '(' ∉ head := by
  have shape : text = head ++ arrow ++ result := by
    rw [← Text.join_split arrow_ne_nil text, pieces, Text.join_cons_cons, Text.join]
  constructor
  · rintro ⟨-, front, back, rfl, bare⟩
    exact front_eq_of_split pieces ▸ bare
  · intro bare
    exact ⟨not_hasArrows_of_length (by simp [pieces]), head, result, shape, bare⟩

end Pieces

/-- A signature is taken apart unless it has two arrows, or an arrow and no parenthesis before
it. -/
theorem exists_signatureRows_iff (source signature : Text) :
    (∃ rows, signatureRows source signature = .ok rows) ↔
      ¬ (HasArrows signature ∨ HasBareArrow signature) := by
  rw [not_or]
  -- The number of pieces between arrows decides which of the branches is taken.
  rcases pieces : Text.split arrow signature with _ | ⟨head, _ | ⟨result, _ | ⟨third, others⟩⟩⟩
  · exact absurd pieces (Text.split_ne_nil arrow_ne_nil signature)
  · have single : signatureRows source signature = .ok [] := by
      rw [signatureRows, show Text.split "->".toList signature = [head] from pieces]
    have arrows := @not_hasArrows_of_length signature (by simp [pieces])
    simp [single, arrows, not_hasBareArrow_of_single pieces]
  · have arrows := @not_hasArrows_of_length signature (by simp [pieces])
    rw [signatureRows, show Text.split "->".toList signature = [head, result] from pieces,
      hasBareArrow_iff_of_split pieces]
    by_cases opened : '(' ∈ head <;> simp [opened, arrows]
  · have many : signatureRows source signature = .error .manyArrows := by
      rw [signatureRows,
        show Text.split "->".toList signature = head :: result :: third :: others from pieces]
    simp [many, hasArrows_of_split pieces]

/-! ## Traces -/

/-- Whether a line of a trace has a signature that cannot be taken apart. -/
def IsBroken (line : Text) : Prop :=
  ¬ ".py:".toList <:+ line ∧ ∃ signature, line = "+ def ".toList ++ signature ∧
    (HasArrows signature ∨ HasBareArrow signature)

theorem moduleLine?_eq_none_iff {line : Text} :
    moduleLine? line = none ↔ ¬ ".py:".toList <:+ line := by
  rw [moduleLine?, Text.endsWith, ← List.isSuffixOf_iff_suffix]
  split_ifs with named <;> simp only [named, reduceCtorEq, not_true_eq_false, not_false_eq_true]

theorem isBroken_iff_of_signature {line : Text} (unnamed : ¬ ".py:".toList <:+ line)
    (marked : "+ def ".toList <+: line) :
    IsBroken line ↔ HasArrows (line.drop 6) ∨ HasBareArrow (line.drop 6) := by
  obtain ⟨signature, rfl⟩ := marked
  have behind : ("+ def ".toList ++ signature).drop 6 = signature := List.drop_left' (by decide)
  rw [behind]
  constructor
  · rintro ⟨-, other, shape, broken⟩
    rwa [List.append_cancel_left shape]
  · intro broken
    exact ⟨unnamed, signature, rfl, broken⟩

theorem exists_readTracedLine_iff (source line : Text) :
    (∃ result, readTracedLine source line = .ok result) ↔ ¬ IsBroken line := by
  rw [readTracedLine]
  cases named : moduleLine? line with
  | some module_ =>
    have whole : ¬ IsBroken line := by
      rintro ⟨unnamed, -⟩
      rw [moduleLine?_eq_none_iff.mpr unnamed] at named
      cases named
    simp [whole]
  | none =>
    have unnamed := moduleLine?_eq_none_iff.mp named
    simp only [List.isPrefixOf_iff_prefix]
    split_ifs with marked
    · rw [isBroken_iff_of_signature unnamed marked, ← exists_signatureRows_iff source]
      simp only [bind_eq_ok, mapError_eq_ok]
      constructor
      · rintro ⟨_, rows, taken, -⟩
        exact ⟨rows, taken⟩
      · rintro ⟨rows, taken⟩
        exact ⟨_, rows, taken, rfl⟩
    · have whole : ¬ IsBroken line := by
        rintro ⟨-, signature, shape, -⟩
        exact marked ⟨signature, shape.symm⟩
      simp [whole]

theorem exists_readVariableLine_iff (place : VariablePlace) (line : Text) :
    (∃ result, readVariableLine place line = .ok result) ↔ True := by
  rw [iff_true, readVariableLine]
  split_ifs
  · exact ⟨_, rfl⟩
  split
  · exact ⟨_, rfl⟩
  split
  · exact ⟨_, rfl⟩
  split
  · exact ⟨_, rfl⟩
  · exact ⟨_, rfl⟩

/-- Whether something is at the path of the traced signatures, and is no text. -/
def TraceFile.Unreadable (trace : TraceFile) : Prop :=
  (∃ cause, trace = .closed cause) ∨
    ∃ bytes, trace = .contents bytes ∧ ¬ ∃ text, bytes = Text.encodeUtf8 text

theorem exists_broken_iff (text : Text) :
    (∃ line ∈ Text.lines (Text.normalizeNewlines text), IsBroken (Text.strip line)) ↔
      ∃ line ∈ Text.solidLines text, IsBroken line := by
  rw [← Text.solid_lines_normalizeNewlines]
  constructor
  · rintro ⟨line, member, broken⟩
    have solid : (!(Text.strip line).isEmpty) = true := by
      obtain ⟨-, signature, shape, -⟩ := broken
      rw [shape]
      rfl
    exact ⟨_, List.mem_filter.mpr ⟨List.mem_map_of_mem member, solid⟩, broken⟩
  · rintro ⟨_, member, broken⟩
    obtain ⟨line, inside, rfl⟩ := List.mem_map.mp (List.mem_of_mem_filter member)
    exact ⟨line, inside, broken⟩

theorem exists_tracedSection_iff (trace : TraceFile) :
    (∃ rows, tracedSection trace = .ok rows) ↔
      ¬ (trace.Unreadable ∨ ∃ text, trace = .contents (Text.encodeUtf8 text) ∧
        ∃ line ∈ Text.solidLines text, IsBroken line) := by
  rw [tracedSection_eq]
  unfold TraceFile.rows TraceFile.Unreadable
  cases trace with
  | absent => simp
  | closed cause => simp
  | contents bytes =>
    cases decoded : Text.decodeUtf8 bytes with
    | error fault =>
      have noText : ¬ ∃ text, bytes = Text.encodeUtf8 text := by
        rintro ⟨text, rfl⟩
        simp [Text.decodeUtf8_encodeUtf8] at decoded
      simp [decoded, noText]
    | ok text =>
      rw [Text.decodeUtf8_eq_ok_iff] at decoded
      subst decoded
      simp only [Text.decodeUtf8_encodeUtf8]
      rw [exists_rowsOf_iff exists_readTracedLine_iff]
      simp [← exists_broken_iff, Text.encodeUtf8_inj]

/-! ## The final report -/

/-- The paths of the reports that have to be there. -/
def reportPaths : List Text :=
  ["cli_AST_report.txt", "task_manager_AST_report.txt",
   "cli_conditional_runtime_annotation_report.txt",
   "task_manager_conditional_runtime_annotation_report.txt"].map String.toList

/-- Whether a report or the trace cannot be read, or a signature cannot be taken apart. -/
def Unreported (folder : Folder) (trace : TraceFile) : Prop :=
  (∃ path ∈ reportPaths, ¬ ∃ text, folder.HoldsText path text) ∨
  (folder.contains variableReportPath = true ∧
    ¬ ∃ text, folder.HoldsText variableReportPath text) ∨
  trace.Unreadable ∨
  ∃ text, trace = .contents (Text.encodeUtf8 text) ∧
    ∃ line ∈ Text.solidLines text, IsBroken line

theorem exists_variableSection_iff (folder : Folder) :
    (∃ rows, variableSection folder = .ok rows) ↔
      ¬ (folder.contains variableReportPath = true ∧
        ¬ ∃ text, folder.HoldsText variableReportPath text) := by
  rw [variableSection_eq]
  split_ifs with there
  · simp only [bind_eq_ok, reportLines_eq_ok_iff, there, true_and, not_not]
    constructor
    · rintro ⟨_, _, ⟨text, holds, -⟩, -⟩
      exact ⟨text, holds⟩
    · rintro ⟨text, holds⟩
      obtain ⟨rows, made⟩ := (exists_rowsOf_iff exists_readVariableLine_iff {}
        (Text.lines (Text.normalizeNewlines text))).mpr fun _ _ => trivial
      exact ⟨rows, _, ⟨text, holds, rfl⟩, made⟩
  · simp [there]

theorem exists_finalRows_iff (folder : Folder) (trace : TraceFile) :
    (∃ rows, finalRows folder trace = .ok rows) ↔ ¬ Unreported folder trace := by
  rw [Unreported, not_or, not_or, ← exists_variableSection_iff, ← exists_tracedSection_iff]
  simp only [reportPaths, List.map_cons, List.map_nil, List.exists_mem_cons_iff, not_or, not_not,
    List.not_mem_nil, false_and, exists_false, not_false_eq_true, and_true]
  constructor
  · rintro ⟨rows, made⟩
    obtain ⟨sections, -⟩ := exists_sections made
    exact ⟨⟨⟨_, sections.holds_hints⟩, ⟨_, sections.holds_taskHints⟩,
      ⟨_, sections.holds_running⟩, ⟨_, sections.holds_taskRunning⟩⟩,
      ⟨_, sections.named_eq⟩, ⟨_, sections.traced_eq⟩⟩
  · rintro ⟨⟨⟨hints, first⟩, ⟨taskHints, second⟩, ⟨running, third⟩, ⟨taskRunning, fourth⟩⟩,
      ⟨named, found⟩, ⟨traced, followed⟩⟩
    exact ⟨_, Sections.finalRows_eq ⟨hints, taskHints, running, taskRunning, named, traced,
      first, second, third, fourth, found, followed⟩⟩

/-- Where the final report can be written, it is made if nothing stands in the way of its rows. -/
theorem exists_reportFinal_iff {folder : Folder} (writable : folder.Writable finalReportPath)
    (trace : TraceFile) :
    (∃ result, reportFinal folder trace = .ok result) ↔ ¬ Unreported folder trace := by
  rw [← exists_finalRows_iff]
  constructor
  · rintro ⟨⟨after, output⟩, reported⟩
    obtain ⟨sections, -⟩ := readRecords_of_reportFinal reported
    exact ⟨_, sections.finalRows_eq⟩
  · rintro ⟨rows, made⟩
    obtain ⟨sections, -⟩ := exists_sections made
    exact sections.exists_reportFinal writable

/-- The program for the final report fails if and only if a report or the trace cannot be read or
has a broken line, and a failure leaves the folder as it was. -/
theorem final_report_fails_exactly (folder : Folder) (trace : TraceFile) :
    (folder.Writable finalReportPath →
      ((∃ fault, (Program.runFinal folder trace).ending = .failed fault) ↔
        Unreported folder trace)) ∧
    (∀ fault, (Program.runFinal folder trace).ending = .failed fault →
      (Program.runFinal folder trace).folder = folder) := by
  constructor
  · intro writable
    rw [← not_iff_not, ← exists_reportFinal_iff writable, Program.runFinal]
    cases reportFinal folder trace <;> simp
  · intro fault failed
    unfold Program.runFinal at failed ⊢
    cases reported : reportFinal folder trace with
    | ok result => simp [reported] at failed
    | error fault => rfl

/-- A trace with a signature that takes a function and gives one. -/
def curriedTrace : TraceFile :=
  .contents (Text.encodeUtf8 "a.py:\r\n  + def f(x: A -> B) -> C\r\n".toList)

theorem final_report_fails_exactly_curried :
    mixedFolder.Writable finalReportPath ∧
    (∃ fault, (Program.runFinal mixedFolder curriedTrace).ending = .failed fault) ∧
    (Program.runFinal mixedFolder curriedTrace).folder = mixedFolder := by
  have writable : mixedFolder.Writable finalReportPath := ⟨[finalReportPath], by decide +kernel⟩
  have broken : IsBroken "+ def f(x: A -> B) -> C".toList := by
    refine ⟨by decide +kernel, "f(x: A -> B) -> C".toList, by decide +kernel, .inl ?_⟩
    exact ⟨"f(x: A ".toList, " B) ".toList, " C".toList, by decide +kernel⟩
  have unreported : Unreported mixedFolder curriedTrace :=
    .inr (.inr (.inr ⟨_, rfl, _, by decide +kernel, broken⟩))
  obtain ⟨exactly, atomic⟩ := final_report_fails_exactly mixedFolder curriedTrace
  obtain ⟨fault, failed⟩ := (exactly writable).mpr unreported
  exact ⟨writable, ⟨fault, failed⟩, atomic fault failed⟩

end TypeSurvey.Survey
