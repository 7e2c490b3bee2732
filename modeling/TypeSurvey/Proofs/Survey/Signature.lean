import TypeSurvey.Proofs.Survey.TypeHint
import TypeSurvey.Proofs.Survey.FinalFailure

/-!
# Rows of traced signatures

A line of a trace gives a signature: the name of a function, its arguments with their types, and the
type of its result. The final report has one row for each argument. The signature is taken apart at
its commas without regard to brackets, so that of a type only what stands before its first comma is
shown. The parenthesis behind the last argument and the colon behind the result are not removed.
-/

namespace TypeSurvey

/-! ## Gaps -/

namespace Text

theorem notMem_of_blank {gap : Text} (blank : ∀ letter ∈ gap, isBlank letter = true) {mark : Char}
    (solid : isBlank mark = false) : mark ∉ gap := by
  intro member
  rw [blank mark member] at solid
  cases solid

theorem isBlank_space : ∀ letter ∈ " ".toList, isBlank letter = true :=
  List.forall_mem_singleton.mpr (by decide)

end Text

namespace Survey

/-! ## Signatures -/

/-- A signature as it is traced. -/
structure Signature where
  name : Text
  /-- The names and the types of the arguments. -/
  arguments : List (Text × Text)
  result : Text
  isName : Text.isIdentifier name = true
  named : ∀ argument ∈ arguments, Text.isIdentifier argument.1 = true
  typed : ∀ argument ∈ arguments, IsTypeHint argument.2
  returns : IsTypeHint result

/-- The text of an argument and its type. -/
def argumentText (argument : Text × Text) : Text := argument.1 ++ ": ".toList ++ argument.2

namespace Signature

def argumentsText (signature : Signature) : Text :=
  Text.join ", ".toList (signature.arguments.map argumentText)

def text (signature : Signature) : Text :=
  signature.name ++ "(".toList ++ signature.argumentsText ++ ") -> ".toList ++
    signature.result ++ ":".toList

/-- The line of a trace with a signature. -/
def line (signature : Signature) : Text := "+ def ".toList ++ signature.text

end Signature

/-- What is shown of the type of an argument: what stands before its first comma. If there is none,
the parenthesis behind the last argument is shown, too. -/
def shownType (isLast : Bool) (type : Text) : Text :=
  if ',' ∈ type then Text.strip (type.takeWhile (· != ','))
  else if isLast then type ++ ")".toList else type

/-- The arguments of a signature as they are shown. -/
def shownArguments (arguments : List (Text × Text)) : List (Text × Text) :=
  arguments.mapIdx fun index argument =>
    (argument.1, shownType (index + 1 == arguments.length) argument.2)

/-- The rows of a signature in a module. -/
def Signature.rows (signature : Signature) (source : Text) : List FinalRow :=
  (shownArguments signature.arguments).map fun shown =>
    { source, subject := signature.name, result := signature.result ++ ":".toList,
      argument := shown.1, argumentType := shown.2, survey := "RightTyper".toList }

/-! ## Arguments -/

theorem signatureArguments_append (front back : Text) :
    signatureArguments (front ++ ',' :: back) =
      signatureArguments front ++ signatureArguments back := by
  have comma : Text.Apart [','] := Text.apart_of_getLast? rfl (by simp)
  have pieces := Text.split_append (List.cons_ne_nil ',' []) comma front back
  rw [List.append_assoc, List.singleton_append] at pieces
  rw [signatureArguments, pieces, List.map_append, List.filterMap_append]
  rfl

theorem signatureArguments_of_colonless {text : Text} (absent : ':' ∉ text) :
    signatureArguments text = [] := by
  rw [signatureArguments, List.filterMap_eq_nil_iff]
  intro piece member
  obtain ⟨part, split, rfl⟩ := List.mem_map.mp member
  apply atColon?_of_notMem
  intro colon
  exact absent (Text.subset_of_mem_split (by decide) split (Text.strip_subset part colon))

theorem signatureArguments_of_commaless {text : Text} (absent : ',' ∉ text) :
    signatureArguments text = (atColon? (Text.strip text)).toList := by
  have single : Text.split [','] text = [text] := by
    apply Text.split_of_absent
    rwa [List.singleton_infix_iff]
  rw [signatureArguments, single, List.map_singleton, List.filterMap_cons, List.filterMap_nil]
  cases atColon? (Text.strip text) <;> rfl

theorem atColon?_strip_argumentText {gap name : Text}
    (blank : ∀ letter ∈ gap, Text.isBlank letter = true) (isName : Text.isIdentifier name = true)
    (type : Text) :
    atColon? (Text.strip (gap ++ argumentText (name, type))) = some (name, Text.strip type) := by
  have shape : argumentText (name, type) = name ++ ':' :: (" ".toList ++ type) := by
    rw [argumentText, List.append_assoc]
    rfl
  have stripped : Text.strip (name ++ ':' :: (" ".toList ++ type)) =
      name ++ ':' :: Text.stripEnd (" ".toList ++ type) := by
    obtain ⟨letter, rest, rfl⟩ := List.exists_cons_of_ne_nil (Text.ne_nil_of_isIdentifier isName)
    have solid := Text.isBlank_of_isIdentifier isName letter List.mem_cons_self
    rw [Text.strip, Text.trim, List.cons_append, List.dropWhile_cons_of_neg (by simp [solid]),
      ← List.cons_append, Text.trimEnd_append_cons (by decide)]
    rfl
  have space : Text.strip (Text.stripEnd (" ".toList ++ type)) = Text.strip type := by
    rw [Text.strip_stripEnd, Text.strip_append_left Text.isBlank_space]
  have colon : ':' ∉ name := Text.notMem_of_isIdentifier isName (by decide)
  rw [Text.strip_append_left blank, shape, stripped, atColon?, if_pos (by simp)]
  simp only [Text.takeWhile_bne_append colon, Text.drop_mark, Text.strip_of_isIdentifier isName,
    space]

theorem signatureArguments_argumentText {gap name type : Text}
    (blank : ∀ letter ∈ gap, Text.isBlank letter = true) (isName : Text.isIdentifier name = true)
    (whole : ',' ∉ type) :
    signatureArguments (gap ++ argumentText (name, type)) = [(name, Text.strip type)] := by
  have inName : ',' ∉ name := Text.notMem_of_isIdentifier isName (by decide)
  have commaless : ',' ∉ gap ++ argumentText (name, type) := by
    have inGap : ',' ∉ gap := Text.notMem_of_blank blank rfl
    simp [argumentText, inGap, inName, whole]
  rw [signatureArguments_of_commaless commaless, atColon?_strip_argumentText blank isName]
  rfl

/-- A type hint with a mark behind it neither begins nor ends with a blank. -/
theorem strip_typeHint_mark {type : Text} (typed : IsTypeHint type) {mark : Char}
    (solid : Text.isBlank mark = false) : Text.strip (type ++ [mark]) = type ++ [mark] := by
  refine Text.strip_eq_self (typed.isBlank_head?_append _) ?_
  rw [List.getLast?_concat]
  intro other same
  rwa [← Option.some.inj same]

/-- What stands between an argument and the arrow or the comma behind it. -/
def closing (isLast : Bool) : Text := if isLast then ") ".toList else []

theorem colon_notMem_closing (isLast : Bool) : ':' ∉ closing isLast := by
  cases isLast <;> decide

/-- A type without commas is shown with the parenthesis behind it. -/
theorem strip_append_closing {type : Text} (typed : IsTypeHint type) (isLast : Bool) :
    Text.strip (type ++ closing isLast) = if isLast then type ++ ")".toList else type := by
  cases isLast with
  | false =>
    have none : type ++ closing false = type := List.append_nil type
    rw [none, if_neg Bool.false_ne_true]
    have first := typed.isBlank_head?_append []
    rw [List.append_nil] at first
    exact Text.strip_eq_self first typed.isBlank_getLast?
  | true =>
    have shape : closing true = ")".toList ++ " ".toList := rfl
    rw [shape, ← List.append_assoc, Text.strip_append_right Text.isBlank_space, if_pos rfl]
    exact strip_typeHint_mark typed rfl

/-- An argument is shown with a part of its type only if there are commas in it. -/
theorem signatureArguments_argument {gap : Text} {argument : Text × Text}
    (blank : ∀ letter ∈ gap, Text.isBlank letter = true)
    (isName : Text.isIdentifier argument.1 = true) (typed : IsTypeHint argument.2)
    (isLast : Bool) :
    signatureArguments (gap ++ argumentText argument ++ closing isLast) =
      [(argument.1, shownType isLast argument.2)] := by
  obtain ⟨name, type⟩ := argument
  by_cases comma : ',' ∈ type
  · -- What follows the first comma has no colon, and so it is no argument.
    obtain ⟨front, back, rfl, first⟩ := List.eq_append_cons_of_mem comma
    have colonless : ':' ∉ back ++ closing isLast := by
      have inType := @IsTypeHint.notMem_of_mark _ typed ':' (by decide)
      simp only [List.mem_append, List.mem_cons, not_or] at inType ⊢
      exact ⟨inType.2.2, colon_notMem_closing isLast⟩
    have shape : gap ++ argumentText (name, front ++ ',' :: back) ++ closing isLast =
        gap ++ argumentText (name, front) ++ ',' :: (back ++ closing isLast) := by
      simp [argumentText]
    rw [shape, signatureArguments_append, signatureArguments_argumentText blank isName first,
      signatureArguments_of_colonless colonless, shownType, if_pos comma,
      Text.takeWhile_bne_append first, List.append_nil]
  · have whole : ',' ∉ type ++ closing isLast := by
      rw [List.mem_append, not_or]
      exact ⟨comma, by cases isLast <;> decide⟩
    have shape : gap ++ argumentText (name, type) ++ closing isLast =
        gap ++ argumentText (name, type ++ closing isLast) := by
      simp [argumentText]
    rw [shape, signatureArguments_argumentText blank isName whole, strip_append_closing typed,
      shownType, if_neg comma]

theorem shownArguments_cons_cons (argument second : Text × Text) (rest : List (Text × Text)) :
    shownArguments (argument :: second :: rest) =
      (argument.1, shownType false argument.2) :: shownArguments (second :: rest) := by
  simp [shownArguments, List.mapIdx_cons]

theorem signatureArguments_join {arguments : List (Text × Text)} {gap : Text}
    (blank : ∀ letter ∈ gap, Text.isBlank letter = true)
    (named : ∀ argument ∈ arguments, Text.isIdentifier argument.1 = true)
    (typed : ∀ argument ∈ arguments, IsTypeHint argument.2) :
    signatureArguments (gap ++ Text.join ", ".toList (arguments.map argumentText) ++
      closing true) = shownArguments arguments := by
  induction arguments generalizing gap with
  | nil =>
    apply signatureArguments_of_colonless
    simp only [List.map_nil, Text.join, List.append_nil, List.mem_append, not_or]
    exact ⟨Text.notMem_of_blank blank rfl, colon_notMem_closing true⟩
  | cons argument rest induction =>
    have inNames := List.forall_mem_cons.mp named
    have inTypes := List.forall_mem_cons.mp typed
    cases rest with
    | nil => exact signatureArguments_argument blank inNames.1 inTypes.1 true
    | cons second rest =>
      have shape : gap ++ Text.join ", ".toList
            ((argument :: second :: rest).map argumentText) ++ closing true =
          gap ++ argumentText argument ++ closing false ++ ',' ::
            (" ".toList ++ Text.join ", ".toList ((second :: rest).map argumentText) ++
              closing true) := by
        simp [Text.join_cons_cons, closing]
      rw [shape, signatureArguments_append,
        signatureArguments_argument blank inNames.1 inTypes.1 false,
        induction Text.isBlank_space inNames.2 inTypes.2,
        shownArguments_cons_cons]
      rfl

/-! ## Rows -/

namespace Signature

variable (signature : Signature)

theorem notMem_argumentsText {mark : Char} (foreign : Text.isIdentifierContinue mark = false)
    (isMark : mark ∈ "():->.".toList) (between : mark ∉ ", ".toList) (apart : mark ∉ ": ".toList) :
    mark ∉ signature.argumentsText := by
  intro member
  rcases Text.mem_of_mem_join member with comma | ⟨piece, listed, inside⟩
  · exact between comma
  · obtain ⟨argument, place, rfl⟩ := List.mem_map.mp listed
    have inName := Text.notMem_of_isIdentifier (signature.named argument place) foreign
    have inType := (signature.typed argument place).notMem_of_mark isMark
    rcases List.mem_append.mp inside with front | type
    · rcases List.mem_append.mp front with name | colon
      · exact inName name
      · exact apart colon
    · exact inType type

theorem line_eq : signature.line = "+ def ".toList ++ signature.text := rfl

theorem text_eq : signature.text =
    signature.name ++ '(' :: (signature.argumentsText ++ closing true) ++ arrow ++
      (" ".toList ++ (signature.result ++ [':'])) := by
  simp [text, closing, arrow_eq]

/-- The one arrow of a signature stands before its result. -/
theorem split_text : Text.split arrow signature.text =
    [signature.name ++ '(' :: (signature.argumentsText ++ closing true),
      " ".toList ++ (signature.result ++ [':'])] := by
  have pointless {text : Text} (absent : '>' ∉ text) : Text.split arrow text = [text] := by
    apply Text.split_of_absent
    intro found
    exact absent (found.subset (by decide))
  have inName : '>' ∉ signature.name := Text.notMem_of_isIdentifier signature.isName (by decide)
  have inArguments := @notMem_argumentsText signature '>' (by decide) (by decide) (by decide)
    (by decide)
  have inResult := @IsTypeHint.notMem_of_mark _ signature.returns '>' (by decide)
  rw [text_eq, split_arrow, pointless (by simp [inName, inArguments, closing]),
    pointless (by simp [inResult])]
  rfl

/-- A signature has one row for each of its arguments. -/
theorem signatureRows_text (source : Text) :
    signatureRows source signature.text = .ok (signature.rows source) := by
  have opening : '(' ∉ signature.name := Text.notMem_of_isIdentifier signature.isName (by decide)
  -- The space before the arrow keeps the parenthesis behind the arguments from being removed.
  have closed : Text.trimEnd (· == ')') (signature.argumentsText ++ closing true) =
      [] ++ signature.argumentsText ++ closing true := by
    have shape : signature.argumentsText ++ closing true =
        (signature.argumentsText ++ [')']) ++ ' ' :: [] := by
      simp [closing]
    rw [shape, Text.trimEnd_append_cons (by decide)]
    simp [closing, Text.trimEnd]
  have result : Text.strip (" ".toList ++ (signature.result ++ [':'])) =
      signature.result ++ ":".toList := by
    rw [Text.strip_append_left Text.isBlank_space]
    exact strip_typeHint_mark signature.returns rfl
  rw [signatureRows, show Text.split "->".toList signature.text = _ from signature.split_text]
  simp only [List.contains_eq_mem, List.mem_append, List.mem_cons, true_or, or_true, decide_true,
    if_true, Text.takeWhile_bne_append opening, Text.drop_mark, closed, result,
    Text.strip_of_isIdentifier signature.isName]
  rw [argumentsText,
    signatureArguments_join (List.forall_mem_nil _) signature.named signature.typed]
  rfl

/-- A signature does not look like the line that names a module. -/
theorem moduleLine?_line : moduleLine? signature.line = none := by
  rw [moduleLine?_eq_none_iff]
  intro named
  have inName : '.' ∉ signature.name := Text.notMem_of_isIdentifier signature.isName (by decide)
  have inArguments := @notMem_argumentsText signature '.' (by decide) (by decide) (by decide)
    (by decide)
  have inResult := @IsTypeHint.notMem_of_mark _ signature.returns '.' (by decide)
  have dot : '.' ∈ signature.line := named.subset (by decide)
  simp [line_eq, text, inName, inArguments, inResult] at dot

theorem strip_line : Text.strip signature.line = signature.line := by
  apply Text.strip_eq_self
  · intro letter first
    obtain rfl := Option.some.inj first
    rfl
  · rw [line_eq, text, ← List.append_assoc, show ":".toList = [':'] from rfl, List.getLast?_concat]
    intro letter last
    obtain rfl := Option.some.inj last
    rfl

theorem tracedRows_line (source : Text) (after : List Text) :
    rowsOf readTracedLine source (signature.line :: after) =
      rowsThen (.ok (signature.rows source)) (rowsOf readTracedLine source after) := by
  have marked : "+ def ".toList.isPrefixOf signature.line = true :=
    List.isPrefixOf_iff_prefix.mpr (List.prefix_append _ _)
  have behind : signature.line.drop 6 = signature.text := List.drop_left' (by decide)
  refine rowsOf_cons ?_ after
  rw [strip_line, readTracedLine, moduleLine?_line]
  simp only [marked, if_true, behind, signatureRows_text]
  rfl

end Signature

/-! ## Traces -/

/-- The module that is named last, or else a module that was named before. -/
def moduleAfter (source : Text) (lines : List Text) : Text :=
  lines.foldl (fun source line => (moduleLine? (Text.strip line)).getD source) source

theorem eq_of_readTracedLine (source after line : Text) (rows : List FinalRow)
    (read : readTracedLine source line = .ok (after, rows)) :
    after = (moduleLine? line).getD source := by
  unfold readTracedLine at read
  cases named : moduleLine? line with
  | some module_ =>
    rw [named] at read
    cases read
    rfl
  | none =>
    rw [named] at read
    dsimp only at read
    split_ifs at read
    · obtain ⟨_, -, ⟨⟩⟩ := bind_eq_ok.mp read
      rfl
    · cases read
      rfl

theorem tracedRows_append (source : Text) (front back : List Text) :
    rowsOf readTracedLine source (front ++ back) =
      rowsThen (rowsOf readTracedLine source front)
        (rowsOf readTracedLine (moduleAfter source front) back) :=
  rowsOf_append eq_of_readTracedLine source front back

theorem Signature.tracedRows_append_line (signature : Signature) {source : Text}
    {front after : List Text} {rows : List FinalRow} :
    rowsOf readTracedLine source (front ++ signature.line :: after) = .ok rows ↔ ∃ first later,
      rowsOf readTracedLine source front = .ok first ∧
        rowsOf readTracedLine (moduleAfter source front) after = .ok later ∧
        rows = first ++ signature.rows (moduleAfter source front) ++ later := by
  simp only [tracedRows_append, signature.tracedRows_line, rowsThen_eq_ok_iff]
  constructor
  · rintro ⟨first, _, here, ⟨_, later, ⟨⟩, there, rfl⟩, rfl⟩
    exact ⟨first, later, here, there, (List.append_assoc _ _ _).symm⟩
  · rintro ⟨first, later, here, there, rfl⟩
    exact ⟨first, _, here, ⟨_, later, rfl, there, rfl⟩, List.append_assoc _ _ _⟩

theorem tracedSection_contents (text : Text) :
    tracedSection (.contents (Text.encodeUtf8 text)) =
      rowsOf readTracedLine [] (Text.solidLines text) := by
  rw [tracedSection_eq, TraceFile.rows, Text.decodeUtf8_encodeUtf8,
    ← Text.solid_lines_normalizeNewlines, rowsOf_solid fun _ => rfl]

/-- The line that names a module in a directory. -/
def headerLine (directory module_ : Text) : Text :=
  directory ++ "/".toList ++ (module_ ++ ".py:".toList)

theorem moduleLine?_headerLine {module_ : Text} (plain : '/' ∉ module_) (directory : Text) :
    moduleLine? (headerLine directory module_) = some (module_ ++ ".py".toList) := by
  have slash : Text.Apart ['/'] := Text.apart_of_getLast? rfl (by simp)
  have single : Text.split ['/'] (module_ ++ ".py".toList) = [module_ ++ ".py".toList] := by
    apply Text.split_of_absent
    rw [List.singleton_infix_iff]
    simp [plain]
  have pieces := Text.split_append (List.cons_ne_nil '/' []) slash directory
    (module_ ++ ".py".toList)
  have ends : Text.endsWith ".py:".toList (headerLine directory module_) = true := by
    rw [Text.endsWith, List.isSuffixOf_iff_suffix, headerLine, ← List.append_assoc]
    exact List.suffix_append _ _
  have path : (headerLine directory module_).dropLast =
      directory ++ ['/'] ++ (module_ ++ ".py".toList) := by
    rw [headerLine, show ".py:".toList = ".py".toList ++ [':'] from rfl,
      ← List.append_assoc module_, ← List.append_assoc, List.dropLast_concat]
    rfl
  have long : module_ ++ ".py".toList ≠ ['.'] := by
    intro same
    have length := congrArg List.length same
    simp at length
  have named : [module_ ++ ".py".toList].filter (fun part => !part.isEmpty && part != ['.']) =
      [module_ ++ ".py".toList] := by
    rw [List.filter_eq_self, List.forall_mem_singleton, Bool.and_eq_true, bne_iff_ne]
    exact ⟨by simp, long⟩
  rw [moduleLine?, if_pos ends, path, pathName, pieces, single, List.filter_append, named,
    List.getLast?_concat]
  rfl

theorem moduleAfter_of_unnamed {lines : List Text}
    (unnamed : ∀ line ∈ lines, ¬ ".py:".toList <:+ Text.strip line) (source : Text) :
    moduleAfter source lines = source := by
  induction lines with
  | nil => rfl
  | cons line lines induction =>
    rw [List.forall_mem_cons] at unnamed
    rw [moduleAfter, List.foldl_cons, moduleLine?_eq_none_iff.mpr unnamed.1]
    exact induction unnamed.2

/-- Below the line that names a module its name holds until the next such line. -/
theorem moduleAfter_headerLine {directory module_ : Text} {before between : List Text}
    (plain : '/' ∉ module_) (unnamed : ∀ line ∈ between, ¬ ".py:".toList <:+ line)
    (stripped : ∀ line ∈ headerLine directory module_ :: between, Text.strip line = line)
    (source : Text) :
    moduleAfter source (before ++ headerLine directory module_ :: between) =
      module_ ++ ".py".toList := by
  have kept : ∀ line ∈ between, ¬ ".py:".toList <:+ Text.strip line := by
    intro line member
    rw [stripped line (List.mem_cons_of_mem _ member)]
    exact unnamed line member
  have named : moduleLine? (Text.strip (headerLine directory module_)) =
      some (module_ ++ ".py".toList) := by
    rw [stripped _ List.mem_cons_self, moduleLine?_headerLine plain]
  rw [moduleAfter, List.foldl_append, List.foldl_cons, named]
  exact moduleAfter_of_unnamed kept _

/-! ## The final report -/

section Reports

variable {folder after : Folder} {trace : TraceFile} {output : Text}

theorem readRecords_of_sections (sections : Sections folder trace)
    (reported : reportFinal folder trace = .ok (after, output)) :
    after.readRecords finalReportPath = .ok (finalColumns :: numberedFields 1 sections.rows) := by
  obtain ⟨others, read⟩ := readRecords_of_reportFinal reported
  have same : others.rows = sections.rows :=
    Except.ok.inj (others.finalRows_eq.symm.trans sections.finalRows_eq)
  rw [read, same]

/-- If there is a final report with some trace, then there is one with any trace that has rows. -/
theorem exists_reportFinal_of_sections {trace' : TraceFile} (sections : Sections folder trace')
    (reported : reportFinal folder trace = .ok (after, output)) :
    ∃ made, reportFinal folder trace' = .ok made := by
  obtain ⟨_, -, written, -⟩ := reportFinal_eq_ok_iff.mp reported
  exact sections.exists_reportFinal (Folder.writable_of_write written)

/-- The sections of a report with the rows of another trace. -/
def Sections.retrace (sections : Sections folder trace) {trace' : TraceFile}
    {rows : List FinalRow} (traced_eq : tracedSection trace' = .ok rows) :
    Sections folder trace' :=
  { sections with traced := rows, traced_eq }

theorem Sections.rows_retrace (sections : Sections folder trace) {trace' : TraceFile}
    {rows : List FinalRow} (traced_eq : tracedSection trace' = .ok rows) :
    (sections.retrace traced_eq).rows =
      sections.hintRows ++ sections.runningRows ++ sections.named ++ rows := rfl

end Reports

/-- A signature below the line that names its module adds one row for each of its arguments to the
final report. A row has the name of the module, the name of the function and the name of the
argument. The type of the result has a colon behind it. The type of the argument ends at its first
comma; if it has none and the argument is the last one, it has a parenthesis behind it. -/
theorem signature_rows_shown (folder : Folder) (signature : Signature)
    {directory module_ text without : Text} {before between after : List Text}
    (plain : '/' ∉ module_) (unnamed : ∀ line ∈ between, ¬ ".py:".toList <:+ line)
    (traced : Text.solidLines text =
      before ++ headerLine directory module_ :: between ++ signature.line :: after)
    (untraced : Text.solidLines without =
      before ++ headerLine directory module_ :: between ++ after) :
    ((∃ made, reportFinal folder (.contents (Text.encodeUtf8 text)) = .ok made) ↔
      ∃ made, reportFinal folder (.contents (Text.encodeUtf8 without)) = .ok made) ∧
    ∀ longer shorter output output',
      reportFinal folder (.contents (Text.encodeUtf8 text)) = .ok (longer, output) →
      reportFinal folder (.contents (Text.encodeUtf8 without)) = .ok (shorter, output') →
      ∃ front back,
        shorter.readRecords finalReportPath =
          .ok (finalColumns :: numberedFields 1 (front ++ back)) ∧
        longer.readRecords finalReportPath = .ok (finalColumns ::
          numberedFields 1 (front ++ signature.rows (module_ ++ ".py".toList) ++ back)) := by
  have source : moduleAfter [] (before ++ headerLine directory module_ :: between) =
      module_ ++ ".py".toList := by
    refine moduleAfter_headerLine plain unnamed (fun line member => ?_) []
    have listed : line ∈ Text.solidLines without := by
      rw [untraced]
      exact List.mem_append_left after (List.mem_append_right before member)
    exact Text.strip_of_mem_solidPieces listed
  have rows_iff {rows : List FinalRow} :
      tracedSection (.contents (Text.encodeUtf8 text)) = .ok rows ↔ ∃ first later,
        rowsOf readTracedLine [] (before ++ headerLine directory module_ :: between) = .ok first ∧
        rowsOf readTracedLine (module_ ++ ".py".toList) after = .ok later ∧
        rows = first ++ signature.rows (module_ ++ ".py".toList) ++ later := by
    rw [tracedSection_contents, traced, signature.tracedRows_append_line, source]
  have rows_iff' {rows : List FinalRow} :
      tracedSection (.contents (Text.encodeUtf8 without)) = .ok rows ↔ ∃ first later,
        rowsOf readTracedLine [] (before ++ headerLine directory module_ :: between) = .ok first ∧
        rowsOf readTracedLine (module_ ++ ".py".toList) after = .ok later ∧
        rows = first ++ later := by
    rw [tracedSection_contents, untraced, tracedRows_append, source, rowsThen_eq_ok_iff]
  constructor
  · constructor
    · rintro ⟨⟨longer, output⟩, reported⟩
      obtain ⟨sections, -⟩ := readRecords_of_reportFinal reported
      obtain ⟨first, later, here, there, -⟩ := rows_iff.mp sections.traced_eq
      exact exists_reportFinal_of_sections
        (sections.retrace (rows_iff'.mpr ⟨first, later, here, there, rfl⟩)) reported
    · rintro ⟨⟨shorter, output⟩, reported⟩
      obtain ⟨sections, -⟩ := readRecords_of_reportFinal reported
      obtain ⟨first, later, here, there, -⟩ := rows_iff'.mp sections.traced_eq
      exact exists_reportFinal_of_sections
        (sections.retrace (rows_iff.mpr ⟨first, later, here, there, rfl⟩)) reported
  · intro longer shorter output output' reported reported'
    obtain ⟨sections, -⟩ := readRecords_of_reportFinal reported
    obtain ⟨first, later, here, there, -⟩ := rows_iff.mp sections.traced_eq
    have long := readRecords_of_sections
      (sections.retrace (rows_iff.mpr ⟨first, later, here, there, rfl⟩)) reported
    have short := readRecords_of_sections
      (sections.retrace (rows_iff'.mpr ⟨first, later, here, there, rfl⟩)) reported'
    refine ⟨sections.hintRows ++ sections.runningRows ++ sections.named ++ first, later, ?_, ?_⟩
    · rw [short, Sections.rows_retrace, List.append_assoc _ first]
    · rw [long, Sections.rows_retrace]
      simp only [List.append_assoc]

/-- A part of a type hint without gaps. -/
def Spaced.tight (part : Text) : Spaced := ⟨[], part, [], List.forall_mem_nil _⟩

theorem isTypeHint_nested : IsTypeHint "list[dict[str, int]]".toList := by
  have entries : IsTypeHint "dict[str, int]".toList :=
    @IsTypeHint.subscript "dict".toList (.tight ['[']) (.tight "str".toList)
      [⟨[' '], "int".toList, [], by simp [isGap]⟩] (.name (by decide)) rfl
      (List.forall_mem_cons.mpr
        ⟨.name (by decide), List.forall_mem_singleton.mpr (.name (by decide))⟩)
  exact @IsTypeHint.subscript "list".toList (.tight ['[']) (.tight "dict[str, int]".toList) []
    (.name (by decide)) rfl (List.forall_mem_singleton.mpr entries)

/-- A signature with brackets and a comma in the type of an argument. -/
def nestedSignature : Signature where
  name := "save_tasks".toList
  arguments := [("tasks".toList, "list[dict[str, int]]".toList), ("count".toList, "int".toList)]
  result := "None".toList
  isName := by decide
  named := by decide
  typed := List.forall_mem_cons.mpr
    ⟨isTypeHint_nested, List.forall_mem_singleton.mpr (.name (by decide))⟩
  returns := .name (by decide)

/-- A trace with other signatures before and behind some text. -/
def traceAround (inserted : Text) : Text :=
  "src/cli.py:\n+ def f(x: str) -> int:\n\nsrc/task_manager.py:\r\n- def g(y):\n".toList ++
    inserted ++ "+ def g(y: str) -> int:\n".toList

theorem signature_rows_shown_nestedSignature :
    ∃ longer shorter output output' front back,
      reportFinal mixedFolder (.contents (Text.encodeUtf8
        (traceAround (" ".toList ++ nestedSignature.line ++ "\n".toList)))) =
          .ok (longer, output) ∧
      reportFinal mixedFolder (.contents (Text.encodeUtf8 (traceAround []))) =
        .ok (shorter, output') ∧
      shorter.readRecords finalReportPath =
        .ok (finalColumns :: numberedFields 1 (front ++ back)) ∧
      longer.readRecords finalReportPath = .ok (finalColumns ::
        numberedFields 1 (front ++ nestedSignature.rows "task_manager.py".toList ++ back)) := by
  obtain ⟨same, rows⟩ := @signature_rows_shown mixedFolder nestedSignature "src".toList
    "task_manager".toList (traceAround (" ".toList ++ nestedSignature.line ++ "\n".toList))
    (traceAround []) ["src/cli.py:".toList, "+ def f(x: str) -> int:".toList] ["- def g(y):".toList]
    ["+ def g(y: str) -> int:".toList] (by decide) (by decide) (by decide +kernel)
    (by decide +kernel)
  obtain ⟨⟨shorter, output'⟩, reported'⟩ := @exists_of_isOk _ _
    (reportFinal mixedFolder (.contents (Text.encodeUtf8 (traceAround [])))) (by decide +kernel)
  obtain ⟨⟨longer, output⟩, reported⟩ := same.mpr ⟨_, reported'⟩
  obtain ⟨front, back, short, long⟩ := rows longer shorter output output' reported reported'
  exact ⟨longer, shorter, output, output', front, back, reported, reported', short, long⟩

/-- A trace with one signature only. -/
def nestedTrace : TraceFile :=
  .contents (Text.encodeUtf8 ("src/task_manager.py:\n".toList ++ nestedSignature.line))

/-- A type is shown in part, and a parenthesis and colons are shown with the other types. -/
theorem signature_shown_with_marks :
    (do
      let made ← (reportFinal ⟨reportPaths.map fun path => ([path], [])⟩ nestedTrace).toOption
      (made.1.readRecords finalReportPath).toOption) =
    some [finalColumns,
      ["1", "task_manager.py", "save_tasks", "None:", "tasks", "list[dict[str",
        "RightTyper", "", ""].map String.toList,
      ["2", "task_manager.py", "save_tasks", "None:", "count", "int)",
        "RightTyper", "", ""].map String.toList] := by
  decide +kernel

end Survey

end TypeSurvey
