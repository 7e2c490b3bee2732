import TypeSurvey.Text.Blank
import TypeSurvey.Text.Chunk
import TypeSurvey.Text.Lines
import TypeSurvey.Text.Styled

/-!
# Wrapping

Running text is broken into lines of a width. Escape sequences take no room; colours that are still
active at the end of a line are switched off there and on again on the next line.

A word wider than a line is cut where its beginning exceeds the room that is left, and the place is
looked for one character after the other. If an indent leaves no room on a line, there may be no
such place; then wrapping does not end.
-/

namespace TypeSurvey.Text

/-- How text is wrapped. -/
structure WrapOptions where
  width : Int := 70
  initialIndent : Text := []
  subsequentIndent : Text := []
  expandsTabs : Bool := true
  /-- Whether every other white space becomes a space. -/
  replacesWhitespace : Bool := true
  /-- Whether two spaces follow the end of a sentence. -/
  fixesSentences : Bool := false
  breaksLongWords : Bool := true
  /-- Whether white space at the ends of lines is dropped. -/
  dropsWhitespace : Bool := true
  breaksOnHyphens : Bool := true
  tabSize : Int := 8
  maxLines : Option Int := none
  /-- What stands for the text left out after the last line. -/
  placeholder : Text := " [...]".toList

/-- The reasons for which text cannot be wrapped. -/
inductive WrapFault
  /-- The width is not positive. -/
  | width (width : Int)
  | placeholder
  | endless
deriving DecidableEq, Repr

/-- The number of visible characters. -/
def visibleWidth (text : Text) : Nat := (visible text).length

/-- White space made uniform before a text is cut into chunks. -/
def smooth (options : WrapOptions) (text : Text) : Text :=
  let text := if options.expandsTabs then expandTabs options.tabSize.toNat text else text
  if options.replacesWhitespace then text.map fun letter => if isGap letter then ' ' else letter
  else text

/-- Whether a chunk ends a sentence: a small letter, a full stop or its like, and perhaps a
quotation mark. -/
def endsSentence (chunk : Text) : Bool :=
  let stops (letters : Text) : Bool := match letters with
    | stop :: letter :: _ => ".!?".toList.contains stop && letter.isLower
    | _ => false
  match chunk.reverse with
  | mark :: before =>
    stops (mark :: before) || ((mark == '"' || mark == apostrophe) && stops before)
  | [] => false

/-- Two spaces between sentences. -/
def fixSentences : List Text → List Text
  | chunk :: gap :: rest =>
    if gap == [' '] && endsSentence chunk then chunk :: [' ', ' '] :: fixSentences rest
    else chunk :: fixSentences (gap :: rest)
  | chunks => chunks

/-- The escape sequences of a text, whole. -/
def sequencesFrom : Nat → Text → List Text
  | 0, _ => []
  | _, [] => []
  | fuel + 1, letter :: rest =>
    match sequence? isWordChar (letter :: rest) with
    | some (_, after) =>
      (letter :: rest).take (rest.length + 1 - after.length) :: sequencesFrom fuel after
    | none => sequencesFrom fuel rest

/-- The sequence that switches all colours off. -/
def colourReset : Text := escape :: "[0m".toList

/-- The colours that are active after more sequences. -/
def activeAfter (active : List Text) (sequences : List Text) : List Text :=
  sequences.foldl (fun active code => if code == colourReset then [] else active ++ [code]) active

/-- A line with the active colours switched on at its start and off at its end, and the colours
that are active after it. -/
def colourLine (active : List Text) (line : Text) : Text × List Text :=
  let after := activeAfter active (sequencesFrom line.length line)
  let shown := active.flatten ++ line
  (if after.isEmpty then shown else shown ++ colourReset, after)

def isBlankText (text : Text) : Bool := text.all isBlank

/-! ## One line -/

/-- A line that is being laid. -/
structure Laid where
  line : List Text
  /-- Their width. -/
  used : Int
  left : List Text

/-- The chunks that fit on a line of which some width is used already. -/
def fillLine (width : Int) : Int → List Text → Laid
  | used, [] => ⟨[], used, []⟩
  | used, chunk :: rest =>
    if used + visibleWidth chunk ≤ width then
      let laid := fillLine width (used + visibleWidth chunk) rest
      { laid with line := chunk :: laid.line }
    else ⟨[], used, chunk :: rest⟩

/-- The number of characters at the start of a chunk before its visible width exceeds the room.
There is none if all beginnings of the chunk fit: the search for one that does not fit never
ends. -/
def fitting? (room : Int) (chunk : Text) : Option Nat :=
  (List.range (chunk.length + 1)).find? fun count => room < visibleWidth (chunk.take (count + 1))

namespace Laid

/-- The room for the beginning of a word. A line without any width is to have room for one
character. -/
def room (width : Int) (laid : Laid) : Int := if width < 1 then 1 else width - laid.used

/-- The line with one more piece. -/
def push (laid : Laid) (piece : Text) (left : List Text) : Laid :=
  ⟨laid.line ++ [piece], laid.used + visibleWidth piece, left⟩

/-- The line with what can be put on it of a word wider than any line, if such a word is next. -/
def placeLongWord? (options : WrapOptions) (width : Int) (laid : Laid) : Option Laid :=
  match laid.left with
  | [] => some laid
  | chunk :: rest =>
    if visibleWidth chunk ≤ width then some laid
    else if options.breaksLongWords then
      (fitting? (laid.room width) chunk).map fun cut =>
        laid.push (chunk.take cut) (chunk.drop cut :: rest)
    else if laid.line.isEmpty then some (laid.push chunk rest)
    else some laid

/-- The line without a blank chunk at its end. -/
def trimmed (options : WrapOptions) (laid : Laid) : Laid :=
  match laid.line.getLast? with
  | some last =>
    if options.dropsWhitespace && isBlankText last then
      { laid with line := laid.line.dropLast, used := laid.used - visibleWidth last }
    else laid
  | none => laid

end Laid

/-- The chunks of a line with the placeholder after as many of them as leave room for it; the
chunks are given backwards. -/
def withPlaceholder? (options : WrapOptions) (width : Int) : Int → List Text → Option (List Text)
  | _, [] => none
  | used, chunk :: before =>
    if !isBlankText chunk && used + visibleWidth options.placeholder ≤ width then
      some ((options.placeholder :: chunk :: before).reverse)
    else withPlaceholder? options width (used - visibleWidth chunk) before

/-! ## Line after line -/

/-- A text that is being wrapped. -/
structure Wrapping where
  chunks : List Text
  /-- The lines made so far, the last first. -/
  lines : List Text := []
  active : List Text := []

namespace Wrapping

/-- What the next line starts with. -/
def indent (options : WrapOptions) (wrapping : Wrapping) : Text :=
  if wrapping.lines.isEmpty then options.initialIndent else options.subsequentIndent

/-- The width that the indent leaves on the next line. -/
def width (options : WrapOptions) (wrapping : Wrapping) : Int :=
  options.width - visibleWidth (wrapping.indent options)

/-- The chunks from the start of the next line on. -/
def upcoming (options : WrapOptions) (wrapping : Wrapping) : List Text :=
  match wrapping.chunks with
  | [] => []
  | first :: rest =>
    if options.dropsWhitespace && isBlankText first && !wrapping.lines.isEmpty then rest
    else first :: rest

/-- The next line with the chunks that fit. -/
def filled (options : WrapOptions) (wrapping : Wrapping) : Laid :=
  fillLine (wrapping.width options) 0 (wrapping.upcoming options)

def add (wrapping : Wrapping) (line : Text) (left : List Text) : Wrapping :=
  let (shown, active) := colourLine wrapping.active line
  ⟨left, shown :: wrapping.lines, active⟩

/-- Whether there may be one more line after the next one, or nothing is left for it. -/
def accepts (options : WrapOptions) (laid : Laid) (wrapping : Wrapping) : Bool :=
  match options.maxLines with
  | none => true
  | some most =>
    let done := laid.left.isEmpty ||
      (options.dropsWhitespace && laid.left.length == 1 && laid.left.all isBlankText)
    decide ((wrapping.lines.length : Int) + 1 < most) ||
      (done && decide (laid.used ≤ wrapping.width options))

/-- The last line of a text of which more is left than may be shown. -/
def close (options : WrapOptions) (laid : Laid) (wrapping : Wrapping) : Wrapping :=
  let indent := wrapping.indent options
  match withPlaceholder? options (wrapping.width options) laid.used laid.line.reverse with
  | some shown => wrapping.add (indent ++ shown.flatten) []
  | none =>
    let plain := wrapping.add (indent ++ options.placeholder.dropWhile isBlank) []
    match wrapping.lines with
    | last :: before =>
      let last := trimEnd isBlank last
      if visibleWidth last + visibleWidth options.placeholder ≤ options.width then
        ⟨[], (last ++ options.placeholder) :: before, wrapping.active⟩
      else plain
    | [] => plain

/-- The text after a line has been laid. A line without chunks is not shown. -/
def finish (options : WrapOptions) (laid : Laid) (wrapping : Wrapping) : Wrapping :=
  if laid.line.isEmpty then { wrapping with chunks := laid.left }
  else if wrapping.accepts options laid then
    wrapping.add (wrapping.indent options ++ laid.line.flatten) laid.left
  else wrapping.close options laid

/-- One pass, for the next line. There is no result if the search for the end of a long word never
ends. -/
def pass? (options : WrapOptions) (wrapping : Wrapping) : Option Wrapping :=
  ((wrapping.filled options).placeLongWord? options (wrapping.width options)).map fun laid =>
    wrapping.finish options (laid.trimmed options)

end Wrapping

/-- The number of chunks and of the characters in them. No more passes than that are made. -/
def bulk : List Text → Nat
  | [] => 0
  | chunk :: chunks => chunk.length + 1 + bulk chunks

/-- Passes until no chunk is left, at most as many as are given. -/
def wrapFrom (options : WrapOptions) : Nat → Wrapping → Option Wrapping
  | 0, wrapping => if wrapping.chunks.isEmpty then some wrapping else none
  | passes + 1, wrapping =>
    if wrapping.chunks.isEmpty then some wrapping
    else wrapping.pass? options >>= wrapFrom options passes

/-- A text before the first pass. -/
def unwrapped (options : WrapOptions) (text : Text) : Wrapping :=
  let text := smooth options text
  let cut := if options.breaksOnHyphens then chunks text else simpleChunks text
  { chunks := if options.fixesSentences then fixSentences cut else cut }

def wrap (options : WrapOptions) (text : Text) : Except WrapFault (List Text) :=
  let first := match options.maxLines with
    | some most => if most > 1 then options.subsequentIndent else options.initialIndent
    | none => []
  if options.width ≤ 0 then .error (.width options.width)
  else if options.maxLines.isSome &&
      ((visibleWidth first + visibleWidth (options.placeholder.dropWhile isBlank) : Nat) : Int)
        > options.width then
    .error .placeholder
  else
    match wrapFrom options (bulk (unwrapped options text).chunks) (unwrapped options text) with
    | some wrapping => .ok wrapping.lines.reverse
    | none => .error .endless

end TypeSurvey.Text
