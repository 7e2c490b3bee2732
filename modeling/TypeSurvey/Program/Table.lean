import TypeSurvey.Program.Option
import TypeSurvey.Program.Outcome

/-!
# The command that draws tables

The command reads lines of fields from files or from its input and draws each of them as a table, on
its output or into a file.
-/

namespace TypeSurvey.Program

def tableShortOptions : List Known :=
  [⟨['h'], false⟩, ⟨['1'], false⟩, ⟨['o'], true⟩, ⟨['s'], true⟩, ⟨['F'], true⟩, ⟨['A'], true⟩,
   ⟨['f'], true⟩]

def tableLongOptions : List Known :=
  [⟨"help".toList, false⟩, ⟨"header".toList, false⟩, ⟨"output".toList, false⟩, ⟨"sep".toList, true⟩,
   ⟨"float".toList, true⟩, ⟨"int".toList, true⟩, ⟨"align".toList, true⟩, ⟨"format".toList, true⟩]

/-- What is shown as help. -/
def tableUsage : Text :=
  ("Usage: tabulate [options] [FILE ...]\n\nPretty-print tabular data.\n" ++
    "See also https://github.com/astanin/python-tabulate\n\n" ++
    "FILE                      a filename of the file with tabular data;\n" ++
    "                          if \"-\" or missing, read data from stdin.\n\nOptions:\n\n" ++
    "-h, --help                show this message\n" ++
    "-1, --header              use the first row of data as a table header\n" ++
    "-o FILE, --output FILE    print table to FILE (default: stdout)\n" ++
    "-s REGEXP, --sep REGEXP   use a custom column separator (default: whitespace)\n" ++
    "-F FPFMT, --float FPFMT   floating point number format (default: g)\n" ++
    "-I INTFMT, --int INTFMT   integer point number format (default: \"\")\n" ++
    "-f FMT, --format FMT      set output table format; supported formats:\n" ++
    "                          plain, simple, grid, fancy_grid, pipe, orgtbl,\n" ++
    "                          rst, mediawiki, html, latex, latex_raw,\n" ++
    "                          latex_booktabs, latex_longtable, tsv\n" ++
    "                          (default: simple)\n").toList

/-! ## Settings -/

/-- What the options of the command ask for. -/
structure TableSettings where
  /-- Whether the first row is the header. -/
  header : Bool := false
  /-- Where the tables go; a hyphen is the output. -/
  target : Text := ['-']
  /-- The pattern between two fields. -/
  separator : Text := "\\s+".toList
  realFormat : Text := ['g']
  integerFormat : Text := []
  style : Text := "simple".toList

/-- What the command shows instead of tables: the output and the code. -/
structure EarlyExit where
  output : Text
  code : Nat

/-- Takes an option into account. -/
def TableSettings.apply (settings : TableSettings) (given : Given) :
    Except EarlyExit TableSettings :=
  let isNamed (names : List String) : Bool := names.any fun name => name.toList == given.name
  if isNamed ["-1", "--header"] then .ok { settings with header := true }
  else if isNamed ["-o", "--output"] then .ok { settings with target := given.argument }
  else if isNamed ["-F", "--float"] then .ok { settings with realFormat := given.argument }
  else if isNamed ["--int"] then .ok { settings with integerFormat := given.argument }
  else if isNamed ["-f", "--format"] then
    if (Table.Style.byName? given.argument).isSome then
      .ok { settings with style := given.argument }
    else
      .error ⟨given.argument ++ " is not a supported table format\n".toList ++ tableUsage ++ ['\n'],
        3⟩
  else if isNamed ["-s", "--sep"] then .ok { settings with separator := given.argument }
  else if isNamed ["-h", "--help"] then .error ⟨tableUsage ++ ['\n'], 0⟩
  else .ok settings

/-- The settings and the operands of a command line. -/
def readTableSettings (words : List Text) : Except EarlyExit (TableSettings × List Text) :=
  match readOptions tableShortOptions tableLongOptions words.length words with
  | .error fault => .error ⟨fault.message ++ '\n' :: tableUsage ++ ['\n'], 2⟩
  | .ok (options, operands) => do
    let settings ← options.foldlM TableSettings.apply {}
    return (settings, operands)

/-! ## Fields -/

/-- What stands between two fields. -/
inductive Separator
  /-- One or more blank characters. -/
  | blanks
  | literal (text : Text)

/-- The separator that a pattern describes: blanks, a tab, or the pattern itself. -/
def Separator.ofPattern (pattern : Text) : Except Fault Separator :=
  if pattern = "\\s+".toList then .ok .blanks
  else if pattern = "\\t".toList then .ok (.literal ['\t'])
  else if pattern = ['['] then .error .openBracket
  else .ok (.literal pattern)

/-- Merges neighbouring separators: empty pieces inside a text are dropped, those at its ends are
kept. -/
def mergePieces : List Text → List Text
  | [] => []
  | [piece] => [piece]
  | first :: rest =>
    let inner := rest.dropLast.filter (!·.isEmpty)
    first :: inner ++ [rest.getLast?.getD []]

def Separator.fields : Separator → Text → List Text
  | blanks, line => mergePieces (Text.splitWhere Text.isBlank line)
  | literal text, line =>
    if text.isEmpty then [] :: line.map (fun letter => [letter]) ++ [[]] else Text.split text line

/-! ## Tables -/

/-- The table of a text, with a line end. Blank lines are passed over. -/
def drawText (settings : TableSettings) (text : Text) : Except Fault Text := do
  let lines := (Text.lines text).filter fun line => !(Text.strip line).isEmpty
  let rows ← lines.mapM fun line => do
    let separator ← Separator.ofPattern settings.separator
    return .list ((separator.fields (Text.stripEnd line)).map .str)
  let options : Table.Options :=
    { headers := if settings.header then .ofString "firstrow" else .list []
      style := .named (.str settings.style)
      realFormat := .str settings.realFormat
      integerFormat := .str settings.integerFormat }
  let table ← (Table.render options (.list rows)).mapError .value
  return table ++ ['\n']

/-- Draws the tables of operands one after the other, up to a fault. A hyphen is the input, which
can be read once. -/
def drawAll (settings : TableSettings) (folder : Folder) (input : Text) :
    List Text → Text × Option Fault
  | [] => ([], none)
  | operand :: rest =>
    let fromInput := operand == ['-']
    let source : Except Fault Text :=
      if fromInput then .ok input else (folder.readText operand).mapError .read
    match source.bind (drawText settings) with
    | .error fault => ([], some fault)
    | .ok table =>
      let (more, fault) := drawAll settings folder (if fromInput then [] else input) rest
      (table ++ more, fault)

/-- Runs the command. A file for the tables is emptied before anything is read. -/
def drawTables (folder : Folder) (words : List Text) (input : Text) : Outcome :=
  match readTableSettings words with
  | .error early => ⟨folder, early.output, .exited (.int early.code)⟩
  | .ok (settings, operands) =>
    let operands := if operands.isEmpty then [['-']] else operands
    let ending (fault : Option Fault) : Ending := match fault with
      | some fault => .failed fault
      | none => .finished
    if settings.target = ['-'] then
      let (output, fault) := drawAll settings folder input operands
      ⟨folder, output, ending fault⟩
    else
      match folder.writeText settings.target [] with
      | .error fault => ⟨folder, [], .failed (.path fault)⟩
      | .ok emptied =>
        let (output, fault) := drawAll settings emptied input operands
        match emptied.writeText settings.target output with
        | .error fault => ⟨emptied, [], .failed (.path fault)⟩
        | .ok folder => ⟨folder, [], ending fault⟩

end TypeSurvey.Program
