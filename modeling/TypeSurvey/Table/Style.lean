import TypeSurvey.Table.Align

/-!
# Table styles

A style says how rules and rows are drawn: with marks between the columns, or in the markup of a
document format. Rules and rows drawn with marks have no blanks at their end.
-/

namespace TypeSurvey.Table

/-- The marks of a horizontal rule. -/
structure RuleMarks where
  opening : Text
  /-- What is repeated over the width of a column. -/
  fill : Text
  between : Text
  closing : Text
deriving DecidableEq, Repr

/-- The marks of a row of cells. -/
structure RowMarks where
  opening : Text
  between : Text
  closing : Text
deriving DecidableEq, Repr

/-- The ways of drawing a rule. -/
inductive RuleStyle
  | marks (drawing : RuleMarks)
  /-- With colons for the alignments. -/
  | colons
  /-- The start of a table without a header in HTML. -/
  | htmlTable
  | latexTable (booktabs long : Bool)
  | asciidocTable
deriving DecidableEq, Repr

/-- The ways of drawing a row. -/
inductive RowStyle
  | marks (drawing : RowMarks)
  | mediawiki (mark : Text)
  /-- In MoinMoin, with this mark around each cell's text. -/
  | moin (emphasis : Text)
  | html (header escapes : Bool)
  | latex (escapes : Bool)
  | textile
  | asciidoc (header : Bool)
deriving DecidableEq, Repr

/-- A table style. -/
structure Style where
  above : Option RuleStyle
  belowHeader : Option RuleStyle
  betweenRows : Option RuleStyle
  below : Option RuleStyle
  header : RowStyle
  row : RowStyle
  /-- The number of blanks on either side of a cell. -/
  padding : Nat
  /-- Whether a header takes the place of the rule above. -/
  headerHidesAbove : Bool
  /-- Whether a table with a header has no rule below. -/
  headerHidesBelow : Bool
deriving DecidableEq, Repr

def RowMarks.draw (marks : RowMarks) (cells : List Text) : Text :=
  Text.stripEnd (marks.opening ++ Text.join marks.between cells ++ marks.closing)

/-- A rule drawn with marks over columns of these widths. -/
def RuleMarks.draw (marks : RuleMarks) (widths : List Nat) : Text :=
  RowMarks.draw ⟨marks.opening, marks.between, marks.closing⟩
    (widths.map fun width => Text.times width marks.fill)

/-- The part of a rule under a column of a width, with colons that show the alignment. -/
def colonSegment (alignment : Alignment) (width : Nat) : Text :=
  let dashes (count : Nat) : Text := List.replicate count '-'
  match alignment with
  | .right | .decimal => dashes (width - 1) ++ [':']
  | .center => [':'] ++ dashes (width - 2) ++ [':']
  | .left => ':' :: dashes (width - 1)
  | _ => dashes width

/-- A rule with colons. Without alignments the columns have none. -/
def colonRule (widths : List Nat) (alignments : List Alignment) : Text :=
  let segments :=
    if alignments.isEmpty then widths.map fun width => List.replicate width '-'
    else alignments.zipWith colonSegment widths
  ['|'] ++ Text.join ['|'] segments ++ ['|']

def Alignment.latexLetter : Alignment → Char
  | .right | .decimal => 'r'
  | .center => 'c'
  | _ => 'l'

/-- The start of a table in LaTeX. -/
def latexBegin (booktabs long : Bool) (alignments : List Alignment) : Text :=
  (if long then "\\begin\x7blongtable\x7d\x7b".toList else "\\begin\x7btabular\x7d\x7b".toList) ++
    alignments.map Alignment.latexLetter ++
    (if booktabs then "\x7d\n\\toprule".toList else "\x7d\n\\hline".toList)

/-- The mark of an alignment in AsciiDoc. Other alignments have none. -/
def Alignment.asciidocMark : Alignment → Except Fault Char
  | left => .ok '<'
  | right | decimal => .ok '>'
  | center => .ok '^'
  | absent given => .error (.missingKey given)
  | other given => .error (.missingKey given)

/-- The start of a table in AsciiDoc. -/
def asciidocBegin (header : Bool) (widths : List Nat) (alignments : List Alignment) :
    Except Fault Text := do
  let marks ← alignments.mapM Alignment.asciidocMark
  let columns := widths.zipWith (fun width mark => Text.ofNat width ++ [mark]) marks
  let options := if header then ",options=\"header\"".toList else []
  return "[cols=\"".toList ++ Text.join [','] columns ++ "\"".toList ++ options ++
    "]\n|====".toList

/-- A rule over columns of these widths and alignments. -/
def RuleStyle.draw (style : RuleStyle) (widths : List Nat) (alignments : List Alignment) :
    Except Fault Text :=
  match style with
  | .marks drawing => .ok (drawing.draw widths)
  | .colons => .ok (colonRule widths alignments)
  | .htmlTable => .ok "<table>\n<tbody>".toList
  | .latexTable booktabs long => .ok (latexBegin booktabs long alignments)
  | .asciidocTable => asciidocBegin false widths alignments

/-- The attribute of an alignment in a document format, from its words for right and centre. -/
def Alignment.markup (right center : Text) : Alignment → Text
  | .right | .decimal => right
  | .center => center
  | _ => []

/-- A character with the special characters of HTML escaped. -/
def escapeHtmlChar (letter : Char) : Text :=
  if letter == '&' then "&amp;".toList
  else if letter == '<' then "&lt;".toList
  else if letter == '>' then "&gt;".toList
  else if letter == '"' then "&quot;".toList
  else if letter == Text.apostrophe then "&#x27;".toList
  else [letter]

/-- A text with the special characters of HTML escaped. -/
def escapeHtml (text : Text) : Text := text.flatMap escapeHtmlChar

def cellTag (header : Bool) : Text := if header then "th".toList else "td".toList

def openingTag (header : Bool) (alignment : Alignment) : Text :=
  cellTag header ++ alignment.markup " style=\"text-align: right;\"".toList
    " style=\"text-align: center;\"".toList

def htmlCell (header escapes : Bool) (cell : Text) (alignment : Alignment) : Text :=
  ['<'] ++ openingTag header alignment ++ ['>'] ++ (if escapes then escapeHtml cell else cell) ++
    "</".toList ++ cellTag header ++ ['>']

/-- A row in HTML; a header starts the table. -/
def htmlRow (header escapes : Bool) (cells : List Text) (alignments : List Alignment) : Text :=
  let shown := (cells.zipWith (htmlCell header escapes) alignments).flatten
  let row := "<tr>".toList ++ Text.stripEnd shown ++ "</tr>".toList
  if header then "<table>\n<thead>\n".toList ++ row ++ "\n</thead>\n<tbody>".toList else row

/-- A character with the special characters of LaTeX escaped. -/
def escapeLatexChar (letter : Char) : Text :=
  if "&%$#_\x7b\x7d".toList.contains letter then ['\\', letter]
  else if letter == '^' then "\\^\x7b\x7d".toList
  else if letter == '~' then "\\textasciitilde\x7b\x7d".toList
  else if letter == '\\' then "\\textbackslash\x7b\x7d".toList
  else if letter == '<' then "\\ensuremath\x7b<\x7d".toList
  else if letter == '>' then "\\ensuremath\x7b>\x7d".toList
  else [letter]

def escapeLatex (text : Text) : Text := text.flatMap escapeLatexChar

def latexRow (escapes : Bool) (cells : List Text) : Text :=
  let shown := if escapes then cells.map escapeLatex else cells
  RowMarks.draw ⟨[], ['&'], "\\\\".toList⟩ shown

def mediawikiRow (mark : Text) (cells : List Text) (alignments : List Alignment) : Text :=
  let shown := cells.zipWith (fun cell alignment =>
    [' '] ++ Alignment.markup "align=\"right\"| ".toList "align=\"center\"| ".toList alignment ++
      cell ++ [' ']) alignments
  Text.stripEnd (mark ++ Text.join (mark ++ mark) shown)

def moinRow (emphasis : Text) (cells : List Text) (alignments : List Alignment) : Text :=
  let shown := cells.zipWith (fun cell alignment =>
    "||".toList ++ Alignment.markup "<style=\"text-align: right;\">".toList
      "<style=\"text-align: center;\">".toList alignment ++ [' '] ++ emphasis ++ cell ++ emphasis ++
      [' ']) alignments
  shown.flatten ++ "||".toList

def Alignment.textileMark : Alignment → Text
  | .left => "<.".toList
  | .right | .decimal => ">.".toList
  | .center => "=.".toList
  | _ => []

/-- A row in Textile; the first cell has one more blank. -/
def textileRow (cells : List Text) (alignments : List Alignment) : Except Fault Text :=
  match cells with
  | [] => .error (.indexRange "list".toList)
  | first :: rest =>
    let shown := alignments.zipWith (fun alignment cell => alignment.textileMark ++ cell)
      ((first ++ [' ']) :: rest)
    .ok (['|'] ++ Text.join ['|'] shown ++ ['|'])

/-- A row of cells over columns of these widths and alignments. -/
def RowStyle.draw (style : RowStyle) (cells : List Text) (widths : List Nat)
    (alignments : List Alignment) : Except Fault Text :=
  match style with
  | .marks drawing => .ok (drawing.draw cells)
  | .mediawiki mark => .ok (mediawikiRow mark cells alignments)
  | .moin emphasis => .ok (moinRow emphasis cells alignments)
  | .html header escapes => .ok (htmlRow header escapes cells alignments)
  | .latex escapes => .ok (latexRow escapes cells)
  | .textile => textileRow cells alignments
  | .asciidoc header => do
    let line := ['|'] ++ Text.join ['|'] cells
    if header then return (← asciidocBegin true widths alignments) ++ ['\n'] ++ line
    else return line

namespace Style

/-- A rule drawn with marks. -/
def rule (opening fill between closing : String) : Option RuleStyle :=
  some (.marks ⟨opening.toList, fill.toList, between.toList, closing.toList⟩)

/-- A row drawn with marks. -/
def bars (opening between closing : String) : RowStyle :=
  .marks ⟨opening.toList, between.toList, closing.toList⟩

/-- A style drawn with rules and the same marks for header and rows. -/
def ruled (above belowHeader betweenRows below : Option RuleStyle) (bar : RowStyle)
    (padding : Nat) : Style :=
  ⟨above, belowHeader, betweenRows, below, bar, bar, padding, false, false⟩

/-- Columns with rules of dashes. -/
def simple : Style :=
  { ruled (rule "" "-" "  " "") (rule "" "-" "  " "") none (rule "" "-" "  " "")
      (bars "" "  " "") 0 with
    headerHidesAbove := true, headerHidesBelow := true }

/-- Columns without rules, with a separator between them. -/
def separated (separator : Text) : Style :=
  ruled none none none none (.marks ⟨[], separator, []⟩) 0

/-- A box with rules between the rows, or only around them. -/
def box (rows : Bool) (above belowHeader betweenRows below : Option RuleStyle) (bar : String) :
    Style :=
  ruled above belowHeader (if rows then betweenRows else none) below (bars bar bar bar) 1

def plainBox (rows : Bool) : Style :=
  box rows (rule "+" "-" "+" "+") (rule "+" "=" "+" "+") (rule "+" "-" "+" "+")
    (rule "+" "-" "+" "+") "|"

def singleBox (rows : Bool) : Style :=
  box rows (rule "┌" "─" "┬" "┐") (rule "├" "─" "┼" "┤") (rule "├" "─" "┼" "┤")
    (rule "└" "─" "┴" "┘") "│"

/-- The box of single lines with rounded corners. -/
def roundedBox (rows : Bool) : Style :=
  box rows (rule "╭" "─" "┬" "╮") (rule "├" "─" "┼" "┤") (rule "├" "─" "┼" "┤")
    (rule "╰" "─" "┴" "╯") "│"

def heavyBox (rows : Bool) : Style :=
  box rows (rule "┏" "━" "┳" "┓") (rule "┣" "━" "╋" "┫") (rule "┣" "━" "╋" "┫")
    (rule "┗" "━" "┻" "┛") "┃"

/-- The box of heavy rules and light bars. -/
def mixedBox (rows : Bool) : Style :=
  box rows (rule "┍" "━" "┯" "┑") (rule "┝" "━" "┿" "┥") (rule "├" "─" "┼" "┤")
    (rule "┕" "━" "┷" "┙") "│"

def doubleBox (rows : Bool) : Style :=
  box rows (rule "╔" "═" "╦" "╗") (rule "╠" "═" "╬" "╣") (rule "╠" "═" "╬" "╣")
    (rule "╚" "═" "╩" "╝") "║"

/-- The box of double rules and single bars. -/
def fancyBox (rows : Bool) : Style :=
  box rows (rule "╒" "═" "╤" "╕") (rule "╞" "═" "╪" "╡") (rule "├" "─" "┼" "┤")
    (rule "╘" "═" "╧" "╛") "│"

def latex (above : RuleStyle) (belowHeader below : String) (escapes : Bool) : Style :=
  ruled (some above) (rule belowHeader "" "" "") none (rule below "" "" "") (.latex escapes) 1

def html (escapes : Bool) : Style :=
  { above := some .htmlTable, belowHeader := none, betweenRows := none
    below := rule "</tbody>\n</table>" "" "" ""
    header := .html true escapes, row := .html false escapes
    padding := 0, headerHidesAbove := true, headerHidesBelow := false }

def named : List (String × Style) :=
  [("simple", simple),
   ("plain", ruled none none none none (bars "" "  " "") 0),
   ("grid", plainBox true),
   ("simple_grid", singleBox true),
   ("rounded_grid", roundedBox true),
   ("heavy_grid", heavyBox true),
   ("mixed_grid", mixedBox true),
   ("double_grid", doubleBox true),
   ("fancy_grid", fancyBox true),
   ("outline", plainBox false),
   ("simple_outline", singleBox false),
   ("rounded_outline", roundedBox false),
   ("heavy_outline", heavyBox false),
   ("mixed_outline", mixedBox false),
   ("double_outline", doubleBox false),
   ("fancy_outline", fancyBox false),
   ("github",
    { ruled (rule "|" "-" "|" "|") (rule "|" "-" "|" "|") none none (bars "|" "|" "|") 1 with
      headerHidesAbove := true }),
   ("pipe",
    { ruled (some .colons) (some .colons) none none (bars "|" "|" "|") 1 with
      headerHidesAbove := true }),
   ("orgtbl", ruled none (rule "|" "-" "+" "|") none none (bars "|" "|" "|") 1),
   ("jira", { ruled none none none none (bars "|" "|" "|") 1 with header := bars "||" "||" "||" }),
   ("presto", ruled none (rule "" "-" "+" "") none none (bars "" "|" "") 1),
   ("pretty",
    ruled (rule "+" "-" "+" "+") (rule "+" "-" "+" "+") none (rule "+" "-" "+" "+")
      (bars "|" "|" "|") 1),
   ("psql",
    ruled (rule "+" "-" "+" "+") (rule "|" "-" "+" "|") none (rule "+" "-" "+" "+")
      (bars "|" "|" "|") 1),
   ("rst",
    ruled (rule "" "=" "  " "") (rule "" "=" "  " "") none (rule "" "=" "  " "")
      (bars "" "  " "") 0),
   ("mediawiki",
    { ruled
        (rule "\x7b| class=\"wikitable\" style=\"text-align: left;\"" "" ""
          "\n|+ <!-- caption -->\n|-")
        (rule "|-" "" "" "") (rule "|-" "" "" "") (rule "|\x7d" "" "" "") (.mediawiki ['|']) 0 with
      header := .mediawiki ['!'] }),
   ("moinmoin", { ruled none none none none (.moin []) 1 with header := .moin "'''".toList }),
   ("youtrack",
    { ruled none none none none (bars "| " " | " " |") 1 with header := bars "|| " " || " " || " }),
   ("html", html true),
   ("unsafehtml", html false),
   ("latex", latex (.latexTable false false) "\\hline" "\\hline\n\\end\x7btabular\x7d" true),
   ("latex_raw", latex (.latexTable false false) "\\hline" "\\hline\n\\end\x7btabular\x7d" false),
   ("latex_booktabs",
    latex (.latexTable true false) "\\midrule" "\\bottomrule\n\\end\x7btabular\x7d" true),
   ("latex_longtable",
    latex (.latexTable false true) "\\hline\n\\endhead" "\\hline\n\\end\x7blongtable\x7d" true),
   ("tsv", ruled none none none none (bars "" "\t" "") 0),
   ("textile", { ruled none none none none .textile 1 with header := bars "|_. " "|_." "|" }),
   ("asciidoc",
    { above := some .asciidocTable, belowHeader := none, betweenRows := none
      below := rule "|====" "" "" "", header := .asciidoc true, row := .asciidoc false
      padding := 1, headerHidesAbove := true, headerHidesBelow := false })]

/-- The names of the styles in which a cell may have several lines. -/
def multilineNames : List String :=
  ["plain", "simple", "grid", "simple_grid", "rounded_grid", "heavy_grid", "mixed_grid",
   "double_grid", "fancy_grid", "pipe", "orgtbl", "jira", "presto", "pretty", "psql", "rst"]

def byName? (name : Text) : Option Style :=
  (named.find? fun entry => entry.1.toList == name).map Prod.snd

/-- Whether the style of a name shows cells of several lines. -/
def isMultiline (name : Text) : Bool := multilineNames.any fun known => known.toList == name

end Style

end TypeSurvey.Table
