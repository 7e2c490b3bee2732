import TypeSurvey.Text.Normal

/-!
# Names of characters

A text literal may name a character. The names that are known are those of the characters below
U+0100 and from U+2000 to U+2027, short ones of some of them, and those of the letters of Latin with
one mark, which follow a rule. All other names are taken for names of no character.
-/

namespace TypeSurvey.Text

/-- The names of characters but letters with a code for each. -/
def characterNames : List (Nat × Text) := codedEntries 0 <| tableEntries <| String.toList
  "NULL;START OF HEADING;START OF TEXT;END OF TEXT;END OF TRANSMISSION;ENQUIRY;ACKNOWLEDGE;ALERT
BACKSPACE;CHARACTER TABULATION;LINE FEED;LINE TABULATION;FORM FEED;CARRIAGE RETURN;SHIFT OUT
SHIFT IN;DATA LINK ESCAPE;DEVICE CONTROL ONE;DEVICE CONTROL TWO;DEVICE CONTROL THREE
DEVICE CONTROL FOUR;NEGATIVE ACKNOWLEDGE;SYNCHRONOUS IDLE;END OF TRANSMISSION BLOCK;CANCEL
END OF MEDIUM;SUBSTITUTE;ESCAPE;INFORMATION SEPARATOR FOUR;INFORMATION SEPARATOR THREE
INFORMATION SEPARATOR TWO;INFORMATION SEPARATOR ONE;SPACE;EXCLAMATION MARK;QUOTATION MARK
NUMBER SIGN;DOLLAR SIGN;PERCENT SIGN;AMPERSAND;APOSTROPHE;LEFT PARENTHESIS;RIGHT PARENTHESIS
ASTERISK;PLUS SIGN;COMMA;HYPHEN-MINUS;FULL STOP;SOLIDUS;DIGIT ZERO;DIGIT ONE;DIGIT TWO;DIGIT THREE
DIGIT FOUR;DIGIT FIVE;DIGIT SIX;DIGIT SEVEN;DIGIT EIGHT;DIGIT NINE;COLON;SEMICOLON;LESS-THAN SIGN
EQUALS SIGN;GREATER-THAN SIGN;QUESTION MARK;COMMERCIAL AT;5B:LEFT SQUARE BRACKET;REVERSE SOLIDUS
RIGHT SQUARE BRACKET;CIRCUMFLEX ACCENT;LOW LINE;GRAVE ACCENT;7B:LEFT CURLY BRACKET;VERTICAL LINE
RIGHT CURLY BRACKET;TILDE;DELETE;A0:NO-BREAK SPACE;INVERTED EXCLAMATION MARK;CENT SIGN;POUND SIGN
CURRENCY SIGN;YEN SIGN;BROKEN BAR;SECTION SIGN;DIAERESIS;COPYRIGHT SIGN;FEMININE ORDINAL INDICATOR
LEFT-POINTING DOUBLE ANGLE QUOTATION MARK;NOT SIGN;SOFT HYPHEN;REGISTERED SIGN;MACRON;DEGREE SIGN
PLUS-MINUS SIGN;SUPERSCRIPT TWO;SUPERSCRIPT THREE;ACUTE ACCENT;MICRO SIGN;PILCROW SIGN;MIDDLE DOT
CEDILLA;SUPERSCRIPT ONE;MASCULINE ORDINAL INDICATOR;RIGHT-POINTING DOUBLE ANGLE QUOTATION MARK
VULGAR FRACTION ONE QUARTER;VULGAR FRACTION ONE HALF;VULGAR FRACTION THREE QUARTERS
INVERTED QUESTION MARK;C6:LATIN CAPITAL LETTER AE;D0:LATIN CAPITAL LETTER ETH;D7:MULTIPLICATION SIGN
LATIN CAPITAL LETTER O WITH STROKE;DE:LATIN CAPITAL LETTER THORN;LATIN SMALL LETTER SHARP S
E6:LATIN SMALL LETTER AE;F0:LATIN SMALL LETTER ETH;F7:DIVISION SIGN;LATIN SMALL LETTER O WITH STROKE
FE:LATIN SMALL LETTER THORN;2000:EN QUAD;EM QUAD;EN SPACE;EM SPACE;THREE-PER-EM SPACE
FOUR-PER-EM SPACE;SIX-PER-EM SPACE;FIGURE SPACE;PUNCTUATION SPACE;THIN SPACE;HAIR SPACE
ZERO WIDTH SPACE;ZERO WIDTH NON-JOINER;ZERO WIDTH JOINER;LEFT-TO-RIGHT MARK;RIGHT-TO-LEFT MARK
HYPHEN;NON-BREAKING HYPHEN;FIGURE DASH;EN DASH;EM DASH;HORIZONTAL BAR;DOUBLE VERTICAL LINE
DOUBLE LOW LINE;LEFT SINGLE QUOTATION MARK;RIGHT SINGLE QUOTATION MARK;SINGLE LOW-9 QUOTATION MARK
SINGLE HIGH-REVERSED-9 QUOTATION MARK;LEFT DOUBLE QUOTATION MARK;RIGHT DOUBLE QUOTATION MARK
DOUBLE LOW-9 QUOTATION MARK;DOUBLE HIGH-REVERSED-9 QUOTATION MARK;DAGGER;DOUBLE DAGGER;BULLET
TRIANGULAR BULLET;ONE DOT LEADER;TWO DOT LEADER;HORIZONTAL ELLIPSIS;HYPHENATION POINT;0:NUL;7:BEL;BS
TAB;LF;VT;FF;CR;1B:ESC;7F:DEL;A0:NBSP;AD:SHY;200B:ZWSP;ZWNJ;ZWJ;LRM;RLM"

/-- What the marks that letters are composed with are called. -/
def markNames : List (Nat × Text) := codedEntries 0 <| tableEntries <| String.toList
  "300:GRAVE;ACUTE;CIRCUMFLEX;TILDE;MACRON;306:BREVE;DOT ABOVE;DIAERESIS;HOOK ABOVE;RING ABOVE
DOUBLE ACUTE;CARON;30F:DOUBLE GRAVE;311:INVERTED BREVE;31B:HORN;323:DOT BELOW;DIAERESIS BELOW
RING BELOW;COMMA BELOW;CEDILLA;OGONEK;32D:CIRCUMFLEX BELOW;BREVE BELOW;330:TILDE BELOW;LINE BELOW"

/-- The code of a letter of Latin without marks by its name. -/
def letterNamed? (name : Text) : Option Nat :=
  match split [' '] name with
  | [script, size, kind, [letter]] =>
    if script == "LATIN".toList && kind == "LETTER".toList && letter.isUpper then
      if size == "CAPITAL".toList then some letter.toNat
      else if size == "SMALL".toList then some letter.toLower.toNat
      else none
    else none
  | _ => none

/-- The character of a name. Capitals and small letters are not told apart. -/
def characterNamed? (name : Text) : Option Char :=
  let name := name.map Char.toUpper
  let find? (names : List (Nat × Text)) (name : Text) : Option Nat :=
    (names.find? (·.2 == name)).map Prod.fst
  let marked := match split " WITH ".toList name with
    | [letter, mark] => do compose? (← letterNamed? letter) (← find? markNames mark)
    | _ => letterNamed? name
  ((find? characterNames name).or marked).map Char.ofNat

end TypeSurvey.Text
