import TypeSurvey.Text.Basic

/-!
# Blank characters

The white space of Unicode as source tools see it: the separator categories, the bidirectional
separators, and the control characters that end lines, files, groups, records and units.
-/

namespace TypeSurvey.Text

/-- Whether a character counts as white space. -/
def isBlank (letter : Char) : Bool :=
  let code := letter.toNat
  (9 ≤ code && code ≤ 13) || (28 ≤ code && code ≤ 32) || code == 0x85 || code == 0xa0 ||
    code == 0x1680 || (0x2000 ≤ code && code ≤ 0x200a) || code == 0x2028 || code == 0x2029 ||
    code == 0x202f || code == 0x205f || code == 0x3000

/-- The text without blank characters at either end. -/
def strip (text : Text) : Text := trim isBlank text

/-- The text without blank characters at its end. -/
def stripEnd (text : Text) : Text := trimEnd isBlank text

end TypeSurvey.Text
