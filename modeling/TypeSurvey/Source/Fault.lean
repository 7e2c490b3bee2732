import TypeSurvey.Text.Basic

/-!
# Faults of source text

Source that is no module or expression is refused with a cause and the line on which it
was noticed. Faults of indentation and of tabs are families of their own.
-/

namespace TypeSurvey.Source

/-- The families of faults. -/
inductive FaultFamily
  | grammar
  | indentation
  | tabs
  /-- The source is no text of a program at all. -/
  | value
deriving DecidableEq, Repr

/-- The reasons for which source text is refused. -/
inductive Cause
  /-- A token that fits no rule. -/
  | unexpectedToken
  | unexpectedIndent
  | unexpectedUnindent
  /-- A header without an indented block, by its name and line. -/
  | expectedBlock (header : Text) (line : Nat)
  /-- A line that returns to no earlier indentation. -/
  | unindentMismatch
  /-- Indentation that depends on the width of a tab. -/
  | inconsistentTabs
  | tooManyIndents
  | neverClosed (opening : Char)
  | unmatched (closing : Char)
  /-- A closing bracket of another kind than the opening one, whose line is told if it differs. -/
  | mismatched (closing opening : Char) (line : Option Nat)
  | tooManyBrackets
  /-- A text literal that does not end, and the line on which that shows. -/
  | unterminatedText (triple : Bool) (line : Nat)
  | malformedNumber (kind : Text)
  | invalidDigit (digit : Char) (kind : Text)
  /-- A decimal integer that starts with zeros. -/
  | leadingZeros
  | tooManyDigits (digits : Nat)
  /-- A character that is part of no token. -/
  | invalidCharacter (letter : Char)
  | unprintableCharacter (letter : Char)
  /-- Something after the mark that continues a line. -/
  | afterContinuation
  | unexpectedEnd
  /-- A target that cannot be assigned to, where a comparison may have been meant. -/
  | cannotAssignHere (target : Text)
  | cannotAssign (target : Text)
  | cannotDelete (target : Text)
  | expected (what : Text)
  | malformedEscape (detail : Text)
  /-- Bytes and text side by side. -/
  | mixedLiterals
  /-- A character in a bytes literal that is not ASCII. -/
  | bytesCharacter
  | formatted (detail : Text)
  | returnOutside
  | breakOutside
  | continueOutside
  | duplicateParameter (name : Text)
  | nullCharacter
  /-- Any other rule of the grammar, in its own words. -/
  | rule (detail : Text)
deriving DecidableEq, Repr

def Cause.family : Cause → FaultFamily
  | unexpectedIndent | unexpectedUnindent | expectedBlock _ _ | unindentMismatch | tooManyIndents =>
    .indentation
  | inconsistentTabs => .tabs
  | nullCharacter => .value
  | _ => .grammar

/-- A character in single marks. -/
def Cause.shown (letter : Char) : Text := [Text.apostrophe, letter, Text.apostrophe]

def Cause.message : Cause → Text
  | unexpectedToken => "invalid syntax".toList
  | unexpectedIndent => "unexpected indent".toList
  | unexpectedUnindent => "unexpected unindent".toList
  | expectedBlock header line =>
    "expected an indented block after ".toList ++ header ++ " on line ".toList ++ Text.ofNat line
  | unindentMismatch => "unindent does not match any outer indentation level".toList
  | inconsistentTabs => "inconsistent use of tabs and spaces in indentation".toList
  | tooManyIndents => "too many levels of indentation".toList
  | neverClosed opening => shown opening ++ " was never closed".toList
  | unmatched closing => "unmatched ".toList ++ shown closing
  | mismatched closing opening line =>
    "closing parenthesis ".toList ++ shown closing ++
      " does not match opening parenthesis ".toList ++
      shown opening ++ (match line with
        | some number => " on line ".toList ++ Text.ofNat number
        | none => [])
  | tooManyBrackets => "too many nested parentheses".toList
  | unterminatedText triple line =>
    "unterminated ".toList ++ (if triple then "triple-quoted ".toList else []) ++
      "string literal (detected at line ".toList ++ Text.ofNat line ++ ")".toList
  | malformedNumber kind => "invalid ".toList ++ kind ++ " literal".toList
  | invalidDigit digit kind =>
    "invalid digit ".toList ++ shown digit ++ " in ".toList ++ kind ++ " literal".toList
  | leadingZeros =>
    ("leading zeros in decimal integer literals are not permitted; " ++
      "use an 0o prefix for octal integers").toList
  | tooManyDigits digits =>
    "Exceeds the limit (4300 digits) for integer string conversion: value has ".toList ++
      Text.ofNat digits ++
      (" digits; use sys.set_int_max_str_digits() to increase the limit" ++
        " - Consider hexadecimal for huge integer literals to avoid decimal conversion " ++
        "limits.").toList
  | invalidCharacter letter =>
    "invalid character ".toList ++ shown letter ++ " (U+".toList ++
      (Text.ofNatBase 16 4 letter.toNat).map Char.toUpper ++ ")".toList
  | unprintableCharacter letter =>
    "invalid non-printable character U+".toList ++
      (Text.ofNatBase 16 4 letter.toNat).map Char.toUpper
  | afterContinuation => "unexpected character after line continuation character".toList
  | unexpectedEnd => "unexpected EOF while parsing".toList
  | cannotAssignHere target =>
    "cannot assign to ".toList ++ target ++ " here. Maybe you meant '==' instead of '='?".toList
  | cannotAssign target => "cannot assign to ".toList ++ target
  | cannotDelete target => "cannot delete ".toList ++ target
  | expected what => "expected ".toList ++ what
  | malformedEscape detail => detail
  | mixedLiterals => "cannot mix bytes and nonbytes literals".toList
  | bytesCharacter => "bytes can only contain ASCII literal characters".toList
  | formatted detail => "f-string: ".toList ++ detail
  | returnOutside => "'return' outside function".toList
  | breakOutside => "'break' outside loop".toList
  | continueOutside => "'continue' not properly in loop".toList
  | duplicateParameter name =>
    "duplicate argument '".toList ++ name ++ "' in function definition".toList
  | nullCharacter => "source code string cannot contain null bytes".toList
  | rule detail => detail

/-- Whether the scanner notices the cause by itself while it reads a character, so that it goes
before any fault of the grammar. -/
def Cause.isLexical : Cause → Bool
  | unmatched _ | mismatched _ _ _ | tooManyBrackets | unterminatedText _ _ | malformedNumber _
  | invalidDigit _ _ | leadingZeros | invalidCharacter _ | unprintableCharacter _ => true
  | _ => false

/-- A cause and its line. -/
structure Fault where
  cause : Cause
  /-- The line on which it was noticed. -/
  line : Nat
deriving DecidableEq, Repr

/-- The name of the class of exceptions that a fault belongs to. -/
def Fault.className (fault : Fault) : Text :=
  match fault.cause.family with
  | .grammar => "SyntaxError".toList
  | .indentation => "IndentationError".toList
  | .tabs => "TabError".toList
  | .value => "ValueError".toList

/-- The wording of a fault in a source without a file name. -/
def Fault.message (fault : Fault) : Text :=
  match fault.cause.family with
  | .value => fault.cause.message
  | _ => fault.cause.message ++ " (<string>, line ".toList ++ Text.ofNat fault.line ++ ")".toList

end TypeSurvey.Source
