import TypeSurvey.Text.Printable
import TypeSurvey.Text.Utf16

/-!
# Quoted text

Text and bytes between quotation marks, in the form of a Python literal. A single mark is used
unless the text holds single marks and no double one.
-/

namespace TypeSurvey.Text

def quoteMark (text : Text) : Char :=
  if text.contains apostrophe && !text.contains '"' then '"' else apostrophe

/-- A code point as an escape of two, four or eight hexadecimal digits. -/
def escapeCode (code : Nat) : Text :=
  if code < 0x100 then '\\' :: 'x' :: ofNatBase 16 2 code
  else if code < 0x10000 then '\\' :: 'u' :: ofNatBase 16 4 code
  else '\\' :: 'U' :: ofNatBase 16 8 code

def quoteChar (mark letter : Char) : Text :=
  if letter == '\\' || letter == mark then ['\\', letter]
  else if letter == '\n' then ['\\', 'n']
  else if letter == '\r' then ['\\', 'r']
  else if letter == '\t' then ['\\', 't']
  else if isPrintable letter then [letter]
  else escapeCode letter.toNat

def quoted (text : Text) : Text :=
  let mark := quoteMark text
  mark :: text.flatMap (quoteChar mark) ++ [mark]

/-- A text in quotation marks; halves that stand alone are escaped. -/
def quotedHalved (text : Halved) : Text :=
  let mark := quoteMark text.shown
  let shown := text.points.flatMap fun
    | .char letter => quoteChar mark letter
    | .half place => escapeCode (0xd800 + place)
  mark :: shown ++ [mark]

/-- Bytes in quotation marks, after the letter `b`; bytes beyond ASCII are escaped. -/
def quotedBytes (bytes : List UInt8) : Text :=
  let letters := bytes.map fun byte => Char.ofNat byte.toNat
  let mark := quoteMark letters
  let shown := letters.flatMap fun letter =>
    if letter.toNat < 128 then quoteChar mark letter else escapeCode letter.toNat
  'b' :: mark :: shown ++ [mark]

end TypeSurvey.Text
