/-!
# Text

Text is a list of code points. Splitting, searching, replacing and trimming are read from the left
and count code points.
-/

namespace TypeSurvey

/-- Text as a list of code points, so that lengths, widths and positions count code points. -/
abbrev Text := List Char

namespace Text

/-- The single quotation mark. -/
def apostrophe : Char := '\x27'

/-- The texts with a separator between neighbours. -/
def join (separator : Text) : List Text → Text
  | [] => []
  | [piece] => piece
  | piece :: rest => piece ++ separator ++ join separator rest

/-- The loop of `split`: `skip` characters of a separator remain to be passed over, and `piece`
holds the current piece backwards. -/
def splitFrom (separator : Text) : Nat → Text → Text → List Text
  | _, piece, [] => [piece.reverse]
  | skip + 1, piece, _ :: rest => splitFrom separator skip piece rest
  | 0, piece, letter :: rest =>
    if separator.isPrefixOf (letter :: rest) then
      piece.reverse :: splitFrom separator (separator.length - 1) [] rest
    else
      splitFrom separator 0 (letter :: piece) rest

/-- The pieces between the occurrences of a non-empty separator; occurrences do not overlap and
are taken from the left. -/
def split (separator text : Text) : List Text := splitFrom separator 0 [] text

/-- Every occurrence of `old` replaced by `new`. The empty text occurs before every character and
at the end. -/
def replace (old new text : Text) : Text :=
  if old.isEmpty then new ++ text.flatMap (fun letter => letter :: new)
  else join new (split old text)

/-- The position of the first occurrence. -/
def find? (needle : Text) : Text → Option Nat
  | [] => if needle.isEmpty then some 0 else none
  | letter :: rest =>
    if needle.isPrefixOf (letter :: rest) then some 0
    else (find? needle rest).map (· + 1)

/-- Whether the first text occurs in the second. -/
def occursIn (needle text : Text) : Bool := (find? needle text).isSome

/-- The number of occurrences of `needle` that do not overlap, taken from the left. -/
def count (needle text : Text) : Nat := (split needle text).length - 1

/-- Whether the second text ends with the first. -/
def endsWith (ending text : Text) : Bool := ending.isSuffixOf text

/-- The text without the characters of a class at its end. -/
def trimEnd (drop : Char → Bool) (text : Text) : Text := (text.reverse.dropWhile drop).reverse

/-- The text without the characters of a class at either end. -/
def trim (drop : Char → Bool) (text : Text) : Text := trimEnd drop (text.dropWhile drop)

/-- The position of the last occurrence of a character. -/
def lastIndex? (letter : Char) (text : Text) : Option Nat :=
  (text.reverse.findIdx? (· == letter)).map (text.length - 1 - ·)

/-- The pieces between the characters of a class; two neighbours enclose an empty piece. -/
def splitWhere (separates : Char → Bool) : Text → List Text
  | [] => [[]]
  | letter :: rest =>
    match splitWhere separates rest with
    | [] => [[letter]]
    | piece :: pieces =>
      if separates letter then [] :: piece :: pieces else (letter :: piece) :: pieces

/-- The maximal pieces free of a class of characters. -/
def words (separates : Char → Bool) (text : Text) : List Text :=
  (splitWhere separates text).filter (!·.isEmpty)

/-- Small letters for capitals. Only the letters `A` to `Z` change. -/
def asciiLower (text : Text) : Text := text.map Char.toLower

/-- A natural number in decimal digits. -/
def ofNat (number : Nat) : Text := Nat.toDigits 10 number

/-- An integer in decimal digits, with a sign when it is negative. -/
def ofInt : Int → Text
  | .ofNat number => ofNat number
  | .negSucc number => '-' :: ofNat (number + 1)

def times (count : Nat) (text : Text) : Text := (List.replicate count text).flatten

/-- The text filled with spaces on the left up to a width. -/
def padLeft (width : Nat) (fill : Char) (text : Text) : Text :=
  List.replicate (width - text.length) fill ++ text

/-- A number in a base up to sixteen, with zeros on the left up to a width. -/
def ofNatBase (base width number : Nat) : Text := padLeft width '0' (Nat.toDigits base number)

end Text

end TypeSurvey
