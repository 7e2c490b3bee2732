import TypeSurvey.Text.Word

/-!
# Chunks of running text

Text to be wrapped is cut into chunks between which a line may be broken: runs of white space,
words, the parts of hyphenated words with the hyphen at the end of the first part, and dashes of two
or more hyphens between words. Putting the chunks together gives the text back.
-/

namespace TypeSurvey.Text

/-- White space between words. -/
def isGap (letter : Char) : Bool := letter == ' ' || (9 ≤ letter.toNat && letter.toNat ≤ 13)

/-- A character after which, or before which, a dash may stand. -/
def isWordPunctuation (letter : Char) : Bool :=
  isWordChar letter || "!\"&.,?".toList.contains letter || letter == apostrophe

/-- Whether a dash of at least two hyphens with a word after it starts here. -/
def startsDash (text : Text) : Bool :=
  let hyphens := text.takeWhile (· == '-')
  let rest := text.dropWhile (· == '-')
  2 ≤ hyphens.length && (rest.head?.map isWordChar).getD false

/-- Whether two letters start here, with or without a hyphen between them. -/
def startsPart : Text → Bool
  | first :: '-' :: second :: _ => isWordLetter first && isWordLetter second
  | first :: second :: _ => isWordLetter first && isWordLetter second
  | _ => false

/-- Whether a word may be cut after a hyphen that follows these characters, the nearest first: two
letters, or a letter between a hyphen and a letter. -/
def endsPart : Text → Bool
  | last :: '-' :: before :: _ => isWordLetter last && isWordLetter before
  | last :: before :: _ => isWordLetter last && isWordLetter before
  | _ => false

/-- The rest of a word of which one character or more has been read. `before` holds the characters
before this place, the nearest first. -/
def restOfWord (before : Text) : Text → Text × Text
  | [] => ([], [])
  | letter :: rest =>
    if letter == '-' && endsPart before && startsPart rest then (['-'], rest)
    else if isGap letter then ([], letter :: rest)
    else if (before.head?.map isWordPunctuation).getD false && startsDash (letter :: rest) then
      ([], letter :: rest)
    else
      let (word, after) := restOfWord (letter :: before) rest
      (letter :: word, after)

/-- The chunk that starts here and the rest. -/
def nextChunk (before : Text) : Text → Text × Text
  | [] => ([], [])
  | letter :: rest =>
    if isGap letter then
      ((letter :: rest).takeWhile isGap, (letter :: rest).dropWhile isGap)
    else if (before.head?.map isWordPunctuation).getD false && startsDash (letter :: rest) then
      ((letter :: rest).takeWhile (· == '-'), (letter :: rest).dropWhile (· == '-'))
    else
      let (word, after) := restOfWord (letter :: before) rest
      (letter :: word, after)

/-- The loop of `chunks`. -/
def chunksFrom : Nat → Text → Text → List Text
  | 0, _, _ => []
  | _, _, [] => []
  | fuel + 1, before, text =>
    let (chunk, rest) := nextChunk before text
    chunk :: chunksFrom fuel (chunk.reverse ++ before) rest

/-- The chunks of a text whose hyphenated words may be cut. -/
def chunks (text : Text) : List Text := chunksFrom text.length [] text

/-- The loop of `simpleChunks`. -/
def simpleChunksFrom : Nat → Text → List Text
  | 0, _ => []
  | _, [] => []
  | fuel + 1, letter :: rest =>
    let inside (other : Char) : Bool := isGap other == isGap letter
    (letter :: rest).takeWhile inside :: simpleChunksFrom fuel ((letter :: rest).dropWhile inside)

/-- The chunks of a text that is cut at white space only. -/
def simpleChunks (text : Text) : List Text := simpleChunksFrom text.length text

end TypeSurvey.Text
