import TypeSurvey.Text.Word

/-!
# Terminal escape sequences

Two kinds of sequences start with the escape character. A control sequence sets a colour and shows
nothing: an opening bracket, parameter characters, intermediate characters and one final character.
A link shows its text and hides the address and the parameters around it.
-/

namespace TypeSurvey.Text

def escape : Char := '\x1b'

/-- Whether a code lies between two bounds. -/
def codeWithin (least most : Nat) (letter : Char) : Bool :=
  least ≤ letter.toNat && letter.toNat ≤ most

/-- The rest after a control sequence whose opening has been read. -/
def afterControl? (text : Text) : Option Text :=
  match (text.dropWhile (codeWithin 0x30 0x3f)).dropWhile (codeWithin 0x20 0x2f) with
  | final :: rest => if codeWithin 0x40 0x7e final then some rest else none
  | [] => none

/-- Places in the parameters of a link, which are written `key=value`, with or without a colon
after them. -/
inductive LinkPlace
  | start
  | key
  | sign
  | value
  /-- After more characters, the last of which may belong to the next key. -/
  | more
deriving DecidableEq

/-- The rest after the parameters of a link and the semicolon that ends them. -/
def afterParameters? (isWord : Char → Bool) : LinkPlace → Text → Option Text
  | _, [] => none
  | place, letter :: rest =>
    if isWord letter then
      afterParameters? isWord (match place with
        | .start | .key => .key
        | .sign => .value
        | .value | .more => .more) rest
    else if letter == '=' then
      match place with
      | .key | .more => afterParameters? isWord .sign rest
      | _ => none
    else if letter == ':' then
      match place with
      | .value | .more => afterParameters? isWord .start rest
      | _ => none
    else if letter == ';' then
      match place with
      | .start | .value | .more => some rest
      | _ => none
    else none

/-- The rest after a given opening. -/
def after? (opening text : Text) : Option Text :=
  if opening.isPrefixOf text then some (text.drop opening.length) else none

/-- The text of a link and the rest after it, if a link whose opening has been read goes on
here. -/
def linkText? (isWord : Char → Bool) (text : Text) : Option (Text × Text) := do
  let address ← afterParameters? isWord .start text
  let rest ← after? [escape, '\\'] (address.dropWhile (· != escape))
  let shown := rest.takeWhile (· != escape)
  let rest ← after? ([escape] ++ "]8;;".toList ++ [escape, '\\']) (rest.dropWhile (· != escape))
  if (address.takeWhile (· != escape)).isEmpty || shown.isEmpty then none
  else return (shown, rest)

/-- What a sequence that starts here shows, and the rest after it. -/
def sequence? (isWord : Char → Bool) (text : Text) : Option (Text × Text) :=
  match text with
  | first :: '[' :: rest =>
    if first == escape then (afterControl? rest).map fun rest => ([], rest) else none
  | first :: ']' :: '8' :: ';' :: rest => if first == escape then linkText? isWord rest else none
  | _ => none

/-- The loop of `visible`; it runs once for every character at most. -/
def visibleFrom (isWord : Char → Bool) : Nat → Text → Text
  | 0, text => text
  | _, [] => []
  | fuel + 1, letter :: rest =>
    match sequence? isWord (letter :: rest) with
    | some (shown, rest) => shown ++ visibleFrom isWord fuel rest
    | none => letter :: visibleFrom isWord fuel rest

/-- A text without its escape sequences; a link leaves its text. -/
def visible (text : Text) : Text := visibleFrom isWordChar text.length text

/-- Bytes without their escape sequences; only ASCII letters belong to words. -/
def visibleBytes (bytes : List UInt8) : List UInt8 :=
  let letters := bytes.map fun byte => Char.ofNat byte.toNat
  let isWord (letter : Char) : Bool := letter.toNat < 128 && (letter.isAlphanum || letter == '_')
  (visibleFrom isWord letters.length letters).map fun letter => letter.toNat.toUInt8

/-- Whether a text holds an escape sequence. -/
def isStyled : Text → Bool
  | [] => false
  | letter :: rest => (sequence? isWordChar (letter :: rest)).isSome || isStyled rest

end TypeSurvey.Text
