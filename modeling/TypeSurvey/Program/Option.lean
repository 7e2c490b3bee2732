import TypeSurvey.Text.Basic

/-!
# Options of a command line

Options come before the operands of a command. A short option is a letter after a hyphen, and
several may stand together; a long option is a word after two hyphens, which may be cut short as
long as it is the only one that begins so. Some options take an argument: the rest of the word, or
the next word.
-/

namespace TypeSurvey.Program

/-- An option that a command knows. -/
structure Known where
  /-- The name, without hyphens. -/
  name : Text
  takesArgument : Bool
deriving DecidableEq, Repr

/-- The reasons why options cannot be read. Long options have two hyphens. -/
inductive OptionFault
  | unknown (hyphens name : Text)
  | noArgument (hyphens name : Text)
  | extraArgument (name : Text)
  /-- More than one option begins so. -/
  | ambiguous (name : Text)
deriving DecidableEq, Repr

def OptionFault.message : OptionFault → Text
  | unknown hyphens name => "option ".toList ++ hyphens ++ name ++ " not recognized".toList
  | noArgument hyphens name => "option ".toList ++ hyphens ++ name ++ " requires argument".toList
  | extraArgument name => "option --".toList ++ name ++ " must not have an argument".toList
  | ambiguous name => "option --".toList ++ name ++ " not a unique prefix".toList

/-- An option as it is given: its full name with hyphens, and its argument. -/
structure Given where
  name : Text
  /-- The argument; empty if there is none. -/
  argument : Text := []
deriving DecidableEq, Repr

/-- The long option that a word stands for: the option of that name, or the only one that begins
so. -/
def matchLong (known : List Known) (word : Text) : Except OptionFault Known :=
  let candidates := known.filter fun option => word.isPrefixOf option.name
  match candidates.find? (·.name == word), candidates with
  | some option, _ => .ok option
  | none, [option] => .ok option
  | none, [] => .error (.unknown "--".toList word)
  | none, _ => .error (.ambiguous word)

/-- Reads a long option, without its hyphens: the option and the words after it. -/
def readLong (known : List Known) (word : Text) (rest : List Text) :
    Except OptionFault (Given × List Text) := do
  let name := word.takeWhile (· != '=')
  let attached := if word.contains '=' then some (word.drop (name.length + 1)) else none
  let option ← matchLong known name
  let full := "--".toList ++ option.name
  if option.takesArgument then
    match attached, rest with
    | some argument, _ => return (⟨full, argument⟩, rest)
    | none, argument :: rest => return (⟨full, argument⟩, rest)
    | none, [] => throw (.noArgument "--".toList option.name)
  else if attached.isSome then throw (.extraArgument option.name)
  else return (⟨full, []⟩, rest)

/-- Reads short options that stand together, without their hyphen: the options and the words after
them. -/
def readShort (known : List Known) (rest : List Text) :
    Text → Except OptionFault (List Given × List Text)
  | [] => .ok ([], rest)
  | letter :: letters =>
    match known.find? (·.name == [letter]) with
    | none => .error (.unknown ['-'] [letter])
    | some option =>
      if option.takesArgument then
        match letters, rest with
        | [], [] => .error (.noArgument ['-'] [letter])
        | [], argument :: rest => .ok ([⟨['-', letter], argument⟩], rest)
        | letters, rest => .ok ([⟨['-', letter], letters⟩], rest)
      else do
        let (more, rest) ← readShort known rest letters
        return (⟨['-', letter], []⟩ :: more, rest)

/-- Reads the words of a command line, at most as many options as the first argument says: the
options and the operands. A word of two hyphens ends the options. -/
def readOptions (short long : List Known) :
    Nat → List Text → Except OptionFault (List Given × List Text)
  | 0, words => .ok ([], words)
  | _ + 1, [] => .ok ([], [])
  | fuel + 1, word :: rest =>
    if word == "--".toList then .ok ([], rest)
    else if "--".toList.isPrefixOf word then do
      let (option, rest) ← readLong long (word.drop 2) rest
      let (more, operands) ← readOptions short long fuel rest
      return (option :: more, operands)
    else if word.head? == some '-' && word != ['-'] then do
      let (options, rest) ← readShort short rest (word.drop 1)
      let (more, operands) ← readOptions short long fuel rest
      return (options ++ more, operands)
    else .ok ([], word :: rest)

end TypeSurvey.Program
