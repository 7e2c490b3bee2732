import TypeSurvey.Text.Lines
import TypeSurvey.Text.Named
import TypeSurvey.Text.Order
import TypeSurvey.Text.Quoted
import TypeSurvey.Text.Utf8

/-!
# Folders

A folder holds files under paths of parts. Every proper part of the path of a file is a directory,
and there are no other directories. A path as a program gives it is a text with slashes; it is
looked up part by part. A folder is all that there is: a path from the root of the system, or one
that leads out of the folder, is taken as missing, and nothing is said of the files that may be
there.
-/

namespace TypeSurvey

/-- The parts of a path below a folder. -/
abbrev Path := List Text

/-- A folder: the contents of its files by their paths. -/
structure Folder where
  files : List (Path × Text.Bytes)
deriving DecidableEq

/-- The reasons why a path cannot be used. -/
inductive PathCause
  | missing
  /-- A file stands where a directory is needed. -/
  | notDirectory
  /-- A directory stands where a file is needed. -/
  | isDirectory
  | nullCharacter
deriving DecidableEq, Repr

/-- A path that cannot be used, and why. -/
structure PathFault where
  cause : PathCause
  /-- The path as it was given. -/
  path : Text
deriving DecidableEq, Repr

namespace PathFault

def message (fault : PathFault) : Text :=
  let system (number : String) (reason : String) : Text :=
    "[Errno ".toList ++ number.toList ++ "] ".toList ++ reason.toList ++ ": ".toList ++
      Text.quoted fault.path
  match fault.cause with
  | .missing => system "2" "No such file or directory"
  | .notDirectory => system "20" "Not a directory"
  | .isDirectory => system "21" "Is a directory"
  | .nullCharacter => "embedded null byte".toList

/-- The name of the class of exceptions that a fault belongs to. -/
def className (fault : PathFault) : Text :=
  match fault.cause with
  | .missing => "FileNotFoundError".toList
  | .notDirectory => "NotADirectoryError".toList
  | .isDirectory => "IsADirectoryError".toList
  | .nullCharacter => "ValueError".toList

end PathFault

namespace Folder

/-- A folder without files. -/
def empty : Folder := ⟨[]⟩

def file? (folder : Folder) (path : Path) : Option Text.Bytes :=
  (folder.files.find? fun entry => entry.1 = path).map Prod.snd

/-- Whether there is a directory at a path. The folder itself is one. -/
def isDirectory (folder : Folder) (path : Path) : Bool :=
  path.isEmpty || folder.files.any fun entry => path.isPrefixOf entry.1 && entry.1 != path

/-- Follows the parts of a path from a place on. A dot stays, two dots lead back. -/
def follow (folder : Folder) (place : Path) : List Text → Except PathCause Path
  | [] => .ok place
  | part :: rest =>
    if !folder.isDirectory place then
      .error (if (folder.file? place).isSome then .notDirectory else .missing)
    else if part.isEmpty || part == ['.'] then follow folder place rest
    else if part == ['.', '.'] then
      if place.isEmpty then .error .missing else follow folder place.dropLast rest
    else follow folder (place ++ [part]) rest

/-- The place that a path leads to. A path from the root of the system leads nowhere. -/
def locate (folder : Folder) (path : Text) : Except PathFault Path :=
  let fail (cause : PathCause) : Except PathFault Path := .error ⟨cause, path⟩
  if path.contains '\x00' then fail .nullCharacter
  else if path.isEmpty || path.head? == some '/' then fail .missing
  else
    match folder.follow [] (Text.split ['/'] path) with
    | .ok place => .ok place
    | .error cause => fail cause

/-- Whether there is a file or a directory at a path. -/
def contains (folder : Folder) (path : Text) : Bool :=
  match folder.locate path with
  | .ok place => folder.isDirectory place || (folder.file? place).isSome
  | .error _ => false

/-- The contents of the file at a path. -/
def read (folder : Folder) (path : Text) : Except PathFault Text.Bytes := do
  let place ← folder.locate path
  match folder.file? place with
  | some bytes => return bytes
  | none => throw ⟨if folder.isDirectory place then .isDirectory else .missing, path⟩

/-- Writes a file at a path, whose directory has to be there. -/
def write (folder : Folder) (path : Text) (bytes : Text.Bytes) : Except PathFault Folder := do
  let place ← folder.locate path
  if folder.isDirectory place then throw ⟨.isDirectory, path⟩
  if !folder.isDirectory place.dropLast then throw ⟨.missing, path⟩
  return ⟨putNamed place bytes folder.files⟩

/-- Adds a file to a folder by its path below it, together with the directories on the way. -/
def add (folder : Folder) (path : Text) (bytes : Text.Bytes) : Folder :=
  ⟨putNamed (Text.split ['/'] path) bytes folder.files⟩

def pathText (place : Path) : Text := Text.join ['/'] place

/-- Puts a file into its place among files in the order of their paths. -/
def insertFile (file : Text × Text.Bytes) : List (Text × Text.Bytes) → List (Text × Text.Bytes)
  | [] => [file]
  | first :: rest =>
    if Text.before file.1 first.1 then file :: first :: rest else first :: insertFile file rest

/-- All files in the order of their paths. -/
def listing (folder : Folder) : List (Text × Text.Bytes) :=
  (folder.files.map fun entry => (pathText entry.1, entry.2)).foldr insertFile []

end Folder

/-- The reasons why the text of a file cannot be read. -/
inductive ReadFault
  | path (fault : PathFault)
  | decoding (fault : Text.Utf8Fault)
deriving DecidableEq

namespace ReadFault

def message : ReadFault → Text
  | path fault => fault.message
  | decoding fault => fault.message

/-- The name of the class of exceptions that a fault belongs to. -/
def className : ReadFault → Text
  | path fault => fault.className
  | decoding _ => "UnicodeDecodeError".toList

end ReadFault

namespace Folder

/-- The text of the file at a path. All line ends are read as one character. -/
def readText (folder : Folder) (path : Text) : Except ReadFault Text :=
  match folder.read path with
  | .error fault => .error (.path fault)
  | .ok bytes =>
    match Text.decodeUtf8 bytes with
    | .error fault => .error (.decoding fault)
    | .ok text => .ok (Text.normalizeNewlines text)

def writeText (folder : Folder) (path text : Text) : Except PathFault Folder :=
  folder.write path (Text.encodeUtf8 text)

end Folder

end TypeSurvey
