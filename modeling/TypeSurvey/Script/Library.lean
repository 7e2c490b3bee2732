import TypeSurvey.Script.Machine

/-!
# Modules that a script can import

The modules that scripts know, and what they hold: other modules, texts, numbers, and functions and
classes, of which only the names matter.
-/

namespace TypeSurvey.Script

/-- A known module: its name, its functions and classes. -/
def moduleFunctions : List (String × List String) :=
  [("json", ["dump", "dumps", "load", "loads", "JSONDecodeError", "JSONDecoder", "JSONEncoder",
     "detect_encoding"]),
   ("os", ["getcwd", "listdir", "mkdir", "makedirs", "remove", "rename", "rmdir", "getenv",
     "system", "walk", "stat", "chdir", "getpid", "urandom", "unlink", "replace", "scandir",
     "PathLike"]),
   ("os.path", ["normcase", "isabs", "join", "splitdrive", "split", "splitext", "basename",
     "dirname", "commonprefix", "getsize", "getmtime", "getatime", "getctime", "islink", "exists",
     "lexists", "isdir", "isfile", "ismount", "expanduser", "expandvars", "normpath", "abspath",
     "samefile", "realpath", "relpath", "commonpath"]),
   ("sys", ["exit", "getsizeof", "getrecursionlimit", "setrecursionlimit", "getdefaultencoding",
     "getrefcount", "intern", "exc_info", "getfilesystemencoding", "audit"]),
   ("typing", ["Annotated", "Any", "Callable", "ClassVar", "Concatenate", "Final", "ForwardRef",
     "Generic", "Literal", "Optional", "ParamSpec", "Protocol", "Tuple", "Type", "TypeVar",
     "TypeVarTuple", "Union", "AbstractSet", "ByteString", "Container", "ContextManager",
     "Hashable", "ItemsView", "Iterable", "Iterator", "KeysView", "Mapping", "MappingView",
     "MutableMapping", "MutableSequence", "MutableSet", "Sequence", "Sized", "ValuesView",
     "Awaitable", "AsyncIterator", "AsyncIterable", "Coroutine", "Collection", "AsyncGenerator",
     "Reversible", "SupportsInt", "SupportsFloat", "ChainMap", "Counter", "Deque", "Dict",
     "DefaultDict", "List", "OrderedDict", "Set", "FrozenSet", "NamedTuple", "TypedDict",
     "Generator", "IO", "Match", "Pattern", "TextIO", "cast", "final", "get_args", "get_origin",
     "get_type_hints", "NewType", "NoReturn", "Never", "Self", "Text", "TypeAlias", "TypeGuard",
     "overload"]),
   ("datetime", ["date", "datetime", "time", "timedelta", "timezone", "tzinfo"]),
   ("tabulate", ["tabulate", "simple_separated_format"]),
   ("task_manager", ["load_tasks", "save_tasks", "add_task", "list_tasks", "flush_task",
     "flush_all_tasks", "delete_all_tasks", "datetime", "Any"])]

/-- Modules inside modules: the module, the name and the full name. -/
def submodules : List (String × String × String) :=
  [("os", "path", "os.path"), ("json", "decoder", "json.decoder"),
   ("json", "encoder", "json.encoder"), ("json", "scanner", "json.scanner"),
   ("datetime", "sys", "sys"), ("os", "sys", "sys"), ("task_manager", "json", "json"),
   ("task_manager", "os", "os")]

def moduleTexts : List (String × String × String) :=
  [("os", "name", "posix"), ("os", "sep", "/"), ("os", "linesep", "\n"), ("os", "curdir", "."),
   ("os", "pardir", ".."), ("os", "extsep", "."), ("os", "pathsep", ":"), ("os.path", "sep", "/"),
   ("sys", "platform", "linux"), ("sys", "byteorder", "little"),
   ("task_manager", "TASKS_FILE", "tasks.json")]

def isModuleName (name : Text) : Bool :=
  moduleFunctions.any (fun entry => entry.1.toList == name) ||
    submodules.any fun entry => entry.2.2.toList == name

/-- What a module holds under a name. -/
def moduleMember? (owner name : Text) : Option Datum :=
  let full := owner ++ ['.'] ++ name
  match submodules.find? fun entry => entry.1.toList == owner && entry.2.1.toList == name with
  | some entry => some (.module_ entry.2.2.toList)
  | none =>
    match moduleTexts.find? fun entry => entry.1.toList == owner && entry.2.1.toList == name with
    | some entry => some (.str entry.2.2.toList)
    | none =>
      match moduleFunctions.find? fun entry => entry.1.toList == owner with
      | some entry => if isOneOf entry.2 name then some (.external full) else none
      | none => none

/-- The dotted names of a module and of the modules around it, the outermost first. -/
def modulePath (name : Text) : List Text :=
  let parts := Text.split ['.'] name
  (List.range parts.length).map fun count => Text.join ['.'] (parts.take (count + 1))

/-- Finds a module, or tells which one is missing. -/
def findModule (name : Text) : Action Datum := do
  match (modulePath name).find? fun part => !isModuleName part with
  | some part =>
    let outer := Text.join ['.'] (Text.split ['.'] part).dropLast
    let plain := "No module named '".toList ++ part ++ "'".toList
    fail "ModuleNotFoundError" (if outer.isEmpty || outer == "json".toList then plain
      else plain ++ "; '".toList ++ outer ++ "' is not a package".toList)
  | none => return .module_ name

end TypeSurvey.Script
