import TypeSurvey.Script.Evaluate

/-!
# Execution of statements

A statement ends by passing on to the next one, by leaving or continuing a loop, or by returning a
value. Functions of the script run with a bounded depth of calls.
-/

namespace TypeSurvey.Script

open Source

/-- How a statement ends. -/
inductive Flow
  | next
  | break_
  | continue_
  | returned (value : Datum)

/-- Does an action and gives its end, also if that is a signal. -/
def outcome {α : Type} (action : Action α) : Action (Except Signal α) :=
  tryCatchThe Signal (do return .ok (← action)) fun signal => return .error signal

/-- Goes on with the end of an action. -/
def resume {α : Type} : Except Signal α → Action α
  | .ok value => return value
  | .error signal => throw signal

/-- A bound on the rounds of a loop. -/
def maxRounds : Nat := 100000

/-- Rounds of a loop while a test holds. The result tells how the loop ended; none if the test
failed. -/
def loopWhile (test : Action Bool) (body : Action Flow) : Nat → Action (Option Flow)
  | 0 => throw .unsupported
  | fuel + 1 => do
    if ← test then
      match ← body with
      | .break_ => return some .next
      | .returned value => return some (.returned value)
      | _ => loopWhile test body fuel
    else return none

/-- Rounds of a loop over items. -/
def loopOver (body : Datum → Action Flow) : List Datum → Action (Option Flow)
  | [] => return none
  | item :: rest => do
    match ← body item with
    | .break_ => return some .next
    | .returned value => return some (.returned value)
    | _ => loopOver body rest

/-! ## Exceptions -/

/-- The exception that a datum stands for in a `raise` statement. -/
def exceptionOf (caller : Caller) (datum : Datum) : Action Datum := do
  let machine ← get
  let refuse : Action Datum := fail "TypeError" "exceptions must derive from BaseException".toList
  if machine.isExceptionClass datum then caller datum [] []
  else
    match machine.thingOf? datum with
    | some (.instance_ class_ _ _) =>
      if machine.isExceptionClass class_ then return datum else refuse
    | _ => refuse

/-- Whether an exception is one of those that a handler is for. -/
def isHandledBy (exception classes : Datum) : Action Bool := do
  let machine ← get
  let candidates := match machine.thingOf? classes with
    | some (.tuple items) => items
    | _ => [classes]
  if candidates.any fun class_ => !machine.isExceptionClass class_ then
    fail "TypeError" "catching classes that do not inherit from BaseException is not allowed".toList
  match machine.thingOf? exception with
  | some (.instance_ class_ _ _) =>
    return candidates.any fun candidate => (machine.ancestors class_).contains candidate
  | _ => return false

/-- Does an action while an exception is being handled. -/
def whileHandling {α : Type} (exception : Datum) (action : Action α) : Action α := do
  let before := (← get).handled
  modify fun machine => { machine with handled := exception :: before }
  let result ← outcome action
  modify fun machine => { machine with handled := before }
  resume result

/-! ## Imports -/

/-- Imports a module. Without a new name, the outermost module is bound. -/
def importModule (frame : Nat) (alias_ : Alias) : Action Unit := do
  let found ← findModule alias_.name
  match alias_.bound with
  | some name => bindName frame name found
  | none =>
    let outer := boundByAlias alias_
    bindName frame outer (.module_ outer)

def importName (frame : Nat) (owner : Text) (alias_ : Alias) : Action Unit := do
  match moduleMember? owner alias_.name with
  | some datum => bindName frame (alias_.bound.getD alias_.name) datum
  | none =>
    fail "ImportError" ("cannot import name '".toList ++ alias_.name ++ "' from '".toList ++
      owner ++ "' (unknown location)".toList)

/-! ## Definitions -/

/-- The hints of the parameters and of the result of a function, in the order in which they are
evaluated. -/
def hintsOf (parameters : List Expr) (hint : Expr) : List Expr :=
  let ofKind (kinds : List ParameterKind) : List Expr := parameters.filterMap fun parameter =>
    match parameter with
    | .parameter kind _ hint _ _ =>
      if kinds.contains kind && hint.isWritten then some hint else none
    | _ => none
  ofKind [.positional, .ordinary] ++ ofKind [.rest] ++ ofKind [.keyword] ++ ofKind [.keywords] ++
    (if hint.isWritten then [hint] else [])

/-- Applies decorators to a datum, the last one first. -/
def decorate (caller : Caller) (decorators : List Datum) (datum : Datum) : Action Datum :=
  decorators.reverse.foldlM (fun inner decorator => caller decorator [inner] []) datum

/-- Whether hints are evaluated in a frame. -/
def evaluatesHints (machine : Machine) (frame : Nat) : Bool :=
  match machine.thing? frame with
  | some (.frame found) => found.kind = .script || found.kind = .class_
  | _ => false

/-! ## Statements -/

mutual

def execute (caller : Caller) (frame : Nat) : Stmt → Action Flow
  | .expression value => do
    let _ ← evaluate caller frame value
    return .next
  | .assign targets value => do
    let datum ← evaluate caller frame value
    for target in targets do
      assignTarget caller frame target datum
    return .next
  | .augment target op value => do
    augmentTarget caller frame target op value
    return .next
  | .declare target hint value => do
    if value.isWritten then
      assignTarget caller frame target (← evaluate caller frame value)
    if evaluatesHints (← get) frame then
      let _ ← evaluate caller frame hint
    return .next
  | .delete targets => do
    deleteTargets caller frame targets
    return .next
  | .pass | .global _ | .nonlocal _ => return .next
  | .break_ _ => return .break_
  | .continue_ _ => return .continue_
  | .return_ value _ => do return .returned (← evaluate caller frame value)
  | .raise exception cause => do
    if exception.isWritten then
      let raised ← exceptionOf caller (← evaluate caller frame exception)
      if cause.isWritten then
        let _ ← evaluate caller frame cause
      throw (.raised raised)
    else
      match (← get).handled with
      | handled :: _ => throw (.raised handled)
      | [] => fail "RuntimeError" "No active exception to reraise".toList
  | .assert test message => do
    let datum ← evaluate caller frame test
    if (← get).truth datum then return .next
    else if message.isWritten then
      raiseWith "AssertionError" [← evaluate caller frame message]
    else raiseWith "AssertionError" []
  | .import_ names => do
    for alias_ in names do
      importModule frame alias_
    return .next
  | .importFrom module_ level names => do
    if level > 0 then fail "KeyError" "'__name__' not in globals".toList
    let _ ← findModule module_
    for alias_ in names do
      importName frame module_ alias_
    return .next
  | .if_ test body orelse => do
    let datum ← evaluate caller frame test
    if (← get).truth datum then executeAll caller frame body else executeAll caller frame orelse
  | .while_ test body orelse => do
    let holds : Action Bool := do
      let datum ← evaluate caller frame test
      return (← get).truth datum
    match ← loopWhile holds (executeAll caller frame body) maxRounds with
    | some flow => return flow
    | none => executeAll caller frame orelse
  | .for_ false target source body orelse => do
    let items ← itemsOf (← evaluate caller frame source)
    let round (item : Datum) : Action Flow := do
      assignTarget caller frame target item
      executeAll caller frame body
    match ← loopOver round items with
    | some flow => return flow
    | none => executeAll caller frame orelse
  | .try_ false body handlers orelse final => do
    let handled : Action Flow := do
      match ← outcome (executeAll caller frame body) with
      | .ok .next => executeAll caller frame orelse
      | .ok flow => return flow
      | .error (.raised exception) =>
        match ← executeHandlers caller frame exception handlers with
        | some flow => return flow
        | none => throw (.raised exception)
      | .error signal => throw signal
    let result ← outcome handled
    match ← executeAll caller frame final with
    | .next => resume result
    | flow => return flow
  | .function _ name parameters body decorators hint => do
    let decorators ← (evaluateEach caller frame decorators).mapM id
    let defaults ← evaluateDefaults caller frame parameters
    let _ ← (evaluateEach caller frame (hintsOf parameters hint)).mapM id
    let function ← allocate (.function (closureIn (← get) frame name parameters defaults body))
    bindName frame name (← decorate caller decorators function)
    return .next
  | .class_ name bases body decorators => do
    let decorators ← (evaluateEach caller frame decorators).mapM id
    let (bases, _) ← evaluateArguments caller frame .none bases
    let machine ← get
    let inner := machine.things.length
    let _ ← allocate (.frame ⟨.class_, [], [], declaredNamesAll true body, [],
      enclosing machine frame, qualifierOf machine frame ++ name ++ ['.']⟩)
    let _ ← executeAll caller inner body
    let members := match (← get).thing? inner with
      | some (.frame found) => found.names
      | _ => []
    let class_ ← allocate (.class_ name bases members)
    bindName frame name (← decorate caller decorators class_)
    return .next
  | _ => throw .unsupported

/-- Executes statements one after the other. -/
def executeAll (caller : Caller) (frame : Nat) : List Stmt → Action Flow
  | [] => return .next
  | first :: rest => do
    match ← execute caller frame first with
    | .next => executeAll caller frame rest
    | flow => return flow

/-- Executes the first handler that is for an exception, if there is one. The name that the
exception is bound to is gone afterwards. -/
def executeHandlers (caller : Caller) (frame : Nat) (exception : Datum) :
    List Stmt → Action (Option Flow)
  | [] => return none
  | .handler classes name body :: rest => do
    let fits ←
      if classes.isWritten then
        whileHandling exception do isHandledBy exception (← evaluate caller frame classes)
      else pure true
    if fits then
      match name with
      | some name =>
        bindName frame name exception
        let result ← outcome (whileHandling exception (executeAll caller frame body))
        changeNames (← bindingFrame frame name) (Names.erase name)
        return some (← resume result)
      | none => return some (← whileHandling exception (executeAll caller frame body))
    else executeHandlers caller frame exception rest
  | _ :: rest => executeHandlers caller frame exception rest

end

/-! ## Calls -/

/-- The names of the parameters of some kinds. -/
def parameterNames (kinds : List ParameterKind) (parameters : List Expr) : List Text :=
  parameters.filterMap fun parameter => match parameter with
    | .parameter kind name _ _ _ => if kinds.contains kind then some name else none
    | _ => none

/-- Names in marks, with commas and a word between them. -/
def listedNames (names : List Text) : Text :=
  let marked := names.map fun name => "'".toList ++ name ++ "'".toList
  match marked with
  | [] => []
  | [only] => only
  | [first, second] => first ++ " and ".toList ++ second
  | _ => Text.join ", ".toList marked.dropLast ++ ", and ".toList ++ (marked.getLast?.getD [])

/-- The fault of arguments that are missing. -/
def missingArguments {α : Type} (closure : Closure) (kind : String) (names : List Text) :
    Action α :=
  fail "TypeError" (closure.qualifiedName ++ "() missing ".toList ++ Text.ofNat names.length ++
    " required ".toList ++ kind.toList ++
    (if names.length = 1 then " argument: ".toList else " arguments: ".toList) ++ listedNames names)

/-- The fault of too many arguments by position. -/
def tooManyArguments {α : Type} (closure : Closure) (most least given : Nat) : Action α :=
  let range := if least < most then
      "from ".toList ++ Text.ofNat least ++ " to ".toList ++ Text.ofNat most
    else Text.ofNat most
  fail "TypeError" (closure.qualifiedName ++ "() takes ".toList ++ range ++
    " positional argument".toList ++ (if most = 1 && least = most then [] else ['s']) ++
    " but ".toList ++ Text.ofNat given ++ (if given = 1 then " was" else " were").toList ++
    " given".toList)

/-- Gives arguments by name to parameters: the parameters and what is left for the parameter that
takes all further names. -/
def bindNamed (closure : Closure) (known : List Text) (takesAll : Bool) :
    Names → Names → Names → Action (Names × Names)
  | [], bound, rest => return (bound, rest)
  | (name, datum) :: more, bound, rest => do
    if known.contains name then
      if (bound.get? name).isSome then
        fail "TypeError" (closure.qualifiedName ++ "() got multiple values for argument '".toList ++
          name ++ "'".toList)
      else bindNamed closure known takesAll more (bound ++ [(name, datum)]) rest
    else if takesAll then bindNamed closure known takesAll more bound (rest ++ [(name, datum)])
    else
      fail "TypeError" (closure.qualifiedName ++ "() got an unexpected keyword argument '".toList ++
        name ++ "'".toList)

/-- The names of the parameters of a function and the arguments that they stand for. -/
def bindArguments (closure : Closure) (positional : List Datum) (named : Names) : Action Names := do
  let places := parameterNames [.positional, .ordinary] closure.parameters
  let keywords := parameterNames [.keyword] closure.parameters
  let spread := (parameterNames [.rest] closure.parameters).head?
  let spreadNamed := (parameterNames [.keywords] closure.parameters).head?
  let known := parameterNames [.ordinary, .keyword] closure.parameters
  let (bound, rest) ← bindNamed closure known spreadNamed.isSome named (places.zip positional) []
  let hasDefault (name : Text) : Bool := (closure.defaults.get? name).isSome
  if positional.length > places.length && spread.isNone then
    tooManyArguments closure places.length (places.filter (!hasDefault ·)).length positional.length
  let isMissing (name : Text) : Bool := (bound.get? name).isNone && !hasDefault name
  if places.any isMissing then missingArguments closure "positional" (places.filter isMissing)
  if keywords.any isMissing then missingArguments closure "keyword-only" (keywords.filter isMissing)
  let unset := (places ++ keywords).filter fun name => (bound.get? name).isNone
  let defaults := closure.defaults.filter fun entry => unset.contains entry.1
  let extra ← match spread with
    | some name => do pure [(name, ← allocate (.tuple (positional.drop places.length)))]
    | none => pure []
  let extraNamed ← match spreadNamed with
    | some name => do
      pure [(name, ← allocate (.dict (rest.map fun entry => (.str entry.1, entry.2))))]
    | none => pure []
  return bound ++ defaults ++ extra ++ extraNamed

/-- The fault of a datum that cannot be called. -/
def notCallable {α : Type} (datum : Datum) : Action α := do
  fail "TypeError" (typeInMarks (← get) datum ++ " object is not callable".toList)

/-- A bound on the depth of calls. -/
def maxDepth : Nat := 990

/-- Calls a datum, with calls inside up to a depth. -/
def callTo : Nat → Caller
  | 0, _, _, _ => fail "RecursionError" "maximum recursion depth exceeded".toList
  | depth + 1, callee, positional, named => do
    let machine ← get
    match callee, machine.thingOf? callee with
    | .builtin name, _ =>
      if isClassName name || isOneOf builtinFunctions name then callBuiltin name positional named
      else notCallable callee
    | .external name, _ => callExternal name positional
    | .method receiver name, _ => callMethod receiver name positional
    | .bound receiver function, _ => callTo depth function (receiver :: positional) named
    | _, some (.function closure) =>
      let names ← bindArguments closure positional named
      let globals := declaredNamesAll true closure.body
      let nonlocals := declaredNamesAll false closure.body
      let elsewhere := globals ++ nonlocals
      let locals := (names.map Prod.fst ++ boundNamesAll closure.body).filter fun name =>
        !elsewhere.contains name
      let frame := (← get).things.length
      let _ ← allocate (.frame ⟨.function, names, locals, globals, nonlocals, closure.outer,
        closure.qualifiedName ++ ".<locals>.".toList⟩)
      match ← executeAll (callTo depth) frame closure.body with
      | .returned value => return value
      | _ => return .none
    | _, some (.class_ name _ _) =>
      let arguments := if machine.isExceptionClass callee then positional else []
      let made ← allocate (.instance_ callee [] arguments)
      match machine.classMember? callee "__init__".toList with
      | some init =>
        let _ ← callTo depth init (made :: positional) named
        return made
      | none =>
        let isPlain := (machine.ancestors callee).all fun ancestor =>
          match ancestor with
          | .builtin id => id == "object".toList
          | _ => true
        if isPlain && !(positional.isEmpty && named.isEmpty) then
          fail "TypeError" (name ++ "() takes no arguments".toList)
        return made
    | _, some (.instance_ class_ _ _) =>
      match machine.classMember? class_ "__call__".toList with
      | some function => callTo depth function (callee :: positional) named
      | none => notCallable callee
    | _, _ => notCallable callee

/-- Runs a script: how it ended, and its state then. -/
def runScript (script : Module) : Except Signal Flow × Machine :=
  (executeAll (callTo maxDepth) 0 script).run.run Machine.start

end TypeSurvey.Script
