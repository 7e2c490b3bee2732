import TypeSurvey.Script.Builtin
import TypeSurvey.Script.Scope

/-!
# Evaluation of expressions

Expressions are evaluated in a frame. Calls go through a caller, which is given from outside, so
that evaluation follows the structure of the expression.
-/

namespace TypeSurvey.Script

open Source

/-- How a datum is called with arguments by position and by name. -/
abbrev Caller := Datum → List Datum → Names → Action Datum

def ofConstant : Constant → Datum
  | .none => .none
  | .bool value => .bool value
  | .int value => .int value
  | .float value => .float value
  | .imaginary value => .complex (Binary64.zero false) value
  | .str value => .str value
  | .bytes value => .bytes value
  | .ellipsis => .ellipsis

/-- Evaluates operands up to the one that decides. -/
def decide_ (isAnd : Bool) (last : Datum) : List (Action Datum) → Action Datum
  | [] => return last
  | operand :: rest => do
    let datum ← operand
    if (← get).truth datum = isAnd then decide_ isAnd datum rest else return datum

/-- Compares operands one after the other, up to the first comparison that fails. -/
def compareChain (left : Datum) : List (CompareOp × Action Datum) → Action Datum
  | [] => return .bool true
  | (op, operand) :: rest => do
    let right ← operand
    if ← compareData op left right then compareChain right rest else return .bool false

/-- The entries of a dictionary display: keys are absent for dictionaries that are spread. -/
def displayEntries (found : List (Datum × Datum)) :
    List (Option (Action Datum) × Action Datum) → Action (List (Datum × Datum))
  | [] => return found
  | (some key, value) :: rest => do
    let key ← key
    let value ← value
    checkKey key
    displayEntries (putEntry (← get) key value found) rest
  | (none, source) :: rest => do
    let source ← source
    let machine ← get
    match machine.thingOf? source with
    | some (.dict more) =>
      displayEntries
        (more.foldl (fun entries entry => putEntry machine entry.1 entry.2 entries) found) rest
    | _ => fail "TypeError" (typeInMarks machine source ++ " object is not a mapping".toList)

/-- The text of a datum in a formatted literal. -/
def formatDatum (conversion : Option Char) (datum spec : Datum) : Action Datum := do
  let machine ← get
  let format := match spec with
    | .str text => text
    | _ => []
  match conversion with
  | some 's' => finish format (.str (machine.textOf datum))
  | some _ => finish format (.str (machine.resolve datum).quoted)
  | none =>
    if format.isEmpty then return .str (machine.textOf datum)
    else finish format (machine.resolve datum)
where
  /-- Writes a value by a format. -/
  finish (format : Text) (value : Value) : Action Datum :=
    match value.formatBy format with
    | .ok text => return .str text
    | .error cause => raiseFault (.format cause)

/-- The texts of pieces put together. -/
def joinTexts (pieces : List Datum) : Text :=
  pieces.flatMap fun piece => match piece with
    | .str text => text
    | _ => []

/-- Whether all conditions hold, each of which is evaluated only if those before it hold. -/
def allHold : List (Action Datum) → Action Bool
  | [] => return true
  | condition :: rest => do
    let datum ← condition
    if (← get).truth datum then allHold rest else return false

/-- A frame for a comprehension with the names of its targets. -/
def comprehensionFrame (frame : Nat) (clauses : List Expr) : Action Nat := do
  let machine ← get
  let names := clauses.flatMap fun clause => match clause with
    | .clause _ target _ _ => boundByTarget target
    | _ => []
  let outer := enclosing machine frame
  let _ ← allocate (.frame ⟨.comprehension, [], names, [], [], outer, qualifierOf machine frame⟩)
  return machine.things.length

/-- The place of the starred target among targets, as the number of targets before and after it. -/
def starPlace (targets : List Expr) : Nat × Option Nat :=
  match targets.findIdx? (fun target => target matches .starred _) with
  | some place => (place, some (targets.length - place - 1))
  | none => (targets.length, none)

/-- A function of the script. -/
def closureIn (machine : Machine) (frame : Nat) (name : Text) (parameters : List Expr)
    (defaults : Names) (body : List Stmt) : Closure where
  name := name
  qualifiedName := qualifierOf machine frame ++ name
  parameters := parameters
  defaults := defaults
  body := body
  outer := enclosing machine frame

mutual

def evaluate (caller : Caller) (frame : Nat) : Expr → Action Datum
  | .omitted => return .none
  | .constant value => return ofConstant value
  | .name id => lookup frame id
  | .formatted pieces => do
    return .str (joinTexts (← (evaluateEach caller frame pieces).mapM id))
  | .placeholder value conversion spec => do
    let datum ← evaluate caller frame value
    formatDatum conversion datum (← evaluate caller frame spec)
  | .list items => do allocate (.list (← evaluateItems caller frame items))
  | .tuple items => do allocate (.tuple (← evaluateItems caller frame items))
  | .set items => do setOf (← evaluateItems caller frame items)
  | .dict keys values => do
    let keyActions := (evaluateEach caller frame keys).zip keys |>.map fun (action, key) =>
      if key.isWritten then some action else none
    let entries ← displayEntries [] (keyActions.zip (evaluateEach caller frame values))
    allocate (.dict entries)
  | .unary op operand => do operateUnary op (← evaluate caller frame operand)
  | .binary op left right => do
    let left ← evaluate caller frame left
    operate op (operatorMark op) left (← evaluate caller frame right)
  | .junction isAnd operands => decide_ isAnd (.bool isAnd) (evaluateEach caller frame operands)
  | .compare first ops rest => do
    compareChain (← evaluate caller frame first) (ops.zip (evaluateEach caller frame rest))
  | .conditional test yes no => do
    let datum ← evaluate caller frame test
    if (← get).truth datum then evaluate caller frame yes else evaluate caller frame no
  | .lambda parameters body => do
    let defaults ← evaluateDefaults caller frame parameters
    allocate (.function (closureIn (← get) frame "<lambda>".toList parameters defaults
      [.return_ body 0]))
  | .call function arguments => do
    let callee ← evaluate caller frame function
    let (positional, named) ← evaluateArguments caller frame callee arguments
    caller callee positional named
  | .member value name => do getMember (← evaluate caller frame value) name
  | .subscript value (.slice lower upper step) => do
    let owner ← evaluate caller frame value
    let lower ← evaluate caller frame lower
    let upper ← evaluate caller frame upper
    getSlice owner lower upper (← evaluate caller frame step)
  | .subscript value index => do
    let owner ← evaluate caller frame value
    getItem owner (← evaluate caller frame index)
  | .listComp element clauses => do
    let inner ← comprehensionFrame frame clauses
    let found ← evaluateClauses caller frame inner clauses do
      return [← evaluate caller inner element]
    allocate (.list found.flatten)
  | .setComp element clauses => do
    let inner ← comprehensionFrame frame clauses
    let found ← evaluateClauses caller frame inner clauses do
      return [← evaluate caller inner element]
    setOf found.flatten
  | .generator element clauses => do
    let inner ← comprehensionFrame frame clauses
    let found ← evaluateClauses caller frame inner clauses do
      return [← evaluate caller inner element]
    allocate (.iterable "generator".toList found.flatten)
  | .dictComp key value clauses => do
    let inner ← comprehensionFrame frame clauses
    let found ← evaluateClauses caller frame inner clauses do
      let key ← evaluate caller inner key
      return [key, ← evaluate caller inner value]
    let pairs := found.filterMap fun pair => match pair with
      | [key, value] => some (some (pure key), pure value)
      | _ => none
    allocate (.dict (← displayEntries [] pairs))
  | .named (.name id) value => do
    let datum ← evaluate caller frame value
    let machine ← get
    bindName (outsideComprehensions machine machine.things.length frame) id datum
    return datum
  | _ => throw .unsupported

def evaluateEach (caller : Caller) (frame : Nat) : List Expr → List (Action Datum)
  | [] => []
  | first :: rest => evaluate caller frame first :: evaluateEach caller frame rest

/-- The items of a display, where starred items are spread. -/
def evaluateItems (caller : Caller) (frame : Nat) : List Expr → Action (List Datum)
  | [] => return []
  | .starred value :: rest => do
    let items ← itemsOf (← evaluate caller frame value)
    return items ++ (← evaluateItems caller frame rest)
  | first :: rest => do
    let datum ← evaluate caller frame first
    return datum :: (← evaluateItems caller frame rest)

/-- The arguments of a call by position and by name. -/
def evaluateArguments (caller : Caller) (frame : Nat) (callee : Datum) :
    List Expr → Action (List Datum × Names)
  | [] => return ([], [])
  | .starred value :: rest => do
    let items ← itemsOf (← evaluate caller frame value)
    let (positional, named) ← evaluateArguments caller frame callee rest
    return (items ++ positional, named)
  | .keyword (some name) value :: rest => do
    let datum ← evaluate caller frame value
    let (positional, named) ← evaluateArguments caller frame callee rest
    return (positional, (name, datum) :: named)
  | .keyword none value :: rest => do
    let source ← evaluate caller frame value
    let machine ← get
    let more := match machine.thingOf? source with
      | some (.dict entries) => entries.filterMap fun entry => match entry.1 with
        | .str name => some (name, entry.2)
        | _ => none
      | _ => []
    let (positional, named) ← evaluateArguments caller frame callee rest
    return (positional, more ++ named)
  | first :: rest => do
    let datum ← evaluate caller frame first
    let (positional, named) ← evaluateArguments caller frame callee rest
    return (datum :: positional, named)

def evaluateDefaults (caller : Caller) (frame : Nat) : List Expr → Action Names
  | [] => return []
  | .parameter _ name _ default _ :: rest => do
    if default.isWritten then
      let datum ← evaluate caller frame default
      return (name, datum) :: (← evaluateDefaults caller frame rest)
    else evaluateDefaults caller frame rest
  | _ :: rest => evaluateDefaults caller frame rest

/-- Runs through the clauses of a comprehension and collects what its body gives. What the first
clause runs over is evaluated outside. -/
def evaluateClauses (caller : Caller) (outer inner : Nat) :
    List Expr → Action (List Datum) → Action (List (List Datum))
  | [], body => do return [← body]
  | .clause _ target source conditions :: rest, body => do
    let items ← itemsOf (← evaluate caller outer source)
    let found ← items.mapM fun item => do
      assignTarget caller inner target item
      if ← allHold (evaluateEach caller inner conditions) then
        evaluateClauses caller inner inner rest body
      else return []
    return found.flatten
  | _ :: _, _ => throw .unsupported

def assignTarget (caller : Caller) (frame : Nat) : Expr → Datum → Action Unit
  | .name id, datum => bindName frame id datum
  | .tuple items, datum => do
    let (before, after) := starPlace items
    assignTargets caller frame items (← unpack datum before after)
  | .list items, datum => do
    let (before, after) := starPlace items
    assignTargets caller frame items (← unpack datum before after)
  | .starred value, datum => assignTarget caller frame value datum
  | .member value name, datum => do setMember (← evaluate caller frame value) name datum
  | .subscript value index, datum => do
    let owner ← evaluate caller frame value
    setItem owner (← evaluate caller frame index) datum
  | _, _ => throw .unsupported

def assignTargets (caller : Caller) (frame : Nat) : List Expr → List Datum → Action Unit
  | target :: targets, datum :: data => do
    assignTarget caller frame target datum
    assignTargets caller frame targets data
  | _, _ => return ()

end

mutual

def deleteTarget (caller : Caller) (frame : Nat) : Expr → Action Unit
  | .name id => deleteName frame id
  | .tuple items => deleteTargets caller frame items
  | .list items => deleteTargets caller frame items
  | .member value name => do deleteMember (← evaluate caller frame value) name
  | .subscript value index => do
    let owner ← evaluate caller frame value
    deleteItem owner (← evaluate caller frame index)
  | _ => throw .unsupported

def deleteTargets (caller : Caller) (frame : Nat) : List Expr → Action Unit
  | [] => return ()
  | first :: rest => do
    deleteTarget caller frame first
    deleteTargets caller frame rest

end

/-- Updates a target by an operator. -/
def augmentTarget (caller : Caller) (frame : Nat) (target : Expr) (op : BinaryOp)
    (value : Expr) : Action Unit := do
  match target with
  | .name id =>
    let left ← lookup frame id
    let right ← evaluate caller frame value
    bindName frame id (← update op left right)
  | .member owner name =>
    let owner ← evaluate caller frame owner
    let left ← getMember owner name
    let right ← evaluate caller frame value
    setMember owner name (← update op left right)
  | .subscript owner index =>
    let owner ← evaluate caller frame owner
    let index ← evaluate caller frame index
    let left ← getItem owner index
    let right ← evaluate caller frame value
    setItem owner index (← update op left right)
  | _ => throw .unsupported

end TypeSurvey.Script
