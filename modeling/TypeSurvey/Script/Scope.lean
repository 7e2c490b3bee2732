import TypeSurvey.Script.Machine

/-!
# Scopes

A name inside a function belongs to the function if the function binds it anywhere, unless it is
declared to belong elsewhere. Otherwise it is looked up in the functions around it, then in the
script, and then among the built-in names. The names of a class are seen in its own body only.
-/

namespace TypeSurvey.Script

open Source

mutual

/-- The names that an assignment to a target binds. -/
def boundByTarget : Expr → List Text
  | .name id => [id]
  | .tuple items => boundByTargets items
  | .list items => boundByTargets items
  | .starred value => boundByTarget value
  | _ => []

/-- The names that assignments to targets bind. -/
def boundByTargets : List Expr → List Text
  | [] => []
  | first :: rest => boundByTarget first ++ boundByTargets rest

end

/-- The names that contexts bind. -/
def boundByContexts (contexts : List Expr) : List Text :=
  contexts.flatMap fun context => match context with
    | .context _ target => boundByTarget target
    | _ => []

/-- The name that an import binds. -/
def boundByAlias (alias_ : Alias) : Text :=
  alias_.bound.getD ((Text.split ['.'] alias_.name).headD [])

mutual

/-- The names that a statement binds in its own scope. -/
def boundNames : Stmt → List Text
  | .assign targets _ => boundByTargets targets
  | .augment target _ _ => boundByTarget target
  | .declare target _ _ => boundByTarget target
  | .delete targets => boundByTargets targets
  | .expression (.named target _) => boundByTarget target
  | .import_ names => names.map boundByAlias
  | .importFrom _ _ names => names.map boundByAlias
  | .if_ (.named target _) body orelse =>
    boundByTarget target ++ boundNamesAll body ++ boundNamesAll orelse
  | .if_ _ body orelse => boundNamesAll body ++ boundNamesAll orelse
  | .while_ _ body orelse => boundNamesAll body ++ boundNamesAll orelse
  | .for_ _ target _ body orelse =>
    boundByTarget target ++ boundNamesAll body ++ boundNamesAll orelse
  | .with_ _ contexts body => boundByContexts contexts ++ boundNamesAll body
  | .try_ _ body handlers orelse final =>
    boundNamesAll body ++ boundNamesAll handlers ++ boundNamesAll orelse ++ boundNamesAll final
  | .handler _ name body => name.toList ++ boundNamesAll body
  | .match_ _ cases => boundNamesAll cases
  | .case _ _ body => boundNamesAll body
  | .function _ name _ _ _ _ => [name]
  | .class_ name _ _ _ => [name]
  | _ => []

/-- The names that statements bind in their own scope. -/
def boundNamesAll : List Stmt → List Text
  | [] => []
  | first :: rest => boundNames first ++ boundNamesAll rest

end

mutual

/-- The names that a statement declares to belong to the script, or to an enclosing function. -/
def declaredNames (isGlobal : Bool) : Stmt → List Text
  | .global names => if isGlobal then names else []
  | .nonlocal names => if isGlobal then [] else names
  | .if_ _ body orelse => declaredNamesAll isGlobal body ++ declaredNamesAll isGlobal orelse
  | .while_ _ body orelse => declaredNamesAll isGlobal body ++ declaredNamesAll isGlobal orelse
  | .for_ _ _ _ body orelse => declaredNamesAll isGlobal body ++ declaredNamesAll isGlobal orelse
  | .with_ _ _ body => declaredNamesAll isGlobal body
  | .try_ _ body handlers orelse final =>
    declaredNamesAll isGlobal body ++ declaredNamesAll isGlobal handlers ++
      declaredNamesAll isGlobal orelse ++ declaredNamesAll isGlobal final
  | .handler _ _ body => declaredNamesAll isGlobal body
  | .match_ _ cases => declaredNamesAll isGlobal cases
  | .case _ _ body => declaredNamesAll isGlobal body
  | _ => []

/-- The names that statements declare to belong to the script, or to an enclosing function. -/
def declaredNamesAll (isGlobal : Bool) : List Stmt → List Text
  | [] => []
  | first :: rest => declaredNames isGlobal first ++ declaredNamesAll isGlobal rest

end

def builtinName? (name : Text) : Option Datum :=
  let plain := plainName name
  if isClassName plain || isOneOf builtinFunctions plain then some (.builtin plain)
  else if name == "__name__".toList then some (.str "builtins".toList)
  else if name == "Ellipsis".toList then some .ellipsis
  else if name == "__debug__".toList then some (.bool true)
  else none

/-- The fault of a name that is not bound. -/
def undefinedName {α : Type} (name : Text) : Action α :=
  fail "NameError" ("name '".toList ++ name ++ "' is not defined".toList)

/-- The fault of a local name that is not bound yet. -/
def unboundLocal {α : Type} (name : Text) : Action α :=
  fail "UnboundLocalError" ("cannot access local variable '".toList ++ name ++
    "' where it is not associated with a value".toList)

/-- What a name means for the script as a whole. -/
def lookupGlobal (name : Text) : Action Datum := do
  match (← get).globals.get? name, builtinName? name with
  | some datum, _ => return datum
  | none, some datum => return datum
  | none, none => undefinedName name

/-- What a name means in a frame. The frame is the one that runs, or one around it. -/
def lookupFrom : Nat → Bool → Nat → Text → Action Datum
  | 0, _, _, name => lookupGlobal name
  | fuel + 1, isOwn, address, name => do
    match (← get).thing? address with
    | some (.frame frame) =>
      match frame.kind, frame.names.get? name with
      | .script, _ => lookupGlobal name
      | .class_, some datum =>
        if isOwn then return datum else lookupFrom fuel false frame.outer name
      | .class_, none =>
        if isOwn && frame.globals.contains name then lookupGlobal name
        else lookupFrom fuel false frame.outer name
      | _, found =>
        if frame.globals.contains name then lookupGlobal name
        else if frame.locals.contains name then
          match found with
          | some datum => return datum
          | none =>
            if isOwn then unboundLocal name
            else
              fail "NameError" ("cannot access free variable '".toList ++ name ++
                "' where it is not associated with a value in enclosing scope".toList)
        else lookupFrom fuel false frame.outer name
    | _ => lookupGlobal name

/-- What a name means in the frame that runs. -/
def lookup (address : Nat) (name : Text) : Action Datum := do
  lookupFrom ((← get).things.length + 1) true address name

def changeNames (address : Nat) (change : Names → Names) : Action Unit := do
  match (← get).thing? address with
  | some (.frame frame) => store address (.frame { frame with names := change frame.names })
  | _ => pure ()

/-- The address of the frame to which a name belongs that is declared to belong to an enclosing
function. -/
def homeOf (machine : Machine) : Nat → Nat → Text → Nat
  | 0, address, _ => address
  | fuel + 1, address, name =>
    match machine.thing? address with
    | some (.frame frame) =>
      if frame.kind = .function && frame.locals.contains name then address
      else homeOf machine fuel frame.outer name
    | _ => address

/-- The address of the frame in which a name is bound. -/
def bindingFrame (address : Nat) (name : Text) : Action Nat := do
  let machine ← get
  match machine.thing? address with
  | some (.frame frame) =>
    if frame.globals.contains name then return 0
    else if frame.nonlocals.contains name then
      return homeOf machine machine.things.length frame.outer name
    else return address
  | _ => return address

def bindName (address : Nat) (name : Text) (datum : Datum) : Action Unit := do
  changeNames (← bindingFrame address name) (putNamed name datum)

/-- The address of the frame around comprehensions. -/
def outsideComprehensions (machine : Machine) : Nat → Nat → Nat
  | 0, address => address
  | fuel + 1, address =>
    match machine.thing? address with
    | some (.frame frame) =>
      if frame.kind = .comprehension then outsideComprehensions machine fuel frame.outer
      else address
    | _ => address

def deleteName (address : Nat) (name : Text) : Action Unit := do
  let home ← bindingFrame address name
  match (← get).thing? home with
  | some (.frame frame) =>
    if (frame.names.get? name).isSome then changeNames home (Names.erase name)
    else if frame.kind = .function then unboundLocal name
    else undefinedName name
  | _ => undefinedName name

/-- The address of the frame that functions and comprehensions see around them. The names of a class
are not seen. -/
def enclosing (machine : Machine) (address : Nat) : Nat :=
  match machine.thing? address with
  | some (.frame frame) => if frame.kind = .class_ then frame.outer else address
  | _ => address

/-- What stands before the names of what is defined in a frame. -/
def qualifierOf (machine : Machine) (address : Nat) : Text :=
  match machine.thing? address with
  | some (.frame frame) => frame.qualifier
  | _ => []

end TypeSurvey.Script
