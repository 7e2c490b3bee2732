import TypeSurvey.Script.Operator

/-!
# Items and slices

Reading, changing and deleting the items of sequences and dictionaries. A negative index counts from
the end.
-/

namespace TypeSurvey.Script

/-- The place of an index among a number of items. -/
def place? (count : Nat) (index : Int) : Option Nat :=
  let place := if index < 0 then index + count else index
  if 0 ≤ place ∧ place < count then some place.toNat else none

/-- The bounds of a slice: start, stop and step. -/
structure SliceBounds where
  start : Option Int
  /-- The place before which it stops. -/
  stop : Option Int
  step : Int

def sliceBound (datum : Datum) : Action (Option Int) := do
  match datum, wholeOf? datum with
  | .none, _ => return none
  | _, some value => return some value
  | _, none =>
    fail "TypeError" "slice indices must be integers or None or have an __index__ method".toList

/-- The bounds of a slice from the data that stand for them. -/
def sliceBounds (lower upper step : Datum) : Action SliceBounds := do
  let start ← sliceBound lower
  let stop ← sliceBound upper
  let step ← sliceBound step
  if step = some 0 then fail "ValueError" "slice step cannot be zero".toList
  return ⟨start, stop, step.getD 1⟩

/-- The places of a slice among a number of items. -/
def SliceBounds.places (bounds : SliceBounds) (count : Nat) : List Nat :=
  let size : Int := count
  let clamp (least most value : Int) : Int := max least (min most value)
  let bound (value : Int) : Int := if value < 0 then value + size else value
  if bounds.step > 0 then
    let start := clamp 0 size (bound (bounds.start.getD 0))
    let stop := clamp 0 size (match bounds.stop with
      | some value => bound value
      | none => size)
    let number := if start < stop then ((stop - start - 1) / bounds.step + 1).toNat else 0
    (List.range number).map fun (turn : Nat) => (start + turn * bounds.step).toNat
  else
    let start := clamp (-1) (size - 1) (match bounds.start with
      | some value => bound value
      | none => size - 1)
    let stop := clamp (-1) (size - 1) (match bounds.stop with
      | some value => bound value
      | none => -1)
    let number := if stop < start then ((start - stop - 1) / (-bounds.step) + 1).toNat else 0
    (List.range number).map fun (turn : Nat) => (start + turn * bounds.step).toNat

def SliceBounds.pick {α : Type} (bounds : SliceBounds) (items : List α) : List α :=
  (bounds.places items.length).filterMap fun place => items[place]?

def getSlice (owner lower upper step : Datum) : Action Datum := do
  let machine ← get
  match owner, machine.thingOf? owner with
  | .str value, _ => return .str ((← sliceBounds lower upper step).pick value)
  | .bytes value, _ => return .bytes ((← sliceBounds lower upper step).pick value)
  | _, some (.list items) => allocate (.list ((← sliceBounds lower upper step).pick items))
  | _, some (.tuple items) => allocate (.tuple ((← sliceBounds lower upper step).pick items))
  | _, some (.dict _) => fail "TypeError" "unhashable type: 'slice'".toList
  | _, _ => fail "TypeError" (typeInMarks machine owner ++ " object is not subscriptable".toList)

def indexed {α : Type} (kind : String) (items : List α) (index : Datum) : Action α := do
  let machine ← get
  match wholeOf? index with
  | some number =>
    match (place? items.length number).bind fun place => items[place]? with
    | some item => return item
    | none =>
      fail "IndexError" (if kind == "byte" then "index out of range".toList
        else kind.toList ++ " index out of range".toList)
  | none =>
    fail "TypeError" (if kind == "string" then
        "string indices must be integers, not ".toList ++ typeInMarks machine index
      else kind.toList ++ " indices must be integers or slices, not ".toList ++
        machine.typeName index)

/-- Whether a built-in class can be given the types of its items. -/
def isGenericClass (name : Text) : Bool :=
  isOneOf ["list", "dict", "tuple", "set", "frozenset", "type", "enumerate"] name

/-- The item of a datum under an index or a key. -/
def getItem (owner index : Datum) : Action Datum := do
  let machine ← get
  match owner, machine.thingOf? owner with
  | .str value, _ => return .str [← indexed "string" value index]
  | .bytes value, _ => return .int (← indexed "byte" value index).toNat
  | _, some (.list items) => indexed "list" items index
  | _, some (.tuple items) => indexed "tuple" items index
  | _, some (.iterable kind items) =>
    if kind == "range".toList then indexed "range object" items index
    else fail "TypeError" (typeInMarks machine owner ++ " object is not subscriptable".toList)
  | _, some (.dict entries) =>
    checkKey index
    match entryOf? machine index entries with
    | some value => return value
    | none => raiseWith "KeyError" [index]
  | .external name, _ => return .external name
  | _, _ =>
    if machine.isClass owner then
      let name := machine.className owner
      if isGenericClass name then return .external name
      else fail "TypeError" ("type '".toList ++ name ++ "' is not subscriptable".toList)
    else fail "TypeError" (typeInMarks machine owner ++ " object is not subscriptable".toList)

/-- Changes the item of a datum under an index or a key. -/
def setItem (owner index value : Datum) : Action Unit := do
  let machine ← get
  match owner, machine.thingOf? owner with
  | .ref address, some (.list items) =>
    match wholeOf? index with
    | some number =>
      match place? items.length number with
      | some place => store address (.list (items.set place value))
      | none => fail "IndexError" "list assignment index out of range".toList
    | none =>
      fail "TypeError" ("list indices must be integers or slices, not ".toList ++
        machine.typeName index)
  | .ref address, some (.dict entries) =>
    checkKey index
    store address (.dict (putEntry machine index value entries))
  | _, _ =>
    fail "TypeError" (typeInMarks machine owner ++
      " object does not support item assignment".toList)

/-- Deletes the item of a datum under an index or a key. -/
def deleteItem (owner index : Datum) : Action Unit := do
  let machine ← get
  match owner, machine.thingOf? owner with
  | .ref address, some (.list items) =>
    match wholeOf? index with
    | some number =>
      match place? items.length number with
      | some place => store address (.list (items.eraseIdx place))
      | none => fail "IndexError" "list assignment index out of range".toList
    | none =>
      fail "TypeError" ("list indices must be integers or slices, not ".toList ++
        machine.typeName index)
  | .ref address, some (.dict entries) =>
    checkKey index
    match entryOf? machine index entries with
    | some _ =>
      store address (.dict (entries.filter fun entry => !machine.equal entry.1 index))
    | none => raiseWith "KeyError" [index]
  | _, some (.tuple _) | .str _, _ | .bytes _, _ =>
    fail "TypeError" (typeInMarks machine owner ++ " object doesn't support item deletion".toList)
  | _, _ =>
    fail "TypeError" (typeInMarks machine owner ++ " object does not support item deletion".toList)

/-- Gives the items of a datum to a number of targets. One of them may take all that is left. -/
def unpack (source : Datum) (before : Nat) (rest : Option Nat) : Action (List Datum) := do
  let machine ← get
  match itemsOf? machine source with
  | none =>
    fail "TypeError" ("cannot unpack non-iterable ".toList ++ machine.typeName source ++
      " object".toList)
  | some items =>
    match rest with
    | none =>
      if items.length < before then
        fail "ValueError" ("not enough values to unpack (expected ".toList ++ Text.ofNat before ++
          ", got ".toList ++ Text.ofNat items.length ++ ")".toList)
      else if items.length > before then
        fail "ValueError" ("too many values to unpack (expected ".toList ++ Text.ofNat before ++
          ")".toList)
      else return items
    | some after =>
      if items.length < before + after then
        fail "ValueError" ("not enough values to unpack (expected at least ".toList ++
          Text.ofNat (before + after) ++ ", got ".toList ++ Text.ofNat items.length ++ ")".toList)
      else
        let middle := items.length - before - after
        let starred ← allocate (.list ((items.drop before).take middle))
        return items.take before ++ [starred] ++ items.drop (before + middle)

end TypeSurvey.Script
