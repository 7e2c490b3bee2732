import TypeSurvey.Script.Machine
import TypeSurvey.Text.Order

/-!
# Operators

Arithmetic, comparisons and the other operators of scripts. An integer stays exact as long as it
meets no real number. Texts, lists and tuples can be joined and repeated.
-/

namespace TypeSurvey.Script

open Source

/-! ## Numbers -/

/-- A number of a script. -/
inductive Quantity
  | whole (value : Int)
  | real (value : Binary64)
  | complex (real imaginary : Binary64)

/-- The number that a datum denotes. -/
def quantity? : Datum → Option Quantity
  | .bool value => some (.whole (if value then 1 else 0))
  | .int value => some (.whole value)
  | .float value => some (.real value)
  | .complex real imaginary => some (.complex real imaginary)
  | _ => none

/-- The real number nearest to an integer, which must not be too large for one. -/
def realOf (value : Int) : Action Binary64 := do
  let result := Binary64.ofInt value
  if result.isInfinite then fail "OverflowError" "int too large to convert to float".toList
  return result

/-- The integer and its power. -/
def realPower (base : Binary64) (power : Nat) : Binary64 :=
  match base with
  | .finite negative significand exponent =>
    let (top, bottom) := Binary64.magnitude significand exponent
    Binary64.ofFraction (negative && power % 2 = 1) (Nat.pow top power) (Nat.pow bottom power)
  | .infinite negative =>
    if power = 0 then Binary64.ofInt 1 else .infinite (negative && power % 2 = 1)
  | .nan => if power = 0 then Binary64.ofInt 1 else .nan

/-- The square root of a real number that is not negative, to the nearest real number. -/
def squareRoot (base : Binary64) : Binary64 :=
  match base with
  | .finite _ significand exponent =>
    let (top, bottom) := Binary64.magnitude significand exponent
    let scale := Nat.pow 2 200
    Binary64.ofFraction false (Nat.sqrt (top * bottom * scale * scale)) (bottom * scale)
  | other => other

/-- The power of a real number. Powers that are neither integers nor square roots are not known. -/
def powerReal (base power : Binary64) : Action Datum := do
  match power.toInt? with
  | some (.ofNat exponent) => return .float (realPower base exponent)
  | some (.negSucc exponent) =>
    if base.isZero then
      fail "ZeroDivisionError" "0.0 cannot be raised to a negative power".toList
    else return .float (Binary64.div (Binary64.ofInt 1) (realPower base (exponent + 1)))
  | none =>
    if power.equals (Binary64.ofFraction false 1 2) && !base.isNegative then
      return .float (squareRoot base)
    else throw .unsupported

/-- The remainder of real numbers, with the sign of the divisor, and the quotient rounded down. -/
def realDivMod (left right : Binary64) : Binary64 × Binary64 :=
  match left, right with
  | .finite leftNegative m e, .finite rightNegative n f =>
    let (a, b) := Binary64.fraction leftNegative m e
    let (c, d) := Binary64.fraction rightNegative n f
    let quotient := Int.fdiv (a * d) (c * b)
    let rest := a * d - quotient * (c * b)
    let remainder := if rest = 0 then Binary64.zero rightNegative
      else Binary64.ofSigned rest (b * d)
    let rounded := if quotient = 0 then Binary64.zero (leftNegative != rightNegative)
      else Binary64.ofInt quotient
    (rounded, remainder)
  | .finite leftNegative _ _, .infinite rightNegative =>
    if left.isZero || leftNegative = rightNegative then
      (Binary64.zero (leftNegative != rightNegative), left)
    else (Binary64.ofInt (-1), right)
  | _, _ => (.nan, .nan)

/-- The mark of an operator in messages. -/
def operatorMark : BinaryOp → String
  | .add => "+"
  | .sub => "-"
  | .mul => "*"
  | .matMul => "@"
  | .div => "/"
  | .floorDiv => "//"
  | .mod => "%"
  | .pow => "** or pow()"
  | .shiftLeft => "<<"
  | .shiftRight => ">>"
  | .bitOr => "|"
  | .bitXor => "^"
  | .bitAnd => "&"

/-- The mark of an operator that updates a target in messages. -/
def updateMark : BinaryOp → String
  | .pow => "**="
  | op => operatorMark op ++ "="

/-- Combines the bits of integers in two's complement. -/
def combineBits (combine : Bool → Bool → Bool) (left right : Int) : Int :=
  let width := max (Nat.log2 left.natAbs) (Nat.log2 right.natAbs) + 2
  let bits (value : Int) (place : Nat) : Bool := (Int.fdiv value (Int.pow 2 place)) % 2 = 1
  let sum := (List.range width).foldl (fun total place =>
    if combine (bits left place) (bits right place) then total + Int.pow 2 place else total) 0
  if combine (left < 0) (right < 0) then sum - Int.pow 2 width else sum

def operateWhole (op : BinaryOp) (left right : Int) : Action (Option Datum) := do
  match op with
  | .add => return some (.int (left + right))
  | .sub => return some (.int (left - right))
  | .mul => return some (.int (left * right))
  | .div =>
    if right = 0 then fail "ZeroDivisionError" "division by zero".toList
    let result := Binary64.ofFraction ((left < 0) != (right < 0)) left.natAbs right.natAbs
    if result.isInfinite then
      fail "OverflowError" "integer division result too large for a float".toList
    return some (.float result)
  | .floorDiv =>
    if right = 0 then fail "ZeroDivisionError" "integer division or modulo by zero".toList
    return some (.int (Int.fdiv left right))
  | .mod =>
    if right = 0 then fail "ZeroDivisionError" "integer modulo by zero".toList
    return some (.int (Int.fmod left right))
  | .pow =>
    match right with
    | .ofNat power => return some (.int (Int.pow left power))
    | .negSucc _ =>
      let base ← realOf left
      return some (← powerReal base (Binary64.ofInt right))
  | .shiftLeft =>
    if right < 0 then fail "ValueError" "negative shift count".toList
    return some (.int (left * Int.pow 2 right.toNat))
  | .shiftRight =>
    if right < 0 then fail "ValueError" "negative shift count".toList
    return some (.int (Int.fdiv left (Int.pow 2 right.toNat)))
  | .bitOr => return some (.int (combineBits or left right))
  | .bitXor => return some (.int (combineBits xor left right))
  | .bitAnd => return some (.int (combineBits and left right))
  | .matMul => return none

def operateReal (op : BinaryOp) (left right : Binary64) : Action (Option Datum) := do
  match op with
  | .add => return some (.float (left.add right))
  | .sub => return some (.float (left.sub right))
  | .mul => return some (.float (left.mul right))
  | .div =>
    if right.isZero then fail "ZeroDivisionError" "float division by zero".toList
    return some (.float (left.div right))
  | .floorDiv =>
    if right.isZero then fail "ZeroDivisionError" "float floor division by zero".toList
    return some (.float (realDivMod left right).1)
  | .mod =>
    if right.isZero then fail "ZeroDivisionError" "float modulo".toList
    return some (.float (realDivMod left right).2)
  | .pow => return some (← powerReal left right)
  | _ => return none

def operateComplex (op : BinaryOp) (a b c d : Binary64) : Action (Option Datum) := do
  match op with
  | .add => return some (.complex (a.add c) (b.add d))
  | .sub => return some (.complex (a.sub c) (b.sub d))
  | .mul => return some (.complex ((a.mul c).sub (b.mul d)) ((a.mul d).add (b.mul c)))
  | .div =>
    if c.isZero && d.isZero then fail "ZeroDivisionError" "complex division by zero".toList
    let scale := (c.mul c).add (d.mul d)
    return some (.complex (((a.mul c).add (b.mul d)).div scale)
      (((b.mul c).sub (a.mul d)).div scale))
  | .pow => throw .unsupported
  | _ => return none

def operateNumbers (op : BinaryOp) (left right : Quantity) : Action (Option Datum) := do
  let zero := Binary64.zero false
  let parts (value : Quantity) : Action (Binary64 × Binary64) := do
    match value with
    | .whole value => return (← realOf value, zero)
    | .real value => return (value, zero)
    | .complex real imaginary => return (real, imaginary)
  match left, right with
  | .whole left, .whole right => operateWhole op left right
  | .complex _ _, _ | _, .complex _ _ =>
    let (a, b) ← parts left
    let (c, d) ← parts right
    operateComplex op a b c d
  | _, _ =>
    let (left, _) ← parts left
    let (right, _) ← parts right
    operateReal op left right

/-! ## Sequences -/

/-- Joins two sequences of one kind. -/
def concatenate? (machine : Machine) (left right : Datum) : Option (Action Datum) :=
  match left, right with
  | .str left, .str right => some (pure (.str (left ++ right)))
  | .bytes left, .bytes right => some (pure (.bytes (left ++ right)))
  | _, _ => match machine.thingOf? left, machine.thingOf? right with
    | some (.list left), some (.list right) => some (allocate (.list (left ++ right)))
    | some (.tuple left), some (.tuple right) => some (allocate (.tuple (left ++ right)))
    | _, _ => none

/-- A list repeated a number of times, which may be negative. -/
def repeated {α : Type} (count : Int) (items : List α) : List α :=
  (List.replicate count.toNat items).flatten

def repeat? (machine : Machine) (sequence : Datum) (count : Int) : Option (Action Datum) :=
  match sequence with
  | .str value => some (pure (.str (repeated count value)))
  | .bytes value => some (pure (.bytes (repeated count value)))
  | _ => match machine.thingOf? sequence with
    | some (.list items) => some (allocate (.list (repeated count items)))
    | some (.tuple items) => some (allocate (.tuple (repeated count items)))
    | _ => none

/-- Whether a datum is a sequence that can be repeated. -/
def isSequence (machine : Machine) : Datum → Bool
  | .str _ | .bytes _ => true
  | datum => match machine.thingOf? datum with
    | some (.list _) | some (.tuple _) => true
    | _ => false

/-- The integer that a datum can be used as. -/
def wholeOf? (datum : Datum) : Option Int :=
  match quantity? datum with
  | some (.whole value) => some value
  | _ => none

/-- The operators on sets and the union of dictionaries. -/
def combineSets? (machine : Machine) (op : BinaryOp) (left right : Datum) : Option (Action Datum) :=
  match machine.thingOf? left, machine.thingOf? right with
  | some (.set left), some (.set right) =>
    let isIn (items : List Datum) (item : Datum) : Bool := items.any (machine.equal item)
    match op with
    | .bitOr => some (allocate (.set (right.foldl (putMember machine) left)))
    | .bitAnd => some (allocate (.set (left.filter (isIn right))))
    | .sub => some (allocate (.set (left.filter fun item => !isIn right item)))
    | .bitXor =>
      some (allocate (.set (left.filter (fun item => !isIn right item) ++
        right.filter fun item => !isIn left item)))
    | _ => none
  | some (.dict left), some (.dict right) =>
    match op with
    | .bitOr =>
      some (allocate (.dict (right.foldl
        (fun found entry => putEntry machine entry.1 entry.2 found) left)))
    | _ => none
  | _, _ => none

/-- The fault of an operator whose operands do not fit. -/
def unsupportedOperands {α : Type} (mark : String) (left right : Datum) : Action α := do
  let machine ← get
  fail "TypeError" ("unsupported operand type(s) for ".toList ++ mark.toList ++ ": ".toList ++
    typeInMarks machine left ++ " and ".toList ++ typeInMarks machine right)

/-- The fault of joining a sequence with something else. -/
def cannotConcatenate {α : Type} (left right : Datum) : Action α := do
  let machine ← get
  let kind := machine.typeName left
  fail "TypeError" (match left with
    | .bytes _ => "can't concat ".toList ++ machine.typeName right ++ " to bytes".toList
    | _ => "can only concatenate ".toList ++ kind ++ " (not \"".toList ++ machine.typeName right ++
        "\") to ".toList ++ kind)

/-- Text with placeholders filled in by arguments, one after the other. -/
def fillIn (machine : Machine) : Text → List Datum → Except Signal (Option Text × List Datum)
  | [], rest => .ok (some [], rest)
  | ['%'], _ => .error .unsupported
  | '%' :: kind :: text, items =>
    if kind == '%' then do
      let (filled, rest) ← fillIn machine text items
      return (filled.map ('%' :: ·), rest)
    else
      match items with
      | [] => .ok (none, [])
      | item :: items => do
        let shown ←
          if kind == 's' then pure (machine.textOf item)
          else if kind == 'r' then pure (machine.resolve item).quoted
          else if kind == 'd' || kind == 'i' then
            match wholeOf? item with
            | some value => pure (Text.ofInt value)
            | none => throw .unsupported
          else throw .unsupported
        let (filled, rest) ← fillIn machine text items
        return (filled.map (shown ++ ·), rest)
  | letter :: text, items => do
    let (filled, rest) ← fillIn machine text items
    return (filled.map (letter :: ·), rest)

/-- Fills arguments into a text. -/
def fillText (text : Text) (right : Datum) : Action Datum := do
  let machine ← get
  let items := match machine.thingOf? right with
    | some (.tuple items) => items
    | _ => [right]
  match fillIn machine text items with
  | .error signal => throw signal
  | .ok (none, _) => fail "TypeError" "not enough arguments for format string".toList
  | .ok (some filled, rest) =>
    if rest.isEmpty || (machine.thingOf? right matches some (.dict _)) then return .str filled
    else fail "TypeError" "not all arguments converted during string formatting".toList

/-- An operator between two operands. The mark is for messages. -/
def operate (op : BinaryOp) (mark : String) (left right : Datum) : Action Datum := do
  let machine ← get
  let numbers ← match quantity? left, quantity? right with
    | some left, some right => operateNumbers op left right
    | _, _ => pure none
  match numbers, combineSets? machine op left right with
  | some result, _ => return result
  | none, some action => action
  | none, none =>
    match op with
    | .add =>
      match concatenate? machine left right with
      | some action => action
      | none =>
        if isSequence machine left then cannotConcatenate left right
        else unsupportedOperands mark left right
    | .mul =>
      let left? := wholeOf? left
      let right? := wholeOf? right
      match isSequence machine left, isSequence machine right, left?, right? with
      | true, _, _, some count => (repeat? machine left count).getD (throw .unsupported)
      | _, true, some count, _ => (repeat? machine right count).getD (throw .unsupported)
      | true, _, _, none =>
        fail "TypeError" ("can't multiply sequence by non-int of type ".toList ++
          typeInMarks machine right)
      | _, true, none, _ =>
        fail "TypeError" ("can't multiply sequence by non-int of type ".toList ++
          typeInMarks machine left)
      | _, _, _, _ => unsupportedOperands mark left right
    | .mod =>
      match left with
      | .str text => fillText text right
      | _ => unsupportedOperands mark left right
    | _ => unsupportedOperands mark left right

/-- Updates a target in place if it is a list, a set or a dictionary; otherwise gives a new
datum. -/
def update (op : BinaryOp) (left right : Datum) : Action Datum := do
  let machine ← get
  match left, op, machine.thingOf? left with
  | .ref address, .add, some (.list items) =>
    let more ← itemsOf right
    store address (.list (items ++ more))
    return left
  | .ref address, .mul, some (.list items) =>
    match wholeOf? right with
    | some count =>
      store address (.list (repeated count items))
      return left
    | none => operate op (updateMark op) left right
  | _, _, _ => operate op (updateMark op) left right

def operateUnary (op : UnaryOp) (operand : Datum) : Action Datum := do
  let machine ← get
  let refuse (mark : String) : Action Datum :=
    fail "TypeError" ("bad operand type for unary ".toList ++ mark.toList ++ ": ".toList ++
      typeInMarks machine operand)
  match op, quantity? operand with
  | .negate, _ => return .bool (!machine.truth operand)
  | .minus, some (.whole value) => return .int (-value)
  | .minus, some (.real value) => return .float value.neg
  | .minus, some (.complex real imaginary) => return .complex real.neg imaginary.neg
  | .minus, none => refuse "-"
  | .plus, some (.whole value) => return .int value
  | .plus, some (.real value) => return .float value
  | .plus, some (.complex real imaginary) => return .complex real imaginary
  | .plus, none => refuse "+"
  | .invert, some (.whole value) => return .int (-value - 1)
  | .invert, _ => refuse "~"

/-! ## Comparisons -/

/-- The order of two numbers that are not complex; none if one of them is no number. -/
def orderNumbers : Quantity → Quantity → Option (Option Ordering)
  | .whole left, .whole right => some (some (compare left right))
  | .real left, .real right => some (left.compare? right)
  | .whole left, .real right => some (orderWhole left right)
  | .real left, .whole right => some ((orderWhole right left).map Ordering.swap)
  | _, _ => none
where
  /-- The order of an integer and a real number. -/
  orderWhole (left : Int) : Binary64 → Option Ordering
    | .nan => none
    | .infinite negative => some (if negative then .gt else .lt)
    | .finite negative significand exponent =>
      let (top, bottom) := Binary64.fraction negative significand exponent
      some (compare (left * bottom) top)

def orderTexts (left right : Text) : Ordering :=
  if left == right then .eq else if Text.before left right then .lt else .gt

/-- The mark of a comparison in messages. -/
def compareMark : CompareOp → String
  | .lt => "<"
  | .le => "<="
  | .gt => ">"
  | _ => ">="

def fits (op : CompareOp) : Option Ordering → Bool
  | none => false
  | some order => match op with
    | .lt => order == .lt
    | .le => order != .gt
    | .gt => order == .gt
    | _ => order != .lt

/-- Compares two data by order, looking at sequences down to a depth. -/
def orderTo : Nat → CompareOp → Datum → Datum → Action Bool
  | 0, _, _, _ => throw .unsupported
  | depth + 1, op, left, right => do
    let machine ← get
    let refuse : Action Bool :=
      fail "TypeError" ("'".toList ++ (compareMark op).toList ++
        "' not supported between instances of ".toList ++ typeInMarks machine left ++
        " and ".toList ++ typeInMarks machine right)
    let sequences (left right : List Datum) : Action Bool :=
      match (left.zip right).find? fun pair => !machine.equal pair.1 pair.2 with
      | some (first, second) => orderTo depth op first second
      | none => pure (fits op (some (compare left.length right.length)))
    match left, right with
    | .str left, .str right => return fits op (some (orderTexts left right))
    | .bytes left, .bytes right =>
      let letters (bytes : Text.Bytes) : Text := bytes.map fun byte => Char.ofNat byte.toNat
      return fits op (some (orderTexts (letters left) (letters right)))
    | _, _ =>
      match quantity? left, quantity? right with
      | some first, some second =>
        match orderNumbers first second with
        | some order => return fits op order
        | none => refuse
      | _, _ =>
        match machine.thingOf? left, machine.thingOf? right with
        | some (.list left), some (.list right) => sequences left right
        | some (.tuple left), some (.tuple right) => sequences left right
        | some (.set left), some (.set right) =>
          let within (inner outer : List Datum) : Bool :=
            inner.all fun item => outer.any (machine.equal item)
          return match op with
            | .lt => within left right && left.length < right.length
            | .le => within left right
            | .gt => within right left && right.length < left.length
            | _ => within right left
        | _, _ => refuse

def contains (item container : Datum) : Action Bool := do
  let machine ← get
  match container with
  | .str text =>
    match item with
    | .str needle => return Text.occursIn needle text
    | _ => fail "TypeError" ("'in <string>' requires string as left operand, not ".toList ++
        machine.typeName item)
  | _ =>
    match machine.thingOf? container with
    | some (.dict _) | some (.set _) => checkKey item
    | _ => pure ()
    match itemsOf? machine container with
    | some items => return items.any (machine.equal item)
    | none =>
      fail "TypeError" ("argument of type ".toList ++ typeInMarks machine container ++
        " is not iterable".toList)

def compareData (op : CompareOp) (left right : Datum) : Action Bool := do
  let machine ← get
  match op with
  | .eq => return machine.equal left right
  | .ne => return !machine.equal left right
  | .same => return left == right
  | .notSame => return left != right
  | .isIn => contains left right
  | .notIn => return !(← contains left right)
  | op => orderTo (machine.things.length + 2) op left right

end TypeSurvey.Script
