import TypeSurvey.Text.Basic

/-!
# UTF-16

A character up to U+FFFF is one unit, its code. Any other character is a pair of units, a high half
and a low half. A half may also stand alone; it is a code point then, but no character.
-/

namespace TypeSurvey.Text

/-- A code point: a character, or a half that stands alone. -/
inductive Point
  | char (letter : Char)
  /-- The half so many places after the first one. -/
  | half (place : Fin 0x800)
deriving DecidableEq, Repr

def toUnits (letter : Char) : List Nat :=
  let code := letter.toNat
  if code < 0x10000 then [code]
  else [0xd800 + (code - 0x10000) / 0x400, 0xdc00 + (code - 0x10000) % 0x400]

def Point.units : Point → List Nat
  | char letter => toUnits letter
  | half place => [0xd800 + place]

/-- Whether a unit is the high half of a pair. -/
def isHighHalf (unit : Nat) : Bool := 0xd800 ≤ unit && unit < 0xdc00

/-- Whether a unit is the low half of a pair. -/
def isLowHalf (unit : Nat) : Bool := 0xdc00 ≤ unit && unit < 0xe000

/-- The code point of a unit that is not in a pair. -/
def Point.ofUnit (unit : Nat) : Point :=
  if half : 0xd800 ≤ unit ∧ unit < 0xe000 then .half ⟨unit - 0xd800, by omega⟩
  else .char (Char.ofNat unit)

def pointsOf : List Nat → List Point
  | [] => []
  | [unit] => [.ofUnit unit]
  | high :: low :: rest =>
    if isHighHalf high && isLowHalf low then
      .char (Char.ofNat (0x10000 + (high - 0xd800) * 0x400 + (low - 0xdc00))) :: pointsOf rest
    else .ofUnit high :: pointsOf (low :: rest)

/-! ## Texts of code points -/

/-- The characters of code points, unless a half is among them. -/
def chars? : List Point → Option Text
  | [] => some []
  | .char letter :: rest => (chars? rest).map (letter :: ·)
  | .half _ :: _ => none

/-- Whether no high half stands right before a low one: the two would be a character. -/
def isJoined : List Point → Bool
  | .half first :: .half second :: rest =>
    !(isHighHalf (0xd800 + first) && isLowHalf (0xd800 + second)) &&
      isJoined (.half second :: rest)
  | _ :: rest => isJoined rest
  | [] => true

theorem isJoined_ofUnit_cons {unit : Nat} {points : List Point} (joined : isJoined points = true)
    (apart : ∀ place rest, points = .half place :: rest →
      (isHighHalf unit && isLowHalf (0xd800 + place)) = false) :
    isJoined (.ofUnit unit :: points) = true := by
  rw [Point.ofUnit]
  split
  · next half =>
    match points with
    | [] => rfl
    | .char letter :: rest => exact joined
    | .half place :: rest =>
      have same : 0xd800 + (unit - 0xd800) = unit := by omega
      rw [isJoined, same, apart place rest rfl, joined]
      rfl
  · exact joined

theorem isJoined_pointsOf (units : List Nat) : isJoined (pointsOf units) = true := by
  fun_induction pointsOf units with
  | case1 => rfl
  | case2 unit => exact isJoined_ofUnit_cons rfl nofun
  | case3 high low rest pair induction => exact induction
  | case4 high low rest alone induction =>
    refine isJoined_ofUnit_cons induction fun place others same => ?_
    -- what comes first after the unit is the next unit, or a character
    have first : Point.ofUnit low = .half place := by
      cases rest with
      | nil => exact (List.cons.inj same).1
      | cons next rest =>
        rw [pointsOf] at same
        split at same
        · nomatch same
        · exact (List.cons.inj same).1
    rw [Point.ofUnit] at first
    split at first
    · next half =>
      obtain rfl := Point.half.inj first
      have same : 0xd800 + (low - 0xd800) = low := by omega
      simpa [same] using alone
    · nomatch first

/-- A text in which halves stand alone. -/
structure Halved where
  points : List Point
  halved : chars? points = none
  joined : isJoined points = true
deriving DecidableEq

/-- The text with the replacement character for every half. -/
def Halved.shown (text : Halved) : Text :=
  text.points.map fun
    | .char letter => letter
    | .half _ => '\ufffd'

/-- A text of code points: one of characters, or one with halves that stand alone. -/
inductive Wide
  | whole (text : Text)
  | halved (text : Halved)
deriving DecidableEq

namespace Wide

def ofPoint : Point → Wide
  | .char letter => whole [letter]
  | .half place => halved ⟨[.half place], rfl, rfl⟩

def ofUnits (units : List Nat) : Wide :=
  match known : chars? (pointsOf units) with
  | some text => whole text
  | none => halved ⟨pointsOf units, known, isJoined_pointsOf units⟩

def points : Wide → List Point
  | whole text => text.map .char
  | halved text => text.points

end Wide

end TypeSurvey.Text
