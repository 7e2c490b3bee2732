import TypeSurvey.Text.Basic

/-!
# Sets of texts

A set of texts is written with commas between its members. The order of the members is that of the
run; one such order is by the codes of the characters.
-/

namespace TypeSurvey.Text

/-- The order in which a run lists the members of a set. It may depend on all the texts that were
put in, one after the other. -/
class SetOrder where
  arrange : List Text → List Text
  mem_arrange : ∀ {text : Text} {texts : List Text}, text ∈ arrange texts ↔ text ∈ texts

/-- The members of a set of texts, with commas between them. -/
def members [SetOrder] (texts : List Text) : Text := join ", ".toList (SetOrder.arrange texts)

/-! ## The order by codes -/

/-- Whether a text comes before another one. -/
def before : Text → Text → Bool
  | [], [] => false
  | [], _ :: _ => true
  | _ :: _, [] => false
  | first :: rest, other :: others =>
    if first = other then before rest others else first.toNat < other.toNat

/-- Puts a text into its place among texts in order, unless it is there already. -/
def insertOnce (text : Text) : List Text → List Text
  | [] => [text]
  | first :: rest =>
    if text = first then first :: rest
    else if before text first then text :: first :: rest
    else first :: insertOnce text rest

/-- The members of a list in order, each once. -/
def sortedOnce (texts : List Text) : List Text := texts.foldr insertOnce []

theorem mem_insertOnce {text other : Text} {texts : List Text} :
    other ∈ insertOnce text texts ↔ other = text ∨ other ∈ texts := by
  induction texts with
  | nil => simp [insertOnce]
  | cons first rest induction =>
    rw [insertOnce]
    split
    · next same => simp [same]
    split
    · rw [List.mem_cons]
    · rw [List.mem_cons, List.mem_cons, induction, or_left_comm]

theorem mem_sortedOnce {text : Text} {texts : List Text} :
    text ∈ sortedOnce texts ↔ text ∈ texts := by
  induction texts with
  | nil => rfl
  | cons first rest induction =>
    rw [sortedOnce, List.foldr_cons, mem_insertOnce, List.mem_cons, ← sortedOnce, induction]

/-- Members by the codes of their characters, each once. -/
@[reducible] def SetOrder.sorted : SetOrder := ⟨sortedOnce, mem_sortedOnce⟩

end TypeSurvey.Text
