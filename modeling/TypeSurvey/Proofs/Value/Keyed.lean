import TypeSurvey.Proofs.Text.Named
import TypeSurvey.Value.Equality

/-!
# Dictionaries whose keys are texts

The entries of such a dictionary are pairs of a text and a value. On them, to find a value and to
put an entry are operations on an association list.
-/

namespace TypeSurvey.Value

/-- The entries of a dictionary under keys that stand for names. -/
def keyedBy {κ : Type} (key : κ → Value) (entries : List (κ × Value)) : List (Value × Value) :=
  entries.map fun entry => (key entry.1, entry.2)

@[simp] theorem keyedBy_nil {κ : Type} (key : κ → Value) : keyedBy key [] = [] := rfl

@[simp] theorem keyedBy_cons {κ : Type} (key : κ → Value) (entry : κ × Value)
    (entries : List (κ × Value)) :
    keyedBy key (entry :: entries) = (key entry.1, entry.2) :: keyedBy key entries := rfl

/-- The entries of a dictionary under keys that are texts. -/
abbrev keyed : List (Text × Value) → List (Value × Value) := keyedBy .str

/-- The entries of a dictionary under keys that are texts of code points. -/
abbrev wideKeyed : List (Text.Wide × Value) → List (Value × Value) := keyedBy .ofWide

theorem keyed_eq_wideKeyed (entries : List (Text × Value)) :
    keyed entries = wideKeyed (entries.map (Prod.map .whole id)) := by
  rw [wideKeyed, keyedBy, List.map_map]
  rfl

section Keys

variable {κ : Type} [DecidableEq κ] [BEq κ] [LawfulBEq κ] {key : κ → Value}

/-- Whether the keys of different names differ. -/
def Faithful (key : κ → Value) : Prop :=
  ∀ left right, equals (key left) (key right) = (left == right)

omit [DecidableEq κ] in
theorem Faithful.get?_keyedBy (faithful : Faithful key) (name : κ) (entries : List (κ × Value)) :
    get? (key name) (keyedBy key entries) = entries.lookup name := by
  induction entries with
  | nil => rfl
  | cons entry entries induction =>
    rw [keyedBy_cons, get?, faithful, List.lookup_cons, induction,
      Bool.beq_comm]
    cases name == entry.1 <;> rfl

theorem Faithful.putEntry_keyedBy (faithful : Faithful key) (name : κ) (value : Value)
    (entries : List (κ × Value)) :
    putEntry (key name) value (keyedBy key entries) =
      keyedBy key (putNamed name value entries) := by
  induction entries with
  | nil => rfl
  | cons entry entries induction =>
    rw [keyedBy_cons, putEntry, faithful, putNamed, induction]
    by_cases same : entry.1 = name
    · simp [same]
    · simp [same]

theorem Faithful.dictOf_keyedBy (faithful : Faithful key) (entries : List (κ × Value)) :
    dictOf (keyedBy key entries) = .dict (keyedBy key (putAll entries [])) := by
  have step (entries before : List (κ × Value)) :
      (keyedBy key entries).foldl (fun placed entry => putEntry entry.1 entry.2 placed)
        (keyedBy key before) = keyedBy key (putAll entries before) := by
    induction entries generalizing before with
    | nil => rfl
    | cons entry entries induction =>
      rw [keyedBy_cons, List.foldl_cons, faithful.putEntry_keyedBy, induction,
        putAll_cons]
  exact congrArg dict (step entries [])

end Keys

@[simp] theorem equals_str (left right : Text) :
    equals (.str left) (.str right) = (left == right) := by
  simp [equals]

theorem get?_keyed (name : Text) (entries : List (Text × Value)) :
    get? (.str name) (keyed entries) = entries.lookup name :=
  Faithful.get?_keyedBy equals_str name entries

theorem faithful_ofWide : Faithful ofWide := by
  intro left right
  match left, right with
  | .whole left, .whole right => simp [ofWide]
  | .halved left, .halved right => simp [ofWide, equals]
  | .whole _, .halved _ => rfl
  | .halved _, .whole _ => rfl

end TypeSurvey.Value
