import TypeSurvey.Proofs.Text.Order
import TypeSurvey.Survey.Hint
import TypeSurvey.Survey.ValueType
import Mathlib.Logic.Relation

/-!
# Order and repetition

A list and a dictionary may be written with their members in another order, or with some of them
again, and so may the lists and dictionaries inside them. The type shows of each of them only the
sets of the types of its members, so that no such change can be seen in it: one change leaves these
sets as they are, at whatever depth it is made, and so does any number of changes.
-/

namespace TypeSurvey

attribute [local instance] Text.SetOrder.sorted

theorem Text.members_congr {left right : List Text} (same : ∀ text, text ∈ left ↔ text ∈ right) :
    members left = members right :=
  congrArg (join ", ".toList) (sortedOnce_eq_iff.mpr same)

section Lists

variable {α β : Type} {shown : α → β}

/-- What no change alters is not altered by changes one after the other, forth or back. -/
theorem eq_of_eqvGen {change : α → α → Prop}
    (step : ∀ before after, change before after → shown before = shown after) {before after : α}
    (changes : Relation.EqvGen change before after) : shown before = shown after := by
  induction changes with
  | rel before after change => exact step before after change
  | refl value => rfl
  | symm before after _ induction => exact induction.symm
  | trans before between after _ _ first second => exact first.trans second

/-- A member that stands in a list again adds nothing to what can be seen in it. -/
theorem mem_map_again {item : α} {items : List α} (member : item ∈ items) (seen : β) :
    seen ∈ items.map shown ↔ seen ∈ (item :: items).map shown := by
  rw [List.map_cons, List.mem_cons]
  constructor
  · exact .inr
  · rintro (rfl | other)
    · exact List.mem_map_of_mem member
    · exact other

/-- A change inside a member that cannot be seen in the member cannot be seen in the list. -/
theorem map_inside (front back : List α) {item item' : α} (same : shown item = shown item') :
    (front ++ item :: back).map shown = (front ++ item' :: back).map shown := by
  rw [List.map_append, List.map_append, List.map_cons, List.map_cons, same]

theorem isEmpty_inside (front back : List α) (item : α) :
    (front ++ item :: back).isEmpty = false := by
  cases front <;> rfl

end Lists

/-! ## Expressions -/

namespace Source.Expr

/-- One change in an expression that is made of literals: a list has its members in another order or
one of them again, or a dictionary its entries. The change may be made deep inside other lists,
dictionaries, tuples and sets. -/
inductive Rearranges : Expr → Expr → Prop
  | reorder {items items' : List Expr} (perm : items.Perm items') :
      Rearranges (list items) (list items')
  | again {item : Expr} {items : List Expr} (member : item ∈ items) :
      Rearranges (list items) (list (item :: items))
  | reorderEntries {entries entries' : List (Expr × Expr)} (perm : entries.Perm entries') :
      Rearranges (dict (entries.map Prod.fst) (entries.map Prod.snd))
        (dict (entries'.map Prod.fst) (entries'.map Prod.snd))
  | entryAgain {entry : Expr × Expr} {entries : List (Expr × Expr)} (member : entry ∈ entries) :
      Rearranges (dict (entries.map Prod.fst) (entries.map Prod.snd))
        (dict ((entry :: entries).map Prod.fst) ((entry :: entries).map Prod.snd))
  | inList (front back : List Expr) {item item' : Expr} (change : Rearranges item item') :
      Rearranges (list (front ++ item :: back)) (list (front ++ item' :: back))
  | inKey (front back values : List Expr) {key key' : Expr} (change : Rearranges key key') :
      Rearranges (dict (front ++ key :: back) values) (dict (front ++ key' :: back) values)
  | inValue (keys front back : List Expr) {value value' : Expr} (change : Rearranges value value') :
      Rearranges (dict keys (front ++ value :: back)) (dict keys (front ++ value' :: back))
  | inTuple (front back : List Expr) {item item' : Expr} (change : Rearranges item item') :
      Rearranges (tuple (front ++ item :: back)) (tuple (front ++ item' :: back))
  | inSet (front back : List Expr) {item item' : Expr} (change : Rearranges item item') :
      Rearranges (set (front ++ item :: back)) (set (front ++ item' :: back))

end Source.Expr

namespace Survey

open Source

theorem literalTypes_eq_map (items : List Expr) : literalTypes items = items.map literalType := by
  induction items with
  | nil => rfl
  | cons first rest induction => rw [literalTypes, induction, List.map_cons]

/-- The type of a list shows the set of the types of its members. -/
theorem literalType_list_congr {items items' : List Expr}
    (same : ∀ type, type ∈ items.map literalType ↔ type ∈ items'.map literalType) :
    literalType (.list items) = literalType (.list items') := by
  rw [← literalTypes_eq_map, ← literalTypes_eq_map] at same
  exact congrArg (fun members => "List[".toList ++ members ++ "]".toList) (Text.members_congr same)

/-- The type of a dictionary shows the sets of the types of its keys and of its values. -/
theorem literalType_dict_congr {keys keys' values values' : List Expr}
    (same : ∀ type, type ∈ keys.map literalType ↔ type ∈ keys'.map literalType)
    (same' : ∀ type, type ∈ values.map literalType ↔ type ∈ values'.map literalType) :
    literalType (.dict keys values) = literalType (.dict keys' values') := by
  rw [← literalTypes_eq_map, ← literalTypes_eq_map] at same same'
  exact congrArg₂ (fun keyTypes valueTypes => "Dict[".toList ++ keyTypes ++ " : ".toList ++
    valueTypes ++ "]".toList) (Text.members_congr same) (Text.members_congr same')

/-- No change in an expression can be seen in its type. -/
theorem literalType_of_rearranges (before after : Expr) (change : before.Rearranges after) :
    literalType before = literalType after := by
  induction change with
  | reorder perm => exact literalType_list_congr fun type => (perm.map literalType).mem_iff
  | again member => exact literalType_list_congr (mem_map_again member)
  | reorderEntries perm =>
    exact literalType_dict_congr (fun type => ((perm.map Prod.fst).map literalType).mem_iff)
      fun type => ((perm.map Prod.snd).map literalType).mem_iff
  | entryAgain member =>
    exact literalType_dict_congr (mem_map_again (List.mem_map_of_mem member))
      (mem_map_again (List.mem_map_of_mem member))
  | inList front back _ induction =>
    exact literalType_list_congr fun type => by rw [map_inside front back induction]
  | inKey front back values _ induction =>
    exact literalType_dict_congr (fun type => by rw [map_inside front back induction])
      fun type => Iff.rfl
  | inValue keys front back _ induction =>
    exact literalType_dict_congr (fun type => Iff.rfl)
      fun type => by rw [map_inside front back induction]
  | inTuple => rfl
  | inSet => rfl

end Survey

/-! ## Values -/

namespace Value

/-- One change in a value: a list has its members in another order or one of them again, or a
dictionary has its entries in another order. The change may be made deep inside other values. -/
inductive Rearranges : Value → Value → Prop
  | reorder {items items' : List Value} (perm : items.Perm items') :
      Rearranges (list items) (list items')
  | again {item : Value} {items : List Value} (member : item ∈ items) :
      Rearranges (list items) (list (item :: items))
  | reorderEntries {entries entries' : List (Value × Value)} (perm : entries.Perm entries') :
      Rearranges (dict entries) (dict entries')
  | inList (front back : List Value) {item item' : Value} (change : Rearranges item item') :
      Rearranges (list (front ++ item :: back)) (list (front ++ item' :: back))
  | inKey (front back : List (Value × Value)) (value : Value) {key key' : Value}
      (change : Rearranges key key') :
      Rearranges (dict (front ++ (key, value) :: back)) (dict (front ++ (key', value) :: back))
  | inValue (front back : List (Value × Value)) (key : Value) {value value' : Value}
      (change : Rearranges value value') :
      Rearranges (dict (front ++ (key, value) :: back)) (dict (front ++ (key, value') :: back))
  | inTuple (front back : List Value) {item item' : Value} (change : Rearranges item item') :
      Rearranges (tuple (front ++ item :: back)) (tuple (front ++ item' :: back))
  | inSet (frozen : Bool) (front back : List Value) {item item' : Value}
      (change : Rearranges item item') :
      Rearranges (set frozen (front ++ item :: back)) (set frozen (front ++ item' :: back))
  | inIterator (front back : List Value) {item item' : Value} (change : Rearranges item item') :
      Rearranges (iterator (front ++ item :: back)) (iterator (front ++ item' :: back))
  | inNamedTuple (fields : List Text) (front back : List Value) {item item' : Value}
      (change : Rearranges item item') :
      Rearranges (namedTuple fields (front ++ item :: back))
        (namedTuple fields (front ++ item' :: back))
  | inRecord (fields : List Text) (front back : List Value) {item item' : Value}
      (change : Rearranges item item') :
      Rearranges (record fields (front ++ item :: back)) (record fields (front ++ item' :: back))

theorem describedTypes_eq_map (items : List Value) :
    describedTypes items = items.map describedType := by
  induction items with
  | nil => rfl
  | cons first rest induction => rw [describedTypes, induction, List.map_cons]

theorem keyTypes_eq_map (entries : List (Value × Value)) :
    keyTypes entries = entries.map fun entry => entry.1.describedType := by
  induction entries with
  | nil => rfl
  | cons entry rest induction => rw [keyTypes, induction, List.map_cons]

theorem valueTypes_eq_map (entries : List (Value × Value)) :
    valueTypes entries = entries.map fun entry => entry.2.describedType := by
  induction entries with
  | nil => rfl
  | cons entry rest induction => rw [valueTypes, induction, List.map_cons]

/-- The type of a list shows whether it is empty, and the set of the types of its members. -/
theorem describedType_list_congr {items items' : List Value}
    (empty : items.isEmpty = items'.isEmpty)
    (same : ∀ type, type ∈ items.map describedType ↔ type ∈ items'.map describedType) :
    (list items).describedType = (list items').describedType := by
  rw [← describedTypes_eq_map, ← describedTypes_eq_map] at same
  rw [describedType, describedType, empty, Text.members_congr same]

/-- The type of a dictionary shows whether it is empty, and the sets of the types of its keys and of
its values. -/
theorem describedType_dict_congr {entries entries' : List (Value × Value)}
    (empty : entries.isEmpty = entries'.isEmpty)
    (keys : ∀ type, type ∈ entries.map (fun entry => entry.1.describedType) ↔
      type ∈ entries'.map fun entry => entry.1.describedType)
    (values : ∀ type, type ∈ entries.map (fun entry => entry.2.describedType) ↔
      type ∈ entries'.map fun entry => entry.2.describedType) :
    (dict entries).describedType = (dict entries').describedType := by
  rw [← keyTypes_eq_map, ← keyTypes_eq_map] at keys
  rw [← valueTypes_eq_map, ← valueTypes_eq_map] at values
  rw [describedType, describedType, empty, Text.members_congr keys, Text.members_congr values]

theorem describedType_dict_inside (front back : List (Value × Value)) {entry entry' : Value × Value}
    (key : entry.1.describedType = entry'.1.describedType)
    (value : entry.2.describedType = entry'.2.describedType) :
    (dict (front ++ entry :: back)).describedType =
      (dict (front ++ entry' :: back)).describedType := by
  refine describedType_dict_congr ?_ (fun type => ?_) fun type => ?_
  · rw [isEmpty_inside, isEmpty_inside]
  · rw [@map_inside _ _ (fun entry : Value × Value => entry.1.describedType) front back _ _ key]
  · rw [@map_inside _ _ (fun entry : Value × Value => entry.2.describedType) front back _ _ value]

/-- No change in a value can be seen in its type. -/
theorem describedType_of_rearranges (before after : Value) (change : before.Rearranges after) :
    before.describedType = after.describedType := by
  induction change with
  | reorder perm =>
    exact describedType_list_congr perm.isEmpty_eq fun type => (perm.map describedType).mem_iff
  | @again item items member =>
    have nonempty : items.isEmpty = false := by simpa using List.ne_nil_of_mem member
    exact describedType_list_congr nonempty (mem_map_again member)
  | reorderEntries perm =>
    exact describedType_dict_congr perm.isEmpty_eq (fun type => (perm.map _).mem_iff)
      fun type => (perm.map _).mem_iff
  | inList front back _ induction =>
    refine describedType_list_congr ?_ fun type => by rw [map_inside front back induction]
    rw [isEmpty_inside, isEmpty_inside]
  | inKey front back value _ induction => exact describedType_dict_inside front back induction rfl
  | inValue front back key _ induction => exact describedType_dict_inside front back rfl induction
  | inTuple => rfl
  | inSet => rfl
  | inIterator => rfl
  | inNamedTuple => rfl
  | inRecord => rfl

end Value

/-! ## Types -/

/-- The type of an expression that is made of literals does not depend on the order and the
repetition of members of lists and of entries of dictionaries, and the type of a value not on the
order and the repetition of members of lists and the order of entries of dictionaries, at any depths
at once. -/
theorem types_ignore_rearrangement :
    (∀ before after : Source.Expr, Relation.EqvGen Source.Expr.Rearranges before after →
      Survey.literalType before = Survey.literalType after) ∧
    ∀ before after : Value, Relation.EqvGen Value.Rearranges before after →
      before.describedType = after.describedType := by
  constructor
  · intro before after changes
    exact eq_of_eqvGen Survey.literalType_of_rearranges changes
  · intro before after changes
    exact eq_of_eqvGen Value.describedType_of_rearranges changes

namespace Source.Expr

/-- A list of a list and of a dictionary with a list in it. -/
def nestedDisplay : Expr :=
  list [list [constant (.int 1), constant (.str ['a'])],
    dict [constant .none] [list [constant (.bool true), constant (.int 2)]]]

/-- The dictionary in it with its entry twice, and with the list there turned round. -/
def doubledEntry : Expr :=
  dict [constant .none, constant .none]
    [list [constant (.int 2), constant (.bool true)],
     list [constant (.int 2), constant (.bool true)]]

/-- The same members in another order, and one of them twice. -/
def rearrangedDisplay : Expr :=
  list [doubledEntry, doubledEntry, list [constant (.str ['a']), constant (.int 1)]]

theorem eqvGen_rearrangedDisplay :
    Relation.EqvGen Rearranges nestedDisplay rearrangedDisplay := by
  refine .trans _ _ _ (.rel _ _ (.inList [] _ (.reorder (.swap _ _ _)))) ?_
  refine .trans _ _ _ (.rel _ _ (.inList [_] [] (.inValue _ [] [] (.reorder (.swap _ _ _))))) ?_
  refine .trans _ _ _
    (.rel _ _ (.inList [_] [] (@Rearranges.entryAgain (_, _) [(_, _)] List.mem_cons_self))) ?_
  refine .trans _ _ _ (.rel _ _ (.reorder (.swap _ _ _))) ?_
  exact .rel _ _ (.again List.mem_cons_self)

end Source.Expr

namespace Value

/-- A list of a list, of a dictionary with a list in it, and of a tuple. -/
def nestedList : Value :=
  list [list [int 1, str ['a']], dict [(int 1, list []), (str ['k'], list [none, bool true])],
    tuple [list [int 1, none]]]

/-- The same with members in another order and again, and entries in another order. -/
def rearrangedList : Value :=
  list [tuple [list [none, int 1]],
    dict [(str ['k'], list [bool true, none, bool true]), (int 1, list [])],
    list [str ['a'], int 1], list [str ['a'], int 1]]

theorem eqvGen_rearrangedList : Relation.EqvGen Rearranges nestedList rearrangedList := by
  refine .trans _ _ _ (.rel _ _ (.inList [] _ (.reorder (.swap _ _ _)))) ?_
  refine .trans _ _ _ (.rel _ _ (.inList [_] _ (.inValue [_] [] _
    (.again (List.mem_cons_of_mem _ List.mem_cons_self))))) ?_
  refine .trans _ _ _ (.rel _ _ (.inList [_] _ (.reorderEntries (.swap _ _ _)))) ?_
  refine .trans _ _ _ (.rel _ _ (.inList [_, _] [] (.inTuple [] [] (.reorder (.swap _ _ _))))) ?_
  refine .trans _ _ _ (.rel _ _ (.again List.mem_cons_self)) ?_
  exact .rel _ _ (.reorder (List.reverse_perm _).symm)

end Value

theorem types_ignore_rearrangement_nested :
    (Relation.EqvGen Source.Expr.Rearranges Source.Expr.nestedDisplay
        Source.Expr.rearrangedDisplay ∧
      Survey.literalType Source.Expr.nestedDisplay =
        Survey.literalType Source.Expr.rearrangedDisplay) ∧
    Relation.EqvGen Value.Rearranges Value.nestedList Value.rearrangedList ∧
      Value.nestedList.describedType = Value.rearrangedList.describedType := by
  obtain ⟨expressions, values⟩ := types_ignore_rearrangement
  exact ⟨⟨Source.Expr.eqvGen_rearrangedDisplay,
      expressions _ _ Source.Expr.eqvGen_rearrangedDisplay⟩,
    Value.eqvGen_rearrangedList, values _ _ Value.eqvGen_rearrangedList⟩

end TypeSurvey
