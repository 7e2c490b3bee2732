import TypeSurvey.Proofs.Text.Members
import TypeSurvey.Proofs.Text.Order
import TypeSurvey.Survey.Hint

/-!
# Reading types

The type of an expression is a tree of names, in which the members of a list, and the keys and the
values of a dictionary, count as sets. Sets are written in brackets with commas between their
members, and members may have brackets and commas of their own. Still the text can be read in one
way only: a word ends where no letter follows, and what follows a member tells whether there are
more of them. So two expressions show the same type if and only if their trees are the same.
-/

namespace TypeSurvey.Survey

open Source

attribute [local instance] Text.SetOrder.sorted

/-! ## Trees of types -/

/-- The name of the type of a constant. -/
structure TypeName where
  text : Text
  known : ∃ value, constantType value = text

/-- What a type says: the members of lists and dictionaries stand for sets. -/
inductive TypeTree
  | constant (name : TypeName)
  | unknown
  | list (members : List TypeTree)
  | dict (keys values : List TypeTree)

mutual

def typeTree : Expr → TypeTree
  | .constant value => .constant ⟨constantType value, value, rfl⟩
  | .list items => .list (typeTrees items)
  | .dict keys values => .dict (typeTrees keys) (typeTrees values)
  | _ => .unknown

def typeTrees : List Expr → List TypeTree
  | [] => []
  | first :: rest => typeTree first :: typeTrees rest

end

/-- Whether each member of a list is related to one of another list, and the other way round. -/
def SameMembers {α β : Type} (related : α → β → Prop) (left : List α) (right : List β) : Prop :=
  (∀ first ∈ left, ∃ second ∈ right, related first second) ∧
    ∀ second ∈ right, ∃ first ∈ left, related first second

namespace TypeTree

/-- Whether trees are the same if the order and the number of members do not count, at any depth. -/
def Same : TypeTree → TypeTree → Prop
  | constant left, constant right => left.text = right.text
  | unknown, unknown => True
  | list left, list right => SameMembers (fun first second => Same first.1 second) left.attach right
  | dict leftKeys leftValues, dict rightKeys rightValues =>
    SameMembers (fun first second => Same first.1 second) leftKeys.attach rightKeys ∧
      SameMembers (fun first second => Same first.1 second) leftValues.attach rightValues
  | _, _ => False
termination_by left => left
decreasing_by
  all_goals
    have smaller := List.sizeOf_lt_of_mem first.2
    simp only [list.sizeOf_spec, dict.sizeOf_spec]
    omega

theorem same_list {left right : List TypeTree} :
    (list left).Same (list right) ↔ SameMembers Same left right := by
  rw [Same]
  simp [SameMembers]

theorem same_dict {leftKeys leftValues rightKeys rightValues : List TypeTree} :
    (dict leftKeys leftValues).Same (dict rightKeys rightValues) ↔
      SameMembers Same leftKeys rightKeys ∧ SameMembers Same leftValues rightValues := by
  rw [Same]
  simp [SameMembers]

@[elab_as_elim, induction_eliminator]
theorem memberInduction {motive : TypeTree → Prop} (constant : ∀ name, motive (constant name))
    (unknown : motive unknown)
    (list : ∀ members, (∀ member ∈ members, motive member) → motive (list members))
    (dict : ∀ keys values, (∀ key ∈ keys, motive key) → (∀ value ∈ values, motive value) →
      motive (dict keys values)) :
    ∀ tree, motive tree
  | .constant name => constant name
  | .unknown => unknown
  | .list members =>
    list members fun member _ => memberInduction constant unknown list dict member
  | .dict keys values =>
    dict keys values (fun key _ => memberInduction constant unknown list dict key)
      fun value _ => memberInduction constant unknown list dict value

/-! ## Texts of trees -/

mutual

def text : TypeTree → Text
  | constant name => name.text
  | unknown => unknownType
  | list members => "List[".toList ++ Text.members (texts members) ++ "]".toList
  | dict keys values =>
    "Dict[".toList ++ Text.members (texts keys) ++ " : ".toList ++ Text.members (texts values) ++
      "]".toList

def texts : List TypeTree → List Text
  | [] => []
  | first :: rest => text first :: texts rest

end

/-- The text of a list shows the set of its members. -/
theorem text_list_congr {left right : List TypeTree}
    (members : Text.sortedOnce (texts left) = Text.sortedOnce (texts right)) :
    (list left).text = (list right).text :=
  congrArg (fun types => "List[".toList ++ Text.join ", ".toList types ++ "]".toList) members

theorem text_dict_congr {leftKeys leftValues rightKeys rightValues : List TypeTree}
    (keys : Text.sortedOnce (texts leftKeys) = Text.sortedOnce (texts rightKeys))
    (values : Text.sortedOnce (texts leftValues) = Text.sortedOnce (texts rightValues)) :
    (dict leftKeys leftValues).text = (dict rightKeys rightValues).text :=
  congrArg₂ (fun keyTypes valueTypes => "Dict[".toList ++ Text.join ", ".toList keyTypes ++
    " : ".toList ++ Text.join ", ".toList valueTypes ++ "]".toList) keys values

theorem texts_eq_map (trees : List TypeTree) : texts trees = trees.map text := by
  induction trees with
  | nil => rfl
  | cons first rest induction => rw [texts, induction, List.map_cons]

end TypeTree

mutual

theorem text_typeTree (expression : Expr) :
    (typeTree expression).text = literalType expression := by
  cases expression with
  | list items =>
    exact congrArg (fun types => "List[".toList ++ Text.members types ++ "]".toList)
      (texts_typeTrees items)
  | dict keys values =>
    exact congrArg₂ (fun keyTypes valueTypes => "Dict[".toList ++ Text.members keyTypes ++
      " : ".toList ++ Text.members valueTypes ++ "]".toList)
      (texts_typeTrees keys) (texts_typeTrees values)
  | _ => rfl

theorem texts_typeTrees (expressions : List Expr) :
    TypeTree.texts (typeTrees expressions) = literalTypes expressions := by
  cases expressions with
  | nil => rfl
  | cons first rest => exact congrArg₂ List.cons (text_typeTree first) (texts_typeTrees rest)

end

namespace TypeTree

/-! ## Words -/

/-- The word with which the text of a tree begins. -/
def word : TypeTree → Text
  | constant name => name.text
  | unknown => unknownType
  | list _ => "List".toList
  | dict _ _ => "Dict".toList

/-- What follows the word. -/
def inside : TypeTree → Text
  | constant _ | unknown => []
  | list members => "[".toList ++ (Text.members (texts members) ++ "]".toList)
  | dict keys values =>
    "[".toList ++ (Text.members (texts keys) ++ (" : ".toList ++
      (Text.members (texts values) ++ "]".toList)))

theorem text_eq (tree : TypeTree) : tree.text = tree.word ++ tree.inside := by
  cases tree with
  | constant name => exact (List.append_nil _).symm
  | unknown => rfl
  | list members => exact List.append_assoc "List[".toList _ _
  | dict keys values =>
    have flat : "Dict[".toList ++ Text.members (texts keys) ++ " : ".toList ++
        Text.members (texts values) ++ "]".toList =
          "Dict[".toList ++ (Text.members (texts keys) ++ (" : ".toList ++
            (Text.members (texts values) ++ "]".toList))) := by
      simp only [List.append_assoc]
    exact flat

end TypeTree

/-- The name of the type of a constant is a word of letters, and no word that has another use. -/
theorem TypeName.spec (name : TypeName) :
    Text.IsWord .letters name.text ∧
      name.text ≠ unknownType ∧ name.text ≠ "List".toList ∧ name.text ≠ "Dict".toList := by
  obtain ⟨_, value, rfl⟩ := name
  cases value <;> exact of_decide_eq_true rfl

namespace TypeTree

theorem isWord_word (tree : TypeTree) : Text.IsWord .letters tree.word := by
  cases tree with
  | constant name => exact name.spec.1
  | unknown => exact (by decide : Text.IsWord .letters unknownType)
  | list members => exact (by decide : Text.IsWord .letters "List".toList)
  | dict keys values => exact (by decide : Text.IsWord .letters "Dict".toList)

theorem eq_constant_of_word {tree : TypeTree} {name : TypeName} (same : tree.word = name.text) :
    tree = constant name := by
  cases tree with
  | constant other =>
    obtain ⟨_, _⟩ := other
    cases same
    rfl
  | unknown => exact absurd same.symm name.spec.2.1
  | list members => exact absurd same.symm name.spec.2.2.1
  | dict keys values => exact absurd same.symm name.spec.2.2.2

theorem eq_unknown_of_word {tree : TypeTree} (same : tree.word = unknownType) : tree = unknown := by
  cases tree with
  | constant name => exact absurd same name.spec.2.1
  | unknown => rfl
  | list members => exact absurd same (by decide : "List".toList ≠ unknownType)
  | dict keys values => exact absurd same (by decide : "Dict".toList ≠ unknownType)

theorem exists_list_of_word {tree : TypeTree} (same : tree.word = "List".toList) :
    ∃ members, tree = list members := by
  cases tree with
  | constant name => exact absurd same name.spec.2.2.1
  | unknown => exact absurd same (by decide)
  | list members => exact ⟨members, rfl⟩
  | dict keys values => exact absurd same (by decide : "Dict".toList ≠ "List".toList)

theorem exists_dict_of_word {tree : TypeTree} (same : tree.word = "Dict".toList) :
    ∃ keys values, tree = dict keys values := by
  cases tree with
  | constant name => exact absurd same name.spec.2.2.2
  | unknown => exact absurd same (by decide)
  | list members => exact absurd same (by decide : "List".toList ≠ "Dict".toList)
  | dict keys values => exact ⟨keys, values, rfl⟩

/-! ## Reading trees -/

/-- No letter follows the word of a tree. -/
theorem isLetter_head?_inside (tree : TypeTree) {rest : Text} (stops : Text.Stops .letters rest) :
    ∀ letter ∈ (tree.inside ++ rest).head?, Text.Alphabet.letters.isLetter letter = false := by
  cases tree with
  | constant name => exact stops.isLetter_head?
  | unknown => exact stops.isLetter_head?
  | list members => exact Text.isLetter_head?_bracket _
  | dict keys values => exact Text.isLetter_head?_bracket _

/-- Texts that begin with the text of a tree show its word and what follows it. -/
theorem word_eq {left right : TypeTree} {rest rest' : Text} (stops : Text.Stops .letters rest)
    (stops' : Text.Stops .letters rest') (same : left.text ++ rest = right.text ++ rest') :
    left.word = right.word ∧ left.inside ++ rest = right.inside ++ rest' := by
  rw [left.text_eq, right.text_eq, List.append_assoc, List.append_assoc] at same
  exact Text.word_eq_of_append_eq left.isWord_word right.isWord_word
    (left.isLetter_head?_inside stops) (right.isLetter_head?_inside stops') same

/-- Whether a text is that of a tree. -/
def IsText (text : Text) : Prop := ∃ tree : TypeTree, tree.text = text

theorem IsText.not_closes {text : Text} (isText : IsText text) (rest : Text) :
    ¬ Text.Closes .letters (text ++ rest) := by
  obtain ⟨tree, rfl⟩ := isText
  rw [tree.text_eq, List.append_assoc]
  exact Text.not_closes_word tree.isWord_word _

theorem exists_of_mem_sortedOnce {members : List TypeTree} {piece : Text}
    (member : piece ∈ Text.sortedOnce (texts members)) : ∃ tree ∈ members, tree.text = piece := by
  rw [Text.mem_sortedOnce, texts_eq_map] at member
  exact List.mem_map.mp member

theorem isText_of_mem_sortedOnce {members : List TypeTree} {piece : Text}
    (member : piece ∈ Text.sortedOnce (texts members)) : IsText piece := by
  obtain ⟨tree, -, shown⟩ := exists_of_mem_sortedOnce member
  exact ⟨tree, shown⟩

/-- Whether the text of a tree can be told from what follows it. -/
def Readable (tree : TypeTree) : Prop := Text.Readable .letters IsText tree.text

theorem members_readable {members others : List TypeTree} {rest rest' : Text}
    (readable : ∀ member ∈ members, member.Readable) (closes : Text.Closes .letters rest)
    (closes' : Text.Closes .letters rest')
    (same : Text.members (texts members) ++ rest = Text.members (texts others) ++ rest') :
    Text.sortedOnce (texts members) = Text.sortedOnce (texts others) ∧ rest = rest' := by
  refine Text.join_readable (fun _ => IsText.not_closes) (fun _ => isText_of_mem_sortedOnce) ?_
    (fun _ => isText_of_mem_sortedOnce) closes closes' same
  intro piece member
  obtain ⟨tree, inside, rfl⟩ := exists_of_mem_sortedOnce member
  exact readable tree inside

theorem list_readable {members others : List TypeTree} {rest rest' : Text}
    (readable : ∀ member ∈ members, member.Readable)
    (same : (list members).inside ++ rest = (list others).inside ++ rest') :
    Text.sortedOnce (texts members) = Text.sortedOnce (texts others) ∧ rest = rest' := by
  have shape (members : List TypeTree) (rest : Text) : (list members).inside ++ rest =
      "[".toList ++ (Text.members (texts members) ++ ("]".toList ++ rest)) := by
    rw [inside, List.append_assoc, List.append_assoc]
  rw [shape, shape] at same
  obtain ⟨sets, ends⟩ := members_readable readable (Text.closes_bracket rest)
    (Text.closes_bracket rest') (List.append_cancel_left same)
  exact ⟨sets, List.append_cancel_left ends⟩

theorem dict_readable {keys values otherKeys otherValues : List TypeTree} {rest rest' : Text}
    (keys_readable : ∀ key ∈ keys, key.Readable)
    (values_readable : ∀ value ∈ values, value.Readable)
    (same : (dict keys values).inside ++ rest = (dict otherKeys otherValues).inside ++ rest') :
    (Text.sortedOnce (texts keys) = Text.sortedOnce (texts otherKeys) ∧
      Text.sortedOnce (texts values) = Text.sortedOnce (texts otherValues)) ∧ rest = rest' := by
  have shape (keys values : List TypeTree) (rest : Text) : (dict keys values).inside ++ rest =
      "[".toList ++ (Text.members (texts keys) ++ (" : ".toList ++
        (Text.members (texts values) ++ ("]".toList ++ rest)))) := by
    rw [inside]
    simp only [List.append_assoc]
  have colon (rest : Text) : Text.Closes .letters (" : ".toList ++ rest) :=
    ⟨' ', rfl, by decide, by decide, by decide⟩
  rw [shape, shape] at same
  obtain ⟨key_sets, later⟩ :=
    members_readable keys_readable (colon _) (colon _) (List.append_cancel_left same)
  obtain ⟨value_sets, ends⟩ := members_readable values_readable (Text.closes_bracket rest)
    (Text.closes_bracket rest') (List.append_cancel_left later)
  exact ⟨⟨key_sets, value_sets⟩, List.append_cancel_left ends⟩

/-- What follows the text of a tree cannot be taken for a part of it. -/
theorem readable (tree : TypeTree) : tree.Readable := by
  induction tree with
  | constant name =>
    rintro _ rest rest' ⟨other, rfl⟩ stops stops' same
    obtain ⟨words, insides⟩ := word_eq stops stops' same
    obtain rfl := eq_constant_of_word words.symm
    exact ⟨rfl, insides⟩
  | unknown =>
    rintro _ rest rest' ⟨other, rfl⟩ stops stops' same
    obtain ⟨words, insides⟩ := word_eq stops stops' same
    obtain rfl := eq_unknown_of_word words.symm
    exact ⟨rfl, insides⟩
  | list members induction =>
    rintro _ rest rest' ⟨other, rfl⟩ stops stops' same
    obtain ⟨words, insides⟩ := word_eq stops stops' same
    obtain ⟨others, rfl⟩ := exists_list_of_word words.symm
    obtain ⟨sets, ends⟩ := list_readable induction insides
    exact ⟨text_list_congr sets, ends⟩
  | dict keys values keys_readable values_readable =>
    rintro _ rest rest' ⟨other, rfl⟩ stops stops' same
    obtain ⟨words, insides⟩ := word_eq stops stops' same
    obtain ⟨otherKeys, otherValues, rfl⟩ := exists_dict_of_word words.symm
    obtain ⟨⟨key_sets, value_sets⟩, ends⟩ :=
      dict_readable keys_readable values_readable insides
    exact ⟨text_dict_congr key_sets value_sets, ends⟩

/-! ## Trees with the same text -/

theorem word_eq_of_text_eq {left right : TypeTree} (same : left.text = right.text) :
    left.word = right.word ∧ left.inside = right.inside := by
  simpa using word_eq Text.stops_nil Text.stops_nil (congrArg (· ++ []) same)

theorem text_list_eq_iff {left right : List TypeTree} :
    (list left).text = (list right).text ↔ ∀ text, text ∈ texts left ↔ text ∈ texts right := by
  rw [← Text.sortedOnce_eq_iff]
  constructor
  · intro same
    have insides := congrArg (· ++ []) (word_eq_of_text_eq same).2
    exact (list_readable (fun member _ => member.readable) insides).1
  · exact text_list_congr

theorem text_dict_eq_iff {leftKeys leftValues rightKeys rightValues : List TypeTree} :
    (dict leftKeys leftValues).text = (dict rightKeys rightValues).text ↔
      (∀ text, text ∈ texts leftKeys ↔ text ∈ texts rightKeys) ∧
        ∀ text, text ∈ texts leftValues ↔ text ∈ texts rightValues := by
  rw [← Text.sortedOnce_eq_iff, ← Text.sortedOnce_eq_iff]
  constructor
  · intro same
    have insides := congrArg (· ++ []) (word_eq_of_text_eq same).2
    exact (dict_readable (fun key _ => key.readable) (fun value _ => value.readable) insides).1
  · rintro ⟨keys, values⟩
    exact text_dict_congr keys values

/-- Sets of trees are the same if they have the same texts, provided that this holds of their
members. -/
theorem sameMembers_iff {left right : List TypeTree}
    (related : ∀ first ∈ left, ∀ second : TypeTree,
      first.Same second ↔ first.text = second.text) :
    SameMembers Same left right ↔ ∀ text, text ∈ texts left ↔ text ∈ texts right := by
  simp only [texts_eq_map, List.mem_map]
  constructor
  · rintro ⟨forth, back⟩ text
    constructor
    · rintro ⟨first, member, rfl⟩
      obtain ⟨second, also, same⟩ := forth first member
      exact ⟨second, also, ((related first member second).mp same).symm⟩
    · rintro ⟨second, member, rfl⟩
      obtain ⟨first, also, same⟩ := back second member
      exact ⟨first, also, (related first also second).mp same⟩
  · intro alike
    constructor
    · intro first member
      obtain ⟨second, also, same⟩ := (alike first.text).mp ⟨first, member, rfl⟩
      exact ⟨second, also, (related first member second).mpr same.symm⟩
    · intro second member
      obtain ⟨first, also, same⟩ := (alike second.text).mpr ⟨second, member, rfl⟩
      exact ⟨first, also, (related first also second).mpr same⟩

theorem Same.word_eq {left right : TypeTree} (same : left.Same right) : left.word = right.word := by
  cases left <;> cases right <;> simp_all [Same, word]

/-- Trees are the same if and only if they have the same text. -/
theorem same_iff {left right : TypeTree} : left.Same right ↔ left.text = right.text := by
  have apart {left right : TypeTree} (words : left.word ≠ right.word) :
      left.Same right ↔ left.text = right.text :=
    iff_of_false (fun same => words same.word_eq) fun same => words (word_eq_of_text_eq same).1
  induction left generalizing right with
  | constant name =>
    rcases eq_or_ne (constant name).word right.word with words | words
    · obtain rfl := eq_constant_of_word words.symm
      simp [Same]
    · exact apart words
  | unknown =>
    rcases eq_or_ne unknown.word right.word with words | words
    · obtain rfl := eq_unknown_of_word words.symm
      simp [Same]
    · exact apart words
  | list members induction =>
    rcases eq_or_ne (list members).word right.word with words | words
    · obtain ⟨others, rfl⟩ := exists_list_of_word words.symm
      rw [same_list, text_list_eq_iff]
      exact sameMembers_iff fun member inside other => induction member inside
    · exact apart words
  | dict keys values keys_same values_same =>
    rcases eq_or_ne (dict keys values).word right.word with words | words
    · obtain ⟨otherKeys, otherValues, rfl⟩ := exists_dict_of_word words.symm
      rw [same_dict, text_dict_eq_iff]
      exact and_congr (sameMembers_iff fun key inside other => keys_same key inside)
        (sameMembers_iff fun value inside other => values_same value inside)
    · exact apart words

end TypeTree

/-- Expressions show the same type if and only if the trees of their types are the same. -/
theorem literalType_eq_iff_same (left right : Expr) :
    literalType left = literalType right ↔ (typeTree left).Same (typeTree right) := by
  rw [TypeTree.same_iff, text_typeTree, text_typeTree]

end TypeSurvey.Survey
