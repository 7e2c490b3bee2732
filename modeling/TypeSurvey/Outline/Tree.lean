import TypeSurvey.Text.Basic

/-!
# Trees and their orders

A tree of labels can be read in two orders: each label before the labels below it, or level by
level.
-/

namespace TypeSurvey

/-- A label and the trees below it. -/
inductive Tree (α : Type)
  | node (label : α) (children : List (Tree α))

namespace Tree

variable {α : Type}

mutual

/-- The number of labels of a tree. -/
def size : Tree α → Nat
  | node _ children => sizes children + 1

/-- The number of labels of trees. -/
def sizes : List (Tree α) → Nat
  | [] => 0
  | first :: rest => size first + sizes rest

end

mutual

/-- The labels of a tree, each before those below it. -/
def preorder : Tree α → List α
  | node label children => label :: preorders children

/-- The labels of trees, one tree after the other. -/
def preorders : List (Tree α) → List α
  | [] => []
  | first :: rest => preorder first ++ preorders rest

end

/-- The labels in the order in which a queue of trees gives them: the first tree gives its label,
and the trees below it join the end of the queue. -/
def levelOrderFrom : Nat → List (Tree α) → List α
  | 0, _ => []
  | _ + 1, [] => []
  | fuel + 1, node label children :: rest => label :: levelOrderFrom fuel (rest ++ children)

/-- The labels of a tree level by level. -/
def levelOrder (tree : Tree α) : List α := levelOrderFrom tree.size [tree]

end Tree

end TypeSurvey
