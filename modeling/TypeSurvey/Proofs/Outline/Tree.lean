import TypeSurvey.Outline.Tree
import Mathlib.Data.List.Perm.Basic

/-!
# Both orders visit the same labels

A queue of trees gives the labels level by level. It holds all labels that are still to come, so
that in the end each label of the tree was given once, as it is when each label goes before those
below it.
-/

namespace TypeSurvey.Tree

variable {α : Type}

theorem sizes_append (left right : List (Tree α)) :
    sizes (left ++ right) = sizes left + sizes right := by
  induction left with
  | nil => rw [List.nil_append, sizes, Nat.zero_add]
  | cons tree trees induction => rw [List.cons_append, sizes, sizes, induction, Nat.add_assoc]

theorem preorders_append (left right : List (Tree α)) :
    preorders (left ++ right) = preorders left ++ preorders right := by
  induction left with
  | nil => rw [List.nil_append, preorders, List.nil_append]
  | cons tree trees induction =>
    rw [List.cons_append, preorders, preorders, induction, List.append_assoc]

theorem mem_preorders {label : α} {trees : List (Tree α)} :
    label ∈ preorders trees ↔ ∃ tree ∈ trees, label ∈ tree.preorder := by
  induction trees with
  | nil => simp [preorders]
  | cons tree trees induction =>
    rw [preorders, List.mem_append, induction, List.exists_mem_cons_iff]

theorem size_lt_of_mem {tree : Tree α} {children : List (Tree α)} (member : tree ∈ children)
    (label : α) : tree.size < (node label children).size := by
  rw [size]
  induction children with
  | nil => simp at member
  | cons child children induction =>
    rw [sizes]
    rcases List.mem_cons.mp member with rfl | later
    · omega
    · have smaller := induction later
      omega

/-- With enough steps for all of its labels, a queue gives each of them once. -/
theorem levelOrderFrom_perm {fuel : Nat} {queue : List (Tree α)} (enough : sizes queue ≤ fuel) :
    (levelOrderFrom fuel queue).Perm (preorders queue) := by
  induction fuel generalizing queue with
  | zero =>
    cases queue with
    | nil => exact .refl _
    | cons tree trees =>
      obtain ⟨label, children⟩ := tree
      simp [sizes, size] at enough
  | succ fuel induction =>
    cases queue with
    | nil => exact .refl _
    | cons tree rest =>
      obtain ⟨label, children⟩ := tree
      have fewer : sizes (rest ++ children) ≤ fuel := by
        rw [sizes, size] at enough
        rw [sizes_append]
        omega
      have later := induction fewer
      rw [preorders_append] at later
      rw [levelOrderFrom, preorders, preorder, List.cons_append]
      exact (later.trans List.perm_append_comm).cons label

/-- Level by level, or each label before those below it, the labels are the same. -/
theorem levelOrder_perm (tree : Tree α) : tree.levelOrder.Perm tree.preorder := by
  have enough : sizes [tree] ≤ tree.size := by simp [sizes]
  have orders := levelOrderFrom_perm enough
  rw [preorders, preorders, List.append_nil] at orders
  exact orders

/-! ## Leaves -/

section Leaves

variable {β : Type} (label : α) (leaf : β → α) (items : List β)

theorem sizes_leaves : sizes (items.map fun item => node (leaf item) []) = items.length := by
  induction items with
  | nil => rfl
  | cons item items induction =>
    rw [List.map_cons, sizes, induction, size, sizes, List.length_cons]
    omega

theorem levelOrderFrom_leaves :
    levelOrderFrom items.length (items.map fun item => node (leaf item) []) = items.map leaf := by
  induction items with
  | nil => rfl
  | cons item items induction =>
    rw [List.map_cons, List.length_cons, levelOrderFrom, List.append_nil, induction, List.map_cons]

/-- A label above leaves goes first, in either order, and then the leaves as they stand. -/
theorem levelOrder_leaves :
    (node label (items.map fun item => node (leaf item) [])).levelOrder =
      label :: items.map leaf := by
  rw [levelOrder, size, levelOrderFrom, List.nil_append, sizes_leaves, levelOrderFrom_leaves]

theorem preorder_leaves :
    (node label (items.map fun item => node (leaf item) [])).preorder =
      label :: items.map leaf := by
  rw [preorder]
  congr 1
  induction items with
  | nil => rfl
  | cons item items induction =>
    rw [List.map_cons, preorders, induction, preorder, preorders, List.map_cons]
    rfl

end Leaves

end TypeSurvey.Tree
