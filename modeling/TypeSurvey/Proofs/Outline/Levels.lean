import TypeSurvey.Proofs.Outline.Tree
import TypeSurvey.Proofs.Sorting

/-!
# Levels of a tree

A queue of trees holds the rest of one level in front, and behind it the trees below those of the
level that it has passed. So it gives the labels of one depth after those of the depth before, each
depth in the order of the tree. This is the order in which a sort by depths puts the labels, if each
of them goes before those below it at first.
-/

namespace TypeSurvey.Tree

variable {α β : Type}

def label : Tree α → α
  | node label _ => label

/-- The trees directly below the top. -/
def children : Tree α → List (Tree α)
  | node _ children => children

/-- The labels at a depth, in the order of the tree. -/
def labelsAt : Nat → Tree α → List α
  | 0, tree => [tree.label]
  | depth + 1, tree => tree.children.flatMap (labelsAt depth)

mutual

/-- The labels of a tree with their depths, each before those below it. -/
def depthFirst (depth : Nat) : Tree α → List (Nat × α)
  | node label children => (depth, label) :: depthFirstAll (depth + 1) children

/-- The labels of trees with their depths, one tree after the other. -/
def depthFirstAll (depth : Nat) : List (Tree α) → List (Nat × α)
  | [] => []
  | first :: rest => depthFirst depth first ++ depthFirstAll depth rest

end

/-- What labels with depths give, with the same depths, if each label gives a list. -/
def results (give : α → List β) (entries : List (Nat × α)) : List (Nat × β) :=
  entries.flatMap fun entry => (give entry.2).map fun result => (entry.1, result)

/-! ## The queue -/

theorem size_pos (tree : Tree α) : 0 < tree.size := by
  obtain ⟨label, children⟩ := tree
  exact Nat.succ_pos _

theorem sizes_children (trees : List (Tree α)) :
    sizes (trees.flatMap children) + trees.length = sizes trees := by
  induction trees with
  | nil => rfl
  | cons tree trees induction =>
    obtain ⟨label, children⟩ := tree
    rw [List.flatMap_cons, sizes_append, List.length_cons, sizes, size, Tree.children]
    omega

/-- The queue gives the rest of a level, and the trees below it join those that it has met. -/
theorem levelOrderFrom_append {fuel : Nat} {rest : List (Tree α)} (met : List (Tree α))
    (enough : rest.length ≤ fuel) :
    levelOrderFrom fuel (rest ++ met) =
      rest.map label ++ levelOrderFrom (fuel - rest.length) (met ++ rest.flatMap children) := by
  induction rest generalizing fuel met with
  | nil => simp
  | cons tree rest induction =>
    obtain ⟨label, children⟩ := tree
    obtain ⟨fuel, rfl⟩ : ∃ steps, fuel = steps + 1 := ⟨fuel - 1, by simp at enough; omega⟩
    rw [List.cons_append, levelOrderFrom, List.append_assoc,
      induction (met ++ children) (Nat.le_of_succ_le_succ enough), List.map_cons,
      List.cons_append, List.flatMap_cons, List.append_assoc, List.length_cons,
      Nat.add_sub_add_right]
    rfl

/-- The queue gives the labels depth by depth. -/
theorem levelOrderFrom_eq {fuel bound : Nat} {queue : List (Tree α)} (enough : sizes queue ≤ fuel)
    (deep : sizes queue ≤ bound) :
    levelOrderFrom fuel queue =
      (List.range bound).flatMap fun depth => queue.flatMap (labelsAt depth) := by
  induction bound generalizing fuel queue with
  | zero =>
    cases queue with
    | nil => cases fuel <;> rfl
    | cons tree queue =>
      have positive := tree.size_pos
      rw [sizes] at deep
      omega
  | succ bound induction =>
    have below := sizes_children queue
    have level : queue.flatMap (labelsAt 0) = queue.map label := by
      rw [List.map_eq_flatMap]
      rfl
    have deeper (depth : Nat) : queue.flatMap (labelsAt (depth + 1)) =
        (queue.flatMap children).flatMap (labelsAt depth) := by
      rw [List.flatMap_assoc]
      rfl
    have lower : sizes (queue.flatMap children) ≤ bound := by
      cases queue with
      | nil => exact Nat.zero_le bound
      | cons tree queue =>
        rw [List.length_cons] at below
        omega
    have step := levelOrderFrom_append [] (show queue.length ≤ fuel by omega)
    rw [List.append_nil, List.nil_append] at step
    rw [step, induction (by omega) lower, List.range_succ_eq_map, List.flatMap_cons,
      List.flatMap_map, level]
    simp only [deeper]

theorem levelOrder_eq {tree : Tree α} {bound : Nat} (deep : tree.size ≤ bound) :
    tree.levelOrder = (List.range bound).flatMap fun depth => tree.labelsAt depth := by
  have alone : sizes [tree] = tree.size := by simp [sizes]
  rw [levelOrder, levelOrderFrom_eq alone.le (alone.le.trans deep)]
  simp

/-! ## Depth-first order -/

theorem depthFirstAll_eq_flatMap (depth : Nat) (trees : List (Tree α)) :
    depthFirstAll depth trees = trees.flatMap (depthFirst depth) := by
  induction trees with
  | nil => rfl
  | cons tree trees induction => rw [depthFirstAll, induction, List.flatMap_cons]

theorem depthFirst_eq (depth : Nat) (tree : Tree α) :
    tree.depthFirst depth =
      (depth, tree.label) :: tree.children.flatMap (depthFirst (depth + 1)) := by
  obtain ⟨label, children⟩ := tree
  rw [depthFirst, depthFirstAll_eq_flatMap]
  rfl

/-- The depths of the labels of a tree begin with that of its top, and there are no more depths than
labels. -/
theorem depth_of_mem_depthFirst {tree : Tree α} {depth : Nat} {entry : Nat × α}
    (member : entry ∈ tree.depthFirst depth) : depth ≤ entry.1 ∧ entry.1 < depth + tree.size := by
  induction size : tree.size using Nat.strongRecOn generalizing tree depth with
  | ind _ induction =>
    rw [depthFirst_eq, List.mem_cons, List.mem_flatMap] at member
    rcases member with rfl | ⟨child, below, inside⟩
    · have positive := tree.size_pos
      exact ⟨Nat.le_refl depth, by omega⟩
    · obtain ⟨label, children⟩ := tree
      have smaller : child.size < (node label children).size := size_lt_of_mem below label
      have bounds := induction child.size (by omega) inside rfl
      omega

/-- The labels at a depth stand in depth-first order. -/
theorem filter_depthFirst (tree : Tree α) (start depth : Nat) :
    (tree.depthFirst start).filter (fun entry => entry.1 == start + depth) =
      (tree.labelsAt depth).map fun label => (start + depth, label) := by
  induction depth generalizing tree start with
  | zero =>
    have deeper : (tree.children.flatMap (depthFirst (start + 1))).filter
        (fun entry => entry.1 == start) = [] := by
      refine List.filter_eq_nil_iff.mpr fun entry member => ?_
      obtain ⟨child, -, inside⟩ := List.mem_flatMap.mp member
      have bounds := depth_of_mem_depthFirst inside
      rw [beq_iff_eq]
      omega
    rw [Nat.add_zero, depthFirst_eq, List.filter_cons, if_pos (beq_self_eq_true start), deeper]
    rfl
  | succ depth induction =>
    have top : ¬ (start == start + (depth + 1)) = true := by
      rw [beq_iff_eq]
      omega
    have next : start + (depth + 1) = start + 1 + depth := by omega
    rw [depthFirst_eq, List.filter_cons, if_neg top, List.filter_flatMap, labelsAt,
      List.map_flatMap, next]
    exact List.flatMap_congr fun child _ => induction child (start + 1)

theorem filter_results (give : α → List β) (entries : List (Nat × α)) (depth : Nat) :
    (results give entries).filter (fun result => result.1 == depth) =
      results give (entries.filter fun entry => entry.1 == depth) := by
  induction entries with
  | nil => rfl
  | cons entry entries induction =>
    rw [results, List.flatMap_cons, List.filter_append, List.filter_map, List.filter_cons]
    rw [results] at induction
    rw [induction]
    cases here : entry.1 == depth <;> simp [results, here, Function.comp_def]

/-- What the labels give level by level is what they give in depth-first order, sorted by the
depths. -/
theorem flatMap_levelOrder (give : α → List β) (tree : Tree α) :
    tree.levelOrder.flatMap give =
      ((results give (tree.depthFirst 0)).mergeSort fun left right => left.1 ≤ right.1).map
        Prod.snd := by
  have bounded : ∀ result ∈ results give (tree.depthFirst 0), result.1 < tree.size := by
    intro result member
    obtain ⟨entry, inside, given⟩ := List.mem_flatMap.mp member
    obtain ⟨_, -, rfl⟩ := List.mem_map.mp given
    simpa using (depth_of_mem_depthFirst inside).2
  rw [mergeSort_eq_collect bounded, levelOrder_eq (Nat.le_refl _), List.flatMap_assoc, collect,
    List.map_flatMap]
  refine List.flatMap_congr fun depth _ => ?_
  have level := tree.filter_depthFirst 0 depth
  rw [Nat.zero_add] at level
  rw [filter_results, level, results, List.flatMap_map, List.map_flatMap]
  simp [Function.comp_def]

end TypeSurvey.Tree
