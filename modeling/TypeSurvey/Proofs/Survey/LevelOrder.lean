import TypeSurvey.Proofs.Outline.Levels
import TypeSurvey.Proofs.Outline.Node
import TypeSurvey.Proofs.Survey.Reports

/-!
# Hints are reported level by level

The survey of hints follows the outline of a module with a queue. What it reports is what the nodes
of the whole syntax tree have to report, depth by depth and in the order of the source within a
depth: expressions and patterns have nothing to report, and no statements stand below them. So it is
also what a walk in depth-first order reports, sorted by the depths.
-/

namespace TypeSurvey.Source

/-! ## Syntax trees -/

theorem Expr.sizeOf_lt_of_mem_parts {part whole : Expr} (member : part ∈ whole.parts) :
    sizeOf part < sizeOf whole := by
  cases whole <;> simp [parts] at member ⊢ <;> grind [→ List.sizeOf_lt_of_mem]

theorem Pattern.sizeOf_lt_of_mem_parts {part whole : Pattern} (member : part ∈ whole.parts) :
    sizeOf part < sizeOf whole := by
  cases whole <;> simp [parts] at member ⊢ <;> grind [→ List.sizeOf_lt_of_mem]

theorem Pattern.sizeOf_lt_of_mem_expressions {part : Expr} {whole : Pattern}
    (member : part ∈ whole.expressions) : sizeOf part < sizeOf whole := by
  cases whole <;> simp [expressions] at member ⊢ <;> grind [→ List.sizeOf_lt_of_mem]

theorem Stmt.sizeOf_lt_of_mem_parts {part whole : Stmt} (member : part ∈ whole.parts) :
    sizeOf part < sizeOf whole := by
  cases whole <;> simp [parts] at member ⊢ <;> grind [→ List.sizeOf_lt_of_mem]

theorem Stmt.sizeOf_lt_of_mem_expressions {part : Expr} {whole : Stmt}
    (member : part ∈ whole.expressions) : sizeOf part < sizeOf whole := by
  cases whole <;> simp [expressions] at member ⊢ <;> grind [→ List.sizeOf_lt_of_mem]

theorem Stmt.sizeOf_lt_of_mem_patterns {part : Pattern} {whole : Stmt}
    (member : part ∈ whole.patterns) : sizeOf part < sizeOf whole := by
  cases whole <;> simp [patterns] at member ⊢
  grind

namespace Node

theorem sizeOf_lt_of_mem_children {above below : Node} (member : below ∈ above.children) :
    sizeOf below < sizeOf above := by
  cases above with
  | module_ body =>
    obtain ⟨part, placed, rfl⟩ := List.mem_map.mp member
    exact Nat.add_lt_add_left (List.sizeOf_lt_of_mem placed) 1
  | statement whole =>
    simp only [children, List.mem_append, List.mem_map] at member
    rcases member with (⟨part, placed, rfl⟩ | ⟨part, placed, rfl⟩) | ⟨part, placed, rfl⟩
    · exact Nat.add_lt_add_left (Stmt.sizeOf_lt_of_mem_expressions placed) 1
    · exact Nat.add_lt_add_left (Stmt.sizeOf_lt_of_mem_patterns placed) 1
    · exact Nat.add_lt_add_left (Stmt.sizeOf_lt_of_mem_parts placed) 1
  | expression whole =>
    obtain ⟨part, placed, rfl⟩ := List.mem_map.mp member
    exact Nat.add_lt_add_left (Expr.sizeOf_lt_of_mem_parts placed) 1
  | pattern whole =>
    simp only [children, List.mem_append, List.mem_map] at member
    rcases member with ⟨part, placed, rfl⟩ | ⟨part, placed, rfl⟩
    · exact Nat.add_lt_add_left (Pattern.sizeOf_lt_of_mem_expressions placed) 1
    · exact Nat.add_lt_add_left (Pattern.sizeOf_lt_of_mem_parts placed) 1

/-- The syntax tree below a node. -/
def tree (root : Node) : Tree Node :=
  .node root (root.children.attach.map fun child => child.1.tree)
termination_by root
decreasing_by exact sizeOf_lt_of_mem_children child.2

theorem tree_eq (root : Node) : root.tree = .node root (root.children.map tree) := by
  rw [tree, List.attach_map_val]

end Node

end TypeSurvey.Source

namespace TypeSurvey.Survey

open Source

/-! ## Lines about nodes -/

/-- The line about a target of an assignment, if it is a name. -/
def targetRow [Text.SetOrder] (value : Expr) : Expr → List HintRow
  | .name name => [⟨name, literalType value⟩]
  | _ => []

/-- The line about a parameter of a function, if it can be given by position and by name and has no
hint. -/
def parameterRow (function : Text) : Expr → List HintRow
  | .parameter .ordinary name .omitted _ _ =>
    [⟨function ++ " (arg: ".toList ++ name ++ ")".toList, "Missing Type Hint".toList⟩]
  | _ => []

/-- The line about the result of a function, if it has no hint. -/
def resultRow (function : Text) : Expr → List HintRow
  | .omitted => [⟨function ++ " (return)".toList, "Missing Return Type Hint".toList⟩]
  | _ => []

/-- The lines about a node: about the targets of an assignment, or about the parameters and the
result of a function that is not asynchronous. -/
def nodeRows [Text.SetOrder] : Node → List HintRow
  | .statement (.assign targets value) => targets.flatMap (targetRow value)
  | .statement (.function false name parameters _ _ hint) =>
    parameters.flatMap (parameterRow name) ++ resultRow name hint
  | _ => []

theorem flatMap_targetRow [Text.SetOrder] (targets : List Expr) (value : Expr) :
    targets.flatMap (targetRow value) =
      (targetNames targets).map fun name => ⟨name, literalType value⟩ := by
  induction targets with
  | nil => rfl
  | cons target targets induction =>
    rw [List.flatMap_cons, induction]
    cases target <;> rfl

theorem flatMap_parameterRow (function : Text) (parameters : List Expr) :
    parameters.flatMap (parameterRow function) =
      ((ordinaryParameters parameters).filter fun parameter => !parameter.2.isWritten).map
        fun parameter => ⟨function ++ " (arg: ".toList ++ parameter.1 ++ ")".toList,
          "Missing Type Hint".toList⟩ := by
  induction parameters with
  | nil => rfl
  | cons parameter parameters induction =>
    rw [List.flatMap_cons, induction]
    cases parameter with
    | parameter kind name hint default line =>
      cases kind with
      | ordinary => cases hint <;> rfl
      | _ => rfl
    | _ => rfl

/-- The lines about a statement are those about its place in the outline. -/
theorem nodeRows_statement [Text.SetOrder] (statement : Stmt) :
    nodeRows (.statement statement) = hintRowsAt statement.site := by
  cases statement with
  | assign targets value => exact flatMap_targetRow targets value
  | function isAsync name parameters body decorators hint =>
    cases isAsync with
    | false =>
      rw [nodeRows, flatMap_parameterRow]
      cases hint <;> rfl
    | true => rfl
  | _ => rfl

/-! ## Levels -/

/-- The lines about the nodes at a depth below a node. -/
def levelRows [Text.SetOrder] (depth : Nat) (root : Node) : List HintRow :=
  (root.tree.labelsAt depth).flatMap nodeRows

theorem levelRows_zero [Text.SetOrder] (root : Node) : levelRows 0 root = nodeRows root := by
  rw [levelRows, root.tree_eq, Tree.labelsAt, Tree.label, List.flatMap_singleton]

theorem levelRows_succ [Text.SetOrder] (depth : Nat) (root : Node) :
    levelRows (depth + 1) root = root.children.flatMap (levelRows depth) := by
  rw [levelRows, root.tree_eq, Tree.labelsAt, Tree.children, List.flatMap_map, List.flatMap_assoc]
  rfl

theorem levelRows_expression [Text.SetOrder] (depth : Nat) (root : Expr) :
    levelRows depth (.expression root) = [] := by
  induction depth generalizing root with
  | zero => exact levelRows_zero _
  | succ depth induction =>
    rw [levelRows_succ, Node.children, List.flatMap_map]
    exact List.flatMap_eq_nil_iff.mpr fun part _ => induction part

theorem levelRows_pattern [Text.SetOrder] (depth : Nat) (root : Pattern) :
    levelRows depth (.pattern root) = [] := by
  induction depth generalizing root with
  | zero => exact levelRows_zero _
  | succ depth induction =>
    rw [levelRows_succ, Node.children, List.flatMap_append, List.flatMap_map, List.flatMap_map,
      List.append_eq_nil_iff]
    exact ⟨List.flatMap_eq_nil_iff.mpr fun part _ => levelRows_expression depth part,
      List.flatMap_eq_nil_iff.mpr fun part _ => induction part⟩

/-- What is reported at a depth below a statement is what is reported there in its outline. -/
theorem levelRows_statement [Text.SetOrder] (depth : Nat) (root : Stmt) :
    levelRows depth (.statement root) = (root.outline.labelsAt depth).flatMap hintRowsAt := by
  induction depth generalizing root with
  | zero =>
    rw [levelRows_zero, nodeRows_statement, root.outline_eq, Tree.labelsAt, Tree.label,
      List.flatMap_singleton]
  | succ depth induction =>
    have expressions : (root.expressions.map Node.expression).flatMap (levelRows depth) = [] := by
      rw [List.flatMap_map]
      exact List.flatMap_eq_nil_iff.mpr fun part _ => levelRows_expression depth part
    have patterns : (root.patterns.map Node.pattern).flatMap (levelRows depth) = [] := by
      rw [List.flatMap_map]
      exact List.flatMap_eq_nil_iff.mpr fun part _ => levelRows_pattern depth part
    rw [levelRows_succ, Node.children, List.flatMap_append, List.flatMap_append, expressions,
      patterns, List.nil_append, List.nil_append, List.flatMap_map, root.outline_eq,
      Tree.labelsAt, Tree.children, List.flatMap_map, List.flatMap_assoc]
    exact List.flatMap_congr fun part _ => induction part

theorem levelRows_module [Text.SetOrder] (depth : Nat) (module_ : Module) :
    levelRows depth (.module_ module_) =
      ((Module.outline module_).labelsAt depth).flatMap hintRowsAt := by
  cases depth with
  | zero => exact levelRows_zero _
  | succ depth =>
    rw [levelRows_succ, Node.children, List.flatMap_map, Module.outline, Stmt.outlines_eq_map,
      Tree.labelsAt, Tree.children, List.flatMap_map, List.flatMap_assoc]
    exact List.flatMap_congr fun part _ => levelRows_statement depth part

/-- The outline leaves out nodes on which nothing is reported. -/
theorem hintRows_eq [Text.SetOrder] (module_ : Module) :
    hintRows module_ = (Node.module_ module_).tree.levelOrder.flatMap nodeRows := by
  -- Either tree may be the deeper one.
  let bound := max (Module.outline module_).size (Node.module_ module_).tree.size
  rw [hintRows, Tree.levelOrder_eq (Nat.le_max_left _ _ : _ ≤ bound),
    Tree.levelOrder_eq (Nat.le_max_right _ _ : _ ≤ bound), List.flatMap_assoc, List.flatMap_assoc]
  exact List.flatMap_congr fun depth _ => (levelRows_module depth module_).symm

/-- The lines about a file are those about the nodes of its syntax tree, one depth after the other:
what a walk in depth-first order reports, sorted by the depths. -/
theorem hints_in_level_order [Text.SetOrder] {folder : Folder} {path source : Text}
    {module_ : Module} (read : folder.readText path = .ok source)
    (parsed : parseModule source = .ok module_) :
    ∃ rows, hintsOfFile folder path = ([], .ok rows) ∧
      rows = (List.range (Node.module_ module_).tree.size).flatMap (fun depth =>
        ((Node.module_ module_).tree.labelsAt depth).flatMap nodeRows) ∧
      rows = ((Tree.results nodeRows ((Node.module_ module_).tree.depthFirst 0)).mergeSort
        fun left right => left.1 ≤ right.1).map Prod.snd := by
  refine ⟨hintRows module_, hintsOfFile_of_read read parsed, ?_, ?_⟩
  · rw [hintRows_eq, Tree.levelOrder_eq (Nat.le_refl _), List.flatMap_assoc]
  · rw [hintRows_eq, Tree.flatMap_levelOrder]

attribute [local instance] Text.SetOrder.sorted

/-- A module in which the source meets the deep assignment before the one behind the function. -/
def steppedSource : Text := "def f(a):\n x = 1\nu = t = []\n".toList

/-- A folder with that module. -/
def steppedFolder : Folder := ⟨[([['m']], Text.encodeUtf8 steppedSource)]⟩

/-- The lines about it. -/
def steppedRows : List HintRow :=
  [⟨"f (arg: a)".toList, "Missing Type Hint".toList⟩,
    ⟨"f (return)".toList, "Missing Return Type Hint".toList⟩,
    ⟨['u'], "List[]".toList⟩, ⟨['t'], "List[]".toList⟩, ⟨['x'], "int".toList⟩]

theorem hints_in_level_order_stepped :
    ∃ module_, parseModule steppedSource = .ok module_ ∧
      hintsOfFile steppedFolder ['m'] = ([], .ok steppedRows) ∧
      steppedRows = ((Tree.results nodeRows ((Node.module_ module_).tree.depthFirst 0)).mergeSort
        fun left right => left.1 ≤ right.1).map Prod.snd := by
  have read : (steppedFolder.readText ['m']).toOption = some steppedSource := by decide +kernel
  have evaluated : (parseModule steppedSource).toOption.map hintRows = some steppedRows := by
    decide +kernel
  obtain ⟨module_, parsed, shown⟩ := Option.map_eq_some_iff.mp evaluated
  obtain ⟨rows, reported, -, sorted⟩ :=
    hints_in_level_order (eq_ok_of_toOption read) (eq_ok_of_toOption parsed)
  have same := hintsOfFile_of_read (eq_ok_of_toOption read) (eq_ok_of_toOption parsed)
  rw [shown] at same
  obtain rfl := Except.ok.inj (congrArg Prod.snd (reported.symm.trans same))
  exact ⟨module_, eq_ok_of_toOption parsed, reported, sorted⟩

end TypeSurvey.Survey
