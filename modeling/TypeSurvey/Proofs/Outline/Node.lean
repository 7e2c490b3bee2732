import TypeSurvey.Outline.Site
import TypeSurvey.Proofs.Outline.Tree
import Mathlib.Logic.Relation

/-!
# The nodes of a syntax tree

The nodes of the syntax tree of a module are its statements, and their expressions and patterns with
all their parts. Below an expression or a pattern there are no statements. So the outline, which
follows the statements alone, has a place for every assignment and for every function of the tree,
however deep in other statements it stands.
-/

namespace TypeSurvey.Source

/-- A node of a syntax tree. -/
inductive Node
  | module_ (body : Module)
  | statement (statement : Stmt)
  | expression (expression : Expr)
  | pattern (pattern : Pattern)

/-! ## Parts -/

/-- The expressions directly below an expression. -/
def Expr.parts : Expr → List Expr
  | omitted | constant _ | name _ => []
  | formatted pieces => pieces
  | placeholder value _ spec => [value, spec]
  | list items | tuple items | set items => items
  | dict keys values => keys ++ values
  | unary _ operand => [operand]
  | binary _ left right => [left, right]
  | junction _ operands => operands
  | compare first _ rest => first :: rest
  | conditional test yes no => [test, yes, no]
  | lambda parameters body => parameters ++ [body]
  | call function arguments => function :: arguments
  | keyword _ value => [value]
  | starred value => [value]
  | member value _ => [value]
  | subscript value index => [value, index]
  | slice lower upper step => [lower, upper, step]
  | listComp element clauses | setComp element clauses | generator element clauses =>
    element :: clauses
  | dictComp key value clauses => key :: value :: clauses
  | clause _ target source conditions => target :: source :: conditions
  | parameter _ _ hint default _ => [hint, default]
  | context value target => [value, target]
  | named target value => [target, value]
  | await value | yield value | yieldFrom value => [value]

/-- The patterns directly below a pattern. -/
def Pattern.parts : Pattern → List Pattern
  | value _ | singleton _ | star _ => []
  | sequence patterns | oneOf patterns => patterns
  | mapping _ patterns _ => patterns
  | instance_ _ positional _ named => positional ++ named
  | capture pattern _ => pattern.toList

/-- The expressions directly below a pattern. -/
def Pattern.expressions : Pattern → List Expr
  | value expression => [expression]
  | mapping keys _ _ => keys
  | instance_ class_ _ _ _ => [class_]
  | _ => []

/-- The statements directly below a statement. -/
def Stmt.parts : Stmt → List Stmt
  | if_ _ body orelse | while_ _ body orelse | for_ _ _ _ body orelse => body ++ orelse
  | with_ _ _ body | handler _ _ body | case _ _ body => body
  | try_ _ body handlers orelse final => body ++ handlers ++ orelse ++ final
  | match_ _ cases => cases
  | function _ _ _ body _ _ => body
  | class_ _ _ body _ => body
  | _ => []

/-- The expressions directly below a statement. -/
def Stmt.expressions : Stmt → List Expr
  | expression value => [value]
  | assign targets value => targets ++ [value]
  | augment target _ value => [target, value]
  | declare target hint value => [target, hint, value]
  | delete targets => targets
  | return_ value _ => [value]
  | raise exception cause => [exception, cause]
  | assert test message => [test, message]
  | if_ test _ _ | while_ test _ _ => [test]
  | for_ _ target source _ _ => [target, source]
  | with_ _ contexts _ => contexts
  | handler exceptions _ _ => [exceptions]
  | match_ subject _ => [subject]
  | case _ condition _ => [condition]
  | function _ _ parameters _ decorators hint => parameters ++ decorators ++ [hint]
  | class_ _ bases _ decorators => bases ++ decorators
  | _ => []

/-- The patterns directly below a statement. -/
def Stmt.patterns : Stmt → List Pattern
  | case pattern _ _ => [pattern]
  | _ => []

namespace Node

/-- The nodes directly below a node. -/
def children : Node → List Node
  | module_ body => body.map statement
  | statement node =>
    node.expressions.map expression ++ node.patterns.map pattern ++ node.parts.map statement
  | expression node => node.parts.map expression
  | pattern node => node.expressions.map expression ++ node.parts.map pattern

/-- Whether a node is in the tree below another one, itself included. -/
def Inside (root node : Node) : Prop :=
  Relation.ReflTransGen (fun above below => below ∈ above.children) root node

end Node

/-! ## Places -/

/-- What the outline keeps of a statement. -/
def Stmt.site : Stmt → Site
  | assign targets value => .assignment targets value
  | function isAsync name parameters body _ hint =>
    if isAsync then .other else .function name parameters hint (returned? body)
  | _ => .other

theorem Stmt.outlines_eq_map (statements : List Stmt) :
    outlines statements = statements.map outline := by
  induction statements with
  | nil => rw [outlines, List.map_nil]
  | cons first rest induction => rw [outlines, induction, List.map_cons]

/-- The outline of a statement has the outlines of those directly below it. -/
theorem Stmt.outline_eq (root : Stmt) :
    root.outline = .node root.site (root.parts.map outline) := by
  cases root <;> simp [outline, site, parts, outlines_eq_map]

theorem Stmt.mem_preorder_outline {root : Stmt} {site : Site} :
    site ∈ root.outline.preorder ↔
      site = root.site ∨ ∃ part ∈ root.parts, site ∈ part.outline.preorder := by
  rw [outline_eq, Tree.preorder, List.mem_cons, Tree.mem_preorders]
  simp

theorem Module.mem_preorder_outline {module_ : Module} {site : Site} :
    site ∈ (Module.outline module_).preorder ↔
      site = .other ∨ ∃ part ∈ module_, site ∈ part.outline.preorder := by
  rw [Module.outline, Stmt.outlines_eq_map, Tree.preorder, List.mem_cons, Tree.mem_preorders]
  simp

/-- The places that the outline has for the tree below a node. -/
def Node.sites : Node → List Site
  | module_ body => (Module.outline body).preorder
  | statement node => node.outline.preorder
  | expression _ | pattern _ => []

/-- The places below a node are among those of the nodes above it. -/
theorem Node.sites_subset {above below : Node} (member : below ∈ above.children) :
    below.sites ⊆ above.sites := by
  cases above with
  | module_ body =>
    obtain ⟨part, placed, rfl⟩ := List.mem_map.mp member
    intro site found
    exact Module.mem_preorder_outline.mpr (.inr ⟨part, placed, found⟩)
  | statement node =>
    simp only [children, List.mem_append, List.mem_map] at member
    rcases member with (⟨part, -, rfl⟩ | ⟨part, -, rfl⟩) | ⟨part, placed, rfl⟩
    · exact List.nil_subset _
    · exact List.nil_subset _
    · intro site found
      exact Stmt.mem_preorder_outline.mpr (.inr ⟨part, placed, found⟩)
  | expression node =>
    obtain ⟨part, -, rfl⟩ := List.mem_map.mp member
    exact List.nil_subset _
  | pattern node =>
    simp only [children, List.mem_append, List.mem_map] at member
    rcases member with ⟨part, -, rfl⟩ | ⟨part, -, rfl⟩ <;> exact List.nil_subset _

/-- Every statement in a tree has its place in the outline. -/
theorem Node.site_mem_sites {root : Node} {part : Stmt} (inside : Inside root (.statement part)) :
    part.site ∈ root.sites := by
  induction inside using Relation.ReflTransGen.head_induction_on with
  | refl => exact Stmt.mem_preorder_outline.mpr (.inl rfl)
  | head step _ induction => exact sites_subset step induction

/-- Every place in the outline of a statement is that of a statement in its tree. -/
theorem Node.exists_inside_statement {root : Stmt} {site : Site}
    (found : site ∈ root.outline.preorder) :
    ∃ part, Inside (.statement root) (.statement part) ∧ part.site = site := by
  -- The outlines of the statements directly below are smaller.
  induction size : root.outline.size using Nat.strongRecOn generalizing root with
  | ind _ induction =>
    rcases Stmt.mem_preorder_outline.mp found with rfl | ⟨child, placed, below⟩
    · exact ⟨root, .refl, rfl⟩
    · have smaller : child.outline.size < root.outline.size := by
        rw [root.outline_eq]
        exact Tree.size_lt_of_mem (List.mem_map_of_mem placed) _
      obtain ⟨part, inside, same⟩ := induction _ (size ▸ smaller) below rfl
      have step : Node.statement child ∈ (Node.statement root).children :=
        List.mem_append_right _ (List.mem_map_of_mem placed)
      exact ⟨part, .head step inside, same⟩

/-- The places in the outline of a module, other than those on which nothing is reported, are those
of the statements in its tree. -/
theorem Module.mem_preorder_outline_iff {module_ : Module} {site : Site}
    (reported : site ≠ .other) :
    site ∈ (Module.outline module_).preorder ↔
      ∃ part, Node.Inside (.module_ module_) (.statement part) ∧ part.site = site := by
  constructor
  · intro found
    rcases Module.mem_preorder_outline.mp found with other | ⟨child, placed, below⟩
    · exact absurd other reported
    · obtain ⟨part, inside, same⟩ := Node.exists_inside_statement below
      have step : Node.statement child ∈ (Node.module_ module_).children :=
        List.mem_map_of_mem placed
      exact ⟨part, .head step inside, same⟩
  · rintro ⟨part, inside, rfl⟩
    exact Node.site_mem_sites inside

/-! ## Assignments and functions -/

theorem Stmt.site_eq_assignment {node : Stmt} {targets : List Expr} {value : Expr} :
    node.site = .assignment targets value ↔ node = .assign targets value := by
  cases node with
  | function isAsync name parameters body decorators hint => cases isAsync <;> simp [site]
  | _ => simp [site]

theorem Stmt.site_eq_function {node : Stmt} {name : Text} {parameters : List Expr} {hint : Expr}
    {returned : Option Expr} :
    node.site = .function name parameters hint returned ↔
      ∃ body decorators, node = .function false name parameters body decorators hint ∧
        returned? body = returned := by
  cases node with
  | function isAsync name parameters body decorators hint =>
    cases isAsync with
    | false =>
      simp only [site, Bool.false_eq_true, if_false, Site.function.injEq, function.injEq,
        true_and]
      constructor
      · rintro ⟨rfl, rfl, rfl, rfl⟩
        exact ⟨body, decorators, ⟨rfl, rfl, rfl, rfl, rfl⟩, rfl⟩
      · rintro ⟨_, _, ⟨rfl, rfl, rfl, rfl, rfl⟩, rfl⟩
        exact ⟨rfl, rfl, rfl, rfl⟩
    | true => simp [site]
  | _ => simp [site]

end TypeSurvey.Source
