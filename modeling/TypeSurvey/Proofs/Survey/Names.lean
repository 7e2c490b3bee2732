import TypeSurvey.Proofs.Outline.Node
import TypeSurvey.Proofs.Survey.Binding
import TypeSurvey.Proofs.Survey.Reports

/-!
# Both surveys see the same names

The survey of hints goes through a module level by level, the survey of bindings in the order in
which it is written. Both come to every assignment and to every function in the tree of the module.
So the names that are bound are the names of the assignments on which hints are reported, together
with the ordinary parameters of the functions.
-/

namespace TypeSurvey.Survey

open Source

/-! ## Names in a syntax tree -/

/-- Whether a value is assigned to a name somewhere in a module. -/
def Assigns (module_ : Module) (name : Text) : Prop :=
  ∃ targets value, Node.Inside (.module_ module_) (.statement (.assign targets value)) ∧
    .name name ∈ targets

/-- Whether some function in a module that is not asynchronous has a parameter of a name that can be
given by position and by name. -/
def HasParameter (module_ : Module) (name : Text) : Prop :=
  ∃ function parameters body decorators result,
    Node.Inside (.module_ module_)
        (.statement (.function false function parameters body decorators result)) ∧
      ∃ hint default line, .parameter .ordinary name hint default line ∈ parameters

/-- Whether a line is about an assignment: it gives a type, and not that a hint is missing. -/
def HintRow.IsAssignment (row : HintRow) : Prop :=
  row.hint ≠ "Missing Type Hint".toList ∧ row.hint ≠ "Missing Return Type Hint".toList

instance (row : HintRow) : Decidable row.IsAssignment :=
  inferInstanceAs (Decidable (_ ∧ _))

theorem mem_targetNames {targets : List Expr} {name : Text} :
    name ∈ targetNames targets ↔ .name name ∈ targets := by
  rw [targetNames, List.mem_filterMap]
  constructor
  · rintro ⟨target, member, named⟩
    split at named
    · obtain rfl := Option.some.inj named
      exact member
    · simp at named
  · intro member
    exact ⟨.name name, member, rfl⟩

theorem mem_names_ordinaryParameters {parameters : List Expr} {name : Text} :
    name ∈ (ordinaryParameters parameters).map Prod.fst ↔
      ∃ hint default line, .parameter .ordinary name hint default line ∈ parameters := by
  rw [ordinaryParameters, List.mem_map]
  constructor
  · rintro ⟨entry, found, rfl⟩
    obtain ⟨parameter, member, kept⟩ := List.mem_filterMap.mp found
    split at kept
    · next name hint default line =>
        obtain rfl := Option.some.inj kept
        exact ⟨hint, default, line, member⟩
    · simp at kept
  · rintro ⟨hint, default, line, member⟩
    exact ⟨(name, hint), List.mem_filterMap.mpr ⟨_, member, rfl⟩, rfl⟩

/-- The places of assignments in an outline are those in the tree. -/
theorem exists_assignment_iff {module_ : Module} {name : Text} :
    (∃ targets value, Site.assignment targets value ∈ (Module.outline module_).preorder ∧
      name ∈ targetNames targets) ↔ Assigns module_ name := by
  refine exists_congr fun targets => exists_congr fun value => and_congr ?_ mem_targetNames
  rw [Module.mem_preorder_outline_iff (by simp)]
  simp only [Stmt.site_eq_assignment, exists_eq_right]

/-- The places of functions in an outline are those in the tree. -/
theorem exists_function_iff {module_ : Module} {name : Text} :
    (∃ function parameters hint returned,
      Site.function function parameters hint returned ∈ (Module.outline module_).preorder ∧
        name ∈ (ordinaryParameters parameters).map Prod.fst) ↔ HasParameter module_ name := by
  constructor
  · rintro ⟨function, parameters, hint, returned, found, member⟩
    obtain ⟨part, inside, same⟩ := (Module.mem_preorder_outline_iff (by simp)).mp found
    obtain ⟨body, decorators, rfl, -⟩ := Stmt.site_eq_function.mp same
    exact ⟨function, parameters, body, decorators, hint, inside,
      mem_names_ordinaryParameters.mp member⟩
  · rintro ⟨function, parameters, body, decorators, hint, inside, member⟩
    refine ⟨function, parameters, hint, returned? body, ?_,
      mem_names_ordinaryParameters.mpr member⟩
    rw [Module.mem_preorder_outline_iff (by simp)]
    exact ⟨_, inside, Stmt.site_eq_function.mpr ⟨body, decorators, rfl, rfl⟩⟩

/-! ## The survey of bindings -/

theorem mem_names_bindings_iff {module_ : Module} {name : Text} :
    name ∈ (bindings module_).map Prod.fst ↔ Assigns module_ name ∨ HasParameter module_ name := by
  rw [mem_names_bindings, ← exists_assignment_iff, ← exists_function_iff]
  constructor
  · rintro ⟨site, found, member⟩
    cases site with
    | assignment targets value =>
      left
      exact ⟨targets, value, found, by simpa [bindingEvents, Function.comp_def] using member⟩
    | function function parameters hint returned =>
      right
      refine ⟨function, parameters, hint, returned, found, ?_⟩
      simpa only [bindingEvents, List.map_map, Function.comp_def] using member
    | other => simp [bindingEvents] at member
  · rintro (⟨targets, value, found, member⟩ |
      ⟨function, parameters, hint, returned, found, member⟩)
    · exact ⟨_, found, by simpa [bindingEvents, Function.comp_def] using member⟩
    · refine ⟨_, found, ?_⟩
      simpa only [bindingEvents, List.map_map, Function.comp_def] using member

/-! ## The survey of hints -/

theorem literalType_constant [Text.SetOrder] (value : Constant) :
    literalType (.constant value) = constantType value :=
  rfl

theorem head?_constantType (value : Constant) : (constantType value).head? ≠ some 'M' := by
  cases value <;> exact of_decide_eq_false rfl

/-- No type reads as if a hint were missing. -/
theorem head?_literalType [Text.SetOrder] (value : Expr) :
    (literalType value).head? ≠ some 'M' := by
  cases value with
  | constant value =>
    rw [literalType_constant]
    exact head?_constantType value
  | list items => exact (by decide : some 'L' ≠ some 'M')
  | dict keys values => exact (by decide : some 'D' ≠ some 'M')
  | _ => exact (by decide : unknownType.head? ≠ some 'M')

theorem isAssignment_literalType [Text.SetOrder] (name : Text) (value : Expr) :
    HintRow.IsAssignment ⟨name, literalType value⟩ := by
  constructor
  · intro same
    exact head?_literalType value (congrArg List.head? same)
  · intro same
    exact head?_literalType value (congrArg List.head? same)

/-- A line about a function says what is missing. -/
theorem not_isAssignment_of_function [Text.SetOrder] {row : HintRow} {name : Text}
    {parameters : List Expr} {hint : Expr} {returned : Option Expr}
    (member : row ∈ hintRowsAt (.function name parameters hint returned)) :
    ¬ row.IsAssignment := by
  rintro ⟨parameter, result⟩
  rcases List.mem_append.mp member with missing | missing
  · obtain ⟨_, -, rfl⟩ := List.mem_map.mp missing
    exact parameter rfl
  · split_ifs at missing
    · simp at missing
    · obtain rfl := List.mem_singleton.mp missing
      exact result rfl

/-- The lines of the survey of hints are those about the places in the outline. -/
theorem mem_hintRows [Text.SetOrder] {module_ : Module} {row : HintRow} :
    row ∈ hintRows module_ ↔ ∃ site ∈ (Module.outline module_).preorder, row ∈ hintRowsAt site := by
  rw [hintRows, List.mem_flatMap]
  simp only [(Tree.levelOrder_perm (Module.outline module_)).mem_iff]

theorem exists_assignmentRow_iff [Text.SetOrder] {module_ : Module} {name : Text} :
    (∃ row ∈ hintRows module_, row.IsAssignment ∧ row.subject = name) ↔ Assigns module_ name := by
  rw [← exists_assignment_iff]
  constructor
  · rintro ⟨row, member, isAssignment, rfl⟩
    obtain ⟨site, found, reported⟩ := mem_hintRows.mp member
    cases site with
    | assignment targets value =>
      obtain ⟨name, named, rfl⟩ := List.mem_map.mp reported
      exact ⟨targets, value, found, named⟩
    | function function parameters hint returned =>
      exact absurd isAssignment (not_isAssignment_of_function reported)
    | other => simp [hintRowsAt] at reported
  · rintro ⟨targets, value, found, named⟩
    refine ⟨⟨name, literalType value⟩, ?_, isAssignment_literalType name value, rfl⟩
    exact mem_hintRows.mpr ⟨_, found, List.mem_map.mpr ⟨name, named, rfl⟩⟩

/-! ## Both surveys -/

/-- Both surveys see the same code. Of every module that can be read, the survey of bindings reports
the names of the assignments on which the survey of hints reports, and the names of the ordinary
parameters of the functions in its tree, each of them once; and the assignments on which hints are
reported are all those in the tree. -/
theorem surveys_see_same_names [Text.SetOrder] {folder : Folder} {path source : Text}
    {module_ : Module} (read : folder.readText path = .ok source)
    (parsed : parseModule source = .ok module_) :
    hintsOfFile folder path = ([], .ok (hintRows module_)) ∧
    bindingsOfFile folder path = .ok ((bindings module_).map fun entry => (path, entry)) ∧
    (∀ name, name ∈ (bindings module_).map Prod.fst ↔
      (∃ row ∈ hintRows module_, row.IsAssignment ∧ row.subject = name) ∨
        HasParameter module_ name) ∧
    (∀ name, (∃ row ∈ hintRows module_, row.IsAssignment ∧ row.subject = name) ↔
      Assigns module_ name) ∧
    ((bindings module_).map Prod.fst).Nodup := by
  refine ⟨hintsOfFile_of_read read parsed, bindingsOfFile_of_read read parsed, ?_,
    fun name => exists_assignmentRow_iff, nodup_names_bindings module_⟩
  intro name
  rw [exists_assignmentRow_iff]
  exact mem_names_bindings_iff

attribute [local instance] Text.SetOrder.sorted

/-- A module with parameters of several kinds, deep inside other statements. -/
def nestedSource : Text :=
  ("class A:\n async def f(self):\n  def g(x, /, y, *, z=lambda w: 1):\n" ++
    "   u = [v for v in y]\n").toList

/-- A folder with that module. -/
def nestedFolder : Folder := ⟨[([['m']], Text.encodeUtf8 nestedSource)]⟩

theorem surveys_see_same_names_nested :
    ∃ module_, parseModule nestedSource = .ok module_ ∧
      bindingsOfFile nestedFolder ['m'] = .ok ((bindings module_).map fun entry => (['m'], entry)) ∧
      (∀ name, name ∈ [['y'], ['u']] ↔
        (∃ row ∈ hintRows module_, row.IsAssignment ∧ row.subject = name) ∨
          HasParameter module_ name) ∧
      Assigns module_ ['u'] ∧ ¬ HasParameter module_ ['x'] := by
  have read : (nestedFolder.readText ['m']).toOption = some nestedSource := by decide +kernel
  have names : ((parseModule nestedSource).toOption.map fun module_ =>
      ((bindings module_).map Prod.fst, decide (⟨['u'], unknownType⟩ ∈ hintRows module_))) =
        some ([['y'], ['u']], true) := by
    decide +kernel
  obtain ⟨module_, parsed, shown⟩ := Option.map_eq_some_iff.mp names
  obtain ⟨names, member⟩ := Prod.mk.inj shown
  obtain ⟨-, reported, same, assigned, -⟩ :=
    surveys_see_same_names (eq_ok_of_toOption read) (eq_ok_of_toOption parsed)
  rw [names] at same
  refine ⟨module_, eq_ok_of_toOption parsed, reported, same, (assigned _).mp ?_, ?_⟩
  · exact ⟨_, of_decide_eq_true member, by decide, rfl⟩
  · intro parameter
    exact absurd ((same ['x']).mpr (.inr parameter)) (by decide)

end TypeSurvey.Survey
