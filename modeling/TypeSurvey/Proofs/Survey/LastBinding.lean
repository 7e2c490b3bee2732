import TypeSurvey.Proofs.Outcome
import TypeSurvey.Proofs.Outline.Node
import TypeSurvey.Proofs.Survey.Binding

/-!
# The last binding counts

One survey of bindings may go through any number of sources. Each statement of a source gives
events: an assignment binds the names among its targets, and a function its parameters, before the
statements of its body are looked at. Scopes make no difference. In the end each name has the type
of its last event, and the names stand in the order of their first events; the same holds of the
functions and the types of their results. A source that cannot be read gives no events.
-/

namespace TypeSurvey

/-! ## Statements in the order in which they are written -/

namespace Source.Stmt

mutual

/-- A statement and all statements below it, as they are written. -/
def inOrder : Stmt → List Stmt
  | root@(if_ _ body orelse) => root :: (allInOrder body ++ allInOrder orelse)
  | root@(while_ _ body orelse) => root :: (allInOrder body ++ allInOrder orelse)
  | root@(for_ _ _ _ body orelse) => root :: (allInOrder body ++ allInOrder orelse)
  | root@(with_ _ _ body) => root :: allInOrder body
  | root@(try_ _ body handlers orelse final) =>
    root :: (allInOrder body ++ allInOrder handlers ++ allInOrder orelse ++ allInOrder final)
  | root@(handler _ _ body) => root :: allInOrder body
  | root@(match_ _ cases) => root :: allInOrder cases
  | root@(case _ _ body) => root :: allInOrder body
  | root@(function _ _ _ body _ _) => root :: allInOrder body
  | root@(class_ _ _ body _) => root :: allInOrder body
  | root => [root]

/-- Statements one after the other, each with those below it. -/
def allInOrder : List Stmt → List Stmt
  | [] => []
  | first :: rest => inOrder first ++ allInOrder rest

end

mutual

/-- The places of the outline are those of the statements as they are written. -/
theorem preorder_outline (root : Stmt) : root.outline.preorder = root.inOrder.map site := by
  -- Both sides take the blocks below a statement in the same order.
  cases root <;>
    simp only [outline, Tree.preorder, Tree.preorders_append, preorders_outlines, Tree.preorders,
      inOrder, List.map_cons, List.map_append, List.map_nil, site]

theorem preorders_outlines (roots : List Stmt) :
    Tree.preorders (outlines roots) = (allInOrder roots).map site := by
  cases roots with
  | nil => rfl
  | cons first rest =>
    rw [outlines, Tree.preorders, allInOrder, List.map_append, preorder_outline first,
      preorders_outlines rest]

end

end Source.Stmt

namespace Survey

open Source

/-! ## Events -/

/-- The variables that a statement itself binds, and the types that it gives them. -/
def boundBy : Stmt → Bindings
  | .assign targets value =>
    (targetNames targets).map fun name => (name, bindingType value name)
  | .function false _ parameters _ _ _ =>
    (ordinaryParameters parameters).map fun parameter => (parameter.1, "function_param".toList)
  | _ => []

/-- The type of the result of a function, from the value that it returns first. -/
def returnedType : Option Expr → Text
  | some value => bindingType value []
  | none => "None".toList

/-- The function that a statement itself defines, and the type of its result. -/
def definedBy : Stmt → Bindings
  | .function false name _ body _ _ => [(name, returnedType (returned? body))]
  | _ => []

/-- The events of a source, as it is written. There are none if it cannot be read. -/
def sourceEvents (given : Stmt → Bindings) (source : Text) : Bindings :=
  match parseModule source with
  | .ok module_ => (Stmt.allInOrder module_).flatMap given
  | .error _ => []

/-- Whether bindings are left by events: each name has the type of its last event, there is no other
name, and the names stand in the order of their first events. -/
structure LeftBy (events found : Bindings) : Prop where
  mem_iff : ∀ name type, (name, type) ∈ found ↔ IsLast events name type
  order : found.map Prod.fst = (events.map Prod.fst).eraseDups

theorem leftBy_putAll (events : Bindings) : LeftBy events (putAll events []) :=
  ⟨fun _ _ => mem_putAll_iff, names_putAll_eq_eraseDups events⟩

/-! ## One survey of several sources -/

/-- The function of a place, and the type of its result. -/
def definitionEvents : Site → Bindings
  | .function name _ _ returned => [(name, returnedType returned)]
  | _ => []

theorem bindingEvents_site (statement : Stmt) :
    bindingEvents statement.site = boundBy statement := by
  cases statement with
  | function isAsync name parameters body decorators hint => cases isAsync <;> rfl
  | _ => rfl

theorem definitionEvents_site (statement : Stmt) :
    definitionEvents statement.site = definedBy statement := by
  cases statement with
  | function isAsync name parameters body decorators hint => cases isAsync <;> rfl
  | _ => rfl

/-- What the places of a module give is what its statements give as they are written. -/
theorem flatMap_outline {given : Site → Bindings} (quiet : given .other = []) (module_ : Module) :
    (Module.outline module_).preorder.flatMap given =
      (Stmt.allInOrder module_).flatMap fun statement => given statement.site := by
  rw [Module.outline, Tree.preorder, Stmt.preorders_outlines, List.flatMap_cons, quiet,
    List.nil_append, List.flatMap_map]

namespace BindingSurvey

theorem results_visit (survey : BindingSurvey) (site : Site) :
    (survey.visit site).results = putAll (definitionEvents site) survey.results := by
  cases site with
  | function name parameters hint returned =>
    cases returned <;> rfl
  | assignment targets value => rfl
  | other => rfl

theorem names_visitModule (survey : BindingSurvey) (module_ : Module) :
    (survey.visitModule module_).names =
      putAll ((Stmt.allInOrder module_).flatMap boundBy) survey.names := by
  rw [visitModule, names_foldl_visit, flatMap_outline rfl]
  simp only [bindingEvents_site]

theorem results_visitModule (survey : BindingSurvey) (module_ : Module) :
    (survey.visitModule module_).results =
      putAll ((Stmt.allInOrder module_).flatMap definedBy) survey.results := by
  rw [visitModule, foldl_eq_putAll results_visit, flatMap_outline rfl]
  simp only [definitionEvents_site]

theorem names_visitSource (survey : BindingSurvey) (source : Text) :
    (survey.visitSource source).1.names = putAll (sourceEvents boundBy source) survey.names := by
  rw [visitSource, sourceEvents]
  cases parseModule source with
  | error fault => rfl
  | ok module_ => exact survey.names_visitModule module_

theorem results_visitSource (survey : BindingSurvey) (source : Text) :
    (survey.visitSource source).1.results =
      putAll (sourceEvents definedBy source) survey.results := by
  rw [visitSource, sourceEvents]
  cases parseModule source with
  | error fault => rfl
  | ok module_ => exact survey.results_visitModule module_

end BindingSurvey

/-- One survey of any sources keeps for each variable the type of its last binding and for each
function the type of the result of its last definition, in the order of first bindings and first
definitions. A source that cannot be read changes nothing. -/
theorem survey_keeps_last_bindings (sources : List Text) :
    LeftBy (sources.flatMap (sourceEvents boundBy))
      (BindingSurvey.empty.visitSources sources).names ∧
    LeftBy (sources.flatMap (sourceEvents definedBy))
      (BindingSurvey.empty.visitSources sources).results ∧
    ∀ (survey : BindingSurvey) (source : Text) (fault : Source.Fault),
      parseModule source = .error fault → survey.visitSource source = (survey, some fault) := by
  refine ⟨?_, ?_, fun survey source fault refused => ?_⟩
  · rw [BindingSurvey.visitSources, foldl_eq_putAll BindingSurvey.names_visitSource]
    exact leftBy_putAll _
  · rw [BindingSurvey.visitSources, foldl_eq_putAll BindingSurvey.results_visitSource]
    exact leftBy_putAll _
  · rw [BindingSurvey.visitSource, refused]

/-- A source that cannot be read. -/
def openSource : Text := "x = (".toList

/-- Sources in which names are bound in several scopes and functions are defined again, and one that
cannot be read between them. -/
def shadowingSources : List Text :=
  ["def f(x):\n def g(y):\n  x = 1\n return []\n".toList, openSource,
    "y = x = ()\ndef g():\n pass\n".toList]

theorem survey_keeps_last_bindings_shadowing :
    IsLast (shadowingSources.flatMap (sourceEvents boundBy)) ['x'] "tuple".toList ∧
    ((shadowingSources.flatMap (sourceEvents boundBy)).map Prod.fst).eraseDups = [['x'], ['y']] ∧
    IsLast (shadowingSources.flatMap (sourceEvents definedBy)) ['g'] "None".toList ∧
    ((shadowingSources.flatMap (sourceEvents definedBy)).map Prod.fst).eraseDups =
      [['f'], ['g']] ∧
    ∃ fault, parseModule openSource = .error fault ∧
      ∀ survey : BindingSurvey, survey.visitSource openSource = (survey, some fault) := by
  have shown : BindingSurvey.empty.visitSources shadowingSources =
        ⟨[(['x'], "tuple".toList), (['y'], "tuple".toList)],
          [(['f'], "list".toList), (['g'], "None".toList)]⟩ ∧
      (parseModule openSource).isOk = false := by
    decide +kernel
  obtain ⟨found, refused⟩ := shown
  obtain ⟨names, results, unread⟩ := survey_keeps_last_bindings shadowingSources
  rw [found] at names results
  refine ⟨(names.mem_iff _ _).mp (by decide), names.order.symm,
    (results.mem_iff _ _).mp (by decide), results.order.symm, ?_⟩
  cases parsed : parseModule openSource with
  | ok module_ => rw [parsed] at refused; cases refused
  | error fault => exact ⟨fault, rfl, fun survey => unread survey openSource fault parsed⟩

end Survey

end TypeSurvey
