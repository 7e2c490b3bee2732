import TypeSurvey.Proofs.Text.Named
import TypeSurvey.Survey.Binding

/-!
# Bindings as events

Each place of a module gives events, which bind names to types: one for each name that a value is
assigned to, and one for each parameter of a function. The survey of bindings puts the events one
after the other, in the order in which the places are written.
-/

namespace TypeSurvey.Survey

open Source

def bindingEvents : Site → Bindings
  | .assignment targets value =>
    (targetNames targets).map fun name => (name, bindingType value name)
  | .function _ parameters _ _ =>
    (ordinaryParameters parameters).map fun parameter => (parameter.1, "function_param".toList)
  | .other => []

namespace BindingSurvey

theorem names_visit (survey : BindingSurvey) (site : Site) :
    (survey.visit site).names = putAll (bindingEvents site) survey.names := by
  cases site with
  | assignment targets value =>
    simp only [visit, bindingEvents, putAll, List.foldl_map]
  | function name parameters hint returned =>
    simp only [visit, bindingEvents, putAll, List.foldl_map]
  | other => rfl

theorem names_foldl_visit (survey : BindingSurvey) (sites : List Site) :
    (sites.foldl visit survey).names = putAll (sites.flatMap bindingEvents) survey.names :=
  foldl_eq_putAll names_visit survey sites

end BindingSurvey

theorem bindings_eq_putAll (module_ : Module) :
    bindings module_ = putAll ((Module.outline module_).preorder.flatMap bindingEvents) [] := by
  rw [bindings, BindingSurvey.visitModule, BindingSurvey.names_foldl_visit]
  rfl

theorem names_bindings (module_ : Module) :
    (bindings module_).map Prod.fst =
      (((Module.outline module_).preorder.flatMap bindingEvents).map Prod.fst).foldl
        addName [] := by
  rw [bindings_eq_putAll, names_putAll, List.map_nil]

theorem nodup_names_bindings (module_ : Module) : ((bindings module_).map Prod.fst).Nodup := by
  rw [names_bindings]
  exact nodup_foldl_addName List.nodup_nil _

theorem mem_names_bindings {module_ : Module} {name : Text} :
    name ∈ (bindings module_).map Prod.fst ↔
      ∃ site ∈ (Module.outline module_).preorder, name ∈ (bindingEvents site).map Prod.fst := by
  rw [names_bindings, mem_foldl_addName, List.map_flatMap, List.mem_flatMap]
  simp

end TypeSurvey.Survey
