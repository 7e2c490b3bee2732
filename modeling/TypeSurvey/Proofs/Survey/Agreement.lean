import TypeSurvey.Proofs.Outline.Tree
import TypeSurvey.Proofs.Script.Literal
import TypeSurvey.Proofs.Survey.Binding
import TypeSurvey.Proofs.Survey.Reports
import TypeSurvey.Survey.ScriptReport

/-!
# The surveys agree on literals

On a module that assigns literals to names one after the other, all three surveys come to the last
literal of each name. The survey of hints reports its type at its last assignment, the survey of the
running script at the end of the run, in the same words; the survey of bindings tells the same of
constants, and of a list that it is one.
-/

namespace TypeSurvey.Survey

open Source Script

/-! ## The types of literals -/

/-- The name of the type of a literal, without the types inside a list. -/
def kindOf : Literal → Text
  | .bool _ => "bool".toList
  | .int _ => "int".toList
  | .float _ => "float".toList
  | .str _ => "str".toList
  | .list _ _ => "list".toList

theorem literalType_list [Text.SetOrder] (items : List Expr) :
    literalType (.list items) =
      "List[".toList ++ Text.members (literalTypes items) ++ "]".toList :=
  rfl

mutual

/-- The type of the value of a literal is the type that the literal shows. -/
theorem describedType_value [Text.SetOrder] (literal : Literal) :
    literal.value.describedType = literalType literal.expr := by
  cases literal with
  | list first rest =>
    have types : Value.describedTypes (first.value :: Literal.values rest) =
        literalTypes (first.expr :: Literal.exprs rest) :=
      congrArg₂ List.cons (describedType_value first) (describedTypes_values rest)
    rw [Literal.value, Literal.expr, literalType_list, Value.describedType, types]
    rfl
  | _ => rfl
termination_by structural literal

theorem describedTypes_values [Text.SetOrder] (literals : List Literal) :
    Value.describedTypes (Literal.values literals) = literalTypes (Literal.exprs literals) := by
  cases literals with
  | nil => rfl
  | cons first rest =>
    exact congrArg₂ List.cons (describedType_value first) (describedTypes_values rest)
termination_by structural literals

end

theorem bindingType_expr (literal : Literal) (name : Text) :
    bindingType literal.expr name = kindOf literal := by
  cases literal <;> rfl

/-! ## Straight lines -/

/-- The place of an assignment of a literal. -/
def assignmentSite (assignment : Text × Literal) : Site :=
  .assignment [.name assignment.1] assignment.2.expr

theorem outline_straightLine (assignments : List (Text × Literal)) :
    Module.outline (straightLine assignments) =
      .node .other (assignments.map fun assignment => .node (assignmentSite assignment) []) := by
  have outlines : Stmt.outlines (straightLine assignments) =
      assignments.map fun assignment => .node (assignmentSite assignment) [] := by
    induction assignments with
    | nil => rfl
    | cons assignment assignments induction => exact congrArg (List.cons _) induction
  rw [Module.outline, outlines]

/-- Both orders pass through the assignments as they are written. -/
theorem orders_straightLine (assignments : List (Text × Literal)) :
    (Module.outline (straightLine assignments)).levelOrder =
        .other :: assignments.map assignmentSite ∧
      (Module.outline (straightLine assignments)).preorder =
        .other :: assignments.map assignmentSite := by
  rw [outline_straightLine]
  exact ⟨Tree.levelOrder_leaves .other assignmentSite assignments,
    Tree.preorder_leaves .other assignmentSite assignments⟩

theorem hintRows_straightLine [Text.SetOrder] (assignments : List (Text × Literal)) :
    hintRows (straightLine assignments) =
      assignments.map fun assignment => ⟨assignment.1, literalType assignment.2.expr⟩ := by
  rw [hintRows, (orders_straightLine assignments).1, List.flatMap_cons, List.flatMap_map,
    List.map_eq_flatMap]
  rfl

theorem bindings_straightLine (assignments : List (Text × Literal)) :
    bindings (straightLine assignments) =
      putAll (assignments.map fun assignment => (assignment.1, kindOf assignment.2)) [] := by
  have event (assignment : Text × Literal) :
      bindingEvents (assignmentSite assignment) = [(assignment.1, kindOf assignment.2)] := by
    rw [← bindingType_expr assignment.2 assignment.1]
    rfl
  rw [bindings_eq_putAll, (orders_straightLine assignments).2, List.flatMap_cons, List.flatMap_map,
    List.map_eq_flatMap]
  simp only [event]
  rfl

theorem scriptFault?_straightLine (assignments : List (Text × Literal)) :
    scriptFault? (straightLine assignments) = none := by
  have faults : parameterFaultAmong? (straightLine assignments) = none ∧
      placeFaultAmong? false false (straightLine assignments) = none := by
    induction assignments with
    | nil => exact ⟨rfl, rfl⟩
    | cons assignment assignments induction =>
      obtain ⟨name, literal⟩ := assignment
      refine ⟨?_, induction.2⟩
      cases literal <;> exact induction.1
  rw [scriptFault?, faults.1, faults.2]
  rfl

/-- The types that a straight line leaves are those that its literals show. -/
theorem describedTypes_straightLine [Text.SetOrder] {assignments : List (Text × Literal)}
    (visible : ∀ assignment ∈ assignments, ¬ "__".toList <+: assignment.1) :
    describedTypes (runScript (straightLine assignments)).2 =
      putAll
        (assignments.map fun assignment => (assignment.1, literalType assignment.2.expr)) [] := by
  rw [runScript_straightLine]
  set data := (Literal.layouts 1 (assignments.map Prod.snd)).1
  set machine := Machine.ofNames (putAll ((assignments.map Prod.fst).zip data) [])
    (Literal.layouts 1 (assignments.map Prod.snd)).2 with final
  have shown : machine.globals.filter (fun entry => !("__".toList.isPrefixOf entry.1)) =
      putAll ((assignments.map Prod.fst).zip data) [] := by
    refine List.filter_eq_self.mpr fun entry member => ?_
    obtain ⟨event, placed, same⟩ := List.mem_map.mp (name_mem_of_mem_putAll member)
    obtain ⟨assignment, known, named⟩ := List.mem_map.mp (List.of_mem_zip placed).1
    have hidden := visible assignment known
    rw [named, same, ← List.isPrefixOf_iff_prefix] at hidden
    rw [Bool.not_eq_true']
    exact Bool.eq_false_iff.mpr hidden
  have values : data.map machine.resolve = (assignments.map Prod.snd).map Literal.value :=
    map_resolve_layouts _ _
  have types : ((assignments.map Prod.fst).zip data).map
      (Prod.map id fun datum => (machine.resolve datum).describedType) =
        assignments.map fun assignment => (assignment.1, literalType assignment.2.expr) := by
    have described : data.map (fun datum => (machine.resolve datum).describedType) =
        assignments.map fun assignment => literalType assignment.2.expr := by
      rw [← Function.comp_def Value.describedType, ← List.map_map, values, List.map_map,
        List.map_map]
      exact List.map_congr_left fun assignment _ => describedType_value assignment.2
    rw [← List.zip_map_right, described]
    exact List.zip_map'
  rw [describedTypes, shown, ← types]
  exact map_putAll (fun datum => (machine.resolve datum).describedType) _ []

theorem runModule_straightLine [Text.SetOrder] {assignments : List (Text × Literal)}
    (visible : ∀ assignment ∈ assignments, ¬ "__".toList <+: assignment.1) :
    runModule (straightLine assignments) =
      ([], .finished (putAll
        (assignments.map fun assignment => (assignment.1, literalType assignment.2.expr)) [])) := by
  rw [runModule, scriptFault?_straightLine, ← describedTypes_straightLine visible,
    runScript_straightLine]
  rfl

/-- The three surveys agree on straight lines of literals, whatever the nesting of the lists and
however often a name is assigned. The survey of the running script and the survey of bindings report
the names that are assigned, each once and in the same order. The type that the survey of the
running script gives for a name is the hint in the last line about it in the survey of hints. The
type that the survey of bindings gives is that of the last constant of the name, or tells that it is
a list. -/
theorem surveys_agree_on_literals [Text.SetOrder] {folder : Folder} {path source : Text}
    {assignments : List (Text × Literal)} (read : folder.readText path = .ok source)
    (parsed : parseModule source = .ok (straightLine assignments))
    (visible : ∀ assignment ∈ assignments, ¬ "__".toList <+: assignment.1) :
    ∃ (types : Bindings) (rows : List HintRow) (bound : Bindings),
      surveyScript folder path = ([], .ok types) ∧ hintsOfFile folder path = ([], .ok rows) ∧
      bindingsOfFile folder path = .ok (bound.map fun entry => (path, entry)) ∧
      (∀ name ∈ assignments.map Prod.fst, ∃ hint, types.lookup name = some hint ∧
        IsLast (rows.map fun row => (row.subject, row.hint)) name hint) ∧
      types.map Prod.fst = bound.map Prod.fst ∧ (types.map Prod.fst).Nodup ∧
      (∀ name, name ∈ types.map Prod.fst ↔ name ∈ assignments.map Prod.fst) ∧
      ∀ name literal, IsLast assignments name literal →
        bound.lookup name = some (kindOf literal) := by
  refine ⟨putAll
      (assignments.map fun assignment => (assignment.1, literalType assignment.2.expr)) [],
    assignments.map fun assignment => ⟨assignment.1, literalType assignment.2.expr⟩,
    putAll (assignments.map fun assignment => (assignment.1, kindOf assignment.2)) [],
    ?_, ?_, ?_, ?_, ?_, ?_, ?_, ?_⟩
  · rw [surveyScript, readScript, read]
    simp only [runSource, parsed, runModule_straightLine visible]
  · rw [hintsOfFile_of_read read parsed, hintRows_straightLine]
  · rw [bindingsOfFile_of_read read parsed, bindings_straightLine]
  · intro name member
    obtain ⟨literal, last⟩ := exists_isLast member
    refine ⟨literalType literal.expr, ?_, ?_⟩
    · exact lookup_putAll_of_isLast (last.map fun assignment => literalType assignment.2.expr)
    · rw [List.map_map]
      exact last.map fun assignment => literalType assignment.2.expr
  · rw [names_putAll, names_putAll, List.map_map, List.map_map]
    rfl
  · rw [names_putAll]
    exact nodup_foldl_addName List.nodup_nil _
  · intro name
    rw [names_putAll, mem_foldl_addName]
    simp
  · intro name literal last
    exact lookup_putAll_of_isLast (last.map fun assignment => kindOf assignment.2)

attribute [local instance] Text.SetOrder.sorted

/-- A straight line with lists in lists, and with a name that is assigned twice. -/
def repeatedSource : Text := "b = 'x'\na = True\nb = [[1, 'x'], [2.5]]\n".toList

/-- A folder with that straight line. -/
def repeatedFolder : Folder := ⟨[([['m']], Text.encodeUtf8 repeatedSource)]⟩

theorem surveys_agree_on_repeatedSource :
    ∃ (types : Bindings) (rows : List HintRow) (bound : Bindings),
      surveyScript repeatedFolder ['m'] = ([], .ok types) ∧
      hintsOfFile repeatedFolder ['m'] = ([], .ok rows) ∧
      bindingsOfFile repeatedFolder ['m'] = .ok (bound.map fun entry => (['m'], entry)) ∧
      (∃ hint, types.lookup ['b'] = some hint ∧
        IsLast (rows.map fun row => (row.subject, row.hint)) ['b'] hint) ∧
      types.map Prod.fst = bound.map Prod.fst ∧ bound.lookup ['b'] = some "list".toList := by
  have read : (repeatedFolder.readText ['m']).toOption = some repeatedSource := by decide +kernel
  have kinds : ((parseModule repeatedSource).toOption.bind assignments?).map
      (fun assignments => assignments.map fun assignment => (assignment.1, kindOf assignment.2)) =
        some [(['b'], "str".toList), (['a'], "bool".toList), (['b'], "list".toList)] := by
    decide +kernel
  obtain ⟨assignments, found, listed⟩ := Option.map_eq_some_iff.mp kinds
  obtain ⟨module_, parsed, straight⟩ := Option.bind_eq_some_iff.mp found
  obtain rfl := straightLine_of_assignments? straight
  have visible : ∀ assignment ∈ assignments, ¬ "__".toList <+: assignment.1 := by
    intro assignment member
    have known : (assignment.1, kindOf assignment.2) ∈ assignments.map fun assignment =>
        (assignment.1, kindOf assignment.2) := List.mem_map_of_mem member
    simp only [listed, List.mem_cons, Prod.mk.injEq, List.not_mem_nil, or_false] at known
    rcases known with ⟨same, -⟩ | ⟨same, -⟩ | ⟨same, -⟩ <;> rw [same] <;> decide
  obtain ⟨types, rows, bound, script, hints, bindings, agree, names, -, -, last⟩ :=
    surveys_agree_on_literals (eq_ok_of_toOption read) (eq_ok_of_toOption parsed) visible
  have ends : ∃ literal, IsLast assignments ['b'] literal ∧ kindOf literal = "list".toList := by
    obtain ⟨first, others, rfl, -, listed⟩ := List.map_eq_cons_iff.mp listed
    obtain ⟨second, others, rfl, -, listed⟩ := List.map_eq_cons_iff.mp listed
    obtain ⟨⟨name, literal⟩, others, rfl, shown, nothing⟩ := List.map_eq_cons_iff.mp listed
    obtain ⟨rfl, kind⟩ := Prod.mk.inj shown
    obtain rfl := List.map_eq_nil_iff.mp nothing
    exact ⟨literal, ⟨[first, second], [], rfl, by simp⟩, kind⟩
  obtain ⟨literal, final, kind⟩ := ends
  refine ⟨types, rows, bound, script, hints, bindings, ?_, names, ?_⟩
  · refine agree ['b'] ?_
    obtain ⟨earlier, later, rfl, -⟩ := final
    simp
  · rw [last ['b'] literal final, kind]

end TypeSurvey.Survey
