import TypeSurvey.Proofs.Text.Named
import TypeSurvey.Script.Execute

/-!
# Scripts that assign literals

A literal is a constant, or a list of literals that is not empty. Evaluating it puts one thing into
the store for each list in it, the lists inside before the one around them. So the addresses are
known beforehand, and so is what a script of assignments of literals leaves in the store: all lists
in the order in which they were made, and the names in front of them.
-/

namespace TypeSurvey.Script

open Source

/-- A literal: a constant, or a list of at least one literal. -/
inductive Literal
  | bool (value : Bool)
  | int (value : Nat)
  | float (value : Binary64)
  | str (value : Text)
  | list (first : Literal) (rest : List Literal)

namespace Literal

mutual

def expr : Literal → Expr
  | bool value => .constant (.bool value)
  | int value => .constant (.int value)
  | float value => .constant (.float value)
  | str value => .constant (.str value)
  | list first rest => .list (first.expr :: exprs rest)

def exprs : List Literal → List Expr
  | [] => []
  | first :: rest => first.expr :: exprs rest

end

mutual

def value : Literal → Value
  | bool value => .bool value
  | int value => .int value
  | float value => .float value
  | str value => .str value
  | list first rest => .list (first.value :: values rest)

def values : List Literal → List Value
  | [] => []
  | first :: rest => first.value :: values rest

end

mutual

/-- The datum that a literal is evaluated to, and the things that are put into a store for it, from
an address on. -/
def layout (next : Nat) : Literal → Datum × List Thing
  | bool value => (.bool value, [])
  | int value => (.int value, [])
  | float value => (.float value, [])
  | str value => (.str value, [])
  | list first rest =>
    let head := first.layout next
    let tail := layouts (next + head.2.length) rest
    let inside := head.2 ++ tail.2
    (.ref (next + inside.length), inside ++ [.list (head.1 :: tail.1)])

/-- The data that literals are evaluated to, and the things that are put into a store for them. -/
def layouts (next : Nat) : List Literal → List Datum × List Thing
  | [] => ([], [])
  | first :: rest =>
    let head := first.layout next
    let tail := layouts (next + head.2.length) rest
    (head.1 :: tail.1, head.2 ++ tail.2)

end

theorem layout_list (next : Nat) (first : Literal) (rest : List Literal) :
    (list first rest).layout next =
      (.ref (next + (layouts next (first :: rest)).2.length),
        (layouts next (first :: rest)).2 ++ [.list (layouts next (first :: rest)).1]) :=
  rfl

end Literal

/-! ## Actions -/

/-- Whether an action in a state ends with a result, and in which state. -/
def Does {α : Type} (action : Action α) (before : Machine) (result : α) (after : Machine) : Prop :=
  action.run.run before = (.ok result, after)

theorem does_pure {α : Type} (result : α) (machine : Machine) :
    Does (pure result) machine result machine :=
  rfl

theorem Does.bind {α β : Type} {first : Action α} {next : α → Action β} {value : α} {result : β}
    {before between after : Machine} (one : Does first before value between)
    (other : Does (next value) between result after) :
    Does (first >>= next) before result after := by
  rw [Does, ExceptT.run_bind, StateT.run_bind, one]
  exact other

/-- A state with more things at the end of the store. -/
def Machine.extend (machine : Machine) (added : List Thing) : Machine :=
  { machine with things := machine.things ++ added }

theorem does_allocate (thing : Thing) (machine : Machine) :
    Does (allocate thing) machine (.ref machine.things.length) (machine.extend [thing]) :=
  rfl

theorem evaluate_constant (caller : Caller) (frame : Nat) (value : Constant) :
    evaluate caller frame (.constant value) = pure (ofConstant value) :=
  rfl

theorem evaluate_list (caller : Caller) (frame : Nat) (items : List Expr) :
    evaluate caller frame (.list items) =
      (evaluateItems caller frame items >>= fun data => allocate (.list data)) :=
  rfl

theorem evaluateItems_literal (caller : Caller) (frame : Nat) (first : Literal) (rest : List Expr) :
    evaluateItems caller frame (first.expr :: rest) =
      (evaluate caller frame first.expr >>= fun datum =>
        evaluateItems caller frame rest >>= fun data => pure (datum :: data)) := by
  cases first <;> rfl

/-! ## Evaluation -/

theorem Machine.extend_nil (machine : Machine) : machine.extend [] = machine := by
  rw [extend, List.append_nil]

theorem Machine.extend_extend (machine : Machine) (first second : List Thing) :
    (machine.extend first).extend second = machine.extend (first ++ second) := by
  rw [extend, extend, extend, List.append_assoc]

theorem Machine.length_extend (machine : Machine) (added : List Thing) :
    (machine.extend added).things.length = machine.things.length + added.length :=
  List.length_append

/-- Whether a literal is evaluated to its datum in every state, with its things put into the
store. -/
def Evaluates (caller : Caller) (frame : Nat) (literal : Literal) : Prop :=
  ∀ machine : Machine, Does (evaluate caller frame literal.expr) machine
    (literal.layout machine.things.length).1
    (machine.extend (literal.layout machine.things.length).2)

/-- Whether literals are evaluated one after the other to their data. -/
def EvaluatesAll (caller : Caller) (frame : Nat) (literals : List Literal) : Prop :=
  ∀ machine : Machine, Does (evaluateItems caller frame (Literal.exprs literals)) machine
    (Literal.layouts machine.things.length literals).1
    (machine.extend (Literal.layouts machine.things.length literals).2)

section Evaluation

variable {caller : Caller} {frame : Nat} {first : Literal} {rest : List Literal}

theorem EvaluatesAll.cons (head : Evaluates caller frame first)
    (tail : EvaluatesAll caller frame rest) : EvaluatesAll caller frame (first :: rest) := by
  intro machine
  have later := tail (machine.extend (first.layout machine.things.length).2)
  rw [Machine.length_extend, Machine.extend_extend] at later
  rw [Literal.exprs, evaluateItems_literal]
  exact (head machine).bind (later.bind (does_pure _ _))

theorem evaluates_list (inside : EvaluatesAll caller frame (first :: rest)) :
    Evaluates caller frame (.list first rest) := by
  intro machine
  have made := does_allocate (.list (Literal.layouts machine.things.length (first :: rest)).1)
    (machine.extend (Literal.layouts machine.things.length (first :: rest)).2)
  rw [Machine.length_extend, Machine.extend_extend] at made
  rw [Literal.expr, evaluate_list, Literal.layout_list]
  exact (inside machine).bind made

end Evaluation

mutual

theorem evaluates (caller : Caller) (frame : Nat) (literal : Literal) :
    Evaluates caller frame literal := by
  cases literal with
  | list first rest =>
    exact evaluates_list (.cons (evaluates caller frame first) (evaluatesAll caller frame rest))
  | _ =>
    intro machine
    rw [Literal.expr, evaluate_constant, Literal.layout, Machine.extend_nil]
    exact does_pure _ machine
termination_by structural literal

theorem evaluatesAll (caller : Caller) (frame : Nat) (literals : List Literal) :
    EvaluatesAll caller frame literals := by
  cases literals with
  | nil =>
    intro machine
    rw [Literal.layouts, Machine.extend_nil]
    exact does_pure [] machine
  | cons first rest =>
    exact .cons (evaluates caller frame first) (evaluatesAll caller frame rest)
termination_by structural literals

end

/-! ## Values -/

namespace Literal

/-- Whether a literal is found again in every store that holds its things at their addresses, if one
looks as deep as they reach. -/
def IsFound (literal : Literal) : Prop :=
  ∀ (machine : Machine) (before after : List Thing) (depth : Nat),
    machine.things = before ++ (literal.layout before.length).2 ++ after →
    before.length + (literal.layout before.length).2.length ≤ depth →
    machine.resolveTo depth (literal.layout before.length).1 = literal.value

/-- Whether literals are found again. -/
def AreFound (literals : List Literal) : Prop :=
  ∀ (machine : Machine) (before after : List Thing) (depth : Nat),
    machine.things = before ++ (layouts before.length literals).2 ++ after →
    before.length + (layouts before.length literals).2.length ≤ depth →
    (layouts before.length literals).1.map (machine.resolveTo depth) = values literals

theorem AreFound.cons {first : Literal} {rest : List Literal} (head : first.IsFound)
    (tail : AreFound rest) : AreFound (first :: rest) := by
  intro machine before after depth store deep
  have inside : (layouts before.length (first :: rest)).2 = (first.layout before.length).2 ++
      (layouts (before.length + (first.layout before.length).2.length) rest).2 := rfl
  rw [inside] at store deep
  rw [List.length_append] at deep
  have one := head machine before
    ((layouts (before.length + (first.layout before.length).2.length) rest).2 ++ after) depth
    (by simp only [store, List.append_assoc]) (by omega)
  have others := tail machine (before ++ (first.layout before.length).2) after depth
  rw [List.length_append] at others
  rw [layouts, List.map_cons, one, others (by simp only [store, List.append_assoc]) (by omega),
    values]

theorem resolveTo_list {machine : Machine} {address : Nat} {items : List Datum}
    (found : machine.thing? address = some (.list items)) (depth : Nat) :
    machine.resolveTo (depth + 1) (.ref address) = .list (items.map (machine.resolveTo depth)) := by
  rw [Machine.resolveTo, found]

theorem isFound_list {first : Literal} {rest : List Literal} (inside : AreFound (first :: rest)) :
    (list first rest).IsFound := by
  intro machine before after depth store deep
  rw [layout_list] at store deep ⊢
  simp only [List.length_append, List.length_cons, List.length_nil] at deep
  obtain ⟨depth, rfl⟩ : ∃ smaller, depth = smaller + 1 := ⟨depth - 1, by omega⟩
  have found : machine.thing? (before.length + (layouts before.length (first :: rest)).2.length) =
      some (.list (layouts before.length (first :: rest)).1) := by
    rw [Machine.thing?, store]
    simp
  have items := inside machine before
    ([.list (layouts before.length (first :: rest)).1] ++ after) depth
    (by simp only [store, List.append_assoc]) (by omega)
  rw [resolveTo_list found, items]
  rfl

mutual

theorem isFound (literal : Literal) : literal.IsFound := by
  cases literal with
  | list first rest => exact isFound_list (.cons (isFound first) (areFound rest))
  | _ =>
    intro machine before after depth _ _
    cases depth <;> rfl
termination_by structural literal

theorem areFound (literals : List Literal) : AreFound literals := by
  cases literals with
  | nil => exact fun _ _ _ _ _ _ => rfl
  | cons first rest => exact .cons (isFound first) (areFound rest)
termination_by structural literals

end

end Literal

/-! ## Straight lines -/

/-- The module that assigns literals to names one after the other. -/
def straightLine (assignments : List (Text × Literal)) : Module :=
  assignments.map fun assignment => .assign [.name assignment.1] assignment.2.expr

namespace Literal

def ofConstant? : Constant → Option Literal
  | .bool value => some (bool value)
  | .int value => some (int value)
  | .float value => some (float value)
  | .str value => some (str value)
  | _ => none

/-- The list of literals, if there are any. -/
def ofItems? : List Literal → Option Literal
  | [] => none
  | first :: rest => some (list first rest)

mutual

def ofExpr? : Expr → Option Literal
  | .constant value => ofConstant? value
  | .list items => (ofExprs? items).bind ofItems?
  | _ => none

def ofExprs? : List Expr → Option (List Literal)
  | [] => some []
  | first :: rest => (ofExpr? first).bind fun head => (ofExprs? rest).map (head :: ·)

end

end Literal

/-- The name and the literal of a statement that assigns one. -/
def assignment? : Stmt → Option (Text × Literal)
  | .assign [.name name] value => (Literal.ofExpr? value).map (name, ·)
  | _ => none

/-- The assignments of a module that is a straight line. -/
def assignments? : Module → Option (List (Text × Literal))
  | [] => some []
  | first :: rest => (assignment? first).bind fun head => (assignments? rest).map (head :: ·)

namespace Literal

theorem expr_of_ofConstant? {value : Constant} {literal : Literal}
    (found : ofConstant? value = some literal) : literal.expr = .constant value := by
  cases value <;> simp only [ofConstant?, Option.some.injEq, reduceCtorEq] at found <;>
    rw [← found] <;> rfl

theorem expr_of_ofItems? {items : List Literal} {literal : Literal}
    (found : ofItems? items = some literal) : literal.expr = .list (exprs items) := by
  cases items with
  | nil => nomatch found
  | cons first rest =>
    obtain rfl := Option.some.inj found
    rfl

mutual

/-- An expression of which a literal is found is the expression of that literal. -/
theorem expr_of_ofExpr? {expression : Expr} {literal : Literal}
    (found : ofExpr? expression = some literal) : literal.expr = expression := by
  cases expression with
  | constant value => exact expr_of_ofConstant? found
  | list items =>
    obtain ⟨literals, inside, made⟩ := Option.bind_eq_some_iff.mp found
    rw [expr_of_ofItems? made, exprs_of_ofExprs? inside]
  | _ => nomatch found
termination_by structural expression

theorem exprs_of_ofExprs? {expressions : List Expr} {literals : List Literal}
    (found : ofExprs? expressions = some literals) : exprs literals = expressions := by
  cases expressions with
  | nil =>
    obtain rfl := Option.some.inj found
    rfl
  | cons first rest =>
    obtain ⟨head, one, others⟩ := Option.bind_eq_some_iff.mp found
    obtain ⟨tail, later, rfl⟩ := Option.map_eq_some_iff.mp others
    rw [exprs, expr_of_ofExpr? one, exprs_of_ofExprs? later]
termination_by structural expressions

end

end Literal

theorem eq_assign_of_assignment? {statement : Stmt} {assignment : Text × Literal}
    (found : assignment? statement = some assignment) :
    statement = .assign [.name assignment.1] assignment.2.expr := by
  unfold assignment? at found
  split at found
  · obtain ⟨literal, shown, rfl⟩ := Option.map_eq_some_iff.mp found
    rw [Literal.expr_of_ofExpr? shown]
  · simp at found

/-- A module of which assignments are found is the straight line of them. -/
theorem straightLine_of_assignments? {module_ : Module} {assignments : List (Text × Literal)}
    (found : assignments? module_ = some assignments) : straightLine assignments = module_ := by
  induction module_ generalizing assignments with
  | nil =>
    obtain rfl := Option.some.inj found
    rfl
  | cons statement module_ induction =>
    obtain ⟨assignment, one, others⟩ := Option.bind_eq_some_iff.mp found
    obtain ⟨later, rest, rfl⟩ := Option.map_eq_some_iff.mp others
    rw [eq_assign_of_assignment? one, ← induction rest]
    rfl

/-! ## Runs -/

/-- A state of a script that has printed nothing: its names, and the other things in the store. -/
def Machine.ofNames (names : Names) (things : List Thing) : Machine :=
  ⟨.frame ⟨.script, names, [], [], [], 0, []⟩ :: things, [], []⟩

theorem does_bindName (name : Text) (datum : Datum) (names : Names) (things : List Thing) :
    Does (bindName 0 name datum) (.ofNames names things) ()
      (.ofNames (putNamed name datum names) things) := rfl

/-- An assignment puts the things of its literal into the store and binds its name. -/
theorem does_execute (caller : Caller) (name : Text) (literal : Literal) (names : Names)
    (things : List Thing) :
    Does (execute caller 0 (.assign [.name name] literal.expr)) (.ofNames names things) .next
      (.ofNames (putNamed name (literal.layout (things.length + 1)).1 names)
        (things ++ (literal.layout (things.length + 1)).2)) := by
  have evaluated := evaluates caller 0 literal (.ofNames names things)
  have bound := does_bindName name (literal.layout (things.length + 1)).1 names
    (things ++ (literal.layout (things.length + 1)).2)
  have looped : Does (forIn [Expr.name name] PUnit.unit fun target _ => do
      assignTarget caller 0 target (literal.layout (things.length + 1)).1
      pure (.yield PUnit.unit)) (.ofNames names (things ++ (literal.layout (things.length + 1)).2))
        PUnit.unit (.ofNames (putNamed name (literal.layout (things.length + 1)).1 names)
          (things ++ (literal.layout (things.length + 1)).2)) :=
    (bound.bind (does_pure _ _)).bind (does_pure _ _)
  exact evaluated.bind (looped.bind (does_pure _ _))

/-- A straight line binds its names to the data of its literals, in turn. -/
theorem does_executeAll (caller : Caller) (assignments : List (Text × Literal)) (names : Names)
    (things : List Thing) :
    Does (executeAll caller 0 (straightLine assignments)) (.ofNames names things) .next
      (.ofNames
        (putAll ((assignments.map Prod.fst).zip
          (Literal.layouts (things.length + 1) (assignments.map Prod.snd)).1) names)
        (things ++ (Literal.layouts (things.length + 1) (assignments.map Prod.snd)).2)) := by
  induction assignments generalizing names things with
  | nil =>
    simp only [List.map_nil, List.zip_nil_left, Literal.layouts, List.append_nil, putAll_nil]
    exact does_pure Flow.next _
  | cons assignment assignments induction =>
    obtain ⟨name, literal⟩ := assignment
    have first := does_execute caller name literal names things
    have later := induction (putNamed name (literal.layout (things.length + 1)).1 names)
      (things ++ (literal.layout (things.length + 1)).2)
    rw [List.length_append, Nat.add_right_comm, List.append_assoc] at later
    exact first.bind later

/-- A straight line runs to its end, and leaves its names and the things of its literals. -/
theorem runScript_straightLine (assignments : List (Text × Literal)) :
    runScript (straightLine assignments) =
      (.ok .next, .ofNames
        (putAll ((assignments.map Prod.fst).zip
          (Literal.layouts 1 (assignments.map Prod.snd)).1) [])
        (Literal.layouts 1 (assignments.map Prod.snd)).2) :=
  does_executeAll (callTo maxDepth) assignments [] []

theorem Literal.values_eq_map (literals : List Literal) :
    Literal.values literals = literals.map Literal.value := by
  induction literals with
  | nil => rfl
  | cons first rest induction => rw [Literal.values, induction, List.map_cons]

/-- At the end of a straight line the data of its literals stand for the values of the literals. -/
theorem map_resolve_layouts (literals : List Literal) (names : Names) :
    (Literal.layouts 1 literals).1.map
        (Machine.ofNames names (Literal.layouts 1 literals).2).resolve =
      literals.map Literal.value := by
  have found := Literal.areFound literals (.ofNames names (Literal.layouts 1 literals).2)
    [.frame ⟨.script, names, [], [], [], 0, []⟩] [] ((Literal.layouts 1 literals).2.length + 2)
    (by simp [Machine.ofNames]) (by simp; omega)
  rw [← Literal.values_eq_map]
  exact found

end TypeSurvey.Script
