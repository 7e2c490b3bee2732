import Mathlib.Data.List.Basic
import Mathlib.Data.List.Forall2
import Mathlib.Tactic.Choose

/-!
# Computations that may fail

Inversion of what was done one after the other, and of what was done for each item of a list.
-/

namespace TypeSurvey

variable {ε ε' α β : Type}

theorem ok_bind (value : α) (next : α → Except ε β) : (.ok value >>= next) = next value := rfl

theorem bind_eq_ok {first : Except ε α} {next : α → Except ε β} {result : β} :
    (first >>= next) = .ok result ↔ ∃ value, first = .ok value ∧ next value = .ok result := by
  cases first <;> simp [bind, Except.bind]

theorem mapError_eq_ok {computation : Except ε α} {change : ε → ε'} {value : α} :
    computation.mapError change = .ok value ↔ computation = .ok value := by
  cases computation <;> simp [Except.mapError]

theorem eq_ok_of_toOption {computation : Except ε α} {value : α}
    (found : computation.toOption = some value) : computation = .ok value := by
  cases computation with
  | error fault => nomatch found
  | ok result => rw [Option.some.inj found]

theorem exists_of_isOk {computation : Except ε α} (succeeds : computation.isOk = true) :
    ∃ value, computation = .ok value := by
  cases computation with
  | error fault => nomatch succeeds
  | ok value => exact ⟨value, rfl⟩

theorem map_eq_error {computation : Except ε α} {change : α → β} {fault : ε} :
    computation.map change = .error fault ↔ computation = .error fault := by
  cases computation <;> simp [Except.map]

theorem mapM_of_forall {items : List α} {compute : α → Except ε β} {value : α → β}
    (each : ∀ item ∈ items, compute item = .ok (value item)) :
    items.mapM compute = .ok (items.map value) := by
  induction items with
  | nil => rfl
  | cons item items induction =>
    rw [List.mapM_cons, each item List.mem_cons_self,
      induction fun other member => each other (List.mem_cons_of_mem _ member)]
    rfl

theorem mapM_eq_ok_iff {items : List α} {compute : α → Except ε β} {results : List β} :
    items.mapM compute = .ok results ↔
      List.Forall₂ (fun item result => compute item = .ok result) items results := by
  induction items generalizing results with
  | nil =>
    rw [List.mapM_nil, List.forall₂_nil_left_iff]
    exact ⟨fun done => (Except.ok.inj done).symm, fun empty => empty ▸ rfl⟩
  | cons item items induction =>
    simp only [List.mapM_cons, bind_eq_ok, induction, List.forall₂_cons_left_iff]
    constructor
    · rintro ⟨first, here, others, rest, done⟩
      exact ⟨first, others, here, rest, (Except.ok.inj done).symm⟩
    · rintro ⟨first, others, here, rest, rfl⟩
      exact ⟨first, here, others, rest, rfl⟩

theorem exists_mapM_iff {items : List α} {compute : α → Except ε β} :
    (∃ results, items.mapM compute = .ok results) ↔
      ∀ item ∈ items, ∃ result, compute item = .ok result := by
  simp only [mapM_eq_ok_iff]
  induction items with
  | nil => simp
  | cons item items induction =>
    rw [List.forall_mem_cons, ← induction]
    constructor
    · rintro ⟨results, related⟩
      obtain ⟨first, others, here, rest, -⟩ := List.forall₂_cons_left_iff.mp related
      exact ⟨⟨first, here⟩, others, rest⟩
    · rintro ⟨⟨first, here⟩, others, rest⟩
      exact ⟨_, .cons here rest⟩

theorem exists_of_mem_mapM {items : List α} {compute : α → Except ε β} {results : List β}
    (done : items.mapM compute = .ok results) {result : β} (member : result ∈ results) :
    ∃ item ∈ items, compute item = .ok result := by
  induction mapM_eq_ok_iff.mp done with
  | nil => nomatch member
  | cons here rest induction =>
    rcases List.mem_cons.mp member with rfl | later
    · exact ⟨_, List.mem_cons_self, here⟩
    · obtain ⟨item, inside, found⟩ := induction (mapM_eq_ok_iff.mpr rest) later
      exact ⟨item, List.mem_cons_of_mem _ inside, found⟩

/-- A computation fails for a list with the fault of the first item for which it fails. -/
theorem mapM_eq_error_iff {items : List α} {compute : α → Except ε β} {fault : ε} :
    items.mapM compute = .error fault ↔
      ∃ front item back, items = front ++ item :: back ∧
        (∀ other ∈ front, ∃ result, compute other = .ok result) ∧ compute item = .error fault := by
  induction items with
  | nil => simp [pure, Except.pure]
  | cons first items induction =>
    rw [List.mapM_cons]
    cases here : compute first with
    | error cause =>
      simp only [bind, Except.bind, Except.error.injEq]
      constructor
      · rintro rfl
        exact ⟨[], first, items, rfl, by simp, here⟩
      · rintro ⟨front, item, back, shape, before, failed⟩
        cases front with
        | nil =>
          obtain ⟨rfl, -⟩ := List.cons.inj shape
          exact Except.error.inj (here.symm.trans failed)
        | cons other front =>
          obtain ⟨rfl, -⟩ := List.cons.inj shape
          obtain ⟨result, done⟩ := before first List.mem_cons_self
          nomatch here.symm.trans done
    | ok value =>
      have rest : (do let others ← items.mapM compute; pure (value :: others)) =
          Except.error fault ↔ items.mapM compute = .error fault := by
        cases items.mapM compute <;> simp [bind, Except.bind, pure, Except.pure]
      rw [ok_bind, rest, induction]
      constructor
      · rintro ⟨front, item, back, rfl, before, failed⟩
        refine ⟨first :: front, item, back, rfl, ?_, failed⟩
        exact List.forall_mem_cons.mpr ⟨⟨value, here⟩, before⟩
      · rintro ⟨front, item, back, shape, before, failed⟩
        cases front with
        | nil =>
          obtain ⟨rfl, -⟩ := List.cons.inj shape
          nomatch here.symm.trans failed
        | cons other front =>
          obtain ⟨rfl, rfl⟩ := List.cons.inj shape
          exact ⟨front, item, back, rfl, (List.forall_mem_cons.mp before).2, failed⟩

/-! ## Filters -/

private theorem filterAuxM_of_forall {items kept : List α} {test : α → Except ε Bool}
    {keep : α → Bool} (each : ∀ item ∈ items, test item = .ok (keep item)) :
    items.filterAuxM test kept = .ok ((items.filter keep).reverse ++ kept) := by
  induction items generalizing kept with
  | nil => rfl
  | cons item items induction =>
    rw [List.filterAuxM, each item List.mem_cons_self]
    change items.filterAuxM test (cond (keep item) (item :: kept) kept) = _
    rw [induction fun other member => each other (List.mem_cons_of_mem _ member)]
    cases verdict : keep item <;> simp [verdict]

theorem filterM_of_forall {items : List α} {test : α → Except ε Bool} {keep : α → Bool}
    (each : ∀ item ∈ items, test item = .ok (keep item)) :
    items.filterM test = .ok (items.filter keep) := by
  rw [List.filterM, filterAuxM_of_forall each]
  simp [bind, Except.bind, pure, Except.pure]

private theorem test_of_filterAuxM {items kept result : List α} {test : α → Except ε Bool}
    (filtered : items.filterAuxM test kept = .ok result) :
    ∀ item ∈ items, ∃ verdict, test item = .ok verdict := by
  induction items generalizing kept with
  | nil => simp
  | cons item items induction =>
    rw [List.filterAuxM, bind_eq_ok] at filtered
    obtain ⟨verdict, tested, later⟩ := filtered
    intro other member
    rcases List.mem_cons.mp member with rfl | tail
    · exact ⟨verdict, tested⟩
    · exact induction later other tail

/-- If a list was filtered, the test succeeded for each of its items, and the result holds those
that passed. -/
theorem exists_of_filterM {items result : List α} {test : α → Except ε Bool}
    (filtered : items.filterM test = .ok result) :
    ∃ keep : α → Bool, result = items.filter keep ∧
      ∀ item ∈ items, test item = .ok (keep item) := by
  have tests : ∀ item ∈ items, ∃ verdict, test item = .ok verdict := by
    rw [List.filterM, bind_eq_ok] at filtered
    obtain ⟨kept, auxiliary, -⟩ := filtered
    exact test_of_filterAuxM auxiliary
  choose! keep each using tests
  refine ⟨keep, ?_, each⟩
  rw [filterM_of_forall each] at filtered
  exact (Except.ok.inj filtered).symm

end TypeSurvey
