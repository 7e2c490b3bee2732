import Mathlib.Data.List.Basic
import Mathlib.Data.List.TakeWhile

/-!
# Sorting

A sort that keeps the order of equal items puts each item in front of the first one that is not
before it. So it can leave items out before or after it sorts, and a sort by numbers collects the
items of each number in turn.
-/

namespace TypeSurvey

section Order

variable {α : Type} {before : α → α → Bool}

/-- Where a list passes from items with a property to items without it, it splits in one way
only. -/
theorem span_eq_of_append {test : α → Bool} {front back : List α}
    (holds : ∀ item ∈ front, test item = true) (fails : ∀ item ∈ back, test item = false) :
    (front ++ back).takeWhile test = front ∧ (front ++ back).dropWhile test = back := by
  have stops : back.takeWhile test = [] ∧ back.dropWhile test = back := by
    cases back with
    | nil => exact ⟨rfl, rfl⟩
    | cons item back => simp [fails item List.mem_cons_self]
  rw [List.takeWhile_append_of_pos holds, List.dropWhile_append_of_pos holds, stops.1, stops.2,
    List.append_nil]
  exact ⟨rfl, rfl⟩

variable
  (trans : ∀ first second third, before first second → before second third → before first third)
  (total : ∀ left right, before left right || before right left)

include trans total

/-- The first item of a list is sorted in between the others that are before it and those that are
not. -/
theorem exists_mergeSort_cons (item : α) (items : List α) :
    ∃ front back, (item :: items).mergeSort before = front ++ item :: back ∧
      items.mergeSort before = front ++ back ∧
      (∀ other ∈ front, (!before item other) = true) ∧
      ∀ other ∈ back, (!before item other) = false := by
  obtain ⟨front, back, sorted, rest, earlier⟩ := List.mergeSort_cons trans total item items
  refine ⟨front, back, sorted, rest, earlier, fun other member => ?_⟩
  have order := List.pairwise_mergeSort trans total (item :: items)
  rw [sorted, List.pairwise_append, List.pairwise_cons] at order
  rw [order.2.1.1 other member]
  rfl

/-- Items that are sorted stand in order, and equal ones as they stood before. -/
theorem pairwise_mergeSort_stable {earlier : α → α → Prop} {items : List α}
    (order : items.Pairwise earlier) :
    (items.mergeSort before).Pairwise fun left right =>
      before left right = true ∧ (before right left = true → earlier left right) := by
  induction items with
  | nil => simp
  | cons item items induction =>
    obtain ⟨first, others⟩ := List.pairwise_cons.mp order
    obtain ⟨front, back, placed, rest, ahead, -⟩ := exists_mergeSort_cons trans total item items
    have sorted := List.pairwise_mergeSort trans total (item :: items)
    have later := induction others
    rw [rest, List.pairwise_append] at later
    rw [placed, List.pairwise_append, List.pairwise_cons] at sorted ⊢
    obtain ⟨inFront, inBack, across⟩ := later
    refine ⟨inFront, ⟨fun other member => ⟨sorted.2.1.1 other member, fun _ => ?_⟩, inBack⟩, ?_⟩
    · have known : other ∈ items.mergeSort before := by
        rw [rest]
        exact List.mem_append_right front member
      exact first other (List.mem_mergeSort.mp known)
    · intro left member right behind
      rcases List.mem_cons.mp behind with rfl | behind
      · refine ⟨sorted.2.2 left member right List.mem_cons_self, fun equal => ?_⟩
        -- An item that is placed in front is strictly before the first one.
        have strict := ahead left member
        simp [equal] at strict
      · exact across left member right behind

/-- Items can be left out before or after a list is sorted. -/
theorem filter_mergeSort (keep : α → Bool) (items : List α) :
    (items.mergeSort before).filter keep = (items.filter keep).mergeSort before := by
  induction items with
  | nil => simp
  | cons item items induction =>
    obtain ⟨front, back, sorted, rest, earlier, later⟩ :=
      exists_mergeSort_cons trans total item items
    rw [rest, List.filter_append] at induction
    rw [sorted, List.filter_append]
    by_cases kept : keep item = true
    · obtain ⟨front', back', sorted', rest', earlier', later'⟩ :=
        exists_mergeSort_cons trans total item (items.filter keep)
      -- Both lists split where the items that are before the first one end.
      have split := span_eq_of_append
        (fun other (member : other ∈ front.filter keep) =>
          earlier other (List.mem_filter.mp member).1)
        (fun other (member : other ∈ back.filter keep) =>
          later other (List.mem_filter.mp member).1)
      have split' := span_eq_of_append earlier' later'
      rw [← rest', ← induction, split.1, split.2] at split'
      rw [List.filter_cons_of_pos kept, List.filter_cons_of_pos kept, sorted', split'.1, split'.2]
    · rw [List.filter_cons_of_neg kept, List.filter_cons_of_neg kept]
      exact induction

end Order

/-! ## Numbers -/

section Numbers

variable {α : Type}

/-- The items of numbers, number by number. -/
def collect (numbers : List Nat) (items : List (Nat × α)) : List (Nat × α) :=
  numbers.flatMap fun number => items.filter fun item => item.1 == number

theorem collect_append (left right : List Nat) (items : List (Nat × α)) :
    collect (left ++ right) items = collect left items ++ collect right items :=
  List.flatMap_append

theorem number_mem_of_mem_collect {numbers : List Nat} {items : List (Nat × α)} {item : Nat × α}
    (member : item ∈ collect numbers items) : item.1 ∈ numbers := by
  obtain ⟨number, known, found⟩ := List.mem_flatMap.mp member
  rwa [beq_iff_eq.mp (List.mem_filter.mp found).2]

theorem collect_cons_of_notMem {numbers : List Nat} {item : Nat × α} (absent : item.1 ∉ numbers)
    (items : List (Nat × α)) : collect numbers (item :: items) = collect numbers items := by
  refine List.flatMap_congr fun number member => List.filter_cons_of_neg ?_
  rw [beq_iff_eq]
  rintro rfl
  exact absent member

theorem collect_cons_self {item : Nat × α} {numbers : List Nat} (absent : item.1 ∉ numbers)
    (items : List (Nat × α)) :
    collect (item.1 :: numbers) (item :: items) = item :: collect (item.1 :: numbers) items := by
  have others : collect numbers (item :: items) = collect numbers items :=
    collect_cons_of_notMem absent items
  have own : (item :: items).filter (fun other => other.1 == item.1) =
      item :: items.filter fun other => other.1 == item.1 :=
    List.filter_cons_of_pos (by simp)
  unfold collect at others ⊢
  rw [List.flatMap_cons, List.flatMap_cons, others, own, List.cons_append]

/-- A sort by numbers collects the items of each number in turn. -/
theorem mergeSort_eq_collect {items : List (Nat × α)} {bound : Nat}
    (below : ∀ item ∈ items, item.1 < bound) :
    items.mergeSort (fun left right => left.1 ≤ right.1) = collect (List.range bound) items := by
  have trans (first second third : Nat × α) (lower : decide (first.1 ≤ second.1) = true)
      (upper : decide (second.1 ≤ third.1) = true) : decide (first.1 ≤ third.1) = true := by
    simp only [decide_eq_true_eq] at lower upper ⊢
    exact lower.trans upper
  have total (left right : Nat × α) :
      (decide (left.1 ≤ right.1) || decide (right.1 ≤ left.1)) = true := by
    simpa using Nat.le_total left.1 right.1
  induction items with
  | nil => simp [collect]
  | cons item items induction =>
    obtain ⟨here, others⟩ := List.forall_mem_cons.mp below
    obtain ⟨front, back, sorted, rest, earlier, later⟩ :=
      exists_mergeSort_cons trans total item items
    -- The numbers up to the bound are those below that of the first item, and those from it on.
    obtain ⟨lower, upper, split⟩ := List.append_of_mem (List.mem_range.mpr here)
    have order : (List.range bound).Pairwise (· < ·) := List.pairwise_lt_range
    rw [split, List.pairwise_append, List.pairwise_cons] at order
    obtain ⟨-, ⟨above, -⟩, across⟩ := order
    have less : ∀ number ∈ lower, number < item.1 :=
      fun number member => across number member item.1 List.mem_cons_self
    have first : ∀ other ∈ collect lower items, (!decide (item.1 ≤ other.1)) = true := by
      intro other member
      simpa using less other.1 (number_mem_of_mem_collect member)
    have second : ∀ other ∈ collect (item.1 :: upper) items,
        (!decide (item.1 ≤ other.1)) = false := by
      intro other member
      rcases List.mem_cons.mp (number_mem_of_mem_collect member) with same | greater
      · simp [same]
      · simpa using (above other.1 greater).le
    have places := span_eq_of_append earlier later
    rw [← rest, induction others, split, collect_append, (span_eq_of_append first second).1,
      (span_eq_of_append first second).2] at places
    rw [sorted, split, collect_append, collect_cons_of_notMem fun member =>
      Nat.lt_irrefl _ (less item.1 member), collect_cons_self fun member =>
      Nat.lt_irrefl _ (above item.1 member), places.1, places.2]

end Numbers

end TypeSurvey
