import TypeSurvey.Text.Order
import Mathlib.Data.Char
import Mathlib.Data.List.Lex
import Mathlib.Data.List.Sort

/-!
# Sets of texts

Texts are in lexicographic order. The members of a list in this order, each once, show which texts
are in the list and nothing else.
-/

namespace TypeSurvey.Text

/-- The order of texts is the lexicographic one. -/
theorem before_iff_lt {left right : Text} : before left right = true ↔ left < right := by
  induction left generalizing right with
  | nil => cases right <;> simp [before]
  | cons first rest induction =>
    cases right with
    | nil => simp [before]
    | cons other others =>
      rw [before, List.cons_lt_cons_iff]
      by_cases same : first = other
      · simp [same, induction]
      · rw [if_neg same, decide_eq_true_iff]
        simp only [same, false_and, or_false]
        exact Iff.rfl

theorem pairwise_insertOnce {text : Text} {texts : List Text} (sorted : texts.Pairwise (· < ·)) :
    (insertOnce text texts).Pairwise (· < ·) := by
  induction sorted with
  | nil => exact List.pairwise_singleton _ _
  | @cons first rest least sorted induction =>
    rw [insertOnce]
    split_ifs with same early
    · exact .cons least sorted
    · have first_least : text < first := before_iff_lt.mp early
      refine .cons (List.forall_mem_cons.mpr ⟨first_least, ?_⟩) (.cons least sorted)
      exact fun other member => first_least.trans (least other member)
    · refine .cons (fun other member => ?_) induction
      rcases mem_insertOnce.mp member with rfl | later
      · rw [before_iff_lt] at early
        exact lt_of_le_of_ne (not_lt.mp early) (Ne.symm same)
      · exact least other later

theorem pairwise_sortedOnce (texts : List Text) : (sortedOnce texts).Pairwise (· < ·) := by
  induction texts with
  | nil => exact .nil
  | cons first rest induction => exact pairwise_insertOnce induction

/-- Lists with the same members have them in the same order. -/
theorem sortedOnce_eq_iff {left right : List Text} :
    sortedOnce left = sortedOnce right ↔ ∀ text, text ∈ left ↔ text ∈ right := by
  constructor
  · intro same text
    rw [← mem_sortedOnce, same, mem_sortedOnce]
  · intro same
    apply (pairwise_sortedOnce left).eq_of_mem_iff (pairwise_sortedOnce right)
    intro text
    rw [mem_sortedOnce, mem_sortedOnce, same]

/-! ## One set after another -/

/-- Where two lists in order overlap, they are in order together. -/
theorem eq_or_pairwise_of_overlap {front back longer longer' middle : List Text}
    (front_longer : longer = front ++ middle) (back_longer : longer' = middle ++ back)
    (sorted : longer.Pairwise (· < ·)) (sorted' : longer'.Pairwise (· < ·)) :
    (front = longer ∧ longer' = back) ∨ (front ++ longer').Pairwise (· < ·) := by
  subst front_longer back_longer
  rcases eq_or_ne middle [] with rfl | nonempty
  · exact .inl ⟨(List.append_nil front).symm, rfl⟩
  · right
    obtain ⟨between, inside⟩ := List.exists_mem_of_ne_nil middle nonempty
    rw [List.pairwise_append] at sorted
    refine List.pairwise_append.mpr ⟨sorted.1, sorted', fun first before last after => ?_⟩
    rcases List.mem_append.mp after with here | behind
    · exact sorted.2.2 first before last here
    · exact (sorted.2.2 first before between inside).trans
        ((List.pairwise_append.mp sorted').2.2 between inside last behind)

/-- Two sets that are written one after the other, each in order, can be told apart unless the first
comes before the second as a whole; then it can be seen only which texts are in one of them. -/
theorem sortedOnce_append_eq_iff {first second first' second' : List Text} :
    sortedOnce first ++ sortedOnce second = sortedOnce first' ++ sortedOnce second' ↔
      ((∀ text, text ∈ first ↔ text ∈ first') ∧ ∀ text, text ∈ second ↔ text ∈ second') ∨
      (∀ text ∈ first, ∀ other ∈ second, text < other) ∧
        (∀ text ∈ first', ∀ other ∈ second', text < other) ∧
        ∀ text, text ∈ first ∨ text ∈ second ↔ text ∈ first' ∨ text ∈ second' := by
  have inOrder (first second : List Text) :
      (sortedOnce first ++ sortedOnce second).Pairwise (· < ·) ↔
        ∀ text ∈ first, ∀ other ∈ second, text < other := by
    simp only [List.pairwise_append, pairwise_sortedOnce, true_and, mem_sortedOnce]
  have members (first second : List Text) (text : Text) :
      text ∈ sortedOnce first ++ sortedOnce second ↔ text ∈ first ∨ text ∈ second := by
    rw [List.mem_append, mem_sortedOnce, mem_sortedOnce]
  rw [← sortedOnce_eq_iff, ← sortedOnce_eq_iff, ← inOrder, ← inOrder]
  simp only [← members]
  constructor
  · intro same
    have parted : (sortedOnce first = sortedOnce first' ∧ sortedOnce second = sortedOnce second') ∨
        (sortedOnce first ++ sortedOnce second).Pairwise (· < ·) := by
      rcases List.append_eq_append_iff.mp same with
        ⟨middle, longer, longer'⟩ | ⟨middle, longer, longer'⟩
      · exact eq_or_pairwise_of_overlap longer longer' (pairwise_sortedOnce _)
          (pairwise_sortedOnce _)
      · rw [same]
        exact (eq_or_pairwise_of_overlap longer longer' (pairwise_sortedOnce _)
          (pairwise_sortedOnce _)).imp_left fun equal => ⟨equal.1.symm, equal.2.symm⟩
    refine parted.imp_right fun sorted => ⟨sorted, same ▸ sorted, fun text => by rw [same]⟩
  · rintro (⟨firsts, seconds⟩ | ⟨sorted, sorted', alike⟩)
    · rw [firsts, seconds]
    · exact sorted.eq_of_mem_iff sorted' alike

end TypeSurvey.Text
