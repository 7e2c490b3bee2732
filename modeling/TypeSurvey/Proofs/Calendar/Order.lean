import TypeSurvey.Calendar.Date

/-!
# The order of dates

Dates are ordered by the year, the month and the day, so that items can be sorted by them.
-/

namespace TypeSurvey.Calendar.Date

theorem le_iff {left right : Date} :
    left.le right = true ↔ left.year < right.year ∨ left.year = right.year ∧
      (left.month < right.month ∨ left.month = right.month ∧ left.day ≤ right.day) := by
  simp [le]

theorem le_trans {first second third : Date} (lower : first.le second = true)
    (upper : second.le third = true) : first.le third = true := by
  rw [le_iff] at lower upper ⊢
  omega

theorem le_antisymm {left right : Date} (lower : left.le right = true)
    (upper : right.le left = true) : left = right := by
  rw [le_iff] at lower upper
  have year : left.year = right.year := by omega
  have month : left.month = right.month := by omega
  have day : left.day = right.day := by omega
  cases left
  cases right
  rw [mk.injEq]
  exact ⟨year, month, day⟩

theorem le_refl (date : Date) : date.le date = true :=
  le_iff.mpr (.inr ⟨rfl, .inr ⟨rfl, Nat.le_refl date.day⟩⟩)

theorem le_total (left right : Date) : (left.le right || right.le left) = true := by
  rw [Bool.or_eq_true, le_iff, le_iff]
  omega

end TypeSurvey.Calendar.Date
