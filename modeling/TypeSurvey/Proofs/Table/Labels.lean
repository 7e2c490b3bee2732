import TypeSurvey.Proofs.Table.Arrangement

/-!
# Labels of rows

Labels go in front of the rows that are no separating lines. The separating lines are taken out
before, and put back one after the other. Each of them moves what stands behind it, but the next one
goes to a later place. So each is at its place again, and the other rows have the labels in their
order.
-/

namespace TypeSurvey.Table

section Insertion

variable {α : Type} {keep : α → Bool} {mark : α} (dropped : keep mark = false)

include dropped

/-- An item that is put in changes neither the others nor their order. -/
theorem filter_insertAt (position : Nat) (items : List α) :
    (insertAt mark position items).filter keep = items.filter keep := by
  fun_induction insertAt mark position items with
  | case1 items => exact List.filter_cons_of_neg (by simp [dropped])
  | case2 => exact List.filter_cons_of_neg (by simp [dropped])
  | case3 position first rest induction => rw [List.filter_cons, List.filter_cons, induction]

theorem filter_reinsertSeparators (positions : List Nat) (items : List α) :
    (reinsertSeparators mark positions items).filter keep = items.filter keep := by
  induction positions generalizing items with
  | nil => rfl
  | cons position positions induction =>
    exact (induction _).trans (filter_insertAt dropped position items)

end Insertion

/-- Rows with a label in front of each. -/
def labelled (labels : List Value) (rows : List (List Value)) : List Value :=
  (labels.zip rows).map fun entry => .list (entry.1 :: entry.2)

theorem labelRows_map_list {labels : List Value} {rows : List (List Value)}
    (enough : rows.length ≤ labels.length) :
    labelRows (rows.map .list) labels = .ok (labelled labels rows) := by
  induction rows generalizing labels with
  | nil => simp [labelRows, labelled]
  | cons row rows induction =>
    cases labels with
    | nil => cases enough
    | cons label labels =>
      have later := induction (Nat.le_of_succ_le_succ enough)
      simp only [List.map_cons, labelRows, later]
      rfl

/-- Separating lines stay at their places, and the other rows take the labels in their order. -/
theorem separators_stay {rows : List (List Value)} {labels : List Value}
    (same : labels.length = rows.length) :
    ∃ lines, prependLabels (.list (rows.map .list)) (.list labels) = .ok (.list lines) ∧
      List.Forall₂ (fun row line => line = .str separatorMark ↔ isSeparator row = true) rows lines ∧
      lines.filter (!isSeparatorCell ·) = labelled labels (keptRows rows) := by
  have enough : (keptRows rows).length ≤ labels.length := same ▸ List.length_filter_le _ rows
  have kept : (rows.map .list).filter (!isSeparatorRow ·) = (keptRows rows).map .list :=
    congrArg Prod.fst (removeSeparators_eq rows)
  refine ⟨reinsertSeparators (.str separatorMark) (separatorPlaces rows)
    (labelled labels (keptRows rows)), ?_, ?_, ?_⟩
  · have counted : (Value.list (rows.map .list)).length = .ok labels.length := by
      rw [same, ← List.length_map]
      rfl
    have known (items : List Value) : (Value.list items).length? = some items.length ∧
        (Value.list items).iterate = .ok items := ⟨rfl, rfl⟩
    simp only [prependLabels, known, counted, ok_bind, removeSeparators_eq,
      labelRows_map_list enough]
    simp
    rfl
  · have related : List.Forall₂ (fun _ line => line ≠ .str separatorMark)
        ((rows.map .list).filter (!isSeparatorRow ·)) (labelled labels (keptRows rows)) := by
      rw [kept, labelled, List.forall₂_map_left_iff, List.forall₂_map_right_iff,
        List.forall₂_iff_zip, List.length_zip, Nat.min_eq_right enough]
      exact ⟨rfl, by simp⟩
    have arranged := forall₂_reinsertSeparators (.str separatorMark) related
    rw [List.forall₂_map_left_iff] at arranged
    refine arranged.imp fun row line here => ?_
    change if isSeparator row = true then _ else _ at here
    split_ifs at here with separator
    · exact iff_of_true here separator
    · exact iff_of_false here separator
  · rw [filter_reinsertSeparators rfl]
    exact List.filter_eq_self.mpr (List.forall_mem_map.mpr fun _ _ => rfl)

/-- Rows of which all but the first and the third are separating lines. -/
def interruptedRows : List (List Value) :=
  [[.int 5], [.none, .str separatorMark], [], [.str separatorMark, .int 1], [.str separatorMark]]

def rowLabels : List Value := [.int 0, .int 1, .int 2, .int 3, .int 4]

theorem separators_stay_interruptedRows :
    rowLabels.length = interruptedRows.length ∧ ∃ lines,
      prependLabels (.list (interruptedRows.map .list)) (.list rowLabels) = .ok (.list lines) ∧
      lines.filter (!isSeparatorCell ·) = [.list [.int 0, .int 5], .list [.int 1]] := by
  have same : rowLabels.length = interruptedRows.length := rfl
  obtain ⟨lines, done, -, others⟩ := separators_stay same
  exact ⟨same, lines, done, others⟩

end TypeSurvey.Table
