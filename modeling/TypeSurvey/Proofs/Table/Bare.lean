import TypeSurvey.Proofs.Table.Sheets

/-!
# Tables without headers

Rows can be rendered alone, in the style of a name. Those that are no separating lines are wrapped
if a width is given. Then each column is written in the format of its kind and aligned by its kind.
-/

namespace TypeSurvey.Table

/-- How rows alone are rendered in the style of a name, given whether texts are not read as numbers,
and what cells are wrapped to. -/
def bareOptions (name : String) (keeps : Bool) (widths : Value) : Options :=
  { namedOptions (.tuple []) name with keepsTexts := .bool keeps, columnWidths := widths }

section Bare

variable {name : String} {keeps : Bool} {widths : Value} {rows : List (List Value)}

theorem normalize_bare (nonempty : rows ≠ []) :
    normalize (.list (rows.map .list)) (.tuple []) (.ofString "default") =
      .ok (rows.map .list, []) := by
  obtain ⟨first, rest, rfl⟩ := List.exists_cons_of_ne_nil nonempty
  rw [normalize_list rfl rfl rfl (mapM_keep_rows _), addLabels_default]
  rfl

theorem mapM_iterate_list (rows : List (List Value)) :
    (rows.map Value.list).mapM Value.iterate = .ok rows :=
  mapM_eq_ok_iff.mpr (List.forall₂_map_left_iff.mpr (List.forall₂_same.mpr fun _ _ => rfl))

/-- Without a width nothing is wrapped. -/
theorem ofData_bare (plainName : name ≠ "rst") (nonempty : rows ≠ []) :
    Sheet.ofData (bareOptions name keeps .none) (.list (rows.map .list)) =
      .ok ⟨[], keptRows rows, separatorPlaces rows⟩ := by
  have same : Sheet.ofData (bareOptions name keeps .none) (.list (rows.map .list)) =
      Sheet.ofData (namedOptions (.tuple []) name) (.list (rows.map .list)) := rfl
  have iterated : (removeSeparators (rows.map Value.list)).1.mapM Value.iterate =
      .ok (keptRows rows) := by
    rw [removeSeparators_eq]
    exact mapM_iterate_list (keptRows rows)
  rw [same, ofData_of_normalize (by simp) (normalize_bare nonempty) iterated, if_neg plainName]
  rfl

theorem layOut_bare {data : Value} {sheet : Sheet} (plainName : name ≠ "pretty")
    (given : Sheet.ofData (bareOptions name keeps widths) data = .ok sheet)
    (bare : sheet.headers = []) :
    let measure := sheet.measure (.named (.ofString name))
    layOut (bareOptions name keeps widths) data = do
      let written ← formatColumns (namedOptions (.tuple []) name) (.bool keeps)
        measure.ignoresStyle (transpose sheet.rows)
      let alignments := written.2.map (columnAlignment false)
      let least := List.replicate written.1.length 0
      let aligned ← alignColumns measure alignments least written.1
      return sheet.layout measure .left alignments least aligned
        (List.replicate (rowsOf aligned).length .none) := by
  intro measure
  have other : decide (name = "pretty") = false := decide_eq_false plainName
  have named : (bareOptions name keeps widths).isNamed "pretty" = false :=
    (isNamed_namedOptions (.tuple []) name "pretty").trans other
  have checked : (bareOptions name keeps widths).style.check = .ok () := rfl
  have aligned (kinds : List CellKind) : (bareOptions name keeps widths).alignments kinds =
      .ok (kinds.map (columnAlignment false)) :=
    (alignments_namedOptions (.tuple []) name kinds).trans (by rw [other])
  have standing : Alignment.ofValue (bareOptions name keeps widths).standingText = .left :=
    (ofValue_standing (.tuple []) name .text).trans (by rw [other]; rfl)
  have verticals (count : Nat) : (bareOptions name keeps widths).verticals count =
      .ok (List.replicate count .none) := rfl
  have least (count : Nat) : sheet.leastWidths measure false count = List.replicate count 0 := by
    simp [Sheet.leastWidths, bare]
  rw [layOut, given, ok_bind, checked, ok_bind]
  simp only [named, Bool.false_eq_true, if_false, aligned, verticals, ok_bind, standing]
  simp only [← least]
  rfl

end Bare

end TypeSurvey.Table
