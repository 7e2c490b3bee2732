import TypeSurvey.Proofs.Table.Grid
import TypeSurvey.Proofs.Value.Keyed

/-!
# Forms of tabular data

The same table can be given by its columns under their names, by a dictionary for each row, by rows
with the names in front of them, or by rows and names apart. All four forms are normalized to the
same rows and headers, whatever the cells are, and so they are drawn as the same table or fail for
the same reason.
-/

namespace TypeSurvey.Table

open Value (keyed)

/-! ## The forms -/

/-- The columns of rows under their names. -/
def byColumns (names : List Text) (rows : List (List Value)) : Value :=
  .dict (keyed (names.zip ((transpose rows).map .list)))

/-- A dictionary for each row, with its cells under the names of their columns. -/
def byEntries (names : List Text) (rows : List (List Value)) : Value :=
  .list (rows.map fun row => .dict (keyed (names.zip row)))

/-- Rows with the names of the columns in front of them. -/
def headedRows (names : List Text) (rows : List (List Value)) : Value :=
  .list (.list (textValues names) :: rows.map .list)

/-- Rows alone. -/
def plainForm (rows : List (List Value)) : Value := .list (rows.map .list)

/-! ## Rows and columns -/

theorem transpose_transpose {width : Nat} {rows : List (List Value)} (nonempty : rows ≠ [])
    (uniform : ∀ row ∈ rows, row.length = width) (wide : 0 < width) :
    transpose (transpose rows) = rows := by
  have columns := transpose_eq nonempty uniform
  have some : transpose rows ≠ [] := transpose_ne_nil nonempty uniform wide
  have lengths : ∀ cells ∈ transpose rows, cells.length = rows.length := by
    intro cells member
    obtain ⟨column, -, rfl⟩ := List.mem_map.mp member
    exact List.length_map _
  rw [transpose_eq some lengths, columns]
  refine List.ext_getElem (by simp) fun index _ bound => ?_
  simp only [List.getElem_map, List.getElem_range, List.map_map]
  refine List.ext_getElem ?_ fun column _ inside => ?_
  · simp [uniform _ (List.getElem_mem bound)]
  · simp [bound, inside]

theorem map_get?_keyed_zip {names : List Text} {row : List Value} (distinct : names.Nodup)
    (same : row.length = names.length) :
    (textValues names).map (fun key => (Value.get? key (keyed (names.zip row))).getD .none) =
      row := by
  have first : (names.zip row).map Prod.fst = names := List.map_fst_zip same.ge
  refine List.ext_getElem (by simp [textValues, same]) fun index _ inside => ?_
  have bound : index < names.length := same ▸ inside
  have member : (names[index], row[index]) ∈ names.zip row := by
    rw [← List.getElem_zip (h := by simp [bound, inside])]
    exact List.getElem_mem _
  simp only [textValues, List.getElem_map, Value.get?_keyed]
  rw [lookup_of_mem (by rwa [first]) member, Option.getD_some]

/-! ## Names -/

theorem addKeys_of_subset {names : List Text} {entries : List (Text × Value)}
    (known : entries.map Prod.fst ⊆ names) :
    addKeys (textValues names) (keyed entries) = textValues names := by
  induction entries with
  | nil => rfl
  | cons entry entries induction =>
    rw [List.map_cons, List.cons_subset] at known
    have found : (textValues names).any (Value.equals (.str entry.1)) = true := by
      simp [textValues, known.1]
    rw [keyed, Value.keyedBy_cons, addKeys, List.foldl_cons]
    simp only [found, if_true]
    exact induction known.2

theorem addKeys_of_nodup {names : List Text} {entries : List (Text × Value)}
    (distinct : (names ++ entries.map Prod.fst).Nodup) :
    addKeys (textValues names) (keyed entries) = textValues (names ++ entries.map Prod.fst) := by
  induction entries generalizing names with
  | nil => simp [addKeys]
  | cons entry entries induction =>
    have shift : names ++ (entry :: entries).map Prod.fst =
        names ++ [entry.1] ++ entries.map Prod.fst := List.append_cons _ _ _
    rw [shift] at distinct ⊢
    have fresh : entry.1 ∉ names := by
      intro member
      have front := (List.nodup_append.mp distinct).1
      exact List.disjoint_of_nodup_append front member List.mem_cons_self
    have absent : (textValues names).any (Value.equals (.str entry.1)) = false := by
      rw [List.any_eq_false]
      intro value member
      obtain ⟨name, inside, rfl⟩ := List.mem_map.mp member
      rw [Value.equals_str, beq_iff_eq]
      rintro rfl
      exact fresh inside
    have put : textValues names ++ [.str entry.1] = textValues (names ++ [entry.1]) := by
      simp [textValues]
    rw [keyed, Value.keyedBy_cons, addKeys, List.foldl_cons]
    simp only [absent, Bool.false_eq_true, if_false, put]
    exact induction distinct

theorem entriesOf_dict (entries : List (Value × Value)) : entriesOf (.dict entries) = .ok entries :=
  rfl

section Dictionaries

variable {names : List Text} {rows : List (List Value)}

theorem foldlM_addKeys_of_known (uniform : ∀ row ∈ rows, row.length = names.length) :
    (rows.map fun row => Value.dict (keyed (names.zip row))).foldlM
        (fun keys row => do return addKeys keys (← entriesOf row)) (textValues names) =
      Except.ok (textValues names) := by
  induction rows with
  | nil => rfl
  | cons row rows induction =>
    obtain ⟨here, later⟩ := List.forall_mem_cons.mp uniform
    have known : ((names.zip row).map Prod.fst) ⊆ names := by
      rw [List.map_fst_zip here.ge]
      exact List.Subset.refl names
    simp only [List.map_cons, List.foldlM_cons, entriesOf_dict, ok_bind, pure_bind,
      addKeys_of_subset known]
    exact induction later

/-- Dictionaries with the same names have these names. -/
theorem foldlM_addKeys (distinct : names.Nodup) (nonempty : rows ≠ [])
    (uniform : ∀ row ∈ rows, row.length = names.length) :
    (rows.map fun row => Value.dict (keyed (names.zip row))).foldlM
        (fun keys row => do return addKeys keys (← entriesOf row)) [] =
      Except.ok (textValues names) := by
  obtain ⟨row, rows, rfl⟩ := List.exists_cons_of_ne_nil nonempty
  obtain ⟨here, later⟩ := List.forall_mem_cons.mp uniform
  have first : (names.zip row).map Prod.fst = names := List.map_fst_zip here.ge
  have new : addKeys [] (keyed (names.zip row)) = textValues names := by
    have put := @addKeys_of_nodup [] (names.zip row) (by rwa [first, List.nil_append])
    rwa [first, List.nil_append] at put
  simp only [List.map_cons, List.foldlM_cons, entriesOf_dict, ok_bind, pure_bind, new]
  exact foldlM_addKeys_of_known later

/-- The cells of a dictionary in the order of its names. -/
theorem mapM_cells (distinct : names.Nodup) (uniform : ∀ row ∈ rows, row.length = names.length) :
    ((rows.map fun row => Value.dict (keyed (names.zip row))).mapM fun row => do
        let entries ← entriesOf row
        return Value.list ((textValues names).map fun key => (Value.get? key entries).getD .none)) =
      Except.ok (rows.map .list) := by
  rw [List.mapM_map]
  refine mapM_of_forall fun row member => ?_
  simp only [Function.comp_apply, entriesOf_dict, ok_bind,
    map_get?_keyed_zip distinct (uniform row member)]
  rfl

end Dictionaries

/-! ## Normal forms -/

section Normal

variable {names : List Text} {rows : List (List Value)} (showIndex : Value)

theorem isText_list (name : String) (items : List Value) : isText name (.list items) = false := rfl

theorem normalize_plainForm :
    normalize (plainForm rows) (.list (textValues names)) showIndex =
      addLabels (rows.map .list) showIndex >>= withHeaders names := by
  have given : normalizeRows (rows.map .list) (.list (textValues names)) =
      .ok (rows.map .list, .list (textValues names)) := by
    cases rows <;> rfl
  exact normalize_list given rfl (texts_textValues names) (mapM_keep_rows rows) showIndex

theorem normalize_headedRows :
    normalize (headedRows names rows) (.ofString "firstrow") showIndex =
      addLabels (rows.map .list) showIndex >>= withHeaders names := by
  have noEntries : entries? (headedRows names rows) = none := rfl
  have iterated : (headedRows names rows).iterate =
      .ok (.list (textValues names) :: rows.map .list) := rfl
  have given : normalizeRows (.list (textValues names) :: rows.map .list) (.ofString "firstrow") =
      .ok (.list (textValues names) :: rows.map .list, .ofString "firstrow") := rfl
  have word : isText "firstrow" (.ofString "firstrow") = true := rfl
  simp only [normalize, noEntries, iterated, ok_bind, given, word, texts_textValues,
    pure_bind, mapM_keep_rows, map_toText_textValues]

theorem normalize_byEntries (distinct : names.Nodup) (nonempty : rows ≠ [])
    (uniform : ∀ row ∈ rows, row.length = names.length) :
    normalize (byEntries names rows) (.ofString "keys") showIndex =
      addLabels (rows.map .list) showIndex >>= withHeaders names := by
  have noEntries : entries? (byEntries names rows) = none := rfl
  have iterated : (byEntries names rows).iterate =
      .ok (rows.map fun row => .dict (keyed (names.zip row))) := rfl
  have given : normalizeRows (rows.map fun row => .dict (keyed (names.zip row)))
      (.ofString "keys") = .ok (rows.map .list, .list (textValues names)) := by
    have keys := foldlM_addKeys distinct nonempty uniform
    have cells := mapM_cells distinct uniform
    have byKeys : isText "keys" (.ofString "keys") = true := rfl
    have byFirst : isText "firstrow" (.ofString "keys") = false := rfl
    obtain ⟨row, rows, rfl⟩ := List.exists_cons_of_ne_nil nonempty
    have dictionaries : normalizeRows
        ((row :: rows).map fun row => .dict (keyed (names.zip row))) (.ofString "keys") =
        normalizeDicts (.dict (keyed (names.zip row)))
          (rows.map fun row => .dict (keyed (names.zip row))) (.ofString "keys") := rfl
    rw [List.map_cons] at keys cells
    simp only [dictionaries, normalizeDicts, byKeys, byFirst, entriesOf_dict, ok_bind,
      Bool.false_eq_true, if_false, if_true, keys, pure_bind, cells]
    rfl
  simp only [normalize, noEntries, iterated, ok_bind, given, isText_list, texts_textValues,
    pure_bind, mapM_keep_rows, map_toText_textValues]

theorem mapM_list_of_tuples (rows : List (List Value)) :
    (rows.map Value.tuple).mapM (fun row => if isSeparatorRow row = true then pure row
      else do
        let cells ← row.iterate
        pure (.list cells)) = Except.ok (rows.map Value.list) := by
  rw [List.mapM_map]
  exact mapM_of_forall fun row _ => rfl

theorem normalize_byColumns (wide : names ≠ []) (nonempty : rows ≠ [])
    (uniform : ∀ row ∈ rows, row.length = names.length) :
    normalize (byColumns names rows) (.ofString "keys") showIndex =
      addLabels (rows.map .list) showIndex >>= withHeaders names := by
  have width := List.length_pos_iff.mpr wide
  have count : names.length = ((transpose rows).map Value.list).length := by
    simp [transpose_eq nonempty uniform]
  have someEntries : entries? (byColumns names rows) =
      some (keyed (names.zip ((transpose rows).map .list))) := rfl
  have columns : (keyed (names.zip ((transpose rows).map .list))).mapM
      (fun entry => entry.2.iterate) = .ok (transpose rows) := by
    have cells : (keyed (names.zip ((transpose rows).map .list))).map Prod.snd =
        (transpose rows).map .list := by
      rw [keyed, Value.keyedBy, List.map_map]
      exact List.map_snd_zip count.ge
    calc (keyed (names.zip ((transpose rows).map .list))).mapM (fun entry => entry.2.iterate)
        = ((transpose rows).map Value.list).mapM Value.iterate := by
          rw [← cells, List.mapM_map, cells]
          rfl
      _ = .ok ((transpose rows).map id) := by
          rw [List.mapM_map]
          exact mapM_of_forall fun column _ => rfl
      _ = .ok (transpose rows) := by rw [List.map_id]
  have keys : (keyed (names.zip ((transpose rows).map Value.list))).map
      (fun entry => Value.str entry.1.toText) = textValues names := by
    have first : (names.zip ((transpose rows).map Value.list)).map Prod.fst = names :=
      List.map_fst_zip count.le
    rw [keyed, Value.keyedBy, List.map_map]
    conv_rhs => rw [← first, textValues, List.map_map]
    rfl
  have word : isText "keys" (.ofString "keys") = true := rfl
  simp only [normalize, someEntries, columns, ok_bind, keys, word, if_true, pure_bind, isText_list,
    texts_textValues, transpose_transpose nonempty uniform width, mapM_list_of_tuples,
    map_toText_textValues]

end Normal

/-! ## Tables -/

/-- What is drawn depends on the rows and headers that the data is normalized to. -/
theorem render_eq_of_normalize_eq (options : Options) {data other headers otherHeaders : Value}
    (given : data ≠ .none) (otherGiven : other ≠ .none)
    (same : normalize data headers options.showIndex =
      normalize other otherHeaders options.showIndex) :
    render { options with headers := headers } data =
      render { options with headers := otherHeaders } other := by
  have prepared : prepare { options with headers := headers } data =
      prepare { options with headers := otherHeaders } other := by
    simp only [prepare, same]
  have sheets : Sheet.ofData { options with headers := headers } data =
      Sheet.ofData { options with headers := otherHeaders } other := by
    rw [Sheet.ofData, Sheet.ofData, prepared]
    rfl
  rw [render, render, layOut, layOut, sheets]
  rfl

/-- The form that a table is given in does not change what is drawn, or why it fails. -/
theorem render_of_forms (options : Options) {names : List Text} {rows : List (List Value)}
    (distinct : names.Nodup) (wide : names ≠ []) (nonempty : rows ≠ [])
    (uniform : ∀ row ∈ rows, row.length = names.length) :
    let apart := render { options with headers := .list (textValues names) } (plainForm rows)
    render { options with headers := .ofString "keys" } (byColumns names rows) = apart ∧
      render { options with headers := .ofString "keys" } (byEntries names rows) = apart ∧
      render { options with headers := .ofString "firstrow" } (headedRows names rows) = apart := by
  have plain : normalize (plainForm rows) (.list (textValues names)) options.showIndex =
      addLabels (rows.map .list) options.showIndex >>= withHeaders names :=
    normalize_plainForm options.showIndex
  refine ⟨?_, ?_, ?_⟩
  · refine render_eq_of_normalize_eq options nofun nofun ?_
    rw [normalize_byColumns _ wide nonempty uniform, plain]
  · refine render_eq_of_normalize_eq options nofun nofun ?_
    rw [normalize_byEntries _ distinct nonempty uniform, plain]
  · refine render_eq_of_normalize_eq options nofun nofun ?_
    rw [normalize_headedRows, plain]

/-- Names of which one is a word for where headers are taken from. -/
def wordNames : List Text := ["keys".toList, "n".toList]

/-- Rows of which the second has the mark of a separating line, and the last has no first cell. -/
def markedRows : List (List Value) :=
  [[.ofString "x\ny", .int 1], [.str separatorMark, .int 2], [.none, .ofString "three"]]

theorem render_of_forms_markedRows :
    let options : Options := { style := .named (.ofString "grid") }
    let apart := render { options with headers := .list (textValues wordNames) }
      (plainForm markedRows)
    (wordNames.Nodup ∧ ∀ row ∈ markedRows, row.length = wordNames.length) ∧
      render { options with headers := .ofString "keys" } (byColumns wordNames markedRows) =
        apart ∧
      render { options with headers := .ofString "keys" } (byEntries wordNames markedRows) =
        apart ∧
      render { options with headers := .ofString "firstrow" } (headedRows wordNames markedRows) =
        apart :=
  ⟨⟨by decide, by decide⟩, render_of_forms { style := .named (.ofString "grid") } (by decide)
    (by decide) nofun (by decide)⟩

end TypeSurvey.Table
