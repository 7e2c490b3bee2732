import TypeSurvey.Text.Named
import Mathlib.Data.List.Nodup
import Mathlib.Data.List.Perm.Basic

/-!
# Items under names

Items are put under names one after the other. A name has the item that was put under it last, and
stands where it was put first.
-/

namespace TypeSurvey

variable {κ α : Type} [DecidableEq κ]

/-- Puts items under names one after the other. -/
def putAll (events found : List (κ × α)) : List (κ × α) :=
  events.foldl (fun found event => putNamed event.1 event.2 found) found

/-- The names with one more at the end, unless it is among them. -/
def addName (names : List κ) (name : κ) : List κ :=
  if name ∈ names then names else names ++ [name]

@[simp] theorem putAll_nil (found : List (κ × α)) : putAll [] found = found := rfl

@[simp] theorem putAll_cons (event : κ × α) (events found : List (κ × α)) :
    putAll (event :: events) found = putAll events (putNamed event.1 event.2 found) := rfl

theorem putAll_append (first second found : List (κ × α)) :
    putAll (first ++ second) found = putAll second (putAll first found) :=
  List.foldl_append

/-- Where each step of a run puts the items of its events under their names, the run puts those of
all of its events. -/
theorem foldl_eq_putAll {state step : Type} {advance : state → step → state}
    {view : state → List (κ × α)} {events : step → List (κ × α)}
    (each : ∀ start item, view (advance start item) = putAll (events item) (view start))
    (start : state) (items : List step) :
    view (items.foldl advance start) = putAll (items.flatMap events) (view start) := by
  induction items generalizing start with
  | nil => rfl
  | cons item items induction =>
    rw [List.foldl_cons, induction, each, List.flatMap_cons, putAll_append]

theorem map_putNamed {β : Type} (change : α → β) (name : κ) (item : α)
    (found : List (κ × α)) :
    (putNamed name item found).map (Prod.map id change) =
      putNamed name (change item) (found.map (Prod.map id change)) := by
  induction found with
  | nil => rfl
  | cons entry found induction =>
    rw [putNamed, List.map_cons, putNamed]
    by_cases here : entry.1 = name
    · rw [if_pos here, if_pos (show (Prod.map id change entry).1 = name from here)]
      rfl
    · rw [if_neg here, if_neg (show ¬ (Prod.map id change entry).1 = name from here),
        List.map_cons, induction]

theorem map_putAll {β : Type} (change : α → β) (events found : List (κ × α)) :
    (putAll events found).map (Prod.map id change) =
      putAll (events.map (Prod.map id change)) (found.map (Prod.map id change)) := by
  induction events generalizing found with
  | nil => rfl
  | cons event events induction =>
    rw [putAll_cons, induction, map_putNamed, List.map_cons, putAll_cons]
    rfl

/-! ## Names -/

theorem names_putNamed (name : κ) (item : α) (found : List (κ × α)) :
    (putNamed name item found).map Prod.fst = addName (found.map Prod.fst) name := by
  induction found with
  | nil => simp [putNamed, addName]
  | cons entry found induction =>
    rw [putNamed, addName]
    split_ifs with same known known
    · simp [same]
    · simp [same] at known
    · have later : name ∈ found.map Prod.fst := by simpa [Ne.symm same] using known
      rw [List.map_cons, induction, addName, if_pos later, List.map_cons]
    · have later : name ∉ found.map Prod.fst := by
        intro member
        exact known (List.mem_cons_of_mem _ member)
      rw [List.map_cons, induction, addName, if_neg later, List.map_cons, List.cons_append]

/-- Which names there are, and in which order, does not depend on the items. -/
theorem names_putAll (events found : List (κ × α)) :
    (putAll events found).map Prod.fst =
      (events.map Prod.fst).foldl addName (found.map Prod.fst) := by
  induction events generalizing found with
  | nil => rfl
  | cons event events induction =>
    rw [putAll_cons, induction, names_putNamed, List.map_cons, List.foldl_cons]

theorem mem_addName {names : List κ} {name other : κ} :
    other ∈ addName names name ↔ other ∈ names ∨ other = name := by
  unfold addName
  split_ifs with known
  · constructor
    · exact .inl
    · rintro (member | rfl)
      · exact member
      · exact known
  · simp

theorem mem_foldl_addName {names more : List κ} {name : κ} :
    name ∈ more.foldl addName names ↔ name ∈ names ∨ name ∈ more := by
  induction more generalizing names with
  | nil => simp
  | cons first more induction =>
    rw [List.foldl_cons, induction, mem_addName, List.mem_cons, or_assoc]

theorem nodup_addName {names : List κ} (distinct : names.Nodup) (name : κ) :
    (addName names name).Nodup := by
  unfold addName
  split_ifs with known
  · exact distinct
  · rw [← List.concat_eq_append]
    exact distinct.concat known

/-- An item stands under a name for which there was an event. -/
theorem name_mem_of_mem_putAll {events : List (κ × α)} {entry : κ × α}
    (member : entry ∈ putAll events []) : entry.1 ∈ events.map Prod.fst := by
  have named : entry.1 ∈ (putAll events []).map Prod.fst := List.mem_map_of_mem member
  rw [names_putAll, mem_foldl_addName] at named
  simpa using named

theorem nodup_foldl_addName {names : List κ} (distinct : names.Nodup) (more : List κ) :
    (more.foldl addName names).Nodup := by
  induction more generalizing names with
  | nil => exact distinct
  | cons first more induction => exact induction (nodup_addName distinct first)

theorem nodup_names_putAll (events : List (κ × α)) :
    ((putAll events []).map Prod.fst).Nodup := by
  rw [names_putAll]
  exact nodup_foldl_addName List.nodup_nil _

theorem foldl_addName_eq [BEq κ] [LawfulBEq κ] (names more : List κ) :
    more.foldl addName names = names ++ (more.filter (· ∉ names)).eraseDups := by
  induction more generalizing names with
  | nil => simp
  | cons name more induction =>
    rw [List.foldl_cons, induction, addName]
    by_cases known : name ∈ names
    · rw [if_pos known, List.filter_cons_of_neg (by simpa using known)]
    · have later : more.filter (· ∉ names ++ [name]) =
          (more.filter (· ∉ names)).filter fun other => !other == name := by
        rw [List.filter_filter]
        apply List.filter_congr
        intro other _
        by_cases same : other = name <;> simp [same]
      rw [if_neg known, List.filter_cons_of_pos (by simpa using known), List.eraseDups_cons,
        List.append_assoc, List.singleton_append, later]

/-- The names stand in the order of their first events. -/
theorem names_putAll_eq_eraseDups [BEq κ] [LawfulBEq κ] (events : List (κ × α)) :
    (putAll events []).map Prod.fst = (events.map Prod.fst).eraseDups := by
  rw [names_putAll, List.map_nil, foldl_addName_eq, List.nil_append, List.filter_eq_self.mpr]
  simp

/-! ## Entries -/

omit [DecidableEq κ] in
theorem notMem_front_of_nodup {front back : List (κ × α)} {entry : κ × α}
    (distinct : ((front ++ entry :: back).map Prod.fst).Nodup) : entry.1 ∉ front.map Prod.fst := by
  rw [List.map_append, List.map_cons] at distinct
  intro early
  exact List.disjoint_of_nodup_append distinct early List.mem_cons_self

theorem putNamed_of_notMem {name : κ} (item : α) {found : List (κ × α)}
    (absent : name ∉ found.map Prod.fst) : putNamed name item found = found ++ [(name, item)] := by
  induction found with
  | nil => rfl
  | cons entry found induction =>
    simp only [List.map_cons, List.mem_cons, not_or] at absent
    rw [putNamed, if_neg (Ne.symm absent.1), induction absent.2, List.cons_append]

theorem nodup_putNamed (name : κ) (item : α) {found : List (κ × α)}
    (distinct : (found.map Prod.fst).Nodup) : ((putNamed name item found).map Prod.fst).Nodup := by
  rw [names_putNamed]
  exact nodup_addName distinct name

/-- An entry after one was put in is that one, or was there before. -/
theorem mem_putNamed {name : κ} {item : α} {found : List (κ × α)} {entry : κ × α}
    (member : entry ∈ putNamed name item found) : entry = (name, item) ∨ entry ∈ found := by
  induction found with
  | nil => simpa [putNamed] using member
  | cons first found induction =>
    rw [putNamed] at member
    split_ifs at member with same
    · rcases List.mem_cons.mp member with rfl | later
      · exact .inl rfl
      · exact .inr (List.mem_cons_of_mem _ later)
    · rcases List.mem_cons.mp member with rfl | later
      · exact .inr List.mem_cons_self
      · exact (induction later).imp_right (List.mem_cons_of_mem _)

theorem putNamed_append {name : κ} (old item : α) {front : List (κ × α)} (back : List (κ × α))
    (absent : name ∉ front.map Prod.fst) :
    putNamed name item (front ++ (name, old) :: back) = front ++ (name, item) :: back := by
  induction front with
  | nil => simp [putNamed]
  | cons entry front induction =>
    simp only [List.map_cons, List.mem_cons, not_or] at absent
    rw [List.cons_append, putNamed, if_neg (Ne.symm absent.1), induction absent.2,
      List.cons_append]

/-- To put an item under a name that is there changes the item under that name alone, whatever the
order of the entries is. -/
theorem putNamed_perm {name : κ} (old item : α) {found others : List (κ × α)}
    (distinct : (found.map Prod.fst).Nodup) (order : found.Perm ((name, old) :: others)) :
    (putNamed name item found).Perm ((name, item) :: others) := by
  have member : (name, old) ∈ found := order.mem_iff.mpr List.mem_cons_self
  obtain ⟨front, back, rfl⟩ := List.append_of_mem member
  rw [putNamed_append old item back (notMem_front_of_nodup distinct)]
  have rest : (front ++ back).Perm others :=
    (List.perm_middle.symm.trans order).cons_inv
  exact List.perm_middle.trans (rest.cons _)

theorem mem_of_mem_putAll {events found : List (κ × α)} {entry : κ × α}
    (member : entry ∈ putAll events found) : entry ∈ found ∨ entry ∈ events := by
  induction events generalizing found with
  | nil => exact .inl member
  | cons event events induction =>
    rcases induction member with early | late
    · rcases mem_putNamed early with rfl | old
      · exact .inr List.mem_cons_self
      · exact .inl old
    · exact .inr (List.mem_cons_of_mem _ late)

theorem putAll_eq_append {events found : List (κ × α)}
    (distinct : ((found ++ events).map Prod.fst).Nodup) :
    putAll events found = found ++ events := by
  induction events generalizing found with
  | nil => exact (List.append_nil found).symm
  | cons event events induction =>
    rw [putAll_cons, putNamed_of_notMem event.2 (notMem_front_of_nodup distinct),
      induction (by simpa using distinct), List.append_assoc, List.singleton_append]

/-! ## Items -/

/-- Whether an item is the last one under a name in a list. -/
def IsLast (entries : List (κ × α)) (name : κ) (item : α) : Prop :=
  ∃ earlier later, entries = earlier ++ (name, item) :: later ∧ name ∉ later.map Prod.fst

theorem exists_isLast {entries : List (κ × α)} {name : κ}
    (member : name ∈ entries.map Prod.fst) : ∃ item, IsLast entries name item := by
  induction entries with
  | nil => simp at member
  | cons entry entries induction =>
    by_cases again : name ∈ entries.map Prod.fst
    · obtain ⟨item, earlier, later, rfl, last⟩ := induction again
      exact ⟨item, entry :: earlier, later, rfl, last⟩
    · have here : name = entry.1 := by simpa [again] using member
      exact ⟨entry.2, [], entries, by rw [here]; rfl, again⟩

omit [DecidableEq κ] in
theorem IsLast.map {β : Type} {entries : List (κ × α)} {name : κ} {item : α}
    (last : IsLast entries name item) (change : κ × α → β) :
    IsLast (entries.map fun entry => (entry.1, change entry)) name (change (name, item)) := by
  obtain ⟨earlier, later, rfl, absent⟩ := last
  refine ⟨_, _, List.map_append, ?_⟩
  rw [List.map_map]
  exact absent

variable [BEq κ] [LawfulBEq κ]

theorem lookup_cons_eq_ite (entry : κ × α) (found : List (κ × α)) (name : κ) :
    (entry :: found).lookup name = if name = entry.1 then some entry.2 else found.lookup name := by
  obtain ⟨key, item⟩ := entry
  rw [List.lookup_cons]
  by_cases same : name = key
  · simp [same]
  · rw [beq_eq_false_iff_ne.mpr same, if_neg same]

theorem lookup_putNamed (name other : κ) (item : α) (found : List (κ × α)) :
    (putNamed name item found).lookup other =
      if other = name then some item else found.lookup other := by
  induction found with
  | nil => exact lookup_cons_eq_ite (name, item) [] other
  | cons entry found induction =>
    rw [putNamed, lookup_cons_eq_ite entry]
    by_cases here : entry.1 = name
    · rw [if_pos here, lookup_cons_eq_ite, here]
      by_cases same : other = name <;> simp [same]
    · rw [if_neg here, lookup_cons_eq_ite, induction]
      by_cases same : other = entry.1
      · rw [if_pos same, if_pos same, if_neg (same ▸ here)]
      · rw [if_neg same, if_neg same]

omit [DecidableEq κ] in
theorem lookup_of_mem {name : κ} {item : α} {entries : List (κ × α)}
    (distinct : (entries.map Prod.fst).Nodup) (member : (name, item) ∈ entries) :
    entries.lookup name = some item := by
  obtain ⟨front, back, rfl⟩ := List.append_of_mem member
  have absent : front.lookup name = none := by
    rw [List.lookup_eq_none_iff]
    intro entry early
    have different : name ≠ entry.1 := by
      rintro rfl
      exact notMem_front_of_nodup distinct (List.mem_map.mpr ⟨entry, early, rfl⟩)
    simpa using different
  rw [List.lookup_append, absent]
  simp

/-- The item under a name is the one of its last event. -/
theorem lookup_putAll (events found : List (κ × α)) (name : κ) :
    (putAll events found).lookup name =
      (events.reverse.lookup name).or (found.lookup name) := by
  induction events generalizing found with
  | nil => simp
  | cons event events induction =>
    rw [putAll_cons, induction, lookup_putNamed, List.reverse_cons, List.lookup_append,
      Option.or_assoc, lookup_cons_eq_ite]
    by_cases same : name = event.1 <;> simp [same]

theorem lookup_putAll_of_isLast {events : List (κ × α)} {name : κ} {item : α}
    (last : IsLast events name item) : (putAll events []).lookup name = some item := by
  obtain ⟨earlier, later, rfl, absent⟩ := last
  have unseen : later.reverse.lookup name = none := by
    refine List.lookup_eq_none_iff.mpr fun entry member => bne_iff_ne.mpr ?_
    rintro rfl
    exact absent (List.mem_map_of_mem (List.mem_reverse.mp member))
  rw [lookup_putAll, List.reverse_append, List.reverse_cons, List.lookup_append, List.lookup_append,
    unseen, lookup_cons_eq_ite, if_pos rfl]
  rfl

/-- An item is under a name if and only if it is that of the last event of the name. -/
theorem mem_putAll_iff {events : List (κ × α)} {name : κ} {item : α} :
    (name, item) ∈ putAll events [] ↔ IsLast events name item := by
  have found {item : α} (last : IsLast events name item) : (name, item) ∈ putAll events [] := by
    obtain ⟨front, back, shape, -⟩ := List.lookup_eq_some_iff.mp (lookup_putAll_of_isLast last)
    rw [shape]
    exact List.mem_append_right front List.mem_cons_self
  constructor
  · intro member
    obtain ⟨other, last⟩ := exists_isLast (name_mem_of_mem_putAll member)
    have same := List.inj_on_of_nodup_map (nodup_names_putAll events) member (found last) rfl
    rw [(Prod.mk.inj same).2]
    exact last
  · exact found

end TypeSurvey
