import TypeSurvey.Proofs.Files.Name

/-!
# Places and changes

Where a path leads depends on the directories alone. A file is written only where there is a
directory for it, so that directories stay as they are, every path goes on leading to the same
place, and only the file at one place changes.
-/

namespace TypeSurvey

/-- A text without slashes continues the last piece between slashes. -/
theorem Text.exists_split_append (front : Text) : ∃ before name, ∀ ending : Text, '/' ∉ ending →
    Text.split ['/'] (front ++ ending) = before ++ [name ++ ending] := by
  have slash : (['/'] : Text) ≠ [] := List.cons_ne_nil _ _
  induction front using split_induction slash with
  | free front absent =>
    refine ⟨[], front, fun ending free => ?_⟩
    rw [List.singleton_infix_iff] at absent
    rw [split_of_absent, List.nil_append]
    rw [List.singleton_infix_iff, List.mem_append, not_or]
    exact ⟨absent, free⟩
  | step first back endsFirst induction =>
    obtain ⟨before, name, pieces⟩ := induction
    refine ⟨first :: before, name, fun ending free => ?_⟩
    rw [List.append_assoc, split_endsFirst slash endsFirst, pieces ending free]
    rfl

namespace Folder

/-! ## Places of paths -/

theorem follow_append (folder : Folder) (start : Path) (front back : List Text) :
    folder.follow start (front ++ back) =
      folder.follow start front >>= fun place => folder.follow place back := by
  induction front generalizing start with
  | nil => rfl
  | cons part front induction =>
    rw [List.cons_append, follow, follow]
    cases folder.isDirectory start with
    | false => rfl
    | true =>
      simp only [Bool.not_true, Bool.false_eq_true, if_false]
      split_ifs
      · exact induction start
      · rfl
      · exact induction start.dropLast
      · exact induction (start ++ [part])

/-- Whether a text can stand at the end of the name of a file: a name that ends with it is not one
of the dots that stay or lead back. -/
structure IsEnding (ending : Text) : Prop where
  /-- It stays inside one name. -/
  slash : '/' ∉ ending
  /-- It is allowed in names. -/
  null : '\x00' ∉ ending
  /-- It is longer than the dots. -/
  long : 2 < ending.length

instance (ending : Text) : Decidable (IsEnding ending) :=
  decidable_of_iff ('/' ∉ ending ∧ '\x00' ∉ ending ∧ 2 < ending.length)
    ⟨fun ⟨slash, null, long⟩ => ⟨slash, null, long⟩, fun ⟨slash, null, long⟩ => ⟨slash, null, long⟩⟩

section Ending

variable {folder : Folder} {front ending : Text} {place : Path}

theorem follow_ending (isEnding : IsEnding ending) (name : Text) (start : Path) :
    folder.follow start [name ++ ending] =
      if folder.isDirectory start then .ok (start ++ [name ++ ending])
      else .error (if (folder.file? start).isSome then .notDirectory else .missing) := by
  have long : 2 < (name ++ ending).length := by
    have length := isEnding.long
    rw [List.length_append]
    omega
  have nonempty : (name ++ ending).isEmpty = false := by
    cases whole : name ++ ending with
    | nil => simp [whole] at long
    | cons letter rest => rfl
  have notDot : (name ++ ending == ['.']) = false := by
    rw [beq_eq_false_iff_ne]
    intro same
    simp [same] at long
  have notDots : (name ++ ending == ['.', '.']) = false := by
    rw [beq_eq_false_iff_ne]
    intro same
    simp [same] at long
  simp only [follow, nonempty, notDot, notDots]
  cases folder.isDirectory start <;> rfl

/-- Whether a path with an ending leads somewhere is decided by what stands before the last name. -/
theorem locate_append (isEnding : IsEnding ending) (folder : Folder) (front : Text) :
    folder.locate (front ++ ending) =
      if '\x00' ∈ front then .error ⟨.nullCharacter, front ++ ending⟩
      else if front.head? = some '/' then .error ⟨.missing, front ++ ending⟩
      else
        match folder.follow [] (Text.split ['/'] (front ++ ending)) with
        | .ok place => .ok place
        | .error cause => .error ⟨cause, front ++ ending⟩ := by
  have null : (front ++ ending).contains '\x00' = decide ('\x00' ∈ front) := by
    simp [isEnding.null]
  have start : ((front ++ ending).isEmpty || (front ++ ending).head? == some '/') =
      decide (front.head? = some '/') := by
    cases front with
    | nil =>
      cases ending with
      | nil => nomatch isEnding.long
      | cons letter rest =>
        have slash := isEnding.slash
        rw [List.mem_cons, not_or] at slash
        simpa using Ne.symm slash.1
    | cons letter rest => simp [beq_eq_decide]
  cases followed : folder.follow [] (Text.split ['/'] (front ++ ending)) <;>
    simp only [locate, null, start, followed, decide_eq_true_eq]

/-- A path with an ending leads to a name with this ending in a directory. With another ending the
path leads to the name with that ending in the same directory. -/
theorem exists_locate_append (isEnding : IsEnding ending)
    (located : folder.locate (front ++ ending) = .ok place) :
    ∃ parent name, place = parent ++ [name ++ ending] ∧ folder.isDirectory parent = true ∧
      ∀ other, IsEnding other →
        folder.locate (front ++ other) = .ok (parent ++ [name ++ other]) := by
  obtain ⟨before, name, pieces⟩ := Text.exists_split_append front
  rw [locate_append isEnding, pieces ending isEnding.slash, follow_append] at located
  split_ifs at located with null absolute
  cases led : folder.follow [] before with
  | error cause => simp [led, bind, Except.bind] at located
  | ok parent =>
    rw [led, ok_bind, follow_ending isEnding] at located
    split_ifs at located with directory
    · refine ⟨parent, name, (Except.ok.inj located).symm, directory, fun other isOther => ?_⟩
      rw [locate_append isOther, if_neg null, if_neg absolute, pieces other isOther.slash,
        follow_append, led, ok_bind, follow_ending isOther, if_pos directory]

end Ending

/-! ## Changes -/

theorem isDirectory_above {folder : Folder} {path front : Path}
    (directory : folder.isDirectory path = true) (inside : front <+: path) :
    folder.isDirectory front = true := by
  simp only [isDirectory, Bool.or_eq_true, List.isEmpty_iff, List.any_eq_true, Bool.and_eq_true,
    List.isPrefixOf_iff_prefix, bne_iff_ne] at directory ⊢
  rcases directory with rfl | ⟨entry, member, start, longer⟩
  · exact .inl (List.prefix_nil.mp inside)
  · refine .inr ⟨entry, member, inside.trans start, ?_⟩
    rintro rfl
    exact longer (List.IsPrefix.eq_of_length_le start inside.length_le |>.symm)

theorem read_eq_ok_iff_file? {folder : Folder} {path : Text} {bytes : Text.Bytes} :
    folder.read path = .ok bytes ↔
      ∃ place, folder.locate path = .ok place ∧ folder.file? place = some bytes := by
  rw [read, bind_eq_ok]
  refine exists_congr fun place => and_congr_right fun _ => ?_
  cases folder.file? place <;> simp [throw, throwThe, MonadExceptOf.throw, pure, Except.pure]

/-- Whether a folder differs from an earlier one in the files at some places only. -/
structure ChangedOnlyAt (places : Path → Prop) (before after : Folder) : Prop where
  directories : ∀ path, after.isDirectory path = before.isDirectory path
  files : ∀ place, ¬ places place → after.file? place = before.file? place

namespace ChangedOnlyAt

variable {places others : Path → Prop} {before middle after : Folder}

theorem refl (places : Path → Prop) (folder : Folder) : ChangedOnlyAt places folder folder :=
  ⟨fun _ => rfl, fun _ _ => rfl⟩

theorem mono (changed : ChangedOnlyAt places before after)
    (among : ∀ place, places place → others place) : ChangedOnlyAt others before after :=
  ⟨changed.directories, fun place apart => changed.files place fun here => apart (among place here)⟩

theorem trans (first : ChangedOnlyAt places before middle)
    (second : ChangedOnlyAt places middle after) : ChangedOnlyAt places before after where
  directories path := (second.directories path).trans (first.directories path)
  files place apart := (second.files place apart).trans (first.files place apart)

theorem follow_eq_ok_iff (changed : ChangedOnlyAt places before after) {start place : Path}
    {parts : List Text} :
    after.follow start parts = .ok place ↔ before.follow start parts = .ok place := by
  induction parts generalizing start with
  | nil => rfl
  | cons part parts induction =>
    rw [follow, follow, changed.directories start]
    cases before.isDirectory start with
    | false => simp
    | true =>
      simp only [Bool.not_true, Bool.false_eq_true, if_false]
      split_ifs
      · exact induction
      · rfl
      · exact induction
      · exact induction

theorem locate_eq_ok_iff (changed : ChangedOnlyAt places before after) {path : Text}
    {place : Path} : after.locate path = .ok place ↔ before.locate path = .ok place := by
  have led := @follow_eq_ok_iff places before after changed [] place (Text.split ['/'] path)
  simp only [locate]
  split_ifs
  · exact Iff.rfl
  · exact Iff.rfl
  · cases first : after.follow [] (Text.split ['/'] path) <;>
      cases second : before.follow [] (Text.split ['/'] path) <;> simp_all

/-- A file whose place is not among those that changed is read as before. -/
theorem read_eq_ok (changed : ChangedOnlyAt places before after) {path : Text}
    {bytes : Text.Bytes} (held : before.read path = .ok bytes)
    (apart : ∀ place, before.locate path = .ok place → ¬ places place) :
    after.read path = .ok bytes := by
  obtain ⟨place, located, found⟩ := read_eq_ok_iff_file?.mp held
  refine read_eq_ok_iff_file?.mpr ⟨place, changed.locate_eq_ok_iff.mpr located, ?_⟩
  rw [changed.files place (apart place located), found]

end ChangedOnlyAt

theorem changedOnlyAt_of_write {folder after : Folder} {path : Text} {bytes : Text.Bytes}
    (written : folder.write path bytes = .ok after) :
    ChangedOnlyAt (fun place => folder.locate path = .ok place) folder after := by
  obtain ⟨place, located, -, parent, rfl⟩ := write_eq_ok_iff.mp written
  constructor
  · intro other
    rw [isDirectory_putFile]
    by_cases inside : other <+: place ∧ place ≠ other
    · have above : other <+: place.dropLast := by
        obtain ⟨⟨rest, rfl⟩, longer⟩ := inside
        have some : rest ≠ [] := by
          rintro rfl
          exact longer (List.append_nil other)
        rw [List.dropLast_append_of_ne_nil some]
        exact List.prefix_append other _
      simp [isDirectory_above parent above]
    · have outside : (other.isPrefixOf place && place != other) = false := by
        simpa [List.isPrefixOf_iff_prefix] using inside
      rw [outside, Bool.or_false]
  · intro other apart
    have different : other ≠ place := by
      rintro rfl
      exact apart located
    exact file?_putFile_of_ne folder different bytes

/-- The folder with a text written at a path, or as it is where this is not possible. -/
def written (folder : Folder) (path text : Text) : Folder :=
  match folder.writeText path text with
  | .ok after => after
  | .error _ => folder

theorem changedOnlyAt_written (folder : Folder) (path text : Text) :
    ChangedOnlyAt (fun place => folder.locate path = .ok place) folder
      (folder.written path text) := by
  unfold written
  split
  · next done => exact changedOnlyAt_of_write done
  · exact .refl _ folder

/-- The file at the place of a text that was written, if there is no directory. -/
theorem file?_written {folder : Folder} {path : Text} {place : Path}
    (located : folder.locate path = .ok place) (parent : folder.isDirectory place.dropLast = true)
    (text : Text) :
    (folder.written path text).file? place =
      if folder.isDirectory place then folder.file? place else some (Text.encodeUtf8 text) := by
  split_ifs with directory
  · have refused : ∀ after, folder.writeText path text ≠ .ok after := by
      intro after done
      obtain ⟨other, also, free, -⟩ := write_eq_ok_iff.mp done
      obtain rfl : place = other := Except.ok.inj (located.symm.trans also)
      rw [directory] at free
      nomatch free
    unfold written
    split
    · next done => exact absurd done (refused _)
    · rfl
  · have done : folder.writeText path text =
        .ok ⟨putNamed place (Text.encodeUtf8 text) folder.files⟩ :=
      write_eq_ok_iff.mpr ⟨place, located, Bool.eq_false_of_not_eq_true directory, parent, rfl⟩
    rw [written, done]
    exact file?_putFile folder place _

/-- Whether two paths lead to one place. -/
def SamePlace (folder : Folder) (path other : Text) : Prop :=
  ∃ place, folder.locate path = .ok place ∧ folder.locate other = .ok place

instance (folder : Folder) (path other : Text) : Decidable (folder.SamePlace path other) :=
  decidable_of_iff ((folder.locate path).toOption.isSome = true ∧
      (folder.locate path).toOption = (folder.locate other).toOption) <| by
    unfold SamePlace
    cases folder.locate path <;> cases folder.locate other <;> simp [Except.toOption, eq_comm]

/-- Paths with endings that end differently lead to different places. -/
theorem not_samePlace_of_endings {folder : Folder} {front back first second : Text}
    (isFirst : IsEnding first) (isSecond : IsEnding second)
    (different : first.getLast? ≠ second.getLast?) :
    ¬ folder.SamePlace (front ++ first) (back ++ second) := by
  rintro ⟨place, located, also⟩
  obtain ⟨parent, name, rfl, -, -⟩ := exists_locate_append isFirst located
  obtain ⟨other, otherName, same, -, -⟩ := exists_locate_append isSecond also
  have nonempty {ending : Text} (isEnding : IsEnding ending) : ending ≠ [] := by
    rintro rfl
    nomatch isEnding.long
  have names := (List.append_inj' same rfl).2
  have last := congrArg List.getLast? (List.singleton_inj.mp names)
  rw [List.getLast?_append_of_ne_nil _ (nonempty isFirst),
    List.getLast?_append_of_ne_nil _ (nonempty isSecond)] at last
  exact different last

/-! ## Normal paths -/

/-- Whether a path is in normal form: no part of it is empty or one of the dots. -/
def IsNormal (path : Text) : Prop :=
  ∀ part ∈ Text.split ['/'] path, part ≠ [] ∧ part ≠ ['.'] ∧ part ≠ ['.', '.']

instance (path : Text) : Decidable (IsNormal path) := by
  unfold IsNormal
  infer_instance

theorem follow_of_normal {folder : Folder} {start place : Path} {parts : List Text}
    (normal : ∀ part ∈ parts, part ≠ [] ∧ part ≠ ['.'] ∧ part ≠ ['.', '.'])
    (led : folder.follow start parts = .ok place) : place = start ++ parts := by
  induction parts generalizing start with
  | nil => rw [List.append_nil, Except.ok.inj led]
  | cons part parts induction =>
    obtain ⟨⟨nonempty, notDot, notDots⟩, later⟩ := List.forall_mem_cons.mp normal
    rw [follow] at led
    cases directory : folder.isDirectory start with
    | false => simp [directory] at led
    | true =>
      simp only [directory, Bool.not_true, Bool.false_eq_true, if_false, List.isEmpty_iff,
        Bool.or_eq_true, beq_iff_eq, nonempty, notDot, notDots, or_self] at led
      simpa using induction later led

theorem locate_of_isNormal {folder : Folder} {path : Text} {place : Path} (normal : IsNormal path)
    (located : folder.locate path = .ok place) : place = Text.split ['/'] path := by
  rw [locate] at located
  split_ifs at located
  cases led : folder.follow [] (Text.split ['/'] path) with
  | error cause => simp [led] at located
  | ok found =>
    simp only [led, Except.ok.injEq] at located
    subst located
    exact follow_of_normal normal led

theorem eq_of_samePlace {folder : Folder} {path other : Text} (normal : IsNormal path)
    (otherNormal : IsNormal other) (same : folder.SamePlace path other) : path = other := by
  obtain ⟨place, located, also⟩ := same
  have parts := (locate_of_isNormal normal located).symm.trans
    (locate_of_isNormal otherNormal also)
  have slash : (['/'] : Text) ≠ [] := List.cons_ne_nil _ _
  rw [← Text.join_split slash path, parts, Text.join_split slash]

/-! ## Folders without directories -/

/-- Whether there is no directory in a folder. -/
def IsFlat (folder : Folder) : Prop := ∀ name, folder.isDirectory [name] = false

/-- The folder with texts written one after the other. -/
def writtenAll (folder : Folder) (texts : List (Text × Text)) : Folder :=
  texts.foldl (fun folder entry => folder.written entry.1 entry.2) folder

section Flat

variable {folder : Folder} {name : Text}

theorem isFlat_of_forall (single : ∀ entry ∈ folder.files, ∃ name, entry.1 = [name]) :
    folder.IsFlat := by
  intro name
  rw [isDirectory, List.isEmpty_cons, Bool.false_or, List.any_eq_false]
  intro entry member
  obtain ⟨other, shape⟩ := single entry member
  simp only [shape, List.isPrefixOf, Bool.and_true, Bool.and_eq_true, beq_iff_eq, bne_iff_ne]
  rintro ⟨rfl, different⟩
  exact different rfl

theorem IsFlat.written (flat : folder.IsFlat) (path text : Text) :
    (folder.written path text).IsFlat := by
  intro other
  rw [(changedOnlyAt_written folder path text).directories, flat other]

theorem IsFlat.writtenAll (flat : folder.IsFlat) (texts : List (Text × Text)) :
    (folder.writtenAll texts).IsFlat := by
  induction texts generalizing folder with
  | nil => exact flat
  | cons entry texts induction => exact induction (flat.written entry.1 entry.2)

theorem IsFlat.writeText (flat : folder.IsFlat) (isName : IsName name) (text : Text) :
    folder.writeText name text = .ok (folder.written name text) := by
  have done : folder.writeText name text =
      .ok ⟨putNamed [name] (Text.encodeUtf8 text) folder.files⟩ := by
    rw [Folder.writeText, write_of_isName folder isName, flat name]
    rfl
  rw [Folder.written, done]

theorem IsFlat.file?_written (flat : folder.IsFlat) (isName : IsName name) (text other : Text) :
    (folder.written name text).file? [other] =
      if other = name then some (Text.encodeUtf8 text) else folder.file? [other] := by
  have located := locate_of_isName folder isName
  split_ifs with same
  · subst same
    rw [Folder.file?_written located rfl, flat other]
    rfl
  · refine (changedOnlyAt_written folder name text).files [other] fun here => same ?_
    have place := Except.ok.inj (located.symm.trans here)
    exact (List.singleton_inj.mp place).symm

theorem IsFlat.file?_writtenAll (flat : folder.IsFlat) {texts : List (Text × Text)}
    (names : ∀ name ∈ texts.map Prod.fst, IsName name) {other : Text}
    (absent : other ∉ texts.map Prod.fst) :
    (folder.writtenAll texts).file? [other] = folder.file? [other] := by
  induction texts generalizing folder with
  | nil => rfl
  | cons entry texts induction =>
    obtain ⟨isName, others⟩ := List.forall_mem_cons.mp names
    rw [List.map_cons, List.mem_cons, not_or] at absent
    rw [Folder.writtenAll, List.foldl_cons]
    refine (induction (flat.written entry.1 entry.2) others absent.2).trans ?_
    rw [flat.file?_written isName, if_neg absent.1]

theorem IsFlat.holdsText_writtenAll (flat : folder.IsFlat) {texts : List (Text × Text)}
    (names : ∀ name ∈ texts.map Prod.fst, IsName name) (distinct : (texts.map Prod.fst).Nodup)
    {text : Text} (member : (name, text) ∈ texts) :
    (folder.writtenAll texts).HoldsText name text := by
  induction texts generalizing folder with
  | nil => nomatch member
  | cons entry texts induction =>
    obtain ⟨isName, others⟩ := List.forall_mem_cons.mp names
    rw [List.map_cons, List.nodup_cons] at distinct
    rw [Folder.writtenAll, List.foldl_cons]
    rcases List.mem_cons.mp member with rfl | later
    · rw [HoldsText, read_eq_ok_iff isName]
      refine ((flat.written name text).file?_writtenAll others distinct.1).trans ?_
      rw [flat.file?_written isName, if_pos rfl]
    · exact induction (flat.written entry.1 entry.2) others distinct.2 later

end Flat

end Folder

end TypeSurvey
