import TypeSurvey.Proofs.Files.Folder
import TypeSurvey.Proofs.Text.Split

/-!
# Texts in the files of a folder

A file holds a text if its bytes are those of the text; where this is not so for any text, nothing
is read. A name without slashes leads to a file in the folder itself. To write such a file changes
nothing at any other name.
-/

namespace TypeSurvey.Folder

/-! ## Texts in files -/

/-- Whether a text is in the file at a path. Its line ends stand there as they are. -/
def HoldsText (folder : Folder) (path text : Text) : Prop :=
  folder.read path = .ok (Text.encodeUtf8 text)

theorem HoldsText.text_eq {folder : Folder} {path text other : Text}
    (holds : folder.HoldsText path text) (again : folder.HoldsText path other) : text = other :=
  Text.encodeUtf8_inj.mp (Except.ok.inj (holds.symm.trans again))

theorem HoldsText.contains {folder : Folder} {path text : Text}
    (holds : folder.HoldsText path text) : folder.contains path = true := by
  rw [HoldsText, read, bind_eq_ok] at holds
  obtain ⟨place, located, found⟩ := holds
  rw [Folder.contains, located]
  cases file : folder.file? place with
  | none =>
    rw [file] at found
    cases found
  | some bytes => simp [file]

theorem readText_eq_ok_iff {folder : Folder} {path content : Text} :
    folder.readText path = .ok content ↔
      ∃ text, folder.HoldsText path text ∧ content = Text.normalizeNewlines text := by
  unfold readText HoldsText
  cases folder.read path with
  | error fault => simp
  | ok bytes =>
    cases decoded : Text.decodeUtf8 bytes with
    | error fault =>
      simp only [decoded, reduceCtorEq, Except.ok.injEq, false_iff, not_exists, not_and]
      rintro text rfl
      simp [Text.decodeUtf8_encodeUtf8] at decoded
    | ok text =>
      have encoded := Text.decodeUtf8_eq_ok_iff.mp decoded
      simp only [decoded, Except.ok.injEq]
      constructor
      · rintro rfl
        exact ⟨text, encoded, rfl⟩
      · rintro ⟨other, rfl, rfl⟩
        rw [Text.decodeUtf8_encodeUtf8] at decoded
        rw [Except.ok.inj decoded]

theorem readText_eq_error_iff {folder : Folder} {path : Text} :
    (∃ fault, folder.readText path = .error fault) ↔ ¬ ∃ text, folder.HoldsText path text := by
  constructor
  · rintro ⟨fault, failed⟩ ⟨text, holds⟩
    have read := readText_eq_ok_iff.mpr ⟨text, holds, rfl⟩
    rw [failed] at read
    nomatch read
  · intro unread
    cases result : folder.readText path with
    | error fault => exact ⟨fault, rfl⟩
    | ok content =>
      obtain ⟨text, holds, -⟩ := readText_eq_ok_iff.mp result
      exact absurd ⟨text, holds⟩ unread

/-! ## Files in the folder itself -/

/-- Whether a path is the name of something in the folder itself. -/
def IsName (name : Text) : Prop :=
  '\x00' ∉ name ∧ '/' ∉ name ∧ name ≠ [] ∧ name ≠ ['.'] ∧ name ≠ ['.', '.']

instance (name : Text) : Decidable (IsName name) := by
  unfold IsName
  infer_instance

section Name

variable {folder : Folder} {name : Text}

theorem locate_of_isName (folder : Folder) (isName : IsName name) :
    folder.locate name = .ok [name] := by
  obtain ⟨null, slash, nonempty, dot, dots⟩ := isName
  have parts : Text.split ['/'] name = [name] := by
    apply Text.split_of_absent
    rw [List.singleton_infix_iff]
    exact slash
  have relative : (name.isEmpty || name.head? == some '/') = false := by
    cases name with
    | nil => exact absurd rfl nonempty
    | cons letter rest =>
      rw [List.mem_cons, not_or] at slash
      simpa using Ne.symm slash.1
  rw [locate, parts, relative]
  simp [null, nonempty, dot, dots, follow, isDirectory]

theorem read_eq_ok_iff (isName : IsName name) {bytes : Text.Bytes} :
    folder.read name = .ok bytes ↔ folder.file? [name] = some bytes := by
  rw [read, locate_of_isName folder isName, ok_bind]
  cases folder.file? [name] <;> simp [throw, throwThe, MonadExceptOf.throw, pure, Except.pure]

theorem write_of_isName (folder : Folder) (isName : IsName name) (bytes : Text.Bytes) :
    folder.write name bytes =
      if folder.isDirectory [name] then .error ⟨.isDirectory, name⟩
      else .ok ⟨putNamed [name] bytes folder.files⟩ := by
  rw [write, locate_of_isName folder isName, ok_bind]
  cases folder.isDirectory [name] <;> rfl

theorem file?_putFile_of_ne (folder : Folder) {place other : Path} (different : other ≠ place)
    (bytes : Text.Bytes) :
    file? ⟨putNamed place bytes folder.files⟩ other = folder.file? other := by
  obtain ⟨files⟩ := folder
  unfold file?
  induction files with
  | nil => simp [putNamed, Ne.symm different]
  | cons entry files induction =>
    by_cases same : entry.1 = place
    · simp [putNamed, same, Ne.symm different]
    · simp only [putNamed, if_neg same, List.find?_cons]
      by_cases found : entry.1 = other
      · simp [found]
      · simpa [found] using induction

end Name

end TypeSurvey.Folder
