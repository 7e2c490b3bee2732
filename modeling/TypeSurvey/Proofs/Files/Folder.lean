import TypeSurvey.Files.Folder
import TypeSurvey.Proofs.Outcome
import TypeSurvey.Proofs.Text.Utf8

/-!
# Files that were written

A file that was written holds what was written, and no directory disappears. A text without carriage
returns is read back as it is.
-/

namespace TypeSurvey

/-- A text without carriage returns is the same with all line ends made one character. -/
theorem Text.normalizeNewlines_of_notMem {text : Text} (clean : '\r' ∉ text) :
    normalizeNewlines text = text := by
  induction text with
  | nil => rfl
  | cons letter text induction =>
    simp only [List.mem_cons, not_or] at clean
    rw [normalizeNewlines]
    · rw [induction clean.2]
    · exact fun _ equality _ => clean.1 equality.symm
    · exact fun equality => clean.1 equality.symm

namespace Folder

/-! ## One file put among others -/

theorem file?_putFile (folder : Folder) (place : Path) (bytes : Text.Bytes) :
    file? ⟨putNamed place bytes folder.files⟩ place = some bytes := by
  obtain ⟨files⟩ := folder
  rw [file?]
  induction files with
  | nil => simp [putNamed]
  | cons entry files induction =>
    by_cases same : entry.1 = place
    · simp [putNamed, same]
    · simpa [putNamed, same] using induction

/-- Besides the directories that were there, there are those on the way to the new file. -/
theorem isDirectory_putFile (folder : Folder) (place path : Path) (bytes : Text.Bytes) :
    isDirectory ⟨putNamed place bytes folder.files⟩ path =
      (folder.isDirectory path || (path.isPrefixOf place && place != path)) := by
  obtain ⟨files⟩ := folder
  simp only [isDirectory, Bool.or_assoc]
  congr 1
  induction files with
  | nil => simp [putNamed]
  | cons entry files induction =>
    by_cases same : entry.1 = place
    · subst same
      simp only [putNamed, if_true, List.any_cons]
      cases path.isPrefixOf entry.1 && entry.1 != path <;> simp
    · simp only [putNamed, if_neg same, List.any_cons, induction, Bool.or_assoc]

theorem isDirectory_putFile_self (folder : Folder) (place : Path) (bytes : Text.Bytes) :
    isDirectory ⟨putNamed place bytes folder.files⟩ place = folder.isDirectory place := by
  rw [isDirectory_putFile, bne_self_eq_false, Bool.and_false, Bool.or_false]

/-- A path that leads somewhere leads there also after a file was written. -/
theorem follow_putFile {folder : Folder} {start place : Path} {parts : List Text}
    (leads : folder.follow start parts = .ok place) (target : Path) (bytes : Text.Bytes) :
    follow ⟨putNamed target bytes folder.files⟩ start parts = .ok place := by
  induction parts generalizing start with
  | nil => exact leads
  | cons part parts induction =>
    rw [follow] at leads ⊢
    by_cases directory : folder.isDirectory start = true
    · have still : isDirectory ⟨putNamed target bytes folder.files⟩ start = true := by
        rw [isDirectory_putFile, directory, Bool.true_or]
      rw [directory] at leads
      rw [still]
      simp only [Bool.not_true, Bool.false_eq_true, if_false] at leads ⊢
      split_ifs at leads ⊢ with here back root
      · exact induction leads
      · exact induction leads
      · exact induction leads
    · simp [directory] at leads

theorem locate_putFile {folder : Folder} {path : Text} {place : Path}
    (leads : folder.locate path = .ok place) (target : Path) (bytes : Text.Bytes) :
    locate ⟨putNamed target bytes folder.files⟩ path = .ok place := by
  rw [locate] at leads ⊢
  split_ifs at leads ⊢ with null absolute
  cases followed : folder.follow [] (Text.split ['/'] path) with
  | error cause => simp [followed] at leads
  | ok found =>
    simp only [followed, Except.ok.injEq] at leads
    subst leads
    simp only [follow_putFile followed]

/-! ## Reading after writing -/

/-- To write a file is to put it at its place, in a directory and where no directory is. -/
theorem write_eq_ok_iff {folder after : Folder} {path : Text} {bytes : Text.Bytes} :
    folder.write path bytes = .ok after ↔
      ∃ place, folder.locate path = .ok place ∧ folder.isDirectory place = false ∧
        folder.isDirectory place.dropLast = true ∧ after = ⟨putNamed place bytes folder.files⟩ := by
  rw [write, bind_eq_ok]
  refine exists_congr fun place => and_congr_right fun _ => ?_
  cases folder.isDirectory place <;> cases folder.isDirectory place.dropLast <;>
    simp [throw, throwThe, MonadExceptOf.throw, bind, Except.bind, pure, Except.pure, eq_comm]

theorem write_eq_ok {folder after : Folder} {path : Text} {bytes : Text.Bytes}
    (written : folder.write path bytes = .ok after) :
    ∃ place, folder.locate path = .ok place ∧ folder.isDirectory place = false ∧
      after = ⟨putNamed place bytes folder.files⟩ := by
  obtain ⟨place, located, free, -, shape⟩ := write_eq_ok_iff.mp written
  exact ⟨place, located, free, shape⟩

/-- Whether a file can be written at a path: the path leads into a directory, to a place where no
directory is. -/
def Writable (folder : Folder) (path : Text) : Prop :=
  ∃ place, folder.locate path = .ok place ∧ folder.isDirectory place = false ∧
    folder.isDirectory place.dropLast = true

theorem writable_of_write {folder after : Folder} {path : Text} {bytes : Text.Bytes}
    (written : folder.write path bytes = .ok after) : folder.Writable path := by
  obtain ⟨place, located, free, parent, -⟩ := write_eq_ok_iff.mp written
  exact ⟨place, located, free, parent⟩

theorem Writable.exists_write {folder : Folder} {path : Text} (writable : folder.Writable path)
    (bytes : Text.Bytes) : ∃ after, folder.write path bytes = .ok after := by
  obtain ⟨place, located, free, parent⟩ := writable
  exact ⟨_, write_eq_ok_iff.mpr ⟨place, located, free, parent, rfl⟩⟩

theorem read_of_write {folder after : Folder} {path : Text} {bytes : Text.Bytes}
    (written : folder.write path bytes = .ok after) : after.read path = .ok bytes := by
  obtain ⟨place, located, -, rfl⟩ := write_eq_ok written
  simp only [read, locate_putFile located, ok_bind, file?_putFile]
  rfl

theorem contains_of_write {folder after : Folder} {path : Text} {bytes : Text.Bytes}
    (written : folder.write path bytes = .ok after) : after.contains path = true := by
  obtain ⟨place, located, -, rfl⟩ := write_eq_ok written
  rw [contains, locate_putFile located]
  simp [file?_putFile]

theorem readText_of_writeText {folder after : Folder} {path text : Text}
    (written : folder.writeText path text = .ok after) (clean : '\r' ∉ text) :
    after.readText path = .ok text := by
  rw [readText, read_of_write written]
  simp only [Text.decodeUtf8_encodeUtf8, Text.normalizeNewlines_of_notMem clean]

end Folder

end TypeSurvey
