import TypeSurvey.Proofs.Document.Loadable
import TypeSurvey.Proofs.Document.RoundTrip
import TypeSurvey.Proofs.Files.Folder
import TypeSurvey.Task.Store

/-!
# The file of the tasks keeps what was saved

Unless a directory stands in its place, the file can be written. A value of the format is loaded as
it was saved, with its entries in their order and its real numbers to the last digit. What a file
holds is kept when it is loaded and saved again, however it was written.
-/

namespace TypeSurvey.Task

open Document

/-- Whether there is a file or nothing at the path of the tasks. -/
def Accessible (folder : Folder) : Prop := folder.isDirectory [storePath] = false

instance (folder : Folder) : Decidable (Accessible folder) :=
  inferInstanceAs (Decidable (folder.isDirectory [storePath] = false))

theorem locate_storePath (folder : Folder) : folder.locate storePath = .ok [storePath] := by
  have parts : Text.split ['/'] storePath = [storePath] := by decide
  have null : storePath.contains '\x00' = false := by decide
  have relative : (storePath.isEmpty || storePath.head? == some '/') = false := by decide
  have name : (storePath.isEmpty || storePath == ['.']) = false := by decide
  have forward : (storePath == ['.', '.']) = false := by decide
  rw [Folder.locate, null, relative, parts]
  simp [Folder.follow, Folder.isDirectory, name, forward]

/-- Where there is no directory the file can be written, and it stays accessible. -/
theorem writeText_storePath {folder : Folder} (accessible : Accessible folder) (text : Text) :
    ∃ after, folder.writeText storePath text = .ok after ∧ Accessible after := by
  refine ⟨⟨putNamed [storePath] (Text.encodeUtf8 text) folder.files⟩, ?_, ?_⟩
  · have root : folder.isDirectory [storePath].dropLast = true := rfl
    rw [Folder.writeText, Folder.write, locate_storePath]
    change (if folder.isDirectory [storePath] = true then _ else _) = _
    rw [accessible, root]
    rfl
  · rw [Accessible, Folder.isDirectory_putFile_self]
    exact accessible

theorem load_of_writeText {folder after : Folder} {text : Text} {value : Value}
    (written : folder.writeText storePath text = .ok after) (clean : '\r' ∉ text)
    (decoded : decode text = .ok value) : load after = .ok value := by
  rw [load, if_pos (Folder.contains_of_write written), Folder.readText_of_writeText written clean]
  simp only [decoded]
  rfl

theorem load_of_save_rounded {folder : Folder} (accessible : Accessible folder) {value : Value}
    (rounded : Rounded value) :
    ∃ after, save folder value = (after, .ok ()) ∧ Accessible after ∧ load after = .ok value := by
  obtain ⟨after, written, still⟩ := writeText_storePath accessible (encode value).text
  have clean : '\r' ∉ (encode value).text := by
    rw [rounded.encode_eq]
    exact rounded.return_notMem 0
  have faultless : (encode value).fault = none := rounded.accepts
  refine ⟨after, ?_, still, load_of_writeText written clean (decode_encode rounded)⟩
  rw [save]
  simp only [written, faultless]

theorem load_of_save {folder : Folder} (accessible : Accessible folder) {value : Value}
    (plain : Plain value) :
    ∃ after, save folder value = (after, .ok ()) ∧ Accessible after ∧ load after = .ok value :=
  load_of_save_rounded accessible plain.rounded

/-- What is loaded from the file is a value of the format with rounded numbers. -/
theorem rounded_of_load {folder : Folder} {value : Value} (loaded : load folder = .ok value) :
    Rounded value := by
  unfold load at loaded
  split at loaded
  · split at loaded
    · simp at loaded
    · exact rounded_of_decode (mapError_eq_ok.mp loaded)
  · obtain rfl := Except.ok.inj loaded
    exact .list [] (by simp)

theorem loadable_of_load {folder : Folder} {value : Value} (loaded : load folder = .ok value) :
    Loadable value :=
  (rounded_of_load loaded).loadable

/-- Persistence: what is saved is loaded again, and what was loaded is kept by saving it. -/
theorem persistence {folder : Folder} (accessible : Accessible folder) :
    (∀ value, Plain value →
      ∃ after, save folder value = (after, .ok ()) ∧ load after = .ok value) ∧
    (∀ value, load folder = .ok value → FloatFree value →
      ∃ after, save folder value = (after, .ok ()) ∧ load after = .ok value) := by
  constructor
  · intro value plain
    obtain ⟨after, saved, -, loaded⟩ := load_of_save accessible plain
    exact ⟨after, saved, loaded⟩
  · intro value loaded free
    have plain : Plain value := (loadable_of_load loaded).plain free
    obtain ⟨after, saved, -, again⟩ := load_of_save accessible plain
    exact ⟨after, saved, again⟩

/-- A folder whose file has spaces and line ends of its own, keys that are halves of pairs, and one
of them twice. -/
def untidyFolder : Folder :=
  ⟨[([storePath], Text.encodeUtf8
    " [null ,\t\x7b\"\\ud800\":[ ], \"\\uD801\":0,\"\\ud801\" :-12\r\n\x7d]".toList)]⟩

/-- The value in the untidy file. -/
def untidyValue : Value :=
  .list [.none, .dict (Value.wideKeyed
    [(.ofPoint (.half 0), .list []), (.ofPoint (.half 1), .int (-12))])]

/-- Whether a value is the one in the untidy file, so that it can be evaluated. -/
def isUntidy : Value → Bool
  | .list [.none, .dict [(.halved first, .list []), (.halved second, .int number)]] =>
    first.points == [.half 0] && second.points == [.half 1] && number == -12
  | _ => false

theorem eq_of_isUntidy {value : Value} (same : isUntidy value = true) : value = untidyValue := by
  unfold isUntidy at same
  split at same
  · next first second number =>
    obtain ⟨points, _, _⟩ := first
    obtain ⟨others, _, _⟩ := second
    simp only [Bool.and_eq_true, beq_iff_eq] at same
    obtain ⟨⟨rfl, rfl⟩, rfl⟩ := same
    rfl
  · cases same

/-- Another value, with texts that are written by escapes and keys in no order. -/
def escapedValue : Value :=
  .dict (Value.keyed [(['b'], .list [.bool true, .dict []]), (['"', '\n'], .str "é😀".toList)])

theorem plain_escapedValue : Plain escapedValue := by
  refine .keyed (by decide) fun entry member => ?_
  simp only [List.mem_cons, List.not_mem_nil, or_false] at member
  rcases member with rfl | rfl
  · refine .list _ fun item member => ?_
    simp only [List.mem_cons, List.not_mem_nil, or_false] at member
    rcases member with rfl | rfl
    · exact .bool true
    · exact .dict [] List.nodup_nil (by simp)
  · exact .str _

theorem floatFree_untidyValue : FloatFree untidyValue := by
  intro real inside
  unfold untidyValue at inside
  cases inside with
  | item member inside =>
    rcases List.mem_pair.mp member with rfl | rfl
    · cases inside
    · cases inside with
      | entry member inside =>
        rcases List.mem_pair.mp member with rfl | rfl
        · cases inside with
          | item member _ => cases member
        · cases inside

theorem persistence_untidy :
    (∃ after, save untidyFolder escapedValue = (after, .ok ()) ∧ load after = .ok escapedValue) ∧
    load untidyFolder = .ok untidyValue ∧
    ∃ after, save untidyFolder untidyValue = (after, .ok ()) ∧ load after = .ok untidyValue := by
  have accessible : Accessible untidyFolder := by decide
  have loaded : load untidyFolder = .ok untidyValue := by
    have found : (load untidyFolder).toOption.any isUntidy = true := by decide +kernel
    obtain ⟨value, some, same⟩ := (Option.any_eq_true _ _).mp found
    exact eq_of_isUntidy same ▸ eq_ok_of_toOption some
  obtain ⟨saved, kept⟩ := persistence accessible
  exact ⟨saved _ plain_escapedValue, loaded, kept _ loaded floatFree_untidyValue⟩

end TypeSurvey.Task
