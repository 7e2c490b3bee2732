import TypeSurvey.Proofs.Task.Listing
import TypeSurvey.Proofs.Task.Refinement
import TypeSurvey.Task.Session

/-!
# Sessions line by line

A session is a machine that waits at a prompt for a line. A line may complete a command, which is
applied to the records, and it leads to another prompt or to the end. What the file holds after a
session, however it ends, are the records of the machine after all lines; the session ends without a
fault exactly if the line `4` was read at the menu.
-/

namespace TypeSurvey.Task

/-- What a session waits for. -/
inductive Prompt
  | menu
  | description
  | dueDate (description : Text)
  | category (description dueDate : Text)
  /-- A way to remove tasks. -/
  | removal
  | number
  | confirmation

/-- Where a session stands: at a prompt, or at its end. -/
inductive Stage
  | asking (prompt : Prompt)
  | ended (fault : Option SessionFault)

/-- The records so far, and where the session stands. -/
structure Progress where
  records : List Record
  stage : Stage

namespace Prompt

/-- The command that a line completes. -/
def command? : Prompt → Text → Option Command
  | category title date, line => some (.add ⟨title, date, line⟩)
  | number, line =>
    match Numeral.readInt line with
    | .integer value => some (.remove value)
    | _ => none
  | confirmation, line => if confirms line then some .clear else none
  | _, _ => none

/-- The stage after a choice from the menu. -/
def choose (records : List Record) (line : Text) : Stage :=
  if line = ['1'] then .asking description
  else if line = ['2'] then
    match (showListing (listing records)).2 with
    | .ok () => .asking menu
    | .error fault => .ended (some fault)
  else if line = ['3'] then .asking removal
  else if line = ['4'] then .ended none
  else .asking menu

def next (records : List Record) : Prompt → Text → Stage
  | menu, line => choose records line
  | description, line => .asking (dueDate line)
  | dueDate title, line => .asking (category title line)
  | category _ _, _ => .asking menu
  | removal, line =>
    if line = ['1'] then .asking number
    else if line = ['2'] then .asking confirmation
    else .asking menu
  | number, line =>
    match readId line with
    | .ok _ => .asking menu
    | .error fault => .ended (some (.value fault))
  | confirmation, _ => .asking menu

end Prompt

namespace Progress

/-- Reads a line. After the end no line is read. -/
def read (progress : Progress) (line : Text) : Progress :=
  match progress.stage with
  | .asking prompt =>
    ⟨(prompt.command? line).toList.foldl Command.apply progress.records,
      prompt.next progress.records line⟩
  | .ended _ => progress

/-- The fault when there are no further lines. -/
def fault (progress : Progress) : Option SessionFault :=
  match progress.stage with
  | .asking _ => some .endOfInput
  | .ended fault => fault

end Progress

/-- The progress of a session that begins with records. -/
def play (records : List Record) (lines : List Text) : Progress :=
  lines.foldl Progress.read ⟨records, .asking .menu⟩

theorem foldl_read_ended (records : List Record) (fault : Option SessionFault)
    (lines : List Text) :
    lines.foldl Progress.read ⟨records, .ended fault⟩ = ⟨records, .ended fault⟩ := by
  induction lines with
  | nil => rfl
  | cons line lines induction => exact induction

/-! ## Agreement -/

/-- Whether a session has left the records and the fault of a progress. -/
def Agrees (result : SessionResult) (progress : Progress) : Prop :=
  Holds result.folder progress.records ∧ result.fault = progress.fault

/-- Whether sessions with these lines go as they are played. -/
def Agreement (lines : List Text) : Prop :=
  ∀ ⦃folder records⦄, Holds folder records → Countable (records.length + lines.length) →
    Agrees (session folder lines) (play records lines)

theorem Agrees.after {result : SessionResult} {progress : Progress}
    (agrees : Agrees result progress) (output : Text) : Agrees (result.after output) progress :=
  agrees

theorem agreement_nil : Agreement [] :=
  fun _ _ holds _ => ⟨holds, rfl⟩

theorem agreement_add {lines : List Text}
    (shorter : ∀ rest : List Text, rest.length < lines.length → Agreement rest) :
    Agreement (['1'] :: lines) := by
  intro folder records holds countable
  rw [session.eq_def]
  match lines with
  | [] => exact ⟨holds, rfl⟩
  | [_] => exact ⟨holds, rfl⟩
  | [_, _] => exact ⟨holds, rfl⟩
  | description :: dueDate :: category :: rest =>
    simp only [List.length_cons] at countable
    obtain ⟨after, message, added, held⟩ :=
      add_of_holds holds ⟨description, dueDate, category⟩ (countable.of_le (by omega))
    have bound : (records ++ [Record.mk description dueDate category]).length + rest.length ≤
        records.length + (rest.length + 1 + 1 + 1 + 1) := by
      rw [List.length_append, List.length_singleton]
      omega
    have later := shorter rest (by simp only [List.length_cons]; omega) held
      (countable.of_le bound)
    simp only [added]
    exact later.after _

theorem agreement_list {lines : List Text} (later : Agreement lines) :
    Agreement (['2'] :: lines) := by
  intro folder records holds countable
  have shown : showTasks folder = showListing (listing records) := by
    rw [showTasks, list_of_holds holds]
  have played : play records (['2'] :: lines) =
      lines.foldl Progress.read ⟨records, Prompt.choose records ['2']⟩ := rfl
  rw [session.eq_def, played, Prompt.choose]
  simp only [List.cons.injEq, Char.reduceEq, false_and, reduceIte, shown]
  obtain ⟨output, result⟩ := showListing (listing records)
  cases result with
  | ok _ => exact (later holds (countable.of_le (by simp))).after _
  | error fault =>
    simp only [foldl_read_ended]
    exact ⟨holds, rfl⟩

theorem agreement_exit (lines : List Text) : Agreement (['4'] :: lines) := by
  intro folder records holds _
  have played : play records (['4'] :: lines) =
      lines.foldl Progress.read ⟨records, .ended none⟩ := rfl
  rw [session.eq_def, played, foldl_read_ended]
  exact ⟨holds, rfl⟩

theorem agreement_other {choice : Text} {lines : List Text} (later : Agreement lines)
    (other : choice ∉ [['1'], ['2'], ['3'], ['4']]) : Agreement (choice :: lines) := by
  intro folder records holds countable
  simp only [List.mem_cons, List.not_mem_nil, or_false, not_or] at other
  obtain ⟨first, second, third, fourth⟩ := other
  have played : play records (choice :: lines) = play records lines := by
    change lines.foldl Progress.read ⟨records, Prompt.choose records choice⟩ = _
    rw [Prompt.choose, if_neg first, if_neg second, if_neg third, if_neg fourth]
    rfl
  rw [session.eq_def, played]
  simp only [if_neg first, if_neg second, if_neg third, if_neg fourth]
  exact (later holds (countable.of_le (by simp))).after _

/-! ## Removal -/

theorem play_number (records : List Record) (line : Text) (rest : List Text) :
    play records (['3'] :: ['1'] :: line :: rest) =
      rest.foldl Progress.read ⟨(Prompt.number.command? line).toList.foldl Command.apply records,
        Prompt.number.next records line⟩ := rfl

/-- A line completes a removal if it denotes a number, and is a fault otherwise. -/
theorem readId_cases (line : Text) :
    (∃ number, readId line = .ok (.int number) ∧
      Prompt.number.command? line = some (.remove number)) ∨
    ∃ fault, readId line = .error fault ∧ Prompt.number.command? line = none := by
  rw [readId, Prompt.command?]
  cases Numeral.readInt line with
  | integer number => exact .inl ⟨number, rfl, rfl⟩
  | tooLong digits => exact .inr ⟨_, rfl, rfl⟩
  | malformed => exact .inr ⟨_, rfl, rfl⟩

theorem agreement_number {lines : List Text}
    (shorter : ∀ rest : List Text, rest.length < lines.length → Agreement rest) :
    Agreement (['3'] :: ['1'] :: lines) := by
  intro folder records holds countable
  rw [session.eq_def]
  cases lines with
  | nil => exact ⟨holds, rfl⟩
  | cons line rest =>
    simp only [List.length_cons] at countable
    rw [play_number, Prompt.next]
    simp only [List.cons.injEq, Char.reduceEq, false_and, reduceIte]
    rcases readId_cases line with ⟨number, read, complete⟩ | ⟨fault, unread, incomplete⟩
    · obtain ⟨after, message, removed, held⟩ :=
        remove_of_holds holds number (countable.of_le (by omega))
      have bound : (removeAt number records).length + rest.length ≤
          records.length + (rest.length + 1 + 1 + 1) := by
        have shrunk := length_removeAt_le number records
        omega
      have later := shorter rest (Nat.lt_succ_self _) held (countable.of_le bound)
      rw [read, complete]
      simp only [removed]
      exact later.after _
    · rw [unread, incomplete]
      simp only [foldl_read_ended]
      exact ⟨holds, rfl⟩

theorem agreement_confirmation {lines : List Text}
    (shorter : ∀ rest : List Text, rest.length < lines.length → Agreement rest) :
    Agreement (['3'] :: ['2'] :: lines) := by
  intro folder records holds countable
  obtain ⟨question, asked⟩ := askToClear_of_holds holds
  rw [session.eq_def]
  simp only [List.cons.injEq, Char.reduceEq, false_and, reduceIte, asked]
  cases lines with
  | nil => exact ⟨holds, rfl⟩
  | cons line rest =>
    have played : play records (['3'] :: ['2'] :: line :: rest) =
        play ((Prompt.confirmation.command? line).toList.foldl Command.apply records) rest := rfl
    simp only [List.length_cons] at countable
    rw [played]
    by_cases confirmed : confirms line = true
    · have complete : Prompt.confirmation.command? line = some .clear := by
        rw [Prompt.command?, if_pos confirmed]
      obtain ⟨after, message, cleared, held⟩ := clear_of_accessible holds.1
      have later := shorter rest (Nat.lt_succ_self _) held
        (countable.of_le (by simp only [List.length_nil]; omega))
      simp only [if_pos confirmed, cleared, complete]
      exact later.after _
    · have incomplete : Prompt.confirmation.command? line = none := by
        rw [Prompt.command?, if_neg confirmed]
      have later := shorter rest (Nat.lt_succ_self _) holds (countable.of_le (by omega))
      simp only [if_neg confirmed, incomplete]
      exact later.after _

theorem agreement_otherRemoval {way : Text} {lines : List Text} (later : Agreement lines)
    (first : way ≠ ['1']) (second : way ≠ ['2']) : Agreement (['3'] :: way :: lines) := by
  intro folder records holds countable
  have played : play records (['3'] :: way :: lines) = play records lines := by
    change lines.foldl Progress.read ⟨records, Prompt.removal.next records way⟩ = _
    rw [Prompt.next, if_neg first, if_neg second]
    rfl
  rw [session.eq_def, played]
  simp only [if_neg first, if_neg second]
  exact (later holds (countable.of_le (by simp; omega))).after _

theorem agreement_removal {lines : List Text}
    (shorter : ∀ rest : List Text, rest.length ≤ lines.length → Agreement rest) :
    Agreement (['3'] :: lines) := by
  cases lines with
  | nil =>
    intro folder records holds _
    rw [session.eq_def]
    exact ⟨holds, rfl⟩
  | cons way lines =>
    have fewer : ∀ rest : List Text, rest.length < lines.length → Agreement rest :=
      fun rest less => shorter rest (Nat.le_succ_of_le (Nat.le_of_lt less))
    by_cases first : way = ['1']
    · rw [first]
      exact agreement_number fewer
    · by_cases second : way = ['2']
      · rw [second]
        exact agreement_confirmation fewer
      · exact agreement_otherRemoval (shorter lines (Nat.le_succ _)) first second

/-! ## Whole sessions -/

/-- Every session goes as it is played. -/
theorem agreement (lines : List Text) : Agreement lines := by
  -- A command takes up to four lines, so the induction is on their number.
  induction count : lines.length using Nat.strong_induction_on generalizing lines with
  | _ count induction =>
    cases lines with
    | nil => exact agreement_nil
    | cons choice lines =>
      have shorter : ∀ rest : List Text, rest.length ≤ lines.length → Agreement rest := by
        intro rest less
        refine induction rest.length ?_ rest rfl
        rw [← count, List.length_cons]
        exact Nat.lt_succ_of_le less
      have later := shorter lines (Nat.le_refl _)
      by_cases known : choice ∈ [['1'], ['2'], ['3'], ['4']]
      · simp only [List.mem_cons, List.not_mem_nil, or_false] at known
        rcases known with rfl | rfl | rfl | rfl
        · exact agreement_add fun rest less => shorter rest (Nat.le_of_lt less)
        · exact agreement_list later
        · exact agreement_removal shorter
        · exact agreement_exit lines
      · exact agreement_other later known

/-! ## Leaving -/

/-- A session leaves without a fault by one line only. -/
theorem next_eq_ended_none {records : List Record} {prompt : Prompt} {line : Text} :
    prompt.next records line = .ended none ↔ prompt = .menu ∧ line = ['4'] := by
  constructor
  · intro left
    cases prompt with
    | menu =>
      rw [Prompt.next, Prompt.choose] at left
      split_ifs at left with first second third fourth
      · cases outcome : (showListing (listing records)).2 with
        | ok _ =>
          rw [outcome] at left
          nomatch left
        | error fault =>
          rw [outcome] at left
          nomatch left
      · exact ⟨rfl, fourth⟩
    | removal =>
      rw [Prompt.next] at left
      split_ifs at left
    | number =>
      rw [Prompt.next] at left
      cases outcome : readId line with
      | ok _ =>
        rw [outcome] at left
        nomatch left
      | error fault =>
        rw [outcome] at left
        nomatch left
    | description => nomatch left
    | dueDate _ => nomatch left
    | category _ _ => nomatch left
    | confirmation => nomatch left
  · rintro ⟨rfl, rfl⟩
    rfl

/-- A line stands at the front of a list, or in the rest of it. -/
theorem exists_split_cons {mark line : Text} {lines : List Text} {property : List Text → Prop} :
    (∃ before after, line :: lines = before ++ mark :: after ∧ property before) ↔
      line = mark ∧ property [] ∨
        ∃ before after, lines = before ++ mark :: after ∧ property (line :: before) := by
  constructor
  · rintro ⟨before, after, split, known⟩
    cases before with
    | nil =>
      obtain ⟨rfl, -⟩ := List.cons.inj split
      exact .inl ⟨rfl, known⟩
    | cons first before =>
      obtain ⟨rfl, rest⟩ := List.cons.inj split
      exact .inr ⟨before, after, rest, known⟩
  · rintro (⟨rfl, known⟩ | ⟨before, after, rfl, known⟩)
    · exact ⟨[], lines, rfl, known⟩
    · exact ⟨line :: before, after, rfl, known⟩

theorem fault_foldl_read_eq_none (lines : List Text) (records : List Record) (prompt : Prompt) :
    (lines.foldl Progress.read ⟨records, .asking prompt⟩).fault = none ↔
      ∃ before after, lines = before ++ ['4'] :: after ∧
        (before.foldl Progress.read ⟨records, .asking prompt⟩).stage = .asking .menu := by
  induction lines generalizing records prompt with
  | nil => simp [Progress.fault]
  | cons line lines induction =>
    have step : Progress.read ⟨records, .asking prompt⟩ line =
        ⟨(prompt.command? line).toList.foldl Command.apply records,
          prompt.next records line⟩ := rfl
    have leaves := @next_eq_ended_none records prompt line
    rw [exists_split_cons]
    simp only [List.foldl_cons, List.foldl_nil, step, Stage.asking.injEq]
    cases stage : prompt.next records line with
    | asking other =>
      rw [induction]
      have stays : ¬ (line = ['4'] ∧ prompt = .menu) := by
        rintro ⟨exit, start⟩
        rw [leaves.mpr ⟨start, exit⟩] at stage
        nomatch stage
      simp only [stays, false_or]
    | ended fault =>
      simp only [foldl_read_ended, Progress.fault, reduceCtorEq, and_false, exists_false,
        or_false]
      rw [and_comm, ← leaves, stage, Stage.ended.injEq]

/-! ## Durability -/

/-- However a session ends, the file holds the records at the start with the completed commands
applied in their order, and the session ends with the fault of the machine. It ends without one if
and only if the line `4` is read at the menu. -/
theorem session_durable {folder : Folder} {records : List Record}
    (start : folder.contains storePath = false ∧ records = [] ∨ Holds folder records)
    (lines : List Text) (countable : Countable (records.length + lines.length)) :
    Holds (session folder lines).folder (play records lines).records ∧
      (session folder lines).fault = (play records lines).fault ∧
      ((session folder lines).fault = none ↔
        ∃ before after, lines = before ++ ['4'] :: after ∧
          (play records before).stage = .asking .menu) := by
  obtain ⟨held, fault⟩ := agreement lines (holds_of_start start) countable
  refine ⟨held, fault, ?_⟩
  rw [fault]
  exact fault_foldl_read_eq_none lines records .menu

/-- Lines in which one text is a choice, a description and a number. -/
def repeatedLines : List Text :=
  ["1", "4", "4", "1", "9", "1", "buy \"milk\"", "2024-01-02", "é", "3", "1", "+0_7",
    "3", "1", " 1 ", "3", "2", "no", "4", "3", "2", "yes"].map String.toList

theorem session_durable_repeatedLines :
    Holds (session Folder.empty repeatedLines).folder
      [⟨"buy \"milk\"".toList, "2024-01-02".toList, ['é']⟩] ∧
      (session Folder.empty repeatedLines).fault = none := by
  have missing : Folder.empty.contains storePath = false := by decide
  have played : (play [] repeatedLines).records =
      [⟨"buy \"milk\"".toList, "2024-01-02".toList, ['é']⟩] := by decide
  have left : (play [] repeatedLines).fault = none := rfl
  obtain ⟨held, fault, -⟩ :=
    session_durable (.inl ⟨missing, rfl⟩) repeatedLines (by decide +kernel)
  rw [played] at held
  exact ⟨held, fault.trans left⟩

end TypeSurvey.Task
