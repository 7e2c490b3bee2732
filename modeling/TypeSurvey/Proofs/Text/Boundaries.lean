import TypeSurvey.Proofs.Text.Lines
import TypeSurvey.Proofs.Text.Split

/-!
# Lines between boundaries

The lines of a block are free of line boundaries, and only the empty text has none. If lines without
boundaries are put together with line feeds, these lines are found again, but perhaps for an empty
one at the end. Where all boundaries are single characters of a class, or a carriage return and a
line feed, the lines are among the pieces between the characters of this class.
-/

namespace TypeSurvey.Text

/-- Whether a text has no line boundary. -/
def IsOneLine (text : Text) : Prop := ∀ letter ∈ text, isLineBoundary letter = false

-- Instances for what holds of each character of a text are named: searched for, they may go through
-- all characters there are.
instance (text : Text) : Decidable (IsOneLine text) :=
  List.decidableBAll (fun letter => isLineBoundary letter = false) text

theorem isBlank_of_isLineBoundary {letter : Char} (boundary : isLineBoundary letter = true) :
    isBlank letter = true := by
  simp only [isLineBoundary, isBlank, Bool.or_eq_true, Bool.and_eq_true, decide_eq_true_eq,
    beq_iff_eq] at boundary ⊢
  omega

/-! ## The loop -/

section Loop

variable {line text rest : Text} {letter : Char}

theorem splitLinesFrom_cons (inside : isLineBoundary letter = false) :
    splitLinesFrom line (letter :: rest) = splitLinesFrom (letter :: line) rest := by
  rw [splitLinesFrom]
  · simp [inside]
  · rintro others rfl rfl
    exact absurd inside (by decide)

theorem splitLinesFrom_boundary (boundary : isLineBoundary letter = true)
    (single : letter = '\r' → rest.head? ≠ some '\n') :
    splitLinesFrom line (letter :: rest) = line.reverse :: splitLinesFrom [] rest := by
  rw [splitLinesFrom]
  · simp [boundary]
  · rintro others rfl rfl
    exact single rfl rfl

/-- A carriage return and a line feed are one boundary. -/
theorem splitLinesFrom_pair :
    splitLinesFrom line ('\r' :: '\n' :: rest) = line.reverse :: splitLinesFrom [] rest := by
  rw [splitLinesFrom]

/-- The cases of the loop: the end, a pair of boundaries, one boundary, and any other character. -/
theorem splitLinesFrom_induction {property : Text → Text → Prop}
    (nil : ∀ line, property line [])
    (pair : ∀ line rest, property [] rest → property line ('\r' :: '\n' :: rest))
    (boundary : ∀ line letter rest, isLineBoundary letter = true →
      (letter = '\r' → rest.head? ≠ some '\n') → property [] rest → property line (letter :: rest))
    (inside : ∀ line letter rest, isLineBoundary letter = false →
      property (letter :: line) rest → property line (letter :: rest))
    (line text : Text) : property line text := by
  induction line, text using splitLinesFrom.induct with
  | case1 line | case2 line => exact nil line
  | case3 line rest induction => exact pair line rest induction
  | case4 line letter rest single found induction =>
    refine boundary line letter rest found ?_ induction
    rintro rfl feed
    obtain ⟨others, rfl⟩ := List.head?_eq_some_iff.mp feed
    exact single others rfl rfl
  | case5 line letter rest _ other induction =>
    exact inside line letter rest (Bool.not_eq_true _ ▸ other) induction

/-- The characters of a line are those of the line that has begun, and others that are no
boundaries. -/
theorem mem_or_of_mem_splitLinesFrom {piece : Text} (member : piece ∈ splitLinesFrom line text)
    (found : letter ∈ piece) :
    letter ∈ line ∨ letter ∈ text ∧ isLineBoundary letter = false := by
  induction line, text using splitLinesFrom_induction with
  | nil line =>
    rw [splitLinesFrom] at member
    split_ifs at member
    · nomatch member
    · obtain rfl := List.mem_singleton.mp member
      exact .inl (List.mem_reverse.mp found)
  | pair line rest induction =>
    rw [splitLinesFrom_pair] at member
    rcases List.mem_cons.mp member with rfl | later
    · exact .inl (List.mem_reverse.mp found)
    · obtain ⟨inside, free⟩ := (induction later).resolve_left nofun
      exact .inr ⟨List.mem_cons_of_mem _ (List.mem_cons_of_mem _ inside), free⟩
  | boundary line first rest boundary single induction =>
    rw [splitLinesFrom_boundary boundary single] at member
    rcases List.mem_cons.mp member with rfl | later
    · exact .inl (List.mem_reverse.mp found)
    · obtain ⟨inside, free⟩ := (induction later).resolve_left nofun
      exact .inr ⟨List.mem_cons_of_mem _ inside, free⟩
  | inside line first rest other induction =>
    rw [splitLinesFrom_cons other] at member
    rcases induction member with before | ⟨inside, free⟩
    · rcases List.mem_cons.mp before with rfl | before
      · exact .inr ⟨List.mem_cons_self, other⟩
      · exact .inl before
    · exact .inr ⟨List.mem_cons_of_mem _ inside, free⟩

theorem splitLinesFrom_ne_nil (some : line ≠ [] ∨ text ≠ []) :
    splitLinesFrom line text ≠ [] := by
  induction line, text using splitLinesFrom_induction with
  | nil line =>
    have nonempty := some.resolve_right fun absent => absent rfl
    simp [splitLinesFrom, nonempty]
  | pair line rest induction =>
    rw [splitLinesFrom_pair]
    exact List.cons_ne_nil _ _
  | boundary line first rest boundary single induction =>
    rw [splitLinesFrom_boundary boundary single]
    exact List.cons_ne_nil _ _
  | inside line first rest other induction =>
    rw [splitLinesFrom_cons other]
    exact induction (.inl (List.cons_ne_nil _ _))

/-- Where a class has all boundaries of a text and no other character of the line that has begun,
the lines are pieces between the characters of this class. -/
theorem mem_splitOnP_of_mem_splitLinesFrom {separates : Char → Bool} {piece : Text}
    (free : ∀ letter ∈ line, separates letter = false)
    (covers : ∀ letter ∈ text, isLineBoundary letter = separates letter)
    (member : piece ∈ splitLinesFrom line text) :
    piece ∈ (line.reverse ++ text).splitOnP separates := by
  have begun {line : Text} (free : ∀ letter ∈ line, separates letter = false) :
      line.reverse.splitOnP separates = [line.reverse] :=
    List.splitOnP_eq_singleton fun letter inside => free letter (List.mem_reverse.mp inside)
  induction line, text using splitLinesFrom_induction with
  | nil line =>
    rw [splitLinesFrom] at member
    split_ifs at member
    · nomatch member
    · rwa [List.append_nil, begun free]
  | pair line rest induction =>
    have first : separates '\r' = true := by rw [← covers _ List.mem_cons_self]; rfl
    have second : separates '\n' = true := by
      rw [← covers _ (List.mem_cons_of_mem _ List.mem_cons_self)]
      rfl
    rw [splitLinesFrom_pair] at member
    rw [List.splitOnP_append_cons _ _ first, begun free]
    rcases List.mem_cons.mp member with rfl | later
    · exact List.mem_append_left _ List.mem_cons_self
    · have found := induction (List.forall_mem_nil _)
        (fun letter inside => covers letter (by simp [inside])) later
      refine List.mem_append_right _ ?_
      rw [List.splitOnP_cons_eq_if_modifyHead, if_pos second]
      exact List.mem_cons_of_mem _ found
  | boundary line letter rest boundary single induction =>
    have separator : separates letter = true := by
      rw [← covers _ List.mem_cons_self, boundary]
    rw [splitLinesFrom_boundary boundary single] at member
    rw [List.splitOnP_append_cons _ _ separator, begun free]
    rcases List.mem_cons.mp member with rfl | later
    · exact List.mem_append_left _ List.mem_cons_self
    · have found := induction (List.forall_mem_nil _)
        (fun letter inside => covers letter (by simp [inside])) later
      exact List.mem_append_right _ found
  | inside line letter rest other induction =>
    have kept : separates letter = false := by rw [← covers _ List.mem_cons_self, other]
    rw [splitLinesFrom_cons other] at member
    have found := induction (List.forall_mem_cons.mpr ⟨kept, free⟩)
      (fun letter inside => covers letter (List.mem_cons_of_mem _ inside)) member
    rwa [List.reverse_cons, List.append_assoc] at found

end Loop

/-! ## Lines of a block -/

section Lines

variable {text line : Text}

theorem splitLines_eq_nil_iff : splitLines text = [] ↔ text = [] := by
  constructor
  · intro none
    by_contra nonempty
    exact splitLinesFrom_ne_nil (.inr nonempty) none
  · rintro rfl
    rfl

theorem isOneLine_of_mem_splitLines (member : line ∈ splitLines text) : IsOneLine line :=
  fun _ found => ((mem_or_of_mem_splitLinesFrom member found).resolve_left nofun).2

theorem mem_splitOnP_of_mem_splitLines {separates : Char → Bool}
    (covers : ∀ letter ∈ text, isLineBoundary letter = separates letter)
    (member : line ∈ splitLines text) : line ∈ text.splitOnP separates :=
  mem_splitOnP_of_mem_splitLinesFrom (List.forall_mem_nil _) covers member

theorem splitLinesFrom_append (free : IsOneLine line) (begun rest : Text) :
    splitLinesFrom begun (line ++ rest) = splitLinesFrom (line.reverse ++ begun) rest := by
  induction line generalizing begun with
  | nil => rfl
  | cons letter line induction =>
    obtain ⟨here, later⟩ := List.forall_mem_cons.mp free
    rw [List.cons_append, splitLinesFrom_cons here, induction later, List.reverse_cons,
      List.append_assoc]
    rfl

theorem splitLines_of_isOneLine (free : IsOneLine line) :
    splitLines line = if line = [] then [] else [line] := by
  have whole := splitLinesFrom_append free [] []
  rw [List.append_nil, List.append_nil, splitLinesFrom, List.reverse_reverse] at whole
  simpa [splitLines] using whole

theorem splitLines_append_feed (free : IsOneLine line) (rest : Text) :
    splitLines (line ++ '\n' :: rest) = line :: splitLines rest := by
  rw [splitLines, splitLinesFrom_append free,
    splitLinesFrom_boundary (by decide) (absurd · (by decide))]
  simp [splitLines]

end Lines

/-! ## Lines put together -/

section Join

variable {lines : List Text}

theorem splitLines_join (free : ∀ line ∈ lines, IsOneLine line)
    (last : lines.getLast? ≠ some []) : splitLines (join ['\n'] lines) = lines := by
  induction lines with
  | nil => rfl
  | cons line lines induction =>
    obtain ⟨here, later⟩ := List.forall_mem_cons.mp free
    cases lines with
    | nil =>
      have nonempty : line ≠ [] := by
        rintro rfl
        exact last rfl
      rw [join, splitLines_of_isOneLine here, if_neg nonempty]
    | cons second lines =>
      have rest : (second :: lines).getLast? ≠ some [] := by
        rwa [List.getLast?_cons_cons] at last
      rw [join_cons_cons, List.append_assoc, List.singleton_append,
        splitLines_append_feed here, induction later rest]

theorem mem_join {separator piece : Text} {letter : Char} (member : piece ∈ lines)
    (inside : letter ∈ piece) : letter ∈ join separator lines := by
  induction lines with
  | nil => nomatch member
  | cons first lines induction =>
    cases lines with
    | nil => rwa [join, ← List.mem_singleton.mp member]
    | cons second lines =>
      rw [join_cons_cons, List.append_assoc]
      rcases List.mem_cons.mp member with rfl | later
      · exact List.mem_append_left _ inside
      · exact List.mem_append_right _ (List.mem_append_right _ (induction later))

theorem splitLines_join_subset (free : ∀ line ∈ lines, IsOneLine line) :
    splitLines (join ['\n'] lines) ⊆ lines := by
  induction lines with
  | nil => exact List.nil_subset _
  | cons line lines induction =>
    obtain ⟨here, later⟩ := List.forall_mem_cons.mp free
    cases lines with
    | nil =>
      rw [join, splitLines_of_isOneLine here]
      split_ifs
      · exact List.nil_subset _
      · exact List.Subset.refl _
    | cons second lines =>
      rw [join_cons_cons, List.append_assoc, List.singleton_append, splitLines_append_feed here]
      exact List.cons_subset_cons _ (induction later)

theorem free_of_mem_splitOnP {separates : Char → Bool} {text piece : Text}
    (member : piece ∈ text.splitOnP separates) : ∀ letter ∈ piece, separates letter = false := by
  intro letter inside
  simpa using List.of_mem_filter (subset_filter_of_mem_splitOnP member inside)

theorem splitOnP_join {separates : Char → Bool} (feed : separates '\n' = true)
    (nonempty : lines ≠ []) (free : ∀ line ∈ lines, ∀ letter ∈ line, separates letter = false) :
    (join ['\n'] lines).splitOnP separates = lines := by
  induction lines with
  | nil => exact absurd rfl nonempty
  | cons line lines induction =>
    obtain ⟨here, later⟩ := List.forall_mem_cons.mp free
    cases lines with
    | nil => exact List.splitOnP_eq_singleton here
    | cons second lines =>
      rw [join_cons_cons, List.append_assoc, List.singleton_append,
        List.splitOnP_append_cons _ _ feed, List.splitOnP_eq_singleton here,
        induction (List.cons_ne_nil _ _) later]
      rfl

end Join

end TypeSurvey.Text
