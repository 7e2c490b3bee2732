import TypeSurvey.Text.Wrap
import TypeSurvey.Proofs.Text.Ink

/-!
# Chunks of a text to be wrapped

Before a text is cut into chunks, its white space is made uniform. The chunks are never empty and
give the text back. A chunk ends next to white space or next to a hyphen, or where the text ends.
-/

namespace TypeSurvey.Text

/-! ## White space made uniform -/

theorem isBlank_of_isGap {letter : Char} (gap : isGap letter = true) : isBlank letter = true := by
  simp only [isGap, Bool.or_eq_true, beq_iff_eq, Bool.and_eq_true, decide_eq_true_eq] at gap
  rcases gap with rfl | ⟨least, most⟩
  · decide
  · simp [isBlank, least, most]

/-- Whether one text comes from another by putting spaces for white space. -/
inductive Respaced : Text → Text → Prop
  | nil : Respaced [] []
  | keep (letter : Char) {text spaced : Text} (rest : Respaced text spaced) :
      Respaced (letter :: text) (letter :: spaced)
  | space {letter : Char} (gap : isGap letter = true) (count : Nat) {text spaced : Text}
      (rest : Respaced text spaced) : Respaced (letter :: text) (List.replicate count ' ' ++ spaced)

namespace Respaced

variable {text spaced : Text}

theorem refl (text : Text) : Respaced text text := by
  induction text with
  | nil => exact .nil
  | cons letter text induction => exact .keep letter induction

theorem ink_eq (respaced : Respaced text spaced) : ink spaced = ink text := by
  induction respaced with
  | nil => rfl
  | keep letter rest induction =>
    rw [← List.singleton_append, ink_append, induction, ← ink_append, List.singleton_append]
  | @space letter gap count text spaced rest induction =>
    have blank : ink [letter] = [] := by
      simp [ink, isBlank_of_isGap gap]
    rw [ink_append, ink_replicate_blank, List.nil_append, induction,
      ← List.singleton_append, ink_append, blank, List.nil_append]

theorem mem_or (respaced : Respaced text spaced) {letter : Char} (member : letter ∈ spaced) :
    letter = ' ' ∨ letter ∈ text := by
  induction respaced with
  | nil => cases member
  | keep first rest induction =>
    rcases List.mem_cons.mp member with rfl | member
    · exact .inr List.mem_cons_self
    · exact (induction member).imp_right (List.mem_cons_of_mem first)
  | space gap count rest induction =>
    rcases List.mem_append.mp member with space | member
    · exact .inl (List.eq_of_mem_replicate space)
    · exact (induction member).imp_right (List.mem_cons_of_mem _)

/-- Characters that are not white space stay. -/
theorem exists_append {front : Text} (solid : ∀ letter ∈ front, isGap letter = false)
    (respaced : Respaced (front ++ text) spaced) :
    ∃ rest, spaced = front ++ rest ∧ Respaced text rest := by
  induction front generalizing spaced with
  | nil => exact ⟨spaced, rfl, respaced⟩
  | cons letter front induction =>
    cases respaced with
    | keep _ rest =>
      obtain ⟨others, rfl, respaced⟩ :=
        induction (fun other member => solid other (List.mem_cons_of_mem _ member)) rest
      exact ⟨others, rfl, respaced⟩
    | space gap =>
      rw [solid letter List.mem_cons_self] at gap
      cases gap

end Respaced

theorem respaced_expandTabs (size : Nat) (text : Text) : Respaced text (expandTabs size text) := by
  suffices from_column : ∀ column, Respaced text (expandTabs.go size column text) from
    from_column 0
  intro column
  induction text generalizing column with
  | nil => exact .nil
  | cons letter text induction =>
    by_cases tab : letter = '\t'
    · subst tab
      exact .space rfl _ (induction _)
    · rw [expandTabs.go]
      · exact .keep letter (induction _)
      · exact tab

theorem respaced_map (text : Text) :
    Respaced text (text.map fun letter => if isGap letter then ' ' else letter) := by
  induction text with
  | nil => exact .nil
  | cons letter text induction =>
    rw [List.map_cons]
    split_ifs with gap
    · exact .space gap 1 induction
    · exact .keep letter induction

/-- White space is made uniform in two passes at most. -/
theorem respaced_smooth (options : WrapOptions) (text : Text) :
    ∃ tabless, Respaced text tabless ∧ Respaced tabless (smooth options text) := by
  have tabs : Respaced text
      (if options.expandsTabs then expandTabs options.tabSize.toNat text else text) := by
    split_ifs
    · exact respaced_expandTabs _ text
    · exact .refl text
  refine ⟨_, tabs, ?_⟩
  unfold smooth
  generalize (if options.expandsTabs then expandTabs options.tabSize.toNat text else text) = tabless
  dsimp only
  split_ifs
  · exact respaced_map tabless
  · exact .refl tabless

@[simp]
theorem ink_smooth (options : WrapOptions) (text : Text) :
    ink (smooth options text) = ink text := by
  obtain ⟨tabless, tabs, others⟩ := respaced_smooth options text
  exact others.ink_eq.trans tabs.ink_eq

theorem mem_or_of_mem_smooth {options : WrapOptions} {text : Text} {letter : Char}
    (member : letter ∈ smooth options text) : letter = ' ' ∨ letter ∈ text := by
  obtain ⟨tabless, tabs, others⟩ := respaced_smooth options text
  exact (others.mem_or member).elim .inl tabs.mem_or

/-! ## The end of a chunk -/

/-- The characters before and after which a chunk may end. -/
def isBreak (letter : Char) : Bool := letter == '-' || isGap letter

/-- Whether a line may be broken between two texts. -/
def Parted (front back : Text) : Prop :=
  back = [] ∨ (∃ letter ∈ front.getLast?, isBreak letter = true) ∨
    ∃ letter ∈ back.head?, isBreak letter = true

theorem Parted.cons {front back : Text} (parted : Parted front back) (letter : Char) :
    Parted (letter :: front) back := by
  refine parted.imp_right (Or.imp_left ?_)
  rintro ⟨last, here, breaks⟩
  have before : (letter :: front).getLast? = some last := by
    rw [List.getLast?_cons, Option.mem_def.mp here]
    rfl
  exact ⟨last, before, breaks⟩

theorem parted_of_forall {front : Text} (nonempty : front ≠ [])
    (breaks : ∀ letter ∈ front, isBreak letter = true) (back : Text) : Parted front back :=
  .inr (.inl ⟨front.getLast nonempty, List.getLast?_eq_some_getLast nonempty,
    breaks _ (List.getLast_mem nonempty)⟩)

theorem restOfWord_append (before text : Text) :
    (restOfWord before text).1 ++ (restOfWord before text).2 = text := by
  induction text generalizing before with
  | nil => rfl
  | cons letter text induction =>
    rw [restOfWord]
    split_ifs with hyphen gap dash
    · simp only [Bool.and_eq_true, beq_iff_eq] at hyphen
      rw [hyphen.1.1]
      rfl
    · rfl
    · rfl
    · exact congrArg (List.cons letter) (induction _)

theorem isBreak_of_startsDash {letter : Char} {text : Text}
    (dash : startsDash (letter :: text) = true) : letter = '-' := by
  by_contra other
  have none : (letter :: text).takeWhile (· == '-') = [] :=
    List.takeWhile_cons_of_neg (by simpa using other)
  simp [startsDash, none] at dash

theorem parted_restOfWord (before text : Text) :
    Parted (restOfWord before text).1 (restOfWord before text).2 := by
  induction text generalizing before with
  | nil => exact .inl rfl
  | cons letter text induction =>
    rw [restOfWord]
    split_ifs with hyphen gap dash
    · exact .inr (.inl ⟨'-', rfl, rfl⟩)
    · exact .inr (.inr ⟨letter, rfl, by simp [isBreak, gap]⟩)
    · simp only [Bool.and_eq_true] at dash
      exact .inr (.inr ⟨letter, rfl, by simp [isBreak, isBreak_of_startsDash dash.2]⟩)
    · exact (induction _).cons letter

/-! ## Chunks -/

theorem nextChunk_append (before text : Text) :
    (nextChunk before text).1 ++ (nextChunk before text).2 = text := by
  cases text with
  | nil => rfl
  | cons letter text =>
    rw [nextChunk]
    split_ifs
    · exact List.takeWhile_append_dropWhile
    · exact List.takeWhile_append_dropWhile
    · exact congrArg (List.cons letter) (restOfWord_append _ _)

theorem nextChunk_ne_nil (before : Text) {text : Text} (nonempty : text ≠ []) :
    (nextChunk before text).1 ≠ [] := by
  obtain ⟨letter, text, rfl⟩ := List.exists_cons_of_ne_nil nonempty
  rw [nextChunk]
  split_ifs with gap dash
  · rw [List.takeWhile_cons_of_pos gap]
    exact List.cons_ne_nil _ _
  · simp only [Bool.and_eq_true] at dash
    rw [List.takeWhile_cons_of_pos (by simp [isBreak_of_startsDash dash.2])]
    exact List.cons_ne_nil _ _
  · exact List.cons_ne_nil _ _

theorem parted_nextChunk (before text : Text) :
    Parted (nextChunk before text).1 (nextChunk before text).2 := by
  cases text with
  | nil => exact .inl rfl
  | cons letter text =>
    have nonempty := nextChunk_ne_nil before (List.cons_ne_nil letter text)
    rw [nextChunk] at nonempty ⊢
    split_ifs at nonempty ⊢ with gap dash
    · refine parted_of_forall nonempty (fun other member => ?_) _
      simp [isBreak, List.mem_takeWhile_imp member]
    · refine parted_of_forall nonempty (fun other member => ?_) _
      have hyphen := List.mem_takeWhile_imp member
      simp [isBreak, hyphen]
    · exact (parted_restOfWord _ _).cons letter

theorem chunksFrom_cons (fuel : Nat) (before : Text) (letter : Char) (text : Text) :
    chunksFrom (fuel + 1) before (letter :: text) =
      (nextChunk before (letter :: text)).1 ::
        chunksFrom fuel ((nextChunk before (letter :: text)).1.reverse ++ before)
          (nextChunk before (letter :: text)).2 :=
  rfl

theorem flatten_chunksFrom {fuel : Nat} {text : Text} (enough : text.length ≤ fuel)
    (before : Text) : (chunksFrom fuel before text).flatten = text := by
  induction fuel generalizing before text with
  | zero => rw [List.eq_nil_of_length_eq_zero (Nat.le_zero.mp enough), chunksFrom, List.flatten_nil]
  | succ fuel induction =>
    cases text with
    | nil => rfl
    | cons letter text =>
      have parts := nextChunk_append before (letter :: text)
      have some := List.length_pos_of_ne_nil
        (nextChunk_ne_nil before (List.cons_ne_nil letter text))
      have shorter := congrArg List.length parts
      rw [List.length_append] at shorter
      rw [chunksFrom_cons, List.flatten_cons, induction (by omega), parts]

theorem chunksFrom_ne_nil {fuel : Nat} {before text chunk : Text}
    (member : chunk ∈ chunksFrom fuel before text) : chunk ≠ [] := by
  induction fuel generalizing before text with
  | zero => cases member
  | succ fuel induction =>
    cases text with
    | nil => cases member
    | cons letter text =>
      rcases List.mem_cons.mp member with rfl | member
      · exact nextChunk_ne_nil before (List.cons_ne_nil letter text)
      · exact induction member

/-- What holds of both parts where a text may be broken holds of all its chunks. -/
theorem chunksFrom_forall {property : Text → Prop}
    (parts : ∀ front back, property (front ++ back) → Parted front back →
      property front ∧ property back)
    {fuel : Nat} {before text : Text} (whole : property text) :
    ∀ chunk ∈ chunksFrom fuel before text, property chunk := by
  induction fuel generalizing before text with
  | zero =>
    intro chunk member
    cases member
  | succ fuel induction =>
    cases text with
    | nil =>
      intro chunk member
      cases member
    | cons letter text =>
      rw [← nextChunk_append before (letter :: text)] at whole
      obtain ⟨front, back⟩ := parts _ _ whole (parted_nextChunk _ _)
      rw [chunksFrom_cons, List.forall_mem_cons]
      exact ⟨front, induction back⟩

@[simp]
theorem flatten_chunks (text : Text) : (chunks text).flatten = text :=
  flatten_chunksFrom (Nat.le_refl _) []

theorem ne_nil_of_mem_chunks {text chunk : Text} (member : chunk ∈ chunks text) : chunk ≠ [] :=
  chunksFrom_ne_nil member

end TypeSurvey.Text
