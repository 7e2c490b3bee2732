import TypeSurvey.Proofs.Text.Chunk
import TypeSurvey.Proofs.Text.Styled

/-!
# Coloured text

A coloured text is written with characters and with colours: control sequences of digits and
semicolons. Only the characters are visible, but of a colour that is cut off before its end all
characters are. The chunks of a coloured text hold whole colours.
-/

namespace TypeSurvey.Text

/-! ## Characters and colours -/

/-- What stands between the opening of a colour and its end. -/
def isParameter (letter : Char) : Bool := letter.isDigit || letter == ';'

/-- What a coloured text is written with. -/
inductive Glyph
  | shown (letter : Char) (plain : letter ≠ escape)
  | colour (parameters : Text) (numbers : ∀ letter ∈ parameters, isParameter letter = true)

namespace Glyph

/-- How a glyph is written. -/
def text : Glyph → Text
  | shown letter _ => [letter]
  | colour parameters _ => escape :: '[' :: (parameters ++ ['m'])

/-- What is left of a glyph without colours. -/
def letters : Glyph → Text
  | shown letter _ => [letter]
  | colour _ _ => []

/-- Whether there is something to see or to switch. -/
def isSolid : Glyph → Bool
  | shown letter _ => !isBlank letter
  | colour _ _ => true

end Glyph

def written (glyphs : List Glyph) : Text := glyphs.flatMap Glyph.text

/-- A text without its colours. -/
def seen (glyphs : List Glyph) : Text := glyphs.flatMap Glyph.letters

@[simp]
theorem written_cons (glyph : Glyph) (glyphs : List Glyph) :
    written (glyph :: glyphs) = glyph.text ++ written glyphs :=
  List.flatMap_cons

@[simp]
theorem written_append (front back : List Glyph) :
    written (front ++ back) = written front ++ written back :=
  List.flatMap_append

@[simp]
theorem seen_cons (glyph : Glyph) (glyphs : List Glyph) :
    seen (glyph :: glyphs) = glyph.letters ++ seen glyphs :=
  List.flatMap_cons

@[simp]
theorem seen_append (front back : List Glyph) : seen (front ++ back) = seen front ++ seen back :=
  List.flatMap_append

section Codes

variable {letter : Char} {parameters : Text}
  {numbers : ∀ letter ∈ parameters, isParameter letter = true}

theorem code_of_isParameter (parameter : isParameter letter = true) :
    0x30 ≤ letter.toNat ∧ letter.toNat ≤ 0x3b := by
  rw [isParameter, Bool.or_eq_true, beq_iff_eq] at parameter
  rcases parameter with digit | rfl
  · simp only [Char.isDigit, Bool.and_eq_true, decide_eq_true_eq] at digit
    have least := UInt32.le_iff_toNat_le.mp digit.1
    have most := UInt32.le_iff_toNat_le.mp digit.2
    change 48 ≤ letter.toNat at least
    change letter.toNat ≤ 57 at most
    omega
  · decide

theorem code_of_mem_tail (numbers : ∀ letter ∈ parameters, isParameter letter = true)
    (member : letter ∈ '[' :: (parameters ++ ['m'])) :
    0x30 ≤ letter.toNat ∧ letter.toNat ≤ 0x6d := by
  rw [List.mem_cons, List.mem_append, List.mem_singleton] at member
  rcases member with rfl | member | rfl
  · decide
  · have code := code_of_isParameter (numbers letter member)
    omega
  · decide

theorem ne_escape_of_mem_tail (numbers : ∀ letter ∈ parameters, isParameter letter = true)
    (member : letter ∈ '[' :: (parameters ++ ['m'])) : letter ≠ escape := by
  rintro rfl
  have code := code_of_mem_tail numbers member
  revert code
  decide

theorem code_of_mem_colour (member : letter ∈ (Glyph.colour parameters numbers).text) :
    letter.toNat = 0x1b ∨ 0x30 ≤ letter.toNat ∧ letter.toNat ≤ 0x6d := by
  rcases List.mem_cons.mp member with rfl | member
  · exact .inl rfl
  · exact .inr (code_of_mem_tail numbers member)

theorem isBlank_of_mem_colour (member : letter ∈ (Glyph.colour parameters numbers).text) :
    isBlank letter = false := by
  have code := code_of_mem_colour member
  rw [Bool.eq_false_iff]
  intro blank
  simp only [isBlank, Bool.or_eq_true, Bool.and_eq_true, decide_eq_true_eq, beq_iff_eq] at blank
  omega

theorem isGap_of_mem_colour (member : letter ∈ (Glyph.colour parameters numbers).text) :
    isGap letter = false := by
  rw [Bool.eq_false_iff]
  intro gap
  have blank := isBlank_of_isGap gap
  rw [isBlank_of_mem_colour member] at blank
  cases blank

theorem isBreak_of_mem_colour (member : letter ∈ (Glyph.colour parameters numbers).text) :
    isBreak letter = false := by
  rw [isBreak, isGap_of_mem_colour member, Bool.or_false, beq_eq_false_iff_ne]
  rintro rfl
  have code := code_of_mem_colour member
  revert code
  decide

end Codes

theorem length_colour (parameters : Text)
    (numbers : ∀ letter ∈ parameters, isParameter letter = true) :
    (Glyph.colour parameters numbers).text.length = parameters.length + 3 := by
  simp [Glyph.text]

/-! ## What is visible -/

section Visible

variable {parameters : Text} (numbers : ∀ letter ∈ parameters, isParameter letter = true)

include numbers

theorem dropWhile_parameters (rest : Text) :
    (parameters ++ rest).dropWhile (codeWithin 0x30 0x3f) =
      rest.dropWhile (codeWithin 0x30 0x3f) := by
  apply List.dropWhile_append_of_pos
  intro letter member
  have code := code_of_isParameter (numbers letter member)
  simp only [codeWithin, Bool.and_eq_true, decide_eq_true_eq]
  omega

theorem sequence?_colour (isWord : Char → Bool) (rest : Text) :
    sequence? isWord ((Glyph.colour parameters numbers).text ++ rest) = some ([], rest) := by
  have control : afterControl? (parameters ++ 'm' :: rest) = some rest := by
    rw [afterControl?, dropWhile_parameters numbers, List.dropWhile_cons_of_neg (by decide),
      List.dropWhile_cons_of_neg (by decide)]
    rfl
  simp [Glyph.text, sequence?, control]

theorem isStyled_opening (count : Nat) :
    isStyled ((escape :: '[' :: parameters).take count) = false := by
  match count with
  | 0 => rfl
  | 1 => rfl
  | count + 2 =>
    have part : ∀ letter ∈ parameters.take count, isParameter letter = true :=
      fun letter member => numbers letter (List.mem_of_mem_take member)
    have control : afterControl? (parameters.take count) = none := by
      have all := dropWhile_parameters part []
      rw [List.append_nil] at all
      rw [afterControl?, all]
      rfl
    have plain : escape ∉ '[' :: parameters.take count := by
      intro inside
      refine ne_escape_of_mem_tail part ?_ rfl
      rw [← List.cons_append]
      exact List.mem_append_left _ inside
    have first : sequence? isWordChar (escape :: '[' :: parameters.take count) = none := by
      simp [sequence?, control]
    rw [List.take_succ_cons, List.take_succ_cons, isStyled, first, isStyled_of_notMem plain]
    rfl

theorem take_colour {count : Nat} (short : count < parameters.length + 3) :
    (Glyph.colour parameters numbers).text.take count =
      (escape :: '[' :: parameters).take count := by
  have parts : (Glyph.colour parameters numbers).text =
      (escape :: '[' :: parameters) ++ ['m'] := rfl
  rw [parts, List.take_append_of_le_length]
  simp only [List.length_cons]
  omega

end Visible

theorem visible_written_append (glyphs : List Glyph) (rest : Text) :
    visible (written glyphs ++ rest) = seen glyphs ++ visible rest := by
  induction glyphs with
  | nil => rfl
  | cons glyph glyphs induction =>
    rw [written_cons, seen_cons, List.append_assoc, List.append_assoc, ← induction]
    cases glyph with
    | shown letter plain => exact visible_cons plain _
    | colour parameters numbers => exact visible_of_sequence? (sequence?_colour numbers _ _)

theorem visible_written (glyphs : List Glyph) : visible (written glyphs) = seen glyphs := by
  have shown := visible_written_append glyphs []
  rw [List.append_nil] at shown
  exact shown.trans (List.append_nil _)

/-- So are all characters of a colour that is cut off before its end. -/
theorem visibleWidth_part (front : List Glyph) {parameters : Text}
    (numbers : ∀ letter ∈ parameters, isParameter letter = true) {part : Nat}
    (short : part < parameters.length + 3) :
    visibleWidth (written front ++ (Glyph.colour parameters numbers).text.take part) =
      (seen front).length + part := by
  rw [visibleWidth, visible_written_append, take_colour numbers short,
    visible_of_not_isStyled (isStyled_opening numbers part), List.length_append, List.length_take,
    List.length_cons, List.length_cons]
  omega

/-! ## Blank characters -/

theorem ink_written (glyphs : List Glyph) :
    ink (written glyphs) = written (glyphs.filter Glyph.isSolid) := by
  induction glyphs with
  | nil => rfl
  | cons glyph glyphs induction =>
    rw [written_cons, ink_append, induction, List.filter_cons]
    cases glyph with
    | shown letter plain =>
      cases blank : isBlank letter <;> simp [ink, Glyph.isSolid, Glyph.text, blank]
    | colour parameters numbers =>
      have solid : ink (Glyph.colour parameters numbers).text =
          (Glyph.colour parameters numbers).text := by
        apply List.filter_eq_self.mpr
        intro letter member
        rw [isBlank_of_mem_colour member]
        rfl
      rw [solid]
      rfl

theorem seen_filter_isSolid (glyphs : List Glyph) :
    seen (glyphs.filter Glyph.isSolid) = ink (seen glyphs) := by
  induction glyphs with
  | nil => rfl
  | cons glyph glyphs induction =>
    rw [seen_cons, ink_append, ← induction, List.filter_cons]
    cases glyph with
    | shown letter plain =>
      cases blank : isBlank letter <;> simp [ink, Glyph.isSolid, Glyph.letters, blank]
    | colour parameters numbers => rfl

/-- Colours stay where they are if blank characters are dropped. -/
theorem ink_seen (glyphs : List Glyph) : ink (seen glyphs) = visible (ink (written glyphs)) := by
  rw [ink_written, visible_written, seen_filter_isSolid]

theorem exists_written_of_respaced {glyphs : List Glyph} {spaced : Text}
    (respaced : Respaced (written glyphs) spaced) : ∃ others, spaced = written others := by
  induction glyphs generalizing spaced with
  | nil =>
    cases respaced
    exact ⟨[], rfl⟩
  | cons glyph glyphs induction =>
    rw [written_cons] at respaced
    cases glyph with
    | shown letter plain =>
      cases respaced with
      | keep _ rest =>
        obtain ⟨others, rfl⟩ := induction rest
        exact ⟨.shown letter plain :: others, rfl⟩
      | space gap count rest =>
        obtain ⟨others, rfl⟩ := induction rest
        have space : ' ' ≠ escape := by decide
        refine ⟨List.replicate count (.shown ' ' space) ++ others, ?_⟩
        have spaces : written (List.replicate count (.shown ' ' space)) =
            List.replicate count ' ' := by
          simp [written, List.flatMap_replicate, Glyph.text]
        rw [written_append, spaces]
    | colour parameters numbers =>
      obtain ⟨rest, rfl, later⟩ :=
        respaced.exists_append fun letter member => isGap_of_mem_colour member
      obtain ⟨others, rfl⟩ := induction later
      exact ⟨.colour parameters numbers :: others, rfl⟩

/-! ## Cuts -/

/-- Where a coloured text may be cut: between two glyphs, or inside a colour. -/
inductive CutAt (glyphs : List Glyph) (cut : Nat) : Prop
  | between (front back : List Glyph) (parts : glyphs = front ++ back)
      (place : cut = (written front).length)
  | inside (front : List Glyph) {parameters : Text}
      (numbers : ∀ letter ∈ parameters, isParameter letter = true) (back : List Glyph) {part : Nat}
      (parts : glyphs = front ++ .colour parameters numbers :: back) (some : 0 < part)
      (short : part < parameters.length + 3) (place : cut = (written front).length + part)

theorem CutAt.cons {glyphs : List Glyph} {cut : Nat} (cuts : CutAt glyphs cut) (glyph : Glyph) :
    CutAt (glyph :: glyphs) (glyph.text.length + cut) := by
  cases cuts with
  | between front back parts place =>
    refine .between (glyph :: front) back (congrArg (List.cons glyph) parts) ?_
    rw [written_cons, List.length_append, place]
  | inside front numbers back parts some short place =>
    refine .inside (glyph :: front) numbers back (congrArg (List.cons glyph) parts) some short ?_
    rw [written_cons, List.length_append, place, Nat.add_assoc]

theorem cutAt_of_le {glyphs : List Glyph} {cut : Nat} (within : cut ≤ (written glyphs).length) :
    CutAt glyphs cut := by
  induction glyphs generalizing cut with
  | nil => exact .between [] [] rfl (Nat.le_zero.mp within)
  | cons glyph glyphs induction =>
    rw [written_cons, List.length_append] at within
    by_cases later : glyph.text.length ≤ cut
    · obtain ⟨rest, rfl⟩ := Nat.exists_eq_add_of_le later
      exact (induction (by omega)).cons glyph
    · by_cases start : cut = 0
      · exact .between [] (glyph :: glyphs) rfl start
      · cases glyph with
        | shown letter plain =>
          change ¬ 1 ≤ cut at later
          omega
        | colour parameters numbers =>
          rw [length_colour] at later
          exact .inside [] numbers glyphs rfl (by omega) (by omega) (Nat.zero_add cut).symm

theorem take_written_colour (front : List Glyph) {parameters : Text}
    (numbers : ∀ letter ∈ parameters, isParameter letter = true) (back : List Glyph) {part : Nat}
    (short : part ≤ parameters.length + 3) :
    (written (front ++ .colour parameters numbers :: back)).take ((written front).length + part) =
      written front ++ (Glyph.colour parameters numbers).text.take part := by
  have size := length_colour parameters numbers
  rw [written_append, written_cons, List.take_length_add_append,
    List.take_append_of_le_length (by omega)]

theorem drop_written_colour (front : List Glyph) {parameters : Text}
    (numbers : ∀ letter ∈ parameters, isParameter letter = true) (back : List Glyph) {part : Nat}
    (short : part ≤ parameters.length + 3) :
    (written (front ++ .colour parameters numbers :: back)).drop ((written front).length + part) =
      (Glyph.colour parameters numbers).text.drop part ++ written back := by
  have size := length_colour parameters numbers
  rw [written_append, written_cons, List.drop_length_add_append,
    List.drop_append_of_le_length (by omega)]

/-! ## Whole colours -/

/-- Whether every escape character of a text starts a colour. -/
def WholeColours (text : Text) : Prop :=
  ∀ before after, text = before ++ escape :: after →
    ∃ parameters rest, (∀ letter ∈ parameters, isParameter letter = true) ∧
      after = '[' :: (parameters ++ 'm' :: rest)

theorem wholeColours_written (glyphs : List Glyph) : WholeColours (written glyphs) := by
  intro before after shape
  have within : before.length ≤ (written glyphs).length := by
    rw [shape, List.length_append]
    omega
  have after_eq : (written glyphs).drop before.length = escape :: after := by
    rw [shape, List.drop_left]
  cases cutAt_of_le within with
  | between front back parts place =>
    rw [parts, written_append, place, List.drop_left] at after_eq
    cases back with
    | nil => cases after_eq
    | cons glyph back =>
      rw [written_cons] at after_eq
      cases glyph with
      | shown letter plain => exact absurd (List.cons.inj after_eq).1 plain
      | colour parameters numbers =>
        refine ⟨parameters, written back, numbers, ?_⟩
        rw [← (List.cons.inj after_eq).2]
        simp
  | @inside front parameters numbers back part parts some short place =>
    -- What follows a cut inside a colour starts with another character of the colour.
    exfalso
    rw [parts, place, drop_written_colour _ _ _ short.le] at after_eq
    obtain ⟨part, rfl⟩ := Nat.exists_eq_add_one_of_ne_zero (by omega : part ≠ 0)
    rw [Glyph.text, List.drop_succ_cons] at after_eq
    cases tail : ('[' :: (parameters ++ ['m'])).drop part with
    | nil =>
      rw [List.drop_eq_nil_iff, List.length_cons, List.length_append] at tail
      simp only [List.length_singleton] at tail
      omega
    | cons letter others =>
      rw [tail] at after_eq
      have member : letter ∈ '[' :: (parameters ++ ['m']) :=
        List.mem_of_mem_drop (tail ▸ List.mem_cons_self)
      exact ne_escape_of_mem_tail numbers member (List.cons.inj after_eq).1

theorem WholeColours.of_append {front back : Text} (whole : WholeColours (front ++ back)) :
    WholeColours back := by
  intro before after shape
  refine whole (front ++ before) after ?_
  rw [shape, List.append_assoc]

theorem WholeColours.exists_written {text : Text} (whole : WholeColours text) :
    ∃ glyphs, text = written glyphs := by
  match text with
  | [] => exact ⟨[], rfl⟩
  | letter :: text =>
    by_cases plain : letter = escape
    · obtain ⟨parameters, rest, numbers, rfl⟩ := whole [] text (plain ▸ rfl)
      have shape : letter :: '[' :: (parameters ++ 'm' :: rest) =
          (Glyph.colour parameters numbers).text ++ rest := by
        simp [Glyph.text, plain]
      rw [shape] at whole ⊢
      obtain ⟨glyphs, rfl⟩ := whole.of_append.exists_written
      exact ⟨.colour parameters numbers :: glyphs, rfl⟩
    · rw [← List.singleton_append] at whole
      obtain ⟨glyphs, rfl⟩ := whole.of_append.exists_written
      exact ⟨.shown letter plain :: glyphs, rfl⟩
  termination_by text.length

theorem WholeColours.append {front back : Text} (whole : WholeColours front)
    (whole_back : WholeColours back) : WholeColours (front ++ back) := by
  obtain ⟨glyphs, rfl⟩ := whole.exists_written
  obtain ⟨others, rfl⟩ := whole_back.exists_written
  rw [← written_append]
  exact wholeColours_written _

/-- A colour that is not written to its end stays broken at the end of a text and before another
one. -/
theorem not_wholeColours_part (front : Text) {parameters : Text}
    (numbers : ∀ letter ∈ parameters, isParameter letter = true) {part : Nat} (some : 0 < part)
    (short : part < parameters.length + 3) {tail : Text}
    (ends : ∀ letter ∈ tail.head?, letter = escape) :
    ¬ WholeColours (front ++ ((Glyph.colour parameters numbers).text.take part ++ tail)) := by
  intro whole
  obtain ⟨part, rfl⟩ := Nat.exists_eq_add_one_of_ne_zero (by omega : part ≠ 0)
  rw [take_colour numbers short, List.take_succ_cons, List.cons_append] at whole
  obtain ⟨others, rest, other_numbers, shape⟩ := whole front _ rfl
  rw [← List.cons_append] at shape
  -- The end of the colour in the text would stand inside the broken one, or after it.
  rcases List.append_eq_append_iff.mp shape with ⟨more, opening, after⟩ | ⟨more, opening, after⟩
  · cases more with
    | nil => exact absurd (ends 'm' (after ▸ rfl)) (by decide)
    | cons letter more =>
      obtain rfl := ends letter (after ▸ rfl)
      refine ne_escape_of_mem_tail other_numbers ?_ rfl
      rw [← List.cons_append, opening]
      exact List.mem_append_left _ (List.mem_append_right _ List.mem_cons_self)
  · cases more with
    | nil =>
      rw [List.nil_append] at after
      exact absurd (ends 'm' (after ▸ rfl)) (by decide)
    | cons letter more =>
      obtain ⟨rfl, -⟩ := List.cons.inj after
      have member : 'm' ∈ '[' :: parameters := by
        apply List.mem_of_mem_take
        rw [opening]
        exact List.mem_append_right _ List.mem_cons_self
      rcases List.mem_cons.mp member with other | member
      · cases other
      · exact absurd (numbers 'm' member) (by decide)

/-! ## Chunks -/

/-- A chunk does not end inside a colour. -/
theorem WholeColours.of_parted {front back : Text} (whole : WholeColours (front ++ back))
    (parted : Parted front back) : WholeColours front ∧ WholeColours back := by
  obtain ⟨glyphs, shape⟩ := whole.exists_written
  have within : front.length ≤ (written glyphs).length := by
    rw [← shape, List.length_append]
    omega
  cases cutAt_of_le within with
  | between first second parts place =>
    rw [parts, written_append] at shape
    obtain ⟨rfl, rfl⟩ := List.append_inj shape place
    exact ⟨wholeColours_written _, wholeColours_written _⟩
  | @inside first parameters numbers second part parts some short place =>
    exfalso
    have size := length_colour parameters numbers
    have front_eq : front =
        written first ++ (Glyph.colour parameters numbers).text.take part := by
      rw [← take_written_colour _ _ second short.le, ← parts, ← place, ← shape, List.take_left]
    have back_eq : back = (Glyph.colour parameters numbers).text.drop part ++ written second := by
      rw [← drop_written_colour first _ _ short.le, ← parts, ← place, ← shape, List.drop_left]
    have nonempty_front : (Glyph.colour parameters numbers).text.take part ≠ [] := by
      rw [Ne, List.take_eq_nil_iff]
      rintro (none | none)
      · omega
      · cases none
    have nonempty_back : (Glyph.colour parameters numbers).text.drop part ≠ [] := by
      rw [Ne, List.drop_eq_nil_iff]
      omega
    rcases parted with none | ⟨letter, last, breaks⟩ | ⟨letter, first, breaks⟩
    · rw [back_eq, List.append_eq_nil_iff] at none
      exact nonempty_back none.1
    · rw [front_eq, List.getLast?_append_of_ne_nil _ nonempty_front] at last
      have member := List.mem_of_mem_take (List.mem_of_getLast? last)
      rw [isBreak_of_mem_colour member] at breaks
      cases breaks
    · rw [back_eq, List.head?_append_of_ne_nil _ nonempty_back] at first
      have member := List.mem_of_mem_drop (List.mem_of_head? first)
      rw [isBreak_of_mem_colour member] at breaks
      cases breaks

theorem wholeColours_smooth (options : WrapOptions) (glyphs : List Glyph) :
    WholeColours (smooth options (written glyphs)) := by
  obtain ⟨tabless, tabs, others⟩ := respaced_smooth options (written glyphs)
  obtain ⟨first, rfl⟩ := exists_written_of_respaced tabs
  obtain ⟨second, shape⟩ := exists_written_of_respaced others
  rw [shape]
  exact wholeColours_written second

theorem wholeColours_of_mem_chunks {text chunk : Text} (whole : WholeColours text)
    (member : chunk ∈ chunks text) : WholeColours chunk :=
  chunksFrom_forall (fun _ _ => WholeColours.of_parted) whole chunk member

end TypeSurvey.Text
