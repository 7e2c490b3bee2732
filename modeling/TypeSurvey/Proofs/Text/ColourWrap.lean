import TypeSurvey.Proofs.Text.Colour
import TypeSurvey.Proofs.Text.Layout

/-!
# Colours in wrapped text

A word that is wider than a line is cut where its beginning gets too wide. The beginning of a colour
is as wide as it is long until the colour is complete, so the cut falls into a colour if there is
room for some of its characters, but not for all of them before the last. Wrapping keeps all colours
whole exactly if that never happens, and then it keeps what the text shows.
-/

namespace TypeSurvey.Text

/-! ## Cuts inside a colour -/

/-- Whether a word has a colour into which the cut for some room falls. -/
def SplitsColour (room : Int) (chunk : Text) : Prop :=
  ∃ front parameters numbers back,
    chunk = written (front ++ Glyph.colour parameters numbers :: back) ∧
      (seen front).length < room ∧ room < (seen front).length + parameters.length + 2

section Cut

variable {room : Int} {chunk : Text} {cut : Nat}

theorem WholeColours.of_unsplit (whole : WholeColours chunk)
    (found : fitting? room chunk = some cut) (space : 0 ≤ room)
    (unsplit : ¬ SplitsColour room chunk) :
    WholeColours (chunk.take cut) ∧ WholeColours (chunk.drop cut) := by
  obtain ⟨glyphs, rfl⟩ := whole.exists_written
  obtain ⟨exceeds, before⟩ := fitting?_eq_some found
  cases cutAt_of_le (cut_lt_length found space).le with
  | between front back parts place =>
    rw [parts, written_append, place, List.take_left, List.drop_left]
    exact ⟨wholeColours_written front, wholeColours_written back⟩
  | @inside front parameters numbers back part parts some short place =>
    refine absurd ⟨front, parameters, numbers, back, congrArg written parts, ?_⟩ unsplit
    have fits := before (cut - 1) (by omega)
    rw [Nat.sub_add_cancel (by omega), parts, place, take_written_colour _ _ _ short.le,
      visibleWidth_part front numbers short] at fits
    rw [parts, place, Nat.add_assoc, take_written_colour _ _ _ short] at exceeds
    rcases Nat.lt_or_eq_of_le (Nat.succ_le_of_lt short) with later | last
    · rw [visibleWidth_part front numbers later] at exceeds
      omega
    · -- With its last character the colour takes no room.
      have complete : written front ++ (Glyph.colour parameters numbers).text.take (part + 1) =
          written (front ++ [.colour parameters numbers]) := by
        rw [List.take_of_length_le (by rw [length_colour]; omega), written_append]
        simp [written]
      rw [complete, visibleWidth, visible_written, seen_append, List.length_append] at exceeds
      change room < ((seen front).length + 0 : Nat) at exceeds
      omega

/-- The part of a word that is put on the line ends inside a colour. -/
theorem SplitsColour.exists_part (splits : SplitsColour room chunk)
    (found : fitting? room chunk = some cut) :
    ∃ front parameters numbers part, 0 < part ∧ part < List.length parameters + 3 ∧
      chunk.take cut = written front ++ (Glyph.colour parameters numbers).text.take part := by
  obtain ⟨front, parameters, numbers, back, rfl, some_room, little_room⟩ := splits
  obtain ⟨exceeds, before⟩ := fitting?_eq_some found
  by_cases early : cut ≤ (written front).length
  · cases cutAt_of_le early with
    | between first second parts place =>
      -- Between glyphs, there is room for one more character.
      exfalso
      rw [parts, List.append_assoc, written_append, place, List.take_length_add_append,
        visibleWidth, visible_written_append, List.length_append] at exceeds
      have one := visibleWidth_le_length
        ((written (second ++ .colour parameters numbers :: back)).take 1)
      rw [visibleWidth, List.length_take] at one
      rw [parts, seen_append, List.length_append] at some_room
      omega
    | @inside first others other_numbers second part parts some short place =>
      refine ⟨first, others, other_numbers, part, some, short, ?_⟩
      rw [parts, List.append_assoc, List.cons_append, place, take_written_colour _ _ _ short.le]
  · obtain ⟨part, rfl⟩ := Nat.exists_eq_add_of_le (Nat.le_of_not_le early)
    have short : part < parameters.length + 3 := by
      by_contra long
      have fits := before ((written front).length + (parameters.length + 1)) (by omega)
      rw [Nat.add_assoc, take_written_colour _ _ _ (by omega),
        visibleWidth_part front numbers (by omega)] at fits
      omega
    exact ⟨front, parameters, numbers, part, by omega, short, take_written_colour _ _ _ short.le⟩

end Cut

/-! ## Colours that go on on the next line -/

def IsColour (code : Text) : Prop :=
  ∃ parameters numbers, code = (Glyph.colour parameters numbers).text

theorem isColour_colourReset : IsColour colourReset :=
  ⟨['0'], List.all_eq_true.mp rfl, rfl⟩

theorem isColour_of_mem_sequencesFrom {fuel : Nat} {glyphs : List Glyph} {code : Text}
    (member : code ∈ sequencesFrom fuel (written glyphs)) : IsColour code := by
  induction fuel generalizing glyphs with
  | zero => cases member
  | succ fuel induction =>
    cases glyphs with
    | nil => cases member
    | cons glyph glyphs =>
      cases glyph with
      | shown letter plain =>
        have shape : written (.shown letter plain :: glyphs) = letter :: written glyphs := rfl
        rw [shape, sequencesFrom, sequence?_eq_none plain] at member
        exact induction member
      | colour parameters numbers =>
        have found := sequence?_colour numbers isWordChar (written glyphs)
        have shape : written (.colour parameters numbers :: glyphs) =
            escape :: ('[' :: (parameters ++ ['m']) ++ written glyphs) := rfl
        have whole : escape :: ('[' :: (parameters ++ ['m']) ++ written glyphs) =
            (Glyph.colour parameters numbers).text ++ written glyphs := rfl
        rw [shape, sequencesFrom, whole, found, List.mem_cons] at member
        rcases member with rfl | member
        · refine ⟨parameters, numbers, ?_⟩
          apply List.take_left'
          rw [length_colour, List.length_append]
          simp only [List.length_cons, List.length_append, List.length_nil]
          omega
        · exact induction member

theorem mem_or_of_mem_activeAfter {active sequences : List Text} {code : Text}
    (member : code ∈ activeAfter active sequences) : code ∈ active ∨ code ∈ sequences := by
  induction sequences generalizing active with
  | nil => exact .inl member
  | cons first sequences induction =>
    rw [activeAfter, List.foldl_cons, ← activeAfter] at member
    rcases induction member with here | later
    · split_ifs at here with off
      · cases here
      · rcases List.mem_append.mp here with before | here
        · exact .inl before
        · rw [List.mem_singleton.mp here]
          exact .inr List.mem_cons_self
    · exact .inr (List.mem_cons_of_mem first later)

/-- Colours are put before a line, and behind it at most the end of all colours. -/
theorem exists_colourLine (active : List Text) (line : Text) :
    ∃ tail, (tail = [] ∨ tail = colourReset) ∧
      (colourLine active line).1 = active.flatten ++ (line ++ tail) := by
  unfold colourLine
  dsimp only
  split_ifs
  · exact ⟨[], .inl rfl, by rw [List.append_nil]⟩
  · exact ⟨colourReset, .inr rfl, List.append_assoc _ _ _⟩

theorem exists_written_flatten {codes : List Text} (colours : ∀ code ∈ codes, IsColour code) :
    ∃ glyphs, codes.flatten = written glyphs ∧ seen glyphs = [] := by
  induction codes with
  | nil => exact ⟨[], rfl, rfl⟩
  | cons code codes induction =>
    rw [List.forall_mem_cons] at colours
    obtain ⟨parameters, numbers, rfl⟩ := colours.1
    obtain ⟨glyphs, shape, unseen⟩ := induction colours.2
    refine ⟨.colour parameters numbers :: glyphs, ?_, unseen⟩
    rw [List.flatten_cons, shape, written_cons]

/-- A line of whole colours is shown as one. -/
theorem exists_colourLine_written {active : List Text} (colours : ∀ code ∈ active, IsColour code)
    (page : List Glyph) :
    ∃ shown, (colourLine active (written page)).1 = written shown ∧ seen shown = seen page ∧
      ∀ code ∈ (colourLine active (written page)).2, IsColour code := by
  obtain ⟨first, before, unseen⟩ := exists_written_flatten colours
  obtain ⟨tail, ends, shape⟩ := exists_colourLine active (written page)
  obtain ⟨last, after, unseen_last⟩ : ∃ last, tail = written last ∧ seen last = [] := by
    rcases ends with rfl | rfl
    · exact ⟨[], rfl, rfl⟩
    · obtain ⟨glyphs, whole, unseen⟩ :=
        exists_written_flatten (List.forall_mem_singleton.mpr isColour_colourReset)
      exact ⟨glyphs, (List.flatten_singleton).symm.trans whole, unseen⟩
  refine ⟨first ++ (page ++ last), ?_, ?_, ?_⟩
  · rw [shape, before, after, written_append, written_append]
  · rw [seen_append, seen_append, unseen, unseen_last, List.nil_append, List.append_nil]
  · intro code member
    rcases mem_or_of_mem_activeAfter member with here | here
    · exact colours code here
    · exact isColour_of_mem_sequencesFrom here

theorem exists_coloured_written (pages : List (List Glyph)) :
    ∃ shown : List (List Glyph), (coloured (pages.map written)).1 = shown.map written ∧
      shown.map seen = pages.map seen ∧
      ∀ code ∈ (coloured (pages.map written)).2, IsColour code := by
  induction pages with
  | nil =>
    refine ⟨[], rfl, rfl, fun code member => ?_⟩
    cases member
  | cons page pages induction =>
    obtain ⟨others, lines, same, colours⟩ := induction
    obtain ⟨shown, line, same_line, colours⟩ := exists_colourLine_written colours page
    refine ⟨shown :: others, ?_, ?_, colours⟩
    · rw [List.map_cons, coloured, List.map_cons, ← line, ← lines]
    · rw [List.map_cons, List.map_cons, same_line, same]

/-! ## Line after line -/

theorem Composed.wholeColours {width : Int} {property : Text → Prop} {line : Text}
    (composed : Composed width property line)
    (whole : ∀ text, property text → WholeColours text) : WholeColours line := by
  obtain ⟨pieces, -, rfl, -, holds⟩ := composed
  clear * - holds whole
  induction pieces with
  | nil => exact wholeColours_written []
  | cons piece pieces induction =>
    rw [List.forall_mem_cons] at holds
    exact (whole piece holds.1.2).append (induction holds.2)

theorem exists_pages {lines : List Text} (whole : ∀ line ∈ lines, WholeColours line) :
    ∃ pages : List (List Glyph), lines = pages.map written := by
  induction lines with
  | nil => exact ⟨[], rfl⟩
  | cons line lines induction =>
    rw [List.forall_mem_cons] at whole
    obtain ⟨page, rfl⟩ := whole.1.exists_written
    obtain ⟨pages, rfl⟩ := induction whole.2
    exact ⟨page :: pages, rfl⟩

theorem written_flatten (pages : List (List Glyph)) :
    written pages.flatten = (pages.map written).flatten := by
  induction pages with
  | nil => rfl
  | cons page pages induction => rw [List.flatten_cons, written_append, induction]; rfl

theorem seen_flatten (pages : List (List Glyph)) :
    seen pages.flatten = (pages.map seen).flatten := by
  induction pages with
  | nil => rfl
  | cons page pages induction => rw [List.flatten_cons, seen_append, induction]; rfl

namespace Wrapping

variable {width : Int} {before after : Wrapping}

/-- If only whole colours are laid, the lines show what the text shows. -/
theorem LaidOut.exists_pages {property : Text → Prop} {text : Text}
    (laidOut : after.LaidOut width property text)
    (whole : ∀ text, property text → WholeColours text) (last : after.chunks = []) :
    ∃ pages : List (List Glyph), after.lines.reverse = pages.map written ∧
      ink (seen pages.flatten) = visible (ink text) := by
  obtain ⟨-, laid, shown, composed, -, same⟩ := laidOut
  obtain ⟨pages, rfl⟩ := Text.exists_pages fun line member =>
    (composed line member).wholeColours whole
  obtain ⟨others, lines, letters, -⟩ := exists_coloured_written pages
  rw [shown] at lines
  refine ⟨others.reverse, ?_, ?_⟩
  · rw [List.map_reverse, ← lines]
  · rw [last, List.flatten_nil, List.append_nil, ← List.map_reverse, ← written_flatten] at same
    rw [seen_flatten, List.map_reverse, letters, ← List.map_reverse, ← seen_flatten, ink_seen, same]

/-- A pass puts the beginning of a long word on the line if there is something to see of it. -/
theorem Searches.exists_step {chunk : Text} {room : Int} {cut : Nat}
    (searches : before.Searches (ofWidth width) chunk room) (found : fitting? room chunk = some cut)
    (solid : isBlankText (chunk.take cut) = false) :
    ∃ left, Step (ofWidth width) before
      (before.add ((before.filled (ofWidth width)).line.flatten ++ chunk.take cut) left) := by
  obtain ⟨breaks, next, wide, rfl⟩ := searches
  obtain ⟨rest, left⟩ := List.head?_eq_some_iff.mp next
  have unfinished : before.chunks ≠ [] :=
    List.ne_nil_of_mem (mem_of_mem_left (left ▸ List.mem_cons_self))
  refine ⟨chunk.drop cut :: rest, unfinished, ?_⟩
  have placed : (before.filled (ofWidth width)).placeLongWord? (ofWidth width)
      (before.width (ofWidth width)) =
        some ((before.filled (ofWidth width)).push (chunk.take cut) (chunk.drop cut :: rest)) := by
    rw [Laid.placeLongWord?, left]
    simp only [Int.not_le.mpr wide, breaks, found]
    rfl
  have kept : ((before.filled (ofWidth width)).push (chunk.take cut)
      (chunk.drop cut :: rest)).trimmed (ofWidth width) =
        (before.filled (ofWidth width)).push (chunk.take cut) (chunk.drop cut :: rest) := by
    rw [Laid.trimmed, Laid.push, List.getLast?_concat]
    simp only [solid]
    rfl
  rw [pass?, placed, Option.map_some, kept, finish_ofWidth, Laid.push]
  simp

theorem lines_suffix_of_step (step : Step (ofWidth width) before after) :
    before.lines <:+ after.lines := by
  obtain ⟨-, passed⟩ := step
  obtain ⟨laid, -, rfl⟩ := exists_placed passed
  rw [finish_ofWidth]
  split_ifs
  · exact List.suffix_refl _
  · exact List.suffix_cons _ _

theorem lines_suffix_of_reaches (reached : Reaches (ofWidth width) before after) :
    before.lines <:+ after.lines := by
  induction reached with
  | refl => exact List.suffix_refl _
  | tail _ step induction => exact induction.trans (lines_suffix_of_step step)

/-- A colour that is split is broken on the line. -/
theorem exists_step_of_splitsColour (positive : 1 ≤ width) {chunk : Text} {room : Int}
    (searches : before.Searches (ofWidth width) chunk room) (splits : SplitsColour room chunk) :
    ∃ after, Step (ofWidth width) before after ∧ ∃ line ∈ after.lines, ¬ WholeColours line := by
  have wide := searches.exists_wide_iff.mpr (.inl (by rwa [width_ofWidth]))
  obtain ⟨cut, found⟩ := Option.ne_none_iff_exists'.mp (Text.exists_wide_iff.mp wide)
  obtain ⟨front, parameters, numbers, part, some, short, piece⟩ := splits.exists_part found
  have inside : escape ∈ chunk.take cut := by
    obtain ⟨part, rfl⟩ := Nat.exists_eq_add_one_of_ne_zero (by omega : part ≠ 0)
    rw [piece]
    exact List.mem_append_right _ List.mem_cons_self
  have solid : isBlankText (chunk.take cut) = false := by
    rw [isBlankText, List.all_eq_false]
    exact ⟨escape, inside, by decide⟩
  obtain ⟨left, step⟩ := searches.exists_step found solid
  obtain ⟨tail, ends, shape⟩ := exists_colourLine before.active
    ((before.filled (ofWidth width)).line.flatten ++ chunk.take cut)
  have next : ∀ letter ∈ tail.head?, letter = escape := by
    intro letter member
    rcases ends with rfl | rfl
    · cases member
    · exact (Option.some.inj member).symm
  have broken : ¬ WholeColours (colourLine before.active
      ((before.filled (ofWidth width)).line.flatten ++ chunk.take cut)).1 := by
    rw [shape, piece]
    simpa only [List.append_assoc] using not_wholeColours_part
      (before.active.flatten ++ (before.filled (ofWidth width)).line.flatten ++ written front)
      numbers some short next
  exact ⟨_, step, _, List.mem_cons_self, broken⟩

end Wrapping

/-- Whether a word of a text is cut inside a colour. -/
def CutsColour (width : Int) (text : Text) : Prop :=
  ∃ wrapping chunk room,
    Wrapping.Reaches (ofWidth width) (unwrapped (ofWidth width) text) wrapping ∧
      wrapping.Searches (ofWidth width) chunk room ∧ SplitsColour room chunk

section Whole

variable {width : Int} {glyphs : List Glyph} {final : Wrapping}

theorem wholeColours_of_mem_written (width : Int) (glyphs : List Glyph) :
    ∀ chunk ∈ chunks (smooth (ofWidth width) (written glyphs)), WholeColours chunk :=
  fun _ member => wholeColours_of_mem_chunks (wholeColours_smooth _ glyphs) member

/-- Without cuts inside colours the lines show what the text shows. -/
theorem exists_pages_of_not_cutsColour (positive : 1 ≤ width)
    (reached : Wrapping.Reaches (ofWidth width) (unwrapped (ofWidth width) (written glyphs)) final)
    (last : final.chunks = []) (uncut : ¬ CutsColour width (written glyphs)) :
    ∃ pages : List (List Glyph), final.lines.reverse = pages.map written ∧
      ink (seen pages.flatten) = ink (seen glyphs) := by
  have keeps : ∀ wrapping,
      Wrapping.Reaches (ofWidth width) (unwrapped (ofWidth width) (written glyphs)) wrapping →
        Wrapping.KeepsCut width WholeColours wrapping := by
    intro wrapping here chunk room cut searches found whole
    refine whole.of_unsplit found ?_ fun splits =>
      uncut ⟨wrapping, chunk, room, here, searches, splits⟩
    obtain ⟨-, -, -, rfl⟩ := searches
    apply Wrapping.room_filled_nonneg
    rwa [Wrapping.width_ofWidth]
  have laidOut := (laidOut_unwrapped width (written glyphs)
    (wholeColours_of_mem_written width glyphs)).run positive keeps reached
  rw [ink_seen, ← ink_smooth (ofWidth width)]
  exact laidOut.exists_pages (fun _ whole => whole) last

/-- A line with a broken colour stays to the end. -/
theorem not_cutsColour_of_whole (positive : 1 ≤ width)
    (reached : Wrapping.Reaches (ofWidth width) (unwrapped (ofWidth width) (written glyphs)) final)
    (last : final.chunks = []) (whole : ∀ line ∈ final.lines, WholeColours line) :
    ¬ CutsColour width (written glyphs) := by
  rintro ⟨wrapping, chunk, room, here, searches, splits⟩
  obtain ⟨after, step, line, member, broken⟩ :=
    Wrapping.exists_step_of_splitsColour positive searches splits
  have later := Wrapping.lines_suffix_of_reaches (reached.reaches_end last (here.tail step))
  exact broken (whole line (later.subset member))

/-- No word is cut if none is wider than a line. -/
theorem not_cutsColour_of_narrow (positive : 1 ≤ width)
    (narrow : ∀ chunk ∈ chunks (smooth (ofWidth width) (written glyphs)),
      visibleWidth chunk ≤ width) :
    ¬ CutsColour width (written glyphs) := by
  rintro ⟨wrapping, chunk, room, here, ⟨-, next, wide, -⟩, -⟩
  have keeps : ∀ wrapping, Wrapping.KeepsCut width (visibleWidth · ≤ width) wrapping := by
    rintro wrapping chunk room cut ⟨-, -, wide, -⟩ - fits
    rw [Wrapping.width_ofWidth] at wide
    omega
  have laidOut := (laidOut_unwrapped width (written glyphs) narrow).run positive
    (fun wrapping _ => keeps wrapping) here
  have member := Wrapping.mem_of_mem_left (List.mem_of_head? next)
  have fits := (laidOut.chunks chunk member).2
  rw [Wrapping.width_ofWidth] at wide
  omega

end Whole

/-- A coloured text is wrapped into lines of whole colours exactly if no word is cut inside a
colour. Then, but for white space, the lines show what the text shows. No word is cut if none is too
wide. -/
theorem colours_whole_iff (glyphs : List Glyph) (width : Int) (positive : 1 ≤ width) :
    ∃ lines, wrap (ofWidth width) (written glyphs) = .ok lines ∧
      ((∀ line ∈ lines, WholeColours line) ↔ ¬ CutsColour width (written glyphs)) ∧
      (∀ pages : List (List Glyph), lines = pages.map written →
        ink (seen pages.flatten) = ink (seen glyphs)) ∧
      ((∀ chunk ∈ chunks (smooth (ofWidth width) (written glyphs)), visibleWidth chunk ≤ width) →
        ∀ line ∈ lines, WholeColours line) := by
  obtain ⟨final, returned, reached, last⟩ := exists_wrap_ofWidth (written glyphs) positive
  have whole_pages {pages : List (List Glyph)} (lines : final.lines.reverse = pages.map written) :
      ∀ line ∈ final.lines.reverse, WholeColours line := by
    rw [lines, List.forall_mem_map]
    exact fun page _ => wholeColours_written page
  have uncut (whole : ∀ line ∈ final.lines.reverse, WholeColours line) :
      ¬ CutsColour width (written glyphs) :=
    not_cutsColour_of_whole positive reached last fun line member =>
      whole line (List.mem_reverse.mpr member)
  have whole (none : ¬ CutsColour width (written glyphs)) :
      ∀ line ∈ final.lines.reverse, WholeColours line := by
    obtain ⟨pages, lines, -⟩ := exists_pages_of_not_cutsColour positive reached last none
    exact whole_pages lines
  refine ⟨final.lines.reverse, returned, ⟨uncut, whole⟩, ?_, ?_⟩
  · intro pages lines
    obtain ⟨others, same, shown⟩ :=
      exists_pages_of_not_cutsColour positive reached last (uncut (whole_pages lines))
    -- What is visible on a line does not depend on the glyphs it is read as.
    have letters : pages.map seen = others.map seen := by
      have visibles := congrArg (List.map visible) (lines.symm.trans same)
      simpa only [List.map_map, Function.comp_def, visible_written] using visibles
    rw [seen_flatten, letters, ← seen_flatten, shown]
  · intro narrow
    exact whole (not_cutsColour_of_narrow positive narrow)

/-- Three letters in a colour. -/
def redLetters : List Glyph :=
  [.colour "31".toList (List.all_eq_true.mp rfl), .shown 'a' (by decide), .shown 'b' (by decide),
    .shown 'c' (by decide)]

theorem colours_whole_two_words :
    1 ≤ (3 : Int) ∧ ∃ lines,
      wrap (ofWidth 3) (written (redLetters ++ .shown ' ' (by decide) :: redLetters)) = .ok lines ∧
        ∀ line ∈ lines, WholeColours line := by
  obtain ⟨lines, returned, -, -, narrow⟩ :=
    colours_whole_iff (redLetters ++ .shown ' ' (by decide) :: redLetters) 3 (by decide)
  refine ⟨by decide, lines, returned, narrow ?_⟩
  decide +kernel

/-- On a line with room for two characters a colour is cut. -/
theorem colour_split_on_narrow_line :
    wrap (ofWidth 2) (written redLetters) =
        .ok ["\x1b[".toList, "31".toList, "ma".toList, "bc".toList] ∧
      ¬ WholeColours "\x1b[".toList := by
  refine ⟨by decide +kernel, fun whole => ?_⟩
  obtain ⟨parameters, rest, -, shape⟩ := whole [] ['['] rfl
  have longer := congrArg List.length shape
  simp at longer

end TypeSurvey.Text
