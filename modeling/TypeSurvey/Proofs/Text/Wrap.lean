import TypeSurvey.Text.Wrap
import TypeSurvey.Proofs.Text.Styled
import Mathlib.Logic.Relation

/-!
# Passes of wrapping

Every pass of wrapping uses up chunks or characters of them, so there is an end to the passes. A
pass itself has an end unless it looks for the place to cut a word that has none: the line has no
width, and the word has one character only.
-/

namespace TypeSurvey.Text

/-! ## Widths -/

theorem visibleWidth_le_length (text : Text) : visibleWidth text ≤ text.length :=
  length_visible_le text

theorem visibleWidth_of_length_le_two {text : Text} (short : text.length ≤ 2) :
    visibleWidth text = text.length := by
  rw [visibleWidth, visible_of_not_isStyled (isStyled_of_length_le_two short)]

/-! ## The place to cut a word -/

section Fitting

variable {room : Int} {chunk : Text} {cut : Nat}

/-- All beginnings up to the cut fit, and the next one does not. -/
theorem fitting?_eq_some (found : fitting? room chunk = some cut) :
    room < visibleWidth (chunk.take (cut + 1)) ∧
      ∀ count < cut, visibleWidth (chunk.take (count + 1)) ≤ room := by
  obtain ⟨exceeds, -, before⟩ := List.find?_range_eq_some.mp found
  refine ⟨of_decide_eq_true exceeds, ?_⟩
  intro count less
  simpa using before count less

theorem fitting?_eq_none_iff :
    fitting? room chunk = none ↔ ∀ count, 1 ≤ count → visibleWidth (chunk.take count) ≤ room := by
  rw [fitting?, List.find?_range_eq_none]
  simp only [Bool.not_eq_true', decide_eq_false_iff_not, Int.not_lt]
  constructor
  · intro fits count positive
    by_cases inside : count ≤ chunk.length
    · have found := fits (count - 1) (by omega)
      rwa [Nat.sub_add_cancel positive] at found
    · have whole := fits chunk.length (Nat.lt_succ_self _)
      rw [List.take_of_length_le (by omega)] at whole ⊢
      exact whole
  · intro fits count _
    exact fits (count + 1) (by omega)

theorem exists_wide_iff :
    (∃ count, 1 ≤ count ∧ room < visibleWidth (chunk.take count)) ↔ fitting? room chunk ≠ none := by
  rw [Ne, fitting?_eq_none_iff]
  simp only [not_forall, Int.not_le, exists_prop]

/-- There is room for the first character if there is any room. -/
theorem cut_pos (found : fitting? room chunk = some cut) (space : 1 ≤ room) : 0 < cut := by
  obtain ⟨exceeds, -⟩ := fitting?_eq_some found
  by_contra zero
  have short := visibleWidth_le_length (chunk.take (cut + 1))
  rw [List.length_take] at short
  omega

theorem cut_lt_length (found : fitting? room chunk = some cut) (space : 0 ≤ room) :
    cut < chunk.length := by
  obtain ⟨exceeds, before⟩ := fitting?_eq_some found
  by_contra beyond
  rw [List.take_of_length_le (by omega)] at exceeds
  cases cut with
  | zero =>
    have short := visibleWidth_le_length chunk
    omega
  | succ cut =>
    have whole := before cut (Nat.lt_succ_self cut)
    rw [List.take_of_length_le (by omega)] at whole
    omega

/-- Where there is room for one character only, a word is cut exactly if it has two. -/
theorem fitting?_one_eq_none_iff : fitting? 1 chunk = none ↔ chunk.length ≤ 1 := by
  rw [fitting?_eq_none_iff]
  constructor
  · intro fits
    by_contra long
    have two : (chunk.take 2).length = 2 := by
      rw [List.length_take]
      omega
    have wide := fits 2 (by omega)
    rw [visibleWidth_of_length_le_two (by omega), two] at wide
    omega
  · intro short count _
    have narrow := visibleWidth_le_length (chunk.take count)
    rw [List.length_take] at narrow
    omega

/-- A word is cut where it does not fit as a whole. -/
theorem fitting?_ne_none_of_lt (wide : room < visibleWidth chunk) (space : 0 ≤ room) :
    fitting? room chunk ≠ none := by
  rw [← exists_wide_iff]
  refine ⟨chunk.length, ?_, ?_⟩
  · have short := visibleWidth_le_length chunk
    omega
  · rwa [List.take_length]

end Fitting

/-! ## One line -/

theorem fillLine_append (width used : Int) (chunks : List Text) :
    (fillLine width used chunks).line ++ (fillLine width used chunks).left = chunks := by
  induction chunks generalizing used with
  | nil => rfl
  | cons chunk chunks induction =>
    rw [fillLine]
    split_ifs with fits
    · exact congrArg (List.cons chunk) (induction _)
    · rfl

/-- The visible width of texts next to each other. -/
def totalWidth : List Text → Nat
  | [] => 0
  | text :: texts => visibleWidth text + totalWidth texts

theorem totalWidth_append (front back : List Text) :
    totalWidth (front ++ back) = totalWidth front + totalWidth back := by
  induction front with
  | nil => exact (Nat.zero_add _).symm
  | cons text front induction =>
    rw [List.cons_append, totalWidth, totalWidth, induction]
    omega

theorem used_fillLine (width used : Int) (chunks : List Text) :
    (fillLine width used chunks).used = used + totalWidth (fillLine width used chunks).line := by
  induction chunks generalizing used with
  | nil => exact (Int.add_zero used).symm
  | cons chunk chunks induction =>
    rw [fillLine]
    split_ifs with fits
    · rw [totalWidth, induction]
      omega
    · exact (Int.add_zero used).symm

theorem used_fillLine_le {width used : Int} {chunks : List Text} (room : used ≤ width) :
    (fillLine width used chunks).used ≤ width := by
  induction chunks generalizing used with
  | nil => exact room
  | cons chunk chunks induction =>
    rw [fillLine]
    split_ifs with fits
    · exact induction fits
    · exact room

/-- What comes first stays behind only if it does not fit. -/
theorem lt_of_left_fillLine {width used : Int} {chunks : List Text} {chunk : Text}
    {rest : List Text} (left : (fillLine width used chunks).left = chunk :: rest) :
    width < (fillLine width used chunks).used + visibleWidth chunk := by
  induction chunks generalizing used with
  | nil => cases left
  | cons first chunks induction =>
    rw [fillLine] at left ⊢
    split_ifs at left ⊢ with fits
    · exact induction left
    · obtain ⟨rfl, -⟩ := List.cons.inj left
      exact Int.not_le.mp fits

theorem bulk_append (front back : List Text) : bulk (front ++ back) = bulk front + bulk back := by
  induction front with
  | nil => exact (Nat.zero_add _).symm
  | cons chunk front induction =>
    rw [List.cons_append, bulk, bulk, induction]
    omega

theorem bulk_pos {chunks : List Text} (nonempty : chunks ≠ []) : 0 < bulk chunks := by
  obtain ⟨chunk, rest, rfl⟩ := List.exists_cons_of_ne_nil nonempty
  rw [bulk]
  omega

namespace Laid

variable {options : WrapOptions} {width : Int} {laid next : Laid}

/-- What is done with a word wider than any line: nothing, if there is none or if it has to wait for
a line of its own; it is cut; or it is put on the line as it is. -/
inductive Placed (options : WrapOptions) (width : Int) (laid : Laid) : Laid → Prop
  | none (fits : ∀ chunk rest, laid.left = chunk :: rest → laid.line = [] →
      visibleWidth chunk ≤ width) : Placed options width laid laid
  | cut {chunk : Text} {rest : List Text} {cut : Nat} (left : laid.left = chunk :: rest)
      (wide : width < visibleWidth chunk) (breaks : options.breaksLongWords = true)
      (found : fitting? (laid.room width) chunk = some cut) :
      Placed options width laid (laid.push (chunk.take cut) (chunk.drop cut :: rest))
  | whole {chunk : Text} {rest : List Text} (left : laid.left = chunk :: rest)
      (unbroken : options.breaksLongWords = false) :
      Placed options width laid (laid.push chunk rest)

theorem placed_of_placeLongWord? (done : laid.placeLongWord? options width = some next) :
    laid.Placed options width next := by
  unfold placeLongWord? at done
  split at done
  · next left =>
      obtain rfl := Option.some.inj done
      exact .none fun chunk rest other => by simp [left] at other
  · next chunk rest left =>
      split_ifs at done with fits breaks empty
      · obtain rfl := Option.some.inj done
        refine .none fun other others other_left _ => ?_
        obtain ⟨rfl, -⟩ := List.cons.inj (left.symm.trans other_left)
        exact fits
      · obtain ⟨cut, found, rfl⟩ := Option.map_eq_some_iff.mp done
        exact .cut left (Int.not_le.mp fits) breaks found
      · obtain rfl := Option.some.inj done
        exact .whole left (Bool.not_eq_true _ ▸ breaks)
      · obtain rfl := Option.some.inj done
        exact .none fun _ _ _ none => absurd (List.isEmpty_iff.mpr none) empty

/-- The search for the place to cut a word is the only step that may have no end. -/
theorem placeLongWord?_eq_none_iff :
    laid.placeLongWord? options width = none ↔
      ∃ chunk, laid.left.head? = some chunk ∧ width < visibleWidth chunk ∧
        options.breaksLongWords = true ∧ fitting? (laid.room width) chunk = none := by
  unfold placeLongWord?
  cases laid.left with
  | nil => simp
  | cons chunk rest =>
    simp only [List.head?_cons, Option.some.injEq, exists_eq_left']
    split_ifs with fits breaks empty
    · simp [Int.not_lt.mpr fits]
    · simp [Int.not_le.mp fits, breaks]
    · simp [breaks]
    · simp [breaks]

/-- Nothing is lost and nothing added, whatever is done with a long word. -/
theorem Placed.flatten (placed : laid.Placed options width next) :
    next.line.flatten ++ next.left.flatten = laid.line.flatten ++ laid.left.flatten := by
  cases placed with
  | none => rfl
  | @cut chunk rest cut left =>
    rw [push, left, List.flatten_append, List.flatten_singleton, List.flatten_cons,
      List.append_assoc, ← List.append_assoc (chunk.take cut), List.take_append_drop,
      List.flatten_cons]
  | whole left => simp [push, left]

theorem Placed.bulk_le (placed : laid.Placed options width next) :
    bulk next.left ≤ bulk laid.left := by
  cases placed with
  | none => exact Nat.le_refl _
  | cut left =>
    rw [push, left, bulk, bulk, List.length_drop]
    omega
  | @whole chunk rest left =>
    change bulk rest ≤ bulk laid.left
    rw [left, bulk]
    omega

/-- If a line that is filled takes nothing, then a long word gives it something. -/
theorem Placed.bulk_lt {chunks : List Text} (parts : laid.line ++ laid.left = chunks)
    (unused : laid.line = [] → laid.used = 0)
    (exceeds : ∀ chunk rest, laid.left = chunk :: rest → width < laid.used + visibleWidth chunk)
    (nonempty : chunks ≠ []) (placed : laid.Placed options width next) :
    bulk next.left < bulk chunks := by
  have split : bulk chunks = bulk laid.line + bulk laid.left := by
    rw [← parts, bulk_append]
  cases placed with
  | none fits =>
    have filled : laid.line ≠ [] := by
      intro empty
      rw [empty, List.nil_append] at parts
      obtain ⟨chunk, rest, left⟩ := List.exists_cons_of_ne_nil (parts ▸ nonempty)
      have wide := exceeds chunk rest left
      have narrow := fits chunk rest left empty
      rw [unused empty] at wide
      omega
    have positive := bulk_pos filled
    omega
  | @cut chunk rest cut left wide breaks found =>
    have shorter := (Placed.cut left wide breaks found).bulk_le
    by_cases empty : laid.line = []
    · -- Without other chunks on the line there is room for the first character.
      have space : 1 ≤ laid.room width := by
        rw [room, unused empty]
        split_ifs <;> omega
      have positive := cut_pos found space
      have inside := cut_lt_length found (by omega)
      rw [split, left, push, bulk, bulk, List.length_drop]
      omega
    · have positive := bulk_pos empty
      omega
  | @whole chunk rest left =>
    change bulk rest < bulk chunks
    rw [split, left, bulk]
    omega

@[simp]
theorem left_trimmed (options : WrapOptions) (laid : Laid) :
    (laid.trimmed options).left = laid.left := by
  unfold trimmed
  split
  · split_ifs <;> rfl
  · rfl

end Laid

/-! ## Passes -/

namespace Wrapping

variable {options : WrapOptions} {wrapping next : Wrapping}

theorem bulk_chunks_finish_le (laid : Laid) (wrapping : Wrapping) :
    bulk (wrapping.finish options laid).chunks ≤ bulk laid.left := by
  unfold finish
  split_ifs
  · exact Nat.le_refl _
  · exact Nat.le_refl _
  · have closed : (wrapping.close options laid).chunks = [] := by
      simp only [close]
      split
      · rfl
      · split
        · split_ifs <;> rfl
        · rfl
    rw [closed]
    exact Nat.zero_le _

/-- The line that is filled, and a long word after it. -/
theorem exists_placed (passed : wrapping.pass? options = some next) :
    ∃ laid, (wrapping.filled options).Placed options (wrapping.width options) laid ∧
      next = wrapping.finish options (laid.trimmed options) := by
  obtain ⟨laid, placed, rfl⟩ := Option.map_eq_some_iff.mp passed
  exact ⟨laid, Laid.placed_of_placeLongWord? placed, rfl⟩

theorem upcoming_cases (options : WrapOptions) (wrapping : Wrapping) :
    wrapping.upcoming options = wrapping.chunks ∨
      ∃ chunk, isBlankText chunk = true ∧ wrapping.chunks = chunk :: wrapping.upcoming options := by
  unfold upcoming
  cases wrapping.chunks with
  | nil => exact .inl rfl
  | cons first rest =>
    dsimp only
    split_ifs with dropped
    · simp only [Bool.and_eq_true] at dropped
      exact .inr ⟨first, dropped.1.2, rfl⟩
    · exact .inl rfl

/-- Every pass takes something from the chunks. -/
theorem bulk_pass?_lt (unfinished : wrapping.chunks ≠ [])
    (passed : wrapping.pass? options = some next) :
    bulk next.chunks < bulk wrapping.chunks := by
  obtain ⟨laid, placed, rfl⟩ := exists_placed passed
  refine Nat.lt_of_le_of_lt (bulk_chunks_finish_le _ _) ?_
  rw [Laid.left_trimmed]
  have parts : (wrapping.filled options).line ++ (wrapping.filled options).left =
      wrapping.upcoming options := fillLine_append _ _ _
  rcases upcoming_cases options wrapping with same | ⟨chunk, -, shape⟩
  · refine placed.bulk_lt (parts.trans same) ?_ (fun _ _ => lt_of_left_fillLine) unfinished
    intro empty
    have used := used_fillLine (wrapping.width options) 0 (wrapping.upcoming options)
    change (wrapping.filled options).used =
      0 + totalWidth (wrapping.filled options).line at used
    rw [used, empty]
    rfl
  · have shorter := placed.bulk_le
    have whole := congrArg bulk parts
    rw [bulk_append] at whole
    rw [shape, bulk]
    omega

/-! ## Runs -/

/-- One pass of a text of which chunks are left. -/
def Step (options : WrapOptions) (before after : Wrapping) : Prop :=
  before.chunks ≠ [] ∧ before.pass? options = some after

/-- Any number of passes. -/
def Reaches (options : WrapOptions) : Wrapping → Wrapping → Prop :=
  Relation.ReflTransGen (Step options)

/-- Whether the next pass has no end. -/
def Stuck (options : WrapOptions) (wrapping : Wrapping) : Prop :=
  wrapping.chunks ≠ [] ∧ wrapping.pass? options = none

theorem rightUnique_step (options : WrapOptions) : Relator.RightUnique (Step options) := by
  rintro before after other ⟨-, passed⟩ ⟨-, again⟩
  exact Option.some.inj (passed.symm.trans again)

/-- Nothing comes after the last pass. -/
theorem Reaches.eq_of_forall_not {start final : Wrapping} (reached : Reaches options start final)
    (last : ∀ after, ¬ Step options start after) : final = start := by
  rcases Relation.ReflTransGen.cases_head reached with same | ⟨after, step, -⟩
  · exact same.symm
  · exact absurd step (last after)

/-- All runs go on to the end if there is one. -/
theorem Reaches.reaches_end {start final other : Wrapping} (reached : Reaches options start final)
    (finished : final.chunks = []) (reached_other : Reaches options start other) :
    Reaches options other final := by
  rcases Relation.ReflTransGen.total_of_right_unique (rightUnique_step options) reached
    reached_other with later | later
  · rw [Reaches.eq_of_forall_not later fun _ step => step.1 finished]
    exact .refl
  · exact later

/-- A run that comes to an end does not come to a pass without end. -/
theorem Reaches.not_stuck {start final stuck : Wrapping} (reached : Reaches options start final)
    (finished : final.chunks = []) (other : Reaches options start stuck) :
    ¬ Stuck options stuck := by
  rintro ⟨unfinished, endless⟩
  have last : ∀ after, ¬ Step options stuck after := by
    rintro after ⟨-, passed⟩
    rw [endless] at passed
    cases passed
  have same := Reaches.eq_of_forall_not (reached.reaches_end finished other) last
  exact unfinished (same ▸ finished)

/-- As many passes as there are chunks and characters are enough. -/
theorem wrapFrom_cases (options : WrapOptions) {passes : Nat} {start : Wrapping}
    (enough : bulk start.chunks ≤ passes) :
    (∃ final, wrapFrom options passes start = some final ∧ Reaches options start final ∧
      final.chunks = []) ∨
    wrapFrom options passes start = none ∧
      ∃ stuck, Reaches options start stuck ∧ Stuck options stuck := by
  induction passes generalizing start with
  | zero =>
    have finished : start.chunks = [] := by
      by_contra nonempty
      have positive := bulk_pos nonempty
      omega
    exact .inl ⟨start, if_pos (List.isEmpty_iff.mpr finished), .refl, finished⟩
  | succ passes induction =>
    by_cases finished : start.chunks = []
    · exact .inl ⟨start, if_pos (List.isEmpty_iff.mpr finished), .refl, finished⟩
    · rw [wrapFrom, if_neg (by simpa using finished)]
      cases passed : start.pass? options with
      | none => exact .inr ⟨rfl, start, .refl, finished, passed⟩
      | some after =>
        have shorter := bulk_pass?_lt finished passed
        have step : Step options start after := ⟨finished, passed⟩
        rcases @induction after (by omega) with
          ⟨final, done, reached, last⟩ | ⟨endless, stuck, reached, here⟩
        · exact .inl ⟨final, done, .head step reached, last⟩
        · exact .inr ⟨endless, stuck, .head step reached, here⟩

/-! ## The search for the place to cut a word -/

/-- Whether the next pass looks for the place where a word exceeds the room on the line. -/
def Searches (options : WrapOptions) (wrapping : Wrapping) (chunk : Text) (room : Int) : Prop :=
  options.breaksLongWords = true ∧ (wrapping.filled options).left.head? = some chunk ∧
    wrapping.width options < visibleWidth chunk ∧
    room = (wrapping.filled options).room (wrapping.width options)

theorem stuck_iff : Stuck options wrapping ↔
    ∃ chunk room, wrapping.Searches options chunk room ∧ fitting? room chunk = none := by
  have passes : wrapping.pass? options = none ↔
      ∃ chunk room, wrapping.Searches options chunk room ∧ fitting? room chunk = none := by
    rw [pass?, Option.map_eq_none_iff, Laid.placeLongWord?_eq_none_iff]
    constructor
    · rintro ⟨chunk, next, wide, breaks, none⟩
      exact ⟨chunk, _, ⟨breaks, next, wide, rfl⟩, none⟩
    · rintro ⟨chunk, room, ⟨breaks, next, wide, rfl⟩, none⟩
      exact ⟨chunk, next, wide, breaks, none⟩
  rw [Stuck, passes, and_iff_right_iff_imp]
  rintro ⟨chunk, room, ⟨-, next, -⟩, -⟩ finished
  have nothing : wrapping.upcoming options = [] := by
    rw [upcoming, finished]
  rw [filled, nothing] at next
  cases next

theorem room_filled_nonneg (wide : 1 ≤ wrapping.width options) :
    0 ≤ (wrapping.filled options).room (wrapping.width options) := by
  have used : (wrapping.filled options).used ≤ wrapping.width options :=
    used_fillLine_le (by omega)
  rw [Laid.room, if_neg (by omega)]
  omega

/-- A word has a place to be cut unless it has one character only and the line has no width. -/
theorem Searches.exists_wide_iff {chunk : Text} {room : Int}
    (searches : wrapping.Searches options chunk room) :
    (∃ count, 1 ≤ count ∧ room < visibleWidth (chunk.take count)) ↔
      1 ≤ wrapping.width options ∨ 2 ≤ chunk.length := by
  obtain ⟨-, -, wide, rfl⟩ := searches
  rw [Text.exists_wide_iff]
  by_cases width : 1 ≤ wrapping.width options
  · have used : 0 ≤ (wrapping.filled options).used := by
      have sum := used_fillLine (wrapping.width options) 0 (wrapping.upcoming options)
      change (wrapping.filled options).used = _ at sum
      omega
    refine iff_of_true (fitting?_ne_none_of_lt ?_ (room_filled_nonneg width)) (.inl width)
    rw [Laid.room, if_neg (by omega)]
    omega
  · rw [Laid.room, if_pos (by omega), Ne, fitting?_one_eq_none_iff]
    omega

/-- A pass for a line of some width has an end. -/
theorem not_stuck (width : 1 ≤ wrapping.width options) : ¬ Stuck options wrapping := by
  intro stuck
  obtain ⟨chunk, room, searches, none⟩ := stuck_iff.mp stuck
  exact Text.exists_wide_iff.mp (searches.exists_wide_iff.mpr (.inl width)) none

end Wrapping

section Returns

variable {options : WrapOptions}

/-- Wrapping comes to the last chunk, or to a pass without end. -/
theorem wrap_cases (text : Text) (positive : 0 < options.width)
    (unlimited : options.maxLines = none) :
    (∃ final, wrap options text = .ok final.lines.reverse ∧
      Wrapping.Reaches options (unwrapped options text) final ∧ final.chunks = []) ∨
    wrap options text = .error .endless ∧
      ∃ stuck, Wrapping.Reaches options (unwrapped options text) stuck ∧
        Wrapping.Stuck options stuck := by
  have start : ¬ options.width ≤ 0 := by omega
  have enough := Nat.le_refl (bulk (unwrapped options text).chunks)
  rcases Wrapping.wrapFrom_cases options enough with
    ⟨final, done, reached, last⟩ | ⟨endless, stuck⟩
  · refine .inl ⟨final, ?_, reached, last⟩
    simp [wrap, start, unlimited, done]
  · refine .inr ⟨?_, stuck⟩
    simp [wrap, start, unlimited, endless]

theorem exists_wrap_iff (text : Text) (positive : 0 < options.width)
    (unlimited : options.maxLines = none) :
    (∃ lines, wrap options text = .ok lines) ↔
      ∀ wrapping, Wrapping.Reaches options (unwrapped options text) wrapping →
        ¬ Wrapping.Stuck options wrapping := by
  rcases wrap_cases text positive unlimited with
    ⟨final, done, reached, last⟩ | ⟨endless, stuck, reached, here⟩
  · exact iff_of_true ⟨_, done⟩ fun _ other => reached.not_stuck last other
  · refine iff_of_false ?_ fun free => free stuck reached here
    rintro ⟨lines, done⟩
    rw [endless] at done
    cases done

/-- Without a limit on the lines, a place to cut a long word is found unless the word has one
character only and the indent leaves no width. Wrapping returns exactly if it never comes to such a
word, so it does if both indents leave some width. -/
theorem long_word_search_ends_iff (text : Text) (positive : 0 < options.width)
    (unlimited : options.maxLines = none) :
    (∀ wrapping chunk room, Wrapping.Reaches options (unwrapped options text) wrapping →
      wrapping.Searches options chunk room →
        ((∃ count, 1 ≤ count ∧ room < visibleWidth (chunk.take count)) ↔
          1 ≤ wrapping.width options ∨ 2 ≤ chunk.length)) ∧
    ((∃ lines, wrap options text = .ok lines) ↔
      ∀ wrapping chunk room, Wrapping.Reaches options (unwrapped options text) wrapping →
        wrapping.Searches options chunk room →
          1 ≤ wrapping.width options ∨ 2 ≤ chunk.length) ∧
    (visibleWidth options.initialIndent < options.width →
      visibleWidth options.subsequentIndent < options.width →
        ∃ lines, wrap options text = .ok lines) := by
  have returns : (∃ lines, wrap options text = .ok lines) ↔
      ∀ wrapping chunk room, Wrapping.Reaches options (unwrapped options text) wrapping →
        wrapping.Searches options chunk room →
          1 ≤ wrapping.width options ∨ 2 ≤ chunk.length := by
    rw [exists_wrap_iff text positive unlimited]
    constructor
    · intro free wrapping chunk room reached searches
      rw [← searches.exists_wide_iff, exists_wide_iff]
      intro none
      exact free wrapping reached (Wrapping.stuck_iff.mpr ⟨chunk, room, searches, none⟩)
    · intro ends wrapping reached stuck
      obtain ⟨chunk, room, searches, none⟩ := Wrapping.stuck_iff.mp stuck
      have wide := searches.exists_wide_iff.mpr (ends wrapping chunk room reached searches)
      exact exists_wide_iff.mp wide none
  refine ⟨fun _ _ _ _ searches => searches.exists_wide_iff, returns, ?_⟩
  intro initial subsequent
  rw [returns]
  intro wrapping chunk room _ _
  left
  rw [Wrapping.width, Wrapping.indent]
  split_ifs <;> omega

/-- No width is left on the first line. -/
def indented : WrapOptions := { width := 2, initialIndent := "    ".toList }

theorem long_word_search_ends_indented :
    indented.maxLines = none ∧
      (unwrapped indented "abc d".toList).Searches indented "abc".toList 1 ∧
      (∃ count, 1 ≤ count ∧ (1 : Int) < visibleWidth ("abc".toList.take count)) ∧
      ∀ wrapping chunk room,
        Wrapping.Reaches indented (unwrapped indented "abc d".toList) wrapping →
          wrapping.Searches indented chunk room →
            1 ≤ wrapping.width indented ∨ 2 ≤ chunk.length := by
  have unlimited : indented.maxLines = none := rfl
  have searches : (unwrapped indented "abc d".toList).Searches indented "abc".toList 1 := by
    unfold Wrapping.Searches
    decide +kernel
  have lines : wrap indented "abc d".toList = .ok ["    a".toList, "bc".toList, "d".toList] := by
    decide +kernel
  obtain ⟨place, returns, -⟩ :=
    @long_word_search_ends_iff indented "abc d".toList (by decide) unlimited
  refine ⟨unlimited, searches, ?_, returns.mp ⟨_, lines⟩⟩
  apply (place _ _ _ .refl searches).mpr
  right
  decide

/-- A word of one character on a line without width is never cut. -/
theorem one_letter_without_width_endless :
    let options : WrapOptions := { width := 1, initialIndent := "> ".toList }
    (unwrapped options "a".toList).Searches options "a".toList 1 ∧
      (∀ count, visibleWidth ("a".toList.take count) ≤ 1) ∧
      wrap options "a".toList = .error .endless := by
  refine ⟨?_, ?_, ?_⟩
  · unfold Wrapping.Searches
    decide +kernel
  · intro count
    have narrow := visibleWidth_le_length ("a".toList.take count)
    have short := List.length_take_le' count "a".toList
    exact Nat.le_trans narrow short
  · decide +kernel

end Returns

end TypeSurvey.Text
