import TypeSurvey.Proofs.Text.Chunk
import TypeSurvey.Proofs.Text.Wrap

/-!
# Lines within a width

Without indents and without a limit on the lines, a pass lays chunks on a line, or parts of a chunk
that is too wide, drops blank chunks at its ends and colours it. So the lines of a text without
escape characters are the text, but for white space, in pieces that are not wider than asked for.
-/

namespace TypeSurvey.Text

/-- The usual options for a width. -/
def ofWidth (width : Int) : WrapOptions := { width := width }

theorem ink_eq_nil_of_isBlankText {text : Text} (blank : isBlankText text = true) : ink text = [] :=
  ink_eq_nil_iff.mpr (List.all_eq_true.mp blank)

theorem visibleWidth_take_cut_le {room : Int} {chunk : Text} {cut : Nat}
    (found : fitting? room chunk = some cut) (space : 0 ≤ room) :
    visibleWidth (chunk.take cut) ≤ room := by
  obtain ⟨-, before⟩ := fitting?_eq_some found
  cases cut with
  | zero => exact space
  | succ cut => exact before cut (Nat.lt_succ_self cut)

/-! ## One line -/

namespace Laid

variable {options : WrapOptions} {width : Int} {laid next : Laid}

theorem line_trimmed_cases (drops : options.dropsWhitespace = true) (laid : Laid) :
    (laid.trimmed options).line = laid.line ∧
        (∀ last ∈ laid.line.getLast?, isBlankText last = false) ∨
      ∃ last, laid.line = (laid.trimmed options).line ++ [last] ∧ isBlankText last = true := by
  unfold trimmed
  cases shape : laid.line.getLast? with
  | none =>
    left
    refine ⟨rfl, fun last member => ?_⟩
    cases member
  | some last =>
    simp only [drops, Bool.true_and]
    split_ifs with blank
    · right
      exact ⟨last, (List.dropLast_append_getLast? last shape).symm, blank⟩
    · left
      refine ⟨rfl, fun other member => ?_⟩
      obtain rfl := Option.some.inj member
      exact Bool.not_eq_true _ ▸ blank

theorem exists_line_trimmed_append (drops : options.dropsWhitespace = true) (laid : Laid) :
    ∃ dropped, laid.line = (laid.trimmed options).line ++ dropped := by
  rcases line_trimmed_cases drops laid with ⟨same, -⟩ | ⟨last, shape, -⟩
  · exact ⟨[], by rw [same, List.append_nil]⟩
  · exact ⟨[last], shape⟩

theorem ink_line_trimmed (drops : options.dropsWhitespace = true) (laid : Laid) :
    ink (laid.trimmed options).line.flatten = ink laid.line.flatten := by
  rcases line_trimmed_cases drops laid with ⟨same, -⟩ | ⟨last, shape, blank⟩
  · rw [same]
  · rw [shape, List.flatten_append, ink_append, List.flatten_singleton,
      ink_eq_nil_of_isBlankText blank, List.append_nil]

/-- A line on which there is nothing of a word, not even a character, ends with an empty piece,
which is dropped. -/
theorem ne_nil_of_mem_trimmed (drops : options.dropsWhitespace = true)
    (inner : ∀ piece ∈ laid.line.dropLast, piece ≠ []) {piece : Text}
    (member : piece ∈ (laid.trimmed options).line) : piece ≠ [] := by
  rcases line_trimmed_cases drops laid with ⟨same, solid⟩ | ⟨last, shape, -⟩
  · rw [same] at member
    obtain ⟨last, ends⟩ := Option.isSome_iff_exists.mp
      (List.getLast?_isSome.mpr (List.ne_nil_of_mem member))
    rw [← List.dropLast_append_getLast? last ends, List.mem_append, List.mem_singleton] at member
    rcases member with member | rfl
    · exact inner piece member
    · rintro rfl
      cases solid [] ends
  · refine inner piece ?_
    rwa [shape, List.dropLast_concat]

/-- Where long words are cut, nothing else is done with them. -/
theorem Placed.eq_or_cut (placed : laid.Placed options width next)
    (breaks : options.breaksLongWords = true) :
    next = laid ∨ ∃ chunk rest cut, laid.left = chunk :: rest ∧ width < visibleWidth chunk ∧
      fitting? (laid.room width) chunk = some cut ∧
      next = laid.push (chunk.take cut) (chunk.drop cut :: rest) := by
  cases placed with
  | none => exact .inl rfl
  | cut left wide breaks found => exact .inr ⟨_, _, _, left, wide, found, rfl⟩
  | whole left unbroken =>
    rw [breaks] at unbroken
    cases unbroken

theorem Placed.totalWidth_le (placed : laid.Placed options width next) (positive : 1 ≤ width)
    (breaks : options.breaksLongWords = true)
    (used : laid.used = totalWidth laid.line) (fits : laid.used ≤ width) :
    totalWidth next.line ≤ width := by
  rcases placed.eq_or_cut breaks with rfl | ⟨chunk, rest, cut, left, wide, found, rfl⟩
  · exact used ▸ fits
  · have room : laid.room width = width - laid.used := if_neg (by omega)
    have part := visibleWidth_take_cut_le found (by omega)
    rw [push, totalWidth_append, totalWidth, totalWidth]
    omega

end Laid

/-! ## One pass -/

namespace Wrapping

variable {width : Int} {before after : Wrapping}

/-- A chunk, or a part of a chunk that is cut. -/
inductive PieceOf (options : WrapOptions) (wrapping : Wrapping) : Text → Prop
  | whole {chunk : Text} (member : chunk ∈ wrapping.chunks) : PieceOf options wrapping chunk
  | front {chunk : Text} {room : Int} {cut : Nat} (member : chunk ∈ wrapping.chunks)
      (searches : wrapping.Searches options chunk room) (found : fitting? room chunk = some cut) :
      PieceOf options wrapping (chunk.take cut)
  | back {chunk : Text} {room : Int} {cut : Nat} (member : chunk ∈ wrapping.chunks)
      (searches : wrapping.Searches options chunk room) (found : fitting? room chunk = some cut) :
      PieceOf options wrapping (chunk.drop cut)

/-- What one pass lays on a line, and what it leaves. -/
structure Lays (width : Int) (before : Wrapping) (pieces left : List Text) : Prop where
  ink_eq : ink (pieces.flatten ++ left.flatten) = ink before.chunks.flatten
  sublist : (pieces.flatten ++ left.flatten).Sublist before.chunks.flatten
  fits : totalWidth pieces ≤ width
  nonempty : ∀ piece ∈ pieces ++ left, piece ≠ []
  origin : ∀ piece ∈ pieces ++ left, PieceOf (ofWidth width) before piece

theorem indent_ofWidth (width : Int) (wrapping : Wrapping) :
    wrapping.indent (ofWidth width) = [] :=
  ite_self []

theorem width_ofWidth (width : Int) (wrapping : Wrapping) :
    wrapping.width (ofWidth width) = width := by
  rw [Wrapping.width, indent_ofWidth]
  exact Int.sub_zero width

theorem finish_ofWidth (width : Int) (laid : Laid) (wrapping : Wrapping) :
    wrapping.finish (ofWidth width) laid =
      if laid.line.isEmpty then { wrapping with chunks := laid.left }
      else wrapping.add laid.line.flatten laid.left := by
  rw [finish, indent_ofWidth]
  rfl

theorem upcoming_suffix (options : WrapOptions) (wrapping : Wrapping) :
    wrapping.upcoming options <:+ wrapping.chunks := by
  rcases upcoming_cases options wrapping with same | ⟨chunk, -, shape⟩
  · rw [same]
  · rw [shape]
    exact List.suffix_cons _ _

theorem ink_upcoming (options : WrapOptions) (wrapping : Wrapping) :
    ink (wrapping.upcoming options).flatten = ink wrapping.chunks.flatten := by
  rcases upcoming_cases options wrapping with same | ⟨chunk, blank, shape⟩
  · rw [same]
  · rw [shape, List.flatten_cons, ink_append, ink_eq_nil_of_isBlankText blank, List.nil_append]

theorem filled_append (options : WrapOptions) (wrapping : Wrapping) :
    (wrapping.filled options).line ++ (wrapping.filled options).left =
      wrapping.upcoming options :=
  fillLine_append _ _ _

theorem mem_of_mem_line {options : WrapOptions} {wrapping : Wrapping} {chunk : Text}
    (member : chunk ∈ (wrapping.filled options).line) : chunk ∈ wrapping.chunks := by
  apply (upcoming_suffix options wrapping).subset
  rw [← filled_append]
  exact List.mem_append_left _ member

theorem mem_of_mem_left {options : WrapOptions} {wrapping : Wrapping} {chunk : Text}
    (member : chunk ∈ (wrapping.filled options).left) : chunk ∈ wrapping.chunks := by
  apply (upcoming_suffix options wrapping).subset
  rw [← filled_append]
  exact List.mem_append_right _ member

section Placed

variable {options : WrapOptions} {laid : Laid}

/-- The pieces of a line, before blank ones are dropped at its end. -/
theorem pieceOf_of_placed
    (placed : (before.filled options).Placed options (before.width options) laid)
    (breaks : options.breaksLongWords = true) :
    ∀ piece ∈ laid.line ++ laid.left, PieceOf options before piece := by
  intro piece member
  rw [List.mem_append] at member
  rcases placed.eq_or_cut breaks with rfl | ⟨chunk, rest, cut, left, wide, found, rfl⟩
  · exact .whole (member.elim mem_of_mem_line mem_of_mem_left)
  · have inside {other : Text} (member : other ∈ chunk :: rest) : other ∈ before.chunks :=
      mem_of_mem_left (left ▸ member)
    have searches : before.Searches options chunk
        ((before.filled options).room (before.width options)) :=
      ⟨breaks, by rw [left, List.head?_cons], wide, rfl⟩
    simp only [Laid.push, List.mem_append, List.mem_cons, List.not_mem_nil, or_false] at member
    rcases member with (member | rfl) | rfl | member
    · exact .whole (mem_of_mem_line member)
    · exact .front (inside List.mem_cons_self) searches found
    · exact .back (inside List.mem_cons_self) searches found
    · exact .whole (inside (List.mem_cons_of_mem chunk member))

/-- Only the last piece on a line may be empty: there is no room for a character of the next
word. -/
theorem ne_nil_of_placed
    (placed : (before.filled options).Placed options (before.width options) laid)
    (breaks : options.breaksLongWords = true) (positive : 1 ≤ before.width options)
    (nonempty : ∀ chunk ∈ before.chunks, chunk ≠ []) :
    ∀ piece ∈ laid.line.dropLast ++ laid.left, piece ≠ [] := by
  intro piece member
  rw [List.mem_append] at member
  rcases placed.eq_or_cut breaks with rfl | ⟨chunk, rest, cut, left, wide, found, rfl⟩
  · rcases member with member | member
    · exact nonempty piece (mem_of_mem_line (List.mem_of_mem_dropLast member))
    · exact nonempty piece (mem_of_mem_left member)
  · have inside := cut_lt_length found (room_filled_nonneg positive)
    simp only [Laid.push, List.dropLast_concat, List.mem_cons] at member
    rcases member with member | rfl | member
    · exact nonempty piece (mem_of_mem_line member)
    · rw [Ne, List.drop_eq_nil_iff]
      omega
    · exact nonempty piece (mem_of_mem_left (left ▸ List.mem_cons_of_mem chunk member))

end Placed

/-- A pass lays a line and shows it, unless nothing is on it. -/
theorem Step.exists_lays (step : Step (ofWidth width) before after) (positive : 1 ≤ width)
    (nonempty : ∀ chunk ∈ before.chunks, chunk ≠ []) :
    ∃ pieces left, Lays width before pieces left ∧
      (pieces = [] ∧ after = { before with chunks := left } ∨
        pieces ≠ [] ∧ after = before.add pieces.flatten left) := by
  obtain ⟨-, passed⟩ := step
  obtain ⟨laid, placed, rfl⟩ := exists_placed passed
  have room : 1 ≤ before.width (ofWidth width) := by rwa [width_ofWidth]
  have parts : laid.line.flatten ++ laid.left.flatten =
      (before.upcoming (ofWidth width)).flatten := by
    rw [placed.flatten, ← List.flatten_append, filled_append]
  obtain ⟨dropped, trims⟩ := @Laid.exists_line_trimmed_append (ofWidth width) rfl laid
  refine ⟨(laid.trimmed (ofWidth width)).line, laid.left, ⟨?_, ?_, ?_, ?_, ?_⟩, ?_⟩
  · rw [ink_append, Laid.ink_line_trimmed rfl, ← ink_append, parts, ink_upcoming]
  · obtain ⟨first, suffix⟩ := upcoming_suffix (ofWidth width) before
    rw [← suffix, List.flatten_append, ← parts, trims, List.flatten_append, List.append_assoc]
    apply List.Sublist.trans _ (List.sublist_append_right _ _)
    exact (List.sublist_append_right _ _).append_left _
  · have whole := placed.totalWidth_le room rfl ?_ ?_
    · rw [trims, totalWidth_append, width_ofWidth] at whole
      omega
    · have used := used_fillLine (before.width (ofWidth width)) 0 (before.upcoming (ofWidth width))
      rwa [Int.zero_add] at used
    · exact used_fillLine_le (by omega)
  · have solid := ne_nil_of_placed placed rfl room nonempty
    intro piece member
    rcases List.mem_append.mp member with member | member
    · exact Laid.ne_nil_of_mem_trimmed rfl
        (fun other inner => solid other (List.mem_append_left _ inner)) member
    · exact solid piece (List.mem_append_right _ member)
  · intro piece member
    refine pieceOf_of_placed placed rfl piece ?_
    rw [trims]
    rcases List.mem_append.mp member with member | member
    · exact List.mem_append_left _ (List.mem_append_left _ member)
    · exact List.mem_append_right _ member
  · rw [finish_ofWidth, Laid.left_trimmed]
    by_cases empty : (laid.trimmed (ofWidth width)).line = []
    · left
      exact ⟨empty, if_pos (List.isEmpty_iff.mpr empty)⟩
    · right
      exact ⟨empty, if_neg (by simpa using empty)⟩

end Wrapping

/-! ## Line after line -/

/-- Lines as they are shown, and the colours that are active after them. The last line comes
first. -/
def coloured : List Text → List Text × List Text
  | [] => ([], [])
  | line :: earlier =>
    let (shown, active) := colourLine (coloured earlier).2 line
    (shown :: (coloured earlier).1, active)

/-- Whether a line is made of pieces within a width. -/
def Composed (width : Int) (property : Text → Prop) (line : Text) : Prop :=
  ∃ pieces : List Text, pieces ≠ [] ∧ line = pieces.flatten ∧ totalWidth pieces ≤ width ∧
    ∀ piece ∈ pieces, piece ≠ [] ∧ property piece

namespace Wrapping

variable {width : Int} {property : Text → Prop} {text : Text} {before after : Wrapping}

/-- Whether what holds of a word holds of both its parts where the next pass cuts it. -/
def KeepsCut (width : Int) (property : Text → Prop) (wrapping : Wrapping) : Prop :=
  ∀ chunk room cut, wrapping.Searches (ofWidth width) chunk room →
    fitting? room chunk = some cut → property chunk →
      property (chunk.take cut) ∧ property (chunk.drop cut)

/-- Whether the lines that are laid, before they are coloured, and the chunks that are left are a
text but for white space. -/
structure LaidOut (width : Int) (property : Text → Prop) (text : Text) (wrapping : Wrapping) :
    Prop where
  chunks : ∀ chunk ∈ wrapping.chunks, chunk ≠ [] ∧ property chunk
  lines : ∃ laid, coloured laid = (wrapping.lines, wrapping.active) ∧
    (∀ line ∈ laid, Composed width property line) ∧
    (laid.reverse.flatten ++ wrapping.chunks.flatten).Sublist text ∧
    ink (laid.reverse.flatten ++ wrapping.chunks.flatten) = ink text

theorem KeepsCut.property_of_pieceOf (keeps : KeepsCut width property before)
    (chunks : ∀ chunk ∈ before.chunks, property chunk) {piece : Text}
    (origin : PieceOf (ofWidth width) before piece) : property piece := by
  cases origin with
  | whole member => exact chunks _ member
  | front member searches found => exact (keeps _ _ _ searches found (chunks _ member)).1
  | back member searches found => exact (keeps _ _ _ searches found (chunks _ member)).2

/-- A pass lays one more line, or drops blank chunks. -/
theorem LaidOut.step (laidOut : before.LaidOut width property text) (positive : 1 ≤ width)
    (keeps : KeepsCut width property before) (step : Step (ofWidth width) before after) :
    after.LaidOut width property text := by
  obtain ⟨chunks, laid, shown, composed, sublist, same⟩ := laidOut
  obtain ⟨pieces, left, lays, shape⟩ :=
    step.exists_lays positive fun chunk member => (chunks chunk member).1
  have good : ∀ piece ∈ pieces ++ left, piece ≠ [] ∧ property piece := by
    intro piece member
    refine ⟨lays.nonempty piece member, ?_⟩
    exact keeps.property_of_pieceOf (fun chunk member => (chunks chunk member).2)
      (lays.origin piece member)
  have rest : ∀ chunk ∈ left, chunk ≠ [] ∧ property chunk := fun chunk member =>
    good chunk (List.mem_append_right _ member)
  have parts := (lays.sublist.append_left laid.reverse.flatten).trans sublist
  have whole : ink (laid.reverse.flatten ++ (pieces.flatten ++ left.flatten)) = ink text := by
    rw [ink_append, lays.ink_eq, ← ink_append, same]
  rcases shape with ⟨rfl, rfl⟩ | ⟨some, rfl⟩
  · exact ⟨rest, laid, shown, composed, parts, whole⟩
  · have order : (pieces.flatten :: laid).reverse.flatten ++ left.flatten =
        laid.reverse.flatten ++ (pieces.flatten ++ left.flatten) := by
      rw [List.reverse_cons, List.flatten_append, List.flatten_singleton, List.append_assoc]
    refine ⟨rest, pieces.flatten :: laid, ?_, ?_, order ▸ parts, order ▸ whole⟩
    · rw [coloured, shown]
      rfl
    · rw [List.forall_mem_cons]
      refine ⟨⟨pieces, some, rfl, lays.fits, ?_⟩, composed⟩
      exact fun piece member => good piece (List.mem_append_left _ member)

theorem LaidOut.run (laidOut : before.LaidOut width property text) (positive : 1 ≤ width)
    (keeps : ∀ wrapping, Reaches (ofWidth width) before wrapping →
      KeepsCut width property wrapping)
    (reached : Reaches (ofWidth width) before after) : after.LaidOut width property text := by
  induction reached with
  | refl => exact laidOut
  | tail earlier step induction => exact induction.step positive (keeps _ earlier) step

end Wrapping

section Wrap

variable {width : Int} {property : Text → Prop} {text : Text}

theorem laidOut_unwrapped (width : Int) (text : Text)
    (holds : ∀ chunk ∈ chunks (smooth (ofWidth width) text), property chunk) :
    (unwrapped (ofWidth width) text).LaidOut width property (smooth (ofWidth width) text) where
  chunks := fun chunk member => ⟨ne_nil_of_mem_chunks member, holds chunk member⟩
  lines := by
    have parts : (unwrapped (ofWidth width) text).chunks.flatten = smooth (ofWidth width) text :=
      flatten_chunks _
    refine ⟨[], rfl, fun line member => ?_, ?_, ?_⟩
    · cases member
    · exact parts ▸ .refl _
    · exact congrArg ink parts

/-- Where there is some width and no indent, wrapping comes to the last chunk. -/
theorem exists_wrap_ofWidth (text : Text) (positive : 1 ≤ width) :
    ∃ final, wrap (ofWidth width) text = .ok final.lines.reverse ∧
      Wrapping.Reaches (ofWidth width) (unwrapped (ofWidth width) text) final ∧
      final.chunks = [] := by
  rcases wrap_cases text (show 0 < (ofWidth width).width from positive) rfl with
    found | ⟨-, stuck, -, here⟩
  · exact found
  · refine absurd here (Wrapping.not_stuck ?_)
    rwa [Wrapping.width_ofWidth]

/-! ## Text without escape characters -/

theorem colourLine_of_notMem {line : Text} (plain : escape ∉ line) :
    colourLine [] line = (line, []) := by
  have none : ∀ fuel, sequencesFrom fuel line = [] := by
    intro fuel
    induction fuel generalizing line with
    | zero => rfl
    | succ fuel induction =>
      cases line with
      | nil => rfl
      | cons letter line =>
        rw [List.mem_cons, not_or] at plain
        rw [sequencesFrom, sequence?_eq_none (Ne.symm plain.1)]
        exact induction plain.2
  rw [colourLine, none]
  rfl

theorem coloured_of_notMem {laid : List Text} (plain : ∀ line ∈ laid, escape ∉ line) :
    coloured laid = (laid, []) := by
  induction laid with
  | nil => rfl
  | cons line laid induction =>
    rw [List.forall_mem_cons] at plain
    rw [coloured, induction plain.2, colourLine_of_notMem plain.1]

theorem totalWidth_of_notMem {pieces : List Text} (plain : ∀ piece ∈ pieces, escape ∉ piece) :
    totalWidth pieces = pieces.flatten.length := by
  induction pieces with
  | nil => rfl
  | cons piece pieces induction =>
    rw [List.forall_mem_cons] at plain
    rw [totalWidth, induction plain.2, visibleWidth,
      visible_of_not_isStyled (isStyled_of_notMem plain.1), List.flatten_cons, List.length_append]

theorem Composed.bounds {line : Text} (composed : Composed width (escape ∉ ·) line) :
    escape ∉ line ∧ 1 ≤ line.length ∧ (line.length : Int) ≤ width := by
  obtain ⟨pieces, some, rfl, fits, plain⟩ := composed
  refine ⟨?_, ?_, ?_⟩
  · intro inside
    obtain ⟨piece, member, here⟩ := List.mem_flatten.mp inside
    exact (plain piece member).2 here
  · obtain ⟨piece, pieces, rfl⟩ := List.exists_cons_of_ne_nil some
    have letters := List.length_pos_of_ne_nil (plain piece List.mem_cons_self).1
    rw [List.flatten_cons, List.length_append]
    omega
  · rwa [← totalWidth_of_notMem fun piece member => (plain piece member).2]

/-- A text without escape characters is wrapped into lines that are neither empty nor too wide. But
for white space nothing is dropped, and nothing is added, repeated or put elsewhere. -/
theorem plain_text_wrapped (text : Text) (width : Int) (plain : escape ∉ text)
    (positive : 1 ≤ width) :
    ∃ lines, wrap (ofWidth width) text = .ok lines ∧
      (∀ line ∈ lines, 1 ≤ line.length ∧ (line.length : Int) ≤ width) ∧
      ink lines.flatten = ink text ∧
      lines.flatten.Sublist (smooth (ofWidth width) text) := by
  obtain ⟨final, returned, reached, last⟩ := exists_wrap_ofWidth text positive
  have start : ∀ chunk ∈ chunks (smooth (ofWidth width) text), escape ∉ chunk := by
    intro chunk member inside
    have smoothed : escape ∈ smooth (ofWidth width) text := by
      rw [← flatten_chunks (smooth (ofWidth width) text)]
      exact List.mem_flatten.mpr ⟨chunk, member, inside⟩
    rcases mem_or_of_mem_smooth smoothed with space | inside
    · cases space
    · exact plain inside
  have keeps : ∀ wrapping, Wrapping.KeepsCut width (escape ∉ ·) wrapping := by
    intro wrapping chunk room cut _ _ plain
    exact ⟨fun inside => plain (List.mem_of_mem_take inside),
      fun inside => plain (List.mem_of_mem_drop inside)⟩
  obtain ⟨-, laid, shown, composed, sublist, same⟩ :=
    (laidOut_unwrapped width text start).run positive (fun wrapping _ => keeps wrapping) reached
  have bounds := fun line member => (composed line member).bounds
  rw [coloured_of_notMem fun line member => (bounds line member).1] at shown
  obtain ⟨lines, -⟩ := Prod.mk.inj shown
  rw [last, List.flatten_nil, List.append_nil, lines] at sublist same
  rw [ink_smooth] at same
  refine ⟨final.lines.reverse, returned, ?_, same, sublist⟩
  intro line member
  rw [List.mem_reverse, ← lines] at member
  exact (bounds line member).2

theorem plain_text_wrapped_narrow :
    escape ∉ " to\tbe,  wonderfully well-known ".toList ∧
      ∃ lines, wrap (ofWidth 5) " to\tbe,  wonderfully well-known ".toList = .ok lines ∧
        ink lines.flatten = "tobe,wonderfullywell-known".toList := by
  have plain : escape ∉ " to\tbe,  wonderfully well-known ".toList := by decide
  obtain ⟨lines, returned, -, same, -⟩ :=
    plain_text_wrapped " to\tbe,  wonderfully well-known ".toList 5 plain (by decide)
  exact ⟨plain, lines, returned, same⟩

end Wrap

end TypeSurvey.Text
