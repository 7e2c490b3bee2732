import TypeSurvey.Text.Styled
import TypeSurvey.Proofs.Text.Split

/-!
# Texts with and without escape sequences

A sequence ends at a mark of its own, so that it is found whatever follows it. Where a text has no
sequence, no part of it has one, and all of it is visible.
-/

namespace TypeSurvey.Text

variable {isWord : Char → Bool} {text rest : Text}

/-! ## Fronts -/

/-- Whether a scan reads a front of a text, whatever follows it. No front ends with a blank. -/
structure IsFront {α : Type} (scan : Text → Option α) (result : Text → α) (front : Text) :
    Prop where
  solid : ∃ last ∈ front.getLast?, last ≠ ' '
  reads : ∀ more, scan (front ++ more) = some (result more)

theorem exists_front_of_dropWhile {drops : Char → Bool} {letter : Char}
    (stop : text.dropWhile drops = letter :: rest) :
    ∃ front, text = front ++ letter :: rest ∧ ∀ more,
      (front ++ letter :: more).takeWhile drops = front ∧
      (front ++ letter :: more).dropWhile drops = letter :: more := by
  have inside := List.all_eq_true.mp (@List.all_takeWhile _ drops text)
  have last : drops letter = false := by
    have first := List.head?_dropWhile_not drops text
    rw [stop] at first
    simpa using first
  refine ⟨text.takeWhile drops, by rw [← stop, List.takeWhile_append_dropWhile], fun more => ?_⟩
  rw [List.takeWhile_append_of_pos inside, List.dropWhile_append_of_pos inside]
  simp [last]

theorem after?_eq_some_iff {opening : Text} :
    after? opening text = some rest ↔ text = opening ++ rest := by
  unfold after?
  split_ifs with start
  · obtain ⟨behind, rfl⟩ := List.isPrefixOf_iff_prefix.mp start
    rw [List.drop_left, Option.some.injEq, List.append_cancel_left_eq]
  · simp only [false_iff]
    rintro rfl
    exact start (List.isPrefixOf_iff_prefix.mpr (List.prefix_append opening rest))

theorem exists_front_of_afterControl? (found : afterControl? text = some rest) :
    ∃ front, text = front ++ rest ∧ IsFront afterControl? id front := by
  unfold afterControl? at found
  cases parameters : text.dropWhile (codeWithin 0x30 0x3f) with
  | nil => simp [parameters] at found
  | cons first behind =>
    rw [parameters] at found
    cases intermediates : (first :: behind).dropWhile (codeWithin 0x20 0x2f) with
    | nil => simp [intermediates] at found
    | cons final after =>
      simp only [intermediates, Option.ite_none_right_eq_some, Option.some.injEq] at found
      obtain ⟨ending, rfl⟩ := found
      obtain ⟨front, rfl, reads⟩ := exists_front_of_dropWhile parameters
      obtain ⟨between, shape, reads'⟩ := exists_front_of_dropWhile intermediates
      refine ⟨front ++ (between ++ [final]), by simp [shape], ⟨final, by simp, ?_⟩,
        fun more => ?_⟩
      · rintro rfl
        exact absurd ending (by decide)
      -- What follows the parameters begins as before, so that they end there.
      · have next : ∃ tail, between ++ final :: more = first :: tail := by
          cases between with
          | nil => exact ⟨more, by rw [(List.cons.inj shape).1]; rfl⟩
          | cons other between => exact ⟨_, by rw [(List.cons.inj shape).1]; rfl⟩
        obtain ⟨tail, same⟩ := next
        have whole : front ++ (between ++ [final]) ++ more = front ++ first :: tail := by
          simp [← same]
        unfold afterControl?
        rw [whole, (reads tail).2, ← same, (reads' more).2]
        exact if_pos ending

theorem exists_front_of_afterParameters? {place : LinkPlace}
    (found : afterParameters? isWord place text = some rest) :
    ∃ front, text = front ++ rest ∧ IsFront (afterParameters? isWord place) id front := by
  induction text generalizing place with
  | nil => simp [afterParameters?] at found
  | cons letter text induction =>
    have later {next : LinkPlace} (found : afterParameters? isWord next text = some rest)
        (step : ∀ text, afterParameters? isWord place (letter :: text) =
          afterParameters? isWord next text) :
        ∃ front, letter :: text = front ++ rest ∧
          IsFront (afterParameters? isWord place) id front := by
      obtain ⟨front, rfl, ⟨last, ending, solid⟩, reads⟩ := induction found
      exact ⟨letter :: front, rfl, ⟨last, by simp_all [List.getLast?_cons], solid⟩,
        fun more => (step _).trans (reads more)⟩
    unfold afterParameters? at found
    split_ifs at found with word sign colon semicolon
    · exact later found fun _ => if_pos word
    · cases place with
      | key | more => exact later found fun _ => by simp [afterParameters?, word, sign]
      | start | sign | value => cases found
    · cases place with
      | value | more => exact later found fun _ => by simp [afterParameters?, word, sign, colon]
      | start | key | sign => cases found
    · cases place with
      | start | value | more =>
        obtain rfl := Option.some.inj found
        obtain rfl := eq_of_beq semicolon
        exact ⟨[';'], rfl, ⟨';', rfl, by decide⟩, fun _ => by simp [afterParameters?, word]⟩
      | key | sign => cases found

theorem exists_front_of_linkText? {shown : Text}
    (found : linkText? isWord text = some (shown, rest)) :
    ∃ front, text = front ++ rest ∧ shown.length < front.length ∧
      IsFront (linkText? isWord) (shown, ·) front := by
  simp only [linkText?, Option.bind_eq_bind, Option.bind_eq_some_iff] at found
  obtain ⟨_, parameters, _, opened, _, closed, checked⟩ := found
  obtain ⟨front, rfl, -, reads⟩ := exists_front_of_afterParameters? parameters
  obtain ⟨address, rfl, readsAddress⟩ := exists_front_of_dropWhile (after?_eq_some_iff.mp opened)
  obtain ⟨inner, rfl, readsInner⟩ := exists_front_of_dropWhile (after?_eq_some_iff.mp closed)
  rw [(readsAddress _).1, (readsInner _).1] at checked
  split_ifs at checked with blank
  obtain ⟨rfl, rfl⟩ := Prod.mk.inj (Option.some.inj checked)
  refine ⟨front ++ (address ++ escape :: '\\' :: (inner ++ escape :: ("]8;;".toList ++
    [escape, '\\']))), by simp, by simp; omega, ⟨'\\', by simp [List.getLast?_cons], by decide⟩,
    fun more => ?_⟩
  simp only [linkText?, Option.bind_eq_bind, Option.bind_eq_some_iff]
  refine ⟨_, List.append_assoc front _ more ▸ reads _,
    inner ++ escape :: ("]8;;".toList ++ [escape, '\\'] ++ more), ?_, more, ?_, ?_⟩
  · rw [id, List.append_assoc, List.cons_append, (readsAddress _).2, after?_eq_some_iff]
    simp
  · rw [(readsInner _).2, after?_eq_some_iff]
    simp
  · rw [id, List.append_assoc, List.cons_append, (readsAddress _).1, (readsInner _).1]
    exact if_neg blank

section Sequence

variable {shown : Text} (found : sequence? isWord text = some (shown, rest))

include found

/-- A sequence is a front of the text, longer by more than two characters than what it shows. -/
theorem exists_front_of_sequence? :
    ∃ front, text = front ++ rest ∧ shown.length + 2 < front.length ∧
      IsFront (sequence? isWord) (shown, ·) front := by
  unfold sequence? at found
  split at found
  · next first behind =>
    split_ifs at found with start
    obtain ⟨behind, control, shape⟩ := Option.map_eq_some_iff.mp found
    obtain ⟨rfl, rfl⟩ := Prod.mk.inj shape
    obtain ⟨front, rfl, ⟨last, ending, solid⟩, reads⟩ := exists_front_of_afterControl? control
    have some := List.length_pos_of_mem (List.mem_of_getLast? ending)
    refine ⟨first :: '[' :: front, rfl, by simpa using some,
      ⟨last, by simp_all [List.getLast?_cons], solid⟩, fun more => ?_⟩
    simp [sequence?, start, reads]
  · next first behind =>
    split_ifs at found with start
    obtain ⟨front, rfl, longer, ⟨last, ending, solid⟩, reads⟩ := exists_front_of_linkText? found
    refine ⟨first :: ']' :: '8' :: ';' :: front, rfl, by simp; omega,
      ⟨last, by simp_all [List.getLast?_cons], solid⟩, fun more => ?_⟩
    simp [sequence?, start, reads]
  · cases found

theorem sequence?_append (more : Text) :
    sequence? isWord (text ++ more) = some (shown, rest ++ more) := by
  obtain ⟨front, rfl, -, isFront⟩ := exists_front_of_sequence? found
  rw [List.append_assoc]
  exact isFront.reads _

theorem length_sequence?_lt : shown.length + rest.length + 2 < text.length := by
  obtain ⟨front, rfl, longer, -⟩ := exists_front_of_sequence? found
  rw [List.length_append]
  omega

end Sequence

/-! ## Lengths -/

theorem length_visibleFrom_le (isWord : Char → Bool) (fuel : Nat) (text : Text) :
    (visibleFrom isWord fuel text).length ≤ text.length := by
  induction fuel generalizing text with
  | zero => exact Nat.le_refl _
  | succ fuel induction =>
    cases text with
    | nil => exact Nat.le_refl _
    | cons letter text =>
      rw [visibleFrom]
      cases found : sequence? isWord (letter :: text) with
      | none => exact Nat.succ_le_succ (induction text)
      | some parts =>
        obtain ⟨shown, rest⟩ := parts
        have shorter := length_sequence?_lt found
        have later := induction rest
        rw [List.length_append]
        omega

theorem length_visible_le (text : Text) : (visible text).length ≤ text.length :=
  length_visibleFrom_le isWordChar text.length text

/-- No sequence has two characters only. -/
theorem isStyled_of_length_le_two (short : text.length ≤ 2) : isStyled text = false := by
  induction text with
  | nil => rfl
  | cons letter text induction =>
    rw [isStyled, induction (Nat.le_of_succ_le short), Bool.or_false]
    cases found : sequence? isWordChar (letter :: text) with
    | none => rfl
    | some parts =>
      have longer := @length_sequence?_lt _ _ parts.2 parts.1 found
      omega

/-! ## Parts -/

theorem isStyled_append_left (front : Text) (styled : isStyled text = true) :
    isStyled (front ++ text) = true := by
  induction front with
  | nil => exact styled
  | cons letter front induction => simp [isStyled, induction]

theorem isStyled_append_right (back : Text) (styled : isStyled text = true) :
    isStyled (text ++ back) = true := by
  induction text with
  | nil => nomatch styled
  | cons letter text induction =>
    rw [isStyled, Bool.or_eq_true] at styled
    rw [List.cons_append, isStyled, Bool.or_eq_true]
    rcases styled with here | later
    · obtain ⟨⟨shown, rest⟩, found⟩ := Option.isSome_iff_exists.mp here
      have longer := sequence?_append found back
      rw [List.cons_append] at longer
      simp [longer]
    · exact .inr (induction later)

theorem isStyled_join {separator piece : Text} {pieces : List Text} (member : piece ∈ pieces)
    (styled : isStyled piece = true) : isStyled (join separator pieces) = true := by
  induction pieces with
  | nil => nomatch member
  | cons first pieces induction =>
    cases pieces with
    | nil =>
      rw [List.mem_singleton.mp member] at styled
      rwa [join]
    | cons second pieces =>
      rw [join_cons_cons, List.append_assoc]
      rcases List.mem_cons.mp member with rfl | later
      · exact isStyled_append_right _ styled
      · exact isStyled_append_left _ (isStyled_append_left _ (induction later))

/-! ## What is visible -/

theorem visible_of_not_isStyled (plain : isStyled text = false) : visible text = text := by
  unfold visible
  induction text with
  | nil => rfl
  | cons letter text induction =>
    rw [isStyled, Bool.or_eq_false_iff, Option.isSome_eq_false_iff, Option.isNone_iff_eq_none]
      at plain
    rw [List.length_cons, visibleFrom, plain.1]
    exact congrArg (List.cons letter) (induction plain.2)

theorem sequence?_eq_none {letter : Char} (shown : letter ≠ escape) (text : Text) :
    sequence? isWord (letter :: text) = none := by
  unfold sequence?
  split <;> simp_all

theorem visible_cons {letter : Char} (shown : letter ≠ escape) (text : Text) :
    visible (letter :: text) = letter :: visible text := by
  rw [visible, List.length_cons, visibleFrom, sequence?_eq_none shown]
  rfl

/-- A text that does not start with an escape character shows its first character. -/
theorem head?_visible {letter : Char} (shown : letter ≠ escape) (text : Text) :
    (visible (letter :: text)).head? = some letter := by
  rw [visible_cons shown, List.head?_cons]

/-- As many passes as there are characters are enough. -/
theorem visibleFrom_congr {fuel other : Nat} (enough : text.length ≤ fuel)
    (enough_other : text.length ≤ other) :
    visibleFrom isWord fuel text = visibleFrom isWord other text := by
  induction fuel generalizing other text with
  | zero =>
    obtain rfl := List.eq_nil_of_length_eq_zero (Nat.le_zero.mp enough)
    cases other <;> rfl
  | succ fuel induction =>
    cases text with
    | nil => cases other <;> rfl
    | cons letter text =>
      rw [List.length_cons] at enough enough_other
      obtain ⟨other, rfl⟩ := Nat.exists_eq_add_one_of_ne_zero (by omega : other ≠ 0)
      rw [visibleFrom, visibleFrom]
      cases found : sequence? isWord (letter :: text) with
      | none =>
        apply congrArg (List.cons letter)
        exact induction (by omega) (by omega)
      | some parts =>
        have shorter := @length_sequence?_lt _ _ parts.2 parts.1 found
        rw [List.length_cons] at shorter
        apply congrArg (parts.1 ++ ·)
        exact induction (by omega) (by omega)

/-- What a sequence shows comes before what is visible after it. -/
theorem visible_of_sequence? {shown : Text}
    (found : sequence? isWordChar text = some (shown, rest)) :
    visible text = shown ++ visible rest := by
  have shorter := length_sequence?_lt found
  cases text with
  | nil => cases found
  | cons letter text =>
    rw [List.length_cons] at shorter
    rw [visible, List.length_cons, visibleFrom, found]
    apply congrArg (shown ++ ·)
    exact visibleFrom_congr (by omega) (Nat.le_refl _)

theorem isStyled_of_notMem (plain : escape ∉ text) : isStyled text = false := by
  induction text with
  | nil => rfl
  | cons letter text induction =>
    rw [List.mem_cons, not_or] at plain
    rw [isStyled, sequence?_eq_none (Ne.symm plain.1), induction plain.2]
    rfl

end TypeSurvey.Text
