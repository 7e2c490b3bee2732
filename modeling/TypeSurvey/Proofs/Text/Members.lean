import TypeSurvey.Proofs.Text.Split

/-!
# Members in brackets

Members are written in brackets with commas between them, and may have brackets and commas of their
own. Still they can be read in one way only: a word ends where no letter follows, and what follows a
member tells whether there are more of them. So members that can be told from what follows them can
be told from each other.
-/

namespace TypeSurvey.Text

/-! ## Words -/

/-- The letters of words. Commas and brackets stand between words. -/
structure Alphabet where
  isLetter : Char → Bool
  comma : isLetter ',' = false
  opening : isLetter '[' = false
  closing : isLetter ']' = false

/-- Words of letters only. -/
def Alphabet.letters : Alphabet := ⟨Char.isAlpha, rfl, rfl, rfl⟩

/-- Words with blanks and parentheses in them. -/
def Alphabet.phrases : Alphabet :=
  ⟨fun letter => letter.isAlpha || [' ', '(', ')'].contains letter, rfl, rfl, rfl⟩

variable {alphabet : Alphabet}

/-- Whether a text is made of letters. -/
def IsWord (alphabet : Alphabet) (word : Text) : Prop :=
  word.all alphabet.isLetter ∧ word ≠ []

instance (alphabet : Alphabet) (word : Text) : Decidable (IsWord alphabet word) :=
  inferInstanceAs (Decidable (_ ∧ _))

theorem takeWhile_word {word rest : Text} (isWord : IsWord alphabet word)
    (ends : ∀ letter ∈ rest.head?, alphabet.isLetter letter = false) :
    (word ++ rest).takeWhile alphabet.isLetter = word := by
  have stops : rest.takeWhile alphabet.isLetter = [] := by
    cases rest with
    | nil => rfl
    | cons letter rest => simp [ends letter rfl]
  rw [List.takeWhile_append_of_pos (List.all_eq_true.mp isWord.1), stops, List.append_nil]

/-- Texts show the words with which they begin. -/
theorem word_eq_of_append_eq {word other rest rest' : Text} (isWord : IsWord alphabet word)
    (isWord' : IsWord alphabet other)
    (ends : ∀ letter ∈ rest.head?, alphabet.isLetter letter = false)
    (ends' : ∀ letter ∈ rest'.head?, alphabet.isLetter letter = false)
    (same : word ++ rest = other ++ rest') : word = other ∧ rest = rest' := by
  have words : word = other := by
    rw [← takeWhile_word isWord ends, same, takeWhile_word isWord' ends']
  rw [words] at same
  exact ⟨words, List.append_cancel_left same⟩

/-! ## What follows a member -/

/-- Whether a text goes on, if at all, with something between words that opens no bracket. -/
def Stops (alphabet : Alphabet) (rest : Text) : Prop :=
  ∀ letter ∈ rest.head?, alphabet.isLetter letter = false ∧ letter ≠ '['

/-- Whether a text goes on with what follows the last of some members. -/
def Closes (alphabet : Alphabet) (rest : Text) : Prop :=
  ∃ letter ∈ rest.head?, alphabet.isLetter letter = false ∧ letter ≠ '[' ∧ letter ≠ ','

theorem stops_nil : Stops alphabet [] := by
  intro letter none
  cases none

theorem closes_bracket (rest : Text) : Closes alphabet ("]".toList ++ rest) :=
  ⟨']', rfl, alphabet.closing, by decide, by decide⟩

theorem Closes.stops {rest : Text} (closes : Closes alphabet rest) : Stops alphabet rest := by
  obtain ⟨letter, first, between, unopened, -⟩ := closes
  intro other also
  obtain rfl := Option.mem_unique first also
  exact ⟨between, unopened⟩

theorem Stops.isLetter_head? {rest : Text} (stops : Stops alphabet rest) :
    ∀ letter ∈ rest.head?, alphabet.isLetter letter = false :=
  fun letter first => (stops letter first).1

/-- What begins with a word closes no members. -/
theorem not_closes_word {word : Text} (isWord : IsWord alphabet word) (rest : Text) :
    ¬ Closes alphabet (word ++ rest) := by
  obtain ⟨letters, nonempty⟩ := isWord
  obtain ⟨letter, word, rfl⟩ := List.exists_cons_of_ne_nil nonempty
  rw [List.all_cons, Bool.and_eq_true] at letters
  rintro ⟨other, first, between, -⟩
  obtain rfl := Option.some.inj first
  exact absurd letters.1 (by simp [between])

/-! ## Reading members -/

/-- Whether a text can be told from what follows it, where texts of some kind are expected. -/
def Readable (alphabet : Alphabet) (written : Text → Prop) (text : Text) : Prop :=
  ∀ {other rest rest' : Text}, written other → Stops alphabet rest → Stops alphabet rest' →
    text ++ rest = other ++ rest' → text = other ∧ rest = rest'

/-- What follows a member: the other members and what follows them. -/
def further (rest : Text) : List Text → Text
  | [] => rest
  | piece :: pieces => ", ".toList ++ (join ", ".toList (piece :: pieces) ++ rest)

theorem join_append_rest (piece : Text) (pieces : List Text) (rest : Text) :
    join ", ".toList (piece :: pieces) ++ rest = piece ++ further rest pieces := by
  cases pieces with
  | nil => rfl
  | cons second pieces =>
    rw [join_cons_cons, List.append_assoc, List.append_assoc]
    rfl

theorem stops_further {rest : Text} (closes : Closes alphabet rest) (pieces : List Text) :
    Stops alphabet (further rest pieces) := by
  cases pieces with
  | nil => exact closes.stops
  | cons piece pieces =>
    intro letter first
    obtain rfl := Option.some.inj first
    exact ⟨alphabet.comma, by decide⟩

/-- A text that closes does not go on with a comma. -/
theorem not_closes_further {rest piece : Text} {pieces : List Text} :
    ¬ Closes alphabet (further rest (piece :: pieces)) := by
  rintro ⟨letter, first, -, -, other⟩
  obtain rfl := Option.some.inj first
  exact other rfl

section Reading

variable {written : Text → Prop} {pieces others : List Text} {rest rest' : Text}
  (opens : ∀ piece, written piece → ∀ rest, ¬ Closes alphabet (piece ++ rest))
  (pieces_written : ∀ piece ∈ pieces, written piece)
  (readable : ∀ piece ∈ pieces, Readable alphabet written piece)
  (others_written : ∀ other ∈ others, written other) (closes : Closes alphabet rest)
  (closes' : Closes alphabet rest')

include readable others_written closes closes'

/-- What follows a member shows the other members. -/
theorem further_inj (same : further rest pieces = further rest' others) :
    pieces = others ∧ rest = rest' := by
  induction pieces generalizing others with
  | nil =>
    cases others with
    | nil => exact ⟨rfl, same⟩
    | cons other others =>
      have here : rest = further rest' (other :: others) := same
      exact absurd (here ▸ closes) not_closes_further
  | cons piece pieces induction =>
    cases others with
    | nil =>
      have here : further rest (piece :: pieces) = rest' := same
      exact absurd (here ▸ closes') not_closes_further
    | cons other others =>
      rw [List.forall_mem_cons] at readable others_written
      have later := List.append_cancel_left same
      rw [join_append_rest, join_append_rest] at later
      obtain ⟨first, later⟩ := readable.1 others_written.1 (stops_further closes pieces)
        (stops_further closes' others) later
      obtain ⟨pieces_eq, rest_eq⟩ := induction readable.2 others_written.2 later
      exact ⟨congrArg₂ List.cons first pieces_eq, rest_eq⟩

include opens pieces_written

/-- Members can be told from each other and from what follows them, if each of them can and none of
them looks as if the members were closed. -/
theorem join_readable
    (same : join ", ".toList pieces ++ rest = join ", ".toList others ++ rest') :
    pieces = others ∧ rest = rest' := by
  cases pieces with
  | nil =>
    cases others with
    | nil => exact ⟨rfl, same⟩
    | cons other others =>
      rw [join_append_rest] at same
      have here : rest = other ++ further rest' others := same
      exact absurd (here ▸ closes) (opens other (others_written other List.mem_cons_self) _)
  | cons piece pieces =>
    cases others with
    | nil =>
      rw [join_append_rest] at same
      have here : piece ++ further rest pieces = rest' := same
      exact absurd (here ▸ closes') (opens piece (pieces_written piece List.mem_cons_self) _)
    | cons other others =>
      refine further_inj readable others_written closes closes' ?_
      exact congrArg (", ".toList ++ ·) same

end Reading

/-! ## Members in brackets -/

/-- Whether a text is a word, or a word with members of this kind in brackets. -/
inductive Bracketed (alphabet : Alphabet) : Text → Prop
  | word {word : Text} (isWord : IsWord alphabet word) : Bracketed alphabet word
  | members {word : Text} {pieces : List Text} (isWord : IsWord alphabet word)
      (each : ∀ piece ∈ pieces, Bracketed alphabet piece) :
      Bracketed alphabet (word ++ ("[".toList ++ (join ", ".toList pieces ++ "]".toList)))

theorem Bracketed.not_closes {text : Text} (bracketed : Bracketed alphabet text) (rest : Text) :
    ¬ Closes alphabet (text ++ rest) := by
  cases bracketed with
  | word isWord => exact not_closes_word isWord rest
  | members isWord each =>
    rw [List.append_assoc]
    exact not_closes_word isWord _

theorem isLetter_head?_bracket (rest : Text) :
    ∀ letter ∈ ("[".toList ++ rest).head?, alphabet.isLetter letter = false := by
  intro letter first
  obtain rfl := Option.some.inj first
  exact alphabet.opening

theorem not_stops_bracket (rest : Text) : ¬ Stops alphabet ("[".toList ++ rest) := by
  intro stops
  exact (stops '[' rfl).2 rfl

/-- What follows a text with brackets cannot be taken for a part of it. -/
theorem Bracketed.readable {text : Text} (bracketed : Bracketed alphabet text) :
    Readable alphabet (Bracketed alphabet) text := by
  induction bracketed with
  | word isWord =>
    intro other rest rest' otherBracketed stops stops' same
    cases otherBracketed with
    | word isWord' =>
      exact word_eq_of_append_eq isWord isWord' stops.isLetter_head? stops'.isLetter_head? same
    | members isWord' each =>
      rw [List.append_assoc, List.append_assoc] at same
      have later := (word_eq_of_append_eq isWord isWord' stops.isLetter_head?
        (isLetter_head?_bracket _) same).2
      exact absurd (later ▸ stops) (not_stops_bracket _)
  | @members word pieces isWord each induction =>
    intro other rest rest' otherBracketed stops stops' same
    rw [List.append_assoc, List.append_assoc, List.append_assoc] at same
    cases otherBracketed with
    | word isWord' =>
      have later := (word_eq_of_append_eq isWord isWord' (isLetter_head?_bracket _)
        stops'.isLetter_head? same).2
      exact absurd (later ▸ stops') (not_stops_bracket _)
    | members isWord' others_bracketed =>
      rw [List.append_assoc, List.append_assoc, List.append_assoc] at same
      obtain ⟨rfl, later⟩ := word_eq_of_append_eq isWord isWord' (isLetter_head?_bracket _)
        (isLetter_head?_bracket _) same
      obtain ⟨rfl, ends⟩ := join_readable (fun piece written => written.not_closes) each
        induction others_bracketed (closes_bracket rest) (closes_bracket rest')
        (List.append_cancel_left later)
      exact ⟨rfl, List.append_cancel_left ends⟩

end TypeSurvey.Text
