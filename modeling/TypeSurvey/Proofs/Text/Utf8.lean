import TypeSurvey.Text.Utf8
import Mathlib.Tactic.NormNum

/-!
# UTF-8 reads back what it writes

The decoder takes the bytes of one character as a whole and goes on behind them, so that the bytes
of a text decode to that text, whatever its characters are. It accepts no other bytes: what it takes
for a character is the one way to write it.
-/

namespace TypeSurvey.Text

/-- A character is a code point that is no half of a pair. -/
theorem char_range (letter : Char) :
    letter.toNat < 0xd800 ∨ 0xe000 ≤ letter.toNat ∧ letter.toNat < 0x110000 := by
  have valid := letter.valid
  simp only [UInt32.isValidChar, Nat.isValidChar] at valid
  change letter.val.toNat < 0xd800 ∨ 0xe000 ≤ letter.val.toNat ∧ letter.val.toNat < 0x110000
  omega

theorem toNat_toUInt8 {code : Nat} (small : code < 256) : code.toUInt8.toNat = code := by
  simpa using Nat.mod_eq_of_lt small

theorem decodeFrom_single (position code : Nat) (rest : Bytes) (small : code < 0x80) :
    decodeFrom position none (code.toUInt8 :: rest) =
      (decodeFrom (position + 1) none rest).map (Char.ofNat code :: ·) := by
  have byte : code.toUInt8.toNat = code := toNat_toUInt8 (by omega)
  rw [decodeFrom, byte, if_pos small]
  cases decodeFrom (position + 1) none rest <;> rfl

theorem decodeFrom_first {code missing least most : Nat} (position : Nat) (rest : Bytes)
    (small : code < 256) (large : 0x80 ≤ code)
    (shape : sequenceShape? code = some (missing, least, most)) :
    decodeFrom position none (code.toUInt8 :: rest) =
      decodeFrom (position + 1)
        (some ⟨1, code.toUInt8, missing, least, most, code % Nat.pow 2 (6 - missing)⟩) rest := by
  have byte : code.toUInt8.toNat = code := toNat_toUInt8 small
  rw [decodeFrom, byte, if_neg (by omega), shape]

/-- A byte within the bounds that is not the last one keeps the sequence open. -/
theorem decodeFrom_middle (position code : Nat) (seq : OpenSequence) (rest : Bytes)
    (small : code < 256) (lower : seq.least ≤ code) (upper : code ≤ seq.most)
    (more : 1 < seq.missing) :
    decodeFrom position (some seq) (code.toUInt8 :: rest) =
      decodeFrom (position + 1)
        (some ⟨seq.read + 1, seq.first, seq.missing - 1, 0x80, 0xbf, seq.code * 64 + code % 64⟩)
        rest := by
  have byte : code.toUInt8.toNat = code := toNat_toUInt8 small
  rw [decodeFrom, byte, if_pos (by simp [lower, upper])]
  simp only [if_neg (Nat.not_le.mpr more)]

theorem decodeFrom_last (position code : Nat) (seq : OpenSequence) (rest : Bytes)
    (small : code < 256) (lower : seq.least ≤ code) (upper : code ≤ seq.most)
    (last : seq.missing ≤ 1) :
    decodeFrom position (some seq) (code.toUInt8 :: rest) =
      (decodeFrom (position + 1) none rest).map
        (Char.ofNat (seq.code * 64 + code % 64) :: ·) := by
  have byte : code.toUInt8.toNat = code := toNat_toUInt8 small
  rw [decodeFrom, byte, if_pos (by simp [lower, upper])]
  simp only [if_pos last]
  cases decodeFrom (position + 1) none rest <;> rfl

/-- The first byte of three allows the second one: overlong forms and halves of pairs are
excluded. -/
theorem sequenceShape_three {code : Nat} (long : 0x800 ≤ code) (short : code < 0x10000)
    (range : code < 0xd800 ∨ 0xe000 ≤ code) :
    ∃ least most, sequenceShape? (0xe0 + code / 4096) = some (2, least, most) ∧
      least ≤ 0x80 + code / 64 % 64 ∧ 0x80 + code / 64 % 64 ≤ most := by
  by_cases lowest : code / 4096 = 0
  · refine ⟨0xa0, 0xbf, ?_, by omega, by omega⟩
    rw [lowest]
    rfl
  by_cases halves : code / 4096 = 13
  · refine ⟨0x80, 0x9f, ?_, by omega, by omega⟩
    rw [halves]
    rfl
  · refine ⟨0x80, 0xbf, ?_, by omega, by omega⟩
    rw [sequenceShape?, if_neg (by simp; omega), if_neg (by omega), if_neg (by omega),
      if_pos (by simp; omega)]

/-- The first byte of four allows the second one: overlong forms and codes beyond the last are
excluded. -/
theorem sequenceShape_four {code : Nat} (long : 0x10000 ≤ code) (short : code < 0x110000) :
    ∃ least most, sequenceShape? (0xf0 + code / 262144) = some (3, least, most) ∧
      least ≤ 0x80 + code / 4096 % 64 ∧ 0x80 + code / 4096 % 64 ≤ most := by
  by_cases lowest : code / 262144 = 0
  · refine ⟨0x90, 0xbf, ?_, by omega, by omega⟩
    rw [lowest]
    rfl
  by_cases highest : code / 262144 = 4
  · refine ⟨0x80, 0x8f, ?_, by omega, by omega⟩
    rw [highest]
    rfl
  · refine ⟨0x80, 0xbf, ?_, by omega, by omega⟩
    rw [sequenceShape?, if_neg (by simp; omega), if_neg (by omega), if_neg (by omega),
      if_neg (by simp; omega), if_neg (by omega), if_pos (by simp; omega)]

theorem decodeFrom_encodeChar (position : Nat) (letter : Char) (rest : Bytes) :
    decodeFrom position none (encodeChar letter ++ rest) =
      (decodeFrom (position + (encodeChar letter).length) none rest).map (letter :: ·) := by
  have range := char_range letter
  have back : Char.ofNat letter.toNat = letter := Char.ofNat_toNat letter
  generalize codeEq : letter.toNat = code at range back
  unfold encodeChar
  simp only [codeEq, show Nat.pow 2 0 = 1 from rfl, show Nat.pow 2 6 = 64 from rfl,
    show Nat.pow 2 12 = 4096 from rfl, Nat.div_one]
  -- one case for each length of the sequence
  split_ifs with one two three
  · simp only [List.cons_append, List.nil_append, List.length_cons, List.length_nil]
    rw [decodeFrom_single position code rest one, back]
  · have shape : sequenceShape? (0xc0 + code / 64) = some (1, 0x80, 0xbf) := by
      rw [sequenceShape?, if_pos (by simp; omega)]
    simp only [List.cons_append, List.nil_append, List.length_cons, List.length_nil]
    rw [decodeFrom_first position _ (by omega) (by omega) shape]
    rw [decodeFrom_last _ _ _ _ (by omega) (by simp) (by simp; omega) (by simp)]
    rw [show (0xc0 + code / 64) % Nat.pow 2 (6 - 1) * 64 + (0x80 + code % 64) % 64 = code by
      norm_num; omega]
    rw [back]
  · obtain ⟨least, most, shape, lower, upper⟩ :=
      sequenceShape_three (by omega) three (by omega)
    simp only [List.cons_append, List.nil_append, List.length_cons, List.length_nil]
    rw [decodeFrom_first position _ (by omega) (by omega) shape]
    rw [decodeFrom_middle _ _ _ _ (by omega) lower upper (by simp)]
    rw [decodeFrom_last _ _ _ _ (by omega) (by simp) (by simp; omega) (by simp)]
    rw [show ((0xe0 + code / 4096) % Nat.pow 2 (6 - 2) * 64 + (0x80 + code / 64 % 64) % 64) * 64 +
        (0x80 + code % 64) % 64 = code by norm_num; omega]
    rw [back]
  · obtain ⟨least, most, shape, lower, upper⟩ :=
      sequenceShape_four (by omega : 0x10000 ≤ code) (by omega)
    simp only [List.cons_append, List.nil_append, List.length_cons, List.length_nil]
    rw [decodeFrom_first position _ (by omega) (by omega) shape]
    rw [decodeFrom_middle _ _ _ _ (by omega) lower upper (by simp)]
    rw [decodeFrom_middle _ _ _ _ (by omega) (by simp) (by simp; omega) (by simp)]
    rw [decodeFrom_last _ _ _ _ (by omega) (by simp) (by simp; omega) (by simp)]
    rw [show (((0xf0 + code / 262144) % Nat.pow 2 (6 - 3) * 64 +
        (0x80 + code / 4096 % 64) % 64) * 64 + (0x80 + code / 64 % 64) % 64) * 64 +
          (0x80 + code % 64) % 64 = code by norm_num; omega]
    rw [back]

theorem decodeFrom_encodeUtf8 (position : Nat) (text : Text) :
    decodeFrom position none (encodeUtf8 text) = .ok text := by
  induction text generalizing position with
  | nil => rfl
  | cons letter text induction =>
    rw [encodeUtf8, List.flatMap_cons, decodeFrom_encodeChar]
    change ((decodeFrom _ none (encodeUtf8 text)).map _) = _
    rw [induction]
    rfl

theorem decodeUtf8_encodeUtf8 (text : Text) : decodeUtf8 (encodeUtf8 text) = .ok text :=
  decodeFrom_encodeUtf8 0 text

/-! ## No other bytes are read -/

/-- In an open sequence the next byte is within the bounds, and it ends the sequence or not. -/
theorem exists_of_decodeFrom_some {position : Nat} {seq : OpenSequence} {bytes : Bytes}
    {text : Text} (decoded : decodeFrom position (some seq) bytes = .ok text) :
    ∃ byte rest, bytes = byte :: rest ∧ seq.least ≤ byte.toNat ∧ byte.toNat ≤ seq.most ∧
      if seq.missing ≤ 1 then
        ∃ tail, text = Char.ofNat (seq.code * 64 + byte.toNat % 64) :: tail ∧
          decodeFrom (position + 1) none rest = .ok tail
      else
        decodeFrom (position + 1) (some ⟨seq.read + 1, seq.first, seq.missing - 1, 0x80, 0xbf,
          seq.code * 64 + byte.toNat % 64⟩) rest = .ok text := by
  cases bytes with
  | nil => simp [decodeFrom] at decoded
  | cons byte rest =>
    rw [decodeFrom] at decoded
    split_ifs at decoded with bounds last
    · simp only [Bool.and_eq_true, decide_eq_true_eq] at bounds
      refine ⟨byte, rest, rfl, bounds.1, bounds.2, ?_⟩
      rw [if_pos last]
      cases later : decodeFrom (position + 1) none rest with
      | error fault => simp [later, bind, Except.bind] at decoded
      | ok tail =>
        rw [later] at decoded
        exact ⟨tail, (Except.ok.inj decoded).symm, rfl⟩
    · simp only [Bool.and_eq_true, decide_eq_true_eq] at bounds
      refine ⟨byte, rest, rfl, bounds.1, bounds.2, ?_⟩
      rw [if_neg last]
      exact decoded

theorem sequenceShape_cases {code missing least most : Nat}
    (shape : sequenceShape? code = some (missing, least, most)) :
    (missing = 1 ∧ 0xc2 ≤ code ∧ code ≤ 0xdf ∧ least = 0x80 ∧ most = 0xbf) ∨
    (missing = 2 ∧ 0xe0 ≤ code ∧ code ≤ 0xef ∧ 0x80 ≤ least ∧ most ≤ 0xbf ∧
      (code = 0xe0 → 0xa0 ≤ least) ∧ (code = 0xed → most ≤ 0x9f)) ∨
    (missing = 3 ∧ 0xf0 ≤ code ∧ code ≤ 0xf4 ∧ 0x80 ≤ least ∧ most ≤ 0xbf ∧
      (code = 0xf0 → 0x90 ≤ least) ∧ (code = 0xf4 → most ≤ 0x8f)) := by
  unfold sequenceShape? at shape
  split_ifs at shape <;>
    simp only [Option.some.injEq, Prod.mk.injEq, Bool.and_eq_true, decide_eq_true_eq] at * <;>
    omega

theorem toNat_ofNat_of_range (code : Nat)
    (range : code < 0xd800 ∨ 0xe000 ≤ code ∧ code < 0x110000) : (Char.ofNat code).toNat = code := by
  have valid : code.isValidChar := by
    simp only [Nat.isValidChar]
    omega
  rw [Char.ofNat, dif_pos valid]
  rfl

theorem toUInt8_eq (byte : UInt8) {code : Nat} (same : code = byte.toNat) :
    code.toUInt8 = byte := by
  rw [same]
  exact UInt8.ofNat_toNat

theorem encodeChar_two {first second : UInt8} (lead : 0xc2 ≤ first.toNat ∧ first.toNat ≤ 0xdf)
    (tail : 0x80 ≤ second.toNat ∧ second.toNat ≤ 0xbf) :
    encodeChar (Char.ofNat (first.toNat % 32 * 64 + second.toNat % 64)) = [first, second] := by
  have code := toNat_ofNat_of_range (first.toNat % 32 * 64 + second.toNat % 64) (by omega)
  unfold encodeChar
  simp only [code, show Nat.pow 2 0 = 1 from rfl, Nat.div_one]
  rw [if_neg (by omega), if_pos (by omega), toUInt8_eq first (by omega),
    toUInt8_eq second (by omega)]

theorem encodeChar_three {first second third : UInt8}
    (lead : 0xe0 ≤ first.toNat ∧ first.toNat ≤ 0xef)
    (tail : 0x80 ≤ second.toNat ∧ second.toNat ≤ 0xbf)
    (last : 0x80 ≤ third.toNat ∧ third.toNat ≤ 0xbf)
    (long : first.toNat = 0xe0 → 0xa0 ≤ second.toNat)
    (whole : first.toNat = 0xed → second.toNat ≤ 0x9f) :
    encodeChar (Char.ofNat ((first.toNat % 16 * 64 + second.toNat % 64) * 64 + third.toNat % 64)) =
      [first, second, third] := by
  have code := toNat_ofNat_of_range
    ((first.toNat % 16 * 64 + second.toNat % 64) * 64 + third.toNat % 64) (by omega)
  unfold encodeChar
  simp only [code, show Nat.pow 2 0 = 1 from rfl, show Nat.pow 2 6 = 64 from rfl, Nat.div_one]
  rw [if_neg (by omega), if_neg (by omega), if_pos (by omega), toUInt8_eq first (by omega),
    toUInt8_eq second (by omega), toUInt8_eq third (by omega)]

theorem encodeChar_four {first second third fourth : UInt8}
    (lead : 0xf0 ≤ first.toNat ∧ first.toNat ≤ 0xf4)
    (tail : 0x80 ≤ second.toNat ∧ second.toNat ≤ 0xbf)
    (next : 0x80 ≤ third.toNat ∧ third.toNat ≤ 0xbf)
    (last : 0x80 ≤ fourth.toNat ∧ fourth.toNat ≤ 0xbf)
    (long : first.toNat = 0xf0 → 0x90 ≤ second.toNat)
    (whole : first.toNat = 0xf4 → second.toNat ≤ 0x8f) :
    encodeChar (Char.ofNat (((first.toNat % 8 * 64 + second.toNat % 64) * 64 +
      third.toNat % 64) * 64 + fourth.toNat % 64)) = [first, second, third, fourth] := by
  have code := toNat_ofNat_of_range
    (((first.toNat % 8 * 64 + second.toNat % 64) * 64 + third.toNat % 64) * 64 +
      fourth.toNat % 64) (by omega)
  unfold encodeChar
  simp only [code, show Nat.pow 2 0 = 1 from rfl, show Nat.pow 2 6 = 64 from rfl,
    show Nat.pow 2 12 = 4096 from rfl, Nat.div_one]
  rw [if_neg (by omega), if_neg (by omega), if_neg (by omega), toUInt8_eq first (by omega),
    toUInt8_eq second (by omega), toUInt8_eq third (by omega),
    toUInt8_eq fourth (by omega)]

theorem exists_encodeChar_of_decodeFrom {position : Nat} {byte : UInt8} {rest : Bytes} {text : Text}
    (decoded : decodeFrom position none (byte :: rest) = .ok text) :
    ∃ letter more tail next, byte :: rest = encodeChar letter ++ more ∧ text = letter :: tail ∧
      decodeFrom next none more = .ok tail := by
  rw [decodeFrom] at decoded
  split_ifs at decoded with small
  · cases later : decodeFrom (position + 1) none rest with
    | error fault => simp [later, bind, Except.bind] at decoded
    | ok tail =>
      rw [later] at decoded
      have code : (Char.ofNat byte.toNat).toNat = byte.toNat := toNat_ofNat_of_range _ (by omega)
      refine ⟨_, rest, tail, _, ?_, (Except.ok.inj decoded).symm, later⟩
      simp [encodeChar, code, small]
  · cases shape : sequenceShape? byte.toNat with
    | none => simp [shape] at decoded
    | some bounds =>
      obtain ⟨missing, least, most⟩ := bounds
      simp only [shape] at decoded
      -- One more byte is read in each round, until the shape of the first byte is complete.
      obtain ⟨second, rest, rfl, lower, upper, decoded⟩ := exists_of_decodeFrom_some decoded
      dsimp only at lower upper
      rcases sequenceShape_cases shape with
        ⟨rfl, two⟩ | ⟨rfl, three⟩ | ⟨rfl, four⟩
      · obtain ⟨tail, rfl, later⟩ := decoded
        refine ⟨_, rest, tail, _, ?_, rfl, later⟩
        exact congrArg (· ++ rest)
          (encodeChar_two ⟨two.1, two.2.1⟩ ⟨by omega, by omega⟩).symm
      · obtain ⟨third, rest, rfl, low, high, decoded⟩ := exists_of_decodeFrom_some decoded
        obtain ⟨tail, rfl, later⟩ := decoded
        refine ⟨_, rest, tail, _, ?_, rfl, later⟩
        exact congrArg (· ++ rest)
          (encodeChar_three ⟨three.1, three.2.1⟩ ⟨by omega, by omega⟩ ⟨low, high⟩ (by omega)
            (by omega)).symm
      · obtain ⟨third, rest, rfl, low, high, decoded⟩ := exists_of_decodeFrom_some decoded
        obtain ⟨fourth, rest, rfl, least, most, decoded⟩ := exists_of_decodeFrom_some decoded
        obtain ⟨tail, rfl, later⟩ := decoded
        refine ⟨_, rest, tail, _, ?_, rfl, later⟩
        exact congrArg (· ++ rest)
          (encodeChar_four ⟨four.1, four.2.1⟩ ⟨by omega, by omega⟩ ⟨low, high⟩ ⟨least, most⟩
            (by omega) (by omega)).symm

theorem encodeUtf8_of_decodeFrom {position : Nat} {bytes : Bytes} {text : Text}
    (decoded : decodeFrom position none bytes = .ok text) : bytes = encodeUtf8 text := by
  induction text generalizing position bytes with
  | nil =>
    cases bytes with
    | nil => rfl
    | cons byte rest =>
      obtain ⟨letter, more, tail, next, -, shape, -⟩ := exists_encodeChar_of_decodeFrom decoded
      simp at shape
  | cons letter text induction =>
    cases bytes with
    | nil => simp [decodeFrom] at decoded
    | cons byte rest =>
      obtain ⟨first, more, tail, next, whole, shape, later⟩ :=
        exists_encodeChar_of_decodeFrom decoded
      obtain ⟨rfl, rfl⟩ := List.cons.inj shape
      rw [whole, induction later, encodeUtf8, encodeUtf8, List.flatMap_cons]

theorem decodeUtf8_eq_ok_iff {bytes : Bytes} {text : Text} :
    decodeUtf8 bytes = .ok text ↔ bytes = encodeUtf8 text := by
  constructor
  · exact encodeUtf8_of_decodeFrom
  · rintro rfl
    exact decodeUtf8_encodeUtf8 text

theorem encodeUtf8_inj {text other : Text} : encodeUtf8 text = encodeUtf8 other ↔ text = other := by
  rw [← decodeUtf8_eq_ok_iff, decodeUtf8_encodeUtf8, Except.ok.injEq]

end TypeSurvey.Text
