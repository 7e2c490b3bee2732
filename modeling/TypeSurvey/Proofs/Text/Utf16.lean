import TypeSurvey.Proofs.Text.Utf8
import TypeSurvey.Text.Utf16

/-!
# UTF-16 reads back what it writes

A character that is one unit is never taken for a half of a pair, and the two halves that it may be
written as are joined again. A half that stands alone is not joined with what follows it. So the
units of a text stand for that text.
-/

namespace TypeSurvey.Text

theorem toUnits_lt (letter : Char) {unit : Nat} (member : unit ∈ toUnits letter) :
    unit < 0x10000 := by
  have range := char_range letter
  unfold toUnits at member
  dsimp only at member
  split_ifs at member with single
  · simp only [List.mem_singleton] at member
    omega
  · simp only [List.mem_cons, List.not_mem_nil, or_false] at member
    omega

theorem not_half (letter : Char) :
    isHighHalf letter.toNat = false ∧ isLowHalf letter.toNat = false := by
  have range := char_range letter
  simp only [isHighHalf, isLowHalf, Bool.and_eq_false_iff, decide_eq_false_iff_not]
  omega

theorem ofUnit_toNat (letter : Char) : Point.ofUnit letter.toNat = .char letter := by
  have range := char_range letter
  rw [Point.ofUnit, dif_neg (by omega), Char.ofNat_toNat]

theorem ofUnit_half (place : Fin 0x800) : Point.ofUnit (0xd800 + place) = .half place := by
  rw [Point.ofUnit, dif_pos (by omega)]
  exact congrArg Point.half (Fin.ext (Nat.add_sub_cancel_left ..))

/-- A unit that makes no pair with the next one stands alone. -/
theorem pointsOf_cons {unit : Nat} {more : List Nat}
    (apart : ∀ next ∈ more.head?, (isHighHalf unit && isLowHalf next) = false) :
    pointsOf (unit :: more) = .ofUnit unit :: pointsOf more := by
  cases more with
  | nil => rfl
  | cons next more => rw [pointsOf, apart next rfl, if_neg Bool.false_ne_true]

/-- The units of a character in front of others stand for that character. -/
theorem pointsOf_toUnits_append (letter : Char) (more : List Nat) :
    pointsOf (toUnits letter ++ more) = .char letter :: pointsOf more := by
  have range := char_range letter
  unfold toUnits
  dsimp only
  split_ifs with single
  · rw [List.singleton_append, pointsOf_cons, ofUnit_toNat]
    simp [not_half]
  · -- the halves of a pair hold the ten high and the ten low bits of the code
    have high : isHighHalf (0xd800 + (letter.toNat - 0x10000) / 0x400) = true := by
      simp only [isHighHalf, Bool.and_eq_true, decide_eq_true_eq]
      omega
    have low : isLowHalf (0xdc00 + (letter.toNat - 0x10000) % 0x400) = true := by
      simp only [isLowHalf, Bool.and_eq_true, decide_eq_true_eq]
      omega
    have joined : 0x10000 + (0xd800 + (letter.toNat - 0x10000) / 0x400 - 0xd800) * 0x400 +
        (0xdc00 + (letter.toNat - 0x10000) % 0x400 - 0xdc00) = letter.toNat := by
      omega
    rw [List.cons_append, List.cons_append, List.nil_append, pointsOf, high, low, joined]
    simp

/-- The first unit of a character is no low half. -/
theorem exists_toUnits (letter : Char) :
    ∃ unit more, toUnits letter = unit :: more ∧ isLowHalf unit = false := by
  have range := char_range letter
  unfold toUnits
  dsimp only
  split_ifs with single
  · exact ⟨_, _, rfl, (not_half letter).2⟩
  · refine ⟨_, _, rfl, ?_⟩
    simp only [isLowHalf, Bool.and_eq_false_iff, decide_eq_false_iff_not]
    omega

theorem pointsOf_flatMap_units {points : List Point} (joined : isJoined points = true) :
    pointsOf (points.flatMap Point.units) = points := by
  induction points with
  | nil => rfl
  | cons point points induction =>
    cases point with
    | char letter =>
      rw [List.flatMap_cons, Point.units, pointsOf_toUnits_append, induction joined]
    | half place =>
      have rest : isJoined points = true ∧ ∀ unit ∈ (points.flatMap Point.units).head?,
          (isHighHalf (0xd800 + place) && isLowHalf unit) = false := by
        match points with
        | [] => exact ⟨rfl, nofun⟩
        | .char letter :: points =>
          refine ⟨joined, fun unit first => ?_⟩
          obtain ⟨other, more, shape, low⟩ := exists_toUnits letter
          rw [List.flatMap_cons, Point.units, shape] at first
          rw [← Option.mem_some_iff.mp first, low, Bool.and_false]
        | .half next :: points =>
          rw [isJoined, Bool.and_eq_true, Bool.not_eq_true'] at joined
          refine ⟨joined.2, fun unit first => ?_⟩
          rw [← Option.mem_some_iff.mp first]
          exact joined.1
      rw [List.flatMap_cons, Point.units, List.singleton_append, pointsOf_cons rest.2, ofUnit_half,
        induction rest.1]

theorem chars?_map (text : Text) : chars? (text.map .char) = some text := by
  induction text with
  | nil => rfl
  | cons letter text induction => rw [List.map_cons, chars?, induction, Option.map_some]

theorem isJoined_map (text : Text) : isJoined (text.map .char) = true := by
  induction text with
  | nil => rfl
  | cons letter text induction => exact induction

theorem Wide.ofUnits_flatMap_units (text : Wide) :
    ofUnits (text.points.flatMap Point.units) = text := by
  have back : pointsOf (text.points.flatMap Point.units) = text.points := by
    cases text with
    | whole text => exact pointsOf_flatMap_units (isJoined_map text)
    | halved text => exact pointsOf_flatMap_units text.joined
  unfold ofUnits
  split
  · next found known =>
    rw [back] at known
    cases text with
    | whole text => exact congrArg whole (Option.some.inj (known.symm.trans (chars?_map text)))
    | halved text => nomatch known.symm.trans text.halved
  · next known =>
    cases text with
    | whole text =>
      rw [back] at known
      nomatch known.symm.trans (chars?_map text)
    | halved text =>
      obtain ⟨points, _, _⟩ := text
      simp only [back]
      rfl

end TypeSurvey.Text
