import TypeSurvey.Number.Binary64
import Mathlib.Algebra.Order.Field.Power
import Mathlib.Data.Rat.Cast.Order
import Mathlib.Tactic.FieldSimp
import Mathlib.Tactic.GCongr
import Mathlib.Tactic.Linarith
import Mathlib.Tactic.Positivity

/-!
# Rounding to the nearest number

Every fraction between the halfway points around a number is rounded to that number, and so are the
halfway points themselves if its significand is even. Below a power of two the numbers are closer
together, and the halfway point there is nearer. The exponent of the result is settled first: it is
the one under which the quotient has as many binary digits as a significand, or the least one.
-/

namespace TypeSurvey

/-! ## Rounding to integers -/

/-- Whether an integer is the nearest one to a fraction, the even one if there are two. -/
structure IsNearest (value : ℚ) (nearest : Nat) : Prop where
  lower : (nearest : ℚ) - 1 / 2 ≤ value
  upper : value ≤ nearest + 1 / 2
  odd : nearest % 2 = 1 → (nearest : ℚ) - 1 / 2 < value ∧ value < nearest + 1 / 2

theorem IsNearest.eq {value : ℚ} {first second : Nat} (one : IsNearest value first)
    (other : IsNearest value second) : first = second := by
  wlog smaller : first < second generalizing first second
  · rcases Nat.lt_or_ge second first with larger | larger
    · exact (this other one larger).symm
    · omega
  -- The two are neighbours, the fraction is halfway between them, and one of them is odd.
  have step : (first : ℚ) + 1 ≤ second := by exact_mod_cast smaller
  have above := other.lower
  have below := one.upper
  have next : second = first + 1 := by
    have bound : (second : ℚ) ≤ first + 1 := by linarith
    exact_mod_cast le_antisymm bound step
  rcases Nat.mod_two_eq_zero_or_one first with even | odd
  · have strict := (other.odd (by omega)).1
    linarith
  · have strict := (one.odd odd).2
    linarith

theorem isNearest_roundDiv (numerator : Nat) {denominator : Nat} (positive : 0 < denominator) :
    IsNearest ((numerator : ℚ) / denominator) (roundDiv numerator denominator) := by
  have positive' : (0 : ℚ) < denominator := by exact_mod_cast positive
  set quotient := numerator / denominator with quotient_eq
  set remainder := numerator % denominator with remainder_eq
  have small : remainder < denominator := Nat.mod_lt _ positive
  have whole : (numerator : ℚ) / denominator = quotient + remainder / denominator := by
    have parts : numerator = denominator * quotient + remainder := (Nat.div_add_mod _ _).symm
    rw [parts]
    push_cast
    field_simp
  have nonneg : (0 : ℚ) ≤ remainder / denominator := by positivity
  have less : (remainder : ℚ) / denominator < 1 := by
    rw [div_lt_one positive']
    exact_mod_cast small
  have half : (remainder : ℚ) / denominator < 1 / 2 ↔ 2 * remainder < denominator := by
    rw [div_lt_iff₀ positive', ← @Nat.cast_lt ℚ]
    push_cast
    constructor <;> intro <;> linarith
  have tie : (1 / 2 : ℚ) < remainder / denominator ↔ denominator < 2 * remainder := by
    rw [lt_div_iff₀ positive', ← @Nat.cast_lt ℚ]
    push_cast
    constructor <;> intro <;> linarith
  have result : roundDiv numerator denominator =
      if 2 * remainder < denominator ∨ 2 * remainder = denominator ∧ quotient % 2 = 0 then quotient
      else quotient + 1 := by
    simp [roundDiv, ← quotient_eq, ← remainder_eq]
  rw [whole, result]
  split_ifs with down
  · have most : (remainder : ℚ) / denominator ≤ 1 / 2 := by
      rw [← not_lt, tie]
      omega
    refine ⟨by linarith, by linarith, fun odd => ⟨by linarith, ?_⟩⟩
    have strict := half.mpr (by omega)
    linarith
  · have least : (1 / 2 : ℚ) ≤ remainder / denominator := by
      rw [← not_lt, half]
      omega
    have next : ((quotient + 1 : Nat) : ℚ) = quotient + 1 := Nat.cast_succ quotient
    refine ⟨by linarith, by linarith, fun odd => ⟨?_, by linarith⟩⟩
    have strict := tie.mpr (by omega)
    linarith

theorem roundDiv_eq {numerator denominator nearest : Nat} (positive : 0 < denominator)
    (near : IsNearest ((numerator : ℚ) / denominator) nearest) :
    roundDiv numerator denominator = nearest :=
  (isNearest_roundDiv numerator positive).eq near

/-! ## Scaling -/

/-- A fraction divided by a power of a base. -/
def scaleBy (base numerator denominator : Nat) (exponent : Int) : Nat × Nat :=
  match exponent with
  | .ofNat power => (numerator, denominator * base ^ power)
  | .negSucc power => (numerator * base ^ (power + 1), denominator)

theorem scaleBy_eq {base : Nat} (base_positive : 0 < base) (numerator : Nat) {denominator : Nat}
    (positive : 0 < denominator) (exponent : Int) :
    0 < (scaleBy base numerator denominator exponent).2 ∧
      ((scaleBy base numerator denominator exponent).1 : ℚ) /
          (scaleBy base numerator denominator exponent).2 =
        numerator / denominator / (base : ℚ) ^ exponent := by
  cases exponent with
  | ofNat power =>
    refine ⟨Nat.mul_pos positive (Nat.pow_pos base_positive), ?_⟩
    change (numerator : ℚ) / (denominator * base ^ power : Nat) = _ / (base : ℚ) ^ (power : Int)
    rw [zpow_natCast, Nat.cast_mul, Nat.cast_pow, div_div]
  | negSucc power =>
    refine ⟨positive, ?_⟩
    change ((numerator * base ^ (power + 1) : Nat) : ℚ) / denominator = _
    rw [zpow_negSucc, Nat.cast_mul, Nat.cast_pow, div_inv_eq_mul, mul_div_right_comm]

namespace Binary64

/-! ## Exponents -/

/-- Whether a significand and an exponent are those of a number: the significand is as large as its
binary digits allow, unless the exponent is the least one. -/
structure Fits (significand : Nat) (exponent : Int) : Prop where
  small : significand < 2 ^ 53
  least : leastExponent ≤ exponent
  most : exponent ≤ 971
  full : 2 ^ 52 ≤ significand ∨ exponent = leastExponent

theorem scale_eq (numerator : Nat) {denominator : Nat} (positive : 0 < denominator)
    (exponent : Int) :
    0 < (scale numerator denominator exponent).2 ∧
      ((scale numerator denominator exponent).1 : ℚ) / (scale numerator denominator exponent).2 =
        numerator / denominator / 2 ^ exponent := by
  have same : scale numerator denominator exponent = scaleBy 2 numerator denominator exponent := by
    cases exponent <;> rfl
  rw [same]
  exact scaleBy_eq two_pos numerator positive exponent

/-- The number of a fraction once its exponent is settled. -/
def finish (negative : Bool) (numerator denominator : Nat) (exponent : Int) : Binary64 :=
  let (top, bottom) := scale numerator denominator exponent
  let rounded := roundDiv top bottom
  let (significand, exponent) :=
    if rounded = Nat.pow 2 53 then (Nat.pow 2 52, exponent + 1) else (rounded, exponent)
  if exponent > 971 then .infinite negative else .finite negative significand exponent

/-- The exponent under which a fraction has as many binary digits as a significand. -/
def exponentOf (numerator denominator : Nat) : Int :=
  let guess : Int := (numerator.log2 : Int) - denominator.log2 - 53
  let scaled := scale numerator denominator guess
  if scaled.1 / scaled.2 < Nat.pow 2 53 then guess else guess + 1

theorem ofFraction_eq_finish (negative : Bool) {numerator : Nat} (present : numerator ≠ 0)
    (denominator : Nat) :
    ofFraction negative numerator denominator =
      finish negative numerator denominator
        (max leastExponent (exponentOf numerator denominator)) := by
  rw [ofFraction, if_neg present]
  rfl

theorem two_zpow_log2 {number : Nat} (present : number ≠ 0) :
    (2 : ℚ) ^ (number.log2 : Int) ≤ number ∧ (number : ℚ) < 2 ^ ((number.log2 : Int) + 1) := by
  have lower : 2 ^ number.log2 ≤ number := Nat.log2_self_le present
  have upper : number < 2 ^ (number.log2 + 1) := Nat.lt_log2_self
  constructor
  · rw [zpow_natCast]
    exact_mod_cast lower
  · rw [← Nat.cast_succ, zpow_natCast]
    exact_mod_cast upper

/-- Under that exponent the quotient has as many binary digits as a significand. -/
theorem exponentOf_spec {numerator denominator : Nat} (present : numerator ≠ 0)
    (positive : 0 < denominator) :
    (2 : ℚ) ^ (exponentOf numerator denominator + 52) ≤ numerator / denominator ∧
      (numerator : ℚ) / denominator < 2 ^ (exponentOf numerator denominator + 53) := by
  have positive' : (0 : ℚ) < denominator := by exact_mod_cast positive
  have two : (2 : ℚ) ≠ 0 := by norm_num
  obtain ⟨numerator_ge, numerator_lt⟩ := two_zpow_log2 present
  obtain ⟨denominator_ge, denominator_lt⟩ := two_zpow_log2 positive.ne'
  set guess : Int := (numerator.log2 : Int) - denominator.log2 - 53 with guess_eq
  have above : (2 : ℚ) ^ (guess + 52) ≤ numerator / denominator := by
    rw [le_div_iff₀ positive']
    calc
      (2 : ℚ) ^ (guess + 52) * denominator
          ≤ 2 ^ (guess + 52) * 2 ^ ((denominator.log2 : Int) + 1) := by gcongr
      _ = 2 ^ (numerator.log2 : Int) := by
        rw [← zpow_add₀ two, guess_eq]
        congr 1
        omega
      _ ≤ numerator := numerator_ge
  have below : (numerator : ℚ) / denominator < 2 ^ (guess + 54) := by
    rw [div_lt_iff₀ positive']
    calc
      (numerator : ℚ) < 2 ^ ((numerator.log2 : Int) + 1) := numerator_lt
      _ = 2 ^ (guess + 54) * 2 ^ (denominator.log2 : Int) := by
        rw [← zpow_add₀ two, guess_eq]
        congr 1
        omega
      _ ≤ 2 ^ (guess + 54) * denominator := by gcongr
  have test : (scale numerator denominator guess).1 /
        (scale numerator denominator guess).2 < 2 ^ 53 ↔
      (numerator : ℚ) / denominator < 2 ^ (guess + 53) := by
    obtain ⟨bottom_positive, value⟩ := scale_eq numerator positive guess
    have bottom_positive' : (0 : ℚ) < (scale numerator denominator guess).2 := by
      exact_mod_cast bottom_positive
    have power : (2 : ℚ) ^ (guess + 53) = 2 ^ 53 * 2 ^ guess := by
      rw [add_comm, zpow_add₀ two]
      norm_num
    rw [Nat.div_lt_iff_lt_mul bottom_positive, ← @Nat.cast_lt ℚ, power,
      ← div_lt_iff₀ (by positivity), ← value, div_lt_iff₀ bottom_positive']
    push_cast
    rfl
  have result : exponentOf numerator denominator =
      if (numerator : ℚ) / denominator < 2 ^ (guess + 53) then guess else guess + 1 :=
    if_congr test rfl rfl
  rw [result]
  split_ifs with small
  · exact ⟨above, small⟩
  · rw [add_assoc, add_assoc]
    exact ⟨not_lt.mp small, below⟩

theorem two_zpow_add (exponent : Int) (digits : Nat) :
    (2 : ℚ) ^ (exponent + digits) = 2 ^ digits * 2 ^ exponent := by
  rw [zpow_add₀ (by norm_num), zpow_natCast, mul_comm]

theorem finish_eq {negative : Bool} {numerator denominator rounded : Nat} {exponent : Int}
    (positive : 0 < denominator)
    (near : IsNearest ((numerator : ℚ) / denominator / 2 ^ exponent) rounded) :
    finish negative numerator denominator exponent =
      if rounded = 2 ^ 53 then
        if exponent + 1 > 971 then .infinite negative
        else .finite negative (2 ^ 52) (exponent + 1)
      else if exponent > 971 then .infinite negative else .finite negative rounded exponent := by
  obtain ⟨bottom, scaled⟩ := scale_eq numerator positive exponent
  rw [← scaled] at near
  have result : roundDiv (scale numerator denominator exponent).1
      (scale numerator denominator exponent).2 = rounded := roundDiv_eq bottom near
  by_cases carry : rounded = 2 ^ 53
  · rw [if_pos carry]
    simp only [finish, result]
    rw [if_pos (show rounded = Nat.pow 2 53 from carry)]
    rfl
  · rw [if_neg carry]
    simp only [finish, result]
    rw [if_neg (show ¬ rounded = Nat.pow 2 53 from carry)]

theorem lt_of_two_zpow {value : ℚ} {low high : Int} (lower : (2 : ℚ) ^ low ≤ value)
    (upper : value < 2 ^ high) : low < high :=
  (zpow_lt_zpow_iff_right₀ (by norm_num)).mp (lower.trans_lt upper)

/-! ## Numbers -/

/-- The distance from a number down to the halfway point, for a power of two as a unit. -/
def gap (significand : Nat) (exponent : Int) : ℚ :=
  if significand = 2 ^ 52 ∧ leastExponent < exponent then 1 / 4 else 1 / 2

/-- Whether a fraction lies between the halfway points around a number; on one of them only if the
significand is even. -/
structure RoundsTo (value : ℚ) (significand : Nat) (exponent : Int) : Prop where
  lower : (significand - gap significand exponent) * 2 ^ exponent ≤ value
  upper : value ≤ (significand + 1 / 2) * 2 ^ exponent
  odd : significand % 2 = 1 →
    (significand - gap significand exponent) * 2 ^ exponent < value ∧
      value < (significand + 1 / 2) * 2 ^ exponent

theorem gap_le (significand : Nat) (exponent : Int) : gap significand exponent ≤ 1 / 2 := by
  unfold gap
  split_ifs <;> norm_num

section Fraction

variable {value : ℚ} {significand : Nat} {exponent : Int}

theorem RoundsTo.isNearest (rounds : RoundsTo value significand exponent) :
    IsNearest (value / 2 ^ exponent) significand := by
  have power : (0 : ℚ) < 2 ^ exponent := by positivity
  have close := gap_le significand exponent
  have lower := (le_div_iff₀ power).mpr rounds.lower
  refine ⟨by linarith, (div_le_iff₀ power).mpr rounds.upper, fun odd => ?_⟩
  obtain ⟨above, below⟩ := rounds.odd odd
  have strict := (lt_div_iff₀ power).mpr above
  exact ⟨by linarith, (div_lt_iff₀ power).mpr below⟩

theorem RoundsTo.pos (rounds : RoundsTo value significand exponent) (present : significand ≠ 0) :
    0 < value := by
  have power : (0 : ℚ) < 2 ^ exponent := by positivity
  have close := gap_le significand exponent
  have least : (1 : ℚ) ≤ significand := by exact_mod_cast Nat.one_le_iff_ne_zero.mpr present
  have positive : 0 < (significand - gap significand exponent) * 2 ^ exponent :=
    mul_pos (by linarith) power
  exact positive.trans_le rounds.lower

/-- The exponent of a fraction that lies between the halfway points around a number is that of the
number, unless the number is a power of two and the fraction is below it. -/
theorem RoundsTo.exponent_cases {order : Int} (rounds : RoundsTo value significand exponent)
    (fits : Fits significand exponent) (order_le : (2 : ℚ) ^ (order + 52) ≤ value)
    (order_lt : value < 2 ^ (order + 53)) :
    max leastExponent order = exponent ∨
      significand = 2 ^ 52 ∧ max leastExponent order = exponent - 1 ∧
        IsNearest (value / 2 ^ (exponent - 1)) (2 ^ 53) := by
  have power : (0 : ℚ) < 2 ^ exponent := by positivity
  have small : (significand : ℚ) + 1 ≤ 2 ^ 53 := by exact_mod_cast fits.small
  have least := fits.least
  have upper : order + 52 < exponent + 53 := by
    refine lt_of_two_zpow order_le ?_
    rw [show exponent + 53 = exponent + (53 : Nat) from rfl, two_zpow_add]
    refine rounds.upper.trans_lt (mul_lt_mul_of_pos_right ?_ power)
    linarith
  rcases le_or_gt (2 ^ (exponent + 52)) value with above | below
  · have lower := lt_of_two_zpow above order_lt
    left
    omega
  · have lower := lt_of_two_zpow order_le below
    rcases least.eq_or_lt with rfl | normal
    · left
      omega
    · right
      rw [show exponent + 52 = exponent + (52 : Nat) from rfl, two_zpow_add] at below
      -- The significand is that of a power of two, since the next one is too far from the fraction.
      have full : 2 ^ 52 ≤ significand := fits.full.resolve_right normal.ne'
      have close := lt_of_mul_lt_mul_right (rounds.lower.trans_lt below) power.le
      have bound := gap_le significand exponent
      have first : significand = 2 ^ 52 := by
        have next : (significand : ℚ) < 2 ^ 52 + 1 := by linarith
        have : significand < 2 ^ 52 + 1 := by exact_mod_cast next
        omega
      have above := rounds.lower
      rw [gap, if_pos ⟨first, normal⟩, first] at above
      push_cast at above
      have half : (2 : ℚ) ^ (exponent - 1) = 2 ^ exponent / 2 := by
        rw [zpow_sub_one₀ (by norm_num)]
        rfl
      have order_ge : exponent - 1 + 52 < order + 53 := by
        refine lt_of_two_zpow ?_ order_lt
        rw [show exponent - 1 + 52 = exponent - 1 + (52 : Nat) from rfl, two_zpow_add, half]
        linarith
      refine ⟨first, by omega, ?_, ?_, fun odd => absurd odd (by decide)⟩
      · rw [half, le_div_iff₀ (by positivity)]
        push_cast
        linarith
      · rw [half, div_le_iff₀ (by positivity)]
        push_cast
        linarith

end Fraction

/-- Every fraction between the halfway points around a number is rounded to it. -/
theorem ofFraction_of_roundsTo {numerator denominator significand : Nat} {exponent : Int}
    (negative : Bool) (positive : 0 < denominator) (fits : Fits significand exponent)
    (present : significand ≠ 0)
    (rounds : RoundsTo ((numerator : ℚ) / denominator) significand exponent) :
    ofFraction negative numerator denominator = .finite negative significand exponent := by
  have numerator_ne : numerator ≠ 0 := by
    rintro rfl
    simpa using rounds.pos present
  obtain ⟨order_le, order_lt⟩ := exponentOf_spec numerator_ne positive
  have small := fits.small
  have most := fits.most
  rw [ofFraction_eq_finish negative numerator_ne]
  rcases rounds.exponent_cases fits order_le order_lt with same | ⟨first, below, near⟩
  · rw [same, finish_eq positive rounds.isNearest, if_neg (by omega), if_neg (by omega)]
  · rw [below, finish_eq positive near, if_pos rfl, sub_add_cancel, if_neg (by omega), first]

/-- Whether a number is one that a fraction can be rounded to. -/
def IsRounded : Binary64 → Prop
  | finite _ significand exponent => Fits significand exponent
  | _ => True

theorem isRounded_zero (negative : Bool) : IsRounded (zero negative) :=
  ⟨by decide, le_rfl, by decide, .inr rfl⟩

/-- The integer nearest to a fraction has as many binary digits as a significand, or one more. -/
theorem fits_of_isNearest {value : ℚ} {order : Int} {rounded : Nat}
    (order_le : (2 : ℚ) ^ (order + 52) ≤ value) (order_lt : value < 2 ^ (order + 53))
    (near : IsNearest (value / 2 ^ (max leastExponent order)) rounded) :
    rounded ≤ 2 ^ 53 ∧ (2 ^ 52 ≤ rounded ∨ max leastExponent order = leastExponent) := by
  set exponent := max leastExponent order with exponent_eq
  have power : (0 : ℚ) < 2 ^ exponent := by positivity
  constructor
  · have less : value / 2 ^ exponent < 2 ^ 53 := by
      rw [div_lt_iff₀ power, ← two_zpow_add]
      exact order_lt.trans_le (zpow_le_zpow_right₀ (by norm_num) (by omega))
    have lower := near.lower
    have bound : (rounded : ℚ) < 2 ^ 53 + 1 := by linarith
    have : rounded < 2 ^ 53 + 1 := by exact_mod_cast bound
    omega
  · rcases le_total order leastExponent with small | large
    · right
      omega
    · left
      have more : 2 ^ 52 ≤ value / 2 ^ exponent := by
        rw [le_div_iff₀ power, ← two_zpow_add, exponent_eq, max_eq_right large]
        exact order_le
      have upper := near.upper
      have bound : (2 : ℚ) ^ 52 < rounded + 1 := by linarith
      have : 2 ^ 52 < rounded + 1 := by exact_mod_cast bound
      omega

/-- Every fraction is rounded to a number whose significand has its binary digits. -/
theorem isRounded_ofFraction (negative : Bool) (numerator : Nat) {denominator : Nat}
    (positive : 0 < denominator) : IsRounded (ofFraction negative numerator denominator) := by
  by_cases present : numerator = 0
  · rw [ofFraction, if_pos present]
    exact isRounded_zero negative
  · obtain ⟨order_le, order_lt⟩ := exponentOf_spec present positive
    rw [ofFraction_eq_finish negative present]
    obtain ⟨bottom, scaled⟩ := scale_eq numerator positive
      (max leastExponent (exponentOf numerator denominator))
    have near := isNearest_roundDiv
      (scale numerator denominator (max leastExponent (exponentOf numerator denominator))).1 bottom
    rw [scaled] at near
    rw [finish_eq positive near]
    obtain ⟨small, full⟩ := fits_of_isNearest order_le order_lt near
    have least := le_max_left leastExponent (exponentOf numerator denominator)
    split_ifs with carry large large
    · trivial
    · exact ⟨by decide, by omega, by omega, .inl le_rfl⟩
    · trivial
    · exact ⟨by omega, least, by omega, full⟩

theorem isRounded_ofDecimal (negative : Bool) (digits : Nat) (exponent : Int) :
    IsRounded (ofDecimal negative digits exponent) := by
  unfold ofDecimal
  dsimp only
  split_ifs
  · exact isRounded_zero negative
  · trivial
  · cases exponent with
    | ofNat power => exact isRounded_ofFraction _ _ (by decide)
    | negSucc power => exact isRounded_ofFraction _ _ (Nat.pow_pos (by decide))

end Binary64

end TypeSurvey
