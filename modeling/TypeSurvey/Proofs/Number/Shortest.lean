import TypeSurvey.Number.Shortest
import TypeSurvey.Proofs.Number.Rounding
import Mathlib.Data.Nat.Cast.Order.Field
import Mathlib.Tactic.Ring

/-!
# The shortest digits read back as the number

The digits of a number are searched on grids that get finer and finer. Whatever is found lies
between the halfway points around the number, so that it is rounded to it again. With seventeen
digits something is found: half a step of that grid is less than the distance to either halfway
point.
-/

namespace TypeSurvey

namespace Binary64

theorem magnitude_eq (significand : Nat) (exponent : Int) :
    0 < (magnitude significand exponent).2 ∧
      ((magnitude significand exponent).1 : ℚ) / (magnitude significand exponent).2 =
        significand * 2 ^ exponent := by
  cases exponent with
  | ofNat power =>
    refine ⟨Nat.one_pos, ?_⟩
    change ((significand * 2 ^ power : Nat) : ℚ) / (1 : Nat) = significand * 2 ^ (power : Int)
    rw [zpow_natCast]
    push_cast
    rw [div_one]
  | negSucc power =>
    refine ⟨Nat.pow_pos (by decide), ?_⟩
    change (significand : ℚ) / (2 ^ (power + 1) : Nat) = _
    rw [zpow_negSucc, Nat.cast_pow, Nat.cast_ofNat, div_eq_mul_inv]

end Binary64

namespace Decimal

open Binary64

def value (number : Decimal) : ℚ := number.digits * 10 ^ number.exponent

/-! ## Intervals -/

/-- Whether the ends of an interval are the halfway points around a number. -/
structure Interval.Around (bounds : Interval) (significand : Nat) (exponent : Int) : Prop where
  positive : 0 < bounds.denominator
  lower : (bounds.lower : ℚ) / bounds.denominator =
    (significand - gap significand exponent) * 2 ^ exponent
  middle : (bounds.middle : ℚ) / bounds.denominator = significand * 2 ^ exponent
  upper : (bounds.upper : ℚ) / bounds.denominator = (significand + 1 / 2) * 2 ^ exponent
  closed : bounds.closed = true ↔ significand % 2 = 0

theorem around_interval {significand : Nat} (present : significand ≠ 0) (exponent : Int) :
    (interval significand exponent).Around significand exponent := by
  obtain ⟨positive, unit⟩ := magnitude_eq 1 (exponent - 2)
  have quarter (count : Nat) : ((count * (magnitude 1 (exponent - 2)).1 : Nat) : ℚ) /
      (magnitude 1 (exponent - 2)).2 = count / 4 * 2 ^ exponent := by
    rw [Nat.cast_mul, mul_div_assoc, unit, zpow_sub₀ (by norm_num)]
    norm_num
    ring
  have below : ((4 * significand -
      (if significand = Nat.pow 2 52 && exponent > leastExponent then 1 else 2) : Nat) : ℚ) =
        4 * (significand - gap significand exponent) := by
    have least : 2 ≤ 4 * significand := by omega
    have test : (significand = Nat.pow 2 52 && exponent > leastExponent) = true ↔
        significand = 2 ^ 52 ∧ leastExponent < exponent := by
      rw [Bool.and_eq_true, decide_eq_true_eq, decide_eq_true_eq]
      rfl
    rw [gap]
    by_cases nearer : significand = 2 ^ 52 ∧ leastExponent < exponent
    · rw [if_pos (test.mpr nearer), if_pos nearer, Nat.cast_sub (by omega)]
      push_cast
      ring
    · rw [if_neg (mt test.mp nearer), if_neg nearer, Nat.cast_sub least]
      push_cast
      ring
  refine ⟨positive, ?_, ?_, ?_, ?_⟩
  · refine (quarter _).trans ?_
    rw [below]
    ring
  · refine (quarter _).trans ?_
    push_cast
    ring
  · refine (quarter _).trans ?_
    push_cast
    ring
  · exact decide_eq_true_iff

section Around

variable {bounds : Interval} {significand digits : Nat} {exponent power : Int}

/-- An interval compares its ends with a fraction that has the value of the decimal number. -/
theorem Interval.exists_holds_eq (bounds : Interval) (digits : Nat) (power : Int) :
    ∃ left right : Nat, 0 < right ∧
      (left : ℚ) / right = digits * 10 ^ power * bounds.denominator ∧
      bounds.holds digits power =
        if bounds.closed then bounds.lower * right ≤ left && left ≤ bounds.upper * right
        else bounds.lower * right < left && left < bounds.upper * right := by
  cases power with
  | ofNat exponent =>
    refine ⟨digits * 10 ^ exponent * bounds.denominator, 1, Nat.one_pos, ?_, rfl⟩
    rw [Nat.cast_one, div_one, Int.ofNat_eq_natCast, zpow_natCast]
    push_cast
    rfl
  | negSucc exponent =>
    refine ⟨digits * bounds.denominator, 10 ^ (exponent + 1), Nat.pow_pos (by decide), ?_, rfl⟩
    rw [zpow_negSucc]
    push_cast
    ring

/-- Whether an interval holds a decimal number is a matter of its value. -/
theorem Interval.holds_iff (positive : 0 < bounds.denominator) :
    bounds.holds digits power = true ↔
      if bounds.closed then
        (bounds.lower : ℚ) / bounds.denominator ≤ digits * 10 ^ power ∧
          (digits : ℚ) * 10 ^ power ≤ bounds.upper / bounds.denominator
      else
        (bounds.lower : ℚ) / bounds.denominator < digits * 10 ^ power ∧
          (digits : ℚ) * 10 ^ power < bounds.upper / bounds.denominator := by
  have positive' : (0 : ℚ) < bounds.denominator := by exact_mod_cast positive
  obtain ⟨left, right, right_positive, value, result⟩ := bounds.exists_holds_eq digits power
  have right_positive' : (0 : ℚ) < right := by exact_mod_cast right_positive
  rw [div_le_iff₀ positive', le_div_iff₀ positive', div_lt_iff₀ positive', lt_div_iff₀ positive',
    ← value, le_div_iff₀ right_positive', div_le_iff₀ right_positive', lt_div_iff₀ right_positive',
    div_lt_iff₀ right_positive', result]
  norm_cast
  split_ifs <;> rw [Bool.and_eq_true, decide_eq_true_eq, decide_eq_true_eq]

/-- What the interval of a number holds is rounded to it. -/
theorem Interval.Around.roundsTo (around : bounds.Around significand exponent)
    (holds : bounds.holds digits power = true) :
    RoundsTo (digits * 10 ^ power) significand exponent := by
  have inside := (holds_iff around.positive).mp holds
  rw [around.lower, around.upper] at inside
  split_ifs at inside with closed
  · have even := around.closed.mp closed
    exact ⟨inside.1, inside.2, fun odd => absurd odd (by omega)⟩
  · exact ⟨inside.1.le, inside.2.le, fun _ => inside⟩

/-- The interval of a number holds what lies strictly between the halfway points. -/
theorem Interval.Around.holds_of_lt (around : bounds.Around significand exponent)
    (above : (significand - gap significand exponent) * 2 ^ exponent < digits * 10 ^ power)
    (below : (digits : ℚ) * 10 ^ power < (significand + 1 / 2) * 2 ^ exponent) :
    bounds.holds digits power = true := by
  rw [holds_iff around.positive, around.lower, around.upper]
  split_ifs
  · exact ⟨above.le, below.le⟩
  · exact ⟨above, below⟩

end Around

/-! ## Grids -/

theorem scaleTen_eq (numerator : Nat) {denominator : Nat} (positive : 0 < denominator)
    (power : Int) :
    0 < (scaleTen numerator denominator power).2 ∧
      ((scaleTen numerator denominator power).1 : ℚ) / (scaleTen numerator denominator power).2 =
        numerator / denominator / 10 ^ power := by
  have same : scaleTen numerator denominator power = scaleBy 10 numerator denominator power := by
    cases power <;> rfl
  rw [same]
  exact scaleBy_eq (by decide) numerator positive power

theorem length_toDigits_pos (number : Nat) : 0 < (Nat.toDigits 10 number).length :=
  List.length_pos_iff.mpr Nat.toDigits_ne_nil

theorem pow_length_toDigits_le {number : Nat} (present : number ≠ 0) :
    10 ^ ((Nat.toDigits 10 number).length - 1) ≤ number := by
  rcases Nat.eq_zero_or_pos ((Nat.toDigits 10 number).length - 1) with single | more
  · rw [single]
    exact Nat.one_le_iff_ne_zero.mpr present
  · rw [← Nat.not_lt, ← Nat.length_toDigits_le_iff (by decide) more]
    omega

theorem lt_pow_length_toDigits (number : Nat) : number < 10 ^ (Nat.toDigits 10 number).length :=
  (Nat.length_toDigits_le_iff (by decide) (length_toDigits_pos number)).mp le_rfl

theorem order_le {numerator denominator : Nat} (present : numerator ≠ 0)
    (positive : 0 < denominator) :
    (10 : ℚ) ^ order numerator denominator ≤ numerator / denominator := by
  have positive' : (0 : ℚ) < denominator := by exact_mod_cast positive
  have ten : (10 : ℚ) ≠ 0 := by norm_num
  unfold order
  split_ifs with whole
  · have least := pow_length_toDigits_le (Nat.div_pos whole positive).ne'
    have length := length_toDigits_pos (numerator / denominator)
    rw [← Nat.cast_pred length, zpow_natCast]
    calc
      (10 : ℚ) ^ ((Nat.toDigits 10 (numerator / denominator)).length - 1)
          ≤ (numerator / denominator : Nat) := by exact_mod_cast least
      _ ≤ numerator / denominator := Nat.cast_div_le
  · dsimp only
    set places := (Nat.toDigits 10 (denominator / numerator)).length with places_eq
    have length : 0 < places := length_toDigits_pos _
    rw [le_div_iff₀ positive']
    split_ifs with exact_
    · have same : (denominator : ℚ) = numerator * 10 ^ (places - 1) := by exact_mod_cast exact_.symm
      rw [same, ← neg_sub, ← Nat.cast_pred length, zpow_neg, zpow_natCast]
      field_simp
      rfl
    · have less : denominator < 10 ^ places * numerator :=
        (Nat.div_lt_iff_lt_mul (Nat.pos_of_ne_zero present)).mp (lt_pow_length_toDigits _)
      have bound : (denominator : ℚ) < 10 ^ places * numerator := by exact_mod_cast less
      rw [zpow_neg, zpow_natCast, inv_mul_le_iff₀ (by positivity)]
      exact bound.le

theorem holds_of_candidate {bounds : Interval} {count : Nat} {found : Decimal}
    (candidate : candidate? bounds count = some found) :
    bounds.holds found.digits found.exponent = true := by
  unfold candidate? at candidate
  dsimp only at candidate
  split_ifs at candidate <;>
    · obtain rfl := Option.some.inj candidate
      assumption

/-- Half a step of the grid with seventeen digits is less than the distance to a halfway point. -/
theorem lt_gap {significand : Nat} {exponent : Int} (fits : Fits significand exponent) :
    (significand : ℚ) < 2 * 10 ^ 16 * gap significand exponent := by
  rw [gap]
  split_ifs with first
  · rw [first.1]
    norm_num
  · have small : (significand : ℚ) < 2 ^ 53 := by exact_mod_cast fits.small
    linarith

/-- With seventeen digits something is found. -/
theorem exists_candidate {bounds : Interval} {significand : Nat} {exponent : Int}
    (around : bounds.Around significand exponent) (fits : Fits significand exponent)
    (present : significand ≠ 0) : ∃ found, candidate? bounds 17 = some found := by
  have power : (0 : ℚ) < 2 ^ exponent := by positivity
  have middle := around.middle
  have middle_ne : bounds.middle ≠ 0 := by
    intro zero
    rw [zero, Nat.cast_zero, zero_div, eq_comm, mul_eq_zero] at middle
    rcases middle with zero | zero
    · exact present (by exact_mod_cast zero)
    · exact power.ne' zero
  set grid := order bounds.middle bounds.denominator + 1 - (17 : Nat) with grid_eq
  obtain ⟨bottom, scaled⟩ := scaleTen_eq bounds.middle around.positive grid
  have near := isNearest_roundDiv (scaleTen bounds.middle bounds.denominator grid).1 bottom
  rw [scaled, middle] at near
  set nearest := roundDiv (scaleTen bounds.middle bounds.denominator grid).1
    (scaleTen bounds.middle bounds.denominator grid).2 with nearest_eq
  -- Half a step is at most the number over twice the sixteenth power of ten.
  have step : (10 : ℚ) ^ grid * 10 ^ 16 ≤ significand * 2 ^ exponent := by
    rw [← middle, ← zpow_natCast, ← zpow_add₀ (by norm_num)]
    refine le_trans (le_of_eq ?_) (order_le middle_ne around.positive)
    congr 1
    omega
  have step_positive : (0 : ℚ) < 10 ^ grid := by positivity
  have close : (10 : ℚ) ^ grid / 2 < gap significand exponent * 2 ^ exponent := by
    have bound := mul_lt_mul_of_pos_right (lt_gap fits) power
    linarith
  have half := mul_le_mul_of_nonneg_right (gap_le significand exponent) power.le
  have lower := (le_div_iff₀ step_positive).mp near.lower
  have upper := (div_le_iff₀ step_positive).mp near.upper
  have holds : bounds.holds nearest grid = true :=
    around.holds_of_lt (by linarith) (by linarith)
  refine ⟨⟨nearest, grid⟩, ?_⟩
  unfold candidate?
  dsimp only
  rw [← grid_eq, ← nearest_eq, if_pos holds]

theorem holds_shortestFrom {bounds : Interval} {tries count : Nat}
    (found : ∃ found, candidate? bounds (count + tries) = some found) :
    bounds.holds (shortestFrom bounds tries count).digits
      (shortestFrom bounds tries count).exponent = true := by
  induction tries generalizing count with
  | zero =>
    obtain ⟨found, candidate⟩ := found
    rw [Nat.add_zero] at candidate
    rw [shortestFrom, candidate]
    exact holds_of_candidate candidate
  | succ tries induction =>
    rw [shortestFrom]
    split
    · next found candidate => exact holds_of_candidate candidate
    · refine induction ?_
      rwa [Nat.add_right_comm, Nat.add_assoc]

theorem value_dropZeros (tries : Nat) (number : Decimal) :
    (dropZeros tries number).value = number.value := by
  induction tries generalizing number with
  | zero => rfl
  | succ tries induction =>
    rw [dropZeros]
    split_ifs with zero
    · rw [induction, value, value]
      simp only [Bool.and_eq_true, decide_eq_true_eq] at zero
      have parts : number.digits = 10 * (number.digits / 10) := by omega
      rw [zpow_add_one₀ (by norm_num)]
      conv_rhs => rw [parts]
      push_cast
      ring
    · rfl

theorem roundsTo_shortest {significand : Nat} {exponent : Int} (fits : Fits significand exponent)
    (present : significand ≠ 0) :
    RoundsTo (shortest significand exponent).value significand exponent := by
  have around := around_interval present exponent
  rw [shortest, if_neg present, value_dropZeros]
  exact around.roundsTo (holds_shortestFrom (exists_candidate around fits present))

/-- A number with some digits before a power of ten lies between two powers of ten. -/
theorem zpow_le_value {number : Decimal} (present : number.digits ≠ 0) :
    (10 : ℚ) ^ ((Nat.toDigits 10 number.digits).length + number.exponent - 1) ≤ number.value ∧
      number.value < 10 ^ ((Nat.toDigits 10 number.digits).length + number.exponent) := by
  have ten : (10 : ℚ) ≠ 0 := by norm_num
  have power : (0 : ℚ) < 10 ^ number.exponent := by positivity
  have length := length_toDigits_pos number.digits
  constructor
  · rw [add_sub_right_comm, zpow_add₀ ten, ← Nat.cast_pred length, zpow_natCast]
    refine mul_le_mul_of_nonneg_right ?_ power.le
    exact_mod_cast pow_length_toDigits_le present
  · rw [zpow_add₀ ten, zpow_natCast]
    refine mul_lt_mul_of_pos_right ?_ power
    exact_mod_cast lt_pow_length_toDigits number.digits

end Decimal

namespace Binary64

theorem two_zpow_lt_ten_zpow : (2 : ℚ) ^ (1200 : Int) < 10 ^ (400 : Int) := by
  rw [show (1200 : Int) = 3 * 400 from rfl, zpow_mul]
  exact zpow_lt_zpow_left₀ (by norm_num) (by norm_num) (by norm_num)

/-- No number is so small or so large that its decimal digits are not looked at. -/
theorem RoundsTo.bounds {value : ℚ} {significand : Nat} {exponent : Int}
    (rounds : RoundsTo value significand exponent) (fits : Fits significand exponent)
    (present : significand ≠ 0) : (10 : ℚ) ^ (-400 : Int) ≤ value ∧ value < 10 ^ (400 : Int) := by
  have power : (0 : ℚ) < 2 ^ exponent := by positivity
  have exponent_ge : -1074 ≤ exponent := fits.least
  have exponent_le := fits.most
  constructor
  · have least : (1 : ℚ) ≤ significand := by exact_mod_cast Nat.one_le_iff_ne_zero.mpr present
    have close := gap_le significand exponent
    calc
      (10 : ℚ) ^ (-400 : Int) ≤ 2 ^ (-1200 : Int) := by
        rw [zpow_neg, zpow_neg]
        exact inv_anti₀ (by positivity) two_zpow_lt_ten_zpow.le
      _ ≤ 2 ^ (exponent - 1) :=
        zpow_le_zpow_right₀ (by norm_num) (by omega)
      _ = 1 / 2 * 2 ^ exponent := by
        rw [zpow_sub_one₀ (by norm_num), mul_comm, one_div]
      _ ≤ (significand - gap significand exponent) * 2 ^ exponent := by
        refine mul_le_mul_of_nonneg_right ?_ power.le
        linarith
      _ ≤ value := rounds.lower
  · have small : (significand : ℚ) + 1 ≤ 2 ^ 53 := by exact_mod_cast fits.small
    calc
      value ≤ (significand + 1 / 2) * 2 ^ exponent := rounds.upper
      _ ≤ 2 ^ 53 * 2 ^ exponent := by
        refine mul_le_mul_of_nonneg_right ?_ power.le
        linarith
      _ = 2 ^ (exponent + 53) := (two_zpow_add exponent 53).symm
      _ ≤ 2 ^ (1200 : Int) :=
        zpow_le_zpow_right₀ (by norm_num) (by omega)
      _ < 10 ^ (400 : Int) := two_zpow_lt_ten_zpow

/-- A decimal number between the halfway points around a number is rounded to it. -/
theorem ofDecimal_of_roundsTo {digits significand : Nat} {power exponent : Int} (negative : Bool)
    (fits : Fits significand exponent) (present : significand ≠ 0)
    (rounds : RoundsTo (digits * 10 ^ power) significand exponent) :
    ofDecimal negative digits power = .finite negative significand exponent := by
  have digits_ne : digits ≠ 0 := by
    rintro rfl
    simpa using rounds.pos present
  obtain ⟨above, below⟩ := rounds.bounds fits present
  obtain ⟨lower, upper⟩ : _ ∧ (digits : ℚ) * 10 ^ power < _ :=
    Decimal.zpow_le_value (show (⟨digits, power⟩ : Decimal).digits ≠ 0 from digits_ne)
  have ten : (1 : ℚ) < 10 := by norm_num
  have least := (zpow_lt_zpow_iff_right₀ ten).mp (above.trans_lt upper)
  have most := (zpow_lt_zpow_iff_right₀ ten).mp (lower.trans_lt below)
  dsimp only at least most
  unfold ofDecimal
  simp only [decide_eq_true_eq, Bool.or_eq_true]
  rw [if_neg (by omega), if_neg (by omega)]
  cases power with
  | ofNat count =>
    refine ofFraction_of_roundsTo negative Nat.one_pos fits present ?_
    convert rounds using 1
    simp
  | negSucc count =>
    refine ofFraction_of_roundsTo negative (Nat.pow_pos (by decide)) fits present ?_
    convert rounds using 1
    simp [zpow_negSucc, div_eq_mul_inv]

end Binary64

end TypeSurvey
