import Mathlib.Algebra.Order.Floor.Ring
import Mathlib.Data.Int.Log
import Mathlib.Data.Rat.Floor
import Mathlib.Tactic.FieldSimp
import Mathlib.Tactic.Linarith

/-!
# Binary rounding

A rational number rounded to a number of significant binary digits, to the nearest with ties to
even.  Exponents are unbounded, so nothing overflows and no result is subnormal.  Results are
decided by how far the number is from the candidate, in units of the last significant digit.
-/

namespace BinaryFloat

/-- The nearest integer, the even one of two. -/
def roundHalfEven (x : ℚ) : ℤ :=
  if x - ⌊x⌋ < 1 / 2 then ⌊x⌋
  else if 1 / 2 < x - ⌊x⌋ then ⌊x⌋ + 1
  else if Even ⌊x⌋ then ⌊x⌋
  else ⌊x⌋ + 1

theorem abs_sub_roundHalfEven_le (x : ℚ) : |x - roundHalfEven x| ≤ 1 / 2 := by
  have lower := Int.floor_le x
  have upper := Int.lt_floor_add_one x
  unfold roundHalfEven
  split_ifs <;> push_cast <;> rw [abs_le] <;> constructor <;> linarith

theorem roundHalfEven_of_lt {x : ℚ} {n : ℤ} (near : |x - n| < 1 / 2) : roundHalfEven x = n := by
  have distance := abs_le.mp (abs_sub_roundHalfEven_le x)
  obtain ⟨lower, upper⟩ := abs_lt.mp near
  have below : (roundHalfEven x : ℚ) < n + 1 := by linarith
  have above : (n : ℚ) < roundHalfEven x + 1 := by linarith
  have below' : roundHalfEven x < n + 1 := by exact_mod_cast below
  have above' : n < roundHalfEven x + 1 := by exact_mod_cast above
  omega

@[simp]
theorem roundHalfEven_intCast (n : ℤ) : roundHalfEven n = n :=
  roundHalfEven_of_lt (by simp)

theorem roundHalfEven_of_tie {x : ℚ} {n : ℤ} (tie : |x - n| = 1 / 2) (even : Even n) :
    roundHalfEven x = n := by
  rcases (abs_eq (by norm_num)).mp tie with above | below
  · have floor_eq : ⌊x⌋ = n := Int.floor_eq_iff.mpr ⟨by linarith, by linarith⟩
    unfold roundHalfEven
    rw [floor_eq, above, if_neg (lt_irrefl _), if_neg (lt_irrefl _), if_pos even]
  · have floor_eq : ⌊x⌋ = n - 1 :=
      Int.floor_eq_iff.mpr ⟨by push_cast; linarith, by push_cast; linarith⟩
    have half : x - ((n - 1 : ℤ) : ℚ) = 1 / 2 := by
      push_cast
      linarith
    have odd : ¬Even (n - 1) := by
      rw [Int.even_sub_one]
      exact not_not.mpr even
    unfold roundHalfEven
    rw [floor_eq, half, if_neg (lt_irrefl _), if_neg (lt_irrefl _), if_neg odd, Int.sub_add_cancel]

private theorem roundHalfEven_eq_iff {x : ℚ} {n : ℤ} :
    roundHalfEven x = n ↔ |x - n| < 1 / 2 ∨ |x - n| = 1 / 2 ∧ Even n := by
  constructor
  · rintro rfl
    obtain near | tie := (abs_sub_roundHalfEven_le x).lt_or_eq
    · exact .inl near
    · refine .inr ⟨tie, ?_⟩
      by_contra odd
      -- the integer on the other side is even and would have been taken
      obtain ⟨other, differs, distance⟩ : ∃ other : ℤ,
          (other = roundHalfEven x + 1 ∨ other = roundHalfEven x - 1) ∧ |x - other| = 1 / 2 := by
        rcases (abs_eq (by norm_num)).mp tie with above | below
        · refine ⟨_, .inl rfl, ?_⟩
          rw [Int.cast_add, Int.cast_one, ← sub_sub, above]
          norm_num
        · refine ⟨_, .inr rfl, ?_⟩
          rw [Int.cast_sub, Int.cast_one, ← sub_add, below]
          norm_num
      have even : Even other := by
        rcases differs with rfl | rfl
        · exact Int.even_add_one.mpr odd
        · exact Int.even_sub_one.mpr odd
      have same := roundHalfEven_of_tie distance even
      omega
  · rintro (near | ⟨tie, even⟩)
    · exact roundHalfEven_of_lt near
    · exact roundHalfEven_of_tie tie even

private theorem le_roundHalfEven {x : ℚ} {n : ℤ} (le : n ≤ x) : n ≤ roundHalfEven x := by
  have distance := abs_le.mp (abs_sub_roundHalfEven_le x)
  have above : (n : ℚ) < roundHalfEven x + 1 := by linarith
  have above' : n < roundHalfEven x + 1 := by exact_mod_cast above
  omega

/-- The distance to the nearest multiple of a divisor. -/
def distanceToMultiple (dividend divisor : ℕ) : ℕ :=
  min (dividend % divisor) (divisor - dividend % divisor)

theorem distanceToMultiple_le {dividend divisor : ℕ} (positive : 0 < divisor) :
    2 * distanceToMultiple dividend divisor ≤ divisor := by
  have rest_lt := Nat.mod_lt dividend positive
  unfold distanceToMultiple
  omega

/-- A rounded quotient gives the nearest multiple. -/
theorem abs_roundHalfEven_mul_sub {dividend divisor : ℕ} (positive : 0 < divisor) :
    |(roundHalfEven (dividend / divisor) : ℚ) * divisor - dividend| =
      distanceToMultiple dividend divisor := by
  have divisor_pos : (0 : ℚ) < divisor := by exact_mod_cast positive
  set quotient := dividend / divisor with quotient_eq
  set rest := dividend % divisor with rest_eq
  have dividend_eq : (dividend : ℚ) = divisor * quotient + rest := by
    exact_mod_cast (Nat.div_add_mod dividend divisor).symm
  have nonneg : (0 : ℚ) ≤ rest := Nat.cast_nonneg _
  have small : rest < divisor := Nat.mod_lt dividend positive
  have floor_eq : ⌊(dividend / divisor : ℚ)⌋ = (quotient : ℤ) := by
    rw [Rat.floor_natCast_div_natCast, quotient_eq]
    rfl
  have fraction : (dividend / divisor : ℚ) - ((quotient : ℤ) : ℚ) = rest / divisor := by
    rw [Int.cast_natCast, dividend_eq]
    field_simp
    ring
  have low : ((quotient : ℤ) : ℚ) * divisor - dividend = -rest := by
    rw [Int.cast_natCast, dividend_eq]
    ring
  have high : ((quotient + 1 : ℤ) : ℚ) * divisor - dividend = divisor - rest := by
    push_cast
    rw [dividend_eq]
    ring
  have down : |((quotient : ℤ) : ℚ) * divisor - dividend| = rest := by
    rw [low, abs_neg, abs_of_nonneg nonneg]
  have up : |((quotient + 1 : ℤ) : ℚ) * divisor - dividend| = (divisor - rest : ℕ) := by
    rw [high, Nat.cast_sub small.le, abs_of_nonneg (by rw [sub_nonneg]; exact_mod_cast small.le)]
  have tie (less : ¬(rest / divisor : ℚ) < 1 / 2) (more : ¬1 / 2 < (rest / divisor : ℚ)) :
      2 * rest = divisor := by
    have half := le_antisymm (not_lt.mp more) (not_lt.mp less)
    rw [div_eq_div_iff divisor_pos.ne' two_ne_zero, one_mul, mul_comm] at half
    exact_mod_cast half
  unfold roundHalfEven distanceToMultiple
  rw [floor_eq, fraction]
  split_ifs with less more even
  · rw [div_lt_iff₀ divisor_pos] at less
    have half : 2 * rest < divisor := by
      rw [one_div, inv_mul_eq_div, lt_div_iff₀ two_pos] at less
      exact_mod_cast (mul_comm (2 : ℚ) rest).trans_lt less
    rw [down, min_eq_left (by omega)]
  · rw [lt_div_iff₀ divisor_pos] at more
    have half : divisor < 2 * rest := by
      rw [one_div, inv_mul_eq_div, div_lt_iff₀ two_pos] at more
      exact_mod_cast more.trans_eq (mul_comm _ _)
    rw [up, min_eq_right (by omega)]
  · have half := tie less more
    rw [down, min_eq_left (by omega)]
  · have half := tie less more
    rw [up, min_eq_right (by omega)]

/-- The exponent of the last significant digit. -/
def unitExponent (precision : ℕ) (x : ℚ) : ℤ := Int.log 2 |x| - (precision - 1)

/-- The nearest number with so many significant binary digits. -/
def toNearest (precision : ℕ) (x : ℚ) : ℚ :=
  roundHalfEven (x / 2 ^ unitExponent precision x) * 2 ^ unitExponent precision x

variable {precision : ℕ} {x : ℚ}

private theorem unitExponent_eq {exponent : ℤ} (lower : 2 ^ (exponent + precision - 1) ≤ |x|)
    (upper : |x| < 2 ^ (exponent + precision)) : unitExponent precision x = exponent := by
  have positive : 0 < |x| := (zpow_pos two_pos _).trans_le lower
  have below : exponent + precision - 1 ≤ Int.log 2 |x| :=
    (Int.zpow_le_iff_le_log one_lt_two positive).mp (by exact_mod_cast lower)
  have above : Int.log 2 |x| < exponent + precision :=
    (Int.lt_zpow_iff_log_lt one_lt_two positive).mp (by exact_mod_cast upper)
  unfold unitExponent
  omega

/-- In its binade a number is rounded to the nearest multiple of the unit. -/
theorem toNearest_eq {exponent : ℤ} (lower : 2 ^ (exponent + precision - 1) ≤ |x|)
    (upper : |x| < 2 ^ (exponent + precision)) :
    toNearest precision x = roundHalfEven (x / 2 ^ exponent) * 2 ^ exponent := by
  rw [toNearest, unitExponent_eq lower upper]

private theorem toNearest_of_multiple {significand exponent : ℤ}
    (multiple : x = significand * 2 ^ exponent) (few : significand.natAbs < 2 ^ precision) :
    toNearest precision x = x := by
  obtain rfl | nonzero := eq_or_ne x 0
  · rw [toNearest, zero_div, show roundHalfEven 0 = 0 from roundHalfEven_intCast 0, Int.cast_zero,
      zero_mul]
  · have small : |x| < 2 ^ (precision + exponent) := by
      have bound : |(significand : ℚ)| < 2 ^ precision := by
        rw [← Int.cast_abs, Int.abs_eq_natAbs]
        exact_mod_cast few
      have power_pos : (0 : ℚ) < 2 ^ exponent := zpow_pos two_pos exponent
      rw [multiple, abs_mul, abs_of_pos power_pos, zpow_add₀ two_ne_zero, zpow_natCast]
      exact mul_lt_mul_of_pos_right bound power_pos
    have unit_le : unitExponent precision x ≤ exponent := by
      have log_lt : Int.log 2 |x| < precision + exponent :=
        (Int.lt_zpow_iff_log_lt one_lt_two (abs_pos.mpr nonzero)).mp (by exact_mod_cast small)
      unfold unitExponent
      omega
    obtain ⟨extra, extra_eq⟩ := Int.eq_ofNat_of_zero_le (sub_nonneg.mpr unit_le)
    have quotient : x / 2 ^ unitExponent precision x = ((significand * 2 ^ extra : ℤ) : ℚ) := by
      rw [multiple, mul_div_assoc, ← zpow_sub₀ two_ne_zero, ← multiple, extra_eq]
      push_cast
      rw [zpow_natCast]
    rw [toNearest, quotient, roundHalfEven_intCast, ← quotient, div_mul_cancel₀]
    exact (zpow_pos two_pos _).ne'

theorem toNearest_natCast {n : ℕ} (few : n < 2 ^ precision) : toNearest precision n = n := by
  have multiple : (n : ℚ) = ((n : ℤ) : ℚ) * 2 ^ (0 : ℤ) := by simp
  exact toNearest_of_multiple multiple few

/-- Rounding does not pass a power of two. -/
theorem le_toNearest {exponent : ℤ} (digits : 0 < precision) (le : 2 ^ exponent ≤ x) :
    2 ^ exponent ≤ toNearest precision x := by
  have positive : 0 < x := (zpow_pos two_pos _).trans_le le
  have log_ge : exponent ≤ Int.log 2 |x| := by
    rw [abs_of_pos positive]
    exact (Int.zpow_le_iff_le_log one_lt_two positive).mp (by exact_mod_cast le)
  have unit_pos : (0 : ℚ) < 2 ^ unitExponent precision x := zpow_pos two_pos _
  have scale_eq : (2 : ℚ) ^ Int.log 2 |x| =
      ((2 ^ (precision - 1) : ℤ) : ℚ) * 2 ^ unitExponent precision x := by
    push_cast
    rw [unitExponent, ← zpow_natCast, ← zpow_add₀ two_ne_zero]
    congr 1
    omega
  have whole : ((2 ^ (precision - 1) : ℤ) : ℚ) ≤ x / 2 ^ unitExponent precision x := by
    rw [le_div_iff₀ unit_pos, ← scale_eq, abs_of_pos positive]
    exact_mod_cast Int.zpow_log_le_self one_lt_two positive
  calc (2 : ℚ) ^ exponent
    _ ≤ 2 ^ Int.log 2 |x| := zpow_le_zpow_right₀ one_le_two log_ge
    _ = ((2 ^ (precision - 1) : ℤ) : ℚ) * 2 ^ unitExponent precision x := scale_eq
    _ ≤ toNearest precision x :=
        mul_le_mul_of_nonneg_right (by exact_mod_cast le_roundHalfEven whole) unit_pos.le

/-- What is rounded to a multiple of the unit: the numbers within half a unit of it, the bounds
included if the multiple is even. -/
theorem toNearest_eq_iff {significand exponent : ℤ}
    (lower : 2 ^ (exponent + precision - 1) ≤ |x|) (upper : |x| < 2 ^ (exponent + precision)) :
    toNearest precision x = significand * 2 ^ exponent ↔
      |x - significand * 2 ^ exponent| < 1 / 2 * 2 ^ exponent ∨
        |x - significand * 2 ^ exponent| = 1 / 2 * 2 ^ exponent ∧ Even significand := by
  have unit_pos : (0 : ℚ) < 2 ^ exponent := zpow_pos two_pos exponent
  have distance : |x / 2 ^ exponent - significand| * 2 ^ exponent =
      |x - significand * 2 ^ exponent| := by
    nth_rewrite 2 [← abs_of_pos unit_pos]
    rw [← abs_mul, sub_mul, div_mul_cancel₀ _ unit_pos.ne']
  rw [toNearest_eq lower upper, mul_left_inj' unit_pos.ne', Int.cast_inj, roundHalfEven_eq_iff,
    ← distance, mul_lt_mul_iff_left₀ unit_pos, mul_left_inj' unit_pos.ne']

private theorem toNearest_eq_natCast_iff {n exponent : ℕ} (upper : n < 2 ^ (exponent + 1))
    (few : exponent < precision) (above : 2 ^ exponent ≤ x) :
    toNearest precision x = n ↔
      |x - n| < 2 ^ ((exponent : ℤ) - precision) ∨
        |x - n| = 2 ^ ((exponent : ℤ) - precision) ∧ Even (n * 2 ^ (precision - 1 - exponent)) := by
  have positive : 0 < x := (pow_pos two_pos _).trans_le above
  obtain below | beyond := lt_or_ge x (2 ^ (exponent + 1))
  · have lower' : (2 : ℚ) ^ ((exponent : ℤ) + 1 - precision + precision - 1) ≤ |x| := by
      rw [abs_of_pos positive,
        show (exponent : ℤ) + 1 - precision + precision - 1 = exponent by ring]
      exact_mod_cast above
    have upper' : |x| < (2 : ℚ) ^ ((exponent : ℤ) + 1 - precision + precision) := by
      rw [abs_of_pos positive,
        show (exponent : ℤ) + 1 - precision + precision = exponent + 1 by ring]
      exact_mod_cast below
    have half_unit : (2 : ℚ) ^ ((exponent : ℤ) - precision) =
        1 / 2 * 2 ^ ((exponent : ℤ) + 1 - precision) := by
      rw [show (exponent : ℤ) + 1 - precision = (exponent : ℤ) - precision + 1 by ring,
        zpow_add_one₀ two_ne_zero]
      ring
    have whole : (n : ℚ) = ((n * 2 ^ (precision - 1 - exponent) : ℕ) : ℤ) *
        2 ^ ((exponent : ℤ) + 1 - precision) := by
      push_cast
      rw [mul_assoc, ← zpow_natCast, ← zpow_add₀ two_ne_zero,
        show ((precision - 1 - exponent : ℕ) : ℤ) + ((exponent : ℤ) + 1 - precision) = 0 by omega]
      simp
    rw [half_unit, whole, toNearest_eq_iff lower' upper', Int.even_coe_nat]
  · have passed : (2 : ℚ) ^ (exponent + 1) ≤ toNearest precision x := by
      exact_mod_cast @le_toNearest precision x (exponent + 1) (by omega) (by exact_mod_cast beyond)
    have apart : (n : ℚ) + 1 ≤ 2 ^ (exponent + 1) := by exact_mod_cast upper
    have unit_lt : (2 : ℚ) ^ ((exponent : ℤ) - precision) < 1 :=
      zpow_lt_one_of_neg₀ one_lt_two (by omega)
    have distance : 1 ≤ |x - n| := le_abs.mpr (.inl (by linarith))
    refine iff_of_false (fun same => ?_) ?_
    · rw [same] at passed
      linarith
    · rintro (near | ⟨tie, -⟩)
      · linarith
      · linarith

section Scaling

variable {number scale exponent shift : ℕ}

/-- The last digit of the rounded quotient decides how far its multiple is from the number. -/
theorem abs_toNearest_div_mul_sub (positive : 0 < scale) (deep : exponent ≤ shift)
    (lower : (2 : ℚ) ^ ((exponent : ℤ) - shift + precision - 1) ≤ number / scale)
    (upper : (number / scale : ℚ) < 2 ^ ((exponent : ℤ) - shift + precision)) :
    |toNearest precision (number / scale) * scale - number| =
      distanceToMultiple (number * 2 ^ (shift - exponent)) scale *
        2 ^ ((exponent : ℤ) - shift) := by
  have quotient_pos : (0 : ℚ) < number / scale := (zpow_pos two_pos _).trans_le lower
  have unit_pos : (0 : ℚ) < 2 ^ ((exponent : ℤ) - shift) := zpow_pos two_pos _
  have unit_inv : (1 : ℚ) / 2 ^ ((exponent : ℤ) - shift) = 2 ^ (shift - exponent) := by
    rw [one_div, ← zpow_neg, neg_sub, ← zpow_natCast]
    congr 1
    omega
  have quotient_eq : (number / scale : ℚ) / 2 ^ ((exponent : ℤ) - shift) =
      (number * 2 ^ (shift - exponent) : ℕ) / scale := by
    push_cast
    rw [← unit_inv]
    ring
  have number_eq : (number : ℚ) =
      (number * 2 ^ (shift - exponent) : ℕ) * 2 ^ ((exponent : ℤ) - shift) := by
    push_cast
    rw [← unit_inv, mul_one_div, div_mul_cancel₀ _ unit_pos.ne']
  rw [← abs_of_pos quotient_pos] at lower upper
  rw [← abs_roundHalfEven_mul_sub positive, toNearest_eq lower upper, quotient_eq]
  nth_rewrite 2 [← abs_of_pos unit_pos]
  rw [← abs_mul, sub_mul, ← number_eq, mul_right_comm]

/-- A number divided by a scale and multiplied by it again comes back exactly if the multiple of the
rounded quotient is near enough. -/
theorem toNearest_div_mul_eq_iff (positive : 0 < scale) (deep : exponent ≤ shift)
    (few : exponent < precision) (small : number < 2 ^ (exponent + 1))
    (lower : (2 : ℚ) ^ ((exponent : ℤ) - shift + precision - 1) ≤ number / scale)
    (upper : (number / scale : ℚ) < 2 ^ ((exponent : ℤ) - shift + precision))
    (above : 2 ^ exponent ≤ toNearest precision (number / scale) * scale) :
    toNearest precision (toNearest precision (number / scale) * scale) = number ↔
      distanceToMultiple (number * 2 ^ (shift - exponent)) scale * 2 ^ precision < 2 ^ shift ∨
        distanceToMultiple (number * 2 ^ (shift - exponent)) scale * 2 ^ precision = 2 ^ shift ∧
          Even (number * 2 ^ (precision - 1 - exponent)) := by
  have unit_pos : (0 : ℚ) < 2 ^ ((exponent : ℤ) - shift - precision) := zpow_pos two_pos _
  have near_eq : (2 : ℚ) ^ ((exponent : ℤ) - precision) =
      (2 ^ shift : ℕ) * 2 ^ ((exponent : ℤ) - shift - precision) := by
    push_cast
    rw [← zpow_natCast, ← zpow_add₀ two_ne_zero]
    congr 1
    omega
  have distance_eq (distance : ℕ) : (distance : ℚ) * 2 ^ ((exponent : ℤ) - shift) =
      (distance * 2 ^ precision : ℕ) * 2 ^ ((exponent : ℤ) - shift - precision) := by
    push_cast
    rw [mul_assoc, ← zpow_natCast, ← zpow_add₀ two_ne_zero]
    congr 2
    omega
  rw [toNearest_eq_natCast_iff small few above, abs_toNearest_div_mul_sub positive deep lower upper,
    near_eq, distance_eq, mul_lt_mul_iff_left₀ unit_pos, mul_left_inj' unit_pos.ne', Nat.cast_lt,
    Nat.cast_inj]

end Scaling

end BinaryFloat
