import Mathlib.Algebra.Order.Field.Rat
import Mathlib.Algebra.Order.Floor.Semiring
import Mathlib.Data.Rat.Floor
import Mathlib.Tactic.FieldSimp
import Mathlib.Tactic.NormNum
import Mathlib.Tactic.Positivity
import SolConversion.Foundation.FixedWidth

/-!
# Decimal numbers with a bounded coefficient

A decimal number has an integer coefficient of at most 96 bits and a decimal scale of at most 28.
Arithmetic forms the exact result and stores it: while the coefficient is too wide, digits are
dropped from the fraction, as few as possible and with some rounding.  Rounding is therefore
invisible whenever the exact result is itself a decimal number, however its factors were scaled.
-/

namespace DecimalFormat

/-- A decimal number `coefficient / 10 ^ scale`. -/
structure Decimal where
  coefficient : ℤ
  scale : ℕ
  coefficient_lt : coefficient.natAbs < 2 ^ 96
  scale_le : scale ≤ 28
  deriving DecidableEq

/-- The rational number a decimal denotes. -/
def Decimal.value (decimal : Decimal) : ℚ := decimal.coefficient / 10 ^ decimal.scale

/-- A rational number some decimal denotes. -/
def Representable (number : ℚ) : Prop := ∃ decimal : Decimal, decimal.value = number

/-- Division rounded to one of the two neighbouring integers. -/
structure Rounding where
  quotient : ℤ → ℕ → ℤ
  near : ∀ dividend divisor, 0 < divisor →
    |dividend - quotient dividend divisor * divisor| < divisor

/-- Dropping `dropped` digits makes `exact / 10 ^ scale` fit the format. -/
def Fits (rounding : Rounding) (exact : ℤ) (scale dropped : ℕ) : Prop :=
  dropped ≤ scale ∧ scale ≤ 28 + dropped ∧
    (rounding.quotient exact (10 ^ dropped)).natAbs < 2 ^ 96

instance (rounding : Rounding) (exact : ℤ) (scale dropped : ℕ) :
    Decidable (Fits rounding exact scale dropped) :=
  inferInstanceAs (Decidable (_ ∧ _ ∧ _))

/-- The outcome of storing `exact / 10 ^ scale`: the fewest digits are dropped, and there is no
result only if the integer part alone is too wide. -/
inductive Stores (rounding : Rounding) (exact : ℤ) (scale : ℕ) : Option Decimal → Prop
  | stored {dropped : ℕ} {result : Decimal} :
      Fits rounding exact scale dropped →
      (∀ fewer < dropped, ¬Fits rounding exact scale fewer) →
      result.value = rounding.quotient exact (10 ^ dropped) / 10 ^ (scale - dropped) →
      Stores rounding exact scale (some result)
  | overflow :
      (∀ dropped, ¬Fits rounding exact scale dropped) → Stores rounding exact scale none

/-- The coefficient of a decimal at the larger of two scales. -/
def Decimal.aligned (decimal other : Decimal) : ℤ :=
  decimal.coefficient * 10 ^ (max decimal.scale other.scale - decimal.scale)

/-- The operations of a decimal arithmetic. -/
structure Arithmetic where
  ofU64 : UInt64 → Option Decimal
  ofU16 : UInt16 → Option Decimal
  divide : Decimal → Decimal → Option Decimal
  checkedMul : Decimal → Decimal → Option Decimal
  checkedAdd : Decimal → Decimal → Option Decimal
  checkedSub : Decimal → Decimal → Option Decimal
  minimum : Decimal → Decimal → Decimal
  toU64 : Decimal → Option UInt64

/-- The laws of a decimal arithmetic that stores exact results. -/
structure Arithmetic.Lawful (arithmetic : Arithmetic) (rounding : Rounding) : Prop where
  ofU64_value : ∀ word, ∃ decimal, arithmetic.ofU64 word = some decimal ∧
    decimal.value = word.toNat
  ofU16_value : ∀ word, ∃ decimal, arithmetic.ofU16 word = some decimal ∧
    decimal.value = word.toNat
  divide_exact : ∀ left right quotient : Decimal, right.value ≠ 0 →
    quotient.value * right.value = left.value →
    ∃ result, arithmetic.divide left right = some result ∧ result.value = quotient.value
  checkedMul_stores : ∀ left right,
    Stores rounding (left.coefficient * right.coefficient) (left.scale + right.scale)
      (arithmetic.checkedMul left right)
  checkedAdd_stores : ∀ left right,
    Stores rounding (left.aligned right + right.aligned left) (max left.scale right.scale)
      (arithmetic.checkedAdd left right)
  checkedSub_stores : ∀ left right,
    Stores rounding (left.aligned right - right.aligned left) (max left.scale right.scale)
      (arithmetic.checkedSub left right)
  minimum_value : ∀ left right,
    (arithmetic.minimum left right).value = min left.value right.value
  toU64_truncates : ∀ decimal, 0 ≤ decimal.value →
    arithmetic.toU64 decimal = FixedWidth.toU64 ⌊decimal.value⌋₊

theorem representable_of_coefficient {coefficient : ℤ} {scale : ℕ}
    (coefficient_lt : coefficient.natAbs < 2 ^ 96) (scale_le : scale ≤ 28) :
    Representable (coefficient / 10 ^ scale) :=
  ⟨⟨coefficient, scale, coefficient_lt, scale_le⟩, rfl⟩

theorem representable_of_nat {coefficient scale : ℕ} (coefficient_lt : coefficient < 2 ^ 96)
    (scale_le : scale ≤ 28) : Representable ((coefficient : ℚ) / 10 ^ scale) := by
  have coefficient_lt' : (coefficient : ℤ).natAbs < 2 ^ 96 := by simpa using coefficient_lt
  simpa using representable_of_coefficient coefficient_lt' scale_le

theorem ten_pow_ne_zero (exponent : ℕ) : (10 : ℚ) ^ exponent ≠ 0 := by positivity

theorem quotient_of_multiple (rounding : Rounding) (factor : ℤ) {divisor : ℕ}
    (positive : 0 < divisor) : rounding.quotient (factor * divisor) divisor = factor := by
  have near := rounding.near (factor * divisor) divisor positive
  rw [← sub_mul, abs_mul, Nat.abs_cast] at near
  have divisor_positive : (0 : ℤ) < divisor := by exact_mod_cast positive
  have small : |factor - rounding.quotient (factor * divisor) divisor| < 1 := by
    by_contra large
    have scaled := mul_le_mul_of_nonneg_right (not_lt.mp large) divisor_positive.le
    omega
  have difference := Int.abs_lt_one_iff.mp small
  omega

private theorem exists_fits_of_representable (rounding : Rounding) {exact : ℤ} {scale : ℕ}
    (representable : Representable ((exact : ℚ) / 10 ^ scale)) :
    ∃ dropped factor, dropped ≤ scale ∧ exact = factor * (10 ^ dropped : ℕ) ∧
      Fits rounding exact scale dropped := by
  obtain ⟨⟨coefficient, digits, coefficient_lt, digits_le⟩, denotes⟩ := representable
  simp only [Decimal.value] at denotes
  rw [div_eq_div_iff (ten_pow_ne_zero digits) (ten_pow_ne_zero scale)] at denotes
  have cross : coefficient * 10 ^ scale = exact * 10 ^ digits := by exact_mod_cast denotes
  obtain fewer | more := Nat.le_total digits scale
  · -- the number has no more digits than the product: the surplus ones are zero
    have exact_eq : exact = coefficient * (10 ^ (scale - digits) : ℕ) := by
      have split : (10 : ℤ) ^ scale = 10 ^ (scale - digits) * 10 ^ digits := by
        rw [← pow_add, Nat.sub_add_cancel fewer]
      rw [split, ← mul_assoc] at cross
      have cancelled := mul_right_cancel₀ (pow_ne_zero digits (by norm_num : (10 : ℤ) ≠ 0)) cross
      rw [← cancelled]
      push_cast
      rfl
    refine ⟨scale - digits, coefficient, Nat.sub_le _ _, exact_eq, Nat.sub_le _ _, by omega, ?_⟩
    rw [exact_eq, quotient_of_multiple rounding coefficient (by positivity)]
    exact coefficient_lt
  · have coefficient_eq : coefficient = exact * 10 ^ (digits - scale) := by
      have split : (10 : ℤ) ^ digits = 10 ^ (digits - scale) * 10 ^ scale := by
        rw [← pow_add, Nat.sub_add_cancel more]
      rw [split, ← mul_assoc] at cross
      exact mul_right_cancel₀ (pow_ne_zero scale (by norm_num : (10 : ℤ) ≠ 0)) cross
    have exact_lt : exact.natAbs < 2 ^ 96 := by
      refine lt_of_le_of_lt ?_ coefficient_lt
      rw [coefficient_eq, Int.natAbs_mul]
      exact Nat.le_mul_of_pos_right _ (Int.natAbs_pos.mpr (by positivity))
    have undropped := quotient_of_multiple rounding exact (Nat.one_pos)
    rw [Nat.cast_one, mul_one] at undropped
    refine ⟨0, exact, Nat.zero_le scale, by simp, Nat.zero_le scale, by omega, ?_⟩
    rw [pow_zero, undropped]
    exact exact_lt

/-- Storing a representable number is exact. -/
theorem Stores.exact {rounding : Rounding} {exact : ℤ} {scale : ℕ} {outcome : Option Decimal}
    (stores : Stores rounding exact scale outcome)
    (representable : Representable ((exact : ℚ) / 10 ^ scale)) :
    ∃ result, outcome = some result ∧ result.value = exact / 10 ^ scale := by
  obtain ⟨enough, factor, enough_le, exact_eq, enough_fits⟩ :=
    exists_fits_of_representable rounding representable
  cases stores with
  | overflow unfit => exact absurd enough_fits (unfit enough)
  | @stored dropped result fits fewest denotes =>
      refine ⟨result, rfl, ?_⟩
      have dropped_le : dropped ≤ enough := by
        by_contra less
        exact fewest enough (Nat.lt_of_not_le less) enough_fits
      have factored : exact = factor * 10 ^ (enough - dropped) * (10 ^ dropped : ℕ) := by
        rw [exact_eq]
        push_cast
        rw [mul_assoc, ← pow_add, Nat.sub_add_cancel dropped_le]
      have quotient_eq := quotient_of_multiple rounding (factor * 10 ^ (enough - dropped))
        (show 0 < 10 ^ dropped by positivity)
      rw [← factored] at quotient_eq
      rw [denotes, div_eq_div_iff (ten_pow_ne_zero _) (ten_pow_ne_zero _)]
      have split : (10 : ℚ) ^ scale = 10 ^ dropped * 10 ^ (scale - dropped) := by
        rw [← pow_add, Nat.add_sub_cancel' (dropped_le.trans enough_le)]
      have exact_value : (exact : ℚ) = rounding.quotient exact (10 ^ dropped) * 10 ^ dropped := by
        rw [quotient_eq]
        exact_mod_cast factored
      rw [split, ← mul_assoc, ← exact_value]

/-- What fits once digits are dropped has an integer part of at most 96 bits. -/
theorem Fits.small {rounding : Rounding} {exact : ℤ} {scale dropped : ℕ}
    (fits : Fits rounding exact scale dropped) : |(exact : ℚ) / 10 ^ scale| < 2 ^ 96 := by
  obtain ⟨dropped_le, -, narrow⟩ := fits
  have near := rounding.near exact (10 ^ dropped) (by positivity)
  have narrow' : |rounding.quotient exact (10 ^ dropped)| ≤ 2 ^ 96 - 1 := by
    rw [Int.abs_eq_natAbs]
    omega
  have bound : |exact| < 2 ^ 96 * 10 ^ dropped := by
    calc
      |exact| ≤ |exact - rounding.quotient exact (10 ^ dropped) * (10 ^ dropped : ℕ)| +
          |rounding.quotient exact (10 ^ dropped) * (10 ^ dropped : ℕ)| := by
        simpa using abs_add_le (exact - rounding.quotient exact (10 ^ dropped) * (10 ^ dropped : ℕ))
          (rounding.quotient exact (10 ^ dropped) * (10 ^ dropped : ℕ))
      _ < (10 ^ dropped : ℕ) + (2 ^ 96 - 1) * (10 ^ dropped : ℕ) := by
        rw [abs_mul, Nat.abs_cast]
        exact add_lt_add_of_lt_of_le near (mul_le_mul_of_nonneg_right narrow' (by positivity))
      _ = 2 ^ 96 * 10 ^ dropped := by
        push_cast
        ring
  rw [abs_div, abs_of_nonneg (by positivity : (0 : ℚ) ≤ 10 ^ scale), div_lt_iff₀ (by positivity)]
  calc
    |(exact : ℚ)| < 2 ^ 96 * 10 ^ dropped := by exact_mod_cast bound
    _ ≤ 2 ^ 96 * 10 ^ scale :=
      mul_le_mul_of_nonneg_left (pow_le_pow_right₀ (by norm_num) dropped_le) (by positivity)

private theorem Stores.eq_none {rounding : Rounding} {exact : ℤ} {scale : ℕ}
    {outcome : Option Decimal}
    (stores : Stores rounding exact scale outcome) (large : 2 ^ 96 ≤ |(exact : ℚ) / 10 ^ scale|) :
    outcome = none := by
  cases stores with
  | overflow => rfl
  | stored fits => exact absurd fits.small (not_lt.mpr large)

/-- Moving the point of a decimal to the right leaves a decimal, as long as the integer part stays
narrow enough. -/
theorem representable_shifted {decimal : Decimal} {places : ℕ}
    (small : |decimal.value * 10 ^ places| < 2 ^ 96) :
    Representable (decimal.value * 10 ^ places) := by
  obtain fewer | more := Nat.le_total places decimal.scale
  · have shifted : decimal.value * 10 ^ places =
        decimal.coefficient / 10 ^ (decimal.scale - places) := by
      have split : (10 : ℚ) ^ decimal.scale = 10 ^ (decimal.scale - places) * 10 ^ places := by
        rw [← pow_add, Nat.sub_add_cancel fewer]
      rw [Decimal.value, split]
      field_simp
    rw [shifted]
    exact representable_of_coefficient decimal.coefficient_lt
      ((Nat.sub_le _ _).trans decimal.scale_le)
  · -- no digit is left behind the point
    have shifted : decimal.value * 10 ^ places =
        ((decimal.coefficient * 10 ^ (places - decimal.scale) : ℤ) : ℚ) / 10 ^ 0 := by
      have split : (10 : ℚ) ^ places = 10 ^ (places - decimal.scale) * 10 ^ decimal.scale := by
        rw [← pow_add, Nat.sub_add_cancel more]
      rw [Decimal.value, split]
      push_cast
      field_simp
    rw [shifted] at small ⊢
    apply representable_of_coefficient _ (Nat.zero_le _)
    rw [pow_zero, div_one, ← Int.cast_abs, Int.abs_eq_natAbs] at small
    exact_mod_cast small

theorem product_value (left right : Decimal) :
    ((left.coefficient * right.coefficient : ℤ) : ℚ) / 10 ^ (left.scale + right.scale) =
      left.value * right.value := by
  simp only [Decimal.value]
  rw [pow_add, div_mul_div_comm]
  push_cast
  rfl

theorem aligned_value (decimal other : Decimal) :
    (decimal.aligned other : ℚ) / 10 ^ max decimal.scale other.scale = decimal.value := by
  have le := Nat.le_max_left decimal.scale other.scale
  simp only [Decimal.value, Decimal.aligned]
  rw [div_eq_div_iff (ten_pow_ne_zero _) (ten_pow_ne_zero _)]
  push_cast
  rw [mul_assoc, ← pow_add, Nat.sub_add_cancel le]

private theorem sum_value (left right : Decimal) :
    ((left.aligned right + right.aligned left : ℤ) : ℚ) / 10 ^ max left.scale right.scale =
      left.value + right.value := by
  push_cast
  rw [add_div, aligned_value, max_comm, aligned_value]

private theorem difference_value (left right : Decimal) :
    ((left.aligned right - right.aligned left : ℤ) : ℚ) / 10 ^ max left.scale right.scale =
      left.value - right.value := by
  push_cast
  rw [sub_div, aligned_value, max_comm, aligned_value]

namespace Arithmetic.Lawful

variable {arithmetic : Arithmetic} {rounding : Rounding}

/-- Multiplication is exact when the product is representable. -/
theorem checkedMul_exact (lawful : arithmetic.Lawful rounding) {left right : Decimal}
    (representable : Representable (left.value * right.value)) :
    ∃ result, arithmetic.checkedMul left right = some result ∧
      result.value = left.value * right.value := by
  rw [← product_value] at representable ⊢
  exact (lawful.checkedMul_stores left right).exact representable

theorem checkedMul_eq_none (lawful : arithmetic.Lawful rounding) {left right : Decimal}
    (large : 2 ^ 96 ≤ |left.value * right.value|) : arithmetic.checkedMul left right = none := by
  rw [← product_value] at large
  exact (lawful.checkedMul_stores left right).eq_none large

theorem checkedAdd_exact (lawful : arithmetic.Lawful rounding) {left right : Decimal}
    (representable : Representable (left.value + right.value)) :
    ∃ result, arithmetic.checkedAdd left right = some result ∧
      result.value = left.value + right.value := by
  rw [← sum_value] at representable ⊢
  exact (lawful.checkedAdd_stores left right).exact representable

theorem checkedSub_exact (lawful : arithmetic.Lawful rounding) {left right : Decimal}
    (representable : Representable (left.value - right.value)) :
    ∃ result, arithmetic.checkedSub left right = some result ∧
      result.value = left.value - right.value := by
  rw [← difference_value] at representable ⊢
  exact (lawful.checkedSub_stores left right).exact representable

/-- Division is exact when the quotient is representable. -/
theorem divide_representable (lawful : arithmetic.Lawful rounding) {left right : Decimal}
    (nonzero : right.value ≠ 0) (representable : Representable (left.value / right.value)) :
    ∃ result, arithmetic.divide left right = some result ∧
      result.value = left.value / right.value := by
  obtain ⟨quotient, quotient_value⟩ := representable
  rw [← quotient_value]
  apply lawful.divide_exact left right quotient nonzero
  rw [quotient_value, div_mul_cancel₀ _ nonzero]

end Arithmetic.Lawful

end DecimalFormat
