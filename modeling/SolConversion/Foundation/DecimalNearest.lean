import Mathlib.Algebra.Order.Floor.Semifield
import Mathlib.Tactic.LinearCombination
import SolConversion.Foundation.DecimalFormat

/-!
# Decimal arithmetic rounded to nearest

An executable decimal arithmetic that satisfies the laws of the format, with results that do not fit
rounded to the nearest neighbour.
-/

namespace DecimalFormat

/-- Rounding to the nearest integer, halves upwards. -/
def nearest : Rounding where
  quotient dividend divisor := (2 * dividend + divisor) / (2 * divisor)
  near dividend divisor positive := by
    have divisor_positive : (0 : ℤ) < 2 * divisor := by omega
    have lower := Int.ediv_mul_le (2 * dividend + divisor) divisor_positive.ne'
    have upper := Int.lt_ediv_add_one_mul_self (2 * dividend + divisor) divisor_positive
    rw [abs_lt]
    constructor <;> nlinarith

namespace Nearest

/-- The decimal with the given parts, if they fit the format. -/
def ofParts (coefficient : ℤ) (scale : ℕ) : Option Decimal :=
  if fits : coefficient.natAbs < 2 ^ 96 ∧ scale ≤ 28 then
    some ⟨coefficient, scale, fits.1, fits.2⟩
  else none

/-- Store `exact / 10 ^ scale`, dropping the fewest digits. -/
def store (exact : ℤ) (scale : ℕ) : Option Decimal :=
  ((List.range (scale + 1)).find? fun dropped => decide (Fits nearest exact scale dropped)).bind
    fun dropped => ofParts (nearest.quotient exact (10 ^ dropped)) (scale - dropped)

/-- The numerator and denominator of a quotient of decimals. -/
def numerator (left right : Decimal) : ℤ := left.coefficient * 10 ^ right.scale

def denominator (left right : Decimal) : ℤ := right.coefficient * 10 ^ left.scale

/-- The quotient as an exact decimal of the given scale. -/
def exactQuotient (left right : Decimal) (scale : ℕ) : Option Decimal :=
  if denominator left right ∣ numerator left right * 10 ^ scale then
    ofParts (numerator left right * 10 ^ scale / denominator left right) scale
  else none

/-- Exact if the quotient terminates within the format, rounded otherwise. -/
def divide (left right : Decimal) : Option Decimal :=
  if right.coefficient = 0 then none
  else
    match (List.range 29).findSome? (exactQuotient left right) with
    | some quotient => some quotient
    | none =>
        store
          (nearest.quotient (numerator left right * 10 ^ 28 * right.coefficient.sign)
            (denominator left right).natAbs) 28

/-- The smaller of two decimals, compared by cross multiplication. -/
def minimum (left right : Decimal) : Decimal :=
  if numerator left right ≤ right.coefficient * 10 ^ left.scale then left else right

/-- Truncation to an unsigned word. -/
def truncate (decimal : Decimal) : Option UInt64 :=
  if decimal.coefficient < 0 then none
  else FixedWidth.toU64 (decimal.coefficient.toNat / 10 ^ decimal.scale)

theorem ofParts_eq_some {coefficient : ℤ} {scale : ℕ} {result : Decimal} :
    ofParts coefficient scale = some result ↔
      result.coefficient = coefficient ∧ result.scale = scale := by
  obtain ⟨own, digits, own_lt, digits_le⟩ := result
  simp only [ofParts]
  split
  · simp [eq_comm]
  · rename_i unfit
    simp only [reduceCtorEq, false_iff, not_and]
    rintro rfl rfl
    exact unfit ⟨own_lt, digits_le⟩

theorem ofParts_value {coefficient : ℤ} {scale : ℕ} {result : Decimal}
    (formed : ofParts coefficient scale = some result) :
    result.value = coefficient / 10 ^ scale := by
  obtain ⟨coefficient_eq, scale_eq⟩ := ofParts_eq_some.mp formed
  rw [Decimal.value, coefficient_eq, scale_eq]

theorem store_stores (exact : ℤ) (scale : ℕ) :
    Stores nearest exact scale (store exact scale) := by
  unfold store
  cases found : (List.range (scale + 1)).find?
      fun dropped => decide (Fits nearest exact scale dropped) with
  | none =>
      apply Stores.overflow
      intro dropped fits
      have unfit := List.find?_range_eq_none.mp found dropped (by have := fits.1; omega)
      simp [fits] at unfit
  | some dropped =>
      obtain ⟨fits, -, fewest⟩ := List.find?_range_eq_some.mp found
      have fits : Fits nearest exact scale dropped := by simpa using fits
      have formed : ofParts (nearest.quotient exact (10 ^ dropped)) (scale - dropped) =
          some ⟨nearest.quotient exact (10 ^ dropped), scale - dropped, fits.2.2,
            by have := fits.2.1; omega⟩ := ofParts_eq_some.mpr ⟨rfl, rfl⟩
      rw [Option.bind_some, formed]
      exact .stored fits (fun fewer less => by simpa using fewest fewer less)
        (ofParts_value formed)

theorem denominator_ne_zero {left right : Decimal} (nonzero : right.coefficient ≠ 0) :
    denominator left right ≠ 0 :=
  mul_ne_zero nonzero (by positivity)

private theorem exactQuotient_value {left right : Decimal} {scale : ℕ} {result : Decimal}
    (nonzero : right.coefficient ≠ 0) (formed : exactQuotient left right scale = some result) :
    result.value * right.value = left.value := by
  unfold exactQuotient at formed
  split at formed
  · rename_i divides
    obtain ⟨factor, factored⟩ := divides
    rw [factored, Int.mul_ediv_cancel_left _ (denominator_ne_zero nonzero)] at formed
    rw [ofParts_value formed]
    simp only [Decimal.value]
    rw [div_mul_div_comm, div_eq_div_iff (by positivity) (by positivity)]
    have cross : factor * right.coefficient * 10 ^ left.scale =
        left.coefficient * (10 ^ scale * 10 ^ right.scale) := by
      unfold numerator denominator at factored
      linear_combination -factored
    exact_mod_cast cross
  · simp at formed

private theorem exists_exactQuotient {left right quotient : Decimal}
    (nonzero : right.coefficient ≠ 0)
    (product : quotient.value * right.value = left.value) :
    exactQuotient left right quotient.scale = some quotient := by
  simp only [Decimal.value] at product
  rw [div_mul_div_comm, div_eq_div_iff (by positivity) (by positivity)] at product
  have cross : quotient.coefficient * right.coefficient * 10 ^ left.scale =
      left.coefficient * (10 ^ quotient.scale * 10 ^ right.scale) := by exact_mod_cast product
  have factored : numerator left right * 10 ^ quotient.scale =
      denominator left right * quotient.coefficient := by
    unfold numerator denominator
    linear_combination -cross
  unfold exactQuotient
  rw [if_pos ⟨quotient.coefficient, factored⟩, factored,
    Int.mul_ediv_cancel_left _ (denominator_ne_zero nonzero)]
  exact ofParts_eq_some.mpr ⟨rfl, rfl⟩

theorem divide_exact (left right quotient : Decimal) (nonzero : right.value ≠ 0)
    (product : quotient.value * right.value = left.value) :
    ∃ result, divide left right = some result ∧ result.value = quotient.value := by
  have coefficient_ne : right.coefficient ≠ 0 := by
    intro zero
    simp [Decimal.value, zero] at nonzero
  have found : ∃ result, (List.range 29).findSome? (exactQuotient left right) = some result := by
    rw [← Option.isSome_iff_exists, List.findSome?_isSome_iff]
    refine ⟨quotient.scale, List.mem_range.mpr (by have := quotient.scale_le; omega), ?_⟩
    rw [exists_exactQuotient coefficient_ne product]
    rfl
  obtain ⟨result, found⟩ := found
  refine ⟨result, by simp [divide, coefficient_ne, found], ?_⟩
  obtain ⟨scale, -, formed⟩ := List.exists_of_findSome?_eq_some found
  apply mul_right_cancel₀ nonzero
  rw [exactQuotient_value coefficient_ne formed, product]

theorem value_le_iff (left right : Decimal) :
    left.value ≤ right.value ↔ numerator left right ≤ right.coefficient * 10 ^ left.scale := by
  simp only [Decimal.value, numerator]
  rw [div_le_div_iff₀ (by positivity) (by positivity)]
  exact_mod_cast Iff.rfl

theorem minimum_value (left right : Decimal) :
    (minimum left right).value = min left.value right.value := by
  unfold minimum
  split
  · rename_i le
    rw [min_eq_left ((value_le_iff left right).mpr le)]
  · rename_i gt
    rw [min_eq_right (le_of_not_ge (mt (value_le_iff left right).mp gt))]

private theorem truncate_value (decimal : Decimal) (nonnegative : 0 ≤ decimal.value) :
    truncate decimal = FixedWidth.toU64 ⌊decimal.value⌋₊ := by
  have coefficient_nonnegative : 0 ≤ decimal.coefficient := by
    by_contra negative
    have : decimal.value < 0 := by
      apply div_neg_of_neg_of_pos _ (by positivity)
      exact_mod_cast not_le.mp negative
    linarith
  obtain ⟨magnitude, coefficient_eq⟩ := Int.eq_ofNat_of_zero_le coefficient_nonnegative
  have floor_eq : ⌊decimal.value⌋₊ = magnitude / 10 ^ decimal.scale := by
    rw [← Nat.floor_div_eq_div (K := ℚ) magnitude (10 ^ decimal.scale)]
    simp [Decimal.value, coefficient_eq]
  rw [floor_eq]
  simp [truncate, coefficient_eq]

end Nearest

/-- Decimal arithmetic rounded to nearest. -/
def nearestArithmetic : Arithmetic where
  ofU64 word := Nearest.ofParts word.toNat 0
  ofU16 word := Nearest.ofParts word.toNat 0
  divide := Nearest.divide
  checkedMul left right :=
    Nearest.store (left.coefficient * right.coefficient) (left.scale + right.scale)
  checkedAdd left right :=
    Nearest.store (left.aligned right + right.aligned left) (max left.scale right.scale)
  checkedSub left right :=
    Nearest.store (left.aligned right - right.aligned left) (max left.scale right.scale)
  minimum := Nearest.minimum
  toU64 := Nearest.truncate

theorem ofParts_nat {number : ℕ} (number_lt : number < 2 ^ 96) :
    ∃ decimal, Nearest.ofParts number 0 = some decimal ∧ decimal.value = number := by
  refine ⟨⟨number, 0, by simpa using number_lt, by omega⟩, Nearest.ofParts_eq_some.mpr ⟨rfl, rfl⟩,
    ?_⟩
  simp [Decimal.value]

theorem nearestArithmetic_lawful : nearestArithmetic.Lawful nearest where
  ofU64_value word := ofParts_nat (word.toNat_lt.trans (by norm_num))
  ofU16_value word := ofParts_nat (word.toNat_lt.trans (by norm_num))
  divide_exact := Nearest.divide_exact
  checkedMul_stores _ _ := Nearest.store_stores _ _
  checkedAdd_stores _ _ := Nearest.store_stores _ _
  checkedSub_stores _ _ := Nearest.store_stores _ _
  minimum_value := Nearest.minimum_value
  toU64_truncates := Nearest.truncate_value

end DecimalFormat
