import Mathlib.Algebra.Order.Field.Basic
import Mathlib.Algebra.Order.Floor.Div
import Mathlib.Tactic.FieldSimp

/-!
# Descending prices

A descending price is an amount less a discount.  The discount starts at a least value, grows
linearly with the elapsed time and stops at a greatest value; prices are rounded down to whole
units.
-/

namespace DutchAuction

/-- The discount after some elapsed time. -/
def discount (slope least greatest elapsed : ℕ) : ℕ :=
  max (min (slope * elapsed + least) greatest) least

/-- An amount less a discount measured in parts of `whole`, rounded down. -/
def price (whole amount discount : ℕ) : ℕ := amount * (whole - discount) / whole

section Discount

variable {slope least greatest elapsed later : ℕ}

theorem least_le_discount : least ≤ discount slope least greatest elapsed := Nat.le_max_right _ _

/-- With ordered bounds the lower clamp never acts. -/
theorem discount_eq_min (ordered : least ≤ greatest) :
    discount slope least greatest elapsed = min (slope * elapsed + least) greatest := by
  apply Nat.max_eq_left
  exact Nat.le_min.mpr ⟨Nat.le_add_left least _, ordered⟩

theorem discount_le_greatest (ordered : least ≤ greatest) :
    discount slope least greatest elapsed ≤ greatest := by
  rw [discount_eq_min ordered]
  exact Nat.min_le_right _ _

theorem discount_mono (waits : elapsed ≤ later) :
    discount slope least greatest elapsed ≤ discount slope least greatest later := by
  have grows : slope * elapsed + least ≤ slope * later + least :=
    Nat.add_le_add_right (Nat.mul_le_mul_left slope waits) least
  exact max_le_max (min_le_min grows le_rfl) le_rfl

theorem discount_start (ordered : least ≤ greatest) :
    discount slope least greatest 0 = least := by
  rw [discount_eq_min ordered, Nat.mul_zero, Nat.zero_add]
  exact Nat.min_eq_left ordered

/-- The greatest discount is reached once the growth covers the range. -/
theorem discount_saturated (ordered : least ≤ greatest) (positive : 0 < slope)
    (waited : (greatest - least) ⌈/⌉ slope ≤ elapsed) :
    discount slope least greatest elapsed = greatest := by
  have covered : greatest - least ≤ slope * elapsed := by
    simpa using (ceilDiv_le_iff_le_smul positive).mp waited
  rw [discount_eq_min ordered]
  exact Nat.min_eq_right (by omega)

end Discount

section Price

variable {whole amount discount larger : ℕ}

theorem price_le : price whole amount discount ≤ amount := by
  apply Nat.div_le_of_le_mul
  rw [Nat.mul_comm whole]
  exact Nat.mul_le_mul_left amount (Nat.sub_le whole discount)

theorem price_antitone (deeper : discount ≤ larger) :
    price whole amount larger ≤ price whole amount discount :=
  Nat.div_le_div_right (Nat.mul_le_mul_left amount (Nat.sub_le_sub_left deeper whole))

theorem price_mono {other : ℕ} (larger : amount ≤ other) :
    price whole amount discount ≤ price whole other discount :=
  Nat.div_le_div_right (Nat.mul_le_mul_right _ larger)

/-- A discount may be measured in finer parts. -/
theorem price_refine {parts : ℕ} (positive : 0 < parts) :
    price (whole * parts) amount (discount * parts) = price whole amount discount := by
  unfold price
  rw [← Nat.sub_mul, ← Nat.mul_assoc]
  exact Nat.mul_div_mul_right _ _ positive

/-! Rounding costs less than one unit. -/

variable {K : Type*} [Field K] [LinearOrder K] [IsStrictOrderedRing K]

theorem discounted_eq (positive : 0 < whole) (within : discount ≤ whole) :
    (amount : K) * (1 - discount / whole) = (amount * (whole - discount) : ℕ) / whole := by
  have whole_ne : (whole : K) ≠ 0 := Nat.cast_ne_zero.mpr positive.ne'
  push_cast [within]
  field_simp

theorem price_le_discounted (positive : 0 < whole) (within : discount ≤ whole) :
    (price whole amount discount : K) ≤ amount * (1 - discount / whole) := by
  have rounded : price whole amount discount * whole ≤ amount * (whole - discount) :=
    Nat.div_mul_le_self _ _
  rw [discounted_eq positive within, le_div_iff₀ (Nat.cast_pos.mpr positive)]
  exact_mod_cast rounded

theorem discounted_lt_price_add_one (positive : 0 < whole) (within : discount ≤ whole) :
    (amount : K) * (1 - discount / whole) < price whole amount discount + 1 := by
  have rounded : amount * (whole - discount) < (price whole amount discount + 1) * whole :=
    Nat.lt_mul_of_div_lt (Nat.lt_succ_self _) positive
  rw [discounted_eq positive within, div_lt_iff₀ (Nat.cast_pos.mpr positive)]
  exact_mod_cast rounded

end Price

end DutchAuction
