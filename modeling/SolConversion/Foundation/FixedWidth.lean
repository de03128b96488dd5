import Mathlib.Data.UInt
import Mathlib.Tactic.Ring
import Mathlib.Tactic.Linarith

/-!
# Checked fixed-width arithmetic

Machine arithmetic that reports overflow instead of wrapping.  Every operation is characterised by
one equation over `ℕ` or `ℤ`: it returns a machine word exactly when the unbounded result is the
value of that word.
-/

namespace FixedWidth

/-- Narrow a natural number to 64 bits. -/
def toU64 (value : ℕ) : Option UInt64 :=
  if value < 2 ^ 64 then some (UInt64.ofNat value) else none

/-- Narrow an integer to a signed 64-bit word. -/
def toI64 (value : ℤ) : Option Int64 :=
  if -2 ^ 63 ≤ value ∧ value < 2 ^ 63 then some (Int64.ofInt value) else none

/-- Narrow a natural number to 128 bits; wide words are kept as natural numbers. -/
def toU128 (value : ℕ) : Option ℕ :=
  if value < 2 ^ 128 then some value else none

/-- Unsigned 64-bit addition. -/
def addU64 (left right : UInt64) : Option UInt64 := toU64 (left.toNat + right.toNat)

/-- Unsigned 64-bit subtraction. -/
def subU64 (left right : UInt64) : Option UInt64 :=
  if right ≤ left then some (left - right) else none

/-- Unsigned 128-bit multiplication. -/
def mulU128 (left right : ℕ) : Option ℕ := toU128 (left * right)

/-- Unsigned 128-bit division; division by zero has no result. -/
def divU128 (left right : ℕ) : Option ℕ :=
  if right = 0 then none else some (left / right)

/-- Signed 64-bit subtraction. -/
def subI64 (left right : Int64) : Option Int64 := toI64 (left.toInt - right.toInt)

/-- Signed 64-bit absolute value. -/
def absI64 (value : Int64) : Option Int64 := toI64 |value.toInt|

theorem u64_lt (word : UInt64) : word.toNat < 2 ^ 64 := word.toNat_lt

@[simp]
theorem toU64_eq_some {value : ℕ} {word : UInt64} :
    toU64 value = some word ↔ value = word.toNat := by
  unfold toU64
  split
  · rename_i fits
    rw [Option.some.injEq, ← UInt64.toNat_inj, UInt64.toNat_ofNat_of_lt' fits]
  · rename_i overflow
    have bound := u64_lt word
    simp only [reduceCtorEq, false_iff]
    omega

@[simp]
theorem toU64_eq_none {value : ℕ} : toU64 value = none ↔ 2 ^ 64 ≤ value := by
  simp [toU64]

theorem toU64_of_lt {value : ℕ} (fits : value < 2 ^ 64) :
    ∃ word, toU64 value = some word ∧ word.toNat = value :=
  ⟨UInt64.ofNat value, by simp [UInt64.toNat_ofNat_of_lt' fits],
    UInt64.toNat_ofNat_of_lt' fits⟩

@[simp]
theorem addU64_eq_some {left right sum : UInt64} :
    addU64 left right = some sum ↔ left.toNat + right.toNat = sum.toNat := toU64_eq_some

@[simp]
theorem subU64_eq_some {left right difference : UInt64} :
    subU64 left right = some difference ↔ left.toNat = right.toNat + difference.toNat := by
  unfold subU64
  split
  · rename_i fits
    have le : right.toNat ≤ left.toNat := fits
    rw [Option.some.injEq, ← UInt64.toNat_inj, UInt64.toNat_sub_of_le _ _ fits]
    omega
  · rename_i underflow
    have lt : ¬right.toNat ≤ left.toNat := underflow
    simp only [reduceCtorEq, false_iff]
    omega

@[simp]
theorem subU64_eq_none {left right : UInt64} :
    subU64 left right = none ↔ left.toNat < right.toNat := by
  simp [subU64, UInt64.lt_iff_toNat_lt]

theorem addU64_of_lt {left right : UInt64} (fits : left.toNat + right.toNat < 2 ^ 64) :
    ∃ sum, addU64 left right = some sum ∧ sum.toNat = left.toNat + right.toNat :=
  toU64_of_lt fits

theorem addU64_eq_none {left right : UInt64} :
    addU64 left right = none ↔ 2 ^ 64 ≤ left.toNat + right.toNat := toU64_eq_none

theorem subU64_of_add {left right : UInt64} {difference : ℕ}
    (split : right.toNat + difference = left.toNat) :
    ∃ word, subU64 left right = some word ∧ word.toNat = difference := by
  have bound := u64_lt left
  obtain ⟨word, -, word_eq⟩ := toU64_of_lt (show difference < 2 ^ 64 by omega)
  exact ⟨word, subU64_eq_some.mpr (by omega), word_eq⟩

@[simp]
theorem mulU128_eq_some {left right product : ℕ} :
    mulU128 left right = some product ↔ left * right < 2 ^ 128 ∧ left * right = product := by
  simp [mulU128, toU128]

/-- Two 64-bit factors never overflow 128 bits. -/
theorem mulU128_of_u64 (left right : UInt64) :
    mulU128 left.toNat right.toNat = some (left.toNat * right.toNat) := by
  have product_lt : left.toNat * right.toNat < 2 ^ 64 * 2 ^ 64 :=
    Nat.mul_lt_mul'' (u64_lt left) (u64_lt right)
  rw [mulU128_eq_some]
  exact ⟨by omega, rfl⟩

@[simp]
theorem divU128_eq_some {left right quotient : ℕ} :
    divU128 left right = some quotient ↔ right ≠ 0 ∧ left / right = quotient := by
  unfold divU128
  split <;> simp_all

@[simp]
theorem toI64_eq_some {value : ℤ} {word : Int64} :
    toI64 value = some word ↔ value = word.toInt := by
  unfold toI64
  split
  · rename_i fits
    rw [Option.some.injEq, ← Int64.toInt_inj, Int64.toInt_ofInt_of_le fits.1 fits.2]
  · rename_i overflow
    have lower := word.le_toInt
    have upper := word.toInt_lt
    simp only [reduceCtorEq, false_iff]
    omega

@[simp]
theorem subI64_eq_some {left right difference : Int64} :
    subI64 left right = some difference ↔ left.toInt - right.toInt = difference.toInt :=
  toI64_eq_some

@[simp]
theorem absI64_eq_some {value magnitude : Int64} :
    absI64 value = some magnitude ↔ |value.toInt| = magnitude.toInt := toI64_eq_some

theorem toI64_eq_none {value : ℤ} : toI64 value = none ↔ value < -2 ^ 63 ∨ 2 ^ 63 ≤ value := by
  unfold toI64
  split <;> simp <;> omega

theorem subI64_eq_none {left right : Int64} :
    subI64 left right = none ↔
      left.toInt - right.toInt < -2 ^ 63 ∨ 2 ^ 63 ≤ left.toInt - right.toInt := toI64_eq_none

theorem absI64_eq_none {value : Int64} : absI64 value = none ↔ 2 ^ 63 ≤ |value.toInt| := by
  have nonneg := abs_nonneg value.toInt
  rw [absI64, toI64_eq_none]
  omega

end FixedWidth
