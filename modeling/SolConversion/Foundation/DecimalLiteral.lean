import SolConversion.Foundation.DecimalNearest
import SolConversion.Foundation.ScriptNumber

/-!
# Decimal numbers as text

A decimal literal has an optional sign and digits on both sides of an optional point.  A decimal
number is written with as many digits behind the point as its scale says, and what was written is
read back.  A library reads every literal of a number that fits the format, and it may accept other
texts as well.
-/

namespace DecimalFormat

open ScriptNumber (takeSign takeFraction padded fixedText)

/-- The digits and the scale of a literal, which has one digit at least and nothing behind it. -/
def literalParts (text : String) : Option (ℤ × ℕ) :=
  let (negative, body) := takeSign text.toList
  let whole := body.takeWhile Char.isDigit
  let (fraction, rest) := takeFraction (body.dropWhile Char.isDigit)
  if whole ++ fraction = [] ∨ rest ≠ [] then none
  else
    let units : ℤ := Nat.ofDigitChars 10 (whole ++ fraction) 0
    some (if negative then -units else units, fraction.length)

/-- The number of a literal. -/
def decimalValue (text : String) : Option ℚ :=
  (literalParts text).map fun parts => parts.1 / 10 ^ parts.2

/-- The literal of a decimal. -/
def Decimal.text (decimal : Decimal) : String :=
  (if decimal.coefficient < 0 then "-" else "") ++
    fixedText decimal.scale decimal.coefficient.natAbs

theorem toList_fixedText (digits units : ℕ) :
    (fixedText digits units).toList = Nat.toDigits 10 (units / 10 ^ digits) ++
      if digits = 0 then [] else '.' :: padded digits (units % 10 ^ digits) := by
  unfold fixedText
  split
  · rename_i whole
    rw [whole, pow_zero, Nat.div_one, DecimalText.toList_toString, List.append_nil]
  · simp

private theorem takeSign_fixedText (digits units : ℕ) :
    takeSign (fixedText digits units).toList = (false, (fixedText digits units).toList) := by
  obtain ⟨first, others, split⟩ :=
    List.exists_cons_of_ne_nil (Nat.toDigits_ne_nil (b := 10) (n := units / 10 ^ digits))
  have digit : first.isDigit = true := by
    apply DecimalText.isDigit_of_mem_toDigits
    rw [split]
    exact List.mem_cons_self
  rw [toList_fixedText, split, List.cons_append]
  exact ScriptNumber.takeSign_of_isDigit digit

theorem takeSign_text (decimal : Decimal) :
    takeSign decimal.text.toList = (decide (decimal.coefficient < 0),
      (fixedText decimal.scale decimal.coefficient.natAbs).toList) := by
  unfold Decimal.text
  split
  · rename_i negative
    simp [takeSign, negative]
  · rename_i nonnegative
    rw [String.empty_append, takeSign_fixedText]
    simp [nonnegative]

private theorem split_fixedText (digits units : ℕ) :
    (fixedText digits units).toList.takeWhile Char.isDigit =
        Nat.toDigits 10 (units / 10 ^ digits) ∧
      (fixedText digits units).toList.dropWhile Char.isDigit =
        if digits = 0 then [] else '.' :: padded digits (units % 10 ^ digits) := by
  have front : ∀ char ∈ Nat.toDigits 10 (units / 10 ^ digits), char.isDigit = true :=
    fun char => DecimalText.isDigit_of_mem_toDigits
  rw [toList_fixedText, List.takeWhile_append_of_pos front, List.dropWhile_append_of_pos front]
  split <;> simp

private theorem takeFraction_padded {digits number : ℕ} :
    takeFraction ('.' :: padded digits number) = (padded digits number, []) := by
  have behind : ∀ char ∈ padded digits number, char.isDigit = true :=
    fun char => ScriptNumber.isDigit_of_mem_padded
  rw [takeFraction, List.takeWhile_eq_self_iff.mpr behind, List.dropWhile_eq_nil_iff.mpr behind]

/-- A literal is read by its sign and the digits on both sides of its point. -/
theorem literalParts_of_sides {text : String} {negative : Bool} {body fraction : List Char}
    (sign : takeSign text.toList = (negative, body))
    (behind : takeFraction (body.dropWhile Char.isDigit) = (fraction, []))
    (nonempty : body.takeWhile Char.isDigit ≠ []) :
    literalParts text = some
      (if negative then -(Nat.ofDigitChars 10 (body.takeWhile Char.isDigit ++ fraction) 0 : ℤ)
        else Nat.ofDigitChars 10 (body.takeWhile Char.isDigit ++ fraction) 0, fraction.length) := by
  simp only [literalParts, sign, behind]
  simp [nonempty]

theorem signed_natAbs (number : ℤ) :
    (if decide (number < 0) = true then -(number.natAbs : ℤ) else number.natAbs) = number := by
  simp only [decide_eq_true_eq]
  split <;> omega

private theorem literalParts_text (decimal : Decimal) :
    literalParts decimal.text = some (decimal.coefficient, decimal.scale) := by
  obtain ⟨front, behind⟩ := split_fixedText decimal.scale decimal.coefficient.natAbs
  have nonempty := front.trans_ne Nat.toDigits_ne_nil
  obtain whole | positive := Nat.eq_zero_or_pos decimal.scale
  · rw [if_pos whole] at behind
    rw [literalParts_of_sides (takeSign_text decimal) (congrArg takeFraction behind) nonempty,
      front, List.append_nil, Nat.ofDigitChars_ten_toDigits, whole, pow_zero, Nat.div_one,
      signed_natAbs]
    rfl
  · have small := Nat.mod_lt decimal.coefficient.natAbs (show 0 < 10 ^ decimal.scale by positivity)
    rw [if_neg positive.ne'] at behind
    rw [literalParts_of_sides (takeSign_text decimal)
      ((congrArg takeFraction behind).trans takeFraction_padded) nonempty, front,
      ScriptNumber.ofDigitChars_fixed positive, signed_natAbs,
      ScriptNumber.length_padded positive small]

theorem decimalValue_of_parts {text : String} {units : ℤ} {scale : ℕ}
    (parts : literalParts text = some (units, scale)) :
    decimalValue text = some ((units : ℚ) / 10 ^ scale) := by
  rw [decimalValue, parts]
  rfl

/-- What was written is read back. -/
theorem decimalValue_text (decimal : Decimal) : decimalValue decimal.text = some decimal.value :=
  decimalValue_of_parts (literalParts_text decimal)

/-- A library of decimals: an arithmetic with operations that read and write numbers. -/
structure Library extends Arithmetic where
  ofWord : UInt64 → Decimal
  display : Decimal → String
  fromStr : String → Except String Decimal
  /-- What `toU64` makes of a number between -1 and 0. -/
  negativeFraction : Option UInt64

/-- The laws of a library: words and literals keep their values, and a word is the truncation of a
number. -/
structure Library.Lawful (library : Library) (rounding : Rounding) : Prop
    extends library.toArithmetic.Lawful rounding where
  ofWord_value : ∀ word, (library.ofWord word).value = word.toNat
  display_value : ∀ decimal, decimalValue (library.display decimal) = some decimal.value
  fromStr_value : ∀ text number, decimalValue text = some number → Representable number →
    ∃ decimal, library.fromStr text = .ok decimal ∧ decimal.value = number
  toU64_negative : ∀ decimal, decimal.value ≤ -1 → library.toU64 decimal = none
  toU64_fraction : ∀ decimal, -1 < decimal.value → decimal.value < 0 →
    library.toU64 decimal = library.negativeFraction
  negativeFraction_zero : ∀ word, library.negativeFraction = some word → word = 0

namespace Library.Lawful

variable {library : Library} {rounding : Rounding}

/-- A decimal that was written is read back with its value. -/
theorem fromStr_display (lawful : library.Lawful rounding) (decimal : Decimal) :
    ∃ restored, library.fromStr (library.display decimal) = .ok restored ∧
      restored.value = decimal.value :=
  lawful.fromStr_value _ _ (lawful.display_value decimal) ⟨decimal, rfl⟩

/-- A number that is not negative is truncated to a word if it is small enough. -/
theorem toU64_of_lt (lawful : library.Lawful rounding) {decimal : Decimal}
    (nonneg : 0 ≤ decimal.value) (small : decimal.value < 2 ^ 64) :
    ∃ word, library.toU64 decimal = some word ∧ word.toNat = ⌊decimal.value⌋₊ := by
  have fits : ⌊decimal.value⌋₊ < 2 ^ 64 := by
    rw [Nat.floor_lt nonneg]
    exact_mod_cast small
  rw [lawful.toU64_truncates decimal nonneg]
  exact FixedWidth.toU64_of_lt fits

/-- A number that is too large for a word is refused. -/
theorem toU64_of_ge (lawful : library.Lawful rounding) {decimal : Decimal}
    (large : 2 ^ 64 ≤ decimal.value) : library.toU64 decimal = none := by
  have nonneg : 0 ≤ decimal.value := le_trans (by positivity) large
  rw [lawful.toU64_truncates decimal nonneg, FixedWidth.toU64_eq_none, Nat.le_floor_iff nonneg]
  exact_mod_cast large

end Library.Lawful

private theorem natAbs_word_lt (word : UInt64) : ((word.toNat : ℤ)).natAbs < 2 ^ 96 :=
  word.toNat_lt.trans (by norm_num)

/-- The arithmetic rounded to nearest, with literals for texts. -/
def nearestLibrary : Library where
  toArithmetic := nearestArithmetic
  ofWord word := ⟨word.toNat, 0, natAbs_word_lt word, Nat.zero_le 28⟩
  display := Decimal.text
  fromStr text :=
    match (literalParts text).bind fun parts => Nearest.store parts.1 parts.2 with
    | some decimal => .ok decimal
    | none => .error "Invalid decimal"
  negativeFraction := none

theorem truncate_of_neg {decimal : Decimal} (negative : decimal.value < 0) :
    Nearest.truncate decimal = none := by
  have coefficient_neg : decimal.coefficient < 0 := by
    by_contra nonneg
    have value_nonneg : 0 ≤ decimal.value := by
      apply div_nonneg _ (by positivity)
      exact_mod_cast not_lt.mp nonneg
    exact not_lt.mpr value_nonneg negative
  rw [Nearest.truncate, if_pos coefficient_neg]

theorem nearestLibrary_fromStr {text : String} {number : ℚ}
    (literal : decimalValue text = some number) (representable : Representable number) :
    ∃ decimal, nearestLibrary.fromStr text = .ok decimal ∧ decimal.value = number := by
  obtain ⟨⟨units, scale⟩, parts, rfl⟩ := Option.map_eq_some_iff.mp literal
  obtain ⟨decimal, stored, value_eq⟩ := (Nearest.store_stores units scale).exact representable
  exact ⟨decimal, by simp [nearestLibrary, parts, stored], value_eq⟩

theorem nearestLibrary_lawful : nearestLibrary.Lawful nearest where
  toLawful := nearestArithmetic_lawful
  ofWord_value word := by simp [nearestLibrary, Decimal.value]
  display_value := decimalValue_text
  fromStr_value _ _ := nearestLibrary_fromStr
  toU64_negative _ below := truncate_of_neg (lt_of_le_of_lt below (by norm_num))
  toU64_fraction _ _ negative := truncate_of_neg negative
  negativeFraction_zero _ none_left := absurd none_left (by simp [nearestLibrary])

end DecimalFormat
