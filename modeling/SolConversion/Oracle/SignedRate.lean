import SolConversion.OnChain.AttestationBinding
import SolConversion.Oracle.SwapRateController

/-!
# The rate in the signed message

The service rounds a rate to a double with eight decimals, multiplies it by `10 ^ 8` and signs the
text of the product; the program rebuilds the text from an integer.  The two agree exactly if no
digit is lost in between, which depends on where the integer lies in its binade and how far it is
from a multiple of `10 ^ 8` in units of the last binary digit.
-/

namespace SolConversion.Oracle

open BinaryFloat FixedWidth ScriptNumber

/-- The rate `units / 10 ^ 8` is in the lower part of its binade, or `units` counted in last binary
digits of the rate is near enough to a multiple of `10 ^ 8`. -/
def ScalesBack (units : ℕ) : Prop :=
  units * 2 ^ 26 < twozPrecision * 2 ^ Nat.log 2 units ∨
    distanceToMultiple (units * 2 ^ (78 - Nat.log 2 units)) twozPrecision < 2 ^ 25 ∨
    distanceToMultiple (units * 2 ^ (78 - Nat.log 2 units)) twozPrecision = 2 ^ 25 ∧
      Even (units * 2 ^ (52 - Nat.log 2 units))

instance (units : ℕ) : Decidable (ScalesBack units) :=
  inferInstanceAs (Decidable (_ ∨ _ ∨ _ ∧ _))

section Scaling

variable {units exponent : ℕ}

theorem twozPrecision_pos : 0 < twozPrecision := by norm_num [twozPrecision]

theorem cast_twozPrecision_pos : (0 : ℚ) < twozPrecision := Nat.cast_pos.mpr twozPrecision_pos

theorem rate_lt_iff {shift : ℕ} :
    (units / twozPrecision : ℚ) < 2 ^ ((exponent : ℤ) - shift) ↔
      units * 2 ^ shift < twozPrecision * 2 ^ exponent := by
  rw [zpow_sub₀ two_ne_zero, zpow_natCast, zpow_natCast,
    div_lt_div_iff₀ cast_twozPrecision_pos (by positivity), mul_comm ((2 : ℚ) ^ exponent)]
  exact_mod_cast Iff.rfl

theorem le_rate_iff {shift : ℕ} :
    (2 : ℚ) ^ ((exponent : ℤ) - shift) ≤ units / twozPrecision ↔
      twozPrecision * 2 ^ exponent ≤ units * 2 ^ shift := by
  rw [← not_lt, rate_lt_iff, not_lt]

private theorem le_roundHalfEven_quotient {quotient : ℚ} (le : 2 ^ 79 / twozPrecision ≤ quotient) :
    (2 : ℚ) ^ 79 ≤ roundHalfEven quotient * twozPrecision := by
  have distance := (abs_le.mp (abs_sub_roundHalfEven_le quotient)).2
  have above : (6044629098073145 : ℚ) < roundHalfEven quotient := by
    have : (6044629098073145.5 : ℚ) < 2 ^ 79 / twozPrecision := by norm_num [twozPrecision]
    linarith
  have above' : 6044629098073146 ≤ roundHalfEven quotient := by exact_mod_cast above
  have multiple : (6044629098073146 : ℚ) ≤ roundHalfEven quotient := by exact_mod_cast above'
  calc (2 : ℚ) ^ 79
    _ ≤ 6044629098073146 * twozPrecision := by norm_num [twozPrecision]
    _ ≤ roundHalfEven quotient * twozPrecision :=
        mul_le_mul_of_nonneg_right multiple cast_twozPrecision_pos.le

theorem low_bounds (lower : 2 ^ exponent ≤ units)
    (low : units * 2 ^ 26 < twozPrecision * 2 ^ exponent) :
    (2 : ℚ) ^ ((exponent : ℤ) - (79 : ℕ) + (53 : ℕ) - 1) ≤ units / twozPrecision ∧
      (units / twozPrecision : ℚ) < 2 ^ ((exponent : ℤ) - (79 : ℕ) + (53 : ℕ)) := by
  constructor
  · rw [show (exponent : ℤ) - (79 : ℕ) + (53 : ℕ) - 1 = exponent - (27 : ℕ) by omega, le_rate_iff]
    have doubled := Nat.mul_le_mul_right (2 ^ 27) lower
    unfold twozPrecision
    omega
  · rwa [show (exponent : ℤ) - (79 : ℕ) + (53 : ℕ) = exponent - (26 : ℕ) by omega, rate_lt_iff]

private theorem lower_le_scaled (lower : 2 ^ exponent ≤ units)
    (low : units * 2 ^ 26 < twozPrecision * 2 ^ exponent) :
    (2 : ℚ) ^ exponent ≤ toNearest 53 (units / twozPrecision) * twozPrecision := by
  have unit_pos : (0 : ℚ) < 2 ^ ((exponent : ℤ) - (79 : ℕ)) := zpow_pos two_pos _
  have positive : (0 : ℚ) < units := by exact_mod_cast (Nat.two_pow_pos exponent).trans_le lower
  have quotient_pos : (0 : ℚ) < units / twozPrecision := div_pos positive cast_twozPrecision_pos
  have rounded : toNearest 53 (units / twozPrecision) =
      roundHalfEven (units / twozPrecision / 2 ^ ((exponent : ℤ) - (79 : ℕ))) *
        2 ^ ((exponent : ℤ) - (79 : ℕ)) := by
    obtain ⟨rate_lower, rate_upper⟩ := low_bounds lower low
    rw [← abs_of_pos quotient_pos] at rate_lower rate_upper
    exact toNearest_eq rate_lower rate_upper
  have scale_eq : (2 : ℚ) ^ exponent = 2 ^ 79 * 2 ^ ((exponent : ℤ) - (79 : ℕ)) := by
    rw [zpow_sub₀ two_ne_zero, zpow_natCast, zpow_natCast, mul_div_cancel₀ _ (by norm_num)]
  have quotient_le : (2 : ℚ) ^ 79 / twozPrecision ≤
      units / twozPrecision / 2 ^ ((exponent : ℤ) - (79 : ℕ)) := by
    rw [le_div_iff₀ unit_pos, div_mul_eq_mul_div, ← scale_eq]
    exact div_le_div_of_nonneg_right (by exact_mod_cast lower) cast_twozPrecision_pos.le
  calc (2 : ℚ) ^ exponent
    _ = 2 ^ 79 * 2 ^ ((exponent : ℤ) - (79 : ℕ)) := scale_eq
    _ ≤ roundHalfEven (units / twozPrecision / 2 ^ ((exponent : ℤ) - (79 : ℕ))) *
          twozPrecision * 2 ^ ((exponent : ℤ) - (79 : ℕ)) :=
        mul_le_mul_of_nonneg_right (le_roundHalfEven_quotient quotient_le) unit_pos.le
    _ = toNearest 53 (units / twozPrecision) * twozPrecision := by rw [rounded, mul_right_comm]

theorem distanceToMultiple_lt (number : ℕ) :
    distanceToMultiple number twozPrecision < 2 ^ 26 := by
  have near := @distanceToMultiple_le number _ twozPrecision_pos
  have scale_lt : twozPrecision < 2 ^ 27 := by norm_num [twozPrecision]
  omega

/-- Scaling back is exact in the lower part of a binade. -/
theorem scaled_eq_of_low (lower : 2 ^ exponent ≤ units) (upper : units < 2 ^ (exponent + 1))
    (few : exponent < 53) (low : units * 2 ^ 26 < twozPrecision * 2 ^ exponent) :
    toNearest 53 (toNearest 53 (units / twozPrecision) * twozPrecision) = units := by
  obtain ⟨rate_lower, rate_upper⟩ := low_bounds lower low
  rw [toNearest_div_mul_eq_iff twozPrecision_pos (by omega) few upper rate_lower rate_upper
    (lower_le_scaled lower low)]
  left
  calc distanceToMultiple (units * 2 ^ (79 - exponent)) twozPrecision * 2 ^ 53
    _ < 2 ^ 26 * 2 ^ 53 := Nat.mul_lt_mul_of_pos_right (distanceToMultiple_lt _) (by norm_num)
    _ = 2 ^ 79 := by norm_num

private theorem scaled_eq_iff_of_high (upper : units < 2 ^ (exponent + 1)) (few : exponent < 53)
    (high : twozPrecision * 2 ^ exponent ≤ units * 2 ^ 26) :
    toNearest 53 (toNearest 53 (units / twozPrecision) * twozPrecision) = units ↔
      distanceToMultiple (units * 2 ^ (78 - exponent)) twozPrecision < 2 ^ 25 ∨
        distanceToMultiple (units * 2 ^ (78 - exponent)) twozPrecision = 2 ^ 25 ∧
          Even (units * 2 ^ (52 - exponent)) := by
  have rate_lower : (2 : ℚ) ^ ((exponent : ℤ) - (78 : ℕ) + (53 : ℕ) - 1) ≤
      units / twozPrecision := by
    rwa [show (exponent : ℤ) - (78 : ℕ) + (53 : ℕ) - 1 = exponent - (26 : ℕ) by omega, le_rate_iff]
  have rate_upper : (units / twozPrecision : ℚ) < 2 ^ ((exponent : ℤ) - (78 : ℕ) + (53 : ℕ)) := by
    rw [show (exponent : ℤ) - (78 : ℕ) + (53 : ℕ) = exponent - (25 : ℕ) by omega, rate_lt_iff]
    unfold twozPrecision
    omega
  -- the number is above the power of two by more than the error
  have above : (2 : ℚ) ^ exponent ≤ toNearest 53 (units / twozPrecision) * twozPrecision := by
    have next : 2 ^ exponent + 1 ≤ units := by
      unfold twozPrecision at high
      omega
    have next' : (2 : ℚ) ^ exponent + 1 ≤ units := by exact_mod_cast next
    have error := abs_toNearest_div_mul_sub twozPrecision_pos (by omega) rate_lower rate_upper
    have small : (distanceToMultiple (units * 2 ^ (78 - exponent)) twozPrecision : ℚ) *
        2 ^ ((exponent : ℤ) - (78 : ℕ)) ≤ 1 := by
      have unit_le : (2 : ℚ) ^ ((exponent : ℤ) - (78 : ℕ)) ≤ 2 ^ (-26 : ℤ) :=
        zpow_le_zpow_right₀ one_le_two (by omega)
      have distance_le :
          (distanceToMultiple (units * 2 ^ (78 - exponent)) twozPrecision : ℚ) ≤ 2 ^ 26 := by
        exact_mod_cast (distanceToMultiple_lt _).le
      calc _ ≤ (2 : ℚ) ^ 26 * 2 ^ (-26 : ℤ) :=
            mul_le_mul distance_le unit_le (zpow_nonneg zero_le_two _) (by norm_num)
        _ = 1 := by norm_num
    have := (abs_le.mp (error.trans_le small)).1
    linarith
  rw [toNearest_div_mul_eq_iff twozPrecision_pos (by omega) few upper rate_lower rate_upper above,
    show 2 ^ 78 = 2 ^ 25 * 2 ^ 53 by norm_num, Nat.mul_lt_mul_right (by norm_num),
    Nat.mul_left_inj (by norm_num)]

/-- Exactly the rates that meet the condition are scaled back to their units. -/
theorem scaled_eq_iff (positive : 0 < units) (small : units < 2 ^ 53) :
    toNearest 53 (toNearest 53 (units / twozPrecision) * twozPrecision) = units ↔
      ScalesBack units := by
  have lower : 2 ^ Nat.log 2 units ≤ units := Nat.pow_log_le_self 2 positive.ne'
  have upper : units < 2 ^ (Nat.log 2 units + 1) := Nat.lt_pow_succ_log_self Nat.one_lt_two units
  have few : Nat.log 2 units < 53 := Nat.log_lt_of_lt_pow positive.ne' small
  unfold ScalesBack
  obtain low | high := Nat.lt_or_ge (units * 2 ^ 26) (twozPrecision * 2 ^ Nat.log 2 units)
  · exact iff_of_true (scaled_eq_of_low lower upper few low) (.inl low)
  · rw [scaled_eq_iff_of_high upper few high, or_iff_right (Nat.not_lt.mpr high)]

end Scaling

/-- JavaScript arithmetic, with any approximation of the powers of ten. -/
def doubleArithmetic (powerOfTen : ℤ → Number) : Arithmetic := ⟨toNearest 53, powerOfTen⟩

/-- A number as a document holds it. -/
def jsonText (round : ℚ → ℚ) : Number → String
  | .finite value => (Number.finite value).text round
  | _ => "null"

/-- A document's number read into 64 bits: digits only, without a zero in front. -/
def deserializeU64 (text : String) : Option UInt64 :=
  let digits := text.toList
  if digits ≠ [] ∧ digits.all Char.isDigit ∧ (digits.head? = some '0' → digits.length = 1) then
    toU64 (Nat.ofDigitChars 10 digits 0)
  else none

private theorem deserializeU64_toString {units : ℕ} (positive : 0 < units) (fits : units < 2 ^ 64) :
    deserializeU64 (toString units) = some (UInt64.ofNat units) := by
  have digits : (Nat.toDigits 10 units).all Char.isDigit = true :=
    List.all_eq_true.mpr fun char => DecimalText.isDigit_of_mem_toDigits
  have no_zero := DecimalText.head_toDigits_ne_zero positive
  simp only [deserializeU64, DecimalText.toList_toString]
  rw [if_pos ⟨Nat.toDigits_ne_nil, digits, fun zero => absurd zero no_zero⟩,
    Nat.ofDigitChars_ten_toDigits, toU64, if_pos fits]

section Message

variable {powerOfTen : ℤ → Number} {priceRate : PriceRate} {units : ℕ}

/-- A rate with eight decimals is its units divided and rounded. -/
theorem scaledRate_eq
    (rate_eq : priceRate.swapRate =
      parseFloat (toNearest 53) (fixedText twozPrecisionDecimals units)) :
    scaledRate (doubleArithmetic powerOfTen) priceRate =
      .finite (toNearest 53 (toNearest 53 (units / twozPrecision) * twozPrecision)) := by
  have scale_eq : (10 : ℚ) ^ twozPrecisionDecimals = twozPrecision := by
    norm_num [twozPrecisionDecimals, twozPrecision]
  rw [scaledRate, rate_eq, parseFloat_fixedText (by decide), scale_eq]
  rfl

theorem text_of_small (positive : 0 < units) (small : units < 2 ^ 53) :
    (Number.finite units).text (toNearest 53) = toString units :=
  text_natCast (toNearest_natCast_eq_iff (by norm_num) small) positive (small.trans (by norm_num))

/-- The service and the program agree on the signed message of a rate `units / 10 ^ 8`, and the
client reads `units` from the answer, exactly if the rate scales back. -/
theorem signed_rate_agrees_iff (powerOfTen : ℤ → Number) (priceRate : PriceRate) (units : ℕ)
    (timestamp : Int64) (positive : 0 < units) (small : units < 2 ^ 53)
    (rate_eq : priceRate.swapRate =
      parseFloat (toNearest 53) (fixedText twozPrecisionDecimals units)) :
    (scaledRate (doubleArithmetic powerOfTen) priceRate = .finite units ∧
      attestationMessage (toNearest 53) (scaledRate (doubleArithmetic powerOfTen) priceRate)
        timestamp.toInt = OnChain.attestationText (UInt64.ofNat units) timestamp ∧
      deserializeU64 (jsonText (toNearest 53)
        (scaledRate (doubleArithmetic powerOfTen) priceRate)) = some (UInt64.ofNat units)) ↔
      ScalesBack units := by
  rw [scaledRate_eq rate_eq, Number.finite.injEq, ← scaled_eq_iff positive small]
  refine ⟨fun agrees => agrees.1, fun scaled => ⟨scaled, ?_, ?_⟩⟩
  · have number_eq : (UInt64.ofNat units).toNat = units :=
      UInt64.toNat_ofNat_of_lt' (small.trans (by norm_num))
    rw [scaled, attestationMessage, text_of_small positive small, OnChain.attestationText,
      number_eq]
  · rw [scaled, jsonText, text_of_small positive small]
    exact deserializeU64_toString positive (small.trans (by norm_num))

end Message

/-- The rate calculated from finite prices is one with eight decimals. -/
theorem exists_decimal_units {arithmetic : Arithmetic} {config : OracleConfig} {now : ℤ}
    {solPriceData twozPriceData : PriceData} {rate : PriceRate} {quotient : ℚ}
    (calculated : swapRateCalculation arithmetic config now solPriceData twozPriceData = .ok rate)
    (finite : (convertPrice arithmetic solPriceData.price solPriceData.exponent).div arithmetic
      (convertPrice arithmetic twozPriceData.price twozPriceData.exponent) = .finite quotient)
    (nonneg : 0 ≤ quotient) (small : quotient < 10 ^ 21) :
    ∃ units, rate.swapRate =
      parseFloat arithmetic.round (fixedText twozPrecisionDecimals units) := by
  rw [swapRate_of_swapRateCalculation calculated, finite]
  refine ⟨⌊quotient * 10 ^ twozPrecisionDecimals + 1 / 2⌋₊, ?_⟩
  rw [parseFloat_toFixed (by decide) nonneg small, parseFloat_fixedText (by decide)]

/-- The powers of ten rounded to doubles. -/
def nearestPowerOfTen (exponent : ℤ) : Number := .finite (toNearest 53 (10 ^ exponent))

def defaultConfig : OracleConfig := ⟨.finite (toNearest 53 (4 / 1000)), some 60⟩

/-- SOL at 150.00000002 dollars. -/
def solFeed : PriceData := ⟨.text "5000000", .text "15000000002", -8, some 1700000000⟩

/-- 2Z at one dollar. -/
def twozFeed : PriceData := ⟨.text "40000", .text "100000000", -8, some 1700000001⟩

def lossyRate : PriceRate where
  swapRate := .finite (toNearest 53 (15000000002 / 10 ^ 8))
  solPriceUsd := .finite (toNearest 53 (15000000002 * toNearest 53 (10 ^ (-8 : ℤ))))
  twozPriceUsd := .finite 1
  lastPriceUpdate := 1700000010
  publishTime := some 1700000000
  solPublishTime := some 1700000000
  twozPublishTime := some 1700000001

/-- A rate of 150.00000002 is signed as 15000000001.999998, which the client cannot read. -/
theorem lossy_rate_disagrees :
    swapRateCalculation (doubleArithmetic nearestPowerOfTen) defaultConfig 1700000010 solFeed
        twozFeed = .ok lossyRate ∧
      lossyRate.swapRate =
        parseFloat (toNearest 53) (fixedText twozPrecisionDecimals 15000000002) ∧
      scaledRate (doubleArithmetic nearestPowerOfTen) lossyRate ≠ .finite 15000000002 ∧
      attestationMessage (toNearest 53) (scaledRate (doubleArithmetic nearestPowerOfTen) lossyRate)
        1700000010 = "15000000001.999998|1700000010" ∧
      deserializeU64 (jsonText (toNearest 53)
        (scaledRate (doubleArithmetic nearestPowerOfTen) lossyRate)) = none := by
  decide +kernel

/-- A rate of 15. -/
def wholeRate : PriceRate := { lossyRate with swapRate := .finite 15 }

theorem signed_rate_agrees_iff_fifteen :
    ScalesBack 1500000000 ∧
      ((scaledRate (doubleArithmetic nearestPowerOfTen) wholeRate = .finite (1500000000 : ℕ) ∧
        attestationMessage (toNearest 53)
          (scaledRate (doubleArithmetic nearestPowerOfTen) wholeRate) (1700000010 : Int64).toInt =
            OnChain.attestationText (UInt64.ofNat 1500000000) 1700000010 ∧
        deserializeU64 (jsonText (toNearest 53)
          (scaledRate (doubleArithmetic nearestPowerOfTen) wholeRate)) =
            some (UInt64.ofNat 1500000000)) ↔ ScalesBack 1500000000) :=
  ⟨by decide +kernel, signed_rate_agrees_iff nearestPowerOfTen wholeRate 1500000000 1700000010
    (by decide) (by decide) (by decide +kernel)⟩

end SolConversion.Oracle
