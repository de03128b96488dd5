import Mathlib.Algebra.Order.Floor.Semifield
import SolConversion.Foundation.DutchAuction
import SolConversion.OnChain.State

/-!
# Attested prices and the ask price

The oracle signs a swap rate and a timestamp.  The ask price discounts an attested rate by the time
since the last trade; it is computed in checked decimal arithmetic, which is exact on every
configuration within its bounds.
-/

namespace SolConversion.OnChain

open DecimalFormat FixedWidth Fallible

/-- The bytes an oracle signs. -/
def attestationMessage (oraclePriceData : OraclePriceData) : List UInt8 :=
  (toString oraclePriceData.swapRate.toNat ++ "|" ++
    toString oraclePriceData.timestamp.toInt).toUTF8.toList

def verifyAttestation (platform : Platform) (clock : Clock) (oraclePriceData : OraclePriceData)
    (oraclePublicKey : Pubkey) (priceMaximumAge : Int64) : Except Failure Unit := do
  let signature ← orFail (failWith .invalidAttestation)
    (platform.base64Decode oraclePriceData.signature)
  require (platform.sigVerify oraclePublicKey (attestationMessage oraclePriceData) signature = true)
    (failWith .attestationVerificationError)
  require (oraclePriceData.swapRate > 0) (failWith .invalidOracleSwapRate)
  let elapsed ← checked (subI64 clock.unixTimestamp oraclePriceData.timestamp)
  let difference ← checked (absI64 elapsed)
  require (difference ≤ priceMaximumAge) (failWith .stalePrice)

/-- A price signed under a key and no further from the clock than a maximum age. -/
structure Attested (platform : Platform) (oraclePublicKey : Pubkey) (priceMaximumAge : Int64)
    (clock : Clock) (oraclePriceData : OraclePriceData) : Prop where
  signed : ∃ signature, platform.base64Decode oraclePriceData.signature = some signature ∧
    platform.sigVerify oraclePublicKey (attestationMessage oraclePriceData) signature = true
  positive : 0 < oraclePriceData.swapRate
  fresh : |clock.unixTimestamp.toInt - oraclePriceData.timestamp.toInt| ≤ priceMaximumAge.toInt

theorem attested_of_verifyAttestation {platform : Platform} {clock : Clock}
    {oraclePriceData : OraclePriceData} {oraclePublicKey : Pubkey} {priceMaximumAge : Int64}
    {verified : Unit}
    (success : verifyAttestation platform clock oraclePriceData oraclePublicKey priceMaximumAge =
      .ok verified) :
    Attested platform oraclePublicKey priceMaximumAge clock oraclePriceData := by
  simp only [verifyAttestation, bind_eq_ok, orFail_eq_ok, require_eq_ok, checked_eq_ok,
    subI64_eq_some, absI64_eq_some] at success
  obtain ⟨signature, decoded, -, valid, -, positive, elapsed, elapsed_eq, difference,
    difference_eq, fresh⟩ := success
  refine ⟨⟨signature, decoded, valid⟩, positive, ?_⟩
  rw [elapsed_eq, difference_eq]
  exact Int64.le_iff_toInt_le.mp fresh

/-- How the computation of an optional price ends without a price. -/
inductive Stop
  /-- It returns `None`. -/
  | none
  /-- It panics. -/
  | panic
  deriving DecidableEq

/-- The `?` operator. -/
def orNone {α : Type} : Option α → Except Stop α := orFail .none

/-- An operator that panics where it has no result. -/
def orPanic {α : Type} : Option α → Except Stop α := orFail .panic

/-- `conversion_rate = oracle_swap_rate * (1 - discount_rate)` with
`discount_rate = max(min(γ * (S_now - S_last) + Dmin, Dmax), Dmin)`. -/
def calculateConversionRate (decimal : Arithmetic) (oraclePriceData : OraclePriceData)
    (coefficient maxDiscountRate minDiscountRate sLast sNow : UInt64) : Except Stop UInt64 := do
  let coefficientDecimal ← orPanic (decimal.divide
    (← orNone (decimal.ofU64 coefficient)) (← orNone (decimal.ofU64 100000000)))
  let maxDiscountRateDecimal ← orPanic (decimal.divide
    (← orNone (decimal.ofU64 maxDiscountRate)) (← orNone (decimal.ofU16 (bps * 100))))
  let minDiscountRateDecimal ← orPanic (decimal.divide
    (← orNone (decimal.ofU64 minDiscountRate)) (← orNone (decimal.ofU16 (bps * 100))))
  let sDiff ← orNone (subU64 sNow sLast)
  let sDiffDecimal ← orNone (decimal.ofU64 sDiff)
  let grown ← orNone (decimal.checkedMul coefficientDecimal sDiffDecimal)
  let raised ← orNone (decimal.checkedAdd grown minDiscountRateDecimal)
  let discountRateDecimal := decimal.minimum raised maxDiscountRateDecimal
  let oracleSwapRateDecimal ← orPanic (decimal.divide
    (← orNone (decimal.ofU64 oraclePriceData.swapRate)) (← orNone (decimal.ofU64 tokenUnits)))
  let oneDecimal ← orNone (decimal.ofU64 1)
  let discountInverseDecimal ← orNone (decimal.checkedSub oneDecimal discountRateDecimal)
  let conversionRate ← orNone (decimal.checkedMul oracleSwapRateDecimal discountInverseDecimal)
  let scaled ← orNone (decimal.checkedMul conversionRate (← orNone (decimal.ofU64 tokenUnits)))
  orNone (decimal.toU64 scaled)

/-- The bounds every stored configuration keeps. -/
structure ConfigurationRegistry.Valid (configuration : ConfigurationRegistry) : Prop where
  priceMaximumAge_pos : 0 < configuration.priceMaximumAge.toInt
  coefficient_le : configuration.coefficient.toNat ≤ 100000000
  discounts_lt : configuration.minDiscountRate.toNat < configuration.maxDiscountRate.toNat
  maxDiscountRate_le : configuration.maxDiscountRate.toNat ≤ 10000

/-- The discount in parts of `10 ^ 8` after a number of slots. -/
def ConfigurationRegistry.discountAfter (configuration : ConfigurationRegistry) (slots : ℕ) : ℕ :=
  DutchAuction.discount configuration.coefficient.toNat
    (configuration.minDiscountRate.toNat * 10 ^ 4) (configuration.maxDiscountRate.toNat * 10 ^ 4)
    slots

/-- The documented price of a swap rate after a number of slots. -/
def ConfigurationRegistry.priceAfter (configuration : ConfigurationRegistry)
    (swapRate slots : ℕ) : ℕ :=
  DutchAuction.price (10 ^ 8) swapRate (configuration.discountAfter slots)

/-- The price computed under a configuration. -/
def ConfigurationRegistry.conversionRate (configuration : ConfigurationRegistry)
    (decimal : Arithmetic) (oraclePriceData : OraclePriceData) (sLast sNow : UInt64) :
    Except Stop UInt64 :=
  calculateConversionRate decimal oraclePriceData configuration.coefficient
    configuration.maxDiscountRate configuration.minDiscountRate sLast sNow

/-- The failure of an instruction whose price computation stops. -/
def askPriceFailure : Stop → Failure
  | .none => failWith .askPriceCalculationError
  | .panic => abortWith .panic

def getConversionRate (platform : Platform) (context : Context) (state : ConverterState)
    (oraclePriceData : OraclePriceData) : Except Failure UInt64 := do
  verifyAttestation platform context.clock oraclePriceData
    state.configurationRegistry.oraclePubkey state.configurationRegistry.priceMaximumAge
  mapFailure askPriceFailure (state.configurationRegistry.conversionRate platform.decimal
    oraclePriceData state.programState.lastTradeSlot context.clock.slot)

theorem ConfigurationRegistry.Valid.discounts_le {configuration : ConfigurationRegistry}
    (valid : configuration.Valid) :
    configuration.minDiscountRate.toNat * 10 ^ 4 ≤ configuration.maxDiscountRate.toNat * 10 ^ 4 :=
  Nat.mul_le_mul_right _ (Nat.le_of_lt valid.discounts_lt)

theorem ConfigurationRegistry.Valid.discountAfter_le {configuration : ConfigurationRegistry}
    (valid : configuration.Valid) (slots : ℕ) : configuration.discountAfter slots ≤ 10 ^ 8 := by
  have capped : configuration.discountAfter slots ≤ configuration.maxDiscountRate.toNat * 10 ^ 4 :=
    DutchAuction.discount_le_greatest valid.discounts_le
  have greatest_le := valid.maxDiscountRate_le
  omega

section Exact

variable {decimal : Arithmetic} {rounding : Rounding}

theorem divide_word (lawful : decimal.Lawful rounding) {divisor : Decimal} {digits : ℕ}
    (divisor_value : divisor.value = 10 ^ digits) (digits_le : digits ≤ 28) (word : UInt64) :
    ∃ dividend quotient, decimal.ofU64 word = some dividend ∧
      decimal.divide dividend divisor = some quotient ∧
      quotient.value = word.toNat / 10 ^ digits := by
  obtain ⟨dividend, dividend_eq, dividend_value⟩ := lawful.ofU64_value word
  have representable : Representable (dividend.value / divisor.value) := by
    rw [dividend_value, divisor_value]
    have bound := u64_lt word
    exact representable_of_nat (by omega) digits_le
  have nonzero : divisor.value ≠ 0 := by
    rw [divisor_value]
    exact ten_pow_ne_zero digits
  obtain ⟨quotient, result, quotient_value⟩ := lawful.divide_representable nonzero representable
  refine ⟨dividend, quotient, dividend_eq, result, ?_⟩
  rw [quotient_value, dividend_value, divisor_value]

theorem units_decimal (lawful : decimal.Lawful rounding) :
    ∃ units, decimal.ofU64 tokenUnits = some units ∧ units.value = 10 ^ 8 := by
  obtain ⟨units, units_eq, units_value⟩ := lawful.ofU64_value tokenUnits
  refine ⟨units, units_eq, ?_⟩
  rw [units_value, show tokenUnits.toNat = 10 ^ 8 from rfl]
  norm_cast

theorem basisPoints_decimal (lawful : decimal.Lawful rounding) :
    ∃ points, decimal.ofU16 (bps * 100) = some points ∧ points.value = 10 ^ 4 := by
  obtain ⟨points, points_eq, points_value⟩ := lawful.ofU16_value (bps * 100)
  refine ⟨points, points_eq, ?_⟩
  rw [points_value, show (bps * 100).toNat = 10 ^ 4 from rfl]
  norm_cast

/-- The discount is computed without rounding. -/
theorem discountRate_exact (lawful : decimal.Lawful rounding)
    {configuration : ConfigurationRegistry} (valid : configuration.Valid)
    {coefficient greatest least slots : Decimal} {sDiff : UInt64}
    (coefficient_value : coefficient.value = configuration.coefficient.toNat / 10 ^ 8)
    (greatest_value : greatest.value = configuration.maxDiscountRate.toNat / 10 ^ 4)
    (least_value : least.value = configuration.minDiscountRate.toNat / 10 ^ 4)
    (slots_value : slots.value = sDiff.toNat) :
    ∃ grown raised, decimal.checkedMul coefficient slots = some grown ∧
      decimal.checkedAdd grown least = some raised ∧
      (decimal.minimum raised greatest).value =
        configuration.discountAfter sDiff.toNat / 10 ^ 8 := by
  have coefficient_le := valid.coefficient_le
  have least_lt : configuration.minDiscountRate.toNat < 10000 :=
    Nat.lt_of_lt_of_le valid.discounts_lt valid.maxDiscountRate_le
  have slots_lt := u64_lt sDiff
  have growth_le : configuration.coefficient.toNat * sDiff.toNat ≤ 100000000 * sDiff.toNat :=
    Nat.mul_le_mul_right _ coefficient_le
  have product : coefficient.value * slots.value =
      ((configuration.coefficient.toNat * sDiff.toNat : ℕ) : ℚ) / 10 ^ 8 := by
    rw [coefficient_value, slots_value]
    push_cast
    ring
  have grown_representable : Representable (coefficient.value * slots.value) := by
    rw [product]
    exact representable_of_nat (by omega) (by omega)
  obtain ⟨grown, multiplied, grown_value⟩ := lawful.checkedMul_exact grown_representable
  have sum : grown.value + least.value =
      ((configuration.coefficient.toNat * sDiff.toNat +
        configuration.minDiscountRate.toNat * 10 ^ 4 : ℕ) : ℚ) / 10 ^ 8 := by
    rw [grown_value, product, least_value]
    push_cast
    ring
  have raised_representable : Representable (grown.value + least.value) := by
    rw [sum]
    exact representable_of_nat (by omega) (by omega)
  obtain ⟨raised, added, raised_value⟩ := lawful.checkedAdd_exact raised_representable
  refine ⟨grown, raised, multiplied, added, ?_⟩
  have greatest_scaled : greatest.value =
      ((configuration.maxDiscountRate.toNat * 10 ^ 4 : ℕ) : ℚ) / 10 ^ 8 := by
    rw [greatest_value]
    push_cast
    ring
  rw [lawful.minimum_value, raised_value, sum, greatest_scaled,
    min_div_div_right (by positivity), ConfigurationRegistry.discountAfter,
    DutchAuction.discount_eq_min valid.discounts_le, Nat.cast_min]

/-- The discounted rate is computed without rounding before its final truncation. -/
theorem discountedRate_exact (lawful : decimal.Lawful rounding)
    {swapRate one discount units : Decimal} {rate : UInt64} {parts : ℕ} (parts_le : parts ≤ 10 ^ 8)
    (swapRate_value : swapRate.value = rate.toNat / 10 ^ 8) (one_value : one.value = 1)
    (discount_value : discount.value = parts / 10 ^ 8) (units_value : units.value = 10 ^ 8) :
    ∃ inverse conversion scaled price, decimal.checkedSub one discount = some inverse ∧
      decimal.checkedMul swapRate inverse = some conversion ∧
      decimal.checkedMul conversion units = some scaled ∧ decimal.toU64 scaled = some price ∧
      price.toNat = DutchAuction.price (10 ^ 8) rate.toNat parts := by
  have rate_lt := u64_lt rate
  have difference : one.value - discount.value = ((10 ^ 8 - parts : ℕ) : ℚ) / 10 ^ 8 := by
    rw [one_value, discount_value, Nat.cast_sub parts_le]
    push_cast
    ring
  have inverse_representable : Representable (one.value - discount.value) := by
    rw [difference]
    exact representable_of_nat (by omega) (by omega)
  obtain ⟨inverse, subtracted, inverse_value⟩ := lawful.checkedSub_exact inverse_representable
  have product_le : rate.toNat * (10 ^ 8 - parts) ≤ rate.toNat * 10 ^ 8 :=
    Nat.mul_le_mul_left _ (Nat.sub_le _ _)
  have product : swapRate.value * inverse.value =
      ((rate.toNat * (10 ^ 8 - parts) : ℕ) : ℚ) / 10 ^ 16 := by
    rw [swapRate_value, inverse_value, difference]
    push_cast
    ring
  have conversion_representable : Representable (swapRate.value * inverse.value) := by
    rw [product]
    exact representable_of_nat (by omega) (by omega)
  obtain ⟨conversion, multiplied, conversion_value⟩ :=
    lawful.checkedMul_exact conversion_representable
  have rescaled : conversion.value * units.value =
      ((rate.toNat * (10 ^ 8 - parts) : ℕ) : ℚ) / 10 ^ 8 := by
    rw [conversion_value, product, units_value]
    ring
  have scaled_representable : Representable (conversion.value * units.value) := by
    rw [rescaled]
    exact representable_of_nat (by omega) (by omega)
  obtain ⟨scaled, scaled_eq, scaled_value⟩ := lawful.checkedMul_exact scaled_representable
  rw [rescaled] at scaled_value
  have floor_eq : ⌊scaled.value⌋₊ = DutchAuction.price (10 ^ 8) rate.toNat parts := by
    rw [scaled_value, DutchAuction.price]
    exact_mod_cast Nat.floor_div_eq_div (K := ℚ) (rate.toNat * (10 ^ 8 - parts)) (10 ^ 8)
  have price_lt : DutchAuction.price (10 ^ 8) rate.toNat parts < 2 ^ 64 :=
    Nat.lt_of_le_of_lt DutchAuction.price_le rate_lt
  obtain ⟨price, narrowed, price_eq⟩ := toU64_of_lt price_lt
  refine ⟨inverse, conversion, scaled, price, subtracted, multiplied, scaled_eq, ?_, price_eq⟩
  rw [lawful.toU64_truncates scaled (by rw [scaled_value]; positivity), floor_eq]
  exact narrowed

/-- Under a valid configuration the computed price is the documented one. -/
theorem conversionRate_of_valid (lawful : decimal.Lawful rounding)
    {configuration : ConfigurationRegistry} (valid : configuration.Valid)
    (oraclePriceData : OraclePriceData) {sLast sNow : UInt64} (ordered : sLast ≤ sNow) :
    ∃ price, configuration.conversionRate decimal oraclePriceData sLast sNow = .ok price ∧
      price.toNat = configuration.priceAfter oraclePriceData.swapRate.toNat
        (sNow.toNat - sLast.toNat) := by
  obtain ⟨units, units_eq, units_value⟩ := units_decimal lawful
  obtain ⟨points, points_eq, points_value⟩ := basisPoints_decimal lawful
  obtain ⟨one, one_eq, one_value⟩ := lawful.ofU64_value 1
  obtain ⟨coefficient, coefficientDecimal, coefficient_eq, coefficient_div, coefficient_value⟩ :=
    divide_word lawful units_value (by omega) configuration.coefficient
  obtain ⟨greatest, greatestDecimal, greatest_eq, greatest_div, greatest_value⟩ :=
    divide_word lawful points_value (by omega) configuration.maxDiscountRate
  obtain ⟨least, leastDecimal, least_eq, least_div, least_value⟩ :=
    divide_word lawful points_value (by omega) configuration.minDiscountRate
  obtain ⟨swapRate, swapRateDecimal, swapRate_eq, swapRate_div, swapRate_value⟩ :=
    divide_word lawful units_value (by omega) oraclePriceData.swapRate
  obtain ⟨sDiff, subtracted⟩ : ∃ sDiff, subU64 sNow sLast = some sDiff := by
    cases result : subU64 sNow sLast with
    | none => exact absurd (subU64_eq_none.mp result) (Nat.not_lt.mpr ordered)
    | some sDiff => exact ⟨sDiff, rfl⟩
  have sDiff_eq : sNow.toNat - sLast.toNat = sDiff.toNat := by
    have split := subU64_eq_some.mp subtracted
    omega
  obtain ⟨slots, slots_eq, slots_value⟩ := lawful.ofU64_value sDiff
  obtain ⟨grown, raised, multiplied, added, discount_value⟩ := discountRate_exact lawful valid
    coefficient_value greatest_value least_value slots_value
  obtain ⟨inverse, conversion, scaled, price, inverted, converted, scaled_eq, truncated,
      price_value⟩ := discountedRate_exact lawful (valid.discountAfter_le sDiff.toNat)
    swapRate_value (by simpa using one_value) discount_value units_value
  refine ⟨price, ?_, by rw [price_value, sDiff_eq, ConfigurationRegistry.priceAfter]⟩
  rw [tokenUnits] at units_eq
  simp [ConfigurationRegistry.conversionRate, calculateConversionRate, orNone, orPanic, orFail,
    tokenUnits, units_eq, points_eq, one_eq, coefficient_eq, coefficient_div, greatest_eq,
    greatest_div, least_eq, least_div, swapRate_eq, swapRate_div, subtracted, slots_eq, multiplied,
    added, inverted, converted, scaled_eq, truncated]

/-- Before the slot of the last trade there is no price. -/
theorem conversionRate_of_lt (lawful : decimal.Lawful rounding)
    (configuration : ConfigurationRegistry) (oraclePriceData : OraclePriceData)
    {sLast sNow : UInt64} (reversed : sNow < sLast) :
    configuration.conversionRate decimal oraclePriceData sLast sNow = .error .none := by
  obtain ⟨units, units_eq, units_value⟩ := units_decimal lawful
  obtain ⟨points, points_eq, points_value⟩ := basisPoints_decimal lawful
  obtain ⟨coefficient, coefficientDecimal, coefficient_eq, coefficient_div, -⟩ :=
    divide_word lawful units_value (by omega) configuration.coefficient
  obtain ⟨greatest, greatestDecimal, greatest_eq, greatest_div, -⟩ :=
    divide_word lawful points_value (by omega) configuration.maxDiscountRate
  obtain ⟨least, leastDecimal, least_eq, least_div, -⟩ :=
    divide_word lawful points_value (by omega) configuration.minDiscountRate
  have underflow : subU64 sNow sLast = none := subU64_eq_none.mpr reversed
  rw [tokenUnits] at units_eq
  simp [ConfigurationRegistry.conversionRate, calculateConversionRate, orNone, orPanic, orFail,
    units_eq, points_eq, coefficient_eq, coefficient_div, greatest_eq, greatest_div, least_eq,
    least_div, underflow]

end Exact

end SolConversion.OnChain
