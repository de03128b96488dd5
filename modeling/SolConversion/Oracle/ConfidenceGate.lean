import Mathlib.Tactic.Linarith
import SolConversion.Oracle.SwapRate

/-!
# The confidence gate

A rate is refused when the uncertainties of the two prices, each relative to its price, add up to
more than the maximum.  The sum is compared and nothing else is, so a negative price makes room for
any uncertainty of the other one, and a price of zero leaves nothing to compare.
-/

namespace SolConversion.Oracle

open Fallible ScriptNumber

/-- Division by zero is undefined, whatever is divided. -/
def undefinedDiv (left right : Number) : Number :=
  match left.operand, right.operand with
  | .finite left, .finite right => if right = 0 then .nan else .finite (left / right)
  | _, _ => .nan

/-- Quotients are exact as long as the divisor is not zero. -/
def DividesExactly (divide : Number → Number → Number) : Prop :=
  ∀ left right : ℚ, right ≠ 0 → divide (.finite left) (.finite right) = .finite (left / right)

theorem dividesExactly_undefinedDiv : DividesExactly undefinedDiv := by
  intro left right nonzero
  simp [undefinedDiv, Number.operand, nonzero]

theorem dividesExactly_div : DividesExactly (Number.div .exact) := by
  intro left right nonzero
  simp [Number.div, Number.operand, Arithmetic.exact, nonzero]

/-- The number that a feed says. -/
def Amount.toNumber (arithmetic : Arithmetic) : Amount → Number
  | .text digits => parseInt arithmetic.round digits
  | .number value => value

/-- The response of a feed is accepted, with integers for price and confidence. -/
structure Quotes (feedID : String) (response : Option PriceUpdate) (priceData : PriceData)
    (price confidence : ℤ) : Prop where
  accepted : validatePriceData feedID response = .ok priceData
  price_eq : priceData.price.toNumber .exact = .finite price
  confidence_eq : priceData.confidence.toNumber .exact = .finite confidence
  nonneg : 0 ≤ confidence

/-- The price was published too long ago. -/
def TooOld (config : OracleConfig) (now : ℤ) (priceData : PriceData) : Prop :=
  ∃ time, priceData.publishTime = some time ∧ config.maxPriceAge < now - time

/-- The uncertainties of two prices relative to the prices. -/
def combinedRatio (solPrice solConfidence twozPrice twozConfidence : ℤ) : ℚ :=
  solConfidence / solPrice + twozConfidence / twozPrice

/-- A rate is returned for positive prices of sufficient certainty only. -/
def GateSound (divide : Number → Number → Number) (config : OracleConfig) (now : ℤ)
    (solPriceData twozPriceData : PriceData)
    (solPrice solConfidence twozPrice twozConfidence : ℤ) (maximum : ℚ) : Prop :=
  ∀ rate, swapRateCalculationWith .exact config now divide solPriceData twozPriceData = .ok rate →
    0 < solPrice ∧ 0 < twozPrice ∧
      combinedRatio solPrice solConfidence twozPrice twozConfidence ≤ maximum

theorem gateSound_iff {divide : Number → Number → Number} {config : OracleConfig} {now : ℤ}
    {solPriceData twozPriceData : PriceData}
    {solPrice solConfidence twozPrice twozConfidence : ℤ} {maximum : ℚ} :
    GateSound divide config now solPriceData twozPriceData solPrice solConfidence twozPrice
        twozConfidence maximum ↔
      ((∃ rate, swapRateCalculationWith .exact config now divide solPriceData twozPriceData =
        .ok rate) → 0 < solPrice ∧ 0 < twozPrice ∧
          combinedRatio solPrice solConfidence twozPrice twozConfidence ≤ maximum) := by
  rw [GateSound, exists_imp]

theorem convertPrice_exact {amount : Amount} {value : ℤ} (exponent : ℤ)
    (value_eq : amount.toNumber .exact = .finite value) :
    convertPrice .exact amount exponent = .finite (value * 10 ^ exponent) := by
  have converted : convertPrice .exact amount exponent =
      (amount.toNumber .exact).mul .exact (.finite (10 ^ exponent)) := by
    cases amount with
    | text digits => rfl
    | number value => rfl
  rw [converted, value_eq]
  rfl

private theorem publishTime_of_validatePriceData {feedID : String} {response : Option PriceUpdate}
    {priceData : PriceData} (accepted : validatePriceData feedID response = .ok priceData) :
    ∃ time, priceData.publishTime = some time ∧ time ≠ 0 := by
  simp only [validatePriceData, bind_eq_ok, orFail_eq_ok, truthy_eq_some, pure_eq_ok] at accepted
  obtain ⟨_, _, _, _, _, _, _, _, _, _, _, _, time, ⟨_, nonzero⟩, rfl⟩ := accepted
  exact ⟨time, rfl, nonzero⟩

variable {divide : Number → Number → Number} {config : OracleConfig} {now : ℤ}
  {solFeedID twozFeedID : String} {solResponse twozResponse : Option PriceUpdate}
  {solPriceData twozPriceData : PriceData}
  {solPrice solConfidence twozPrice twozConfidence : ℤ} {maximum : ℚ}

theorem Quotes.checkPublishTime_iff (quotes : Quotes solFeedID solResponse solPriceData solPrice
    solConfidence) (symbol feedId : String) :
    (∃ time, checkPublishTime config now symbol feedId solPriceData.publishTime = .ok time) ↔
      ¬TooOld config now solPriceData := by
  obtain ⟨time, set, nonzero⟩ := publishTime_of_validatePriceData quotes.accepted
  simp [checkPublishTime_eq_ok, TooOld, set, nonzero]

private theorem scaled_div (confidence price exponent : ℤ) :
    (confidence * 10 ^ exponent : ℚ) / (price * 10 ^ exponent) = confidence / price :=
  mul_div_mul_right _ _ (zpow_ne_zero exponent (by norm_num))

private theorem scaled_ne_zero {price : ℤ} (exponent : ℤ) (nonzero : price ≠ 0) :
    (price * 10 ^ exponent : ℚ) ≠ 0 :=
  mul_ne_zero (Int.cast_ne_zero.mpr nonzero) (zpow_ne_zero exponent (by norm_num))

/-- The ratio of a quote whose price is not zero. -/
theorem DividesExactly.ratio (exactly : DividesExactly divide) (exponent : ℤ)
    (nonzero : solPrice ≠ 0) :
    divide (.finite (solConfidence * 10 ^ exponent)) (.finite (solPrice * 10 ^ exponent)) =
      .finite (solConfidence / solPrice) := by
  rw [exactly _ _ (scaled_ne_zero exponent nonzero), scaled_div]

section Gate

variable (sol : Quotes solFeedID solResponse solPriceData solPrice solConfidence)
  (twoz : Quotes twozFeedID twozResponse twozPriceData twozPrice twozConfidence)
  (maximum_eq : config.maxConfidenceRatio = .finite maximum)

include sol twoz maximum_eq

/-- A rate is returned for recent prices whose combined ratio does not exceed the maximum. -/
theorem returns_iff :
    (∃ rate, swapRateCalculationWith .exact config now divide solPriceData twozPriceData =
      .ok rate) ↔
    ¬TooOld config now solPriceData ∧ ¬TooOld config now twozPriceData ∧
      ((divide (.finite (solConfidence * 10 ^ solPriceData.exponent))
          (.finite (solPrice * 10 ^ solPriceData.exponent))).add .exact
        (divide (.finite (twozConfidence * 10 ^ twozPriceData.exponent))
          (.finite (twozPrice * 10 ^ twozPriceData.exponent)))).greater (.finite maximum) =
        false := by
  rw [← sol.checkPublishTime_iff "SOL" "SOL/USD", ← twoz.checkPublishTime_iff "2Z" "2Z/USD"]
  simp only [swapRateCalculationWith, bind_eq_ok, require_eq_ok, pure_eq_ok,
    convertPrice_exact _ sol.price_eq, convertPrice_exact _ sol.confidence_eq,
    convertPrice_exact _ twoz.price_eq, convertPrice_exact _ twoz.confidence_eq, maximum_eq]
  constructor
  · rintro ⟨_, solTime, sol_checked, twozTime, twoz_checked, _, passed, _⟩
    exact ⟨⟨solTime, sol_checked⟩, ⟨twozTime, twoz_checked⟩, passed⟩
  · rintro ⟨⟨solTime, sol_checked⟩, ⟨twozTime, twoz_checked⟩, passed⟩
    exact ⟨_, solTime, sol_checked, twozTime, twoz_checked, (), passed, rfl⟩

theorem returns_iff_of_ne_zero (exactly : DividesExactly divide) (sol_nonzero : solPrice ≠ 0)
    (twoz_nonzero : twozPrice ≠ 0) :
    (∃ rate, swapRateCalculationWith .exact config now divide solPriceData twozPriceData =
      .ok rate) ↔
    ¬TooOld config now solPriceData ∧ ¬TooOld config now twozPriceData ∧
      combinedRatio solPrice solConfidence twozPrice twozConfidence ≤ maximum := by
  rw [returns_iff sol twoz maximum_eq, exactly.ratio _ sol_nonzero, exactly.ratio _ twoz_nonzero]
  simp [Number.add, Number.greater, Number.operand, Arithmetic.exact, combinedRatio]

private theorem returns_iff_of_eq_zero (zero : solPrice = 0 ∨ twozPrice = 0) :
    (∃ rate, swapRateCalculationWith .exact config now undefinedDiv solPriceData twozPriceData =
      .ok rate) ↔
    ¬TooOld config now solPriceData ∧ ¬TooOld config now twozPriceData := by
  rw [returns_iff sol twoz maximum_eq]
  have undefined (confidence exponent : ℤ) :
      undefinedDiv (.finite (confidence * 10 ^ exponent)) (.finite ((0 : ℤ) * 10 ^ exponent)) =
        .nan := by
    simp [undefinedDiv, Number.operand]
  have not_greater : ((undefinedDiv (.finite (solConfidence * 10 ^ solPriceData.exponent))
        (.finite (solPrice * 10 ^ solPriceData.exponent))).add .exact
      (undefinedDiv (.finite (twozConfidence * 10 ^ twozPriceData.exponent))
        (.finite (twozPrice * 10 ^ twozPriceData.exponent)))).greater (.finite maximum) =
      false := by
    rcases zero with rfl | rfl
    · rw [undefined]
      rfl
    · rw [undefined]
      cases undefinedDiv (.finite (solConfidence * 10 ^ solPriceData.exponent))
        (.finite (solPrice * 10 ^ solPriceData.exponent)) with
      | finite | infinite | nan | null => rfl
  simp [not_greater]

/-- The gate is sound unless recent prices pass it of which one is not positive. -/
theorem confidence_gate_sound_iff :
    GateSound undefinedDiv config now solPriceData twozPriceData solPrice solConfidence twozPrice
        twozConfidence maximum ↔
      TooOld config now solPriceData ∨ TooOld config now twozPriceData ∨
        (0 < solPrice ∧ 0 < twozPrice) ∨
        (solPrice ≠ 0 ∧ twozPrice ≠ 0 ∧
          maximum < combinedRatio solPrice solConfidence twozPrice twozConfidence) := by
  rw [gateSound_iff]
  by_cases zero : solPrice = 0 ∨ twozPrice = 0
  · rw [returns_iff_of_eq_zero sol twoz maximum_eq zero]
    rcases zero with rfl | rfl
    · simp only [lt_self_iff_false, ne_eq, not_true_eq_false, false_and, or_false]
      tauto
    · simp only [lt_self_iff_false, ne_eq, not_true_eq_false, false_and, and_false, or_false]
      tauto
  · obtain ⟨sol_nonzero, twoz_nonzero⟩ := not_or.mp zero
    rw [returns_iff_of_ne_zero sol twoz maximum_eq dividesExactly_undefinedDiv sol_nonzero
      twoz_nonzero, ← @not_le _ _ (combinedRatio _ _ _ _)]
    tauto

end Gate

/-- The answer of a feed with a price published at one second. -/
def responseAtOne (price conf : String) (expo : ℤ) : Option PriceUpdate :=
  some ⟨some [some ⟨some (.text price), some (.text conf), some expo, some 1⟩]⟩

def priceDataAtOne (price conf : String) (expo : ℤ) : PriceData :=
  ⟨.text conf, .text price, expo, some 1⟩

def twoPercentConfig : OracleConfig := ⟨.finite (1 / 50), none⟩

theorem quotes_negative : Quotes "SOL" (responseAtOne "-5" "4" (-8)) (priceDataAtOne "-5" "4" (-8))
    (-5) 4 where
  accepted := by rfl
  price_eq := by decide
  confidence_eq := by decide
  nonneg := by decide

theorem quotes_positive : Quotes "2Z" (responseAtOne "10" "8" (-8)) (priceDataAtOne "10" "8" (-8))
    10 8 where
  accepted := by rfl
  price_eq := by decide
  confidence_eq := by decide
  nonneg := by decide

theorem not_tooOld_atOne {price conf : String} {expo : ℤ} :
    ¬TooOld twoPercentConfig 1 (priceDataAtOne price conf expo) := by
  rintro ⟨time, set, old⟩
  obtain rfl := Option.some.inj set
  contradiction

theorem exists_rate_of_negative {divide : Number → Number → Number}
    (exactly : DividesExactly divide) :
    ∃ rate, swapRateCalculationWith .exact twoPercentConfig 1 divide
      (priceDataAtOne "-5" "4" (-8)) (priceDataAtOne "10" "8" (-8)) = .ok rate :=
  (returns_iff_of_ne_zero quotes_negative quotes_positive rfl exactly (by decide)
    (by decide)).mpr ⟨not_tooOld_atOne, not_tooOld_atOne, by norm_num [combinedRatio]⟩

theorem confidence_gate_unsound :
    Quotes "SOL" (responseAtOne "-5" "4" (-8)) (priceDataAtOne "-5" "4" (-8)) (-5) 4 ∧
    Quotes "2Z" (responseAtOne "10" "8" (-8)) (priceDataAtOne "10" "8" (-8)) 10 8 ∧
    ¬GateSound undefinedDiv twoPercentConfig 1 (priceDataAtOne "-5" "4" (-8))
      (priceDataAtOne "10" "8" (-8)) (-5) 4 10 8 (1 / 50) ∧
    ¬GateSound (Number.div .exact) twoPercentConfig 1 (priceDataAtOne "-5" "4" (-8))
      (priceDataAtOne "10" "8" (-8)) (-5) 4 10 8 (1 / 50) := by
  refine ⟨quotes_negative, quotes_positive, fun sound => ?_, fun sound => ?_⟩
  · have positive := (gateSound_iff.mp sound (exists_rate_of_negative
      dividesExactly_undefinedDiv)).1
    contradiction
  · have positive := (gateSound_iff.mp sound (exists_rate_of_negative dividesExactly_div)).1
    contradiction

theorem confidence_gate_sound_positive :
    GateSound undefinedDiv twoPercentConfig 1 (priceDataAtOne "10" "8" (-8))
      (priceDataAtOne "10" "8" (-8)) 10 8 10 8 (1 / 50) :=
  (confidence_gate_sound_iff quotes_positive quotes_positive rfl).mpr
    (.inr (.inr (.inl ⟨by decide, by decide⟩)))

section Script

variable (sol : Quotes solFeedID solResponse solPriceData solPrice solConfidence)
  (twoz : Quotes twozFeedID twozResponse twozPriceData twozPrice twozConfidence)

private theorem ratio_of_zero (exponent : ℤ) (positive : 0 < solConfidence) :
    Number.div .exact (.finite (solConfidence * 10 ^ exponent))
      (.finite ((0 : ℤ) * 10 ^ exponent)) = .infinite false := by
  have scaled : (0 : ℚ) < solConfidence * 10 ^ exponent :=
    mul_pos (Int.cast_pos.mpr positive) (zpow_pos (by norm_num) exponent)
  simp [Number.div, Number.operand, scaled.ne', scaled.le]

private theorem ratio_of_zero_zero (exponent : ℤ) :
    Number.div .exact (.finite ((0 : ℤ) * 10 ^ exponent)) (.finite ((0 : ℤ) * 10 ^ exponent)) =
      .nan := by
  simp [Number.div, Number.operand]

include sol in
/-- The ratio of a quote is undefined, infinite or a number. -/
theorem ratio_cases :
    (solPrice = 0 ∧ solConfidence = 0 ∧
        Number.div .exact (.finite (solConfidence * 10 ^ solPriceData.exponent))
          (.finite (solPrice * 10 ^ solPriceData.exponent)) = .nan) ∨
      (solPrice = 0 ∧ solConfidence ≠ 0 ∧
        Number.div .exact (.finite (solConfidence * 10 ^ solPriceData.exponent))
          (.finite (solPrice * 10 ^ solPriceData.exponent)) = .infinite false) ∨
      (solPrice ≠ 0 ∧
        Number.div .exact (.finite (solConfidence * 10 ^ solPriceData.exponent))
          (.finite (solPrice * 10 ^ solPriceData.exponent)) =
            .finite (solConfidence / solPrice)) := by
  by_cases zero : solPrice = 0
  · subst zero
    rcases sol.nonneg.eq_or_lt with rfl | positive
    · exact .inl ⟨rfl, rfl, ratio_of_zero_zero _⟩
    · exact .inr (.inl ⟨rfl, positive.ne', ratio_of_zero _ positive⟩)
  · exact .inr (.inr ⟨zero, dividesExactly_div.ratio _ zero⟩)

include sol twoz in
/-- The language divides by zero, so a price of zero passes only without any uncertainty. -/
theorem script_gate_passes_iff :
    ((Number.div .exact (.finite (solConfidence * 10 ^ solPriceData.exponent))
        (.finite (solPrice * 10 ^ solPriceData.exponent))).add .exact
      (Number.div .exact (.finite (twozConfidence * 10 ^ twozPriceData.exponent))
        (.finite (twozPrice * 10 ^ twozPriceData.exponent)))).greater (.finite maximum) = false ↔
      (solPrice = 0 ∧ solConfidence = 0) ∨ (twozPrice = 0 ∧ twozConfidence = 0) ∨
        (solPrice ≠ 0 ∧ twozPrice ≠ 0 ∧
          combinedRatio solPrice solConfidence twozPrice twozConfidence ≤ maximum) := by
  rcases ratio_cases sol with ⟨sol_zero, sol_sure, sol_ratio⟩ | ⟨sol_zero, sol_unsure, sol_ratio⟩ |
      ⟨sol_nonzero, sol_ratio⟩
  · rw [sol_ratio]
    simp [Number.add, Number.greater, Number.operand, sol_zero, sol_sure]
  · rcases ratio_cases twoz with ⟨twoz_zero, twoz_sure, twoz_ratio⟩ |
        ⟨twoz_zero, twoz_unsure, twoz_ratio⟩ | ⟨twoz_nonzero, twoz_ratio⟩
    · rw [sol_ratio, twoz_ratio]
      simp [Number.add, Number.greater, Number.operand, twoz_zero, twoz_sure]
    · rw [sol_ratio, twoz_ratio]
      simp [Number.add, Number.greater, Number.operand, sol_zero, sol_unsure, twoz_unsure]
    · rw [sol_ratio, twoz_ratio]
      simp [Number.add, Number.greater, Number.operand, sol_zero, sol_unsure, twoz_nonzero]
  · rcases ratio_cases twoz with ⟨twoz_zero, twoz_sure, twoz_ratio⟩ |
        ⟨twoz_zero, twoz_unsure, twoz_ratio⟩ | ⟨twoz_nonzero, twoz_ratio⟩
    · rw [sol_ratio, twoz_ratio]
      simp [Number.add, Number.greater, Number.operand, twoz_zero, twoz_sure]
    · rw [sol_ratio, twoz_ratio]
      simp [Number.add, Number.greater, Number.operand, sol_nonzero, twoz_zero, twoz_unsure]
    · rw [sol_ratio, twoz_ratio]
      simp [Number.add, Number.greater, Number.operand, Arithmetic.exact, combinedRatio,
        sol_nonzero, twoz_nonzero]

include sol twoz in
/-- The service itself refuses a price of zero unless it comes without any uncertainty. -/
theorem swapRateCalculation_ok_iff (maximum_eq : config.maxConfidenceRatio = .finite maximum) :
    (∃ rate, swapRateCalculation .exact config now solPriceData twozPriceData = .ok rate) ↔
      ¬TooOld config now solPriceData ∧ ¬TooOld config now twozPriceData ∧
        ((solPrice = 0 ∧ solConfidence = 0) ∨ (twozPrice = 0 ∧ twozConfidence = 0) ∨
          (solPrice ≠ 0 ∧ twozPrice ≠ 0 ∧
            combinedRatio solPrice solConfidence twozPrice twozConfidence ≤ maximum)) := by
  rw [swapRateCalculation, returns_iff sol twoz maximum_eq,
    script_gate_passes_iff sol twoz]

end Script

end SolConversion.Oracle
