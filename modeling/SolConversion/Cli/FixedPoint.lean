import SolConversion.Foundation.DecimalLiteral
import SolConversion.Foundation.Fallible

/-!
# Amounts as decimal numbers

Amounts are typed and shown in whole tokens and handled in their smallest units.  Reading an amount
multiplies it out and truncates it, and showing one divides it; neither step rounds.  A text that is
no number is reported, while a number that no word holds aborts the tool.
-/

namespace SolConversion.Cli

open DecimalFormat Fallible

/-- How the handling of an amount fails: with an error that is returned, with an expectation that
is not met, or in an operator of the library. -/
inductive AmountFailure
  | error (message : String)
  | unmet (message : String)
  | operator
  deriving DecidableEq

/-- The tool is aborted. -/
def AmountFailure.Panics : AmountFailure → Prop
  | .error _ => False
  | .unmet _ => True
  | .operator => True

def tokenUnits : UInt64 := 100000000

def lamportsPerSol : UInt64 := 1000000000

/-- The number of units in a text. -/
def parseValue (library : Library) (units : UInt64) (expectation text : String) :
    Except AmountFailure UInt64 := do
  let multiplier := library.ofWord units
  let amountInput ← mapFailure .error (library.fromStr text)
  let product ← orFail .operator (library.checkedMul amountInput multiplier)
  orFail (.unmet expectation) (library.toU64 product)

/-- A number of units as a decimal. -/
def convertValue (library : Library) (units : UInt64) (expectation : String) (amount : UInt64) :
    Except AmountFailure Decimal := do
  let dividend ← orFail (.unmet expectation) (library.ofU64 amount)
  let divisor ← orFail (.unmet "called `Option::unwrap()` on a `None` value") (library.ofU64 units)
  orFail .operator (library.divide dividend divisor)

/-- `parse_token_value` -/
def parseTokenValue (library : Library) (tokenValue : String) : Except AmountFailure UInt64 :=
  parseValue library tokenUnits "Token value overflow or conversion failed" tokenValue

/-- `parse_sol_value` -/
def parseSolValue (library : Library) (solValue : String) : Except AmountFailure UInt64 :=
  parseValue library lamportsPerSol "Sol value overflow or conversion failed" solValue

/-- `convert_sol_value` -/
def convertSolValue (library : Library) (solAmount : UInt64) : Except AmountFailure Decimal :=
  convertValue library lamportsPerSol "Invalid sol value" solAmount

/-- `convert_token_value` -/
def convertTokenValue (library : Library) (tokenAmount : UInt64) : Except AmountFailure Decimal :=
  convertValue library tokenUnits "Invalid token value" tokenAmount

theorem tokenUnits_toNat : tokenUnits.toNat = 10 ^ 8 := rfl

theorem lamportsPerSol_toNat : lamportsPerSol.toNat = 10 ^ 9 := rfl

section Reading

variable {library : Library} {rounding : Rounding} {units : UInt64} {places : ℕ}
variable {text : String} {number : Decimal} (expectation : String)

private theorem parseValue_of_error {message : String}
    (refused : library.fromStr text = .error message) :
    parseValue library units expectation text = .error (.error message) := by
  simp [parseValue, refused, mapFailure]

/-- A product with a narrow integer part is exact, however many digits the number has. -/
theorem parseValue_of_narrow (lawful : library.Lawful rounding)
    (units_eq : units.toNat = 10 ^ places) (accepted : library.fromStr text = .ok number)
    (narrow : |number.value * 10 ^ places| < 2 ^ 96) :
    ∃ product : Decimal, product.value = number.value * 10 ^ places ∧
      parseValue library units expectation text =
        orFail (.unmet expectation) (library.toU64 product) := by
  have multiplier_eq : (library.ofWord units).value = 10 ^ places := by
    rw [lawful.ofWord_value, units_eq]
    push_cast
    rfl
  have representable : Representable (number.value * (library.ofWord units).value) := by
    rw [multiplier_eq]
    exact representable_shifted narrow
  obtain ⟨product, multiplied, value_eq⟩ := lawful.checkedMul_exact representable
  refine ⟨product, by rw [value_eq, multiplier_eq], ?_⟩
  simp [parseValue, accepted, multiplied, mapFailure]

private theorem parseValue_of_wide (lawful : library.Lawful rounding)
    (units_eq : units.toNat = 10 ^ places) (accepted : library.fromStr text = .ok number)
    (wide : 2 ^ 96 ≤ |number.value * 10 ^ places|) :
    parseValue library units expectation text = .error .operator := by
  have overflow : library.checkedMul number (library.ofWord units) = none := by
    apply lawful.checkedMul_eq_none
    rw [lawful.ofWord_value, units_eq]
    push_cast
    exact wide
  simp [parseValue, accepted, overflow, mapFailure, orFail]

theorem parseValue_of_lt (lawful : library.Lawful rounding)
    (units_eq : units.toNat = 10 ^ places) (accepted : library.fromStr text = .ok number)
    (nonneg : 0 ≤ number.value * 10 ^ places) (small : number.value * 10 ^ places < 2 ^ 64) :
    ∃ word, parseValue library units expectation text = .ok word ∧
      word.toNat = ⌊number.value * 10 ^ places⌋₊ := by
  have narrow : |number.value * 10 ^ places| < 2 ^ 96 := by
    rw [abs_of_nonneg nonneg]
    exact small.trans (by norm_num)
  obtain ⟨product, product_eq, parsed⟩ :=
    parseValue_of_narrow expectation lawful units_eq accepted narrow
  rw [← product_eq] at nonneg small
  obtain ⟨word, truncated, word_eq⟩ := lawful.toU64_of_lt nonneg small
  refine ⟨word, ?_, by rw [word_eq, product_eq]⟩
  rw [parsed, truncated, orFail_some]

theorem parseValue_panics (lawful : library.Lawful rounding)
    (units_eq : units.toNat = 10 ^ places) (accepted : library.fromStr text = .ok number)
    (refused : ∀ product : Decimal, product.value = number.value * 10 ^ places →
      library.toU64 product = none) :
    ∃ failure, parseValue library units expectation text = .error failure ∧ failure.Panics := by
  obtain narrow | wide := lt_or_ge |number.value * 10 ^ places| (2 ^ 96)
  · obtain ⟨product, product_eq, parsed⟩ :=
      parseValue_of_narrow expectation lawful units_eq accepted narrow
    refine ⟨.unmet expectation, ?_, trivial⟩
    rw [parsed, refused product product_eq]
    rfl
  · exact ⟨.operator, parseValue_of_wide expectation lawful units_eq accepted wide, trivial⟩

private theorem parseValue_of_fraction (lawful : library.Lawful rounding)
    (units_eq : units.toNat = 10 ^ places) (accepted : library.fromStr text = .ok number)
    (above : -1 < number.value * 10 ^ places) (negative : number.value * 10 ^ places < 0) :
    parseValue library units expectation text =
      orFail (.unmet expectation) library.negativeFraction := by
  have narrow : |number.value * 10 ^ places| < 2 ^ 96 := by
    rw [abs_of_neg negative]
    linarith
  obtain ⟨product, product_eq, parsed⟩ :=
    parseValue_of_narrow expectation lawful units_eq accepted narrow
  rw [← product_eq] at above negative
  rw [parsed, lawful.toU64_fraction product above negative]

end Reading

section Showing

variable {library : Library} {rounding : Rounding} {units : UInt64} {places : ℕ}

private theorem convertValue_eq_ok (lawful : library.Lawful rounding)
    (units_eq : units.toNat = 10 ^ places) (places_le : places ≤ 28) (expectation : String)
    (amount : UInt64) :
    ∃ value, convertValue library units expectation amount = .ok value ∧
      value.value = amount.toNat / 10 ^ places := by
  obtain ⟨dividend, dividend_some, dividend_eq⟩ := lawful.ofU64_value amount
  obtain ⟨divisor, divisor_some, divisor_eq⟩ := lawful.ofU64_value units
  rw [units_eq] at divisor_eq
  push_cast at divisor_eq
  have nonzero : divisor.value ≠ 0 := by
    rw [divisor_eq]
    positivity
  have representable : Representable (dividend.value / divisor.value) := by
    rw [dividend_eq, divisor_eq]
    exact representable_of_nat (amount.toNat_lt.trans (by norm_num)) places_le
  obtain ⟨quotient, divided, quotient_eq⟩ := lawful.divide_representable nonzero representable
  refine ⟨quotient, ?_, by rw [quotient_eq, dividend_eq, divisor_eq]⟩
  simp [convertValue, dividend_some, divisor_some, divided]

/-- What is shown of an amount is read as that amount. -/
theorem parseValue_display (lawful : library.Lawful rounding)
    (units_eq : units.toNat = 10 ^ places) (places_le : places ≤ 28) (shown read : String)
    (amount : UInt64) :
    ∃ value, convertValue library units shown amount = .ok value ∧
      parseValue library units read (library.display value) = .ok amount := by
  obtain ⟨value, converted, value_eq⟩ := convertValue_eq_ok lawful units_eq places_le shown amount
  obtain ⟨restored, accepted, restored_eq⟩ := lawful.fromStr_display value
  have scaled_eq : restored.value * 10 ^ places = amount.toNat := by
    rw [restored_eq, value_eq, div_mul_cancel₀ _ (ten_pow_ne_zero places)]
  have small : restored.value * 10 ^ places < 2 ^ 64 := by
    rw [scaled_eq]
    exact_mod_cast amount.toNat_lt
  obtain ⟨word, parsed, word_eq⟩ := parseValue_of_lt read lawful units_eq accepted
    (by rw [scaled_eq]; positivity) small
  refine ⟨value, converted, ?_⟩
  rw [scaled_eq, Nat.floor_natCast] at word_eq
  rw [parsed, UInt64.toNat_inj.mp word_eq]

theorem parseValue_literal (lawful : library.Lawful rounding)
    (units_eq : units.toNat = 10 ^ places) (expectation : String) {text : String} {number : ℚ}
    (literal : decimalValue text = some number) (representable : Representable number)
    (nonneg : 0 ≤ number * 10 ^ places) (small : number * 10 ^ places < 2 ^ 64) :
    ∃ word, parseValue library units expectation text = .ok word ∧
      word.toNat = ⌊number * 10 ^ places⌋₊ := by
  obtain ⟨decimal, accepted, rfl⟩ := lawful.fromStr_value text number literal representable
  exact parseValue_of_lt expectation lawful units_eq accepted nonneg small

end Showing

/-- Amounts are shown and read back unchanged, and every amount that is typed is rounded down. -/
theorem amounts_read_back {library : Library} {rounding : Rounding}
    (lawful : library.Lawful rounding) :
    (∀ amount, ∃ value, convertTokenValue library amount = .ok value ∧
        parseTokenValue library (library.display value) = .ok amount) ∧
      (∀ amount, ∃ value, convertSolValue library amount = .ok value ∧
        parseSolValue library (library.display value) = .ok amount) ∧
      (∀ text number, decimalValue text = some number → Representable number →
        0 ≤ number * 10 ^ 8 → number * 10 ^ 8 < 2 ^ 64 →
          ∃ word, parseTokenValue library text = .ok word ∧ word.toNat = ⌊number * 10 ^ 8⌋₊) ∧
      ∀ text number, decimalValue text = some number → Representable number →
        0 ≤ number * 10 ^ 9 → number * 10 ^ 9 < 2 ^ 64 →
          ∃ word, parseSolValue library text = .ok word ∧ word.toNat = ⌊number * 10 ^ 9⌋₊ := by
  refine ⟨fun amount => ?_, fun amount => ?_, fun text number literal representable nonneg small =>
    ?_, fun text number literal representable nonneg small => ?_⟩
  · exact parseValue_display lawful tokenUnits_toNat (by norm_num) _ _ amount
  · exact parseValue_display lawful lamportsPerSol_toNat (by norm_num) _ _ amount
  · exact parseValue_literal lawful tokenUnits_toNat _ literal representable nonneg small
  · exact parseValue_literal lawful lamportsPerSol_toNat _ literal representable nonneg small

theorem decimalValue_long :
    decimalValue "0.1234567899999999999999999999" =
      some (1234567899999999999999999999 / 10 ^ 28) :=
  decimalValue_of_parts (show literalParts "0.1234567899999999999999999999" =
    some (1234567899999999999999999999, 28) by rfl)

theorem amounts_read_back_nearest :
    (∃ value, convertTokenValue nearestLibrary 18446744073709551615 = .ok value ∧
        parseTokenValue nearestLibrary (nearestLibrary.display value) =
          .ok 18446744073709551615) ∧
      (∃ value, convertSolValue nearestLibrary 18446744073709551615 = .ok value ∧
        parseSolValue nearestLibrary (nearestLibrary.display value) =
          .ok 18446744073709551615) ∧
      (∃ word, parseTokenValue nearestLibrary "0.1234567899999999999999999999" = .ok word ∧
        word.toNat = 12345678) ∧
      ∃ word, parseSolValue nearestLibrary "0.1234567899999999999999999999" = .ok word ∧
        word.toNat = 123456789 := by
  obtain ⟨token, sol, tokenLiteral, solLiteral⟩ := amounts_read_back nearestLibrary_lawful
  have representable : Representable (1234567899999999999999999999 / 10 ^ 28) := by
    simpa using @representable_of_nat 1234567899999999999999999999 28 (by norm_num) le_rfl
  have token_floor : ⌊(1234567899999999999999999999 / 10 ^ 28 * 10 ^ 8 : ℚ)⌋₊ = 12345678 := by
    rw [Nat.floor_eq_iff (by norm_num)]
    norm_num
  have sol_floor : ⌊(1234567899999999999999999999 / 10 ^ 28 * 10 ^ 9 : ℚ)⌋₊ = 123456789 := by
    rw [Nat.floor_eq_iff (by norm_num)]
    norm_num
  refine ⟨token _, sol _, ?_, ?_⟩
  · rw [← token_floor]
    exact tokenLiteral _ _ decimalValue_long representable (by norm_num) (by norm_num)
  · rw [← sol_floor]
    exact solLiteral _ _ decimalValue_long representable (by norm_num) (by norm_num)

/-- A number truncated toward zero. -/
def truncated (number : ℚ) : ℤ := if number < 0 then ⌈number⌉ else ⌊number⌋

private theorem truncated_of_nonneg {number : ℚ} (nonneg : 0 ≤ number) :
    truncated number = (⌊number⌋₊ : ℤ) := by
  rw [truncated, if_neg (not_lt.mpr nonneg), Int.natCast_floor_eq_floor nonneg]

private theorem truncated_of_fraction {number : ℚ} (above : -1 < number) (negative : number < 0) :
    truncated number = 0 := by
  rw [truncated, if_pos negative, Int.ceil_eq_iff]
  norm_num
  exact ⟨above, negative.le⟩

/-- The truncated amount is a word. -/
def Holds (units : UInt64) (number : Decimal) : Prop :=
  0 ≤ truncated (number.value * units.toNat) ∧
    truncated (number.value * units.toNat) ≤ 2 ^ 64 - 1

/-- A text is read without a panic, and successfully just if it is a number that some word holds. -/
def Reported (library : Library) (units : UInt64) (text : String)
    (outcome : Except AmountFailure UInt64) : Prop :=
  (∀ failure, outcome = .error failure → ¬failure.Panics) ∧
    ((∃ word, outcome = .ok word) ↔
      ∃ number, library.fromStr text = .ok number ∧ Holds units number)

/-- The number is small enough, and it is not negative, unless the library takes a negative number
above minus one unit for nothing. -/
def Acceptable (library : Library) (units : UInt64) (number : Decimal) : Prop :=
  number.value * units.toNat < 2 ^ 64 ∧
    (0 ≤ number.value ∨
      -1 < number.value * units.toNat ∧ library.negativeFraction.isSome = true)

section Errors

variable {library : Library} {rounding : Rounding} {units : UInt64} {places : ℕ}
variable {text : String} {number : Decimal} (expectation : String)

theorem scaled_eq (units_eq : units.toNat = 10 ^ places) (number : Decimal) :
    number.value * units.toNat = number.value * 10 ^ places := by
  rw [units_eq]
  push_cast
  rfl

/-- An accepted number is truncated if it is acceptable, and there is a panic if it is not. -/
theorem parseValue_cases (lawful : library.Lawful rounding)
    (units_eq : units.toNat = 10 ^ places) (accepted : library.fromStr text = .ok number) :
    (Acceptable library units number ∧
        ∃ word, parseValue library units expectation text = .ok word ∧
          (word.toNat : ℤ) = truncated (number.value * units.toNat)) ∨
      (¬Acceptable library units number ∧
        ∃ failure, parseValue library units expectation text = .error failure ∧
          failure.Panics) := by
  have sign : 0 ≤ number.value ↔ 0 ≤ number.value * 10 ^ places :=
    (mul_nonneg_iff_of_pos_right (by positivity)).symm
  rw [Acceptable, scaled_eq units_eq, sign]
  obtain large | small := le_or_gt (2 ^ 64) (number.value * 10 ^ places)
  · refine Or.inr ⟨fun acceptable => not_lt.mpr large acceptable.1, ?_⟩
    refine parseValue_panics expectation lawful units_eq accepted fun product product_eq => ?_
    exact lawful.toU64_of_ge (by rw [product_eq]; exact large)
  obtain nonneg | negative := le_or_gt 0 (number.value * 10 ^ places)
  · obtain ⟨word, parsed, word_eq⟩ :=
      parseValue_of_lt expectation lawful units_eq accepted nonneg small
    refine Or.inl ⟨⟨small, Or.inl nonneg⟩, word, parsed, ?_⟩
    rw [truncated_of_nonneg nonneg, word_eq]
  obtain below | above := le_or_gt (number.value * 10 ^ places) (-1)
  · refine Or.inr ⟨?_, ?_⟩
    · rintro ⟨-, nonneg | ⟨above, -⟩⟩
      · exact not_le.mpr negative nonneg
      · exact not_lt.mpr below above
    · refine parseValue_panics expectation lawful units_eq accepted fun product product_eq => ?_
      exact lawful.toU64_negative product (by rw [product_eq]; exact below)
  · have parsed := parseValue_of_fraction expectation lawful units_eq accepted above negative
    cases fraction : library.negativeFraction with
    | none =>
        rw [fraction] at parsed
        refine Or.inr ⟨?_, _, parsed, trivial⟩
        rintro ⟨-, nonneg | ⟨-, kept⟩⟩
        · exact not_le.mpr negative nonneg
        · simp at kept
    | some word =>
        rw [fraction] at parsed
        refine Or.inl ⟨⟨small, Or.inr ⟨above, rfl⟩⟩, word, parsed, ?_⟩
        rw [truncated_of_fraction above negative, lawful.negativeFraction_zero word fraction]
        rfl

/-- Reading reports its errors just on the texts that are no numbers or acceptable ones. -/
theorem reported_iff (lawful : library.Lawful rounding) (units_eq : units.toNat = 10 ^ places) :
    Reported library units text (parseValue library units expectation text) ↔
      ∀ number, library.fromStr text = .ok number → Acceptable library units number := by
  cases accepted : library.fromStr text with
  | error message =>
      have refused := @parseValue_of_error _ units _ expectation _ accepted
      refine iff_of_true ⟨fun failure failed => ?_, ?_⟩ (by simp)
      · rw [refused] at failed
        cases failed
        exact id
      · simp [refused, accepted]
  | ok number =>
      have only : (∀ other, Except.ok number = Except.ok (ε := String) other →
          Acceptable library units other) ↔ Acceptable library units number := by simp
      rw [only]
      obtain ⟨acceptable, word, parsed, word_eq⟩ | ⟨unacceptable, failure, failed, panics⟩ :=
        parseValue_cases expectation lawful units_eq accepted
      · have holds : Holds units number := by
          have bounded := word.toNat_lt
          rw [Holds, ← word_eq]
          omega
        refine iff_of_true ⟨fun failure failed => ?_, ?_⟩ acceptable
        · rw [parsed] at failed
          contradiction
        · exact iff_of_true ⟨word, parsed⟩ ⟨number, accepted, holds⟩
      · refine iff_of_false (fun reported => ?_) unacceptable
        exact reported.1 failure failed panics

end Errors

/-- Errors of an amount are reported, and not answered by a panic, just if its text is no number or
an acceptable one. -/
theorem amount_errors_reported_iff {library : Library} {rounding : Rounding}
    (lawful : library.Lawful rounding) (text : String) :
    (Reported library tokenUnits text (parseTokenValue library text) ↔
        ∀ number, library.fromStr text = .ok number → Acceptable library tokenUnits number) ∧
      (Reported library lamportsPerSol text (parseSolValue library text) ↔
        ∀ number, library.fromStr text = .ok number → Acceptable library lamportsPerSol number) :=
  ⟨reported_iff _ lawful tokenUnits_toNat, reported_iff _ lawful lamportsPerSol_toNat⟩

private theorem fromStr_half :
    ∃ number, nearestLibrary.fromStr "0.5" = .ok number ∧ number.value = 5 / 10 ^ 1 :=
  nearestLibrary_fromStr (decimalValue_of_parts (show literalParts "0.5" = some (5, 1) by rfl))
    (representable_of_coefficient (by norm_num) (by norm_num))

theorem amount_errors_reported_half :
    Reported nearestLibrary tokenUnits "0.5" (parseTokenValue nearestLibrary "0.5") ∧
      Reported nearestLibrary lamportsPerSol "0.5" (parseSolValue nearestLibrary "0.5") := by
  obtain ⟨token, sol⟩ := amount_errors_reported_iff nearestLibrary_lawful "0.5"
  obtain ⟨half, accepted, half_eq⟩ := fromStr_half
  have only : ∀ number, nearestLibrary.fromStr "0.5" = .ok number → number = half :=
    fun number read => Except.ok.inj (read.symm.trans accepted)
  constructor
  · apply token.mpr
    intro number read
    rw [only number read, Acceptable, half_eq, tokenUnits_toNat]
    norm_num
  · apply sol.mpr
    intro number read
    rw [only number read, Acceptable, half_eq, lamportsPerSol_toNat]
    norm_num

/-- A negative amount and one that is too large both abort. -/
theorem amount_errors_panic :
    (parseTokenValue nearestLibrary "-1" =
        .error (.unmet "Token value overflow or conversion failed") ∧
      ¬Reported nearestLibrary tokenUnits "-1" (parseTokenValue nearestLibrary "-1")) ∧
    parseSolValue nearestLibrary "79228162514264337593543950335" = .error .operator ∧
      ¬Reported nearestLibrary lamportsPerSol "79228162514264337593543950335"
        (parseSolValue nearestLibrary "79228162514264337593543950335") := by
  refine ⟨⟨rfl, fun reported => ?_⟩, rfl, fun reported => ?_⟩
  · exact reported.1 (.unmet "Token value overflow or conversion failed") rfl trivial
  · exact reported.1 .operator rfl trivial

end SolConversion.Cli
