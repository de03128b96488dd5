import SolConversion.OnChain.PricingContract

/-!
# Price protection

A trade costs the bid at most, and no less than the most discounted rate up to the two roundings.
The errors about the price are reported exactly when the price is the reason: `BidTooLow` for a bid
under the ask price, `ArithmeticError` for a cost that no machine word holds.
-/

namespace SolConversion.OnChain

open DecimalFormat FixedWidth Fallible

/-- A computation fails with an error code of the program. -/
def FailsWith {α : Type} (code : DoubleZeroError) (result : Except Failure α) : Prop :=
  ∃ events, result = .error ⟨.custom code, events⟩

section FailsWith

variable {α β : Type} {code : DoubleZeroError}

theorem failsWith_bind {first : Except Failure α} {next : α → Except Failure β} :
    FailsWith code (first >>= next) ↔
      FailsWith code first ∨ ∃ middle, first = .ok middle ∧ FailsWith code (next middle) := by
  simp only [FailsWith, bind_eq_error, exists_or]
  constructor
  · rintro (⟨events, failed⟩ | ⟨events, middle, passed, failed⟩)
    · exact .inl ⟨events, failed⟩
    · exact .inr ⟨middle, passed, events, failed⟩
  · rintro (⟨events, failed⟩ | ⟨middle, passed, events, failed⟩)
    · exact .inl ⟨events, failed⟩
    · exact .inr ⟨events, middle, passed, failed⟩

theorem failsWith_require {condition : Prop} [Decidable condition] {failure : Failure} :
    FailsWith code (require condition failure) ↔
      ¬condition ∧ failure.error = .custom code := by
  obtain ⟨error, events⟩ := failure
  simp [FailsWith]

theorem failsWith_orFail {source : Option α} {failure : Failure} :
    FailsWith code (orFail failure source) ↔ source = none ∧ failure.error = .custom code := by
  obtain ⟨error, events⟩ := failure
  simp [FailsWith]

theorem failsWith_abortWith {source : Except ProgramError α} :
    FailsWith code (mapFailure abortWith source) ↔ source = .error (.custom code) := by
  simp only [FailsWith, mapFailure_eq_error, abortWith, Failure.mk.injEq]
  constructor
  · rintro ⟨-, error, failed, rfl, -⟩
    exact failed
  · intro failed
    exact ⟨[], _, failed, rfl, rfl⟩

theorem failsWith_pure {value : α} : ¬FailsWith code (pure value : Except Failure α) := by
  rintro ⟨events, ⟨⟩⟩

end FailsWith

/-- The token program reports none of the converter's error codes. -/
def Platform.TokenErrorsForeign (platform : Platform) : Prop :=
  ∀ ledger transfer code, platform.transferChecked ledger transfer ≠ .error (.custom code)

section Stages

variable {platform : Platform} {code : DoubleZeroError}

private theorem check_not_failsWith {ledger : Ledger} {accounts : BuySolAccounts} :
    ¬FailsWith code (accounts.check platform ledger) := by
  simp [BuySolAccounts.check, failsWith_bind, failsWith_orFail, failsWith_require, abortWith]

theorem checked_not_failsWith {α : Type} {source : Option α} :
    ¬FailsWith code (checked source) := by
  simp [checked, failsWith_orFail, abortWith]

private theorem verifyAttestation_failsWith {clock : Clock} {oraclePriceData : OraclePriceData}
    {oraclePublicKey : Pubkey} {priceMaximumAge : Int64}
    (fails : FailsWith code
      (verifyAttestation platform clock oraclePriceData oraclePublicKey priceMaximumAge)) :
    code ∈ [.invalidAttestation, .attestationVerificationError, .invalidOracleSwapRate,
      .stalePrice] := by
  simp only [verifyAttestation, failsWith_bind, failsWith_orFail, failsWith_require,
    checked_not_failsWith, false_or, failWith, ProgramError.custom.injEq] at fails
  rcases fails with ⟨-, rfl⟩ | ⟨-, -, ⟨-, rfl⟩ | ⟨-, -, ⟨-, rfl⟩ | ⟨-, -, -, -, -, -, -, rfl⟩⟩⟩ <;>
    simp

private theorem askPriceFailure_failsWith {price : Except Stop UInt64}
    (fails : FailsWith code (mapFailure askPriceFailure price)) :
    code = .askPriceCalculationError := by
  obtain ⟨events, failed⟩ := fails
  obtain ⟨stop, -, failure_eq⟩ := mapFailure_eq_error.mp failed
  cases stop with
  | none => exact (ProgramError.custom.inj (Failure.mk.inj failure_eq).1).symm
  | panic => cases failure_eq

private theorem computeTokensRequired_failsWith {solQuantity askPrice : UInt64} :
    FailsWith code (computeTokensRequired solQuantity askPrice) ↔
      2 ^ 64 ≤ solQuantity.toNat * askPrice.toNat / lamportsPerSol ∧ code = .arithmeticError := by
  simp only [computeTokensRequired, mulU128_of_u64, orFail_some, ok_bind, failsWith_orFail,
    toU64_eq_none, failWith, ProgramError.custom.injEq]
  rw [eq_comm (a := code)]

private theorem withdrawSol_ne_custom {signers : List Pubkey} {ledger : Ledger}
    {programConfig withdrawSolAuthority journal solRecipient : Pubkey} {amount : UInt64} :
    RevenueDistribution.withdrawSol platform signers ledger programConfig withdrawSolAuthority
      journal solRecipient amount ≠ .error (.custom code) := by
  simp [RevenueDistribution.withdrawSol, bind_eq_error, pure, Except.pure]

private theorem insert_failsWith {fillsRegistry : FillsRegistry}
    {solQuantity tokensRequired : UInt64}
    (fails : FailsWith code (fillsRegistry.insert solQuantity tokensRequired)) :
    code = .registryFull := by
  simp only [FillsRegistry.insert, advance, failsWith_bind, failsWith_require,
    checked_not_failsWith, failsWith_pure, and_false, exists_false, or_false, failWith,
    ProgramError.custom.injEq] at fails
  exact fails.2.symm

end Stages

/-- The checks of `buy_sol` before the bid is compared with the ask price. -/
structure Guarded (platform : Platform) (context : Context) (state : ConverterState)
    (accounts : BuySolAccounts) (oraclePriceData : OraclePriceData) : Prop where
  checked : accounts.Checked platform context.ledger
  running : state.programState.isHalted = false
  admitted : accounts.signer ∉ state.denyListRegistry.deniedAddresses
  later : state.programState.lastTradeSlot < context.clock.slot
  verified : verifyAttestation platform context.clock oraclePriceData
    state.configurationRegistry.oraclePubkey state.configurationRegistry.priceMaximumAge = .ok ()

section Errors

variable {platform : Platform} {context : Context} {state : ConverterState}
  {accounts : BuySolAccounts} {bidPrice : UInt64} {oraclePriceData : OraclePriceData}

/-- The two codes about the price come from the comparison and from the cost alone. -/
theorem buySol_failsWith (foreign : platform.TokenErrorsForeign) {code : DoubleZeroError}
    (about_price : code = .bidTooLow ∨ code = .arithmeticError) :
    FailsWith code (buySol platform context state accounts bidPrice oraclePriceData) ↔
      Guarded platform context state accounts oraclePriceData ∧
        ∃ askPrice, Asks platform context state oraclePriceData askPrice ∧
          (bidPrice < askPrice ∧ code = .bidTooLow ∨
            ¬bidPrice < askPrice ∧
              2 ^ 64 ≤ state.configurationRegistry.solQuantity.toNat * askPrice.toNat /
                lamportsPerSol ∧ code = .arithmeticError) := by
  have foreign_transfer : ∀ tokensRequired, ¬FailsWith code (mapFailure abortWith
      (platform.transferChecked context.ledger (accounts.payment tokensRequired))) := by
    intro tokensRequired fails
    exact foreign _ _ _ (failsWith_abortWith.mp fails)
  have foreign_withdrawal : ∀ paid, ¬FailsWith code (mapFailure abortWith
      (RevenueDistribution.withdrawSol platform [accounts.signer, platform.withdrawSolAuthority]
        paid accounts.programConfig platform.withdrawSolAuthority accounts.journal accounts.signer
        state.configurationRegistry.solQuantity)) := by
    intro paid fails
    exact withdrawSol_ne_custom (failsWith_abortWith.mp fails)
  have foreign_insertion : ∀ tokensRequired, ¬FailsWith code
      (state.fillsRegistry.insert state.configurationRegistry.solQuantity tokensRequired) := by
    intro tokensRequired fails
    have full := insert_failsWith fails
    rcases about_price with rfl | rfl <;> cases full
  have foreign_verification : ¬FailsWith code (verifyAttestation platform context.clock
      oraclePriceData state.configurationRegistry.oraclePubkey
      state.configurationRegistry.priceMaximumAge) := by
    intro fails
    have listed := verifyAttestation_failsWith fails
    rcases about_price with rfl | rfl <;> simp at listed
  have foreign_price : ∀ price : Except Stop UInt64, ¬FailsWith code
      (mapFailure askPriceFailure price) := by
    intro price fails
    have uncomputed := askPriceFailure_failsWith fails
    rcases about_price with rfl | rfl <;> cases uncomputed
  have foreign_guards : .systemIsHalted ≠ code ∧ .userInsideDenyList ≠ code ∧
      .singleTradePerSlot ≠ code := by
    rcases about_price with rfl | rfl <;> simp
  simp only [buySol, failsWith_bind, failsWith_require, failsWith_pure, check_not_failsWith,
    computeTokensRequired_failsWith, foreign_transfer, foreign_withdrawal, foreign_insertion,
    foreign_verification, foreign_price, foreign_guards, check_eq_ok, require_eq_ok,
    mapFailure_eq_ok, failWith, ProgramError.custom.injEq, false_or, and_false, exists_false,
    or_false]
  constructor
  · rintro ⟨-, checked, -, running, -, admitted, -, later, ⟨⟩, verified, askPrice, asked,
      reason⟩
    refine ⟨⟨checked, running, admitted, later, verified⟩, askPrice, asked, ?_⟩
    rcases reason with ⟨low, rfl⟩ | ⟨-, met, costly, rfl⟩
    · exact .inl ⟨not_not.mp low, rfl⟩
    · exact .inr ⟨met, costly, rfl⟩
  · rintro ⟨⟨checked, running, admitted, later, verified⟩, askPrice, asked, reason⟩
    refine ⟨(), checked, (), running, (), admitted, (), later, (), verified, askPrice, asked, ?_⟩
    rcases reason with ⟨low, rfl⟩ | ⟨met, costly, rfl⟩
    · exact .inl ⟨not_not.mpr low, rfl⟩
    · exact .inr ⟨(), met, costly, rfl⟩

end Errors

/-- A price lies within its discounts, up to the unit that rounding costs. -/
theorem priceAfter_bounds {configuration : ConfigurationRegistry} (valid : configuration.Valid)
    (swapRate slots : ℕ) :
    (swapRate : ℚ) * (1 - configuration.maxDiscountRate.toNat / 10000) <
        configuration.priceAfter swapRate slots + 1 ∧
      (configuration.priceAfter swapRate slots : ℚ) ≤
        swapRate * (1 - configuration.minDiscountRate.toNat / 10000) := by
  have within := valid.discountAfter_le slots
  have positive : 0 < 10 ^ 8 := by norm_num
  have deepest : (configuration.discountAfter slots : ℚ) ≤
      configuration.maxDiscountRate.toNat * 10 ^ 4 := by
    exact_mod_cast DutchAuction.discount_le_greatest valid.discounts_le
  have shallowest : (configuration.minDiscountRate.toNat * 10 ^ 4 : ℚ) ≤
      configuration.discountAfter slots := by
    exact_mod_cast DutchAuction.least_le_discount
  have rate_nonneg : (0 : ℚ) ≤ swapRate := Nat.cast_nonneg _
  have rounded_down : (configuration.priceAfter swapRate slots : ℚ) ≤
      swapRate * (1 - configuration.discountAfter slots / (10 ^ 8 : ℕ)) :=
    DutchAuction.price_le_discounted positive within
  have rounded_up : (swapRate : ℚ) * (1 - configuration.discountAfter slots / (10 ^ 8 : ℕ)) <
      configuration.priceAfter swapRate slots + 1 :=
    DutchAuction.discounted_lt_price_add_one positive within
  push_cast at rounded_down rounded_up
  constructor
  · refine lt_of_le_of_lt ?_ rounded_up
    apply mul_le_mul_of_nonneg_left _ rate_nonneg
    linarith
  · refine rounded_down.trans ?_
    apply mul_le_mul_of_nonneg_left _ rate_nonneg
    linarith

section Price

variable {platform : Platform} {rounding : Rounding} {context : Context}
  {state next : ConverterState} {accounts : BuySolAccounts} {bidPrice : UInt64}
  {oraclePriceData : OraclePriceData} {askPrice tokensRequired : UInt64} {paid : Ledger}
  {receipt : Receipt}

theorem cost_le_bid (trades : Trades platform context state accounts bidPrice oraclePriceData
      askPrice tokensRequired paid next receipt) :
    tokensRequired.toNat * lamportsPerSol ≤
        state.configurationRegistry.solQuantity.toNat * askPrice.toNat ∧
      state.configurationRegistry.solQuantity.toNat * askPrice.toNat ≤
        state.configurationRegistry.solQuantity.toNat * bidPrice.toNat := by
  constructor
  · rw [← computeTokensRequired_eq_ok.mp trades.priced]
    exact Nat.div_mul_le_self _ _
  · apply Nat.mul_le_mul_left
    exact UInt64.le_iff_toNat_le.mp (UInt64.not_lt.mp trades.met)

/-- The protocol receives the most discounted rate but for two roundings, and no more than the
least discounted one. -/
theorem cost_bounds (lawful : platform.decimal.Lawful rounding)
    (valid : state.configurationRegistry.Valid)
    (trades : Trades platform context state accounts bidPrice oraclePriceData askPrice
      tokensRequired paid next receipt) :
    (state.configurationRegistry.solQuantity.toNat : ℚ) * oraclePriceData.swapRate.toNat *
          (1 - state.configurationRegistry.maxDiscountRate.toNat / 10000) -
        state.configurationRegistry.solQuantity.toNat - 10 ^ 9 < tokensRequired.toNat * 10 ^ 9 ∧
      (tokensRequired.toNat : ℚ) * 10 ^ 9 ≤
        state.configurationRegistry.solQuantity.toNat * oraclePriceData.swapRate.toNat *
          (1 - state.configurationRegistry.minDiscountRate.toNat / 10000) := by
  obtain ⟨-, price_eq⟩ := (asks_iff lawful valid).mp trades.asked
  obtain ⟨above, below⟩ := priceAfter_bounds valid oraclePriceData.swapRate.toNat
    (context.clock.slot.toNat - state.programState.lastTradeSlot.toNat)
  rw [← price_eq] at above below
  have quantity_nonneg : (0 : ℚ) ≤ state.configurationRegistry.solQuantity.toNat :=
    Nat.cast_nonneg _
  have cost_eq := computeTokensRequired_eq_ok.mp trades.priced
  have cost_le : (tokensRequired.toNat : ℚ) * 10 ^ 9 ≤
      state.configurationRegistry.solQuantity.toNat * askPrice.toNat := by
    exact_mod_cast (cost_le_bid trades).1
  have lt_cost : (state.configurationRegistry.solQuantity.toNat : ℚ) * askPrice.toNat <
      (tokensRequired.toNat + 1) * 10 ^ 9 := by
    have rounded := Nat.lt_mul_of_div_lt (Nat.lt_succ_of_le cost_eq.le)
      (show 0 < lamportsPerSol by norm_num [lamportsPerSol])
    exact_mod_cast rounded
  constructor
  · have scaled := mul_le_mul_of_nonneg_left above.le quantity_nonneg
    linarith
  · have scaled := mul_le_mul_of_nonneg_left below quantity_nonneg
    linarith

end Price

/-- A trade costs no more than the bid and no less than the most discounted rate but for two
roundings; `BidTooLow` and `ArithmeticError` report just the comparison and the cost. -/
theorem buySol_price_protected {platform : Platform} {rounding : Rounding}
    (lawful : platform.decimal.Lawful rounding) (foreign : platform.TokenErrorsForeign)
    {state : ConverterState} (reachable : Reachable platform state) (context : Context)
    (accounts : BuySolAccounts) (bidPrice : UInt64) (oraclePriceData : OraclePriceData) :
    let solQuantity := state.configurationRegistry.solQuantity.toNat
    let swapRate := oraclePriceData.swapRate.toNat
    let result := buySol platform context state accounts bidPrice oraclePriceData
    (∀ next receipt, result = .ok (next, receipt) → ∃ askPrice tokensRequired paid,
        Trades platform context state accounts bidPrice oraclePriceData askPrice tokensRequired paid
          next receipt ∧
        tokensRequired.toNat * 10 ^ 9 ≤ solQuantity * askPrice.toNat ∧
        solQuantity * askPrice.toNat ≤ solQuantity * bidPrice.toNat ∧
        (solQuantity : ℚ) * swapRate *
            (1 - state.configurationRegistry.maxDiscountRate.toNat / 10000) - solQuantity -
          10 ^ 9 < tokensRequired.toNat * 10 ^ 9 ∧
        (tokensRequired.toNat : ℚ) * 10 ^ 9 ≤ solQuantity * swapRate *
          (1 - state.configurationRegistry.minDiscountRate.toNat / 10000)) ∧
      (FailsWith .bidTooLow result ↔
        Guarded platform context state accounts oraclePriceData ∧
          ∃ askPrice, Asks platform context state oraclePriceData askPrice ∧
            bidPrice < askPrice) ∧
      (FailsWith .arithmeticError result ↔
        Guarded platform context state accounts oraclePriceData ∧
          ∃ askPrice, Asks platform context state oraclePriceData askPrice ∧
            ¬bidPrice < askPrice ∧ 2 ^ 64 ≤ solQuantity * askPrice.toNat / 10 ^ 9) := by
  intro solQuantity swapRate result
  have valid := valid_of_reachable reachable
  refine ⟨?_, ?_, ?_⟩
  · intro next receipt success
    obtain ⟨askPrice, tokensRequired, paid, trades⟩ := buySol_eq_ok.mp success
    obtain ⟨cost_le, within_bid⟩ := cost_le_bid trades
    obtain ⟨above, below⟩ := cost_bounds lawful valid trades
    exact ⟨askPrice, tokensRequired, paid, trades, cost_le, within_bid, above, below⟩
  · rw [buySol_failsWith foreign (.inl rfl)]
    simp
  · rw [buySol_failsWith foreign (.inr rfl)]
    simp [solQuantity, lamportsPerSol]

theorem Local.platform_tokenErrorsForeign : Local.platform.TokenErrorsForeign := by
  intro ledger transfer code failed
  change transferTokens ledger transfer = .error (.custom code) at failed
  simp only [transferTokens, bind_eq_error, orFail_eq_error, require_eq_error, reduceCtorEq,
    and_false, false_or] at failed
  obtain ⟨_, -, _, -, _, -, _, -, _, -, moved⟩ := failed
  split at moved
  · cases moved
  · simp [bind_eq_error, pure, Except.pure] at moved

/-- In slot 200 the local buyer trades at the ask price of 189100000, and not below it. -/
theorem buySol_price_protected_local :
    (∃ askPrice tokensRequired : UInt64,
        tokensRequired.toNat * 10 ^ 9 ≤ 25000000000 * askPrice.toNat ∧
          25000000000 * askPrice.toNat ≤ 25000000000 * 200000000) ∧
      FailsWith .bidTooLow (buySol Local.platform (Local.context 200 Local.ledger) Local.initial
        Local.buyAccounts 189099999 Local.price) := by
  obtain ⟨next, receipt, success⟩ := Local.trade_ok
  have guarded : Guarded Local.platform (Local.context 200 Local.ledger) Local.initial
      Local.buyAccounts Local.price :=
    ⟨Local.buyAccounts_checked, rfl, List.not_mem_nil, show (100 : UInt64) < 200 by decide,
      Local.verified⟩
  constructor
  · obtain ⟨askPrice, tokensRequired, -, -, cost_le, within_bid, -⟩ := (buySol_price_protected
      nearestArithmetic_lawful Local.platform_tokenErrorsForeign Local.initial_reachable
      (Local.context 200 Local.ledger) Local.buyAccounts 200000000 Local.price).1 next receipt
      success
    exact ⟨askPrice, tokensRequired, cost_le, within_bid⟩
  · exact (buySol_price_protected nearestArithmetic_lawful Local.platform_tokenErrorsForeign
      Local.initial_reachable _ _ _ _).2.1.mpr ⟨guarded, 189100000, Local.asked, by decide⟩

end SolConversion.OnChain
