import SolConversion.OnChain.LocalDeployment

/-!
# Configurations and the ask price

Stored configurations stay within their bounds, so the computed price is exact; and since only a
trade moves the slot the discount counts from, the price descends from one trade to the next.
-/

namespace SolConversion.OnChain

open DecimalFormat Fallible Transactional

/-- Reachable configurations are valid, and an update by the admin succeeds exactly when the
configuration with the present fields overridden is valid, which it then stores. -/
theorem configuration_valid_exactly {platform : Platform} {state : ConverterState}
    (reachable : Reachable platform state) :
    state.configurationRegistry.Valid ∧
      ∀ (context : Context) (input : ConfigurationRegistryInput),
        ((∃ next receipt, processUpdate context state state.programState.admin input =
            .ok (next, receipt)) ↔ (input.override state.configurationRegistry).Valid) ∧
          ∀ next receipt, processUpdate context state state.programState.admin input =
            .ok (next, receipt) →
            next = { state with
              configurationRegistry := input.override state.configurationRegistry } := by
  have valid := valid_of_reachable reachable
  refine ⟨valid, fun context input => ⟨?_, ?_⟩⟩
  · rw [← accepted_iff_valid valid]
    constructor
    · rintro ⟨next, receipt, success⟩
      exact (processUpdate_eq_ok success).2.1
    · exact processUpdate_of_accepted
  · intro next receipt success
    exact (processUpdate_eq_ok success).2.2

/-- The greatest discount may not move below the stored least one. -/
theorem configuration_valid_exactly_local :
    Local.initial.configurationRegistry.Valid ∧
      ¬∃ next receipt, processUpdate (Local.context 200 Local.ledger) Local.initial Local.admin
        ⟨none, none, none, none, some 400, none⟩ = .ok (next, receipt) := by
  obtain ⟨valid, exactly⟩ := configuration_valid_exactly Local.initial_reachable
  refine ⟨valid, fun succeeds => ?_⟩
  have overridden := (exactly _ _).1.mp succeeds
  exact absurd overridden.discounts_lt (by decide)

/-- Under every reachable configuration the price is the documented formula in exact integers. -/
theorem calculateConversionRate_exact {platform : Platform} {rounding : Rounding}
    (lawful : platform.decimal.Lawful rounding) {state : ConverterState}
    (reachable : Reachable platform state) (oraclePriceData : OraclePriceData)
    (sLast sNow : UInt64) :
    let configuration := state.configurationRegistry
    let least := configuration.minDiscountRate.toNat * 10 ^ 4
    let greatest := configuration.maxDiscountRate.toNat * 10 ^ 4
    let discount := max (min (configuration.coefficient.toNat * (sNow.toNat - sLast.toNat) + least)
      greatest) least
    let computed := calculateConversionRate platform.decimal oraclePriceData
      configuration.coefficient configuration.maxDiscountRate configuration.minDiscountRate sLast
      sNow
    (sLast ≤ sNow → ∃ price, computed = .ok price ∧
        price.toNat = oraclePriceData.swapRate.toNat * (10 ^ 8 - discount) / 10 ^ 8) ∧
      (sNow < sLast → computed = .error .none) := by
  intro configuration least greatest discount computed
  constructor
  · exact conversionRate_of_valid lawful (valid_of_reachable reachable) oraclePriceData
  · exact conversionRate_of_lt lawful configuration oraclePriceData

theorem calculateConversionRate_exact_local :
    ∃ price, calculateConversionRate nearestArithmetic Local.price 4500 5000 500 100 200 =
      .ok price ∧ price.toNat = 200000000 * (10 ^ 8 - 5450000) / 10 ^ 8 :=
  (calculateConversionRate_exact nearestArithmetic_lawful Local.initial_reachable Local.price 100
    200).1 (by decide)

/-- The price both `get_conversion_rate` and `buy_sol` compute. -/
def Asks (platform : Platform) (context : Context) (state : ConverterState)
    (oraclePriceData : OraclePriceData) (askPrice : UInt64) : Prop :=
  state.configurationRegistry.conversionRate platform.decimal oraclePriceData
    state.programState.lastTradeSlot context.clock.slot = .ok askPrice

/-- No purchase succeeds in a run. -/
def Untraded (platform : Platform) (state : ConverterState)
    (inputs : List (Context × Instruction)) : Prop :=
  ∀ context accounts bidPrice oraclePriceData,
    (context, .buySol accounts bidPrice oraclePriceData) ∉
      accepted (programHistory platform state inputs)

/-- Two configurations discount alike. -/
structure ConfigurationRegistry.DiscountsAlike (configuration other : ConfigurationRegistry) :
    Prop where
  coefficient_eq : other.coefficient = configuration.coefficient
  maxDiscountRate_eq : other.maxDiscountRate = configuration.maxDiscountRate
  minDiscountRate_eq : other.minDiscountRate = configuration.minDiscountRate

/-- The least price of a swap rate. -/
def ConfigurationRegistry.lowestPrice (configuration : ConfigurationRegistry)
    (swapRate : ℕ) : ℕ :=
  swapRate * (10000 - configuration.maxDiscountRate.toNat) / 10000

/-- The greatest price of a swap rate. -/
def ConfigurationRegistry.highestPrice (configuration : ConfigurationRegistry)
    (swapRate : ℕ) : ℕ :=
  swapRate * (10000 - configuration.minDiscountRate.toNat) / 10000

/-- The number of slots after which the discount stops growing. -/
def ConfigurationRegistry.slotsToLowest (configuration : ConfigurationRegistry) : ℕ :=
  ((configuration.maxDiscountRate.toNat - configuration.minDiscountRate.toNat) * 10 ^ 4) ⌈/⌉
    configuration.coefficient.toNat

theorem price_of_basisPoints (swapRate points : ℕ) :
    DutchAuction.price (10 ^ 8) swapRate (points * 10 ^ 4) =
      swapRate * (10000 - points) / 10000 := by
  have refined : DutchAuction.price (10000 * 10 ^ 4) swapRate (points * 10 ^ 4) =
      DutchAuction.price 10000 swapRate points := DutchAuction.price_refine (by omega)
  rw [show 10 ^ 8 = 10000 * 10 ^ 4 by norm_num, refined, DutchAuction.price]

section Prices

variable {configuration : ConfigurationRegistry}

private theorem priceAfter_le_highestPrice (swapRate slots : ℕ) :
    configuration.priceAfter swapRate slots ≤ configuration.highestPrice swapRate := by
  rw [ConfigurationRegistry.highestPrice, ← price_of_basisPoints]
  exact DutchAuction.price_antitone DutchAuction.least_le_discount

private theorem lowestPrice_le_priceAfter (valid : configuration.Valid) (swapRate slots : ℕ) :
    configuration.lowestPrice swapRate ≤ configuration.priceAfter swapRate slots := by
  rw [ConfigurationRegistry.lowestPrice, ← price_of_basisPoints]
  exact DutchAuction.price_antitone (DutchAuction.discount_le_greatest valid.discounts_le)

theorem priceAfter_antitone (swapRate : ℕ) {slots later : ℕ} (waits : slots ≤ later) :
    configuration.priceAfter swapRate later ≤ configuration.priceAfter swapRate slots :=
  DutchAuction.price_antitone (DutchAuction.discount_mono waits)

private theorem priceAfter_zero (valid : configuration.Valid) (swapRate : ℕ) :
    configuration.priceAfter swapRate 0 = configuration.highestPrice swapRate := by
  rw [ConfigurationRegistry.priceAfter, ConfigurationRegistry.discountAfter,
    DutchAuction.discount_start valid.discounts_le, price_of_basisPoints,
    ConfigurationRegistry.highestPrice]

private theorem priceAfter_lowest (valid : configuration.Valid)
    (growing : 0 < configuration.coefficient.toNat) (swapRate : ℕ) {slots : ℕ}
    (waited : configuration.slotsToLowest ≤ slots) :
    configuration.priceAfter swapRate slots = configuration.lowestPrice swapRate := by
  rw [ConfigurationRegistry.slotsToLowest, Nat.sub_mul] at waited
  rw [ConfigurationRegistry.priceAfter, ConfigurationRegistry.discountAfter,
    DutchAuction.discount_saturated valid.discounts_le growing waited, price_of_basisPoints,
    ConfigurationRegistry.lowestPrice]

end Prices

/-- The ask price is the documented price of the slots since the last trade. -/
theorem asks_iff {platform : Platform} {rounding : Rounding}
    (lawful : platform.decimal.Lawful rounding) {state : ConverterState}
    (valid : state.configurationRegistry.Valid) {context : Context}
    {oraclePriceData : OraclePriceData} {askPrice : UInt64} :
    Asks platform context state oraclePriceData askPrice ↔
      state.programState.lastTradeSlot ≤ context.clock.slot ∧
        askPrice.toNat = state.configurationRegistry.priceAfter oraclePriceData.swapRate.toNat
          (context.clock.slot.toNat - state.programState.lastTradeSlot.toNat) := by
  rcases UInt64.le_or_lt state.programState.lastTradeSlot context.clock.slot with ordered | reversed
  · obtain ⟨price, computed, price_eq⟩ :=
      conversionRate_of_valid lawful valid oraclePriceData ordered
    rw [Asks, computed, ← price_eq, UInt64.toNat_inj, Except.ok.injEq]
    simp [ordered, eq_comm]
  · rw [Asks, conversionRate_of_lt lawful _ oraclePriceData reversed]
    simp [Nat.not_le.mpr (UInt64.lt_iff_toNat_lt.mp reversed), UInt64.le_iff_toNat_le]

private theorem lastTradeSlot_of_executes {platform : Platform} {context : Context}
    {state next : ConverterState} {instruction : Instruction} {receipt : Receipt}
    (executes : Executes platform context state instruction next receipt)
    (untraded : ∀ accounts bidPrice oraclePriceData,
      instruction ≠ .buySol accounts bidPrice oraclePriceData) :
    next.programState.lastTradeSlot = state.programState.lastTradeSlot := by
  cases executes with
  | @traded accounts bidPrice oraclePriceData =>
      exact absurd rfl (untraded accounts bidPrice oraclePriceData)
  | _ => rfl

private theorem lastTradeSlot_of_untraded {platform : Platform} {state : ConverterState}
    {inputs : List (Context × Instruction)} (untraded : Untraded platform state inputs) :
    (runProgram platform state inputs).programState.lastTradeSlot =
      state.programState.lastTradeSlot := by
  induction inputs generalizing state with
  | nil => rfl
  | cons input inputs ih =>
      obtain ⟨context, instruction⟩ := input
      have later_untraded :
          Untraded platform (commit (processInstruction platform) state (context, instruction))
            inputs := by
        intro other accounts bidPrice oraclePriceData member
        apply untraded other accounts bidPrice oraclePriceData
        rw [programHistory, history_cons, accepted_append]
        exact List.mem_append_right _ member
      rw [runProgram, run_cons, ih later_untraded]
      cases result : processInstruction platform state (context, instruction) with
      | error failure => rw [commit_error _ result]
      | ok success =>
          obtain ⟨next, receipt⟩ := success
          rw [commit_ok _ result]
          apply lastTradeSlot_of_executes (executes_of_ok result)
          rintro accounts bidPrice oraclePriceData rfl
          apply untraded context accounts bidPrice oraclePriceData
          rw [programHistory, history_cons, accepted_append, accepted_ok result]
          exact List.mem_append_left _ List.mem_cons_self

/-- Over a run without a purchase and with an unchanged discount the price depends on the slot
alone. -/
theorem asks_of_untraded {platform : Platform} {state : ConverterState}
    {inputs : List (Context × Instruction)} (untraded : Untraded platform state inputs)
    (alike : state.configurationRegistry.DiscountsAlike
      (runProgram platform state inputs).configurationRegistry)
    {context : Context} {oraclePriceData : OraclePriceData} {askPrice : UInt64} :
    Asks platform context (runProgram platform state inputs) oraclePriceData askPrice ↔
      Asks platform context state oraclePriceData askPrice := by
  rw [Asks, Asks, lastTradeSlot_of_untraded untraded, ConfigurationRegistry.conversionRate,
    ConfigurationRegistry.conversionRate, alike.coefficient_eq, alike.maxDiscountRate_eq,
    alike.minDiscountRate_eq]

/-- The law of the descending price: it is what `get_conversion_rate` quotes and `buy_sol` enforces;
it stays between its bounds; without a trade it depends on the slot alone and never rises; a trade
resets it to its upper bound; and it reaches its lower bound after a known number of slots. -/
theorem ask_price_descends {platform : Platform} {rounding : Rounding}
    (lawful : platform.decimal.Lawful rounding) :
    (∀ context state oraclePriceData rate,
        getConversionRate platform context state oraclePriceData = .ok rate →
          Asks platform context state oraclePriceData rate) ∧
      (∀ context state accounts bidPrice oraclePriceData next receipt,
        buySol platform context state accounts bidPrice oraclePriceData = .ok (next, receipt) →
          ∃ askPrice, Asks platform context state oraclePriceData askPrice ∧
            askPrice ≤ bidPrice) ∧
      (∀ state, Reachable platform state → ∀ context oraclePriceData,
        state.programState.lastTradeSlot ≤ context.clock.slot →
          ∃ askPrice, Asks platform context state oraclePriceData askPrice ∧
            state.configurationRegistry.lowestPrice oraclePriceData.swapRate.toNat ≤
              askPrice.toNat ∧
            askPrice.toNat ≤
              state.configurationRegistry.highestPrice oraclePriceData.swapRate.toNat) ∧
      (∀ state, Reachable platform state → ∀ inputs, Untraded platform state inputs →
        state.configurationRegistry.DiscountsAlike
          (runProgram platform state inputs).configurationRegistry →
        (∀ context oraclePriceData askPrice,
          Asks platform context (runProgram platform state inputs) oraclePriceData askPrice ↔
            Asks platform context state oraclePriceData askPrice) ∧
        ∀ earlier later oraclePriceData laterPriceData askPrice laterPrice,
          earlier.clock.slot ≤ later.clock.slot →
          laterPriceData.swapRate = oraclePriceData.swapRate →
          Asks platform earlier state oraclePriceData askPrice →
          Asks platform later (runProgram platform state inputs) laterPriceData laterPrice →
            laterPrice ≤ askPrice) ∧
      (∀ state, Reachable platform state →
        ∀ context accounts bidPrice oraclePriceData sold receipt,
        buySol platform context state accounts bidPrice oraclePriceData = .ok (sold, receipt) →
        (∀ nextPriceData askPrice, Asks platform context sold nextPriceData askPrice →
          askPrice.toNat =
            sold.configurationRegistry.highestPrice nextPriceData.swapRate.toNat) ∧
        ∀ inputs, Untraded platform sold inputs →
          sold.configurationRegistry.DiscountsAlike
            (runProgram platform sold inputs).configurationRegistry →
          0 < sold.configurationRegistry.coefficient →
          ∀ later laterPriceData askPrice,
            context.clock.slot.toNat + sold.configurationRegistry.slotsToLowest ≤
              later.clock.slot.toNat →
            Asks platform later (runProgram platform sold inputs) laterPriceData askPrice →
              askPrice.toNat =
                sold.configurationRegistry.lowestPrice laterPriceData.swapRate.toNat) := by
  refine ⟨?_, ?_, ?_, ?_, ?_⟩
  · intro context state oraclePriceData rate quoted
    simp only [getConversionRate, bind_eq_ok, mapFailure_eq_ok] at quoted
    obtain ⟨-, -, asked⟩ := quoted
    exact asked
  · intro context state accounts bidPrice oraclePriceData next receipt success
    obtain ⟨askPrice, tokensRequired, paid, trades⟩ := buySol_eq_ok.mp success
    exact ⟨askPrice, trades.asked, UInt64.not_lt.mp trades.met⟩
  · intro state reachable context oraclePriceData ordered
    have valid := valid_of_reachable reachable
    obtain ⟨askPrice, asked, price_eq⟩ :=
      conversionRate_of_valid lawful valid oraclePriceData ordered
    refine ⟨askPrice, asked, ?_, ?_⟩ <;> rw [price_eq]
    · exact lowestPrice_le_priceAfter valid _ _
    · exact priceAfter_le_highestPrice _ _
  · intro state reachable inputs untraded alike
    refine ⟨fun context oraclePriceData askPrice => asks_of_untraded untraded alike, ?_⟩
    intro earlier later oraclePriceData laterPriceData askPrice laterPrice ordered same asked
      later_asked
    have valid := valid_of_reachable reachable
    obtain ⟨-, price_eq⟩ := (asks_iff lawful valid).mp asked
    obtain ⟨-, later_eq⟩ :=
      (asks_iff lawful valid).mp ((asks_of_untraded untraded alike).mp later_asked)
    rw [UInt64.le_iff_toNat_le, later_eq, price_eq, same]
    exact priceAfter_antitone _ (Nat.sub_le_sub_right (UInt64.le_iff_toNat_le.mp ordered) _)
  · intro state reachable context accounts bidPrice oraclePriceData sold receipt success
    obtain ⟨_, _, _, trades⟩ := buySol_eq_ok.mp success
    have valid := valid_of_executes (valid_of_reachable reachable) (.traded trades)
    have slot_eq : sold.programState.lastTradeSlot = context.clock.slot := by
      rw [trades.programState_eq]
    constructor
    · intro nextPriceData askPrice asked
      rw [((asks_iff lawful valid).mp asked).2, slot_eq, Nat.sub_self,
        priceAfter_zero valid]
    · intro inputs untraded alike growing later laterPriceData askPrice waited asked
      have asked_sold := (asks_of_untraded untraded alike).mp asked
      rw [((asks_iff lawful valid).mp asked_sold).2, slot_eq]
      exact priceAfter_lowest valid (UInt64.lt_iff_toNat_lt.mp growing) _ (by omega)

namespace Local

/-- The admin chooses a fills consumer. -/
def betweenInputs : List (Context × Instruction) :=
  [(context 220 ledger, .setFillsConsumer admin admin)]

theorem betweenInputs_untraded : Untraded platform initial betweenInputs := by
  intro context accounts bidPrice oraclePriceData
  have accepted_eq : accepted (programHistory platform initial betweenInputs) =
      betweenInputs := rfl
  rw [accepted_eq]
  simp [betweenInputs]

end Local

/-- The price in slot 200 lies between its bounds; fifty slots later, with no trade between, it is
no higher; a trade in slot 200 sets it to 1.9 in that slot, and ten thousand slots later it is 1. -/
theorem ask_price_descends_local :
    (∃ askPrice, Asks Local.platform (Local.context 200 Local.ledger) Local.initial Local.price
        askPrice ∧
      200000000 * (10000 - 5000) / 10000 ≤ askPrice.toNat ∧
        askPrice.toNat ≤ 200000000 * (10000 - 500) / 10000) ∧
      (∃ askPrice laterPrice,
        Asks Local.platform (Local.context 200 Local.ledger) Local.initial Local.price askPrice ∧
        Asks Local.platform (Local.context 250 Local.ledger)
          (runProgram Local.platform Local.initial Local.betweenInputs) Local.price laterPrice ∧
        laterPrice ≤ askPrice) ∧
      ∃ sold receipt askPrice lowest,
        buySol Local.platform (Local.context 200 Local.ledger) Local.initial Local.buyAccounts
          200000000 Local.price = .ok (sold, receipt) ∧
        Asks Local.platform (Local.context 200 Local.ledger) sold Local.price askPrice ∧
        askPrice.toNat = 190000000 ∧
        Asks Local.platform (Local.context 10200 Local.ledger) sold Local.price lowest ∧
        lowest.toNat = 100000000 := by
  obtain ⟨-, -, bounded, descends, resets⟩ :=
    @ask_price_descends Local.platform _ nearestArithmetic_lawful
  refine ⟨bounded Local.initial Local.initial_reachable _ Local.price (by decide), ?_, ?_⟩
  · obtain ⟨askPrice, asked, -⟩ := bounded Local.initial Local.initial_reachable
      (Local.context 200 Local.ledger) Local.price (by decide)
    obtain ⟨laterPrice, later_asked, -⟩ := bounded _
      (reachable_run Local.initial_reachable Local.betweenInputs) (Local.context 250 Local.ledger)
      Local.price (by decide)
    exact ⟨askPrice, laterPrice, asked, later_asked, (descends Local.initial
      Local.initial_reachable _ Local.betweenInputs_untraded ⟨rfl, rfl, rfl⟩).2 _ _ _ _ _ _
        (by decide) rfl asked later_asked⟩
  · obtain ⟨sold, receipt, success⟩ := Local.trade_ok
    obtain ⟨_, _, _, trades⟩ := buySol_eq_ok.mp success
    have reachable : Reachable Local.platform sold := by
      have executed : processInstruction Local.platform Local.initial
          (Local.context 200 Local.ledger, .buySol Local.buyAccounts 200000000 Local.price) =
            .ok (sold, receipt) := success
      rw [← commit_ok _ executed]
      exact reachable_run Local.initial_reachable [_]
    have slot_eq : sold.programState.lastTradeSlot = 200 := by rw [trades.programState_eq]; rfl
    obtain ⟨askPrice, asked, -⟩ := bounded sold reachable (Local.context 200 Local.ledger)
      Local.price (by rw [slot_eq]; decide)
    obtain ⟨lowest, lowest_asked, -⟩ := bounded sold reachable (Local.context 10200 Local.ledger)
      Local.price (by rw [slot_eq]; decide)
    obtain ⟨reset, lowers⟩ := resets Local.initial Local.initial_reachable _ _ _ _ _ _ success
    have nothing : Untraded Local.platform sold [] := fun _ _ _ _ => List.not_mem_nil
    have configuration_eq := trades.configurationRegistry_eq
    refine ⟨sold, receipt, askPrice, lowest, success, asked, ?_, lowest_asked, ?_⟩
    · rw [reset _ _ asked, configuration_eq]
      rfl
    · rw [lowers [] nothing ⟨rfl, rfl, rfl⟩ (by rw [configuration_eq]; decide) _ _ _
        (by rw [configuration_eq]; decide) lowest_asked, configuration_eq]
      rfl

end SolConversion.OnChain
