import SolConversion.OnChain.PriceProtection

/-!
# Panics

A panic aborts an instruction without an error code.  From a reachable state the ring positions,
the decimal arithmetic and the dequeue loop never panic; what is left are the overflows listed
below, each with the checks the instruction has passed before it.
-/

namespace SolConversion.OnChain

open DecimalFormat FixedWidth Fallible

/-- A computation panics. -/
abbrev Panics {α : Type} (result : Except Failure α) : Prop :=
  FailsWhere (fun failure => failure.error = .panic) result

section Stages

variable {platform : Platform}

theorem checked_panics {α : Type} {source : Option α} :
    Panics (checked source) ↔ source = none := by
  simp [checked, failsWhere_orFail, abortWith]

private theorem abortWith_panics {α : Type} {source : Except ProgramError α} :
    Panics (mapFailure abortWith source) ↔ source = .error .panic := by
  simp only [failsWhere_mapFailure, abortWith, FailsWhere, exists_eq_right]

/-- The age of a price exceeds every machine word. -/
def AgeOverflows (clock : Clock) (oraclePriceData : OraclePriceData) : Prop :=
  2 ^ 63 ≤ |clock.unixTimestamp.toInt - oraclePriceData.timestamp.toInt|

/-- A price signed under a key, of any age. -/
structure Signed (platform : Platform) (oraclePublicKey : Pubkey)
    (oraclePriceData : OraclePriceData) : Prop where
  signed : ∃ signature, platform.base64Decode oraclePriceData.signature = some signature ∧
    platform.sigVerify oraclePublicKey (attestationMessage oraclePriceData) signature = true
  positive : 0 < oraclePriceData.swapRate

private theorem age_overflows {clock : Clock} {oraclePriceData : OraclePriceData} :
    (subI64 clock.unixTimestamp oraclePriceData.timestamp = none ∨
      ∃ elapsed, subI64 clock.unixTimestamp oraclePriceData.timestamp = some elapsed ∧
        absI64 elapsed = none) ↔ AgeOverflows clock oraclePriceData := by
  rw [AgeOverflows, le_abs]
  constructor
  · rintro (outside | ⟨elapsed, elapsed_eq, outside⟩)
    · rw [subI64_eq_none] at outside
      omega
    · rw [absI64_eq_none, ← subI64_eq_some.mp elapsed_eq, le_abs] at outside
      exact outside
  · intro overflow
    cases difference : subI64 clock.unixTimestamp oraclePriceData.timestamp with
    | none => exact .inl rfl
    | some elapsed =>
        refine .inr ⟨elapsed, rfl, ?_⟩
        rw [absI64_eq_none, ← subI64_eq_some.mp difference, le_abs]
        exact overflow

theorem verifyAttestation_panics {clock : Clock} {oraclePriceData : OraclePriceData}
    {oraclePublicKey : Pubkey} {priceMaximumAge : Int64} :
    Panics (verifyAttestation platform clock oraclePriceData oraclePublicKey priceMaximumAge) ↔
      Signed platform oraclePublicKey oraclePriceData ∧ AgeOverflows clock oraclePriceData := by
  rw [← age_overflows]
  simp only [Panics, verifyAttestation, failsWhere_bind, failsWhere_orFail, failsWhere_require,
    checked_panics, failWith, reduceCtorEq, and_false, false_or, or_false, exists_false,
    orFail_eq_ok, require_eq_ok, checked_eq_ok]
  constructor
  · rintro ⟨signature, decoded, -, verified, -, positive, overflow⟩
    exact ⟨⟨⟨signature, decoded, verified⟩, positive⟩, overflow⟩
  · rintro ⟨⟨⟨signature, decoded, verified⟩, positive⟩, overflow⟩
    exact ⟨signature, decoded, (), verified, (), positive, overflow⟩

theorem check_not_panics {ledger : Ledger} {accounts : BuySolAccounts} :
    ¬Panics (accounts.check platform ledger) := by
  simp [Panics, BuySolAccounts.check, failsWhere_bind, failsWhere_orFail, failsWhere_require,
    abortWith]

private theorem computeTokensRequired_not_panics {solQuantity askPrice : UInt64} :
    ¬Panics (computeTokensRequired solQuantity askPrice) := by
  simp [Panics, computeTokensRequired, failsWhere_bind, failsWhere_orFail, failWith]

/-- The decimal arithmetic is total on a valid configuration, in whatever slot. -/
theorem conversionRate_not_panics {rounding : Rounding}
    (lawful : platform.decimal.Lawful rounding) {configuration : ConfigurationRegistry}
    (valid : configuration.Valid) {oraclePriceData : OraclePriceData} {sLast sNow : UInt64} :
    ¬Panics (mapFailure askPriceFailure
      (configuration.conversionRate platform.decimal oraclePriceData sLast sNow)) := by
  obtain ordered | reversed : sLast ≤ sNow ∨ sNow < sLast := by
    rw [UInt64.le_iff_toNat_le, UInt64.lt_iff_toNat_lt]
    exact le_or_gt _ _
  · obtain ⟨price, priced, -⟩ := conversionRate_of_valid lawful valid oraclePriceData ordered
    rw [priced]
    exact not_failsWhere_ok
  · rw [conversionRate_of_lt lawful configuration oraclePriceData reversed, Panics, mapFailure,
      failsWhere_error]
    simp [askPriceFailure, failWith]

/-- The withdrawal is in order but overflows the balance of the recipient. -/
structure CreditOverflows (platform : Platform) (ledger : Ledger)
    (programConfig journal solRecipient : Pubkey) (amount : UInt64) : Prop where
  programConfig_eq :
    platform.findProgramAddress RevenueDistribution.configAccountSeed = programConfig
  journal_eq : platform.findProgramAddress RevenueDistribution.journalSeed = journal
  funded : ¬ledger.lamports journal < amount
  distinct : solRecipient ≠ journal
  overflow : 2 ^ 64 ≤ (ledger.lamports solRecipient).toNat + amount.toNat

open RevenueDistribution in
/-- What the journal pays to itself was in it before, so only another recipient overflows. -/
theorem withdrawSol_panics {signers : List Pubkey} {ledger : Ledger}
    {programConfig withdrawSolAuthority journal solRecipient : Pubkey} {amount : UInt64}
    (signs : withdrawSolAuthority ∈ signers) :
    withdrawSol platform signers ledger programConfig withdrawSolAuthority journal solRecipient
        amount = .error .panic ↔
      CreditOverflows platform ledger programConfig journal solRecipient amount := by
  simp only [withdrawSol, bind_eq_error, require_eq_error, require_eq_ok, orFail_eq_error,
    orFail_eq_ok, signs, reduceCtorEq, and_false, false_or, subU64_eq_none, addU64_eq_none, pure,
    Except.pure, exists_false, or_false, and_true, not_true, exists_const, true_and]
  constructor
  · rintro ⟨config, journal_eq, funded, underflow | ⟨debited, debited_eq, overflow⟩⟩
    · exact absurd (UInt64.lt_iff_toNat_lt.mpr underflow) funded
    · have distinct : solRecipient ≠ journal := by
        rintro rfl
        simp only [setLamports, Function.update_self] at overflow
        have split := subU64_eq_some.mp debited_eq
        have bound := u64_lt (ledger.lamports solRecipient)
        omega
      simp only [setLamports, Function.update_of_ne distinct] at overflow
      exact ⟨config, journal_eq, funded, distinct, overflow⟩
  · rintro ⟨config, journal_eq, funded, distinct, overflow⟩
    refine ⟨config, journal_eq, funded, .inr ?_⟩
    cases difference : subU64 (ledger.lamports journal) amount with
    | none =>
        exact absurd (UInt64.lt_iff_toNat_lt.mpr (subU64_eq_none.mp difference)) funded
    | some debited =>
        refine ⟨debited, rfl, ?_⟩
        simpa only [setLamports, Function.update_of_ne distinct] using overflow

/-- A fill fits the ring but not the running totals. -/
structure TotalsOverflow (fillsRegistry : FillsRegistry) (solQuantity tokensRequired : UInt64) :
    Prop where
  room : fillsRegistry.count.toNat < maxFillsQueueSize
  overflow : 2 ^ 64 ≤ fillsRegistry.totalSolPending.toNat + solQuantity.toNat ∨
    2 ^ 64 ≤ fillsRegistry.total2zPending.toNat + tokensRequired.toNat

private theorem insert_panics {fillsRegistry : FillsRegistry} (ring : fillsRegistry.Ring)
    {solQuantity tokensRequired : UInt64} :
    Panics (fillsRegistry.insert solQuantity tokensRequired) ↔
      TotalsOverflow fillsRegistry solQuantity tokensRequired := by
  constructor
  · intro panics
    have room : fillsRegistry.count.toNat < maxFillsQueueSize := by
      by_contra full
      rw [FillsRegistry.insert, require_of_not full, error_bind, Panics, failsWhere_error]
        at panics
      cases panics
    refine ⟨room, ?_⟩
    by_contra fits
    rw [not_or, not_le, not_le] at fits
    obtain ⟨next, inserted⟩ := insert_of_room ring room fits.1 fits.2
    rw [inserted] at panics
    exact not_failsWhere_ok panics
  · rintro ⟨room, overflow⟩
    obtain ⟨tail, advanced, -⟩ := advance_of_lt ring.tail_lt
    have count_fits : fillsRegistry.count.toNat + (1 : UInt64).toNat < 2 ^ 64 := by
      have size_lt := maxFillsQueueSize_lt
      rw [UInt64.toNat_one]
      omega
    obtain ⟨count, counted, -⟩ := addU64_of_lt count_fits
    simp only [Panics, FillsRegistry.insert, failsWhere_bind, checked_panics, checked_eq_ok,
      require_eq_ok]
    refine .inr ⟨(), room, .inr ⟨_, fillsIndex_of_lt ring.tail_lt, .inr ⟨tail, advanced,
      .inr ⟨count, counted, ?_⟩⟩⟩⟩
    cases sol : addU64 fillsRegistry.totalSolPending solQuantity with
    | none => exact .inl rfl
    | some totalSolPending =>
        have split := addU64_eq_some.mp sol
        have bound := u64_lt totalSolPending
        refine .inr ⟨totalSolPending, rfl, .inl ?_⟩
        rw [addU64_eq_none]
        omega

end Stages

/-- A purchase whose payment has been transferred. -/
structure Pays (platform : Platform) (context : Context) (state : ConverterState)
    (accounts : BuySolAccounts) (bidPrice : UInt64) (oraclePriceData : OraclePriceData)
    (tokensRequired : UInt64) : Prop where
  guarded : Guarded platform context state accounts oraclePriceData
  priced : ∃ askPrice, Asks platform context state oraclePriceData askPrice ∧
    ¬bidPrice < askPrice ∧
    computeTokensRequired state.configurationRegistry.solQuantity askPrice = .ok tokensRequired

/-- Every way an instruction panics. -/
inductive PanicCause (platform : Platform) (context : Context) (state : ConverterState) :
    Instruction → Prop
  /-- The deny list has been changed too often to count an addition. -/
  | additionUncounted {admin address : Pubkey} :
      admin = state.programState.denyListAuthority →
      address ∉ state.denyListRegistry.deniedAddresses →
      state.denyListRegistry.deniedAddresses.length < maxDenyListSize →
      2 ^ 64 ≤ state.denyListRegistry.updateCount.toNat + 1 →
      PanicCause platform context state (.addToDenyList admin address)
  /-- It has been changed too often to count a removal. -/
  | removalUncounted {admin address : Pubkey} :
      admin = state.programState.denyListAuthority →
      address ∈ state.denyListRegistry.deniedAddresses →
      2 ^ 64 ≤ state.denyListRegistry.updateCount.toNat + 1 →
      PanicCause platform context state (.removeFromDenyList admin address)
  /-- A quote is asked for a signed price of an age beyond every word. -/
  | quoteOutdated {oraclePriceData : OraclePriceData} :
      Signed platform state.configurationRegistry.oraclePubkey oraclePriceData →
      AgeOverflows context.clock oraclePriceData →
      PanicCause platform context state (.getConversionRate oraclePriceData)
  /-- An admitted purchase presents such a price. -/
  | purchaseOutdated {accounts : BuySolAccounts} {bidPrice : UInt64}
      {oraclePriceData : OraclePriceData} :
      accounts.Checked platform context.ledger → state.programState.isHalted = false →
      accounts.signer ∉ state.denyListRegistry.deniedAddresses →
      state.programState.lastTradeSlot < context.clock.slot →
      Signed platform state.configurationRegistry.oraclePubkey oraclePriceData →
      AgeOverflows context.clock oraclePriceData →
      PanicCause platform context state (.buySol accounts bidPrice oraclePriceData)
  /-- The token program panics over the payment. -/
  | paymentPanics {accounts : BuySolAccounts} {bidPrice tokensRequired : UInt64}
      {oraclePriceData : OraclePriceData} :
      Pays platform context state accounts bidPrice oraclePriceData tokensRequired →
      platform.transferChecked context.ledger (accounts.payment tokensRequired) = .error .panic →
      PanicCause platform context state (.buySol accounts bidPrice oraclePriceData)
  /-- The buyer cannot hold the SOL. -/
  | creditOverflows {accounts : BuySolAccounts} {bidPrice tokensRequired : UInt64}
      {oraclePriceData : OraclePriceData} {paid : Ledger} :
      Pays platform context state accounts bidPrice oraclePriceData tokensRequired →
      platform.transferChecked context.ledger (accounts.payment tokensRequired) = .ok paid →
      CreditOverflows platform paid accounts.programConfig accounts.journal accounts.signer
        state.configurationRegistry.solQuantity →
      PanicCause platform context state (.buySol accounts bidPrice oraclePriceData)
  /-- The registry cannot hold the totals. -/
  | totalsOverflow {accounts : BuySolAccounts} {bidPrice tokensRequired : UInt64}
      {oraclePriceData : OraclePriceData} {paid withdrawn : Ledger} :
      Pays platform context state accounts bidPrice oraclePriceData tokensRequired →
      platform.transferChecked context.ledger (accounts.payment tokensRequired) = .ok paid →
      RevenueDistribution.withdrawSol platform [accounts.signer, platform.withdrawSolAuthority]
        paid accounts.programConfig platform.withdrawSolAuthority accounts.journal accounts.signer
        state.configurationRegistry.solQuantity = .ok withdrawn →
      TotalsOverflow state.fillsRegistry state.configurationRegistry.solQuantity tokensRequired →
      PanicCause platform context state (.buySol accounts bidPrice oraclePriceData)

section Instructions

variable {platform : Platform} {context : Context} {state : ConverterState}

theorem requireUpgradeAuthority_not_panics {admin : Pubkey} :
    ¬Panics (requireUpgradeAuthority context admin) := by
  simp [Panics, requireUpgradeAuthority, failsWhere_require, abortWith]

private theorem updateField_not_panics {α : Type} {present : Option α} {stored : α}
    {check : α → Except Failure Unit} (passes : ∀ value, ¬Panics (check value)) :
    ¬Panics (updateField present stored check) := by
  cases present with
  | none => exact not_failsWhere_pure
  | some value =>
      rw [Panics, updateField, failsWhere_bind]
      rintro (panics | ⟨passed, -, panics⟩)
      · exact passes value panics
      · exact not_failsWhere_pure panics

private theorem processUpdate_not_panics {admin : Pubkey} {input : ConfigurationRegistryInput} :
    ¬Panics (processUpdate context state admin input) := by
  have check_not_panics : ∀ (condition : Prop) [Decidable condition] (code : DoubleZeroError),
      ¬Panics (require condition (failWith code)) := by
    intro condition _ code
    simp [failsWhere_require, failWith]
  simp only [processUpdate, failsWhere_bind, check_not_panics, updateField_not_panics,
    not_failsWhere_pure, and_false, exists_false, or_false, not_false_eq_true, implies_true]

theorem record_panics {denyListRegistry : DenyListRegistry} {clock : Clock}
    {deniedAddresses : List Pubkey} :
    Panics (denyListRegistry.record clock deniedAddresses) ↔
      2 ^ 64 ≤ denyListRegistry.updateCount.toNat + 1 := by
  simp only [Panics, DenyListRegistry.record, failsWhere_bind, checked_panics, addU64_eq_none,
    not_failsWhere_pure, and_false, exists_false, or_false, UInt64.toNat_one]

private theorem addToDenyList_panics {admin address : Pubkey} :
    Panics (addToDenyList context state admin address) ↔
      PanicCause platform context state (.addToDenyList admin address) := by
  rw [Panics, addToDenyList]
  simp only [failsWhere_bind, failsWhere_require, require_eq_ok, not_failsWhere_pure, failWith,
    reduceCtorEq, and_false, false_or, exists_false, or_false]
  constructor
  · rintro ⟨-, authorized, -, fresh, -, room, panics⟩
    exact .additionUncounted authorized fresh room (record_panics.mp panics)
  · intro cause
    cases cause with
    | additionUncounted authorized fresh room uncounted =>
        exact ⟨(), authorized, (), fresh, (), room, record_panics.mpr uncounted⟩

private theorem removeFromDenyList_panics {admin address : Pubkey} :
    Panics (removeFromDenyList context state admin address) ↔
      PanicCause platform context state (.removeFromDenyList admin address) := by
  rw [Panics, removeFromDenyList]
  simp only [failsWhere_bind, failsWhere_require, failsWhere_orFail, require_eq_ok, orFail_eq_ok,
    not_failsWhere_pure, failWith, reduceCtorEq, and_false, false_or, exists_false, or_false]
  constructor
  · rintro ⟨-, authorized, pos, found, panics⟩
    have listed : address ∈ state.denyListRegistry.deniedAddresses := by
      by_contra missing
      rw [List.idxOf?_eq_none_iff.mpr missing] at found
      contradiction
    exact .removalUncounted authorized listed (record_panics.mp panics)
  · intro cause
    cases cause with
    | removalUncounted authorized listed uncounted =>
        obtain ⟨pos, found⟩ : ∃ pos, state.denyListRegistry.deniedAddresses.idxOf? address =
            some pos := by
          rw [← Option.isSome_iff_exists, Option.isSome_iff_ne_none, Ne,
            List.idxOf?_eq_none_iff, not_not]
          exact listed
        exact ⟨(), authorized, pos, found, record_panics.mpr uncounted⟩

private theorem dequeueFills_not_panics (consistent : state.fillsRegistry.Consistent)
    {signer : Pubkey}
    {maxSolAmount : UInt64} : ¬Panics (dequeueFills context state signer maxSolAmount) := by
  rw [Panics, dequeueFills]
  simp only [failsWhere_bind, failsWhere_require, not_failsWhere_pure, failWith, reduceCtorEq,
    and_false, false_or, exists_false, or_false]
  rintro ⟨-, -, -, -, panics⟩
  obtain pending | empty := em (0 < state.fillsRegistry.count)
  · obtain ⟨next, result, dequeued, -⟩ := dequeue_of_pending consistent pending maxSolAmount
    rw [dequeued] at panics
    exact not_failsWhere_ok panics
  · rw [dequeue_of_empty empty, failsWhere_error] at panics
    cases panics

private theorem getConversionRate_panics {rounding : Rounding}
    (lawful : platform.decimal.Lawful rounding) (valid : state.configurationRegistry.Valid)
    {oraclePriceData : OraclePriceData} :
    Panics (getConversionRate platform context state oraclePriceData) ↔
      PanicCause platform context state (.getConversionRate oraclePriceData) := by
  rw [Panics, getConversionRate, failsWhere_bind]
  constructor
  · rintro (panics | ⟨-, -, panics⟩)
    · obtain ⟨signed, outdated⟩ := verifyAttestation_panics.mp panics
      exact .quoteOutdated signed outdated
    · exact absurd panics (conversionRate_not_panics lawful valid)
  · intro cause
    cases cause with
    | quoteOutdated signed outdated =>
        exact .inl (verifyAttestation_panics.mpr ⟨signed, outdated⟩)

private theorem buySol_panics {rounding : Rounding} (lawful : platform.decimal.Lawful rounding)
    (valid : state.configurationRegistry.Valid) (ring : state.fillsRegistry.Ring)
    {accounts : BuySolAccounts} {bidPrice : UInt64} {oraclePriceData : OraclePriceData} :
    Panics (buySol platform context state accounts bidPrice oraclePriceData) ↔
      PanicCause platform context state (.buySol accounts bidPrice oraclePriceData) := by
  have signs : platform.withdrawSolAuthority ∈
      [accounts.signer, platform.withdrawSolAuthority] := by simp
  rw [buySol]
  simp only [failsWhere_bind, failsWhere_require, check_not_panics, verifyAttestation_panics,
    conversionRate_not_panics lawful valid, computeTokensRequired_not_panics, abortWith_panics,
    withdrawSol_panics signs, insert_panics ring, check_eq_ok, require_eq_ok, mapFailure_eq_ok,
    not_failsWhere_pure, failWith, reduceCtorEq, and_false, false_or, exists_false, or_false]
  constructor
  · rintro ⟨-, checked, -, running, -, admitted, -, later, ⟨signed, outdated⟩ |
      ⟨⟨⟩, verified, askPrice, asked, -, met, tokensRequired, priced, reason⟩⟩
    · exact .purchaseOutdated checked running admitted later signed outdated
    · have pays : Pays platform context state accounts bidPrice oraclePriceData tokensRequired :=
        ⟨⟨checked, running, admitted, later, verified⟩, askPrice, asked, met, priced⟩
      obtain panics | ⟨paid, transferred, credit | ⟨withdrawn, withdrew, totals⟩⟩ := reason
      · exact .paymentPanics pays panics
      · exact .creditOverflows pays transferred credit
      · exact .totalsOverflow pays transferred withdrew totals
  · intro cause
    cases cause with
    | purchaseOutdated checked running admitted later signed outdated =>
        exact ⟨(), checked, (), running, (), admitted, (), later, .inl ⟨signed, outdated⟩⟩
    | paymentPanics pays panics =>
        obtain ⟨⟨checked, running, admitted, later, verified⟩, askPrice, asked, met, priced⟩ := pays
        exact ⟨(), checked, (), running, (), admitted, (), later, .inr ⟨(), verified, askPrice,
          asked, (), met, _, priced, .inl panics⟩⟩
    | creditOverflows pays transferred credit =>
        obtain ⟨⟨checked, running, admitted, later, verified⟩, askPrice, asked, met, priced⟩ := pays
        exact ⟨(), checked, (), running, (), admitted, (), later, .inr ⟨(), verified, askPrice,
          asked, (), met, _, priced, .inr ⟨_, transferred, .inl credit⟩⟩⟩
    | totalsOverflow pays transferred withdrew totals =>
        obtain ⟨⟨checked, running, admitted, later, verified⟩, askPrice, asked, met, priced⟩ := pays
        exact ⟨(), checked, (), running, (), admitted, (), later, .inr ⟨(), verified, askPrice,
          asked, (), met, _, priced, .inr ⟨_, transferred, .inr ⟨_, withdrew, totals⟩⟩⟩⟩

end Instructions

/-- From a reachable state an instruction panics for exactly one of the listed causes. -/
theorem panics_exactly {platform : Platform} {rounding : Rounding}
    (lawful : platform.decimal.Lawful rounding) {state : ConverterState}
    (reachable : Reachable platform state) (context : Context) (instruction : Instruction) :
    Panics (processInstruction platform state (context, instruction)) ↔
      PanicCause platform context state instruction := by
  have valid := valid_of_reachable reachable
  have consistent := consistent_of_reachable reachable
  cases instruction with
  | initializeSystem arguments =>
      simp only [processInstruction, failsWhere_error, abortWith, reduceCtorEq, false_iff]
      rintro ⟨⟩
  | updateConfigurationRegistry admin input =>
      exact iff_of_false processUpdate_not_panics (by rintro ⟨⟩)
  | setFillsConsumer admin newConsumer =>
      refine iff_of_false ?_ (by rintro ⟨⟩)
      simp only [processInstruction, setFillsConsumer, failsWhere_bind, failsWhere_require,
        not_failsWhere_pure, failWith, reduceCtorEq, and_false, exists_false, or_false,
        not_false_eq_true]
  | addToDenyList admin address => exact addToDenyList_panics
  | removeFromDenyList admin address => exact removeFromDenyList_panics
  | setAdmin admin newAdmin =>
      refine iff_of_false ?_ (by rintro ⟨⟩)
      simp only [processInstruction, setAdmin, failsWhere_bind, requireUpgradeAuthority_not_panics,
        not_failsWhere_pure, and_false, exists_false, or_false, not_false_eq_true]
  | setDenyListAuthority admin newAuthority =>
      refine iff_of_false ?_ (by rintro ⟨⟩)
      simp only [processInstruction, setDenyListAuthority, failsWhere_bind,
        requireUpgradeAuthority_not_panics, not_failsWhere_pure, and_false, exists_false, or_false,
        not_false_eq_true]
  | toggleSystemState admin setTo =>
      refine iff_of_false ?_ (by rintro ⟨⟩)
      rw [processInstruction, toggleSystemState]
      split <;> [skip; split] <;>
        simp only [failsWhere_bind, failsWhere_require, not_failsWhere_pure, failsWhere_error,
          failWith, reduceCtorEq, and_false, exists_false, or_false, not_false_eq_true]
  | buySol accounts bidPrice oraclePriceData =>
      exact buySol_panics lawful valid consistent.toRing
  | getConversionRate oraclePriceData =>
      rw [← getConversionRate_panics lawful valid, processInstruction, Panics, failsWhere_bind]
      simp only [not_failsWhere_pure, and_false, exists_false, or_false]
  | dequeueFills signer maxSolAmount =>
      exact iff_of_false (dequeueFills_not_panics consistent) (by rintro ⟨⟩)

/-- A clock at the end of its range makes the signed price of the local oracle panic. -/
theorem panics_exactly_local :
    Panics (processInstruction Local.platform Local.initial
      (⟨⟨200, 3, Int64.minValue⟩, Local.ledger, some Local.admin⟩,
        .getConversionRate Local.price)) := by
  have signed : Signed Local.platform Local.initial.configurationRegistry.oraclePubkey
      Local.price :=
    let attested := attested_of_verifyAttestation Local.verified
    ⟨attested.signed, attested.positive⟩
  have outdated : AgeOverflows ⟨200, 3, Int64.minValue⟩ Local.price := by
    unfold AgeOverflows
    decide
  exact (panics_exactly nearestArithmetic_lawful Local.initial_reachable _ _).mpr
    (.quoteOutdated signed outdated)

end SolConversion.OnChain
