import SolConversion.OnChain.AskPrice
import SolConversion.OnChain.FillsRegistry

/-!
# Buying SOL

A buyer bids for the configured quantity of SOL.  An admitted bid at or above the ask price pays
tokens, withdraws the SOL through the revenue distribution program and records a fill.
-/

namespace SolConversion.OnChain

open FixedWidth Fallible

namespace RevenueDistribution

/-- `MOCK_2Z_TOKEN_MINT_SEED` -/
def tokenMintSeed : String := "double_zero_mint"

/-- `MOCK_PROTOCOL_TREASURY_SEED` -/
def protocolTreasurySeed : String := "protocol_treasury"

/-- `MOCK_CONFIG_ACCOUNT_SEED` -/
def configAccountSeed : String := "config"

/-- `MOCK_JOURNAL_SEED` -/
def journalSeed : String := "jour"

/-- Write the lamports of an account. -/
def setLamports (ledger : Ledger) (account : Pubkey) (amount : UInt64) : Ledger :=
  { ledger with lamports := Function.update ledger.lamports account amount }

/-- `withdraw_sol`: pay SOL from the journal, reading and writing the two balances in turn. -/
def withdrawSol (platform : Platform) (signers : List Pubkey) (ledger : Ledger)
    (programConfig withdrawSolAuthority journal solRecipient : Pubkey) (amount : UInt64) :
    Except ProgramError Ledger := do
  require (withdrawSolAuthority ∈ signers) .missingRequiredSignature
  require (platform.findProgramAddress configAccountSeed = programConfig) .invalidPda
  require (platform.findProgramAddress journalSeed = journal) .invalidPda
  require (¬ledger.lamports journal < amount) .insufficientFunds
  let debited ← orFail .panic (subU64 (ledger.lamports journal) amount)
  let ledger := setLamports ledger journal debited
  let credited ← orFail .panic (addU64 (ledger.lamports solRecipient) amount)
  return setLamports ledger solRecipient credited

end RevenueDistribution

/-- The accounts of `buy_sol` that its caller chooses. -/
structure BuySolAccounts where
  userTokenAccount : Pubkey
  protocolTreasuryTokenAccount : Pubkey
  doubleZeroMint : Pubkey
  programConfig : Pubkey
  journal : Pubkey
  tokenProgram : Pubkey
  signer : Pubkey
  deriving DecidableEq

/-- The declared constraints: every account is loaded before any constraint is checked. -/
def BuySolAccounts.check (platform : Platform) (ledger : Ledger) (accounts : BuySolAccounts) :
    Except Failure Unit := do
  let userTokenAccount ← orFail (abortWith (.anchor .accountNotInitialized))
    (ledger.tokenAccounts accounts.userTokenAccount)
  let protocolTreasuryTokenAccount ← orFail (abortWith (.anchor .accountNotInitialized))
    (ledger.tokenAccounts accounts.protocolTreasuryTokenAccount)
  require (ledger.mints accounts.doubleZeroMint = true)
    (abortWith (.anchor .accountNotInitialized))
  require (accounts.tokenProgram ∈ platform.tokenPrograms) (abortWith (.anchor .invalidProgramId))
  require (userTokenAccount.mint = accounts.doubleZeroMint)
    (abortWith (.anchor .constraintTokenMint))
  require (userTokenAccount.owner = accounts.signer) (abortWith (.anchor .constraintRaw))
  require (protocolTreasuryTokenAccount.mint = accounts.doubleZeroMint)
    (abortWith (.anchor .constraintTokenMint))

/-- The transfer of the payment. -/
def BuySolAccounts.payment (accounts : BuySolAccounts) (tokensRequired : UInt64) :
    TransferChecked where
  tokenProgram := accounts.tokenProgram
  mint := accounts.doubleZeroMint
  source := accounts.userTokenAccount
  destination := accounts.protocolTreasuryTokenAccount
  authority := accounts.signer
  amount := tokensRequired
  decimals := tokenDecimals

/-- `sol_quantity * ask_price / LAMPORTS_PER_SOL` in checked arithmetic. -/
def computeTokensRequired (solQuantity askPrice : UInt64) : Except Failure UInt64 := do
  let product ← orFail (failWith .arithmeticError) (mulU128 solQuantity.toNat askPrice.toNat)
  orFail (failWith .arithmeticError) (toU64 (product / lamportsPerSol))

def buySol (platform : Platform) (context : Context) (state : ConverterState)
    (accounts : BuySolAccounts) (bidPrice : UInt64) (oraclePriceData : OraclePriceData) :
    Except Failure (ConverterState × Receipt) := do
  accounts.check platform context.ledger
  require (state.programState.isHalted = false) (failWith .systemIsHalted)
  require (accounts.signer ∉ state.denyListRegistry.deniedAddresses)
    (failWith .userInsideDenyList)
  require (context.clock.slot > state.programState.lastTradeSlot) (failWith .singleTradePerSlot)
  verifyAttestation platform context.clock oraclePriceData
    state.configurationRegistry.oraclePubkey state.configurationRegistry.priceMaximumAge
  let solQuantity := state.configurationRegistry.solQuantity
  let askPrice ← mapFailure askPriceFailure (state.configurationRegistry.conversionRate
    platform.decimal oraclePriceData state.programState.lastTradeSlot context.clock.slot)
  require (¬bidPrice < askPrice)
    ⟨.custom .bidTooLow, [.bidTooLow
      { solAmount := solQuantity
        bidPrice
        askPrice
        timestamp := context.clock.unixTimestamp
        buyer := accounts.signer
        epoch := context.clock.epoch }]⟩
  let tokensRequired ← computeTokensRequired solQuantity askPrice
  let paid ← mapFailure abortWith
    (platform.transferChecked context.ledger (accounts.payment tokensRequired))
  -- only these four accounts reach the revenue distribution program
  let withdrawn ← mapFailure abortWith (RevenueDistribution.withdrawSol platform
    [accounts.signer, platform.withdrawSolAuthority] paid accounts.programConfig
    platform.withdrawSolAuthority accounts.journal accounts.signer solQuantity)
  let fillsRegistry ← state.fillsRegistry.insert solQuantity tokensRequired
  return ({ state with
      fillsRegistry
      programState := { state.programState with lastTradeSlot := context.clock.slot } },
    { events := [.trade
        { solAmount := solQuantity
          tokenAmount := tokensRequired
          bidPrice
          timestamp := context.clock.unixTimestamp
          buyer := accounts.signer
          epoch := context.clock.epoch }]
      returned := .none
      ledger := withdrawn })

/-- The accounts satisfy the declared constraints. -/
structure BuySolAccounts.Checked (platform : Platform) (ledger : Ledger)
    (accounts : BuySolAccounts) : Prop where
  user : ∃ holding, ledger.tokenAccounts accounts.userTokenAccount = some holding ∧
    holding.mint = accounts.doubleZeroMint ∧ holding.owner = accounts.signer
  treasury : ∃ holding, ledger.tokenAccounts accounts.protocolTreasuryTokenAccount =
    some holding ∧ holding.mint = accounts.doubleZeroMint
  mint : ledger.mints accounts.doubleZeroMint = true
  tokenProgram : accounts.tokenProgram ∈ platform.tokenPrograms

theorem check_eq_ok {platform : Platform} {ledger : Ledger} {accounts : BuySolAccounts}
    {done : Unit} :
    accounts.check platform ledger = .ok done ↔ accounts.Checked platform ledger := by
  simp only [BuySolAccounts.check, bind_eq_ok, orFail_eq_ok, require_eq_ok]
  constructor
  · rintro ⟨user, user_eq, treasury, treasury_eq, -, mint, -, program, -, user_mint, -, owner,
      treasury_mint⟩
    exact ⟨⟨user, user_eq, user_mint, owner⟩, ⟨treasury, treasury_eq, treasury_mint⟩, mint,
      program⟩
  · rintro ⟨⟨user, user_eq, user_mint, owner⟩, ⟨treasury, treasury_eq, treasury_mint⟩, mint,
      program⟩
    exact ⟨user, user_eq, treasury, treasury_eq, (), mint, (), program, (), user_mint, (), owner,
      treasury_mint⟩

theorem computeTokensRequired_eq_ok {solQuantity askPrice tokensRequired : UInt64} :
    computeTokensRequired solQuantity askPrice = .ok tokensRequired ↔
      solQuantity.toNat * askPrice.toNat / lamportsPerSol = tokensRequired.toNat := by
  simp [computeTokensRequired, mulU128_of_u64]

/-- A withdrawal pays the amount from the journal to the recipient. -/
structure RevenueDistribution.Withdraws (platform : Platform) (before after : Ledger)
    (programConfig journal solRecipient : Pubkey) (amount : UInt64) : Prop where
  programConfig_eq : programConfig = platform.findProgramAddress configAccountSeed
  journal_eq : journal = platform.findProgramAddress journalSeed
  tokenAccounts_eq : after.tokenAccounts = before.tokenAccounts
  paid : journal ≠ solRecipient →
    (after.lamports journal).toNat + amount.toNat = (before.lamports journal).toNat ∧
      (after.lamports solRecipient).toNat = (before.lamports solRecipient).toNat + amount.toNat

theorem withdraws_of_withdrawSol {platform : Platform} {signers : List Pubkey}
    {before after : Ledger} {programConfig withdrawSolAuthority journal solRecipient : Pubkey}
    {amount : UInt64}
    (success : RevenueDistribution.withdrawSol platform signers before programConfig
      withdrawSolAuthority journal solRecipient amount = .ok after) :
    RevenueDistribution.Withdraws platform before after programConfig journal solRecipient
      amount := by
  simp only [RevenueDistribution.withdrawSol, bind_eq_ok, require_eq_ok, orFail_eq_ok,
    pure_eq_ok, subU64_eq_some, addU64_eq_some] at success
  obtain ⟨-, -, -, config, -, journal_eq, -, -, debited, debited_eq, credited, credited_eq, rfl⟩ :=
    success
  refine ⟨config.symm, journal_eq.symm, rfl, fun distinct => ?_⟩
  simp only [RevenueDistribution.setLamports, Function.update_self,
    Function.update_of_ne distinct.symm, Function.update_of_ne distinct] at credited_eq ⊢
  omega

/-- A successful purchase: every check passed and every effect happened. -/
structure Trades (platform : Platform) (context : Context) (state : ConverterState)
    (accounts : BuySolAccounts) (bidPrice : UInt64) (oraclePriceData : OraclePriceData)
    (askPrice tokensRequired : UInt64) (paid : Ledger) (next : ConverterState)
    (receipt : Receipt) : Prop where
  checked : accounts.Checked platform context.ledger
  running : state.programState.isHalted = false
  admitted : accounts.signer ∉ state.denyListRegistry.deniedAddresses
  later : state.programState.lastTradeSlot < context.clock.slot
  verified : verifyAttestation platform context.clock oraclePriceData
    state.configurationRegistry.oraclePubkey state.configurationRegistry.priceMaximumAge = .ok ()
  asked : state.configurationRegistry.conversionRate platform.decimal oraclePriceData
    state.programState.lastTradeSlot context.clock.slot = .ok askPrice
  met : ¬bidPrice < askPrice
  priced : computeTokensRequired state.configurationRegistry.solQuantity askPrice =
    .ok tokensRequired
  transferred : platform.transferChecked context.ledger (accounts.payment tokensRequired) =
    .ok paid
  withdrawn : RevenueDistribution.withdrawSol platform
    [accounts.signer, platform.withdrawSolAuthority] paid accounts.programConfig
    platform.withdrawSolAuthority accounts.journal accounts.signer
    state.configurationRegistry.solQuantity = .ok receipt.ledger
  inserted : state.fillsRegistry.insert state.configurationRegistry.solQuantity tokensRequired =
    .ok next.fillsRegistry
  programState_eq : next.programState =
    { state.programState with lastTradeSlot := context.clock.slot }
  configurationRegistry_eq : next.configurationRegistry = state.configurationRegistry
  denyListRegistry_eq : next.denyListRegistry = state.denyListRegistry
  events_eq : receipt.events = [.trade
    { solAmount := state.configurationRegistry.solQuantity
      tokenAmount := tokensRequired
      bidPrice
      timestamp := context.clock.unixTimestamp
      buyer := accounts.signer
      epoch := context.clock.epoch }]
  returned_eq : receipt.returned = .none

theorem buySol_eq_ok {platform : Platform} {context : Context} {state next : ConverterState}
    {accounts : BuySolAccounts} {bidPrice : UInt64} {oraclePriceData : OraclePriceData}
    {receipt : Receipt} :
    buySol platform context state accounts bidPrice oraclePriceData = .ok (next, receipt) ↔
      ∃ askPrice tokensRequired paid, Trades platform context state accounts bidPrice
        oraclePriceData askPrice tokensRequired paid next receipt := by
  simp only [buySol, bind_eq_ok, require_eq_ok, mapFailure_eq_ok, pure_eq_ok, check_eq_ok,
    Prod.mk.injEq]
  constructor
  · rintro ⟨-, checked, -, running, -, admitted, -, later, ⟨⟩, verified, askPrice, asked, -, met,
      tokensRequired, priced, paid, transferred, withdrawn, withdrew, fillsRegistry, inserted, rfl,
      rfl⟩
    exact ⟨askPrice, tokensRequired, paid, checked, running, admitted, later, verified, asked, met,
      priced, transferred, withdrew, inserted, rfl, rfl, rfl, rfl, rfl⟩
  · rintro ⟨askPrice, tokensRequired, paid, trades⟩
    have next_eq : { state with
        fillsRegistry := next.fillsRegistry
        programState := { state.programState with lastTradeSlot := context.clock.slot } } =
          next := by
      rw [← trades.programState_eq, ← trades.configurationRegistry_eq,
        ← trades.denyListRegistry_eq]
    have receipt_eq : Receipt.mk [.trade
        { solAmount := state.configurationRegistry.solQuantity
          tokenAmount := tokensRequired
          bidPrice
          timestamp := context.clock.unixTimestamp
          buyer := accounts.signer
          epoch := context.clock.epoch }] .none receipt.ledger = receipt := by
      rw [← trades.events_eq, ← trades.returned_eq]
    exact ⟨(), trades.checked, (), trades.running, (), trades.admitted, (), trades.later, (),
      trades.verified, askPrice, trades.asked, (), trades.met, tokensRequired, trades.priced, paid,
      trades.transferred, receipt.ledger, trades.withdrawn, next.fillsRegistry, trades.inserted,
      next_eq, receipt_eq⟩

end SolConversion.OnChain
