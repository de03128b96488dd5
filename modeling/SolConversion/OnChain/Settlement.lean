import SolConversion.OnChain.LocalDeployment

/-!
# Settlement of trades

A trade should pay the protocol treasury in 2Z and the buyer in SOL.  The revenue distribution
program receives neither the mint nor the treasury account of the payment, so only the caller's
choice decides where the tokens go: a trade settles exactly when the treasury account it names is
the real one, or when it costs nothing.
-/

namespace SolConversion.OnChain

open DecimalFormat Fallible

/-- The 2Z mint. -/
def Platform.doubleZeroMint (platform : Platform) : Pubkey :=
  platform.findProgramAddress RevenueDistribution.tokenMintSeed

/-- The account that collects the payments. -/
def Platform.protocolTreasury (platform : Platform) : Pubkey :=
  platform.findProgramAddress RevenueDistribution.protocolTreasurySeed

/-- The account that holds the SOL for sale. -/
def Platform.journal (platform : Platform) : Pubkey :=
  platform.findProgramAddress RevenueDistribution.journalSeed

/-- What the token programs document about a transfer of 2Z, whose mint takes no fees: it moves the
amount, and transfers of other mints, with or without fees, move none of it. -/
structure Platform.MovesTokens (platform : Platform) (nativeMint : Pubkey) : Prop where
  balance : ∀ ledger transfer next, platform.transferChecked ledger transfer = .ok next →
    ∀ account,
      next.balance platform.doubleZeroMint account +
          (if account = transfer.source ∧ platform.doubleZeroMint = transfer.mint then
            transfer.amount.toNat else 0) =
        ledger.balance platform.doubleZeroMint account +
          (if account = transfer.destination ∧ platform.doubleZeroMint = transfer.mint then
            transfer.amount.toNat else 0)
  /-- Only wrapped SOL takes its lamports along. -/
  lamports : ∀ ledger transfer next, platform.transferChecked ledger transfer = .ok next →
    transfer.mint = platform.doubleZeroMint ∧ transfer.mint ≠ nativeMint ∨ transfer.amount = 0 →
      next.lamports = ledger.lamports

/-- What `initialize` leaves behind: a treasury account of the mint, owned by the token program. -/
structure TreasuryInitialized (platform : Platform) (nativeMint : Pubkey) (ledger : Ledger) :
    Prop where
  treasury : ∃ holding, ledger.tokenAccounts platform.protocolTreasury = some holding ∧
    holding.mint = platform.doubleZeroMint ∧ holding.owner ∈ platform.tokenPrograms
  mint_ne_native : platform.doubleZeroMint ≠ nativeMint

/-- A key that signs a transaction: nobody holds a key for a program or a derived address. -/
structure SignsTransactions (platform : Platform) (key : Pubkey) : Prop where
  not_program : key ∉ platform.tokenPrograms
  not_journal : key ≠ platform.journal

/-- The trade reported by an event moved the tokens, the SOL and the fill it should. -/
structure Settles (platform : Platform) (before after : Ledger) (state next : ConverterState)
    (accounts : BuySolAccounts) (event : TradeEvent) : Prop where
  treasury_rises : after.balance platform.doubleZeroMint platform.protocolTreasury =
    before.balance platform.doubleZeroMint platform.protocolTreasury + event.tokenAmount.toNat
  buyer_pays : after.balance platform.doubleZeroMint accounts.userTokenAccount +
      event.tokenAmount.toNat =
    before.balance platform.doubleZeroMint accounts.userTokenAccount
  buyer_receives : (after.lamports accounts.signer).toNat =
    (before.lamports accounts.signer).toNat + state.configurationRegistry.solQuantity.toNat
  journal_pays : (after.lamports platform.journal).toNat +
      state.configurationRegistry.solQuantity.toNat =
    (before.lamports platform.journal).toNat
  recorded : viewFillsRegistry next.fillsRegistry = viewFillsRegistry state.fillsRegistry ++
    [⟨state.configurationRegistry.solQuantity, event.tokenAmount⟩]

/-- What the configured quantity costs, in the token's smallest units times lamports per SOL. -/
def scaledCost (state : ConverterState) (clock : Clock) (oraclePriceData : OraclePriceData) : ℕ :=
  state.configurationRegistry.solQuantity.toNat *
    state.configurationRegistry.priceAfter oraclePriceData.swapRate.toNat
      (clock.slot.toNat - state.programState.lastTradeSlot.toNat)

section Settlement

variable {platform : Platform} {rounding : Rounding} {nativeMint : Pubkey} {context : Context}
  {state next : ConverterState} {accounts : BuySolAccounts} {bidPrice : UInt64}
  {oraclePriceData : OraclePriceData} {askPrice tokensRequired : UInt64} {paid : Ledger}
  {receipt : Receipt}

/-- A trade costs nothing exactly when its scaled cost is below one SOL. -/
theorem tokensRequired_eq_zero_iff (lawful : platform.decimal.Lawful rounding)
    (valid : state.configurationRegistry.Valid)
    (trades : Trades platform context state accounts bidPrice oraclePriceData askPrice
      tokensRequired paid next receipt) :
    tokensRequired.toNat = 0 ↔ scaledCost state context.clock oraclePriceData < lamportsPerSol := by
  obtain ⟨price, computed, price_eq⟩ := conversionRate_of_valid lawful valid oraclePriceData
    (UInt64.le_of_lt trades.later)
  have same_price : askPrice = price := by
    have asked := trades.asked
    rw [computed] at asked
    exact (Except.ok.inj asked).symm
  rw [← computeTokensRequired_eq_ok.mp trades.priced, same_price, price_eq, ← scaledCost,
    Nat.div_eq_zero_iff]
  simp [lamportsPerSol]

theorem balance_of_trades
    (trades : Trades platform context state accounts bidPrice oraclePriceData askPrice
      tokensRequired paid next receipt) (mint account : Pubkey) :
    receipt.ledger.balance mint account = paid.balance mint account := by
  have withdraws := withdraws_of_withdrawSol trades.withdrawn
  rw [Ledger.balance, Ledger.balance, withdraws.tokenAccounts_eq]

/-- The buyer's token account is not the treasury, whose owner cannot sign. -/
theorem user_ne_treasury (world : TreasuryInitialized platform nativeMint context.ledger)
    (signs : SignsTransactions platform accounts.signer)
    (checked : accounts.Checked platform context.ledger) :
    accounts.userTokenAccount ≠ platform.protocolTreasury := by
  intro same
  obtain ⟨holding, held, -, owner_eq⟩ := checked.user
  obtain ⟨treasury, treasury_held, -, owner_program⟩ := world.treasury
  rw [same, treasury_held, Option.some.injEq] at held
  rw [held, owner_eq] at owner_program
  exact signs.not_program owner_program

theorem named_mint (world : TreasuryInitialized platform nativeMint context.ledger)
    (checked : accounts.Checked platform context.ledger)
    (named : accounts.protocolTreasuryTokenAccount = platform.protocolTreasury) :
    accounts.doubleZeroMint = platform.doubleZeroMint := by
  obtain ⟨holding, held, mint_eq⟩ := checked.treasury
  obtain ⟨treasury, treasury_held, treasury_mint, -⟩ := world.treasury
  rw [named, treasury_held, Option.some.injEq] at held
  rw [← mint_eq, ← held, treasury_mint]

private theorem lamports_of_trades (moves : platform.MovesTokens nativeMint)
    (signs : SignsTransactions platform accounts.signer)
    (trades : Trades platform context state accounts bidPrice oraclePriceData askPrice
      tokensRequired paid next receipt)
    (plain : accounts.doubleZeroMint = platform.doubleZeroMint ∧
      accounts.doubleZeroMint ≠ nativeMint ∨ tokensRequired = 0) :
    (receipt.ledger.lamports accounts.signer).toNat =
        (context.ledger.lamports accounts.signer).toNat +
          state.configurationRegistry.solQuantity.toNat ∧
      (receipt.ledger.lamports platform.journal).toNat +
          state.configurationRegistry.solQuantity.toNat =
        (context.ledger.lamports platform.journal).toNat := by
  have withdraws := withdraws_of_withdrawSol trades.withdrawn
  have journal_eq : accounts.journal = platform.journal := withdraws.journal_eq
  have distinct : accounts.journal ≠ accounts.signer := by
    rw [journal_eq]
    exact signs.not_journal.symm
  obtain ⟨journal_pays, buyer_receives⟩ := withdraws.paid distinct
  rw [moves.lamports _ _ _ trades.transferred plain, journal_eq] at journal_pays
  rw [moves.lamports _ _ _ trades.transferred plain] at buyer_receives
  exact ⟨buyer_receives, journal_pays⟩

/-- A trade that pays the real treasury, or has nothing to pay, settles. -/
theorem settles_of_named_or_free (moves : platform.MovesTokens nativeMint)
    (reachable : Reachable platform state)
    (world : TreasuryInitialized platform nativeMint context.ledger)
    (signs : SignsTransactions platform accounts.signer)
    (trades : Trades platform context state accounts bidPrice oraclePriceData askPrice
      tokensRequired paid next receipt)
    (condition : accounts.protocolTreasuryTokenAccount = platform.protocolTreasury ∨
      tokensRequired.toNat = 0) :
    ∃ event, receipt.events = [.trade event] ∧
      Settles platform context.ledger receipt.ledger state next accounts event := by
  have plain : accounts.doubleZeroMint = platform.doubleZeroMint ∧
      accounts.doubleZeroMint ≠ nativeMint ∨ tokensRequired = 0 := by
    rcases condition with named | free
    · have real := named_mint world trades.checked named
      exact .inl ⟨real, real ▸ world.mint_ne_native⟩
    · exact .inr (UInt64.toNat_inj.mp free)
  have not_user := user_ne_treasury world signs trades.checked
  have balances := moves.balance _ _ _ trades.transferred
  simp only [BuySolAccounts.payment, ← balance_of_trades trades] at balances
  have treasury_moves := balances platform.protocolTreasury
  have buyer_moves := balances accounts.userTokenAccount
  have recorded := viewFillsRegistry_insert (consistent_of_reachable reachable).toRing
    trades.inserted
  obtain ⟨buyer_receives, journal_pays⟩ := lamports_of_trades moves signs trades plain
  refine ⟨_, trades.events_eq, ?_, ?_, buyer_receives, journal_pays, recorded⟩
  · rcases condition with named | free
    · simpa [not_user.symm, named, named_mint world trades.checked named] using treasury_moves
    · simpa [free] using treasury_moves
  · rcases condition with named | free
    · simpa [not_user, named, named_mint world trades.checked named] using buyer_moves
    · simpa [free] using buyer_moves

/-- A trade whose payment goes elsewhere leaves the treasury's balance as it is. -/
theorem named_or_free_of_settles (moves : platform.MovesTokens nativeMint)
    (world : TreasuryInitialized platform nativeMint context.ledger)
    (signs : SignsTransactions platform accounts.signer)
    (trades : Trades platform context state accounts bidPrice oraclePriceData askPrice
      tokensRequired paid next receipt)
    {event : TradeEvent} (events_eq : receipt.events = [.trade event])
    (settles : Settles platform context.ledger receipt.ledger state next accounts event) :
    accounts.protocolTreasuryTokenAccount = platform.protocolTreasury ∨
      tokensRequired.toNat = 0 := by
  have event_eq : event.tokenAmount = tokensRequired := by
    rw [trades.events_eq] at events_eq
    cases events_eq
    rfl
  by_contra neither
  obtain ⟨other_treasury, costs⟩ := not_or.mp neither
  have not_user := user_ne_treasury world signs trades.checked
  have unmoved := moves.balance _ _ _ trades.transferred platform.protocolTreasury
  have rises := settles.treasury_rises
  simp only [BuySolAccounts.payment, ← balance_of_trades trades, not_user.symm,
    Ne.symm other_treasury, false_and, if_false] at unmoved
  rw [event_eq] at rises
  omega

/-- A successful purchase settles exactly when it names the real treasury or costs nothing. -/
theorem buySol_settles_iff (lawful : platform.decimal.Lawful rounding)
    (moves : platform.MovesTokens nativeMint) (reachable : Reachable platform state)
    (world : TreasuryInitialized platform nativeMint context.ledger)
    (signs : SignsTransactions platform accounts.signer)
    (success : buySol platform context state accounts bidPrice oraclePriceData =
      .ok (next, receipt)) :
    (∃ event, receipt.events = [.trade event] ∧
        Settles platform context.ledger receipt.ledger state next accounts event) ↔
      accounts.protocolTreasuryTokenAccount = platform.protocolTreasury ∨
        scaledCost state context.clock oraclePriceData < lamportsPerSol := by
  obtain ⟨askPrice, tokensRequired, paid, trades⟩ := buySol_eq_ok.mp success
  rw [← tokensRequired_eq_zero_iff lawful (valid_of_reachable reachable) trades]
  constructor
  · rintro ⟨event, events_eq, settles⟩
    exact named_or_free_of_settles moves world signs trades events_eq settles
  · exact settles_of_named_or_free moves reachable world signs trades

theorem Local.platform_movesTokens (nativeMint : Pubkey) :
    Local.platform.MovesTokens nativeMint where
  balance _ _ _ success := transferTokens_balance success Local.platform.doubleZeroMint
  lamports _ _ _ success _ := transferTokens_lamports success

theorem Local.buyer_signs : SignsTransactions Local.platform Local.buyer where
  not_program := by decide
  not_journal := by decide

theorem Local.ledger_initialized :
    TreasuryInitialized Local.platform 0#256 Local.ledger where
  treasury := ⟨_, rfl, rfl, by decide⟩
  mint_ne_native := by decide

/-- The honest trade of the local deployment. -/
theorem buySol_settles_iff_local : ∃ next receipt,
    buySol Local.platform (Local.context 200 Local.ledger) Local.initial Local.buyAccounts
        200000000 Local.price = .ok (next, receipt) ∧
      ((∃ event, receipt.events = [.trade event] ∧
          Settles Local.platform Local.ledger receipt.ledger Local.initial next Local.buyAccounts
            event) ↔
        Local.buyAccounts.protocolTreasuryTokenAccount = Local.platform.protocolTreasury ∨
          scaledCost Local.initial ⟨200, 3, 1700000100⟩ Local.price < lamportsPerSol) := by
  obtain ⟨next, receipt, success⟩ := Local.trade_ok
  exact ⟨next, receipt, success, buySol_settles_iff nearestArithmetic_lawful
    (Local.platform_movesTokens 0#256) Local.initial_reachable Local.ledger_initialized
    Local.buyer_signs success⟩

end Settlement

namespace Local

/-- A mint made by the buyer. -/
def ownMint : Pubkey := 0x66#256

def ownTokenAccount : Pubkey := 0x67#256

/-- The buyer's account that stands in for the treasury. -/
def ownTreasury : Pubkey := 0x68#256

/-- The buyer adds a mint and two accounts of it to the ledger. -/
def ownLedger : Ledger where
  tokenAccounts account :=
    if account = ownTokenAccount then some ⟨ownMint, buyer, 10000000000⟩
    else if account = ownTreasury then some ⟨ownMint, buyer, 0⟩
    else ledger.tokenAccounts account
  mints account := account = ownMint || ledger.mints account
  lamports := ledger.lamports

def ownAccounts : BuySolAccounts :=
  { buyAccounts with
    userTokenAccount := ownTokenAccount
    protocolTreasuryTokenAccount := ownTreasury
    doubleZeroMint := ownMint }

private theorem ownAccounts_checked : ownAccounts.Checked platform ownLedger where
  user := ⟨_, rfl, rfl, rfl⟩
  treasury := ⟨_, rfl, rfl⟩
  mint := rfl
  tokenProgram := by decide

private theorem ownLedger_initialized : TreasuryInitialized platform 0#256 ownLedger where
  treasury := ⟨_, rfl, rfl, by decide⟩
  mint_ne_native := by decide

/-- The ledger after the buyer has paid itself. -/
def ownPaidLedger : Ledger :=
  (ownLedger.setTokenAccount ownTokenAccount ⟨ownMint, buyer, 5272500000⟩).setTokenAccount
    ownTreasury ⟨ownMint, buyer, 4727500000⟩

def ownWithdrawnLedger : Ledger :=
  RevenueDistribution.setLamports
    (RevenueDistribution.setLamports ownPaidLedger journal 975000000000) buyer 30000000000

end Local

/-- Tokens moved between two accounts of the buyer's own mint buy 25 SOL, and nothing settles. -/
theorem own_mint_buys_sol : TreasuryInitialized Local.platform 0#256 Local.ownLedger ∧
    SignsTransactions Local.platform Local.ownAccounts.signer ∧
    ∃ next receipt,
      buySol Local.platform (Local.context 200 Local.ownLedger) Local.initial Local.ownAccounts
        200000000 Local.price = .ok (next, receipt) ∧
      receipt.ledger.lamports Local.buyer = Local.ownLedger.lamports Local.buyer + 25000000000 ∧
      receipt.ledger.balance Local.doubleZeroMint Local.protocolTreasury =
        Local.ownLedger.balance Local.doubleZeroMint Local.protocolTreasury ∧
      ¬∃ event, receipt.events = [.trade event] ∧
        Settles Local.platform Local.ownLedger receipt.ledger Local.initial next Local.ownAccounts
          event := by
  have transferred : transferTokens Local.ownLedger
      (Local.ownAccounts.payment Local.tokensRequired) = .ok Local.ownPaidLedger := rfl
  have withdrew : RevenueDistribution.withdrawSol Local.platform
      [Local.buyer, Local.withdrawSolAuthority] Local.ownPaidLedger Local.programConfig
      Local.withdrawSolAuthority Local.journal Local.buyer 25000000000 =
        .ok Local.ownWithdrawnLedger := rfl
  obtain ⟨next, receipt, success, ledger_eq, events_eq⟩ :=
    Local.buySol_ok Local.ownAccounts_checked transferred withdrew
  refine ⟨Local.ownLedger_initialized, Local.buyer_signs, next, receipt, success,
    ledger_eq ▸ rfl, ledger_eq ▸ rfl, ?_⟩
  rintro ⟨event, trade_eq, settles⟩
  rw [events_eq] at trade_eq
  cases trade_eq
  have rises := settles.treasury_rises
  rw [ledger_eq] at rises
  revert rises
  decide

end SolConversion.OnChain
