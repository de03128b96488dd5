import SolConversion.Foundation.DecimalNearest
import SolConversion.OnChain.Program

/-!
# A local deployment

An executable platform and the shipped configuration.  Addresses are the ones the two programs
derive, the token transfer follows the token program, and one price carries a real signature of a
test oracle.
-/

namespace SolConversion.OnChain

open DecimalFormat FixedWidth Fallible

/-- Store a token account. -/
def Ledger.setTokenAccount (ledger : Ledger) (account : Pubkey) (holding : TokenAccount) :
    Ledger :=
  { ledger with tokenAccounts := Function.update ledger.tokenAccounts account (some holding) }

/-- Move tokens between two accounts of one mint under the authority of the source's owner; a
transfer of an account to itself changes nothing. -/
def transferTokens (ledger : Ledger) (transfer : TransferChecked) :
    Except ProgramError Ledger := do
  let source ← orFail .tokenProgram (ledger.tokenAccounts transfer.source)
  let destination ← orFail .tokenProgram (ledger.tokenAccounts transfer.destination)
  require (source.mint = transfer.mint ∧ destination.mint = transfer.mint) .tokenProgram
  require (source.owner = transfer.authority) .tokenProgram
  let debited ← orFail .tokenProgram (subU64 source.amount transfer.amount)
  if transfer.source = transfer.destination then
    return ledger
  else
    let credited ← orFail .tokenProgram (addU64 destination.amount transfer.amount)
    let debitedLedger := ledger.setTokenAccount transfer.source { source with amount := debited }
    return debitedLedger.setTokenAccount transfer.destination
      { destination with amount := credited }

theorem balance_of_holding {ledger : Ledger} {account : Pubkey} {holding : TokenAccount}
    (held : ledger.tokenAccounts account = some holding) (mint : Pubkey) :
    ledger.balance mint account = if holding.mint = mint then holding.amount.toNat else 0 := by
  simp [Ledger.balance, held]

theorem balance_setTokenAccount_self (ledger : Ledger) (account mint : Pubkey)
    (holding : TokenAccount) :
    (ledger.setTokenAccount account holding).balance mint account =
      if holding.mint = mint then holding.amount.toNat else 0 :=
  balance_of_holding (Function.update_self ..) mint

theorem balance_setTokenAccount_of_ne (ledger : Ledger) {account other : Pubkey}
    (distinct : other ≠ account) (mint : Pubkey) (holding : TokenAccount) :
    (ledger.setTokenAccount account holding).balance mint other = ledger.balance mint other := by
  simp [Ledger.balance, Ledger.setTokenAccount, Function.update_of_ne distinct]

theorem transferTokens_balance {ledger next : Ledger} {transfer : TransferChecked}
    (success : transferTokens ledger transfer = .ok next) (mint account : Pubkey) :
    next.balance mint account +
        (if account = transfer.source ∧ mint = transfer.mint then transfer.amount.toNat else 0) =
      ledger.balance mint account +
        (if account = transfer.destination ∧ mint = transfer.mint then transfer.amount.toNat
          else 0) := by
  simp only [transferTokens, bind_eq_ok, orFail_eq_ok, require_eq_ok, subU64_eq_some] at success
  obtain ⟨source, source_eq, destination, destination_eq, -, ⟨source_mint, destination_mint⟩, -, -,
    debited, debited_eq, moved⟩ := success
  split at moved
  · rename_i same
    cases moved
    rw [same]
  · rename_i distinct
    simp only [bind_eq_ok, orFail_eq_ok, addU64_eq_some, pure_eq_ok] at moved
    obtain ⟨credited, credited_eq, rfl⟩ := moved
    rcases eq_or_ne account transfer.destination with rfl | not_destination
    · rw [balance_setTokenAccount_self, balance_of_holding destination_eq, destination_mint]
      by_cases mint_eq : mint = transfer.mint
      · simp [mint_eq, Ne.symm distinct, credited_eq]
      · simp [mint_eq, Ne.symm mint_eq]
    · rw [balance_setTokenAccount_of_ne _ not_destination]
      rcases eq_or_ne account transfer.source with rfl | not_source
      · rw [balance_setTokenAccount_self, balance_of_holding source_eq, source_mint]
        by_cases mint_eq : mint = transfer.mint
        · simp [mint_eq, distinct, debited_eq, Nat.add_comm]
        · simp [mint_eq, Ne.symm mint_eq]
      · rw [balance_setTokenAccount_of_ne _ not_source]
        simp [not_source, not_destination]

theorem transferTokens_lamports {ledger next : Ledger} {transfer : TransferChecked}
    (success : transferTokens ledger transfer = .ok next) : next.lamports = ledger.lamports := by
  simp only [transferTokens, bind_eq_ok] at success
  obtain ⟨source, -, destination, -, -, -, -, -, debited, -, moved⟩ := success
  split at moved
  · cases moved
    rfl
  · simp only [bind_eq_ok, pure_eq_ok] at moved
    obtain ⟨credited, -, rfl⟩ := moved
    rfl

namespace Local

/-- The mint of 2Z. -/
def doubleZeroMint : Pubkey :=
  0x055584c2e2800c34aac50f28d1a0463046a076927bc0e84637916e25d4c7c7e4#256

def protocolTreasury : Pubkey :=
  0x1780fece33c7120deb2b351dabd00614a46cb9a0d65ce6ab94a9ccbfbdf67840#256

def programConfig : Pubkey :=
  0x7cfb6a6f7bfe65e8e730d89d0acd9a4a9d63f7931f74c4f9feb5e78a818a8872#256

def journal : Pubkey :=
  0xb0ac3b8b3f942c0b19287a5b0d721dad2dac8600ff4ee38ae40734d53f084255#256

def withdrawSolAuthority : Pubkey :=
  0x8b2efe89f05f561df3c9c19d62bd7637567fafe5ddd7899624d14cc2a39ecb07#256

def tokenProgram : Pubkey :=
  0x06ddf6e1d765a193d9cbe146ceeb79ac1cb485ed5f5b37913a8cf5857eff00a9#256

def token2022Program : Pubkey :=
  0x06ddf6e1ee758fde18425dbce46ccddab61afc4d83b90d27febdf928d8a18bfc#256

def findProgramAddress (seed : String) : Pubkey :=
  if seed = RevenueDistribution.tokenMintSeed then doubleZeroMint
  else if seed = RevenueDistribution.protocolTreasurySeed then protocolTreasury
  else if seed = RevenueDistribution.configAccountSeed then programConfig
  else if seed = RevenueDistribution.journalSeed then journal
  else 0

/-- The public key of the test oracle. -/
def oraclePubkey : Pubkey :=
  0x8a88e3dd7409f195fd52db2d3cba5d72ca6709bf1d94121bf3748801b40f6f5c#256

/-- Two tokens for one SOL, signed by the test oracle. -/
def price : OraclePriceData where
  swapRate := 200000000
  timestamp := 1700000000
  signature :=
    "hFcQa8X7fpu+hVzBJuFSGIuGC4dvMDo7qzbFXAh0jLj7v/FXoCj3kpRxxuhmor77+5Sajf1t0AUasiy90s1wCQ=="

/-- The bytes `200000000|1700000000`. -/
def priceMessage : List UInt8 :=
  [50, 48, 48, 48, 48, 48, 48, 48, 48, 124, 49, 55, 48, 48, 48, 48, 48, 48, 48, 48]

def priceSignature : List UInt8 :=
  [132, 87, 16, 107, 197, 251, 126, 155, 190, 133, 92, 193, 38, 225, 82, 24, 139, 134, 11, 135,
    111, 48, 58, 59, 171, 54, 197, 92, 8, 116, 140, 184, 251, 191, 241, 87, 160, 40, 247, 146, 148,
    113, 198, 232, 102, 162, 190, 251, 251, 148, 154, 141, 253, 109, 208, 5, 26, 178, 44, 189, 210,
    205, 112, 9]

/-- The platform as it behaves on the signed price. -/
def platform : Platform where
  decimal := nearestArithmetic
  base64Decode text := if text = price.signature then some priceSignature else none
  sigVerify key message signature :=
    decide (key = oraclePubkey ∧ message = priceMessage ∧ signature = priceSignature)
  transferChecked := transferTokens
  findProgramAddress := findProgramAddress
  withdrawSolAuthority := withdrawSolAuthority
  tokenPrograms := [tokenProgram, token2022Program]

def admin : Pubkey :=
  0xed4928c628d1c2c6eae90338905995612959273a5c63f93636c14614ac8737d1#256

def buyer : Pubkey :=
  0x8139770ea87d175f56a35466c34c7ecccb8d8a91b4ee37a25df60f5b8fc9b394#256

def buyerTokenAccount : Pubkey := 0x42#256

/-- The shipped configuration. -/
def initializeArguments : InitializeSystem where
  authority := admin
  fillsRegistryAddress := 0x46#256
  oraclePubkey := oraclePubkey
  solQuantity := 25000000000
  priceMaximumAge := 324
  coefficient := 4500
  maxDiscountRate := 5000
  minDiscountRate := 500
  bumpRegistry := ⟨255, 253, 255, 255⟩

/-- The buyer holds a hundred tokens and the journal a thousand SOL. -/
def ledger : Ledger where
  tokenAccounts account :=
    if account = buyerTokenAccount then some ⟨doubleZeroMint, buyer, 10000000000⟩
    else if account = protocolTreasury then some ⟨doubleZeroMint, tokenProgram, 0⟩
    else none
  mints account := account = doubleZeroMint
  lamports account :=
    if account = journal then 1000000000000 else if account = buyer then 5000000000 else 0

/-- A moment at some slot with some ledger. -/
def context (slot : UInt64) (ledger : Ledger) : Context :=
  ⟨⟨slot, 3, 1700000100⟩, ledger, some admin⟩

/-- The state after initialization in slot 100. -/
def initial : ConverterState where
  configurationRegistry := ⟨oraclePubkey, 25000000000, 324, 0, 4500, 5000, 500⟩
  programState := ⟨admin, 0x46#256, false, ⟨255, 253, 255, 255⟩, 100, admin⟩
  denyListRegistry := ⟨[], 0, 0⟩
  fillsRegistry := .zeroed

theorem initializeSystem_ok : initializeSystem (context 100 ledger) initializeArguments =
    .ok (initial, (context 100 ledger).receipt [.systemInitialized]) := rfl

theorem initial_reachable : Reachable platform initial :=
  ⟨context 100 ledger, initializeArguments, initial, _, [], initializeSystem_ok, rfl⟩

def buyAccounts : BuySolAccounts where
  userTokenAccount := buyerTokenAccount
  protocolTreasuryTokenAccount := protocolTreasury
  doubleZeroMint := doubleZeroMint
  programConfig := programConfig
  journal := journal
  tokenProgram := tokenProgram
  signer := buyer

theorem asked : initial.configurationRegistry.conversionRate platform.decimal price 100 200 =
    .ok 189100000 := by
  decide +kernel

theorem verified :
    verifyAttestation platform (context 200 ledger).clock price oraclePubkey 324 = .ok () := by
  decide +kernel

/-- The price of the configured quantity at a discount of 5.45 %. -/
def tokensRequired : UInt64 := 4727500000

theorem inserted : ∃ next, FillsRegistry.zeroed.insert 25000000000 tokensRequired = .ok next :=
  insert_of_room consistent_zeroed.toRing (NeZero.pos maxFillsQueueSize) (by decide) (by decide)

/-- In slot 200 any accounts that can pay and be paid trade at the signed price. -/
theorem buySol_ok {ledger paid withdrawn : Ledger} {accounts : BuySolAccounts}
    (checked : accounts.Checked platform ledger)
    (transferred : transferTokens ledger (accounts.payment tokensRequired) = .ok paid)
    (withdrew : RevenueDistribution.withdrawSol platform
      [accounts.signer, withdrawSolAuthority] paid accounts.programConfig withdrawSolAuthority
      accounts.journal accounts.signer 25000000000 = .ok withdrawn) :
    ∃ next receipt, buySol platform (context 200 ledger) initial accounts 200000000 price =
      .ok (next, receipt) ∧ receipt.ledger = withdrawn ∧
      receipt.events = [.trade
        ⟨25000000000, tokensRequired, 200000000, 1700000100, accounts.signer, 3⟩] := by
  obtain ⟨fillsRegistry, inserted⟩ := inserted
  refine ⟨{ initial with
      fillsRegistry
      programState := { initial.programState with lastTradeSlot := 200 } },
    ⟨[.trade ⟨25000000000, tokensRequired, 200000000, 1700000100, accounts.signer, 3⟩], .none,
      withdrawn⟩, buySol_eq_ok.mpr ⟨189100000, tokensRequired, paid, ?_⟩, rfl, rfl⟩
  exact
    { checked
      running := rfl
      admitted := List.not_mem_nil
      later := show (100 : UInt64) < 200 by decide
      verified := verified
      asked := asked
      met := by decide
      priced := by decide
      transferred
      withdrawn := withdrew
      inserted
      programState_eq := rfl
      configurationRegistry_eq := rfl
      denyListRegistry_eq := rfl
      events_eq := rfl
      returned_eq := rfl }

/-- A trade, the choice of a fills consumer and a dequeue of seven lamports. -/
def inputs : List (Context × Instruction) :=
  [(context 200 ledger, .buySol buyAccounts 200000000 price),
    (context 201 ledger, .setFillsConsumer admin admin),
    (context 202 ledger, .dequeueFills admin 7)]

/-- Two trades, and the choice of a fills consumer between them. -/
def purchases : List (Context × Instruction) :=
  [(context 200 ledger, .buySol buyAccounts 200000000 price),
    (context 201 ledger, .setFillsConsumer admin admin),
    (context 300 ledger, .buySol buyAccounts 200000000 price)]

/-- A dequeue of the first trade and seven lamports of the second. -/
def splitInputs : List (Context × Instruction) :=
  purchases ++ [(context 301 ledger, .dequeueFills admin 25000000007)]

/-- The ledger after the payment. -/
def paidLedger : Ledger :=
  (ledger.setTokenAccount buyerTokenAccount ⟨doubleZeroMint, buyer, 5272500000⟩).setTokenAccount
    protocolTreasury ⟨doubleZeroMint, tokenProgram, 4727500000⟩

theorem buyAccounts_checked : buyAccounts.Checked platform ledger where
  user := ⟨_, rfl, rfl, rfl⟩
  treasury := ⟨_, rfl, rfl⟩
  mint := rfl
  tokenProgram := by decide

theorem trade_ok : ∃ next receipt,
    buySol platform (context 200 ledger) initial buyAccounts 200000000 price =
      .ok (next, receipt) := by
  have withdrew : ∃ withdrawn, RevenueDistribution.withdrawSol platform
      [buyer, withdrawSolAuthority] paidLedger programConfig withdrawSolAuthority journal buyer
      25000000000 = .ok withdrawn := ⟨_, rfl⟩
  obtain ⟨withdrawn, withdrew⟩ := withdrew
  have transferred : transferTokens ledger (buyAccounts.payment tokensRequired) =
      .ok paidLedger := rfl
  obtain ⟨next, receipt, success, -, -⟩ := buySol_ok buyAccounts_checked transferred withdrew
  exact ⟨next, receipt, success⟩

end Local

end SolConversion.OnChain
