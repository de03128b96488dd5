import SolConversion.Foundation.SharedLedger
import SolConversion.OnChain.FillsHistory
import SolConversion.OnChain.Settlement
import SolConversion.OnChain.Transactions

/-!
# Custody

The SOL for sale lies in the journal and the payments lie in the treasury, on a ledger that others
use as well.  As long as every purchase pays the treasury, the fills registry and its dequeues
account for both accounts to the last unit, whatever else happens on the ledger.
-/

namespace SolConversion.OnChain

open DecimalFormat Fallible SharedLedger Transactional

/-- A call of the program with everything but the ledger it meets. -/
structure Call where
  clock : Clock
  upgradeAuthority : Option Pubkey
  instruction : Instruction

def callPlacement : Placement Call (Context × Instruction) Receipt Ledger where
  place ledger call := (⟨call.clock, ledger, call.upgradeAuthority⟩, call.instruction)
  ledgerOf input := input.1.ledger
  left := Receipt.ledger
  ledgerOf_place _ _ := rfl

/-- The program with the ledger it works on. -/
abbrev ProgramWorld := World ConverterState Ledger

/-- The calls among some deeds, each in the context it met. -/
def programInputs (platform : Platform) (world : ProgramWorld) (deeds : List (Deed Call Ledger)) :
    List (Context × Instruction) :=
  inputsOf (processInstruction platform) callPlacement world deeds

def runOnLedger (platform : Platform) (world : ProgramWorld) (deeds : List (Deed Call Ledger)) :
    ProgramWorld :=
  runDeeds (processInstruction platform) callPlacement world deeds

/-- What others add to a measure of the ledger. -/
def addedElsewhere (platform : Platform) (measure : Ledger → ℤ) (world : ProgramWorld)
    (deeds : List (Deed Call Ledger)) : ℤ :=
  outside (processInstruction platform) callPlacement measure world deeds

/-- The lamports in the journal. -/
def journalSol (platform : Platform) (ledger : Ledger) : ℤ :=
  (ledger.lamports platform.journal).toNat

/-- The 2Z in the treasury. -/
def treasuryTokens (platform : Platform) (ledger : Ledger) : ℤ :=
  ledger.balance platform.doubleZeroMint platform.protocolTreasury

/-- A successful purchase meets an initialized treasury, is signed by a key that signs transactions,
and names the treasury or costs nothing. -/
def PaysTreasury (platform : Platform) (nativeMint : Pubkey) (entry : ProgramEntry) : Prop :=
  ∀ accounts bidPrice oraclePriceData success,
    entry.input.2 = .buySol accounts bidPrice oraclePriceData → entry.result = .ok success →
    TreasuryInitialized platform nativeMint entry.input.1.ledger ∧
      SignsTransactions platform accounts.signer ∧
      (accounts.protocolTreasuryTokenAccount = platform.protocolTreasury ∨
        scaledCost entry.before entry.input.1.clock oraclePriceData < lamportsPerSol)

section Flows

variable {platform : Platform} {context : Context} {state next : ConverterState}
  {instruction : Instruction} {receipt : Receipt}

private theorem ledger_of_ok
    (success : processInstruction platform state (context, instruction) = .ok (next, receipt)) :
    receipt.ledger = context.ledger ∧
        recordedFill ⟨state, (context, instruction), .ok (next, receipt)⟩ = [] ∨
      ∃ accounts bidPrice oraclePriceData,
        instruction = .buySol accounts bidPrice oraclePriceData := by
  cases completes_of_ok success with
  | @administered _ _ event administrative =>
      refine .inl ⟨rfl, ?_⟩
      have no_fill : Receipt.fills (context.receipt [event]) = [] := by
        cases event with
        | trade => contradiction
        | _ => rfl
      cases instruction with
      | buySol => exact no_fill
      | _ => rfl
  | denied => exact .inl ⟨rfl, rfl⟩
  | allowed => exact .inl ⟨rfl, rfl⟩
  | traded => exact .inr ⟨_, _, _, rfl⟩
  | quoted => exact .inl ⟨rfl, rfl⟩
  | dequeued => exact .inl ⟨rfl, rfl⟩

private theorem flows_of_trades {rounding : Rounding} {nativeMint : Pubkey}
    (lawful : platform.decimal.Lawful rounding) (moves : platform.MovesTokens nativeMint)
    (reachable : Reachable platform state) {accounts : BuySolAccounts} {bidPrice : UInt64}
    {oraclePriceData : OraclePriceData} {askPrice tokensRequired : UInt64} {paid : Ledger}
    (pays : PaysTreasury platform nativeMint ⟨state,
      (context, .buySol accounts bidPrice oraclePriceData), .ok (next, receipt)⟩)
    (trades : Trades platform context state accounts bidPrice oraclePriceData askPrice
      tokensRequired paid next receipt) :
    receipt.fills = [⟨state.configurationRegistry.solQuantity, tokensRequired⟩] ∧
      journalSol platform receipt.ledger + state.configurationRegistry.solQuantity.toNat =
        journalSol platform context.ledger ∧
      treasuryTokens platform receipt.ledger =
        treasuryTokens platform context.ledger + tokensRequired.toNat := by
  obtain ⟨initialized, signs, condition⟩ := pays accounts bidPrice oraclePriceData _ rfl rfl
  rw [← tokensRequired_eq_zero_iff lawful (valid_of_reachable reachable) trades] at condition
  obtain ⟨event, events_eq, settles⟩ :=
    settles_of_named_or_free moves reachable initialized signs trades condition
  have fills_eq : receipt.fills =
      [⟨state.configurationRegistry.solQuantity, tokensRequired⟩] := by
    simp [Receipt.fills, trades.events_eq, Event.fill]
  have amount_eq : event.tokenAmount = tokensRequired := by
    rw [trades.events_eq] at events_eq
    cases events_eq
    rfl
  have rises := settles.treasury_rises
  rw [amount_eq] at rises
  refine ⟨fills_eq, ?_, ?_⟩
  · rw [journalSol, journalSol, ← settles.journal_pays, Nat.cast_add]
  · rw [treasuryTokens, treasuryTokens, rises, Nat.cast_add]

end Flows

/-- The SOL that an execution takes out of the journal by its fills. -/
def soldSol (entry : ProgramEntry) : ℕ :=
  ((recordedFill entry).map fun fill => fill.solIn.toNat).sum

/-- The tokens that an execution brings into the treasury by its fills. -/
def earnedTokens (entry : ProgramEntry) : ℕ :=
  ((recordedFill entry).map fun fill => fill.token2zOut.toNat).sum

/-- An execution moves in the two accounts what it records. -/
theorem flows_of_entry {platform : Platform} {rounding : Rounding} {nativeMint : Pubkey}
    (lawful : platform.decimal.Lawful rounding) (moves : platform.MovesTokens nativeMint)
    {entry : ProgramEntry} (reachable : Reachable platform entry.before)
    (executed : entry.result = processInstruction platform entry.before entry.input)
    (pays : PaysTreasury platform nativeMint entry) :
    journalSol platform (ledgerAfter callPlacement entry) =
        journalSol platform entry.input.1.ledger + -soldSol entry ∧
      treasuryTokens platform (ledgerAfter callPlacement entry) =
        treasuryTokens platform entry.input.1.ledger + earnedTokens entry := by
  obtain ⟨state, ⟨context, instruction⟩, result⟩ := entry
  cases result with
  | error failure =>
      have nothing : recordedFill ⟨state, (context, instruction), .error failure⟩ = [] := by
        cases instruction <;> rfl
      simp [ledgerAfter, callPlacement, soldSol, earnedTokens, nothing]
  | ok success =>
      obtain ⟨next, receipt⟩ := success
      obtain ⟨ledger_eq, nothing⟩ | ⟨accounts, bidPrice, oraclePriceData, rfl⟩ :=
        ledger_of_ok executed.symm
      · simp [ledgerAfter, callPlacement, soldSol, earnedTokens, nothing, ledger_eq]
      · obtain ⟨askPrice, tokensRequired, paid, trades⟩ := buySol_eq_ok.mp executed.symm
        obtain ⟨fills_eq, journal_eq, treasury_eq⟩ :=
          flows_of_trades lawful moves reachable pays trades
        have recorded_eq : recordedFill ⟨state, (context, .buySol accounts bidPrice
            oraclePriceData), .ok (next, receipt)⟩ =
              [⟨state.configurationRegistry.solQuantity, tokensRequired⟩] := fills_eq
        simp only [soldSol, earnedTokens, recorded_eq, List.map_cons, List.map_nil,
          List.sum_singleton]
        exact ⟨by rw [← journal_eq]; exact (add_neg_cancel_right _ _).symm, treasury_eq⟩

private theorem recordedSol_cons (entry : ProgramEntry) (past : List ProgramEntry) :
    recordedSol (entry :: past) = soldSol entry + recordedSol past := by
  rw [recordedSol, recordedFills, List.flatMap_cons, List.map_append, List.sum_append]
  rfl

private theorem recordedTokens_cons (entry : ProgramEntry) (past : List ProgramEntry) :
    recordedTokens (entry :: past) = earnedTokens entry + recordedTokens past := by
  rw [recordedTokens, recordedFills, List.flatMap_cons, List.map_append, List.sum_append]
  rfl

private theorem sum_soldSol (past : List ProgramEntry) :
    (past.map fun entry => -(soldSol entry : ℤ)).sum = -recordedSol past := by
  induction past with
  | nil => rfl
  | cons entry past ih =>
      rw [List.map_cons, List.sum_cons, ih, recordedSol_cons, Nat.cast_add, neg_add]

private theorem sum_earnedTokens (past : List ProgramEntry) :
    (past.map fun entry => (earnedTokens entry : ℤ)).sum = recordedTokens past := by
  induction past with
  | nil => rfl
  | cons entry past ih =>
      rw [List.map_cons, List.sum_cons, ih, recordedTokens_cons, Nat.cast_add]

/-- If every successful purchase pays the treasury, then whatever else happens on the ledger, the
journal has paid out the SOL of the pending and of the dequeued fills, and the treasury has taken in
their tokens. -/
theorem custody_matches_fills {platform : Platform} {rounding : Rounding} {nativeMint : Pubkey}
    (lawful : platform.decimal.Lawful rounding) (moves : platform.MovesTokens nativeMint)
    {context : Context} {arguments : InitializeSystem} {initial : ConverterState}
    {receipt : Receipt}
    (initialized : initializeSystem context arguments = .ok (initial, receipt))
    (ledger : Ledger) (deeds : List (Deed Call Ledger))
    (pays : ∀ entry ∈ programHistory platform initial
      (programInputs platform ⟨initial, ledger⟩ deeds), PaysTreasury platform nativeMint entry) :
    let world : ProgramWorld := ⟨initial, ledger⟩
    let past := programHistory platform initial (programInputs platform world deeds)
    let last := runOnLedger platform world deeds
    journalSol platform last.ledger + last.state.fillsRegistry.totalSolPending.toNat +
          dequeuedSol past =
        journalSol platform ledger +
          addedElsewhere platform (journalSol platform) world deeds ∧
      treasuryTokens platform last.ledger =
        treasuryTokens platform ledger +
          addedElsewhere platform (treasuryTokens platform) world deeds +
          last.state.fillsRegistry.total2zPending.toNat + dequeuedTokens past := by
  intro world past last
  have initially : Reachable platform initial :=
    ⟨context, arguments, initial, receipt, [], initialized, rfl⟩
  have flows : ∀ entry ∈ past,
      journalSol platform (ledgerAfter callPlacement entry) =
          journalSol platform entry.input.1.ledger + -soldSol entry ∧
        treasuryTokens platform (ledgerAfter callPlacement entry) =
          treasuryTokens platform entry.input.1.ledger + earnedTokens entry := by
    intro entry member
    obtain ⟨reachable, executed⟩ := invariant_of_mem_history (processInstruction platform)
      (fun _ _ _ _ => reachable_of_ok) initially member
    exact flows_of_entry lawful moves reachable executed (pays entry member)
  have journal_eq := measure_runDeeds (processInstruction platform) callPlacement world deeds
    fun entry member => (flows entry member).1
  have treasury_eq := measure_runDeeds (processInstruction platform) callPlacement world deeds
    fun entry member => (flows entry member).2
  have state_eq : last.state = runProgram platform initial (programInputs platform world deeds) :=
    state_runDeeds (processInstruction platform) callPlacement world deeds
  have accounted : Accounted past last.state := by
    rw [state_eq]
    exact accounted_history initialized _
  have sol := accounted.sol
  have tokens := accounted.tokens
  have sold : (past.map fun entry => -(soldSol entry : ℤ)).sum = -recordedSol past :=
    sum_soldSol past
  have earned : (past.map fun entry => (earnedTokens entry : ℤ)).sum = recordedTokens past :=
    sum_earnedTokens past
  constructor
  · change journalSol platform last.ledger = journalSol platform ledger +
      addedElsewhere platform (journalSol platform) world deeds +
        (past.map fun entry => -(soldSol entry : ℤ)).sum at journal_eq
    rw [sold] at journal_eq
    omega
  · change treasuryTokens platform last.ledger = treasuryTokens platform ledger +
      addedElsewhere platform (treasuryTokens platform) world deeds +
        (past.map fun entry => (earnedTokens entry : ℤ)).sum at treasury_eq
    rw [earned] at treasury_eq
    omega

namespace Local

/-- The trade, the choice of a fills consumer and the dequeue, with others restoring the ledger in
between. -/
def deeds : List (Deed Call Ledger) :=
  [.call ⟨(context 200 ledger).clock, some admin, .buySol buyAccounts 200000000 price⟩,
    .elsewhere ledger,
    .call ⟨(context 201 ledger).clock, some admin, .setFillsConsumer admin admin⟩,
    .elsewhere ledger,
    .call ⟨(context 202 ledger).clock, some admin, .dequeueFills admin 7⟩]

theorem programInputs_deeds : programInputs platform ⟨initial, ledger⟩ deeds = inputs := rfl

private theorem deeds_pay : ∀ entry ∈ programHistory platform initial
    (programInputs platform ⟨initial, ledger⟩ deeds), PaysTreasury platform 0#256 entry := by
  intro entry member accounts bidPrice oraclePriceData _ purchase _
  have input_mem : entry.input ∈ inputs := by
    rw [programInputs_deeds] at member
    rw [← map_input_history (processInstruction platform) initial inputs]
    exact List.mem_map_of_mem member
  simp only [inputs, List.mem_cons, List.not_mem_nil, or_false] at input_mem
  rcases input_mem with input_eq | input_eq | input_eq
  · rw [input_eq] at purchase ⊢
    obtain ⟨rfl, -, -⟩ := Instruction.buySol.inj purchase
    exact ⟨ledger_initialized, buyer_signs, .inl rfl⟩
  · rw [input_eq] at purchase
    contradiction
  · rw [input_eq] at purchase
    contradiction

end Local

/-- The trade of the local deployment and a dequeue of seven lamports. -/
theorem custody_matches_fills_local :
    let world : ProgramWorld := ⟨Local.initial, Local.ledger⟩
    let past := programHistory Local.platform Local.initial
      (programInputs Local.platform world Local.deeds)
    let last := runOnLedger Local.platform world Local.deeds
    dequeuedSol past = 7 ∧
      journalSol Local.platform last.ledger + last.state.fillsRegistry.totalSolPending.toNat + 7 =
        journalSol Local.platform Local.ledger +
          addedElsewhere Local.platform (journalSol Local.platform) world Local.deeds := by
  intro world past last
  have seven : dequeuedSol past = 7 := by
    change dequeuedSol (programHistory Local.platform Local.initial
      (programInputs Local.platform ⟨Local.initial, Local.ledger⟩ Local.deeds)) = 7
    rw [Local.programInputs_deeds]
    decide +kernel
  obtain ⟨journal_eq, -⟩ := custody_matches_fills nearestArithmetic_lawful
    (Local.platform_movesTokens 0#256) Local.initializeSystem_ok Local.ledger Local.deeds
    Local.deeds_pay
  rw [← Nat.cast_ofNat (R := ℤ), ← seven]
  exact ⟨rfl, journal_eq⟩

end SolConversion.OnChain
