import SolConversion.Foundation.Transactional
import SolConversion.OnChain.Administration
import SolConversion.OnChain.BuySol
import SolConversion.OnChain.DequeueFills

/-!
# The converter program

The instructions of the program, their dispatch over the initialized accounts, and the states its
runs reach.  Every instruction of a run comes with a clock, a ledger and an upgrade authority of
its own, so anything may happen between two instructions outside the accounts of the program.
-/

namespace SolConversion.OnChain

open Fallible LotQueue Transactional

/-- The instructions of the program with their signers and arguments. -/
inductive Instruction
  | initializeSystem (arguments : InitializeSystem)
  | updateConfigurationRegistry (admin : Pubkey) (input : ConfigurationRegistryInput)
  | setFillsConsumer (admin newConsumer : Pubkey)
  | addToDenyList (admin address : Pubkey)
  | removeFromDenyList (admin address : Pubkey)
  | setAdmin (admin newAdmin : Pubkey)
  | setDenyListAuthority (admin newAuthority : Pubkey)
  | toggleSystemState (admin : Pubkey) (setTo : Bool)
  | buySol (accounts : BuySolAccounts) (bidPrice : UInt64) (oraclePriceData : OraclePriceData)
  | getConversionRate (oraclePriceData : OraclePriceData)
  | dequeueFills (signer : Pubkey) (maxSolAmount : UInt64)
  deriving DecidableEq

/-- Execute an instruction over the initialized accounts. -/
def processInstruction (platform : Platform) (state : ConverterState) :
    Context × Instruction → Except Failure (ConverterState × Receipt)
  -- the accounts to create exist already
  | (_, .initializeSystem _) => .error (abortWith .accountAlreadyInUse)
  | (context, .updateConfigurationRegistry admin input) =>
      processUpdate context state admin input
  | (context, .setFillsConsumer admin newConsumer) =>
      setFillsConsumer context state admin newConsumer
  | (context, .addToDenyList admin address) => addToDenyList context state admin address
  | (context, .removeFromDenyList admin address) =>
      removeFromDenyList context state admin address
  | (context, .setAdmin admin newAdmin) => setAdmin context state admin newAdmin
  | (context, .setDenyListAuthority admin newAuthority) =>
      setDenyListAuthority context state admin newAuthority
  | (context, .toggleSystemState admin setTo) => toggleSystemState context state admin setTo
  | (context, .buySol accounts bidPrice oraclePriceData) =>
      buySol platform context state accounts bidPrice oraclePriceData
  | (context, .getConversionRate oraclePriceData) => do
      let rate ← getConversionRate platform context state oraclePriceData
      return (state, ⟨[], .conversionRate rate, context.ledger⟩)
  | (context, .dequeueFills signer maxSolAmount) =>
      dequeueFills context state signer maxSolAmount

/-- Everything a successful instruction can have checked and done. -/
inductive Executes (platform : Platform) (context : Context) (state : ConverterState) :
    Instruction → ConverterState → Receipt → Prop
  | updated {admin : Pubkey} {input : ConfigurationRegistryInput} {receipt : Receipt} :
      admin = state.programState.admin → input.Accepted state.configurationRegistry →
      Executes platform context state (.updateConfigurationRegistry admin input)
        { state with configurationRegistry := input.override state.configurationRegistry } receipt
  | consumerSet {admin newConsumer : Pubkey} {receipt : Receipt} :
      Executes platform context state (.setFillsConsumer admin newConsumer)
        { state with configurationRegistry :=
          { state.configurationRegistry with fillsConsumer := newConsumer } } receipt
  | denied {admin address : Pubkey} {denyListRegistry : DenyListRegistry} {receipt : Receipt} :
      address ∉ state.denyListRegistry.deniedAddresses →
      denyListRegistry.deniedAddresses = state.denyListRegistry.deniedAddresses ++ [address] →
      Executes platform context state (.addToDenyList admin address)
        { state with denyListRegistry } receipt
  | allowed {admin address : Pubkey} {denyListRegistry : DenyListRegistry} {receipt : Receipt} :
      denyListRegistry.deniedAddresses = state.denyListRegistry.deniedAddresses.erase address →
      Executes platform context state (.removeFromDenyList admin address)
        { state with denyListRegistry } receipt
  | adminSet {admin newAdmin : Pubkey} {receipt : Receipt} :
      Executes platform context state (.setAdmin admin newAdmin)
        { state with programState := { state.programState with admin := newAdmin } } receipt
  | authoritySet {admin newAuthority : Pubkey} {receipt : Receipt} :
      Executes platform context state (.setDenyListAuthority admin newAuthority)
        { state with programState :=
          { state.programState with denyListAuthority := newAuthority } } receipt
  | toggled {admin : Pubkey} {setTo : Bool} {receipt : Receipt} :
      Executes platform context state (.toggleSystemState admin setTo)
        { state with programState := { state.programState with isHalted := setTo } } receipt
  | traded {accounts : BuySolAccounts} {bidPrice : UInt64} {oraclePriceData : OraclePriceData}
      {askPrice tokensRequired : UInt64} {paid : Ledger} {next : ConverterState}
      {receipt : Receipt} :
      Trades platform context state accounts bidPrice oraclePriceData askPrice tokensRequired paid
        next receipt →
      Executes platform context state (.buySol accounts bidPrice oraclePriceData) next receipt
  | quoted {oraclePriceData : OraclePriceData} {rate : UInt64} {receipt : Receipt} :
      getConversionRate platform context state oraclePriceData = .ok rate →
      Executes platform context state (.getConversionRate oraclePriceData) state receipt
  | dequeued {signer : Pubkey} {maxSolAmount : UInt64} {fillsRegistry : FillsRegistry}
      {result : DequeueFillsResult} {receipt : Receipt} :
      signer = state.configurationRegistry.fillsConsumer → 0 < maxSolAmount →
      state.fillsRegistry.dequeue maxSolAmount = .ok (fillsRegistry, result) →
      receipt.returned = .dequeueFills result →
      Executes platform context state (.dequeueFills signer maxSolAmount)
        { state with fillsRegistry } receipt

theorem executes_of_ok {platform : Platform} {context : Context} {state next : ConverterState}
    {instruction : Instruction} {receipt : Receipt}
    (success : processInstruction platform state (context, instruction) = .ok (next, receipt)) :
    Executes platform context state instruction next receipt := by
  cases instruction with
  | initializeSystem arguments => contradiction
  | updateConfigurationRegistry admin input =>
      obtain ⟨authorized, accepted, rfl⟩ := processUpdate_eq_ok success
      exact .updated authorized accepted
  | setFillsConsumer admin newConsumer =>
      rw [setFillsConsumer_eq_ok success]
      exact .consumerSet
  | addToDenyList admin address =>
      obtain ⟨fresh, denyListRegistry, rfl, added⟩ := addToDenyList_eq_ok success
      exact .denied fresh added
  | removeFromDenyList admin address =>
      obtain ⟨denyListRegistry, rfl, removed⟩ := removeFromDenyList_eq_ok success
      exact .allowed removed
  | setAdmin admin newAdmin =>
      rw [setAdmin_eq_ok success]
      exact .adminSet
  | setDenyListAuthority admin newAuthority =>
      rw [setDenyListAuthority_eq_ok success]
      exact .authoritySet
  | toggleSystemState admin setTo =>
      rw [toggleSystemState_eq_ok success]
      exact .toggled
  | buySol accounts bidPrice oraclePriceData =>
      obtain ⟨askPrice, tokensRequired, paid, trades⟩ := buySol_eq_ok.mp success
      exact .traded trades
  | getConversionRate oraclePriceData =>
      simp only [processInstruction, bind_eq_ok, pure_eq_ok, Prod.mk.injEq] at success
      obtain ⟨rate, quoted, rfl, -⟩ := success
      exact .quoted quoted
  | dequeueFills signer maxSolAmount =>
      obtain ⟨authorized, positive, fillsRegistry, result, dequeued, rfl, returned, -⟩ :=
        dequeueFills_eq_ok success
      exact .dequeued authorized positive dequeued returned

/-- The state after a list of instructions. -/
abbrev runProgram (platform : Platform) :
    ConverterState → List (Context × Instruction) → ConverterState :=
  run (processInstruction platform)

/-- An executed instruction of a run. -/
abbrev ProgramEntry := Entry ConverterState (Context × Instruction) Receipt Failure

/-- The executions of a list of instructions. -/
abbrev programHistory (platform : Platform) :
    ConverterState → List (Context × Instruction) → List ProgramEntry :=
  history (processInstruction platform)

/-- A state some run reaches after initialization. -/
def Reachable (platform : Platform) (state : ConverterState) : Prop :=
  ∃ context arguments initial receipt inputs,
    initializeSystem context arguments = .ok (initial, receipt) ∧
      state = runProgram platform initial inputs

/-- A property of initialized states that every instruction keeps holds in every reachable state. -/
theorem reachable_induction {platform : Platform} {invariant : ConverterState → Prop}
    (initially : ∀ context arguments state receipt,
      initializeSystem context arguments = .ok (state, receipt) → invariant state)
    (kept : ∀ context state instruction next receipt, invariant state →
      Executes platform context state instruction next receipt → invariant next)
    {state : ConverterState} (reachable : Reachable platform state) : invariant state := by
  obtain ⟨context, arguments, initial, receipt, inputs, initialized, rfl⟩ := reachable
  apply run_invariant
  · rintro state ⟨context, instruction⟩ next receipt holds success
    exact kept context state instruction next receipt holds (executes_of_ok success)
  · exact initially context arguments initial receipt initialized

theorem reachable_run {platform : Platform} {state : ConverterState}
    (reachable : Reachable platform state) (inputs : List (Context × Instruction)) :
    Reachable platform (runProgram platform state inputs) := by
  obtain ⟨context, arguments, initial, receipt, earlier, initialized, rfl⟩ := reachable
  refine ⟨context, arguments, initial, receipt, earlier ++ inputs, initialized, ?_⟩
  exact (run_append _ initial earlier inputs).symm

theorem consistent_zeroed : FillsRegistry.zeroed.Consistent := by
  have lots_eq : FillsRegistry.zeroed.lots = [] := rfl
  refine ⟨⟨?_, ?_, ?_, ?_⟩, ?_, ?_⟩
  · exact NeZero.pos maxFillsQueueSize
  · exact NeZero.pos maxFillsQueueSize
  · exact Nat.zero_le _
  · exact (Nat.zero_mod _).symm
  · rw [lots_eq]
    rfl
  · rw [lots_eq]
    rfl

/-- Every instruction keeps the fills registry consistent. -/
theorem consistent_of_executes {platform : Platform} {context : Context}
    {state next : ConverterState} {instruction : Instruction} {receipt : Receipt}
    (consistent : state.fillsRegistry.Consistent)
    (executes : Executes platform context state instruction next receipt) :
    next.fillsRegistry.Consistent := by
  cases executes with
  | traded trades => exact consistent_insert consistent trades.inserted
  | dequeued _ _ dequeued _ => exact (drains_of_dequeue consistent dequeued).consistent
  | _ => exact consistent

theorem consistent_of_reachable {platform : Platform} {state : ConverterState}
    (reachable : Reachable platform state) : state.fillsRegistry.Consistent := by
  refine reachable_induction (fun context arguments state receipt initialized => ?_)
    (fun _ _ _ _ _ => consistent_of_executes) reachable
  obtain ⟨-, -, -, -, zeroed⟩ := initializeSystem_eq_ok initialized
  rw [zeroed]
  exact consistent_zeroed

/-- Every instruction keeps the configuration valid. -/
theorem valid_of_executes {platform : Platform} {context : Context}
    {state next : ConverterState} {instruction : Instruction} {receipt : Receipt}
    (valid : state.configurationRegistry.Valid)
    (executes : Executes platform context state instruction next receipt) :
    next.configurationRegistry.Valid := by
  cases executes with
  | updated _ accepted => exact (accepted_iff_valid valid _).mp accepted
  | consumerSet => exact ⟨valid.1, valid.2, valid.3, valid.4⟩
  | traded trades =>
      rw [trades.configurationRegistry_eq]
      exact valid
  | _ => exact valid

theorem valid_of_reachable {platform : Platform} {state : ConverterState}
    (reachable : Reachable platform state) : state.configurationRegistry.Valid := by
  refine reachable_induction (fun context arguments state receipt initialized => ?_)
    (fun _ _ _ _ _ => valid_of_executes) reachable
  exact (initializeSystem_eq_ok initialized).1

end SolConversion.OnChain
