import SolConversion.Foundation.LotLog
import SolConversion.OnChain.DenyList
import SolConversion.OnChain.PriceProtection

/-!
# The event log

A successful instruction logs what it changed, and a failed one at most a bid below the ask price.
Whoever replays the log therefore knows the configuration, the authorities, the halt flag, the deny
list and the queue of pending fills, without reading an account.
-/

namespace SolConversion.OnChain

open DecimalFormat Fallible FixedWidth LotQueue Transactional

/-- A computation fails and has logged an event. -/
def FailsLogging {α : Type} (event : Event) (result : Except Failure α) : Prop :=
  ∃ failure, result = .error failure ∧ event ∈ failure.events

section FailsLogging

variable {α β : Type} {event : Event}

theorem failsLogging_error {failure : Failure} :
    FailsLogging event (.error failure : Except Failure α) ↔ event ∈ failure.events :=
  failsWhere_error

theorem failsLogging_bind {first : Except Failure α} {next : α → Except Failure β} :
    FailsLogging event (first >>= next) ↔
      FailsLogging event first ∨
        ∃ middle, first = .ok middle ∧ FailsLogging event (next middle) :=
  failsWhere_bind

theorem failsLogging_require {condition : Prop} [Decidable condition] {failure : Failure} :
    FailsLogging event (require condition failure) ↔ ¬condition ∧ event ∈ failure.events :=
  failsWhere_require

theorem not_failsLogging_orFail {source : Option α} {failure : Failure}
    (silent : failure.events = []) : ¬FailsLogging event (orFail failure source) := by
  intro fails
  have logged := (failsWhere_orFail.mp fails).2
  rw [silent] at logged
  exact List.not_mem_nil logged

theorem not_failsLogging_mapFailure {δ : Type} {change : δ → Failure} {source : Except δ α}
    (silent : ∀ original, (change original).events = []) :
    ¬FailsLogging event (mapFailure change source) := by
  intro fails
  obtain ⟨original, -, logged⟩ := failsWhere_mapFailure.mp fails
  rw [silent] at logged
  exact List.not_mem_nil logged

theorem not_failsLogging_checked {source : Option α} : ¬FailsLogging event (checked source) :=
  not_failsLogging_orFail rfl

theorem not_failsLogging_pure {value : α} :
    ¬FailsLogging event (pure value : Except Failure α) :=
  not_failsWhere_pure

end FailsLogging

section Silent

variable {platform : Platform} {event : Event}

theorem check_silent {ledger : Ledger} {accounts : BuySolAccounts} :
    ¬FailsLogging event (accounts.check platform ledger) := by
  simp [BuySolAccounts.check, failsLogging_bind, failsLogging_require, not_failsLogging_orFail,
    abortWith]

theorem verifyAttestation_silent {clock : Clock} {oraclePriceData : OraclePriceData}
    {oraclePublicKey : Pubkey} {priceMaximumAge : Int64} :
    ¬FailsLogging event
      (verifyAttestation platform clock oraclePriceData oraclePublicKey priceMaximumAge) := by
  simp [verifyAttestation, failsLogging_bind, failsLogging_require, not_failsLogging_orFail,
    not_failsLogging_checked, failWith]

theorem askPrice_silent {price : Except Stop UInt64} :
    ¬FailsLogging event (mapFailure askPriceFailure price) := by
  apply not_failsLogging_mapFailure
  intro stop
  cases stop with
  | none => rfl
  | panic => rfl

private theorem computeTokensRequired_silent {solQuantity askPrice : UInt64} :
    ¬FailsLogging event (computeTokensRequired solQuantity askPrice) := by
  simp [computeTokensRequired, failsLogging_bind, not_failsLogging_orFail, failWith]

private theorem insert_silent {fillsRegistry : FillsRegistry}
    {solQuantity tokensRequired : UInt64} :
    ¬FailsLogging event (fillsRegistry.insert solQuantity tokensRequired) := by
  simp only [FillsRegistry.insert, advance, failsLogging_bind, failsLogging_require,
    not_failsLogging_checked, not_failsLogging_pure, failWith, List.not_mem_nil, and_false,
    exists_false, or_false, not_false_eq_true]

private theorem dequeuePass_silent {maxSolAmount : UInt64} {loop : DequeueLoop} :
    ¬FailsLogging event (dequeuePass maxSolAmount loop) := by
  have entry_silent : ∀ headIndex nextEntry remainingSol,
      ¬FailsLogging event (dequeueEntry loop headIndex nextEntry remainingSol) := by
    intro headIndex nextEntry remainingSol
    rw [dequeueEntry]
    split
    · simp only [fullDequeue, advance, failsLogging_bind, not_failsLogging_checked,
        not_failsLogging_pure, and_false, exists_false, or_false, not_false_eq_true]
    · simp only [partialDequeue, failsLogging_bind, not_failsLogging_orFail, failWith,
        not_failsLogging_checked, not_failsLogging_pure, and_false, exists_false, or_false,
        not_false_eq_true]
  simp only [dequeuePass, failsLogging_bind, not_failsLogging_checked, not_failsLogging_pure,
    entry_silent, and_false, exists_false, or_false, not_false_eq_true]

private theorem dequeueLoop_silent {maxSolAmount : UInt64} {passes : ℕ} {loop : DequeueLoop} :
    ¬FailsLogging event (WhileLoop.run (dequeueGuard maxSolAmount) (dequeuePass maxSolAmount)
      passes loop) := by
  induction passes generalizing loop with
  | zero => exact not_failsLogging_pure
  | succ passes ih =>
      rw [WhileLoop.run]
      split
      · rw [failsLogging_bind]
        rintro (failed | ⟨next, -, failed⟩)
        · exact dequeuePass_silent failed
        · exact ih failed
      · exact not_failsLogging_pure

private theorem dequeue_silent {fillsRegistry : FillsRegistry} {maxSolAmount : UInt64} :
    ¬FailsLogging event (fillsRegistry.dequeue maxSolAmount) := by
  simp only [FillsRegistry.dequeue, dequeueLoop, failsLogging_bind, failsLogging_require,
    dequeueLoop_silent, not_failsLogging_orFail, not_failsLogging_pure, failWith,
    List.not_mem_nil, and_false, exists_false, or_false, not_false_eq_true]

theorem record_silent {denyListRegistry : DenyListRegistry} {clock : Clock}
    {deniedAddresses : List Pubkey} :
    ¬FailsLogging event (denyListRegistry.record clock deniedAddresses) := by
  simp only [DenyListRegistry.record, failsLogging_bind, not_failsLogging_checked,
    not_failsLogging_pure, and_false, exists_false, or_false, not_false_eq_true]

private theorem updateField_silent {α : Type} {present : Option α} {stored : α}
    {check : α → Except Failure Unit} (silent : ∀ value, ¬FailsLogging event (check value)) :
    ¬FailsLogging event (updateField present stored check) := by
  cases present with
  | none => exact not_failsLogging_pure
  | some value =>
      rw [updateField, failsLogging_bind]
      rintro (failed | ⟨passed, -, failed⟩)
      · exact silent value failed
      · exact not_failsLogging_pure failed

private theorem processUpdate_silent {context : Context} {state : ConverterState} {admin : Pubkey}
    {input : ConfigurationRegistryInput} :
    ¬FailsLogging event (processUpdate context state admin input) := by
  have check_silent : ∀ (condition : Prop) [Decidable condition] (code : DoubleZeroError),
      ¬FailsLogging event (require condition (failWith code)) := by
    intro condition _ code
    simp [failsLogging_require, failWith]
  simp only [processUpdate, failsLogging_bind, check_silent, updateField_silent,
    not_failsLogging_pure, and_false, exists_false, or_false, not_false_eq_true, implies_true]

theorem buySol_of_failsLogging {context : Context} {state : ConverterState}
    {instruction : Instruction}
    (fails : FailsLogging event (processInstruction platform state (context, instruction))) :
    ∃ accounts bidPrice oraclePriceData,
      instruction = .buySol accounts bidPrice oraclePriceData := by
  cases instruction with
  | buySol accounts bidPrice oraclePriceData => exact ⟨accounts, bidPrice, oraclePriceData, rfl⟩
  | initializeSystem arguments => exact absurd (failsLogging_error.mp fails) List.not_mem_nil
  | updateConfigurationRegistry admin input => exact absurd fails processUpdate_silent
  | setFillsConsumer admin newConsumer =>
      simp only [processInstruction, setFillsConsumer, failsLogging_bind, failsLogging_require,
        not_failsLogging_pure, failWith, List.not_mem_nil, and_false, exists_false,
        or_false] at fails
  | addToDenyList admin address =>
      simp only [processInstruction, addToDenyList, failsLogging_bind, failsLogging_require,
        record_silent, not_failsLogging_pure, failWith, List.not_mem_nil, and_false,
        exists_false, or_false] at fails
  | removeFromDenyList admin address =>
      simp only [processInstruction, removeFromDenyList, failsLogging_bind, failsLogging_require,
        record_silent, not_failsLogging_orFail, not_failsLogging_pure, failWith, List.not_mem_nil,
        and_false, exists_false, or_false] at fails
  | setAdmin admin newAdmin =>
      simp only [processInstruction, setAdmin, requireUpgradeAuthority, failsLogging_bind,
        failsLogging_require, not_failsLogging_pure, abortWith, List.not_mem_nil, and_false,
        exists_false, or_false] at fails
  | setDenyListAuthority admin newAuthority =>
      simp only [processInstruction, setDenyListAuthority, requireUpgradeAuthority,
        failsLogging_bind, failsLogging_require, not_failsLogging_pure, abortWith,
        List.not_mem_nil, and_false, exists_false, or_false] at fails
  | toggleSystemState admin setTo =>
      simp only [processInstruction, toggleSystemState, failsLogging_bind, failsLogging_require,
        failWith, List.not_mem_nil, and_false, false_or] at fails
      obtain ⟨-, -, toggled⟩ := fails
      split at toggled
      · exact absurd toggled not_failsLogging_pure
      · split at toggled
        · exact absurd toggled not_failsLogging_pure
        · exact absurd (failsLogging_error.mp toggled) List.not_mem_nil
  | getConversionRate oraclePriceData =>
      simp only [processInstruction, getConversionRate, failsLogging_bind,
        verifyAttestation_silent, askPrice_silent, not_failsLogging_pure, and_false,
        exists_false, or_false] at fails
  | dequeueFills signer maxSolAmount =>
      simp only [processInstruction, dequeueFills, failsLogging_bind, failsLogging_require,
        dequeue_silent, not_failsLogging_pure, failWith, List.not_mem_nil, and_false,
        exists_false, or_false] at fails

/-- A failing purchase logs that its bid is below the ask price, when that is why it fails. -/
theorem buySol_failsLogging {context : Context} {state : ConverterState}
    {accounts : BuySolAccounts} {bidPrice : UInt64} {oraclePriceData : OraclePriceData} :
    FailsLogging event (buySol platform context state accounts bidPrice oraclePriceData) ↔
      Guarded platform context state accounts oraclePriceData ∧
        ∃ askPrice, Asks platform context state oraclePriceData askPrice ∧
          bidPrice < askPrice ∧ event = .bidTooLow
            { solAmount := state.configurationRegistry.solQuantity
              bidPrice
              askPrice
              timestamp := context.clock.unixTimestamp
              buyer := accounts.signer
              epoch := context.clock.epoch } := by
  have silent_abort : ∀ {α : Type} (source : Except ProgramError α),
      ¬FailsLogging event (mapFailure abortWith source) := fun source =>
    not_failsLogging_mapFailure fun _ => rfl
  simp only [buySol, failsLogging_bind, failsLogging_require, not_failsLogging_pure, check_silent,
    computeTokensRequired_silent, verifyAttestation_silent, askPrice_silent, insert_silent,
    silent_abort, check_eq_ok, require_eq_ok, mapFailure_eq_ok, failWith, List.not_mem_nil,
    List.mem_singleton, false_or, and_false, exists_false, or_false]
  constructor
  · rintro ⟨-, checked, -, running, -, admitted, -, later, ⟨⟩, verified, askPrice, asked, low,
      event_eq⟩
    exact ⟨⟨checked, running, admitted, later, verified⟩, askPrice, asked, not_not.mp low,
      event_eq⟩
  · rintro ⟨⟨checked, running, admitted, later, verified⟩, askPrice, asked, low, event_eq⟩
    exact ⟨(), checked, (), running, (), admitted, (), later, (), verified, askPrice, asked,
      not_not.mpr low, event_eq⟩

end Silent

/-- What a reader of the log knows about the accounts of the program. -/
structure PublishedState where
  configurationRegistry : ConfigurationRegistry
  admin : Pubkey
  denyListAuthority : Pubkey
  isHalted : Bool
  denyListRegistry : DenyListRegistry
  pendingFills : List Lot

/-- The part of the accounts that the log tells about. -/
def ConverterState.published (state : ConverterState) : PublishedState where
  configurationRegistry := state.configurationRegistry
  admin := state.programState.admin
  denyListAuthority := state.programState.denyListAuthority
  isHalted := state.programState.isHalted
  denyListRegistry := state.denyListRegistry
  pendingFills := state.fillsRegistry.lots

/-- What an event changes. -/
def PublishedState.replay (known : PublishedState) : Event → PublishedState
  | .systemInitialized => known
  | .configChanged change =>
      { known with configurationRegistry :=
          { oraclePubkey := change.oraclePubkey
            solQuantity := change.solQuantity
            priceMaximumAge := change.priceMaximumAge
            fillsConsumer := known.configurationRegistry.fillsConsumer
            coefficient := change.coefficient
            maxDiscountRate := change.maxDiscountRate
            minDiscountRate := change.minDiscountRate } }
  | .fillsConsumerChanged _ newConsumer =>
      { known with configurationRegistry :=
          { known.configurationRegistry with fillsConsumer := newConsumer } }
  | .denyListAddressAdded _ address timestamp updateCount =>
      { known with denyListRegistry :=
          ⟨known.denyListRegistry.deniedAddresses ++ [address], timestamp, updateCount⟩ }
  | .denyListAddressRemoved _ address timestamp updateCount =>
      { known with denyListRegistry :=
          ⟨known.denyListRegistry.deniedAddresses.erase address, timestamp, updateCount⟩ }
  | .adminChanged newAdmin _ => { known with admin := newAdmin }
  | .denyListAuthoritySet newAuthority _ => { known with denyListAuthority := newAuthority }
  | .systemHalted _ => { known with isHalted := true }
  | .systemUnhalted _ => { known with isHalted := false }
  | .trade event =>
      { known with pendingFills := (LogEntry.joined
          ⟨event.solAmount.toNat, event.tokenAmount.toNat⟩).advance known.pendingFills }
  -- a bid that failed changed nothing
  | .bidTooLow _ => known
  | .fillsDequeued event =>
      { known with pendingFills := (LogEntry.served event.solDequeued.toNat
          event.token2zDequeued.toNat event.fillsConsumed.toNat).advance known.pendingFills }

/-- What an execution leaves in the log of its transaction. -/
def loggedEvents (entry : ProgramEntry) : List Event :=
  match entry.result with
  | .ok (_, receipt) => receipt.events
  | .error failure => failure.events

/-- The log of a history. -/
def eventLog (past : List ProgramEntry) : List Event := past.flatMap loggedEvents

section Replay

variable {platform : Platform} {context : Context} {state next : ConverterState}
  {instruction : Instruction} {receipt : Receipt}

/-- The trade an event reports. -/
def Event.trade? : Event → Option TradeEvent
  | .trade event => some event
  | _ => none

/-- The low bid an event reports. -/
def Event.lowBid? : Event → Option BidTooLowEvent
  | .bidTooLow event => some event
  | _ => none

/-- An event about the configuration, the authorities or the halt flag. -/
def Event.administrative : Event → Bool
  | .configChanged .. => true
  | .fillsConsumerChanged .. => true
  | .adminChanged .. => true
  | .denyListAuthoritySet .. => true
  | .systemHalted .. => true
  | .systemUnhalted .. => true
  | _ => false

/-- The event reports the result of a dequeue. -/
def FillsDequeued.reports (event : FillsDequeued) (result : DequeueFillsResult) : Prop :=
  event.solDequeued = result.solDequeued ∧ event.token2zDequeued = result.token2zDequeued ∧
    event.fillsConsumed = result.fillsConsumed

private theorem trade?_of_administrative {event : Event}
    (administrative : event.administrative = true) :
    event.trade? = none := by
  cases event with
  | trade => contradiction
  | _ => rfl

private theorem lowBid?_of_administrative {event : Event}
    (administrative : event.administrative = true) :
    event.lowBid? = none := by
  cases event with
  | bidTooLow => contradiction
  | _ => rfl

/-- What a successful instruction did, with the receipt it left. -/
inductive Completes (platform : Platform) (context : Context) (state : ConverterState) :
    Instruction → ConverterState → Receipt → Prop
  | administered {instruction : Instruction} {next : ConverterState} {event : Event} :
      event.administrative = true → next.published = state.published.replay event →
      next.fillsRegistry = state.fillsRegistry →
      next.programState.lastTradeSlot = state.programState.lastTradeSlot →
      Completes platform context state instruction next (context.receipt [event])
  | denied {admin address : Pubkey} {updateCount : UInt64} :
      addU64 state.denyListRegistry.updateCount 1 = some updateCount →
      Completes platform context state (.addToDenyList admin address)
        { state with denyListRegistry :=
          ⟨state.denyListRegistry.deniedAddresses ++ [address], context.clock.unixTimestamp,
            updateCount⟩ }
        (context.receipt
          [.denyListAddressAdded admin address context.clock.unixTimestamp updateCount])
  | allowed {admin address : Pubkey} {updateCount : UInt64} :
      addU64 state.denyListRegistry.updateCount 1 = some updateCount →
      Completes platform context state (.removeFromDenyList admin address)
        { state with denyListRegistry :=
          ⟨state.denyListRegistry.deniedAddresses.erase address, context.clock.unixTimestamp,
            updateCount⟩ }
        (context.receipt
          [.denyListAddressRemoved admin address context.clock.unixTimestamp updateCount])
  | traded {accounts : BuySolAccounts} {bidPrice : UInt64} {oraclePriceData : OraclePriceData}
      {askPrice tokensRequired : UInt64} {paid : Ledger} {next : ConverterState}
      {receipt : Receipt} :
      Trades platform context state accounts bidPrice oraclePriceData askPrice tokensRequired paid
        next receipt →
      Completes platform context state (.buySol accounts bidPrice oraclePriceData) next receipt
  | quoted {oraclePriceData : OraclePriceData} {rate : UInt64} :
      Completes platform context state (.getConversionRate oraclePriceData) state
        ⟨[], .conversionRate rate, context.ledger⟩
  | dequeued {signer : Pubkey} {maxSolAmount : UInt64} {fillsRegistry : FillsRegistry}
      {result : DequeueFillsResult} :
      state.fillsRegistry.dequeue maxSolAmount = .ok (fillsRegistry, result) →
      Completes platform context state (.dequeueFills signer maxSolAmount)
        { state with fillsRegistry }
        ⟨[.fillsDequeued ⟨signer, result.solDequeued, result.token2zDequeued,
          result.fillsConsumed, context.clock.unixTimestamp⟩], .dequeueFills result,
          context.ledger⟩

private theorem completes_of_toggleSystemState {admin : Pubkey} {setTo : Bool}
    (success : toggleSystemState context state admin setTo = .ok (next, receipt)) :
    Completes platform context state (.toggleSystemState admin setTo) next receipt := by
  simp only [toggleSystemState, bind_eq_ok, require_eq_ok] at success
  obtain ⟨-, -, toggled⟩ := success
  split at toggled
  · cases toggled
    exact .administered rfl rfl rfl rfl
  · split at toggled
    · cases toggled
      exact .administered rfl rfl rfl rfl
    · contradiction

theorem completes_of_ok
    (success : processInstruction platform state (context, instruction) = .ok (next, receipt)) :
    Completes platform context state instruction next receipt := by
  cases instruction with
  | initializeSystem arguments => contradiction
  | updateConfigurationRegistry admin input =>
      simp only [processInstruction, processUpdate, bind_eq_ok, require_eq_ok, pure_eq_ok,
        Prod.mk.injEq] at success
      obtain ⟨-, -, _, -, _, -, _, -, _, -, rfl, rfl⟩ := success
      exact .administered rfl rfl rfl rfl
  | setFillsConsumer admin newConsumer =>
      simp only [processInstruction, setFillsConsumer, bind_eq_ok, pure_eq_ok,
        Prod.mk.injEq] at success
      obtain ⟨-, -, rfl, rfl⟩ := success
      exact .administered rfl rfl rfl rfl
  | addToDenyList admin address =>
      obtain ⟨-, -, -, updateCount, counted, rfl, rfl⟩ := addToDenyList_eq_ok_iff.mp success
      exact .denied counted
  | removeFromDenyList admin address =>
      obtain ⟨-, -, updateCount, counted, rfl, rfl⟩ := removeFromDenyList_eq_ok_iff.mp success
      exact .allowed counted
  | setAdmin admin newAdmin =>
      simp only [processInstruction, setAdmin, bind_eq_ok, pure_eq_ok, Prod.mk.injEq] at success
      obtain ⟨-, -, rfl, rfl⟩ := success
      exact .administered rfl rfl rfl rfl
  | setDenyListAuthority admin newAuthority =>
      simp only [processInstruction, setDenyListAuthority, bind_eq_ok, pure_eq_ok,
        Prod.mk.injEq] at success
      obtain ⟨-, -, rfl, rfl⟩ := success
      exact .administered rfl rfl rfl rfl
  | toggleSystemState admin setTo => exact completes_of_toggleSystemState success
  | buySol accounts bidPrice oraclePriceData =>
      obtain ⟨askPrice, tokensRequired, paid, trades⟩ := buySol_eq_ok.mp success
      exact .traded trades
  | getConversionRate oraclePriceData =>
      simp only [processInstruction, bind_eq_ok, pure_eq_ok, Prod.mk.injEq] at success
      obtain ⟨rate, -, rfl, rfl⟩ := success
      exact .quoted
  | dequeueFills signer maxSolAmount =>
      simp only [processInstruction, dequeueFills, bind_eq_ok, require_eq_ok, pure_eq_ok,
        Prod.mk.injEq] at success
      obtain ⟨-, -, -, -, ⟨fillsRegistry, result⟩, dequeued, rfl, rfl⟩ := success
      exact .dequeued dequeued

/-- The trades in a log. -/
def tradesIn (events : List Event) : List TradeEvent := events.filterMap Event.trade?

/-- The slot of the last trade moves to the present one with a trade, and only forward. -/
def AtMostOneTrade (slot : UInt64) (state next : ConverterState) (events : List Event) : Prop :=
  tradesIn events = [] ∧ next.programState.lastTradeSlot = state.programState.lastTradeSlot ∨
    (∃ trade, tradesIn events = [trade]) ∧ state.programState.lastTradeSlot < slot ∧
      next.programState.lastTradeSlot = slot

/-- The events of a success tell what it changed, report no low bid and one trade at most. -/
structure Tells (context : Context) (state next : ConverterState) (events : List Event) :
    Prop where
  replayed : next.published = events.foldl PublishedState.replay state.published
  no_low_bid : ∀ event, .bidTooLow event ∉ events
  trades : AtMostOneTrade context.clock.slot state next events

theorem tells_event {event : Event} (replayed : next.published = state.published.replay event)
    (no_low_bid : event.lowBid? = none) (no_trade : event.trade? = none)
    (slot_eq : next.programState.lastTradeSlot = state.programState.lastTradeSlot) :
    Tells context state next [event] where
  replayed := replayed
  no_low_bid report logged := by
    rw [← List.mem_singleton.mp logged] at no_low_bid
    cases no_low_bid
  trades := by
    refine .inl ⟨?_, slot_eq⟩
    rw [tradesIn, List.filterMap_cons_none no_trade, List.filterMap_nil]

private theorem tells_of_trades {accounts : BuySolAccounts} {bidPrice : UInt64}
    {oraclePriceData : OraclePriceData} {askPrice tokensRequired : UInt64} {paid : Ledger}
    (consistent : state.fillsRegistry.Consistent)
    (trades : Trades platform context state accounts bidPrice oraclePriceData askPrice
      tokensRequired paid next receipt) : Tells context state next receipt.events := by
  rw [trades.events_eq]
  constructor
  · rw [List.foldl_cons, List.foldl_nil, ConverterState.published,
      trades.configurationRegistry_eq, trades.programState_eq, trades.denyListRegistry_eq,
      lots_insert consistent.toRing trades.inserted]
    rfl
  · simp
  · refine .inr ⟨⟨_, rfl⟩, trades.later, ?_⟩
    rw [trades.programState_eq]

private theorem tells_of_dequeue {maxSolAmount : UInt64} {fillsRegistry : FillsRegistry}
    {result : DequeueFillsResult} {event : FillsDequeued}
    (consistent : state.fillsRegistry.Consistent)
    (dequeued : state.fillsRegistry.dequeue maxSolAmount = .ok (fillsRegistry, result))
    (event_eq : event.reports result) :
    Tells context state { state with fillsRegistry } [.fillsDequeued event] := by
  obtain ⟨sol_eq, tokens_eq, consumed_eq⟩ := event_eq
  have drains := drains_of_dequeue consistent dequeued
  have left : fillsRegistry.lots = (LogEntry.served event.solDequeued.toNat
      event.token2zDequeued.toNat event.fillsConsumed.toNat).advance state.fillsRegistry.lots := by
    rw [sol_eq, tokens_eq, consumed_eq, drains.lots_eq, drains.solDequeued_eq,
      drains.token2zDequeued_eq, drains.fillsConsumed_eq]
    exact (advance_servedEntry maxSolAmount.toNat state.fillsRegistry.lots).symm
  refine tells_event ?_ rfl rfl rfl
  rw [ConverterState.published, left]
  rfl

/-- The log of a successful instruction tells what it did. -/
theorem tells_of_ok (consistent : state.fillsRegistry.Consistent)
    (success : processInstruction platform state (context, instruction) = .ok (next, receipt)) :
    Tells context state next receipt.events := by
  cases completes_of_ok success with
  | administered administrative replayed _ slot_eq =>
      exact tells_event replayed (lowBid?_of_administrative administrative)
        (trade?_of_administrative administrative) slot_eq
  | denied => exact tells_event rfl rfl rfl rfl
  | allowed => exact tells_event rfl rfl rfl rfl
  | traded trades => exact tells_of_trades consistent trades
  | quoted => exact ⟨rfl, fun _ => List.not_mem_nil, .inl ⟨rfl, rfl⟩⟩
  | dequeued dequeued => exact tells_of_dequeue consistent dequeued ⟨rfl, rfl, rfl⟩

private theorem published_of_error {failure : Failure}
    (failed : processInstruction platform state (context, instruction) = .error failure)
    (known : PublishedState) : failure.events.foldl PublishedState.replay known = known := by
  have unchanging : ∀ event ∈ failure.events, ∀ known : PublishedState,
      known.replay event = known := by
    intro event logged known
    have fails : FailsLogging event (processInstruction platform state (context, instruction)) :=
      ⟨failure, failed, logged⟩
    obtain ⟨accounts, bidPrice, oraclePriceData, rfl⟩ := buySol_of_failsLogging fails
    obtain ⟨-, askPrice, -, -, rfl⟩ := buySol_failsLogging.mp fails
    rfl
  clear failed
  generalize failure.events = events at unchanging
  induction events with
  | nil => rfl
  | cons event events ih =>
      rw [List.foldl_cons, unchanging event List.mem_cons_self]
      exact ih fun other member => unchanging other (List.mem_cons_of_mem _ member)

/-- The log tells what an execution did, whether it succeeded or not. -/
theorem published_commit (consistent : state.fillsRegistry.Consistent)
    (input : Context × Instruction) :
    (commit (processInstruction platform) state input).published =
      (loggedEvents ⟨state, input, processInstruction platform state input⟩).foldl
        PublishedState.replay state.published := by
  obtain ⟨context, instruction⟩ := input
  cases result : processInstruction platform state (context, instruction) with
  | error failure =>
      rw [commit_error _ result]
      exact (published_of_error result _).symm
  | ok success =>
      rw [commit_ok _ result]
      exact (tells_of_ok consistent result).replayed

end Replay

/-- The published part of a later state is what replaying the log of the run makes of it. -/
theorem published_run {platform : Platform} {state : ConverterState}
    (reachable : Reachable platform state) (inputs : List (Context × Instruction)) :
    (runProgram platform state inputs).published =
      (eventLog (programHistory platform state inputs)).foldl PublishedState.replay
        state.published := by
  have kept : ∀ state (input : Context × Instruction) next receipt,
      state.fillsRegistry.Consistent → processInstruction platform state input =
        .ok (next, receipt) → next.fillsRegistry.Consistent := by
    rintro state ⟨context, instruction⟩ next receipt consistent success
    exact consistent_of_executes consistent (executes_of_ok success)
  exact view_run _ kept (fun state input consistent => published_commit consistent input)
    (consistent_of_reachable reachable) inputs

/-- Whoever knows the published part of a reachable state and replays what any run from there logs,
failed instructions included, knows the published part of every later state, with the totals and
the number of the pending fills. -/
theorem published_replayed {platform : Platform} {state : ConverterState}
    (reachable : Reachable platform state) (inputs : List (Context × Instruction)) :
    let known := (eventLog (programHistory platform state inputs)).foldl PublishedState.replay
      state.published
    let later := runProgram platform state inputs
    later.published = known ∧
      later.fillsRegistry.totalSolPending.toNat = quantity known.pendingFills ∧
      later.fillsRegistry.total2zPending.toNat = value known.pendingFills ∧
      later.fillsRegistry.count.toNat = known.pendingFills.length := by
  intro known later
  have follows : later.published = known := published_run reachable inputs
  have consistent : later.fillsRegistry.Consistent :=
    consistent_of_reachable (reachable_run reachable inputs)
  rw [← follows]
  exact ⟨rfl, consistent.totalSolPending_eq, consistent.total2zPending_eq,
    (length_lots later.fillsRegistry).symm⟩

/-- After the local trade and the dequeue of seven lamports the log leaves one entry pending. -/
theorem published_replayed_local :
    let known := (eventLog (programHistory Local.platform Local.initial Local.inputs)).foldl
      PublishedState.replay Local.initial.published
    (runProgram Local.platform Local.initial Local.inputs).published = known ∧
      known.pendingFills = [⟨24999999993, 4727499999⟩] :=
  ⟨(published_replayed Local.initial_reachable Local.inputs).1, by decide +kernel⟩

/-! ## Evidence of low bids -/

section LowBids

variable {platform : Platform} {context : Context} {state : ConverterState}
  {instruction : Instruction} {event : BidTooLowEvent}

private theorem bidTooLow_mem_loggedEvents (consistent : state.fillsRegistry.Consistent) :
    .bidTooLow event ∈ loggedEvents ⟨state, (context, instruction),
        processInstruction platform state (context, instruction)⟩ ↔
      FailsLogging (.bidTooLow event)
        (processInstruction platform state (context, instruction)) := by
  rw [loggedEvents]
  cases result : processInstruction platform state (context, instruction) with
  | error failure => exact failsLogging_error.symm
  | ok success =>
      have told := (tells_of_ok consistent result).no_low_bid event
      simp [FailsLogging, told]

theorem buySol_logs_bidTooLow {rounding : Rounding}
    (lawful : platform.decimal.Lawful rounding) (valid : state.configurationRegistry.Valid)
    {accounts : BuySolAccounts} {bidPrice : UInt64} {oraclePriceData : OraclePriceData} :
    let askPrice := state.configurationRegistry.priceAfter oraclePriceData.swapRate.toNat
      (context.clock.slot.toNat - state.programState.lastTradeSlot.toNat)
    FailsLogging (.bidTooLow event)
        (buySol platform context state accounts bidPrice oraclePriceData) ↔
      Guarded platform context state accounts oraclePriceData ∧ bidPrice.toNat < askPrice ∧
        event.askPrice.toNat = askPrice ∧
        event.solAmount = state.configurationRegistry.solQuantity ∧ event.bidPrice = bidPrice ∧
        event.timestamp = context.clock.unixTimestamp ∧ event.buyer = accounts.signer ∧
        event.epoch = context.clock.epoch := by
  intro askPrice
  obtain ⟨solAmount, eventBid, eventAsk, timestamp, buyer, epoch⟩ := event
  simp only [buySol_failsLogging, asks_iff lawful valid, Event.bidTooLow.injEq,
    BidTooLowEvent.mk.injEq]
  constructor
  · rintro ⟨guarded, price, ⟨-, price_eq⟩, low, rfl, rfl, rfl, rfl, rfl, rfl⟩
    rw [UInt64.lt_iff_toNat_lt, price_eq] at low
    exact ⟨guarded, low, price_eq, rfl, rfl, rfl, rfl, rfl⟩
  · rintro ⟨guarded, low, price_eq, rfl, rfl, rfl, rfl, rfl⟩
    refine ⟨guarded, eventAsk, ⟨UInt64.le_of_lt guarded.later, price_eq⟩, ?_, rfl, rfl, rfl, rfl,
      rfl, rfl⟩
    rw [UInt64.lt_iff_toNat_lt, price_eq]
    exact low

end LowBids

/-- In every run a logged `BidTooLow` stems from a purchase that was admissible but for a bid below
the ask price of that moment, which the event reports with the bid; every such purchase logs it, it
is all that the purchase logs, and the purchase changes nothing. -/
theorem bidTooLow_logged_exactly {platform : Platform} {rounding : Rounding}
    (lawful : platform.decimal.Lawful rounding) {state : ConverterState}
    (reachable : Reachable platform state) {inputs : List (Context × Instruction)}
    {past future : List ProgramEntry} {entry : ProgramEntry}
    (split : programHistory platform state inputs = past ++ entry :: future)
    (event : BidTooLowEvent) :
    (.bidTooLow event ∈ loggedEvents entry ↔
        ∃ context accounts bidPrice oraclePriceData,
          let askPrice := entry.before.configurationRegistry.priceAfter
            oraclePriceData.swapRate.toNat
            (context.clock.slot.toNat - entry.before.programState.lastTradeSlot.toNat)
          entry.input = (context, .buySol accounts bidPrice oraclePriceData) ∧
          Guarded platform context entry.before accounts oraclePriceData ∧
          bidPrice.toNat < askPrice ∧ event.askPrice.toNat = askPrice ∧
          event.solAmount = entry.before.configurationRegistry.solQuantity ∧
          event.bidPrice = bidPrice ∧ event.timestamp = context.clock.unixTimestamp ∧
          event.buyer = accounts.signer ∧ event.epoch = context.clock.epoch) ∧
      (.bidTooLow event ∈ loggedEvents entry →
        (∀ other ∈ loggedEvents entry, other = .bidTooLow event) ∧
          commit (processInstruction platform) entry.before entry.input = entry.before) := by
  obtain ⟨front, -, -, -, before_eq, executed⟩ := history_split _ split
  have before_reachable : Reachable platform entry.before := by
    rw [before_eq]
    exact reachable_run reachable front
  rw [← before_eq] at executed
  clear split before_eq
  obtain ⟨before, ⟨context, instruction⟩, result⟩ := entry
  obtain rfl : result = processInstruction platform before (context, instruction) := executed
  have valid := valid_of_reachable before_reachable
  have logged_iff := @bidTooLow_mem_loggedEvents platform context before instruction event
    (consistent_of_reachable before_reachable)
  constructor
  · rw [logged_iff]
    constructor
    · intro fails
      obtain ⟨accounts, bidPrice, oraclePriceData, rfl⟩ := buySol_of_failsLogging fails
      exact ⟨context, accounts, bidPrice, oraclePriceData, rfl,
        (buySol_logs_bidTooLow lawful valid).mp fails⟩
    · rintro ⟨_, accounts, bidPrice, oraclePriceData, input_eq, reported⟩
      obtain ⟨rfl, rfl⟩ := Prod.mk.inj input_eq
      exact (buySol_logs_bidTooLow lawful valid).mpr reported
  · intro logged
    obtain ⟨failure, failed, -⟩ := logged_iff.mp logged
    refine ⟨fun other other_member => ?_, commit_error _ failed⟩
    have other_fails : FailsLogging other
        (processInstruction platform before (context, instruction)) := by
      rw [loggedEvents, failed] at other_member
      exact ⟨failure, failed, other_member⟩
    obtain ⟨accounts, bidPrice, oraclePriceData, rfl⟩ := buySol_of_failsLogging other_fails
    obtain ⟨-, askPrice, asked, -, other_eq⟩ := buySol_failsLogging.mp other_fails
    obtain ⟨-, price, priced, -, event_eq⟩ :=
      buySol_failsLogging.mp (logged_iff.mp logged)
    obtain rfl : askPrice = price := Except.ok.inj (asked.symm.trans priced)
    rw [other_eq, event_eq]

/-- The local buyer bids one unit below the ask price of 189100000. -/
theorem bidTooLow_logged_exactly_local :
    ∃ entry, programHistory Local.platform Local.initial
        [(Local.context 200 Local.ledger, .buySol Local.buyAccounts 189099999 Local.price)] =
          [] ++ entry :: [] ∧
      .bidTooLow ⟨25000000000, 189099999, 189100000, 1700000100, Local.buyer, 3⟩ ∈
        loggedEvents entry := by
  have guarded : Guarded Local.platform (Local.context 200 Local.ledger) Local.initial
      Local.buyAccounts Local.price :=
    ⟨Local.buyAccounts_checked, rfl, List.not_mem_nil, show (100 : UInt64) < 200 by decide,
      Local.verified⟩
  have split : ∃ entry, entry.before = Local.initial ∧
      entry.input = (Local.context 200 Local.ledger,
        .buySol Local.buyAccounts 189099999 Local.price) ∧
      programHistory Local.platform Local.initial [(Local.context 200 Local.ledger,
        .buySol Local.buyAccounts 189099999 Local.price)] = [] ++ entry :: [] :=
    ⟨_, rfl, rfl, rfl⟩
  obtain ⟨entry, before_eq, input_eq, split⟩ := split
  refine ⟨entry, split, (bidTooLow_logged_exactly nearestArithmetic_lawful
    Local.initial_reachable split
    ⟨25000000000, 189099999, 189100000, 1700000100, Local.buyer, 3⟩).1.mpr ?_⟩
  rw [before_eq, input_eq]
  exact ⟨_, _, _, _, rfl, guarded, by decide, by decide, rfl, rfl, rfl, rfl, rfl⟩

end SolConversion.OnChain
