import SolConversion.OnChain.Transactions

/-!
# Audit by events

The amounts in the trade and dequeue events account for the pending fills, and the changes of the
deny list carry consecutive numbers.  Both hold of every instruction and can be put together, so
they hold of every transaction and of every chain of transactions.
-/

namespace SolConversion.OnChain

open ChangeLog DecimalFormat Fallible FixedWidth LotQueue Transactional

/-- Amounts of SOL and of tokens, and a number of fills. -/
abbrev Amounts := ℕ × ℕ × ℕ

/-- The fill a trade event reports, in amounts. -/
def Event.sold? : Event → Option Amounts
  | .trade event => some (event.solAmount.toNat, event.tokenAmount.toNat, 1)
  | _ => none

/-- The amounts that a dequeue event reports. -/
def Event.dequeued? : Event → Option Amounts
  | .fillsDequeued event =>
      some (event.solDequeued.toNat, event.token2zDequeued.toNat, event.fillsConsumed.toNat)
  | _ => none

/-- The change of the deny list an event reports, under its number. -/
def Event.listed? : Event → Option (ℕ × Change Pubkey)
  | .denyListAddressAdded _ address _ updateCount => some (updateCount.toNat, .insert address)
  | .denyListAddressRemoved _ address _ updateCount => some (updateCount.toNat, .remove address)
  | _ => none

/-- The pending fills in amounts. -/
def FillsRegistry.pending (fillsRegistry : FillsRegistry) : Amounts :=
  (fillsRegistry.totalSolPending.toNat, fillsRegistry.total2zPending.toNat,
    fillsRegistry.count.toNat)

theorem pending_eq_lots {fillsRegistry : FillsRegistry} (consistent : fillsRegistry.Consistent) :
    fillsRegistry.pending =
      (quantity fillsRegistry.lots, value fillsRegistry.lots, fillsRegistry.lots.length) := by
  rw [FillsRegistry.pending, consistent.totalSolPending_eq, consistent.total2zPending_eq,
    length_lots]

/-- What an instruction does to the fills and to the deny list, by the events it logs. -/
inductive Logs (state next : ConverterState) : List Event → Prop
  | quiet {events : List Event} :
      (∀ event ∈ events, event.sold? = none ∧ event.dequeued? = none ∧ event.listed? = none) →
      next.fillsRegistry = state.fillsRegistry → next.denyListRegistry = state.denyListRegistry →
      Logs state next events
  | traded {event : TradeEvent} :
      state.fillsRegistry.insert event.solAmount event.tokenAmount = .ok next.fillsRegistry →
      next.denyListRegistry = state.denyListRegistry → Logs state next [.trade event]
  | dequeued {event : FillsDequeued} {maxSolAmount : UInt64} {result : DequeueFillsResult} :
      state.fillsRegistry.dequeue maxSolAmount = .ok (next.fillsRegistry, result) →
      Event.dequeued? (.fillsDequeued event) = some (result.solDequeued.toNat,
        result.token2zDequeued.toNat, result.fillsConsumed.toNat) →
      next.denyListRegistry = state.denyListRegistry → Logs state next [.fillsDequeued event]
  | changed {event : Event} {change : Change Pubkey} {count : ℕ} :
      event.listed? = some (count, change) →
      count = state.denyListRegistry.updateCount.toNat + 1 →
      next.denyListRegistry.updateCount.toNat = count →
      next.denyListRegistry.deniedAddresses =
        change.advance state.denyListRegistry.deniedAddresses →
      next.fillsRegistry = state.fillsRegistry → Logs state next [event]

section Logs

variable {platform : Platform} {context : Context} {state next : ConverterState}
  {instruction : Instruction} {receipt : Receipt}

private theorem logs_quiet {event : Event}
    (quiet : event.sold? = none ∧ event.dequeued? = none ∧ event.listed? = none)
    (fills_eq : next.fillsRegistry = state.fillsRegistry)
    (denied_eq : next.denyListRegistry = state.denyListRegistry) : Logs state next [event] :=
  .quiet (List.forall_mem_singleton.mpr quiet) fills_eq denied_eq

/-- What a successful instruction does, by its log. -/
theorem logs_of_ok
    (success : processInstruction platform state (context, instruction) = .ok (next, receipt)) :
    Logs state next receipt.events := by
  cases completes_of_ok success with
  | @administered _ _ event administrative replayed fills_eq _ =>
      have quiet : event.sold? = none ∧ event.dequeued? = none ∧ event.listed? = none := by
        cases event with
        | trade => contradiction
        | fillsDequeued => contradiction
        | denyListAddressAdded => contradiction
        | denyListAddressRemoved => contradiction
        | _ => exact ⟨rfl, rfl, rfl⟩
      refine logs_quiet quiet fills_eq
        ((congrArg PublishedState.denyListRegistry replayed).trans ?_)
      cases event with
      | denyListAddressAdded => contradiction
      | denyListAddressRemoved => contradiction
      | _ => rfl
  | denied counted =>
      rw [addU64_eq_some, UInt64.toNat_one] at counted
      exact .changed rfl counted.symm rfl rfl rfl
  | allowed counted =>
      rw [addU64_eq_some, UInt64.toNat_one] at counted
      exact .changed rfl counted.symm rfl rfl rfl
  | traded trades =>
      rw [trades.events_eq]
      exact .traded trades.inserted trades.denyListRegistry_eq
  | quoted => exact .quiet (fun _ member => absurd member List.not_mem_nil) rfl rfl
  | dequeued dequeued => exact .dequeued dequeued rfl rfl

end Logs

/-- What events report sold went into the queue, and what they report dequeued came out of it. -/
def Balances (state : ConverterState) (events : List Event) (next : ConverterState) : Prop :=
  next.fillsRegistry.pending + (events.filterMap Event.dequeued?).sum =
    state.fillsRegistry.pending + (events.filterMap Event.sold?).sum

theorem balances_nil (state : ConverterState) : Balances state [] state := rfl

theorem Balances.trans {state middle last : ConverterState} {earlier later : List Event}
    (first : Balances state earlier middle) (second : Balances middle later last) :
    Balances state (earlier ++ later) last := by
  rw [Balances] at first second ⊢
  rw [List.filterMap_append, List.filterMap_append, List.sum_append, List.sum_append,
    add_left_comm, second, ← add_assoc, ← add_assoc, add_comm _ middle.fillsRegistry.pending,
    first]

private theorem pending_insert {fillsRegistry next : FillsRegistry}
    {solQuantity tokensRequired : UInt64}
    (consistent : fillsRegistry.Consistent)
    (inserted : fillsRegistry.insert solQuantity tokensRequired = .ok next) :
    next.pending = fillsRegistry.pending + (solQuantity.toNat, tokensRequired.toNat, 1) := by
  rw [pending_eq_lots (consistent_insert consistent inserted), pending_eq_lots consistent,
    lots_insert consistent.toRing inserted, quantity_append, value_append, List.length_append]
  rfl

private theorem pending_dequeue {fillsRegistry next : FillsRegistry} {maxSolAmount : UInt64}
    {result : DequeueFillsResult} (consistent : fillsRegistry.Consistent)
    (dequeued : fillsRegistry.dequeue maxSolAmount = .ok (next, result)) :
    next.pending + (result.solDequeued.toNat, result.token2zDequeued.toNat,
      result.fillsConsumed.toNat) = fillsRegistry.pending := by
  have drains := drains_of_dequeue consistent dequeued
  rw [pending_eq_lots drains.consistent, pending_eq_lots consistent, drains.lots_eq,
    drains.solDequeued_eq, drains.token2zDequeued_eq, drains.fillsConsumed_eq, add_comm]
  exact Prod.ext (quantity_conserved _ _)
    (Prod.ext (value_conserved _ _) (lots_conserved _ _))

theorem filterMap_eq_nil_of_quiet {α : Type} {events : List Event} {report : Event → Option α}
    (quiet : ∀ event ∈ events, report event = none) : events.filterMap report = [] :=
  List.filterMap_eq_nil_iff.mpr quiet

theorem Logs.balances {state next : ConverterState} {events : List Event}
    (consistent : state.fillsRegistry.Consistent) (logs : Logs state next events) :
    Balances state events next := by
  rw [Balances]
  cases logs with
  | quiet quiet fills_eq _ =>
      rw [fills_eq, filterMap_eq_nil_of_quiet fun event member => (quiet event member).1,
        filterMap_eq_nil_of_quiet fun event member => (quiet event member).2.1]
  | traded inserted _ =>
      rw [pending_insert consistent inserted]
      rfl
  | dequeued dequeued reported _ =>
      rw [List.filterMap_cons_some reported, ← pending_dequeue consistent dequeued]
      rfl
  | @changed event change count listed _ _ _ fills_eq =>
      have no_fill : event.sold? = none ∧ event.dequeued? = none := by
        cases event with
        | denyListAddressAdded => exact ⟨rfl, rfl⟩
        | denyListAddressRemoved => exact ⟨rfl, rfl⟩
        | _ => cases listed
      rw [fills_eq, List.filterMap_cons_none no_fill.1, List.filterMap_cons_none no_fill.2]
      rfl

/-- The changes events report are numbered on from the count, and replaying them advances the
list. -/
structure Renumbers (state : ConverterState) (events : List Event) (next : ConverterState) :
    Prop where
  numbered : (events.filterMap Event.listed?).map Prod.fst =
    List.range' (state.denyListRegistry.updateCount.toNat + 1)
      (events.filterMap Event.listed?).length
  counted : next.denyListRegistry.updateCount.toNat =
    state.denyListRegistry.updateCount.toNat + (events.filterMap Event.listed?).length
  replayed : next.denyListRegistry.deniedAddresses =
    ((events.filterMap Event.listed?).map Prod.snd).foldl Change.advance
      state.denyListRegistry.deniedAddresses

theorem renumbers_nil (state : ConverterState) : Renumbers state [] state := ⟨rfl, rfl, rfl⟩

theorem Renumbers.trans {state middle last : ConverterState} {earlier later : List Event}
    (first : Renumbers state earlier middle) (second : Renumbers middle later last) :
    Renumbers state (earlier ++ later) last := by
  constructor
  · rw [List.filterMap_append, List.map_append, first.numbered, second.numbered, first.counted,
      List.length_append, Nat.add_right_comm, List.range'_append_1]
  · rw [second.counted, first.counted, List.filterMap_append, List.length_append, Nat.add_assoc]
  · rw [second.replayed, first.replayed, List.filterMap_append, List.map_append,
      List.foldl_append]

theorem Logs.renumbers {state next : ConverterState} {events : List Event}
    (logs : Logs state next events) : Renumbers state events next := by
  have unchanged {events : List Event} (none_listed : events.filterMap Event.listed? = [])
      (denied_eq : next.denyListRegistry = state.denyListRegistry) :
      Renumbers state events next := by
    constructor
    · rw [none_listed]
      rfl
    · rw [none_listed, denied_eq]
      rfl
    · rw [none_listed, denied_eq]
      rfl
  cases logs with
  | quiet quiet _ denied_eq =>
      exact unchanged (filterMap_eq_nil_of_quiet fun event member => (quiet event member).2.2)
        denied_eq
  | traded _ denied_eq => exact unchanged rfl denied_eq
  | dequeued _ _ denied_eq => exact unchanged rfl denied_eq
  | @changed event change count listed count_eq raised replayed _ =>
      have listed_eq : [event].filterMap Event.listed? = [(count, change)] :=
        List.filterMap_cons_some listed
      constructor
      · rw [listed_eq, count_eq]
        rfl
      · rw [listed_eq, raised, count_eq]
        rfl
      · rw [listed_eq, replayed]
        rfl

/-- What every instruction does and logs, put together, is what a transaction does and logs. -/
theorem relates_of_transaction {platform : Platform}
    {relation : ConverterState → List Event → ConverterState → Prop}
    (refl : ∀ state, relation state [] state)
    (trans : ∀ {state middle last earlier later}, relation state earlier middle →
      relation middle later last → relation state (earlier ++ later) last)
    (related : ∀ {state next events}, state.fillsRegistry.Consistent → Logs state next events →
      relation state events next)
    {state last : ConverterState} {transaction : ProgramTransaction} {receipts : List Receipt}
    (reachable : Reachable platform state)
    (success : executeTransaction platform state transaction = .ok (last, receipts)) :
    relation state (receiptEvents receipts) last :=
  batch_relates (processInstruction platform) refl trans
    (fun _ _ _ _ => reachable_of_ok)
    (fun _ _ _ _ reachable executed =>
      related (consistent_of_reachable reachable) (logs_of_ok executed)) reachable
    (batch_of_transaction success)

end SolConversion.OnChain
