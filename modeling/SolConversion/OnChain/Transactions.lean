import SolConversion.Foundation.AtomicBatch
import SolConversion.OnChain.EventLog

/-!
# Transactions

A transaction runs its instructions in one slot and takes effect as a whole.  However many purchases
it holds, it commits one trade at most, because the first one uses up the slot.
-/

namespace SolConversion.OnChain

open Transactional

/-- The instructions of the program that a transaction comes to, which see one clock. -/
structure ProgramTransaction where
  clock : Clock
  inputs : List (Context × Instruction)
  one_clock : ∀ input ∈ inputs, input.1.clock = clock
  /-- An instruction of another program fails behind them. -/
  undone : Bool

/-- What comes of a transaction: its receipts, and if it is reverted the failure of the program, or
none if another program failed. -/
abbrev TransactionResult := Except (List Receipt × Option Failure) (ConverterState × List Receipt)

/-- Execute a transaction as a whole. -/
def executeTransaction (platform : Platform) (state : ConverterState)
    (transaction : ProgramTransaction) : TransactionResult :=
  match batch (processInstruction platform) state transaction.inputs with
  | .error (receipts, failure) => .error (receipts, some failure)
  | .ok (last, receipts) =>
      if transaction.undone then .error (receipts, none) else .ok (last, receipts)

/-- The events in some receipts. -/
def receiptEvents (receipts : List Receipt) : List Event := receipts.flatMap Receipt.events

/-- The log of a transaction, which is kept when the transaction is reverted. -/
def transactionEvents : TransactionResult → List Event
  | .ok (_, receipts) => receiptEvents receipts
  | .error (receipts, failure) => receiptEvents receipts ++ failure.elim [] Failure.events

/-- A successful instruction leads from reachable states to reachable states. -/
theorem reachable_of_ok {platform : Platform} {state next : ConverterState}
    {input : Context × Instruction} {receipt : Receipt} (reachable : Reachable platform state)
    (success : processInstruction platform state input = .ok (next, receipt)) :
    Reachable platform next := by
  have stepped := reachable_run reachable [input]
  rwa [runProgram, run_cons, run_nil, commit_ok _ success] at stepped

/-- A transaction that takes effect is the batch of its instructions. -/
theorem batch_of_transaction {platform : Platform} {state last : ConverterState}
    {transaction : ProgramTransaction} {receipts : List Receipt}
    (success : executeTransaction platform state transaction = .ok (last, receipts)) :
    batch (processInstruction platform) state transaction.inputs = .ok (last, receipts) := by
  rw [executeTransaction] at success
  split at success
  · contradiction
  · rename_i executed
    rw [executed]
    split at success
    · contradiction
    · rw [Except.ok.inj success]

theorem reachable_of_transaction {platform : Platform} {state last : ConverterState}
    {transaction : ProgramTransaction} {receipts : List Receipt}
    (reachable : Reachable platform state)
    (success : executeTransaction platform state transaction = .ok (last, receipts)) :
    Reachable platform last :=
  batch_invariant _ (fun _ _ _ _ => reachable_of_ok) reachable (batch_of_transaction success)

private theorem tradesIn_append (earlier later : List Event) :
    tradesIn (earlier ++ later) = tradesIn earlier ++ tradesIn later := List.filterMap_append

/-- One slot has room for one trade. -/
theorem AtMostOneTrade.trans {slot : UInt64} {state middle last : ConverterState}
    {earlier later : List Event} (first : AtMostOneTrade slot state middle earlier)
    (second : AtMostOneTrade slot middle last later) :
    AtMostOneTrade slot state last (earlier ++ later) := by
  rw [AtMostOneTrade, tradesIn_append]
  obtain ⟨no_trade, slot_eq⟩ | ⟨⟨trade, trade_eq⟩, before, slot_eq⟩ := first
  · rw [no_trade, List.nil_append, ← slot_eq]
    exact second
  · obtain ⟨no_later, later_eq⟩ | ⟨-, room, -⟩ := second
    · rw [no_later, List.append_nil, later_eq]
      exact .inr ⟨⟨trade, trade_eq⟩, before, slot_eq⟩
    · rw [slot_eq] at room
      exact absurd room (UInt64.lt_irrefl slot)

private theorem atMostOneTrade_of_batch {platform : Platform} {clock : Clock}
    {inputs : List (Context × Instruction)} (one_clock : ∀ input ∈ inputs, input.1.clock = clock)
    {state last : ConverterState} {receipts : List Receipt} (reachable : Reachable platform state)
    (success : batch (processInstruction platform) state inputs = .ok (last, receipts)) :
    AtMostOneTrade clock.slot state last (receiptEvents receipts) := by
  induction inputs generalizing state receipts with
  | nil =>
      obtain ⟨rfl, rfl⟩ := Prod.mk.inj (Except.ok.inj success)
      exact .inl ⟨rfl, rfl⟩
  | cons input inputs ih =>
      obtain ⟨context, instruction⟩ := input
      obtain ⟨next, receipt, others, executed, rest, rfl⟩ := (batch_cons_eq_ok _).mp success
      obtain ⟨clock_eq, others_clock⟩ := List.forall_mem_cons.mp one_clock
      have first := (tells_of_ok (consistent_of_reachable reachable) executed).trades
      rw [show context.clock = clock from clock_eq] at first
      exact first.trans (ih others_clock (reachable_of_ok reachable executed) rest)

/-- A transaction commits one trade at most. -/
theorem length_tradesIn_le_one {platform : Platform} {state last : ConverterState}
    {transaction : ProgramTransaction} {receipts : List Receipt}
    (reachable : Reachable platform state)
    (success : executeTransaction platform state transaction = .ok (last, receipts)) :
    (tradesIn (receiptEvents receipts)).length ≤ 1 := by
  obtain ⟨no_trade, -⟩ | ⟨⟨trade, trade_eq⟩, -⟩ :=
    atMostOneTrade_of_batch transaction.one_clock reachable (batch_of_transaction success)
  · rw [no_trade]
    exact Nat.zero_le 1
  · rw [trade_eq]
    exact Nat.le_refl 1

end SolConversion.OnChain
