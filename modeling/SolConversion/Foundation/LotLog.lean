import SolConversion.Foundation.LotQueue

/-!
# Queues of lots rebuilt from their logs

A log tells of a queue of lots which lots joined it and, for every demand served, only totals: the
quantity and the value released and the number of lots closed.  The totals determine what a demand
leaves behind, so the log determines the queue.
-/

namespace LotQueue

/-- What a log tells of a queue. -/
inductive LogEntry
  | joined (lot : Lot)
  | served (taken worth closed : ℕ)
  deriving DecidableEq

/-- Take the rest of what was released from the lot at the front. -/
def settleFront (taken worth : ℕ) : List Lot → List Lot
  | [] => []
  | lot :: behind => ⟨lot.quantity - taken, lot.value - worth⟩ :: behind

/-- What a demand leaves behind, by the totals of its releases. -/
def settle (taken worth closed : ℕ) (queue : List Lot) : List Lot :=
  settleFront (taken - quantity (queue.take closed)) (worth - value (queue.take closed))
    (queue.drop closed)

/-- The queue after one entry of its log. -/
def LogEntry.advance (queue : List Lot) : LogEntry → List Lot
  | .joined lot => queue ++ [lot]
  | .served taken worth closed => settle taken worth closed queue

/-- The entry a demand leaves in the log. -/
def servedEntry (demand : ℕ) (queue : List Lot) : LogEntry :=
  .served (quantity (amounts (released demand queue))) (value (amounts (released demand queue)))
    (closings (released demand queue))

private theorem settleFront_zero (queue : List Lot) : settleFront 0 0 queue = queue := by
  cases queue with
  | nil => rfl
  | cons lot behind => rfl

private theorem settle_cons (lot : Lot) (queue : List Lot) (taken worth closed : ℕ) :
    settle (lot.quantity + taken) (lot.value + worth) (closed + 1) (lot :: queue) =
      settle taken worth closed queue := by
  simp only [settle, List.take_succ_cons, List.drop_succ_cons, quantity_cons, value_cons,
    Nat.add_sub_add_left]

/-- The totals of its releases determine what a demand leaves behind. -/
theorem advance_servedEntry (demand : ℕ) (queue : List Lot) :
    (servedEntry demand queue).advance queue = remaining demand queue := by
  rw [servedEntry, LogEntry.advance]
  induction demand, queue using drain_induction with
  | empty demand => rfl
  | served queue =>
      rw [released_zero, remaining_zero]
      exact settleFront_zero queue
  | whole demand lot queue positive fits ih =>
      rw [released_whole positive fits, remaining_whole positive fits, amounts_cons,
        quantity_cons, value_cons, closings_cons, if_pos rfl, settle_cons]
      exact ih
  | split demand lot queue positive short =>
      rw [released_split positive short, remaining_split positive short]
      rfl

end LotQueue
