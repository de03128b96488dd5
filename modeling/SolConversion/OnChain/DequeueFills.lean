import SolConversion.Foundation.WhileLoop
import SolConversion.OnChain.FillsRegistry

/-!
# Dequeueing fills

The fills consumer takes SOL from the head of the registry: whole fills while the amount left covers
them, and a part of the last one it reaches.  On a consistent registry the loop never fails and does
what draining the queue of lots does, pass by pass.
-/

namespace SolConversion.OnChain

open FixedWidth Fallible LotQueue

/-- The variables of the loop in `dequeue_fills`. -/
structure DequeueLoop where
  fillsRegistry : FillsRegistry
  solDequeued : UInt64
  token2zDequeued : UInt64
  fillsConsumed : UInt64

/-- `fills_registry.count > 0 && sol_dequeued < max_sol_amount` -/
def dequeueGuard (maxSolAmount : UInt64) (loop : DequeueLoop) : Bool :=
  decide (0 < loop.fillsRegistry.count ∧ loop.solDequeued < maxSolAmount)

/-- Full dequeue of the head entry. -/
def fullDequeue (loop : DequeueLoop) (nextEntry : Fill) :
    Except Failure (DequeueLoop × Fill) := do
  let head ← advance loop.fillsRegistry.head
  let count ← checked (subU64 loop.fillsRegistry.count 1)
  let fillsConsumed ← checked (addU64 loop.fillsConsumed 1)
  return ({ loop with
    fillsRegistry := { loop.fillsRegistry with head, count }
    fillsConsumed }, nextEntry)

/-- Partial dequeue of the head entry, which keeps the remainder. -/
def partialDequeue (loop : DequeueLoop) (headIndex : Fin maxFillsQueueSize) (nextEntry : Fill)
    (remainingSol : UInt64) : Except Failure (DequeueLoop × Fill) := do
  let product ← orFail (failWith .arithmeticError)
    (mulU128 nextEntry.token2zOut.toNat remainingSol.toNat)
  let quotient ← orFail (failWith .arithmeticError) (divU128 product nextEntry.solIn.toNat)
  let token2zDequeued ← orFail (failWith .arithmeticError) (toU64 quotient)
  let solIn ← checked (subU64 nextEntry.solIn remainingSol)
  let token2zOut ← checked (subU64 nextEntry.token2zOut token2zDequeued)
  let fills := loop.fillsRegistry.fills.set headIndex ⟨solIn, token2zOut⟩ headIndex.isLt
  return ({ loop with fillsRegistry := { loop.fillsRegistry with fills } },
    ⟨remainingSol, token2zDequeued⟩)

/-- The fill a pass takes off the head entry. -/
def dequeueEntry (loop : DequeueLoop) (headIndex : Fin maxFillsQueueSize) (nextEntry : Fill)
    (remainingSol : UInt64) : Except Failure (DequeueLoop × Fill) :=
  if nextEntry.solIn ≤ remainingSol then fullDequeue loop nextEntry
  else partialDequeue loop headIndex nextEntry remainingSol

/-- One pass of the loop in `dequeue_fills`. -/
def dequeuePass (maxSolAmount : UInt64) (loop : DequeueLoop) : Except Failure DequeueLoop := do
  let headIndex ← checked (fillsIndex loop.fillsRegistry.head)
  let nextEntry := loop.fillsRegistry.fills.get headIndex
  let remainingSol ← checked (subU64 maxSolAmount loop.solDequeued)
  let (loop, dequeuedFill) ← dequeueEntry loop headIndex nextEntry remainingSol
  let solDequeued ← checked (addU64 loop.solDequeued dequeuedFill.solIn)
  let token2zDequeued ← checked (addU64 loop.token2zDequeued dequeuedFill.token2zOut)
  return { loop with solDequeued, token2zDequeued }

/-- Consume fills until `max_sol_amount` is reached. -/
def dequeueLoop (maxSolAmount : UInt64) (loop : DequeueLoop) : Except Failure DequeueLoop :=
  WhileLoop.run (dequeueGuard maxSolAmount) (dequeuePass maxSolAmount)
    loop.fillsRegistry.count.toNat loop

/-- The loop variables before the first pass. -/
def FillsRegistry.startDequeue (fillsRegistry : FillsRegistry) : DequeueLoop :=
  ⟨fillsRegistry, 0, 0, 0⟩

/-- The registry part of `dequeue_fills`. -/
def FillsRegistry.dequeue (fillsRegistry : FillsRegistry) (maxSolAmount : UInt64) :
    Except Failure (FillsRegistry × DequeueFillsResult) := do
  require (fillsRegistry.count > 0) (failWith .emptyFillsRegistry)
  let loop ← dequeueLoop maxSolAmount fillsRegistry.startDequeue
  let totalSolPending ← orFail (failWith .arithmeticError)
    (subU64 loop.fillsRegistry.totalSolPending loop.solDequeued)
  let total2zPending ← orFail (failWith .arithmeticError)
    (subU64 loop.fillsRegistry.total2zPending loop.token2zDequeued)
  return ({ loop.fillsRegistry with totalSolPending, total2zPending },
    ⟨loop.solDequeued, loop.token2zDequeued, loop.fillsConsumed⟩)

def dequeueFills (context : Context) (state : ConverterState) (signer : Pubkey)
    (maxSolAmount : UInt64) : Except Failure (ConverterState × Receipt) := do
  require (signer = state.configurationRegistry.fillsConsumer)
    (failWith .unauthorizedFillConsumer)
  require (maxSolAmount > 0) (failWith .invalidMaxSolAmount)
  let (fillsRegistry, dequeueFillsResult) ← state.fillsRegistry.dequeue maxSolAmount
  return ({ state with fillsRegistry },
    { events := [.fillsDequeued
        { requester := signer
          solDequeued := dequeueFillsResult.solDequeued
          token2zDequeued := dequeueFillsResult.token2zDequeued
          fillsConsumed := dequeueFillsResult.fillsConsumed
          timestamp := context.clock.unixTimestamp }]
      returned := .dequeueFills dequeueFillsResult
      ledger := context.ledger })

/-- What some passes of the loop do: they release amounts and leave a queue behind. -/
structure DequeueLoop.Serves (loop next : DequeueLoop) (releases : List Release)
    (left : List Lot) : Prop where
  ring : next.fillsRegistry.Ring
  lots_eq : next.fillsRegistry.lots = left
  totalSolPending_eq : next.fillsRegistry.totalSolPending = loop.fillsRegistry.totalSolPending
  total2zPending_eq : next.fillsRegistry.total2zPending = loop.fillsRegistry.total2zPending
  solDequeued_eq : next.solDequeued.toNat = loop.solDequeued.toNat + quantity (amounts releases)
  token2zDequeued_eq :
    next.token2zDequeued.toNat = loop.token2zDequeued.toNat + value (amounts releases)
  fillsConsumed_eq : next.fillsConsumed.toNat = loop.fillsConsumed.toNat + closings releases

theorem DequeueLoop.Serves.refl {loop : DequeueLoop} (ring : loop.fillsRegistry.Ring) :
    loop.Serves loop [] loop.fillsRegistry.lots := by
  constructor <;> simp [ring]

theorem DequeueLoop.Serves.trans {loop middle next : DequeueLoop} {first second : List Release}
    {between left : List Lot} (before : loop.Serves middle first between)
    (after : middle.Serves next second left) : loop.Serves next (first ++ second) left where
  ring := after.ring
  lots_eq := after.lots_eq
  totalSolPending_eq := after.totalSolPending_eq.trans before.totalSolPending_eq
  total2zPending_eq := after.total2zPending_eq.trans before.total2zPending_eq
  solDequeued_eq := by
    rw [after.solDequeued_eq, before.solDequeued_eq, amounts_append, quantity_append]
    omega
  token2zDequeued_eq := by
    rw [after.token2zDequeued_eq, before.token2zDequeued_eq, amounts_append, value_append]
    omega
  fillsConsumed_eq := by
    rw [after.fillsConsumed_eq, before.fillsConsumed_eq, closings_append]
    omega

/-- The head entry of a nonempty ring. -/
def FillsRegistry.headEntry (fillsRegistry : FillsRegistry) : Fill :=
  fillsRegistry.fills.get (RingBuffer.slot maxFillsQueueSize fillsRegistry.head.toNat 0)

private theorem viewFillsRegistry_cons {fillsRegistry : FillsRegistry} {behind : ℕ}
    (count_eq : fillsRegistry.count.toNat = behind + 1) :
    viewFillsRegistry fillsRegistry = fillsRegistry.headEntry ::
      RingBuffer.window fillsRegistry.fills (fillsRegistry.head.toNat + 1) behind := by
  rw [viewFillsRegistry_eq_window, count_eq, RingBuffer.window_succ]
  rfl

theorem dequeueGuard_eq_true {maxSolAmount : UInt64} {loop : DequeueLoop} :
    dequeueGuard maxSolAmount loop = true ↔
      0 < loop.fillsRegistry.count.toNat ∧ loop.solDequeued.toNat < maxSolAmount.toNat := by
  rw [dequeueGuard, decide_eq_true_iff]
  rfl

theorem lots_eq_cons {fillsRegistry : FillsRegistry} {lot : Lot} {queue : List Lot}
    (lots_eq : fillsRegistry.lots = lot :: queue) :
    fillsRegistry.count.toNat = queue.length + 1 ∧ fillsRegistry.headEntry.lot = lot ∧
      (RingBuffer.window fillsRegistry.fills (fillsRegistry.head.toNat + 1) queue.length).map
        Fill.lot = queue := by
  have count_eq : fillsRegistry.count.toNat = queue.length + 1 := by
    rw [← length_lots, lots_eq, List.length_cons]
  rw [FillsRegistry.lots, viewFillsRegistry_cons count_eq, List.map_cons] at lots_eq
  obtain ⟨head_eq, behind_eq⟩ := List.cons.inj lots_eq
  exact ⟨count_eq, head_eq, behind_eq⟩

/-- The head entry decides which way a pass goes. -/
theorem dequeuePass_head {maxSolAmount remainingSol : UInt64} {loop : DequeueLoop}
    (ring : loop.fillsRegistry.Ring)
    (remaining_sub : subU64 maxSolAmount loop.solDequeued = some remainingSol) :
    dequeuePass maxSolAmount loop = (do
      let served ← dequeueEntry loop
        (RingBuffer.slot maxFillsQueueSize loop.fillsRegistry.head.toNat 0)
        loop.fillsRegistry.headEntry remainingSol
      let solDequeued ← checked (addU64 served.1.solDequeued served.2.solIn)
      let token2zDequeued ← checked (addU64 served.1.token2zDequeued served.2.token2zOut)
      return { served.1 with solDequeued, token2zDequeued }) := by
  rw [dequeuePass, fillsIndex_of_lt ring.head_lt, remaining_sub]
  rfl

private theorem dequeuePass_full {maxSolAmount : UInt64} {loop : DequeueLoop} {lot : Lot}
    {queue : List Lot} {demand : ℕ} (ring : loop.fillsRegistry.Ring)
    (lots_eq : loop.fillsRegistry.lots = lot :: queue)
    (demand_eq : loop.solDequeued.toNat + demand = maxSolAmount.toNat)
    (covered : lot.quantity ≤ demand)
    (tokens_fit : loop.token2zDequeued.toNat + lot.value < 2 ^ 64)
    (consumed_fit : loop.fillsConsumed.toNat + 1 < 2 ^ 64) :
    ∃ next, dequeuePass maxSolAmount loop = .ok next ∧ loop.Serves next [⟨lot, true⟩] queue := by
  obtain ⟨count_eq, rfl, behind_eq⟩ := lots_eq_cons lots_eq
  obtain ⟨remainingSol, remaining_sub, remaining_eq⟩ := subU64_of_add demand_eq
  have whole : loop.fillsRegistry.headEntry.solIn ≤ remainingSol :=
    UInt64.le_iff_toNat_le.mpr (remaining_eq.symm ▸ covered)
  obtain ⟨head, advanced, head_eq⟩ := advance_of_lt ring.head_lt
  obtain ⟨count, count_sub, counted⟩ :
      ∃ count, subU64 loop.fillsRegistry.count 1 = some count ∧ count.toNat = queue.length :=
    subU64_of_add (by rw [UInt64.toNat_one, count_eq, Nat.add_comm])
  obtain ⟨fillsConsumed, consumed_add, consumed_eq⟩ :
      ∃ consumed, addU64 loop.fillsConsumed 1 = some consumed ∧
        consumed.toNat = loop.fillsConsumed.toNat + 1 := addU64_of_lt consumed_fit
  have max_lt := u64_lt maxSolAmount
  obtain ⟨solDequeued, sol_add, sol_eq⟩ : ∃ sum,
      addU64 loop.solDequeued loop.fillsRegistry.headEntry.solIn = some sum ∧
        sum.toNat = loop.solDequeued.toNat + loop.fillsRegistry.headEntry.solIn.toNat :=
    addU64_of_lt (Nat.lt_of_le_of_lt (Nat.add_le_add_left covered _) (by omega))
  obtain ⟨token2zDequeued, tokens_add, tokens_eq⟩ := addU64_of_lt tokens_fit
  refine ⟨⟨{ loop.fillsRegistry with head, count }, solDequeued, token2zDequeued, fillsConsumed⟩,
    ?_, ?_⟩
  · have served : fullDequeue loop loop.fillsRegistry.headEntry = .ok (⟨{ loop.fillsRegistry with
        head, count }, loop.solDequeued, loop.token2zDequeued, fillsConsumed⟩,
        loop.fillsRegistry.headEntry) := by
      rw [fullDequeue, advanced, count_sub, consumed_add]
      rfl
    rw [dequeuePass_head ring remaining_sub, dequeueEntry, if_pos whole, served, ok_bind, sol_add,
      tokens_add]
    rfl
  · refine ⟨⟨?_, ring.tail_lt, ?_, ?_⟩, ?_, rfl, rfl, ?_, ?_, ?_⟩
    · simpa [head_eq] using Nat.mod_lt _ (NeZero.pos maxFillsQueueSize)
    · have count_le := ring.count_le
      simp only [counted]
      omega
    · simp only [head_eq, counted, Nat.mod_add_mod]
      rw [ring.tail_eq, count_eq, show loop.fillsRegistry.head.toNat + (queue.length + 1) =
        loop.fillsRegistry.head.toNat + 1 + queue.length by omega]
    · simp only [FillsRegistry.lots, viewFillsRegistry_eq_window, head_eq, counted,
        RingBuffer.window_mod]
      exact behind_eq
    · simpa using sol_eq
    · simpa using tokens_eq
    · simpa using consumed_eq

private theorem dequeuePass_split {maxSolAmount : UInt64} {loop : DequeueLoop} {lot : Lot}
    {queue : List Lot} {demand : ℕ} (ring : loop.fillsRegistry.Ring)
    (lots_eq : loop.fillsRegistry.lots = lot :: queue)
    (demand_eq : loop.solDequeued.toNat + demand = maxSolAmount.toNat)
    (short : demand < lot.quantity)
    (tokens_fit : loop.token2zDequeued.toNat + lot.value < 2 ^ 64) :
    ∃ next, dequeuePass maxSolAmount loop = .ok next ∧
      loop.Serves next [⟨lot.part demand, false⟩] (lot.rest demand :: queue) := by
  obtain ⟨count_eq, rfl, behind_eq⟩ := lots_eq_cons lots_eq
  obtain ⟨remainingSol, remaining_sub, rfl⟩ := subU64_of_add demand_eq
  set entry := loop.fillsRegistry.headEntry with entry_eq
  have not_whole : ¬entry.solIn ≤ remainingSol := by
    rw [UInt64.le_iff_toNat_le]
    exact Nat.not_le.mpr short
  have part_le := part_value_le (Nat.le_of_lt short)
  have value_lt := u64_lt entry.token2zOut
  obtain ⟨token2z, narrowed, token2z_eq⟩ :=
    toU64_of_lt (Nat.lt_of_le_of_lt part_le value_lt)
  obtain ⟨solIn, sol_sub, sol_left⟩ :
      ∃ left, subU64 entry.solIn remainingSol = some left ∧
        left.toNat = (entry.lot.rest remainingSol.toNat).quantity :=
    subU64_of_add (part_add_rest_quantity (Nat.le_of_lt short))
  obtain ⟨token2zOut, tokens_sub, tokens_left⟩ :
      ∃ left, subU64 entry.token2zOut token2z = some left ∧
        left.toNat = (entry.lot.rest remainingSol.toNat).value :=
    subU64_of_add (by rw [token2z_eq]; exact part_add_rest_value (Nat.le_of_lt short))
  obtain ⟨solDequeued, sol_add, sol_eq⟩ : ∃ sum,
      addU64 loop.solDequeued remainingSol = some sum ∧ sum.toNat = maxSolAmount.toNat :=
    ⟨maxSolAmount, addU64_eq_some.mpr demand_eq, rfl⟩
  obtain ⟨token2zDequeued, tokens_add, tokens_eq⟩ : ∃ sum,
      addU64 loop.token2zDequeued token2z = some sum ∧
        sum.toNat = loop.token2zDequeued.toNat + token2z.toNat :=
    addU64_of_lt (by omega)
  set slot := RingBuffer.slot maxFillsQueueSize loop.fillsRegistry.head.toNat 0 with slot_eq
  refine ⟨⟨{ loop.fillsRegistry with
    fills := loop.fillsRegistry.fills.set slot ⟨solIn, token2zOut⟩ }, solDequeued,
    token2zDequeued, loop.fillsConsumed⟩, ?_, ?_⟩
  · have served : partialDequeue loop slot entry remainingSol = .ok (⟨{ loop.fillsRegistry with
        fills := loop.fillsRegistry.fills.set slot ⟨solIn, token2zOut⟩ }, loop.solDequeued,
        loop.token2zDequeued, loop.fillsConsumed⟩, ⟨remainingSol, token2z⟩) := by
      have divided : divU128 (entry.token2zOut.toNat * remainingSol.toNat) entry.solIn.toNat =
          some (entry.lot.part remainingSol.toNat).value := by
        rw [divU128_eq_some]
        exact ⟨Nat.ne_of_gt (Nat.zero_lt_of_lt short), rfl⟩
      simp only [partialDequeue, mulU128_of_u64, orFail_some, ok_bind, divided, narrowed, sol_sub,
        tokens_sub, checked_some]
      rfl
    rw [dequeuePass_head ring remaining_sub, dequeueEntry, if_neg not_whole, served, ok_bind,
      sol_add, tokens_add]
    rfl
  · refine ⟨⟨ring.head_lt, ring.tail_lt, ring.count_le, ring.tail_eq⟩, ?_, rfl, rfl, ?_, ?_, ?_⟩
    · have split : viewFillsRegistry { loop.fillsRegistry with
          fills := loop.fillsRegistry.fills.set slot ⟨solIn, token2zOut⟩ } =
            ⟨solIn, token2zOut⟩ :: RingBuffer.window loop.fillsRegistry.fills
              (loop.fillsRegistry.head.toNat + 1) queue.length := by
        simp only [viewFillsRegistry_eq_window, count_eq]
        exact RingBuffer.window_set_oldest _ _ _ _ (count_eq ▸ ring.count_le)
      rw [FillsRegistry.lots, split, List.map_cons, behind_eq]
      simp only [Fill.lot, sol_left, tokens_left]
    · simp [sol_eq, ← demand_eq, Lot.part]
    · simpa [← token2z_eq] using tokens_eq
    · simp

/-- The release a pass makes, read off the loop variables around it. -/
def passRelease (pass : DequeueLoop × DequeueLoop) : Release where
  lot := ⟨pass.2.solDequeued.toNat - pass.1.solDequeued.toNat,
    pass.2.token2zDequeued.toNat - pass.1.token2zDequeued.toNat⟩
  closes := decide (pass.1.fillsConsumed < pass.2.fillsConsumed)

/-- The releases a loop makes, pass by pass. -/
def dequeueReleases (maxSolAmount : UInt64) (loop : DequeueLoop) : List Release :=
  (WhileLoop.passes (dequeueGuard maxSolAmount) (dequeuePass maxSolAmount)
    loop.fillsRegistry.count.toNat loop).map passRelease

theorem passRelease_of_serves {loop next : DequeueLoop} {release : Release} {left : List Lot}
    (serves : loop.Serves next [release] left) : passRelease (loop, next) = release := by
  have sol_eq := serves.solDequeued_eq
  have tokens_eq := serves.token2zDequeued_eq
  have consumed_eq := serves.fillsConsumed_eq
  obtain ⟨⟨quantity, value⟩, closes⟩ := release
  simp only [amounts_cons, amounts_nil, quantity_cons, quantity_nil, value_cons, value_nil,
    closings_cons, closings_nil] at sol_eq tokens_eq consumed_eq
  have closes_eq : decide (loop.fillsConsumed < next.fillsConsumed) = closes := by
    rw [← Bool.coe_iff_coe, decide_eq_true_iff, UInt64.lt_iff_toNat_lt, consumed_eq]
    cases closes <;> simp
  simp only [passRelease, closes_eq, Release.mk.injEq, Lot.mk.injEq, and_true]
  omega

/-- A loop with enough passes serves a demand as the queue of lots does. -/
theorem dequeue_refines {maxSolAmount : UInt64} {demand : ℕ} {queue : List Lot}
    {loop : DequeueLoop} (ring : loop.fillsRegistry.Ring)
    (lots_eq : loop.fillsRegistry.lots = queue)
    (demand_eq : loop.solDequeued.toNat + demand = maxSolAmount.toNat)
    (tokens_fit : loop.token2zDequeued.toNat + value queue < 2 ^ 64)
    (consumed_fit : loop.fillsConsumed.toNat + queue.length < 2 ^ 64) {passes : ℕ}
    (enough : queue.length ≤ passes) :
    ∃ next,
      WhileLoop.run (dequeueGuard maxSolAmount) (dequeuePass maxSolAmount) passes loop =
        .ok next ∧
      loop.Serves next (released demand queue) (remaining demand queue) ∧
      dequeueGuard maxSolAmount next = false ∧
      (WhileLoop.passes (dequeueGuard maxSolAmount) (dequeuePass maxSolAmount) passes loop).map
        passRelease = released demand queue := by
  induction demand, queue using drain_induction generalizing loop passes with
  | empty demand =>
      have stopped : dequeueGuard maxSolAmount loop = false := by
        rw [← Bool.not_eq_true, dequeueGuard_eq_true, ← length_lots, lots_eq]
        simp
      refine ⟨loop, WhileLoop.run_of_not_guard stopped passes, ?_, stopped, ?_⟩
      · rw [released_nil, remaining_nil, ← lots_eq]
        exact .refl ring
      · simp [WhileLoop.passes_of_not_guard stopped]
  | served queue =>
      have stopped : dequeueGuard maxSolAmount loop = false := by
        rw [← Bool.not_eq_true, dequeueGuard_eq_true]
        omega
      refine ⟨loop, WhileLoop.run_of_not_guard stopped passes, ?_, stopped, ?_⟩
      · rw [released_zero, remaining_zero, ← lots_eq]
        exact .refl ring
      · simp [WhileLoop.passes_of_not_guard stopped]
  | whole demand lot queue positive covered ih =>
      have running : dequeueGuard maxSolAmount loop = true := by
        rw [dequeueGuard_eq_true, ← length_lots, lots_eq, List.length_cons]
        omega
      simp only [value_cons, List.length_cons] at tokens_fit consumed_fit enough
      obtain ⟨passes, rfl⟩ : ∃ fewer, passes = fewer + 1 := ⟨passes - 1, by omega⟩
      obtain ⟨middle, pass, serves⟩ := dequeuePass_full ring lots_eq demand_eq covered
        (by omega) (by omega)
      have sol_eq := serves.solDequeued_eq
      have tokens_eq := serves.token2zDequeued_eq
      have consumed_eq := serves.fillsConsumed_eq
      simp only [amounts_cons, amounts_nil, quantity_cons, quantity_nil, value_cons, value_nil,
        closings_cons, closings_nil, if_true] at sol_eq tokens_eq consumed_eq
      obtain ⟨next, finished, rest_serves, stopped, rest_releases⟩ :=
        ih serves.ring serves.lots_eq (by omega) (by omega) (by omega)
          (Nat.le_of_succ_le_succ enough)
      refine ⟨next, ?_, ?_, stopped, ?_⟩
      · rw [WhileLoop.run_succ running pass, finished]
      · rw [released_whole positive covered, remaining_whole positive covered]
        exact serves.trans rest_serves
      · rw [WhileLoop.passes_succ running pass, List.map_cons, rest_releases,
          passRelease_of_serves serves, released_whole positive covered]
  | split demand lot queue positive short =>
      have running : dequeueGuard maxSolAmount loop = true := by
        rw [dequeueGuard_eq_true, ← length_lots, lots_eq, List.length_cons]
        omega
      simp only [value_cons, List.length_cons] at tokens_fit enough
      obtain ⟨passes, rfl⟩ : ∃ fewer, passes = fewer + 1 := ⟨passes - 1, by omega⟩
      obtain ⟨next, pass, serves⟩ := dequeuePass_split ring lots_eq demand_eq short (by omega)
      have sol_eq : next.solDequeued.toNat = loop.solDequeued.toNat + demand := by
        simpa [Lot.part] using serves.solDequeued_eq
      have stopped : dequeueGuard maxSolAmount next = false := by
        rw [← Bool.not_eq_true, dequeueGuard_eq_true]
        omega
      refine ⟨next, ?_, ?_, stopped, ?_⟩
      · rw [WhileLoop.run_succ running pass, WhileLoop.run_of_not_guard stopped]
      · rwa [released_split positive short, remaining_split positive short]
      · rw [WhileLoop.passes_succ running pass, WhileLoop.passes_of_not_guard stopped,
          List.map_cons, List.map_nil, passRelease_of_serves serves,
          released_split positive short]

/-! ## Termination -/

/-- Every successful pass shortens the queue or reaches the amount asked for. -/
theorem dequeuePass_progress {maxSolAmount : UInt64} {loop next : DequeueLoop}
    (success : dequeuePass maxSolAmount loop = .ok next) :
    next.fillsRegistry.count.toNat < loop.fillsRegistry.count.toNat ∨
      next.solDequeued = maxSolAmount := by
  simp only [dequeuePass, bind_eq_ok, checked_eq_ok, pure_eq_ok, subU64_eq_some,
    addU64_eq_some] at success
  obtain ⟨headIndex, -, remainingSol, remaining_eq, ⟨middle, fill⟩, served, solDequeued, sol_eq,
    token2zDequeued, -, rfl⟩ := success
  rw [dequeueEntry] at served
  split at served
  · left
    simp only [fullDequeue, bind_eq_ok, checked_eq_ok, pure_eq_ok, subU64_eq_some,
      Prod.mk.injEq] at served
    obtain ⟨head, -, count, count_eq, fillsConsumed, -, rfl, -⟩ := served
    rw [UInt64.toNat_one] at count_eq
    simp only
    omega
  · right
    simp only [partialDequeue, bind_eq_ok, checked_eq_ok, orFail_eq_ok, pure_eq_ok,
      Prod.mk.injEq] at served
    obtain ⟨product, -, quotient, -, token2z, -, solIn, -, token2zOut, -, rfl, rfl⟩ := served
    rw [← UInt64.toNat_inj, ← sol_eq, remaining_eq]

/-- The number of passes the loop can still make. -/
def dequeueMeasure (maxSolAmount : UInt64) (loop : DequeueLoop) : ℕ :=
  if dequeueGuard maxSolAmount loop then loop.fillsRegistry.count.toNat else 0

theorem dequeueMeasure_decreases (maxSolAmount : UInt64) :
    WhileLoop.Decreases (dequeueGuard maxSolAmount) (dequeuePass maxSolAmount)
      (dequeueMeasure maxSolAmount) := by
  intro loop next running pass
  have pending := (dequeueGuard_eq_true.mp running).1
  rw [dequeueMeasure, dequeueMeasure, if_pos running]
  rcases dequeuePass_progress pass with shorter | reached
  · split <;> omega
  · have stopped : ¬dequeueGuard maxSolAmount next = true := by
      rw [dequeueGuard_eq_true, reached]
      omega
    rw [if_neg stopped]
    exact pending

theorem dequeueMeasure_pos {maxSolAmount : UInt64} (loop : DequeueLoop)
    (running : dequeueGuard maxSolAmount loop = true) : 0 < dequeueMeasure maxSolAmount loop := by
  rw [dequeueMeasure, if_pos running]
  exact (dequeueGuard_eq_true.mp running).1

private theorem dequeueMeasure_le (maxSolAmount : UInt64) (loop : DequeueLoop) :
    dequeueMeasure maxSolAmount loop ≤ loop.fillsRegistry.count.toNat := by
  unfold dequeueMeasure
  split <;> omega

/-- The bounded loop satisfies the equation of the loop in the source. -/
theorem dequeueLoop_unfold (maxSolAmount : UInt64) (loop : DequeueLoop) :
    dequeueLoop maxSolAmount loop =
      if dequeueGuard maxSolAmount loop then
        dequeuePass maxSolAmount loop >>= dequeueLoop maxSolAmount
      else .ok loop := by
  have bounded : ∀ other, dequeueLoop maxSolAmount other =
      WhileLoop.run (dequeueGuard maxSolAmount) (dequeuePass maxSolAmount)
        (dequeueMeasure maxSolAmount other) other := fun other =>
    WhileLoop.run_eq_of_measure_le (dequeueMeasure_decreases maxSolAmount)
      (dequeueMeasure_le maxSolAmount other) le_rfl fun _ => dequeueMeasure_pos _
  simp only [funext bounded]
  exact WhileLoop.run_unfold (dequeueMeasure_decreases maxSolAmount)
    (fun _ => dequeueMeasure_pos _) loop

/-- What a dequeue of at most `demand` does to a registry and returns. -/
structure FillsRegistry.Drains (before after : FillsRegistry) (demand : ℕ)
    (result : DequeueFillsResult) : Prop where
  consistent : after.Consistent
  lots_eq : after.lots = remaining demand before.lots
  solDequeued_eq :
    result.solDequeued.toNat = quantity (amounts (released demand before.lots))
  token2zDequeued_eq :
    result.token2zDequeued.toNat = value (amounts (released demand before.lots))
  fillsConsumed_eq : result.fillsConsumed.toNat = closings (released demand before.lots)

/-- On a consistent registry the loop ends having served the amount asked for. -/
theorem dequeueLoop_refines {fillsRegistry : FillsRegistry}
    (consistent : fillsRegistry.Consistent) (maxSolAmount : UInt64) :
    ∃ loop, dequeueLoop maxSolAmount fillsRegistry.startDequeue = .ok loop ∧
      dequeueGuard maxSolAmount loop = false ∧
      fillsRegistry.startDequeue.Serves loop (released maxSolAmount.toNat fillsRegistry.lots)
        (remaining maxSolAmount.toNat fillsRegistry.lots) ∧
      dequeueReleases maxSolAmount fillsRegistry.startDequeue =
        released maxSolAmount.toNat fillsRegistry.lots := by
  have tokens_lt := u64_lt fillsRegistry.total2zPending
  rw [consistent.total2zPending_eq] at tokens_lt
  have count_lt := u64_lt fillsRegistry.count
  have start_eq : fillsRegistry.startDequeue.solDequeued.toNat + maxSolAmount.toNat =
      maxSolAmount.toNat := by
    simp [FillsRegistry.startDequeue]
  obtain ⟨loop, finished, serves, stopped, releases⟩ :=
    dequeue_refines consistent.toRing rfl start_eq
      (by simpa [FillsRegistry.startDequeue] using tokens_lt)
      (by simpa [FillsRegistry.startDequeue] using count_lt)
      (length_lots fillsRegistry).le
  exact ⟨loop, finished, stopped, serves, releases⟩

/-- A nonempty consistent registry can always be dequeued. -/
theorem dequeue_of_pending {fillsRegistry : FillsRegistry}
    (consistent : fillsRegistry.Consistent) (pending : 0 < fillsRegistry.count)
    (maxSolAmount : UInt64) :
    ∃ next result, fillsRegistry.dequeue maxSolAmount = .ok (next, result) ∧
      fillsRegistry.Drains next maxSolAmount.toNat result := by
  obtain ⟨loop, finished, -, serves, -⟩ := dequeueLoop_refines consistent maxSolAmount
  have sol_conserved := quantity_conserved maxSolAmount.toNat fillsRegistry.lots
  have tokens_conserved := value_conserved maxSolAmount.toNat fillsRegistry.lots
  have sol_eq : loop.solDequeued.toNat =
      quantity (amounts (released maxSolAmount.toNat fillsRegistry.lots)) := by
    simpa [FillsRegistry.startDequeue] using serves.solDequeued_eq
  have tokens_eq : loop.token2zDequeued.toNat =
      value (amounts (released maxSolAmount.toNat fillsRegistry.lots)) := by
    simpa [FillsRegistry.startDequeue] using serves.token2zDequeued_eq
  obtain ⟨totalSolPending, sol_sub, sol_left⟩ :
      ∃ left, subU64 loop.fillsRegistry.totalSolPending loop.solDequeued = some left ∧
        left.toNat = quantity (remaining maxSolAmount.toNat fillsRegistry.lots) := by
    apply subU64_of_add
    rw [serves.totalSolPending_eq, FillsRegistry.startDequeue, consistent.totalSolPending_eq,
      sol_eq, sol_conserved]
  obtain ⟨total2zPending, tokens_sub, tokens_left⟩ :
      ∃ left, subU64 loop.fillsRegistry.total2zPending loop.token2zDequeued = some left ∧
        left.toNat = value (remaining maxSolAmount.toNat fillsRegistry.lots) := by
    apply subU64_of_add
    rw [serves.total2zPending_eq, FillsRegistry.startDequeue, consistent.total2zPending_eq,
      tokens_eq, tokens_conserved]
  refine ⟨{ loop.fillsRegistry with totalSolPending, total2zPending },
    ⟨loop.solDequeued, loop.token2zDequeued, loop.fillsConsumed⟩, ?_, ?_⟩
  · simp only [FillsRegistry.dequeue, bind_eq_ok, require_eq_ok, orFail_eq_ok, pure_eq_ok]
    exact ⟨(), pending, loop, finished, totalSolPending, sol_sub, total2zPending, tokens_sub, rfl⟩
  · have lots_eq : FillsRegistry.lots { loop.fillsRegistry with totalSolPending, total2zPending } =
        remaining maxSolAmount.toNat fillsRegistry.lots := serves.lots_eq
    refine ⟨⟨⟨serves.ring.head_lt, serves.ring.tail_lt, serves.ring.count_le,
      serves.ring.tail_eq⟩, ?_, ?_⟩, lots_eq, sol_eq, tokens_eq, ?_⟩
    · rw [lots_eq, sol_left]
    · rw [lots_eq, tokens_left]
    · simpa [FillsRegistry.startDequeue] using serves.fillsConsumed_eq

theorem dequeue_of_empty {fillsRegistry : FillsRegistry} (empty : ¬0 < fillsRegistry.count)
    (maxSolAmount : UInt64) :
    fillsRegistry.dequeue maxSolAmount = .error (failWith .emptyFillsRegistry) := by
  rw [FillsRegistry.dequeue, require_of_not empty, error_bind]

/-- A successful dequeue drains the registry. -/
theorem drains_of_dequeue {fillsRegistry next : FillsRegistry} {maxSolAmount : UInt64}
    {result : DequeueFillsResult} (consistent : fillsRegistry.Consistent)
    (success : fillsRegistry.dequeue maxSolAmount = .ok (next, result)) :
    fillsRegistry.Drains next maxSolAmount.toNat result := by
  obtain pending | empty := em (0 < fillsRegistry.count)
  · obtain ⟨other, outcome, drained, drains⟩ := dequeue_of_pending consistent pending maxSolAmount
    rw [drained] at success
    cases success
    exact drains
  · rw [dequeue_of_empty empty] at success
    contradiction

/-- What a successful `dequeue_fills` checked and did. -/
theorem dequeueFills_eq_ok {context : Context} {state next : ConverterState} {signer : Pubkey}
    {maxSolAmount : UInt64} {receipt : Receipt}
    (success : dequeueFills context state signer maxSolAmount = .ok (next, receipt)) :
    signer = state.configurationRegistry.fillsConsumer ∧ 0 < maxSolAmount ∧
      ∃ fillsRegistry result,
        state.fillsRegistry.dequeue maxSolAmount = .ok (fillsRegistry, result) ∧
        next = { state with fillsRegistry } ∧ receipt.returned = .dequeueFills result ∧
        receipt.ledger = context.ledger := by
  simp only [dequeueFills, bind_eq_ok, require_eq_ok, pure_eq_ok, Prod.mk.injEq] at success
  obtain ⟨-, authorized, -, positive, ⟨fillsRegistry, result⟩, dequeued, rfl, rfl⟩ := success
  exact ⟨authorized, positive, fillsRegistry, result, dequeued, rfl, rfl, rfl⟩

/-- The consumer's request is decided by the registry. -/
theorem dequeueFills_of_consumer {context : Context} {state : ConverterState}
    {maxSolAmount : UInt64} (positive : 0 < maxSolAmount) :
    dequeueFills context state state.configurationRegistry.fillsConsumer maxSolAmount =
      (do
        let (fillsRegistry, dequeueFillsResult) ← state.fillsRegistry.dequeue maxSolAmount
        return ({ state with fillsRegistry },
          { events := [.fillsDequeued
              { requester := state.configurationRegistry.fillsConsumer
                solDequeued := dequeueFillsResult.solDequeued
                token2zDequeued := dequeueFillsResult.token2zDequeued
                fillsConsumed := dequeueFillsResult.fillsConsumed
                timestamp := context.clock.unixTimestamp }]
            returned := .dequeueFills dequeueFillsResult
            ledger := context.ledger })) := by
  rw [dequeueFills, require, if_pos rfl, ok_bind, require, if_pos positive, ok_bind]

end SolConversion.OnChain
