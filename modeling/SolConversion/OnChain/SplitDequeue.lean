import SolConversion.OnChain.LocalDeployment

/-!
# Splitting a dequeue

Two calls of `dequeue_fills` in a row against one call for the sum of their amounts.  Both ways
leave the same registry up to the tokens of the fill at its head, and the tokens paid out differ by
at most one unit, which can be lost only when both calls end inside the same fill.
-/

namespace SolConversion.OnChain

open FixedWidth Fallible LotQueue

private theorem dequeueEntry_tail {loop next : DequeueLoop} {headIndex : Fin maxFillsQueueSize}
    {nextEntry fill : Fill} {remainingSol : UInt64}
    (success : dequeueEntry loop headIndex nextEntry remainingSol = .ok (next, fill)) :
    next.fillsRegistry.tail = loop.fillsRegistry.tail := by
  rw [dequeueEntry] at success
  split at success
  · simp only [fullDequeue, bind_eq_ok, pure_eq_ok, Prod.mk.injEq] at success
    obtain ⟨head, -, count, -, fillsConsumed, -, rfl, -⟩ := success
    rfl
  · simp only [partialDequeue, bind_eq_ok, pure_eq_ok, Prod.mk.injEq] at success
    obtain ⟨product, -, quotient, -, token2z, -, solIn, -, token2zOut, -, rfl, -⟩ := success
    rfl

private theorem dequeuePass_tail {maxSolAmount : UInt64} {loop next : DequeueLoop}
    (success : dequeuePass maxSolAmount loop = .ok next) :
    next.fillsRegistry.tail = loop.fillsRegistry.tail := by
  simp only [dequeuePass, bind_eq_ok, pure_eq_ok] at success
  obtain ⟨headIndex, -, remainingSol, -, ⟨middle, fill⟩, served, solDequeued, -, token2z, -, rfl⟩ :=
    success
  have tail_eq := dequeueEntry_tail served
  exact tail_eq

/-- A dequeue never moves the tail. -/
theorem dequeue_tail {fillsRegistry next : FillsRegistry} {maxSolAmount : UInt64}
    {result : DequeueFillsResult}
    (success : fillsRegistry.dequeue maxSolAmount = .ok (next, result)) :
    next.tail = fillsRegistry.tail := by
  simp only [FillsRegistry.dequeue, bind_eq_ok, pure_eq_ok, Prod.mk.injEq] at success
  obtain ⟨-, -, loop, finished, totalSolPending, -, total2zPending, -, rfl, -⟩ := success
  have kept : ∀ state next : DequeueLoop, state.fillsRegistry.tail = fillsRegistry.tail →
      dequeuePass maxSolAmount state = .ok next → next.fillsRegistry.tail = fillsRegistry.tail :=
    fun state next tail_eq pass => (dequeuePass_tail pass).trans tail_eq
  exact WhileLoop.run_invariant kept rfl finished

private theorem head_eq_of_tail_eq {left right : FillsRegistry} (left_ring : left.Ring)
    (right_ring : right.Ring) (tail_eq : left.tail = right.tail)
    (count_eq : left.count = right.count) : left.head = right.head := by
  have left_lt := left_ring.head_lt
  have right_lt := right_ring.head_lt
  have left_tail := left_ring.tail_eq
  have right_tail := right_ring.tail_eq
  rw [tail_eq, right_tail, count_eq] at left_tail
  have congruent : left.head.toNat ≡ right.head.toNat [MOD maxFillsQueueSize] :=
    (Nat.ModEq.add_right_cancel' right.count.toNat left_tail).symm
  rw [← UInt64.toNat_inj]
  exact congruent.eq_of_lt_of_lt left_lt right_lt

/-- A call ends inside a fill: the fill at the head afterwards held more SOL before. -/
def FillsRegistry.StopsInside (before after : FillsRegistry) (result : DequeueFillsResult) :
    Prop :=
  ∃ stored left, (viewFillsRegistry before)[result.fillsConsumed.toNat]? = some stored ∧
    (viewFillsRegistry after).head? = some left ∧ left.solIn < stored.solIn

/-- What two calls in a row have in common with one call for both amounts. -/
structure SplitEquivalent (before first split once : FillsRegistry)
    (firstResult secondResult onceResult : DequeueFillsResult) : Prop where
  head_eq : split.head = once.head
  tail_eq : split.tail = once.tail
  count_eq : split.count = once.count
  solIn_eq : (viewFillsRegistry split).map Fill.solIn = (viewFillsRegistry once).map Fill.solIn
  totalSolPending_eq : split.totalSolPending = once.totalSolPending
  solDequeued_eq : firstResult.solDequeued.toNat + secondResult.solDequeued.toNat =
    onceResult.solDequeued.toNat
  fillsConsumed_eq : firstResult.fillsConsumed.toNat + secondResult.fillsConsumed.toNat =
    onceResult.fillsConsumed.toNat
  token2zDequeued_le : firstResult.token2zDequeued.toNat + secondResult.token2zDequeued.toNat ≤
    onceResult.token2zDequeued.toNat
  le_token2zDequeued : onceResult.token2zDequeued.toNat ≤
    firstResult.token2zDequeued.toNat + secondResult.token2zDequeued.toNat + 1
  token2zDequeued_eq :
    ¬(before.StopsInside first firstResult ∧ first.StopsInside split secondResult ∧
        secondResult.fillsConsumed = 0) →
      firstResult.token2zDequeued.toNat + secondResult.token2zDequeued.toNat =
        onceResult.token2zDequeued.toNat

theorem stopsInside_of_lots {before after : FillsRegistry} {demand : ℕ}
    {result : DequeueFillsResult} (drains : before.Drains after demand result)
    (inside : LotQueue.StopsInside demand before.lots) : before.StopsInside after result := by
  obtain ⟨stored, left, stored_eq, left_eq, smaller⟩ := inside
  rw [← drains.fillsConsumed_eq, FillsRegistry.lots, List.getElem?_map,
    Option.map_eq_some_iff] at stored_eq
  rw [← drains.lots_eq, FillsRegistry.lots, List.head?_map, Option.map_eq_some_iff] at left_eq
  obtain ⟨stored, stored_eq, rfl⟩ := stored_eq
  obtain ⟨left, left_eq, rfl⟩ := left_eq
  exact ⟨stored, left, stored_eq, left_eq, UInt64.lt_iff_toNat_lt.mpr smaller⟩

private theorem map_solIn_eq {left right : FillsRegistry}
    (quantities : left.lots.map Lot.quantity = right.lots.map Lot.quantity) :
    (viewFillsRegistry left).map Fill.solIn = (viewFillsRegistry right).map Fill.solIn := by
  simp only [FillsRegistry.lots, List.map_map] at quantities
  have words : ((viewFillsRegistry left).map Fill.solIn).map UInt64.toNat =
      ((viewFillsRegistry right).map Fill.solIn).map UInt64.toNat := by
    simpa [Function.comp_def] using quantities
  exact List.map_injective_iff.mpr (fun _ _ => UInt64.toNat_inj.mp) words

/-- Two drains in a row against one drain of both demands. -/
theorem splitEquivalent_of_drains {before first split once : FillsRegistry}
    {firstDemand secondDemand : ℕ} {firstResult secondResult onceResult : DequeueFillsResult}
    (drains_first : before.Drains first firstDemand firstResult)
    (drains_second : first.Drains split secondDemand secondResult)
    (drains_once : before.Drains once (firstDemand + secondDemand) onceResult)
    (tail_eq : split.tail = once.tail) :
    SplitEquivalent before first split once firstResult secondResult onceResult := by
  have agrees := splitAgrees firstDemand secondDemand before.lots
  have second_lots := drains_first.lots_eq
  have quantities : split.lots.map Lot.quantity = once.lots.map Lot.quantity := by
    rw [drains_second.lots_eq, drains_once.lots_eq, second_lots]
    exact agrees.quantities
  have count_eq : split.count = once.count := by
    rw [← UInt64.toNat_inj, ← length_lots, ← length_lots]
    simpa using congrArg List.length quantities
  have sol_eq := drains_second.solDequeued_eq
  have tokens_eq := drains_second.token2zDequeued_eq
  have consumed_eq := drains_second.fillsConsumed_eq
  rw [second_lots] at sol_eq tokens_eq consumed_eq
  constructor
  · exact head_eq_of_tail_eq drains_second.consistent.toRing drains_once.consistent.toRing tail_eq
      count_eq
  · exact tail_eq
  · exact count_eq
  · exact map_solIn_eq quantities
  · rw [← UInt64.toNat_inj, drains_second.consistent.totalSolPending_eq,
      drains_once.consistent.totalSolPending_eq, quantity, quantity, quantities]
  · rw [drains_first.solDequeued_eq, sol_eq, drains_once.solDequeued_eq]
    have first_conserved := quantity_conserved firstDemand before.lots
    have second_conserved :=
      quantity_conserved secondDemand (remaining firstDemand before.lots)
    have once_conserved := quantity_conserved (firstDemand + secondDemand) before.lots
    have left_eq : quantity (remaining secondDemand (remaining firstDemand before.lots)) =
        quantity (remaining (firstDemand + secondDemand) before.lots) :=
      congrArg List.sum agrees.quantities
    omega
  · rw [drains_first.fillsConsumed_eq, consumed_eq, drains_once.fillsConsumed_eq]
    exact agrees.closings_eq
  · rw [drains_first.token2zDequeued_eq, tokens_eq, drains_once.token2zDequeued_eq]
    exact agrees.value_le
  · rw [drains_first.token2zDequeued_eq, tokens_eq, drains_once.token2zDequeued_eq]
    exact agrees.le_value
  · intro outside
    rw [drains_first.token2zDequeued_eq, tokens_eq, drains_once.token2zDequeued_eq]
    rcases agrees.value_eq with equal | ⟨first_inside, second_inside, unclosed⟩
    · exact equal
    · rw [← second_lots] at second_inside
      have unconsumed : secondResult.fillsConsumed = 0 := by
        rw [← UInt64.toNat_inj, consumed_eq, unclosed]
        rfl
      exact absurd ⟨stopsInside_of_lots drains_first first_inside,
        stopsInside_of_lots drains_second second_inside, unconsumed⟩ outside

/-- The outcome of a call, where an empty registry counts as no change. -/
inductive Consumes (context : Context) (state : ConverterState) (signer : Pubkey)
    (maxSolAmount : UInt64) : ConverterState → DequeueFillsResult → Prop
  | dequeued {next : ConverterState} {receipt : Receipt} {result : DequeueFillsResult} :
      dequeueFills context state signer maxSolAmount = .ok (next, receipt) →
      receipt.returned = .dequeueFills result →
      Consumes context state signer maxSolAmount next result
  | empty :
      dequeueFills context state signer maxSolAmount =
        .error (failWith .emptyFillsRegistry) →
      Consumes context state signer maxSolAmount state ⟨0, 0, 0⟩

theorem dequeueFills_of_pending {state : ConverterState} {maxSolAmount : UInt64}
    (consistent : state.fillsRegistry.Consistent) (pending : 0 < state.fillsRegistry.count)
    (positive : 0 < maxSolAmount) (context : Context) :
    ∃ fillsRegistry receipt result,
      dequeueFills context state state.configurationRegistry.fillsConsumer maxSolAmount =
        .ok ({ state with fillsRegistry }, receipt) ∧
      receipt.returned = .dequeueFills result ∧
      state.fillsRegistry.Drains fillsRegistry maxSolAmount.toNat result ∧
      fillsRegistry.tail = state.fillsRegistry.tail := by
  obtain ⟨fillsRegistry, result, dequeued, drains⟩ :=
    dequeue_of_pending consistent pending maxSolAmount
  rw [dequeueFills_of_consumer positive, dequeued]
  exact ⟨fillsRegistry, _, result, rfl, rfl, drains, dequeue_tail dequeued⟩

private theorem drains_of_empty {fillsRegistry : FillsRegistry}
    (consistent : fillsRegistry.Consistent)
    (empty : ¬0 < fillsRegistry.count) (demand : ℕ) :
    fillsRegistry.Drains fillsRegistry demand ⟨0, 0, 0⟩ := by
  have lots_eq : fillsRegistry.lots = [] := by
    rw [← List.length_eq_zero_iff, length_lots]
    exact Nat.eq_zero_of_not_pos empty
  constructor
  · exact consistent
  · rw [lots_eq, remaining_nil]
  · rw [lots_eq]
    rfl
  · rw [lots_eq]
    rfl
  · rw [lots_eq]
    rfl

/-- A call of the fills consumer drains the registry, pending fills or not. -/
theorem consumes_drains {state : ConverterState} {maxSolAmount : UInt64}
    (consistent : state.fillsRegistry.Consistent) (positive : 0 < maxSolAmount)
    (context : Context) :
    ∃ fillsRegistry result, Consumes context state state.configurationRegistry.fillsConsumer
        maxSolAmount { state with fillsRegistry } result ∧
      state.fillsRegistry.Drains fillsRegistry maxSolAmount.toNat result ∧
      fillsRegistry.tail = state.fillsRegistry.tail := by
  obtain pending | empty := em (0 < state.fillsRegistry.count)
  · obtain ⟨fillsRegistry, receipt, result, success, returned, drains, tail_eq⟩ :=
      dequeueFills_of_pending consistent pending positive context
    exact ⟨fillsRegistry, result, .dequeued success returned, drains, tail_eq⟩
  · refine ⟨state.fillsRegistry, ⟨0, 0, 0⟩, .empty ?_, drains_of_empty consistent empty _, rfl⟩
    rw [dequeueFills_of_consumer positive, dequeue_of_empty empty, error_bind]

/-- Two calls of the fills consumer leave what one call for both amounts leaves, and pay at most one
unit of 2Z less, and that only when both end inside the same fill. -/
theorem dequeueFills_split {platform : Platform} {state : ConverterState}
    (reachable : Reachable platform state) (pending : 0 < state.fillsRegistry.count)
    {first second total : UInt64} (first_positive : 0 < first) (second_positive : 0 < second)
    (total_eq : first.toNat + second.toNat = total.toNat)
    (firstContext secondContext onceContext : Context) :
    ∃ between split once firstReceipt onceReceipt firstResult secondResult onceResult,
      dequeueFills firstContext state state.configurationRegistry.fillsConsumer first =
        .ok (between, firstReceipt) ∧ firstReceipt.returned = .dequeueFills firstResult ∧
      Consumes secondContext between state.configurationRegistry.fillsConsumer second split
        secondResult ∧
      dequeueFills onceContext state state.configurationRegistry.fillsConsumer total =
        .ok (once, onceReceipt) ∧ onceReceipt.returned = .dequeueFills onceResult ∧
      SplitEquivalent state.fillsRegistry between.fillsRegistry split.fillsRegistry
        once.fillsRegistry firstResult secondResult onceResult := by
  have consistent := consistent_of_reachable reachable
  have total_positive : 0 < total := by
    rw [UInt64.lt_iff_toNat_lt] at first_positive ⊢
    omega
  obtain ⟨between, firstReceipt, firstResult, first_ok, first_returned, first_drains,
    first_tail⟩ := dequeueFills_of_pending consistent pending first_positive firstContext
  obtain ⟨split, secondResult, consumes, second_drains, second_tail⟩ :=
    @consumes_drains { state with fillsRegistry := between } second first_drains.consistent
      second_positive secondContext
  obtain ⟨once, onceReceipt, onceResult, once_ok, once_returned, once_drains, once_tail⟩ :=
    dequeueFills_of_pending consistent pending total_positive onceContext
  refine ⟨_, _, _, firstReceipt, onceReceipt, firstResult, secondResult, onceResult, first_ok,
    first_returned, consumes, once_ok, once_returned, ?_⟩
  rw [← total_eq] at once_drains
  have tail_eq : split.tail = once.tail := by
    rw [second_tail, once_tail]
    exact first_tail
  exact splitEquivalent_of_drains first_drains second_drains once_drains tail_eq

/-- Of two fills of 25 SOL, a fill and seven lamports leave in one call, or in two of which the
second ends the first fill. -/
theorem dequeueFills_split_local :
    let state := runProgram Local.platform Local.initial Local.purchases
    let consumer := state.configurationRegistry.fillsConsumer
    ∃ between split once firstReceipt onceReceipt firstResult secondResult onceResult,
      dequeueFills (Local.context 301 Local.ledger) state consumer 10 =
        .ok (between, firstReceipt) ∧ firstReceipt.returned = .dequeueFills firstResult ∧
      Consumes (Local.context 302 Local.ledger) between consumer 24999999997 split
        secondResult ∧
      dequeueFills (Local.context 303 Local.ledger) state consumer 25000000007 =
        .ok (once, onceReceipt) ∧ onceReceipt.returned = .dequeueFills onceResult ∧
      SplitEquivalent state.fillsRegistry between.fillsRegistry split.fillsRegistry
        once.fillsRegistry firstResult secondResult onceResult := by
  intro state consumer
  exact @dequeueFills_split Local.platform state
    (reachable_run Local.initial_reachable Local.purchases) (by decide +kernel) 10 24999999997
    25000000007 (by decide) (by decide) rfl (Local.context 301 Local.ledger)
    (Local.context 302 Local.ledger) (Local.context 303 Local.ledger)

end SolConversion.OnChain
