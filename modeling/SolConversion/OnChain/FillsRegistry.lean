import SolConversion.Foundation.FixedWidth
import SolConversion.Foundation.LotQueue
import SolConversion.Foundation.RingBuffer
import SolConversion.OnChain.State

/-!
# The fills registry

A ring of fills with running totals.  Trades insert fills at the tail.  The registry refines a
queue of lots: a fill is a quantity of SOL carrying a value in tokens.
-/

namespace SolConversion.OnChain

open FixedWidth Fallible LotQueue

/-- The array index of a ring position. -/
def fillsIndex (position : UInt64) : Option (Fin maxFillsQueueSize) :=
  if inside : position.toNat < maxFillsQueueSize then some ⟨position.toNat, inside⟩ else none

/-- Advance a ring position by one slot. -/
def advance (position : UInt64) : Except Failure UInt64 := do
  let next ← checked (addU64 position 1)
  return next % UInt64.ofNat maxFillsQueueSize

/-- The last part of `buy_sol`: add a fill to the registry. -/
def FillsRegistry.insert (fillsRegistry : FillsRegistry) (solQuantity tokensRequired : UInt64) :
    Except Failure FillsRegistry := do
  require (fillsRegistry.count.toNat < maxFillsQueueSize) (failWith .registryFull)
  let tailIndex ← checked (fillsIndex fillsRegistry.tail)
  let tail ← advance fillsRegistry.tail
  let count ← checked (addU64 fillsRegistry.count 1)
  let totalSolPending ← checked (addU64 fillsRegistry.totalSolPending solQuantity)
  let total2zPending ← checked (addU64 fillsRegistry.total2zPending tokensRequired)
  return { fillsRegistry with
    fills := fillsRegistry.fills.set tailIndex ⟨solQuantity, tokensRequired⟩
    tail, count, totalSolPending, total2zPending }

/-- The pending fills in the order `view_fills_registry` prints them. -/
def viewFillsRegistry (fillsRegistry : FillsRegistry) : List Fill :=
  (List.range fillsRegistry.count.toNat).map fun i =>
    fillsRegistry.fills.get (Fin.ofNat maxFillsQueueSize (fillsRegistry.head.toNat + i))

/-- The SOL of a fill carries its tokens. -/
def Fill.lot (fill : Fill) : Lot := ⟨fill.solIn.toNat, fill.token2zOut.toNat⟩

@[simp]
theorem lot_quantity (fill : Fill) : fill.lot.quantity = fill.solIn.toNat := rfl

@[simp]
theorem lot_value (fill : Fill) : fill.lot.value = fill.token2zOut.toNat := rfl

/-- The queue of lots a registry stores. -/
def FillsRegistry.lots (fillsRegistry : FillsRegistry) : List Lot :=
  (viewFillsRegistry fillsRegistry).map Fill.lot

theorem viewFillsRegistry_eq_window (fillsRegistry : FillsRegistry) :
    viewFillsRegistry fillsRegistry =
      RingBuffer.window fillsRegistry.fills fillsRegistry.head.toNat fillsRegistry.count.toNat :=
  rfl

@[simp]
theorem length_viewFillsRegistry (fillsRegistry : FillsRegistry) :
    (viewFillsRegistry fillsRegistry).length = fillsRegistry.count.toNat := by
  simp [viewFillsRegistry]

@[simp]
theorem length_lots (fillsRegistry : FillsRegistry) :
    fillsRegistry.lots.length = fillsRegistry.count.toNat := by
  simp [FillsRegistry.lots]

/-- The positions of a ring agree with each other. -/
structure FillsRegistry.Ring (fillsRegistry : FillsRegistry) : Prop where
  head_lt : fillsRegistry.head.toNat < maxFillsQueueSize
  tail_lt : fillsRegistry.tail.toNat < maxFillsQueueSize
  count_le : fillsRegistry.count.toNat ≤ maxFillsQueueSize
  tail_eq : fillsRegistry.tail.toNat =
    (fillsRegistry.head.toNat + fillsRegistry.count.toNat) % maxFillsQueueSize

/-- A ring whose running totals are the sums over its pending fills. -/
structure FillsRegistry.Consistent (fillsRegistry : FillsRegistry) : Prop
    extends fillsRegistry.Ring where
  totalSolPending_eq : fillsRegistry.totalSolPending.toNat = quantity fillsRegistry.lots
  total2zPending_eq : fillsRegistry.total2zPending.toNat = value fillsRegistry.lots

theorem fillsIndex_eq_some {position : UInt64} {index : Fin maxFillsQueueSize} :
    fillsIndex position = some index ↔ position.toNat = index.val := by
  unfold fillsIndex
  split
  · rw [Option.some.injEq, Fin.ext_iff]
  · rename_i outside
    have inside := index.isLt
    simp only [reduceCtorEq, false_iff]
    omega

theorem fillsIndex_of_lt {position : UInt64} (inside : position.toNat < maxFillsQueueSize) :
    fillsIndex position = some (RingBuffer.slot maxFillsQueueSize position.toNat 0) := by
  rw [fillsIndex_eq_some, RingBuffer.slot_val, Nat.add_zero, Nat.mod_eq_of_lt inside]

theorem advance_eq_ok {position next : UInt64} :
    advance position = .ok next ↔
      position.toNat + 1 < 2 ^ 64 ∧ next.toNat = (position.toNat + 1) % maxFillsQueueSize := by
  have size_eq : (UInt64.ofNat maxFillsQueueSize).toNat = maxFillsQueueSize := rfl
  simp only [advance, bind_eq_ok, checked_eq_ok, addU64_eq_some, pure_eq_ok,
    ← UInt64.toNat_inj, UInt64.toNat_mod, size_eq, UInt64.toNat_one]
  constructor
  · rintro ⟨sum, sum_eq, next_eq⟩
    rw [sum_eq]
    exact ⟨u64_lt sum, next_eq.symm⟩
  · rintro ⟨fits, next_eq⟩
    obtain ⟨sum, -, sum_eq⟩ := toU64_of_lt fits
    exact ⟨sum, sum_eq.symm, by rw [sum_eq, next_eq]⟩

theorem maxFillsQueueSize_lt : maxFillsQueueSize < 2 ^ 64 := by
  unfold maxFillsQueueSize
  omega

theorem advance_of_lt {position : UInt64} (inside : position.toNat < maxFillsQueueSize) :
    ∃ next, advance position = .ok next ∧
      next.toNat = (position.toNat + 1) % maxFillsQueueSize := by
  have size_lt := maxFillsQueueSize_lt
  have next_lt : (position.toNat + 1) % maxFillsQueueSize < 2 ^ 64 :=
    (Nat.mod_lt _ (NeZero.pos maxFillsQueueSize)).trans size_lt
  obtain ⟨next, -, next_eq⟩ := toU64_of_lt next_lt
  exact ⟨next, advance_eq_ok.mpr ⟨by omega, next_eq⟩, next_eq⟩

/-- A full registry rejects every fill. -/
theorem insert_of_full {fillsRegistry : FillsRegistry}
    (full : fillsRegistry.count.toNat = maxFillsQueueSize) (solQuantity tokensRequired : UInt64) :
    fillsRegistry.insert solQuantity tokensRequired = .error (failWith .registryFull) := by
  have no_room : ¬fillsRegistry.count.toNat < maxFillsQueueSize := by omega
  rw [FillsRegistry.insert, require_of_not no_room, error_bind]

/-- Insertion succeeds while there is room and the totals fit. -/
theorem insert_of_room {fillsRegistry : FillsRegistry} (ring : fillsRegistry.Ring)
    {solQuantity tokensRequired : UInt64}
    (room : fillsRegistry.count.toNat < maxFillsQueueSize)
    (sol_fits : fillsRegistry.totalSolPending.toNat + solQuantity.toNat < 2 ^ 64)
    (tokens_fit : fillsRegistry.total2zPending.toNat + tokensRequired.toNat < 2 ^ 64) :
    ∃ next, fillsRegistry.insert solQuantity tokensRequired = .ok next := by
  have size_lt := maxFillsQueueSize_lt
  obtain ⟨tail, advanced, -⟩ := advance_of_lt ring.tail_lt
  have count_fits : fillsRegistry.count.toNat + (1 : UInt64).toNat < 2 ^ 64 := by
    rw [UInt64.toNat_one]
    omega
  obtain ⟨count, counted, -⟩ := addU64_of_lt count_fits
  obtain ⟨totalSol, sol_added, -⟩ := addU64_of_lt sol_fits
  obtain ⟨totalTokens, tokens_added, -⟩ := addU64_of_lt tokens_fit
  refine ⟨{ fillsRegistry with
    fills := fillsRegistry.fills.set (RingBuffer.slot maxFillsQueueSize fillsRegistry.tail.toNat 0)
      ⟨solQuantity, tokensRequired⟩
    tail, count, totalSolPending := totalSol, total2zPending := totalTokens }, ?_⟩
  simp only [FillsRegistry.insert, bind_eq_ok, require_eq_ok, checked_eq_ok, pure_eq_ok]
  exact ⟨(), room, _, fillsIndex_of_lt ring.tail_lt, tail, advanced, count, counted, totalSol,
    sol_added, totalTokens, tokens_added, rfl⟩

/-- Insertion appends the fill to the queue. -/
theorem viewFillsRegistry_insert {fillsRegistry next : FillsRegistry}
    {solQuantity tokensRequired : UInt64} (ring : fillsRegistry.Ring)
    (success : fillsRegistry.insert solQuantity tokensRequired = .ok next) :
    viewFillsRegistry next =
      viewFillsRegistry fillsRegistry ++ [⟨solQuantity, tokensRequired⟩] := by
  simp only [FillsRegistry.insert, bind_eq_ok, require_eq_ok, checked_eq_ok, pure_eq_ok,
    addU64_eq_some, UInt64.toNat_one] at success
  obtain ⟨-, room, tailIndex, index_eq, tail, -, count, count_eq, totalSol, -, totalTokens, -,
    rfl⟩ := success
  have slot_eq : tailIndex =
      RingBuffer.slot maxFillsQueueSize fillsRegistry.head.toNat fillsRegistry.count.toNat := by
    apply Fin.ext
    rw [← fillsIndex_eq_some.mp index_eq, ring.tail_eq, RingBuffer.slot_val]
  simp only [viewFillsRegistry_eq_window, ← count_eq, slot_eq]
  exact RingBuffer.window_enqueue _ _ _ _ room

theorem lots_insert {fillsRegistry next : FillsRegistry} {solQuantity tokensRequired : UInt64}
    (ring : fillsRegistry.Ring)
    (success : fillsRegistry.insert solQuantity tokensRequired = .ok next) :
    next.lots = fillsRegistry.lots ++ [⟨solQuantity.toNat, tokensRequired.toNat⟩] := by
  simp [FillsRegistry.lots, viewFillsRegistry_insert ring success, Fill.lot]

private theorem ring_insert {fillsRegistry next : FillsRegistry}
    {solQuantity tokensRequired : UInt64}
    (ring : fillsRegistry.Ring)
    (success : fillsRegistry.insert solQuantity tokensRequired = .ok next) : next.Ring := by
  simp only [FillsRegistry.insert, bind_eq_ok, require_eq_ok, checked_eq_ok, pure_eq_ok,
    addU64_eq_some, UInt64.toNat_one, advance_eq_ok] at success
  obtain ⟨-, room, tailIndex, -, tail, ⟨-, tail_eq⟩, count, count_eq, totalSol, -, totalTokens, -,
    rfl⟩ := success
  refine ⟨ring.head_lt, ?_, ?_, ?_⟩
  · rw [tail_eq]
    exact Nat.mod_lt _ (NeZero.pos maxFillsQueueSize)
  · rw [← count_eq]
    exact room
  · rw [tail_eq, ring.tail_eq, ← count_eq, Nat.mod_add_mod, Nat.add_assoc]

/-- Insertion keeps the registry consistent. -/
theorem consistent_insert {fillsRegistry next : FillsRegistry}
    {solQuantity tokensRequired : UInt64} (consistent : fillsRegistry.Consistent)
    (success : fillsRegistry.insert solQuantity tokensRequired = .ok next) :
    next.Consistent := by
  have ring := ring_insert consistent.toRing success
  have lots_eq := lots_insert consistent.toRing success
  simp only [FillsRegistry.insert, bind_eq_ok, require_eq_ok, checked_eq_ok, pure_eq_ok,
    addU64_eq_some] at success
  obtain ⟨-, -, tailIndex, -, tail, -, count, -, totalSol, sol_added, totalTokens, tokens_added,
    rfl⟩ := success
  refine ⟨ring, ?_, ?_⟩
  · rw [lots_eq, ← sol_added, consistent.totalSolPending_eq]
    simp
  · rw [lots_eq, ← tokens_added, consistent.total2zPending_eq]
    simp

end SolConversion.OnChain
