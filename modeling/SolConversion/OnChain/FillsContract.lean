import Mathlib.Algebra.Order.Field.Rat
import SolConversion.OnChain.FillsHistory
import SolConversion.OnChain.LocalDeployment

/-!
# The contract of the fills registry

What traders and the fills consumer can rely on in every reachable state: the registry is a bounded
first-in first-out queue, dequeueing never gets stuck, every history conserves SOL, tokens and
fills, and a split fill pays out pro rata.
-/

namespace SolConversion.OnChain

open FixedWidth Fallible LotQueue Transactional

/-- `after` is `before` or differs from it in a smaller first entry. -/
def ShrinksHead (before after : List Fill) : Prop :=
  after = before ∨
    ∃ entry rest later, before = entry :: later ∧ after = rest :: later ∧
      0 < rest.solIn ∧ rest.solIn < entry.solIn ∧ rest.token2zOut ≤ entry.token2zOut

theorem lot_injective : Function.Injective Fill.lot := by
  rintro ⟨solIn, token2zOut⟩ ⟨otherSol, otherTokens⟩ same
  simp only [Fill.lot, Lot.mk.injEq, UInt64.toNat_inj] at same
  simp [same]

private theorem shrinksHead_of_shrinks {before after : List Fill}
    (shrinks : Shrinks (before.map Fill.lot) (after.map Fill.lot)) : ShrinksHead before after := by
  rcases shrinks with same | ⟨lot, taken, back, positive, short, before_eq, after_eq⟩
  · exact .inl (List.map_injective_iff.mpr lot_injective same)
  · obtain ⟨entry, later, rfl, rfl, rfl⟩ := List.map_eq_cons_iff.mp before_eq
    obtain ⟨rest, others, rfl, rest_eq, others_eq⟩ := List.map_eq_cons_iff.mp after_eq
    obtain rfl := List.map_injective_iff.mpr lot_injective others_eq
    have quantity_eq : rest.solIn.toNat = entry.solIn.toNat - taken :=
      congrArg Lot.quantity rest_eq
    have value_eq : rest.token2zOut.toNat =
        entry.token2zOut.toNat - (entry.lot.part taken).value := congrArg Lot.value rest_eq
    rw [lot_quantity] at short
    refine .inr ⟨entry, rest, _, rfl, rfl, ?_, ?_, ?_⟩
    · rw [UInt64.lt_iff_toNat_lt, quantity_eq, UInt64.toNat_zero]
      omega
    · rw [UInt64.lt_iff_toNat_lt, quantity_eq]
      omega
    · rw [UInt64.le_iff_toNat_le, value_eq]
      omega

/-- A drained registry keeps a suffix of its queue, up to its first entry. -/
theorem suffix_of_drains {before after : FillsRegistry} {demand : ℕ}
    {result : DequeueFillsResult} (drains : before.Drains after demand result) :
    ∃ front back, viewFillsRegistry before = front ++ back ∧
      ShrinksHead back (viewFillsRegistry after) ∧
      front.length = result.fillsConsumed.toNat := by
  obtain ⟨front, back, split, shrinks, closed⟩ := remaining_suffix demand before.lots
  obtain ⟨frontFills, backFills, view_eq, rfl, rfl⟩ := List.map_eq_append_iff.mp split
  refine ⟨frontFills, backFills, view_eq, ?_, ?_⟩
  · rw [← drains.lots_eq] at shrinks
    exact shrinksHead_of_shrinks shrinks
  · rw [drains.fillsConsumed_eq, ← closed, List.length_map]

/-- The registry of every reachable state is a bounded queue: purchases append exactly the fill they
settle, a full queue rejects them, and dequeues take from the front. -/
theorem fillsRegistry_refines_queue {platform : Platform} {state : ConverterState}
    (reachable : Reachable platform state) :
    state.fillsRegistry.Consistent ∧
      (∀ context accounts bidPrice oraclePriceData next receipt,
        buySol platform context state accounts bidPrice oraclePriceData = .ok (next, receipt) →
        ∃ askPrice tokensRequired event,
          state.configurationRegistry.conversionRate platform.decimal oraclePriceData
            state.programState.lastTradeSlot context.clock.slot = .ok askPrice ∧
          computeTokensRequired state.configurationRegistry.solQuantity askPrice =
            .ok tokensRequired ∧
          receipt.events = [.trade event] ∧ event.tokenAmount = tokensRequired ∧
          viewFillsRegistry next.fillsRegistry = viewFillsRegistry state.fillsRegistry ++
            [⟨state.configurationRegistry.solQuantity, tokensRequired⟩]) ∧
      (state.fillsRegistry.count.toNat = maxFillsQueueSize →
        ∀ context accounts bidPrice oraclePriceData,
        (∃ failure,
          buySol platform context state accounts bidPrice oraclePriceData = .error failure) ∧
        viewFillsRegistry (commit (processInstruction platform) state
          (context, .buySol accounts bidPrice oraclePriceData)).fillsRegistry =
            viewFillsRegistry state.fillsRegistry) ∧
      ∀ context signer maxSolAmount next receipt,
        dequeueFills context state signer maxSolAmount = .ok (next, receipt) →
        ∃ result front back, receipt.returned = .dequeueFills result ∧
          viewFillsRegistry state.fillsRegistry = front ++ back ∧
          front.length = result.fillsConsumed.toNat ∧
          ShrinksHead back (viewFillsRegistry next.fillsRegistry) := by
  have consistent := consistent_of_reachable reachable
  refine ⟨consistent, ?_, ?_, ?_⟩
  · intro context accounts bidPrice oraclePriceData next receipt success
    obtain ⟨askPrice, tokensRequired, paid, trades⟩ := buySol_eq_ok.mp success
    exact ⟨askPrice, tokensRequired, _, trades.asked, trades.priced, trades.events_eq, rfl,
      viewFillsRegistry_insert consistent.toRing trades.inserted⟩
  · intro full context accounts bidPrice oraclePriceData
    cases result : buySol platform context state accounts bidPrice oraclePriceData with
    | error failure =>
        have rejected : processInstruction platform state
            (context, .buySol accounts bidPrice oraclePriceData) = .error failure := result
        rw [commit_error _ rejected]
        exact ⟨⟨failure, rfl⟩, rfl⟩
    | ok success =>
        obtain ⟨askPrice, tokensRequired, paid, trades⟩ := buySol_eq_ok.mp result
        have inserted := trades.inserted
        rw [insert_of_full full] at inserted
        contradiction
  · intro context signer maxSolAmount next receipt success
    obtain ⟨-, -, fillsRegistry, result, dequeued, rfl, returned, -⟩ := dequeueFills_eq_ok success
    obtain ⟨front, back, view_eq, shrinks, consumed⟩ :=
      suffix_of_drains (drains_of_dequeue consistent dequeued)
    exact ⟨result, front, back, returned, view_eq, consumed, shrinks⟩

namespace Local

/-- One slot after the last trade the price is at a discount of 5.0045 %. -/
theorem asked_next {last slot : UInt64} (next : slot.toNat = last.toNat + 1) :
    initial.configurationRegistry.conversionRate platform.decimal price last slot =
      .ok 189991000 := by
  have waited : subU64 slot last = subU64 101 100 := by
    have one : subU64 slot last = some 1 := subU64_eq_some.mpr (by rw [next, UInt64.toNat_one])
    rw [one]
    decide
  have same : initial.configurationRegistry.conversionRate platform.decimal price last slot =
      initial.configurationRegistry.conversionRate platform.decimal price 100 101 := by
    simp only [ConfigurationRegistry.conversionRate, calculateConversionRate, waited]
  rw [same]
  decide +kernel

/-- What so many purchases, one in each slot, have made of the initial state. -/
structure Bought (state : ConverterState) (count : ℕ) : Prop where
  configurationRegistry : state.configurationRegistry = initial.configurationRegistry
  running : state.programState.isHalted = false
  denyListRegistry : state.denyListRegistry = initial.denyListRegistry
  slot : state.programState.lastTradeSlot.toNat = 100 + count
  consistent : state.fillsRegistry.Consistent
  counted : state.fillsRegistry.count.toNat = count
  sol : state.fillsRegistry.totalSolPending.toNat = 25000000000 * count
  tokens : state.fillsRegistry.total2zPending.toNat = 4749775000 * count

/-- A purchase in a slot of its own. -/
def slotPurchase (place : ℕ) : Context × Instruction :=
  (context (UInt64.ofNat (101 + place)) ledger, .buySol buyAccounts 200000000 price)

private theorem bought_next {state : ConverterState} {count : ℕ} (bought : Bought state count)
    (room : count < maxFillsQueueSize) :
    Bought (commit (processInstruction platform) state (slotPurchase count)) (count + 1) := by
  have few : count < 650000 := room
  obtain ⟨paid, transferred, withdrawn, withdrew⟩ : ∃ paid,
      transferTokens ledger (buyAccounts.payment 4749775000) = .ok paid ∧
        ∃ withdrawn, RevenueDistribution.withdrawSol platform [buyer, withdrawSolAuthority] paid
          programConfig withdrawSolAuthority journal buyer 25000000000 = .ok withdrawn :=
    ⟨_, rfl, _, rfl⟩
  have slot_eq : (UInt64.ofNat (101 + count)).toNat = 101 + count :=
    UInt64.toNat_ofNat_of_lt' (by change 101 + count < 2 ^ 64; omega)
  obtain ⟨fillsRegistry, inserted⟩ :=
    @insert_of_room _ bought.consistent.toRing 25000000000 4749775000
      (by rw [bought.counted]; exact room)
      (by rw [bought.sol]; change 25000000000 * count + 25000000000 < 2 ^ 64; omega)
      (by rw [bought.tokens]; change 4749775000 * count + 4749775000 < 2 ^ 64; omega)
  have success : processInstruction platform state (slotPurchase count) =
      .ok ({ state with
          fillsRegistry
          programState := { state.programState with
            lastTradeSlot := UInt64.ofNat (101 + count) } },
        ⟨[.trade ⟨25000000000, 4749775000, 200000000, 1700000100, buyer, 3⟩], .none,
          withdrawn⟩) := by
    refine buySol_eq_ok.mpr ⟨189991000, 4749775000, paid, ?_⟩
    exact
      { checked := buyAccounts_checked
        running := bought.running
        admitted := by rw [bought.denyListRegistry]; exact List.not_mem_nil
        later := by
          rw [UInt64.lt_iff_toNat_lt, bought.slot]
          exact Nat.lt_of_lt_of_eq (by omega) slot_eq.symm
        verified := by rw [bought.configurationRegistry]; exact verified
        asked := by
          rw [bought.configurationRegistry]
          exact asked_next (by rw [bought.slot]; exact slot_eq.trans (by omega))
        met := by decide
        priced := by rw [bought.configurationRegistry]; decide
        transferred
        withdrawn := by rw [bought.configurationRegistry]; exact withdrew
        inserted := by rw [bought.configurationRegistry]; exact inserted
        programState_eq := rfl
        configurationRegistry_eq := rfl
        denyListRegistry_eq := rfl
        events_eq := by rw [bought.configurationRegistry]; rfl
        returned_eq := rfl }
  have consistent := consistent_insert bought.consistent inserted
  have lots_eq := lots_insert bought.consistent.toRing inserted
  rw [commit_ok _ success]
  constructor
  · exact bought.configurationRegistry
  · exact bought.running
  · exact bought.denyListRegistry
  · exact slot_eq.trans (by omega)
  · exact consistent
  · rw [← length_lots, lots_eq, List.length_append, length_lots, bought.counted]
    rfl
  · rw [consistent.totalSolPending_eq, lots_eq, quantity_append,
      ← bought.consistent.totalSolPending_eq, bought.sol, Nat.mul_succ]
    rfl
  · rw [consistent.total2zPending_eq, lots_eq, value_append,
      ← bought.consistent.total2zPending_eq, bought.tokens, Nat.mul_succ]
    rfl

/-- A purchase in every slot, until the registry is full. -/
def fillingInputs (count : ℕ) : List (Context × Instruction) :=
  (List.range count).map slotPurchase

private theorem bought_fillingInputs {count : ℕ} (room : count ≤ maxFillsQueueSize) :
    Bought (runProgram platform initial (fillingInputs count)) count := by
  induction count with
  | zero => exact ⟨rfl, rfl, rfl, rfl, consistent_zeroed, rfl, rfl, rfl⟩
  | succ count ih =>
      rw [fillingInputs, List.range_succ, List.map_append, List.map_singleton, runProgram,
        run_snoc]
      exact bought_next (ih (Nat.le_of_succ_le room)) room

theorem purchases_reachable : Reachable platform (runProgram platform initial purchases) :=
  reachable_run initial_reachable purchases

end Local

/-- Behind two trades a dequeue consumes the first fill and shrinks the second; behind as many as
fit a purchase fails and leaves the fills alone. -/
theorem fillsRegistry_refines_queue_local :
    let state := runProgram Local.platform Local.initial Local.purchases
    viewFillsRegistry state.fillsRegistry =
        [⟨25000000000, 4727500000⟩, ⟨25000000000, 4727500000⟩] ∧
      (∃ next receipt result front back,
        dequeueFills (Local.context 301 Local.ledger) state Local.admin 25000000007 =
          .ok (next, receipt) ∧ receipt.returned = .dequeueFills result ∧
        viewFillsRegistry state.fillsRegistry = front ++ back ∧
        front.length = result.fillsConsumed.toNat ∧
        ShrinksHead back (viewFillsRegistry next.fillsRegistry)) ∧
      ∃ inputs, let full := runProgram Local.platform Local.initial inputs
        full.fillsRegistry.count.toNat = maxFillsQueueSize ∧ full.fillsRegistry.Consistent ∧
        viewFillsRegistry (commit (processInstruction Local.platform) full
          (Local.slotPurchase 0)).fillsRegistry = viewFillsRegistry full.fillsRegistry := by
  intro state
  refine ⟨by decide +kernel, ?_, ?_⟩
  · obtain ⟨-, -, -, dequeues⟩ := fillsRegistry_refines_queue Local.purchases_reachable
    have succeeds : (dequeueFills (Local.context 301 Local.ledger) state Local.admin
        25000000007).isOk = true := by
      decide +kernel
    cases dequeued : dequeueFills (Local.context 301 Local.ledger) state Local.admin
      25000000007 with
    | error failure =>
        rw [dequeued] at succeeds
        contradiction
    | ok success =>
        obtain ⟨next, receipt⟩ := success
        obtain ⟨result, front, back, returned, view_eq, consumed, shrinks⟩ :=
          dequeues _ _ _ next receipt dequeued
        exact ⟨next, receipt, result, front, back, rfl, returned, view_eq, consumed, shrinks⟩
  · obtain ⟨inputs, counted⟩ : ∃ inputs, (runProgram Local.platform Local.initial
        inputs).fillsRegistry.count.toNat = maxFillsQueueSize :=
      ⟨_, (Local.bought_fillingInputs le_rfl).counted⟩
    obtain ⟨consistent, -, rejects, -⟩ :=
      fillsRegistry_refines_queue (reachable_run Local.initial_reachable inputs)
    exact ⟨inputs, counted, consistent, (rejects counted _ _ _ _).2⟩

/-- From every reachable state the consumer dequeues what it asks for or what there is, unless the
registry is empty; the loop ends by its own guard. -/
theorem dequeueFills_never_stuck {platform : Platform} {state : ConverterState}
    (reachable : Reachable platform state) {maxSolAmount : UInt64} (positive : 0 < maxSolAmount)
    (context : Context) :
    (0 < state.fillsRegistry.count →
      ∃ next receipt result,
        dequeueFills context state state.configurationRegistry.fillsConsumer maxSolAmount =
          .ok (next, receipt) ∧
        receipt.returned = .dequeueFills result ∧
        result.solDequeued.toNat =
          min maxSolAmount.toNat state.fillsRegistry.totalSolPending.toNat) ∧
      (¬0 < state.fillsRegistry.count →
        dequeueFills context state state.configurationRegistry.fillsConsumer maxSolAmount =
          .error (failWith .emptyFillsRegistry)) ∧
      ∃ loop, dequeueLoop maxSolAmount state.fillsRegistry.startDequeue = .ok loop ∧
        dequeueGuard maxSolAmount loop = false := by
  have consistent := consistent_of_reachable reachable
  refine ⟨?_, ?_, ?_⟩
  · intro pending
    obtain ⟨fillsRegistry, result, dequeued, drains⟩ :=
      dequeue_of_pending consistent pending maxSolAmount
    have sol_eq : result.solDequeued.toNat =
        min maxSolAmount.toNat state.fillsRegistry.totalSolPending.toNat := by
      rw [drains.solDequeued_eq, released_quantity, consistent.totalSolPending_eq]
    rw [dequeueFills_of_consumer positive, dequeued]
    exact ⟨_, _, result, rfl, rfl, sol_eq⟩
  · intro empty
    rw [dequeueFills_of_consumer positive, dequeue_of_empty empty, error_bind]
  · obtain ⟨loop, finished, stopped, -⟩ := dequeueLoop_refines consistent maxSolAmount
    exact ⟨loop, finished, stopped⟩

/-- Of two fills of 25 SOL a dequeue of a fill and seven lamports gets them, and one of 60 SOL gets
both. -/
theorem dequeueFills_never_stuck_local :
    let state := runProgram Local.platform Local.initial Local.purchases
    let context := Local.context 301 Local.ledger
    state.configurationRegistry.fillsConsumer = Local.admin ∧
      (∃ next receipt result,
        dequeueFills context state state.configurationRegistry.fillsConsumer 25000000007 =
          .ok (next, receipt) ∧ receipt.returned = .dequeueFills result ∧
        result.solDequeued.toNat = 25000000007) ∧
      (∃ next receipt result,
        dequeueFills context state state.configurationRegistry.fillsConsumer 60000000000 =
          .ok (next, receipt) ∧ receipt.returned = .dequeueFills result ∧
        result.solDequeued.toNat = 50000000000) ∧
      ∃ loop, dequeueLoop 60000000000 state.fillsRegistry.startDequeue = .ok loop ∧
        dequeueGuard 60000000000 loop = false := by
  intro state context
  have pending : 0 < state.fillsRegistry.count := by decide +kernel
  have total : state.fillsRegistry.totalSolPending = 50000000000 := by decide +kernel
  obtain ⟨splits, -⟩ := @dequeueFills_never_stuck Local.platform state Local.purchases_reachable
    25000000007 (by decide) context
  obtain ⟨drains, -, finishes⟩ := @dequeueFills_never_stuck Local.platform state
    Local.purchases_reachable 60000000000 (by decide) context
  obtain ⟨next, receipt, result, dequeued, returned, sol_eq⟩ := splits pending
  obtain ⟨drained, drainReceipt, all, drain, drain_returned, all_eq⟩ := drains pending
  rw [total] at sol_eq all_eq
  exact ⟨by decide +kernel, ⟨next, receipt, result, dequeued, returned, sol_eq⟩,
    ⟨drained, drainReceipt, all, drain, drain_returned, all_eq⟩, finishes⟩

/-- After every run, what purchases recorded is what dequeues returned and what is pending; the
returned amounts are the ones credited to the fills, and every fill whose SOL was released in full
was paid its tokens in full. -/
theorem fills_conserved {platform : Platform} {context : Context} {arguments : InitializeSystem}
    {initial : ConverterState} {receipt : Receipt}
    (initialized : initializeSystem context arguments = .ok (initial, receipt))
    (inputs : List (Context × Instruction)) :
    let past := programHistory platform initial inputs
    let state := runProgram platform initial inputs
    recordedSol past = dequeuedSol past + state.fillsRegistry.totalSolPending.toNat ∧
      recordedTokens past = dequeuedTokens past + state.fillsRegistry.total2zPending.toNat ∧
      (recordedFills past).length = consumedFills past + state.fillsRegistry.count.toNat ∧
      quantity ((fillAccounts past).flatMap Account.releases) = dequeuedSol past ∧
      value ((fillAccounts past).flatMap Account.releases) = dequeuedTokens past ∧
      ∀ (index : ℕ) (fill : Fill), (recordedFills past)[index]? = some fill →
        ∃ account : Account, (fillAccounts past)[index]? = some account ∧
          account.opened = fill.lot ∧
          (0 < fill.solIn.toNat → quantity account.releases = fill.solIn.toNat →
            value account.releases = fill.token2zOut.toNat) := by
  intro past state
  have accounted : Accounted past state := accounted_history initialized inputs
  obtain ⟨quantity_balance, value_balance⟩ := accounted.tracks.balance
  have recordedSol_eq := accounted.recordedSol_eq
  have recordedTokens_eq := accounted.recordedTokens_eq
  have sol := accounted.sol
  have tokens := accounted.tokens
  have sol_pending := accounted.consistent.totalSolPending_eq
  have tokens_pending := accounted.consistent.total2zPending_eq
  refine ⟨sol, tokens, accounted.fills, by omega, by omega, ?_⟩
  intro index fill recorded
  obtain ⟨account, found, opened_eq, paid⟩ := accounted.account_of_recorded recorded
  refine ⟨account, found, opened_eq, fun positive exhausted => ?_⟩
  rcases paid with ⟨-, settled⟩ | ⟨lot, -, -, owes⟩
  · rw [settled.value_paid, opened_eq]
    rfl
  · have left := owes.quantity_left
    have balance := owes.quantity_balance
    simp only [opened_eq, lot_quantity] at left balance
    have := left positive
    omega

theorem fills_conserved_local :
    let past := programHistory Local.platform Local.initial Local.inputs
    let state := runProgram Local.platform Local.initial Local.inputs
    (recordedSol past, dequeuedSol past, dequeuedTokens past, consumedFills past) =
        (25000000000, 7, 1, 0) ∧
      recordedSol past = dequeuedSol past + state.fillsRegistry.totalSolPending.toNat ∧
      recordedTokens past = dequeuedTokens past + state.fillsRegistry.total2zPending.toNat := by
  obtain ⟨sol, tokens, -⟩ := fills_conserved Local.initializeSystem_ok Local.inputs
  exact ⟨by decide +kernel, sol, tokens⟩

/-- While a fill of `S` SOL and `T` tokens has released only `c < S` of its SOL, in `k` parts, it
has paid less than `k` units below `T * c / S` and nothing above it, and its remaining entry, still
pending behind the consumed fills, is worth at least the traded rate. -/
theorem split_fill_pays_pro_rata {platform : Platform} {context : Context}
    {arguments : InitializeSystem} {initial : ConverterState} {receipt : Receipt}
    (initialized : initializeSystem context arguments = .ok (initial, receipt))
    (inputs : List (Context × Instruction)) :
    let past := programHistory platform initial inputs
    let state := runProgram platform initial inputs
    ∀ (index : ℕ) (fill : Fill) (account : Account),
      (recordedFills past)[index]? = some fill → (fillAccounts past)[index]? = some account →
      quantity account.releases < fill.solIn.toNat →
      let S : ℚ := fill.solIn.toNat
      let T : ℚ := fill.token2zOut.toNat
      let c : ℚ := quantity account.releases
      let k : ℕ := account.releases.length
      let P : ℕ := value account.releases
      account.opened = fill.lot ∧ (k = 0 → P = 0) ∧ (0 < k → T * c / S - k < P) ∧
        P ≤ T * c / S ∧
        ∃ entry : Fill, consumedFills past ≤ index ∧
          (viewFillsRegistry state.fillsRegistry)[index - consumedFills past]? = some entry ∧
          entry.solIn.toNat + quantity account.releases = fill.solIn.toNat ∧
          entry.token2zOut.toNat + P = fill.token2zOut.toNat ∧
          fill.token2zOut.toNat * entry.solIn.toNat ≤
            entry.token2zOut.toNat * fill.solIn.toNat := by
  intro past state index fill account recorded found short S T c k P
  have accounted : Accounted past state := accounted_history initialized inputs
  obtain ⟨other, other_found, opened_eq, paid⟩ := accounted.account_of_recorded recorded
  obtain rfl : other = account := Option.some.inj (other_found.symm.trans found)
  rcases paid with ⟨-, settled⟩ | ⟨entry, late, entry_eq, owes⟩
  · have exhausted := settled.quantity_paid
    rw [opened_eq, lot_quantity] at exhausted
    omega
  have S_positive : 0 < S := Nat.cast_pos.mpr (Nat.zero_lt_of_lt short)
  have quantity_balance := owes.quantity_balance
  have value_balance := owes.value_balance
  have rate := owes.rate
  have paid_le := owes.paid_le
  have lt_paid := owes.lt_paid
  simp only [opened_eq, lot_quantity, lot_value]
    at quantity_balance value_balance rate paid_le lt_paid
  refine ⟨opened_eq, ?_, ?_, ?_, entry, late, entry_eq, quantity_balance, value_balance, rate⟩
  · intro unreleased
    have no_releases : other.releases = [] := List.length_eq_zero_iff.mp unreleased
    simp [P, no_releases]
  · intro released
    rw [sub_lt_iff_lt_add, div_lt_iff₀ S_positive]
    simp only [S, T, c, k, P]
    exact_mod_cast lt_paid released
  · rw [le_div_iff₀ S_positive]
    simp only [S, T, c, P]
    exact_mod_cast paid_le

/-- The second fill of the local run is split once: its account shows one release of seven lamports,
and the rest of it is what is pending. -/
theorem split_fill_pays_pro_rata_local :
    let past := programHistory Local.platform Local.initial Local.splitInputs
    let state := runProgram Local.platform Local.initial Local.splitInputs
    ∃ (fill : Fill) (account : Account) (entry : Fill),
      (recordedFills past)[1]? = some fill ∧ (fillAccounts past)[1]? = some account ∧
      consumedFills past = 1 ∧ (viewFillsRegistry state.fillsRegistry)[0]? = some entry ∧
      account.releases.length = 1 ∧ quantity account.releases = 7 ∧
      (fill.token2zOut.toNat * 7 / fill.solIn.toNat - 1 : ℚ) < value account.releases ∧
      (value account.releases : ℚ) ≤ fill.token2zOut.toNat * 7 / fill.solIn.toNat ∧
      entry.solIn.toNat + 7 = fill.solIn.toNat ∧
      entry.token2zOut.toNat + value account.releases = fill.token2zOut.toNat := by
  intro past state
  have recorded : (recordedFills past)[1]? = some ⟨25000000000, 4727500000⟩ := by decide +kernel
  have found : (fillAccounts past)[1]? =
      some ⟨⟨25000000000, 4727500000⟩, [⟨7, 1⟩], false⟩ := by
    decide +kernel
  have consumed : consumedFills past = 1 := by decide +kernel
  obtain ⟨-, -, above, below, entry, -, entry_eq, sol_eq, tokens_eq, -⟩ :=
    split_fill_pays_pro_rata Local.initializeSystem_ok Local.splitInputs 1 _ _ recorded found
      (by decide)
  rw [consumed] at entry_eq
  refine ⟨_, _, entry, recorded, found, consumed, entry_eq, rfl, rfl, ?_, ?_, sol_eq, tokens_eq⟩
  · exact above Nat.one_pos
  · exact below

end SolConversion.OnChain
