import SolConversion.Foundation.LotAccount
import SolConversion.OnChain.Program

/-!
# Histories of fills

The fills recorded and the amounts dequeued over whole runs.  Every recorded fill keeps an account
of what was released for it; the accounts always balance with the pending queue, so nothing is lost
or duplicated however a fill is split.
-/

namespace SolConversion.OnChain

open Fallible LotQueue Transactional

/-- The fill a trade event reports. -/
def Event.fill : Event → Option Fill
  | .trade event => some ⟨event.solAmount, event.tokenAmount⟩
  | _ => none

/-- The result of a dequeue. -/
def ReturnData.dequeued : ReturnData → Option DequeueFillsResult
  | .dequeueFills result => some result
  | _ => Option.none

/-- The fills a receipt reports. -/
def Receipt.fills (receipt : Receipt) : List Fill := receipt.events.filterMap Event.fill

/-- The fill a successful purchase recorded. -/
def recordedFill (entry : ProgramEntry) : List Fill :=
  match entry.input.2, entry.result with
  | .buySol .., .ok (_, receipt) => receipt.fills
  | _, _ => []

/-- The fills recorded by the successful purchases of a history. -/
def recordedFills (past : List ProgramEntry) : List Fill := past.flatMap recordedFill

/-- What a successful dequeue returned. -/
def dequeueResult (entry : ProgramEntry) : List DequeueFillsResult :=
  match entry.input.2, entry.result with
  | .dequeueFills .., .ok (_, receipt) => receipt.returned.dequeued.toList
  | _, _ => []

/-- The results of the successful dequeues of a history. -/
def dequeueResults (past : List ProgramEntry) : List DequeueFillsResult :=
  past.flatMap dequeueResult

/-- The SOL of the recorded fills. -/
def recordedSol (past : List ProgramEntry) : ℕ :=
  ((recordedFills past).map fun fill => fill.solIn.toNat).sum

/-- The tokens of the recorded fills. -/
def recordedTokens (past : List ProgramEntry) : ℕ :=
  ((recordedFills past).map fun fill => fill.token2zOut.toNat).sum

/-- The SOL dequeues returned. -/
def dequeuedSol (past : List ProgramEntry) : ℕ :=
  ((dequeueResults past).map fun result => result.solDequeued.toNat).sum

/-- The tokens dequeues returned. -/
def dequeuedTokens (past : List ProgramEntry) : ℕ :=
  ((dequeueResults past).map fun result => result.token2zDequeued.toNat).sum

/-- The number of fills dequeues consumed. -/
def consumedFills (past : List ProgramEntry) : ℕ :=
  ((dequeueResults past).map fun result => result.fillsConsumed.toNat).sum

/-- Enter one execution in the accounts of the fills: a purchase opens an account, and the passes of
a dequeue are credited one by one. -/
def enterFills (accounts : List Account) (entry : ProgramEntry) : List Account :=
  match entry.input.2, entry.result with
  | .buySol .., .ok (_, receipt) =>
      accounts ++ receipt.fills.map fun fill => Account.fresh fill.lot
  | .dequeueFills _ maxSolAmount, .ok _ =>
      creditAll (dequeueReleases maxSolAmount entry.before.fillsRegistry.startDequeue) accounts
  | _, _ => accounts

/-- The accounts of all fills recorded in a history, oldest first. -/
def fillAccounts (past : List ProgramEntry) : List Account := past.foldl enterFills []

/-- The history accounts for the registry. -/
structure Accounted (past : List ProgramEntry) (state : ConverterState) : Prop where
  consistent : state.fillsRegistry.Consistent
  tracks : Tracks (fillAccounts past) state.fillsRegistry.lots
  opened : (fillAccounts past).map Account.opened = (recordedFills past).map Fill.lot
  sol : recordedSol past = dequeuedSol past + state.fillsRegistry.totalSolPending.toNat
  tokens : recordedTokens past = dequeuedTokens past + state.fillsRegistry.total2zPending.toNat
  fills : (recordedFills past).length = consumedFills past + state.fillsRegistry.count.toNat

theorem recordedFills_snoc (past : List ProgramEntry) (entry : ProgramEntry) :
    recordedFills (past ++ [entry]) = recordedFills past ++ recordedFill entry := by
  simp [recordedFills]

theorem dequeueResults_snoc (past : List ProgramEntry) (entry : ProgramEntry) :
    dequeueResults (past ++ [entry]) = dequeueResults past ++ dequeueResult entry := by
  simp [dequeueResults]

theorem fillAccounts_snoc (past : List ProgramEntry) (entry : ProgramEntry) :
    fillAccounts (past ++ [entry]) = enterFills (fillAccounts past) entry := by
  simp [fillAccounts]

private theorem accounted_nil {state : ConverterState} (zeroed : state.fillsRegistry = .zeroed) :
    Accounted [] state := by
  refine ⟨?_, ?_, rfl, ?_, ?_, ?_⟩ <;> rw [zeroed]
  · exact consistent_zeroed
  · exact tracks_nil
  · rfl
  · rfl
  · rfl

/-- An execution that leaves the registry alone changes no account. -/
theorem Accounted.skip {past : List ProgramEntry} {state next : ConverterState}
    {entry : ProgramEntry} (accounted : Accounted past state)
    (same : next.fillsRegistry = state.fillsRegistry) (no_fill : recordedFill entry = [])
    (no_result : dequeueResult entry = [])
    (not_entered : ∀ accounts, enterFills accounts entry = accounts) :
    Accounted (past ++ [entry]) next := by
  obtain ⟨consistent, tracks, opened, sol, tokens, fills⟩ := accounted
  constructor <;>
    simpa only [same, fillAccounts_snoc, not_entered, recordedSol, recordedTokens, dequeuedSol,
      dequeuedTokens, consumedFills, recordedFills_snoc, no_fill, dequeueResults_snoc, no_result,
      List.append_nil]

/-- A purchase opens an account for the fill it records. -/
theorem Accounted.trade {platform : Platform} {past : List ProgramEntry} {context : Context}
    {state next : ConverterState} {accounts : BuySolAccounts} {bidPrice : UInt64}
    {oraclePriceData : OraclePriceData} {askPrice tokensRequired : UInt64} {paid : Ledger}
    {receipt : Receipt} (accounted : Accounted past state)
    (trades : Trades platform context state accounts bidPrice oraclePriceData askPrice
      tokensRequired paid next receipt) :
    Accounted (past ++ [⟨state, (context, .buySol accounts bidPrice oraclePriceData),
      .ok (next, receipt)⟩]) next := by
  obtain ⟨consistent, tracks, opened, sol, tokens, fills⟩ := accounted
  have fills_eq : receipt.fills =
      [⟨state.configurationRegistry.solQuantity, tokensRequired⟩] := by
    simp [Receipt.fills, trades.events_eq, Event.fill]
  have lots_eq := lots_insert consistent.toRing trades.inserted
  have next_consistent := consistent_insert consistent trades.inserted
  simp only [recordedSol, recordedTokens, dequeuedSol, dequeuedTokens, consumedFills]
    at sol tokens fills
  set entry : ProgramEntry := ⟨state, (context, .buySol accounts bidPrice oraclePriceData),
    .ok (next, receipt)⟩
  have recorded_eq : recordedFill entry =
      [⟨state.configurationRegistry.solQuantity, tokensRequired⟩] := fills_eq
  have results_eq : dequeueResult entry = [] := rfl
  have entered : enterFills (fillAccounts past) entry = fillAccounts past ++
      [Account.fresh ⟨state.configurationRegistry.solQuantity.toNat, tokensRequired.toNat⟩] := by
    change fillAccounts past ++ receipt.fills.map _ = _
    rw [fills_eq]
    rfl
  constructor
  · exact next_consistent
  · rw [fillAccounts_snoc, entered, lots_eq]
    exact tracks.open _
  · rw [fillAccounts_snoc, entered, recordedFills_snoc, recorded_eq, List.map_append,
      List.map_append, opened]
    rfl
  · rw [next_consistent.totalSolPending_eq, lots_eq, quantity_append,
      ← consistent.totalSolPending_eq, recordedSol, dequeuedSol, recordedFills_snoc,
      dequeueResults_snoc, recorded_eq, results_eq]
    simp [sol, Nat.add_assoc]
  · rw [next_consistent.total2zPending_eq, lots_eq, value_append,
      ← consistent.total2zPending_eq, recordedTokens, dequeuedTokens, recordedFills_snoc,
      dequeueResults_snoc, recorded_eq, results_eq]
    simp [tokens, Nat.add_assoc]
  · rw [← length_lots, lots_eq, List.length_append, length_lots, consumedFills,
      recordedFills_snoc, dequeueResults_snoc, recorded_eq, results_eq]
    simp [fills, Nat.add_assoc]

/-- The passes of a dequeue are credited to the accounts they release from. -/
theorem Accounted.dequeue {past : List ProgramEntry} {context : Context}
    {state : ConverterState} {signer : Pubkey} {maxSolAmount : UInt64}
    {fillsRegistry : FillsRegistry} {result : DequeueFillsResult} {receipt : Receipt}
    (accounted : Accounted past state)
    (dequeued : state.fillsRegistry.dequeue maxSolAmount = .ok (fillsRegistry, result))
    (returned : receipt.returned = .dequeueFills result) :
    Accounted (past ++ [⟨state, (context, .dequeueFills signer maxSolAmount),
      .ok ({ state with fillsRegistry }, receipt)⟩]) { state with fillsRegistry } := by
  obtain ⟨consistent, tracks, opened, sol, tokens, fills⟩ := accounted
  have drains := drains_of_dequeue consistent dequeued
  obtain ⟨-, -, -, -, releases_eq⟩ := dequeueLoop_refines consistent maxSolAmount
  have sol_conserved := quantity_conserved maxSolAmount.toNat state.fillsRegistry.lots
  have tokens_conserved := value_conserved maxSolAmount.toNat state.fillsRegistry.lots
  have fills_conserved := lots_conserved maxSolAmount.toNat state.fillsRegistry.lots
  simp only [recordedSol, recordedTokens, dequeuedSol, dequeuedTokens, consumedFills]
    at sol tokens fills
  set entry : ProgramEntry := ⟨state, (context, .dequeueFills signer maxSolAmount),
    .ok ({ state with fillsRegistry }, receipt)⟩
  have recorded_eq : recordedFill entry = [] := rfl
  have results_eq : dequeueResult entry = [result] := by
    change receipt.returned.dequeued.toList = [result]
    rw [returned]
    rfl
  have entered : enterFills (fillAccounts past) entry =
      creditAll (released maxSolAmount.toNat state.fillsRegistry.lots) (fillAccounts past) := by
    rw [← releases_eq]
    rfl
  constructor
  · exact drains.consistent
  · rw [fillAccounts_snoc, entered, drains.lots_eq]
    exact tracks.drain maxSolAmount.toNat
  · rw [fillAccounts_snoc, entered, map_opened_creditAll, recordedFills_snoc, recorded_eq,
      List.append_nil, opened]
  · rw [recordedSol, dequeuedSol, recordedFills_snoc, recorded_eq, List.append_nil, sol,
      dequeueResults_snoc, results_eq, drains.consistent.totalSolPending_eq, drains.lots_eq,
      consistent.totalSolPending_eq, ← sol_conserved, ← drains.solDequeued_eq]
    simp [Nat.add_assoc]
  · rw [recordedTokens, dequeuedTokens, recordedFills_snoc, recorded_eq, List.append_nil,
      tokens, dequeueResults_snoc, results_eq, drains.consistent.total2zPending_eq, drains.lots_eq,
      consistent.total2zPending_eq, ← tokens_conserved, ← drains.token2zDequeued_eq]
    simp [Nat.add_assoc]
  · rw [consumedFills, recordedFills_snoc, recorded_eq, List.append_nil, fills,
      dequeueResults_snoc, results_eq,
      ← length_lots fillsRegistry, drains.lots_eq, ← length_lots state.fillsRegistry,
      ← fills_conserved, ← drains.fillsConsumed_eq]
    simp [Nat.add_assoc]

/-- Every successful instruction keeps the accounts in balance. -/
theorem Accounted.executes {platform : Platform} {past : List ProgramEntry} {context : Context}
    {state next : ConverterState} {instruction : Instruction} {receipt : Receipt}
    (accounted : Accounted past state)
    (executes : Executes platform context state instruction next receipt) :
    Accounted (past ++ [⟨state, (context, instruction), .ok (next, receipt)⟩]) next := by
  cases executes with
  | traded trades => exact accounted.trade trades
  | dequeued _ _ dequeued returned => exact accounted.dequeue dequeued returned
  | _ => exact accounted.skip rfl rfl rfl fun _ => rfl

theorem Accounted.fails {past : List ProgramEntry} {state : ConverterState}
    {input : Context × Instruction} {failure : Failure} (accounted : Accounted past state) :
    Accounted (past ++ [⟨state, input, .error failure⟩]) state := by
  obtain ⟨context, instruction⟩ := input
  cases instruction <;> exact accounted.skip rfl rfl rfl fun _ => rfl

/-- After every run the accounts of the fills balance with the registry. -/
theorem accounted_history {platform : Platform} {context : Context}
    {arguments : InitializeSystem} {initial : ConverterState} {receipt : Receipt}
    (initialized : initializeSystem context arguments = .ok (initial, receipt))
    (inputs : List (Context × Instruction)) :
    Accounted (programHistory platform initial inputs) (runProgram platform initial inputs) := by
  obtain ⟨-, -, -, -, zeroed⟩ := initializeSystem_eq_ok initialized
  apply history_invariant
  · exact accounted_nil zeroed
  · rintro past state ⟨context, instruction⟩ accounted
    cases result : processInstruction platform state (context, instruction) with
    | error failure =>
        rw [commit_error _ result]
        exact accounted.fails
    | ok success =>
        obtain ⟨next, receipt⟩ := success
        rw [commit_ok _ result]
        exact accounted.executes (executes_of_ok result)

theorem sum_opened {fills : List Fill} {accounts : List Account}
    (opened : accounts.map Account.opened = fills.map Fill.lot) :
    quantity (accounts.map Account.opened) = (fills.map fun fill => fill.solIn.toNat).sum ∧
      value (accounts.map Account.opened) = (fills.map fun fill => fill.token2zOut.toNat).sum := by
  rw [opened, quantity, value, List.map_map, List.map_map]
  exact ⟨rfl, rfl⟩

theorem Accounted.recordedSol_eq {past : List ProgramEntry} {state : ConverterState}
    (accounted : Accounted past state) :
    quantity ((fillAccounts past).map Account.opened) = recordedSol past :=
  (sum_opened accounted.opened).1

theorem Accounted.recordedTokens_eq {past : List ProgramEntry} {state : ConverterState}
    (accounted : Accounted past state) :
    value ((fillAccounts past).map Account.opened) = recordedTokens past :=
  (sum_opened accounted.opened).2

/-- The account of a recorded fill is settled, or owes the entry still pending for it. -/
theorem Accounted.account_of_recorded {past : List ProgramEntry} {state : ConverterState}
    (accounted : Accounted past state) {index : ℕ} {fill : Fill}
    (recorded : (recordedFills past)[index]? = some fill) :
    ∃ account, (fillAccounts past)[index]? = some account ∧ account.opened = fill.lot ∧
      ((index < consumedFills past ∧ account.Settled) ∨
        ∃ entry, consumedFills past ≤ index ∧
          (viewFillsRegistry state.fillsRegistry)[index - consumedFills past]? = some entry ∧
          account.Owes entry.lot) := by
  have opened_at : ((fillAccounts past).map Account.opened)[index]? = some fill.lot := by
    rw [accounted.opened, List.getElem?_map, recorded]
    rfl
  rw [List.getElem?_map, Option.map_eq_some_iff] at opened_at
  obtain ⟨account, found, opened_eq⟩ := opened_at
  refine ⟨account, found, opened_eq, ?_⟩
  have lengths : consumedFills past + state.fillsRegistry.lots.length =
      (fillAccounts past).length := by
    rw [length_lots, ← accounted.fills, ← List.length_map (f := Fill.lot), ← accounted.opened,
      List.length_map]
  rcases accounted.tracks.at_index found lengths with settled | ⟨lot, late, queued, owes⟩
  · exact .inl settled
  · rw [FillsRegistry.lots, List.getElem?_map, Option.map_eq_some_iff] at queued
    obtain ⟨entry, entry_eq, rfl⟩ := queued
    exact .inr ⟨entry, late, entry_eq, owes⟩

end SolConversion.OnChain
