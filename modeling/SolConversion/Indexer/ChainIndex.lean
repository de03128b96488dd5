import SolConversion.Indexer.Reindexing
import SolConversion.OnChain.Transactions

/-!
# From the program to the index

What the program commits, transaction by transaction, against what `processTx` stores.  Two events
of one name in one transaction would share a record, but a transaction commits one trade at most, so
the index holds every committed trade, each once, and no other.
-/

namespace SolConversion.Indexer

open KeyedStore OnChain Transactional

/-- A `u64` field of an event. -/
def u64Field (name : String) (value : UInt64) : String × JsValue := (name, .bn value.toNat)

/-- An `i64` field of an event. -/
def i64Field (name : String) (value : Int64) : String × JsValue := (name, .bn value.toInt)

/-- A `pubkey` field of an event. -/
def pubkeyField (name : String) (value : Pubkey) : String × JsValue := (name, .publicKey value)

/-- `EventType.TRADE` -/
def tradeName : String := "TradeEvent"

/-- The data of a trade. -/
def tradeData (event : TradeEvent) : List (String × JsValue) :=
  [u64Field "sol_amount" event.solAmount, u64Field "token_amount" event.tokenAmount,
    u64Field "bid_price" event.bidPrice, i64Field "timestamp" event.timestamp,
    pubkeyField "buyer" event.buyer, u64Field "epoch" event.epoch]

/-- An event under the names of `converter_program.json`. -/
def parsedEvent : Event → ParsedEvent
  | .systemInitialized => ⟨"SystemInitialized", []⟩
  | .configChanged change => ⟨"ConfigChanged",
      [pubkeyField "changed_by" change.changedBy, pubkeyField "oracle_pubkey" change.oraclePubkey,
        u64Field "sol_quantity" change.solQuantity,
        i64Field "price_maximum_age" change.priceMaximumAge,
        u64Field "coefficient" change.coefficient,
        u64Field "max_discount_rate" change.maxDiscountRate,
        u64Field "min_discount_rate" change.minDiscountRate]⟩
  | .fillsConsumerChanged changedBy newConsumer => ⟨"FillsConsumerChanged",
      [pubkeyField "changed_by" changedBy, pubkeyField "new_consumer" newConsumer]⟩
  | .denyListAddressAdded addedBy address timestamp updateCount => ⟨denyListAddressAddedName,
      [pubkeyField "added_by" addedBy, pubkeyField "address" address,
        i64Field "timestamp" timestamp, u64Field "update_count" updateCount]⟩
  | .denyListAddressRemoved removedBy address timestamp updateCount =>
      ⟨denyListAddressRemovedName,
        [pubkeyField "removed_by" removedBy, pubkeyField "address" address,
          i64Field "timestamp" timestamp, u64Field "update_count" updateCount]⟩
  | .adminChanged newAdmin changedBy => ⟨"AdminChanged",
      [pubkeyField "new_admin" newAdmin, pubkeyField "changed_by" changedBy]⟩
  | .denyListAuthoritySet newAuthority changedBy => ⟨"DenyListAuthoritySet",
      [pubkeyField "new_authority" newAuthority, pubkeyField "changed_by" changedBy]⟩
  | .systemHalted haltedBy => ⟨"SystemHalted", [pubkeyField "halted_by" haltedBy]⟩
  | .systemUnhalted unhaltedBy => ⟨"SystemUnhalted", [pubkeyField "unhalted_by" unhaltedBy]⟩
  | .trade event => ⟨tradeName, tradeData event⟩
  -- the parser knows the bid under another name than the program
  | .bidTooLow event => ⟨"BidTooLowEvent",
      [u64Field "sol_amount" event.solAmount, u64Field "bid_amount" event.bidPrice,
        u64Field "ask_price" event.askPrice, i64Field "timestamp" event.timestamp,
        pubkeyField "buyer" event.buyer, u64Field "epoch" event.epoch]⟩
  | .fillsDequeued event => ⟨fillsDequeuedName,
      [pubkeyField "requester" event.requester, u64Field "sol_dequeued" event.solDequeued,
        u64Field "token_2z_dequeued" event.token2zDequeued,
        u64Field "fills_consumed" event.fillsConsumed, i64Field "timestamp" event.timestamp]⟩

/-- A transaction that the cluster confirmed. -/
structure ConfirmedTransaction where
  signature : String
  blockTime : Option ℤ
  transaction : ProgramTransaction

/-- A confirmed transaction with the state it met and what came of it. -/
abbrev ChainEntry :=
  Entry ConverterState ConfirmedTransaction (List Receipt) (List Receipt × Option Failure)

def executeConfirmed (platform : Platform) (state : ConverterState)
    (confirmed : ConfirmedTransaction) : TransactionResult :=
  executeTransaction platform state confirmed.transaction

/-- The confirmed transactions of a chain, executed one after the other. -/
def chainHistory (platform : Platform) (initial : ConverterState)
    (chain : List ConfirmedTransaction) : List ChainEntry :=
  history (executeConfirmed platform) initial chain

/-- What a node and the parser of event logs document about the transactions of a chain. -/
structure Publishes (environment : Environment) (past : List ChainEntry) : Prop where
  distinct : (past.map fun entry => entry.input.signature).Nodup
  recorded : ∀ entry ∈ past, ∃ err logMessages,
    environment.getTransaction entry.input.signature = some
      { slot := some entry.input.transaction.clock.slot.toNat
        blockTime := entry.input.blockTime
        txMeta := some ⟨err, some logMessages⟩ } ∧
    (err = none ↔ ∃ success, entry.result = .ok success) ∧
    environment.parseLogs logMessages = (transactionEvents entry.result).map parsedEvent

/-- The slot and the time a transaction is indexed under. -/
def ConfirmedTransaction.indexedAt (environment : Environment) (confirmed : ConfirmedTransaction) :
    ℕ × ℤ :=
  let slot := confirmed.transaction.clock.slot.toNat
  (slot, (confirmed.blockTime.or (environment.getBlockTime slot)).getD 0)

/-- The events a transaction committed. -/
def committedLog (entry : ChainEntry) : List Event := entry.told receiptEvents

/-- The record of an event of a transaction under its key. -/
def eventRecord (environment : Environment) (confirmed : ConfirmedTransaction) (event : Event) :
    RecordKey × Item :=
  let (slot, timestamp) := confirmed.indexedAt environment
  let item := eventItem environment.toBase58 confirmed.signature slot timestamp (parsedEvent event)
  (item.key, item)

/-- The records of a kind that a transaction leaves. -/
def entryRecords (environment : Environment) (wanted : Item → Bool) (entry : ChainEntry) :
    List (RecordKey × Item) :=
  ((committedLog entry).map (eventRecord environment entry.input)).filter fun write =>
    wanted write.2

/-- The records of a kind that a chain leaves, oldest first. -/
def chainRecords (environment : Environment) (wanted : Item → Bool) (past : List ChainEntry) :
    List (RecordKey × Item) :=
  past.flatMap (entryRecords environment wanted)

/-- A trade with the transaction that committed it. -/
structure CommittedTrade where
  signature : String
  slot : ℕ
  timestamp : ℤ
  event : TradeEvent
  deriving DecidableEq

/-- The trades a transaction committed. -/
def tradesOfEntry (environment : Environment) (entry : ChainEntry) : List CommittedTrade :=
  match entry.result with
  | .ok (_, receipts) => (tradesIn (receiptEvents receipts)).map fun event =>
      let (slot, timestamp) := entry.input.indexedAt environment
      ⟨entry.input.signature, slot, timestamp, event⟩
  | .error _ => []

/-- The trades a chain committed, oldest first. -/
def committedTrades (environment : Environment) (past : List ChainEntry) : List CommittedTrade :=
  past.flatMap (tradesOfEntry environment)

def Item.isTrade : Item → Bool
  | .solanaEvent _ _ eventType _ _ _ => eventType = tradeName
  | _ => false

/-- The record of a committed trade. -/
def CommittedTrade.item (toBase58 : BitVec 256 → String) (trade : CommittedTrade) : Item :=
  .solanaEvent trade.signature (eventId trade.slot trade.signature tradeName) tradeName
    (serializeForDynamo toBase58 (.object (tradeData trade.event))) trade.slot trade.timestamp

/-- The record of a committed trade under its key. -/
def CommittedTrade.record (toBase58 : BitVec 256 → String) (trade : CommittedTrade) :
    RecordKey × Item :=
  ((trade.item toBase58).key, trade.item toBase58)

/-- The records that one transaction leaves under one key are all of the kind or none is. -/
def Keyed (wanted : Item → Bool) : Prop :=
  ∀ (toBase58 : BitVec 256 → String) (sig : String) (slot : ℕ) (timestamp : ℤ)
    (event later : ParsedEvent),
    (eventItem toBase58 sig slot timestamp event).key =
        (eventItem toBase58 sig slot timestamp later).key →
      wanted (eventItem toBase58 sig slot timestamp event) =
        wanted (eventItem toBase58 sig slot timestamp later)

section Kinds

variable {environment : Environment} {wanted : Item → Bool} {past : List ChainEntry}

/-- Records under one key are all of a kind or none is. -/
theorem Keyed.wanted_eq (keyed : Keyed wanted) {write other : RecordKey × Item}
    {sigs : List String} (written : write ∈ (sigs.map environment.puts).flatten)
    (other_written : other ∈ (sigs.map environment.puts).flatten) (same : write.1 = other.1) :
    wanted write.2 = wanted other.2 := by
  simp only [List.mem_flatten, List.mem_map, exists_exists_and_eq_and] at written other_written
  obtain ⟨sig, -, written⟩ := written
  obtain ⟨sig', -, other_written⟩ := other_written
  have sig_eq : sig = sig' := by
    rw [← Environment.txHash_of_mem_puts written, same,
      Environment.txHash_of_mem_puts other_written]
  subst sig_eq
  obtain ⟨slot, timestamp, wrote⟩ := environment.processTx_eq_map sig
  rw [Environment.puts, wrote, List.map_map, List.mem_map] at written other_written
  obtain ⟨event, -, rfl⟩ := written
  obtain ⟨later, -, rfl⟩ := other_written
  exact keyed environment.toBase58 sig slot timestamp event later same

private theorem puts_eq (publishes : Publishes environment past) {entry : ChainEntry}
    (member : entry ∈ past) :
    environment.puts entry.input.signature =
      (committedLog entry).map (eventRecord environment entry.input) := by
  obtain ⟨err, logMessages, found, failed_iff, parsed⟩ := publishes.recorded entry member
  rw [committedLog, Entry.told]
  cases result : entry.result with
  | error failure =>
      have failed : err.isSome := by
        rw [Option.isSome_iff_ne_none, Ne, failed_iff, result]
        rintro ⟨success, ⟨⟩⟩
      simp [Environment.puts, Environment.processTx, found, failed]
  | ok success =>
      obtain ⟨last, receipts⟩ := success
      have succeeded : err = none := failed_iff.mpr ⟨_, result⟩
      rw [result] at parsed
      simp only [Environment.puts, Environment.processTx, found, succeeded, Option.isSome_none,
        Option.getD_some, parsed, transactionEvents, List.map_map, Environment.slotAndTime,
        Function.comp_def]
      rw [if_neg Bool.false_ne_true, List.map_map]
      rfl

/-- What `processTx` stores of a kind are the records of the chain. -/
theorem filter_writes (publishes : Publishes environment past) :
    (((past.map fun entry => entry.input.signature).map environment.puts).flatten.filter
        fun write => wanted write.2) = chainRecords environment wanted past := by
  rw [chainRecords, List.map_map, ← List.flatMap_def, List.filter_flatMap]
  refine List.flatMap_congr fun entry member => ?_
  rw [Function.comp_apply, puts_eq publishes member, entryRecords]

theorem txHash_of_mem_entryRecords {entry : ChainEntry} {write : RecordKey × Item}
    (member : write ∈ entryRecords environment wanted entry) :
    write.1.txHash = entry.input.signature := by
  obtain ⟨event, -, rfl⟩ := List.mem_map.mp (List.mem_filter.mp member).1
  exact txHash_eventItem ..

theorem nodup_keys (publishes : Publishes environment past)
    (single : ∀ entry ∈ past, (entryRecords environment wanted entry).length ≤ 1) :
    ((chainRecords environment wanted past).map Prod.fst).Nodup := by
  rw [chainRecords, List.map_flatMap, List.nodup_flatMap]
  constructor
  · intro entry member
    have short := single entry member
    generalize entryRecords environment wanted entry = records at short
    cases records with
    | nil => exact List.nodup_nil
    | cons record others =>
        obtain rfl := List.eq_nil_of_length_eq_zero (Nat.le_zero.mp (Nat.le_of_succ_le_succ short))
        exact List.nodup_singleton _
  · refine (List.pairwise_map.mp publishes.distinct).imp fun {entry other} differ => ?_
    intro key inside inside'
    obtain ⟨write, member, rfl⟩ := List.mem_map.mp inside
    obtain ⟨later, later_member, same⟩ := List.mem_map.mp inside'
    apply differ
    rw [← txHash_of_mem_entryRecords member, ← txHash_of_mem_entryRecords later_member, same]

theorem signatures_chainHistory (platform : Platform) (initial : ConverterState)
    (chain : List ConfirmedTransaction) :
    (chainHistory platform initial chain).map (fun entry => entry.input.signature) =
      chain.map ConfirmedTransaction.signature := by
  conv_rhs => rw [← map_input_history (executeConfirmed platform) initial chain, List.map_map]
  rfl

/-- However the transactions of a chain are indexed, the index ends with the records of a kind that
the chain leaves, if a transaction leaves one at most. -/
theorem enumerates_kind {platform : Platform} {initial : ConverterState}
    {chain : List ConfirmedTransaction} (keyed : Keyed wanted)
    (publishes : Publishes environment (chainHistory platform initial chain))
    (single : ∀ entry ∈ chainHistory platform initial chain,
      (entryRecords environment wanted entry).length ≤ 1)
    {processed : List String} {written : List (RecordKey × Item)}
    (interleaved : environment.Interleaved processed written)
    (covers : ∀ sig, sig ∈ processed ↔ sig ∈ chain.map ConfirmedTransaction.signature) :
    Enumerates (putAll ∅ written) wanted
      (chainRecords environment wanted (chainHistory platform initial chain)) := by
  rw [interleaved.putAll_eq_processAll ∅ covers, Environment.processAll_eq,
    ← signatures_chainHistory platform initial chain, ← filter_writes publishes]
  refine enumerates_putAll ?_ fun write written other other_written same =>
    keyed.wanted_eq written other_written same
  rw [filter_writes publishes]
  exact nodup_keys publishes single

end Kinds

theorem isTrade_eventItem (toBase58 : BitVec 256 → String) (sig : String) (slot : ℕ)
    (timestamp : ℤ) (event : ParsedEvent) :
    (eventItem toBase58 sig slot timestamp event).isTrade =
      decide (event.table = .solanaEvent ∧ event.name = tradeName) := by
  unfold eventItem ParsedEvent.table
  split_ifs <;> simp [Item.isTrade]

theorem keyed_isTrade : Keyed Item.isTrade := by
  intro toBase58 sig slot timestamp event later same
  obtain ⟨table_eq, name_eq⟩ := key_eventItem_inj.mp same
  simp only [isTrade_eventItem, ← table_eq]
  by_cases first : event.table = .solanaEvent
  · rw [name_eq first]
  · simp [first]

/-- The parser reads a trade exactly where the program logged one. -/
theorem isTrade_parsedEvent (toBase58 : BitVec 256 → String) (sig : String) (slot : ℕ)
    (timestamp : ℤ) (event : Event) :
    (eventItem toBase58 sig slot timestamp (parsedEvent event)).isTrade = event.trade?.isSome := by
  rw [isTrade_eventItem]
  cases event <;> rfl

private theorem filter_isTrade_map (environment : Environment) (confirmed : ConfirmedTransaction)
    (events : List Event) :
    ((events.map (eventRecord environment confirmed)).filter fun write => write.2.isTrade) =
      (tradesIn events).map fun event =>
        let (slot, timestamp) := confirmed.indexedAt environment
        CommittedTrade.record environment.toBase58
          ⟨confirmed.signature, slot, timestamp, event⟩ := by
  induction events with
  | nil => rfl
  | cons event events ih =>
      have wanted_eq : (eventRecord environment confirmed event).2.isTrade =
          event.trade?.isSome := isTrade_parsedEvent ..
      rw [List.map_cons, List.filter_cons, wanted_eq, ih]
      cases event with
      | trade event => rfl
      | _ => rfl

theorem entryRecords_isTrade (environment : Environment) (entry : ChainEntry) :
    entryRecords environment Item.isTrade entry =
      (tradesOfEntry environment entry).map (CommittedTrade.record environment.toBase58) := by
  rw [entryRecords, committedLog, Entry.told, tradesOfEntry, filter_isTrade_map]
  cases entry.result with
  | error failure => rfl
  | ok success =>
      rw [List.map_map]
      rfl

theorem chainRecords_isTrade (environment : Environment) (past : List ChainEntry) :
    chainRecords environment Item.isTrade past =
      (committedTrades environment past).map (CommittedTrade.record environment.toBase58) := by
  rw [chainRecords, committedTrades, List.map_flatMap]
  exact List.flatMap_congr fun entry _ => entryRecords_isTrade environment entry

section Chain

variable {environment : Environment} {platform : Platform} {initial : ConverterState}
  {chain : List ConfirmedTransaction}

private theorem reachable_of_mem_chainHistory (reachable : Reachable platform initial)
    {entry : ChainEntry} (member : entry ∈ chainHistory platform initial chain) :
    Reachable platform entry.before ∧
      entry.result = executeTransaction platform entry.before entry.input.transaction :=
  invariant_of_mem_history (executeConfirmed platform)
    (fun _ _ _ _ => reachable_of_transaction) reachable member

/-- A transaction leaves one trade record at most. -/
theorem single_trade (reachable : Reachable platform initial) :
    ∀ entry ∈ chainHistory platform initial chain,
      (entryRecords environment Item.isTrade entry).length ≤ 1 := by
  intro entry member
  obtain ⟨before_reachable, executed⟩ := reachable_of_mem_chainHistory reachable member
  rw [entryRecords_isTrade, List.length_map, tradesOfEntry]
  cases result : entry.result with
  | error failure => exact Nat.zero_le 1
  | ok success =>
      rw [result] at executed
      rw [List.length_map]
      exact length_tradesIn_le_one before_reachable executed.symm

/-- No two trades of a transaction, and none of two transactions, share a key. -/
theorem nodup_trade_keys (reachable : Reachable platform initial)
    (publishes : Publishes environment (chainHistory platform initial chain)) :
    (((committedTrades environment (chainHistory platform initial chain)).map
      (CommittedTrade.record environment.toBase58)).map Prod.fst).Nodup := by
  rw [← chainRecords_isTrade]
  exact nodup_keys publishes (single_trade reachable)

end Chain

/-- However the transactions of a chain are indexed, more than once, in any order and with their
writes interleaved, the index ends with one record for every trade the program committed, and with
no other trade record. -/
theorem trades_indexed {platform : Platform} {initial : ConverterState}
    (reachable : Reachable platform initial) (chain : List ConfirmedTransaction)
    {environment : Environment}
    (publishes : Publishes environment (chainHistory platform initial chain))
    {processed : List String} {written : List (RecordKey × Item)}
    (interleaved : environment.Interleaved processed written)
    (covers : ∀ sig, sig ∈ processed ↔ sig ∈ chain.map ConfirmedTransaction.signature) :
    Enumerates (putAll ∅ written) Item.isTrade
      ((committedTrades environment (chainHistory platform initial chain)).map
        (CommittedTrade.record environment.toBase58)) := by
  rw [← chainRecords_isTrade]
  exact enumerates_kind keyed_isTrade publishes (single_trade reachable) interleaved covers

/-- The transaction of a signature. -/
def entryOf (past : List ChainEntry) (sig : String) : Option ChainEntry :=
  past.find? fun entry => entry.input.signature = sig

/-- The `err` of a transaction. -/
def errOf : TransactionResult → Option String
  | .ok _ => none
  | .error _ => some "InstructionError"

/-- A node that knows a history; the signature of a transaction stands for its log lines. -/
def nodeOf (toBase58 : BitVec 256 → String) (past : List ChainEntry) : Environment where
  getTransaction sig := (entryOf past sig).map fun entry =>
    { slot := some entry.input.transaction.clock.slot.toNat
      blockTime := entry.input.blockTime
      txMeta := some ⟨errOf entry.result, some [sig]⟩ }
  getBlockTime _ := none
  parseLogs logMessages := (logMessages.head?.bind (entryOf past)).elim [] fun entry =>
    (transactionEvents entry.result).map parsedEvent
  toBase58 := toBase58

private theorem entryOf_eq {past : List ChainEntry}
    (distinct : (past.map fun entry => entry.input.signature).Nodup) {entry : ChainEntry}
    (member : entry ∈ past) : entryOf past entry.input.signature = some entry := by
  rw [entryOf]
  cases found : past.find? fun other => other.input.signature = entry.input.signature with
  | none =>
      have differs := List.find?_eq_none.mp found entry member
      exact absurd (decide_eq_true rfl) differs
  | some other =>
      have same : other.input.signature = entry.input.signature :=
        of_decide_eq_true (List.find?_some found :)
      rw [List.inj_on_of_nodup_map distinct (List.mem_of_find?_eq_some found) member same]

private theorem publishes_nodeOf (toBase58 : BitVec 256 → String) {past : List ChainEntry}
    (distinct : (past.map fun entry => entry.input.signature).Nodup) :
    Publishes (nodeOf toBase58 past) past where
  distinct := distinct
  recorded entry member := by
    have known := entryOf_eq distinct member
    refine ⟨errOf entry.result, [entry.input.signature], ?_, ?_, ?_⟩
    · simp only [nodeOf, known, Option.map_some]
    · cases entry.result with
      | ok success => exact iff_of_true rfl ⟨success, rfl⟩
      | error failure => exact iff_of_false (Option.some_ne_none _) (by rintro ⟨_, ⟨⟩⟩)
    · simp only [nodeOf, List.head?_cons, Option.bind_some, known, Option.elim_some]

namespace Local

open OnChain.Local

/-- A transaction of one instruction. -/
def transactionOf (signature : String) (input : Context × Instruction) : ConfirmedTransaction where
  signature
  blockTime := some input.1.clock.unixTimestamp.toInt
  transaction :=
    { clock := input.1.clock, inputs := [input], one_clock := by simp, undone := false }

/-- A transaction that another program reverts. -/
def undone (confirmed : ConfirmedTransaction) : ConfirmedTransaction :=
  { confirmed with transaction := { confirmed.transaction with undone := true } }

/-- Two trades, and one between them that is undone. -/
def tradesChain : List ConfirmedTransaction :=
  [transactionOf "first" (context 200 ledger, .buySol buyAccounts 200000000 price),
    undone (transactionOf "undone" (context 220 ledger, .buySol buyAccounts 200000000 price)),
    transactionOf "second" (context 300 ledger, .buySol buyAccounts 200000000 price)]

/-- A text for every key. -/
def keyText (key : BitVec 256) : String := toString key.toNat

/-- The node of a chain. -/
def node (chain : List ConfirmedTransaction) : Environment :=
  nodeOf keyText (chainHistory platform initial chain)

theorem publishes_node (chain : List ConfirmedTransaction)
    (distinct : (chain.map ConfirmedTransaction.signature).Nodup) :
    Publishes (node chain) (chainHistory platform initial chain) := by
  apply publishes_nodeOf
  rw [signatures_chainHistory]
  exact distinct

/-- Every transaction of a chain indexed once. -/
def indexedOnce (chain : List ConfirmedTransaction) : List (RecordKey × Item) :=
  ((chain.map ConfirmedTransaction.signature).map (node chain).puts).flatten

theorem interleaved_indexedOnce (chain : List ConfirmedTransaction) :
    (node chain).Interleaved (chain.map ConfirmedTransaction.signature) (indexedOnce chain) :=
  Interleaves.flatten _

/-- The records of a kind that the node's index holds. -/
def recordsOf (wanted : Item → Bool) (chain : List ConfirmedTransaction) :
    List (RecordKey × Item) :=
  chainRecords (node chain) wanted (chainHistory platform initial chain)

/-- What the first transaction writes is written once more at the end. -/
def indexedAgain : List (RecordKey × Item) :=
  ((["first", "undone", "second", "first"]).map (node tradesChain).puts).flatten

private theorem interleaved_indexedAgain :
    (node tradesChain).Interleaved ["first", "undone", "second", "first"] indexedAgain :=
  Interleaves.flatten _

private theorem covers_tradesChain (sig : String) : sig ∈ ["first", "undone", "second", "first"] ↔
    sig ∈ tradesChain.map ConfirmedTransaction.signature := by
  simp only [tradesChain, transactionOf, undone, List.map_cons, List.map_nil, List.mem_cons,
    List.not_mem_nil]
  tauto

end Local

/-- Two trades of the local deployment, of which the first is indexed twice, and none of the
transaction that was undone. -/
theorem trades_indexed_local :
    let trades := committedTrades (Local.node Local.tradesChain)
      (chainHistory OnChain.Local.platform OnChain.Local.initial Local.tradesChain)
    trades.map CommittedTrade.signature = ["first", "second"] ∧
      Enumerates (putAll ∅ Local.indexedAgain) Item.isTrade
        (trades.map (CommittedTrade.record Local.keyText)) := by
  intro trades
  exact ⟨by decide +kernel, trades_indexed OnChain.Local.initial_reachable Local.tradesChain
    (Local.publishes_node Local.tradesChain (by decide)) Local.interleaved_indexedAgain
    Local.covers_tradesChain⟩

end SolConversion.Indexer
