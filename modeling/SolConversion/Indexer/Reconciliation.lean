import SolConversion.Indexer.ChainIndex
import SolConversion.Indexer.DequeueTotals
import SolConversion.OnChain.AuditTrail

/-!
# Reconciling the index with the program

The index keeps enough to audit the program.  The amounts in its trade and dequeue records add up to
what is pending on chain, and its deny list records, sorted by their numbers, replay to the deny
list.  Transactions with two dequeues or two changes of the deny list are out of reach: their
records share a key.
-/

namespace SolConversion.Indexer

open ChangeLog KeyedStore OnChain Transactional

def JsValue.text? : JsValue → Option String
  | .string text => some text
  | _ => none

/-- The fill in a trade record, in amounts. -/
def Item.sold? : Item → Option Amounts
  | .solanaEvent _ _ eventType data _ _ =>
      if eventType = tradeName then
        (data.get "sol_amount").whole?.bind fun solAmount =>
          (data.get "token_amount").whole?.map fun tokenAmount => (solAmount, tokenAmount, 1)
      else none
  | _ => none

/-- The amounts in a dequeue record. -/
def Item.dequeued? : Item → Option Amounts
  | .fillDequeue _ _ _ _ solDequeued token2zDequeued fillsConsumed _ =>
      solDequeued.whole?.bind fun sol =>
        token2zDequeued.whole?.bind fun tokens =>
          fillsConsumed.whole?.map fun fills => (sol, tokens, fills)
  | _ => none

/-- The numbered change in a record of the deny list. -/
def Item.listed? : Item → Option (ℕ × Change String)
  | .denyListAction _ _ _ address actionType _ updateCount _ =>
      updateCount.whole?.bind fun count =>
        address.text?.map fun text =>
          (count, if actionType = "ADDED" then .insert text else .remove text)
  | _ => none

def Item.isDenyListAction : Item → Bool
  | .denyListAction .. => true
  | _ => false

/-- A numbered change with its address as a text. -/
def named (toBase58 : BitVec 256 → String) (listed : ℕ × Change Pubkey) : ℕ × Change String :=
  (listed.1, listed.2.map toBase58)

/-- The change of the deny list an event reports, with its address as a text. -/
def namedChange? (toBase58 : BitVec 256 → String) (event : Event) : Option (ℕ × Change String) :=
  event.listed?.map (named toBase58)

/-- What some records report. -/
def reported {α : Type} (read : Item → Option α) (records : List (RecordKey × Item)) : List α :=
  records.filterMap fun record => read record.2

section Records

variable {toBase58 : BitVec 256 → String}

private theorem text?_serialize (key : Pubkey) :
    (serializeForDynamo toBase58 (.publicKey key)).text? = some (toBase58 key) := by
  rw [serializeForDynamo]
  rfl

private theorem sold?_eventItem (sig : String) (slot : ℕ) (timestamp : ℤ) (event : Event) :
    (eventItem toBase58 sig slot timestamp (parsedEvent event)).sold? = event.sold? := by
  cases event with
  | trade event =>
      have item_eq : eventItem toBase58 sig slot timestamp (parsedEvent (.trade event)) =
          .solanaEvent sig (eventId slot sig tradeName) tradeName
            (serializeForDynamo toBase58 (.object (tradeData event))) slot timestamp := rfl
      have sol_eq : (tradeData event).lookup "sol_amount" = some (.bn event.solAmount.toNat) := rfl
      have tokens_eq : (tradeData event).lookup "token_amount" =
          some (.bn event.tokenAmount.toNat) := rfl
      rw [item_eq, Item.sold?, if_pos rfl, get_serialize, get_serialize, sol_eq, tokens_eq,
        Option.map_some, Option.map_some, Option.getD_some, Option.getD_some, whole?_serialize,
        whole?_serialize]
      rfl
  | _ => rfl

private theorem dequeued?_eventItem (sig : String) (slot : ℕ) (timestamp : ℤ) (event : Event) :
    (eventItem toBase58 sig slot timestamp (parsedEvent event)).dequeued? = event.dequeued? := by
  cases event with
  | fillsDequeued event =>
      have item_eq : (eventItem toBase58 sig slot timestamp
          (parsedEvent (.fillsDequeued event))).dequeued? =
            (serializeForDynamo toBase58 (.bn event.solDequeued.toNat)).whole?.bind fun sol =>
              (serializeForDynamo toBase58 (.bn event.token2zDequeued.toNat)).whole?.bind
                fun tokens =>
                  (serializeForDynamo toBase58 (.bn event.fillsConsumed.toNat)).whole?.map
                    fun fills => (sol, tokens, fills) := by
        rw [parsedEvent, eventItem, if_pos rfl, Item.dequeued?, get_serialize, get_serialize,
          get_serialize]
        rfl
      rw [item_eq, whole?_serialize, whole?_serialize, whole?_serialize]
      rfl
  | _ => rfl

theorem listed?_denyListAction {sig actionId actionType : String} {slot count : ℕ} {timestamp : ℤ}
    {address : Pubkey} {actionBy : JsValue} :
    (Item.denyListAction sig timestamp actionId
      (serializeForDynamo toBase58 (.publicKey address)) actionType actionBy
      (serializeForDynamo toBase58 (.bn count)) slot).listed? =
        some (count, if actionType = "ADDED" then .insert (toBase58 address)
          else .remove (toBase58 address)) := by
  rw [Item.listed?, whole?_serialize, text?_serialize]
  rfl

private theorem listed?_eventItem (sig : String) (slot : ℕ) (timestamp : ℤ) (event : Event) :
    (eventItem toBase58 sig slot timestamp (parsedEvent event)).listed? =
      namedChange? toBase58 event := by
  have added_ne : denyListAddressAddedName ≠ fillsDequeuedName := by decide
  have removed_ne : denyListAddressRemovedName ≠ fillsDequeuedName := by decide
  have removed_ne_added : denyListAddressRemovedName ≠ denyListAddressAddedName := by decide
  cases event with
  | denyListAddressAdded addedBy address added updateCount =>
      rw [parsedEvent, eventItem, if_neg added_ne, if_pos rfl, get_serialize, get_serialize,
        get_serialize]
      exact listed?_denyListAction
  | denyListAddressRemoved removedBy address removed updateCount =>
      rw [parsedEvent, eventItem, if_neg removed_ne, if_neg removed_ne_added, if_pos rfl,
        get_serialize, get_serialize, get_serialize]
      exact listed?_denyListAction
  | _ => rfl

end Records

theorem filterMap_namedChange? (toBase58 : BitVec 256 → String) (events : List Event) :
    events.filterMap (namedChange? toBase58) =
      (events.filterMap Event.listed?).map (named toBase58) :=
  List.map_filterMap.symm

/-- The records of a kind, and they alone, are read as the events report. -/
structure Reports {α : Type} (toBase58 : BitVec 256 → String) (wanted : Item → Bool)
    (read : Item → Option α) (report : Event → Option α) : Prop where
  keyed : Keyed wanted
  wants : ∀ sig slot timestamp event,
    wanted (eventItem toBase58 sig slot timestamp (parsedEvent event)) = (report event).isSome
  reads : ∀ sig slot timestamp event,
    read (eventItem toBase58 sig slot timestamp (parsedEvent event)) = report event

section Kinds

variable {toBase58 : BitVec 256 → String}

theorem isDequeue_eq (item : Item) : item.isDequeue = decide (item.key.table = .fillDequeue) := by
  cases item <;> rfl

theorem isDenyListAction_eq (item : Item) :
    item.isDenyListAction = decide (item.key.table = .denyListAction) := by
  cases item <;> rfl

theorem reports_trades : Reports toBase58 Item.isTrade Item.sold? Event.sold? where
  keyed := keyed_isTrade
  wants sig slot timestamp event := by
    rw [isTrade_parsedEvent]
    cases event <;> rfl
  reads := sold?_eventItem

theorem reports_dequeues : Reports toBase58 Item.isDequeue Item.dequeued? Event.dequeued? where
  keyed _ _ _ _ _ _ same := by rw [isDequeue_eq, isDequeue_eq, same]
  wants sig slot timestamp event := by cases event <;> rfl
  reads := dequeued?_eventItem

theorem reports_denyList :
    Reports toBase58 Item.isDenyListAction Item.listed? (namedChange? toBase58) where
  keyed _ _ _ _ _ _ same := by rw [isDenyListAction_eq, isDenyListAction_eq, same]
  wants sig slot timestamp event := by cases event <;> rfl
  reads := listed?_eventItem

end Kinds

section Reports

variable {α : Type} {environment : Environment} {wanted : Item → Bool} {read : Item → Option α}
  {report : Event → Option α}

theorem Reports.length_entryRecords (reports : Reports environment.toBase58 wanted read report)
    (entry : ChainEntry) : (entryRecords environment wanted entry).length =
      ((committedLog entry).filterMap report).length := by
  rw [entryRecords, ← List.countP_eq_length_filter, List.countP_map,
    List.length_filterMap_eq_countP]
  refine List.countP_congr fun event _ => ?_
  rw [Function.comp_apply, eventRecord, reports.wants]

theorem Reports.reported_chainRecords (reports : Reports environment.toBase58 wanted read report)
    (past : List ChainEntry) : reported read (chainRecords environment wanted past) =
      (past.flatMap committedLog).filterMap report := by
  rw [reported, chainRecords, List.filterMap_flatMap, List.filterMap_flatMap]
  refine List.flatMap_congr fun entry _ => ?_
  rw [entryRecords, List.filterMap_filter, List.filterMap_map]
  refine List.filterMap_congr fun event _ => ?_
  rw [Function.comp_apply, eventRecord, reports.wants, reports.reads]
  cases report event with
  | none => rfl
  | some _ => rfl

private theorem Reports.length_chainRecords
    (reports : Reports environment.toBase58 wanted read report)
    (past : List ChainEntry) : (chainRecords environment wanted past).length =
      ((past.flatMap committedLog).filterMap report).length := by
  rw [chainRecords, List.filterMap_flatMap, List.length_flatMap, List.length_flatMap]
  congr 1
  exact List.map_congr_left fun entry _ => reports.length_entryRecords entry

section Indexed

variable {platform : Platform} {initial : ConverterState} {chain : List ConfirmedTransaction}
  {processed : List String} {written records : List (RecordKey × Item)}

theorem Reports.enumerates_chainRecords (reports : Reports environment.toBase58 wanted read report)
    (publishes : Publishes environment (chainHistory platform initial chain))
    (single : ∀ entry ∈ chainHistory platform initial chain,
      ((committedLog entry).filterMap report).length ≤ 1)
    (interleaved : environment.Interleaved processed written)
    (covers : ∀ sig, sig ∈ processed ↔ sig ∈ chain.map ConfirmedTransaction.signature) :
    Enumerates (putAll ∅ written) wanted
      (chainRecords environment wanted (chainHistory platform initial chain)) := by
  refine enumerates_kind reports.keyed publishes ?_ interleaved covers
  intro entry member
  rw [reports.length_entryRecords]
  exact single entry member

/-- Whatever the order of the records, they report what the chain reported. -/
theorem Reports.perm_reported (reports : Reports environment.toBase58 wanted read report)
    (perm : records.Perm
      (chainRecords environment wanted (chainHistory platform initial chain))) :
    (reported read records).Perm
      (((chainHistory platform initial chain).flatMap committedLog).filterMap report) := by
  rw [← reports.reported_chainRecords]
  exact perm.filterMap _

end Indexed

end Reports

/-- What every instruction does and logs, put together, is what a chain does and commits. -/
theorem relates_of_chain {platform : Platform}
    {relation : ConverterState → List Event → ConverterState → Prop}
    (refl : ∀ state, relation state [] state)
    (trans : ∀ {state middle last earlier later}, relation state earlier middle →
      relation middle later last → relation state (earlier ++ later) last)
    (related : ∀ {state next events}, state.fillsRegistry.Consistent → Logs state next events →
      relation state events next)
    {initial : ConverterState} (reachable : Reachable platform initial)
    (chain : List ConfirmedTransaction) :
    relation initial ((chainHistory platform initial chain).flatMap committedLog)
      (run (executeConfirmed platform) initial chain) :=
  run_relates (executeConfirmed platform) refl trans
    (fun _ _ _ _ => reachable_of_transaction)
    (fun _ _ _ _ reachable executed =>
      relates_of_transaction refl trans related reachable executed) reachable chain

theorem single_sold {platform : Platform} {initial : ConverterState}
    (reachable : Reachable platform initial) (environment : Environment)
    (chain : List ConfirmedTransaction) : ∀ entry ∈ chainHistory platform initial chain,
      ((committedLog entry).filterMap Event.sold?).length ≤ 1 := by
  intro entry member
  have one_record : (entryRecords environment Item.isTrade entry).length ≤ 1 :=
    single_trade reachable entry member
  rwa [reports_trades.length_entryRecords] at one_record

/-- However a chain is indexed, the fills pending on chain are those pending before, with the fills
in the trade records and without those in the dequeue records, in SOL, in tokens and in number, if
no transaction dequeues twice. -/
theorem fills_reconciled {platform : Platform} {initial : ConverterState}
    (reachable : Reachable platform initial) (chain : List ConfirmedTransaction)
    {environment : Environment}
    (publishes : Publishes environment (chainHistory platform initial chain))
    (single : ∀ entry ∈ chainHistory platform initial chain,
      ((committedLog entry).filterMap Event.dequeued?).length ≤ 1)
    {processed : List String} {written : List (RecordKey × Item)}
    (interleaved : environment.Interleaved processed written)
    (covers : ∀ sig, sig ∈ processed ↔ sig ∈ chain.map ConfirmedTransaction.signature)
    {trades dequeues : List (RecordKey × Item)}
    (all_trades : Enumerates (putAll ∅ written) Item.isTrade trades)
    (all_dequeues : Enumerates (putAll ∅ written) Item.isDequeue dequeues) :
    let last := run (executeConfirmed platform) initial chain
    last.fillsRegistry.pending + (reported Item.dequeued? dequeues).sum =
      initial.fillsRegistry.pending + (reported Item.sold? trades).sum := by
  intro last
  have balances : Balances initial _ last :=
    relates_of_chain balances_nil Balances.trans Logs.balances reachable chain
  have one_trade := single_sold reachable environment chain
  have sold := all_trades.perm
    (reports_trades.enumerates_chainRecords publishes one_trade interleaved covers)
  have dequeued := all_dequeues.perm
    (reports_dequeues.enumerates_chainRecords publishes single interleaved covers)
  rw [(reports_trades.perm_reported sold).sum_eq, (reports_dequeues.perm_reported dequeued).sum_eq]
  exact balances

/-- However a chain is indexed, the records of deny list actions, sorted by their numbers, replay to
the deny list on chain and are as many as its count has risen by, if no transaction changes the list
twice. -/
theorem denyList_reconciled {platform : Platform} {initial : ConverterState}
    (reachable : Reachable platform initial) (chain : List ConfirmedTransaction)
    {environment : Environment} (distinct : Function.Injective environment.toBase58)
    (publishes : Publishes environment (chainHistory platform initial chain))
    (single : ∀ entry ∈ chainHistory platform initial chain,
      ((committedLog entry).filterMap Event.listed?).length ≤ 1)
    {processed : List String} {written : List (RecordKey × Item)}
    (interleaved : environment.Interleaved processed written)
    (covers : ∀ sig, sig ∈ processed ↔ sig ∈ chain.map ConfirmedTransaction.signature)
    {actions : List (RecordKey × Item)}
    (all_actions : Enumerates (putAll ∅ written) Item.isDenyListAction actions)
    (sorted : (reported Item.listed? actions).Pairwise fun action later => action.1 ≤ later.1) :
    let last := run (executeConfirmed platform) initial chain
    last.denyListRegistry.deniedAddresses.map environment.toBase58 =
        ((reported Item.listed? actions).map Prod.snd).foldl Change.advance
          (initial.denyListRegistry.deniedAddresses.map environment.toBase58) ∧
      last.denyListRegistry.updateCount.toNat =
        initial.denyListRegistry.updateCount.toNat + actions.length := by
  intro last
  have renumbers : Renumbers initial _ last :=
    relates_of_chain renumbers_nil Renumbers.trans (fun _ => Logs.renumbers) reachable chain
  have one_listed : ∀ entry ∈ chainHistory platform initial chain,
      ((committedLog entry).filterMap (namedChange? environment.toBase58)).length ≤ 1 := by
    intro entry member
    rw [filterMap_namedChange?, List.length_map]
    exact single entry member
  have perm := all_actions.perm
    (reports_denyList.enumerates_chainRecords publishes one_listed interleaved covers)
  have log_perm := reports_denyList.perm_reported perm
  rw [filterMap_namedChange?] at log_perm
  set log := ((chainHistory platform initial chain).flatMap committedLog).filterMap Event.listed?
  have numbered : (log.map (named environment.toBase58)).map Prod.fst =
      List.range' (initial.denyListRegistry.updateCount.toNat + 1)
        (log.map (named environment.toBase58)).length := by
    rw [List.map_map, List.length_map]
    exact renumbers.numbered
  constructor
  · rw [eq_of_numbered numbered log_perm sorted, renumbers.replayed,
      map_foldl_advance distinct, List.map_map, List.map_map]
    rfl
  · rw [perm.length_eq, reports_denyList.length_chainRecords, filterMap_namedChange?,
      List.length_map]
    exact renumbers.counted

namespace Local

open OnChain.Local

/-- A trade, the choice of a fills consumer and a dequeue of seven lamports. -/
def fillsChain : List ConfirmedTransaction :=
  [transactionOf "trade" (context 200 ledger, .buySol buyAccounts 200000000 price),
    transactionOf "consumer" (context 201 ledger, .setFillsConsumer admin admin),
    transactionOf "dequeue" (context 202 ledger, .dequeueFills admin 7)]

/-- Two addresses are denied and the first one is allowed again. -/
def denyListChain : List ConfirmedTransaction :=
  [transactionOf "buyer" (context 300 ledger, .addToDenyList admin buyer),
    transactionOf "journal" (context 301 ledger, .addToDenyList admin journal),
    transactionOf "allowed" (context 302 ledger, .removeFromDenyList admin buyer)]

private theorem keyText_injective : Function.Injective keyText := by
  intro key other same
  exact BitVec.eq_of_toNat_eq (Nat.repr_injective same)

theorem single_dequeue : ∀ entry ∈ chainHistory platform initial fillsChain,
    ((committedLog entry).filterMap Event.dequeued?).length ≤ 1 := by
  decide +kernel

theorem single_change : ∀ entry ∈ chainHistory platform initial denyListChain,
    ((committedLog entry).filterMap Event.listed?).length ≤ 1 := by
  decide +kernel

end Local

/-- The trade of the local deployment and a dequeue of seven lamports. -/
theorem fills_reconciled_local :
    let last := run (executeConfirmed OnChain.Local.platform) OnChain.Local.initial Local.fillsChain
    let dequeued := reported Item.dequeued? (Local.recordsOf Item.isDequeue Local.fillsChain)
    dequeued = [(7, 1, 0)] ∧
      last.fillsRegistry.pending + dequeued.sum = OnChain.Local.initial.fillsRegistry.pending +
        (reported Item.sold? (Local.recordsOf Item.isTrade Local.fillsChain)).sum := by
  intro last dequeued
  have publishes := Local.publishes_node Local.fillsChain (by decide)
  have interleaved := Local.interleaved_indexedOnce Local.fillsChain
  have sold := single_sold OnChain.Local.initial_reachable (Local.node Local.fillsChain)
    Local.fillsChain
  constructor
  · exact (reports_dequeues.reported_chainRecords _).trans (by decide +kernel)
  · exact fills_reconciled OnChain.Local.initial_reachable Local.fillsChain publishes
      Local.single_dequeue interleaved (fun _ => Iff.rfl)
      (reports_trades.enumerates_chainRecords publishes sold interleaved fun _ => Iff.rfl)
      (reports_dequeues.enumerates_chainRecords publishes Local.single_dequeue interleaved
        fun _ => Iff.rfl)

/-- The deny list of the local deployment after two additions and a removal. -/
theorem denyList_reconciled_local :
    let last := run (executeConfirmed OnChain.Local.platform) OnChain.Local.initial
      Local.denyListChain
    last.denyListRegistry.deniedAddresses.map Local.keyText =
        ((reported Item.listed? (Local.recordsOf Item.isDenyListAction Local.denyListChain)).map
          Prod.snd).foldl Change.advance [] ∧
      last.denyListRegistry.updateCount.toNat =
        0 + (Local.recordsOf Item.isDenyListAction Local.denyListChain).length := by
  have publishes := Local.publishes_node Local.denyListChain (by decide)
  have interleaved := Local.interleaved_indexedOnce Local.denyListChain
  have single : ∀ entry ∈ chainHistory OnChain.Local.platform OnChain.Local.initial
      Local.denyListChain,
      ((committedLog entry).filterMap (namedChange? Local.keyText)).length ≤ 1 := by
    intro entry member
    rw [filterMap_namedChange?, List.length_map]
    exact Local.single_change entry member
  refine denyList_reconciled OnChain.Local.initial_reachable Local.denyListChain
    Local.keyText_injective publishes Local.single_change interleaved (fun _ => Iff.rfl)
    (reports_denyList.enumerates_chainRecords publishes single interleaved fun _ => Iff.rfl) ?_
  have listed : reported Item.listed?
      (Local.recordsOf Item.isDenyListAction Local.denyListChain) =
        (((chainHistory OnChain.Local.platform OnChain.Local.initial
          Local.denyListChain).flatMap committedLog).filterMap Event.listed?).map
            (named Local.keyText) :=
    (reports_denyList.reported_chainRecords _).trans (filterMap_namedChange? _ _)
  rw [listed, List.pairwise_map]
  decide +kernel

end SolConversion.Indexer
