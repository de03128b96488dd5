import SolConversion.Foundation.PagedRead
import SolConversion.Indexer.ChainIndex
import SolConversion.Indexer.DequeueTotals

/-!
# Paged queries

The metrics service reads its events page by page, while the indexer may go on writing them.  From
tables at rest the pages give what the whole tables give, however they are cut.  From tables that
grow, and are shown late, the buys of a day lie between what was shown for sure when the read began
and what was written when it ended.
-/

namespace SolConversion.Indexer

open Calendar Fallible KeyedStore OnChain PagedRead ScriptDate

/-- What the input of a command selects, between two timestamps. -/
inductive ReadCommand
  /-- `KeyConditionExpression` over `event_type_timestamp_idx` -/
  | query (table : DDBTable) (eventType : String) (lower upper : ℤ)
  /-- `FilterExpression` -/
  | scan (table : DDBTable) (lower upper : ℤ)

def ReadCommand.table : ReadCommand → DDBTable
  | .query table .. => table
  | .scan table .. => table

/-- The `event_type` of a record that has one. -/
def Item.eventType? : Item → Option String
  | .solanaEvent _ _ eventType _ _ _ => some eventType
  | _ => none

def ReadCommand.selects : ReadCommand → Item → Bool
  | .query _ eventType lower upper, item =>
      item.eventType? = some eventType ∧ lower ≤ item.timestamp ∧ item.timestamp ≤ upper
  | .scan _ lower upper, item => lower ≤ item.timestamp ∧ item.timestamp ≤ upper

inductive QueryError
  | metrics (error : MetricsError)
  /-- The table answers a request with a failure. -/
  | service (message : String)
  deriving DecidableEq

/-- `ddbDocClient.send`, for every command and every page of it. -/
abbrev Client (κ : Type) := ReadCommand → Server κ Item QueryError

/-- `Items` as `BuyEventData` -/
def readBuy : Item → Option BuyEventData
  | .solanaEvent _ _ _ _ _ timestamp => some ⟨timestamp⟩
  | _ => none

namespace Paged

section Queries

variable {κ : Type} (client : Client κ) (fuel : ℕ)

/-- The loop that the queries share.  A bound that is `NaN` does not get into a command. -/
def readBetween (command : ℤ → ℤ → ReadCommand) :
    Option ℤ → Option ℤ → Except QueryError (List Item)
  | some lower, some upper => readAll (client (command lower upper)) fuel
  | _, _ => .error (.metrics .specialNumber)

def queryBuyEvents : Option ℤ → Option ℤ → Except QueryError (List Item) :=
  readBetween client fuel (.query .solanaEvent tradeName)

def queryDequeueEvents : Option ℤ → Option ℤ → Except QueryError (List Item) :=
  readBetween client fuel (.scan .fillDequeue)

end Queries

/-- `handleBuysMetrics` behind its query. -/
def buysResponse (buyEvents : List BuyEventData) (request : ValidatedRequest) :
    Except MetricsError (MetricsResponse BuysBucket) := do
  let eventsByDay ← buyEvents.foldlM countBuy (fun _ => 0)
  let dates ← generateDateRange request.fromDate request.toDate
  let data ← dates.mapM fun dateStr => do
    let dateBucket ← createDateBucket dateStr
    return (⟨dateBucket, eventsByDay dateStr⟩ : BuysBucket)
  return ⟨request.fromDate, request.toDate, data⟩

/-- `handleDequeuesMetrics` behind its query. -/
def dequeuesResponse (arithmetic : ScriptNumber.Arithmetic) (dequeueEvents : List DequeueEventData)
    (request : ValidatedRequest) : Except MetricsError (MetricsResponse DequeuesBucket) := do
  let eventsByDay ← dequeueEvents.foldlM addDequeue (fun _ => none)
  let dates ← generateDateRange request.fromDate request.toDate
  let data ← dates.mapM fun dateStr => do
    let dateBucket ← createDateBucket dateStr
    return dequeuesBucket arithmetic dateBucket (eventsByDay dateStr)
  return ⟨request.fromDate, request.toDate, data⟩

section Handlers

variable {κ : Type} (arithmetic : ScriptNumber.Arithmetic) (client : Client κ) (fuel : ℕ)

def handleBuysMetrics (request : ValidatedRequest) :
    Except QueryError (MetricsResponse BuysBucket) := do
  let buyEvents ← queryBuyEvents client fuel request.fromTimestamp request.toTimestamp
  mapFailure .metrics (buysResponse (buyEvents.filterMap readBuy) request)

def handleDequeuesMetrics (request : ValidatedRequest) :
    Except QueryError (MetricsResponse DequeuesBucket) := do
  let dequeueEvents ← queryDequeueEvents client fuel request.fromTimestamp request.toTimestamp
  mapFailure .metrics
    (dequeuesResponse arithmetic (dequeueEvents.filterMap readDequeue) request)

/-- The answer of a metrics handler, whose errors end in the `catch` of `handler`. -/
def respond {β : Type} (body : β → ResponseBody) : Except QueryError β → APIGatewayProxyResult
  | .ok data => createSuccessResponse (body data)
  | .error _ => createErrorResponse 500 "INTERNAL_SERVER_ERROR" "An internal error occurred"

def handler (event : APIGatewayProxyEvent) : APIGatewayProxyResult :=
  match validateDateRange event.queryStringParameters with
  | .error error => createErrorResponse error.statusCode error.code error.message
  | .ok validatedRequest =>
      if event.httpMethod = "GET" ∧ event.resourceEndsWith "/metrics/buys" then
        respond .buys (handleBuysMetrics client fuel validatedRequest)
      else if event.httpMethod = "GET" ∧ event.resourceEndsWith "/metrics/dequeues" then
        respond .dequeues (handleDequeuesMetrics arithmetic client fuel validatedRequest)
      else createErrorResponse 404 "NOT_FOUND" "Endpoint not found"

end Handlers

end Paged

/-- What a table documents about a command.  Its pages hold the records shown, in an order of keys
that holds for good, and every record is shown as it was at some moment: no earlier than the writes
that have reached every copy, and no later than now. -/
structure Documented {κ : Type} [LinearOrder κ] (client : Client κ) (command : ReadCommand)
    (key : Item → κ) (keys : Finset κ) (rows : ℕ → List Item) (written : List (RecordKey × Item))
    (reached stage : ℕ → ℕ) : Prop where
  answers : Answers (client command) key command.selects rows keys
  shows : ∀ time, ∃ view : RecordKey → ℕ,
    (∀ recordKey, reached time ≤ view recordKey ∧ view recordKey ≤ stage time) ∧
    ∀ item, item ∈ rows time ↔ item.key.table = command.table ∧
      (putAll ∅ (written.take (view item.key))).lookup item.key = some item

/-- The command of a request between two bounds that are numbers. -/
def ValidatedRequest.command? (request : ValidatedRequest) (command : ℤ → ℤ → ReadCommand) :
    Option ReadCommand :=
  request.fromTimestamp.bind fun lower => request.toTimestamp.map (command lower)

/-- The command that the handler sends for a request, if it sends one. -/
def sentCommand (event : APIGatewayProxyEvent) : Option ReadCommand :=
  match validateDateRange event.queryStringParameters with
  | .error _ => none
  | .ok validatedRequest =>
      if event.httpMethod = "GET" ∧ event.resourceEndsWith "/metrics/buys" then
        validatedRequest.command? (.query .solanaEvent tradeName)
      else if event.httpMethod = "GET" ∧ event.resourceEndsWith "/metrics/dequeues" then
        validatedRequest.command? (.scan .fillDequeue)
      else none

/-- A page that is asked for under a command is answered with a failure. -/
def PageFails {κ : Type} (client : Client κ) (command? : Option ReadCommand) : Prop :=
  ∃ command ∈ command?, ∃ failure, FailsWith (client command) failure

section Rest

variable {κ : Type} [LinearOrder κ] {client : Client κ} {key : Item → κ} {keys : Finset κ}
  {rows : DDBTable → List Item} {fuel : ℕ}

theorem handleBuysMetrics_eq_bind (buyEvents : List BuyEventData) (request : ValidatedRequest) :
    handleBuysMetrics buyEvents request =
      queryEvents BuyEventData.timestamp request.fromTimestamp request.toTimestamp buyEvents >>=
        fun events => Paged.buysResponse events request := rfl

theorem handleDequeuesMetrics_eq_bind (arithmetic : ScriptNumber.Arithmetic)
    (dequeueEvents : List DequeueEventData) (request : ValidatedRequest) :
    handleDequeuesMetrics arithmetic dequeueEvents request =
      queryEvents DequeueEventData.timestamp request.fromTimestamp request.toTimestamp
          dequeueEvents >>=
        fun events => Paged.dequeuesResponse arithmetic events request := rfl

theorem filterMap_filter_timestamp {α : Type} {read : Item → Option α} {timestamp : α → ℤ}
    (kept : ∀ item event, read item = some event → timestamp event = item.timestamp)
    (within : ℤ → Bool) (items : List Item) :
    (items.filter fun item => within item.timestamp).filterMap read =
      (items.filterMap read).filter fun event => within (timestamp event) := by
  induction items with
  | nil => rfl
  | cons item items ih =>
      rw [List.filter_cons, List.filterMap_cons]
      cases read_eq : read item with
      | none =>
          rw [← ih]
          split <;> simp [read_eq]
      | some event =>
          rw [List.filter_cons, kept item event read_eq, ← ih]
          split <;> simp [read_eq]

theorem timestamp_of_readBuy (item : Item) (event : BuyEventData)
    (read : readBuy item = some event) : event.timestamp = item.timestamp := by
  cases item with
  | solanaEvent => obtain rfl := Option.some.inj read; rfl
  | _ => contradiction

private theorem timestamp_of_readDequeue (item : Item) (event : DequeueEventData)
    (read : readDequeue item = some event) : event.timestamp = item.timestamp := by
  cases item with
  | fillDequeue =>
      obtain ⟨amount, -, rfl⟩ := Option.map_eq_some_iff.mp read
      rfl
  | _ => contradiction

theorem isTrade_eq (item : Item) : item.isTrade = decide (item.eventType? = some tradeName) := by
  cases item <;> simp [Item.isTrade, Item.eventType?]

private theorem filter_selects_query (lower upper : ℤ) (items : List Item) :
    items.filter (ReadCommand.selects (.query .solanaEvent tradeName lower upper)) =
      (items.filter Item.isTrade).filter fun item =>
        decide (lower ≤ item.timestamp ∧ item.timestamp ≤ upper) := by
  rw [List.filter_filter]
  apply List.filter_congr
  intro item _
  rw [isTrade_eq, ReadCommand.selects, Bool.decide_and, Bool.and_comm]

/-- A read fails if one of its requests does, and otherwise comes to what the command selects of the
table. -/
theorem readBetween_of_rest {command : ℤ → ℤ → ReadCommand} {request : ValidatedRequest}
    (answers : ∀ sent ∈ request.command? command, Answers (client sent) key sent.selects
      (fun _ => rows sent.table) keys) (enough : keys.card + 1 ≤ fuel) :
    let read := Paged.readBetween client fuel command request.fromTimestamp request.toTimestamp
    (PageFails client (request.command? command) → ∃ failure, read = .error failure) ∧
      (¬PageFails client (request.command? command) →
        (request.command? command = none ∧ read = .error (.metrics .specialNumber)) ∨
          ∃ lower upper, request.fromTimestamp = some lower ∧ request.toTimestamp = some upper ∧
            read =
              .ok ((rows (command lower upper).table).filter (command lower upper).selects)) := by
  obtain ⟨fromDate, toDate, _ | lower, _ | upper⟩ := request
  iterate 3
    refine ⟨?_, fun _ => .inl ⟨rfl, rfl⟩⟩
    rintro ⟨_, ⟨⟩, -⟩
  have documented := answers (command lower upper) rfl
  refine ⟨?_, fun answered => .inr ⟨lower, upper, rfl, rfl, ?_⟩⟩
  · rintro ⟨_, ⟨⟩, failure, failed⟩
    refine ⟨failure, ?_⟩
    rw [Paged.readBetween, readAll, (readPages_eq_error_iff documented enough).mpr failed]
    rfl
  · rw [Paged.readBetween]
    cases read : readAll (client (command lower upper)) fuel with
    | error failure =>
        exact absurd ⟨_, rfl, failure, failsWith_of_readPages (map_eq_error.mp read)⟩ answered
    | ok items => rw [readAll_of_rest documented enough read]

private theorem pagedBuysMetrics_of_rest {request : ValidatedRequest}
    (answers : ∀ sent ∈ request.command? (.query .solanaEvent tradeName), Answers (client sent) key
      sent.selects (fun _ => rows sent.table) keys) (enough : keys.card + 1 ≤ fuel) :
    let sent := request.command? (.query .solanaEvent tradeName)
    (PageFails client sent →
      ∃ failure, Paged.handleBuysMetrics client fuel request = .error failure) ∧
      (¬PageFails client sent →
        Paged.handleBuysMetrics client fuel request = mapFailure .metrics (handleBuysMetrics
          (((rows .solanaEvent).filter Item.isTrade).filterMap readBuy) request)) := by
  obtain ⟨fails, reads⟩ := readBetween_of_rest answers enough
  rw [Paged.handleBuysMetrics, Paged.queryBuyEvents]
  constructor
  · intro failed
    obtain ⟨failure, read⟩ := fails failed
    exact ⟨failure, by rw [read, error_bind]⟩
  · intro answered
    obtain ⟨missing, read⟩ | ⟨lower, upper, from_eq, to_eq, read⟩ := reads answered
    · rw [read, error_bind, handleBuysMetrics_eq_bind]
      obtain ⟨fromDate, toDate, _ | lower, _ | upper⟩ := request
      · rfl
      · rfl
      · rfl
      · contradiction
    · rw [read, ok_bind, handleBuysMetrics_eq_bind, from_eq, to_eq, queryEvents, ok_bind,
        ReadCommand.table, filter_selects_query, filterMap_filter_timestamp timestamp_of_readBuy
          fun second => decide (lower ≤ second ∧ second ≤ upper)]

private theorem pagedDequeuesMetrics_of_rest (arithmetic : ScriptNumber.Arithmetic)
    {request : ValidatedRequest}
    (answers : ∀ sent ∈ request.command? (.scan .fillDequeue), Answers (client sent) key
      sent.selects (fun _ => rows sent.table) keys) (enough : keys.card + 1 ≤ fuel) :
    let sent := request.command? (.scan .fillDequeue)
    (PageFails client sent →
      ∃ failure, Paged.handleDequeuesMetrics arithmetic client fuel request = .error failure) ∧
      (¬PageFails client sent →
        Paged.handleDequeuesMetrics arithmetic client fuel request = mapFailure .metrics
          (handleDequeuesMetrics arithmetic ((rows .fillDequeue).filterMap readDequeue)
            request)) := by
  obtain ⟨fails, reads⟩ := readBetween_of_rest answers enough
  rw [Paged.handleDequeuesMetrics, Paged.queryDequeueEvents]
  constructor
  · intro failed
    obtain ⟨failure, read⟩ := fails failed
    exact ⟨failure, by rw [read, error_bind]⟩
  · intro answered
    obtain ⟨missing, read⟩ | ⟨lower, upper, from_eq, to_eq, read⟩ := reads answered
    · rw [read, error_bind, handleDequeuesMetrics_eq_bind]
      obtain ⟨fromDate, toDate, _ | lower, _ | upper⟩ := request
      · rfl
      · rfl
      · rfl
      · contradiction
    · rw [read, ok_bind, handleDequeuesMetrics_eq_bind, from_eq, to_eq, queryEvents, ok_bind,
        ReadCommand.table, ← filterMap_filter_timestamp timestamp_of_readDequeue
          fun second => decide (lower ≤ second ∧ second ≤ upper)]
      rfl

end Rest

theorem respond_mapFailure {β : Type} (body : β → ResponseBody) (result : Except MetricsError β) :
    Paged.respond body (mapFailure .metrics result) = respond body result := by
  cases result <;> rfl

/-- However the server cuts the tables into pages, a request gets the answer of the whole tables, or
an internal error if a page that the handler asks for is answered with a failure. -/
theorem paging_transparent (arithmetic : ScriptNumber.Arithmetic) {κ : Type} [LinearOrder κ]
    {client : Client κ} {key : Item → κ} {keys : Finset κ} {rows : DDBTable → List Item}
    {event : APIGatewayProxyEvent}
    (answers : ∀ command ∈ sentCommand event, Answers (client command) key command.selects
      (fun _ => rows command.table) keys) {fuel : ℕ} (enough : keys.card + 1 ≤ fuel) :
    (PageFails client (sentCommand event) → Paged.handler arithmetic client fuel event =
        createErrorResponse 500 "INTERNAL_SERVER_ERROR" "An internal error occurred") ∧
      (¬PageFails client (sentCommand event) → Paged.handler arithmetic client fuel event =
        handler arithmetic (((rows .solanaEvent).filter Item.isTrade).filterMap readBuy)
          ((rows .fillDequeue).filterMap readDequeue) event) := by
  have nothing : ¬PageFails client none := by
    rintro ⟨_, ⟨⟩, -⟩
  unfold sentCommand at answers ⊢
  unfold Paged.handler handler
  cases validated : validateDateRange event.queryStringParameters with
  | error error => exact ⟨fun failed => absurd failed nothing, fun _ => rfl⟩
  | ok request =>
      simp only [validated] at answers ⊢
      by_cases buys : event.httpMethod = "GET" ∧ event.resourceEndsWith "/metrics/buys"
      · simp only [if_pos buys] at answers ⊢
        obtain ⟨fails, reads⟩ := pagedBuysMetrics_of_rest answers enough
        constructor
        · intro failed
          obtain ⟨failure, read⟩ := fails failed
          rw [read, Paged.respond]
        · intro answered
          rw [reads answered, respond_mapFailure]
      · simp only [if_neg buys] at answers ⊢
        by_cases dequeues : event.httpMethod = "GET" ∧ event.resourceEndsWith "/metrics/dequeues"
        · simp only [if_pos dequeues] at answers ⊢
          obtain ⟨fails, reads⟩ := pagedDequeuesMetrics_of_rest arithmetic answers enough
          constructor
          · intro failed
            obtain ⟨failure, read⟩ := fails failed
            rw [read, Paged.respond]
          · intro answered
            rw [reads answered, respond_mapFailure]
        · rw [if_neg dequeues, if_neg dequeues, if_neg dequeues]
          exact ⟨fun failed => absurd failed nothing, fun _ => rfl⟩

namespace Local

/-- A purchase, a change of the administrator and another purchase. -/
def eventRows : List Item :=
  [.solanaEvent "first" "1-first-TradeEvent" tradeName (.object []) 1 1709251199,
    .solanaEvent "second" "2-second-AdminChanged" "AdminChanged" (.object []) 2 1709251200,
    .solanaEvent "third" "3-third-TradeEvent" tradeName (.object []) 3 1709251201]

def rowsAtRest : DDBTable → List Item
  | .solanaEvent => eventRows
  | .fillDequeue =>
      [.fillDequeue "fourth" 1709251202 "4-fourth-FillsDequeued" (.string "") (.number 7)
        (.number 7) (.number 1) 4]
  | .denyListAction => []

/-- Tables at rest in pages of one record. -/
def clientAtRest : Client ℤ := fun command =>
  serve Item.timestamp command.selects (fun _ => rowsAtRest command.table) 0

private theorem clientAtRest_answers (command : ReadCommand) :
    Answers (clientAtRest command) Item.timestamp command.selects
      (fun _ => rowsAtRest command.table)
      {1709251199, 1709251200, 1709251201, 1709251202} := by
  refine answers_serve (fun _ => ?_) (fun _ => ?_) 0
  · cases command.table <;> simp [rowsAtRest, eventRows, Item.timestamp]
  · cases command.table <;> simp [rowsAtRest, eventRows, Item.timestamp]

end Local

/-- Pages of one record give what the tables give. -/
theorem paging_transparent_single :
    let event := ⟨"GET", "/metrics/buys", some ⟨some "2024-02-29", some "2024-03-01"⟩⟩
    Paged.handler .exact Local.clientAtRest 5 event =
      handler .exact [⟨1709251199⟩, ⟨1709251201⟩]
        ((Local.rowsAtRest .fillDequeue).filterMap readDequeue) event := by
  intro event
  refine (paging_transparent .exact (fun command _ => Local.clientAtRest_answers command)
    (by decide)).2 ?_
  rintro ⟨command, -, failure, failed⟩
  exact not_failsWith_serve failed

/-! ## Tables that grow -/

/-- The trades whose records are among some writes. -/
def indexedTrades (environment : Environment) (trades : List CommittedTrade)
    (written : List (RecordKey × Item)) : List CommittedTrade :=
  trades.filter fun trade => (trade.item environment.toBase58).key ∈ written.map Prod.fst

/-- The number of trades of a day. -/
def tradesOn (trades : List CommittedTrade) (day : ℤ) : ℕ :=
  trades.countP fun trade => dayOf trade.timestamp = day

section Growth

variable {environment : Environment} {platform : Platform} {initial : ConverterState}
  {chain : List ConfirmedTransaction} {processed : List String}
  {written writes : List (RecordKey × Item)}

theorem mem_puts_of_written (interleaved : environment.Interleaved processed written)
    (covers : ∀ sig, sig ∈ processed ↔ sig ∈ chain.map ConfirmedTransaction.signature)
    (write : RecordKey × Item) : write ∈ written ↔ write ∈
      ((chain.map ConfirmedTransaction.signature).map environment.puts).flatten := by
  rw [Interleaves.mem_iff interleaved, List.mem_flatten]
  simp only [List.mem_map (f := environment.puts), covers]

variable (reachable : Reachable platform initial)
  (publishes : Publishes environment (chainHistory platform initial chain))
  (interleaved : environment.Interleaved processed written)
  (covers : ∀ sig, sig ∈ processed ↔ sig ∈ chain.map ConfirmedTransaction.signature)

include publishes interleaved covers

/-- A trade record is written exactly if its trade is committed. -/
theorem written_trade_iff (write : RecordKey × Item) :
    write ∈ written ∧ write.2.isTrade = true ↔
      write ∈ (committedTrades environment (chainHistory platform initial chain)).map
        (CommittedTrade.record environment.toBase58) := by
  rw [← chainRecords_isTrade, ← filter_writes publishes, List.mem_filter, signatures_chainHistory,
    mem_puts_of_written interleaved covers]

include reachable

/-- Under the key of a committed trade nothing is written but its record. -/
theorem eq_item_of_written {trade : CommittedTrade}
    (committed : trade ∈ committedTrades environment (chainHistory platform initial chain))
    {write : RecordKey × Item} (member : write ∈ written)
    (same : write.1 = (trade.item environment.toBase58).key) :
    write.2 = trade.item environment.toBase58 := by
  have recorded := (written_trade_iff publishes interleaved covers _).mpr
    (List.mem_map_of_mem committed)
  have is_trade : write.2.isTrade = true := by
    rw [← recorded.2]
    exact keyed_isTrade.wanted_eq ((mem_puts_of_written interleaved covers write).mp member)
      ((mem_puts_of_written interleaved covers _).mp recorded.1) same
  have recorded_write := (written_trade_iff publishes interleaved covers write).mp
    ⟨member, is_trade⟩
  have distinct := nodup_trade_keys reachable publishes
  exact congrArg Prod.snd (List.inj_on_of_nodup_map distinct recorded_write
    (List.mem_map_of_mem committed) same)

/-- The trades in a table are those indexed so far. -/
theorem trade_stored_iff (sublist : writes.Sublist written) (item : Item) :
    (putAll ∅ writes).lookup item.key = some item ∧ item.isTrade = true ↔
      item ∈ (indexedTrades environment
        (committedTrades environment (chainHistory platform initial chain)) writes).map
          (CommittedTrade.item environment.toBase58) := by
  rw [lookup_putAll, Finmap.lookup_empty, Option.or_none, List.mem_map]
  constructor
  · rintro ⟨stored, is_trade⟩
    have member := mem_of_lastWrite stored
    obtain ⟨trade, committed, record_eq⟩ := List.mem_map.mp
      ((written_trade_iff publishes interleaved covers _).mp ⟨sublist.mem member, is_trade⟩)
    obtain ⟨key_eq, item_eq⟩ := Prod.mk.inj record_eq
    refine ⟨trade, List.mem_filter.mpr ⟨committed, ?_⟩, item_eq⟩
    rw [decide_eq_true_eq, key_eq]
    exact List.mem_map_of_mem (f := Prod.fst) member
  · rintro ⟨trade, indexed, rfl⟩
    obtain ⟨committed, key_written⟩ := List.mem_filter.mp indexed
    refine ⟨?_, by simp [CommittedTrade.item, Item.isTrade]⟩
    cases last_eq : lastWrite (trade.item environment.toBase58).key writes with
    | none =>
        rw [decide_eq_true_eq, List.mem_map] at key_written
        obtain ⟨write, member, same⟩ := key_written
        exact absurd same (lastWrite_eq_none.mp last_eq write member)
    | some last =>
        exact congrArg some (eq_item_of_written reachable publishes interleaved covers committed
          (sublist.mem (mem_of_lastWrite last_eq)) rfl)

omit interleaved covers in
private theorem nodup_indexed_items (writes : List (RecordKey × Item)) :
    ((indexedTrades environment
      (committedTrades environment (chainHistory platform initial chain)) writes).map
        (CommittedTrade.item environment.toBase58)).Nodup := by
  have distinct := nodup_trade_keys reachable publishes
  rw [List.map_map] at distinct
  rw [List.Nodup, List.pairwise_map] at distinct ⊢
  refine (distinct.filter _).imp fun {trade other} differ same => differ ?_
  exact congrArg Item.key same

omit reachable in
private theorem indexedTrades_written : indexedTrades environment
    (committedTrades environment (chainHistory platform initial chain)) written =
      committedTrades environment (chainHistory platform initial chain) := by
  rw [indexedTrades, List.filter_eq_self]
  intro trade committed
  have recorded := (written_trade_iff publishes interleaved covers _).mpr
    (List.mem_map_of_mem committed)
  exact decide_eq_true (List.mem_map_of_mem (f := Prod.fst) recorded.1)

end Growth

private theorem mem_indexedTrades_of_le {environment : Environment} {trades : List CommittedTrade}
    {written : List (RecordKey × Item)} {earlier later : ℕ} (le : earlier ≤ later)
    {trade : CommittedTrade}
    (member : trade ∈ indexedTrades environment trades (written.take earlier)) :
    trade ∈ indexedTrades environment trades (written.take later) := by
  obtain ⟨committed, key_written⟩ := List.mem_filter.mp member
  have prefix_map := (List.take_prefix_take_left le (l := written)).sublist.map Prod.fst
  rw [decide_eq_true_eq] at key_written
  exact List.mem_filter.mpr ⟨committed, decide_eq_true (prefix_map.mem key_written)⟩

theorem tradesOn_eq (toBase58 : BitVec 256 → String) (trades : List CommittedTrade) (day : ℤ) :
    tradesOn trades day =
      (trades.map (CommittedTrade.item toBase58)).countP fun item =>
        dayOf item.timestamp = day := by
  rw [List.countP_map]
  rfl

theorem countP_le_of_subset {α : Type} {part whole : List α} {counts : α → Bool}
    (distinct : part.Nodup) (subset : ∀ item ∈ part, counts item = true → item ∈ whole) :
    part.countP counts ≤ whole.countP counts := by
  rw [List.countP_eq_length_filter, List.countP_eq_length_filter]
  apply List.Subperm.length_le
  apply List.subperm_of_subset (distinct.filter _)
  intro item member
  obtain ⟨inside, counted⟩ := List.mem_filter.mp member
  exact List.mem_filter.mpr ⟨subset item inside counted, counted⟩

/-- The query of `handleBuysMetrics`. -/
def buysCommand (fromDate toDate : Date) : ReadCommand :=
  .query .solanaEvent tradeName (fromDate.toDay * 86400) (toDate.toDay * 86400 + 86399)

theorem selects_buysCommand {fromDate toDate : Date} (item : Item) :
    (buysCommand fromDate toDate).selects item = true ↔
      item.isTrade = true ∧ dayOf item.timestamp ∈ daysBetween fromDate.toDay toDate.toDay := by
  rw [← selects_requestFor, isTrade_eq, buysCommand, ReadCommand.selects, decide_eq_true_eq,
    decide_eq_true_eq]
  simp [ValidatedRequest.selects, requestFor]

private theorem map_timestamp_readBuy {items : List Item}
    (trades : ∀ item ∈ items, item.isTrade = true) :
    (items.filterMap readBuy).map BuyEventData.timestamp = items.map Item.timestamp := by
  induction items with
  | nil => rfl
  | cons item items ih =>
      obtain ⟨is_trade, others⟩ := List.forall_mem_cons.mp trades
      rw [List.map_cons, ← ih others]
      cases item with
      | solanaEvent => rfl
      | _ => contradiction

private theorem pagedBuysMetrics_eq {κ : Type} {client : Client κ} {fuel : ℕ}
    {fromDate toDate : Date}
    (from_four : FourDigits fromDate) (to_four : FourDigits toDate) {items : List Item}
    (read : readAll (client (buysCommand fromDate toDate)) fuel = .ok items)
    (selected : ∀ item ∈ items, (buysCommand fromDate toDate).selects item = true) :
    Paged.handleBuysMetrics client fuel (requestFor fromDate toDate) =
      .ok ⟨writtenDate fromDate, writtenDate toDate,
        (daysBetween fromDate.toDay toDate.toDay).map fun day =>
          ⟨bucketOf day, items.countP fun item => dayOf item.timestamp = day⟩⟩ := by
  have read_between : Paged.queryBuyEvents client fuel (requestFor fromDate toDate).fromTimestamp
      (requestFor fromDate toDate).toTimestamp = .ok items := read
  have answer_eq : Paged.buysResponse (items.filterMap readBuy) (requestFor fromDate toDate) =
      handleBuysMetrics (items.filterMap readBuy) (requestFor fromDate toDate) := by
    rw [handleBuysMetrics_eq_bind, queryEvents_requestFor, ok_bind, List.filter_eq_self.mpr]
    intro event member
    obtain ⟨item, inside, read_eq⟩ := List.mem_filterMap.mp member
    rw [timestamp_of_readBuy item event read_eq, selects_requestFor]
    exact ((selects_buysCommand item).mp (selected item inside)).2
  have timestamps_eq := map_timestamp_readBuy fun item inside =>
    ((selects_buysCommand item).mp (selected item inside)).1
  rw [Paged.handleBuysMetrics, read_between, ok_bind, answer_eq,
    handleBuysMetrics_eq from_four to_four, mapFailure]
  congr 2
  apply List.map_congr_left
  intro day _
  rw [length_eventsOn, timestamps_eq, List.countP_map]
  rfl

/-- While the indexer goes on writing, the buys of a day lie between the committed trades of the day
whose records had reached every copy of the index at the first request and those whose records were
written at the last one; once all of them are written and have reached every copy, they are the
committed trades of the day. -/
theorem buys_counted {platform : Platform} {initial : ConverterState}
    (reachable : Reachable platform initial) (chain : List ConfirmedTransaction)
    {environment : Environment}
    (publishes : Publishes environment (chainHistory platform initial chain))
    {processed : List String} {written : List (RecordKey × Item)}
    (interleaved : environment.Interleaved processed written)
    (covers : ∀ sig, sig ∈ processed ↔ sig ∈ chain.map ConfirmedTransaction.signature)
    {reached stage : ℕ → ℕ} (spreads : Monotone reached) (grows : Monotone stage) {κ : Type}
    [LinearOrder κ] {client : Client κ} {key : Item → κ} {keys : Finset κ} {rows : ℕ → List Item}
    {fromDate toDate : Date}
    (documented : Documented client (buysCommand fromDate toDate) key keys rows written reached
      stage)
    (from_four : FourDigits fromDate) (to_four : FourDigits toDate) {fuel : ℕ}
    (enough : keys.card + 1 ≤ fuel) {reading : Reading κ Item}
    (finished : readPages (client (buysCommand fromDate toDate)) fuel = .ok reading) :
    let trades := committedTrades environment (chainHistory platform initial chain)
    let indexed := fun count => indexedTrades environment trades (written.take count)
    ∃ buys : ℤ → ℕ,
      Paged.handleBuysMetrics client fuel (requestFor fromDate toDate) =
        .ok ⟨writtenDate fromDate, writtenDate toDate,
          (daysBetween fromDate.toDay toDate.toDay).map fun day => ⟨bucketOf day, buys day⟩⟩ ∧
      ∀ day ∈ daysBetween fromDate.toDay toDate.toDay,
        tradesOn (indexed (reached 0)) day ≤ buys day ∧
        buys day ≤ tradesOn (indexed (stage (reading.requests - 1))) day ∧
        (written.length ≤ reached 0 → buys day = tradesOn trades day) := by
  intro trades indexed
  obtain ⟨-, increasing, sound, complete⟩ :=
    readPages_covers documented.answers enough finished
  have stored (count : ℕ) (item : Item) :
      (putAll ∅ (written.take count)).lookup item.key = some item ∧ item.isTrade = true ↔
        item ∈ (indexed count).map (CommittedTrade.item environment.toBase58) :=
    trade_stored_iff reachable publishes interleaved covers (List.take_sublist _ _) item
  have kept {earlier later : ℕ} (le : earlier ≤ later) {item : Item}
      (member : item ∈ (indexed earlier).map (CommittedTrade.item environment.toBase58)) :
      item ∈ (indexed later).map (CommittedTrade.item environment.toBase58) := by
    obtain ⟨trade, indexed_then, rfl⟩ := List.mem_map.mp member
    exact List.mem_map_of_mem (mem_indexedTrades_of_le le indexed_then)
  have selected (item : Item) (member : item ∈ reading.items) :=
    (selects_buysCommand item).mp (sound item member).1
  have distinct : reading.items.Nodup := by
    refine increasing.imp fun {row later} before same => ?_
    subst same
    exact lt_irrefl _ before
  refine ⟨_, pagedBuysMetrics_eq from_four to_four (map_eq_ok.mpr ⟨reading, finished, rfl⟩)
    fun item member => (sound item member).1, fun day inside => ?_⟩
  have at_least : tradesOn (indexed (reached 0)) day ≤
      reading.items.countP fun item => dayOf item.timestamp = day := by
    rw [tradesOn_eq environment.toBase58]
    apply countP_le_of_subset (nodup_indexed_items reachable publishes _)
    intro item member of_day
    have is_trade := ((stored _ item).mpr member).2
    refine complete item ((selects_buysCommand item).mpr ⟨is_trade, ?_⟩) rfl fun time _ => ?_
    · rwa [of_decide_eq_true of_day]
    · obtain ⟨view, within, shown⟩ := documented.shows time
      have present := kept ((spreads (Nat.zero_le time)).trans (within item.key).1) member
      refine (shown item).mpr ⟨?_, ((stored _ item).mpr present).1⟩
      cases item with
      | solanaEvent => rfl
      | _ => contradiction
  have at_most : (reading.items.countP fun item => dayOf item.timestamp = day) ≤
      tradesOn (indexed (stage (reading.requests - 1))) day := by
    rw [tradesOn_eq environment.toBase58]
    apply countP_le_of_subset distinct
    intro item member _
    obtain ⟨-, -, time, before, present⟩ := sound item member
    obtain ⟨view, within, shown⟩ := documented.shows time
    have written_then := (stored _ item).mp
      ⟨((shown item).mp present).2, (selected item member).1⟩
    exact kept ((within item.key).2.trans (grows (Nat.le_sub_one_of_lt before))) written_then
  refine ⟨at_least, at_most, fun reached_all => le_antisymm ?_ ?_⟩
  · exact at_most.trans (List.filter_sublist.countP_le)
  · have all_indexed : indexed (reached 0) = trades := by
      change indexedTrades environment trades (written.take (reached 0)) = trades
      rw [List.take_of_length_le reached_all]
      exact indexedTrades_written publishes interleaved covers
    rwa [all_indexed] at at_least

/-- The records of a table behind some writes. -/
def tableRows (table : DDBTable) (writes : List (RecordKey × Item)) : List Item :=
  ((keptWrites writes).map Prod.snd).filter fun item => item.key.table = table

private theorem mem_tableRows {table : DDBTable} {writes : List (RecordKey × Item)}
    (keyed : ∀ write ∈ writes, write.1 = write.2.key) (item : Item) :
    item ∈ tableRows table writes ↔
      item.key.table = table ∧ (putAll ∅ writes).lookup item.key = some item := by
  rw [tableRows, List.mem_filter, decide_eq_true_eq, and_comm, lookup_putAll, Finmap.lookup_empty,
    Option.or_none, ← mem_keptWrites, List.mem_map]
  refine and_congr_right fun _ => ⟨?_, fun kept => ⟨_, kept, rfl⟩⟩
  rintro ⟨⟨recordKey, _⟩, kept, rfl⟩
  rwa [← show recordKey = _ from keyed _ (mem_of_lastWrite (mem_keptWrites.mp kept))]

namespace Local

/-- What the index shows of the chain of two trades: at the first request the second trade is not
written yet. -/
def growingRows (time : ℕ) : List Item :=
  tableRows .solanaEvent ((indexedOnce tradesChain).take (time + 1))

def slotOf : Item → ℕ
  | .solanaEvent _ _ _ _ slot _ => slot
  | _ => 0

/-- The index in pages of one record. -/
def growingClient : Client ℕ := fun command => serve slotOf command.selects growingRows 0

/-- The fourteenth of November 2023. -/
def tradeDate : Date where
  year := 2023
  month := 11
  day := 14
  one_le_month := by decide
  month_le_twelve := by decide
  one_le_day := by decide
  day_le := by decide

theorem growingRows_of_pos (time : ℕ) : growingRows (time + 1) = growingRows 1 := by
  have both : (indexedOnce tradesChain).length = 2 := by decide +kernel
  rw [growingRows, growingRows, List.take_of_length_le (by omega),
    List.take_of_length_le (by omega)]

/-- The second trade reaches the index late, the first one is there from the start. -/
theorem growingClient_documented : Documented growingClient (buysCommand tradeDate tradeDate)
    slotOf {200, 300} growingRows (indexedOnce tradesChain) (fun _ => 1) (· + 1) where
  answers := by
    have sorted : ∀ time, (growingRows time).Pairwise fun row later =>
        slotOf row < slotOf later := by
      rintro (_ | time)
      · decide +kernel
      · rw [growingRows_of_pos]
        decide +kernel
    have keyed : ∀ time, ∀ row ∈ growingRows time, slotOf row ∈ ({200, 300} : Finset ℕ) := by
      rintro (_ | time)
      · decide +kernel
      · rw [growingRows_of_pos]
        decide +kernel
    exact answers_serve sorted keyed 0
  shows time := by
    refine ⟨fun _ => time + 1, fun _ => ⟨Nat.le_add_left 1 time, le_refl _⟩, fun item => ?_⟩
    refine mem_tableRows (fun write member => ?_) item
    have member := (List.take_sublist _ _).mem member
    obtain ⟨run, inside, put⟩ := List.mem_flatten.mp member
    obtain ⟨sig, -, rfl⟩ := List.mem_map.mp inside
    obtain ⟨_, -, rfl⟩ := List.mem_map.mp put
    rfl

end Local

/-- While the second trade is written, the buys of the day are one or two. -/
theorem buys_counted_local : ∃ buys : ℤ → ℕ,
    Paged.handleBuysMetrics Local.growingClient 3 (requestFor Local.tradeDate Local.tradeDate) =
      .ok ⟨writtenDate Local.tradeDate, writtenDate Local.tradeDate,
        (daysBetween Local.tradeDate.toDay Local.tradeDate.toDay).map fun day =>
          ⟨bucketOf day, buys day⟩⟩ ∧
      1 ≤ buys Local.tradeDate.toDay ∧ buys Local.tradeDate.toDay ≤ 2 := by
  cases finished : readPages (Local.growingClient
      (buysCommand Local.tradeDate Local.tradeDate)) 3 with
  | error failure => exact absurd (failsWith_of_readPages finished) not_failsWith_serve
  | ok reading =>
      obtain ⟨buys, answered, counted⟩ := buys_counted OnChain.Local.initial_reachable
        Local.tradesChain (Local.publishes_node Local.tradesChain (by decide))
        (Local.interleaved_indexedOnce Local.tradesChain) (fun _ => Iff.rfl) monotone_const
        (fun _ _ le => Nat.succ_le_succ le) Local.growingClient_documented ⟨by decide, by decide⟩
        ⟨by decide, by decide⟩ (by decide) finished
      have inside : Local.tradeDate.toDay ∈
          daysBetween Local.tradeDate.toDay Local.tradeDate.toDay :=
        mem_daysBetween.mpr ⟨le_rfl, le_rfl⟩
      obtain ⟨at_least, at_most, -⟩ := counted _ inside
      refine ⟨buys, answered, le_trans ?_ at_least, at_most.trans ?_⟩
      · decide +kernel
      · refine List.filter_sublist.countP_le.trans ?_
        decide +kernel

end SolConversion.Indexer
