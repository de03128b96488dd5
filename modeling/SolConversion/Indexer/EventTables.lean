import Mathlib.Data.Rat.Defs
import SolConversion.Foundation.KeyedStore
import SolConversion.Indexer.Service

/-!
# The event tables

What `processTx` writes for one transaction.  An event goes to one of three tables by its name, and
the record it becomes is stored under the key of that table, where a later record with the same key
replaces it.
-/

namespace SolConversion.Indexer

open KeyedStore

/-- A JavaScript value in the data of an event. -/
inductive JsValue
  | undefined
  | null
  | boolean (value : Bool)
  | number (value : ℚ)
  | string (value : String)
  | array (items : List JsValue)
  | publicKey (bytes : BitVec 256)
  | bn (value : ℤ)
  | object (fields : List (String × JsValue))
  /-- Anything else, with what `String` makes of it. -/
  | other (text : String)

/-- `BN.toNumber`, which throws beyond 53 bits. -/
def toNumber? (value : ℤ) : Option ℚ :=
  if value.natAbs < 2 ^ 53 then some value else none

mutual

/-- `serializeForDynamo`, given what `PublicKey.toString` returns. -/
def serializeForDynamo (toBase58 : BitVec 256 → String) : JsValue → JsValue
  | .undefined => .undefined
  | .null => .null
  | .string value => .string value
  | .number value => .number value
  | .boolean value => .boolean value
  | .array items => .array (serializeItems toBase58 items)
  | .publicKey bytes => .string (toBase58 bytes)
  | .bn value =>
      match toNumber? value with
      | some number => .number number
      | none => .string (toString value)
  | .object fields => .object (serializeFields toBase58 fields)
  | .other text => .string text

/-- `obj.map(serializeForDynamo)` -/
def serializeItems (toBase58 : BitVec 256 → String) : List JsValue → List JsValue
  | [] => []
  | item :: items => serializeForDynamo toBase58 item :: serializeItems toBase58 items

/-- The properties of an object, one after the other. -/
def serializeFields (toBase58 : BitVec 256 → String) :
    List (String × JsValue) → List (String × JsValue)
  | [] => []
  | (key, value) :: fields =>
      (key, serializeForDynamo toBase58 value) :: serializeFields toBase58 fields

end

/-- A property of an object. -/
def JsValue.get : JsValue → String → JsValue
  | .object fields, key => (fields.lookup key).getD .undefined
  | _, _ => .undefined

/-- An event that the parser finds in the logs. -/
structure ParsedEvent where
  name : String
  data : List (String × JsValue)

/-- The `meta` of a transaction. -/
structure TransactionMeta where
  err : Option String
  logMessages : Option (List String)

/-- What `getTransaction` returns. -/
structure TransactionResponse where
  slot : Option ℕ
  blockTime : Option ℤ
  txMeta : Option TransactionMeta

/-- The connection and the parser that `processTx` uses. -/
structure Environment where
  getTransaction : String → Option TransactionResponse
  getBlockTime : ℕ → Option ℤ
  parseLogs : List String → List ParsedEvent
  /-- `PublicKey.toString` -/
  toBase58 : BitVec 256 → String

/-- `DDBTable`, the tables of events. -/
inductive DDBTable
  | solanaEvent
  | fillDequeue
  | denyListAction
  deriving DecidableEq

/-- The primary key of a record: the hash key and the range key of its table. -/
inductive RecordKey
  | solanaEvent (txHash eventId : String)
  | fillDequeue (txHash : String) (timestamp : ℤ)
  | denyListAction (txHash : String) (timestamp : ℤ)
  deriving DecidableEq

/-- A record, as the three write functions build it. -/
inductive Item
  | solanaEvent (txHash eventId eventType : String) (data : JsValue) (slot : ℕ) (timestamp : ℤ)
  | fillDequeue (txHash : String) (timestamp : ℤ) (actionId : String)
      (requester solDequeued token2zDequeued fillsConsumed : JsValue) (slot : ℕ)
  | denyListAction (txHash : String) (timestamp : ℤ) (actionId : String) (address : JsValue)
      (actionType : String) (actionBy updateCount : JsValue) (slot : ℕ)

/-- The event tables. -/
abbrev Database := Store RecordKey Item

/-- The table a key belongs to. -/
def RecordKey.table : RecordKey → DDBTable
  | .solanaEvent .. => .solanaEvent
  | .fillDequeue .. => .fillDequeue
  | .denyListAction .. => .denyListAction

/-- The transaction in a key. -/
def RecordKey.txHash : RecordKey → String
  | .solanaEvent txHash _ => txHash
  | .fillDequeue txHash _ => txHash
  | .denyListAction txHash _ => txHash

/-- The key of a record by the schema of its table. -/
def Item.key : Item → RecordKey
  | .solanaEvent txHash eventId _ _ _ _ => .solanaEvent txHash eventId
  | .fillDequeue txHash timestamp _ _ _ _ _ _ => .fillDequeue txHash timestamp
  | .denyListAction txHash timestamp _ _ _ _ _ _ => .denyListAction txHash timestamp

def Item.timestamp : Item → ℤ
  | .solanaEvent _ _ _ _ _ timestamp => timestamp
  | .fillDequeue _ timestamp .. => timestamp
  | .denyListAction _ timestamp .. => timestamp

/-- How many records a table holds. -/
def recordCount (database : Database) (table : DDBTable) : ℕ :=
  (database.keys.filter fun key => decide (key.table = table)).card

/-- `EventType.FILLS_DEQUEUED` -/
def fillsDequeuedName : String := "FillsDequeued"

/-- `EventType.DENY_LIST_ADDRESS_ADDED` -/
def denyListAddressAddedName : String := "DenyListAddressAdded"

/-- `EventType.DENY_LIST_ADDRESS_REMOVED` -/
def denyListAddressRemovedName : String := "DenyListAddressRemoved"

/-- The table the `switch` of `processTx` routes an event to. -/
def ParsedEvent.table (event : ParsedEvent) : DDBTable :=
  if event.name = fillsDequeuedName then .fillDequeue
  else if event.name = denyListAddressAddedName then .denyListAction
  else if event.name = denyListAddressRemovedName then .denyListAction
  else .solanaEvent

/-- `${slot}-${sig}-${e.name}` -/
def eventId (slot : ℕ) (sig name : String) : String :=
  toString slot ++ "-" ++ sig ++ "-" ++ name

/-- The record that the `switch` of `processTx` writes for one event. -/
def eventItem (toBase58 : BitVec 256 → String) (sig : String) (slot : ℕ) (timestamp : ℤ)
    (event : ParsedEvent) : Item :=
  let eventId := eventId slot sig event.name
  let safeData := serializeForDynamo toBase58 (.object event.data)
  if event.name = fillsDequeuedName then
    .fillDequeue sig timestamp eventId (safeData.get "requester") (safeData.get "sol_dequeued")
      (safeData.get "token_2z_dequeued") (safeData.get "fills_consumed") slot
  else if event.name = denyListAddressAddedName then
    .denyListAction sig timestamp eventId (safeData.get "address") "ADDED"
      (safeData.get "added_by") (safeData.get "update_count") slot
  else if event.name = denyListAddressRemovedName then
    .denyListAction sig timestamp eventId (safeData.get "address") "REMOVED"
      (safeData.get "removed_by") (safeData.get "update_count") slot
  else .solanaEvent sig eventId event.name safeData slot timestamp

namespace Environment

/-- The slot and the block time that go into the records of a transaction. -/
def slotAndTime (environment : Environment) (tx : TransactionResponse) : ℕ × ℤ :=
  let slot := tx.slot.getD 0
  let secs := tx.blockTime.or (environment.getBlockTime slot)
  (slot, secs.getD 0)

/-- `processTx`: the records one run writes, one after the other. -/
def processTx (environment : Environment) (sig : String) : List Item :=
  match environment.getTransaction sig with
  | none => []
  | some tx =>
      match tx.txMeta with
      | none => []
      | some txMeta =>
          let (slot, timestamp) := environment.slotAndTime tx
          let logMessages := txMeta.logMessages.getD []
          if txMeta.err.isSome then []
          else (environment.parseLogs logMessages).map
            (eventItem environment.toBase58 sig slot timestamp)

/-- The puts of one run, each under its key. -/
def puts (environment : Environment) (sig : String) : List (RecordKey × Item) :=
  (environment.processTx sig).map fun item => (item.key, item)

/-- One run after the other. -/
def processAll (environment : Environment) (database : Database) (sigs : List String) : Database :=
  sigs.foldl (fun current sig => putAll current (environment.puts sig)) database

/-- The transaction is confirmed and did not fail. -/
def Successful (environment : Environment) (sig : String) : Prop :=
  ∃ tx txMeta, environment.getTransaction sig = some tx ∧ tx.txMeta = some txMeta ∧
    txMeta.err = none

/-- The events in the logs of a transaction. -/
def emittedEvents (environment : Environment) (sig : String) : List ParsedEvent :=
  match (environment.getTransaction sig).bind TransactionResponse.txMeta with
  | none => []
  | some txMeta => environment.parseLogs (txMeta.logMessages.getD [])

/-- How many emitted events are routed to a table. -/
def emittedCount (environment : Environment) (sigs : List String) (table : DDBTable) : ℕ :=
  (sigs.flatMap environment.emittedEvents).countP fun event => decide (event.table = table)

/-- A transaction as the indexing of the ledger sees it. -/
def transaction (environment : Environment) (sig : String) : Transaction ParsedEvent where
  err := match (environment.getTransaction sig).bind TransactionResponse.txMeta with
    | none => true
    | some txMeta => txMeta.err.isSome
  events := environment.emittedEvents sig

end Environment

private theorem eventId_inj {slot : ℕ} {sig name name' : String} :
    eventId slot sig name = eventId slot sig name' ↔ name = name' := by
  unfold eventId
  rw [String.append_right_inj]

/-- The record of an event goes to the table of the event. -/
@[simp]
theorem table_eventItem (toBase58 : BitVec 256 → String) (sig : String) (slot : ℕ) (timestamp : ℤ)
    (event : ParsedEvent) :
    (eventItem toBase58 sig slot timestamp event).key.table = event.table := by
  unfold eventItem ParsedEvent.table
  split_ifs <;> rfl

@[simp]
theorem txHash_eventItem (toBase58 : BitVec 256 → String) (sig : String) (slot : ℕ)
    (timestamp : ℤ) (event : ParsedEvent) :
    (eventItem toBase58 sig slot timestamp event).key.txHash = sig := by
  unfold eventItem
  split_ifs <;> rfl

/-- Within a transaction only the events of the first table are told apart, by their names. -/
theorem key_eventItem_inj {toBase58 : BitVec 256 → String} {sig : String} {slot : ℕ}
    {timestamp : ℤ} {event later : ParsedEvent} :
    (eventItem toBase58 sig slot timestamp event).key =
        (eventItem toBase58 sig slot timestamp later).key ↔
      event.table = later.table ∧ (event.table = .solanaEvent → event.name = later.name) := by
  unfold eventItem ParsedEvent.table
  split_ifs <;> simp_all [Item.key, eventId_inj]

namespace Environment

variable {environment : Environment} {sig : String}

/-- `processTx` writes what the indexing of the ledger says it writes. -/
theorem processTx_eq_map (environment : Environment) (sig : String) :
    ∃ slot timestamp, environment.processTx sig =
      (environment.transaction sig).indexedEvents.map
        (eventItem environment.toBase58 sig slot timestamp) := by
  unfold processTx transaction emittedEvents Transaction.indexedEvents
  cases environment.getTransaction sig with
  | none => exact ⟨0, 0, rfl⟩
  | some tx =>
      obtain ⟨slot, blockTime, _ | txMeta⟩ := tx
      · exact ⟨0, 0, rfl⟩
      · refine ⟨slot.getD 0, (blockTime.or (environment.getBlockTime (slot.getD 0))).getD 0, ?_⟩
        by_cases failed : txMeta.err.isSome
        · simp [failed]
        · simp [failed, slotAndTime]

/-- Everything a successful transaction emitted is indexed. -/
theorem Successful.indexedEvents_eq (successful : environment.Successful sig) :
    (environment.transaction sig).indexedEvents = environment.emittedEvents sig := by
  obtain ⟨tx, txMeta, found, complete, succeeded⟩ := successful
  simp [Transaction.indexedEvents, transaction, found, complete, succeeded]

/-- The keys that a run writes carry its transaction. -/
theorem txHash_of_mem_puts {put : RecordKey × Item} (inside : put ∈ environment.puts sig) :
    put.1.txHash = sig := by
  obtain ⟨slot, timestamp, wrote⟩ := environment.processTx_eq_map sig
  rw [puts, wrote, List.map_map, List.mem_map] at inside
  obtain ⟨event, -, rfl⟩ := inside
  exact txHash_eventItem ..

theorem processAll_eq (environment : Environment) (database : Database) (sigs : List String) :
    environment.processAll database sigs =
      putAll database (sigs.map environment.puts).flatten := by
  induction sigs generalizing database with
  | nil => rfl
  | cons sig sigs ih =>
      rw [processAll, List.foldl_cons, ← processAll, ih, List.map_cons, List.flatten_cons, putAll,
        putAll, putAll, List.foldl_append]

end Environment

end SolConversion.Indexer
