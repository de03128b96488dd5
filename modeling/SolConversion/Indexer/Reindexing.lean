import SolConversion.Indexer.EventTables

/-!
# Indexing the same transactions more than once

Recovery and live tailing may both run `processTx` for a transaction, and the puts of all runs
interleave.  What the tables end up with depends on the set of transactions alone.  Each event has
a record of its own as long as the keys of its transaction tell its events apart.
-/

namespace SolConversion.Indexer

open KeyedStore

namespace Environment

variable {environment : Environment}

/-- The puts of some runs, in an order that keeps the order within each run. -/
def Interleaved (environment : Environment) (processed : List String)
    (written : List (RecordKey × Item)) : Prop :=
  Interleaves (processed.map environment.puts) written

/-- Only runs of one transaction write the same key, and they write the same. -/
theorem lastWrite_puts_eq {key : RecordKey} {sig sig' : String} {item item' : Item}
    (wrote : item ∈ lastWrite key (environment.puts sig))
    (wrote' : item' ∈ lastWrite key (environment.puts sig')) : item = item' := by
  have sig_eq {sig : String} {item : Item}
      (wrote : item ∈ lastWrite key (environment.puts sig)) : key.txHash = sig := by
    by_contra other
    have silent : lastWrite key (environment.puts sig) = none := by
      refine lastWrite_eq_none.mpr fun put inside same => other ?_
      rw [← same, txHash_of_mem_puts inside]
    rw [silent] at wrote
    contradiction
  have sigs_eq : sig = sig' := (sig_eq wrote).symm.trans (sig_eq wrote')
  subst sigs_eq
  exact Option.mem_unique wrote wrote'

/-- Runs over the same set of transactions leave the same tables. -/
theorem Interleaved.putAll_eq {processed processed' : List String}
    {written written' : List (RecordKey × Item)} (database : Database)
    (interleaved : environment.Interleaved processed written)
    (interleaved' : environment.Interleaved processed' written')
    (same : ∀ sig, sig ∈ processed ↔ sig ∈ processed') :
    putAll database written = putAll database written' := by
  refine Interleaves.putAll_eq database interleaved interleaved' (fun run => ?_) ?_
  · simp only [List.mem_map, same]
  · intro key run inside other inside' value wrote last wrote'
    obtain ⟨sig, -, rfl⟩ := List.mem_map.mp inside
    obtain ⟨sig', -, rfl⟩ := List.mem_map.mp inside'
    exact lastWrite_puts_eq wrote wrote'

/-- Runs that interleave leave what the same runs leave one after the other. -/
theorem Interleaved.putAll_eq_processAll {processed order : List String}
    {written : List (RecordKey × Item)} (database : Database)
    (interleaved : environment.Interleaved processed written)
    (same : ∀ sig, sig ∈ processed ↔ sig ∈ order) :
    putAll database written = environment.processAll database order := by
  rw [processAll_eq]
  exact interleaved.putAll_eq database (Interleaves.flatten _) same

/-- However often transactions are processed and however the writes interleave, the tables depend
on the set of transactions, and processing each of them once in any order gives the same. -/
theorem reindexing_converges (environment : Environment) (database : Database)
    {processed : List String} {written : List (RecordKey × Item)}
    (interleaved : environment.Interleaved processed written) :
    (∀ processed' written', environment.Interleaved processed' written' →
        (∀ sig, sig ∈ processed ↔ sig ∈ processed') →
        putAll database written = putAll database written') ∧
      ∀ order : List String, order.Nodup → (∀ sig, sig ∈ processed ↔ sig ∈ order) →
        putAll database written = environment.processAll database order :=
  ⟨fun _ _ interleaved' same => interleaved.putAll_eq database interleaved' same,
    fun _ _ same => interleaved.putAll_eq_processAll database same⟩

/-- A `FillsDequeued` event of the program. -/
def fillsDequeued (solDequeued token2zDequeued fillsConsumed : ℤ) : ParsedEvent where
  name := fillsDequeuedName
  data := [("requester", .publicKey 7), ("sol_dequeued", .bn solDequeued),
    ("token_2z_dequeued", .bn token2zDequeued), ("fills_consumed", .bn fillsConsumed)]

/-- A `DenyListAddressAdded` event of the program. -/
def denyListAddressAdded (updateCount : ℤ) : ParsedEvent where
  name := denyListAddressAddedName
  data := [("address", .publicKey 9), ("added_by", .publicKey 5), ("timestamp", .bn 1700000000),
    ("update_count", .bn updateCount)]

/-- A ledger on which every transaction succeeds with the same events. -/
def ledgerOf (events : List ParsedEvent) : Environment where
  getTransaction _ := some
    { slot := some 100
      blockTime := some 1700000000
      txMeta := some { err := none, logMessages := some [] } }
  getBlockTime _ := some 1700000000
  parseLogs _ := events
  toBase58 _ := "11111111111111111111111111111111"

theorem successful_ledgerOf (events : List ParsedEvent) (sig : String) :
    (ledgerOf events).Successful sig := ⟨_, _, rfl, rfl, rfl⟩

/-- A ledger whose transactions dequeue twice and deny an address. -/
def dequeuesTwice : Environment :=
  ledgerOf [fillsDequeued 5 1 1, denyListAddressAdded 1, fillsDequeued 8 2 1]

/-- The put of an event of a transaction on it. -/
def putOf (sig : String) (event : ParsedEvent) : RecordKey × Item :=
  let item := eventItem dequeuesTwice.toBase58 sig 100 1700000000 event
  (item.key, item)

/-- Recovery indexes two transactions while live tailing indexes the first of them too. -/
def overlappingPuts : List (RecordKey × Item) :=
  [putOf "first" (fillsDequeued 5 1 1), putOf "second" (fillsDequeued 5 1 1),
    putOf "first" (denyListAddressAdded 1), putOf "first" (fillsDequeued 5 1 1),
    putOf "first" (fillsDequeued 8 2 1), putOf "second" (denyListAddressAdded 1),
    putOf "first" (denyListAddressAdded 1), putOf "second" (fillsDequeued 8 2 1),
    putOf "first" (fillsDequeued 8 2 1)]

theorem puts_dequeuesTwice (sig : String) :
    dequeuesTwice.puts sig =
      [putOf sig (fillsDequeued 5 1 1), putOf sig (denyListAddressAdded 1),
        putOf sig (fillsDequeued 8 2 1)] :=
  rfl

theorem interleaved_overlappingPuts :
    dequeuesTwice.Interleaved ["first", "second", "first"] overlappingPuts := by
  rw [Interleaved, List.map_cons, List.map_cons, List.map_singleton, puts_dequeuesTwice,
    puts_dequeuesTwice]
  refine @Interleaves.step _ [] [_, _] _ _ _ (@Interleaves.step _ [_] [_] _ _ _ ?_)
  refine @Interleaves.step _ [] [_, _] _ _ _ (@Interleaves.step _ [_, _] [] _ _ _ ?_)
  refine @Interleaves.step _ [] [_, _] _ _ _ (@Interleaves.step _ [_] [_] _ _ _ ?_)
  refine @Interleaves.step _ [_, _] [] _ _ _ (@Interleaves.step _ [_] [_] _ _ _ ?_)
  exact @Interleaves.step _ [_, _] [] _ _ _ (.done (by decide))

/-- The puts of three runs leave what the transactions leave one after the other, whichever comes
first. -/
theorem reindexing_converges_twice :
    dequeuesTwice.Interleaved ["first", "second", "first"] overlappingPuts ∧
      putAll ∅ overlappingPuts = dequeuesTwice.processAll ∅ ["first", "second"] ∧
      putAll ∅ overlappingPuts = dequeuesTwice.processAll ∅ ["second", "first"] ∧
      recordCount (putAll ∅ overlappingPuts) .fillDequeue = 2 := by
  have converges := (reindexing_converges _ ∅ interleaved_overlappingPuts).2
  refine ⟨interleaved_overlappingPuts, converges ["first", "second"] (by decide) fun sig => ?_,
    converges ["second", "first"] (by decide) fun sig => ?_, by decide⟩
  · simp only [List.mem_cons, List.not_mem_nil, or_false]
    tauto
  · simp only [List.mem_cons, List.not_mem_nil, or_false]
    tauto

/-- The keys of a transaction tell its events apart: no two go to a table that is keyed by the
block time, and no two of the others have the same name. -/
def Distinguished (events : List ParsedEvent) : Prop :=
  events.Pairwise fun event later =>
    event.table = later.table → event.table = .solanaEvent ∧ event.name ≠ later.name

/-- The keys that a run writes. -/
def keys (environment : Environment) (sig : String) : List RecordKey :=
  (environment.puts sig).map Prod.fst

theorem txHash_of_mem_keys {sig : String} {key : RecordKey} (inside : key ∈ environment.keys sig) :
    key.txHash = sig := by
  obtain ⟨put, wrote, rfl⟩ := List.mem_map.mp inside
  exact txHash_of_mem_puts wrote

theorem exists_keys_eq {sig : String} (successful : environment.Successful sig) :
    ∃ slot timestamp, environment.keys sig = (environment.emittedEvents sig).map
      fun event => (eventItem environment.toBase58 sig slot timestamp event).key := by
  obtain ⟨slot, timestamp, wrote⟩ := environment.processTx_eq_map sig
  refine ⟨slot, timestamp, ?_⟩
  rw [keys, puts, wrote, successful.indexedEvents_eq, List.map_map, List.map_map]
  rfl

/-- A run writes no key twice if and only if its events are told apart. -/
theorem nodup_keys_iff {sig : String} (successful : environment.Successful sig) :
    (environment.keys sig).Nodup ↔ Distinguished (environment.emittedEvents sig) := by
  obtain ⟨slot, timestamp, keys_eq⟩ := exists_keys_eq successful
  rw [keys_eq, List.Nodup, List.pairwise_map]
  refine List.Pairwise.iff_of_mem fun {event later} _ _ => ?_
  rw [Ne, key_eventItem_inj]
  constructor
  · intro distinct sameTable
    by_contra alike
    rw [not_and_not_right] at alike
    exact distinct ⟨sameTable, alike⟩
  · rintro apart ⟨sameTable, sameName⟩
    obtain ⟨first, differ⟩ := apart sameTable
    exact differ (sameName first)

private theorem nodup_flatMap_keys_iff {sigs : List String} (distinct : sigs.Nodup) :
    (sigs.flatMap environment.keys).Nodup ↔ ∀ sig ∈ sigs, (environment.keys sig).Nodup := by
  rw [List.nodup_flatMap]
  refine ⟨And.left, fun apart => ⟨apart, distinct.imp fun differ => ?_⟩⟩
  intro key inside inside'
  exact differ ((txHash_of_mem_keys inside).symm.trans (txHash_of_mem_keys inside'))

private theorem emittedCount_eq {sigs : List String}
    (successful : ∀ sig ∈ sigs, environment.Successful sig) (table : DDBTable) :
    environment.emittedCount sigs table =
      ((sigs.flatMap environment.keys).filter fun key => decide (key.table = table)).length := by
  rw [emittedCount, ← List.countP_eq_length_filter]
  induction sigs with
  | nil => rfl
  | cons sig sigs ih =>
      obtain ⟨successful, others⟩ := List.forall_mem_cons.mp successful
      obtain ⟨slot, timestamp, keys_eq⟩ := exists_keys_eq successful
      rw [List.flatMap_cons, List.flatMap_cons, List.countP_append, List.countP_append, ih others,
        keys_eq, List.countP_map]
      congr 1
      refine List.countP_congr fun event _ => ?_
      rw [Function.comp_apply, table_eventItem]

/-- No key is written twice if none is written twice to any table. -/
theorem nodup_of_tables {keys : List RecordKey}
    (apart : ∀ table, (keys.filter fun key => decide (key.table = table)).Nodup) :
    keys.Nodup := by
  refine List.nodup_iff_sublist.mpr fun key twice => ?_
  have kept := twice.filter fun other => decide (other.table = key.table)
  rw [List.filter_eq_self.mpr (by simp)] at kept
  exact List.nodup_iff_sublist.mp (apart key.table) key kept

/-- Each emitted event has a record of its own if and only if within every transaction at most one
event goes to each table keyed by the block time and the others all have different names. -/
theorem every_event_has_record_iff (environment : Environment) {sigs : List String}
    {written : List (RecordKey × Item)} (distinct : sigs.Nodup)
    (successful : ∀ sig ∈ sigs, environment.Successful sig)
    (interleaved : environment.Interleaved sigs written) :
    (∀ table, recordCount (putAll ∅ written) table = environment.emittedCount sigs table) ↔
      ∀ sig ∈ sigs, Distinguished (environment.emittedEvents sig) := by
  have keys_eq : ((sigs.map environment.puts).flatten).map Prod.fst =
      sigs.flatMap environment.keys := by
    rw [List.map_flatten, List.map_map]
    rfl
  have tables (table : DDBTable) :
      recordCount (putAll ∅ written) table = environment.emittedCount sigs table ↔
        ((sigs.flatMap environment.keys).filter fun key => decide (key.table = table)).Nodup := by
    rw [interleaved.putAll_eq_processAll ∅ fun _ => Iff.rfl, processAll_eq,
      emittedCount_eq successful, ← keys_eq]
    exact card_filter_keys_putAll _ _
  calc (∀ table, recordCount (putAll ∅ written) table = environment.emittedCount sigs table)
    _ ↔ (sigs.flatMap environment.keys).Nodup :=
        ⟨fun counts => nodup_of_tables fun table => (tables table).mp (counts table),
          fun apart table => (tables table).mpr (apart.filter _)⟩
    _ ↔ ∀ sig ∈ sigs, (environment.keys sig).Nodup := nodup_flatMap_keys_iff distinct
    _ ↔ ∀ sig ∈ sigs, Distinguished (environment.emittedEvents sig) :=
        forall₂_congr fun sig inside => nodup_keys_iff (successful sig inside)

/-- A ledger whose transactions emit one event for each of two tables. -/
def mixedLedger : Environment := ledgerOf [fillsDequeued 5 1 1, denyListAddressAdded 1]

/-- Two transactions leave two records in either table. -/
theorem every_event_has_record_mixed :
    recordCount (putAll ∅ (["first", "second"].map mixedLedger.puts).flatten) .fillDequeue =
        mixedLedger.emittedCount ["first", "second"] .fillDequeue ∧
      recordCount (putAll ∅ (["first", "second"].map mixedLedger.puts).flatten) .denyListAction =
        mixedLedger.emittedCount ["first", "second"] .denyListAction := by
  have apart : ∀ sig ∈ ["first", "second"], Distinguished (mixedLedger.emittedEvents sig) := by
    intro sig _
    refine List.pairwise_pair.mpr fun sameTable => ?_
    exact absurd sameTable (by decide)
  have counts := (every_event_has_record_iff mixedLedger (by decide)
    (fun _ _ => successful_ledgerOf _ _) (Interleaves.flatten _)).mpr apart
  exact ⟨counts .fillDequeue, counts .denyListAction⟩

/-- Two `dequeue_fills` instructions in one transaction leave the record of the second alone. -/
theorem second_dequeue_overwrites_first :
    (ledgerOf [fillsDequeued 5 1 1, fillsDequeued 8 2 1]).Successful "sig" ∧
      (ledgerOf [fillsDequeued 5 1 1, fillsDequeued 8 2 1]).Interleaved ["sig"]
        ((ledgerOf [fillsDequeued 5 1 1, fillsDequeued 8 2 1]).puts "sig") ∧
      recordCount (putAll ∅ ((ledgerOf [fillsDequeued 5 1 1, fillsDequeued 8 2 1]).puts "sig"))
        .fillDequeue = 1 ∧
      (ledgerOf [fillsDequeued 5 1 1, fillsDequeued 8 2 1]).emittedCount ["sig"]
        .fillDequeue = 2 := by
  refine ⟨successful_ledgerOf _ _, ?_, by decide, by decide⟩
  exact Interleaves.flatten [_]

end Environment

end SolConversion.Indexer
