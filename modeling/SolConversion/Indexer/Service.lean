import Mathlib.Data.List.Intervals
import Mathlib.Order.MinMax

/-!
# The indexer service

Live tailing and history recovery as steps of one system.  The subscription starts a run of
`processTx` for every program transaction it reports, recovery starts runs for the pages of
signatures it asks for, and the requests of all runs interleave.  Only the tables and the requests
in flight survive a crash.
-/

namespace SolConversion.Indexer

/-- A transaction of the program, named by its place in ledger order. -/
abbrev Signature := ℕ

/-- A confirmed transaction: whether it failed, and the events in its logs. -/
structure Transaction (Event : Type) where
  err : Bool
  events : List Event

variable {Event : Type}

/-- The events `processTx` writes; it returns early from a transaction that failed. -/
def Transaction.indexedEvents (transaction : Transaction Event) : List Event :=
  if transaction.err then [] else transaction.events

/-- `getSignaturesForAddress`: newest first, after `lastSig` and before `before`. -/
def getSignaturesForAddress (ledger : List (Transaction Event)) (before : Option Signature)
    (limit : ℕ) (lastSig : Signature) : List Signature :=
  (List.Ico (lastSig + 1) (before.getD ledger.length)).reverse.take limit

private theorem take_reverse_ico (lower upper limit : ℕ) :
    (List.Ico lower upper).reverse.take limit =
      (List.Ico (max lower (upper - limit)) upper).reverse := by
  rw [List.take_reverse, List.Ico.length, List.Ico, List.Ico, List.drop_range', Nat.mul_one]
  congr 2
  · omega
  · omega

/-- A page is the newest stretch of the signatures in question. -/
theorem getSignaturesForAddress_eq (ledger : List (Transaction Event)) (before : Option Signature)
    (limit : ℕ) (lastSig : Signature) :
    getSignaturesForAddress ledger before limit lastSig =
      (List.Ico (max (lastSig + 1) (before.getD ledger.length - limit))
        (before.getD ledger.length)).reverse :=
  take_reverse_ico ..

/-- A page reaches from its last signature up to where it was asked for. -/
theorem mem_page_of_oldest {ledger : List (Transaction Event)} {before : Option Signature}
    {limit : ℕ} {lastSig oldest : Signature}
    (last : (getSignaturesForAddress ledger before limit lastSig).getLast? = some oldest)
    {sig : Signature} (newer : oldest ≤ sig) (older : sig < before.getD ledger.length) :
    sig ∈ getSignaturesForAddress ledger before limit lastSig := by
  rw [getSignaturesForAddress_eq] at last ⊢
  rw [List.getLast?_reverse] at last
  rw [List.mem_reverse, List.Ico.mem]
  have oldest_eq : max (lastSig + 1) (before.getD ledger.length - limit) = oldest := by
    simp [List.Ico, List.head?_range'] at last
    exact last.2
  exact ⟨oldest_eq.le.trans newer, older⟩

theorem le_of_page_empty {ledger : List (Transaction Event)} {before : Option Signature}
    {limit : ℕ} (positive : 0 < limit) {lastSig : Signature}
    (last : (getSignaturesForAddress ledger before limit lastSig).getLast? = none)
    {sig : Signature} (newer : lastSig < sig) : before.getD ledger.length ≤ sig := by
  rw [getSignaturesForAddress_eq, List.getLast?_eq_none_iff, List.reverse_eq_nil_iff] at last
  rcases le_max_iff.mp (List.Ico.eq_empty_iff.mp last) with reached | beyond
  · exact reached.trans newer
  · refine not_lt.mp fun lt => ?_
    exact absurd beyond (not_le.mpr (Nat.sub_lt (Nat.zero_lt_of_lt lt) positive))

/-- The `limit` of a page. -/
def pageLimit : ℕ := 1000

/-- The function that awaits a run of `processTx`. -/
inductive Caller
  | tailRealTime
  | recoverHistory
  deriving DecidableEq

/-- What a run of `processTx` is waiting for. -/
inductive Progress (Event : Type)
  | getTransaction
  /-- The events left to write. -/
  | writing (events : List Event)

/-- A run of `processTx`. -/
structure Run (Event : Type) where
  caller : Caller
  sig : Signature
  progress : Progress Event

/-- Where `recoverHistory` stands. -/
inductive Recovery
  | getLastSignature
  /-- The next page is asked for. -/
  | paging (lastSig : Signature) (before : Option Signature)
  /-- `promisePool` works on a page; the items it has not started yet and the page's last one. -/
  | promisePool (lastSig before : Signature) (items : List Signature)
  /-- It has returned or thrown. -/
  | finished

/-- The log subscription: where it starts and what it reports next. -/
structure Subscription where
  since : Signature
  next : Signature

/-- The process. -/
structure Service (Event : Type) where
  /-- The length of the ledger when the process started. -/
  startedAt : ℕ
  /-- The subscription, once the node has accepted it. -/
  subscription : Option Subscription
  recovering : Bool
  recovery : Recovery
  /-- The length of the ledger when recovery got its first page. -/
  firstPageAt : Option ℕ
  runs : List (Run Event)

/-- `tailRealTime` and `recoverHistory` are called one after the other. -/
def Service.start (length : ℕ) : Service Event where
  startedAt := length
  subscription := none
  recovering := true
  recovery := .getLastSignature
  firstPageAt := none
  runs := []

/-- `endRecovery` -/
def Service.endRecovery (service : Service Event) : Service Event :=
  { service with recovering := false, recovery := .finished }

/-- `recoverHistory` after `getLastSignature`: without a cursor there is nothing to recover. -/
def Service.cursorRead (service : Service Event) : Option Signature → Service Event
  | none => service.endRecovery
  | some lastSig => { service with recovery := .paging lastSig none }

/-- `recoverHistory` after a page: an empty page is the last one. -/
def Service.pageReceived (service : Service Event) (lastSig : Signature)
    (page : List Signature) : Service Event :=
  match page.getLast? with
  | none => service.endRecovery
  | some before => { service with recovery := .promisePool lastSig before page }

/-- The runs that `promisePool` counts as executing. -/
def Service.executing (service : Service Event) : ℕ :=
  service.runs.countP (·.caller = .recoverHistory)

/-- What is saved when a run returns: the cursor of a live transaction, unless recovery goes on. -/
def Service.saves (service : Service Event) (run : Run Event) : List Signature :=
  match run.caller with
  | .tailRealTime => if service.recovering then [] else [run.sig]
  | .recoverHistory => []

/-- What is left of the process when a run throws: recovery stops without `endRecovery`. -/
def Service.threw (service : Service Event) : Caller → Service Event
  | .tailRealTime => service
  | .recoverHistory => { service with recovery := .finished }

/-- The ledger, the tables, the requests in flight, the process and what has happened so far. -/
structure System (Event : Type) where
  ledger : List (Transaction Event)
  /-- The stored cursor. -/
  lastProcessedSignature : Option Signature
  /-- Cursors sent to the table and not stored yet. -/
  saving : List Signature
  /-- The events written, each with its transaction. -/
  written : List (Signature × Event)
  service : Option (Service Event)
  /-- The transactions for which some run has written everything. -/
  processed : List Signature
  /-- The transactions some subscription has reported. -/
  notified : List Signature
  /-- Every cursor ever stored. -/
  stored : List Signature

/-- A new program, before the service first starts. -/
def System.initial : System Event where
  ledger := []
  lastProcessedSignature := none
  saving := []
  written := []
  service := none
  processed := []
  notified := []
  stored := []

/-- What can happen next. -/
inductive Action (Event : Type)
  /-- The program takes part in a further transaction. -/
  | land (transaction : Transaction Event)
  | start
  | crash
  /-- The node accepts the subscription. -/
  | subscribe
  | notify
  /-- `getTransaction` answers with the transaction. -/
  | fetched (run : Run Event)
  /-- `getTransaction` answers with `null`, and the run returns. -/
  | missing (run : Run Event)
  | wrote (run : Run Event) (event : Event)
  | returned (run : Run Event)
  | threw (run : Run Event)
  | stored (sig : Signature)
  | saveFailed (sig : Signature)
  | cursorRead
  /-- The node answers with at most `limit` signatures. -/
  | pageReceived (limit : ℕ)
  /-- A request of recovery itself fails. -/
  | recoveryFailed
  | poolStarted (sig : Signature)
  | poolFinished

/-- One step of the system under a concurrency limit. -/
inductive Step (concurrency : ℕ) : System Event → Action Event → System Event → Prop
  | land {system : System Event} (transaction : Transaction Event) :
      Step concurrency system (.land transaction)
        { system with ledger := system.ledger ++ [transaction] }
  | start {system : System Event} (down : system.service = none) :
      Step concurrency system .start
        { system with service := some (.start system.ledger.length) }
  | crash {system : System Event} : Step concurrency system .crash { system with service := none }
  | subscribe {system : System Event} {service : Service Event}
      (up : system.service = some service) (inactive : service.subscription = none) :
      Step concurrency system .subscribe
        { system with
          service := some { service with
            subscription := some ⟨system.ledger.length, system.ledger.length⟩ } }
  | notify {system : System Event} {service : Service Event} {subscription : Subscription}
      (up : system.service = some service) (active : service.subscription = some subscription)
      (landed : subscription.next < system.ledger.length) :
      Step concurrency system .notify
        { system with
          notified := subscription.next :: system.notified
          service := some { service with
            subscription := some { subscription with next := subscription.next + 1 }
            runs := ⟨.tailRealTime, subscription.next, .getTransaction⟩ :: service.runs } }
  | fetched {system : System Event} {service : Service Event} {front rest : List (Run Event)}
      {caller : Caller} {sig : Signature} {transaction : Transaction Event}
      (up : system.service = some service)
      (running : service.runs = front ++ ⟨caller, sig, .getTransaction⟩ :: rest)
      (found : system.ledger[sig]? = some transaction) :
      Step concurrency system (.fetched ⟨caller, sig, .getTransaction⟩)
        { system with
          service := some { service with
            runs := front ++ ⟨caller, sig, .writing transaction.indexedEvents⟩ :: rest } }
  | missing {system : System Event} {service : Service Event} {front rest : List (Run Event)}
      {caller : Caller} {sig : Signature}
      (up : system.service = some service)
      (running : service.runs = front ++ ⟨caller, sig, .getTransaction⟩ :: rest) :
      Step concurrency system (.missing ⟨caller, sig, .getTransaction⟩)
        { system with
          saving := service.saves ⟨caller, sig, .getTransaction⟩ ++ system.saving
          service := some { service with runs := front ++ rest } }
  | wrote {system : System Event} {service : Service Event} {front rest : List (Run Event)}
      {caller : Caller} {sig : Signature} {event : Event} {events : List Event}
      (up : system.service = some service)
      (running : service.runs = front ++ ⟨caller, sig, .writing (event :: events)⟩ :: rest) :
      Step concurrency system (.wrote ⟨caller, sig, .writing (event :: events)⟩ event)
        { system with
          written := (sig, event) :: system.written
          service := some { service with
            runs := front ++ ⟨caller, sig, .writing events⟩ :: rest } }
  | returned {system : System Event} {service : Service Event} {front rest : List (Run Event)}
      {caller : Caller} {sig : Signature}
      (up : system.service = some service)
      (running : service.runs = front ++ ⟨caller, sig, .writing []⟩ :: rest) :
      Step concurrency system (.returned ⟨caller, sig, .writing []⟩)
        { system with
          processed := sig :: system.processed
          saving := service.saves ⟨caller, sig, .writing []⟩ ++ system.saving
          service := some { service with runs := front ++ rest } }
  | threw {system : System Event} {service : Service Event} {front rest : List (Run Event)}
      {run : Run Event} (up : system.service = some service)
      (running : service.runs = front ++ run :: rest) :
      Step concurrency system (.threw run)
        { system with
          service := some { service.threw run.caller with runs := front ++ rest } }
  | stored {system : System Event} {front rest : List Signature} {sig : Signature}
      (sent : system.saving = front ++ sig :: rest) :
      Step concurrency system (.stored sig)
        { system with
          lastProcessedSignature := some sig
          saving := front ++ rest
          stored := sig :: system.stored }
  | saveFailed {system : System Event} {front rest : List Signature} {sig : Signature}
      (sent : system.saving = front ++ sig :: rest) :
      Step concurrency system (.saveFailed sig) { system with saving := front ++ rest }
  | cursorRead {system : System Event} {service : Service Event}
      (up : system.service = some service) (awaited : service.recovery = .getLastSignature) :
      Step concurrency system .cursorRead
        { system with service := some (service.cursorRead system.lastProcessedSignature) }
  | pageReceived {system : System Event} {service : Service Event} {lastSig : Signature}
      {before : Option Signature} {limit : ℕ} (up : system.service = some service)
      (awaited : service.recovery = .paging lastSig before)
      (limited : 0 < limit ∧ limit ≤ pageLimit) :
      Step concurrency system (.pageReceived limit)
        { system with
          service := some (Service.pageReceived
            { service with
              firstPageAt := some (service.firstPageAt.getD system.ledger.length) }
            lastSig (getSignaturesForAddress system.ledger before limit lastSig)) }
  | recoveryFailed {system : System Event} {service : Service Event}
      (up : system.service = some service)
      (awaited : service.recovery = .getLastSignature ∨
        ∃ lastSig before, service.recovery = .paging lastSig before) :
      Step concurrency system .recoveryFailed
        { system with service := some { service with recovery := .finished } }
  | poolStarted {system : System Event} {service : Service Event}
      {lastSig before sig : Signature} {items : List Signature}
      (up : system.service = some service)
      (pooling : service.recovery = .promisePool lastSig before (sig :: items))
      (room : service.executing < max 1 concurrency) :
      Step concurrency system (.poolStarted sig)
        { system with
          service := some { service with
            recovery := .promisePool lastSig before items
            runs := ⟨.recoverHistory, sig, .getTransaction⟩ :: service.runs } }
  | poolFinished {system : System Event} {service : Service Event}
      {lastSig before : Signature} (up : system.service = some service)
      (pooling : service.recovery = .promisePool lastSig before [])
      (settled : service.executing = 0) :
      Step concurrency system .poolFinished
        { system with
          service := some { service with recovery := .paging lastSig (some before) } }

end SolConversion.Indexer
