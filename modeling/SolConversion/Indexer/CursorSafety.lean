import SolConversion.Indexer.CursorInvariant

/-!
# Safety of the cursor

A stored cursor should never pass a transaction that the service answers for and has not processed,
so that a restart finds everything that is still to be done after it.  The cursor is safe in every
run whose steps are orderly, and a callback that overtakes another one makes it unsafe.  Once
everything to come is beyond an unprocessed transaction, the transaction is lost for good.
-/

namespace SolConversion.Indexer

open Relation (ReflTransGen)

variable {Event : Type} {concurrency : ℕ}

/-- Every event of a transaction is written. -/
def System.Indexed (system : System Event) (sig : Signature) : Prop :=
  ∃ transaction, system.ledger[sig]? = some transaction ∧
    ∀ event ∈ transaction.indexedEvents, (sig, event) ∈ system.written

/-- What a run has left to write is all that is missing. -/
def System.Accounts (system : System Event) (run : Run Event) : Prop :=
  match run.progress with
  | .getTransaction => True
  | .writing events => ∃ transaction, system.ledger[run.sig]? = some transaction ∧
      ∀ event ∈ transaction.indexedEvents, event ∈ events ∨ (run.sig, event) ∈ system.written

/-- Runs and processed transactions have written what they should. -/
structure System.Writes (system : System Event) : Prop where
  processed : ∀ sig ∈ system.processed, system.Indexed sig
  runs : ∀ service, system.service = some service → ∀ run ∈ service.runs, system.Accounts run

section Steps

variable {before after : System Event} {action : Action Event}

theorem written_of_step (step : Step concurrency before action after) {sig : Signature}
    {event : Event} (written : (sig, event) ∈ before.written) : (sig, event) ∈ after.written := by
  cases step with
  | wrote => exact List.mem_cons_of_mem _ written
  | _ => exact written

theorem found_of_step (step : Step concurrency before action after) {sig : Signature}
    {transaction : Transaction Event} (found : before.ledger[sig]? = some transaction) :
    after.ledger[sig]? = some transaction := by
  obtain ⟨landed, ledger_eq⟩ := ledger_prefix_of_step step
  obtain ⟨in_range, -⟩ := List.getElem?_eq_some_iff.mp found
  rw [← ledger_eq, List.getElem?_append_left in_range, found]

private theorem accounts_of_step (step : Step concurrency before action after) {run : Run Event}
    (accounts : before.Accounts run) : after.Accounts run := by
  cases run with
  | mk caller sig progress =>
      cases progress with
      | getTransaction => trivial
      | writing events =>
          obtain ⟨transaction, found, all⟩ := accounts
          exact ⟨transaction, found_of_step step found, fun event emitted =>
            (all event emitted).imp_right (written_of_step step)⟩

private theorem writes_of_step (writes : before.Writes)
    (step : Step concurrency before action after) :
    after.Writes := by
  have kept {service : Service Event} (up : before.service = some service) {run : Run Event}
      (running : run ∈ service.runs) : after.Accounts run :=
    accounts_of_step step (writes.runs service up run running)
  refine ⟨fun sig processed => ?_, fun service up run running => ?_⟩
  · have indexed (earlier : sig ∈ before.processed) : after.Indexed sig := by
      obtain ⟨transaction, found, all⟩ := writes.processed sig earlier
      exact ⟨transaction, found_of_step step found, fun event emitted =>
        written_of_step step (all event emitted)⟩
    cases step with
    | returned up running =>
        rcases List.mem_cons.mp processed with rfl | earlier
        · obtain ⟨transaction, found, all⟩ := writes.runs _ up _ (mem_of_split running)
          exact ⟨transaction, found, fun event emitted =>
            (all event emitted).resolve_left List.not_mem_nil⟩
        · exact indexed earlier
    | _ => exact indexed processed
  · cases step with
    | start =>
        cases up
        cases running
    | crash => cases up
    | land | stored | saveFailed => exact kept up running
    | subscribe up' | recoveryFailed up' | poolFinished up' =>
        cases up
        exact kept up' running
    | notify up' | poolStarted up' =>
        cases up
        rcases List.mem_cons.mp running with rfl | running
        · trivial
        · exact kept up' running
    | @fetched _ front rest caller sig transaction up' running' found =>
        cases up
        rcases eq_or_mem_of_split rfl running with rfl | running
        · exact ⟨transaction, found, fun event emitted => .inl emitted⟩
        · exact kept up' (mem_of_removed running' running)
    | @wrote _ front rest caller sig event events up' running' =>
        cases up
        rcases eq_or_mem_of_split rfl running with rfl | running
        · obtain ⟨transaction, found, all⟩ := writes.runs _ up' _ (mem_of_split running')
          refine ⟨transaction, found, fun other emitted => ?_⟩
          rcases all other emitted with waiting | written
          · rcases List.mem_cons.mp waiting with rfl | waiting
            · exact .inr List.mem_cons_self
            · exact .inl waiting
          · exact .inr (List.mem_cons_of_mem _ written)
        · exact kept up' (mem_of_removed running' running)
    | missing up' running' | returned up' running' =>
        cases up
        exact kept up' (mem_of_removed running' running)
    | threw up' running' =>
        obtain ⟨recovery, threw_eq⟩ := Service.threw_eq _ _
        rw [threw_eq] at up
        cases up
        exact kept up' (mem_of_removed running' running)
    | cursorRead up' =>
        obtain ⟨recovering, recovery, read_eq, -⟩ := Service.cursorRead_eq _ _
        rw [read_eq] at up
        cases up
        exact kept up' running
    | pageReceived up' =>
        obtain ⟨recovering, recovery, received_eq, -⟩ := Service.pageReceived_eq _ _ _
        rw [received_eq] at up
        cases up
        exact kept up' running

end Steps

/-- One step, whatever the action. -/
def Steps (concurrency : ℕ) (before after : System Event) : Prop :=
  ∃ action, Step concurrency before action after

/-- One step with an orderly action. -/
def OrderlySteps (concurrency : ℕ) (before after : System Event) : Prop :=
  ∃ action, Step concurrency before action after ∧ before.Orderly action

/-- The service answers for what it was notified of and for what lies after a stored cursor. -/
def System.Owed (system : System Event) (sig : Signature) : Prop :=
  sig ∈ system.notified ∨ ∃ earlier ∈ system.stored, earlier < sig

/-- Nothing the service answers for is unprocessed at or before the stored cursor. -/
def System.CursorSafe (system : System Event) : Prop :=
  ∀ cursor, system.lastProcessedSignature = some cursor → ∀ sig ≤ cursor, system.Owed sig →
    sig ∈ system.processed

/-- A process whose recovery is over has processed whatever was owed when it started. -/
def System.Restored (system : System Event) : Prop :=
  ∀ service, system.service = some service → service.recovering = false →
    ∀ sig < service.startedAt, system.Owed sig → sig ∈ system.processed

theorem System.Owed.consumer {system : System Event} {sig : Signature} (owed : system.Owed sig) :
    system.consumer.Owed sig := by
  rcases owed with notified | ⟨earlier, stored, lt⟩
  · exact .inl notified
  · exact .inr ⟨earlier, .inl stored, lt⟩

private theorem System.Sound.cursorSafe {system : System Event} (placed : system.Placed)
    (sound : system.Sound) : system.CursorSafe := by
  intro cursor cursor_eq sig le owed
  exact sound.safe cursor (.inl (placed.cursor cursor cursor_eq)) sig le owed.consumer

theorem System.Sound.restored {system : System Event} (placed : system.Placed)
    (sound : system.Sound) : system.Restored := by
  intro service up ended sig earlier owed
  have placed_service := placed.service service up
  refine sound.caughtUp service up ended sig ⟨fun subscription active => ?_, fun length paged => ?_⟩
    owed.consumer
  · exact earlier.trans_le (placed_service.subscribed subscription active).1
  · exact earlier.trans_le (placed_service.firstPage length paged).1

/-- In every orderly run the cursor is safe, a restart recovers everything owed before it, and what
is processed is written. -/
theorem cursor_safe_of_orderly {system : System Event}
    (run : ReflTransGen (OrderlySteps concurrency) .initial system) :
    system.CursorSafe ∧ system.Restored ∧ ∀ sig ∈ system.processed, system.Indexed sig := by
  have invariant : system.Placed ∧ system.Sound ∧ system.Writes := by
    induction run with
    | refl =>
        refine ⟨placed_initial, sound_initial, fun _ processed => ?_, fun _ up => ?_⟩
        · cases processed
        · cases up
    | tail _ orderly_step ih =>
        obtain ⟨placed, sound, writes⟩ := ih
        obtain ⟨action, step, orderly⟩ := orderly_step
        exact ⟨placed_of_step placed step, sound_of_step placed sound step orderly,
          writes_of_step writes step⟩
  obtain ⟨placed, sound, writes⟩ := invariant
  exact ⟨sound.cursorSafe placed, sound.restored placed, writes.processed⟩

namespace Local

/-- A transaction with one event. -/
def trade : Transaction String := ⟨false, ["TradeEvent"]⟩

/-- A process after recovery. -/
def tailing (length : ℕ) : Service String := (Service.start length).endRecovery

/-- A first process has indexed a trade and stored its cursor. -/
def indexed : System String :=
  { (System.initial : System String) with
    ledger := [trade]
    lastProcessedSignature := some 0
    written := [(0, "TradeEvent")]
    notified := [0]
    processed := [0]
    stored := [0]
    service := some { tailing 0 with subscription := some ⟨0, 1⟩ } }

/-- The process crashes, and the next one recovers a trade that landed in between. -/
def recovered : System String :=
  { indexed with
    ledger := [trade, trade]
    written := [(1, "TradeEvent"), (0, "TradeEvent")]
    processed := [1, 0]
    service := some { tailing 2 with
      subscription := some ⟨2, 2⟩
      firstPageAt := some 2 } }

private theorem indexed_orderly : ReflTransGen (OrderlySteps 8) .initial indexed := by
  refine .head ⟨_, .start rfl, trivial⟩ ?_
  refine .head ⟨_, .subscribe rfl rfl, ?_⟩ ?_
  · rintro _ ⟨⟩ _ ⟨⟩
  refine .head ⟨_, .cursorRead rfl rfl, ?_⟩ ?_
  · rintro _ ⟨⟩ -
    exact ⟨rfl, nofun⟩
  refine .head ⟨_, .land trade, trivial⟩ ?_
  refine .head ⟨_, .notify rfl rfl Nat.zero_lt_one, trivial⟩ ?_
  refine .head ⟨_, @Step.fetched _ _ _ _ [] _ _ _ _ rfl rfl rfl, trivial⟩ ?_
  refine .head ⟨_, @Step.wrote _ _ _ _ [] _ _ _ _ _ rfl rfl, trivial⟩ ?_
  refine .head ⟨_, @Step.returned _ _ _ _ [] _ _ _ rfl rfl, ?_⟩ ?_
  · rintro _ ⟨⟩ sig saved earlier lt
    rw [List.mem_singleton.mp saved] at lt
    exact absurd lt (Nat.not_lt_zero earlier)
  refine .head ⟨_, @Step.stored _ _ _ [] _ _ rfl, trivial⟩ ?_
  exact .refl

private theorem recovered_orderly : ReflTransGen (OrderlySteps 8) .initial recovered := by
  refine indexed_orderly.trans ?_
  refine .head ⟨_, .crash, trivial⟩ ?_
  refine .head ⟨_, .land trade, trivial⟩ ?_
  refine .head ⟨_, .start rfl, trivial⟩ ?_
  refine .head ⟨_, .subscribe rfl rfl, ?_⟩ ?_
  · rintro _ ⟨⟩ _ ⟨⟩
  refine .head ⟨_, .cursorRead rfl rfl, ?_⟩ ?_
  · rintro _ ⟨⟩ ⟨⟩
  refine .head ⟨_, @Step.pageReceived _ _ _ _ _ _ 1000 rfl rfl (by decide), trivial⟩ ?_
  refine .head ⟨_, .poolStarted rfl rfl (by decide), trivial⟩ ?_
  refine .head ⟨_, @Step.fetched _ _ _ _ [] _ _ _ _ rfl rfl rfl, trivial⟩ ?_
  refine .head ⟨_, @Step.wrote _ _ _ _ [] _ _ _ _ _ rfl rfl, trivial⟩ ?_
  refine .head ⟨_, @Step.returned _ _ _ _ [] _ _ _ rfl rfl, ?_⟩ ?_
  · rintro _ ⟨⟩ _ ⟨⟩
  refine .head ⟨_, .poolFinished rfl rfl rfl, trivial⟩ ?_
  refine .head ⟨_, @Step.pageReceived _ _ _ _ _ _ 1000 rfl rfl (by decide), trivial⟩ ?_
  exact .refl

end Local

/-- A trade that lands while the service is down is recovered from the cursor of an earlier one. -/
theorem cursor_safe_of_recovered : Local.recovered.CursorSafe ∧ Local.recovered.Restored ∧
    ∀ sig ∈ Local.recovered.processed, Local.recovered.Indexed sig :=
  cursor_safe_of_orderly Local.recovered_orderly

/-! ## Disorder -/

/-- A cursor in flight makes the service unsafe once stored, if it does not come before every
unprocessed transaction. -/
theorem unsafe_of_saving {system : System Event} {cursor sig : Signature}
    (sent : cursor ∈ system.saving) (le : sig ≤ cursor) (notified : sig ∈ system.notified)
    (unprocessed : sig ∉ system.processed) :
    ∃ next, Steps concurrency system next ∧ ¬next.CursorSafe := by
  obtain ⟨front, rest, saving_eq⟩ := List.append_of_mem sent
  refine ⟨_, ⟨_, .stored saving_eq⟩, fun safe => ?_⟩
  exact unprocessed (safe cursor rfl sig le (.inl notified))

section Callbacks

variable {before after : System Event} {service : Service Event} {run : Run Event}

/-- Whenever a callback returns out of order, storing its cursor makes the service unsafe. -/
theorem unsafe_of_overtaken (placed : before.Placed) (up : before.service = some service)
    (step : Step concurrency before (.returned run) after) {cursor earlier : Signature}
    (saves : cursor ∈ service.saves run) (lt : earlier < cursor)
    (notified : service.Notified earlier) (unprocessed : earlier ∉ before.processed) :
    ∃ next, Steps concurrency after next ∧ ¬next.CursorSafe := by
  cases step with
  | @returned _ front rest caller sig up' running =>
      obtain rfl := Option.some.inj (up.symm.trans up')
      refine unsafe_of_saving (List.mem_append_left _ saves) lt.le
        ((placed.service service up).delivered earlier notified) fun processed => ?_
      rcases List.mem_cons.mp processed with rfl | processed
      · rcases saves_cases service ⟨caller, earlier, .writing []⟩ with none | ⟨one, -⟩
        · rw [none] at saves
          cases saves
        · rw [one, List.mem_singleton] at saves
          exact absurd lt (saves ▸ lt_irrefl _)
      · exact unprocessed processed

/-- Whenever a callback returns early from an unprocessed transaction, storing its cursor makes the
service unsafe. -/
theorem unsafe_of_missing (placed : before.Placed) (up : before.service = some service)
    (step : Step concurrency before (.missing run) after) {cursor : Signature}
    (saves : cursor ∈ service.saves run) (unprocessed : cursor ∉ before.processed) :
    ∃ next, Steps concurrency after next ∧ ¬next.CursorSafe := by
  cases step with
  | @missing _ front rest caller sig up' running =>
      obtain rfl := Option.some.inj (up.symm.trans up')
      have placed_service := placed.service service up
      rcases saves_cases service ⟨caller, sig, .getTransaction⟩ with none | ⟨one, live, -⟩
      · rw [none] at saves
        cases saves
      · have notified := placed_service.live _ (mem_of_split running) live
        have cursor_eq : cursor = sig := by
          rw [one] at saves
          exact List.mem_singleton.mp saves
        exact unsafe_of_saving (List.mem_append_left _ saves) le_rfl
          (placed_service.delivered cursor (cursor_eq ▸ notified)) unprocessed

end Callbacks

/-- What recovery still asks for or starts comes after a transaction. -/
def Recovery.Beyond (sig : Signature) : Recovery → Prop
  | .getLastSignature | .finished => True
  | .paging lastSig _ => sig ≤ lastSig
  | .promisePool lastSig _ items => sig ≤ lastSig ∧ ∀ item ∈ items, sig < item

/-- What a process works on or will be told of comes after a transaction. -/
structure Service.Beyond (service : Service Event) (sig : Signature) : Prop where
  runs : ∀ run ∈ service.runs, sig < run.sig
  subscribed : ∀ subscription, service.subscription = some subscription → sig < subscription.next
  recovery : service.recovery.Beyond sig

/-- A reported transaction is not processed, and everything to come is beyond it. -/
structure System.Passed (system : System Event) (sig : Signature) : Prop where
  notified : sig ∈ system.notified
  unprocessed : sig ∉ system.processed
  landed : sig < system.ledger.length
  cursor : ∀ cursor, system.lastProcessedSignature = some cursor → sig ≤ cursor
  saving : ∀ cursor ∈ system.saving, sig ≤ cursor
  service : ∀ service, system.service = some service → service.Beyond sig

section Lost

variable {before after : System Event} {action : Action Event} {service : Service Event}
  {sig : Signature}

private theorem lt_of_mem_getSignaturesForAddress {ledger : List (Transaction Event)}
    {before : Option Signature} {limit : ℕ} {lastSig item : Signature}
    (inside : item ∈ getSignaturesForAddress ledger before limit lastSig) : lastSig < item :=
  (List.Ico.mem.mp (List.mem_reverse.mp (List.mem_of_mem_take inside))).1

theorem Service.Beyond.saves (beyond : service.Beyond sig) {run : Run Event}
    (running : run ∈ service.runs) : ∀ cursor ∈ service.saves run, sig ≤ cursor := by
  intro cursor saved
  rcases saves_cases service run with none | ⟨one, -⟩
  · rw [none] at saved
    cases saved
  · rw [one, List.mem_singleton] at saved
    exact saved ▸ (beyond.runs run running).le

theorem Service.Beyond.cursorRead (beyond : service.Beyond sig) {cursor : Option Signature}
    (later : ∀ lastSig, cursor = some lastSig → sig ≤ lastSig) :
    (service.cursorRead cursor).Beyond sig := by
  cases cursor with
  | none => exact ⟨beyond.runs, beyond.subscribed, trivial⟩
  | some lastSig => exact ⟨beyond.runs, beyond.subscribed, later lastSig rfl⟩

theorem Service.Beyond.pageReceived (beyond : service.Beyond sig) {lastSig : Signature}
    (later : sig ≤ lastSig) {page : List Signature} (newer : ∀ item ∈ page, lastSig < item) :
    (service.pageReceived lastSig page).Beyond sig := by
  unfold Service.pageReceived
  cases page.getLast? with
  | none => exact ⟨beyond.runs, beyond.subscribed, trivial⟩
  | some _ =>
      exact ⟨beyond.runs, beyond.subscribed, later, fun item inside =>
        later.trans_lt (newer item inside)⟩

/-- Nothing brings a transaction back once everything to come is beyond it. -/
theorem passed_of_step (passed : before.Passed sig) (step : Step concurrency before action after) :
    after.Passed sig := by
  have beyond := passed.service
  cases step with
  | land transaction =>
      refine { passed with landed := ?_ }
      rw [List.length_append]
      exact passed.landed.trans_le (Nat.le_add_right ..)
  | start =>
      refine { passed with service := ?_ }
      intro _ same
      cases same
      exact ⟨nofun, nofun, trivial⟩
  | crash => exact { passed with service := nofun }
  | subscribe up =>
      refine { passed with service := ?_ }
      intro _ same
      cases same
      refine { beyond _ up with subscribed := ?_ }
      intro _ same
      cases same
      exact passed.landed
  | notify up active =>
      have later := (beyond _ up).subscribed _ active
      refine { passed with notified := List.mem_cons_of_mem _ passed.notified, service := ?_ }
      intro _ same
      cases same
      refine ⟨List.forall_mem_cons.mpr ⟨later, (beyond _ up).runs⟩, ?_, (beyond _ up).recovery⟩
      intro _ same
      cases same
      exact later.trans (Nat.lt_succ_self _)
  | fetched up running | wrote up running =>
      refine { passed with service := ?_ }
      intro _ same
      cases same
      refine { beyond _ up with runs := fun run inside => ?_ }
      rcases eq_or_mem_of_split rfl inside with rfl | kept
      · have later := (beyond _ up).runs _ (mem_of_split running)
        exact later
      · exact (beyond _ up).runs run (mem_of_removed running kept)
  | missing up running =>
      refine { passed with saving := ?_, service := ?_ }
      · exact List.forall_mem_append.mpr
          ⟨(beyond _ up).saves (mem_of_split running), passed.saving⟩
      · intro _ same
        cases same
        exact { beyond _ up with
          runs := fun run kept => (beyond _ up).runs run (mem_of_removed running kept) }
  | returned up running =>
      have later := (beyond _ up).runs _ (mem_of_split running)
      refine { passed with unprocessed := ?_, saving := ?_, service := ?_ }
      · exact List.not_mem_cons_of_ne_of_not_mem later.ne passed.unprocessed
      · exact List.forall_mem_append.mpr
          ⟨(beyond _ up).saves (mem_of_split running), passed.saving⟩
      · intro _ same
        cases same
        exact { beyond _ up with
          runs := fun run kept => (beyond _ up).runs run (mem_of_removed running kept) }
  | @threw service _ _ run up running =>
      have stops : (service.threw run.caller).recovery.Beyond sig := by
        cases run.caller with
        | tailRealTime => exact (beyond _ up).recovery
        | recoverHistory => trivial
      obtain ⟨recovery, threw_eq⟩ := Service.threw_eq service run.caller
      refine { passed with service := ?_ }
      intro _ same
      cases same
      refine ⟨fun run kept => (beyond _ up).runs run (mem_of_removed running kept), ?_, stops⟩
      rw [threw_eq]
      exact (beyond _ up).subscribed
  | stored sent =>
      refine { passed with cursor := ?_, saving := ?_ }
      · intro _ same
        cases same
        exact passed.saving _ (mem_of_split sent)
      · exact fun cursor kept => passed.saving cursor (mem_of_removed sent kept)
  | saveFailed sent =>
      exact { passed with
        saving := fun cursor kept => passed.saving cursor (mem_of_removed sent kept) }
  | cursorRead up =>
      refine { passed with service := ?_ }
      intro _ same
      cases same
      exact (beyond _ up).cursorRead passed.cursor
  | pageReceived up awaited =>
      have later := (beyond _ up).recovery
      rw [awaited] at later
      refine { passed with service := ?_ }
      intro _ same
      cases same
      refine Service.Beyond.pageReceived ?_ later fun _ => lt_of_mem_getSignaturesForAddress
      exact ⟨(beyond _ up).runs, (beyond _ up).subscribed, (beyond _ up).recovery⟩
  | recoveryFailed up =>
      refine { passed with service := ?_ }
      intro _ same
      cases same
      exact { beyond _ up with recovery := trivial }
  | poolStarted up pooling =>
      have later := (beyond _ up).recovery
      rw [pooling] at later
      obtain ⟨item_later, items_later⟩ := List.forall_mem_cons.mp later.2
      refine { passed with service := ?_ }
      intro _ same
      cases same
      exact ⟨List.forall_mem_cons.mpr ⟨item_later, (beyond _ up).runs⟩, (beyond _ up).subscribed,
        later.1, items_later⟩
  | poolFinished up pooling =>
      have later := (beyond _ up).recovery
      rw [pooling] at later
      refine { passed with service := ?_ }
      intro _ same
      cases same
      exact { beyond _ up with recovery := later.1 }

/-- A transaction that everything to come is beyond is lost: whatever happens, it is not processed,
and no stored cursor is safe. -/
theorem lost_of_passed (passed : before.Passed sig)
    (run : ReflTransGen (Steps concurrency) before after) :
    sig ∉ after.processed ∧
      (after.lastProcessedSignature ≠ none → ¬after.CursorSafe) := by
  have still : after.Passed sig := by
    induction run with
    | refl => exact passed
    | tail _ step ih =>
        obtain ⟨action, step⟩ := step
        exact passed_of_step ih step
  refine ⟨still.unprocessed, fun stored safe => still.unprocessed ?_⟩
  obtain ⟨cursor, cursor_eq⟩ := Option.ne_none_iff_exists'.mp stored
  exact safe cursor cursor_eq sig (still.cursor cursor cursor_eq) (.inl still.notified)

/-- A process that starts with no cursor stored or in flight loses whatever earlier processes were
told of and have not processed. -/
theorem lost_of_abandoned (placed : before.Placed) (fresh : before.lastProcessedSignature = none)
    (nothing_saving : before.saving = []) {started : System Event}
    (step : Step concurrency before .start started) (notified : sig ∈ before.notified)
    (unprocessed : sig ∉ before.processed)
    (run : ReflTransGen (Steps concurrency) started after) :
    sig ∉ after.processed ∧
      (after.lastProcessedSignature ≠ none → ¬after.CursorSafe) := by
  refine lost_of_passed ?_ run
  cases step with
  | start down =>
      refine ⟨notified, unprocessed, placed.notified_lt sig notified, ?_, ?_, ?_⟩
      · rw [fresh]
        nofun
      · rw [nothing_saving]
        nofun
      · intro _ same
        cases same
        exact ⟨nofun, nofun, trivial⟩

end Lost

namespace Local

/-- A first process is notified of two trades. -/
def notified : System String :=
  { (System.initial : System String) with
    ledger := [trade, trade]
    notified := [1, 0]
    service := some { tailing 0 with
      subscription := some ⟨0, 2⟩
      runs := [⟨.tailRealTime, 1, .getTransaction⟩, ⟨.tailRealTime, 0, .getTransaction⟩] } }

/-- The second trade is indexed and its cursor stored. -/
def overtaken : System String :=
  { notified with
    lastProcessedSignature := some 1
    written := [(1, "TradeEvent")]
    processed := [1]
    stored := [1]
    service := some { tailing 0 with
      subscription := some ⟨0, 2⟩
      runs := [⟨.tailRealTime, 0, .getTransaction⟩] } }

/-- The process crashes, and the next one finds nothing to recover. -/
def lost : System String :=
  { overtaken with
    service := some { tailing 2 with
      subscription := some ⟨2, 2⟩
      firstPageAt := some 2 } }

private theorem notified_reachable : ReflTransGen (Steps 8) .initial notified := by
  refine .head ⟨_, .start rfl⟩ ?_
  refine .head ⟨_, .subscribe rfl rfl⟩ ?_
  refine .head ⟨_, .cursorRead rfl rfl⟩ ?_
  refine .head ⟨_, .land trade⟩ ?_
  refine .head ⟨_, .land trade⟩ ?_
  refine .head ⟨_, .notify rfl rfl Nat.zero_lt_two⟩ ?_
  refine .head ⟨_, .notify rfl rfl Nat.one_lt_two⟩ ?_
  exact .refl

private theorem overtaken_reachable : ReflTransGen (Steps 8) .initial overtaken := by
  refine notified_reachable.trans ?_
  refine .head ⟨_, @Step.fetched _ _ _ _ [] _ _ _ _ rfl rfl rfl⟩ ?_
  refine .head ⟨_, @Step.wrote _ _ _ _ [] _ _ _ _ _ rfl rfl⟩ ?_
  refine .head ⟨_, @Step.returned _ _ _ _ [] _ _ _ rfl rfl⟩ ?_
  refine .head ⟨_, @Step.stored _ _ _ [] _ _ rfl⟩ ?_
  exact .refl

private theorem lost_reachable : ReflTransGen (Steps 8) .initial lost := by
  refine overtaken_reachable.trans ?_
  refine .head ⟨_, .crash⟩ ?_
  refine .head ⟨_, .start rfl⟩ ?_
  refine .head ⟨_, .cursorRead rfl rfl⟩ ?_
  refine .head ⟨_, @Step.pageReceived _ _ _ _ _ _ 1000 rfl rfl (by decide)⟩ ?_
  refine .head ⟨_, .subscribe rfl rfl⟩ ?_
  exact .refl

end Local

/-- Two trades are reported, the second one is indexed and saved first, and the process crashes:
after the restart recovery has ended, nothing is at work and the first trade is never indexed. -/
theorem overtaken_trade_is_lost : ∃ system : System String,
    ReflTransGen (Steps 8) .initial system ∧ system.lastProcessedSignature = some 1 ∧
      0 ∈ system.notified ∧ 0 ∉ system.processed ∧
      (∃ service, system.service = some service ∧ service.recovering = false ∧
        service.runs = []) ∧
      ¬system.CursorSafe ∧
      ∀ later, ReflTransGen (Steps 8) system later → 0 ∉ later.processed := by
  have reported : 0 ∈ Local.lost.notified := by decide
  have unprocessed : 0 ∉ Local.lost.processed := by decide
  have passed : Local.lost.Passed 0 := by
    refine ⟨reported, unprocessed, by decide, fun _ _ => Nat.zero_le _, fun _ _ => Nat.zero_le _,
      ?_⟩
    intro _ same
    cases same
    refine ⟨nofun, ?_, trivial⟩
    intro _ same
    cases same
    exact Nat.zero_lt_two
  refine ⟨Local.lost, Local.lost_reachable, rfl, reported, unprocessed, ⟨_, rfl, rfl, rfl⟩, ?_, ?_⟩
  · exact (@lost_of_passed _ 8 _ _ _ passed .refl).2 nofun
  · exact fun later run => (lost_of_passed passed run).1

end SolConversion.Indexer
