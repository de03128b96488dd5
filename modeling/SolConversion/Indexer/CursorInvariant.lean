import SolConversion.Indexer.Ledger

/-!
# What keeps the cursor safe

Live tailing answers for what its subscription reports, and recovery for what landed between the
cursor and the subscription.  When no callback overtakes another, recovery finds every transaction,
nothing is abandoned before a first cursor and nothing lands between the first page and the
subscription, the service is a safe consumer of the ledger.
-/

namespace SolConversion.Indexer

open Checkpoint
open Relation (ReflTransGen)

variable {Event : Type} {concurrency : ℕ}

/-- A transaction the subscription does not report: it landed before, and before the first page. -/
def Service.LeftToRecovery (service : Service Event) (sig : Signature) : Prop :=
  (∀ subscription, service.subscription = some subscription → sig < subscription.since) ∧
    ∀ length, service.firstPageAt = some length → sig < length

/-- A callback is in order when everything reported before its transaction has been processed. -/
def System.InOrder (system : System Event) (service : Service Event) (sig : Signature) : Prop :=
  ∀ earlier < sig, service.Notified earlier → earlier ∈ system.processed

/-- What has to hold before an action for the cursor to stay safe. -/
def System.Orderly (system : System Event) : Action Event → Prop
  -- A callback saves its cursor in order.
  | .returned run => ∀ service, system.service = some service →
      ∀ sig ∈ service.saves run, system.InOrder service sig
  -- No run returns early from a transaction that it should have indexed.
  | .missing run => ∀ service, system.service = some service →
      (∀ sig ∈ service.saves run, system.InOrder service sig ∧ sig ∈ system.processed) ∧
        (run.caller = .recoverHistory → service.LeftToRecovery run.sig →
          run.sig ∈ system.processed)
  -- A process that finds no cursor finds nothing abandoned by an earlier one.
  | .cursorRead => ∀ service, system.service = some service →
      system.lastProcessedSignature = none → system.saving = [] ∧
        ∀ sig ∈ system.notified, sig < service.startedAt → sig ∈ system.processed
  -- Nothing lands between the first page of recovery and the subscription.
  | .subscribe => ∀ service, system.service = some service →
      ∀ length, service.firstPageAt = some length → length = system.ledger.length
  | _ => True

/-- What recovery has seen to: everything from its last page on, but for what is still at work. -/
def Recovery.Covers (system : System Event) (service : Service Event) : Recovery → Prop
  | .getLastSignature | .finished => True
  | .paging lastSig before => lastSig ∈ system.stored ∧
      ∀ oldest, before = some oldest → ∀ sig, oldest ≤ sig → service.LeftToRecovery sig →
        sig ∈ system.processed
  | .promisePool lastSig before items => lastSig ∈ system.stored ∧
      ∀ sig, before ≤ sig → service.LeftToRecovery sig → sig ∈ system.processed ∨ sig ∈ items ∨
        ∃ run ∈ service.runs, run.caller = .recoverHistory ∧ run.sig = sig

/-- The service is a safe consumer, and its process accounts for what landed before it. -/
structure System.Sound (system : System Event) : Prop where
  safe : system.consumer.Safe
  gapless : ∀ service, system.service = some service → ∀ subscription length,
    service.subscription = some subscription → service.firstPageAt = some length →
      subscription.since ≤ length
  caughtUp : ∀ service, system.service = some service → service.recovering = false →
    ∀ sig, service.LeftToRecovery sig → system.consumer.Owed sig → sig ∈ system.processed
  covers : ∀ service, system.service = some service → service.recovery.Covers system service

theorem sound_initial : (System.initial : System Event).Sound where
  safe := by
    rintro sig (stored | saving)
    · cases stored
    · cases saving
  gapless _ up := by cases up
  caughtUp _ up := by cases up
  covers _ up := by cases up

section Steps

variable {before after : System Event} {action : Action Event} {service next : Service Event}

theorem not_left_of_notified {earlier sig : Signature} (notified : service.Notified earlier)
    (le : earlier ≤ sig) : ¬service.LeftToRecovery sig := by
  obtain ⟨subscription, active, since, -⟩ := notified
  intro left
  exact absurd (left.1 subscription active) (not_lt.mpr (since.trans le))

theorem processed_of_step (step : Step concurrency before action after) {sig : Signature}
    (processed : sig ∈ before.processed) : sig ∈ after.processed := by
  cases step with
  | returned up running => exact List.mem_cons_of_mem _ processed
  | _ => exact processed

theorem stored_of_step (step : Step concurrency before action after) {sig : Signature}
    (stored : sig ∈ before.stored) : sig ∈ after.stored := by
  cases step with
  | stored sent => exact List.mem_cons_of_mem _ stored
  | _ => exact stored

theorem Continues.left (continues : Continues before after service next) {sig : Signature}
    (left : next.LeftToRecovery sig) : service.LeftToRecovery sig := by
  refine ⟨fun subscription active => ?_, fun length paged => ?_⟩
  · exact left.1 subscription (continues.subscription_eq ▸ active)
  · rcases continues.firstPage with kept | ⟨unpaged, -⟩
    · exact left.2 length (kept ▸ paged)
    · rw [unpaged] at paged
      cases paged

theorem left_of_step (placed : before.Placed) (step : Step concurrency before action after)
    (up : before.service = some service) (up_after : after.service = some next) :
    (∀ sig, next.LeftToRecovery sig → service.LeftToRecovery sig) ∧
      ∀ sig, service.Notified sig → next.Notified sig := by
  have goes_on (not_notify : action ≠ .notify) (not_subscribe : action ≠ .subscribe) :
      (∀ sig, next.LeftToRecovery sig → service.LeftToRecovery sig) ∧
        ∀ sig, service.Notified sig → next.Notified sig := by
    have continues := continues_of_step placed step up up_after not_notify not_subscribe
    exact ⟨fun _ => continues.left, fun sig => (continues.notified_iff sig).mpr⟩
  cases step with
  | subscribe up' inactive =>
      obtain rfl := Option.some.inj (up.symm.trans up')
      cases up_after
      refine ⟨fun sig left => ⟨fun _ active => ?_, left.2⟩, fun sig => ?_⟩
      · rw [inactive] at active
        cases active
      · rintro ⟨_, active, -⟩
        rw [inactive] at active
        cases active
  | notify up' active landed =>
      obtain rfl := Option.some.inj (up.symm.trans up')
      cases up_after
      obtain ⟨-, in_order, -⟩ := (placed.service service up).subscribed _ active
      refine ⟨fun sig left => ⟨fun subscription active' => ?_, left.2⟩, fun sig notified => ?_⟩
      · rw [active, Option.some.injEq] at active'
        subst active'
        have before_since := left.1 _ rfl
        exact before_since
      · exact (notified_notify active in_order _ sig).mpr (.inr notified)
  | _ => exact goes_on nofun nofun

private theorem owed_of_step (placed : before.Placed) (step : Step concurrency before action after)
    (up : before.service = some service) (up_after : after.service = some next) {sig : Signature}
    (left : next.LeftToRecovery sig) (owed : after.consumer.Owed sig) :
    before.consumer.Owed sig := by
  rcases owed with notified | ⟨checkpoint, saved, lt⟩
  · cases step with
    | notify up' active landed =>
        rcases List.mem_cons.mp notified with rfl | earlier
        · obtain ⟨-, in_order, -⟩ := (placed.service _ up').subscribed _ active
          cases up_after
          exact absurd left (not_left_of_notified ⟨_, rfl, in_order, Nat.lt_succ_self _⟩ le_rfl)
        · exact .inl earlier
    | _ => exact .inl notified
  · rcases saved_of_step placed step saved with earlier | ⟨other, up_other, -, now⟩
    · exact .inr ⟨checkpoint, earlier, lt⟩
    · rw [up, Option.some.injEq] at up_other
      have notified := (left_of_step placed step up up_after).2 checkpoint (up_other ▸ now)
      exact absurd left (not_left_of_notified notified lt.le)

private theorem settled_of_inOrder (sound : before.Sound) (up : before.service = some service)
    (ended : service.recovering = false) {sig : Signature} (notified : service.Notified sig)
    (in_order : before.InOrder service sig) {earlier : Signature} (lt : earlier < sig)
    (owed : before.consumer.Owed earlier) : earlier ∈ before.processed := by
  obtain ⟨subscription, active, since, next⟩ := notified
  by_cases reported : subscription.since ≤ earlier
  · exact in_order earlier lt ⟨subscription, active, reported, lt.trans next⟩
  · have lt_since := not_le.mp reported
    refine sound.caughtUp service up ended earlier ⟨?_, fun length paged => ?_⟩ owed
    · intro other active'
      rw [active, Option.some.injEq] at active'
      exact active' ▸ lt_since
    · exact lt_since.trans_le (sound.gapless service up subscription length active paged)

private theorem overlap_of_notified (placed : before.Placed) (sound : before.Sound)
    (up : before.service = some service) {sig later position : Signature}
    (notified : service.Notified sig) (saved : later ∈ before.consumer.saved)
    (lt : sig < position) (le : position ≤ later) : position ∈ before.processed := by
  have placed_service := placed.service service up
  have after_start := (placed_service.notified_lt notified).1
  rcases placed_service.saved later saved with earlier | ⟨-, _, active, -, later_next⟩
  · exact absurd (lt.trans_le le) (not_lt.mpr (earlier.le.trans after_start))
  · obtain ⟨subscription, active', since, -⟩ := notified
    rw [active, Option.some.injEq] at active'
    subst active'
    exact sound.safe later saved position le (.inl (placed_service.delivered position
      ⟨_, active, since.trans lt.le, le.trans_lt later_next⟩))

theorem saves_run (placed : before.Placed) (sound : before.Sound)
    (up : before.service = some service) {run : Run Event} (running : run ∈ service.runs)
    (in_order : ∀ sig ∈ service.saves run, before.InOrder service sig) {done : Set Signature}
    (kept : ∀ sig ∈ before.processed, sig ∈ done)
    (now : ∀ sig ∈ service.saves run, sig ∈ done) :
    ReflTransGen Consumer.Step { before.consumer with done }
      { before.consumer with
        done
        saved := {sig | sig ∈ before.stored ∨ sig ∈ service.saves run ++ before.saving} } := by
  rcases saves_cases service run with none | ⟨one, live, ended⟩
  · rw [none]
    exact .refl
  · rw [one] at in_order now ⊢
    have notified := (placed.service service up).live run running live
    have saved_eq : {sig | sig ∈ before.stored ∨ sig ∈ [run.sig] ++ before.saving} =
        insert run.sig before.consumer.saved := by
      ext sig
      simp [System.consumer, or_left_comm]
    rw [saved_eq]
    refine .single (.save run.sig (fun position le owed => ?_) fun later saved position lt le => ?_)
    · rcases eq_or_lt_of_le le with rfl | lt
      · exact now _ List.mem_cons_self
      · exact kept _ (settled_of_inOrder sound up ended notified
          (in_order _ List.mem_cons_self) lt owed)
    · exact kept _ (overlap_of_notified placed sound up notified saved lt le)

/-- Every orderly step is one a safe consumer may take. -/
theorem consumer_run_of_step (placed : before.Placed) (sound : before.Sound)
    (step : Step concurrency before action after) (orderly : before.Orderly action) :
    ReflTransGen Consumer.Step before.consumer after.consumer := by
  cases step with
  | @notify service subscription up active landed =>
      have beyond : ∀ checkpoint ∈ before.consumer.saved, checkpoint < subscription.next := by
        intro checkpoint saved
        have placed_service := placed.service service up
        obtain ⟨since, in_order, -⟩ := placed_service.subscribed subscription active
        rcases placed_service.saved checkpoint saved with earlier | ⟨-, _, active', -, next⟩
        · exact earlier.trans_le (since.trans in_order)
        · rw [active, Option.some.injEq] at active'
          exact active' ▸ next
      have delivered_eq : {sig | sig ∈ subscription.next :: before.notified} =
          insert subscription.next before.consumer.delivered := by
        ext sig
        exact List.mem_cons
      have delivers := Consumer.Step.deliver subscription.next beyond
      rw [← delivered_eq] at delivers
      exact .single delivers
  | missing up running =>
      obtain ⟨saves, -⟩ := orderly _ up
      exact saves_run placed sound up (mem_of_split running) (fun sig saved => (saves sig saved).1)
        (fun _ => id) fun sig saved => (saves sig saved).2
  | @returned service front rest caller sig up running =>
      have done_eq : {other | other ∈ sig :: before.processed} =
          insert sig before.consumer.done := by
        ext other
        exact List.mem_cons
      have finishes : Consumer.Step before.consumer
          { before.consumer with done := insert sig before.consumer.done } := .finish sig
      rw [← done_eq] at finishes
      refine .head finishes (saves_run placed sound up (mem_of_split running) (orderly service up)
        (fun _ => List.mem_cons_of_mem _) fun other saved => ?_)
      rcases saves_cases service ⟨caller, sig, .writing []⟩ with none | ⟨one, -⟩
      · rw [none] at saved
        cases saved
      · rw [one, List.mem_singleton] at saved
        exact saved ▸ List.mem_cons_self
  | @stored front rest sig sent =>
      have saved_eq : {other | other ∈ sig :: before.stored ∨ other ∈ front ++ rest} =
          before.consumer.saved := by
        ext other
        simp [System.consumer, sent, or_assoc, or_left_comm]
      have unchanged : ({ before.consumer with
          saved := {other | other ∈ sig :: before.stored ∨ other ∈ front ++ rest} } :
            Consumer Signature) = before.consumer := by
        rw [saved_eq]
      exact unchanged ▸ .refl
  | saveFailed sent =>
      refine .single (.forget _ ?_)
      rintro other (stored | saving)
      · exact .inl stored
      · exact .inr (mem_of_removed sent saving)
  | _ => exact .refl

private theorem gapless_of_step (placed : before.Placed) (sound : before.Sound)
    (step : Step concurrency before action after) (orderly : before.Orderly action)
    (up_after : after.service = some next) {subscription : Subscription} {length : ℕ}
    (active : next.subscription = some subscription) (paged : next.firstPageAt = some length) :
    subscription.since ≤ length := by
  rcases up_of_step step up_after with ⟨service, up⟩ | ⟨rfl, -⟩
  · have goes_on (not_notify : action ≠ .notify) (not_subscribe : action ≠ .subscribe) :
        subscription.since ≤ length := by
      have continues := continues_of_step placed step up up_after not_notify not_subscribe
      rw [continues.subscription_eq] at active
      rcases continues.firstPage with kept | ⟨-, now⟩
      · exact sound.gapless service up subscription length active (kept ▸ paged)
      · rw [now, Option.some.injEq] at paged
        obtain ⟨-, in_order, landed⟩ := (placed.service service up).subscribed _ active
        exact paged ▸ in_order.trans landed
    cases step with
    | subscribe up' inactive =>
        cases up_after
        cases active
        exact (orderly _ up' length paged).ge
    | notify up' active' landed =>
        cases up_after
        cases active
        have since_le := sound.gapless _ up' _ length active' paged
        exact since_le
    | _ => exact goes_on nofun nofun
  · cases active

private theorem caughtUp_of_recovered (sound : before.Sound) {lastSig : Signature}
    (stored : lastSig ∈ before.stored)
    (recovered : ∀ sig, lastSig < sig → service.LeftToRecovery sig → sig ∈ before.processed)
    {sig : Signature} (left : service.LeftToRecovery sig) (owed : before.consumer.Owed sig) :
    sig ∈ before.processed := by
  rcases lt_or_ge lastSig sig with newer | older
  · exact recovered sig newer left
  · exact sound.safe lastSig (.inl stored) sig older owed

private theorem caughtUp_of_fresh (placed : before.Placed) (up : before.service = some service)
    (orderly : before.Orderly .cursorRead) (fresh : before.lastProcessedSignature = none)
    {sig : Signature} (left : service.LeftToRecovery sig) (owed : before.consumer.Owed sig) :
    sig ∈ before.processed := by
  obtain ⟨nothing_saving, nothing_abandoned⟩ := orderly service up fresh
  rcases owed with notified | ⟨checkpoint, stored | saving, -⟩
  · rcases (placed.service service up).notified sig notified with earlier | now
    · exact nothing_abandoned sig notified earlier
    · exact absurd left (not_left_of_notified now le_rfl)
  · rw [placed.fresh fresh] at stored
    cases stored
  · rw [nothing_saving] at saving
    cases saving

private theorem left_of_pageReceived (placed : service.Placed before) {sig : Signature}
    (left : { service with
      firstPageAt := some (service.firstPageAt.getD before.ledger.length) }.LeftToRecovery sig) :
    service.LeftToRecovery sig ∧ sig < before.ledger.length := by
  have landed := left.2 _ rfl
  refine ⟨⟨left.1, fun length paged => ?_⟩, ?_⟩
  · simpa [paged] using landed
  · cases paged : service.firstPageAt with
    | none => simpa [paged] using landed
    | some length =>
        have lt_length : sig < length := by simpa [paged] using landed
        exact lt_length.trans_le (placed.firstPage length paged).2

theorem covers_pageReceived (placed : before.Placed) (sound : before.Sound)
    (up : before.service = some service) {lastSig : Signature} {oldest : Option Signature}
    (awaited : service.recovery = .paging lastSig oldest) {sig : Signature}
    (left : { service with
      firstPageAt := some (service.firstPageAt.getD before.ledger.length) }.LeftToRecovery sig) :
    lastSig ∈ before.stored ∧
      (sig < oldest.getD before.ledger.length ∨ sig ∈ before.processed) := by
  obtain ⟨left, landed⟩ := left_of_pageReceived (placed.service service up) left
  have covers := sound.covers service up
  rw [awaited] at covers
  refine ⟨covers.1, ?_⟩
  cases oldest with
  | none => exact .inl landed
  | some oldest =>
      rcases lt_or_ge sig oldest with older | newer
      · exact .inl older
      · exact .inr (covers.2 oldest rfl sig newer left)

/-- A process that has recovered stays caught up, and recovery ends only when it is. -/
theorem caughtUp_of_step (placed : before.Placed) (sound : before.Sound)
    (step : Step concurrency before action after) (orderly : before.Orderly action)
    (up_after : after.service = some next) (ended : next.recovering = false) {sig : Signature}
    (left : next.LeftToRecovery sig) (owed : after.consumer.Owed sig) :
    sig ∈ after.processed := by
  rcases up_of_step step up_after with ⟨service, up⟩ | ⟨rfl, -⟩
  · have stays (ended : service.recovering = false) : sig ∈ after.processed :=
      processed_of_step step (sound.caughtUp service up ended sig
        ((left_of_step placed step up up_after).1 sig left)
        (owed_of_step placed step up up_after left owed))
    cases step with
    | start down => simp [down] at up
    | crash => cases up_after
    | land | stored | saveFailed =>
        rw [up, Option.some.injEq] at up_after
        exact stays (up_after ▸ ended)
    | threw up' running =>
        obtain ⟨recovery, threw_eq⟩ := Service.threw_eq _ _
        rw [threw_eq] at up_after
        obtain rfl := Option.some.inj (up.symm.trans up')
        cases up_after
        exact stays ended
    | cursorRead up' awaited =>
        obtain rfl := Option.some.inj (up.symm.trans up')
        cases cursor_eq : before.lastProcessedSignature with
        | none =>
            rw [cursor_eq] at up_after
            cases up_after
            exact caughtUp_of_fresh placed up orderly cursor_eq left owed
        | some lastSig =>
            rw [cursor_eq] at up_after
            cases up_after
            exact stays ended
    | @pageReceived _ lastSig oldest limit up' awaited limited =>
        obtain rfl := Option.some.inj (up.symm.trans up')
        cases page_eq : (getSignaturesForAddress before.ledger oldest limit lastSig).getLast? with
        | none =>
            simp only [Service.pageReceived, page_eq] at up_after
            cases up_after
            obtain ⟨stored, -⟩ := covers_pageReceived placed sound up awaited ⟨left.1, left.2⟩
            refine caughtUp_of_recovered sound stored (fun newer lt left => ?_) left owed
            obtain ⟨-, older | processed⟩ :=
              covers_pageReceived placed sound up awaited ⟨left.1, left.2⟩
            · exact absurd older (not_lt.mpr (le_of_page_empty limited.1 page_eq lt))
            · exact processed
        | some last =>
            simp only [Service.pageReceived, page_eq] at up_after
            cases up_after
            exact stays ended
    | subscribe up' | notify up' | fetched up' | missing up' | wrote up' | returned up'
    | recoveryFailed up' | poolStarted up' | poolFinished up' =>
        obtain rfl := Option.some.inj (up.symm.trans up')
        cases up_after
        exact stays ended
  · cases ended

private theorem covers_of_kept (step : Step concurrency before action after) {recovery : Recovery}
    (covers : recovery.Covers before service)
    (left : ∀ sig, next.LeftToRecovery sig → service.LeftToRecovery sig)
    (runs : ∀ run ∈ service.runs, run.caller = .recoverHistory → next.LeftToRecovery run.sig →
      run.sig ∈ after.processed ∨
        ∃ other ∈ next.runs, other.caller = run.caller ∧ other.sig = run.sig) :
    recovery.Covers after next := by
  cases recovery with
  | getLastSignature => trivial
  | paging lastSig oldest =>
      obtain ⟨stored, seen⟩ := covers
      exact ⟨stored_of_step step stored, fun oldest page_eq sig newer left_after =>
        processed_of_step step (seen oldest page_eq sig newer (left sig left_after))⟩
  | promisePool lastSig oldest items =>
      obtain ⟨stored, seen⟩ := covers
      refine ⟨stored_of_step step stored, fun sig newer left_after => ?_⟩
      rcases seen sig newer (left sig left_after) with processed | waiting | ⟨run, running, caller,
        rfl⟩
      · exact .inl (processed_of_step step processed)
      · exact .inr (.inl waiting)
      · rcases runs run running caller left_after with processed | ⟨other, running, same, sig_eq⟩
        · exact .inl processed
        · exact .inr (.inr ⟨other, running, same.trans caller, sig_eq⟩)
  | finished => trivial

/-- Every orderly step keeps account of what recovery has seen to. -/
theorem covers_of_step (placed : before.Placed) (sound : before.Sound)
    (step : Step concurrency before action after) (orderly : before.Orderly action)
    (up_after : after.service = some next) : next.recovery.Covers after next := by
  rcases up_of_step step up_after with ⟨service, up⟩ | ⟨rfl, -⟩
  · have left := (left_of_step placed step up up_after).1
    have covers := sound.covers service up
    have goes_on (runs : ∀ run ∈ service.runs, run.caller = .recoverHistory →
        next.LeftToRecovery run.sig → run.sig ∈ after.processed ∨
          ∃ other ∈ next.runs, other.caller = run.caller ∧ other.sig = run.sig) :
        service.recovery.Covers after next :=
      covers_of_kept step covers left runs
    cases step with
    | start down => simp [down] at up
    | crash => cases up_after
    | land | stored | saveFailed =>
        rw [up, Option.some.injEq] at up_after
        subst up_after
        exact goes_on fun run running _ _ => .inr ⟨run, running, rfl, rfl⟩
    | subscribe up' =>
        obtain rfl := Option.some.inj (up.symm.trans up')
        cases up_after
        exact goes_on fun run running _ _ => .inr ⟨run, running, rfl, rfl⟩
    | notify up' =>
        obtain rfl := Option.some.inj (up.symm.trans up')
        cases up_after
        exact goes_on fun run running _ _ =>
          .inr ⟨run, List.mem_cons_of_mem _ running, rfl, rfl⟩
    | fetched up' running | wrote up' running =>
        obtain rfl := Option.some.inj (up.symm.trans up')
        cases up_after
        refine goes_on fun run running_before _ _ => .inr ?_
        rw [running] at running_before
        exact exists_run_of_progress running_before
    | missing up' running =>
        obtain rfl := Option.some.inj (up.symm.trans up')
        cases up_after
        refine goes_on fun run running_before caller left_after => ?_
        rcases eq_or_mem_of_split running running_before with rfl | running_after
        · exact .inl ((orderly _ up).2 caller (left _ left_after))
        · exact .inr ⟨run, running_after, rfl, rfl⟩
    | returned up' running =>
        obtain rfl := Option.some.inj (up.symm.trans up')
        cases up_after
        refine goes_on fun run running_before _ _ => ?_
        rcases eq_or_mem_of_split running running_before with rfl | running_after
        · exact .inl List.mem_cons_self
        · exact .inr ⟨run, running_after, rfl, rfl⟩
    | @threw _ front rest run up' running =>
        obtain rfl := Option.some.inj (up.symm.trans up')
        cases caller_eq : run.caller with
        | tailRealTime =>
            rw [caller_eq] at up_after
            cases up_after
            refine goes_on fun other running_before caller _ => ?_
            rcases eq_or_mem_of_split running running_before with rfl | running_after
            · rw [caller_eq] at caller
              cases caller
            · exact .inr ⟨other, running_after, rfl, rfl⟩
        | recoverHistory =>
            rw [caller_eq] at up_after
            cases up_after
            trivial
    | cursorRead up' awaited =>
        obtain rfl := Option.some.inj (up.symm.trans up')
        cases cursor_eq : before.lastProcessedSignature with
        | none =>
            rw [cursor_eq] at up_after
            cases up_after
            trivial
        | some lastSig =>
            rw [cursor_eq] at up_after
            cases up_after
            exact ⟨placed.cursor lastSig cursor_eq, fun _ page_eq => by cases page_eq⟩
    | @pageReceived _ lastSig oldest limit up' awaited limited =>
        obtain rfl := Option.some.inj (up.symm.trans up')
        cases page_eq : (getSignaturesForAddress before.ledger oldest limit lastSig).getLast? with
        | none =>
            simp only [Service.pageReceived, page_eq] at up_after
            cases up_after
            trivial
        | some last =>
            simp only [Service.pageReceived, page_eq] at up_after
            cases up_after
            rw [awaited] at covers
            refine ⟨covers.1, fun sig newer left_after => ?_⟩
            obtain ⟨-, older | processed⟩ :=
              covers_pageReceived placed sound up awaited ⟨left_after.1, left_after.2⟩
            · exact .inr (.inl (mem_page_of_oldest page_eq newer older))
            · exact .inl processed
    | recoveryFailed up' =>
        cases up_after
        trivial
    | poolStarted up' pooling room =>
        obtain rfl := Option.some.inj (up.symm.trans up')
        cases up_after
        rw [pooling] at covers
        obtain ⟨stored, seen⟩ := covers
        refine ⟨stored, fun sig newer left_after => ?_⟩
        rcases seen sig newer (left sig left_after) with processed | waiting | ⟨run, running, same⟩
        · exact .inl processed
        · rcases List.mem_cons.mp waiting with rfl | waiting
          · exact .inr (.inr ⟨_, List.mem_cons_self, rfl, rfl⟩)
          · exact .inr (.inl waiting)
        · exact .inr (.inr ⟨run, List.mem_cons_of_mem _ running, same⟩)
    | poolFinished up' pooling settled =>
        obtain rfl := Option.some.inj (up.symm.trans up')
        cases up_after
        rw [pooling] at covers
        obtain ⟨stored, seen⟩ := covers
        refine ⟨stored, fun oldest page_eq sig newer left_after => ?_⟩
        cases page_eq
        rcases seen sig newer (left sig left_after) with processed | waiting | ⟨run, running, same⟩
        · exact processed
        · cases waiting
        · exact absurd same.1 (by simpa using List.countP_eq_zero.mp settled run running)
  · trivial

/-- Every orderly step keeps the service a safe consumer. -/
theorem sound_of_step (placed : before.Placed) (sound : before.Sound)
    (step : Step concurrency before action after) (orderly : before.Orderly action) :
    after.Sound where
  safe := Consumer.safe_of_run (consumer_run_of_step placed sound step orderly) sound.safe
  gapless _ up _ _ := gapless_of_step placed sound step orderly up
  caughtUp _ up ended _ := caughtUp_of_step placed sound step orderly up ended
  covers _ up := covers_of_step placed sound step orderly up

end Steps

end SolConversion.Indexer
