import SolConversion.Foundation.Checkpoint
import SolConversion.Indexer.Service

/-!
# Where a process stands on the ledger

Every process reports a stretch of the ledger that begins after everything an earlier process
reported or saved.  These facts hold of every run of the service.
-/

namespace SolConversion.Indexer

open Checkpoint

variable {Event : Type} {concurrency : ℕ}

/-- The service as a consumer of the ledger; a save in flight counts as saved. -/
def System.consumer (system : System Event) : Consumer Signature where
  done := {sig | sig ∈ system.processed}
  delivered := {sig | sig ∈ system.notified}
  saved := {sig | sig ∈ system.stored ∨ sig ∈ system.saving}

/-- A transaction the subscription of the process has reported. -/
def Service.Notified (service : Service Event) (sig : Signature) : Prop :=
  ∃ subscription, service.subscription = some subscription ∧ subscription.since ≤ sig ∧
    sig < subscription.next

/-- What is known of a process whatever has happened. -/
structure Service.Placed (system : System Event) (service : Service Event) : Prop where
  started : service.startedAt ≤ system.ledger.length
  subscribed : ∀ subscription, service.subscription = some subscription →
    service.startedAt ≤ subscription.since ∧ subscription.since ≤ subscription.next ∧
      subscription.next ≤ system.ledger.length
  firstPage : ∀ length, service.firstPageAt = some length →
    service.startedAt ≤ length ∧ length ≤ system.ledger.length
  notified : ∀ sig ∈ system.notified, sig < service.startedAt ∨ service.Notified sig
  delivered : ∀ sig, service.Notified sig → sig ∈ system.notified
  live : ∀ run ∈ service.runs, run.caller = .tailRealTime → service.Notified run.sig
  saved : ∀ sig ∈ system.consumer.saved,
    sig < service.startedAt ∨ service.recovering = false ∧ service.Notified sig

/-- What is known of the system whatever has happened. -/
structure System.Placed (system : System Event) : Prop where
  saved_lt : ∀ sig ∈ system.consumer.saved, sig < system.ledger.length
  notified_lt : ∀ sig ∈ system.notified, sig < system.ledger.length
  cursor : ∀ sig, system.lastProcessedSignature = some sig → sig ∈ system.stored
  fresh : system.lastProcessedSignature = none → system.stored = []
  service : ∀ service, system.service = some service → service.Placed system

theorem Service.Placed.notified_lt {system : System Event} {service : Service Event}
    (placed : service.Placed system) {sig : Signature} (notified : service.Notified sig) :
    service.startedAt ≤ sig ∧ sig < system.ledger.length := by
  obtain ⟨subscription, active, since, next⟩ := notified
  obtain ⟨after_start, -, landed⟩ := placed.subscribed subscription active
  exact ⟨after_start.trans since, next.trans_le landed⟩

theorem placed_initial : (System.initial : System Event).Placed where
  saved_lt := by
    rintro sig (stored | saving)
    · cases stored
    · cases saving
  notified_lt _ notified := by cases notified
  cursor _ stored := by cases stored
  fresh _ := rfl
  service _ up := by cases up

/-- A process that goes on, and how what it is judged by may change. -/
structure Continues (before after : System Event) (service next : Service Event) : Prop where
  startedAt_eq : next.startedAt = service.startedAt
  subscription_eq : next.subscription = service.subscription
  ledger_le : before.ledger.length ≤ after.ledger.length
  notified_eq : after.notified = before.notified
  firstPage : next.firstPageAt = service.firstPageAt ∨
    service.firstPageAt = none ∧ next.firstPageAt = some before.ledger.length
  recovering : service.recovering = false → next.recovering = false
  live : ∀ run ∈ next.runs, run.caller = .tailRealTime →
    ∃ earlier ∈ service.runs, earlier.caller = .tailRealTime ∧ earlier.sig = run.sig
  saved : ∀ sig ∈ after.consumer.saved, sig ∈ before.consumer.saved ∨
    service.recovering = false ∧ service.Notified sig

namespace Continues

variable {before after : System Event} {service next : Service Event}

theorem notified_iff (continues : Continues before after service next) (sig : Signature) :
    next.Notified sig ↔ service.Notified sig := by
  rw [Service.Notified, Service.Notified, continues.subscription_eq]

theorem placed (continues : Continues before after service next)
    (placed : service.Placed before) : next.Placed after where
  started := continues.startedAt_eq ▸ placed.started.trans continues.ledger_le
  subscribed subscription active := by
    rw [continues.subscription_eq] at active
    obtain ⟨since, next_le, landed⟩ := placed.subscribed subscription active
    exact ⟨continues.startedAt_eq ▸ since, next_le, landed.trans continues.ledger_le⟩
  firstPage length paged := by
    rw [continues.startedAt_eq]
    rcases continues.firstPage with kept | ⟨-, now⟩
    · obtain ⟨after_start, landed⟩ := placed.firstPage length (kept ▸ paged)
      exact ⟨after_start, landed.trans continues.ledger_le⟩
    · rw [now, Option.some.injEq] at paged
      exact paged ▸ ⟨placed.started, continues.ledger_le⟩
  notified sig reported := by
    rw [continues.startedAt_eq, continues.notified_iff]
    exact placed.notified sig (continues.notified_eq ▸ reported)
  delivered sig reported := by
    rw [continues.notified_eq]
    exact placed.delivered sig ((continues.notified_iff sig).mp reported)
  live run running live := by
    obtain ⟨earlier, running_before, live_before, same⟩ := continues.live run running live
    rw [continues.notified_iff, ← same]
    exact placed.live earlier running_before live_before
  saved sig saved := by
    rw [continues.startedAt_eq, continues.notified_iff]
    rcases continues.saved sig saved with saved_before | ⟨ended, notified⟩
    · rcases placed.saved sig saved_before with before_start | ⟨ended, notified⟩
      · exact .inl before_start
      · exact .inr ⟨continues.recovering ended, notified⟩
    · exact .inr ⟨continues.recovering ended, notified⟩

end Continues

section Steps

variable {before after : System Event} {action : Action Event} {service next : Service Event}

theorem Service.threw_eq (service : Service Event) (caller : Caller) :
    ∃ recovery, service.threw caller = { service with recovery } := by
  cases caller with
  | tailRealTime => exact ⟨service.recovery, rfl⟩
  | recoverHistory => exact ⟨.finished, rfl⟩

theorem Service.cursorRead_eq (service : Service Event) (cursor : Option Signature) :
    ∃ recovering recovery, service.cursorRead cursor = { service with recovering, recovery } ∧
      (service.recovering = false → recovering = false) := by
  cases cursor with
  | none => exact ⟨false, .finished, rfl, fun _ => rfl⟩
  | some lastSig => exact ⟨service.recovering, .paging lastSig none, rfl, id⟩

theorem Service.pageReceived_eq (service : Service Event) (lastSig : Signature)
    (page : List Signature) :
    ∃ recovering recovery,
      service.pageReceived lastSig page = { service with recovering, recovery } ∧
        (service.recovering = false → recovering = false) := by
  unfold Service.pageReceived
  cases page.getLast? with
  | none => exact ⟨false, .finished, rfl, fun _ => rfl⟩
  | some last => exact ⟨service.recovering, .promisePool lastSig last page, rfl, id⟩

theorem ledger_prefix_of_step (step : Step concurrency before action after) :
    before.ledger <+: after.ledger := by
  cases step with
  | land transaction => exact List.prefix_append _ _
  | _ => exact List.prefix_rfl

theorem mem_of_split {α : Type} {items front rest : List α} {item : α}
    (split : items = front ++ item :: rest) : item ∈ items := by
  rw [split]
  exact List.mem_append_right _ List.mem_cons_self

theorem mem_of_removed {α : Type} {items front rest : List α} {removed item : α}
    (split : items = front ++ removed :: rest) (kept : item ∈ front ++ rest) : item ∈ items := by
  rw [split]
  exact ((List.sublist_cons_self removed rest).append_left front).subset kept

theorem eq_or_mem_of_split {α : Type} {items front rest : List α} {removed item : α}
    (split : items = front ++ removed :: rest) (mem : item ∈ items) :
    item = removed ∨ item ∈ front ++ rest := by
  rw [split] at mem
  rcases List.mem_append.mp mem with mem | mem
  · exact .inr (List.mem_append_left _ mem)
  · exact (List.mem_cons.mp mem).imp_right (List.mem_append_right _)

/-- A process that is up after a step was up before it, or has just started. -/
theorem up_of_step (step : Step concurrency before action after)
    (up_after : after.service = some next) :
    (∃ service, before.service = some service) ∨ next = .start before.ledger.length ∧
      after = { before with service := some (.start before.ledger.length) } := by
  cases step with
  | start down =>
      cases up_after
      exact .inr ⟨rfl, rfl⟩
  | crash => cases up_after
  | land | stored | saveFailed => exact .inl ⟨next, up_after⟩
  | subscribe up | notify up | fetched up | missing up | wrote up | returned up | threw up
  | cursorRead up | pageReceived up | recoveryFailed up | poolStarted up | poolFinished up =>
      exact .inl ⟨_, up⟩

/-- Only a live run saves a cursor, its own, and only after recovery. -/
theorem saves_cases (service : Service Event) (run : Run Event) :
    service.saves run = [] ∨
      service.saves run = [run.sig] ∧ run.caller = .tailRealTime ∧ service.recovering = false := by
  cases caller_eq : run.caller with
  | recoverHistory => exact .inl (by simp [Service.saves, caller_eq])
  | tailRealTime =>
      cases recovering_eq : service.recovering with
      | true => exact .inl (by simp [Service.saves, caller_eq, recovering_eq])
      | false => exact .inr ⟨by simp [Service.saves, caller_eq, recovering_eq], rfl, rfl⟩

/-- A step saves nothing but what a live run of the process returned for. -/
theorem saved_of_step (placed : before.Placed) (step : Step concurrency before action after)
    {sig : Signature} (saved : sig ∈ after.consumer.saved) :
    sig ∈ before.consumer.saved ∨ ∃ service, before.service = some service ∧
      service.recovering = false ∧ service.Notified sig := by
  have of_run {service : Service Event} {run : Run Event}
      (up : before.service = some service) (running : run ∈ service.runs)
      (saved : sig ∈ service.saves run ++ before.saving) :
      sig ∈ before.saving ∨ ∃ service, before.service = some service ∧
        service.recovering = false ∧ service.Notified sig := by
    rcases saves_cases service run with none | ⟨one, live, ended⟩
    · exact .inl (by simpa [none] using saved)
    · rw [one] at saved
      rcases List.mem_cons.mp saved with rfl | earlier
      · exact .inr ⟨service, up, ended, (placed.service service up).live run running live⟩
      · exact .inl earlier
  cases step with
  | missing up running | returned up running =>
      rcases saved with stored | saving
      · exact .inl (.inl stored)
      · exact (of_run up (by simp [running]) saving).imp_left .inr
  | stored sent =>
      rcases saved with stored | saving
      · rcases List.mem_cons.mp stored with rfl | earlier
        · exact .inl (.inr (mem_of_split sent))
        · exact .inl (.inl earlier)
      · exact .inl (.inr (mem_of_removed sent saving))
  | saveFailed sent =>
      rcases saved with stored | saving
      · exact .inl (.inl stored)
      · exact .inl (.inr (mem_of_removed sent saving))
  | _ => exact .inl saved

/-- A run that makes progress stays the same run. -/
theorem exists_run_of_progress {front rest : List (Run Event)} {caller : Caller} {sig : Signature}
    {earlier later : Progress Event} {run : Run Event}
    (running : run ∈ front ++ ⟨caller, sig, earlier⟩ :: rest) :
    ∃ other ∈ front ++ ⟨caller, sig, later⟩ :: rest,
      other.caller = run.caller ∧ other.sig = run.sig := by
  rcases List.mem_append.mp running with running | running
  · exact ⟨run, List.mem_append_left _ running, rfl, rfl⟩
  · rcases List.mem_cons.mp running with rfl | running
    · exact ⟨_, List.mem_append_right _ List.mem_cons_self, rfl, rfl⟩
    · exact ⟨run, List.mem_append_right _ (List.mem_cons_of_mem _ running), rfl, rfl⟩

/-- Only `notify` and `subscribe` change what the process is notified of. -/
theorem continues_of_step (placed : before.Placed) (step : Step concurrency before action after)
    (up : before.service = some service) (up_after : after.service = some next)
    (not_notify : action ≠ .notify) (not_subscribe : action ≠ .subscribe) :
    Continues before after service next := by
  have ledger_le := (ledger_prefix_of_step step).length_le
  have saved : ∀ sig ∈ after.consumer.saved, sig ∈ before.consumer.saved ∨
      service.recovering = false ∧ service.Notified sig := by
    intro sig saved
    rcases saved_of_step placed step saved with earlier | ⟨other, up_other, now⟩
    · exact .inl earlier
    · rw [up, Option.some.injEq] at up_other
      exact .inr (up_other ▸ now)
  cases step with
  | start down => simp [down] at up
  | crash => cases up_after
  | notify => contradiction
  | subscribe => contradiction
  | land | stored | saveFailed =>
      obtain rfl : service = next := Option.some.inj (up.symm.trans up_after)
      exact ⟨rfl, rfl, ledger_le, rfl, .inl rfl, id, fun run running live =>
        ⟨run, running, live, rfl⟩, saved⟩
  | fetched up' running | wrote up' running =>
      obtain rfl := Option.some.inj (up.symm.trans up')
      cases up_after
      refine ⟨rfl, rfl, ledger_le, rfl, .inl rfl, id, fun run running_after live => ?_, saved⟩
      rw [running]
      obtain ⟨earlier, running_before, caller_eq, same⟩ := exists_run_of_progress running_after
      exact ⟨earlier, running_before, caller_eq.trans live, same⟩
  | missing up' running | returned up' running =>
      obtain rfl := Option.some.inj (up.symm.trans up')
      cases up_after
      exact ⟨rfl, rfl, ledger_le, rfl, .inl rfl, id, fun run running_after live =>
        ⟨run, mem_of_removed running running_after, live, rfl⟩, saved⟩
  | threw up' running =>
      obtain rfl := Option.some.inj (up.symm.trans up')
      obtain ⟨recovery, threw_eq⟩ := Service.threw_eq _ _
      cases up_after
      rw [threw_eq]
      exact ⟨rfl, rfl, ledger_le, rfl, .inl rfl, id, fun run running_after live =>
        ⟨run, mem_of_removed running running_after, live, rfl⟩, saved⟩
  | cursorRead up' =>
      obtain rfl := Option.some.inj (up.symm.trans up')
      obtain ⟨recovering, recovery, read_eq, kept⟩ := Service.cursorRead_eq _ _
      cases up_after
      rw [read_eq]
      exact ⟨rfl, rfl, ledger_le, rfl, .inl rfl, kept, fun run running live =>
        ⟨run, running, live, rfl⟩, saved⟩
  | pageReceived up' =>
      obtain rfl := Option.some.inj (up.symm.trans up')
      obtain ⟨recovering, recovery, received_eq, kept⟩ := Service.pageReceived_eq _ _ _
      cases up_after
      rw [received_eq]
      refine ⟨rfl, rfl, ledger_le, rfl, ?_, kept, fun run running live =>
        ⟨run, running, live, rfl⟩, saved⟩
      cases service.firstPageAt with
      | none => exact .inr ⟨rfl, rfl⟩
      | some length => exact .inl rfl
  | recoveryFailed up' | poolFinished up' =>
      obtain rfl := Option.some.inj (up.symm.trans up')
      cases up_after
      exact ⟨rfl, rfl, ledger_le, rfl, .inl rfl, id, fun run running live =>
        ⟨run, running, live, rfl⟩, saved⟩
  | poolStarted up' pooling room =>
      obtain rfl := Option.some.inj (up.symm.trans up')
      cases up_after
      refine ⟨rfl, rfl, ledger_le, rfl, .inl rfl, id, fun run running live => ?_, saved⟩
      rcases List.mem_cons.mp running with rfl | earlier
      · cases live
      · exact ⟨run, earlier, live, rfl⟩

private theorem placed_start (placed : before.Placed) :
    (Service.start before.ledger.length : Service Event).Placed
      { before with service := some (.start before.ledger.length) } where
  started := le_rfl
  subscribed _ active := by cases active
  firstPage _ paged := by cases paged
  notified sig notified := .inl (placed.notified_lt sig notified)
  delivered _ := by rintro ⟨_, active, -⟩; cases active
  live _ running := by cases running
  saved sig saved := .inl (placed.saved_lt sig saved)

private theorem placed_subscribe (placed : service.Placed before)
    (inactive : service.subscription = none) :
    let next := { service with
      subscription := some ⟨before.ledger.length, before.ledger.length⟩ }
    next.Placed { before with service := some next } := by
  have unreported (sig : Signature) : ¬service.Notified sig := by
    rintro ⟨_, active, -⟩
    simp [inactive] at active
  refine ⟨placed.started, ?_, placed.firstPage, ?_, ?_, ?_, ?_⟩
  · intro _ same
    cases same
    exact ⟨placed.started, le_rfl, le_rfl⟩
  · intro sig notified
    exact .inl ((placed.notified sig notified).resolve_right (unreported sig))
  · rintro sig ⟨_, ⟨⟩, since, next⟩
    exact absurd since (not_le.mpr next)
  · intro run running live
    exact absurd (placed.live run running live) (unreported run.sig)
  · intro sig saved
    exact .inl ((placed.saved sig saved).resolve_right fun now => unreported sig now.2)

/-- A report extends what the process was notified of by the next transaction. -/
theorem notified_notify {subscription : Subscription}
    (active : service.subscription = some subscription)
    (in_order : subscription.since ≤ subscription.next) (runs : List (Run Event))
    (sig : Signature) :
    { service with
      subscription := some { subscription with next := subscription.next + 1 }
      runs }.Notified sig ↔ sig = subscription.next ∨ service.Notified sig := by
  constructor
  · rintro ⟨_, active_after, since, next⟩
    cases active_after
    rcases Nat.lt_succ_iff_lt_or_eq.mp next with earlier | now
    · exact .inr ⟨subscription, active, since, earlier⟩
    · exact .inl now
  · rintro (rfl | ⟨other, active_other, since, next⟩)
    · exact ⟨_, rfl, in_order, Nat.lt_succ_self _⟩
    · rw [active, Option.some.injEq] at active_other
      subst active_other
      exact ⟨_, rfl, since, Nat.lt_succ_of_lt next⟩

private theorem placed_notify {subscription : Subscription} (placed : service.Placed before)
    (active : service.subscription = some subscription)
    (landed : subscription.next < before.ledger.length) :
    let next := { service with
      subscription := some { subscription with next := subscription.next + 1 }
      runs := ⟨.tailRealTime, subscription.next, .getTransaction⟩ :: service.runs }
    next.Placed { before with
      notified := subscription.next :: before.notified
      service := some next } := by
  obtain ⟨since, in_order, -⟩ := placed.subscribed subscription active
  have notified_iff := notified_notify active in_order
    (⟨.tailRealTime, subscription.next, .getTransaction⟩ :: service.runs)
  refine ⟨placed.started, ?_, placed.firstPage, ?_, ?_, ?_, ?_⟩
  · intro _ same
    cases same
    exact ⟨since, in_order.trans (Nat.le_succ _), landed⟩
  · intro sig notified
    rw [notified_iff]
    rcases List.mem_cons.mp notified with rfl | earlier
    · exact .inr (.inl rfl)
    · exact (placed.notified sig earlier).imp_right .inr
  · intro sig notified
    rcases (notified_iff sig).mp notified with rfl | earlier
    · exact List.mem_cons_self
    · exact List.mem_cons_of_mem _ (placed.delivered sig earlier)
  · intro run running live
    rw [notified_iff]
    rcases List.mem_cons.mp running with rfl | earlier
    · exact .inl rfl
    · exact .inr (placed.live run earlier live)
  · intro sig saved
    rw [notified_iff]
    exact (placed.saved sig saved).imp_right (And.imp_right .inr)

/-- Every step keeps every process in its place. -/
theorem placed_of_step (placed : before.Placed) (step : Step concurrency before action after) :
    after.Placed := by
  have ledger_le := (ledger_prefix_of_step step).length_le
  refine ⟨fun sig saved => ?_, fun sig notified => ?_, fun sig cursor => ?_, fun fresh => ?_,
    fun service up => ?_⟩
  · rcases saved_of_step placed step saved with earlier | ⟨service, up, -, now⟩
    · exact (placed.saved_lt sig earlier).trans_le ledger_le
    · exact ((placed.service service up).notified_lt now).2.trans_le ledger_le
  · cases step with
    | notify up active landed =>
        rcases List.mem_cons.mp notified with rfl | earlier
        · exact landed
        · exact placed.notified_lt sig earlier
    | _ => exact (placed.notified_lt sig notified).trans_le ledger_le
  · cases step with
    | stored sent =>
        cases cursor
        exact List.mem_cons_self
    | _ => exact placed.cursor sig cursor
  · cases step with
    | stored sent => cases fresh
    | _ => exact placed.fresh fresh
  · rcases up_of_step step up with ⟨earlier, up_before⟩ | ⟨rfl, rfl⟩
    · have goes_on (not_notify : action ≠ .notify) (not_subscribe : action ≠ .subscribe) :
          service.Placed after :=
        (continues_of_step placed step up_before up not_notify not_subscribe).placed
          (placed.service earlier up_before)
      cases step with
      | subscribe up_before inactive =>
          cases up
          exact placed_subscribe (placed.service _ up_before) inactive
      | notify up_before active landed =>
          cases up
          exact placed_notify (placed.service _ up_before) active landed
      | _ => exact goes_on nofun nofun
    · exact placed_start placed

end Steps

end SolConversion.Indexer
