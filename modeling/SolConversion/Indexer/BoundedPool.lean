import Mathlib.Algebra.Order.Group.Int
import Mathlib.Data.List.Perm.Subperm
import SolConversion.Foundation.LabelledRun
import SolConversion.Indexer.PromisePool

/-!
# The bound of the promise pool

The promises that a race was started with bound those still in `executing`, also when several of
them settle before the loop goes on.  Whoever wins the race without failing has left `executing`, so
there is room for one more call.
-/

namespace SolConversion.Indexer

open LabelledRun

variable {Item : Type}

/-- The calls whose promise is not settled. -/
def Pool.inFlight (pool : Pool Item) : List ℕ :=
  (List.range pool.calls.length).filter fun promise => pool.status promise = some .inFlight

/-- Whether what a position awaits has failed. -/
def Pool.ObservesRejection (pool : Pool Item) : PoolPosition Item → Prop
  | .race _ winner _ => winner = some .rejected
  | .all promises => ∃ promise ∈ promises, pool.status promise = some (.completed .rejected)
  | .resolved => False
  | .rejected => True

def Pool.RejectionObserved (pool : Pool Item) : Prop := pool.ObservesRejection pool.position

/-- Whether an action is up to the mapper. -/
def PoolAction.settles : PoolAction → Bool
  | .settled _ _ => true
  | _ => false

/-- What a pool has promised when it is reached by some actions. -/
structure PoolContract (concurrency : ℤ) (items : List Item) (actions : List PoolAction)
    (pool : Pool Item) : Prop where
  bounded : (pool.inFlight.length : ℤ) ≤ max 1 concurrency
  /-- The bound in the middle of the loop. -/
  passing : ∀ middle rest, Pool.proceed concurrency middle rest = pool →
    (middle.inFlight.length : ℤ) ≤ max 1 concurrency
  ordered : pool.calls.map Call.item <+: items
  kept : ∀ later last, Run (PoolStep concurrency) pool later last →
    pool.calls.map Call.item <+: last.calls.map Call.item
  completed : pool.position = .resolved → actions.any PoolAction.fails = false ∧
    pool.calls.map Call.item = items ∧
    ∀ promise < pool.calls.length, pool.status promise = some (.completed .fulfilled)
  failed : pool.position = .rejected → actions.any PoolAction.fails = true
  stopped : pool.RejectionObserved → ∀ later last, Run (PoolStep concurrency) pool later last →
    last.calls.map Call.item = pool.calls.map Call.item
  resolves : actions.any PoolAction.fails = false →
    (∀ action next, ¬PoolStep concurrency pool action next) → pool.position = .resolved
  /-- Calls that never settle do not keep a pool from rejecting. -/
  rejects : actions.any PoolAction.fails = true →
    (∀ action next, PoolStep concurrency pool action next → action.settles = true) →
    pool.position = .rejected
  finite : actions.length ≤ 3 * items.length + 1

section InFlight

variable {pool : Pool Item}

private theorem length_inFlight_le (pool : Pool Item) :
    pool.inFlight.length ≤ pool.unfulfilled.length := by
  apply List.Sublist.length_le
  apply List.monotone_filter_right
  intro promise in_flight
  have status_eq := of_decide_eq_true in_flight
  apply decide_eq_true
  rw [status_eq]
  simp

private theorem inFlight_start (item : Item) :
    (pool.start item).inFlight = pool.inFlight ++ [pool.calls.length] := by
  have length_eq : (pool.start item).calls.length = pool.calls.length + 1 := by
    simp [Pool.start]
  rw [Pool.inFlight, length_eq, List.range_succ, List.filter_append]
  congr 1
  · apply List.filter_congr
    intro other member
    rw [status_start_of_lt pool item (List.mem_range.mp member)]
  · rw [List.filter_singleton, status_start_self]
    rfl

private theorem length_inFlight_proceed (concurrency : ℤ) (rest : List Item) :
    pool.inFlight.length ≤ (pool.proceed concurrency rest).inFlight.length := by
  induction rest generalizing pool with
  | nil => exact Nat.le_refl _
  | cons item rest ih =>
      have started : pool.inFlight.length ≤ (pool.start item).inFlight.length := by
        rw [inFlight_start, List.length_append]
        exact Nat.le_add_right _ _
      rw [proceed_cons]
      split
      · exact started
      · exact started.trans ih

end InFlight

/-- `executing` stays within the bound, and in a race it only shrinks. -/
structure Pool.Bounded (concurrency : ℤ) (pool : Pool Item) : Prop where
  executing_le : (pool.executing.length : ℤ) ≤ max 1 concurrency
  raced : ∀ promises winner items, pool.position = .race promises winner items →
    pool.executing ⊆ promises ∧ (promises.length : ℤ) ≤ max 1 concurrency

section Bound

variable {concurrency : ℤ} {items : List Item} {pool next : Pool Item} {action : PoolAction}

theorem bounded_proceed (rest : List Item)
    (room : (pool.executing.length : ℤ) + 1 ≤ max 1 concurrency) :
    (pool.proceed concurrency rest).Bounded concurrency := by
  induction rest generalizing pool with
  | nil => exact ⟨(Int.le_add_one (Int.le_refl _)).trans room, by simp [Pool.proceed]⟩
  | cons item rest ih =>
      have length_eq : ((pool.start item).executing.length : ℤ) = pool.executing.length + 1 := by
        simp [Pool.start]
      rw [proceed_cons]
      split
      · have within : ((pool.start item).executing.length : ℤ) ≤ max 1 concurrency := by
          rwa [length_eq]
        refine ⟨within, ?_⟩
        rintro _ _ _ ⟨⟩
        exact ⟨List.Subset.refl _, within⟩
      · apply ih
        omega

private theorem bounded_promisePool (concurrency : ℤ) (items : List Item) :
    (promisePool concurrency items).Bounded concurrency :=
  bounded_proceed items (le_max_left 1 concurrency)

private theorem spliceFinished_sublist (executing : List ℕ) (promise : ℕ) :
    (spliceFinished executing promise).Sublist executing := by
  rw [spliceFinished]
  split
  · exact List.eraseIdx_sublist _ _
  · exact List.dropLast_sublist _

private theorem executing_complete_sublist (promise : ℕ) (settlement : Settlement) :
    (pool.complete promise settlement).executing.Sublist pool.executing := by
  cases settlement with
  | fulfilled => exact spliceFinished_sublist _ _
  | rejected => exact List.Sublist.refl _

private theorem race_of_observe {position : PoolPosition Item} {promise : ℕ}
    {settlement : Settlement}
    {promises : List ℕ} {winner : Option Settlement} {rest : List Item}
    (observed : position.observe promise settlement = .race promises winner rest) :
    ∃ earlier, position = .race promises earlier rest := by
  cases position with
  | race raced earlier items =>
      cases earlier with
      | none =>
          cases observed
          exact ⟨none, rfl⟩
      | some settlement =>
          cases observed
          exact ⟨_, rfl⟩
  | _ => cases observed

private theorem room_of_won {promises : List ℕ} {rest : List Item} (sound : pool.Sound items)
    (bounded : pool.Bounded concurrency)
    (won : pool.position = .race promises (some .fulfilled) rest) :
    (pool.executing.length : ℤ) + 1 ≤ max 1 concurrency := by
  obtain ⟨executing_eq, -, awaits⟩ := sound
  rw [won] at awaits
  obtain ⟨winner, member, completed⟩ := awaits
  obtain ⟨subset, within⟩ := bounded.raced _ _ _ won
  have gone : winner ∉ pool.executing := by
    rw [executing_eq, mem_unfulfilled]
    exact fun unfulfilled => unfulfilled.2 completed
  have nodup : (winner :: pool.executing).Nodup :=
    List.nodup_cons.mpr ⟨gone, executing_eq ▸ nodup_unfulfilled⟩
  have all_raced : winner :: pool.executing ⊆ promises := List.cons_subset.mpr ⟨member, subset⟩
  have fewer := (List.subperm_of_subset nodup all_raced).length_le
  rw [List.length_cons] at fewer
  omega

private theorem bounded_step (sound : pool.Sound items) (bounded : pool.Bounded concurrency)
    (step : PoolStep concurrency pool action next) : next.Bounded concurrency := by
  cases step with
  | settled settlement pending => exact ⟨bounded.executing_le, bounded.raced⟩
  | @completed promise settlement ready =>
      have fewer := @executing_complete_sublist _ pool promise settlement
      refine ⟨(Int.ofNat_le.mpr fewer.length_le).trans bounded.executing_le, ?_⟩
      intro promises winner rest raced
      obtain ⟨earlier, position_eq⟩ := race_of_observe raced
      obtain ⟨subset, within⟩ := bounded.raced _ _ _ position_eq
      exact ⟨List.Subset.trans fewer.subset subset, within⟩
  | raceResolved won => exact bounded_proceed _ (room_of_won sound bounded won)
  | raceRejected lost => exact ⟨bounded.executing_le, by simp⟩
  | allResolved awaited fulfilled => exact ⟨bounded.executing_le, by simp⟩
  | allRejected awaited member rejected => exact ⟨bounded.executing_le, by simp⟩

end Bound

section Started

variable {concurrency : ℤ} {pool next last : Pool Item} {action : PoolAction}
  {later : List PoolAction}

private theorem items_proceed (concurrency : ℤ) (rest : List Item) :
    pool.calls.map Call.item <+: (pool.proceed concurrency rest).calls.map Call.item := by
  induction rest generalizing pool with
  | nil => exact List.prefix_rfl
  | cons item rest ih =>
      have started : pool.calls.map Call.item <+: (pool.start item).calls.map Call.item := by
        rw [Pool.start, List.map_append]
        exact List.prefix_append _ _
      rw [proceed_cons]
      split
      · exact started
      · exact started.trans ih

private theorem items_step (step : PoolStep concurrency pool action next) :
    pool.calls.map Call.item <+: next.calls.map Call.item := by
  cases step with
  | settled settlement pending => exact ⟨[], by rw [items_setState, List.append_nil]⟩
  | completed ready =>
      refine ⟨[], ?_⟩
      change _ = (pool.setState _ _).calls.map Call.item
      rw [items_setState, List.append_nil]
  | raceResolved won => exact items_proceed concurrency _
  | _ => exact List.prefix_rfl

private theorem items_run (run : Run (PoolStep concurrency) pool later last) :
    pool.calls.map Call.item <+: last.calls.map Call.item := by
  apply run.invariant
  · exact List.prefix_rfl
  · intro middle action next ih step
    exact ih.trans (items_step step)

theorem observesRejection_setState {promise : ℕ} {position : PoolPosition Item}
    (observed : pool.ObservesRejection position) (pending : pool.Pending promise)
    (state : CallState) : (pool.setState promise state).ObservesRejection position := by
  cases position with
  | all promises =>
      obtain ⟨other, member, rejected⟩ := observed
      exact ⟨other, member, completed_setState pending rejected _⟩
  | _ => exact observed

private theorem observesRejection_observe {position : PoolPosition Item}
    (observed : pool.ObservesRejection position) (promise : ℕ) (settlement : Settlement) :
    pool.ObservesRejection (position.observe promise settlement) := by
  cases position with
  | race promises winner rest =>
      cases observed
      rfl
  | _ => exact observed

private theorem rejectionObserved_step (observed : pool.RejectionObserved)
    (step : PoolStep concurrency pool action next) :
    next.RejectionObserved ∧ next.calls.map Call.item = pool.calls.map Call.item := by
  cases step with
  | settled settlement pending =>
      exact ⟨observesRejection_setState observed (.inl pending) _, items_setState pool _ _⟩
  | completed ready =>
      refine ⟨observesRejection_observe ?_ _ _, items_setState pool _ _⟩
      exact observesRejection_setState observed (.inr ⟨_, ready⟩) _
  | raceResolved won =>
      rw [Pool.RejectionObserved, won] at observed
      cases observed
  | raceRejected lost => exact ⟨trivial, rfl⟩
  | allResolved awaited fulfilled =>
      rw [Pool.RejectionObserved, awaited] at observed
      obtain ⟨promise, member, rejected⟩ := observed
      rw [fulfilled promise member] at rejected
      cases rejected
  | allRejected awaited member rejected => exact ⟨trivial, rfl⟩

private theorem rejectionObserved_run (observed : pool.RejectionObserved)
    (run : Run (PoolStep concurrency) pool later last) :
    last.RejectionObserved ∧ last.calls.map Call.item = pool.calls.map Call.item := by
  apply run.invariant
  · exact ⟨observed, rfl⟩
  · intro middle action next ih step
    obtain ⟨still_observed, items_eq⟩ := rejectionObserved_step ih.1 step
    exact ⟨still_observed, items_eq.trans ih.2⟩

end Started

section Runs

variable {concurrency : ℤ} {items : List Item} {actions : List PoolAction} {pool : Pool Item}

private theorem bounded_run
    (run : Run (PoolStep concurrency) (promisePool concurrency items) actions pool) :
    pool.Sound items ∧ pool.Bounded concurrency := by
  apply run.invariant
  · exact ⟨sound_promisePool concurrency items, bounded_promisePool concurrency items⟩
  · intro middle action next ih step
    exact ⟨sound_step ih.1 step, bounded_step ih.1 ih.2 step⟩

private theorem failed_run
    (run : Run (PoolStep concurrency) (promisePool concurrency items) actions pool) :
    pool.Failed ↔ actions.any PoolAction.fails = true := by
  apply run.history_invariant
  · exact iff_of_false (not_failed_promisePool concurrency items) Bool.false_ne_true
  · intro past middle action next ih step
    rw [failed_step step, ih, List.any_append, Bool.or_eq_true]
    simp

private theorem work_run
    (run : Run (PoolStep concurrency) (promisePool concurrency items) actions pool) :
    actions.length + pool.work ≤ 3 * items.length + 1 := by
  apply run.history_invariant
  · rw [List.length_nil, Nat.zero_add]
    exact work_promisePool_le concurrency items
  · intro past middle action next ih step
    have less := work_step step
    rw [List.length_append, List.length_singleton]
    omega

private theorem length_inFlight_of_bounded (sound : pool.Sound items)
    (bounded : pool.Bounded concurrency) : (pool.inFlight.length : ℤ) ≤ max 1 concurrency := by
  have in_flight := length_inFlight_le pool
  rw [← sound.executing_eq] at in_flight
  exact (Int.ofNat_le.mpr in_flight).trans bounded.executing_le

private theorem items_prefix (sound : pool.Sound items) : pool.calls.map Call.item <+: items := by
  obtain ⟨rest, -, order⟩ := sound.order
  exact ⟨rest, order⟩

/-- When only the mapper can act, a pool with a failed call has rejected. -/
theorem rejected_of_settles (sound : pool.Sound items) (bounded : pool.Bounded concurrency)
    (failed : pool.Failed)
    (waits : ∀ action next, PoolStep concurrency pool action next → action.settles = true) :
    pool.position = .rejected := by
  have no_callback : ∀ promise settlement,
      pool.status promise ≠ some (.settled settlement) := by
    intro promise settlement ready
    have settles := waits _ _ (.completed ready)
    cases settles
  obtain ⟨promise, ready | rejected⟩ := failed
  · exact absurd ready (no_callback promise _)
  have executing : promise ∈ pool.executing := by
    rw [sound.executing_eq, mem_unfulfilled, rejected]
    exact ⟨lt_length_of_status pool rejected, by simp⟩
  have awaits := sound.awaits
  cases position_eq : pool.position with
  | race promises winner rest =>
      rw [position_eq] at awaits
      cases winner with
      | none =>
          -- The failed call takes part in the race, which would have settled.
          have raced := (bounded.raced _ _ _ position_eq).1 executing
          rcases awaits.2 promise raced with in_flight | ⟨settlement, ready⟩
          · rw [rejected] at in_flight
            cases in_flight
          · exact absurd ready (no_callback promise _)
      | some settlement =>
          cases settlement with
          | fulfilled =>
              have settles := waits _ _ (.raceResolved position_eq)
              cases settles
          | rejected =>
              have settles := waits _ _ (.raceRejected position_eq)
              cases settles
  | all promises =>
      rw [position_eq] at awaits
      have settles := waits _ _ (.allRejected position_eq (awaits.1 promise executing) rejected)
      cases settles
  | resolved => exact absurd ⟨promise, .inr rejected⟩ (not_failed_of_resolved sound position_eq)
  | rejected => rfl

/-- A pool that can do nothing more has resolved, unless a call has failed. -/
theorem resolved_of_stuck (sound : pool.Sound items) (not_failed : ¬pool.Failed)
    (stuck : ∀ action next, ¬PoolStep concurrency pool action next) :
    pool.position = .resolved := by
  by_contra not_resolved
  have not_rejected : pool.position ≠ .rejected := by
    intro rejected
    exact not_failed (failed_of_rejected sound rejected)
  obtain ⟨action, next, step⟩ := exists_step concurrency sound ⟨not_resolved, not_rejected⟩
  exact stuck action next step

end Runs

/-- The pool keeps its contract in every order in which the calls settle. -/
theorem promisePool_contract {concurrency : ℤ} {items : List Item} {actions : List PoolAction}
    {pool : Pool Item}
    (run : Run (PoolStep concurrency) (promisePool concurrency items) actions pool) :
    PoolContract concurrency items actions pool := by
  obtain ⟨sound, bounded⟩ := bounded_run run
  have failed_iff := failed_run run
  have within := length_inFlight_of_bounded sound bounded
  exact {
    bounded := within
    passing := by
      rintro middle rest rfl
      have grown := @length_inFlight_proceed _ middle concurrency rest
      exact (Int.ofNat_le.mpr grown).trans within
    ordered := items_prefix sound
    kept := fun later last further => items_run further
    completed := by
      intro resolved
      have not_failed := not_failed_of_resolved sound resolved
      rw [failed_iff, Bool.not_eq_true] at not_failed
      exact ⟨not_failed, fulfilled_of_resolved sound resolved⟩
    failed := fun rejected => failed_iff.mp (failed_of_rejected sound rejected)
    stopped := fun observed later last further => (rejectionObserved_run observed further).2
    resolves := by
      intro no_failure stuck
      apply resolved_of_stuck sound ?_ stuck
      rw [failed_iff, no_failure]
      exact Bool.false_ne_true
    rejects := fun failure waits =>
      rejected_of_settles sound bounded (failed_iff.mpr failure) waits
    finite := (Nat.le_add_right _ _).trans (work_run run) }

/-- The first of two calls fails, and the second item is never started. -/
theorem promisePool_contract_failure :
    PoolContract 1 [10, 20] [.settled 0 .rejected, .completed 0, .resumed]
      { ((promisePool 1 [10, 20]).setState 0 (.settled .rejected)).complete 0 .rejected with
        position := .rejected } :=
  promisePool_contract
    (((Run.refl.tail (.settled .rejected (by rfl))).tail (.completed (by rfl))).tail
      (.raceRejected (by rfl)))

end SolConversion.Indexer
