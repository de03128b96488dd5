import Mathlib.Algebra.Ring.Nat
import Mathlib.Data.Int.Notation
import Mathlib.Data.List.Nodup
import Mathlib.Tactic.Common

/-!
# The promise pool

`promisePool` starts the calls of its mapper in order and awaits a race of the unfinished ones
whenever there are enough of them.  The calls settle in any order; the completion callback of a call
takes its promise out of `executing` before whatever awaits the promise resumes.  Between two awaits
the loop runs to completion.
-/

namespace SolConversion.Indexer

/-- How a promise settled. -/
inductive Settlement
  | fulfilled
  | rejected
  deriving DecidableEq

/-- How far a call of the mapper has come. -/
inductive CallState
  | inFlight
  /-- The mapper's promise is settled and the completion callback has not run yet. -/
  | settled (settlement : Settlement)
  /-- The promise in `executing` is settled. -/
  | completed (settlement : Settlement)
  deriving DecidableEq

/-- A call of the mapper. -/
structure Call (Item : Type) where
  item : Item
  state : CallState

/-- What the pool awaits, or how it ended; a promise is named by its place among the calls. -/
inductive PoolPosition (Item : Type)
  /-- `Promise.race`: the promises, how the first of them settled, and the items not started. -/
  | race (promises : List ℕ) (winner : Option Settlement) (items : List Item)
  /-- `Promise.all` -/
  | all (promises : List ℕ)
  | resolved
  | rejected

structure Pool (Item : Type) where
  /-- The calls of the mapper so far. -/
  calls : List (Call Item)
  executing : List ℕ
  position : PoolPosition Item

variable {Item : Type}

def Pool.status (pool : Pool Item) (promise : ℕ) : Option CallState :=
  pool.calls[promise]?.map Call.state

/-- `executing.splice(executing.indexOf(p), 1)`: an index of -1 counts from the end. -/
def spliceFinished (executing : List ℕ) (promise : ℕ) : List ℕ :=
  match executing.idxOf? promise with
  | some index => executing.eraseIdx index
  | none => executing.dropLast

/-- How a race of these promises has settled already; those in `executing` are never fulfilled. -/
def Pool.settledEarly (pool : Pool Item) (promises : List ℕ) : Option Settlement :=
  if promises.any fun promise => pool.status promise = some (.completed .rejected) then
    some .rejected
  else none

/-- `const p = mapper(item).then(..)` and `executing.push(p)` -/
def Pool.start (pool : Pool Item) (item : Item) : Pool Item :=
  { pool with
    calls := pool.calls ++ [⟨item, .inFlight⟩]
    executing := pool.executing ++ [pool.calls.length] }

/-- The loop over the items up to its next await, or the await after the loop. -/
def Pool.proceed (concurrency : ℤ) (pool : Pool Item) : List Item → Pool Item
  | [] => { pool with position := .all pool.executing }
  | item :: items =>
      let started := pool.start item
      if (started.executing.length : ℤ) ≥ concurrency then
        { started with
          position := .race started.executing (started.settledEarly started.executing) items }
      else started.proceed concurrency items

/-- `promisePool` up to its first await. -/
def promisePool (concurrency : ℤ) (items : List Item) : Pool Item :=
  Pool.proceed concurrency ⟨[], [], .all []⟩ items

/-- Move a call on. -/
def Pool.setState (pool : Pool Item) (promise : ℕ) (state : CallState) : Pool Item :=
  { pool with calls := pool.calls.modify promise fun call => { call with state } }

/-- The first of its promises to settle wins a race. -/
def PoolPosition.observe (promise : ℕ) (settlement : Settlement) :
    PoolPosition Item → PoolPosition Item
  | .race promises none items =>
      .race promises (if promise ∈ promises then some settlement else none) items
  | position => position

/-- The completion callback of a call, after which its promise is settled. -/
def Pool.complete (pool : Pool Item) (promise : ℕ) (settlement : Settlement) : Pool Item :=
  { pool.setState promise (.completed settlement) with
    executing := match settlement with
      | .fulfilled => spliceFinished pool.executing promise
      | .rejected => pool.executing
    position := pool.position.observe promise settlement }

/-- What can happen next. -/
inductive PoolAction
  /-- The mapper's promise settles. -/
  | settled (promise : ℕ) (settlement : Settlement)
  /-- The completion callback runs. -/
  | completed (promise : ℕ)
  /-- What the pool awaits has settled, and the pool goes on. -/
  | resumed
  deriving DecidableEq

/-- Whether an action is the failure of a call. -/
def PoolAction.fails : PoolAction → Bool
  | .settled _ .rejected => true
  | _ => false

/-- One step of the pool under a concurrency limit. -/
inductive PoolStep (concurrency : ℤ) (pool : Pool Item) : PoolAction → Pool Item → Prop
  | settled {promise : ℕ} (settlement : Settlement)
      (pending : pool.status promise = some .inFlight) :
      PoolStep concurrency pool (.settled promise settlement)
        (pool.setState promise (.settled settlement))
  | completed {promise : ℕ} {settlement : Settlement}
      (ready : pool.status promise = some (.settled settlement)) :
      PoolStep concurrency pool (.completed promise) (pool.complete promise settlement)
  | raceResolved {promises : List ℕ} {items : List Item}
      (won : pool.position = .race promises (some .fulfilled) items) :
      PoolStep concurrency pool .resumed (pool.proceed concurrency items)
  | raceRejected {promises : List ℕ} {items : List Item}
      (lost : pool.position = .race promises (some .rejected) items) :
      PoolStep concurrency pool .resumed { pool with position := .rejected }
  | allResolved {promises : List ℕ} (awaited : pool.position = .all promises)
      (fulfilled : ∀ promise ∈ promises, pool.status promise = some (.completed .fulfilled)) :
      PoolStep concurrency pool .resumed { pool with position := .resolved }
  | allRejected {promises : List ℕ} {promise : ℕ} (awaited : pool.position = .all promises)
      (member : promise ∈ promises)
      (rejected : pool.status promise = some (.completed .rejected)) :
      PoolStep concurrency pool .resumed { pool with position := .rejected }

section Statuses

variable (pool : Pool Item)

theorem status_eq_none_iff {promise : ℕ} :
    pool.status promise = none ↔ pool.calls.length ≤ promise := by
  simp [Pool.status]

theorem lt_length_of_status {promise : ℕ} {state : CallState}
    (status_eq : pool.status promise = some state) : promise < pool.calls.length := by
  by_contra beyond
  rw [(status_eq_none_iff pool).mpr (Nat.not_lt.mp beyond)] at status_eq
  cases status_eq

@[simp]
theorem length_setState (promise : ℕ) (state : CallState) :
    (pool.setState promise state).calls.length = pool.calls.length := by
  simp [Pool.setState]

@[simp]
theorem items_setState (promise : ℕ) (state : CallState) :
    (pool.setState promise state).calls.map Call.item = pool.calls.map Call.item := by
  apply List.ext_getElem?
  intro index
  simp only [Pool.setState, List.getElem?_map, List.getElem?_modify, Option.map_map,
    Option.map_eq_map]
  congr 1
  funext call
  simp only [Function.comp]
  split <;> rfl

theorem status_setState (promise other : ℕ) (state : CallState) :
    (pool.setState promise state).status other =
      if promise = other then (pool.status other).map fun _ => state else pool.status other := by
  simp only [Pool.status, Pool.setState, List.getElem?_modify, Option.map_eq_map, Option.map_map]
  by_cases same : promise = other
  · rw [if_pos same]
    congr 1
    funext call
    simp [same]
  · rw [if_neg same]
    congr 1
    funext call
    simp [same]

theorem status_setState_self {promise : ℕ} {old : CallState}
    (status_eq : pool.status promise = some old) (state : CallState) :
    (pool.setState promise state).status promise = some state := by
  rw [status_setState, if_pos rfl, status_eq]
  rfl

theorem status_setState_of_ne {promise other : ℕ} (distinct : promise ≠ other)
    (state : CallState) : (pool.setState promise state).status other = pool.status other := by
  rw [status_setState, if_neg distinct]

theorem status_start_of_lt (item : Item) {promise : ℕ} (started : promise < pool.calls.length) :
    (pool.start item).status promise = pool.status promise := by
  simp [Pool.status, Pool.start, List.getElem?_append_left started]

theorem status_start_self (item : Item) :
    (pool.start item).status pool.calls.length = some .inFlight := by
  simp [Pool.status, Pool.start]

end Statuses

/-- The promises that are not fulfilled, in the order of their calls. -/
def Pool.unfulfilled (pool : Pool Item) : List ℕ :=
  (List.range pool.calls.length).filter fun promise =>
    pool.status promise ≠ some (.completed .fulfilled)

/-- A call whose completion callback has not run. -/
def Pool.Pending (pool : Pool Item) (promise : ℕ) : Prop :=
  pool.status promise = some .inFlight ∨
    ∃ settlement, pool.status promise = some (.settled settlement)

/-- The items a position leaves; a rejected pool may leave any. -/
def PoolPosition.Leaves : PoolPosition Item → List Item → Prop
  | .race _ _ items, rest => rest = items
  | .all _, rest => rest = []
  | .resolved, rest => rest = []
  | .rejected, _ => True

/-- What a position says about the calls. -/
def Pool.Awaits (pool : Pool Item) : PoolPosition Item → Prop
  | .race promises none _ => promises ≠ [] ∧ ∀ promise ∈ promises, pool.Pending promise
  | .race promises (some settlement) _ =>
      ∃ promise ∈ promises, pool.status promise = some (.completed settlement)
  | .all promises =>
      (∀ promise ∈ pool.executing, promise ∈ promises) ∧
        ∀ promise ∈ promises, promise < pool.calls.length
  | .resolved => pool.executing = []
  | .rejected => ∃ promise, pool.status promise = some (.completed .rejected)

/-- The pool works on a list of items: it has started them in order, and `executing` holds the
promises that are not fulfilled. -/
structure Pool.Sound (items : List Item) (pool : Pool Item) : Prop where
  executing_eq : pool.executing = pool.unfulfilled
  order : ∃ rest, pool.position.Leaves rest ∧ pool.calls.map Call.item ++ rest = items
  awaits : pool.Awaits pool.position

section Unfulfilled

variable {pool : Pool Item} {promise : ℕ}

theorem mem_unfulfilled :
    promise ∈ pool.unfulfilled ↔
      promise < pool.calls.length ∧ pool.status promise ≠ some (.completed .fulfilled) := by
  simp [Pool.unfulfilled]

theorem pending_or_completed (started : promise < pool.calls.length) :
    pool.Pending promise ∨ ∃ settlement, pool.status promise = some (.completed settlement) := by
  cases status_eq : pool.status promise with
  | none => exact absurd started (Nat.not_lt.mpr ((status_eq_none_iff pool).mp status_eq))
  | some state =>
      cases state with
      | inFlight => exact .inl (.inl status_eq)
      | settled settlement => exact .inl (.inr ⟨settlement, status_eq⟩)
      | completed settlement => exact .inr ⟨settlement, rfl⟩

theorem nodup_unfulfilled : pool.unfulfilled.Nodup := List.nodup_range.filter _

theorem Pool.Pending.mem_unfulfilled (pending : pool.Pending promise) :
    promise ∈ pool.unfulfilled := by
  rw [Indexer.mem_unfulfilled]
  rcases pending with status_eq | ⟨settlement, status_eq⟩
  · exact ⟨lt_length_of_status pool status_eq, by simp [status_eq]⟩
  · exact ⟨lt_length_of_status pool status_eq, by simp [status_eq]⟩

private theorem unfulfilled_start (item : Item) :
    (pool.start item).unfulfilled = pool.unfulfilled ++ [pool.calls.length] := by
  have length_eq : (pool.start item).calls.length = pool.calls.length + 1 := by
    simp [Pool.start]
  rw [Pool.unfulfilled, length_eq, List.range_succ, List.filter_append]
  congr 1
  · apply List.filter_congr
    intro other member
    rw [status_start_of_lt pool item (List.mem_range.mp member)]
  · rw [List.filter_singleton, status_start_self]
    rfl

theorem unfulfilled_setState_of_pending (pending : pool.Pending promise) {state : CallState}
    (unfulfilled : state ≠ .completed .fulfilled) :
    (pool.setState promise state).unfulfilled = pool.unfulfilled := by
  rw [Pool.unfulfilled, length_setState]
  apply List.filter_congr
  intro other _
  rcases eq_or_ne promise other with rfl | distinct
  · rcases pending with status_eq | ⟨settlement, status_eq⟩
    · simp [status_setState_self pool status_eq, status_eq, unfulfilled]
    · simp [status_setState_self pool status_eq, status_eq, unfulfilled]
  · rw [status_setState_of_ne pool distinct]

private theorem unfulfilled_setState_fulfilled {old : CallState}
    (status_eq : pool.status promise = some old) :
    (pool.setState promise (.completed .fulfilled)).unfulfilled =
      pool.unfulfilled.filter (· ≠ promise) := by
  rw [Pool.unfulfilled, length_setState, Pool.unfulfilled, List.filter_filter]
  apply List.filter_congr
  intro other _
  rcases eq_or_ne promise other with rfl | distinct
  · simp [status_setState_self pool status_eq]
  · simp [status_setState_of_ne pool distinct, distinct.symm]

/-- The splice takes out the promise it is looking for. -/
theorem spliceFinished_of_mem {executing : List ℕ} (nodup : executing.Nodup)
    (member : promise ∈ executing) :
    spliceFinished executing promise = executing.filter (· ≠ promise) := by
  obtain ⟨index, found⟩ := Option.isSome_iff_exists.mp (List.isSome_idxOf?.mpr member)
  have erased : spliceFinished executing promise = executing.erase promise := by
    rw [List.erase_eq_eraseIdx, spliceFinished, found]
  rw [erased, nodup.erase_eq_filter]
  apply List.filter_congr
  intro other _
  rw [Bool.eq_iff_iff, bne_iff_ne, decide_eq_true_iff]

end Unfulfilled

/-- A race over `executing` waits for pending promises, unless one of them was rejected before. -/
theorem awaits_race {pool : Pool Item} (executing_eq : pool.executing = pool.unfulfilled)
    (nonempty : pool.executing ≠ []) (items : List Item) :
    pool.Awaits (.race pool.executing (pool.settledEarly pool.executing) items) := by
  rw [Pool.settledEarly]
  split
  · rename_i early
    obtain ⟨promise, member, status_eq⟩ := List.any_eq_true.mp early
    exact ⟨promise, member, of_decide_eq_true status_eq⟩
  · rename_i late
    refine ⟨nonempty, fun promise member => ?_⟩
    have not_rejected : pool.status promise ≠ some (.completed .rejected) := by
      intro status_eq
      exact late (List.any_eq_true.mpr ⟨promise, member, decide_eq_true status_eq⟩)
    rw [executing_eq, mem_unfulfilled] at member
    obtain ⟨within, not_fulfilled⟩ := member
    rcases pending_or_completed within with pending | ⟨settlement, completed⟩
    · exact pending
    · cases settlement with
      | fulfilled => exact absurd completed not_fulfilled
      | rejected => exact absurd completed not_rejected

theorem proceed_cons (concurrency : ℤ) (pool : Pool Item) (item : Item) (items : List Item) :
    pool.proceed concurrency (item :: items) =
      if ((pool.start item).executing.length : ℤ) ≥ concurrency then
        { pool.start item with
          position := .race (pool.start item).executing
            ((pool.start item).settledEarly (pool.start item).executing) items }
      else (pool.start item).proceed concurrency items := rfl

/-- The loop keeps the order of the items and `executing`. -/
theorem sound_proceed (concurrency : ℤ) {pool : Pool Item} {items rest : List Item}
    (executing_eq : pool.executing = pool.unfulfilled)
    (order : pool.calls.map Call.item ++ rest = items) :
    (pool.proceed concurrency rest).Sound items := by
  induction rest generalizing pool with
  | nil =>
      refine ⟨executing_eq, ⟨[], rfl, order⟩, fun _ member => member, ?_⟩
      intro promise member
      change promise ∈ pool.executing at member
      rw [executing_eq, mem_unfulfilled] at member
      exact member.1
  | cons item rest ih =>
      have started_executing : (pool.start item).executing = (pool.start item).unfulfilled := by
        rw [unfulfilled_start, ← executing_eq]
        rfl
      have started_order : (pool.start item).calls.map Call.item ++ rest = items := by
        rw [← order]
        simp [Pool.start]
      rw [proceed_cons]
      split
      · exact ⟨started_executing, ⟨rest, rfl, started_order⟩,
          awaits_race started_executing (by simp [Pool.start]) rest⟩
      · exact ih started_executing started_order

theorem sound_promisePool (concurrency : ℤ) (items : List Item) :
    (promisePool concurrency items).Sound items :=
  sound_proceed concurrency rfl rfl

section Steps

variable {concurrency : ℤ} {items : List Item} {pool next : Pool Item} {action : PoolAction}

theorem completed_setState {promise other : ℕ} (pending : pool.Pending promise)
    {settlement : Settlement} (completed : pool.status other = some (.completed settlement))
    (state : CallState) :
    (pool.setState promise state).status other = some (.completed settlement) := by
  have distinct : promise ≠ other := by
    rintro rfl
    rcases pending with status_eq | ⟨_, status_eq⟩
    · rw [status_eq] at completed
      cases completed
    · rw [status_eq] at completed
      cases completed
  rw [status_setState_of_ne pool distinct, completed]

private theorem sound_settled {promise : ℕ} (sound : pool.Sound items)
    (pending : pool.status promise = some .inFlight) (settlement : Settlement) :
    (pool.setState promise (.settled settlement)).Sound items := by
  obtain ⟨executing_eq, ⟨rest, leaves, order⟩, awaits⟩ := sound
  have unfinished : pool.Pending promise := .inl pending
  refine ⟨?_, ⟨rest, leaves, ?_⟩, ?_⟩
  · rw [unfulfilled_setState_of_pending unfinished (by simp), ← executing_eq]
    rfl
  · rw [items_setState, order]
  · change (pool.setState promise _).Awaits pool.position
    cases position_eq : pool.position with
    | race promises winner rest =>
        rw [position_eq] at awaits
        cases winner with
        | none =>
            refine ⟨awaits.1, fun other member => ?_⟩
            rcases eq_or_ne promise other with rfl | distinct
            · exact .inr ⟨settlement, status_setState_self pool pending _⟩
            · rw [Pool.Pending, status_setState_of_ne pool distinct]
              exact awaits.2 other member
        | some winner =>
            obtain ⟨other, member, completed⟩ := awaits
            exact ⟨other, member, completed_setState unfinished completed _⟩
    | all promises =>
        rw [position_eq] at awaits
        exact ⟨awaits.1, by simpa using awaits.2⟩
    | resolved =>
        rw [position_eq] at awaits
        exact awaits
    | rejected =>
        rw [position_eq] at awaits
        obtain ⟨other, completed⟩ := awaits
        exact ⟨other, completed_setState unfinished completed _⟩

private theorem executing_complete (executing_eq : pool.executing = pool.unfulfilled) {promise : ℕ}
    {settlement : Settlement} (ready : pool.status promise = some (.settled settlement)) :
    (pool.complete promise settlement).executing =
      (pool.setState promise (.completed settlement)).unfulfilled := by
  have pending : pool.Pending promise := .inr ⟨settlement, ready⟩
  cases settlement with
  | fulfilled =>
      have member : promise ∈ pool.executing := by
        rw [executing_eq]
        exact pending.mem_unfulfilled
      have nodup : pool.executing.Nodup := by
        rw [executing_eq]
        exact nodup_unfulfilled
      rw [unfulfilled_setState_fulfilled ready, ← executing_eq]
      exact spliceFinished_of_mem nodup member
  | rejected =>
      rw [unfulfilled_setState_of_pending pending (by simp), ← executing_eq]
      rfl

private theorem sound_completed {promise : ℕ} {settlement : Settlement} (sound : pool.Sound items)
    (ready : pool.status promise = some (.settled settlement)) :
    (pool.complete promise settlement).Sound items := by
  obtain ⟨executing_eq, ⟨rest, leaves, order⟩, awaits⟩ := sound
  have pending : pool.Pending promise := .inr ⟨settlement, ready⟩
  have executing_after := executing_complete executing_eq ready
  have status_after := status_setState_self pool ready (.completed settlement)
  refine ⟨executing_after, ⟨rest, ?_, ?_⟩, ?_⟩
  · change (pool.position.observe promise settlement).Leaves rest
    revert leaves
    cases pool.position with
    | race promises winner rest => cases winner <;> exact id
    | _ => exact id
  · change (pool.setState promise _).calls.map Call.item ++ rest = items
    rw [items_setState, order]
  · change (pool.complete promise settlement).Awaits (pool.position.observe promise settlement)
    cases position_eq : pool.position with
    | race promises winner rest =>
        rw [position_eq] at awaits
        cases winner with
        | none =>
            by_cases member : promise ∈ promises
            · rw [PoolPosition.observe, if_pos member]
              exact ⟨promise, member, status_after⟩
            · rw [PoolPosition.observe, if_neg member]
              refine ⟨awaits.1, fun other other_member => ?_⟩
              have distinct : promise ≠ other := by
                rintro rfl
                exact member other_member
              change (pool.setState promise _).Pending other
              rw [Pool.Pending, status_setState_of_ne pool distinct]
              exact awaits.2 other other_member
        | some winner =>
            obtain ⟨other, member, completed⟩ := awaits
            exact ⟨other, member, completed_setState pending completed _⟩
    | all promises =>
        rw [position_eq] at awaits
        refine ⟨fun other member => ?_, ?_⟩
        · rw [executing_after, mem_unfulfilled] at member
          apply awaits.1
          rw [executing_eq, mem_unfulfilled]
          refine ⟨by simpa using member.1, fun completed => ?_⟩
          exact member.2 (completed_setState pending completed _)
        · exact fun other member => by
            simpa [Pool.complete] using awaits.2 other member
    | resolved =>
        rw [position_eq] at awaits
        have member := pending.mem_unfulfilled
        rw [← executing_eq, awaits] at member
        cases member
    | rejected =>
        rw [position_eq] at awaits
        obtain ⟨other, completed⟩ := awaits
        exact ⟨other, completed_setState pending completed _⟩

/-- Every step keeps the pool sound. -/
theorem sound_step (sound : pool.Sound items) (step : PoolStep concurrency pool action next) :
    next.Sound items := by
  cases step with
  | settled settlement pending => exact sound_settled sound pending settlement
  | completed ready => exact sound_completed sound ready
  | raceResolved won =>
      obtain ⟨executing_eq, ⟨rest, leaves, order⟩, -⟩ := sound
      rw [won] at leaves
      cases leaves
      exact sound_proceed concurrency executing_eq order
  | raceRejected lost =>
      obtain ⟨executing_eq, ⟨rest, -, order⟩, awaits⟩ := sound
      rw [lost] at awaits
      obtain ⟨promise, -, completed⟩ := awaits
      exact ⟨executing_eq, ⟨rest, trivial, order⟩, promise, completed⟩
  | allResolved awaited fulfilled =>
      obtain ⟨executing_eq, ⟨rest, leaves, order⟩, awaits⟩ := sound
      rw [awaited] at leaves awaits
      refine ⟨executing_eq, ⟨rest, leaves, order⟩, ?_⟩
      apply List.eq_nil_iff_forall_not_mem.mpr
      intro promise member
      have unfulfilled : promise ∈ pool.unfulfilled := executing_eq ▸ member
      exact (mem_unfulfilled.mp unfulfilled).2 (fulfilled promise (awaits.1 promise member))
  | allRejected awaited member rejected =>
      obtain ⟨executing_eq, ⟨rest, -, order⟩, -⟩ := sound
      exact ⟨executing_eq, ⟨rest, trivial, order⟩, _, rejected⟩

end Steps

/-! ## How the pool ends -/

/-- A call of the mapper has failed. -/
def Pool.Failed (pool : Pool Item) : Prop :=
  ∃ promise, pool.status promise = some (.settled .rejected) ∨
    pool.status promise = some (.completed .rejected)

section Ends

variable {concurrency : ℤ} {items : List Item} {pool next : Pool Item} {action : PoolAction}

theorem lt_length_of_failed {promise : ℕ}
    (failed : pool.status promise = some (.settled .rejected) ∨
      pool.status promise = some (.completed .rejected)) : promise < pool.calls.length := by
  rcases failed with status_eq | status_eq
  · exact lt_length_of_status pool status_eq
  · exact lt_length_of_status pool status_eq

theorem failed_start (item : Item) : (pool.start item).Failed ↔ pool.Failed := by
  constructor
  · rintro ⟨promise, failed⟩
    rcases Nat.lt_trichotomy promise pool.calls.length with before | rfl | beyond
    · rw [status_start_of_lt pool item before] at failed
      exact ⟨promise, failed⟩
    · simp [status_start_self] at failed
    · have absent : (pool.start item).status promise = none := by
        rw [status_eq_none_iff]
        have length_eq : (pool.start item).calls.length = pool.calls.length + 1 := by
          simp [Pool.start]
        omega
      simp [absent] at failed
  · rintro ⟨promise, failed⟩
    refine ⟨promise, ?_⟩
    rwa [status_start_of_lt pool item (lt_length_of_failed failed)]

theorem failed_proceed (concurrency : ℤ) (rest : List Item) :
    (pool.proceed concurrency rest).Failed ↔ pool.Failed := by
  induction rest generalizing pool with
  | nil => exact Iff.rfl
  | cons item rest ih =>
      rw [proceed_cons]
      split
      · exact failed_start item
      · rw [ih, failed_start]

theorem not_failed_promisePool (concurrency : ℤ) (items : List Item) :
    ¬(promisePool concurrency items).Failed := by
  rw [promisePool, failed_proceed]
  rintro ⟨promise, failed⟩
  simp [Pool.status] at failed

/-- A step fails a pool only by the rejection of a call. -/
theorem failed_step (step : PoolStep concurrency pool action next) :
    next.Failed ↔ pool.Failed ∨ action.fails = true := by
  cases step with
  | @settled promise settlement pending =>
      constructor
      · rintro ⟨other, failed⟩
        rcases eq_or_ne promise other with rfl | distinct
        · rw [status_setState_self pool pending] at failed
          cases settlement with
          | fulfilled => simp at failed
          | rejected => exact .inr rfl
        · rw [status_setState_of_ne pool distinct] at failed
          exact .inl ⟨other, failed⟩
      · rintro (⟨other, failed⟩ | fails)
        · have distinct : promise ≠ other := by
            rintro rfl
            simp [pending] at failed
          refine ⟨other, ?_⟩
          rwa [status_setState_of_ne pool distinct]
        · cases settlement with
          | fulfilled => cases fails
          | rejected => exact ⟨promise, .inl (status_setState_self pool pending _)⟩
  | @completed promise settlement ready =>
      have status_after := status_setState_self pool ready (.completed settlement)
      simp only [PoolAction.fails, Bool.false_eq_true, or_false]
      constructor
      · rintro ⟨other, failed⟩
        change (pool.setState promise _).status other = _ ∨
          (pool.setState promise _).status other = _ at failed
        rcases eq_or_ne promise other with rfl | distinct
        · rw [status_after] at failed
          refine ⟨promise, .inl ?_⟩
          simpa [ready] using failed
        · rw [status_setState_of_ne pool distinct] at failed
          exact ⟨other, failed⟩
      · rintro ⟨other, failed⟩
        refine ⟨other, ?_⟩
        change (pool.setState promise _).status other = _ ∨
          (pool.setState promise _).status other = _
        rcases eq_or_ne promise other with rfl | distinct
        · rw [status_after]
          simpa [ready] using failed
        · rwa [status_setState_of_ne pool distinct]
  | raceResolved won => simpa [PoolAction.fails] using failed_proceed concurrency _
  | _ =>
      simp only [PoolAction.fails, Bool.false_eq_true, or_false]
      exact Iff.rfl

/-- A resolved pool has called the mapper with every item, and every call is fulfilled. -/
theorem fulfilled_of_resolved (sound : pool.Sound items) (resolved : pool.position = .resolved) :
    pool.calls.map Call.item = items ∧
      ∀ promise < pool.calls.length, pool.status promise = some (.completed .fulfilled) := by
  obtain ⟨executing_eq, ⟨rest, leaves, order⟩, awaits⟩ := sound
  rw [resolved] at leaves awaits
  cases leaves
  refine ⟨by rw [← order, List.append_nil], fun promise started => ?_⟩
  by_contra unfulfilled
  have member : promise ∈ pool.unfulfilled := mem_unfulfilled.mpr ⟨started, unfulfilled⟩
  rw [← executing_eq, awaits] at member
  cases member

theorem not_failed_of_resolved (sound : pool.Sound items) (resolved : pool.position = .resolved) :
    ¬pool.Failed := by
  rintro ⟨promise, failed⟩
  have fulfilled := (fulfilled_of_resolved sound resolved).2 promise (lt_length_of_failed failed)
  rw [fulfilled] at failed
  rcases failed with status_eq | status_eq
  · cases status_eq
  · cases status_eq

theorem failed_of_rejected (sound : pool.Sound items) (rejected : pool.position = .rejected) :
    pool.Failed := by
  have awaits := sound.awaits
  rw [rejected] at awaits
  obtain ⟨promise, completed⟩ := awaits
  exact ⟨promise, .inr completed⟩

theorem exists_step_of_pending {promise : ℕ} (pending : pool.Pending promise) :
    ∃ action next, PoolStep concurrency pool action next := by
  rcases pending with in_flight | ⟨settlement, ready⟩
  · exact ⟨_, _, .settled .fulfilled in_flight⟩
  · exact ⟨_, _, .completed ready⟩

/-- A pool that has not ended can take a step: it never waits for nothing. -/
theorem exists_step (concurrency : ℤ) (sound : pool.Sound items)
    (running : pool.position ≠ .resolved ∧ pool.position ≠ .rejected) :
    ∃ action next, PoolStep concurrency pool action next := by
  have awaits := sound.awaits
  cases position_eq : pool.position with
  | race promises winner rest =>
      rw [position_eq] at awaits
      cases winner with
      | none =>
          obtain ⟨promise, member⟩ := List.exists_mem_of_ne_nil _ awaits.1
          exact exists_step_of_pending (awaits.2 promise member)
      | some settlement =>
          cases settlement with
          | fulfilled => exact ⟨_, _, .raceResolved position_eq⟩
          | rejected => exact ⟨_, _, .raceRejected position_eq⟩
  | all promises =>
      rw [position_eq] at awaits
      by_cases fulfilled :
          ∀ promise ∈ promises, pool.status promise = some (.completed .fulfilled)
      · exact ⟨_, _, .allResolved position_eq fulfilled⟩
      · push Not at fulfilled
        obtain ⟨promise, member, unfulfilled⟩ := fulfilled
        rcases pending_or_completed (awaits.2 promise member) with
          pending | ⟨settlement, completed⟩
        · exact exists_step_of_pending pending
        · cases settlement with
          | fulfilled => exact absurd completed unfulfilled
          | rejected => exact ⟨_, _, .allRejected position_eq member completed⟩
  | resolved => exact absurd position_eq running.1
  | rejected => exact absurd position_eq running.2

end Ends

/-- The steps a call has ahead of it. -/
def CallState.work : CallState → ℕ
  | .inFlight => 2
  | .settled _ => 1
  | .completed _ => 0

/-- The steps a position has ahead of it: every item is started, settles and completes. -/
def PoolPosition.work : PoolPosition Item → ℕ
  | .race _ _ items => 3 * items.length + 2
  | .all _ => 1
  | .resolved => 0
  | .rejected => 0

def Pool.callWork (pool : Pool Item) : ℕ := (pool.calls.map fun call => call.state.work).sum

def Pool.work (pool : Pool Item) : ℕ := pool.callWork + pool.position.work

section Work

variable {concurrency : ℤ} {pool next : Pool Item} {action : PoolAction}

theorem callWork_setState {promise : ℕ} {old : CallState}
    (status_eq : pool.status promise = some old) (state : CallState) :
    (pool.setState promise state).callWork + old.work = pool.callWork + state.work := by
  rw [Pool.status] at status_eq
  rw [Pool.callWork, Pool.callWork, Pool.setState]
  generalize pool.calls = calls at status_eq
  induction calls generalizing promise with
  | nil => cases status_eq
  | cons call calls ih =>
      cases promise with
      | zero =>
          obtain rfl := Option.some.inj status_eq
          simp only [List.modify_zero_cons, List.map_cons, List.sum_cons]
          omega
      | succ promise =>
          have later := ih status_eq
          simp only [List.modify_succ_cons, List.map_cons, List.sum_cons] at later ⊢
          omega

theorem callWork_start (item : Item) : (pool.start item).callWork = pool.callWork + 2 := by
  simp [Pool.callWork, Pool.start, CallState.work]

private theorem work_observe (position : PoolPosition Item) (promise : ℕ)
    (settlement : Settlement) :
    (position.observe promise settlement).work = position.work := by
  cases position with
  | race promises winner items => cases winner <;> rfl
  | _ => rfl

theorem work_proceed_le (rest : List Item) :
    (pool.proceed concurrency rest).work ≤ pool.callWork + 3 * rest.length + 1 := by
  induction rest generalizing pool with
  | nil => exact Nat.le_refl _
  | cons item rest ih =>
      rw [proceed_cons, List.length_cons]
      split
      · change (pool.start item).callWork + (3 * rest.length + 2) ≤ _
        rw [callWork_start]
        omega
      · have later := @ih (pool.start item)
        rw [callWork_start] at later
        omega

theorem work_promisePool_le (concurrency : ℤ) (items : List Item) :
    (promisePool concurrency items).work ≤ 3 * items.length + 1 := by
  have bound := @work_proceed_le _ concurrency ⟨[], [], .all []⟩ items
  simpa [Pool.callWork, promisePool] using bound

/-- Every step is one of the steps ahead. -/
theorem work_step (step : PoolStep concurrency pool action next) : next.work < pool.work := by
  cases step with
  | settled settlement pending =>
      have moved := callWork_setState pending (.settled settlement)
      simp only [CallState.work] at moved
      change (pool.setState _ _).callWork + pool.position.work < pool.callWork + _
      omega
  | @completed promise settlement ready =>
      have moved := callWork_setState ready (.completed settlement)
      simp only [CallState.work] at moved
      change (pool.setState _ _).callWork + (pool.position.observe promise settlement).work <
        pool.callWork + _
      rw [work_observe]
      omega
  | @raceResolved promises rest won =>
      have bound := @work_proceed_le _ concurrency pool rest
      have work_eq : pool.work = pool.callWork + (3 * rest.length + 2) := by
        rw [Pool.work, won, PoolPosition.work]
      omega
  | raceRejected lost =>
      rw [Pool.work, Pool.work, lost]
      simp [Pool.callWork, PoolPosition.work]
  | allResolved awaited _ =>
      rw [Pool.work, Pool.work, awaited]
      simp [Pool.callWork, PoolPosition.work]
  | allRejected awaited _ _ =>
      rw [Pool.work, Pool.work, awaited]
      simp [Pool.callWork, PoolPosition.work]

end Work

end SolConversion.Indexer
