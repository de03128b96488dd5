import Mathlib.Logic.Function.Basic
import SolConversion.Foundation.Fallible

/-!
# While loops

A fallible loop is run with a bound on its passes.  When a measure decreases at every pass, the
bound never cuts the loop short: the run satisfies the defining equation of the unbounded loop and
a larger bound changes nothing.
-/

namespace WhileLoop

open Fallible

universe u

variable {σ ε : Type u}

/-- At most `fuel` passes of `while guard do body`. -/
def run (guard : σ → Bool) (body : σ → Except ε σ) : ℕ → σ → Except ε σ
  | 0, state => .ok state
  | fuel + 1, state =>
      if guard state then body state >>= run guard body fuel else .ok state

/-- The states entering and leaving each pass of a run. -/
def passes (guard : σ → Bool) (body : σ → Except ε σ) : ℕ → σ → List (σ × σ)
  | 0, _ => []
  | fuel + 1, state =>
      if guard state then
        match body state with
        | .ok next => (state, next) :: passes guard body fuel next
        | .error _ => []
      else []

/-- Every successful pass makes the measure smaller. -/
def Decreases (guard : σ → Bool) (body : σ → Except ε σ) (measure : σ → ℕ) : Prop :=
  ∀ state next, guard state = true → body state = .ok next → measure next < measure state

section Run

variable {guard : σ → Bool} {body : σ → Except ε σ}

theorem run_of_not_guard {state : σ} (stopped : guard state = false) (fuel : ℕ) :
    run guard body fuel state = .ok state := by
  cases fuel <;> simp [run, stopped]

theorem run_succ {state next : σ} (running : guard state = true) (pass : body state = .ok next)
    (fuel : ℕ) : run guard body (fuel + 1) state = run guard body fuel next := by
  simp [run, running, pass]

/-- A property kept by every successful pass that the guard lets in holds at the end of a run. -/
theorem guarded_invariant {invariant : σ → Prop}
    (kept : ∀ state next, guard state = true → invariant state → body state = .ok next →
      invariant next) {fuel : ℕ} {state next : σ} (initially : invariant state)
    (finished : run guard body fuel state = .ok next) : invariant next := by
  induction fuel generalizing state with
  | zero =>
      cases finished
      exact initially
  | succ fuel ih =>
      cases running : guard state with
      | false =>
          rw [run_of_not_guard running] at finished
          cases finished
          exact initially
      | true =>
          simp only [run, running, if_true, bind_eq_ok] at finished
          obtain ⟨middle, pass, rest⟩ := finished
          exact ih (kept state middle running initially pass) rest

theorem run_invariant {invariant : σ → Prop}
    (kept : ∀ state next, invariant state → body state = .ok next → invariant next) {fuel : ℕ}
    {state next : σ} (initially : invariant state)
    (finished : run guard body fuel state = .ok next) : invariant next :=
  guarded_invariant (fun state next _ => kept state next) initially finished

/-- The states that the loop makes a pass from. -/
inductive Enters (guard : σ → Bool) (body : σ → Except ε σ) (start : σ) : σ → Prop
  | first : guard start = true → Enters guard body start start
  | next {state after : σ} : Enters guard body start state → body state = .ok after →
      guard after = true → Enters guard body start after

theorem enters_iff {start reached : σ} : Enters guard body start reached ↔
    guard start = true ∧ (reached = start ∨
      ∃ next, body start = .ok next ∧ Enters guard body next reached) := by
  constructor
  · intro entered
    induction entered with
    | first running => exact ⟨running, .inl rfl⟩
    | next _ pass running ih =>
        obtain ⟨start_running, rfl | ⟨middle, first, entered⟩⟩ := ih
        · exact ⟨start_running, .inr ⟨_, pass, .first running⟩⟩
        · exact ⟨start_running, .inr ⟨middle, first, .next entered pass running⟩⟩
  · rintro ⟨running, rfl | ⟨next, first, entered⟩⟩
    · exact .first running
    · induction entered with
      | first next_running => exact .next (.first running) first next_running
      | next _ pass after_running ih => exact .next ih pass after_running

/-- A run fails in one of its passes. -/
theorem exists_failed_pass {fuel : ℕ} {state : σ} {failure : ε}
    (failed : run guard body fuel state = .error failure) :
    ∃ reached, Enters guard body state reached ∧ body reached = .error failure := by
  induction fuel generalizing state with
  | zero => contradiction
  | succ fuel ih =>
      cases running : guard state with
      | false =>
          rw [run_of_not_guard running] at failed
          contradiction
      | true =>
          simp only [run, running, if_true, bind_eq_error] at failed
          obtain failed | ⟨middle, pass, rest⟩ := failed
          · exact ⟨state, .first running, failed⟩
          · obtain ⟨reached, entered, failed⟩ := ih rest
            exact ⟨reached, enters_iff.mpr ⟨running, .inr ⟨middle, pass, entered⟩⟩, failed⟩

theorem passes_of_not_guard {state : σ} (stopped : guard state = false) (fuel : ℕ) :
    passes guard body fuel state = [] := by
  cases fuel <;> simp [passes, stopped]

theorem passes_succ {state next : σ} (running : guard state = true)
    (pass : body state = .ok next) (fuel : ℕ) :
    passes guard body (fuel + 1) state = (state, next) :: passes guard body fuel next := by
  simp [passes, running, pass]

end Run

section Measure

variable {guard : σ → Bool} {body : σ → Except ε σ} {measure : σ → ℕ}

/-- Any two bounds above the measure give the same run. -/
theorem run_eq_of_measure_le (decreases : Decreases guard body measure) {fuel other : ℕ}
    {state : σ} (fuel_enough : measure state ≤ fuel) (other_enough : measure state ≤ other)
    (guard_measured : ∀ state, guard state = true → 0 < measure state) :
    run guard body fuel state = run guard body other state := by
  induction fuel generalizing other state with
  | zero =>
      have stopped : guard state = false := by
        by_contra running
        have := guard_measured state (by simpa using running)
        omega
      rw [run_of_not_guard stopped, run_of_not_guard stopped]
  | succ fuel ih =>
      cases running : guard state with
      | false => rw [run_of_not_guard running, run_of_not_guard running]
      | true =>
          have positive := guard_measured state running
          obtain ⟨other, rfl⟩ : ∃ smaller, other = smaller + 1 := ⟨other - 1, by omega⟩
          simp only [run, running, if_true]
          cases pass : body state with
          | error failure => rfl
          | ok next =>
              have smaller := decreases state next running pass
              simp only [ok_bind]
              exact ih (by omega) (by omega)

/-- A run with enough passes ends because the guard says so. -/
theorem stopped_of_measure_le (decreases : Decreases guard body measure)
    (guard_measured : ∀ state, guard state = true → 0 < measure state) {fuel : ℕ} {state next : σ}
    (enough : measure state ≤ fuel) (finished : run guard body fuel state = .ok next) :
    guard next = false := by
  induction fuel generalizing state with
  | zero =>
      have stopped : guard state = false := by
        by_contra running
        have := guard_measured state (by simpa using running)
        omega
      cases finished
      exact stopped
  | succ fuel ih =>
      cases running : guard state with
      | false =>
          rw [run_of_not_guard running] at finished
          cases finished
          exact running
      | true =>
          simp only [run, running, if_true, bind_eq_ok] at finished
          obtain ⟨middle, pass, rest⟩ := finished
          have smaller := decreases state middle running pass
          exact ih (by omega) rest

/-- With enough passes the first pass that fails is the outcome of the run. -/
theorem run_of_failed_pass (decreases : Decreases guard body measure)
    (guard_measured : ∀ state, guard state = true → 0 < measure state) {fuel : ℕ}
    {state reached : σ} (enough : measure state ≤ fuel) (entered : Enters guard body state reached)
    {failure : ε} (failed : body reached = .error failure) :
    run guard body fuel state = .error failure := by
  induction fuel generalizing state with
  | zero =>
      obtain ⟨running, -⟩ := enters_iff.mp entered
      have := guard_measured state running
      omega
  | succ fuel ih =>
      obtain ⟨running, rfl | ⟨next, pass, entered⟩⟩ := enters_iff.mp entered
      · simp only [run, running, if_true, failed, error_bind]
      · have smaller := decreases state next running pass
        rw [run_succ running pass]
        exact ih (by omega) entered

/-- A run bounded by its measure satisfies the equation of the unbounded loop. -/
theorem run_unfold (decreases : Decreases guard body measure)
    (guard_measured : ∀ state, guard state = true → 0 < measure state) (state : σ) :
    run guard body (measure state) state =
      if guard state then body state >>= fun next => run guard body (measure next) next
      else .ok state := by
  cases running : guard state with
  | false => simp [run_of_not_guard running]
  | true =>
      obtain ⟨fuel, fuel_eq⟩ : ∃ fuel, measure state = fuel + 1 :=
        ⟨measure state - 1, by have := guard_measured state running; omega⟩
      rw [fuel_eq]
      simp only [run, running, if_true]
      cases pass : body state with
      | error failure => rfl
      | ok next =>
          have smaller := decreases state next running pass
          simp only [ok_bind]
          exact run_eq_of_measure_le decreases (by omega) (Nat.le_refl _) guard_measured

end Measure

end WhileLoop
