import Mathlib.Data.List.Basic
import Mathlib.Tactic.Common

/-!
# Runs of labelled steps

A run takes one labelled step after the other.  What every step keeps holds along every run, and a
system whose own steps use up a budget takes only so many of them: an infinite run in which the
system never rests for good reaches a state in which it has no own step left.
-/

namespace LabelledRun

universe u v

variable {σ : Type u} {α : Type v}

/-- A run with the labels of its steps. -/
inductive Run (step : σ → α → σ → Prop) (start : σ) : List α → σ → Prop
  | refl : Run step start [] start
  | tail {actions : List α} {middle last : σ} {action : α} :
      Run step start actions middle → step middle action last →
      Run step start (actions ++ [action]) last

section Laws

variable {step : σ → α → σ → Prop} {start last : σ} {actions : List α}

/-- A relation between the labels so far and the state, kept by every step, holds along every
run. -/
theorem Run.history_invariant {relation : List α → σ → Prop} (initially : relation [] start)
    (kept : ∀ past state action next, relation past state → step state action next →
      relation (past ++ [action]) next)
    (run : Run step start actions last) : relation actions last := by
  induction run with
  | refl => exact initially
  | tail _ taken ih => exact kept _ _ _ _ ih taken

theorem Run.invariant {property : σ → Prop} (initially : property start)
    (kept : ∀ state action next, property state → step state action next → property next)
    (run : Run step start actions last) : property last := by
  induction run with
  | refl => exact initially
  | tail _ taken ih => exact kept _ _ _ ih taken

end Laws

/-- An infinite run. -/
structure Trace (step : σ → α → σ → Prop) where
  state : ℕ → σ
  action : ℕ → α
  taken : ∀ time, step (state time) (action time) (state (time + 1))

section Traces

variable {step : σ → α → σ → Prop}

/-- The labels of the first steps. -/
def Trace.actions (trace : Trace step) (time : ℕ) : List α := (List.range time).map trace.action

theorem Trace.run (trace : Trace step) (time : ℕ) :
    Run step (trace.state 0) (trace.actions time) (trace.state time) := by
  induction time with
  | zero => exact .refl
  | succ time ih =>
      rw [Trace.actions, List.range_succ, List.map_append]
      exact .tail ih (trace.taken time)

/-- A step in front of an infinite run. -/
def Trace.cons (first : σ) (action : α) (trace : Trace step)
    (taken : step first action (trace.state 0)) : Trace step where
  state
    | 0 => first
    | time + 1 => trace.state time
  action
    | 0 => action
    | time + 1 => trace.action time
  taken
    | 0 => taken
    | time + 1 => trace.taken time

/-- A run goes on as an infinite run from its last state. -/
theorem Run.exists_trace {start last : σ} {actions : List α} (run : Run step start actions last)
    (trace : Trace step) (goes_on : trace.state 0 = last) :
    ∃ whole : Trace step, whole.state 0 = start ∧ whole.actions actions.length = actions ∧
      ∀ time, whole.state (actions.length + time) = trace.state time ∧
        whole.action (actions.length + time) = trace.action time := by
  induction run generalizing trace with
  | refl => exact ⟨trace, goes_on, rfl, fun time => by simp⟩
  | @tail actions middle _ action _ taken ih =>
      obtain ⟨whole, starts, labels, follows⟩ :=
        ih (trace.cons middle action (goes_on ▸ taken)) rfl
      refine ⟨whole, starts, ?_, fun time => ?_⟩
      · have next : whole.action actions.length = action := (follows 0).2
        rw [List.length_append, List.length_singleton, Trace.actions, List.range_succ,
          List.map_append, ← Trace.actions, labels, List.map_singleton, next]
      · rw [List.length_append, List.length_singleton, Nat.add_assoc, Nat.add_comm 1 time]
        exact follows (time + 1)

theorem Trace.countP_succ (trace : Trace step) (own : α → Bool) (time : ℕ) :
    (trace.actions (time + 1)).countP own =
      (trace.actions time).countP own + if own (trace.action time) then 1 else 0 := by
  rw [Trace.actions, List.range_succ, List.map_append, List.countP_append]
  simp [Trace.actions, List.countP_cons]

theorem Trace.countP_mono (trace : Trace step) (own : α → Bool) {time later : ℕ}
    (earlier : time ≤ later) :
    (trace.actions time).countP own ≤ (trace.actions later).countP own := by
  induction earlier with
  | refl => exact Nat.le_refl _
  | step _ ih =>
      rw [trace.countP_succ]
      exact Nat.le_trans ih (Nat.le_add_right _ _)

/-- Infinitely many own steps exceed every budget. -/
theorem Trace.exists_countP_ge (trace : Trace step) {own : α → Bool}
    (always : ∀ time, ∃ later, time ≤ later ∧ own (trace.action later) = true) (budget : ℕ) :
    ∃ time, budget ≤ (trace.actions time).countP own := by
  induction budget with
  | zero => exact ⟨0, Nat.zero_le _⟩
  | succ budget ih =>
      obtain ⟨time, reached⟩ := ih
      obtain ⟨later, waited, happens⟩ := always time
      refine ⟨later + 1, ?_⟩
      rw [trace.countP_succ, if_pos happens]
      exact Nat.succ_le_succ (Nat.le_trans reached (trace.countP_mono own waited))

/-- When the own steps of a run stay within a budget, and one of them happens sooner or later as
long as the system has not ended, it ends. -/
theorem Trace.ends (trace : Trace step) {own : α → Bool} {ended : σ → Prop} {budget : ℕ}
    (within : ∀ time, (trace.actions time).countP own ≤ budget)
    (fair : ∀ time, ¬ended (trace.state time) →
      ∃ later, time ≤ later ∧ own (trace.action later) = true) :
    ∃ time, ended (trace.state time) := by
  by_contra never
  rw [not_exists] at never
  obtain ⟨time, exceeded⟩ := trace.exists_countP_ge (fun time => fair time (never time))
    (budget + 1)
  exact absurd (within time) (Nat.not_le.mpr exceeded)

end Traces

end LabelledRun
