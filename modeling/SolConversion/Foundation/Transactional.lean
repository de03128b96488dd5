import Mathlib.Data.List.Induction
import SolConversion.Foundation.Fallible

/-!
# Runs of transactional systems

A transactional system executes inputs one by one; a failed execution leaves the state as it was.
Runs are folds over the inputs, and histories record for every input the state it met and what came
of it.  The induction rules below reduce a property of every run, or of every execution together
with everything that happened before it, to one execution.
-/

namespace Transactional

open Fallible

universe u v w

variable {σ ρ : Type v} {ε : Type u} {ι : Type w}

/-- The state after one input, unchanged by a failure. -/
def commit (execute : σ → ι → Except ε (σ × ρ)) (state : σ) (input : ι) : σ :=
  match execute state input with
  | .ok (next, _) => next
  | .error _ => state

/-- The state after a list of inputs. -/
def run (execute : σ → ι → Except ε (σ × ρ)) (state : σ) (inputs : List ι) : σ :=
  inputs.foldl (commit execute) state

/-- One executed input, the state it met and its result. -/
structure Entry (σ : Type v) (ι : Type w) (ρ : Type v) (ε : Type u) where
  before : σ
  input : ι
  result : Except ε (σ × ρ)

/-- The executions of a run, in order. -/
def history (execute : σ → ι → Except ε (σ × ρ)) : σ → List ι → List (Entry σ ι ρ ε)
  | _, [] => []
  | state, input :: inputs =>
      ⟨state, input, execute state input⟩ :: history execute (commit execute state input) inputs

/-- The input of a successful execution. -/
def Entry.accepted (entry : Entry σ ι ρ ε) : Option ι :=
  match entry.result with
  | .ok _ => some entry.input
  | .error _ => none

/-- The inputs of the successful executions, in order. -/
def accepted (past : List (Entry σ ι ρ ε)) : List ι := past.filterMap Entry.accepted

section Laws

variable (execute : σ → ι → Except ε (σ × ρ))

theorem commit_ok {state next : σ} {input : ι} {reply : ρ}
    (success : execute state input = .ok (next, reply)) :
    commit execute state input = next := by
  simp [commit, success]

theorem commit_error {state : σ} {input : ι} {failure : ε}
    (failed : execute state input = .error failure) : commit execute state input = state := by
  simp [commit, failed]

@[simp]
theorem run_nil (state : σ) : run execute state [] = state := rfl

@[simp]
theorem run_cons (state : σ) (input : ι) (inputs : List ι) :
    run execute state (input :: inputs) = run execute (commit execute state input) inputs := rfl

theorem run_append (state : σ) (front back : List ι) :
    run execute state (front ++ back) = run execute (run execute state front) back :=
  List.foldl_append

theorem run_snoc (state : σ) (inputs : List ι) (input : ι) :
    run execute state (inputs ++ [input]) = commit execute (run execute state inputs) input := by
  rw [run_append, run_cons, run_nil]

theorem history_append (state : σ) (front back : List ι) :
    history execute state (front ++ back) =
      history execute state front ++ history execute (run execute state front) back := by
  induction front generalizing state with
  | nil => rfl
  | cons input front ih =>
      simp only [List.cons_append, history, run_cons, List.cons.injEq, true_and]
      exact ih (commit execute state input)

theorem map_input_history (state : σ) (inputs : List ι) :
    (history execute state inputs).map Entry.input = inputs := by
  induction inputs generalizing state with
  | nil => rfl
  | cons input inputs ih =>
      rw [history, List.map_cons, ih]

theorem history_snoc (state : σ) (inputs : List ι) (input : ι) :
    history execute state (inputs ++ [input]) =
      history execute state inputs ++
        [⟨run execute state inputs, input, execute (run execute state inputs) input⟩] :=
  history_append execute state inputs [input]

theorem run_invariant {invariant : σ → Prop}
    (kept : ∀ state input next reply, invariant state →
      execute state input = .ok (next, reply) → invariant next)
    {state : σ} (initially : invariant state) (inputs : List ι) :
    invariant (run execute state inputs) := by
  induction inputs generalizing state with
  | nil => exact initially
  | cons input inputs ih =>
      apply ih
      cases result : execute state input with
      | error failure => rwa [commit_error execute result]
      | ok success =>
          rw [commit_ok execute result]
          exact kept state input success.1 success.2 initially result

/-- A relation between the past and the state, kept by every execution, holds after every run. -/
theorem history_invariant {relation : List (Entry σ ι ρ ε) → σ → Prop} {state : σ}
    (initially : relation [] state)
    (kept : ∀ past current input, relation past current →
      relation (past ++ [⟨current, input, execute current input⟩])
        (commit execute current input))
    (inputs : List ι) : relation (history execute state inputs) (run execute state inputs) := by
  induction inputs using List.reverseRecOn with
  | nil => exact initially
  | append_singleton inputs input ih =>
      rw [history_snoc, run_snoc]
      exact kept _ _ input ih

/-- Every entry of a history executes its input in the state the earlier entries lead to. -/
theorem history_split {state : σ} {inputs : List ι} {past future : List (Entry σ ι ρ ε)}
    {entry : Entry σ ι ρ ε} (split : history execute state inputs = past ++ entry :: future) :
    ∃ front back, inputs = front ++ entry.input :: back ∧ past = history execute state front ∧
      entry.before = run execute state front ∧
      entry.result = execute (run execute state front) entry.input := by
  induction inputs generalizing state past with
  | nil => simp [history] at split
  | cons input inputs ih =>
      cases past with
      | nil =>
          obtain ⟨rfl, -⟩ := List.cons.inj split
          exact ⟨[], inputs, rfl, rfl, rfl, rfl⟩
      | cons first past =>
          obtain ⟨rfl, later⟩ := List.cons.inj split
          obtain ⟨front, back, inputs_eq, past_eq, before_eq, result_eq⟩ := ih later
          refine ⟨input :: front, back, by rw [inputs_eq, List.cons_append], ?_, before_eq,
            result_eq⟩
          rw [past_eq]
          rfl

/-- Every execution of a run met a state that keeps the invariant. -/
theorem invariant_of_mem_history {invariant : σ → Prop}
    (kept : ∀ state input next reply, invariant state →
      execute state input = .ok (next, reply) → invariant next)
    {state : σ} (initially : invariant state) {inputs : List ι} {entry : Entry σ ι ρ ε}
    (member : entry ∈ history execute state inputs) :
    invariant entry.before ∧ entry.result = execute entry.before entry.input := by
  obtain ⟨past, future, split⟩ := List.append_of_mem member
  obtain ⟨front, back, -, -, before_eq, result_eq⟩ := history_split execute split
  rw [before_eq]
  exact ⟨run_invariant execute kept initially front, result_eq⟩

theorem history_cons (state : σ) (input : ι) (inputs : List ι) :
    history execute state (input :: inputs) =
      [⟨state, input, execute state input⟩] ++
        history execute (commit execute state input) inputs := rfl

theorem accepted_append (past future : List (Entry σ ι ρ ε)) :
    accepted (past ++ future) = accepted past ++ accepted future := List.filterMap_append

theorem accepted_ok {state : σ} {input : ι} {success : σ × ρ} {result : Except ε (σ × ρ)}
    (succeeded : result = .ok success) : accepted [⟨state, input, result⟩] = [input] := by
  simp [accepted, Entry.accepted, succeeded]

private theorem accepted_error {state : σ} {input : ι} {failure : ε} {result : Except ε (σ × ρ)}
    (failed : result = .error failure) : accepted [⟨state, input, result⟩] = [] := by
  simp [accepted, Entry.accepted, failed]

/-- A relation between the accepted inputs and the state, kept by every successful execution, holds
after every run. -/
theorem accepted_invariant {relation : List ι → σ → Prop} {state : σ}
    (initially : relation [] state)
    (kept : ∀ inputs current input next reply, relation inputs current →
      execute current input = .ok (next, reply) → relation (inputs ++ [input]) next)
    (inputs : List ι) :
    relation (accepted (history execute state inputs)) (run execute state inputs) := by
  induction inputs using List.reverseRecOn with
  | nil => exact initially
  | append_singleton inputs input ih =>
      rw [history_snoc, run_snoc, accepted_append]
      cases result : execute (run execute state inputs) input with
      | error failure =>
          rw [commit_error execute result, accepted_error rfl, List.append_nil]
          exact ih
      | ok success =>
          rw [commit_ok execute result, accepted_ok rfl]
          exact kept _ _ input success.1 success.2 ih result

end Laws

section Logs

variable (execute : σ → ι → Except ε (σ × ρ)) {ν τ : Type*}

/-- A view of the state that every execution advances by what it logs is replayed from the log. -/
theorem view_run {invariant : σ → Prop} {view : σ → ν} {logged : Entry σ ι ρ ε → List τ}
    {advance : ν → τ → ν}
    (kept : ∀ state input next reply, invariant state →
      execute state input = .ok (next, reply) → invariant next)
    (follows : ∀ state input, invariant state → view (commit execute state input) =
      (logged ⟨state, input, execute state input⟩).foldl advance (view state))
    {state : σ} (initially : invariant state) (inputs : List ι) :
    view (run execute state inputs) =
      ((history execute state inputs).flatMap logged).foldl advance (view state) := by
  induction inputs using List.reverseRecOn with
  | nil => rfl
  | append_singleton inputs input ih =>
      have reached := run_invariant execute kept initially inputs
      rw [run_snoc, history_snoc, List.flatMap_append, List.foldl_append, ← ih,
        List.flatMap_singleton]
      exact follows _ input reached

/-- What a successful execution tells. -/
def Entry.told (told : ρ → List τ) (entry : Entry σ ι ρ ε) : List τ :=
  match entry.result with
  | .ok (_, reply) => told reply
  | .error _ => []

/-- What successes do and tell, put together, is what a run does and tells. -/
theorem run_relates {invariant : σ → Prop} {relation : σ → List τ → σ → Prop} {told : ρ → List τ}
    (refl : ∀ state, relation state [] state)
    (trans : ∀ {state middle last earlier later}, relation state earlier middle →
      relation middle later last → relation state (earlier ++ later) last)
    (kept : ∀ state input next reply, invariant state →
      execute state input = .ok (next, reply) → invariant next)
    (related : ∀ state input next reply, invariant state →
      execute state input = .ok (next, reply) → relation state (told reply) next)
    {state : σ} (initially : invariant state) (inputs : List ι) :
    relation state ((history execute state inputs).flatMap (Entry.told told))
      (run execute state inputs) := by
  induction inputs generalizing state with
  | nil => exact refl state
  | cons input inputs ih =>
      rw [history_cons, List.flatMap_append, List.flatMap_singleton, run_cons, Entry.told]
      cases result : execute state input with
      | error failure =>
          rw [commit_error execute result]
          exact ih initially
      | ok success =>
          obtain ⟨next, reply⟩ := success
          rw [commit_ok execute result]
          exact trans (related state input next reply initially result)
            (ih (kept state input next reply initially result))

end Logs

section Noninterference

variable (execute : σ → ι → Except ε (σ × ρ)) (inert : σ → ι → Prop) (alike : ι → ι → Prop)

/-- Two runs take alike inputs together; inert inputs may come in either of them at any time. -/
inductive Differ : σ → List ι → σ → List ι → Prop
  | done {state state' : σ} : Differ state [] state' []
  | both {state state' : σ} {input input' : ι} {inputs inputs' : List ι} :
      alike input input' →
      Differ (commit execute state input) inputs (commit execute state' input') inputs' →
      Differ state (input :: inputs) state' (input' :: inputs')
  | left {state state' : σ} {input : ι} {inputs inputs' : List ι} :
      inert state input → Differ (commit execute state input) inputs state' inputs' →
      Differ state (input :: inputs) state' inputs'
  | right {state state' : σ} {input' : ι} {inputs inputs' : List ι} :
      inert state' input' → Differ state inputs (commit execute state' input') inputs' →
      Differ state inputs state' (input' :: inputs')

variable {execute inert alike}

/-- What inert inputs do not change, and alike inputs change alike, comes out the same. -/
theorem Differ.observe_eq {α : Type*} {observe : σ → α}
    (unmoved : ∀ state input, inert state input →
      observe (commit execute state input) = observe state)
    (together : ∀ state state' input input', observe state = observe state' → alike input input' →
      observe (commit execute state input) = observe (commit execute state' input'))
    {state state' : σ} {inputs inputs' : List ι}
    (differ : Differ execute inert alike state inputs state' inputs')
    (same : observe state = observe state') :
    observe (run execute state inputs) = observe (run execute state' inputs') := by
  induction differ with
  | done => exact same
  | both agree _ ih => exact ih (together _ _ _ _ same agree)
  | left idle _ ih => exact ih ((unmoved _ _ idle).trans same)
  | right idle _ ih => exact ih (same.trans (unmoved _ _ idle).symm)

end Noninterference

end Transactional
