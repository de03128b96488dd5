import Mathlib.Algebra.BigOperators.Group.List.Basic
import Mathlib.Tactic.Ring
import SolConversion.Foundation.Transactional

/-!
# Systems on a shared ledger

A transactional system works on a ledger that others use as well.  Each of its calls meets the
ledger as the deed before left it.  Whatever is measured on the ledger changes by what the calls
move and by what others do, so a run is accounted for once its single calls are.
-/

namespace SharedLedger

open Transactional

universe u v w

variable {σ ρ μ : Type v} {ε : Type u} {ι κ : Type w}

/-- A call of the system, or anything else that turns the ledger into another one. -/
inductive Deed (κ : Type w) (μ : Type v)
  | call (request : κ)
  | elsewhere (ledger : μ)

/-- The system with the ledger it works on. -/
structure World (σ μ : Type v) where
  state : σ
  ledger : μ

/-- How a request becomes an input, and which ledger a reply leaves. -/
structure Placement (κ ι : Type w) (ρ μ : Type v) where
  place : μ → κ → ι
  ledgerOf : ι → μ
  left : ρ → μ
  ledgerOf_place : ∀ ledger request, ledgerOf (place ledger request) = ledger

variable (execute : σ → ι → Except ε (σ × ρ)) (placement : Placement κ ι ρ μ)

/-- The ledger an execution leaves. -/
def ledgerAfter (entry : Entry σ ι ρ ε) : μ :=
  match entry.result with
  | .ok (_, reply) => placement.left reply
  | .error _ => placement.ledgerOf entry.input

def step (world : World σ μ) : Deed κ μ → World σ μ
  | .call request =>
      let input := placement.place world.ledger request
      ⟨commit execute world.state input,
        ledgerAfter placement ⟨world.state, input, execute world.state input⟩⟩
  | .elsewhere ledger => { world with ledger }

def runDeeds (world : World σ μ) (deeds : List (Deed κ μ)) : World σ μ :=
  deeds.foldl (step execute placement) world

/-- The calls among some deeds, each with the ledger it met. -/
def inputsOf : World σ μ → List (Deed κ μ) → List ι
  | _, [] => []
  | world, deed :: deeds =>
      let later := inputsOf (step execute placement world deed) deeds
      match deed with
      | .call request => placement.place world.ledger request :: later
      | .elsewhere _ => later

/-- What others add to a measure of the ledger. -/
def outside (measure : μ → ℤ) : World σ μ → List (Deed κ μ) → ℤ
  | _, [] => 0
  | world, deed :: deeds =>
      let later := outside measure (step execute placement world deed) deeds
      match deed with
      | .call _ => later
      | .elsewhere ledger => measure ledger - measure world.ledger + later

/-- The state runs through the calls. -/
theorem state_runDeeds (world : World σ μ) (deeds : List (Deed κ μ)) :
    (runDeeds execute placement world deeds).state =
      run execute world.state (inputsOf execute placement world deeds) := by
  induction deeds generalizing world with
  | nil => rfl
  | cons deed deeds ih =>
      rw [runDeeds, List.foldl_cons, ← runDeeds, ih]
      cases deed with
      | call request => rfl
      | elsewhere ledger => rfl

/-- A measure of the ledger changes by the flows of the calls and by what others do. -/
theorem measure_runDeeds {measure : μ → ℤ} {flow : Entry σ ι ρ ε → ℤ} (world : World σ μ)
    (deeds : List (Deed κ μ))
    (flows : ∀ entry ∈ history execute world.state (inputsOf execute placement world deeds),
      measure (ledgerAfter placement entry) =
        measure (placement.ledgerOf entry.input) + flow entry) :
    measure (runDeeds execute placement world deeds).ledger =
      measure world.ledger + outside execute placement measure world deeds +
        ((history execute world.state (inputsOf execute placement world deeds)).map flow).sum := by
  induction deeds generalizing world with
  | nil => simp [runDeeds, outside, inputsOf, history]
  | cons deed deeds ih =>
      rw [runDeeds, List.foldl_cons, ← runDeeds]
      cases deed with
      | call request =>
          obtain ⟨first, others⟩ := List.forall_mem_cons.mp flows
          rw [ih _ others]
          simp only [placement.ledgerOf_place] at first
          simp only [outside, inputsOf, history, List.map_cons, List.sum_cons, step, first]
          ring
      | elsewhere ledger =>
          rw [ih _ flows]
          simp only [outside, inputsOf, step]
          ring

end SharedLedger
