import SolConversion.Foundation.Transactional

/-!
# Atomic batches

A batch executes some inputs in order and takes effect only when all of them succeed.  What every
input keeps, and what every input does and tells, put together, holds of the batch.
-/

namespace Transactional

universe u v w

variable {σ ρ : Type v} {ε : Type (max u v)} {ι : Type w}

/-- Put a reply in front of the replies of the rest of a batch. -/
def afterReply (reply : ρ) : Except (List ρ × ε) (σ × List ρ) → Except (List ρ × ε) (σ × List ρ)
  | .ok (last, replies) => .ok (last, reply :: replies)
  | .error (replies, failure) => .error (reply :: replies, failure)

/-- Execute a batch: the replies up to the first failure, and the state if there is none. -/
def batch (execute : σ → ι → Except ε (σ × ρ)) :
    σ → List ι → Except (List ρ × ε) (σ × List ρ)
  | state, [] => .ok (state, [])
  | state, input :: inputs =>
      match execute state input with
      | .ok (next, reply) => afterReply reply (batch execute next inputs)
      | .error failure => .error ([], failure)

section Laws

variable (execute : σ → ι → Except ε (σ × ρ))

theorem batch_cons_eq_ok {state last : σ} {input : ι} {inputs : List ι} {replies : List ρ} :
    batch execute state (input :: inputs) = .ok (last, replies) ↔
      ∃ next reply others, execute state input = .ok (next, reply) ∧
        batch execute next inputs = .ok (last, others) ∧ replies = reply :: others := by
  rw [batch]
  cases result : execute state input with
  | error failure => simp
  | ok success =>
      obtain ⟨next, reply⟩ := success
      cases rest : batch execute next inputs with
      | error failure =>
          obtain ⟨earlier, reason⟩ := failure
          simp [afterReply, rest]
      | ok outcome =>
          obtain ⟨final, others⟩ := outcome
          simp only [afterReply, rest, Except.ok.injEq, Prod.mk.injEq]
          constructor
          · rintro ⟨rfl, rfl⟩
            exact ⟨next, reply, others, ⟨rfl, rfl⟩, by rw [rest], rfl⟩
          · rintro ⟨_, _, _, ⟨rfl, rfl⟩, later, rfl⟩
            rw [rest] at later
            obtain ⟨rfl, rfl⟩ := Prod.mk.inj (Except.ok.inj later)
            exact ⟨rfl, rfl⟩

private theorem run_of_batch {state last : σ} {inputs : List ι} {replies : List ρ}
    (success : batch execute state inputs = .ok (last, replies)) :
    run execute state inputs = last ∧ accepted (history execute state inputs) = inputs := by
  induction inputs generalizing state replies with
  | nil =>
      obtain ⟨rfl, -⟩ := Prod.mk.inj (Except.ok.inj success)
      exact ⟨rfl, rfl⟩
  | cons input inputs ih =>
      obtain ⟨next, reply, others, executed, rest, -⟩ :=
        (batch_cons_eq_ok execute).mp success
      obtain ⟨last_eq, all⟩ := ih rest
      rw [history_cons, accepted_append, accepted_ok executed, run_cons,
        commit_ok execute executed, all]
      exact ⟨last_eq, rfl⟩

/-- What every input of a batch keeps, the batch keeps. -/
theorem batch_invariant {invariant : σ → Prop}
    (kept : ∀ state input next reply, invariant state →
      execute state input = .ok (next, reply) → invariant next)
    {state last : σ} {inputs : List ι} {replies : List ρ} (initially : invariant state)
    (success : batch execute state inputs = .ok (last, replies)) : invariant last := by
  rw [← (run_of_batch execute success).1]
  exact run_invariant execute kept initially inputs

/-- What inputs do and their replies tell, put together, is what a batch does and tells. -/
theorem batch_relates {τ : Type*} {invariant : σ → Prop} {relation : σ → List τ → σ → Prop}
    {told : ρ → List τ} (refl : ∀ state, relation state [] state)
    (trans : ∀ {state middle last earlier later}, relation state earlier middle →
      relation middle later last → relation state (earlier ++ later) last)
    (kept : ∀ state input next reply, invariant state →
      execute state input = .ok (next, reply) → invariant next)
    (related : ∀ state input next reply, invariant state →
      execute state input = .ok (next, reply) → relation state (told reply) next)
    {state last : σ} {inputs : List ι} {replies : List ρ} (initially : invariant state)
    (success : batch execute state inputs = .ok (last, replies)) :
    relation state (replies.flatMap told) last := by
  induction inputs generalizing state replies with
  | nil =>
      obtain ⟨rfl, rfl⟩ := Prod.mk.inj (Except.ok.inj success)
      exact refl state
  | cons input inputs ih =>
      obtain ⟨next, reply, others, executed, rest, rfl⟩ :=
        (batch_cons_eq_ok execute).mp success
      rw [List.flatMap_cons]
      exact trans (related state input next reply initially executed)
        (ih (kept state input next reply initially executed) rest)

end Laws

end Transactional
