import Mathlib.Data.Set.Insert
import Mathlib.Logic.Relation
import Mathlib.Order.Basic

/-!
# Checkpoints of an ordered log

A consumer works through the positions of an ordered log, in any order, and saves checkpoints from
which it can resume.  It answers for every position delivered to it and for every position after
one of its checkpoints.  A consumer is safe when nothing it answers for is left undone at or before
a checkpoint: what is still to be done then lies after every place it can resume from.
-/

namespace Checkpoint

open Relation (ReflTransGen)

variable {Position : Type*} [LinearOrder Position]

/-- What a consumer has done, what was delivered to it and the checkpoints it saved. -/
structure Consumer (Position : Type*) where
  done : Set Position
  delivered : Set Position
  saved : Set Position

/-- The positions a consumer answers for. -/
def Consumer.Owed (consumer : Consumer Position) (position : Position) : Prop :=
  position ∈ consumer.delivered ∨ ∃ checkpoint ∈ consumer.saved, checkpoint < position

/-- Everything owed at or before a checkpoint is done. -/
def Consumer.Safe (consumer : Consumer Position) : Prop :=
  ∀ checkpoint ∈ consumer.saved, ∀ position ≤ checkpoint, consumer.Owed position →
    position ∈ consumer.done

/-- What a consumer may do without becoming unsafe. -/
inductive Consumer.Step : Consumer Position → Consumer Position → Prop
  | finish {consumer : Consumer Position} (position : Position) :
      Step consumer { consumer with done := insert position consumer.done }
  /-- Deliveries come after every checkpoint. -/
  | deliver {consumer : Consumer Position} (position : Position)
      (beyond : ∀ checkpoint ∈ consumer.saved, checkpoint < position) :
      Step consumer { consumer with delivered := insert position consumer.delivered }
  /-- A new checkpoint settles what is owed up to it, and the way to the checkpoints after it. -/
  | save {consumer : Consumer Position} (checkpoint : Position)
      (settled : ∀ position ≤ checkpoint, consumer.Owed position → position ∈ consumer.done)
      (overlap : ∀ later ∈ consumer.saved, ∀ position, checkpoint < position →
        position ≤ later → position ∈ consumer.done) :
      Step consumer { consumer with saved := insert checkpoint consumer.saved }
  | forget {consumer : Consumer Position} (kept : Set Position) (fewer : kept ⊆ consumer.saved) :
      Step consumer { consumer with saved := kept }

namespace Consumer

variable {before after : Consumer Position}

theorem Step.safe (step : Step before after) (safe : before.Safe) : after.Safe := by
  cases step with
  | finish position =>
      intro checkpoint saved earlier le owed
      exact .inr (safe checkpoint saved earlier le owed)
  | deliver position beyond =>
      rintro checkpoint saved earlier le ((rfl | delivered) | later)
      · exact absurd (beyond checkpoint saved) (not_lt.mpr le)
      · exact safe checkpoint saved earlier le (.inl delivered)
      · exact safe checkpoint saved earlier le (.inr later)
  | save checkpoint settled overlap =>
      rintro saved (rfl | saved_mem) position le (delivered | ⟨earlier, (rfl | earlier_mem), lt⟩)
      · exact settled position le (.inl delivered)
      · exact absurd lt (not_lt.mpr le)
      · exact settled position le (.inr ⟨earlier, earlier_mem, lt⟩)
      · exact safe saved saved_mem position le (.inl delivered)
      · exact overlap saved saved_mem position lt le
      · exact safe saved saved_mem position le (.inr ⟨earlier, earlier_mem, lt⟩)
  | forget kept fewer =>
      rintro checkpoint saved position le (delivered | ⟨earlier, earlier_mem, lt⟩)
      · exact safe checkpoint (fewer saved) position le (.inl delivered)
      · exact safe checkpoint (fewer saved) position le (.inr ⟨earlier, fewer earlier_mem, lt⟩)

/-- Every run of a consumer keeps it safe. -/
theorem safe_of_run (run : ReflTransGen Step before after) (safe : before.Safe) : after.Safe := by
  induction run with
  | refl => exact safe
  | tail _ step ih => exact step.safe ih

end Consumer

end Checkpoint
