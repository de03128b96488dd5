import Mathlib.Data.Nat.ModEq
import Mathlib.Data.Fin.Basic
import Mathlib.Tactic.Common

/-!
# Ring buffers

A fixed array read as a circular queue.  `window slots head count` lists the `count` live elements
from the oldest slot `head`; slots outside the window hold stale data and are never read.
Enqueueing, dequeueing and rewriting the oldest element act on the window as the corresponding list
operations.
-/

namespace RingBuffer

variable {α : Type*} {size : ℕ}

theorem get_set_self (slots : Vector α size) (target : Fin size) (element : α) :
    (slots.set target element).get target = element :=
  Vector.getElem_set_self target.isLt

theorem get_set_of_ne (slots : Vector α size) (element : α) {target index : Fin size}
    (distinct : target ≠ index) : (slots.set target element).get index = slots.get index :=
  Vector.getElem_set_ne target.isLt index.isLt fun same => distinct (Fin.ext same)

variable [NeZero size]

/-- The slot that holds position `index` counted from `head`. -/
def slot (size : ℕ) [NeZero size] (head index : ℕ) : Fin size := Fin.ofNat size (head + index)

/-- The live elements, oldest first. -/
def window (slots : Vector α size) (head count : ℕ) : List α :=
  (List.range count).map fun index => slots.get (slot size head index)

@[simp]
theorem slot_val (head index : ℕ) : (slot size head index).val = (head + index) % size := rfl

private theorem slot_congr {head other : ℕ} (congruent : head % size = other % size) (index : ℕ) :
    slot size head index = slot size other index := by
  apply Fin.ext
  simp only [slot_val]
  rw [Nat.add_mod, congruent, ← Nat.add_mod]

theorem slot_injective {head left right : ℕ} (left_lt : left < size) (right_lt : right < size)
    (same : slot size head left = slot size head right) : left = right := by
  have remainders : (head + left) % size = (head + right) % size := congrArg Fin.val same
  have congruent : left ≡ right [MOD size] := Nat.ModEq.add_left_cancel' head remainders
  exact congruent.eq_of_lt_of_lt left_lt right_lt

@[simp]
theorem length_window (slots : Vector α size) (head count : ℕ) :
    (window slots head count).length = count := by
  simp [window]

@[simp]
theorem window_zero (slots : Vector α size) (head : ℕ) : window slots head 0 = [] := rfl

theorem window_succ (slots : Vector α size) (head count : ℕ) :
    window slots head (count + 1) =
      slots.get (slot size head 0) :: window slots (head + 1) count := by
  simp only [window, List.range_succ_eq_map, List.map_cons, List.map_map, List.cons.injEq,
    true_and]
  apply List.map_congr_left
  intro index _
  simp only [Function.comp_apply, slot]
  rw [show head + index.succ = head + 1 + index by omega]

private theorem window_congr (slots : Vector α size) {head other : ℕ}
    (congruent : head % size = other % size) (count : ℕ) :
    window slots head count = window slots other count := by
  apply List.map_congr_left
  intro index _
  rw [slot_congr congruent]

@[simp]
theorem window_mod (slots : Vector α size) (head count : ℕ) :
    window slots (head % size) count = window slots head count :=
  window_congr slots (Nat.mod_mod head size) count

private theorem window_snoc (slots : Vector α size) (head count : ℕ) :
    window slots head (count + 1) =
      window slots head count ++ [slots.get (slot size head count)] := by
  simp [window, List.range_succ]

/-- Writing a slot outside the window leaves the window unchanged. -/
theorem window_set_stale (slots : Vector α size) (head count target : ℕ) (element : α)
    (count_le : count ≤ target) (target_lt : target < size) :
    window (slots.set (slot size head target) element) head count =
      window slots head count := by
  apply List.map_congr_left
  intro index member
  have index_lt : index < count := List.mem_range.mp member
  have distinct : slot size head target ≠ slot size head index := by
    intro same
    have := slot_injective target_lt (by omega) same
    omega
  rw [get_set_of_ne slots element distinct]

/-- Enqueueing writes the slot behind the window. -/
theorem window_enqueue (slots : Vector α size) (head count : ℕ) (element : α)
    (room : count < size) :
    window (slots.set (slot size head count) element) head (count + 1) =
      window slots head count ++ [element] := by
  rw [window_snoc, window_set_stale slots head count count element le_rfl room, get_set_self]

/-- Rewriting the oldest slot changes the head of the window and nothing behind it. -/
theorem window_set_oldest (slots : Vector α size) (head count : ℕ) (element : α)
    (fits : count + 1 ≤ size) :
    window (slots.set (slot size head 0) element) head (count + 1) =
      element :: window slots (head + 1) count := by
  rw [window_succ]
  rw [get_set_self]
  congr 1
  apply List.map_congr_left
  intro index member
  have index_lt : index < count := List.mem_range.mp member
  have shifted : slot size (head + 1) index = slot size head (index + 1) := by
    simp only [slot]
    rw [show head + 1 + index = head + (index + 1) by omega]
  have distinct : slot size head 0 ≠ slot size (head + 1) index := by
    intro same
    rw [shifted] at same
    have := slot_injective (by omega) (by omega) same
    omega
  rw [get_set_of_ne slots element distinct]

end RingBuffer
