import Mathlib.Data.Rat.Floor
import Mathlib.Order.Lattice

/-!
# Nearest ranks

A value of a list has a rank if so many values of the list do not exceed it and the others, with
itself, are not below it.  Only one value of a list has a given rank, whatever the order of the list
and however often values are repeated, and sorting the list brings it to the place of its rank.
-/

namespace NearestRank

universe u

variable {α : Type u} [LinearOrder α]

/-- The value is at the place of its rank, counted from one, if the values are put in order. -/
structure HasRank (rank : ℕ) (values : List α) (value : α) : Prop where
  member : value ∈ values
  not_above : rank ≤ values.countP fun other => other ≤ value
  not_below : values.length - rank + 1 ≤ values.countP fun other => value ≤ other

variable {rank : ℕ} {values other : List α} {value second : α}

theorem HasRank.perm (ranked : HasRank rank values value) (same : values.Perm other) :
    HasRank rank other value where
  member := same.mem_iff.mp ranked.member
  not_above := by
    rw [← same.countP_eq]
    exact ranked.not_above
  not_below := by
    rw [← same.countP_eq, ← same.length_eq]
    exact ranked.not_below

private theorem countP_add_countP_le (less : value < second) (values : List α) :
    (values.countP fun other => other ≤ value) + (values.countP fun other => second ≤ other) ≤
      values.length := by
  induction values with
  | nil => exact Nat.le_refl _
  | cons first values ih =>
      rw [List.countP_cons, List.countP_cons, List.length_cons]
      by_cases below : first ≤ value
      · have not_above : ¬second ≤ first := not_le.mpr (lt_of_le_of_lt below less)
        simp only [below, not_above, decide_true, decide_false, if_true, Bool.false_eq_true,
          if_false]
        omega
      · simp only [below, decide_false, Bool.false_eq_true, if_false]
        split <;> omega

theorem HasRank.le (ranked : HasRank rank values value) (within : rank ≤ values.length)
    (second_ranked : HasRank rank values second) : second ≤ value := by
  by_contra not_le
  have less := lt_of_not_ge not_le
  have disjoint := countP_add_countP_le less values
  have not_above := ranked.not_above
  have not_below := second_ranked.not_below
  omega

/-- A rank belongs to one value only. -/
theorem HasRank.unique (ranked : HasRank rank values value) (within : rank ≤ values.length)
    (second_ranked : HasRank rank values second) : value = second :=
  le_antisymm (second_ranked.le within ranked) (ranked.le within second_ranked)

private theorem hasRank_of_pairwise {place : ℕ} (ordered : values.Pairwise (· ≤ ·))
    (at_place : values[place]? = some value) : HasRank (place + 1) values value := by
  obtain ⟨inside, value_eq⟩ := List.getElem?_eq_some_iff.mp at_place
  have split : values = values.take place ++ value :: values.drop (place + 1) := by
    rw [← value_eq, List.cons_getElem_drop_succ, List.take_append_drop]
  have front_length : (values.take place).length = place := List.length_take_of_le inside.le
  rw [split, List.pairwise_append, List.pairwise_cons] at ordered
  obtain ⟨-, ⟨after, -⟩, before⟩ := ordered
  have front : (values.take place).countP (fun other => other ≤ value) = place := by
    rw [List.countP_eq_length.mpr, front_length]
    intro earlier member
    exact decide_eq_true (before earlier member value List.mem_cons_self)
  have back : (values.drop (place + 1)).countP (fun other => value ≤ other) =
      values.length - (place + 1) := by
    rw [List.countP_eq_length.mpr, List.length_drop]
    intro later member
    exact decide_eq_true (after later member)
  refine ⟨List.mem_of_getElem? at_place, ?_, ?_⟩
  · rw [split, List.countP_append, List.countP_cons, front]
    simp
  · have counted : values.countP (fun other => value ≤ other) =
        (values.take place).countP (fun other => value ≤ other) +
          ((values.length - (place + 1)) + 1) := by
      rw [← back]
      conv_lhs => rw [split]
      rw [List.countP_append, List.countP_cons]
      simp
    omega

/-- Sorting brings the value of a rank to its place. -/
theorem hasRank_of_mergeSort {place : ℕ}
    (at_place : (values.mergeSort fun a b => a ≤ b)[place]? = some value) :
    HasRank (place + 1) values value := by
  have ordered : (values.mergeSort fun a b => decide (a ≤ b)).Pairwise fun a b => a ≤ b := by
    have sorted := @List.pairwise_mergeSort α (fun a b => decide (a ≤ b))
      (fun a b c => by simpa using le_trans) (fun a b => by simpa using le_total a b) values
    simpa using sorted
  exact (hasRank_of_pairwise ordered at_place).perm (List.mergeSort_perm _ _)

end NearestRank
