import Mathlib.Data.List.Infix
import Mathlib.Data.List.Nodup
import Mathlib.Data.List.Range
import Mathlib.Tactic.Common

/-!
# Sets kept by a log of changes

A log inserts elements into a set and removes them.  What the set holds at the end, and in which
order, can be read off the log alone: the elements inserted and not changed again, in the order of
their last insertions.
-/

namespace ChangeLog

universe u

/-- A change of a set. -/
inductive Change (α : Type u)
  | insert (element : α)
  | remove (element : α)
  deriving DecidableEq

variable {α : Type u}

/-- The element a change is about. -/
def Change.element : Change α → α
  | .insert element => element
  | .remove element => element

variable [DecidableEq α]

/-- The changes of one element. -/
def changesOf (element : α) (log : List (Change α)) : List (Change α) :=
  log.filter fun change => change.element = element

/-- The elements inserted and not changed again, in the order of their insertions. -/
def survivors : List (Change α) → List α
  | [] => []
  | .insert element :: later =>
      if (changesOf element later).isEmpty then element :: survivors later else survivors later
  | .remove _ :: later => survivors later

section Laws

variable (element : α) (log : List (Change α))

theorem changesOf_snoc (change : Change α) :
    changesOf element (log ++ [change]) =
      changesOf element log ++ if change.element = element then [change] else [] := by
  by_cases about : change.element = element
  · simp [changesOf, List.filter_append, about]
  · simp [changesOf, List.filter_append, about]

private theorem isEmpty_changesOf_snoc (change : Change α) :
    (changesOf element (log ++ [change])).isEmpty =
      ((changesOf element log).isEmpty && decide (change.element ≠ element)) := by
  rw [changesOf_snoc]
  by_cases about : change.element = element
  · simp [about]
  · simp [about]

/-- A change takes its element out of the earlier survivors and decides itself whether it stays. -/
theorem survivors_snoc (change : Change α) :
    survivors (log ++ [change]) =
      (survivors log).filter (· ≠ change.element) ++ survivors [change] := by
  induction log with
  | nil => rfl
  | cons first log ih =>
      cases first with
      | remove other => exact ih
      | insert other =>
          simp only [List.cons_append, survivors, isEmpty_changesOf_snoc, ih]
          rcases eq_or_ne change.element other with rfl | distinct
          · by_cases unchanged : (changesOf change.element log).isEmpty = true
            · simp [unchanged]
            · simp [unchanged]
          · by_cases unchanged : (changesOf other log).isEmpty = true
            · simp [unchanged, distinct, distinct.symm]
            · simp [unchanged]

/-- Removing an element takes it out of the survivors. -/
theorem survivors_snoc_remove :
    survivors (log ++ [.remove element]) = (survivors log).filter (· ≠ element) := by
  rw [survivors_snoc, survivors, survivors, List.append_nil, Change.element]

/-- Inserting an element moves it behind the other survivors. -/
theorem survivors_snoc_insert :
    survivors (log ++ [.insert element]) =
      (survivors log).filter (· ≠ element) ++ [element] := by
  rw [survivors_snoc, Change.element]
  rfl

/-- An element survives exactly when its last change inserted it. -/
theorem mem_survivors_iff :
    element ∈ survivors log ↔ (changesOf element log).getLast? = some (.insert element) := by
  induction log using List.reverseRecOn with
  | nil => simp [survivors, changesOf]
  | append_singleton log change ih =>
      rw [changesOf_snoc]
      cases change with
      | remove other =>
          rw [survivors_snoc_remove, List.mem_filter, ih]
          by_cases same : other = element
          · simp [same, Change.element]
          · simp [same, Ne.symm same, Change.element]
      | insert other =>
          rw [survivors_snoc_insert, List.mem_append, List.mem_filter, ih, List.mem_singleton]
          by_cases same : other = element
          · simp [same, Change.element]
          · simp [same, Ne.symm same, Change.element]

theorem nodup_survivors : (survivors log).Nodup := by
  induction log using List.reverseRecOn with
  | nil => exact List.nodup_nil
  | append_singleton log change ih =>
      cases change with
      | remove other =>
          rw [survivors_snoc_remove]
          exact ih.filter _
      | insert other =>
          rw [survivors_snoc_insert, ← List.concat_eq_append]
          apply (ih.filter _).concat
          simp

end Laws

section Replaying

universe v

variable {β : Type v} [DecidableEq β]

/-- The elements after a change; what is inserted goes to the back. -/
def Change.advance (elements : List α) : Change α → List α
  | .insert element => elements ++ [element]
  | .remove element => elements.erase element

/-- The change of what stands for an element. -/
def Change.map {α : Type u} {β : Type v} (rename : α → β) : Change α → Change β
  | .insert element => .insert (rename element)
  | .remove element => .remove (rename element)

/-- Under names of their own the elements are replayed as well. -/
theorem map_foldl_advance {rename : α → β} (injective : Function.Injective rename)
    (elements : List α) (log : List (Change α)) :
    (log.foldl Change.advance elements).map rename =
      (log.map (Change.map rename)).foldl Change.advance (elements.map rename) := by
  induction log generalizing elements with
  | nil => rfl
  | cons change log ih =>
      rw [List.foldl_cons, ih, List.map_cons, List.foldl_cons]
      congr 1
      cases change with
      | insert element => exact List.map_append
      | remove element => exact List.map_erase injective elements

end Replaying

/-- A numbered log is recovered from its entries, in whatever order they come, by sorting them. -/
theorem eq_of_numbered {β : Type u} {log sorted : List (ℕ × β)} {start : ℕ}
    (numbered : log.map Prod.fst = List.range' start log.length) (perm : sorted.Perm log)
    (ordered : sorted.Pairwise fun entry later => entry.1 ≤ later.1) : sorted = log := by
  have increasing : log.Pairwise fun entry later => entry.1 < later.1 := by
    rw [← List.pairwise_map (f := Prod.fst) (R := (· < ·)), numbered]
    exact List.pairwise_lt_range'
  have distinct : (log.map Prod.fst).Nodup := by
    rw [numbered]
    exact List.nodup_range'
  refine List.Perm.eq_of_pairwise ?_ ordered (increasing.imp Nat.le_of_lt) perm
  intro entry later inside inside' below above
  exact List.inj_on_of_nodup_map distinct (perm.mem_iff.mp inside) inside'
    (Nat.le_antisymm below above)

end ChangeLog
