import Mathlib.Data.Finmap
import Mathlib.Data.List.Nodup

/-!
# Keyed stores under last-write-wins

A store keeps one value for each key and a write replaces what its key held.  The outcome of many
writes is decided key by key by the last write, so it does not depend on how concurrent runs are
interleaved as long as the runs that write a key end with the same value for it.
-/

namespace KeyedStore

universe u v

variable {κ : Type u} {ν : Type v}

/-- A finite map from keys to values. -/
abbrev Store (κ : Type u) (ν : Type v) := Finmap fun _ : κ => ν

section Writes

variable [DecidableEq κ]

/-- Write a list of entries in order. -/
def putAll (store : Store κ ν) (writes : List (κ × ν)) : Store κ ν :=
  writes.foldl (fun current write => current.insert write.1 write.2) store

/-- The value written last under a key. -/
def lastWrite (key : κ) : List (κ × ν) → Option ν
  | [] => none
  | write :: writes => (lastWrite key writes).or (if write.1 = key then some write.2 else none)

@[simp]
theorem putAll_nil (store : Store κ ν) : putAll store [] = store := rfl

@[simp]
theorem putAll_cons (store : Store κ ν) (write : κ × ν) (writes : List (κ × ν)) :
    putAll store (write :: writes) = putAll (store.insert write.1 write.2) writes := rfl

@[simp]
theorem lastWrite_nil (key : κ) : lastWrite key ([] : List (κ × ν)) = none := rfl

theorem lastWrite_cons (key : κ) (write : κ × ν) (writes : List (κ × ν)) :
    lastWrite key (write :: writes) =
      (lastWrite key writes).or (if write.1 = key then some write.2 else none) := rfl

/-- Only the last write under a key shows. -/
theorem lookup_putAll (store : Store κ ν) (writes : List (κ × ν)) (key : κ) :
    (putAll store writes).lookup key = (lastWrite key writes).or (store.lookup key) := by
  induction writes generalizing store with
  | nil => rfl
  | cons write writes ih =>
      rw [putAll_cons, ih, lastWrite_cons, Option.or_assoc]
      congr 1
      obtain rfl | other := eq_or_ne write.1 key
      · rw [Finmap.lookup_insert, if_pos rfl, Option.some_or]
      · rw [Finmap.lookup_insert_of_ne _ other.symm, if_neg other, Option.none_or]

private theorem mem_putAll {store : Store κ ν} {writes : List (κ × ν)} {key : κ} :
    key ∈ putAll store writes ↔ key ∈ writes.map Prod.fst ∨ key ∈ store := by
  induction writes generalizing store with
  | nil => simp
  | cons write writes ih =>
      rw [putAll_cons, ih, Finmap.mem_insert, List.map_cons, List.mem_cons, ← or_assoc,
        or_comm (a := key ∈ writes.map Prod.fst)]

private theorem keys_putAll (writes : List (κ × ν)) :
    (putAll (∅ : Store κ ν) writes).keys = (writes.map Prod.fst).toFinset := by
  ext key
  rw [Finmap.mem_keys, mem_putAll, List.mem_toFinset]
  simp [Finmap.notMem_empty]

/-- As many keys are stored as written if and only if no key is written twice. -/
theorem card_filter_keys_putAll (writes : List (κ × ν)) (belongs : κ → Bool) :
    ((putAll (∅ : Store κ ν) writes).keys.filter (belongs ·)).card =
        ((writes.map Prod.fst).filter belongs).length ↔
      ((writes.map Prod.fst).filter belongs).Nodup := by
  rw [keys_putAll, ← List.toFinset_filter, List.card_toFinset, ← List.dedup_eq_self]
  exact ⟨(List.dedup_sublist _).eq_of_length, congrArg List.length⟩

theorem lastWrite_eq_none {key : κ} {writes : List (κ × ν)} :
    lastWrite key writes = none ↔ ∀ write ∈ writes, write.1 ≠ key := by
  induction writes with
  | nil => simp
  | cons write writes ih => simp [lastWrite_cons, ih, and_comm]

theorem mem_of_lastWrite {key : κ} {value : ν} {writes : List (κ × ν)}
    (written : lastWrite key writes = some value) : (key, value) ∈ writes := by
  induction writes with
  | nil => contradiction
  | cons write writes ih =>
      rw [lastWrite_cons] at written
      cases later : lastWrite key writes with
      | some last =>
          rw [later, Option.some_or] at written
          exact List.mem_cons_of_mem _ (ih (later.trans written))
      | none =>
          rw [later, Option.none_or, Option.ite_none_right_eq_some] at written
          obtain ⟨rfl, written⟩ := written
          rw [← Option.some.inj written]
          exact List.mem_cons_self

/-- A list holds the wanted records of a store, each once. -/
structure Enumerates (store : Store κ ν) (wanted : ν → Bool) (records : List (κ × ν)) : Prop where
  distinct : (records.map Prod.fst).Nodup
  complete : ∀ key value,
    (key, value) ∈ records ↔ store.lookup key = some value ∧ wanted value = true

/-- Two enumerations differ in their order alone. -/
theorem Enumerates.perm {store : Store κ ν} {wanted : ν → Bool} {records others : List (κ × ν)}
    (enumerates : Enumerates store wanted records) (other : Enumerates store wanted others) :
    records.Perm others := by
  rw [List.perm_ext_iff_of_nodup enumerates.distinct.of_map other.distinct.of_map]
  rintro ⟨key, value⟩
  rw [enumerates.complete, other.complete]

/-- Wanted writes under keys of their own are all stored, and no other wanted record is. -/
theorem enumerates_putAll {writes : List (κ × ν)} {wanted : ν → Bool}
    (distinct : ((writes.filter fun write => wanted write.2).map Prod.fst).Nodup)
    (apart : ∀ write ∈ writes, ∀ other ∈ writes, write.1 = other.1 →
      wanted write.2 = wanted other.2) :
    Enumerates (putAll ∅ writes) wanted (writes.filter fun write => wanted write.2) := by
  have lookup_eq (key : κ) : (putAll (∅ : Store κ ν) writes).lookup key = lastWrite key writes := by
    rw [lookup_putAll, Finmap.lookup_empty, Option.or_none]
  refine ⟨distinct, fun key value => ?_⟩
  rw [lookup_eq, List.mem_filter]
  constructor
  · rintro ⟨written, is_wanted⟩
    refine ⟨?_, is_wanted⟩
    cases last_eq : lastWrite key writes with
    | none => exact absurd rfl (lastWrite_eq_none.mp last_eq _ written)
    | some last =>
        have last_written := mem_of_lastWrite last_eq
        have same : (key, last) = (key, value) := by
          apply List.inj_on_of_nodup_map distinct
          · rw [List.mem_filter, apart _ last_written _ written rfl]
            exact ⟨last_written, is_wanted⟩
          · exact List.mem_filter.mpr ⟨written, is_wanted⟩
          · rfl
        rw [(Prod.mk.inj same).2]
  · rintro ⟨last_eq, is_wanted⟩
    exact ⟨mem_of_lastWrite last_eq, is_wanted⟩

/-- The writes that stay: no later one goes under their key. -/
def keptWrites : List (κ × ν) → List (κ × ν)
  | [] => []
  | write :: writes =>
      if write.1 ∈ writes.map Prod.fst then keptWrites writes else write :: keptWrites writes

/-- The writes that a later one replaces. -/
def replacedWrites : List (κ × ν) → List (κ × ν)
  | [] => []
  | write :: writes =>
      if write.1 ∈ writes.map Prod.fst then write :: replacedWrites writes
      else replacedWrites writes

/-- Every write stays or is replaced. -/
theorem perm_kept_replaced (writes : List (κ × ν)) :
    (keptWrites writes ++ replacedWrites writes).Perm writes := by
  induction writes with
  | nil => exact .nil
  | cons write writes ih =>
      rw [keptWrites, replacedWrites]
      split
      · exact List.perm_middle.trans (ih.cons write)
      · exact ih.cons write

/-- A write stays exactly if it is the last under its key. -/
theorem mem_keptWrites {key : κ} {value : ν} {writes : List (κ × ν)} :
    (key, value) ∈ keptWrites writes ↔ lastWrite key writes = some value := by
  induction writes with
  | nil => simp [keptWrites]
  | cons write writes ih =>
      obtain ⟨written, now⟩ := write
      rw [keptWrites, lastWrite_cons]
      split
      · rename_i again
        rw [ih]
        cases later : lastWrite key writes with
        | some last => rw [Option.some_or]
        | none =>
            obtain ⟨other, member, same⟩ := List.mem_map.mp again
            have differs : written ≠ key := fun here =>
              lastWrite_eq_none.mp later other member (same.trans here)
            rw [if_neg differs, Option.or_none]
      · rename_i fresh
        rw [List.mem_cons, ih]
        rcases eq_or_ne written key with rfl | differs
        · have no_write : lastWrite written writes = none := by
            rw [lastWrite_eq_none]
            intro other member same
            exact fresh (List.mem_map.mpr ⟨other, member, same⟩)
          rw [no_write, if_pos rfl, Option.none_or, Option.some_inj]
          simp [eq_comm]
        · rw [if_neg differs, Option.or_none]
          simp [differs.symm]

private theorem nodup_keptWrites (writes : List (κ × ν)) :
    ((keptWrites writes).map Prod.fst).Nodup := by
  induction writes with
  | nil => exact List.nodup_nil
  | cons write writes ih =>
      rw [keptWrites]
      split
      · exact ih
      · rename_i fresh
        refine List.nodup_cons.mpr ⟨fun member => fresh ?_, ih⟩
        obtain ⟨⟨key, value⟩, kept, same⟩ := List.mem_map.mp member
        exact List.mem_map.mpr ⟨_, mem_of_lastWrite (mem_keptWrites.mp kept), same⟩

/-- The store holds exactly the writes that stay. -/
theorem enumerates_keptWrites (writes : List (κ × ν)) (wanted : ν → Bool) :
    Enumerates (putAll ∅ writes) wanted
      ((keptWrites writes).filter fun write => wanted write.2) where
  distinct := (List.filter_sublist.map Prod.fst).nodup (nodup_keptWrites writes)
  complete key value := by
    rw [List.mem_filter, mem_keptWrites, lookup_putAll, Finmap.lookup_empty, Option.or_none]

end Writes

/-- Some runs are merged into one sequence that keeps the order within each run. -/
inductive Interleaves {α : Type u} : List (List α) → List α → Prop
  | done {runs : List (List α)} : (∀ run ∈ runs, run = []) → Interleaves runs []
  | step {front back : List (List α)} {first : α} {rest merged : List α} :
      Interleaves (front ++ rest :: back) merged →
      Interleaves (front ++ (first :: rest) :: back) (first :: merged)

namespace Interleaves

theorem append_left {α : Type u} {runs : List (List α)} {merged : List α} (run : List α)
    (interleaves : Interleaves runs merged) : Interleaves (run :: runs) (run ++ merged) := by
  induction run with
  | nil =>
      induction interleaves with
      | done finished => exact .done (List.forall_mem_cons.mpr ⟨rfl, finished⟩)
      | @step front back first rest merged _ ih => exact @step _ ([] :: front) back first rest _ ih
  | cons first run ih => exact @step _ [] runs first run _ ih

theorem flatten {α : Type u} (runs : List (List α)) : Interleaves runs runs.flatten := by
  induction runs with
  | nil => exact .done (by simp)
  | cons run runs ih => exact ih.append_left run

theorem mem_iff {α : Type u} {runs : List (List α)} {merged : List α} {item : α}
    (interleaves : Interleaves runs merged) : item ∈ merged ↔ ∃ run ∈ runs, item ∈ run := by
  induction interleaves with
  | done finished =>
      refine iff_of_false List.not_mem_nil ?_
      rintro ⟨run, inside, member⟩
      rw [finished run inside] at member
      contradiction
  | @step front back first rest merged _ ih =>
      rw [List.mem_cons, ih]
      simp only [List.mem_append, List.mem_cons, or_and_right, exists_or, exists_eq_left]
      exact or_left_comm.trans (or_congr_right or_assoc.symm)

variable [DecidableEq κ] {runs : List (List (κ × ν))} {merged : List (κ × ν)}

/-- A key is left alone if and only if every run leaves it alone. -/
theorem lastWrite_eq_none_iff {key : κ} (interleaves : Interleaves runs merged) :
    lastWrite key merged = none ↔ ∀ run ∈ runs, lastWrite key run = none := by
  induction interleaves with
  | done finished =>
      refine ⟨fun _ run inside => ?_, fun _ => rfl⟩
      rw [finished run inside, lastWrite_nil]
  | @step front back first rest merged _ ih =>
      simp only [List.forall_mem_append, List.forall_mem_cons] at ih ⊢
      rw [lastWrite_cons, lastWrite_cons, Option.or_eq_none_iff, Option.or_eq_none_iff, ih]
      exact ⟨fun ⟨⟨before, tail, after⟩, head⟩ => ⟨before, ⟨tail, head⟩, after⟩,
        fun ⟨before, ⟨tail, head⟩, after⟩ => ⟨⟨before, tail, after⟩, head⟩⟩

/-- What is written last under a key is what some run writes last under it. -/
theorem exists_run_of_lastWrite {key : κ} {value : ν} (interleaves : Interleaves runs merged)
    (written : lastWrite key merged = some value) :
    ∃ run ∈ runs, lastWrite key run = some value := by
  induction interleaves with
  | done finished => contradiction
  | @step front back first rest merged interleaves ih =>
      rw [lastWrite_cons] at written
      cases later : lastWrite key merged with
      | some last =>
          rw [later, Option.some_or] at written
          obtain ⟨run, inside, wrote⟩ := ih (later.trans written)
          rw [List.mem_append, List.mem_cons] at inside
          obtain before | rfl | after := inside
          · exact ⟨run, List.mem_append_left _ before, wrote⟩
          · refine ⟨first :: run, by simp, ?_⟩
            rw [lastWrite_cons, wrote, Option.some_or]
          · exact ⟨run, by simp [after], wrote⟩
      | none =>
          -- The run that goes first writes the key now and nobody writes it any more.
          have unwritten := interleaves.lastWrite_eq_none_iff.mp later
          refine ⟨first :: rest, by simp, ?_⟩
          rw [lastWrite_cons, unwritten rest (by simp), ← written, later]

/-- Interleavings of runs that agree on what they write last leave the same store. -/
theorem putAll_eq {runs' : List (List (κ × ν))} {merged' : List (κ × ν)} (store : Store κ ν)
    (interleaves : Interleaves runs merged) (interleaves' : Interleaves runs' merged')
    (same : ∀ run, run ∈ runs ↔ run ∈ runs')
    (agree : ∀ key, ∀ run ∈ runs, ∀ other ∈ runs, ∀ value ∈ lastWrite key run,
      ∀ last ∈ lastWrite key other, value = last) :
    putAll store merged = putAll store merged' := by
  refine Finmap.ext_lookup fun key => ?_
  rw [lookup_putAll, lookup_putAll]
  congr 1
  cases written : lastWrite key merged with
  | none =>
      refine Eq.symm (interleaves'.lastWrite_eq_none_iff.mpr fun run inside => ?_)
      exact interleaves.lastWrite_eq_none_iff.mp written run ((same run).mpr inside)
  | some value =>
      obtain ⟨run, inside, wrote⟩ := interleaves.exists_run_of_lastWrite written
      cases written' : lastWrite key merged' with
      | none =>
          have silent := interleaves'.lastWrite_eq_none_iff.mp written' run
            ((same run).mp inside)
          rw [wrote] at silent
          contradiction
      | some last =>
          obtain ⟨other, inside', wrote'⟩ := interleaves'.exists_run_of_lastWrite written'
          exact congrArg some
            (agree key run inside other ((same other).mpr inside') value wrote last wrote')

end Interleaves

end KeyedStore
